/-! The shortest decimal of a double: of the decimals that round to it, one with the fewest digits,
and of those the nearest. A finite double is decoded into `m * 2 ^ q`, and all comparisons are made
on natural numbers. -/

namespace ArtifactRules
namespace Text

def twoTo (n : Nat) : Nat :=
  Nat.pow 2 n

def tenTo (n : Nat) : Nat :=
  Nat.pow 10 n

/-- A positive double `value / denominator` with the ends of the interval that rounds to it. -/
structure Rounding where
  value : Nat
  low : Nat
  high : Nat
  denominator : Nat
  /-- Whether the ends round to it too. -/
  closed : Bool

/-- The significand is `m`, the exponent `q`; below a power of two the gap is half as wide. -/
def Rounding.ofParts (m : Nat) (q : Int) : Rounding :=
  let scale := twoTo (q - 2).toNat
  let narrow := m = twoTo 52 ∧ -1074 < q
  { value := 4 * m * scale
    low := (4 * m - if narrow then 1 else 2) * scale
    high := (4 * m + 2) * scale
    denominator := twoTo (2 - q).toNat
    closed := m % 2 == 0 }

/-- A decimal `digits * 10 ^ exponent`. -/
structure Decimal where
  digits : Nat
  exponent : Int
  deriving DecidableEq, Repr

namespace Rounding

/-- Whether `c * 10 ^ e` rounds to the double. -/
def contains (r : Rounding) (c : Nat) (e : Int) : Bool :=
  let point := c * tenTo e.toNat * r.denominator
  let low := r.low * tenTo (-e).toNat
  let high := r.high * tenTo (-e).toNat
  if r.closed then low ≤ point && point ≤ high else low < point && point < high

/-- The neighbours of the double on the grid of multiples of `10 ^ e`; the one below comes first. -/
def below (r : Rounding) (e : Int) : Nat :=
  r.value * tenTo (-e).toNat / (r.denominator * tenTo e.toNat)

/-- Twice the double, against the sum of its neighbours on the grid; a tie goes to the even one. -/
def nearerBelow (r : Rounding) (e : Int) : Bool :=
  let b := r.below e
  let twice := 2 * r.value * tenTo (-e).toNat
  let middle := (2 * b + 1) * (r.denominator * tenTo e.toNat)
  twice < middle || (twice == middle && b % 2 == 0)

def onGrid? (r : Rounding) (e : Int) : Option Decimal :=
  let b := r.below e
  match r.contains b e, r.contains (b + 1) e with
  | true, true => some ⟨if r.nearerBelow e then b else b + 1, e⟩
  | true, false => some ⟨b, e⟩
  | false, true => some ⟨b + 1, e⟩
  | false, false => none

/-- The exponent `k` with `10 ^ k ≤ value < 10 ^ (k + 1)`. -/
def magnitude (r : Rounding) : Int :=
  if r.denominator ≤ r.value then (Nat.toDigits 10 (r.value / r.denominator)).length - 1
  else
    let zeros := (List.range 400).find? fun j => r.denominator ≤ r.value * tenTo (j + 1)
    .negSucc (zeros.getD 0)

/-- Seventeen digits always suffice, so the first grid with a hit is among these. -/
def shortest (r : Rounding) : Decimal :=
  let top := r.magnitude
  ((List.range 17).findSome? fun (n : Nat) => r.onGrid? (top - n)).getD ⟨r.below (top - 16), top - 16⟩

end Rounding

/-- How a decimal is written out. -/
structure DecimalStyle where
  /-- The greatest number of places before the point, and of zeros after it, that is written in
  full; beyond them the text has an exponent. -/
  places : Int
  zeros : Int
  /-- The sign before an exponent that is not negative. -/
  plus : String

/-- Numbers in messages: in full from `0.00001` up to sixteen places. -/
def messageStyle : DecimalStyle := ⟨16, 4, "+"⟩

def zeroDigits (n : Int) : List Char :=
  List.replicate n.toNat '0'

/-- Digits without zeros at the end, the first `places` of them before the point. -/
def DecimalStyle.write (style : DecimalStyle) (ds : List Char) (places : Int) : List Char :=
  let length : Int := ds.length
  if length ≤ places ∧ places ≤ style.places then ds ++ zeroDigits (places - length) ++ ['.', '0']
  else if 0 < places ∧ places ≤ style.places then
    ds.take places.toNat ++ '.' :: ds.drop places.toNat
  else if -style.zeros ≤ places ∧ places ≤ 0 then '0' :: '.' :: zeroDigits (-places) ++ ds
  else
    let exponent := places - 1
    ds.take 1 ++ (if ds.length ≤ 1 then [] else '.' :: ds.drop 1) ++ 'e' ::
      ((if exponent < 0 then "-" else style.plus) ++ toString exponent.natAbs).toList

def dropZeros (ds : List Char) : List Char :=
  (ds.reverse.dropWhile (· == '0')).reverse

def Decimal.write (d : Decimal) (style : DecimalStyle) : List Char :=
  let ds := Nat.toDigits 10 d.digits
  style.write (dropZeros ds) (ds.length + d.exponent)

/-- The text of a finite double in a message. -/
def floating (x : Float) : String :=
  let bits : Nat := x.toBits.toNat
  let sign := if bits < twoTo 63 then "" else "-"
  let exponent : Nat := bits / twoTo 52 % twoTo 11
  let fraction : Nat := bits % twoTo 52
  let magnitude :=
    if exponent = 0 ∧ fraction = 0 then ['0', '.', '0']
    else
      let r := if exponent = 0 then Rounding.ofParts fraction (-1074)
        else Rounding.ofParts (twoTo 52 + fraction) ((exponent : Int) - 1075)
      r.shortest.write messageStyle
  sign ++ String.ofList magnitude

end Text
end ArtifactRules
