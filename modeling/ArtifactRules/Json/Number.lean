import ArtifactRules.Json.Space
import ArtifactRules.Text.Digits

/-! Numbers of JSON: first the written form, a `Numeral`, then its value. An integer that fits sixty
four bits is exact; any other number is a double, reached from the leading digits by one scaling. -/

namespace ArtifactRules
namespace Json

structure Numeral where
  negative : Bool
  whole : List Nat
  fraction : List Nat := []
  exponent : Option Int := none
  deriving DecidableEq, Repr

def decimalDigit? (c : Char) : Option Nat :=
  if c.toNat < 0x80 then Text.digit? c else none

/-- The digits at the front, and the rest. -/
def digitRun : List Char → List Nat × List Char
  | [] => ([], [])
  | c :: r =>
    match decimalDigit? c with
    | none => ([], c :: r)
    | some d => let (ds, r') := digitRun r; (d :: ds, r')

theorem digitRun_length_le (s : List Char) : (digitRun s).2.length ≤ s.length := by
  induction s with
  | nil => exact Nat.le_refl _
  | cons c r ih =>
    simp only [digitRun]
    split
    · exact Nat.le_refl _
    · exact Nat.le_succ_of_le ih

/-- At least one digit. -/
def digits (s : List Char) : Except Fault (List Nat × List Char) :=
  match digitRun s with
  | ([], []) => .error .unfinished
  | ([], _ :: _) => .error .malformed
  | run => .ok run

theorem digits_length_le {s r : List Char} {ds : List Nat} (h : digits s = .ok (ds, r)) :
    r.length ≤ s.length := by
  have hle := digitRun_length_le s
  unfold digits at h
  split at h
  · exact absurd h (by simp)
  · exact absurd h (by simp)
  · rw [Except.ok.inj h] at hle
    exact hle

def exponentSign : List Char → Bool × List Char
  | [] => (false, [])
  | c :: r => if c = '-' then (true, r) else if c = '+' then (false, r) else (false, c :: r)

theorem exponentSign_length_le (s : List Char) : (exponentSign s).2.length ≤ s.length := by
  unfold exponentSign
  split
  · exact Nat.le_refl _
  · split
    · exact Nat.le_succ _
    · split
      · exact Nat.le_succ _
      · exact Nat.le_refl _

/-- An exponent part, if there is one. -/
def exponentPart (s : List Char) : Except Fault (Option Int × List Char) :=
  match s with
  | [] => .ok (none, [])
  | c :: r =>
    if c = 'e' ∨ c = 'E' then
      match digits (exponentSign r).2 with
      | .error fault => .error fault
      | .ok (ds, r') =>
        let magnitude : Int := Text.digitsValue ds
        .ok (some (if (exponentSign r).1 then -magnitude else magnitude), r')
    else .ok (none, c :: r)

theorem exponentPart_length_le {s r : List Char} {e : Option Int}
    (h : exponentPart s = .ok (e, r)) : r.length ≤ s.length := by
  unfold exponentPart at h
  split at h
  · cases h; exact Nat.le_refl _
  · rename_i c t
    split at h
    · split at h
      · exact absurd h (by simp)
      · rename_i ds t' hd
        have hle := digits_length_le hd
        have hs := exponentSign_length_le t
        cases h
        simp only [List.length_cons]
        omega
    · cases h; exact Nat.le_refl _

/-- A fraction part, if there is one. -/
def fractionPart (s : List Char) : Except Fault (List Nat × List Char) :=
  match s with
  | [] => .ok ([], [])
  | c :: r => if c = '.' then digits r else .ok ([], c :: r)

theorem fractionPart_length_le {s r : List Char} {ds : List Nat}
    (h : fractionPart s = .ok (ds, r)) : r.length ≤ s.length := by
  unfold fractionPart at h
  split at h
  · cases h; exact Nat.le_refl _
  · split at h
    · exact Nat.le_succ_of_le (digits_length_le h)
    · cases h; exact Nat.le_refl _

/-- The whole part: one zero, or digits that do not begin with it. -/
def wholePart (s : List Char) : Except Fault (List Nat × List Char) :=
  match digits s with
  | .error fault => .error fault
  | .ok (0 :: _ :: _, _) => .error .malformed
  | .ok run => .ok run

theorem wholePart_length_lt {s r : List Char} {ds : List Nat} (h : wholePart s = .ok (ds, r)) :
    r.length < s.length := by
  have hdigits : ∀ {s r : List Char} {ds : List Nat}, digits s = .ok (ds, r) →
      r.length < s.length := by
    intro s r ds h
    cases s with
    | nil => exact absurd h (by simp [digits, digitRun])
    | cons c t =>
      have hle := digitRun_length_le t
      simp only [digits, digitRun] at h
      split at h
      · exact absurd h (by simp)
      · exact absurd h (by simp)
      · rename_i hne
        cases hd : decimalDigit? c with
        | none => simp [hd] at hne
        | some d =>
          simp only [hd, Except.ok.injEq, Prod.mk.injEq] at h
          rw [← h.2]
          exact Nat.lt_succ_of_le hle
  unfold wholePart at h
  split at h
  · exact absurd h (by simp)
  · exact absurd h (by simp)
  · rename_i hd
    cases h
    exact hdigits hd

def unsignedNumeral (negative : Bool) (s : List Char) : Except Fault (Numeral × List Char) :=
  match wholePart s with
  | .error fault => .error fault
  | .ok (whole, r) =>
    match fractionPart r with
    | .error fault => .error fault
    | .ok (fraction, r') =>
      (exponentPart r').map (Prod.map (fun exponent => { negative, whole, fraction, exponent }) id)

theorem unsignedNumeral_length_lt {negative : Bool} {s r : List Char} {n : Numeral}
    (h : unsignedNumeral negative s = .ok (n, r)) : r.length < s.length := by
  unfold unsignedNumeral at h
  split at h
  · exact absurd h (by simp)
  · rename_i whole t hw
    have hwhole := wholePart_length_lt hw
    split at h
    · exact absurd h (by simp)
    · rename_i fraction t' hf
      have hfraction := fractionPart_length_le hf
      obtain ⟨exponent, he, -⟩ := exists_of_map_eq_ok h
      have hexponent := exponentPart_length_le he
      omega

def numeral : Reader Numeral where
  read s :=
    match s with
    | [] => .error .unfinished
    | c :: r => if c = '-' then unsignedNumeral true r else unsignedNumeral false (c :: r)
  shorter {s n r} h := by
    split at h
    · exact absurd h (by simp)
    · split at h
      · exact Nat.lt_succ_of_lt (unsignedNumeral_length_lt h)
      · exact unsignedNumeral_length_lt h

inductive Number
  | natural (value : Nat)
  | negative (magnitude : Nat)
  | floating (value : Float)
  deriving DecidableEq, Repr

namespace Number

def found : Number → Found
  | natural value => .natural value
  | negative magnitude => .negative magnitude
  | floating value => .floating value

end Number

namespace Numeral

/-- The leading digits up to sixty four bits, and how many digits follow them. -/
def leading (acc : Nat) : List Nat → Nat × Nat
  | [] => (acc, 0)
  | d :: ds => if 10 * acc + d < UInt64.size then leading (10 * acc + d) ds else (acc, ds.length + 1)

/-- Fraction digits go on while they fit; each lowers the exponent. -/
def withFraction (acc : Nat) (exponent : Int) : List Nat → Nat × Int
  | [] => (acc, exponent)
  | d :: ds =>
    if 10 * acc + d < UInt64.size then withFraction (10 * acc + d) (exponent - 1) ds
    else (acc, exponent)

def tenTo (n : Nat) : Float :=
  Float.ofScientific 1 false n

/-- The doubles of powers of ten end at `10 ^ 308`; smaller quotients are reached in steps. -/
def scaleDown (x : Float) (n : Nat) : Float :=
  if n ≤ 308 then x / tenTo n
  else if x == 0 then x
  else scaleDown (x / tenTo 308) (n - 308)
termination_by n

/-- A product that is too large is no number. -/
def scale? (x : Float) (exponent : Int) : Option Float :=
  if exponent < 0 then some (scaleDown x exponent.natAbs)
  else if exponent ≤ 308 then
    let y := x * tenTo exponent.natAbs
    if y.isInf then none else some y
  else if x == 0 then some x else none

def float? (n : Numeral) : Option Float :=
  let (acc, dropped) := leading 0 n.whole
  let (significand, exponent) := withFraction acc dropped n.fraction
  (scale? (Float.ofNat significand) (exponent + n.exponent.getD 0)).map fun x =>
    if n.negative then -x else x

/-- Zero has no negative integer, and neither have magnitudes above half of the range. -/
def number? (n : Numeral) : Option Number :=
  let (acc, dropped) := leading 0 n.whole
  if dropped = 0 ∧ n.fraction = [] ∧ n.exponent = none then
    if !n.negative then some (.natural acc)
    else if 0 < acc ∧ 2 * acc ≤ UInt64.size then some (.negative acc)
    else n.float?.map .floating
  else n.float?.map .floating

end Numeral

def number : Reader Number :=
  numeral.refine fun n =>
    match n.number? with
    | some x => .ok x
    | none => .error .malformed

end Json
end ArtifactRules
