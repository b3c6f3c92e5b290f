/-! Decimal digits, ASCII and full-width, and the number that a run of them writes. -/

namespace ArtifactRules
namespace Text

/-- An input method in full-width mode types the second run. -/
def digit? (c : Char) : Option Nat :=
  if 0x30 ≤ c.toNat ∧ c.toNat ≤ 0x39 then some (c.toNat - 0x30)
  else if 0xFF10 ≤ c.toNat ∧ c.toNat ≤ 0xFF19 then some (c.toNat - 0xFF10)
  else none

def isDigit (c : Char) : Bool :=
  (digit? c).isSome

theorem digit?_lt {c : Char} {d : Nat} (h : digit? c = some d) : d < 10 := by
  simp only [digit?] at h
  split at h
  · simp only [Option.some.injEq] at h; omega
  · split at h
    · simp only [Option.some.injEq] at h; omega
    · exact absurd h (by simp)

/-- Most significant digit first. -/
def digitsValue (ds : List Nat) : Nat :=
  ds.foldl (fun n d => 10 * n + d) 0

@[simp] theorem digitsValue_nil : digitsValue [] = 0 := rfl

@[simp] theorem digitsValue_concat (ds : List Nat) (d : Nat) :
    digitsValue (ds ++ [d]) = 10 * digitsValue ds + d := by
  simp [digitsValue]

/-- The number written by a text of digits only. -/
def natural? (cs : List Char) : Option Nat :=
  (cs.mapM digit?).map digitsValue

example : natural? "007".toList = some 7 := by decide
example : natural? "1６".toList = some 16 := by decide
example : natural? "4级".toList = none := by decide

end Text
end ArtifactRules
