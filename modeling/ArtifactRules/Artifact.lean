import ArtifactRules.Text.Fields
import ArtifactRules.Vocabulary

/-! Artifact records. An artifact carries at most four secondary attributes, no two of one kind; a
`Record` is what was handed over, an `Artifact` a record that meets this, and `Record.check` is the
only way from one to the other. -/

namespace ArtifactRules

/-- One attribute line. The value is kept as it was read and only ever shown. -/
structure Stat where
  kind : Attribute
  value : String := ""
  deriving DecidableEq, Repr

def Stat.text (stat : Stat) : String :=
  if stat.value = "" then stat.kind.label else stat.kind.label ++ "=" ++ stat.value

structure Record where
  name : String := ""
  category : Category
  /-- Star rating. -/
  tier : UInt32
  /-- Upgrade level, zero for a fresh artifact. -/
  level : UInt32 := 0
  primary : Stat
  /-- In the order they were read. -/
  secondary : List Stat := []
  deriving DecidableEq, Repr

namespace Record

def secondaryKinds (r : Record) : List Attribute :=
  r.secondary.map Stat.kind

end Record

def maxSecondary : Nat := 4

structure Artifact extends Record where
  secondary_length_le : toRecord.secondary.length ≤ maxSecondary
  secondaryKinds_nodup : toRecord.secondaryKinds.Nodup
  deriving DecidableEq, Repr

inductive RecordFault
  | tooManySecondary (found : Nat)
  | repeatedSecondary (kind : Attribute)
  deriving DecidableEq, Repr

namespace RecordFault

def reason : RecordFault → String
  | tooManySecondary found =>
    "an artifact has at most " ++ toString maxSecondary ++ " secondary attributes, found "
      ++ toString found
  | repeatedSecondary kind => "secondary attribute " ++ kind.label ++ " appears more than once"

def message (fault : RecordFault) : String :=
  "Invalid item: " ++ fault.reason

end RecordFault

/-- The kind at the first place whose kind is in `seen` or occurs earlier in the list. -/
def firstRepeat? (seen : List Attribute) : List Attribute → Option Attribute
  | [] => none
  | kind :: kinds => if kind ∈ seen then some kind else firstRepeat? (kind :: seen) kinds

theorem firstRepeat?_eq_none_iff (seen kinds : List Attribute) :
    firstRepeat? seen kinds = none ↔ kinds.Nodup ∧ ∀ kind ∈ kinds, kind ∉ seen := by
  induction kinds generalizing seen with
  | nil => simp [firstRepeat?]
  | cons kind kinds ih =>
    by_cases h : kind ∈ seen
    · simp [firstRepeat?, h]
    · simp only [firstRepeat?, h, if_false, ih, List.nodup_cons, List.mem_cons, not_or]
      constructor
      · rintro ⟨hn, hs⟩
        exact ⟨⟨fun hk => (hs kind hk).1 rfl, hn⟩,
          fun k hk => hk.elim (fun e => e ▸ h) fun hk => (hs k hk).2⟩
      · rintro ⟨⟨hk, hn⟩, hs⟩
        exact ⟨hn, fun k hmem => ⟨fun e => hk (e ▸ hmem), hs k (Or.inr hmem)⟩⟩

/-- The number of secondary attributes is checked before repetitions. -/
def Record.check (r : Record) : Except RecordFault Artifact :=
  if hlen : r.secondary.length ≤ maxSecondary then
    match hrep : firstRepeat? [] r.secondaryKinds with
    | none => .ok ⟨r, hlen, ((firstRepeat?_eq_none_iff [] r.secondaryKinds).1 hrep).1⟩
    | some kind => .error (.repeatedSecondary kind)
  else .error (.tooManySecondary r.secondary.length)

namespace Artifact

@[simp] theorem check_toRecord (a : Artifact) : a.toRecord.check = .ok a := by
  have hrep : firstRepeat? [] a.secondaryKinds = none :=
    (firstRepeat?_eq_none_iff [] a.secondaryKinds).2 ⟨a.secondaryKinds_nodup, by simp⟩
  unfold Record.check
  rw [dif_pos a.secondary_length_le]
  split
  · rfl
  · rename_i kind h
    rw [hrep] at h
    cases h

def hasSecondary (a : Artifact) (kind : Attribute) : Bool :=
  a.secondaryKinds.contains kind

/-- One line: the name if there is one, category, primary, stars, level, then every secondary. -/
def text (a : Artifact) : String :=
  Text.join " | " <|
    (if a.name = "" then [] else [a.name]) ++
      [a.category.label, a.primary.text, toString a.tier ++ "星", "+" ++ toString a.level] ++
      a.secondary.map Stat.text

end Artifact
end ArtifactRules
