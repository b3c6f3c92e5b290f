import ArtifactRules.Text.Fields
import ArtifactRules.Artifact

/-! Conditions on an artifact: a bound on a number, and predicates on attributes. The words a sheet
writes before an attribute are fixed here, one pair for the primary attribute and one for the
secondary ones. -/

namespace ArtifactRules

inductive Comparator
  | greater | less | equal
  deriving DecidableEq, Repr

namespace Comparator

def symbol : Comparator → String
  | greater => ">"
  | less => "<"
  | equal => "="

/-- A sheet can only write `greater` and `less`. -/
def writable : List Comparator :=
  [greater, less]

def ofSymbol? (s : String) : Option Comparator :=
  writable.find? fun c => c.symbol == s

def holds (value limit : UInt32) : Comparator → Bool
  | greater => limit < value
  | less => value < limit
  | equal => value == limit

end Comparator

structure Bound where
  comparator : Comparator
  limit : UInt32
  deriving DecidableEq, Repr

namespace Bound

def holds (b : Bound) (value : UInt32) : Bool :=
  b.comparator.holds value b.limit

theorem holds_iff (b : Bound) (value : UInt32) :
    b.holds value = true ↔
      match b.comparator with
      | .greater => b.limit.toNat < value.toNat
      | .less => value.toNat < b.limit.toNat
      | .equal => value.toNat = b.limit.toNat := by
  obtain ⟨comparator, limit⟩ := b
  cases comparator <;>
    simp [holds, Comparator.holds, UInt32.lt_iff_toNat_lt, UInt32.toNat_inj]

def text (b : Bound) : String :=
  b.comparator.symbol ++ toString b.limit

end Bound

inductive Polarity
  | positive | negative
  deriving DecidableEq, Repr

structure Predicate where
  kind : Attribute
  polarity : Polarity
  deriving DecidableEq, Repr

namespace Predicate

/-- On the one primary attribute. -/
def holdsFor (p : Predicate) (kind : Attribute) : Bool :=
  match p.polarity with
  | .positive => kind == p.kind
  | .negative => kind != p.kind

/-- Among the secondary attributes: a positive predicate needs one to be the attribute, a negative
one needs none to be. -/
def holdsAmong (p : Predicate) (kinds : List Attribute) : Bool :=
  match p.polarity with
  | .positive => kinds.any (· == p.kind)
  | .negative => kinds.all (· != p.kind)

end Predicate

/-- The two words a column puts before an attribute. -/
structure Words where
  positive : String
  negative : String
  deriving DecidableEq, Repr

namespace Words

def primary : Words := ⟨"是", "不是"⟩

def secondary : Words := ⟨"有", "没有"⟩

def word (w : Words) : Polarity → String
  | .positive => w.positive
  | .negative => w.negative

def text (w : Words) (p : Predicate) : String :=
  w.word p.polarity ++ p.kind.label

end Words
end ArtifactRules
