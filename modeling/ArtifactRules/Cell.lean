import ArtifactRules.Text.Blank
import ArtifactRules.Text.Digits
import ArtifactRules.Rule

/-! The cells of a rule sheet. A cell is normalized first; each column then has a reader from
normalized text to a condition, where the empty text is no condition in every column but the
outcome. A reader's fault carries the text at fault. -/

namespace ArtifactRules

/-- In sheet order. -/
inductive Column
  | categories | level | tier | primary | secondary | outcome
  deriving DecidableEq, Repr

namespace Column

def label : Column → String
  | categories => "圣遗物类型条件"
  | level => "等级条件"
  | tier => "星级条件"
  | primary => "主词条条件"
  | secondary => "副词条条件"
  | outcome => "期望结果"

def all : List Column :=
  [categories, level, tier, primary, secondary, outcome]

/-- The header row. -/
def labels : List String :=
  all.map label

/-- The position in a row, from zero. -/
def index : Column → Nat
  | categories => 0
  | level => 1
  | tier => 2
  | primary => 3
  | secondary => 4
  | outcome => 5

@[simp] theorem all_index (c : Column) : all[c.index]? = some c := by
  cases c <;> rfl

end Column

inductive CellFault
  | badCategory (text : String)
  | badComparator (text : String)
  | badNumber (text : String)
  | badSeparator (text : String)
  | severalPrimaries (count : Nat)
  | missingWord (words : Words)
  | badAttribute (text : String)
  | badOutcome (text : String)
  deriving DecidableEq, Repr

namespace CellFault

def message : CellFault → String
  | badCategory text => "[" ++ text ++ "] is not a valid artifact category"
  | badComparator text => "[" ++ text ++ "] is not a supported comparator"
  | badNumber text => "[" ++ text ++ "] is not a number"
  | badSeparator text => "[" ++ text ++ "] uses a separator other than ','"
  | severalPrimaries count =>
    "the primary attribute takes a single condition, found " ++ toString count
  | missingWord words =>
    "each condition must start with [" ++ words.positive ++ "] or [" ++ words.negative ++ "]"
  | badAttribute text => "[" ++ text ++ "] is not a valid attribute"
  | badOutcome text => "[" ++ text ++ "] is not a valid outcome"

/-- How to mend the cell. -/
def hint : CellFault → String
  | badCategory _ => "valid categories are: " ++ Text.join ", " (Labelled.labels Category)
  | badComparator _ => "numbers must be written as >N or <N, e.g. >4"
  | badNumber _ => "write a whole number after the comparator"
  | badSeparator _ => "separate conditions with ',' (a full-width '，' also works)"
  | severalPrimaries _ => "an artifact has one primary attribute, so give one condition"
  | missingWord words =>
    "prefix each attribute with " ++ words.positive ++ " or " ++ words.negative ++ ", e.g. "
      ++ words.positive ++ Attribute.energyRecharge.label
  | badAttribute _ => "valid attributes are: " ++ Text.join ", " (Labelled.labels Attribute)
  | badOutcome _ =>
    "the outcome is either " ++ Outcome.keep.label ++ " or " ++ Outcome.discard.label

end CellFault

namespace Cell

def separator : Char := ','

def fullWidthSeparator : Char := '，'

/-- Blank characters go, and a full-width comma becomes the separator. -/
def normalizeChars (cs : List Char) : List Char :=
  (cs.filter fun c => !Text.isBlank c).map fun c => if c = fullWidthSeparator then separator else c

def normalize (cell : String) : String :=
  String.ofList (normalizeChars cell.toList)

@[simp] theorem normalize_empty : normalize "" = "" := rfl

abbrev Reading (α : Type) := Except CellFault α

/-- The empty cell is no condition. -/
def optional {α : Type} (read : String → Reading α) (cell : String) : Reading (Option α) :=
  if cell = "" then .ok none else some <$> read cell

def category (token : String) : Reading Category :=
  match Category.ofLabel? token with
  | some c => .ok c
  | none => .error (.badCategory token)

def categories : String → Reading (Option (List Category)) :=
  optional fun cell => (Text.fields separator cell).mapM category

/-- A comparator and a number, which is judged first; both are split before the first digit. -/
def boundChars (cs : List Char) : Reading Bound :=
  let sign := String.ofList (cs.takeWhile fun c => !Text.isDigit c)
  let number := cs.dropWhile fun c => !Text.isDigit c
  if number = [] then .error (.badNumber (String.ofList cs))
  else match Text.natural? number with
    | none => .error (.badNumber (String.ofList number))
    | some n =>
      if n < UInt32.size then
        match Comparator.ofSymbol? sign with
        | some comparator => .ok ⟨comparator, UInt32.ofNat n⟩
        | none => .error (.badComparator sign)
      else .error (.badNumber (String.ofList number))

/-- The level and tier columns. -/
def bound : String → Reading (Option Bound) :=
  optional fun cell => boundChars cell.toList

/-- The ideographs U+4E00 to U+9FFF. -/
def isIdeograph (c : Char) : Bool :=
  0x4E00 ≤ c.toNat && c.toNat ≤ 0x9FFF

/-- What follows `word`, if the token begins with it. -/
def afterWord? (word token : String) : Option String :=
  (word.toList.isPrefixOf? token.toList).map String.ofList

def kind (label : String) : Reading Attribute :=
  match Attribute.ofLabel? label with
  | some a => .ok a
  | none => .error (.badAttribute label)

/-- The negative word is tried first. -/
def predicate (words : Words) (token : String) : Reading Predicate :=
  match afterWord? words.negative token with
  | some label => (⟨·, .negative⟩) <$> kind label
  | none =>
    match afterWord? words.positive token with
    | some label => (⟨·, .positive⟩) <$> kind label
    | none => .error (.missingWord words)

def predicates (words : Words) (cell : String) : Reading (List Predicate) :=
  if cell.toList.all fun c => isIdeograph c || c == separator then
    (Text.fields separator cell).mapM (predicate words)
  else .error (.badSeparator cell)

def onePredicate (words : Words) (cell : String) : Reading Predicate := do
  match ← predicates words cell with
  | [p] => .ok p
  | ps => .error (.severalPrimaries ps.length)

def primary : String → Reading (Option Predicate) :=
  optional (onePredicate .primary)

def secondary : String → Reading (Option (List Predicate)) :=
  optional (predicates .secondary)

def outcome (cell : String) : Reading Outcome :=
  match Outcome.ofLabel? cell with
  | some o => .ok o
  | none => .error (.badOutcome cell)

end Cell
end ArtifactRules
