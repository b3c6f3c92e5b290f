import ArtifactRules.RuleError

/-! Sheets of rules. The first row is the header; every later row that is not blank is a rule, and
the first faulty cell, in the order the columns are judged, is the error of the whole sheet. -/

namespace ArtifactRules

/-- A missing cell is `none` or lies past the end. -/
abbrev Row := List (Option String)

namespace Row

/-- Empty texts become missing cells. -/
def ofTexts (texts : List String) : Row :=
  texts.map fun s => if s = "" then none else some s

def cell (row : Row) (column : Column) : String :=
  (row[column.index]?.join).getD ""

def normalized (row : Row) (column : Column) : String :=
  Cell.normalize (row.cell column)

/-- Cells past the last column do not count. -/
def isBlank (row : Row) : Bool :=
  Column.all.all fun column => row.normalized column == ""

theorem isBlank_iff (row : Row) : row.isBlank = true ↔ ∀ column, row.normalized column = "" := by
  simp only [isBlank, List.all_eq_true, beq_iff_eq]
  exact ⟨fun h column => h column (by cases column <;> decide), fun h column _ => h column⟩

/-- Trimmed, with the empty cells at the end dropped. -/
def headerTexts (row : Row) : List String :=
  ((row.map fun cell => Text.trim (cell.getD "")).reverse.dropWhile (· == "")).reverse

def checkHeader (row : Row) : Except RuleError Unit :=
  if row.headerTexts = Column.labels then .ok () else .error (.badHeader row.headerTexts)

/-- The reading of one cell, with its place put into a fault. -/
def readAt {α : Type} (row : Row) (n : Nat) (column : Column) (read : String → Cell.Reading α) :
    Except RuleError α :=
  (read (row.normalized column)).mapError (.badCell n column)

/-- The rule on row number `n`. The tier is judged before the level. -/
def rule (row : Row) (n : Nat) : Except RuleError Rule := do
  let categories ← row.readAt n .categories Cell.categories
  let tier ← row.readAt n .tier Cell.bound
  let level ← row.readAt n .level Cell.bound
  let primary ← row.readAt n .primary Cell.primary
  let secondary ← row.readAt n .secondary Cell.secondary
  let outcome ← row.readAt n .outcome Cell.outcome
  return { categories, tier, level, primary, secondary, outcome, row := n }

end Row

structure Sheet where
  name : String
  rows : List Row := []
  deriving DecidableEq, Repr

namespace Sheet

def firstDataRow : Nat := 2

/-- The rules of data rows numbered from `n`; blank rows are skipped but counted. -/
def rulesFrom (n : Nat) : List Row → Except RuleError RuleSet
  | [] => .ok []
  | row :: rows =>
    if row.isBlank then rulesFrom (n + 1) rows
    else do
      let rule ← row.rule n
      let rules ← rulesFrom (n + 1) rows
      return rule :: rules

def rules (sheet : Sheet) : Except RuleError RuleSet :=
  match sheet.rows with
  | [] => .error (.badHeader [])
  | header :: data => do
    header.checkHeader
    rulesFrom firstDataRow data

/-- The numbers of the blank rows that reading passes before it ends or meets a faulty row. -/
def blanksFrom (n : Nat) : List Row → List Nat
  | [] => []
  | row :: rows =>
    if row.isBlank then n :: blanksFrom (n + 1) rows
    else match row.rule n with
      | .ok _ => blanksFrom (n + 1) rows
      | .error _ => []

def skippedRows (sheet : Sheet) : List Nat :=
  match sheet.rows with
  | [] => []
  | header :: data =>
    match header.checkHeader with
    | .ok _ => blanksFrom firstDataRow data
    | .error _ => []

end Sheet
end ArtifactRules
