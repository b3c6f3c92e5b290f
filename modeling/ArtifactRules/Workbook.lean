import ArtifactRules.Sheet

/-! Workbooks, and the choice of the sheet that holds the rules. -/

namespace ArtifactRules

structure Workbook where
  sheets : List Sheet := []
  deriving DecidableEq, Repr

namespace Workbook

def defaultActiveSheet : String := "Active"

/-- One sheet that holds the header row and nothing else. -/
def template : Workbook :=
  ⟨[⟨defaultActiveSheet, [Column.labels.map some]⟩]⟩

/-- The only sheet, whatever its name; of several, the first with the active name. -/
def select (workbook : Workbook) (active : String) : Except RuleError Sheet :=
  match workbook.sheets with
  | [] => .error .noSheets
  | [sheet] => .ok sheet
  | sheets =>
    match sheets.find? (·.name == active) with
    | some sheet => .ok sheet
    | none => .error (.missingSheet active (sheets.map Sheet.name))

def rules (workbook : Workbook) (active : String) : Except RuleError RuleSet := do
  let sheet ← workbook.select active
  sheet.rules

end Workbook
end ArtifactRules
