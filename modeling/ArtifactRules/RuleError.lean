import ArtifactRules.Cell

/-! What can be wrong with a workbook of rules: its sheets, a sheet's header, or one cell. Only a
cell has a place. -/

namespace ArtifactRules

inductive RuleError
  | noSheets
  | missingSheet (wanted : String) (found : List String)
  | badHeader (found : List String)
  /-- Rows are counted from one, the header being the first. -/
  | badCell (row : Nat) (column : Column) (fault : CellFault)
  deriving DecidableEq, Repr

namespace RuleError

def place? : RuleError → Option (Nat × Column)
  | badCell row column _ => some (row, column)
  | _ => none

/-- What is wrong, without the place. -/
def cause : RuleError → String
  | noSheets => "the workbook has no sheets"
  | missingSheet wanted found =>
    "the workbook has several sheets (" ++ Text.join ", " found ++ ") and none is named " ++ wanted
  | badHeader found =>
    "the header row does not match the template: found [" ++ Text.join " | " found ++ "]"
  | badCell _ _ fault => fault.message

def hint : RuleError → String
  | noSheets => "add at least one sheet to the workbook"
  | missingSheet wanted _ => "rename the sheet you want to use to " ++ wanted
  | badHeader _ => "the header row must be: " ++ Text.join " | " Column.labels
  | badCell _ _ fault => fault.hint

def message (e : RuleError) : String :=
  match e.place? with
  | some (row, column) =>
    "row " ++ toString row ++ ", column " ++ column.label ++ ": " ++ e.cause
  | none => e.cause

end RuleError
end ArtifactRules
