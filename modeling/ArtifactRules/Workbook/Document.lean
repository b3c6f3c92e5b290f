import ArtifactRules.Json.Document
import ArtifactRules.Json.Shape
import ArtifactRules.Workbook

/-! Workbooks as JSON. A cell is a text or `null`, and an empty text is not `null`. -/

namespace ArtifactRules

open Json (Document Fault Reader Shape required)

namespace Row

def reader : Reader Row :=
  .list (.nullable .text)

def toDocument (row : Row) : Document :=
  .list (row.map fun cell => cell.elim .null .text)

end Row

namespace Sheet

structure Draft where
  name : Option String := none
  rows : Option (List Row) := none

def shape : Shape Draft Sheet where
  title := "struct Sheet"
  slots := [
    .of "name" (·.name.isSome) .text fun name d => { d with name := some name },
    .of "rows" (·.rows.isSome) (.list Row.reader) fun rows d => { d with rows := some rows }]
  blank := {}
  finish d := do
    let name ← required "name" 0 d.name
    return { name, rows := d.rows.getD [] }

def toDocument (sheet : Sheet) : Document :=
  .record [("name", .text sheet.name), ("rows", .list (sheet.rows.map Row.toDocument))]

end Sheet

namespace Workbook

/-- The only field may be left out. -/
def shape : Shape (Option (List Sheet)) Workbook where
  title := "struct Workbook"
  slots := [.of "sheets" Option.isSome (.list Sheet.shape.reader) fun sheets _ => some sheets]
  blank := none
  finish d := .ok ⟨d.getD []⟩

def decode (content : String) : Except Fault Workbook :=
  shape.reader.decode content

def toDocument (workbook : Workbook) : Document :=
  .record [("sheets", .list (workbook.sheets.map Sheet.toDocument))]

/-- The text of a workbook file. -/
def render (workbook : Workbook) : String :=
  workbook.toDocument.render

end Workbook
end ArtifactRules
