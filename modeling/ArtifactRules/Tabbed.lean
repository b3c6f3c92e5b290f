import ArtifactRules.Text.Fields
import ArtifactRules.Sheet

/-! Tab-separated text: a row per line, a cell per field, nothing quoted. A line ends at a line feed
with the carriage return before it, if there is one; the last line needs no end. -/

namespace ArtifactRules
namespace Tabbed

def tab : Char := '\t'

/-- One carriage return at the end goes. -/
def dropReturn (line : List Char) : List Char :=
  if line.getLast? = some '\r' then line.dropLast else line

/-- A text that ends in a line feed has no line after it. -/
def lines (cs : List Char) : List (List Char) :=
  let parts := Text.fieldChars '\n' cs
  match parts.getLast? with
  | some [] => parts.dropLast.map dropReturn
  | some last => parts.dropLast.map dropReturn ++ [last]
  | none => []

def rowOfLine (line : List Char) : Row :=
  Row.ofTexts ((Text.fieldChars tab line).map String.ofList)

def rows (content : String) : List Row :=
  (lines content.toList).map rowOfLine

def byteOrderMark : Char := '\ufeff'

def dropMark : List Char → List Char
  | [] => []
  | c :: cs => if c = byteOrderMark then cs else c :: cs

/-- One mark at the start of a file is no part of the first cell. -/
def sheet (name content : String) : Sheet :=
  ⟨name, rows (String.ofList (dropMark content.toList))⟩

/-- The header row alone. -/
def template : String :=
  Text.join "\t" Column.labels ++ "\n"

end Tabbed
end ArtifactRules
