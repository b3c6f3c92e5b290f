import ArtifactRules.Failure
import ArtifactRules.Tabbed
import ArtifactRules.Workbook.Document

/-! Workbooks in files. The extension of a file tells its format, in upper or lower case; a
tab-separated file is a workbook of one sheet with the name of the file. -/

namespace ArtifactRules
namespace Workbook

inductive Format
  | json | tabbed
  deriving DecidableEq, Repr

namespace Format

def ofExtension? (extension : String) : Option Format :=
  let extension := extension.toLower
  if extension = "json" then some .json
  else if extension = "tsv" ∨ extension = "txt" then some .tabbed
  else none

def ofPath? (path : Path) : Option Format :=
  path.extension?.bind ofExtension?

/-- Files of rules have one of the known extensions. -/
def ofPath (path : Path) : Except Failure Format :=
  match ofPath? path with
  | some format => .ok format
  | none => .error (.unknownFormat path)

def decode (path : Path) (content : String) : Format → Except Failure Workbook
  | json => (Workbook.decode content).mapError .undecodable
  | tabbed => .ok ⟨[Tabbed.sheet path.stem content]⟩

/-- A file with the header row and no rules. -/
def template : Format → String
  | json => Workbook.template.render
  | tabbed => Tabbed.template

end Format
end Workbook

namespace FileTree

/-- The workbook in a file of the format, whatever the extension of the file. -/
def workbookIn (tree : FileTree) (format : Workbook.Format) (path : Path) :
    Except Failure Workbook := do
  let content ← tree.readFile path
  format.decode path content

/-- The extension is judged before the file is looked for. -/
def openWorkbook (tree : FileTree) (path : Path) : Except Failure Workbook := do
  let format ← Workbook.Format.ofPath path
  tree.workbookIn format path

end FileTree
end ArtifactRules
