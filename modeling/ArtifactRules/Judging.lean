import ArtifactRules.Log
import ArtifactRules.Workbook.File

/-! Loading the rules of a workbook and judging artifacts by them, with the events of both. -/

namespace ArtifactRules

namespace Sheet

/-- What is logged while the rules are read: also the blank rows before a faulty one. -/
def events (sheet : Sheet) : List Event :=
  .sheet sheet.name sheet.rows.length :: sheet.skippedRows.map .blankRow ++
    match sheet.rules with
    | .ok rules => .loaded rules.length sheet.name :: rules.map .rule
    | .error _ => []

end Sheet

def Workbook.load (workbook : Workbook) (active : String) : Traced RuleSet where
  events :=
    match workbook.select active with
    | .ok sheet => sheet.events
    | .error _ => []
  result := (workbook.rules active).mapError .rules

def FileTree.loadRules (tree : FileTree) (path : Path) (active : String) : Traced RuleSet := do
  let workbook ← tree.openWorkbook path
  workbook.load active

structure Judged where
  artifact : Artifact
  decision : Decision
  deriving DecidableEq, Repr

namespace Judged

def event (judged : Judged) : Event :=
  .judged judged.artifact judged.decision

end Judged

namespace RuleSet

def judge (rules : RuleSet) (artifact : Artifact) : Judged :=
  ⟨artifact, rules.explain artifact⟩

def judgeAll (rules : RuleSet) (artifacts : List Artifact) : List Judged :=
  artifacts.map rules.judge

/-- The rows of all rules that fit, not only of the one that decides. -/
def fittingRows (rules : RuleSet) (artifact : Artifact) : List Nat :=
  (rules.filter (·.fits artifact)).map Rule.row

end RuleSet
end ArtifactRules
