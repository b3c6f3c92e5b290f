import ArtifactRules.Text.Fields

/-! Paths. A path is kept as it was written; its steps and the parts of its file name are read off
that text. -/

namespace ArtifactRules

structure Path where
  text : String
  deriving DecidableEq, Repr

namespace Path

def separator : Char := '/'

/-- The step that stays where it is. -/
def here : String := "."

/-- The step to the directory above. -/
def up : String := ".."

def isAbsolute (path : Path) : Bool :=
  path.text.toList.head? == some separator

/-- What stands between the separators. -/
def parts (path : Path) : List String :=
  Text.fields separator path.text

/-- The parts that lead somewhere else. -/
def steps (path : Path) : List String :=
  path.parts.filter fun part => part != "" && part != here

def ofSteps (absolute : Bool) (steps : List String) : Path :=
  ⟨(if absolute then "/" else "") ++ Text.join "/" steps⟩

/-- The directory a path names its file in; the empty path if it names none. -/
def parent (path : Path) : Path :=
  ofSteps path.isAbsolute path.steps.dropLast

/-- A separator is put in unless there is one. -/
def child (path : Path) (name : String) : Path :=
  ⟨path.text ++ (if path.text.toList.getLast? = some separator then "" else "/") ++ name⟩

/-- A path that ends in a step up names no file. -/
def fileName? (path : Path) : Option String :=
  path.steps.getLast?.filter (· != up)

/-- A name up to its last point, and what follows that point. A point that begins the name does not
count. -/
def splitName (name : List Char) : List Char × Option (List Char) :=
  match name.reverse.dropWhile (· != '.') with
  | _ :: c :: before =>
    ((c :: before).reverse, some (name.reverse.takeWhile (· != '.')).reverse)
  | _ => (name, none)

/-- The file name without its extension. -/
def stem (path : Path) : String :=
  (path.fileName?.map fun name => String.ofList (splitName name.toList).1).getD ""

def extension? (path : Path) : Option String :=
  path.fileName?.bind fun name => (splitName name.toList).2.map String.ofList

example : (Path.mk "a/./b//r.tsv/").steps = ["a", "b", "r.tsv"] := by decide +kernel
example : (Path.mk "a/r.old.TSV").extension? = some "TSV" := by decide +kernel
example : (Path.mk "a/.tsv").extension? = none ∧ (Path.mk "a/.tsv").stem = ".tsv" := by
  decide +kernel

end Path
end ArtifactRules
