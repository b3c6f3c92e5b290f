import ArtifactRules.Artifact.Document
import ArtifactRules.Report
import ArtifactRules.Settings.File

/-! The commands. Only two of them write a file, each at most one, and only when they succeed. -/

namespace ArtifactRules

inductive SettingsAction
  | showAll
  | showKey (key : String)
  | set (key value : String)
  deriving DecidableEq, Repr

namespace FileTree

def checkRules (tree : FileTree) (settings : Settings) (path : Path) : Traced Report := do
  let rules ← tree.loadRules path settings.activeSheet
  return .ofRules path rules

def readArtifacts (tree : FileTree) (path : Path) : Except Failure (List Artifact) := do
  let content ← tree.readFile path
  (Artifact.decodeList content).mapError .undecodable

/-- The rules are loaded before the artifacts are looked for. Without a file of rules the built-in
heuristic decides, but never because one could not be loaded. -/
def classify (tree : FileTree) (settings : Settings) (rulesPath : Option Path)
    (path : Path) : Traced Report := do
  let rules ← match rulesPath with
    | some rulesPath => tree.loadRules rulesPath settings.activeSheet
    | none => pure []
  let artifacts ← tree.readArtifacts path
  Traced.mk ((rules.judgeAll artifacts).map Judged.event) (.ok (.ofArtifacts rules artifacts))

/-- A setting that is refused is reported, and nothing is saved. -/
def configure (tree : FileTree) (path : Path) (action : SettingsAction) :
    FileTree × Traced Report :=
  match tree.loadSettings path with
  | .error failure => (tree, .ofExcept (.error failure))
  | .ok settings =>
    match action with
    | .showAll => (tree, pure { settings := some settings })
    | .showKey key => (tree, pure (.ofSetting settings key))
    | .set key value =>
      match settings.setNamed key value with
      | .error fault => (tree, pure (.ofMessage .error fault.message))
      | .ok changed =>
        match tree.saveSettings path changed with
        | (saved, .error failure) => (saved, .ofExcept (.error failure))
        | (saved, .ok ()) =>
          let shown := (changed.get? key).getD ""
          (saved, ⟨[.saved path key], .ok (.ofMessage .success (key ++ " set to " ++ shown))⟩)

/-- A path with an extension of neither format takes a JSON workbook. -/
def writeTemplate (tree : FileTree) (path : Path) (force : Bool) :
    FileTree × Except Failure Report :=
  if tree.has path && !force then (tree, .error (.occupied path))
  else
    let format := (Workbook.Format.ofPath? path).getD .json
    match tree.write path format.template with
    | .error error => (tree, .error (.unwritable error))
    | .ok written =>
      (written, .ok (.ofMessage .success ("Wrote rule template to " ++ path.text)))

end FileTree

inductive Command
  | check (rules : Path)
  | classify (artifacts : Path) (rules : Option Path) (heuristic : Bool)
  | labels
  | config (key value : Option String)
  | template (path : Path) (force : Bool)
  deriving DecidableEq, Repr

namespace Command

/-- The file of rules that counts: none with the heuristic, else the one given, else the one in the
settings. -/
def effectiveRules (settings : Settings) (rules : Option Path) (heuristic : Bool) : Option Path :=
  if heuristic then none else rules.or settings.rulesFile

def settingsAction : Option String → Option String → SettingsAction
  | none, _ => .showAll
  | some key, none => .showKey key
  | some key, some value => .set key value

def run (command : Command) (tree : FileTree) (settingsPath : Option Path) (settings : Settings) :
    FileTree × Traced Report :=
  match command with
  | check rules => (tree, tree.checkRules settings rules)
  | classify artifacts rules heuristic =>
    (tree, tree.classify settings (effectiveRules settings rules heuristic) artifacts)
  | labels => (tree, pure .words)
  | config key value =>
    match settingsPath with
    | some path => tree.configure path (settingsAction key value)
    | none => (tree, .ofExcept (.error .noSettings))
  | template path force => (tree.writeTemplate path force).map id .ofExcept

end Command
end ArtifactRules
