import ArtifactRules.Json.Document
import ArtifactRules.Json.Shape
import ArtifactRules.Path
import ArtifactRules.Text.Blank
import ArtifactRules.Workbook

/-! Settings: where the rules are, and which sheet holds them. A setting is shown and changed as text
under its key. -/

namespace ArtifactRules

open Json (Document Fault Reader Shape)

structure Settings where
  /-- Without it the built-in heuristic decides. -/
  rulesFile : Option Path := none
  activeSheet : String := Workbook.defaultActiveSheet
  deriving DecidableEq, Repr

namespace Settings

inductive Key
  | rulesFile | activeSheet
  deriving DecidableEq, Repr

namespace Key

def name : Key → String
  | rulesFile => "rules_file"
  | activeSheet => "active_sheet"

def all : List Key :=
  [rulesFile, activeSheet]

def ofName? (s : String) : Option Key :=
  all.find? fun key => key.name == s

end Key

inductive SetFault
  | unknownKey (name : String)
  | emptyActiveSheet
  deriving DecidableEq, Repr

def SetFault.message : SetFault → String
  | unknownKey name => "Unknown config key: " ++ name
  | emptyActiveSheet => "active_sheet cannot be empty"

/-- A setting that is unset reads as the empty text. -/
def get (settings : Settings) : Key → String
  | .rulesFile => (settings.rulesFile.map Path.text).getD ""
  | .activeSheet => settings.activeSheet

/-- The value is trimmed. Of the two settings, only the rules file can be unset. -/
def set (settings : Settings) (key : Key) (value : String) : Except SetFault Settings :=
  let value := Text.trim value
  match key with
  | .rulesFile => .ok { settings with rulesFile := if value = "" then none else some ⟨value⟩ }
  | .activeSheet =>
    if value = "" then .error .emptyActiveSheet else .ok { settings with activeSheet := value }

/-- A key that is set holds the trimmed value, and the other key what it held. -/
theorem get_of_set {settings changed : Settings} {key : Key} {value : String}
    (h : settings.set key value = .ok changed) (other : Key) :
    changed.get other = if other = key then Text.trim value else settings.get other := by
  cases key with
  | rulesFile =>
    simp only [set, Except.ok.injEq] at h
    subst h
    cases other with
    | rulesFile => by_cases hv : Text.trim value = "" <;> simp [get, hv]
    | activeSheet => rfl
  | activeSheet =>
    simp only [set] at h
    split at h
    · exact absurd h (by simp)
    · simp only [Except.ok.injEq] at h
      subst h
      cases other <;> rfl

def get? (settings : Settings) (name : String) : Option String :=
  (Key.ofName? name).map settings.get

def setNamed (settings : Settings) (name value : String) : Except SetFault Settings :=
  match Key.ofName? name with
  | some key => settings.set key value
  | none => .error (.unknownKey name)

/-- Every key with its value. -/
def listing (settings : Settings) : List (String × String) :=
  Key.all.map fun key => (key.name, settings.get key)

structure Draft where
  rulesFile : Option (Option Path) := none
  activeSheet : Option String := none

def shape : Shape Draft Settings where
  title := "struct ArtisortConfig"
  slots := [
    .of Key.rulesFile.name (·.rulesFile.isSome) (.nullable ((Reader.textAs "path string").map .mk))
      fun path d => { d with rulesFile := some path },
    .of Key.activeSheet.name (·.activeSheet.isSome) .text fun sheet d =>
      { d with activeSheet := some sheet }]
  blank := {}
  finish d := .ok {
    rulesFile := d.rulesFile.join,
    activeSheet := d.activeSheet.getD Workbook.defaultActiveSheet }

def decode (content : String) : Except Fault Settings :=
  shape.reader.decode content

def toDocument (settings : Settings) : Document :=
  .record [
    (Key.rulesFile.name, settings.rulesFile.elim .null fun path => .text path.text),
    (Key.activeSheet.name, .text settings.activeSheet)]

/-- The text of a settings file. -/
def render (settings : Settings) : String :=
  settings.toDocument.render

end Settings
end ArtifactRules
