import ArtifactRules.Failure
import ArtifactRules.Settings

/-! Settings in a file. A file that is not there holds the defaults. -/

namespace ArtifactRules

/-- The name of the active sheet must not be blank. -/
def Settings.checked (path : Path) (settings : Settings) : Except Failure Settings :=
  if Text.trim settings.activeSheet = "" then .error (.noActiveSheet path) else .ok settings

namespace FileTree

def loadSettings (tree : FileTree) (path : Path) : Except Failure Settings :=
  if tree.has path then do
    let content ← tree.readFile path
    let settings ← (Settings.decode content).mapError .undecodable
    settings.checked path
  else .ok {}

def saveSettings (tree : FileTree) (path : Path) (settings : Settings) :
    FileTree × Except Failure Unit :=
  (tree.save path settings.render).map id (·.mapError .unwritable)

end FileTree
end ArtifactRules
