import ArtifactRules.FileTree
import ArtifactRules.Json.Fault
import ArtifactRules.RuleError

/-! Why a command fails. -/

namespace ArtifactRules

inductive Failure
  | rules (error : RuleError)
  | unreadable (path : Path) (error : FileError)
  | unwritable (error : FileError)
  | undecodable (fault : Json.Fault)
  | unknownFormat (path : Path)
  | occupied (path : Path)
  | noActiveSheet (path : Path)
  /-- There is nowhere to look for the settings. -/
  | noSettings
  deriving DecidableEq, Repr

def Failure.message : Failure → String
  | rules error => error.message
  | unreadable path error => "cannot read " ++ path.text ++ ": " ++ error.message
  | unwritable error => "IO error: " ++ error.message
  | undecodable fault => "Serialization error: " ++ fault.message
  | unknownFormat path =>
    "Config error: cannot read rules from " ++ path.text
      ++ ": expected a .json, .tsv or .txt file"
  | occupied path =>
    "Config error: " ++ path.text ++ " already exists (use --force to overwrite)"
  | noActiveSheet path => "Config error: active_sheet in " ++ path.text ++ " is empty"
  | noSettings => "Config error: no config directory on this platform; pass --config"

def FileTree.readFile (tree : FileTree) (path : Path) : Except Failure String :=
  (tree.read path).mapError (.unreadable path)

end ArtifactRules
