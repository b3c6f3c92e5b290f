import ArtifactRules.Invocation
import ArtifactRules.Terminal.Layout

/-! A run of the program: from its arguments, its surroundings and a tree of files to what it prints,
its exit code and the tree it leaves. A request for help or for the version is left out: it ends as an
error of usage, and one text stands for all such errors. -/

namespace ArtifactRules

/-- What a run is told besides its arguments. -/
structure Surroundings where
  home : Option Path := none
  /-- Where settings are kept, if not below the home directory. -/
  settingsHome : Option Path := none
  colours : Bool := false
  log : Bool := true

namespace Surroundings

def defaultSettingsPath (around : Surroundings) : Option Path :=
  (around.settingsHome.or (around.home.map (·.child ".config"))).map fun directory =>
    (directory.child "artisort").child "config.json"

end Surroundings

structure Finished where
  code : UInt32
  output : String := ""
  log : String := ""
  complaint : String := ""
  tree : FileTree

/-- What goes to the error stream: the log first. -/
def Finished.errors (finished : Finished) : String :=
  finished.log ++ finished.complaint

namespace Invocation

def settingsPathIn (invocation : Invocation) (around : Surroundings) : Option Path :=
  invocation.settingsPath.or around.defaultSettingsPath

/-- Without a path there are only the defaults. -/
def settings (tree : FileTree) : Option Path → Except Failure Settings
  | some path => tree.loadSettings path
  | none => .ok {}

/-- The settings are loaded whatever the command. -/
def run (invocation : Invocation) (settingsPath : Option Path) (tree : FileTree) :
    FileTree × Traced Report :=
  match settings tree settingsPath with
  | .error failure => (tree, .ofExcept (.error failure))
  | .ok loaded =>
    (invocation.command.run tree settingsPath loaded).map id fun traced =>
      { traced with events := .settings settingsPath :: traced.events }

end Invocation

namespace Program

def usageCode : UInt32 := 2

def failureCode : UInt32 := 1

/-- Debug events are shown on demand. -/
def shows (around : Surroundings) (verbose : Bool) (event : Event) : Bool :=
  around.log && (verbose || event.level == .info)

def logText (around : Surroundings) (verbose : Bool) (events : List Event) : String :=
  String.join ((events.filter (shows around verbose)).map fun event => event.line ++ "\n")

/-- Nothing is printed to the output by a run that fails. -/
def finish (around : Surroundings) (invocation : Invocation) (tree : FileTree)
    (traced : Traced Report) : Finished :=
  let log := logText around invocation.verbose traced.events
  match traced.result with
  | .ok report =>
    let settingsPath := (invocation.settingsPathIn around).getD ⟨""⟩
    { code := 0
      output := Terminal.render around.colours (Terminal.reportLines settingsPath report)
      log
      tree }
  | .error failure =>
    { code := failureCode
      log
      complaint := Terminal.render around.colours (Terminal.failureLines failure)
      tree }

def usage : String :=
  "usage: [-v] [--config PATH] check RULES | classify ITEMS [-r PATH | --heuristic] | labels"
    ++ " | config [KEY [VALUE]] | template PATH [--force]\n"

def run (around : Surroundings) (arguments : List String) (tree : FileTree) : Finished :=
  match Invocation.ofArguments? arguments with
  | none => { code := usageCode, complaint := usage, tree }
  | some invocation =>
    let (after, traced) := invocation.run (invocation.settingsPathIn around) tree
    finish around invocation after traced

/-- The paths that a run may follow, as far as the tree tells. -/
def paths (around : Surroundings) (arguments : List String) (tree : FileTree) : List Path :=
  match Invocation.ofArguments? arguments with
  | none => []
  | some invocation =>
    let settingsPath := invocation.settingsPathIn around
    let configured :=
      match Invocation.settings tree settingsPath with
      | .ok settings => settings.rulesFile.toList
      | .error _ => []
    settingsPath.toList ++
      match invocation.command with
      | .check rules => [rules]
      | .classify artifacts rules _ => artifacts :: rules.toList ++ configured
      | .template path _ => [path]
      | .labels | .config _ _ => []

end Program
end ArtifactRules
