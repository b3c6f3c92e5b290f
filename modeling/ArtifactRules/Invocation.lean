import ArtifactRules.Arguments
import ArtifactRules.Command

/-! Invocations: the command that an argument list asks for. An argument list that asks for none is
refused as a whole. The requests for help and for the version (`--help`, `-h`, `--version`, `-V` and
the command `help`), which print a text and succeed, are left out: here they are refused like any
unknown option or command. -/

namespace ArtifactRules

open Arguments

structure Invocation where
  verbose : Bool := false
  settingsPath : Option Path := none
  command : Command
  deriving DecidableEq, Repr

namespace Invocation

def verboseFlag : Flag := ⟨"verbose", some 'v', false⟩

def settingsFlag : Flag := ⟨"config", none, true⟩

/-- These may stand before and after the name of the command. -/
def commonFlags : List Flag := [verboseFlag, settingsFlag]

def rulesFlag : Flag := ⟨"rules", some 'r', true⟩

def heuristicFlag : Flag := ⟨"heuristic", none, false⟩

def forceFlag : Flag := ⟨"force", none, false⟩

/-- No path is empty. -/
def path? (text : String) : Option Path :=
  if text = "" then none else some ⟨text⟩

/-- The path that an option may give. The outer option is missing if there is no such option, and
the inner one if its path is empty. -/
def optionalPath? (given : Given) (flag : Flag) : Option (Option Path) :=
  match given.value? flag with
  | none => some none
  | some text => (path? text).map some

inductive CommandName
  | check | classify | labels | config | template
  deriving DecidableEq, Repr

namespace CommandName

def ofName? (name : String) : Option CommandName :=
  if name = "check" then some .check
  else if name = "classify" ∨ name = "c" then some .classify
  else if name = "labels" then some .labels
  else if name = "config" then some .config
  else if name = "template" then some .template
  else none

def flags : CommandName → List Flag
  | classify => [rulesFlag, heuristicFlag]
  | template => [forceFlag]
  | _ => []

/-- The heuristic and a file of rules exclude each other. -/
def command? (given : Given) : CommandName → Option Command
  | check =>
    match given.positionals with
    | [rules] => (path? rules).map .check
    | _ => none
  | classify =>
    match given.positionals with
    | [artifacts] => do
      let artifacts ← path? artifacts
      let rules ← optionalPath? given rulesFlag
      let heuristic := given.has heuristicFlag
      if heuristic && rules.isSome then none else some (.classify artifacts rules heuristic)
    | _ => none
  | labels => if given.positionals = [] then some .labels else none
  | config =>
    match given.positionals with
    | [] => some (.config none none)
    | [key] => some (.config (some key) none)
    | [key, value] => some (.config (some key) (some value))
    | _ => none
  | template =>
    match given.positionals with
    | [path] => (path? path).map fun path => .template path (given.has forceFlag)
    | _ => none

end CommandName

/-- A path of settings after the name of the command counts before one that stands before it. -/
def ofArguments? (arguments : List String) : Option Invocation := do
  let outer ← gather .outer commonFlags none arguments
  let name :: rest := outer.positionals | none
  let name ← CommandName.ofName? name
  let inner ← gather .inner (commonFlags ++ name.flags) none rest
  if !(outer.isProper && inner.isProper) then none
  let outerPath ← optionalPath? outer settingsFlag
  let innerPath ← optionalPath? inner settingsFlag
  let command ← name.command? inner
  return {
    verbose := outer.has verboseFlag || inner.has verboseFlag,
    settingsPath := innerPath.or outerPath, command }

end Invocation
end ArtifactRules
