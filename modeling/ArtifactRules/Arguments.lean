/-! Arguments of a command line: options with one letter or a long name, values attached to an
option or standing after it, and positional arguments. -/

namespace ArtifactRules
namespace Arguments

structure Flag where
  long : String
  short : Option Char := none
  takesValue : Bool := false
  deriving DecidableEq, Repr

inductive Token
  /-- Two dashes end the options. -/
  | ending
  | long (name : String) (value : Option String)
  /-- One dash and at least one letter. -/
  | letters (cs : List Char)
  | plain (text : String)
  deriving DecidableEq, Repr

/-- A long name ends at the first equals sign. -/
def longToken (cs : List Char) : Token :=
  .long (String.ofList (cs.takeWhile (· != '='))) <|
    match cs.dropWhile (· != '=') with
    | [] => none
    | _ :: value => some (String.ofList value)

/-- One dash alone is plain. -/
def Token.ofArgument (argument : String) : Token :=
  match argument.toList with
  | ['-', '-'] => .ending
  | '-' :: '-' :: cs => longToken cs
  | '-' :: c :: cs => .letters (c :: cs)
  | _ => .plain argument

/-- Options that were given, each by its long name, and the option that still needs a value. The
value of an option that takes none is empty. -/
structure Options where
  given : List (String × String) := []
  pending : Option String := none
  deriving DecidableEq, Repr

def longOption (flags : List Flag) (name : String) (value : Option String) : Option Options :=
  match flags.find? (·.long == name), value with
  | none, _ => none
  | some flag, some value => if flag.takesValue then some { given := [(name, value)] } else none
  | some flag, none =>
    if flag.takesValue then some { pending := some name } else some { given := [(name, "")] }

def dropEquals : List Char → List Char
  | '=' :: cs => cs
  | cs => cs

/-- What follows the letter of an option that takes a value is that value. -/
def letterOptions (flags : List Flag) : List Char → Option Options
  | [] => some {}
  | c :: cs =>
    match flags.find? (·.short == some c) with
    | none => none
    | some flag =>
      if flag.takesValue then
        if cs = [] then some { pending := some flag.long }
        else some { given := [(flag.long, String.ofList (dropEquals cs))] }
      else
        (letterOptions flags cs).map fun options =>
          { options with given := (flag.long, "") :: options.given }

structure Given where
  options : List (String × String) := []
  positionals : List String := []
  deriving DecidableEq, Repr

def Given.withOptions (options : List (String × String)) (given : Given) : Given :=
  { given with options := options ++ given.options }

/-- Which arguments are read: up to the name of a command, or all that follow it. -/
inductive Level
  | outer | inner
  deriving DecidableEq, Repr

/-- In the outer level the first plain argument and all after it are left as positionals. -/
def gather (level : Level) (flags : List Flag) : Option String → List String → Option Given
  | none, [] => some {}
  | some _, [] => none
  | pending, argument :: rest =>
    match Token.ofArgument argument, pending with
    | .plain text, some name => (gather level flags none rest).map (.withOptions [(name, text)])
    | .plain text, none =>
      match level with
      | .outer => some { positionals := text :: rest }
      | .inner =>
        (gather level flags none rest).map fun given =>
          { given with positionals := text :: given.positionals }
    | .ending, none =>
      match level with
      | .outer => none
      | .inner => some { positionals := rest }
    | .long name value, none => do
      let options ← longOption flags name value
      (gather level flags options.pending rest).map (.withOptions options.given)
    | .letters cs, none => do
      let options ← letterOptions flags cs
      (gather level flags options.pending rest).map (.withOptions options.given)
    | _, some _ => none

namespace Given

def has (given : Given) (flag : Flag) : Bool :=
  given.options.any (·.1 == flag.long)

def value? (given : Given) (flag : Flag) : Option String :=
  given.options.lookup flag.long

/-- No option is given twice. -/
def isProper (given : Given) : Bool :=
  decide (given.options.map Prod.fst).Nodup

end Given
end Arguments
end ArtifactRules
