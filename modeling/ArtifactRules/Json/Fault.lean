import ArtifactRules.Text.Fields
import ArtifactRules.Text.Quoted
import ArtifactRules.Text.Shortest

/-! What can be wrong with a JSON text: it is malformed, it ends too early, or a value in it is not
the one wanted there. The first fault in the order of the text is the one reported. -/

namespace ArtifactRules
namespace Json

/-- What stands where something else is wanted. -/
inductive Found
  | null
  | boolean (value : Bool)
  | natural (value : Nat)
  /-- A negative integer, by its absolute value. -/
  | negative (magnitude : Nat)
  | floating (value : Float)
  | text (value : String)
  | list
  | record
  deriving DecidableEq, Repr

namespace Found

def description : Found → String
  | null => "null"
  | boolean value => "boolean `" ++ (if value then "true" else "false") ++ "`"
  | natural value => "integer `" ++ toString value ++ "`"
  | negative magnitude => "integer `-" ++ toString magnitude ++ "`"
  | floating value => "floating point `" ++ Text.floating value ++ "`"
  | text value => "string " ++ Text.quoted value
  | list => "sequence"
  | record => "map"

end Found

inductive Mismatch
  | wrongType (found : Found) (wanted : String)
  | outOfRange (found : Found) (wanted : String)
  | missingField (name : String)
  | repeatedField (name : String)
  | unknownName (found : String) (known : List String)
  | wrongLength (length : Nat) (wanted : String)
  /-- A record of the right shape that is refused for the given reason. -/
  | refused (reason : String)
  deriving DecidableEq, Repr

namespace Mismatch

def message : Mismatch → String
  | wrongType found wanted => "invalid type: " ++ found.description ++ ", expected " ++ wanted
  | outOfRange found wanted => "invalid value: " ++ found.description ++ ", expected " ++ wanted
  | missingField name => "missing field `" ++ name ++ "`"
  | repeatedField name => "duplicate field `" ++ name ++ "`"
  | unknownName found known =>
    "unknown variant `" ++ found ++ "`, expected one of "
      ++ Text.join ", " (known.map fun name => "`" ++ name ++ "`")
  | wrongLength length wanted => "invalid length " ++ toString length ++ ", expected " ++ wanted
  | refused reason => reason

end Mismatch

inductive Fault
  | malformed
  | unfinished
  | mismatch (what : Mismatch)
  deriving DecidableEq, Repr

namespace Fault

def message : Fault → String
  | malformed => "malformed JSON"
  | unfinished => "unexpected end of JSON"
  | mismatch what => what.message

end Fault
end Json
end ArtifactRules
