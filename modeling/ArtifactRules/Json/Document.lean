import ArtifactRules.Json.Quote

/-! JSON documents and how they are written: one element or entry per line, indented by two
spaces. -/

namespace ArtifactRules
namespace Json

inductive Document
  | null
  | natural (value : Nat)
  | text (value : String)
  | list (elements : List Document)
  | record (entries : List (String × Document))

namespace Document

def newline (depth : Nat) : List Char :=
  '\n' :: List.replicate (2 * depth) ' '

mutual

/-- The text of a document whose lines after the first are indented to `depth`. -/
def write (depth : Nat) : Document → List Char
  | null => "null".toList
  | natural value => Nat.toDigits 10 value
  | text value => writeQuote value
  | list [] => "[]".toList
  | list (element :: elements) =>
    '[' :: newline (depth + 1) ++ write (depth + 1) element ++ writeElements depth elements
  | record [] => ['\x7b', '\x7d']
  | record ((key, value) :: entries) =>
    '\x7b' :: newline (depth + 1) ++ writeQuote key ++ ':' :: ' ' :: write (depth + 1) value
      ++ writeEntries depth entries

/-- What follows an element up to the closing bracket. -/
def writeElements (depth : Nat) : List Document → List Char
  | [] => newline depth ++ [']']
  | element :: elements =>
    ',' :: newline (depth + 1) ++ write (depth + 1) element ++ writeElements depth elements

/-- What follows an entry up to the closing bracket. -/
def writeEntries (depth : Nat) : List (String × Document) → List Char
  | [] => newline depth ++ ['\x7d']
  | (key, value) :: entries =>
    ',' :: newline (depth + 1) ++ writeQuote key ++ ':' :: ' ' :: write (depth + 1) value
      ++ writeEntries depth entries

end

/-- The text of a file that holds the document. -/
def render (d : Document) : String :=
  String.ofList (d.write 0)

end Document
end Json
end ArtifactRules
