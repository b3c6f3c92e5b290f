import ArtifactRules.Json.Document

/-! The white space of written documents. Writers differ in what they put between the tokens of a
document, such as a line for each element, or nothing. -/

namespace ArtifactRules
namespace Json

/-- What a writer puts between tokens. -/
structure Spacing where
  /-- Before an element or entry of the given depth, and before the bracket that closes them. -/
  newline : Nat → List Char
  /-- Between the colon and the value of an entry. -/
  gap : List Char
  isSpace_of_mem_newline : ∀ {depth c}, c ∈ newline depth → isSpace c = true
  isSpace_of_mem_gap : ∀ {c}, c ∈ gap → isSpace c = true

namespace Spacing

def lines : Spacing where
  newline := Document.newline
  gap := [' ']
  isSpace_of_mem_newline {depth c} h := by
    rcases List.mem_cons.1 h with rfl | h
    · rfl
    · rw [List.eq_of_mem_replicate h]
      rfl
  isSpace_of_mem_gap h := by
    rw [List.mem_singleton.1 h]
    rfl

def compact : Spacing where
  newline _ := []
  gap := []
  isSpace_of_mem_newline h := absurd h List.not_mem_nil
  isSpace_of_mem_gap h := absurd h List.not_mem_nil

end Spacing

namespace Document

mutual

def writeIn (spacing : Spacing) (depth : Nat) : Document → List Char
  | null => "null".toList
  | natural value => Nat.toDigits 10 value
  | text value => writeQuote value
  | list [] => "[]".toList
  | list (element :: elements) =>
    '[' :: spacing.newline (depth + 1) ++ writeIn spacing (depth + 1) element
      ++ writeElementsIn spacing depth elements
  | record [] => ['\x7b', '\x7d']
  | record ((key, value) :: entries) =>
    '\x7b' :: spacing.newline (depth + 1) ++ writeQuote key
      ++ ':' :: spacing.gap ++ writeIn spacing (depth + 1) value
      ++ writeEntriesIn spacing depth entries

/-- What follows an element up to the closing bracket. -/
def writeElementsIn (spacing : Spacing) (depth : Nat) : List Document → List Char
  | [] => spacing.newline depth ++ [']']
  | element :: elements =>
    ',' :: spacing.newline (depth + 1) ++ writeIn spacing (depth + 1) element
      ++ writeElementsIn spacing depth elements

def writeEntriesIn (spacing : Spacing) (depth : Nat) : List (String × Document) → List Char
  | [] => spacing.newline depth ++ ['\x7d']
  | (key, value) :: entries =>
    ',' :: spacing.newline (depth + 1) ++ writeQuote key
      ++ ':' :: spacing.gap ++ writeIn spacing (depth + 1) value
      ++ writeEntriesIn spacing depth entries

end

def renderIn (spacing : Spacing) (d : Document) : String :=
  String.ofList (d.writeIn spacing 0)

mutual

theorem writeIn_lines (depth : Nat) : ∀ d : Document, d.writeIn .lines depth = d.write depth
  | null => rfl
  | natural _ => rfl
  | text _ => rfl
  | list [] => rfl
  | list (element :: elements) => by
    rw [writeIn, write, writeIn_lines (depth + 1) element, writeElementsIn_lines depth elements]
    rfl
  | record [] => rfl
  | record ((key, value) :: entries) => by
    rw [writeIn, write, writeIn_lines (depth + 1) value, writeEntriesIn_lines depth entries]
    simp [Spacing.lines]

theorem writeElementsIn_lines (depth : Nat) :
    ∀ elements, writeElementsIn .lines depth elements = writeElements depth elements
  | [] => rfl
  | element :: elements => by
    rw [writeElementsIn, writeElements, writeIn_lines (depth + 1) element,
      writeElementsIn_lines depth elements]
    rfl

theorem writeEntriesIn_lines (depth : Nat) :
    ∀ entries, writeEntriesIn .lines depth entries = writeEntries depth entries
  | [] => rfl
  | (key, value) :: entries => by
    rw [writeEntriesIn, writeEntries, writeIn_lines (depth + 1) value,
      writeEntriesIn_lines depth entries]
    simp [Spacing.lines]

end

theorem renderIn_lines (d : Document) : d.renderIn .lines = d.render := by
  rw [renderIn, writeIn_lines, render]

example : (record [("a", list [natural 10, null]), ("b", record [])]).renderIn .compact =
    "\x7b\"a\":[10,null],\"b\":\x7b\x7d\x7d" := by decide +kernel

end Document
end Json
end ArtifactRules
