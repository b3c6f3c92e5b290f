import ArtifactRules.Text.Fields

/-! Styled text for a terminal. A span is written between the codes that start its styles and the
code that ends all styles; without colours only its text is written. -/

namespace ArtifactRules
namespace Terminal

inductive Style
  | bold | dimmed | red | green | yellow | blue
  deriving DecidableEq, Repr

def Style.code : Style → String
  | bold => "1"
  | dimmed => "2"
  | red => "31"
  | green => "32"
  | yellow => "33"
  | blue => "34"

structure Span where
  text : String
  styles : List Style := []
  deriving DecidableEq, Repr

abbrev Line := List Span

def escape : Char := '\x1b'

/-- What starts the styles. -/
def opening (styles : List Style) : List Char :=
  escape :: '[' :: (Text.join ";" (styles.map Style.code)).toList ++ ['m']

/-- What ends all styles. -/
def reset : List Char :=
  [escape, '[', '0', 'm']

/-- A text that ends all styles itself goes on with `start`. -/
def reopen (start : List Char) : List Char → List Char
  | [] => []
  | '\x1b' :: '[' :: '0' :: 'm' :: cs => reset ++ start ++ reopen start cs
  | c :: cs => c :: reopen start cs

namespace Span

def write (colours : Bool) (span : Span) : List Char :=
  if colours && !span.styles.isEmpty then
    opening span.styles ++ reopen (opening span.styles) span.text.toList ++ reset
  else span.text.toList

end Span

/-- The text of lines, each with its end. -/
def render (colours : Bool) (lines : List Line) : String :=
  String.ofList (lines.flatMap fun line => line.flatMap (Span.write colours) ++ ['\n'])

example : render true [[⟨"Error:", [.red]⟩, ⟨" x", []⟩]] = "\x1b[31mError:\x1b[0m x\n" := by
  decide +kernel

end Terminal
end ArtifactRules
