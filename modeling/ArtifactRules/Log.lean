import ArtifactRules.Decision
import ArtifactRules.Failure
import ArtifactRules.Text.Quoted

/-! Log events, and results traced by them. What a command answers never depends on its events. -/

namespace ArtifactRules

inductive LogLevel
  | debug | info
  deriving DecidableEq, Repr

namespace LogLevel

/-- Five characters wide. -/
def label : LogLevel → String
  | debug => "DEBUG"
  | info => " INFO"

end LogLevel

inductive Event
  | settings (path : Option Path)
  | sheet (name : String) (rows : Nat)
  | blankRow (row : Nat)
  | loaded (rules : Nat) (sheet : String)
  | rule (rule : Rule)
  | judged (artifact : Artifact) (decision : Decision)
  | saved (path : Path) (key : String)
  deriving DecidableEq, Repr

namespace Event

def level : Event → LogLevel
  | loaded _ _ | judged _ ⟨_, .noRuleFits⟩ => .info
  | _ => .debug

def message : Event → String
  | settings _ => "Using configuration"
  | sheet _ _ => "Translating rule sheet"
  | blankRow _ => "Skipping blank row"
  | loaded count name => "Loaded " ++ toString count ++ " rules from sheet " ++ name
  | rule r => r.text
  | judged _ ⟨_, .rule _⟩ => "Rule matched"
  | judged _ ⟨_, .noRuleFits⟩ => "No rule matched"
  | judged _ ⟨_, .heuristic _⟩ => "Heuristic decided"
  | saved _ _ => "Saved configuration"

/-- A path between quotes, if there is one. -/
def pathText : Option Path → String
  | none => "None"
  | some path => "Some(" ++ Text.quoted path.text ++ ")"

def fields : Event → List (String × String)
  | settings path => [("config", pathText path)]
  | sheet name rows => [("sheet", name), ("rows", toString rows)]
  | blankRow row => [("row", toString row)]
  | loaded _ _ => []
  | rule r => [("row", toString r.row)]
  | judged artifact ⟨outcome, .rule row⟩ =>
    [("item", artifact.text), ("row", toString row), ("outcome", outcome.label)]
  | judged artifact ⟨_, .noRuleFits⟩ => [("item", artifact.text)]
  | judged artifact ⟨outcome, .heuristic step⟩ =>
    [("item", artifact.text), ("step", toString step.number), ("outcome", outcome.label)]
  | saved path key => [("path", path.text), ("key", key)]

/-- Characters that drive a terminal, as their codes. -/
def plainChar (c : Char) : List Char :=
  let code := Nat.toDigits 16 c.toNat
  if c.toNat ∈ [0x07, 0x08, 0x0C, 0x1B, 0x7F] then
    '\\' :: 'x' :: List.replicate (2 - code.length) '0' ++ code
  else if 0x80 ≤ c.toNat ∧ c.toNat ≤ 0x9F then Text.codePointEscape c
  else [c]

/-- Level, message, then the fields as they are. -/
def line (event : Event) : String :=
  event.level.label ++ " " ++ String.ofList (event.message.toList.flatMap plainChar)
    ++ String.join (event.fields.map fun (name, value) => " " ++ name ++ "=" ++ value)

end Event

structure Traced (α : Type) where
  events : List Event := []
  result : Except Failure α

namespace Traced

def ofExcept {α : Type} (result : Except Failure α) : Traced α :=
  ⟨[], result⟩

/-- After a failure nothing more happens. -/
def andThen {α β : Type} (first : Traced α) (next : α → Traced β) : Traced β :=
  match first.result with
  | .ok a => ⟨first.events ++ (next a).events, (next a).result⟩
  | .error failure => ⟨first.events, .error failure⟩

instance : Monad Traced where
  pure a := ⟨[], .ok a⟩
  bind := andThen

instance : MonadLift (Except Failure) Traced where
  monadLift := ofExcept

@[simp] theorem result_pure {α : Type} (a : α) : (pure a : Traced α).result = .ok a := rfl

@[simp] theorem result_bind {α β : Type} (first : Traced α) (next : α → Traced β) :
    (first >>= next).result = first.result.bind fun a => (next a).result := by
  change (first.andThen next).result = _
  unfold andThen
  cases first.result <;> rfl

end Traced
end ArtifactRules
