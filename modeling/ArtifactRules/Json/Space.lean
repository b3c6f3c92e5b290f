import ArtifactRules.Json.Fault

/-! Readers, which take a value off the front of a text and return it with the rest, and white space
between tokens. A reader carries the proof that the rest is shorter. -/

namespace ArtifactRules
namespace Json

structure Reader (α : Type) where
  read : List Char → Except Fault (α × List Char)
  shorter : ∀ {s a r}, read s = .ok (a, r) → r.length < s.length

theorem exists_of_map_eq_ok {α β : Type} {f : α → β} {x : Except Fault (α × List Char)} {b : β}
    {r : List Char} (h : x.map (Prod.map f id) = .ok (b, r)) : ∃ a, x = .ok (a, r) ∧ f a = b := by
  cases x with
  | error fault => exact absurd h (by simp [Except.map])
  | ok p =>
    obtain ⟨a, t⟩ := p
    simp only [Except.map, Prod.map, id, Except.ok.injEq, Prod.mk.injEq] at h
    exact ⟨a, by rw [h.2], h.1⟩

def isSpace (c : Char) : Bool :=
  c == ' ' || c == '\t' || c == '\n' || c == '\r'

def skipSpace (s : List Char) : List Char :=
  s.dropWhile isSpace

theorem skipSpace_length_le (s : List Char) : (skipSpace s).length ≤ s.length :=
  (List.dropWhile_suffix isSpace).length_le

theorem skipSpace_cons_length_lt {s r : List Char} {c : Char} (h : skipSpace s = c :: r) :
    r.length < s.length := by
  have := skipSpace_length_le s
  simp only [h, List.length_cons] at this
  omega

/-- The rest after a fixed word. -/
def literal : List Char → List Char → Except Fault (List Char)
  | [], s => .ok s
  | _ :: _, [] => .error .unfinished
  | c :: cs, d :: s => if c = d then literal cs s else .error .malformed

theorem literal_length_le {word s r : List Char} (h : literal word s = .ok r) :
    r.length ≤ s.length := by
  induction word generalizing s with
  | nil => cases h; exact Nat.le_refl _
  | cons c cs ih =>
    cases s with
    | nil => exact absurd h (by simp [literal])
    | cons d s =>
      simp only [literal] at h
      split at h
      · exact Nat.le_succ_of_le (ih h)
      · exact absurd h (by simp)

/-- The rest after white space and one mark. -/
def mark (c : Char) (s : List Char) : Except Fault (List Char) :=
  match skipSpace s with
  | [] => .error .unfinished
  | d :: r => if d = c then .ok r else .error .malformed

theorem mark_length_lt {c : Char} {s r : List Char} (h : mark c s = .ok r) :
    r.length < s.length := by
  unfold mark at h
  split at h
  · exact absurd h (by simp)
  · rename_i d t hs
    split at h
    · cases h; exact skipSpace_cons_length_lt hs
    · exact absurd h (by simp)

namespace Reader

/-- The whole text is one value, with white space around it. -/
def decode {α : Type} (reader : Reader α) (content : String) : Except Fault α :=
  match reader.read content.toList with
  | .error fault => .error fault
  | .ok (a, r) => if skipSpace r = [] then .ok a else .error .malformed

/-- A reader that goes on with a check on the value. -/
def refine {α β : Type} (reader : Reader α) (check : α → Except Fault β) : Reader β where
  read s :=
    match reader.read s with
    | .error fault => .error fault
    | .ok (a, r) => (check a).map (·, r)
  shorter {s b r} h := by
    split at h
    · exact absurd h (by simp)
    · rename_i a t hread
      cases hc : check a with
      | error fault => rw [hc] at h; exact absurd h (by simp [Except.map])
      | ok b' =>
        rw [hc] at h
        simp only [Except.map, Except.ok.injEq, Prod.mk.injEq] at h
        exact h.2 ▸ reader.shorter hread

def map {α β : Type} (f : α → β) (reader : Reader α) : Reader β :=
  reader.refine fun a => .ok (f a)

end Reader
end Json
end ArtifactRules
