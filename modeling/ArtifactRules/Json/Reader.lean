import ArtifactRules.Json.Skip
import ArtifactRules.Vocabulary

/-! Readers of typed values. A record is written as an object, its fields in any order and unknown
ones skipped, or as a list of its fields in their own order; fields at the end that have a default
may be left out of the list. -/

namespace ArtifactRules
namespace Json

/-- A value at its first character, in place of one of another type. -/
def foundAt (c : Char) (s : List Char) : Except Fault Found :=
  if c = 'n' then (literal "ull".toList s).map fun _ => .null
  else if c = 't' then (literal "rue".toList s).map fun _ => .boolean true
  else if c = 'f' then (literal "alse".toList s).map fun _ => .boolean false
  else if c = '"' then (readBody s).map fun (text, _) => .text (String.ofList text)
  else if c = '[' then .ok .list
  else if c = '{' then .ok .record
  else if c = '-' ∨ (decimalDigit? c).isSome then (number.read (c :: s)).map fun (n, _) => n.found
  else .error .malformed

def wrongType (wanted : String) (c : Char) (s : List Char) : Fault :=
  match foundAt c s with
  | .ok found => .mismatch (.wrongType found wanted)
  | .error fault => fault

namespace Reader

/-- A reader that goes by the first character after white space. -/
def first {α : Type} (read : Char → List Char → Except Fault (α × List Char))
    (shorter : ∀ {c s a r}, read c s = .ok (a, r) → r.length ≤ s.length) : Reader α where
  read s :=
    match skipSpace s with
    | [] => .error .unfinished
    | c :: r => read c r
  shorter {s a r} h := by
    split at h
    · exact absurd h (by simp)
    · rename_i hs
      exact Nat.lt_of_le_of_lt (shorter h) (skipSpace_cons_length_lt hs)

def textAs (wanted : String) : Reader String :=
  first
    (fun c s =>
      if c = '"' then (readBody s).map (Prod.map String.ofList id)
      else .error (wrongType wanted c s))
    (by
      intro c s a r h
      split at h
      · obtain ⟨text, hb, -⟩ := exists_of_map_eq_ok h
        exact Nat.le_of_lt (quoteBody_length_lt hb)
      · exact absurd h (by simp))

def text : Reader String :=
  textAs "a string"

/-- A natural number of thirty two bits. -/
def word32 : Reader UInt32 :=
  first
    (fun c s =>
      if c = '-' ∨ (decimalDigit? c).isSome then
        match number.read (c :: s) with
        | .error fault => .error fault
        | .ok (.natural n, r) =>
          if n < UInt32.size then .ok (UInt32.ofNat n, r)
          else .error (.mismatch (.outOfRange (.natural n) "u32"))
        | .ok (.negative n, _) => .error (.mismatch (.outOfRange (.negative n) "u32"))
        | .ok (.floating x, _) => .error (.mismatch (.wrongType (.floating x) "u32"))
      else .error (wrongType "u32" c s))
    (by
      intro c s a r h
      split at h
      · split at h
        · exact absurd h (by simp)
        · rename_i n t hn
          split at h
          · cases h; exact Nat.le_of_lt_succ (number.shorter hn)
          · exact absurd h (by simp)
        · exact absurd h (by simp)
        · exact absurd h (by simp)
      · exact absurd h (by simp))

/-- `null` is no value; anything else is for the reader. -/
def nullable {α : Type} (reader : Reader α) : Reader (Option α) where
  read s :=
    match skipSpace s with
    | 'n' :: r => (literal "ull".toList r).map (none, ·)
    | r => (reader.read r).map (Prod.map some id)
  shorter {s a r} h := by
    split at h
    · rename_i t hs
      cases hl : literal "ull".toList t with
      | error fault => rw [hl] at h; exact absurd h (by simp [Except.map])
      | ok u =>
        rw [hl] at h
        simp only [Except.map, Except.ok.injEq, Prod.mk.injEq] at h
        exact h.2 ▸ Nat.lt_of_le_of_lt (literal_length_le hl) (skipSpace_cons_length_lt hs)
    · obtain ⟨b, hb, -⟩ := exists_of_map_eq_ok h
      exact Nat.lt_of_lt_of_le (reader.shorter hb) (skipSpace_length_le s)

/-- The elements of a list, from the first one to the closing bracket. -/
def elements {α : Type} (element : Reader α) (s : List Char) :
    Except Fault (List α × List Char) :=
  match _he : element.read s with
  | .error fault => .error fault
  | .ok (a, r) =>
    match _hs : skipSpace r with
    | [] => .error .unfinished
    | c :: r' =>
      if c = ']' then .ok ([a], r')
      else if c = ',' then
        match _hn : skipSpace r' with
        | [] => .error .unfinished
        | d :: r'' =>
          if d = ']' then .error .malformed
          else (elements element (d :: r'')).map (Prod.map (a :: ·) id)
      else .error .malformed
termination_by s.length
decreasing_by
  exact Nat.lt_of_le_of_lt (_hn ▸ skipSpace_length_le r')
    (Nat.lt_trans (skipSpace_cons_length_lt _hs) (element.shorter _he))

theorem elements_length_lt {α : Type} {element : Reader α} {s r : List Char} {as : List α}
    (h : elements element s = .ok (as, r)) : r.length < s.length := by
  fun_induction elements element s generalizing as r <;>
    grind [→ skipSpace_cons_length_lt, skipSpace_length_le, → Reader.shorter,
      → exists_of_map_eq_ok]

def list {α : Type} (element : Reader α) : Reader (List α) :=
  first
    (fun c s =>
      if c = '[' then
        match skipSpace s with
        | [] => .error .unfinished
        | d :: r => if d = ']' then .ok ([], r) else elements element (d :: r)
      else .error (wrongType "a sequence" c s))
    (by
      intro c s a r h
      split at h
      · split at h
        · exact absurd h (by simp)
        · rename_i d t hs
          split at h
          · cases h; exact Nat.le_of_lt (skipSpace_cons_length_lt hs)
          · exact Nat.le_of_lt (Nat.lt_of_lt_of_le (elements_length_lt h)
              (hs ▸ skipSpace_length_le s))
      · exact absurd h (by simp))

def unit : Reader Unit :=
  first
    (fun c s =>
      if c = 'n' then (literal "ull".toList s).map ((), ·) else .error (wrongType "unit" c s))
    (by
      intro c s a r h
      split at h
      · cases hl : literal "ull".toList s with
        | error fault => rw [hl] at h; exact absurd h (by simp [Except.map])
        | ok u =>
          rw [hl] at h
          simp only [Except.map, Except.ok.injEq, Prod.mk.injEq] at h
          exact h.2 ▸ literal_length_le hl
      · exact absurd h (by simp))

def nameOf {α : Type} [Labelled α] (s : String) : Except Fault α :=
  match Labelled.ofName? s with
  | some a => .ok a
  | none => .error (.mismatch (.unknownName s (Labelled.names α)))

/-- The rest of a quoted name, after its opening quote. -/
def nameBody {α : Type} [Labelled α] (s : List Char) : Except Fault (α × List Char) :=
  match readBody s with
  | .error fault => .error fault
  | .ok (name, r) => (nameOf (String.ofList name)).map (·, r)

theorem nameBody_length_lt {α : Type} [Labelled α] {s r : List Char} {a : α}
    (h : nameBody s = .ok (a, r)) : r.length < s.length := by
  unfold nameBody at h
  split at h
  · exact absurd h (by simp)
  · rename_i name t hb
    cases hn : (nameOf (String.ofList name) : Except Fault α) with
    | error fault => rw [hn] at h; exact absurd h (by simp [Except.map])
    | ok b =>
      rw [hn] at h
      simp only [Except.map, Except.ok.injEq, Prod.mk.injEq] at h
      exact h.2 ▸ quoteBody_length_lt hb

/-- One of the names of a vocabulary, or an object with that one name and `null`. -/
def named {α : Type} [Labelled α] : Reader α :=
  first
    (fun c s =>
      if c = '"' then nameBody s
      else if c = '{' then
        match mark '"' s with
        | .error fault => .error fault
        | .ok r =>
          match nameBody r with
          | .error fault => .error fault
          | .ok (a, r₁) =>
            match mark ':' r₁ with
            | .error fault => .error fault
            | .ok r₂ =>
              match unit.read r₂ with
              | .error fault => .error fault
              | .ok (_, r₃) => (mark '}' r₃).map (a, ·)
      else .error .malformed)
    (by
      intro c s a r h
      split at h
      · exact Nat.le_of_lt (nameBody_length_lt h)
      · split at h
        · split at h
          · exact absurd h (by simp)
          · rename_i t hq
            have hquote := mark_length_lt hq
            split at h
            · exact absurd h (by simp)
            · rename_i b t₁ hb
              have hname := nameBody_length_lt hb
              split at h
              · exact absurd h (by simp)
              · rename_i t₂ hm
                have hcolon := mark_length_lt hm
                split at h
                · exact absurd h (by simp)
                · rename_i u t₃ hu
                  have hunit := Reader.shorter _ hu
                  cases hclose : mark '}' t₃ with
                  | error fault => rw [hclose] at h; exact absurd h (by simp [Except.map])
                  | ok v =>
                    rw [hclose] at h
                    simp only [Except.map, Except.ok.injEq, Prod.mk.injEq] at h
                    have hlt := mark_length_lt hclose
                    rw [← h.2]
                    omega
        · exact absurd h (by simp))

end Reader
end Json
end ArtifactRules
