import ArtifactRules.Json.Reader

/-! Records with named fields. A shape lists its fields as slots of a draft, each filled by the
reader of its value, and finishes a draft whose required slots are filled. -/

namespace ArtifactRules
namespace Json

structure Slot (D : Type) where
  name : String
  filled : D → Bool
  reader : Reader (D → D)

def Slot.of {D β : Type} (name : String) (filled : D → Bool) (reader : Reader β)
    (put : β → D → D) : Slot D :=
  ⟨name, filled, reader.map put⟩

/-- The first required field that a draft lacks, and its position among all fields. -/
structure Absent where
  name : String
  index : Nat
  deriving DecidableEq, Repr

def required {β : Type} (name : String) (index : Nat) : Option β → Except Absent β
  | some b => .ok b
  | none => .error ⟨name, index⟩

structure Shape (D α : Type) where
  title : String
  slots : List (Slot D)
  blank : D
  finish : D → Except Absent α

variable {D α : Type}

/-- A key and its value. A key that comes twice is refused before its value is read. -/
def entry (slots : List (Slot D)) (draft : D) (s : List Char) : Except Fault (D × List Char) :=
  match quote readBody s with
  | .error fault => .error fault
  | .ok (key, r) =>
    match slots.find? (·.name == String.ofList key) with
    | none =>
      match mark ':' r with
      | .error fault => .error fault
      | .ok r' => (skip.read r').map (Prod.map (fun _ => draft) id)
    | some slot =>
      if slot.filled draft then .error (.mismatch (.repeatedField slot.name))
      else
        match mark ':' r with
        | .error fault => .error fault
        | .ok r' => (slot.reader.read r').map (Prod.map (· draft) id)

theorem entry_length_lt {slots : List (Slot D)} {draft draft' : D} {s r : List Char}
    (h : entry slots draft s = .ok (draft', r)) : r.length < s.length := by
  unfold entry quote at h
  split at h
  · exact absurd h (by simp)
  · rename_i key t hq
    split at hq
    · exact absurd hq (by simp)
    · rename_i u hm
      have hopen := mark_length_lt hm
      have hbody := quoteBody_length_lt hq
      have hcolon := @mark_length_lt ':' t
      split at h
      · split at h
        · exact absurd h (by simp)
        · rename_i v hc
          obtain ⟨x, hx, -⟩ := exists_of_map_eq_ok h
          have hvalue := skip.shorter hx
          have hlt := hcolon hc
          omega
      · rename_i slot hslot
        split at h
        · exact absurd h (by simp)
        · split at h
          · exact absurd h (by simp)
          · rename_i v hc
            obtain ⟨x, hx, -⟩ := exists_of_map_eq_ok h
            have hvalue := slot.reader.shorter hx
            have hlt := hcolon hc
            omega

/-- The entries of an object, from the first key to the closing bracket. -/
def entries (slots : List (Slot D)) (draft : D) (s : List Char) : Except Fault (D × List Char) :=
  match _he : entry slots draft s with
  | .error fault => .error fault
  | .ok (draft', r) =>
    match _hs : skipSpace r with
    | [] => .error .unfinished
    | c :: r' =>
      if c = '}' then .ok (draft', r')
      else if c = ',' then entries slots draft' r'
      else .error .malformed
termination_by s.length
decreasing_by
  exact Nat.lt_trans (skipSpace_cons_length_lt _hs) (entry_length_lt _he)

theorem entries_length_lt {slots : List (Slot D)} {draft draft' : D} {s r : List Char}
    (h : entries slots draft s = .ok (draft', r)) : r.length < s.length := by
  fun_induction entries slots draft s <;>
    grind [→ skipSpace_cons_length_lt, → entry_length_lt]

/-- Values in the order of the slots, to the closing bracket; a comma stands before each value but
the first. -/
def positional (isFirst : Bool) : List (Slot D) → D → List Char → Except Fault (D × List Char)
  | [], draft, s => (mark ']' s).map (draft, ·)
  | slot :: slots, draft, s =>
    match skipSpace s with
    | [] => .error .unfinished
    | c :: r =>
      if c = ']' then .ok (draft, r)
      else if isFirst then
        match slot.reader.read (c :: r) with
        | .error fault => .error fault
        | .ok (put, r') => positional false slots (put draft) r'
      else if c = ',' then
        match skipSpace r with
        | [] => .error .unfinished
        | d :: r' =>
          if d = ']' then .error .malformed
          else
            match slot.reader.read (d :: r') with
            | .error fault => .error fault
            | .ok (put, r'') => positional false slots (put draft) r''
      else .error .malformed

theorem positional_length_lt {isFirst : Bool} {slots : List (Slot D)} {draft draft' : D}
    {s r : List Char} (h : positional isFirst slots draft s = .ok (draft', r)) :
    r.length < s.length := by
  fun_induction positional isFirst slots draft s with
  | case1 isFirst draft s =>
    cases hm : mark ']' s with
    | error fault => rw [hm] at h; exact absurd h (by simp [Except.map])
    | ok t =>
      rw [hm] at h
      simp only [Except.map, Except.ok.injEq, Prod.mk.injEq] at h
      exact h.2 ▸ mark_length_lt hm
  | _ => grind [→ skipSpace_cons_length_lt, skipSpace_length_le, → Reader.shorter]

namespace Shape

def complete (shape : Shape D α) (fault : Absent → Mismatch) (draft : D) : Except Fault α :=
  (shape.finish draft).mapError fun absent => .mismatch (fault absent)

def wrongLength (shape : Shape D α) (absent : Absent) : Mismatch :=
  .wrongLength absent.index
    (shape.title ++ " with " ++ toString shape.slots.length ++ " elements")

def object (shape : Shape D α) (s : List Char) : Except Fault (α × List Char) :=
  match skipSpace s with
  | [] => .error .unfinished
  | c :: r =>
    match (if c = '}' then .ok (shape.blank, r) else entries shape.slots shape.blank (c :: r)) with
    | .error fault => .error fault
    | .ok (draft, r') => (shape.complete (fun a => .missingField a.name) draft).map (·, r')

theorem object_length_lt {shape : Shape D α} {s r : List Char} {a : α}
    (h : shape.object s = .ok (a, r)) : r.length < s.length := by
  unfold object at h
  split at h
  · exact absurd h (by simp)
  · rename_i c t hs
    have hle := skipSpace_length_le s
    have hlt := skipSpace_cons_length_lt hs
    rw [hs] at hle
    split at h
    · exact absurd h (by simp)
    · rename_i draft u hdraft
      have hu : u.length < s.length := by
        split at hdraft
        · cases hdraft; exact hlt
        · exact Nat.lt_of_lt_of_le (entries_length_lt hdraft) hle
      cases hc : shape.complete (fun a => .missingField a.name) draft with
      | error fault => rw [hc] at h; exact absurd h (by simp [Except.map])
      | ok b =>
        rw [hc] at h
        simp only [Except.map, Except.ok.injEq, Prod.mk.injEq] at h
        exact h.2 ▸ hu

def array (shape : Shape D α) (s : List Char) : Except Fault (α × List Char) :=
  match positional true shape.slots shape.blank s with
  | .error fault => .error fault
  | .ok (draft, r) => (shape.complete shape.wrongLength draft).map (·, r)

theorem array_length_lt {shape : Shape D α} {s r : List Char} {a : α}
    (h : shape.array s = .ok (a, r)) : r.length < s.length := by
  unfold array at h
  split at h
  · exact absurd h (by simp)
  · rename_i draft t hp
    cases hc : shape.complete shape.wrongLength draft with
    | error fault => rw [hc] at h; exact absurd h (by simp [Except.map])
    | ok b =>
      rw [hc] at h
      simp only [Except.map, Except.ok.injEq, Prod.mk.injEq] at h
      exact h.2 ▸ positional_length_lt hp

def reader (shape : Shape D α) : Reader α :=
  .first
    (fun c s =>
      if c = '{' then shape.object s
      else if c = '[' then shape.array s
      else .error (wrongType shape.title c s))
    (by
      intro c s a r h
      split at h
      · exact Nat.le_of_lt (object_length_lt h)
      · split at h
        · exact Nat.le_of_lt (array_length_lt h)
        · exact absurd h (by simp))

end Shape
end Json
end ArtifactRules
