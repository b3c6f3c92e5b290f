import ArtifactRules.Json.Number
import ArtifactRules.Json.Quote

/-! Skipping a value of any depth. Brackets that are open are kept in a list, innermost first, so
that depth costs nothing but that list. -/

namespace ArtifactRules
namespace Json

inductive Bracket
  | list | record
  deriving DecidableEq, Repr

def Bracket.closing : Bracket → Char
  | list => ']'
  | record => '}'

/-- A text in quotes, after white space. -/
def quote (body : List Char → Except Fault (List Char × List Char)) (s : List Char) :
    Except Fault (List Char × List Char) :=
  match mark '"' s with
  | .error fault => .error fault
  | .ok r => body r

/-- A key and the colon after it. -/
def skipKey (s : List Char) : Except Fault (List Char) :=
  match quote skipBody s with
  | .error fault => .error fault
  | .ok (_, r) => mark ':' r

theorem skipKey_length_lt {s r : List Char} (h : skipKey s = .ok r) : r.length < s.length := by
  unfold skipKey quote at h
  split at h
  · exact absurd h (by simp)
  · rename_i t hq
    split at hq
    · exact absurd hq (by simp)
    · rename_i u hm
      have hmark := mark_length_lt hm
      have hbody := quoteBody_length_lt hq
      have hcolon := mark_length_lt h
      omega

/-- A number whose text ends too early is malformed here: nothing looks for its value. -/
def skipNumeral (s : List Char) : Except Fault (List Char) :=
  match numeral.read s with
  | .error _ => .error .malformed
  | .ok (_, r) => .ok r

/-- A value without parts, that begins with `c`. -/
def skipScalar (c : Char) (s : List Char) : Except Fault (List Char) :=
  if c = 'n' then literal "ull".toList s
  else if c = 't' then literal "rue".toList s
  else if c = 'f' then literal "alse".toList s
  else if c = '"' then (skipBody s).map Prod.snd
  else if c = '-' ∨ (decimalDigit? c).isSome then skipNumeral (c :: s)
  else .error .malformed

theorem skipScalar_length_le {c : Char} {s r : List Char} (h : skipScalar c s = .ok r) :
    r.length ≤ s.length := by
  unfold skipScalar at h
  split at h
  · exact literal_length_le h
  · split at h
    · exact literal_length_le h
    · split at h
      · exact literal_length_le h
      · split at h
        · cases hb : skipBody s with
          | error fault => rw [hb] at h; exact absurd h (by simp [Except.map])
          | ok p =>
            rw [hb] at h
            simp only [Except.map, Except.ok.injEq] at h
            exact h ▸ Nat.le_of_lt (quoteBody_length_lt hb)
        · split at h
          · unfold skipNumeral at h
            split at h
            · exact absurd h (by simp)
            · rename_i n t hn
              cases h
              exact Nat.le_of_lt_succ (numeral.shorter hn)
          · exact absurd h (by simp)

/-- Where skipping stands: before a value, or after one. -/
inductive Spot
  | before | after
  deriving DecidableEq, Repr

def skipFrom (spot : Spot) (brackets : List Bracket) (s : List Char) :
    Except Fault (List Char) :=
  match spot, brackets with
  | .after, [] => .ok s
  | .after, bracket :: outer =>
    match _hs : skipSpace s with
    | [] => .error .unfinished
    | c :: r =>
      if c = bracket.closing then skipFrom .after outer r
      else if c = ',' then
        match bracket with
        | .list => skipFrom .before (.list :: outer) r
        | .record =>
          match _hk : skipKey r with
          | .error fault => .error fault
          | .ok r' => skipFrom .before (.record :: outer) r'
      else .error .malformed
  | .before, outer =>
    match _hs : skipSpace s with
    | [] => .error .unfinished
    | c :: r =>
      if c = '[' then
        match _hr : skipSpace r with
        | [] => .error .unfinished
        | d :: r' =>
          if d = ']' then skipFrom .after outer r'
          else skipFrom .before (.list :: outer) (d :: r')
      else if c = '{' then
        match _hr : skipSpace r with
        | [] => .error .unfinished
        | d :: r' =>
          if d = '}' then skipFrom .after outer r'
          else
            match _hk : skipKey (d :: r') with
            | .error fault => .error fault
            | .ok r'' => skipFrom .before (.record :: outer) r''
      else
        match _hc : skipScalar c r with
        | .error fault => .error fault
        | .ok r' => skipFrom .after outer r'
termination_by s.length
decreasing_by
  · exact skipSpace_cons_length_lt _hs
  · exact skipSpace_cons_length_lt _hs
  · exact Nat.lt_trans (skipKey_length_lt _hk) (skipSpace_cons_length_lt _hs)
  · exact Nat.lt_trans (skipSpace_cons_length_lt _hr) (skipSpace_cons_length_lt _hs)
  · exact Nat.lt_of_le_of_lt (_hr ▸ skipSpace_length_le r) (skipSpace_cons_length_lt _hs)
  · exact Nat.lt_trans (skipSpace_cons_length_lt _hr) (skipSpace_cons_length_lt _hs)
  · exact Nat.lt_trans (skipKey_length_lt _hk)
      (Nat.lt_of_le_of_lt (_hr ▸ skipSpace_length_le r) (skipSpace_cons_length_lt _hs))
  · exact Nat.lt_of_le_of_lt (skipScalar_length_le _hc) (skipSpace_cons_length_lt _hs)

theorem skipFrom_length {spot : Spot} {brackets : List Bracket} {s r : List Char}
    (h : skipFrom spot brackets s = .ok r) :
    r.length ≤ s.length ∧ (spot = .before → r.length < s.length) := by
  fun_induction skipFrom spot brackets s <;>
    grind [→ skipSpace_cons_length_lt, skipSpace_length_le, → skipKey_length_lt,
      → skipScalar_length_le]

/-- One value of any kind. -/
def skip : Reader Unit where
  read s := (skipFrom .before [] s).map ((), ·)
  shorter {s u r} h := by
    cases hs : skipFrom .before [] s with
    | error fault => rw [hs] at h; exact absurd h (by simp [Except.map])
    | ok t =>
      rw [hs] at h
      simp only [Except.map, Except.ok.injEq, Prod.mk.injEq] at h
      exact h.2 ▸ (skipFrom_length hs).2 rfl

end Json
end ArtifactRules
