import ArtifactRules.Json.Space

/-! Quoted texts of JSON: how they are written, and how they are read or skipped. A text that is
read holds Unicode scalar values only; one that is skipped may also escape half of a surrogate
pair. -/

namespace ArtifactRules
namespace Json

def hexDigit? (c : Char) : Option Nat :=
  if 0x30 ≤ c.toNat ∧ c.toNat ≤ 0x39 then some (c.toNat - 0x30)
  else if 0x41 ≤ c.toNat ∧ c.toNat ≤ 0x46 then some (c.toNat - 0x41 + 10)
  else if 0x61 ≤ c.toNat ∧ c.toNat ≤ 0x66 then some (c.toNat - 0x61 + 10)
  else none

/-- Four hexadecimal digits. The text ends too early if fewer than four bytes are left of it. -/
def hexUnit (s : List Char) : Except Fault (Nat × List Char) :=
  match s with
  | a :: b :: c :: d :: r =>
    match hexDigit? a, hexDigit? b, hexDigit? c, hexDigit? d with
    | some a, some b, some c, some d => .ok (((a * 16 + b) * 16 + c) * 16 + d, r)
    | _, _, _, _ => .error .malformed
  | short => .error (if (String.ofList short).utf8ByteSize < 4 then .unfinished else .malformed)

theorem hexUnit_length_lt {s r : List Char} {n : Nat} (h : hexUnit s = .ok (n, r)) :
    r.length < s.length := by
  unfold hexUnit at h
  split at h
  · split at h
    · cases h; simp only [List.length_cons]; omega
    · exact absurd h (by simp)
  · exact absurd h (by simp)

def isHighSurrogate (n : Nat) : Bool :=
  0xD800 ≤ n && n ≤ 0xDBFF

def isLowSurrogate (n : Nat) : Bool :=
  0xDC00 ≤ n && n ≤ 0xDFFF

def ofSurrogates (high low : Nat) : Char :=
  Char.ofNat (0x10000 + (high - 0xD800) * 0x400 + (low - 0xDC00))

/-- The character named by the letter after a backslash. -/
def shortEscape? (c : Char) : Option Char :=
  if c = '"' ∨ c = '\\' ∨ c = '/' then some c
  else if c = 'b' then some '\x08'
  else if c = 'f' then some '\x0c'
  else if c = 'n' then some '\n'
  else if c = 'r' then some '\r'
  else if c = 't' then some '\t'
  else none

/-- A code unit, and the second half of its pair if it is the first. -/
def unicodeEscape (s : List Char) : Except Fault (Char × List Char) :=
  match hexUnit s with
  | .error fault => .error fault
  | .ok (n, r) =>
    if isLowSurrogate n then .error .malformed
    else if isHighSurrogate n then
      match literal ['\\', 'u'] r with
      | .error fault => .error fault
      | .ok r' =>
        match hexUnit r' with
        | .error fault => .error fault
        | .ok (m, r'') => if isLowSurrogate m then .ok (ofSurrogates n m, r'') else .error .malformed
    else .ok (Char.ofNat n, r)

theorem unicodeEscape_length_lt {s r : List Char} {c : Char} (h : unicodeEscape s = .ok (c, r)) :
    r.length < s.length := by
  unfold unicodeEscape at h
  split at h
  · exact absurd h (by simp)
  · rename_i n t hn
    have ht := hexUnit_length_lt hn
    split at h
    · exact absurd h (by simp)
    · split at h
      · split at h
        · exact absurd h (by simp)
        · rename_i t' hl
          have hl' := literal_length_le hl
          split at h
          · exact absurd h (by simp)
          · rename_i m t'' hm
            have hm' := hexUnit_length_lt hm
            split at h
            · simp only [Except.ok.injEq, Prod.mk.injEq] at h
              rw [← h.2]
              omega
            · exact absurd h (by simp)
      · simp only [Except.ok.injEq, Prod.mk.injEq] at h
        exact h.2 ▸ ht

/-- What follows a backslash, with `unit` for what follows `\u`. -/
def escape (unit : Reader Char) : Reader Char where
  read
    | [] => .error .unfinished
    | c :: r =>
      if c = 'u' then unit.read r
      else match shortEscape? c with
        | some d => .ok (d, r)
        | none => .error .malformed
  shorter {s d r} h := by
    split at h
    · exact absurd h (by simp)
    · rename_i c t
      split at h
      · exact Nat.lt_succ_of_lt (unit.shorter h)
      · split at h
        · cases h; simp
        · exact absurd h (by simp)

def readEscape : Reader Char :=
  escape ⟨unicodeEscape, unicodeEscape_length_lt⟩

/-- Any code unit will do, and stands for nothing. -/
def skipEscape : Reader Char :=
  escape {
    read := fun s => (hexUnit s).map (Prod.map (fun _ => '\ufffd') id)
    shorter := fun h =>
      let ⟨_, hu, _⟩ := exists_of_map_eq_ok h
      hexUnit_length_lt hu }

/-- The characters up to the closing quote. -/
def quoteBody (escape : Reader Char) (s : List Char) : Except Fault (List Char × List Char) :=
  match s with
  | [] => .error .unfinished
  | c :: cs =>
    if c = '"' then .ok ([], cs)
    else if c = '\\' then
      match _h : escape.read cs with
      | .error fault => .error fault
      | .ok (d, r) => (quoteBody escape r).map (Prod.map (d :: ·) id)
    else if c.toNat < 0x20 then .error .malformed
    else (quoteBody escape cs).map (Prod.map (c :: ·) id)
termination_by s.length
decreasing_by
  · exact Nat.lt_succ_of_lt (escape.shorter _h)
  · exact Nat.lt_succ_self _

theorem quoteBody_length_lt {escape : Reader Char} {s text r : List Char}
    (h : quoteBody escape s = .ok (text, r)) : r.length < s.length := by
  fun_induction quoteBody escape s generalizing text r with
  | case1 => exact absurd h (by simp)
  | case2 => cases h; exact Nat.lt_succ_self _
  | case3 => exact absurd h (by simp)
  | case4 cs d t hesc hq ih =>
    obtain ⟨text', hbody, -⟩ := exists_of_map_eq_ok h
    exact Nat.lt_succ_of_lt (Nat.lt_trans (ih hbody) (escape.shorter hesc))
  | case5 => exact absurd h (by simp)
  | case6 c cs hq hb hc ih =>
    obtain ⟨text', hbody, -⟩ := exists_of_map_eq_ok h
    exact Nat.lt_succ_of_lt (ih hbody)

/-- After the opening quote. -/
def readBody : List Char → Except Fault (List Char × List Char) :=
  quoteBody readEscape

def skipBody : List Char → Except Fault (List Char × List Char) :=
  quoteBody skipEscape

/-- Lower-case digits. -/
def hexUnitText (n : Nat) : List Char :=
  [n / 0x1000 % 16, n / 0x100 % 16, n / 0x10 % 16, n % 16].map Nat.digitChar

/-- Quotes, backslashes and controls are escaped, and nothing else. -/
def writeChar (c : Char) : List Char :=
  if c = '"' ∨ c = '\\' then ['\\', c]
  else if c = '\x08' then ['\\', 'b']
  else if c = '\x0c' then ['\\', 'f']
  else if c = '\n' then ['\\', 'n']
  else if c = '\r' then ['\\', 'r']
  else if c = '\t' then ['\\', 't']
  else if c.toNat < 0x20 then '\\' :: 'u' :: hexUnitText c.toNat
  else [c]

def writeQuote (s : String) : List Char :=
  '"' :: s.toList.flatMap writeChar ++ ['"']

end Json
end ArtifactRules
