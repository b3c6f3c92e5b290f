import ArtifactRules.Proofs.WrittenArtifacts

/-! Well-formed JSON. Which texts are values is said token by token, with any white space between
the tokens, and without a reader. Skipping passes over each such text however deep it is, up to what
ends it. -/

namespace ArtifactRules
namespace Json

theorem Ends.nil : Ends [] := by simp [Ends]

structure Space where
  chars : List Char
  all_isSpace : chars.all isSpace = true

namespace Space

def empty : Space where
  chars := []
  all_isSpace := rfl

theorem isSpace_of_mem (space : Space) {c : Char} (h : c ∈ space.chars) : isSpace c = true :=
  List.all_eq_true.1 space.all_isSpace c h

theorem skipSpace_append (space : Space) (s : List Char) :
    skipSpace (space.chars ++ s) = skipSpace s :=
  Json.skipSpace_append (fun _ => space.isSpace_of_mem) s

theorem ends_append (space : Space) {rest : List Char} (h : Ends rest) :
    Ends (space.chars ++ rest) :=
  Ends.append_space (fun _ => space.isSpace_of_mem) h

end Space

namespace Bracket

def opening : Bracket → Char
  | list => '['
  | record => '{'

theorem isSpace_opening (bracket : Bracket) : isSpace bracket.opening = false := by
  cases bracket <;> rfl

theorem isSpace_closing (bracket : Bracket) : isSpace bracket.closing = false := by
  cases bracket <;> rfl

end Bracket

namespace Space

theorem skipSpace_closing (space : Space) (bracket : Bracket) (rest : List Char) :
    skipSpace (space.chars ++ [bracket.closing] ++ rest) = bracket.closing :: rest := by
  rw [List.append_assoc, space.skipSpace_append]
  exact skipSpace_cons bracket.isSpace_closing rest

theorem skipSpace_comma (space : Space) (s rest : List Char) :
    skipSpace (space.chars ++ ',' :: s ++ rest) = ',' :: (s ++ rest) := by
  rw [List.append_assoc, space.skipSpace_append]
  exact skipSpace_cons rfl _

theorem skipSpace_text (space : Space) {c : Char} (hc : isSpace c = false)
    (t s rest : List Char) :
    skipSpace (space.chars ++ (c :: t ++ s) ++ rest) = c :: (t ++ (s ++ rest)) := by
  simp [space.skipSpace_append, skipSpace_cons hc]

theorem mark_append (space : Space) {c : Char} (hc : isSpace c = false) (s : List Char) :
    mark c (space.chars ++ c :: s) = .ok s := by
  simp [mark, space.skipSpace_append, skipSpace_cons hc]

end Space

/-- What follows a text in brackets: the closing bracket, or a comma and the next text. -/
inductive Follows (bracket : Bracket) : List (List Char) → List Char → Prop
  | close (space : Space) : Follows bracket [] (space.chars ++ [bracket.closing])
  | comma (after before : Space) (text : List Char) {texts : List (List Char)} {s : List Char}
    (h : Follows bracket texts s) :
    Follows bracket (text :: texts) (after.chars ++ ',' :: (before.chars ++ (text ++ s)))

/-- Texts in brackets, with commas between them. -/
inductive Enclosed (bracket : Bracket) : List (List Char) → List Char → Prop
  | empty (space : Space) :
    Enclosed bracket [] (bracket.opening :: (space.chars ++ [bracket.closing]))
  | first (space : Space) (text : List Char) {texts : List (List Char)} {s : List Char}
    (h : Follows bracket texts s) :
    Enclosed bracket (text :: texts) (bracket.opening :: (space.chars ++ (text ++ s)))

inductive IsDigits : List Char → Prop
  | mk {d : Nat} {ds : List Nat} (h : ∀ x ∈ d :: ds, x < 10) :
    IsDigits ((d :: ds).map Nat.digitChar)

/-- Zero, or digits that do not begin with it. -/
inductive IsWhole : List Char → Prop
  | mk {d : Nat} {ds : List Nat} (h : ∀ x ∈ d :: ds, x < 10) (hzero : d = 0 → ds = []) :
    IsWhole ((d :: ds).map Nat.digitChar)

inductive IsFraction : List Char → Prop
  | absent : IsFraction []
  | point {ds : List Char} (h : IsDigits ds) : IsFraction ('.' :: ds)

inductive IsExponent : List Char → Prop
  | absent : IsExponent []
  | letter {c : Char} {sign ds : List Char} (hc : c = 'e' ∨ c = 'E')
    (hsign : sign = [] ∨ sign = ['+'] ∨ sign = ['-']) (h : IsDigits ds) :
    IsExponent (c :: (sign ++ ds))

inductive IsNumeral : List Char → Prop
  | mk {sign whole fraction exponent : List Char} (hsign : sign = [] ∨ sign = ['-'])
    (hwhole : IsWhole whole) (hfraction : IsFraction fraction) (hexponent : IsExponent exponent) :
    IsNumeral (sign ++ (whole ++ (fraction ++ exponent)))

def SpellsDigit (c : Char) (d : Nat) : Prop :=
  d < 16 ∧ (c = d.digitChar ∨ c = d.digitChar.toUpper)

inductive SpellsUnit : List Char → Nat → Prop
  | mk {a b c d : Char} {p q r t : Nat} (ha : SpellsDigit a p) (hb : SpellsDigit b q)
    (hc : SpellsDigit c r) (hd : SpellsDigit d t) :
    SpellsUnit [a, b, c, d] (((p * 16 + q) * 16 + r) * 16 + t)

def shortEscapes : List (Char × Char) :=
  [('"', '"'), ('\\', '\\'), ('/', '/'), ('b', '\x08'), ('f', '\x0c'), ('n', '\n'), ('r', '\r'),
    ('t', '\t')]

/-- A character by itself, or by the letter for it. -/
inductive SpellsPlainly : List Char → Char → Prop
  | itself {c : Char} (hcontrol : 0x20 ≤ c.toNat) (hquote : c ≠ '"') (hslash : c ≠ '\\') :
    SpellsPlainly [c] c
  | letter {c d : Char} (h : (c, d) ∈ shortEscapes) : SpellsPlainly ['\\', c] d

/-- One character between quotes, or an escape of any code unit. -/
inductive IsPiece : List Char → Prop
  | plainly {s : List Char} {c : Char} (h : SpellsPlainly s c) : IsPiece s
  | unit {s : List Char} {n : Nat} (h : SpellsUnit s n) : IsPiece ('\\' :: 'u' :: s)

inductive IsQuote : List Char → Prop
  | mk {pieces : List (List Char)} (h : ∀ piece ∈ pieces, IsPiece piece) :
    IsQuote ('"' :: (pieces.flatten ++ ['"']))

structure Entry where
  key : List Char
  beforeColon : Space
  afterColon : Space
  value : List Char

def Entry.text (e : Entry) : List Char :=
  e.key ++ (e.beforeColon.chars ++ ':' :: (e.afterColon.chars ++ e.value))

/-- A JSON value of any kind and depth. -/
inductive IsValue : List Char → Prop
  | word {s : List Char} (h : s ∈ ["null".toList, "true".toList, "false".toList]) : IsValue s
  | numeral {s : List Char} (h : IsNumeral s) : IsValue s
  | quote {s : List Char} (h : IsQuote s) : IsValue s
  | list {texts : List (List Char)} {s : List Char} (htexts : ∀ text ∈ texts, IsValue text)
    (h : Enclosed .list texts s) : IsValue s
  | record {entries : List Entry} {s : List Char} (hkeys : ∀ e ∈ entries, IsQuote e.key)
    (hvalues : ∀ e ∈ entries, IsValue e.value)
    (h : Enclosed .record (entries.map Entry.text) s) : IsValue s

/-- A text in brackets begins neither with white space nor with the closing bracket. -/
def Starts (bracket : Bracket) (s : List Char) : Prop :=
  ∃ c t, s = c :: t ∧ isSpace c = false ∧ c ≠ bracket.closing

/-- A reader takes the text for the value, after any white space and before what ends a value. -/
structure Takes {α : Type} (reader : Reader α) (s : List Char) (a : α) : Prop where
  starts : Starts .list s
  read : ∀ (space : Space) {rest : List Char}, Ends rest →
    reader.read (space.chars ++ (s ++ rest)) = .ok (a, rest)

theorem Follows.ends_append {bracket : Bracket} {texts : List (List Char)} {s : List Char}
    (h : Follows bracket texts s) (rest : List Char) : Ends (s ++ rest) := by
  cases h with
  | close space =>
    rw [List.append_assoc]
    apply space.ends_append
    cases bracket <;> simp [Ends, Bracket.closing]
  | comma after before text h =>
    rw [List.append_assoc]
    exact after.ends_append (by simp [Ends])

section Numerals

variable {s rest : List Char}

theorem IsDigits.digits_append (h : IsDigits s) (hrest : ∀ c ∈ rest.head?, decimalDigit? c = none) :
    ∃ ds, digits (s ++ rest) = .ok (ds, rest) := by
  obtain ⟨hdigits⟩ := h
  rename_i d ds
  exact ⟨d :: ds, by rw [digits, digitRun_append hdigits hrest]⟩

theorem IsDigits.exists_head (h : IsDigits s) : ∃ d t, s = Nat.digitChar d :: t ∧ d < 10 := by
  obtain ⟨hdigits⟩ := h
  exact ⟨_, _, rfl, hdigits _ (by simp)⟩

theorem IsExponent.exponentPart_append (h : IsExponent s) (hrest : Ends rest) :
    ∃ e, exponentPart (s ++ rest) = .ok (e, rest) := by
  have hnodigit : ∀ c ∈ rest.head?, decimalDigit? c = none := fun c hc => (hrest.of_head hc).1
  cases h with
  | absent =>
    cases rest with
    | nil => exact ⟨none, rfl⟩
    | cons c rest =>
      have hletter := (hrest.of_head (c := c) (by simp)).2.2
      exact ⟨none, by rw [List.nil_append, exponentPart, if_neg hletter]⟩
  | @letter c sign ds hc hsign hds =>
    obtain ⟨ns, hns⟩ := hds.digits_append hnodigit
    obtain ⟨d, t, hhead, hd⟩ := hds.exists_head
    have hplain : d.digitChar ≠ '-' ∧ d.digitChar ≠ '+' := by
      have hall : ∀ d < 10, Nat.digitChar d ≠ '-' ∧ Nat.digitChar d ≠ '+' := by decide
      exact hall d hd
    have hafter : (exponentSign (sign ++ ds ++ rest)).2 = ds ++ rest := by
      rcases hsign with rfl | rfl | rfl
      · rw [List.nil_append, hhead, List.cons_append, exponentSign, if_neg hplain.1,
          if_neg hplain.2]
      · rfl
      · rfl
    rw [List.cons_append, exponentPart, if_pos hc, hafter, hns]
    exact ⟨_, rfl⟩

theorem IsExponent.head_append (h : IsExponent s) (hrest : Ends rest) :
    ∀ c ∈ (s ++ rest).head?, decimalDigit? c = none ∧ c ≠ '.' := by
  cases h with
  | absent => exact fun c hc => ⟨(hrest.of_head hc).1, (hrest.of_head hc).2.1⟩
  | letter hc =>
    intro c hhead
    cases hhead
    rcases hc with rfl | rfl <;> decide

theorem IsFraction.fractionPart_append (h : IsFraction s)
    (hrest : ∀ c ∈ rest.head?, decimalDigit? c = none ∧ c ≠ '.') :
    ∃ ds, fractionPart (s ++ rest) = .ok (ds, rest) := by
  cases h with
  | absent =>
    cases rest with
    | nil => exact ⟨[], rfl⟩
    | cons c rest =>
      have hpoint := (hrest c (by simp)).2
      exact ⟨[], by rw [List.nil_append, fractionPart, if_neg hpoint]⟩
  | point hds => exact hds.digits_append fun c hc => (hrest c hc).1

theorem IsFraction.head_append (h : IsFraction s)
    (hrest : ∀ c ∈ rest.head?, decimalDigit? c = none ∧ c ≠ '.') :
    ∀ c ∈ (s ++ rest).head?, decimalDigit? c = none := by
  cases h with
  | absent => exact fun c hc => (hrest c hc).1
  | point hds =>
    intro c hhead
    cases hhead
    decide

theorem IsNumeral.read_append (h : IsNumeral s) (hrest : Ends rest) :
    ∃ n, numeral.read (s ++ rest) = .ok (n, rest) := by
  obtain ⟨hsign, hwhole, hfraction, hexponent⟩ := h
  rename_i sign whole fraction exponent
  obtain ⟨hdigits, hzero⟩ := hwhole
  rename_i d ds
  have hexponentHead := hexponent.head_append hrest
  have hfractionHead := hfraction.head_append hexponentHead
  obtain ⟨e, he⟩ := hexponent.exponentPart_append hrest
  obtain ⟨fs, hfs⟩ := hfraction.fractionPart_append hexponentHead
  have hread : ∀ negative, ∃ n, unsignedNumeral negative
      ((d :: ds).map Nat.digitChar ++ (fraction ++ (exponent ++ rest))) = .ok (n, rest) := by
    intro negative
    simp only [unsignedNumeral, wholePart_append hdigits hzero hfractionHead, hfs, he]
    exact ⟨_, rfl⟩
  simp only [List.append_assoc]
  rcases hsign with rfl | rfl
  · obtain ⟨n, hn⟩ := hread false
    have hplain : d.digitChar ≠ '-' := by
      have hall : ∀ d < 10, Nat.digitChar d ≠ '-' := by decide
      exact hall d (hdigits d (by simp))
    refine ⟨n, ?_⟩
    rw [← hn]
    simp only [numeral, List.nil_append, List.map_cons, List.cons_append, if_neg hplain]
  · exact hread true

theorem IsNumeral.exists_head (h : IsNumeral s) :
    ∃ c t, s = c :: t ∧ (c = '-' ∨ (decimalDigit? c).isSome) := by
  obtain ⟨hsign, ⟨hdigits, -⟩, -, -⟩ := h
  rcases hsign with rfl | rfl
  · refine ⟨_, _, rfl, .inr ?_⟩
    rw [decimalDigit?_digitChar (hdigits _ (by simp))]
    rfl
  · exact ⟨_, _, rfl, .inl rfl⟩

end Numerals

section Quotes

variable {s rest : List Char} {c : Char} {d n : Nat}

theorem SpellsDigit.hexDigit?_eq (h : SpellsDigit c d) : hexDigit? c = some d := by
  have hupper : ∀ d < 16, hexDigit? (Nat.digitChar d).toUpper = some d := by decide
  obtain ⟨hd, rfl | rfl⟩ := h
  · exact hexDigit?_digitChar hd
  · exact hupper d hd

theorem SpellsUnit.hexUnit_append (h : SpellsUnit s n) (rest : List Char) :
    hexUnit (s ++ rest) = .ok (n, rest) := by
  obtain ⟨ha, hb, hc, hd⟩ := h
  simp only [List.cons_append, List.nil_append, hexUnit, ha.hexDigit?_eq, hb.hexDigit?_eq,
    hc.hexDigit?_eq, hd.hexDigit?_eq]

theorem shortEscape?_of_mem {d : Char} (h : (c, d) ∈ shortEscapes) :
    c ≠ 'u' ∧ shortEscape? c = some d := by
  have hall : ∀ p ∈ shortEscapes, p.1 ≠ 'u' ∧ shortEscape? p.1 = some p.2 := by decide
  exact hall _ h

theorem SpellsPlainly.quoteBody_append (h : SpellsPlainly s c) (unit : Reader Char)
    (rest : List Char) :
    quoteBody (escape unit) (s ++ rest) =
      (quoteBody (escape unit) rest).map (Prod.map (c :: ·) id) := by
  cases h with
  | itself hcontrol hquote hslash =>
    rw [List.singleton_append, quoteBody, if_neg hquote]
    simp only [hslash, if_false, if_neg (Nat.not_lt.2 hcontrol)]
  | letter hmem =>
    obtain ⟨hunit, hshort⟩ := shortEscape?_of_mem hmem
    rw [List.cons_append]
    apply quoteBody_cons_escape
    simp only [escape, List.singleton_append, if_neg hunit, hshort]

theorem quoteBody_flatten {escape : Reader Char} {pieces : List (List Char)} {cs : List Char}
    (h : List.Forall₂ (fun piece c => ∀ rest, quoteBody escape (piece ++ rest) =
      (quoteBody escape rest).map (Prod.map (c :: ·) id)) pieces cs) (rest : List Char) :
    quoteBody escape (pieces.flatten ++ '"' :: rest) = .ok (cs, rest) := by
  induction h with
  | nil =>
    rw [List.flatten_nil, List.nil_append, quoteBody]
    rfl
  | cons hpiece _ ih =>
    rw [List.flatten_cons, List.append_assoc, hpiece, ih]
    rfl

theorem IsPiece.exists_skipped {piece : List Char} (h : IsPiece piece) :
    ∃ c, ∀ rest, quoteBody skipEscape (piece ++ rest) =
      (quoteBody skipEscape rest).map (Prod.map (c :: ·) id) := by
  cases h with
  | plainly hplain => exact ⟨_, hplain.quoteBody_append _⟩
  | unit hunit =>
    refine ⟨'\ufffd', fun rest => ?_⟩
    rw [List.cons_append]
    apply quoteBody_cons_escape
    simp only [skipEscape, escape, List.cons_append, if_true, hunit.hexUnit_append]
    rfl

theorem IsQuote.skipBody_append (h : IsQuote s) :
    ∃ body, s = '"' :: body ∧ ∀ rest, ∃ cs, skipBody (body ++ rest) = .ok (cs, rest) := by
  obtain ⟨hpieces⟩ := h
  rename_i pieces
  refine ⟨_, rfl, fun rest => ?_⟩
  have hskipped : ∃ cs, List.Forall₂ (fun piece c => ∀ rest, quoteBody skipEscape (piece ++ rest) =
      (quoteBody skipEscape rest).map (Prod.map (c :: ·) id)) pieces cs := by
    induction pieces with
    | nil => exact ⟨[], .nil⟩
    | cons piece pieces ih =>
      obtain ⟨c, hc⟩ := (hpieces piece (by simp)).exists_skipped
      obtain ⟨cs, hcs⟩ := ih fun piece hmem => hpieces piece (by simp [hmem])
      exact ⟨c :: cs, .cons hc hcs⟩
  obtain ⟨cs, hcs⟩ := hskipped
  exact ⟨cs, by rw [List.append_assoc]; exact quoteBody_flatten hcs rest⟩

end Quotes

section Skipping

def Bracket.lead : Bracket → List Char → Except Fault (List Char)
  | list, s => .ok s
  | record, s => skipKey s

variable {bracket : Bracket} {outer : List Bracket} {c : Char} {s r r' t : List Char}

theorem skipFrom_after (h : skipSpace s = c :: r) :
    skipFrom .after (bracket :: outer) s =
      if c = bracket.closing then skipFrom .after outer r
      else if c = ',' then bracket.lead r >>= skipFrom .before (bracket :: outer)
      else .error .malformed := by
  rw [skipFrom]
  split
  · rename_i hend
    simp [h] at hend
  · rename_i d u hs
    rw [h] at hs
    cases hs
    cases bracket with
    | list => rfl
    | record =>
      refine ite_congr rfl (fun _ => rfl) fun _ => ite_congr rfl (fun _ => ?_) fun _ => rfl
      dsimp only [Bracket.lead]
      split
      · rename_i fault hkey
        rw [hkey]
        rfl
      · rename_i u hkey
        rw [hkey]
        rfl

theorem skipFrom_before (h : skipSpace s = bracket.opening :: r) (hfirst : skipSpace r = c :: t) :
    skipFrom .before outer s =
      if c = bracket.closing then skipFrom .after outer t
      else bracket.lead (c :: t) >>= skipFrom .before (bracket :: outer) := by
  rw [skipFrom]
  split
  · rename_i hend
    simp [h] at hend
  · rename_i d u hs
    rw [h] at hs
    cases hs
    cases bracket with
    | list =>
      simp only [Bracket.opening, if_true]
      split
      · rename_i hend
        simp [hfirst] at hend
      · rename_i d u hs
        rw [hfirst] at hs
        cases hs
        rfl
    | record =>
      simp only [Bracket.opening, Char.reduceEq, if_false, if_true]
      split
      · rename_i hend
        simp [hfirst] at hend
      · rename_i d u hs
        rw [hfirst] at hs
        cases hs
        refine ite_congr rfl (fun _ => rfl) fun _ => ?_
        rw [Bracket.lead]
        split
        · rename_i fault hkey
          rw [hkey]
          rfl
        · rename_i u hkey
          rw [hkey]
          rfl

theorem skipFrom_close (h : skipSpace s = bracket.closing :: r) :
    skipFrom .after (bracket :: outer) s = skipFrom .after outer r := by
  rw [skipFrom_after h, if_pos rfl]

theorem skipFrom_comma (h : skipSpace s = ',' :: r) (hlead : bracket.lead r = .ok r') :
    skipFrom .after (bracket :: outer) s = skipFrom .before (bracket :: outer) r' := by
  have hclosing : ',' ≠ bracket.closing := by cases bracket <;> decide
  rw [skipFrom_after h, if_neg hclosing, if_pos rfl, hlead]
  rfl

theorem skipFrom_empty (h : skipSpace s = bracket.opening :: r)
    (hclose : skipSpace r = bracket.closing :: r') :
    skipFrom .before outer s = skipFrom .after outer r' := by
  rw [skipFrom_before h hclose, if_pos rfl]

theorem skipFrom_open (h : skipSpace s = bracket.opening :: r) (hfirst : skipSpace r = c :: t)
    (hc : c ≠ bracket.closing) (hlead : bracket.lead (c :: t) = .ok r') :
    skipFrom .before outer s = skipFrom .before (bracket :: outer) r' := by
  rw [skipFrom_before h hfirst, if_neg hc, hlead]
  rfl

theorem skipFrom_scalar (h : skipSpace s = c :: r) (hlist : c ≠ '[') (hrecord : c ≠ '{')
    (hscalar : skipScalar c r = .ok r') : skipFrom .before outer s = skipFrom .after outer r' := by
  rw [skipFrom]
  split
  · rename_i hend
    simp [h] at hend
  · rename_i d u hs
    rw [h] at hs
    cases hs
    rw [if_neg hlist, if_neg hrecord]
    split
    · rename_i fault hread
      simp [hscalar] at hread
    · rename_i u hread
      rw [hscalar] at hread
      cases hread
      rfl

structure Skips (s : List Char) : Prop where
  starts : Starts .list s
  skip : ∀ (outer : List Bracket) (space : Space) {rest : List Char}, Ends rest →
    skipFrom .before outer (space.chars ++ (s ++ rest)) = skipFrom .after outer rest

/-- Skipping passes over the text in brackets, with what stands there before a value. -/
structure SkipsIn (bracket : Bracket) (text : List Char) : Prop where
  starts : Starts bracket text
  skip : ∀ (outer : List Bracket) (space : Space) {rest : List Char}, Ends rest →
    ∃ r, bracket.lead (space.chars ++ (text ++ rest)) = .ok r ∧
      skipFrom .before (bracket :: outer) r = skipFrom .after (bracket :: outer) rest

theorem skipScalar_of_mem (h : c ∈ [' ', '\t', '\n', '\r', '[', ']', '\x7b']) (s : List Char) :
    skipScalar c s = .error .malformed := by
  simp only [List.mem_cons, List.not_mem_nil, or_false] at h
  rcases h with rfl | rfl | rfl | rfl | rfl | rfl | rfl <;> rfl

theorem skips_of_skipScalar (h : ∀ {rest}, Ends rest → skipScalar c (t ++ rest) = .ok rest) :
    Skips (c :: t) := by
  have hno : c ∉ [' ', '\t', '\n', '\r', '[', ']', '\x7b'] := by
    intro hmem
    have hscalar := h Ends.nil
    rw [skipScalar_of_mem hmem] at hscalar
    cases hscalar
  simp only [List.mem_cons, List.not_mem_nil, or_false, not_or] at hno
  obtain ⟨hblank, htab, hfeed, hreturn, hlist, hclose, hrecord⟩ := hno
  have hspace : isSpace c = false := by simp [isSpace, hblank, htab, hfeed, hreturn]
  refine ⟨⟨c, t, rfl, hspace, hclose⟩, fun outer space rest hrest => ?_⟩
  have hstart : skipSpace (space.chars ++ (c :: t ++ rest)) = c :: (t ++ rest) := by
    rw [space.skipSpace_append, List.cons_append, skipSpace_cons hspace]
  exact skipFrom_scalar hstart hlist hrecord (h hrest)

theorem Skips.skipsIn_list (h : Skips s) : SkipsIn .list s :=
  ⟨h.starts, fun outer space _ hrest => ⟨_, rfl, h.skip (.list :: outer) space hrest⟩⟩

theorem Entry.skipsIn_record {e : Entry} (hkey : IsQuote e.key) (hvalue : Skips e.value) :
    SkipsIn .record e.text := by
  obtain ⟨body, hquote, hbody⟩ := hkey.skipBody_append
  constructor
  · rw [Entry.text, hquote]
    exact ⟨'"', _, rfl, rfl, by decide⟩
  · intro outer space rest hrest
    obtain ⟨cs, hcs⟩ :=
      hbody (e.beforeColon.chars ++ ':' :: (e.afterColon.chars ++ (e.value ++ rest)))
    refine ⟨e.afterColon.chars ++ (e.value ++ rest), ?_, hvalue.skip _ _ hrest⟩
    simp only [Bracket.lead, skipKey, Entry.text, hquote, quote, List.append_assoc,
      List.cons_append, space.mark_append (show isSpace '"' = false by rfl), hcs]
    exact e.beforeColon.mark_append rfl _

theorem Follows.skip {texts : List (List Char)} (h : Follows bracket texts s)
    (htexts : ∀ text ∈ texts, SkipsIn bracket text) (outer : List Bracket) (rest : List Char) :
    skipFrom .after (bracket :: outer) (s ++ rest) = skipFrom .after outer rest := by
  induction h with
  | close space => exact skipFrom_close (space.skipSpace_closing bracket rest)
  | @comma after before text texts s h ih =>
    obtain ⟨r, hlead, hskip⟩ := (htexts text (by simp)).skip outer before (h.ends_append rest)
    simp only [← List.append_assoc] at hlead
    have hcomma := after.skipSpace_comma (before.chars ++ (text ++ s)) rest
    simp only [← List.append_assoc] at hcomma ⊢
    rw [skipFrom_comma hcomma hlead, hskip]
    exact ih fun text hmem => htexts text (by simp [hmem])

theorem Enclosed.skips {texts : List (List Char)} (h : Enclosed bracket texts s)
    (htexts : ∀ text ∈ texts, SkipsIn bracket text) : Skips s := by
  have hopening : bracket.opening ≠ Bracket.list.closing := by cases bracket <;> decide
  have hstart : ∀ (space : Space) (s : List Char),
      skipSpace (space.chars ++ bracket.opening :: s) = bracket.opening :: s := by
    intro space s
    rw [space.skipSpace_append, skipSpace_cons bracket.isSpace_opening]
  cases h with
  | empty inner =>
    refine ⟨⟨_, _, rfl, bracket.isSpace_opening, hopening⟩, fun outer space rest _ => ?_⟩
    exact skipFrom_empty (hstart space _) (inner.skipSpace_closing bracket rest)
  | @first inner text texts s h =>
    refine ⟨⟨_, _, rfl, bracket.isSpace_opening, hopening⟩, fun outer space rest _ => ?_⟩
    have htext := htexts text (by simp)
    obtain ⟨c, t, rfl, hc, hclose⟩ := htext.starts
    obtain ⟨r, hlead, hskip⟩ := htext.skip outer .empty (h.ends_append rest)
    have hfirst := inner.skipSpace_text hc t s rest
    rw [List.cons_append, skipFrom_open (hstart space _) hfirst hclose hlead, hskip]
    exact h.skip (fun text hmem => htexts text (by simp [hmem])) outer rest

theorem IsValue.skips (h : IsValue s) : Skips s := by
  induction h with
  | word hword =>
    simp only [List.mem_cons, List.not_mem_nil, or_false] at hword
    rcases hword with rfl | rfl | rfl <;> exact skips_of_skipScalar fun _ => rfl
  | numeral hnumeral =>
    obtain ⟨c, t, rfl, hc⟩ := hnumeral.exists_head
    apply skips_of_skipScalar
    intro rest hrest
    obtain ⟨n, hn⟩ := hnumeral.read_append hrest
    have hother : c ≠ 'n' ∧ c ≠ 't' ∧ c ≠ 'f' ∧ c ≠ '"' := by
      refine ⟨?_, ?_, ?_, ?_⟩ <;> rintro rfl <;> exact absurd hc (by decide)
    obtain ⟨hnull, htrue, hfalse, hquote⟩ := hother
    rw [List.cons_append] at hn
    simp only [skipScalar, if_neg hnull, if_neg htrue, if_neg hfalse, if_neg hquote, if_pos hc,
      skipNumeral, hn]
  | quote hquote =>
    obtain ⟨body, rfl, hbody⟩ := hquote.skipBody_append
    apply skips_of_skipScalar
    intro rest _
    obtain ⟨cs, hcs⟩ := hbody rest
    simp only [skipScalar, Char.reduceEq, if_false, if_true, hcs]
    rfl
  | list _ henclosed ih =>
    exact henclosed.skips fun text hmem => (ih text hmem).skipsIn_list
  | record hkeys _ henclosed ih =>
    refine henclosed.skips (List.forall_mem_map.2 fun e he => ?_)
    exact e.skipsIn_record (hkeys e he) (ih e he)

end Skipping

/-- A value of any kind is skipped. -/
theorem IsValue.takes {s : List Char} (h : IsValue s) : Takes skip s () := by
  have hskips := h.skips
  refine ⟨hskips.starts, fun space rest hrest => ?_⟩
  have hskip : skipFrom .before [] (space.chars ++ (s ++ rest)) = .ok rest := by
    rw [hskips.skip [] space hrest, skipFrom]
  simp only [skip, hskip]
  rfl

end Json
end ArtifactRules
