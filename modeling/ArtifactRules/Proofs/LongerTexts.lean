import ArtifactRules.Proofs.RecordChecks
import ArtifactRules.Proofs.WellFormedJson

/-! Readers on longer texts. What is read off a text is read off every longer text too, and what is
left is longer by as much. A number that ends with the text is the one exception, so no whole text
that ends in a bracket becomes another one by being cut off. -/

namespace ArtifactRules
namespace Json

variable {α β : Type} {s r : List Char}

/-- What is read tells by itself where it ends. -/
def SelfDelimiting (read : List Char → Except Fault (β × List Char)) : Prop :=
  ∀ ⦃s b r⦄, read s = .ok (b, r) → ∀ more, read (s ++ more) = .ok (b, r ++ more)

/-- What is read may go on in a longer text, but not past anything that was left of this one. -/
def Delimited (read : List Char → Except Fault (β × List Char)) : Prop :=
  ∀ ⦃s b r⦄, read s = .ok (b, r) → r ≠ [] → ∀ more, read (s ++ more) = .ok (b, r ++ more)

section Reads

variable {read : List Char → Except Fault (α × List Char)}

theorem SelfDelimiting.delimited (h : SelfDelimiting read) : Delimited read :=
  fun _ _ _ hread _ => h hread

theorem SelfDelimiting.map (h : SelfDelimiting read) (f : α → β) :
    SelfDelimiting fun s => (read s).map (Prod.map f id) := by
  intro s b r hread more
  obtain ⟨a, ha, rfl⟩ := exists_of_map_eq_ok hread
  dsimp only
  rw [h ha more]
  rfl

end Reads

section Marks

variable {c : Char}

theorem skipSpace_append_of_cons (h : skipSpace s = c :: r) (more : List Char) :
    skipSpace (s ++ more) = c :: (r ++ more) := by
  rw [skipSpace] at h ⊢
  rw [List.dropWhile_append, h]
  rfl

theorem ne_nil_of_skipSpace (h : skipSpace s = c :: r) : s ≠ [] := by
  rintro rfl
  cases h

theorem literal_append_of_ok {word : List Char} (h : literal word s = .ok r) (more : List Char) :
    literal word (s ++ more) = .ok (r ++ more) := by
  induction word generalizing s with
  | nil =>
    cases h
    rfl
  | cons c word ih =>
    cases s with
    | nil => cases h
    | cons d s =>
      rw [literal] at h
      split at h
      · rename_i hcd
        rw [List.cons_append, literal, if_pos hcd, ih h]
      · cases h

theorem mark_append_of_ok (h : mark c s = .ok r) (more : List Char) :
    mark c (s ++ more) = .ok (r ++ more) := by
  rw [mark] at h
  split at h
  · cases h
  · rename_i d t hs
    split at h
    · rename_i hd
      cases h
      simp only [mark, skipSpace_append_of_cons hs, if_pos hd]
    · cases h

end Marks

section Quotes

theorem selfDelimiting_hexUnit : SelfDelimiting hexUnit := by
  intro s n r h more
  unfold hexUnit at h
  split at h
  · rename_i a b c d t
    simp only [hexUnit, List.cons_append]
    split at h
    · cases h
      rfl
    · cases h
  · cases h

theorem selfDelimiting_unicodeEscape : SelfDelimiting unicodeEscape := by
  intro s c r h more
  rw [unicodeEscape] at h
  split at h
  · cases h
  rename_i n t hn
  rw [unicodeEscape, selfDelimiting_hexUnit hn more]
  split at h
  · cases h
  rename_i hlow
  dsimp only
  rw [if_neg hlow]
  split at h
  · rename_i hhigh
    rw [if_pos hhigh]
    split at h
    · cases h
    rename_i u hu
    rw [literal_append_of_ok hu more]
    split at h
    · cases h
    rename_i m v hm
    dsimp only
    rw [selfDelimiting_hexUnit hm more]
    split at h
    · rename_i hsecond
      simp only [Except.ok.injEq, Prod.mk.injEq] at h
      obtain ⟨rfl, rfl⟩ := h
      exact if_pos hsecond
    · cases h
  · rename_i hhigh
    cases h
    rw [if_neg hhigh]

theorem selfDelimiting_escape {unit : Reader Char} (h : SelfDelimiting unit.read) :
    SelfDelimiting (escape unit).read := by
  intro s d r hread more
  cases s with
  | nil => cases hread
  | cons c t =>
    simp only [escape, List.cons_append] at hread ⊢
    split at hread
    · rename_i hc
      rw [if_pos hc, h hread more]
    · rename_i hc
      rw [if_neg hc]
      split at hread
      · rename_i e he
        cases hread
        rfl
      · cases hread

theorem selfDelimiting_quoteBody {escape : Reader Char} (h : SelfDelimiting escape.read) :
    SelfDelimiting (quoteBody escape) := by
  intro s text r hread more
  fun_induction quoteBody escape s generalizing text r with
  | case1 => cases hread
  | case2 cs =>
    cases hread
    rw [List.cons_append, quoteBody, if_pos rfl]
  | case3 => cases hread
  | case4 cs d t hescape _ ih =>
    obtain ⟨text', hbody, rfl⟩ := exists_of_map_eq_ok hread
    rw [List.cons_append, quoteBody_cons_escape (h hescape more), ih hbody]
    rfl
  | case5 => cases hread
  | case6 c cs hquote hslash hcontrol ih =>
    obtain ⟨text', hbody, rfl⟩ := exists_of_map_eq_ok hread
    rw [List.cons_append, quoteBody, if_neg hquote, if_neg hslash, if_neg hcontrol, ih hbody]
    rfl

theorem selfDelimiting_readBody : SelfDelimiting readBody :=
  selfDelimiting_quoteBody (selfDelimiting_escape selfDelimiting_unicodeEscape)

theorem selfDelimiting_skipBody : SelfDelimiting skipBody :=
  selfDelimiting_quoteBody (selfDelimiting_escape (selfDelimiting_hexUnit.map fun _ => '\ufffd'))

theorem selfDelimiting_quote {body : List Char → Except Fault (List Char × List Char)}
    (h : SelfDelimiting body) : SelfDelimiting (quote body) := by
  intro s text r hread more
  rw [quote] at hread
  split at hread
  · cases hread
  · rename_i t hmark
    rw [quote, mark_append_of_ok hmark more]
    exact h hread more

end Quotes

section Numbers

theorem ne_nil_of_length_le (h : r.length ≤ s.length) (hr : r ≠ []) : s ≠ [] :=
  List.ne_nil_of_length_pos (Nat.lt_of_lt_of_le (List.length_pos_of_ne_nil hr) h)

theorem digitRun_append_of_rest (h : (digitRun s).2 ≠ []) (more : List Char) :
    digitRun (s ++ more) = ((digitRun s).1, (digitRun s).2 ++ more) := by
  induction s with
  | nil => exact absurd rfl h
  | cons c s ih =>
    rw [List.cons_append]
    cases hc : decimalDigit? c with
    | none => simp [digitRun, hc]
    | some d =>
      simp only [digitRun, hc] at h ⊢
      rw [ih h]

theorem delimited_digits : Delimited digits := by
  intro s ds r h hr more
  have hrun : digitRun s = (ds, r) ∧ ds ≠ [] := by
    rw [digits] at h
    split at h
    · cases h
    · cases h
    · rename_i hnone hsome
      cases hs : digitRun s with
      | mk es t =>
        rw [hs] at h
        cases h
        refine ⟨rfl, ?_⟩
        rintro rfl
        cases r with
        | nil => exact hr rfl
        | cons c r => exact hsome c r hs
  obtain ⟨hrun, hds⟩ := hrun
  have hlonger := digitRun_append_of_rest (s := s) (by rwa [hrun]) more
  rw [hrun] at hlonger
  obtain ⟨d, ds, rfl⟩ := List.exists_cons_of_ne_nil hds
  rw [digits, hlonger]

theorem exponentSign_append (h : s ≠ []) (more : List Char) :
    exponentSign (s ++ more) = ((exponentSign s).1, (exponentSign s).2 ++ more) := by
  obtain ⟨c, s, rfl⟩ := List.exists_cons_of_ne_nil h
  rw [List.cons_append, exponentSign, exponentSign]
  split
  · rfl
  · split <;> rfl

theorem delimited_exponentPart : Delimited exponentPart := by
  intro s e r h hr more
  cases s with
  | nil =>
    cases h
    exact absurd rfl hr
  | cons c t =>
    simp only [exponentPart, List.cons_append] at h ⊢
    split at h
    · rename_i hletter
      rw [if_pos hletter]
      split at h
      · cases h
      · rename_i ds u hds
        cases h
        have ht : t ≠ [] := by
          rintro rfl
          cases hds
        rw [exponentSign_append ht, delimited_digits hds hr]
    · rename_i hletter
      cases h
      rw [if_neg hletter]
      rfl

theorem delimited_fractionPart : Delimited fractionPart := by
  intro s ds r h hr more
  cases s with
  | nil =>
    cases h
    exact absurd rfl hr
  | cons c t =>
    simp only [fractionPart, List.cons_append] at h ⊢
    split at h
    · rename_i hpoint
      rw [if_pos hpoint, delimited_digits h hr]
    · rename_i hpoint
      cases h
      rw [if_neg hpoint]
      rfl

theorem delimited_wholePart : Delimited wholePart := by
  intro s ds r h hr more
  rw [wholePart] at h
  split at h
  · cases h
  · cases h
  · rename_i run hzero hdigits
    cases h
    rw [wholePart, delimited_digits hdigits hr]
    split
    · rename_i heq
      cases heq
    · rename_i heq
      cases heq
      exact absurd rfl (hzero _ _ r)
    · rename_i heq
      exact heq.symm

theorem delimited_unsignedNumeral (negative : Bool) : Delimited (unsignedNumeral negative) := by
  intro s n r h hr more
  rw [unsignedNumeral] at h
  split at h
  · cases h
  rename_i whole t hwhole
  split at h
  · cases h
  rename_i fraction u hfraction
  obtain ⟨exponent, hexponent, rfl⟩ := exists_of_map_eq_ok h
  have hu : u ≠ [] := ne_nil_of_length_le (exponentPart_length_le hexponent) hr
  have ht : t ≠ [] := ne_nil_of_length_le (fractionPart_length_le hfraction) hu
  rw [unsignedNumeral, delimited_wholePart hwhole ht]
  dsimp only
  rw [delimited_fractionPart hfraction hu]
  dsimp only
  rw [delimited_exponentPart hexponent hr]
  rfl

theorem delimited_numeral : Delimited numeral.read := by
  intro s n r h hr more
  cases s with
  | nil => cases h
  | cons c t =>
    simp only [numeral, List.cons_append] at h ⊢
    split at h
    · rename_i hsign
      rw [if_pos hsign, delimited_unsignedNumeral true h hr]
    · rename_i hsign
      rw [if_neg hsign]
      exact delimited_unsignedNumeral false h hr more

end Numbers

section Checks

variable {reader : Reader α}

theorem delimited_refine (h : Delimited reader.read) (check : α → Except Fault β) :
    Delimited (reader.refine check).read := by
  intro s b r hread hr more
  obtain ⟨a, ha, hcheck⟩ := read_refine_eq_ok hread
  rw [read_refine_of_ok (h ha hr more), hcheck]
  rfl

theorem selfDelimiting_refine (h : SelfDelimiting reader.read) (check : α → Except Fault β) :
    SelfDelimiting (reader.refine check).read := by
  intro s b r hread more
  obtain ⟨a, ha, hcheck⟩ := read_refine_eq_ok hread
  rw [read_refine_of_ok (h ha more), hcheck]
  rfl

theorem delimited_number : Delimited number.read :=
  delimited_refine delimited_numeral _

end Checks

section Skipping

theorem skipKey_append_of_ok (h : skipKey s = .ok r) (more : List Char) :
    skipKey (s ++ more) = .ok (r ++ more) := by
  rw [skipKey] at h
  split at h
  · cases h
  · rename_i key t hquote
    rw [skipKey, selfDelimiting_quote selfDelimiting_skipBody hquote more]
    exact mark_append_of_ok h more

theorem skipNumeral_append_of_ok (h : skipNumeral s = .ok r) (hr : r ≠ []) (more : List Char) :
    skipNumeral (s ++ more) = .ok (r ++ more) := by
  rw [skipNumeral] at h
  split at h
  · cases h
  · rename_i n t hnumeral
    cases h
    rw [skipNumeral, delimited_numeral hnumeral hr]

theorem skipScalar_append_of_ok {c : Char} (h : skipScalar c s = .ok r) (hr : r ≠ [])
    (more : List Char) : skipScalar c (s ++ more) = .ok (r ++ more) := by
  rw [skipScalar] at h ⊢
  split at h
  · rename_i hc
    rw [if_pos hc, literal_append_of_ok h]
  rename_i hnull
  rw [if_neg hnull]
  split at h
  · rename_i hc
    rw [if_pos hc, literal_append_of_ok h]
  rename_i htrue
  rw [if_neg htrue]
  split at h
  · rename_i hc
    rw [if_pos hc, literal_append_of_ok h]
  rename_i hfalse
  rw [if_neg hfalse]
  split at h
  · rename_i hc
    rw [if_pos hc]
    obtain ⟨⟨text, t⟩, hbody, rfl⟩ := Reading.map_eq_ok_iff.1 h
    rw [selfDelimiting_skipBody hbody]
    rfl
  rename_i hquote
  rw [if_neg hquote]
  split at h
  · rename_i hc
    rw [if_pos hc]
    exact skipNumeral_append_of_ok h hr more
  · cases h

theorem skipFrom_append_of_ok {spot : Spot} {brackets : List Bracket}
    (h : skipFrom spot brackets s = .ok r) (hr : r ≠ []) (more : List Char) :
    skipFrom spot brackets (s ++ more) = .ok (r ++ more) := by
  -- only the last token can end with the text, and then it is a number
  fun_induction skipFrom spot brackets s with
  | case1 s =>
    cases h
    rw [skipFrom]
  | case3 s bracket outer t hs ih =>
    rw [skipFrom_close (skipSpace_append_of_cons hs more), ih h]
  | case4 s outer t hs _ ih =>
    rw [skipFrom_comma (skipSpace_append_of_cons hs more) rfl, ih h]
  | case6 s outer t u hkey hs _ ih =>
    have hlead : Bracket.record.lead (t ++ more) = .ok (u ++ more) := skipKey_append_of_ok hkey more
    rw [skipFrom_comma (skipSpace_append_of_cons hs more) hlead, ih h]
  | case10 s outer t u hopen hclose ih =>
    have hlonger : skipSpace (s ++ more) = Bracket.list.opening :: (t ++ more) :=
      skipSpace_append_of_cons hopen more
    rw [skipFrom_empty hlonger (skipSpace_append_of_cons hclose more), ih h]
  | case11 s outer t c u hfirst hc hopen ih =>
    have hlonger : skipSpace (s ++ more) = Bracket.list.opening :: (t ++ more) :=
      skipSpace_append_of_cons hopen more
    rw [skipFrom_open hlonger (skipSpace_append_of_cons hfirst more) hc rfl]
    exact ih h
  | case13 s outer t u hopen _ hclose ih =>
    have hlonger : skipSpace (s ++ more) = Bracket.record.opening :: (t ++ more) :=
      skipSpace_append_of_cons hopen more
    rw [skipFrom_empty hlonger (skipSpace_append_of_cons hclose more), ih h]
  | case15 s outer t c u hfirst hc v hkey hopen _ ih =>
    have hlonger : skipSpace (s ++ more) = Bracket.record.opening :: (t ++ more) :=
      skipSpace_append_of_cons hopen more
    have hlead : Bracket.record.lead (c :: (u ++ more)) = .ok (v ++ more) :=
      skipKey_append_of_ok hkey more
    rw [skipFrom_open hlonger (skipSpace_append_of_cons hfirst more) hc hlead, ih h]
  | case17 s outer c t hs hlist hrecord u hscalar ih =>
    have hu : u ≠ [] := ne_nil_of_length_le (skipFrom_length h).1 hr
    rw [skipFrom_scalar (skipSpace_append_of_cons hs more) hlist hrecord
      (skipScalar_append_of_ok hscalar hu more), ih h]
  | _ => cases h

theorem delimited_skip : Delimited skip.read := by
  intro s u r h hr more
  obtain ⟨t, hskip, ht⟩ := Reading.map_eq_ok_iff.1 h
  cases ht
  simp only [skip, skipFrom_append_of_ok hskip hr more]
  rfl

end Skipping

end Json
end ArtifactRules
