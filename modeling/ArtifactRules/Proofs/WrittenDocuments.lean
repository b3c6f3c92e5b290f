import Mathlib.Data.List.Forall2
import ArtifactRules.Proofs.DocumentSpacing
import ArtifactRules.Proofs.Texts
import ArtifactRules.Settings
import ArtifactRules.Workbook.Document

/-! JSON documents read back from their text. A reader takes a written document for a value whatever
white space the writer has put into it, and whatever ends the value after it; texts, lists and
records have this from their parts. Workbooks and settings come back from the text of their file. -/

namespace ArtifactRules
namespace Json

theorem hexDigit?_digitChar {d : Nat} (h : d < 16) : hexDigit? d.digitChar = some d := by
  have hall : ∀ d < 16, hexDigit? (Nat.digitChar d) = some d := by decide
  exact hall d h

theorem hexUnit_hexUnitText {n : Nat} (h : n < 0x10000) (rest : List Char) :
    hexUnit (hexUnitText n ++ rest) = .ok (n, rest) := by
  have hdigit : ∀ m, hexDigit? (m % 16).digitChar = some (m % 16) :=
    fun m => hexDigit?_digitChar (Nat.mod_lt m (by decide))
  have hvalue :
      ((n / 0x1000 % 16 * 16 + n / 0x100 % 16) * 16 + n / 0x10 % 16) * 16 + n % 16 = n := by
    omega
  simp only [hexUnitText, List.map_cons, List.map_nil, List.cons_append, List.nil_append, hexUnit,
    hdigit, hvalue]

theorem unicodeEscape_hexUnitText {n : Nat} (h : n < 0xD800) (rest : List Char) :
    unicodeEscape (hexUnitText n ++ rest) = .ok (Char.ofNat n, rest) := by
  have hlow : isLowSurrogate n = false := by
    simp only [isLowSurrogate, Bool.and_eq_false_iff, decide_eq_false_iff_not]
    omega
  have hhigh : isHighSurrogate n = false := by
    simp only [isHighSurrogate, Bool.and_eq_false_iff, decide_eq_false_iff_not]
    omega
  simp [unicodeEscape, hexUnit_hexUnitText (show n < 0x10000 by omega), hlow, hhigh]

theorem quoteBody_cons_escape {escape : Reader Char} {c : Char} {s r : List Char}
    (h : escape.read s = .ok (c, r)) :
    quoteBody escape ('\\' :: s) = (quoteBody escape r).map (Prod.map (c :: ·) id) := by
  rw [quoteBody]
  simp only [Char.reduceEq, if_false, if_true]
  split
  · rename_i fault hread
    simp [h] at hread
  · rename_i d t hread
    rw [h] at hread
    cases hread
    rfl

theorem quoteBody_writeChar (c : Char) (rest : List Char) :
    quoteBody readEscape (writeChar c ++ rest) =
      (quoteBody readEscape rest).map (Prod.map (c :: ·) id) := by
  unfold writeChar
  split
  · rename_i hc
    apply quoteBody_cons_escape
    rcases hc with rfl | rfl <;> rfl
  split
  · subst c
    exact quoteBody_cons_escape rfl
  split
  · subst c
    exact quoteBody_cons_escape rfl
  split
  · subst c
    exact quoteBody_cons_escape rfl
  split
  · subst c
    exact quoteBody_cons_escape rfl
  split
  · subst c
    exact quoteBody_cons_escape rfl
  split
  · rename_i hlow
    apply quoteBody_cons_escape
    have hunit := unicodeEscape_hexUnitText (show c.toNat < 0xD800 by omega) rest
    rw [Char.ofNat_toNat] at hunit
    exact hunit
  · rename_i hquote _ _ _ _ _ hlow
    obtain ⟨hmark, hslash⟩ := not_or.1 hquote
    rw [List.singleton_append, quoteBody]
    simp only [hmark, hslash, hlow, if_false]

/-- What is written between quotes is read back, up to the closing quote. -/
theorem readBody_flatMap_writeChar (cs rest : List Char) :
    readBody (cs.flatMap writeChar ++ '"' :: rest) = .ok (cs, rest) := by
  induction cs with
  | nil =>
    rw [readBody, List.flatMap_nil, List.nil_append, quoteBody]
    simp
  | cons c cs ih =>
    rw [readBody] at ih ⊢
    rw [List.flatMap_cons, List.append_assoc, quoteBody_writeChar, ih]
    rfl

theorem skipSpace_append {space : List Char} (h : ∀ c ∈ space, isSpace c = true) (s : List Char) :
    skipSpace (space ++ s) = skipSpace s :=
  List.dropWhile_append_of_pos h

theorem skipSpace_cons {c : Char} (h : isSpace c = false) (s : List Char) :
    skipSpace (c :: s) = c :: s :=
  List.dropWhile_cons_of_neg (by simp [h])

theorem skipSpace_newline_append (spacing : Spacing) (depth : Nat) (s : List Char) :
    skipSpace (spacing.newline depth ++ s) = skipSpace s :=
  skipSpace_append (fun _ => spacing.isSpace_of_mem_newline) s

theorem readBody_writeQuote (s : String) (rest : List Char) :
    ∃ body, writeQuote s ++ rest = '"' :: body ∧ readBody body = .ok (s.toList, rest) := by
  refine ⟨s.toList.flatMap writeChar ++ '"' :: rest, ?_, readBody_flatMap_writeChar s.toList rest⟩
  simp [writeQuote]

/-- A value ends where nothing follows it, or what stands after values. -/
def Ends (rest : List Char) : Prop :=
  ∀ c ∈ rest.head?, c ∈ [',', ']', '\x7d'] ∨ isSpace c = true

theorem Ends.append_space {space rest : List Char} (h : ∀ c ∈ space, isSpace c = true)
    (hrest : Ends rest) : Ends (space ++ rest) := by
  cases space with
  | nil => exact hrest
  | cons c space => simp [Ends, h c]

theorem ends_writeElementsIn (spacing : Spacing) (depth : Nat) (ds : List Document)
    (rest : List Char) : Ends (Document.writeElementsIn spacing depth ds ++ rest) := by
  cases ds with
  | nil =>
    rw [Document.writeElementsIn, List.append_assoc]
    exact Ends.append_space (fun _ => spacing.isSpace_of_mem_newline) (by simp [Ends])
  | cons d ds => simp [Ends, Document.writeElementsIn]

theorem ends_writeEntriesIn (spacing : Spacing) (depth : Nat)
    (fields : List (String × Document)) (rest : List Char) :
    Ends (Document.writeEntriesIn spacing depth fields ++ rest) := by
  cases fields with
  | nil =>
    rw [Document.writeEntriesIn, List.append_assoc]
    exact Ends.append_space (fun _ => spacing.isSpace_of_mem_newline) (by simp [Ends])
  | cons field fields => simp [Ends, Document.writeEntriesIn]

theorem exists_head_writeIn (spacing : Spacing) (depth : Nat) (d : Document) :
    ∃ c s, d.writeIn spacing depth = c :: s ∧ isSpace c = false ∧ c ≠ ']' ∧
      (c = 'n' → d = .null) := by
  cases d with
  | null => exact ⟨'n', _, rfl, rfl, by decide, fun _ => rfl⟩
  | natural n =>
    have hdigits := (Text.natural?_eq_some_iff.1 (Text.natural?_toDigits n)).1
    cases hwrite : Nat.toDigits 10 n with
    | nil => exact absurd hwrite Nat.toDigits_ne_nil
    | cons c s =>
      have hdigit : Text.isDigit c = true := hdigits c (by simp [hwrite])
      refine ⟨c, s, by rw [Document.writeIn, hwrite], ?_, ?_, ?_⟩
      · simp only [isSpace, Bool.or_eq_false_iff, beq_eq_false_iff_ne]
        refine ⟨⟨⟨?_, ?_⟩, ?_⟩, ?_⟩ <;> rintro rfl <;> exact absurd hdigit (by decide)
      · rintro rfl
        exact absurd hdigit (by decide)
      · rintro rfl
        exact absurd hdigit (by decide)
  | text s => exact ⟨'"', _, rfl, rfl, by decide, fun h => absurd h (by decide)⟩
  | list ds =>
    cases ds with
    | nil => exact ⟨'[', _, rfl, rfl, by decide, fun h => absurd h (by decide)⟩
    | cons d ds =>
      rw [Document.writeIn]
      exact ⟨'[', _, rfl, rfl, by decide, fun h => absurd h (by decide)⟩
  | record fields =>
    cases fields with
    | nil => exact ⟨'\x7b', _, rfl, rfl, by decide, fun h => absurd h (by decide)⟩
    | cons field fields =>
      rw [Document.writeIn]
      exact ⟨'\x7b', _, rfl, rfl, by decide, fun h => absurd h (by decide)⟩

/-- The reader takes the document for the value however it is spaced, after any white space and
before any text that ends a value. -/
def Reads {α : Type} (reader : Reader α) (d : Document) (a : α) : Prop :=
  ∀ (spacing : Spacing) (depth : Nat) (space rest : List Char),
    (∀ c ∈ space, isSpace c = true) → Ends rest →
      reader.read (space ++ (d.writeIn spacing depth ++ rest)) = .ok (a, rest)

namespace Reads

variable {α β : Type} {reader : Reader α} {d : Document} {a : α}

theorem refine (h : Reads reader d a) {check : α → Except Fault β} {b : β}
    (hcheck : check a = .ok b) : Reads (reader.refine check) d b := by
  intro spacing depth space rest hspace hrest
  simp only [Reader.refine, h spacing depth space rest hspace hrest, hcheck]
  rfl

theorem map (h : Reads reader d a) (f : α → β) : Reads (reader.map f) d (f a) :=
  h.refine rfl

theorem textAs (wanted s : String) : Reads (Reader.textAs wanted) (.text s) s := by
  intro spacing depth space rest hspace hrest
  obtain ⟨body, hwrite, hbody⟩ := readBody_writeQuote s rest
  simp only [Reader.textAs, Reader.first, Document.writeIn, hwrite, skipSpace_append hspace,
    skipSpace_cons (show isSpace '"' = false by rfl), if_true, hbody]
  simp [Except.map]

theorem nullable_null (reader : Reader α) : Reads (.nullable reader) .null none := by
  intro spacing depth space rest hspace hrest
  have hstart : skipSpace (space ++ ("null".toList ++ rest)) = 'n' :: ("ull".toList ++ rest) := by
    rw [skipSpace_append hspace]
    rfl
  simp only [Reader.nullable, Document.writeIn, hstart]
  rfl

theorem nullable (h : Reads reader d a) (hd : d ≠ .null) :
    Reads (.nullable reader) d (some a) := by
  intro spacing depth space rest hspace hrest
  obtain ⟨c, s, hwrite, hc, -, hnull⟩ := exists_head_writeIn spacing depth d
  have hread := h spacing depth [] rest (by simp) hrest
  have hstart : skipSpace (space ++ (d.writeIn spacing depth ++ rest)) = c :: (s ++ rest) := by
    rw [skipSpace_append hspace, hwrite, List.cons_append, skipSpace_cons hc]
  rw [List.nil_append, hwrite, List.cons_append] at hread
  have hne : c ≠ 'n' := fun he => hd (hnull he)
  simp only [Reader.nullable, hstart]
  split
  · rename_i t he
    exact absurd (List.cons.inj he).1 hne
  · rw [hread]
    rfl

end Reads

section Lists

variable {α : Type} {element : Reader α} {a : α} {s r r' : List Char}

theorem elements_of_close (h : element.read s = .ok (a, r)) (hclose : skipSpace r = ']' :: r') :
    Reader.elements element s = .ok ([a], r') := by
  rw [Reader.elements]
  split
  · rename_i fault hread
    simp [h] at hread
  · rename_i b t hread
    rw [h] at hread
    cases hread
    split
    · rename_i hend
      simp [hclose] at hend
    · rename_i c t hc
      rw [hclose] at hc
      cases hc
      rfl

theorem elements_of_comma {c : Char} {t : List Char} (h : element.read s = .ok (a, r))
    (hcomma : skipSpace r = ',' :: r') (hnext : skipSpace r' = c :: t) (hc : c ≠ ']') :
    Reader.elements element s =
      (Reader.elements element (c :: t)).map (Prod.map (a :: ·) id) := by
  rw [Reader.elements]
  split
  · rename_i fault hread
    simp [h] at hread
  · rename_i b u hread
    rw [h] at hread
    cases hread
    split
    · rename_i hend
      simp [hcomma] at hend
    · rename_i d u hd
      rw [hcomma] at hd
      cases hd
      simp only [Char.reduceEq, if_false, if_true]
      split
      · rename_i hend
        simp [hnext] at hend
      · rename_i d u hd
        rw [hnext] at hd
        cases hd
        rw [if_neg hc]

theorem read_list_of_close (hopen : skipSpace s = '[' :: r) (hclose : skipSpace r = ']' :: r') :
    (Reader.list element).read s = .ok ([], r') := by
  simp [Reader.list, Reader.first, hopen, hclose]

theorem read_list_of_element {c : Char} (hopen : skipSpace s = '[' :: r)
    (hfirst : skipSpace r = c :: r') (hne : c ≠ ']') :
    (Reader.list element).read s = Reader.elements element (c :: r') := by
  simp [Reader.list, Reader.first, hopen, hfirst, hne]

theorem elements_writeIn {d : Document} {ds : List Document} {as : List α} (h : Reads element d a)
    (hs : List.Forall₂ (Reads element) ds as) (spacing : Spacing) (depth : Nat)
    (rest : List Char) :
    Reader.elements element
        (d.writeIn spacing (depth + 1) ++ (Document.writeElementsIn spacing depth ds ++ rest)) =
      .ok (a :: as, rest) := by
  induction hs generalizing d a with
  | nil =>
    have hread := h spacing (depth + 1) [] _ (by simp) (ends_writeElementsIn spacing depth [] rest)
    apply elements_of_close hread
    rw [Document.writeElementsIn, List.append_assoc, skipSpace_newline_append]
    rfl
  | cons hd hds ih =>
    rename_i d' a' ds' as'
    have hread := h spacing (depth + 1) [] _ (by simp)
      (ends_writeElementsIn spacing depth (d' :: ds') rest)
    obtain ⟨c, t, hwrite, hc, hclose, -⟩ := exists_head_writeIn spacing (depth + 1) d'
    have hrest := ih hd
    rw [hwrite, List.cons_append] at hrest
    have hcomma : skipSpace (Document.writeElementsIn spacing depth (d' :: ds') ++ rest) =
        ',' :: (spacing.newline (depth + 1) ++
          (c :: t ++ (Document.writeElementsIn spacing depth ds' ++ rest))) := by
      rw [Document.writeElementsIn, hwrite]
      simp [skipSpace_cons (show isSpace ',' = false by rfl)]
    have hnext : skipSpace (spacing.newline (depth + 1) ++
        (c :: t ++ (Document.writeElementsIn spacing depth ds' ++ rest))) =
        c :: (t ++ (Document.writeElementsIn spacing depth ds' ++ rest)) := by
      rw [skipSpace_newline_append, List.cons_append, skipSpace_cons hc]
    rw [List.nil_append] at hread
    rw [elements_of_comma hread hcomma hnext hclose, hrest]
    rfl

theorem Reads.list {ds : List Document} {as : List α} (h : List.Forall₂ (Reads element) ds as) :
    Reads (.list element) (.list ds) as := by
  intro spacing depth space rest hspace hrest
  cases h with
  | nil =>
    apply read_list_of_close
    · rw [skipSpace_append hspace]
      rfl
    · rfl
  | cons hd hds =>
    rename_i d a ds as
    obtain ⟨c, t, hwrite, hc, hclose, -⟩ := exists_head_writeIn spacing (depth + 1) d
    have helements := elements_writeIn hd hds spacing depth rest
    rw [hwrite, List.cons_append] at helements
    have hstart :
        skipSpace (space ++ ((Document.list (d :: ds)).writeIn spacing depth ++ rest)) =
        '[' :: (spacing.newline (depth + 1) ++
          (c :: (t ++ (Document.writeElementsIn spacing depth ds ++ rest)))) := by
      rw [skipSpace_append hspace, Document.writeIn, hwrite]
      simp [skipSpace_cons (show isSpace '[' = false by rfl)]
    have hfirst : skipSpace (spacing.newline (depth + 1) ++
        (c :: (t ++ (Document.writeElementsIn spacing depth ds ++ rest)))) =
        c :: (t ++ (Document.writeElementsIn spacing depth ds ++ rest)) := by
      rw [skipSpace_newline_append, skipSpace_cons hc]
    rw [read_list_of_element hstart hfirst hclose]
    exact helements

theorem Reads.list_map {write : α → Document} {as : List α}
    (h : ∀ a ∈ as, Reads element (write a) a) : Reads (.list element) (.list (as.map write)) as := by
  apply Reads.list
  rwa [List.forall₂_map_left_iff, List.forall₂_same]

end Lists

section Records

variable {D α : Type} {slots : List (Slot D)} {draft draft' : D} {s r r' : List Char}

theorem entry_of_slot {name : String} {slot : Slot D} {put : D → D} {space value : List Char}
    (hspace : ∀ c ∈ space, isSpace c = true)
    (hslot : slots.find? (·.name == name) = some slot) (hfilled : slot.filled draft = false)
    (hvalue : slot.reader.read value = .ok (put, r)) :
    entry slots draft (space ++ (writeQuote name ++ ':' :: value)) = .ok (put draft, r) := by
  obtain ⟨body, hwrite, hbody⟩ := readBody_writeQuote name (':' :: value)
  have hquote : quote readBody (space ++ '"' :: body) = .ok (name.toList, ':' :: value) := by
    simp [quote, mark, skipSpace_append hspace, skipSpace_cons (show isSpace '"' = false by rfl),
      hbody]
  have hcolon : mark ':' (':' :: value) = .ok value := by
    simp [mark, skipSpace_cons (show isSpace ':' = false by rfl)]
  rw [hwrite]
  simp only [entry, hquote, String.ofList_toList, hslot, hfilled, hcolon, hvalue]
  rfl

theorem entries_of_close (h : entry slots draft s = .ok (draft', r))
    (hclose : skipSpace r = '}' :: r') : entries slots draft s = .ok (draft', r') := by
  rw [entries]
  split
  · rename_i fault hread
    simp [h] at hread
  · rename_i b t hread
    rw [h] at hread
    cases hread
    split
    · rename_i hend
      simp [hclose] at hend
    · rename_i c t hc
      rw [hclose] at hc
      cases hc
      rfl

theorem entries_of_comma (h : entry slots draft s = .ok (draft', r))
    (hcomma : skipSpace r = ',' :: r') : entries slots draft s = entries slots draft' r' := by
  rw [entries]
  split
  · rename_i fault hread
    simp [h] at hread
  · rename_i b t hread
    rw [h] at hread
    cases hread
    split
    · rename_i hend
      simp [hcomma] at hend
    · rename_i c t hc
      rw [hcomma] at hc
      cases hc
      rfl

/-- Each field fills a slot of its name that was empty, and together they lead from one draft to
the other. -/
inductive Fills (slots : List (Slot D)) : D → List (String × Document) → D → Prop
  | nil (draft : D) : Fills slots draft [] draft
  | cons {draft last : D} {name : String} {d : Document} {fields : List (String × Document)}
      {slot : Slot D} {put : D → D} :
      slots.find? (·.name == name) = some slot → slot.filled draft = false →
      Reads slot.reader d put → Fills slots (put draft) fields last →
      Fills slots draft ((name, d) :: fields) last

theorem entries_writeIn {name : String} {d : Document} {fields : List (String × Document)}
    {last : D} (h : Fills slots draft ((name, d) :: fields) last) (spacing : Spacing) (depth : Nat)
    {space : List Char} (hspace : ∀ c ∈ space, isSpace c = true) (rest : List Char) :
    entries slots draft (space ++ (writeQuote name ++ ':' :: (spacing.gap ++
        (d.writeIn spacing (depth + 1) ++
          (Document.writeEntriesIn spacing depth fields ++ rest))))) =
      .ok (last, rest) := by
  have hgap : ∀ c ∈ spacing.gap, isSpace c = true := fun _ => spacing.isSpace_of_mem_gap
  -- on the fields after the first one, whose value is read up to the comma or the bracket
  induction fields generalizing name d draft space with
  | nil =>
    obtain _ | ⟨hslot, hfilled, hvalue, hfields⟩ := h
    cases hfields
    have hread := hvalue spacing (depth + 1) spacing.gap _ hgap
      (ends_writeEntriesIn spacing depth [] rest)
    apply entries_of_close (entry_of_slot hspace hslot hfilled hread)
    rw [Document.writeEntriesIn, List.append_assoc, skipSpace_newline_append]
    rfl
  | cons field fields ih =>
    obtain ⟨name', d'⟩ := field
    obtain _ | ⟨hslot, hfilled, hvalue, hfields⟩ := h
    have hread := hvalue spacing (depth + 1) spacing.gap _ hgap
      (ends_writeEntriesIn spacing depth ((name', d') :: fields) rest)
    have hcomma :
        skipSpace (Document.writeEntriesIn spacing depth ((name', d') :: fields) ++ rest) =
        ',' :: (spacing.newline (depth + 1) ++ (writeQuote name' ++ ':' :: (spacing.gap ++
          (d'.writeIn spacing (depth + 1) ++
            (Document.writeEntriesIn spacing depth fields ++ rest))))) := by
      rw [Document.writeEntriesIn]
      simp [skipSpace_cons (show isSpace ',' = false by rfl)]
    have hentry := entry_of_slot hspace hslot hfilled hread
    have hnewline : ∀ c ∈ spacing.newline (depth + 1), isSpace c = true :=
      fun _ => spacing.isSpace_of_mem_newline
    have hrest := ih hfields hnewline
    exact (entries_of_comma hentry hcomma).trans hrest

theorem object_of_close {shape : Shape D α} {a : α} (h : skipSpace s = '}' :: r)
    (hfinish : shape.finish shape.blank = .ok a) : shape.object s = .ok (a, r) := by
  simp only [Shape.object, h, if_true, Shape.complete, hfinish]
  rfl

theorem object_of_entries {shape : Shape D α} {a : α} {c : Char} (h : skipSpace s = c :: r)
    (hc : c ≠ '}') (hentries : entries shape.slots shape.blank (c :: r) = .ok (draft, r'))
    (hfinish : shape.finish draft = .ok a) : shape.object s = .ok (a, r') := by
  simp only [Shape.object, h, if_neg hc, hentries, Shape.complete, hfinish]
  rfl

/-- A record is read when its fields fill the slots of a shape and nothing that is required is
absent. -/
theorem Reads.record {shape : Shape D α} {fields : List (String × Document)} {last : D} {a : α}
    (h : Fills shape.slots shape.blank fields last) (hfinish : shape.finish last = .ok a) :
    Reads shape.reader (.record fields) a := by
  intro spacing depth space rest hspace hrest
  cases fields with
  | nil =>
    cases h
    have hstart : skipSpace (space ++ ((Document.record []).writeIn spacing depth ++ rest)) =
        '{' :: '}' :: rest := by
      rw [skipSpace_append hspace]
      rfl
    have hobject : shape.object ('}' :: rest) = .ok (a, rest) := object_of_close rfl hfinish
    simp only [Shape.reader, Reader.first, hstart, if_true, hobject]
  | cons field fields =>
    obtain ⟨name, d⟩ := field
    have hentries := entries_writeIn h spacing depth (List.forall_mem_nil _) rest
    obtain ⟨body, hquote, -⟩ := readBody_writeQuote name (':' :: (spacing.gap ++
      (d.writeIn spacing (depth + 1) ++ (Document.writeEntriesIn spacing depth fields ++ rest))))
    rw [List.nil_append, hquote] at hentries
    have hstart :
        skipSpace (space ++ ((Document.record ((name, d) :: fields)).writeIn spacing depth ++ rest)) =
        '{' :: (spacing.newline (depth + 1) ++ '"' :: body) := by
      rw [skipSpace_append hspace, Document.writeIn, ← hquote]
      simp [skipSpace_cons (show isSpace '{' = false by rfl)]
    have hfirst : skipSpace (spacing.newline (depth + 1) ++ '"' :: body) = '"' :: body := by
      rw [skipSpace_newline_append, skipSpace_cons rfl]
    have hobject := object_of_entries hfirst (by decide) hentries hfinish
    simp only [Shape.reader, Reader.first, hstart, if_true, hobject]

end Records

theorem Reads.decode_renderIn {α : Type} {reader : Reader α} {d : Document} {a : α}
    (h : Reads reader d a) (spacing : Spacing) : reader.decode (d.renderIn spacing) = .ok a := by
  have hread := h spacing 0 [] [] (by simp) (by simp [Ends])
  rw [List.nil_append, List.append_nil] at hread
  simp [Reader.decode, Document.renderIn, hread, skipSpace]

theorem Reads.decode_render {α : Type} {reader : Reader α} {d : Document} {a : α}
    (h : Reads reader d a) : reader.decode d.render = .ok a := by
  rw [← Document.renderIn_lines]
  exact h.decode_renderIn .lines

end Json

open Json (Fills Reads)

theorem Row.reads (row : Row) : Reads Row.reader row.toDocument row := by
  apply Reads.list_map
  intro cell hcell
  cases cell with
  | none => exact Reads.nullable_null _
  | some text => exact (Reads.textAs "a string" text).nullable (by simp)

theorem Sheet.reads (sheet : Sheet) : Reads Sheet.shape.reader sheet.toDocument sheet := by
  have hrows := Reads.list_map fun row (_ : row ∈ sheet.rows) => row.reads
  have hname := (Reads.textAs "a string" sheet.name).map fun name (d : Sheet.Draft) =>
    { d with name := some name }
  have hfills : Fills Sheet.shape.slots Sheet.shape.blank
      [("name", .text sheet.name), ("rows", .list (sheet.rows.map Row.toDocument))]
      { name := some sheet.name, rows := some sheet.rows } :=
    .cons rfl rfl hname (.cons rfl rfl (hrows.map _) (.nil _))
  exact Reads.record hfills rfl

theorem Workbook.reads (workbook : Workbook) :
    Reads Workbook.shape.reader workbook.toDocument workbook := by
  have hsheets := Reads.list_map fun sheet (_ : sheet ∈ workbook.sheets) => sheet.reads
  have hfills : Fills Workbook.shape.slots Workbook.shape.blank
      [("sheets", .list (workbook.sheets.map Sheet.toDocument))] (some workbook.sheets) :=
    .cons rfl rfl (hsheets.map _) (.nil _)
  exact Reads.record hfills rfl

theorem Workbook.decode_render (workbook : Workbook) :
    Workbook.decode workbook.render = .ok workbook :=
  workbook.reads.decode_render

/-- A rules file that is unset and one whose path is empty are told apart. -/
theorem Settings.decode_render (settings : Settings) :
    Settings.decode settings.render = .ok settings := by
  have hrules : Reads (.nullable ((Json.Reader.textAs "path string").map Path.mk))
      (settings.rulesFile.elim .null fun path => .text path.text) settings.rulesFile := by
    cases settings.rulesFile with
    | none => exact Reads.nullable_null _
    | some path => exact ((Reads.textAs "path string" path.text).map Path.mk).nullable (by simp)
  have hsheet := Reads.textAs "a string" settings.activeSheet
  have hfills : Fills Settings.shape.slots Settings.shape.blank
      [(Key.rulesFile.name, settings.rulesFile.elim .null fun path => .text path.text),
        (Key.activeSheet.name, .text settings.activeSheet)]
      { rulesFile := some settings.rulesFile, activeSheet := some settings.activeSheet } :=
    .cons rfl rfl (hrules.map _) (.cons rfl rfl (hsheet.map _) (.nil _))
  exact (Reads.record hfills rfl).decode_render

end ArtifactRules
