import Mathlib.Data.List.Nodup
import ArtifactRules.Proofs.RecordChecks
import ArtifactRules.Proofs.WellFormedJson

/-! The many texts of one value. A text may escape any of its characters, a name may stand in an
object by itself, and a record may be an object with its fields in any order among others, or a list
of its fields, where a field that has its default may be absent. A reader takes them all for the
value that they spell. -/

namespace ArtifactRules
namespace Json

/-- A character by itself, or as an escape of some kind. -/
inductive SpellsChar : List Char → Char → Prop
  | plainly {s : List Char} {c : Char} (h : SpellsPlainly s c) : SpellsChar s c
  | unit {s : List Char} {c : Char} (h : SpellsUnit s c.toNat) : SpellsChar ('\\' :: 'u' :: s) c
  /-- Both halves of a surrogate pair. -/
  | pair {s t : List Char} {c : Char} (hc : 0x10000 ≤ c.toNat)
    (hhigh : SpellsUnit s (0xD800 + (c.toNat - 0x10000) / 0x400))
    (hlow : SpellsUnit t (0xDC00 + (c.toNat - 0x10000) % 0x400)) :
    SpellsChar ('\\' :: 'u' :: (s ++ '\\' :: 'u' :: t)) c

inductive SpellsText : List Char → String → Prop
  | mk {pieces : List (List Char)} {text : String}
    (h : List.Forall₂ SpellsChar pieces text.toList) :
    SpellsText ('"' :: (pieces.flatten ++ ['"'])) text

theorem SpellsText.of_plain {cs : List Char}
    (h : cs.all fun c => 0x20 ≤ c.toNat ∧ c ≠ '"' ∧ c ≠ '\\') :
    SpellsText ('"' :: (cs ++ ['"'])) (String.ofList cs) := by
  have hpieces : List.Forall₂ SpellsChar (cs.map fun c => [c]) (String.ofList cs).toList := by
    rw [String.toList_ofList, List.forall₂_map_left_iff, List.forall₂_same]
    intro c hc
    obtain ⟨hcontrol, hquote, hslash⟩ := of_decide_eq_true (List.all_eq_true.1 h c hc)
    exact .plainly (.itself hcontrol hquote hslash)
  have hspells := SpellsText.mk hpieces
  rwa [← List.flatMap_def, List.flatMap_singleton'] at hspells

/-- A name in quotes, or an object whose one key is the name and whose value is `null`. -/
inductive SpellsName : List Char → String → Prop
  | text {s : List Char} {name : String} (h : SpellsText s name) : SpellsName s name
  | object {e : Entry} {s : List Char} {name : String} (hkey : SpellsText e.key name)
    (hvalue : e.value = "null".toList) (h : Enclosed .record [e.text] s) : SpellsName s name

def SpellsList {α : Type} (Spells : List Char → α → Prop) (s : List Char) (as : List α) : Prop :=
  ∃ texts, List.Forall₂ Spells texts as ∧ Enclosed .list texts s

/-- A field of a record: which texts spell it, and of which records it may be left out. -/
structure RecordField (α : Type) where
  name : String
  Spells : List Char → α → Prop
  Omits : α → Prop

/-- An entry of a known name spells that field, and any other has some value. -/
structure SpellsEntry {α : Type} (fields : List (RecordField α)) (a : α) (key : String)
    (e : Entry) : Prop where
  key_spells : SpellsText e.key key
  known : ∀ field ∈ fields, field.name = key → field.Spells e.value a
  unknown : key ∉ fields.map RecordField.name → IsValue e.value

namespace SpellsEntry

variable {α : Type} {fields : List (RecordField α)} {a : α} {e : Entry}

theorem of_mem (field : RecordField α) (hfield : field ∈ fields)
    (hnames : (fields.map RecordField.name).Nodup) (hkey : SpellsText e.key field.name)
    (hvalue : field.Spells e.value a) : SpellsEntry fields a field.name e where
  key_spells := hkey
  known other hother hname := by
    rw [List.inj_on_of_nodup_map hnames hother hfield hname]
    exact hvalue
  unknown hunknown := absurd (List.mem_map_of_mem hfield) hunknown

theorem of_notMem {key : String} (hname : key ∉ fields.map RecordField.name)
    (hkey : SpellsText e.key key) (hvalue : IsValue e.value) : SpellsEntry fields a key e where
  key_spells := hkey
  known _ hfield he := absurd (List.mem_map.2 ⟨_, hfield, he⟩) hname
  unknown _ := hvalue

end SpellsEntry

/-- An object with each field at most once, or a list of the fields up to some place. Fields that
are absent are left out. -/
inductive SpellsRecord {α : Type} (fields : List (RecordField α)) : List Char → α → Prop
  | object {given : List (String × Entry)} {s : List Char} {a : α}
    (hgiven : ∀ p ∈ given, SpellsEntry fields a p.1 p.2)
    (hdistinct : given.Pairwise fun p q => p.1 = q.1 → p.1 ∉ fields.map RecordField.name)
    (homitted : ∀ field ∈ fields, field.name ∉ given.map Prod.fst → field.Omits a)
    (h : Enclosed .record (given.map fun p => p.2.text) s) : SpellsRecord fields s a
  | list {given omitted : List (RecordField α)} {texts : List (List Char)} {s : List Char} {a : α}
    (hfields : fields = given ++ omitted)
    (hgiven : List.Forall₂ (fun field text => field.Spells text a) given texts)
    (homitted : ∀ field ∈ omitted, field.Omits a) (h : Enclosed .list texts s) :
    SpellsRecord fields s a

section Texts

variable {s rest : List Char} {c : Char} {text : String}

theorem unicodeEscape_of_spellsUnit (h : SpellsUnit s c.toNat) (rest : List Char) :
    unicodeEscape (s ++ rest) = .ok (c, rest) := by
  have hvalid : c.toNat < 0xD800 ∨ 0xDFFF < c.toNat ∧ c.toNat < 0x110000 := c.valid
  have hlow : isLowSurrogate c.toNat = false := by
    simp only [isLowSurrogate, Bool.and_eq_false_iff, decide_eq_false_iff_not]
    omega
  have hhigh : isHighSurrogate c.toNat = false := by
    simp only [isHighSurrogate, Bool.and_eq_false_iff, decide_eq_false_iff_not]
    omega
  simp [unicodeEscape, h.hexUnit_append, hlow, hhigh]

/-- The halves of a pair hold ten bits each of what is above the first plane. -/
theorem unicodeEscape_of_pair {t : List Char} (hc : 0x10000 ≤ c.toNat)
    (hs : SpellsUnit s (0xD800 + (c.toNat - 0x10000) / 0x400))
    (ht : SpellsUnit t (0xDC00 + (c.toNat - 0x10000) % 0x400)) (rest : List Char) :
    unicodeEscape (s ++ '\\' :: 'u' :: (t ++ rest)) = .ok (c, rest) := by
  have hvalid : c.toNat < 0xD800 ∨ 0xDFFF < c.toNat ∧ c.toNat < 0x110000 := c.valid
  generalize hhigh : 0xD800 + (c.toNat - 0x10000) / 0x400 = high at hs
  generalize hlow : 0xDC00 + (c.toNat - 0x10000) % 0x400 = low at ht
  have hisHigh : isLowSurrogate high = false ∧ isHighSurrogate high = true := by
    simp only [isLowSurrogate, isHighSurrogate, Bool.and_eq_false_iff, Bool.and_eq_true,
      decide_eq_false_iff_not, decide_eq_true_eq]
    omega
  have hisLow : isLowSurrogate low = true := by
    simp only [isLowSurrogate, Bool.and_eq_true, decide_eq_true_eq]
    omega
  have hchar : ofSurrogates high low = c := by
    have hvalue : 0x10000 + (high - 0xD800) * 0x400 + (low - 0xDC00) = c.toNat := by omega
    rw [ofSurrogates, hvalue, Char.ofNat_toNat]
  have hmark : literal ['\\', 'u'] ('\\' :: 'u' :: (t ++ rest)) = .ok (t ++ rest) := rfl
  simp only [unicodeEscape, hs.hexUnit_append, hisHigh.1, hisHigh.2, hmark, ht.hexUnit_append,
    hisLow, hchar, if_true, Bool.false_eq_true, if_false]

theorem SpellsChar.quoteBody_append (h : SpellsChar s c) (rest : List Char) :
    quoteBody readEscape (s ++ rest) = (quoteBody readEscape rest).map (Prod.map (c :: ·) id) := by
  cases h with
  | plainly hplain => exact hplain.quoteBody_append _ rest
  | @unit s _ hunit =>
    rw [List.cons_append]
    exact quoteBody_cons_escape (unicodeEscape_of_spellsUnit hunit rest)
  | @pair s t _ hc hhigh hlow =>
    have hpair := unicodeEscape_of_pair hc hhigh hlow rest
    simp only [List.cons_append, List.append_assoc]
    exact quoteBody_cons_escape hpair

theorem SpellsText.readBody_append (h : SpellsText s text) :
    ∃ body, s = '"' :: body ∧ ∀ rest, readBody (body ++ rest) = .ok (text.toList, rest) := by
  obtain ⟨hpieces⟩ := h
  refine ⟨_, rfl, fun rest => ?_⟩
  rw [List.append_assoc]
  exact quoteBody_flatten (hpieces.imp fun _ _ h => h.quoteBody_append) rest

theorem SpellsText.takes (h : SpellsText s text) : Takes .text s text := by
  obtain ⟨body, rfl, hbody⟩ := h.readBody_append
  refine ⟨⟨'"', body, rfl, rfl, by decide⟩, fun space rest _ => ?_⟩
  simp only [Reader.text, Reader.textAs, Reader.first, List.cons_append, space.skipSpace_append,
    skipSpace_cons (show isSpace '"' = false by rfl), if_true, hbody]
  simp [Except.map]

theorem takes_word32 (w : UInt32) : Takes .word32 (Nat.toDigits 10 w.toNat) w := by
  constructor
  · obtain ⟨c, t, hwrite, hc, hclose, -⟩ := exists_head_writeIn .compact 0 (.natural w.toNat)
    rw [Document.writeIn] at hwrite
    exact ⟨c, t, hwrite, hc, hclose⟩
  · intro space rest hrest
    have hread := Reads.word32 w .compact 0 space.chars rest (fun _ => space.isSpace_of_mem) hrest
    rwa [Document.writeIn] at hread

theorem Entry.quote_append {e : Entry} {key : String} (hkey : SpellsText e.key key) (space : Space)
    (rest : List Char) :
    quote readBody (space.chars ++ (e.text ++ rest)) =
      .ok (key.toList,
        e.beforeColon.chars ++ ':' :: (e.afterColon.chars ++ (e.value ++ rest))) := by
  obtain ⟨body, hquote, hbody⟩ := hkey.readBody_append
  simp only [quote, Entry.text, hquote, List.append_assoc, List.cons_append,
    space.mark_append (show isSpace '"' = false by rfl), hbody]

theorem SpellsText.nameBody_append {α : Type} [Labelled α] {a : α}
    (h : SpellsText s (Labelled.name a)) (ha : Labelled.ofName? (Labelled.name a) = some a) :
    ∃ body, s = '"' :: body ∧ ∀ rest, Reader.nameBody (body ++ rest) = .ok (a, rest) := by
  obtain ⟨body, hquote, hbody⟩ := h.readBody_append
  refine ⟨body, hquote, fun rest => ?_⟩
  simp only [Reader.nameBody, hbody, Reader.nameOf, String.ofList_toList, ha]
  rfl

theorem SpellsName.takes {α : Type} [Labelled α] {a : α} (h : SpellsName s (Labelled.name a))
    (ha : Labelled.ofName? (Labelled.name a) = some a) : Takes .named s a := by
  cases h with
  | text htext =>
    obtain ⟨body, rfl, hbody⟩ := htext.nameBody_append ha
    refine ⟨⟨'"', body, rfl, rfl, by decide⟩, fun space rest _ => ?_⟩
    simp only [Reader.named, Reader.first, List.cons_append, space.skipSpace_append,
      skipSpace_cons (show isSpace '"' = false by rfl), if_true, hbody]
  | @object e _ _ hkey hvalue henclosed =>
    obtain _ | ⟨inner, _, hfollows⟩ := henclosed
    obtain ⟨after⟩ := hfollows
    obtain ⟨body, hquote, hbody⟩ := hkey.nameBody_append ha
    refine ⟨⟨'{', _, rfl, rfl, by decide⟩, fun space rest _ => ?_⟩
    have hunit : Reader.unit.read (e.afterColon.chars ++ ("null".toList ++
        (after.chars ++ '}' :: rest))) = .ok ((), after.chars ++ '}' :: rest) := by
      simp only [Reader.unit, Reader.first, e.afterColon.skipSpace_append]
      rfl
    simp only [Reader.named, Reader.first, Entry.text, hquote, hvalue, Bracket.opening,
      Bracket.closing, List.cons_append, List.append_assoc, List.nil_append,
      space.skipSpace_append, skipSpace_cons (show isSpace '{' = false by rfl), Char.reduceEq,
      if_true, if_false, inner.mark_append (show isSpace '"' = false by rfl), hbody,
      e.beforeColon.mark_append (show isSpace ':' = false by rfl), hunit,
      after.mark_append (show isSpace '}' = false by rfl)]
    rfl

end Texts

section Lists

variable {α : Type} {element : Reader α} {text s : List Char} {texts : List (List Char)} {a : α}
  {as : List α}

theorem Takes.refine {β : Type} (h : Takes element s a) {check : α → Except Fault β} {b : β}
    (hcheck : check a = .ok b) : Takes (element.refine check) s b := by
  refine ⟨h.starts, fun space rest hrest => ?_⟩
  rw [read_refine_of_ok (h.read space hrest), hcheck]
  rfl

theorem Takes.map {β : Type} (h : Takes element s a) (f : α → β) : Takes (element.map f) s (f a) :=
  h.refine rfl

theorem Follows.elements_append (h : Follows .list texts s)
    (htexts : List.Forall₂ (Takes element) texts as) (htext : Takes element text a)
    (rest : List Char) : Reader.elements element (text ++ (s ++ rest)) = .ok (a :: as, rest) := by
  -- on the texts after the first one, which any element can take the place of
  induction h generalizing text a as with
  | close space =>
    cases htexts
    have hends : Ends (space.chars ++ [Bracket.list.closing] ++ rest) :=
      (Follows.close space).ends_append rest
    have hread := htext.read .empty hends
    exact elements_of_close hread (space.skipSpace_closing .list rest)
  | @comma after before text' texts s hs ih =>
    cases htexts with
    | cons htext' htexts =>
    obtain ⟨c, t, rfl, hc, hclose⟩ := htext'.starts
    have hread := htext.read .empty ((Follows.comma after before (c :: t) hs).ends_append rest)
    have helements := elements_of_comma hread (after.skipSpace_comma _ rest)
      (before.skipSpace_text hc t s rest) hclose
    have hrest := ih htexts htext'
    rw [List.cons_append] at hrest
    rw [hrest] at helements
    exact helements

theorem Enclosed.takes_list (h : Enclosed .list texts s)
    (htexts : List.Forall₂ (Takes element) texts as) : Takes (.list element) s as := by
  have hopen : ∀ (space : Space) (t : List Char), skipSpace (space.chars ++ '[' :: t) = '[' :: t :=
    fun space t => by rw [space.skipSpace_append, skipSpace_cons rfl]
  cases h with
  | empty inner =>
    cases htexts
    refine ⟨⟨_, _, rfl, rfl, by decide⟩, fun space rest _ => ?_⟩
    exact read_list_of_close (hopen space _) (inner.skipSpace_closing .list rest)
  | @first inner text texts s hs =>
    cases htexts with
    | cons htext htexts =>
    refine ⟨⟨_, _, rfl, rfl, by decide⟩, fun space rest _ => ?_⟩
    obtain ⟨c, t, rfl, hc, hclose⟩ := htext.starts
    have hfirst := inner.skipSpace_text hc t s rest
    have helements := hs.elements_append htexts htext rest
    exact (read_list_of_element (hopen space _) hfirst hclose).trans helements

theorem SpellsList.takes {Spells : List Char → α → Prop} (h : SpellsList Spells s as)
    (htakes : ∀ a ∈ as, ∀ text, Spells text a → Takes element text a) :
    Takes (.list element) s as := by
  obtain ⟨texts, hspells, henclosed⟩ := h
  refine henclosed.takes_list (List.forall₂_iff_get.2 ⟨hspells.length_eq, fun i hi hi' => ?_⟩)
  exact htakes _ (List.get_mem as ⟨i, hi'⟩) _ (hspells.get hi hi')

end Lists

section Records

variable {α D : Type} {a : α} {draft : List String → D} {slots : List (Slot D)}
  {fields : List (RecordField α)} {s : List Char}

/-- A slot that each text of the field fills with what `a` has in it, where `draft` tells what is
filled once the fields of some names have been given. -/
structure SlotFits (a : α) (draft : List String → D) (slot : Slot D) (field : RecordField α) :
    Prop where
  name_eq : slot.name = field.name
  filled_eq : ∀ given, slot.filled (draft given) = decide (field.name ∈ given)
  exists_put : ∃ put, (∀ given, put (draft given) = draft (field.name :: given)) ∧
    ∀ s, field.Spells s a → Takes slot.reader s put

theorem SlotFits.of {β : Type} {name : String} {filled : D → Bool} {reader : Reader β}
    {put : β → D → D} {b : β} {Spells : List Char → α → Prop} {Omits : α → Prop}
    (hfilled : ∀ given, filled (draft given) = decide (name ∈ given))
    (hput : ∀ given, put b (draft given) = draft (name :: given))
    (htakes : ∀ s, Spells s a → Takes reader s b) :
    SlotFits a draft (.of name filled reader put) ⟨name, Spells, Omits⟩ :=
  ⟨rfl, hfilled, put b, hput, fun s hs => (htakes s hs).map put⟩

/-- A shape for the fields of `a`, which it finishes to once all of them are given or omitted. -/
structure Fits (shape : Shape D α) (fields : List (RecordField α)) (a : α)
    (draft : List String → D) : Prop where
  blank_eq : draft [] = shape.blank
  slots : List.Forall₂ (SlotFits a draft) shape.slots fields
  finish_eq : ∀ given, (∀ field ∈ fields, field.name ∉ given → field.Omits a) →
    shape.finish (draft given) = .ok a

def given? {β : Type} (given : List String) (name : String) (b : β) : Option β :=
  if name ∈ given then some b else none

section Drafts

variable {β : Type} {given : List String} {name : String} {b : β}

theorem isSome_given? : (given? given name b).isSome = decide (name ∈ given) := by
  by_cases h : name ∈ given <;> simp [given?, h]

theorem required_given? {index : Nat} (h : name ∈ given) :
    required name index (given? given name b) = .ok b := by
  simp [given?, required, h]

theorem getD_given? {default : β} (h : name ∉ given → b = default) :
    (given? given name b).getD default = b := by
  by_cases hname : name ∈ given
  · simp [given?, hname]
  · simp [given?, hname, h hname]

end Drafts

theorem exists_find?_of_mem (h : List.Forall₂ (SlotFits a draft) slots fields) {name : String}
    (hname : name ∈ fields.map RecordField.name) :
    ∃ slot field, slots.find? (·.name == name) = some slot ∧ field ∈ fields ∧ field.name = name ∧
      SlotFits a draft slot field := by
  induction h with
  | nil => exact absurd hname List.not_mem_nil
  | @cons slot field slots fields hslot _ ih =>
    by_cases hfirst : field.name = name
    · exact ⟨slot, field, by simp [hslot.name_eq, hfirst], by simp, hfirst, hslot⟩
    · have hlater : name ∈ fields.map RecordField.name := by
        rcases List.mem_cons.1 hname with he | hmem
        · exact absurd he.symm hfirst
        · exact hmem
      obtain ⟨slot', field', hfind, hmem, hname', hfits⟩ := ih hlater
      refine ⟨slot', field', ?_, by simp [hmem], hname', hfits⟩
      rw [List.find?_cons_of_neg (by simpa [hslot.name_eq] using hfirst), hfind]

theorem find?_eq_none_of_notMem (h : List.Forall₂ (SlotFits a draft) slots fields) {name : String}
    (hname : name ∉ fields.map RecordField.name) : slots.find? (·.name == name) = none := by
  induction h with
  | nil => rfl
  | @cons slot field slots fields hslot _ ih =>
    obtain ⟨hfirst, hlater⟩ := not_or.1 (mt List.mem_cons.2 hname)
    rw [List.find?_cons_of_neg (by simpa [hslot.name_eq] using Ne.symm hfirst), ih hlater]

/-- One entry gives its field, if it is a known one, and is skipped otherwise. -/
theorem SpellsEntry.entry_append {key : String} {e : Entry} (h : SpellsEntry fields a key e)
    (hslots : List.Forall₂ (SlotFits a draft) slots fields) {done : List String}
    (hfresh : key ∈ fields.map RecordField.name → key ∉ done) (space : Space) {rest : List Char}
    (hrest : Ends rest) :
    ∃ done', entry slots (draft done) (space.chars ++ (e.text ++ rest)) = .ok (draft done', rest) ∧
      ∀ name, name ∈ done' ↔ name ∈ done ∨ name ∈ fields.map RecordField.name ∧ name = key := by
  have hquote := e.quote_append h.key_spells space rest
  have hcolon := e.beforeColon.mark_append (show isSpace ':' = false by rfl)
    (e.afterColon.chars ++ (e.value ++ rest))
  by_cases hkey : key ∈ fields.map RecordField.name
  · obtain ⟨slot, field, hfind, hfield, rfl, hslot⟩ := exists_find?_of_mem hslots hkey
    obtain ⟨put, hput, htakes⟩ := hslot.exists_put
    have hread := (htakes _ (h.known field hfield rfl)).read e.afterColon hrest
    have hempty : slot.filled (draft done) = false := by simp [hslot.filled_eq, hfresh hkey]
    refine ⟨field.name :: done, ?_, fun name => ?_⟩
    · simp only [entry, hquote, String.ofList_toList, hfind, hempty, hcolon, hread, ← hput]
      rfl
    · rw [List.mem_cons, or_comm]
      exact or_congr_right ⟨fun he => ⟨he ▸ hkey, he⟩, And.right⟩
  · have hfind := find?_eq_none_of_notMem hslots hkey
    have hskip := (h.unknown hkey).takes.read e.afterColon hrest
    refine ⟨done, ?_, fun name => ?_⟩
    · simp only [entry, hquote, String.ofList_toList, hfind, hcolon, hskip]
      rfl
    · refine ⟨.inl, ?_⟩
      rintro (hdone | ⟨hname, rfl⟩)
      · exact hdone
      · exact absurd hname hkey

theorem Follows.entries_append {p : String × Entry} {given : List (String × Entry)}
    (h : Follows .record (given.map fun p => p.2.text) s)
    (hgiven : ∀ q ∈ p :: given, SpellsEntry fields a q.1 q.2)
    (hdistinct : (p :: given).Pairwise fun p q => p.1 = q.1 → p.1 ∉ fields.map RecordField.name)
    (hslots : List.Forall₂ (SlotFits a draft) slots fields) {done : List String}
    (hfresh : ∀ q ∈ p :: given, q.1 ∈ fields.map RecordField.name → q.1 ∉ done) (space : Space)
    (rest : List Char) :
    ∃ done', entries slots (draft done) (space.chars ++ (p.2.text ++ (s ++ rest))) =
        .ok (draft done', rest) ∧
      ∀ name, name ∈ done' ↔
        name ∈ done ∨ name ∈ fields.map RecordField.name ∧ name ∈ (p :: given).map Prod.fst := by
  -- on the entries after the first one, with what the draft has so far left general
  induction given generalizing p s done space with
  | nil =>
    obtain ⟨done', hentry, hdone'⟩ :=
      (hgiven p (by simp)).entry_append hslots (hfresh p (by simp)) space (h.ends_append rest)
    obtain ⟨after⟩ := h
    refine ⟨done', entries_of_close hentry (after.skipSpace_closing .record rest), ?_⟩
    simpa using hdone'
  | cons q given ih =>
    obtain ⟨done₁, hentry, hdone₁⟩ :=
      (hgiven p (by simp)).entry_append hslots (hfresh p (by simp)) space (h.ends_append rest)
    obtain ⟨hother, hdistinct⟩ := List.pairwise_cons.1 hdistinct
    have hfresh₁ : ∀ q' ∈ q :: given, q'.1 ∈ fields.map RecordField.name → q'.1 ∉ done₁ := by
      intro q' hq' hname hmem
      rcases (hdone₁ _).1 hmem with hdone | ⟨-, he⟩
      · exact hfresh q' (by simp [hq']) hname hdone
      · exact hother q' hq' he.symm (he ▸ hname)
    obtain _ | ⟨after, before, _, hs⟩ := h
    obtain ⟨done', hentries, hdone'⟩ :=
      ih hs (fun q' hq' => hgiven q' (by simp [hq'])) hdistinct hfresh₁ before
    refine ⟨done', ?_, fun name => ?_⟩
    · rw [entries_of_comma hentry (after.skipSpace_comma _ rest), List.append_assoc,
        List.append_assoc]
      exact hentries
    · rw [hdone', hdone₁, or_assoc, ← and_or_left, ← List.mem_cons]
      rfl

theorem SlotFits.exists_read {slot : Slot D} {field : RecordField α}
    (h : SlotFits a draft slot field) {text : List Char} (htext : field.Spells text a) :
    ∃ c t put, text = c :: t ∧ isSpace c = false ∧ c ≠ ']' ∧
      (∀ given, put (draft given) = draft (field.name :: given)) ∧
      ∀ {rest}, Ends rest → slot.reader.read (c :: (t ++ rest)) = .ok (put, rest) := by
  obtain ⟨put, hput, htakes⟩ := h.exists_put
  obtain ⟨c, t, rfl, hc, hclose⟩ := (htakes text htext).starts
  exact ⟨c, t, put, rfl, hc, hclose, hput, fun hrest => (htakes _ htext).read .empty hrest⟩

theorem positional_of_close (isFirst : Bool) (slots : List (Slot D)) (d : D) {s rest : List Char}
    (h : skipSpace s = ']' :: rest) : positional isFirst slots d s = .ok (d, rest) := by
  cases slots with
  | nil =>
    simp only [positional, mark, h]
    rfl
  | cons slot slots => simp only [positional, h, if_true]

theorem Follows.positional_append {texts : List (List Char)} {given omitted : List (RecordField α)}
    (h : Follows .list texts s)
    (hgiven : List.Forall₂ (fun field text => field.Spells text a) given texts)
    (hslots : List.Forall₂ (SlotFits a draft) slots (given ++ omitted)) (done : List String)
    (rest : List Char) :
    positional false slots (draft done) (s ++ rest) =
      .ok (draft ((given.map RecordField.name).reverse ++ done), rest) := by
  induction h generalizing given slots done with
  | close after =>
    cases hgiven
    exact positional_of_close false slots _ (after.skipSpace_closing .list rest)
  | @comma after before text texts s hs ih =>
    cases hgiven with
    | @cons field _ given _ htext hgiven =>
    cases hslots with
    | @cons slot _ slots _ hslot hslots =>
    obtain ⟨c, t, put, rfl, hc, hclose, hput, hread⟩ := hslot.exists_read htext
    have hcomma := after.skipSpace_comma (before.chars ++ (c :: t ++ s)) rest
    have hnext := before.skipSpace_text hc t s rest
    have hrest := ih hgiven hslots (field.name :: done)
    simp only [positional, hcomma, Char.reduceEq, if_false, if_true, Bool.false_eq_true, hnext,
      if_neg hclose, hread (hs.ends_append rest), hput, hrest]
    simp

theorem Enclosed.positional_append {texts : List (List Char)} {given omitted : List (RecordField α)}
    (h : Enclosed .list texts ('[' :: s))
    (hgiven : List.Forall₂ (fun field text => field.Spells text a) given texts)
    (hslots : List.Forall₂ (SlotFits a draft) slots (given ++ omitted)) (rest : List Char) :
    positional true slots (draft []) (s ++ rest) =
      .ok (draft (given.map RecordField.name).reverse, rest) := by
  cases h with
  | empty inner =>
    cases hgiven
    exact positional_of_close true slots _ (inner.skipSpace_closing .list rest)
  | @first inner text texts s hs =>
    cases hgiven with
    | @cons field _ given _ htext hgiven =>
    cases hslots with
    | @cons slot _ slots _ hslot hslots =>
    obtain ⟨c, t, put, rfl, hc, hclose, hput, hread⟩ := hslot.exists_read htext
    have hfirst := inner.skipSpace_text hc t s rest
    have hrest := hs.positional_append hgiven hslots [field.name] rest
    simp only [positional, hfirst, if_neg hclose, if_true, hread (hs.ends_append rest), hput, hrest]
    simp

theorem Enclosed.exists_opening {bracket : Bracket} {texts : List (List Char)}
    (h : Enclosed bracket texts s) : ∃ t, s = bracket.opening :: t := by
  cases h <;> exact ⟨_, rfl⟩

theorem array_of_positional {shape : Shape D α} {d : D} {r : List Char}
    (h : positional true shape.slots shape.blank s = .ok (d, r))
    (hfinish : shape.finish d = .ok a) : shape.array s = .ok (a, r) := by
  simp only [Shape.array, h, Shape.complete, hfinish]
  rfl

theorem Fits.object_append {shape : Shape D α} {given : List (String × Entry)}
    (h : Fits shape fields a draft) (hgiven : ∀ p ∈ given, SpellsEntry fields a p.1 p.2)
    (hdistinct : given.Pairwise fun p q => p.1 = q.1 → p.1 ∉ fields.map RecordField.name)
    (homitted : ∀ field ∈ fields, field.name ∉ given.map Prod.fst → field.Omits a)
    (hs : Enclosed .record (given.map fun p => p.2.text) ('{' :: s)) (rest : List Char) :
    shape.object (s ++ rest) = .ok (a, rest) := by
  cases given with
  | nil =>
    obtain ⟨inner⟩ := hs
    apply object_of_close (inner.skipSpace_closing .record rest)
    rw [← h.blank_eq]
    exact h.finish_eq [] homitted
  | cons p given =>
    obtain _ | ⟨inner, _, hfollows⟩ := hs
    obtain ⟨done, hentries, hdone⟩ := hfollows.entries_append hgiven hdistinct h.slots
      (fun _ _ _ => List.not_mem_nil) .empty rest
    obtain ⟨u, hu⟩ : ∃ u, p.2.text = '"' :: u := by
      obtain ⟨body, hquote, -⟩ := (hgiven p (by simp)).key_spells.readBody_append
      rw [Entry.text, hquote]
      exact ⟨_, rfl⟩
    have hgivenAll : ∀ field ∈ fields, field.name ∉ done → field.Omits a := by
      intro field hfield hname
      refine homitted field hfield fun hmem => hname ((hdone _).2 (.inr ⟨?_, hmem⟩))
      exact List.mem_map_of_mem hfield
    rw [h.blank_eq, hu] at hentries
    simp only [hu]
    exact object_of_entries (inner.skipSpace_text rfl u _ rest) (by decide) hentries
      (h.finish_eq done hgivenAll)

theorem Fits.array_append {shape : Shape D α} {given omitted : List (RecordField α)}
    {texts : List (List Char)} (h : Fits shape fields a draft) (hfields : fields = given ++ omitted)
    (hgiven : List.Forall₂ (fun field text => field.Spells text a) given texts)
    (homitted : ∀ field ∈ omitted, field.Omits a) (hs : Enclosed .list texts ('[' :: s))
    (rest : List Char) : shape.array (s ++ rest) = .ok (a, rest) := by
  subst hfields
  have hpositional := hs.positional_append hgiven h.slots rest
  rw [h.blank_eq] at hpositional
  refine array_of_positional hpositional (h.finish_eq _ fun field hfield hname => ?_)
  rcases List.mem_append.1 hfield with hmem | hmem
  · exact absurd (List.mem_reverse.2 (List.mem_map_of_mem hmem)) hname
  · exact homitted field hmem

/-- A shape takes every text of a record for it. -/
theorem SpellsRecord.takes {shape : Shape D α} (h : SpellsRecord fields s a)
    (hfits : Fits shape fields a draft) : Takes shape.reader s a := by
  cases h with
  | object hgiven hdistinct homitted henclosed =>
    obtain ⟨t, rfl⟩ := henclosed.exists_opening
    refine ⟨⟨'{', t, rfl, rfl, by decide⟩, fun space rest _ => ?_⟩
    have hobject := hfits.object_append hgiven hdistinct homitted henclosed rest
    simp only [Shape.reader, Reader.first, Bracket.opening, List.cons_append,
      space.skipSpace_append, skipSpace_cons (show isSpace '{' = false by rfl), if_true, hobject]
  | list hfields hgiven homitted henclosed =>
    obtain ⟨t, rfl⟩ := henclosed.exists_opening
    refine ⟨⟨'[', t, rfl, rfl, by decide⟩, fun space rest _ => ?_⟩
    have harray := hfits.array_append hfields hgiven homitted henclosed rest
    simp only [Shape.reader, Reader.first, Bracket.opening, List.cons_append,
      space.skipSpace_append, skipSpace_cons (show isSpace '[' = false by rfl), Char.reduceEq,
      if_false, if_true, harray]

end Records
end Json
end ArtifactRules
