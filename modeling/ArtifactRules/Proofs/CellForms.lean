import ArtifactRules.Proofs.Readings
import ArtifactRules.Proofs.Texts

/-! The texts that a cell may hold, column by column. Every reader accepts exactly the written forms
of its conditions; only a bound has several of them, as its digits may be of either width and may
begin with zeros. -/

namespace ArtifactRules

theorem Category.label_injective : Function.Injective Category.label :=
  Function.IsPartialInv.injective fun _ _ => Category.ofLabel?_eq_some_iff

theorem Attribute.label_injective : Function.Injective Attribute.label :=
  Function.IsPartialInv.injective fun _ _ => Attribute.ofLabel?_eq_some_iff

namespace Comparator

theorem ofSymbol?_eq_some_iff {s : String} {c : Comparator} :
    ofSymbol? s = some c ↔ c ∈ writable ∧ c.symbol = s := by
  constructor
  · intro h
    exact ⟨List.mem_of_find?_eq_some h, by simpa using List.find?_some h⟩
  · rintro ⟨hc, rfl⟩
    cases c with
    | greater => decide
    | less => decide
    | equal => exact absurd hc (by decide)

theorem symbol_not_digit (c : Comparator) : ∀ x ∈ c.symbol.toList, Text.isDigit x = false := by
  have hall : (c.symbol.toList.all fun x => !Text.isDigit x) = true := by
    cases c <;> decide
  simpa using List.all_eq_true.1 hall

end Comparator

namespace Cell

theorem isBlank_of_isIdeograph {c : Char} (h : isIdeograph c = true) : Text.isBlank c = false := by
  simp only [isIdeograph, Bool.and_eq_true, decide_eq_true_eq] at h
  simp only [Text.isBlank, Text.blankRuns, List.any_cons, List.any_nil, Bool.or_false,
    Bool.or_eq_false_iff, Bool.and_eq_false_iff, decide_eq_false_iff_not]
  omega

theorem category_label_ideographs (c : Category) :
    ∀ x ∈ c.label.toList, isIdeograph x = true := by
  apply List.all_eq_true.1
  cases c <;> decide

theorem attribute_label_ideographs (a : Attribute) :
    ∀ x ∈ a.label.toList, isIdeograph x = true := by
  apply List.all_eq_true.1
  cases a <;> decide

theorem separator_notMem {s : String} (h : ∀ x ∈ s.toList, isIdeograph x = true) :
    separator ∉ s.toList := by
  intro hs
  exact absurd (h separator hs) (by decide)

theorem optional_eq_ok_iff {α : Type} {read : String → Reading α} (Writes : α → String → Prop)
    (hread : ∀ cell a, read cell = .ok a ↔ Writes a cell) (hne : ∀ a, ¬ Writes a "")
    {cell : String} {condition : Option α} :
    optional read cell = .ok condition ↔
      condition.elim (cell = "") fun a => Writes a cell := by
  by_cases hcell : cell = ""
  · subst hcell
    cases condition with
    | none => simp [optional]
    | some a => simp [optional, hne]
  · cases condition with
    | none => simp [optional, hcell]
    | some a => simp [optional, hcell, hread]

theorem category_eq_ok_iff {token : String} {c : Category} :
    category token = .ok c ↔ token = c.label := by
  rw [eq_comm (a := token), ← Category.ofLabel?_eq_some_iff, category]
  cases Category.ofLabel? token <;> simp

theorem join_map_ne_empty {α : Type} {write : α → String} (hwrite : ∀ a, write a ≠ "")
    {as : List α} (hne : as ≠ []) : Text.join "," (as.map write) ≠ "" := by
  cases as with
  | nil => exact absurd rfl hne
  | cons a as =>
    have ha : write a ≠ "" := hwrite a
    cases as with
    | nil => exact ha
    | cons b bs => simp [Text.join, ha]

theorem fields_eq_map_iff {α : Type} {write : α → String}
    (hsep : ∀ a, separator ∉ (write a).toList) {cell : String} {as : List α} :
    Text.fields separator cell = as.map write ↔
      as ≠ [] ∧ cell = Text.join "," (as.map write) := by
  have hseps : ∀ t ∈ as.map write, separator ∉ t.toList := by
    intro t ht
    obtain ⟨a, -, rfl⟩ := List.mem_map.1 ht
    exact hsep a
  rw [Text.fields_eq_iff, and_iff_right hseps, Ne, List.map_eq_nil_iff]
  rfl

/-- Where an item is read from one text only, and one without a separator, the same holds of a list
of items. -/
theorem mapM_fields_eq_ok_iff {α : Type} {read : String → Reading α} {write : α → String}
    (hread : ∀ token a, read token = .ok a ↔ token = write a)
    (hsep : ∀ a, separator ∉ (write a).toList) {cell : String} {as : List α} :
    (Text.fields separator cell).mapM read = .ok as ↔
      as ≠ [] ∧ cell = Text.join "," (as.map write) := by
  rw [Reading.mapM_eq_ok_iff_map hread, fields_eq_map_iff hsep]

theorem category_label_ne_empty (c : Category) : c.label ≠ "" := by
  cases c <;> decide

theorem separator_notMem_label (c : Category) : separator ∉ c.label.toList :=
  separator_notMem (category_label_ideographs c)

theorem categories_eq_ok_iff {cell : String} {condition : Option (List Category)} :
    categories cell = .ok condition ↔
      condition.elim (cell = "") fun cs => cs ≠ [] ∧ cell = Rule.categoriesText cs := by
  refine optional_eq_ok_iff (fun cs cell => cs ≠ [] ∧ cell = Rule.categoriesText cs) ?_ ?_
  · intro cell cs
    exact mapM_fields_eq_ok_iff (fun _ _ => category_eq_ok_iff) separator_notMem_label
  · rintro cs ⟨hne, hempty⟩
    exact join_map_ne_empty category_label_ne_empty hne hempty.symm

/-- A bound is written as its comparator, one that a sheet can write, and a run of digits. -/
def IsBound (b : Bound) (cell : String) : Prop :=
  b.comparator ∈ Comparator.writable ∧ ∃ digits : List Char, digits ≠ [] ∧
    (∀ c ∈ digits, Text.isDigit c = true) ∧ Text.numeral digits = b.limit.toNat ∧
    cell.toList = b.comparator.symbol.toList ++ digits

theorem takeWhile_sign {sign number : List Char} (hsign : ∀ c ∈ sign, Text.isDigit c = false)
    (hnumber : ∀ c ∈ number.head?, Text.isDigit c = true) :
    (sign ++ number).takeWhile (fun c => !Text.isDigit c) = sign := by
  rw [List.takeWhile_append_of_pos (by simpa using hsign)]
  cases number with
  | nil => simp
  | cons c cs => simp [hnumber c rfl]

theorem dropWhile_sign {sign number : List Char} (hsign : ∀ c ∈ sign, Text.isDigit c = false)
    (hnumber : ∀ c ∈ number.head?, Text.isDigit c = true) :
    (sign ++ number).dropWhile (fun c => !Text.isDigit c) = number := by
  rw [List.dropWhile_append_of_pos (by simpa using hsign)]
  cases number with
  | nil => rfl
  | cons c cs => simp [hnumber c rfl]

theorem isBound_of_boundChars {cs : List Char} {b : Bound} (h : boundChars cs = .ok b) :
    IsBound b (String.ofList cs) := by
  simp only [boundChars] at h
  split at h
  · cases h
  rename_i hdigits
  split at h
  · cases h
  rename_i n hn
  split at h
  · rename_i hsize
    split at h
    · rename_i comparator hsign
      have hb : b = ⟨comparator, UInt32.ofNat n⟩ := (Except.ok.inj h).symm
      subst hb
      obtain ⟨hwritable, hsymbol⟩ := Comparator.ofSymbol?_eq_some_iff.1 hsign
      obtain ⟨hall, hnumeral⟩ := Text.natural?_eq_some_iff.1 hn
      refine ⟨hwritable, _, hdigits, hall, ?_, ?_⟩
      · rw [hnumeral, UInt32.toNat_ofNat_of_lt' hsize]
      · rw [hsymbol, String.toList_ofList, String.toList_ofList, List.takeWhile_append_dropWhile]
    · cases h
  · cases h

theorem boundChars_of_isBound {cell : String} {b : Bound} (h : IsBound b cell) :
    boundChars cell.toList = .ok b := by
  obtain ⟨hwritable, digits, hne, hall, hnumeral, hcell⟩ := h
  have hsign := Comparator.symbol_not_digit b.comparator
  have hnatural : Text.natural? digits = some b.limit.toNat :=
    Text.natural?_eq_some_iff.2 ⟨hall, hnumeral⟩
  have hsymbol : Comparator.ofSymbol? b.comparator.symbol = some b.comparator :=
    Comparator.ofSymbol?_eq_some_iff.2 ⟨hwritable, rfl⟩
  have hlimit : b.limit.toNat < UInt32.size := b.limit.toNat_lt_size
  have hhead : ∀ c ∈ digits.head?, Text.isDigit c = true :=
    fun c hc => hall c (List.mem_of_mem_head? hc)
  simp [boundChars, hcell, takeWhile_sign hsign hhead, dropWhile_sign hsign hhead, hne, hnatural,
    hlimit, hsymbol]

theorem bound_eq_ok_iff {cell : String} {condition : Option Bound} :
    bound cell = .ok condition ↔ condition.elim (cell = "") fun b => IsBound b cell := by
  refine optional_eq_ok_iff IsBound (fun cell b => ⟨fun h => ?_, boundChars_of_isBound⟩) ?_
  · simpa using isBound_of_boundChars h
  · rintro b ⟨-, digits, hne, -, -, hcell⟩
    have hnil : b.comparator.symbol.toList ++ digits = [] := by simpa using hcell.symm
    exact hne (List.append_eq_nil_iff.1 hnil).2

/-- What the two words of a column have to meet for a predicate to be read back. -/
structure IsClear (words : Words) : Prop where
  /-- No token begins with both words. -/
  apart : ∀ s t : String, words.negative ++ s ≠ words.positive ++ t
  ideographs : ∀ polarity, ∀ x ∈ (words.word polarity).toList, isIdeograph x = true

theorem isClear_of_heads {words : Words} {m n : Char} (hne : m ≠ n)
    (hnegative : words.negative.toList.head? = some m)
    (hpositive : words.positive.toList.head? = some n)
    (ideographs : ∀ polarity, ∀ x ∈ (words.word polarity).toList, isIdeograph x = true) :
    IsClear words where
  apart := Text.append_ne_append_of_heads hne hnegative hpositive
  ideographs := ideographs

theorem primary_isClear : IsClear .primary :=
  isClear_of_heads (m := '不') (n := '是') (by decide) (by decide) (by decide) (by
    intro polarity
    apply List.all_eq_true.1
    cases polarity <;> decide)

theorem secondary_isClear : IsClear .secondary :=
  isClear_of_heads (m := '没') (n := '有') (by decide) (by decide) (by decide) (by
    intro polarity
    apply List.all_eq_true.1
    cases polarity <;> decide)

theorem IsClear.text_ideographs {words : Words} (hwords : IsClear words) (p : Predicate) :
    ∀ x ∈ (words.text p).toList, isIdeograph x = true := by
  intro x hx
  rw [Words.text, String.toList_append, List.mem_append] at hx
  rcases hx with hx | hx
  · exact hwords.ideographs p.polarity x hx
  · exact attribute_label_ideographs p.kind x hx

theorem IsClear.separator_notMem_text {words : Words} (hwords : IsClear words) (p : Predicate) :
    separator ∉ (words.text p).toList :=
  separator_notMem (hwords.text_ideographs p)

theorem IsClear.text_eq_positive_iff {words : Words} (hwords : IsClear words) {p : Predicate}
    {label : String} :
    words.text p = words.positive ++ label ↔ p.polarity = .positive ∧ p.kind.label = label := by
  obtain ⟨kind, polarity⟩ := p
  cases polarity with
  | positive => simp [Words.text, Words.word]
  | negative => simp [Words.text, Words.word, hwords.apart]

theorem IsClear.text_eq_negative_iff {words : Words} (hwords : IsClear words) {p : Predicate}
    {label : String} :
    words.text p = words.negative ++ label ↔ p.polarity = .negative ∧ p.kind.label = label := by
  obtain ⟨kind, polarity⟩ := p
  cases polarity with
  | positive => simp [Words.text, Words.word, (hwords.apart _ _).symm]
  | negative => simp [Words.text, Words.word]

theorem IsClear.negative_prefix_iff {words : Words} (hwords : IsClear words) {p : Predicate} :
    words.negative.toList <+: (words.text p).toList ↔ p.polarity = .negative := by
  constructor
  · rintro ⟨rest, hrest⟩
    have htext : words.text p = words.negative ++ String.ofList rest := by
      apply String.toList_inj.1
      simp [hrest]
    exact (hwords.text_eq_negative_iff.1 htext).1
  · intro h
    have htext : words.text p = words.negative ++ p.kind.label :=
      hwords.text_eq_negative_iff.2 ⟨h, rfl⟩
    rw [htext, String.toList_append]
    exact List.prefix_append _ _

theorem afterWord?_eq_some_iff {word token rest : String} :
    afterWord? word token = some rest ↔ token = word ++ rest := by
  simp only [afterWord?, Option.map_eq_some_iff, List.isPrefixOf?_eq_some_iff_append_eq]
  constructor
  · rintro ⟨cs, hcs, rfl⟩
    apply String.toList_inj.1
    simpa using hcs.symm
  · rintro rfl
    exact ⟨rest.toList, by simp, by simp⟩

theorem afterWord?_eq_none_iff {word token : String} :
    afterWord? word token = none ↔ ∀ rest, token ≠ word ++ rest := by
  simp [Option.eq_none_iff_forall_ne_some, afterWord?_eq_some_iff]

theorem kind_eq_ok_iff {label : String} {a : Attribute} :
    kind label = .ok a ↔ label = a.label := by
  rw [eq_comm (a := label), ← Attribute.ofLabel?_eq_some_iff, kind]
  cases Attribute.ofLabel? label <;> simp

theorem predicate_negative (words : Words) (label : String) :
    predicate words (words.negative ++ label) = (⟨·, .negative⟩) <$> kind label := by
  rw [predicate, afterWord?_eq_some_iff.2 rfl]

theorem predicate_positive {words : Words} {label : String}
    (h : ∀ rest, words.positive ++ label ≠ words.negative ++ rest) :
    predicate words (words.positive ++ label) = (⟨·, .positive⟩) <$> kind label := by
  rw [predicate, afterWord?_eq_none_iff.2 h, afterWord?_eq_some_iff.2 rfl]

theorem predicate_of_no_word {words : Words} {token : String}
    (hnegative : ∀ rest, token ≠ words.negative ++ rest)
    (hpositive : ∀ rest, token ≠ words.positive ++ rest) :
    predicate words token = .error (.missingWord words) := by
  rw [predicate, afterWord?_eq_none_iff.2 hnegative, afterWord?_eq_none_iff.2 hpositive]

/-- A token begins with the negative word, or else with the positive one, or with neither. -/
theorem token_cases (words : Words) {motive : String → Prop}
    (negative : ∀ label, motive (words.negative ++ label))
    (positive : ∀ label, (∀ rest, words.positive ++ label ≠ words.negative ++ rest) →
      motive (words.positive ++ label))
    (neither : ∀ token, (∀ rest, token ≠ words.negative ++ rest) →
      (∀ rest, token ≠ words.positive ++ rest) → motive token) (token : String) :
    motive token := by
  by_cases hnegative : ∃ label, token = words.negative ++ label
  · obtain ⟨label, rfl⟩ := hnegative
    exact negative label
  · have hnegative : ∀ rest, token ≠ words.negative ++ rest := not_exists.1 hnegative
    by_cases hpositive : ∃ label, token = words.positive ++ label
    · obtain ⟨label, rfl⟩ := hpositive
      exact positive label hnegative
    · exact neither token hnegative (not_exists.1 hpositive)

theorem predicate_eq_ok_iff {words : Words} (hwords : IsClear words) {token : String}
    {p : Predicate} : predicate words token = .ok p ↔ token = words.text p := by
  obtain ⟨a, polarity⟩ := p
  cases token using token_cases words with
  | negative label =>
    rw [predicate_negative]
    cases polarity with
    | positive => simp [Words.text, Words.word, hwords.apart]
    | negative => simp [Words.text, Words.word, kind_eq_ok_iff]
  | positive label hnegative =>
    rw [predicate_positive hnegative]
    cases polarity with
    | positive => simp [Words.text, Words.word, kind_eq_ok_iff]
    | negative => simp [Words.text, Words.word, hnegative]
  | neither token hnegative hpositive =>
    rw [predicate_of_no_word hnegative hpositive]
    cases polarity with
    | positive => simpa [Words.text, Words.word] using hpositive a.label
    | negative => simpa [Words.text, Words.word] using hnegative a.label

theorem mem_join {sep : String} {ss : List String} {x : Char}
    (h : x ∈ (Text.join sep ss).toList) : x ∈ sep.toList ∨ ∃ s ∈ ss, x ∈ s.toList := by
  fun_induction Text.join sep ss with
  | case1 => simp at h
  | case2 s => exact .inr ⟨s, by simp, h⟩
  | case3 s rest hrest ih =>
    simp only [String.toList_append, List.mem_append] at h
    rcases h with (h | h) | h
    · exact .inr ⟨s, by simp, h⟩
    · exact .inl h
    · rcases ih h with h | ⟨t, ht, hx⟩
      · exact .inl h
      · exact .inr ⟨t, by simp [ht], hx⟩

theorem predicates_eq_ok_iff {words : Words} (hwords : IsClear words) {cell : String}
    {ps : List Predicate} :
    predicates words cell = .ok ps ↔ ps ≠ [] ∧ cell = Text.join "," (ps.map words.text) := by
  have hfields : (Text.fields separator cell).mapM (predicate words) = .ok ps ↔
      ps ≠ [] ∧ cell = Text.join "," (ps.map words.text) :=
    mapM_fields_eq_ok_iff (fun _ _ => predicate_eq_ok_iff hwords) hwords.separator_notMem_text
  unfold predicates
  split
  · exact hfields
  · rename_i hchars
    constructor
    · intro h
      cases h
    · rintro ⟨hne, rfl⟩
      refine absurd (List.all_eq_true.2 fun x hx => ?_) hchars
      rcases mem_join hx with hx | ⟨s, hs, hx⟩
      · have he : x = separator := by simpa [separator] using hx
        simp [he]
      · obtain ⟨p, -, rfl⟩ := List.mem_map.1 hs
        simp [hwords.text_ideographs p x hx]

theorem onePredicate_eq_ok_iff {words : Words} (hwords : IsClear words) {cell : String}
    {p : Predicate} : onePredicate words cell = .ok p ↔ cell = words.text p := by
  have hone : onePredicate words cell = .ok p ↔ predicates words cell = .ok [p] := by
    unfold onePredicate
    cases predicates words cell with
    | error fault => simp [bind, Except.bind]
    | ok ps =>
      match ps with
      | [] => simp [bind, Except.bind]
      | [q] => simp [bind, Except.bind]
      | q :: r :: rest => simp [bind, Except.bind]
  rw [hone, predicates_eq_ok_iff hwords]
  simp [Text.join]

theorem text_ne_empty (words : Words) (p : Predicate) : words.text p ≠ "" := by
  intro h
  have hlabel : p.kind.label = "" := (String.append_eq_empty_iff.1 h).2
  revert hlabel
  cases p.kind <;> decide

theorem primary_eq_ok_iff {cell : String} {condition : Option Predicate} :
    primary cell = .ok condition ↔
      condition.elim (cell = "") fun p => cell = Words.primary.text p :=
  optional_eq_ok_iff (fun p cell => cell = Words.primary.text p)
    (fun _ _ => onePredicate_eq_ok_iff primary_isClear) fun p h => text_ne_empty _ p h.symm

theorem secondary_eq_ok_iff {cell : String} {condition : Option (List Predicate)} :
    secondary cell = .ok condition ↔
      condition.elim (cell = "") fun ps => ps ≠ [] ∧ cell = Rule.secondaryText ps := by
  refine optional_eq_ok_iff (fun ps cell => ps ≠ [] ∧ cell = Rule.secondaryText ps) ?_ ?_
  · intro cell ps
    exact predicates_eq_ok_iff secondary_isClear
  · rintro ps ⟨hne, hempty⟩
    exact join_map_ne_empty (text_ne_empty _) hne hempty.symm

theorem outcome_eq_ok_iff {cell : String} {o : Outcome} :
    outcome cell = .ok o ↔ o ∈ Outcome.writable ∧ cell = o.label := by
  rw [eq_comm (a := cell), ← Outcome.ofLabel?_eq_some_iff, outcome]
  cases Outcome.ofLabel? cell <;> simp

end Cell
end ArtifactRules
