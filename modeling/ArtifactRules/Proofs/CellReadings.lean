import ArtifactRules.Proofs.CellLanguage

/-! What a column makes of any text, with the fault that it finds. In a bound the number is judged
before the comparator. In a list the tokens are judged from the left, and the first that cannot be
read decides. -/

namespace ArtifactRules
namespace Cell

/-- The empty cell is no condition; any other is read as `Reads` says. -/
inductive OptionalReading {α : Type} (Reads : String → Reading α → Prop) :
    String → Reading (Option α) → Prop
  | empty : OptionalReading Reads "" (.ok none)
  | condition {cell : String} {a : α} (hne : cell ≠ "") (h : Reads cell (.ok a)) :
    OptionalReading Reads cell (.ok (some a))
  | fault {cell : String} {fault : CellFault} (hne : cell ≠ "") (h : Reads cell (.error fault)) :
    OptionalReading Reads cell (.error fault)

theorem optional_eq_iff {α : Type} {read : String → Reading α}
    {Reads : String → Reading α → Prop} (hread : ∀ cell r, read cell = r ↔ Reads cell r)
    {cell : String} {r : Reading (Option α)} :
    optional read cell = r ↔ OptionalReading Reads cell r := by
  constructor
  · rintro rfl
    by_cases hcell : cell = ""
    · subst hcell
      exact .empty
    · rw [optional, if_neg hcell]
      cases hr : read cell with
      | ok a => exact .condition hcell ((hread cell _).1 hr)
      | error fault => exact .fault hcell ((hread cell _).1 hr)
  · rintro (_ | ⟨hne, h⟩ | ⟨hne, h⟩)
    · rfl
    · rw [optional, if_neg hne, (hread cell _).2 h]
      rfl
    · rw [optional, if_neg hne, (hread cell _).2 h]
      rfl

def digitValue (c : Char) : Nat :=
  if '０' ≤ c then c.toNat - '０'.toNat else c.toNat - '0'.toNat

/-- The number that digits write, most significant first and of any size. -/
def decimal (digits : List Char) : Nat :=
  Nat.ofDigits 10 (digits.map digitValue).reverse

/-- The number of a cell begins at its first digit. -/
structure IsCut (sign number : String) : Prop where
  sign : ∀ c ∈ sign.toList, ¬ Lexicon.IsDigit c
  number : ∃ c ∈ number.toList.head?, Lexicon.IsDigit c

/-- Digits only, which write a number of 32 bits. -/
structure IsWord (number : String) : Prop where
  digits : ∀ c ∈ number.toList, Lexicon.IsDigit c
  le : decimal number.toList ≤ 4294967295

/-- A bound is `>` or `<` and a number; a number that is none is the fault whatever precedes it. -/
inductive BoundReading : String → Reading Bound → Prop
  | noDigit {cell : String} (h : ∀ c ∈ cell.toList, ¬ Lexicon.IsDigit c) :
    BoundReading cell (.error (.badNumber cell))
  | badNumber {sign number : String} (hcut : IsCut sign number) (h : ¬ IsWord number) :
    BoundReading (sign ++ number) (.error (.badNumber number))
  | badComparator {sign number : String} (hcut : IsCut sign number) (h : IsWord number)
    (hgreater : sign ≠ ">") (hless : sign ≠ "<") :
    BoundReading (sign ++ number) (.error (.badComparator sign))
  | greater {number : String} {limit : UInt32} (hcut : IsCut ">" number) (h : IsWord number)
    (hlimit : limit.toNat = decimal number.toList) :
    BoundReading (">" ++ number) (.ok ⟨.greater, limit⟩)
  | less {number : String} {limit : UInt32} (hcut : IsCut "<" number) (h : IsWord number)
    (hlimit : limit.toNat = decimal number.toList) :
    BoundReading ("<" ++ number) (.ok ⟨.less, limit⟩)

theorem not_isDigit_iff {c : Char} : Text.isDigit c = false ↔ ¬ Lexicon.IsDigit c := by
  rw [← Lexicon.isDigit_iff, Bool.not_eq_true]

theorem digit?_eq_digitValue {c : Char} (h : Lexicon.IsDigit c) :
    Text.digit? c = some (digitValue c) := by
  have hle : ∀ a b : Char, a ≤ b ↔ a.toNat ≤ b.toNat := fun _ _ => Iff.rfl
  have hzero : '0'.toNat = 0x30 := rfl
  have hnine : '9'.toNat = 0x39 := rfl
  have hwideZero : '０'.toNat = 0xFF10 := rfl
  have hwideNine : '９'.toNat = 0xFF19 := rfl
  simp only [Lexicon.IsDigit, hle, hzero, hnine, hwideZero, hwideNine] at h
  simp only [Text.digit?, digitValue, hle, hzero, hwideZero]
  rcases h with h | h
  · rw [if_pos h, if_neg (by omega)]
  · rw [if_neg (by omega), if_pos h, if_pos h.1]

theorem natural?_of_digits {cs : List Char} (h : ∀ c ∈ cs, Lexicon.IsDigit c) :
    Text.natural? cs = some (decimal cs) := by
  have hvalues : cs.filterMap Text.digit? = cs.map digitValue := by
    rw [← List.filterMap_eq_map]
    exact List.filterMap_congr fun c hc => digit?_eq_digitValue (h c hc)
  apply Text.natural?_eq_some_iff.2
  refine ⟨fun c hc => Lexicon.isDigit_iff.2 (h c hc), ?_⟩
  rw [Text.numeral, decimal, hvalues]

theorem natural?_eq_none {cs : List Char} (h : ¬ ∀ c ∈ cs, Lexicon.IsDigit c) :
    Text.natural? cs = none := by
  apply Option.eq_none_iff_forall_ne_some.2
  intro n hn
  have hdigits := (Text.natural?_eq_some_iff.1 hn).1
  exact h fun c hc => Lexicon.isDigit_iff.1 (hdigits c hc)

theorem exists_isCut {cell : String} (h : ∃ c ∈ cell.toList, Lexicon.IsDigit c) :
    ∃ sign number, IsCut sign number ∧ cell = sign ++ number := by
  have hfound : (cell.toList.find? Text.isDigit).isSome = true := by
    simpa [List.find?_isSome, Lexicon.isDigit_iff] using h
  obtain ⟨d, hd⟩ := Option.isSome_iff_exists.1 hfound
  obtain ⟨hdigit, before, after, hcell, hbefore⟩ := List.find?_eq_some_iff_append.1 hd
  refine ⟨String.ofList before, String.ofList (d :: after), ⟨?_, ?_⟩, ?_⟩
  · intro c hc
    rw [String.toList_ofList] at hc
    exact not_isDigit_iff.1 (by simpa using hbefore c hc)
  · exact ⟨d, by simp, Lexicon.isDigit_iff.1 hdigit⟩
  · apply String.toList_inj.1
    simp [hcell]

variable {sign number : String}

theorem boundChars_of_noDigit {cell : String} (h : ∀ c ∈ cell.toList, ¬ Lexicon.IsDigit c) :
    boundChars cell.toList = .error (.badNumber cell) := by
  have hdrop : cell.toList.dropWhile (fun c => !Text.isDigit c) = [] := by
    rw [List.dropWhile_eq_nil_iff]
    intro c hc
    simpa using not_isDigit_iff.2 (h c hc)
  simp [boundChars, hdrop]

theorem IsCut.boundChars_eq (h : IsCut sign number) :
    boundChars (sign ++ number).toList =
      match Text.natural? number.toList with
      | none => .error (.badNumber number)
      | some n =>
        if n < UInt32.size then
          match Comparator.ofSymbol? sign with
          | some comparator => .ok ⟨comparator, UInt32.ofNat n⟩
          | none => .error (.badComparator sign)
        else .error (.badNumber number) := by
  obtain ⟨d, hd, hdigit⟩ := h.number
  have hsign : ∀ c ∈ sign.toList, Text.isDigit c = false :=
    fun c hc => not_isDigit_iff.2 (h.sign c hc)
  have hnumber : ∀ c ∈ number.toList.head?, Text.isDigit c = true := by
    intro c hc
    obtain rfl : d = c := Option.mem_unique hd hc
    exact Lexicon.isDigit_iff.2 hdigit
  have hne : number.toList ≠ [] := List.ne_nil_of_mem (List.mem_of_mem_head? hd)
  have htake := takeWhile_sign hsign hnumber
  have hdrop := dropWhile_sign hsign hnumber
  cases hnatural : Text.natural? number.toList with
  | none => simp [boundChars, hdrop, hne, hnatural]
  | some n =>
    cases hcomparator : Comparator.ofSymbol? sign with
    | none => simp [boundChars, htake, hdrop, hne, hnatural, hcomparator]
    | some comparator => simp [boundChars, htake, hdrop, hne, hnatural, hcomparator]

theorem IsCut.boundChars_of_not_isWord (h : IsCut sign number) (hword : ¬ IsWord number) :
    boundChars (sign ++ number).toList = .error (.badNumber number) := by
  rw [h.boundChars_eq]
  by_cases hdigits : ∀ c ∈ number.toList, Lexicon.IsDigit c
  · have hsize : ¬ decimal number.toList < UInt32.size := by
      intro hlt
      exact hword ⟨hdigits, Nat.le_of_lt_succ hlt⟩
    simp only [natural?_of_digits hdigits, if_neg hsize]
  · simp only [natural?_eq_none hdigits]

theorem IsCut.boundChars_of_isWord (h : IsCut sign number) (hword : IsWord number) :
    boundChars (sign ++ number).toList =
      match Comparator.ofSymbol? sign with
      | some comparator => .ok ⟨comparator, UInt32.ofNat (decimal number.toList)⟩
      | none => .error (.badComparator sign) := by
  have hsize : decimal number.toList < UInt32.size := Nat.lt_succ_of_le hword.le
  simp only [h.boundChars_eq, natural?_of_digits hword.digits, if_pos hsize]

theorem IsWord.toNat_ofNat (h : IsWord number) :
    (UInt32.ofNat (decimal number.toList)).toNat = decimal number.toList :=
  UInt32.toNat_ofNat_of_lt' (Nat.lt_succ_of_le h.le)

theorem IsWord.ofNat_eq {limit : UInt32} (h : IsWord number)
    (hlimit : limit.toNat = decimal number.toList) :
    UInt32.ofNat (decimal number.toList) = limit :=
  UInt32.toNat_inj.1 (h.toNat_ofNat.trans hlimit.symm)

theorem ofSymbol?_eq_none (hgreater : sign ≠ ">") (hless : sign ≠ "<") :
    Comparator.ofSymbol? sign = none := by
  simp [Comparator.ofSymbol?, Comparator.writable, Comparator.symbol, hgreater.symm, hless.symm]

theorem boundReading_boundChars (cell : String) : BoundReading cell (boundChars cell.toList) := by
  by_cases hdigit : ∃ c ∈ cell.toList, Lexicon.IsDigit c
  · obtain ⟨sign, number, hcut, rfl⟩ := exists_isCut hdigit
    by_cases hword : IsWord number
    · rw [hcut.boundChars_of_isWord hword]
      by_cases hgreater : sign = ">"
      · subst hgreater
        exact .greater hcut hword hword.toNat_ofNat
      by_cases hless : sign = "<"
      · subst hless
        exact .less hcut hword hword.toNat_ofNat
      · rw [ofSymbol?_eq_none hgreater hless]
        exact .badComparator hcut hword hgreater hless
    · rw [hcut.boundChars_of_not_isWord hword]
      exact .badNumber hcut hword
  · have hnone : ∀ c ∈ cell.toList, ¬ Lexicon.IsDigit c := fun c hc hc' => hdigit ⟨c, hc, hc'⟩
    rw [boundChars_of_noDigit hnone]
    exact .noDigit hnone

theorem BoundReading.boundChars_eq {cell : String} {r : Reading Bound}
    (h : BoundReading cell r) : boundChars cell.toList = r := by
  cases h with
  | noDigit h => exact boundChars_of_noDigit h
  | badNumber hcut h => exact hcut.boundChars_of_not_isWord h
  | badComparator hcut h hgreater hless =>
    rw [hcut.boundChars_of_isWord h, ofSymbol?_eq_none hgreater hless]
  | greater hcut h hlimit =>
    rw [hcut.boundChars_of_isWord h, h.ofNat_eq hlimit]
    rfl
  | less hcut h hlimit =>
    rw [hcut.boundChars_of_isWord h, h.ofNat_eq hlimit]
    rfl

/-- The level and tier columns in full. -/
theorem bound_eq_iff_reading (cell : String) (r : Reading (Option Bound)) :
    bound cell = r ↔ OptionalReading BoundReading cell r := by
  apply optional_eq_iff
  intro cell r
  constructor
  · rintro rfl
    exact boundReading_boundChars cell
  · exact BoundReading.boundChars_eq

/-- The texts between the commas of a cell, empty ones included. -/
structure IsSplit (cell : String) (tokens : List String) : Prop where
  ne_nil : tokens ≠ []
  plain : ∀ token ∈ tokens, ',' ∉ token.toList
  joined : cell = Text.join "," tokens

theorem isSplit_iff {cell : String} {tokens : List String} :
    IsSplit cell tokens ↔ Text.fields separator cell = tokens := by
  rw [Text.fields_eq_iff]
  constructor
  · rintro ⟨hne, hplain, hjoined⟩
    exact ⟨hne, hplain, hjoined⟩
  · rintro ⟨hne, hplain, hjoined⟩
    exact ⟨hne, hplain, hjoined⟩

section Tokens

variable {α : Type} {Good : String → α → Prop} {Bad : String → CellFault → Prop}
variable {read : String → Reading α}

/-- Where every token is good there is a value for each, in order; otherwise the leftmost bad token
is the fault. -/
inductive Verdict (Good : String → α → Prop) (Bad : String → CellFault → Prop) :
    List String → Reading (List α) → Prop
  | good {tokens : List String} {values : List α} (h : List.Forall₂ Good tokens values) :
    Verdict Good Bad tokens (.ok values)
  | bad {before after : List String} {token : String} {fault : CellFault}
    (hbefore : ∀ t ∈ before, ∃ a, Good t a) (h : Bad token fault) :
    Verdict Good Bad (before ++ token :: after) (.error fault)

def TokensReading (Good : String → α → Prop) (Bad : String → CellFault → Prop) (cell : String)
    (r : Reading (List α)) : Prop :=
  ∃ tokens, IsSplit cell tokens ∧ Verdict Good Bad tokens r

theorem mapM_eq_iff_verdict (hgood : ∀ token a, read token = .ok a ↔ Good token a)
    (hbad : ∀ token fault, read token = .error fault ↔ Bad token fault) {tokens : List String}
    {r : Reading (List α)} : tokens.mapM read = r ↔ Verdict Good Bad tokens r := by
  constructor
  · rintro rfl
    cases hr : tokens.mapM read with
    | ok values =>
      exact .good ((Reading.mapM_eq_ok_iff.1 hr).imp fun token a h => (hgood token a).1 h)
    | error fault =>
      obtain ⟨before, token, after, rfl, hbefore, h⟩ := Reading.mapM_eq_error_iff.1 hr
      refine .bad ?_ ((hbad token fault).1 h)
      intro t ht
      obtain ⟨a, ha⟩ := hbefore t ht
      exact ⟨a, (hgood t a).1 ha⟩
  · rintro (h | ⟨hbefore, h⟩)
    · exact Reading.mapM_eq_ok_iff.2 (h.imp fun token a ha => (hgood token a).2 ha)
    · refine Reading.mapM_eq_error_iff.2 ⟨_, _, _, rfl, ?_, (hbad _ _).2 h⟩
      intro t ht
      obtain ⟨a, ha⟩ := hbefore t ht
      exact ⟨a, (hgood t a).2 ha⟩

theorem mapM_fields_eq_iff (hgood : ∀ token a, read token = .ok a ↔ Good token a)
    (hbad : ∀ token fault, read token = .error fault ↔ Bad token fault) {cell : String}
    {r : Reading (List α)} :
    (Text.fields separator cell).mapM read = r ↔ TokensReading Good Bad cell r := by
  rw [mapM_eq_iff_verdict hgood hbad, TokensReading]
  simp only [isSplit_iff]
  exact ⟨fun h => ⟨_, rfl, h⟩, fun ⟨_, htokens, h⟩ => htokens ▸ h⟩

end Tokens

inductive CategoryFault : String → CellFault → Prop
  | category {token : String} (h : ∀ c : Category, token ≠ c.label) :
    CategoryFault token (.badCategory token)

/-- A token that is not one of the words with the label of an attribute. The negative word is tried
first, and what is left of the token after a word is named. -/
inductive PredicateFault (words : Words) : String → CellFault → Prop
  | negative {label : String} (h : ∀ a : Attribute, label ≠ a.label) :
    PredicateFault words (words.negative ++ label) (.badAttribute label)
  | positive {label : String} (hnegative : ∀ s, words.positive ++ label ≠ words.negative ++ s)
    (h : ∀ a : Attribute, label ≠ a.label) :
    PredicateFault words (words.positive ++ label) (.badAttribute label)
  | word {token : String} (hnegative : ∀ s, token ≠ words.negative ++ s)
    (hpositive : ∀ s, token ≠ words.positive ++ s) :
    PredicateFault words token (.missingWord words)

/-- An ideograph from U+4E00 to U+9FFF, or a comma. -/
def MayHold (c : Char) : Prop :=
  ('\u4e00' ≤ c ∧ c ≤ '\u9fff') ∨ c = ','

/-- The characters of the whole cell are judged before its tokens. -/
inductive PredicatesReading (words : Words) : String → Reading (List Predicate) → Prop
  | separator {cell : String} (h : ∃ c ∈ cell.toList, ¬ MayHold c) :
    PredicatesReading words cell (.error (.badSeparator cell))
  | tokens {cell : String} {r : Reading (List Predicate)} (hchars : ∀ c ∈ cell.toList, MayHold c)
    (h : TokensReading (fun token p => token = words.text p) (PredicateFault words) cell r) :
    PredicatesReading words cell r

/-- One predicate is expected; that there are several is found last. -/
inductive OneReading (words : Words) : String → Reading Predicate → Prop
  | fault {cell : String} {fault : CellFault} (h : PredicatesReading words cell (.error fault)) :
    OneReading words cell (.error fault)
  | several {cell : String} {tokens : List String} {ps : List Predicate}
    (h : PredicatesReading words cell (.ok ps)) (hsplit : IsSplit cell tokens)
    (hlength : 1 < tokens.length) :
    OneReading words cell (.error (.severalPrimaries tokens.length))
  | one {cell : String} {p : Predicate} (h : PredicatesReading words cell (.ok [p])) :
    OneReading words cell (.ok p)

theorem category_of_no_label {token : String} (h : ∀ c : Category, token ≠ c.label) :
    category token = .error (.badCategory token) := by
  unfold category
  split
  · rename_i c hc
    exact absurd (Category.ofLabel?_eq_some_iff.1 hc).symm (h c)
  · rfl

theorem category_eq_error_iff {token : String} {fault : CellFault} :
    category token = .error fault ↔ CategoryFault token fault := by
  constructor
  · intro hfault
    have h : ∀ c : Category, token ≠ c.label := by
      intro c hc
      rw [category_eq_ok_iff.2 hc] at hfault
      cases hfault
    rw [category_of_no_label h] at hfault
    cases hfault
    exact .category h
  · rintro ⟨h⟩
    exact category_of_no_label h

theorem kind_of_no_label {label : String} (h : ∀ a : Attribute, label ≠ a.label) :
    kind label = .error (.badAttribute label) := by
  unfold kind
  split
  · rename_i a ha
    exact absurd (Attribute.ofLabel?_eq_some_iff.1 ha).symm (h a)
  · rfl

theorem map_kind_eq_error_iff {label : String} {fault : CellFault} (f : Attribute → Predicate) :
    f <$> kind label = .error fault ↔
      (∀ a : Attribute, label ≠ a.label) ∧ .badAttribute label = fault := by
  by_cases h : ∃ a : Attribute, label = a.label
  · obtain ⟨a, ha⟩ := h
    have hfound : ¬ ∀ a : Attribute, label ≠ a.label := fun h => h a ha
    simp [kind_eq_ok_iff.2 ha, hfound]
  · have h : ∀ a : Attribute, label ≠ a.label := not_exists.1 h
    simp [kind_of_no_label h, h]

theorem predicate_eq_error_iff {words : Words} {token : String} {fault : CellFault} :
    predicate words token = .error fault ↔ PredicateFault words token fault := by
  constructor
  · intro h
    cases token using token_cases words with
    | negative label =>
      rw [predicate_negative, map_kind_eq_error_iff] at h
      obtain ⟨hlabel, rfl⟩ := h
      exact .negative hlabel
    | positive label hnegative =>
      rw [predicate_positive hnegative, map_kind_eq_error_iff] at h
      obtain ⟨hlabel, rfl⟩ := h
      exact .positive hnegative hlabel
    | neither token hnegative hpositive =>
      rw [predicate_of_no_word hnegative hpositive] at h
      cases h
      exact .word hnegative hpositive
  · rintro (h | ⟨hnegative, h⟩ | ⟨hnegative, hpositive⟩)
    · rw [predicate_negative, map_kind_eq_error_iff]
      exact ⟨h, rfl⟩
    · rw [predicate_positive hnegative, map_kind_eq_error_iff]
      exact ⟨h, rfl⟩
    · exact predicate_of_no_word hnegative hpositive

theorem mayHold_iff {c : Char} : (isIdeograph c || c == separator) = true ↔ MayHold c := by
  have hle : ∀ a b : Char, a ≤ b ↔ a.toNat ≤ b.toNat := fun _ _ => Iff.rfl
  simp only [MayHold, hle, isIdeograph, Bool.or_eq_true, Bool.and_eq_true, decide_eq_true_eq,
    beq_iff_eq]
  exact Iff.rfl

theorem predicates_of_mayHold {cell : String} (words : Words)
    (h : ∀ c ∈ cell.toList, MayHold c) :
    predicates words cell = (Text.fields separator cell).mapM (predicate words) :=
  if_pos (List.all_eq_true.2 fun c hc => mayHold_iff.2 (h c hc))

theorem predicates_of_not_mayHold {cell : String} (words : Words)
    (h : ∃ c ∈ cell.toList, ¬ MayHold c) :
    predicates words cell = .error (.badSeparator cell) := by
  obtain ⟨c, hc, hbad⟩ := h
  exact if_neg fun hall => hbad (mayHold_iff.1 (List.all_eq_true.1 hall c hc))

theorem predicates_eq_iff {words : Words} (hwords : IsClear words) {cell : String}
    {r : Reading (List Predicate)} :
    predicates words cell = r ↔ PredicatesReading words cell r := by
  have htokens : (Text.fields separator cell).mapM (predicate words) = r ↔
      TokensReading (fun token p => token = words.text p) (PredicateFault words) cell r :=
    mapM_fields_eq_iff (fun _ _ => predicate_eq_ok_iff hwords) fun _ _ => predicate_eq_error_iff
  constructor
  · intro h
    by_cases hchars : ∀ c ∈ cell.toList, MayHold c
    · rw [predicates_of_mayHold words hchars] at h
      exact .tokens hchars (htokens.1 h)
    · have hbad : ∃ c ∈ cell.toList, ¬ MayHold c := by simpa using hchars
      rw [predicates_of_not_mayHold words hbad] at h
      subst h
      exact .separator hbad
  · rintro (h | ⟨hchars, h⟩)
    · exact predicates_of_not_mayHold words h
    · rw [predicates_of_mayHold words hchars]
      exact htokens.2 h

theorem PredicatesReading.length_eq {words : Words} {cell : String} {tokens : List String}
    {ps : List Predicate} (h : PredicatesReading words cell (.ok ps)) (hsplit : IsSplit cell tokens) :
    tokens.length = ps.length := by
  obtain _ | ⟨-, others, hothers, hverdict⟩ := h
  obtain rfl := (isSplit_iff.1 hothers).symm.trans (isSplit_iff.1 hsplit)
  obtain ⟨hgood⟩ | _ := hverdict
  exact hgood.length_eq

theorem onePredicate_of_error {words : Words} {cell : String} {fault : CellFault}
    (h : predicates words cell = .error fault) : onePredicate words cell = .error fault := by
  rw [onePredicate, h]
  rfl

theorem onePredicate_of_several {words : Words} {cell : String} {ps : List Predicate}
    (h : predicates words cell = .ok ps) (hlength : 1 < ps.length) :
    onePredicate words cell = .error (.severalPrimaries ps.length) := by
  match ps with
  | p :: q :: rest =>
    rw [onePredicate, h]
    rfl

theorem onePredicate_eq_iff {words : Words} (hwords : IsClear words) {cell : String}
    {r : Reading Predicate} : onePredicate words cell = r ↔ OneReading words cell r := by
  constructor
  · rintro rfl
    cases hr : predicates words cell with
    | error fault =>
      rw [onePredicate_of_error hr]
      exact .fault ((predicates_eq_iff hwords).1 hr)
    | ok ps =>
      have hreading := (predicates_eq_iff hwords).1 hr
      have hne : ps ≠ [] := ((predicates_eq_ok_iff hwords).1 hr).1
      by_cases hlength : 1 < ps.length
      · have hsplit : IsSplit cell (Text.fields separator cell) := isSplit_iff.2 rfl
        have htokens := hreading.length_eq hsplit
        rw [onePredicate_of_several hr hlength, ← htokens]
        exact .several hreading hsplit (htokens ▸ hlength)
      · have hone : ps.length = 1 := by
          have hpos := List.length_pos_iff.2 hne
          omega
        obtain ⟨p, rfl⟩ := List.length_eq_one_iff.1 hone
        rw [onePredicate, hr]
        exact .one hreading
  · rintro (h | ⟨h, hsplit, hlength⟩ | h)
    · exact onePredicate_of_error ((predicates_eq_iff hwords).2 h)
    · rw [h.length_eq hsplit] at hlength ⊢
      exact onePredicate_of_several ((predicates_eq_iff hwords).2 h) hlength
    · rw [onePredicate, (predicates_eq_iff hwords).2 h]
      rfl

/-- The columns of tokens in full: the categories, the primary attribute and the secondary ones. -/
theorem token_columns_eq_iff_reading :
    (∀ cell r, categories cell = r ↔
      OptionalReading (TokensReading (fun token c => token = c.label) CategoryFault) cell r) ∧
    (∀ cell r, primary cell = r ↔ OptionalReading (OneReading ⟨"是", "不是"⟩) cell r) ∧
    (∀ cell r, secondary cell = r ↔
      OptionalReading (PredicatesReading ⟨"有", "没有"⟩) cell r) := by
  refine ⟨fun cell r => ?_, fun cell r => ?_, fun cell r => ?_⟩
  · exact optional_eq_iff fun _ _ =>
      mapM_fields_eq_iff (fun _ _ => category_eq_ok_iff) fun _ _ => category_eq_error_iff
  · exact optional_eq_iff fun _ _ => onePredicate_eq_iff primary_isClear
  · exact optional_eq_iff fun _ _ => predicates_eq_iff secondary_isClear

end Cell
end ArtifactRules
