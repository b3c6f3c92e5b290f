import Mathlib.Data.List.DropRight
import Mathlib.Data.List.Induction
import Mathlib.Data.Nat.Digits.Defs
import ArtifactRules.Text.Blank
import ArtifactRules.Text.Digits
import ArtifactRules.Text.Fields

/-! Texts taken apart and put together again. Fields that hold no separator come back from the text
that joins them, trimming takes nothing but blanks, and a run of digits writes the number that the
decimal system gives it. -/

namespace ArtifactRules
namespace Text

theorem fieldChars_of_notMem {sep : Char} {cs : List Char} (h : sep ∉ cs) :
    fieldChars sep cs = [cs] := by
  induction cs with
  | nil => rfl
  | cons c cs ih =>
    have hc : c ≠ sep := fun he => h (by simp [he])
    have hcs : sep ∉ cs := fun hm => h (by simp [hm])
    simp [fieldChars, hc, ih hcs]

/-- A separator parts the fields before it from those after it. -/
theorem fieldChars_append (sep : Char) (cs rest : List Char) :
    fieldChars sep (cs ++ sep :: rest) = fieldChars sep cs ++ fieldChars sep rest := by
  induction cs with
  | nil => simp [fieldChars]
  | cons c cs ih =>
    obtain ⟨field, fields, hfields⟩ := List.exists_cons_of_ne_nil (fieldChars_ne_nil sep cs)
    by_cases hc : c = sep
    · simp [fieldChars, hc, ih]
    · simp [fieldChars, hc, ih, hfields]

theorem fieldChars_append_cons {sep : Char} {field : List Char} (h : sep ∉ field)
    (rest : List Char) : fieldChars sep (field ++ sep :: rest) = field :: fieldChars sep rest := by
  rw [fieldChars_append, fieldChars_of_notMem h, List.singleton_append]

theorem fieldChars_joinChars {sep : Char} {fields : List (List Char)} (hne : fields ≠ [])
    (h : ∀ field ∈ fields, sep ∉ field) : fieldChars sep (joinChars sep fields) = fields := by
  induction fields with
  | nil => exact absurd rfl hne
  | cons field fields ih =>
    have hfield : sep ∉ field := h field (by simp)
    by_cases hf : fields = []
    · subst hf
      exact fieldChars_of_notMem hfield
    · have hfields : ∀ f ∈ fields, sep ∉ f := fun f hm => h f (by simp [hm])
      rw [joinChars_cons sep field hf, fieldChars_append_cons hfield, ih hf hfields]

theorem notMem_of_mem_fieldChars {sep : Char} {cs field : List Char}
    (h : field ∈ fieldChars sep cs) : sep ∉ field := by
  induction cs generalizing field with
  | nil =>
    have he : field = [] := by simpa [fieldChars] using h
    simp [he]
  | cons c cs ih =>
    simp only [fieldChars] at h
    split at h
    · rcases List.mem_cons.1 h with rfl | h
      · simp
      · exact ih h
    · rename_i hc
      split at h
      · rename_i hnil
        exact absurd hnil (fieldChars_ne_nil sep cs)
      · rename_i first fields hfields
        rcases List.mem_cons.1 h with rfl | h
        · have hfirst : sep ∉ first := ih (by simp [hfields])
          simp [Ne.symm hc, hfirst]
        · exact ih (by simp [hfields, h])

theorem exists_fieldChars_concat {sep c : Char} (h : c ≠ sep) (cs : List Char) :
    ∃ fields last, fieldChars sep cs = fields ++ [last] ∧
      fieldChars sep (cs ++ [c]) = fields ++ [last ++ [c]] := by
  induction cs with
  | nil => exact ⟨[], [], rfl, by simp [fieldChars, h]⟩
  | cons d ds ih =>
    obtain ⟨fields, last, hfields, hconcat⟩ := ih
    by_cases hd : d = sep
    · refine ⟨[] :: fields, last, ?_, ?_⟩
      · simp [fieldChars, hd, hfields]
      · simp [fieldChars, hd, hconcat]
    · cases fields with
      | nil =>
        refine ⟨[], d :: last, ?_, ?_⟩
        · simp [fieldChars, hd, hfields]
        · simp [fieldChars, hd, hconcat]
      | cons field fields =>
        refine ⟨(d :: field) :: fields, last, ?_, ?_⟩
        · simp [fieldChars, hd, hfields]
        · simp [fieldChars, hd, hconcat]

theorem tail_fieldChars_cons {sep c : Char} (h : c ≠ sep) (cs : List Char) :
    (fieldChars sep (c :: cs)).tail = (fieldChars sep cs).tail := by
  rw [fieldChars, if_neg h]
  split
  · rename_i hnil
    simp [hnil]
  · rename_i hfields
    simp [hfields]

theorem joinChars_sublist {sep : Char} {fields others : List (List Char)}
    (h : fields.Sublist others) : (joinChars sep fields).Sublist (joinChars sep others) := by
  induction h with
  | slnil => exact List.Sublist.refl _
  | @cons fields others field h ih =>
    by_cases hothers : others = []
    · subst hothers
      simp [List.sublist_nil.1 h, joinChars]
    · rw [joinChars_cons sep field hothers]
      exact (ih.cons sep).trans (List.sublist_append_right _ _)
  | @cons_cons fields others field h ih =>
    by_cases hothers : others = []
    · subst hothers
      simp [List.sublist_nil.1 h]
    · rw [joinChars_cons sep field hothers]
      by_cases hfields : fields = []
      · subst hfields
        exact List.sublist_append_left _ _
      · rw [joinChars_cons sep field hfields]
        exact (List.Sublist.refl field).append (ih.cons_cons sep)

theorem fields_join {sep : Char} {ss : List String} (hne : ss ≠ [])
    (h : ∀ s ∈ ss, sep ∉ s.toList) : fields sep (join (String.singleton sep) ss) = ss := by
  have hlists : ∀ cs ∈ ss.map String.toList, sep ∉ cs := by
    intro cs hcs
    obtain ⟨s, hs, rfl⟩ := List.mem_map.1 hcs
    exact h s hs
  rw [fields, toList_join, fieldChars_joinChars (by simpa using hne) hlists]
  simp [List.map_map, Function.comp_def]

theorem fields_ne_nil (sep : Char) (s : String) : fields sep s ≠ [] := by
  simp [fields, fieldChars_ne_nil]

/-- The fields of a text are the one non-empty list of separator-free texts that joins to it. -/
theorem fields_eq_iff {sep : Char} {s : String} {ss : List String} :
    fields sep s = ss ↔
      ss ≠ [] ∧ (∀ t ∈ ss, sep ∉ t.toList) ∧ s = join (String.singleton sep) ss := by
  constructor
  · rintro rfl
    refine ⟨fields_ne_nil sep s, ?_, (join_fields sep s).symm⟩
    intro t ht
    obtain ⟨cs, hcs, rfl⟩ := List.mem_map.1 ht
    simpa using notMem_of_mem_fieldChars hcs
  · rintro ⟨hne, h, rfl⟩
    exact fields_join hne h

theorem head?_toList_append {s : String} {c : Char} (h : s.toList.head? = some c) (t : String) :
    (s ++ t).toList.head? = some c := by
  rw [String.toList_append, List.head?_append, h, Option.some_or]

theorem append_ne_append_of_heads {s t : String} {m n : Char} (hne : m ≠ n)
    (hs : s.toList.head? = some m) (ht : t.toList.head? = some n) (u v : String) :
    s ++ u ≠ t ++ v := by
  intro h
  have hhead := head?_toList_append hs u
  rw [h, head?_toList_append ht v] at hhead
  exact hne (Option.some.inj hhead).symm

theorem filter_dropWhile_isBlank (cs : List Char) :
    ((cs.dropWhile isBlank).filter fun c => !isBlank c) = cs.filter fun c => !isBlank c := by
  induction cs with
  | nil => rfl
  | cons c cs ih =>
    by_cases hc : isBlank c = true
    · simp [hc, ih]
    · simp [hc]

theorem filter_trim (s : String) :
    ((trim s).toList.filter fun c => !isBlank c) = s.toList.filter fun c => !isBlank c := by
  rw [trim, String.toList_ofList, trimEnd, List.filter_reverse, filter_dropWhile_isBlank,
    ← List.filter_reverse, List.reverse_reverse, trimStart, filter_dropWhile_isBlank]

theorem trim_concat {c : Char} (h : isBlank c = true) (cs : List Char) :
    trim (String.ofList (cs ++ [c])) = trim (String.ofList cs) := by
  simp only [trim, String.toList_ofList, trimStart, trimEnd, List.dropWhile_append]
  split
  · rename_i hblank
    rw [List.isEmpty_iff] at hblank
    simp [hblank, h]
  · simp [h]

theorem trim_eq_empty_iff {s : String} : trim s = "" ↔ ∀ c ∈ s.toList, isBlank c = true := by
  constructor
  · intro h
    have hfilter := filter_trim s
    rw [h] at hfilter
    simpa using hfilter.symm
  · intro h
    simp only [trim, trimStart, trimEnd, List.dropWhile_eq_nil_iff.2 h]
    rfl

theorem trim_trim_eq_empty_iff {s : String} : trim (trim s) = "" ↔ trim s = "" := by
  constructor
  · intro h
    have hfilter := filter_trim s
    rw [List.filter_eq_nil_iff.2 (by simpa using trim_eq_empty_iff.1 h)] at hfilter
    exact trim_eq_empty_iff.2 (by simpa using hfilter.symm)
  · intro h
    rw [h, trim_empty]

/-- The number that the digits of a text write, most significant first. -/
def numeral (cs : List Char) : Nat :=
  Nat.ofDigits 10 (cs.filterMap digit?).reverse

theorem digitsValue_eq_ofDigits (ds : List Nat) : digitsValue ds = Nat.ofDigits 10 ds.reverse := by
  induction ds using List.reverseRecOn with
  | nil => rfl
  | append_singleton ds d ih =>
    rw [digitsValue_concat, ih, List.reverse_append, List.reverse_singleton, List.singleton_append,
      Nat.ofDigits_cons, Nat.add_comm]

theorem mapM_digit?_eq_some_iff {cs : List Char} {ds : List Nat} :
    cs.mapM digit? = some ds ↔ (∀ c ∈ cs, isDigit c = true) ∧ cs.filterMap digit? = ds := by
  induction cs generalizing ds with
  | nil => simp
  | cons c cs ih =>
    cases hc : digit? c with
    | none => simp [hc, isDigit]
    | some d =>
      simp only [List.mapM_cons, hc, Option.bind_eq_bind, Option.bind_some, Option.bind_eq_some_iff,
        Option.pure_def, Option.some.injEq, ih, List.forall_mem_cons, isDigit, Option.isSome_some,
        true_and, List.filterMap_cons_some hc]
      constructor
      · rintro ⟨_, ⟨hd, rfl⟩, rfl⟩
        exact ⟨hd, rfl⟩
      · rintro ⟨hd, rfl⟩
        exact ⟨_, ⟨hd, rfl⟩, rfl⟩

/-- Reading a number succeeds on texts of digits alone, and gives the number they write. -/
theorem natural?_eq_some_iff {cs : List Char} {n : Nat} :
    natural? cs = some n ↔ (∀ c ∈ cs, isDigit c = true) ∧ numeral cs = n := by
  simp only [natural?, Option.map_eq_some_iff, mapM_digit?_eq_some_iff, numeral,
    digitsValue_eq_ofDigits]
  constructor
  · rintro ⟨ds, ⟨h, rfl⟩, rfl⟩
    exact ⟨h, rfl⟩
  · rintro ⟨h, rfl⟩
    exact ⟨_, ⟨h, rfl⟩, rfl⟩

theorem digit?_digitChar {d : Nat} (h : d < 10) : digit? d.digitChar = some d := by
  have hall : ∀ d < 10, digit? (Nat.digitChar d) = some d := by decide
  exact hall d h

theorem natural?_toDigits (n : Nat) : natural? (Nat.toDigits 10 n) = some n := by
  induction n using Nat.strongRecOn with
  | ind n ih =>
    by_cases hn : n < 10
    · simp [Nat.toDigits_of_lt_base hn, natural?, digit?_digitChar hn, digitsValue]
    · have hdiv := ih (n / 10) (by omega)
      obtain ⟨ds, hds, hvalue⟩ := Option.map_eq_some_iff.1 hdiv
      have hlast := digit?_digitChar (Nat.mod_lt n (by omega : 0 < 10))
      rw [Nat.toDigits_of_base_le (by omega) (by omega)]
      simp only [natural?, List.mapM_append, hds, List.mapM_cons, List.mapM_nil, hlast]
      simp [hvalue]
      omega

end Text
end ArtifactRules
