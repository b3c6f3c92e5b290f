import Mathlib.Data.Set.List
import ArtifactRules.Report
import ArtifactRules.Proofs.CellForms
import ArtifactRules.Proofs.RowLayout

/-! The language of each column, over the words that the listing of the vocabulary gives. A row is
read exactly when each of its six cells lies in the language of its column. -/

namespace ArtifactRules

def Report.wordsUnder (report : Report) (title : String) : List String :=
  ((report.vocabulary.find? (·.title == title)).map WordList.words).getD []

structure Lexicon where
  categories : List String
  attributes : List String
  comparators : List String
  primaryWords : List String
  secondaryWords : List String
  outcomes : List String

def Report.lexicon (report : Report) : Lexicon where
  categories := report.wordsUnder "Categories"
  attributes := report.wordsUnder "Attributes"
  comparators := report.wordsUnder "Level and tier comparators"
  primaryWords := report.wordsUnder "Primary attribute words"
  secondaryWords := report.wordsUnder "Secondary attribute words"
  outcomes := report.wordsUnder "Outcomes"

namespace Lexicon

/-- One item or more, with a comma between them. -/
def Items (IsItem : String → Prop) (cell : String) : Prop :=
  ∃ items : List String, items ≠ [] ∧ (∀ item ∈ items, IsItem item) ∧ cell = Text.join "," items

/-- `'0'` to `'9'`, or the same in full width. -/
def IsDigit (c : Char) : Prop :=
  ('0' ≤ c ∧ c ≤ '9') ∨ ('０' ≤ c ∧ c ≤ '９')

/-- A comparator, then digits that write a number of 32 bits. -/
def IsBound (lexicon : Lexicon) (cell : String) : Prop :=
  ∃ sign ∈ lexicon.comparators, ∃ digits : List Char, digits ≠ [] ∧ (∀ c ∈ digits, IsDigit c) ∧
    Text.numeral digits ≤ 4294967295 ∧ cell = sign ++ String.ofList digits

def IsPredicate (lexicon : Lexicon) (words : List String) (token : String) : Prop :=
  ∃ word ∈ words, ∃ label ∈ lexicon.attributes, token = word ++ label

/-- The language of a column. -/
def Accepts (lexicon : Lexicon) (cell : String) : Column → Prop
  | .categories => cell = "" ∨ Items (· ∈ lexicon.categories) cell
  | .level | .tier => cell = "" ∨ lexicon.IsBound cell
  | .primary => cell = "" ∨ lexicon.IsPredicate lexicon.primaryWords cell
  | .secondary => cell = "" ∨ Items (lexicon.IsPredicate lexicon.secondaryWords) cell
  | .outcome => cell ∈ lexicon.outcomes

theorem words_eq : Report.words.lexicon =
    { categories := Labelled.labels Category
      attributes := Labelled.labels Attribute
      comparators := [">", "<"]
      primaryWords := ["是", "不是"]
      secondaryWords := ["有", "没有"]
      outcomes := ["锁", "不锁"] } := by
  rfl

theorem mem_categories_iff {s : String} :
    s ∈ Report.words.lexicon.categories ↔ ∃ c : Category, c.label = s := by
  rw [words_eq]
  constructor
  · intro h
    obtain ⟨c, -, hc⟩ := List.mem_map.1 h
    exact ⟨c, hc⟩
  · rintro ⟨c, rfl⟩
    exact List.mem_map.2 ⟨c, by cases c <;> decide, rfl⟩

theorem mem_attributes_iff {s : String} :
    s ∈ Report.words.lexicon.attributes ↔ ∃ a : Attribute, a.label = s := by
  rw [words_eq]
  constructor
  · intro h
    obtain ⟨a, -, ha⟩ := List.mem_map.1 h
    exact ⟨a, ha⟩
  · rintro ⟨a, rfl⟩
    exact List.mem_map.2 ⟨a, by cases a <;> decide, rfl⟩

theorem items_iff {α : Type} {write : α → String} {IsItem : String → Prop}
    (h : ∀ s, IsItem s ↔ ∃ a, write a = s) {cell : String} :
    Items IsItem cell ↔ ∃ as : List α, as ≠ [] ∧ cell = Text.join "," (as.map write) := by
  constructor
  · rintro ⟨items, hne, hitems, rfl⟩
    have hrange : items ∈ Set.range (List.map write) := by
      rw [Set.range_list_map]
      exact fun s hs => (h s).1 (hitems s hs)
    obtain ⟨as, rfl⟩ := hrange
    exact ⟨as, by simpa using hne, rfl⟩
  · rintro ⟨as, hne, rfl⟩
    refine ⟨as.map write, by simpa using hne, ?_, rfl⟩
    intro s hs
    obtain ⟨a, -, rfl⟩ := List.mem_map.1 hs
    exact (h _).2 ⟨a, rfl⟩

theorem isDigit_iff {c : Char} : Text.isDigit c = true ↔ IsDigit c := by
  have hle : ∀ a b : Char, a ≤ b ↔ a.toNat ≤ b.toNat := fun _ _ => Iff.rfl
  simp only [IsDigit, hle, Text.isDigit, Text.digit?]
  split
  · simp_all
  · split <;> simp_all

theorem isBound_iff {cell : String} :
    Report.words.lexicon.IsBound cell ↔ ∃ b, Cell.IsBound b cell := by
  constructor
  · rintro ⟨sign, hsign, digits, hne, hdigits, hsize, hcell⟩
    have hcomparator : ∃ c ∈ Comparator.writable, c.symbol = sign := List.mem_map.1 hsign
    obtain ⟨comparator, hwritable, rfl⟩ := hcomparator
    refine ⟨⟨comparator, UInt32.ofNat (Text.numeral digits)⟩, hwritable, digits, hne, ?_, ?_, ?_⟩
    · exact fun c hc => isDigit_iff.2 (hdigits c hc)
    · have hsizes : UInt32.size = 4294967296 := rfl
      rw [UInt32.toNat_ofNat_of_lt' (by omega)]
    · simp [hcell]
  · rintro ⟨b, hwritable, digits, hne, hdigits, hnumeral, hcell⟩
    refine ⟨b.comparator.symbol, List.mem_map.2 ⟨_, hwritable, rfl⟩, digits, hne, ?_, ?_, ?_⟩
    · exact fun c hc => isDigit_iff.1 (hdigits c hc)
    · have hlt : b.limit.toNat < 4294967296 := b.limit.toNat_lt
      omega
    · apply String.toList_inj.1
      simp [hcell]

theorem isPredicate_iff {words : Words} {token : String} :
    Report.words.lexicon.IsPredicate [words.positive, words.negative] token ↔
      ∃ p, words.text p = token := by
  constructor
  · rintro ⟨word, hword, label, hlabel, rfl⟩
    obtain ⟨kind, rfl⟩ := mem_attributes_iff.1 hlabel
    have hwords : word = words.positive ∨ word = words.negative := by simpa using hword
    rcases hwords with rfl | rfl
    · exact ⟨⟨kind, .positive⟩, rfl⟩
    · exact ⟨⟨kind, .negative⟩, rfl⟩
  · rintro ⟨⟨kind, polarity⟩, rfl⟩
    refine ⟨words.word polarity, ?_, kind.label, mem_attributes_iff.2 ⟨kind, rfl⟩, rfl⟩
    cases polarity <;> simp [Words.word]

/-- A cell is faultless in a column exactly when it lies in the language of the column. -/
theorem fault?_eq_none_iff {cell : String} {column : Column} :
    Cell.fault? cell column = none ↔ Report.words.lexicon.Accepts cell column := by
  have hbound : Reading.fault? (Cell.bound cell) = none ↔
      cell = "" ∨ Report.words.lexicon.IsBound cell := by
    rw [Reading.fault?_eq_none_iff]
    simp only [Cell.bound_eq_ok_iff, Option.exists, Option.elim, isBound_iff]
  cases column with
  | categories =>
    rw [Cell.fault?, Reading.fault?_eq_none_iff, Accepts, items_iff fun _ => mem_categories_iff]
    simp only [Cell.categories_eq_ok_iff, Option.exists, Option.elim, Rule.categoriesText]
  | level => exact hbound
  | tier => exact hbound
  | primary =>
    rw [Cell.fault?, Reading.fault?_eq_none_iff, Accepts]
    simp only [Cell.primary_eq_ok_iff, Option.exists, Option.elim]
    exact or_congr_right ((exists_congr fun _ => eq_comm).trans isPredicate_iff.symm)
  | secondary =>
    have hitems : Items (Report.words.lexicon.IsPredicate Report.words.lexicon.secondaryWords)
        cell ↔ ∃ ps : List Predicate, ps ≠ [] ∧ cell = Rule.secondaryText ps :=
      items_iff fun _ => isPredicate_iff
    rw [Cell.fault?, Reading.fault?_eq_none_iff, Accepts, hitems]
    simp only [Cell.secondary_eq_ok_iff, Option.exists, Option.elim]
  | outcome =>
    rw [Cell.fault?, Reading.fault?_eq_none_iff]
    simp only [Cell.outcome_eq_ok_iff]
    have houtcome : (∃ o, o ∈ Outcome.writable ∧ cell = o.label) ↔
        cell ∈ Outcome.writable.map Outcome.label := by
      simp only [List.mem_map, eq_comm]
    exact houtcome

end Lexicon

theorem Column.eq_index_of_getElem? {column : Column} {i : Nat}
    (h : Column.all[i]? = some column) : i = column.index := by
  have hlength : i < Column.all.length := (List.getElem?_eq_some_iff.1 h).1
  exact (List.getElem?_inj hlength (by decide)).1 (h.trans (Column.all_index column).symm)

/-- A row is read exactly when each of its first six cells, bare and empty if it is missing, lies in
the language of its column, and the words of those languages are the ones that the listing gives: the
label of every category and of every attribute, and the signs and words below. -/
theorem Row.exists_rule_iff_accepts :
    (∀ (row : Row) (n : Nat), (∃ rule, row.rule n = .ok rule) ↔
      ∀ i column, Column.all[i]? = some column →
        Report.words.lexicon.Accepts (String.ofList (Cell.bare (row.textAt i))) column) ∧
    (∀ s, s ∈ Report.words.lexicon.categories ↔ ∃ c : Category, c.label = s) ∧
    (∀ s, s ∈ Report.words.lexicon.attributes ↔ ∃ a : Attribute, a.label = s) ∧
    Report.words.lexicon.comparators = [">", "<"] ∧
    Report.words.lexicon.primaryWords = ["是", "不是"] ∧
    Report.words.lexicon.secondaryWords = ["有", "没有"] ∧
    Report.words.lexicon.outcomes = ["锁", "不锁"] := by
  refine ⟨?_, fun _ => Lexicon.mem_categories_iff, fun _ => Lexicon.mem_attributes_iff, ?_⟩
  · intro row n
    have hcell : ∀ column, Cell.fault? (row.normalized column) column = none ↔
        Report.words.lexicon.Accepts (String.ofList (Cell.bare (row.textAt column.index))) column := by
      intro column
      rw [Lexicon.fault?_eq_none_iff, Row.normalized, Row.cell_eq_textAt, Cell.normalize_eq_bare]
    rw [Row.exists_rule_iff]
    constructor
    · rintro h i column hcolumn
      obtain rfl := Column.eq_index_of_getElem? hcolumn
      exact (hcell column).1 (h column)
    · intro h column
      exact (hcell column).2 (h column.index column (Column.all_index column))
  · rw [Lexicon.words_eq]
    exact ⟨rfl, rfl, rfl, rfl⟩

end ArtifactRules
