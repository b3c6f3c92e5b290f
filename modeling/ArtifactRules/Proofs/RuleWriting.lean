import ArtifactRules.Proofs.CellForms
import ArtifactRules.Proofs.Rows

/-! Rules written into a sheet, each condition in the words that show it. What is written is read
back, and a sheet gives no rule that cannot be written. -/

namespace ArtifactRules
namespace Cell

def IsPlain (c : Char) : Prop :=
  Text.isBlank c = false ∧ c ≠ fullWidthSeparator

theorem normalize_eq_self {cell : String} (h : ∀ c ∈ cell.toList, IsPlain c) :
    normalize cell = cell := by
  have hfilter : (cell.toList.filter fun c => !Text.isBlank c) = cell.toList := by
    rw [List.filter_eq_self]
    intro c hc
    simp [(h c hc).1]
  have hmap : (cell.toList.map fun c => if c = fullWidthSeparator then separator else c) =
      cell.toList := by
    have hid : ∀ c ∈ cell.toList, (if c = fullWidthSeparator then separator else c) = id c := by
      intro c hc
      exact if_neg (h c hc).2
    rw [List.map_congr_left hid, List.map_id]
  rw [normalize, normalizeChars, hfilter, hmap, String.ofList_toList]

theorem isPlain_of_isIdeograph {c : Char} (h : isIdeograph c = true) : IsPlain c := by
  refine ⟨isBlank_of_isIdeograph h, ?_⟩
  rintro rfl
  exact absurd h (by decide)

theorem isPlain_of_isDigit {c : Char} (h : Text.isDigit c = true) : IsPlain c := by
  constructor
  · simp only [Text.isDigit, Text.digit?] at h
    simp only [Text.isBlank, Text.blankRuns, List.any_cons, List.any_nil, Bool.or_false,
      Bool.or_eq_false_iff, Bool.and_eq_false_iff, decide_eq_false_iff_not]
    split at h
    · omega
    · split at h
      · omega
      · cases h
  · rintro rfl
    exact absurd h (by decide)

theorem isPlain_of_mem_symbol {comparator : Comparator} {c : Char}
    (h : c ∈ comparator.symbol.toList) : IsPlain c := by
  have hsign : c = '>' ∨ c = '<' ∨ c = '=' := by
    cases comparator <;> simp_all [Comparator.symbol]
  rcases hsign with rfl | rfl | rfl
  · exact ⟨by decide, by decide⟩
  · exact ⟨by decide, by decide⟩
  · exact ⟨by decide, by decide⟩

theorem isPlain_of_mem_join {ss : List String}
    (h : ∀ s ∈ ss, ∀ c ∈ s.toList, isIdeograph c = true) {c : Char}
    (hc : c ∈ (Text.join "," ss).toList) : IsPlain c := by
  rcases mem_join hc with hsep | ⟨s, hs, hmem⟩
  · have he : c = ',' := by simpa using hsep
    subst he
    exact ⟨by decide, by decide⟩
  · exact isPlain_of_isIdeograph (h s hs c hmem)

theorem toList_boundText (b : Bound) :
    b.text.toList = b.comparator.symbol.toList ++ Nat.toDigits 10 b.limit.toNat := by
  have hdigits : (toString b.limit).toList = Nat.toDigits 10 b.limit.toNat := by
    apply String.toList_ofList
  rw [Bound.text, String.toList_append, hdigits]

theorem isBound_text {b : Bound} (h : b.comparator ∈ Comparator.writable) : IsBound b b.text := by
  obtain ⟨hdigits, hnumeral⟩ := Text.natural?_eq_some_iff.1 (Text.natural?_toDigits b.limit.toNat)
  exact ⟨h, _, Nat.toDigits_ne_nil, hdigits, hnumeral, toList_boundText b⟩

end Cell

namespace Rule

/-- The rules that a sheet can hold. -/
structure Writable (rule : Rule) : Prop where
  categories : rule.categories ≠ some []
  tier : ∀ b ∈ rule.tier, b.comparator = .greater ∨ b.comparator = .less
  level : ∀ b ∈ rule.level, b.comparator = .greater ∨ b.comparator = .less
  secondary : rule.secondary ≠ some []
  outcome : rule.outcome = .keep ∨ rule.outcome = .discard

def cellText? (rule : Rule) : Column → Option String
  | .categories => rule.categories.map categoriesText
  | .level => rule.level.map Bound.text
  | .tier => rule.tier.map Bound.text
  | .primary => rule.primary.map Words.primary.text
  | .secondary => rule.secondary.map secondaryText
  | .outcome => some rule.outcome.label

/-- One cell a column, with `blank` for the conditions that are absent. -/
def writtenRow (blank : Option String) (rule : Rule) : Row :=
  Column.all.map fun column => (rule.cellText? column).or blank

theorem cell_writtenRow (blank : Option String) (rule : Rule) (column : Column) :
    (rule.writtenRow blank).cell column = ((rule.cellText? column).or blank).getD "" := by
  simp [writtenRow, Row.cell]

theorem isPlain_of_mem_cellText {rule : Rule} {column : Column} {text : String}
    (h : rule.cellText? column = some text) : ∀ c ∈ text.toList, Cell.IsPlain c := by
  have hbound : ∀ b : Bound, ∀ c ∈ b.text.toList, Cell.IsPlain c := by
    intro b c hc
    rw [Cell.toList_boundText, List.mem_append] at hc
    rcases hc with hc | hc
    · exact Cell.isPlain_of_mem_symbol hc
    · have hdigits := (Text.natural?_eq_some_iff.1 (Text.natural?_toDigits b.limit.toNat)).1
      exact Cell.isPlain_of_isDigit (hdigits c hc)
  cases column with
  | categories =>
    obtain ⟨cs, -, rfl⟩ := Option.map_eq_some_iff.1 h
    intro c hc
    refine Cell.isPlain_of_mem_join (List.forall_mem_map.2 fun d _ => ?_) hc
    exact Cell.category_label_ideographs d
  | level =>
    obtain ⟨b, -, rfl⟩ := Option.map_eq_some_iff.1 h
    exact hbound b
  | tier =>
    obtain ⟨b, -, rfl⟩ := Option.map_eq_some_iff.1 h
    exact hbound b
  | primary =>
    obtain ⟨p, -, rfl⟩ := Option.map_eq_some_iff.1 h
    exact fun c hc => Cell.isPlain_of_isIdeograph (Cell.primary_isClear.text_ideographs p c hc)
  | secondary =>
    obtain ⟨ps, -, rfl⟩ := Option.map_eq_some_iff.1 h
    intro c hc
    refine Cell.isPlain_of_mem_join (List.forall_mem_map.2 fun p _ => ?_) hc
    exact Cell.secondary_isClear.text_ideographs p
  | outcome =>
    cases h
    have hlabel : ∀ o : Outcome, ∀ c ∈ o.label.toList, Cell.isIdeograph c = true := by
      intro o
      apply List.all_eq_true.1
      cases o <;> decide
    exact fun c hc => Cell.isPlain_of_isIdeograph (hlabel rule.outcome c hc)

variable {blank : Option String}

/-- Normalizing takes nothing away from what is written. -/
theorem normalized_writtenRow (hblank : Cell.normalize (blank.getD "") = "") (rule : Rule)
    (column : Column) :
    (rule.writtenRow blank).normalized column = (rule.cellText? column).getD "" := by
  rw [Row.normalized, cell_writtenRow]
  cases htext : rule.cellText? column with
  | none => simpa using hblank
  | some text => exact Cell.normalize_eq_self (isPlain_of_mem_cellText htext)

theorem isBlank_writtenRow (hblank : Cell.normalize (blank.getD "") = "") (rule : Rule) :
    (rule.writtenRow blank).isBlank = false := by
  apply Bool.eq_false_iff.2
  intro h
  have hempty := (Row.isBlank_iff _).1 h .outcome
  rw [normalized_writtenRow hblank] at hempty
  have hlabel : ∀ o : Outcome, o.label ≠ "" := by
    intro o
    cases o <;> decide
  exact hlabel rule.outcome hempty

theorem comparator_mem_writable_iff {c : Comparator} :
    c ∈ Comparator.writable ↔ c = .greater ∨ c = .less := by
  simp [Comparator.writable]

theorem outcome_mem_writable_iff {o : Outcome} :
    o ∈ Outcome.writable ↔ o = .keep ∨ o = .discard := by
  simp [Outcome.writable]

theorem elim_written {α : Type} (Writes : α → String → Prop) {write : α → String}
    {condition : Option α} (h : ∀ a, condition = some a → Writes a (write a)) :
    condition.elim ((condition.map write).getD "" = "") fun a =>
      Writes a ((condition.map write).getD "") := by
  cases condition with
  | none => rfl
  | some a => exact h a rfl

theorem bound_cellText {condition : Option Bound}
    (h : ∀ b ∈ condition, b.comparator = .greater ∨ b.comparator = .less) :
    Cell.bound ((condition.map Bound.text).getD "") = .ok condition := by
  apply Cell.bound_eq_ok_iff.2
  apply elim_written Cell.IsBound
  intro b hb
  exact Cell.isBound_text (comparator_mem_writable_iff.2 (h b hb))

/-- A rule that a sheet can hold is read back from its row. -/
theorem Writable.rule_writtenRow {rule : Rule} (h : rule.Writable)
    (hblank : Cell.normalize (blank.getD "") = "") (n : Nat) :
    (rule.writtenRow blank).rule n = .ok { rule with row := n } := by
  apply Row.rule_eq_ok_iff.2
  simp only [normalized_writtenRow hblank]
  refine ⟨?_, bound_cellText h.tier, bound_cellText h.level, ?_, ?_, ?_, trivial⟩
  · apply Cell.categories_eq_ok_iff.2
    apply elim_written fun cs cell => cs ≠ [] ∧ cell = categoriesText cs
    intro cs hcs
    have hne : cs ≠ [] := fun hnil => h.categories (hnil ▸ hcs)
    exact ⟨hne, rfl⟩
  · apply Cell.primary_eq_ok_iff.2
    apply elim_written fun p cell => cell = Words.primary.text p
    intro p hp
    rfl
  · apply Cell.secondary_eq_ok_iff.2
    apply elim_written fun ps cell => ps ≠ [] ∧ cell = secondaryText ps
    intro ps hps
    have hne : ps ≠ [] := fun hnil => h.secondary (hnil ▸ hps)
    exact ⟨hne, rfl⟩
  · exact Cell.outcome_eq_ok_iff.2 ⟨outcome_mem_writable_iff.2 h.outcome, rfl⟩

theorem Writable.of_rule {row : Row} {n : Nat} {rule : Rule} (h : row.rule n = .ok rule) :
    rule.Writable := by
  obtain ⟨hcategories, htier, hlevel, -, hsecondary, houtcome, -⟩ := Row.rule_eq_ok_iff.1 h
  have hbound : ∀ {cell : String} {condition : Option Bound}, Cell.bound cell = .ok condition →
      ∀ b ∈ condition, b.comparator = .greater ∨ b.comparator = .less := by
    rintro cell condition hcell b rfl
    exact comparator_mem_writable_iff.1 (Cell.bound_eq_ok_iff.1 hcell).1
  refine ⟨?_, hbound htier, hbound hlevel, ?_, ?_⟩
  · intro hnil
    rw [hnil] at hcategories
    exact (Cell.categories_eq_ok_iff.1 hcategories).1 rfl
  · intro hnil
    rw [hnil] at hsecondary
    exact (Cell.secondary_eq_ok_iff.1 hsecondary).1 rfl
  · exact outcome_mem_writable_iff.1 (Cell.outcome_eq_ok_iff.1 houtcome).1

/-- The rules that rows are read as are those that a sheet can hold. -/
theorem exists_row_iff_writable {rule : Rule} :
    (∃ (row : Row) (n : Nat), row.rule n = .ok rule) ↔ rule.Writable := by
  constructor
  · rintro ⟨row, n, h⟩
    exact Writable.of_rule h
  · intro h
    exact ⟨rule.writtenRow none, rule.row, h.rule_writtenRow rfl rule.row⟩

end Rule

namespace Sheet

def written (name : String) (blank : Option String) (rules : RuleSet) : Sheet where
  name
  rows := Column.labels.map some :: rules.map (Rule.writtenRow blank)

theorem rulesFrom_written {blank : Option String} (hblank : Cell.normalize (blank.getD "") = "")
    {rules : RuleSet} (h : ∀ rule ∈ rules, rule.Writable) (n : Nat) :
    rulesFrom n (rules.map (Rule.writtenRow blank)) =
      .ok (rules.mapIdx fun i rule => { rule with row := n + i }) := by
  induction rules generalizing n with
  | nil => rfl
  | cons rule rules ih =>
    have hrule := (h rule (by simp)).rule_writtenRow hblank n
    have hrules := ih (fun other hother => h other (by simp [hother])) (n + 1)
    have hshift : (fun (i : Nat) (rule : Rule) => { rule with row := n + 1 + i }) =
        fun i rule => { rule with row := n + (i + 1) } := by
      funext i rule
      rw [Nat.add_right_comm, Nat.add_assoc]
    rw [List.map_cons, rulesFrom, Rule.isBlank_writtenRow hblank, hrule, hrules, hshift,
      List.mapIdx_cons]
    rfl

/-- The rules that rows are read as are the writable ones, and a sheet of writable rules gives them
back in order, each with the number of its row. A cell of no condition may be missing or may hold
blanks. -/
theorem rules_written :
    (∀ rule : Rule, (∃ (row : Row) (n : Nat), row.rule n = .ok rule) ↔ rule.Writable) ∧
    ∀ (name : String) (blank : Option String) (rules : RuleSet),
      Cell.normalize (blank.getD "") = "" → (∀ rule ∈ rules, rule.Writable) →
        (written name blank rules).rules =
          .ok (rules.mapIdx fun i rule => { rule with row := 2 + i }) := by
  refine ⟨fun _ => Rule.exists_row_iff_writable, ?_⟩
  intro name blank rules hblank h
  have hheader : (written name blank rules).HasHeader := ⟨_, rfl, rfl⟩
  exact rules_eq_ok_iff.2 ⟨hheader, rulesFrom_written hblank h firstDataRow⟩

/-- The largest and the smallest limit, a category twice, and an attribute whose label begins
another one's. -/
def extremeRules : RuleSet :=
  [{ categories := some [.plume, .plume], level := some ⟨.greater, 4294967295⟩
     secondary := some [⟨.hpPercent, .negative⟩, ⟨.hp, .positive⟩], outcome := .discard, row := 2 },
    { tier := some ⟨.less, 0⟩, primary := some ⟨.atk, .negative⟩, outcome := .keep, row := 3 }]

theorem extremeRules_written :
    Cell.normalize ((some "  ").getD "") = "" ∧ (∀ rule ∈ extremeRules, rule.Writable) ∧
      (written "Active" (some "  ") extremeRules).rules = .ok extremeRules := by
  have hblank : Cell.normalize ((some "  ").getD "") = "" := by decide
  have hwritable : ∀ rule ∈ extremeRules, rule.Writable := by
    intro rule hrule
    rcases List.mem_cons.1 hrule with rfl | hrule
    · exact ⟨by decide, by decide, by decide, by decide, by decide⟩
    · obtain rfl := List.mem_singleton.1 hrule
      exact ⟨by decide, by decide, by decide, by decide, by decide⟩
  exact ⟨hblank, hwritable, rules_written.2 "Active" (some "  ") extremeRules hblank hwritable⟩

end Sheet
end ArtifactRules
