import ArtifactRules.Decision
import ArtifactRules.Proofs.CellForms
import ArtifactRules.Proofs.Rows

/-! Decisions read directly off the cells of a sheet, without rules in between. The rules of an
accepted sheet decide every artifact in the same way. -/

namespace ArtifactRules
namespace Cell

def NamesCategory (cell : String) (a : Artifact) : Prop :=
  a.category.label ∈ Text.fields ',' cell

/-- `>N` of the values strictly above the number `N`, and `<N` of those strictly below it. -/
def BoundsValue (cell : String) (value : UInt32) : Prop :=
  (cell.toList.head? = some '>' ∧ Text.numeral cell.toList.tail < value.toNat) ∨
    (cell.toList.head? = some '<' ∧ value.toNat < Text.numeral cell.toList.tail)

/-- `是L` where the label is `L`, and `不是L` where it is not. -/
def TellsPrimary (cell label : String) : Prop :=
  cell = "是" ++ label ∨ ("不是".toList <+: cell.toList ∧ cell ≠ "不是" ++ label)

/-- `有L` where one of the labels is `L`, and `没有L` where none is. -/
def TokenTells (token : String) (labels : List String) : Prop :=
  (∃ label ∈ labels, token = "有" ++ label) ∨
    ("没有".toList <+: token.toList ∧ ∀ label ∈ labels, token ≠ "没有" ++ label)

def TellsSecondary (cell : String) (labels : List String) : Prop :=
  ∀ token ∈ Text.fields ',' cell, TokenTells token labels

instance (cell : String) (a : Artifact) : Decidable (NamesCategory cell a) :=
  inferInstanceAs (Decidable (_ ∈ _))

instance (cell : String) (value : UInt32) : Decidable (BoundsValue cell value) :=
  inferInstanceAs (Decidable (_ ∨ _))

instance (cell label : String) : Decidable (TellsPrimary cell label) :=
  inferInstanceAs (Decidable (_ ∨ _))

instance (token : String) (labels : List String) : Decidable (TokenTells token labels) :=
  inferInstanceAs (Decidable (_ ∨ _))

instance (cell : String) (labels : List String) : Decidable (TellsSecondary cell labels) :=
  inferInstanceAs (Decidable (∀ _ ∈ _, _))

/-- What a cell that is not empty says of an artifact. -/
def IsTrue (cell : String) (a : Artifact) : Column → Prop
  | .categories => NamesCategory cell a
  | .level => BoundsValue cell a.level
  | .tier => BoundsValue cell a.tier
  | .primary => TellsPrimary cell a.primary.kind.label
  | .secondary => TellsSecondary cell (a.secondaryKinds.map Attribute.label)
  | .outcome => True

instance (cell : String) (a : Artifact) (column : Column) : Decidable (IsTrue cell a column) :=
  match column with
  | .categories => inferInstanceAs (Decidable (NamesCategory _ _))
  | .level => inferInstanceAs (Decidable (BoundsValue _ _))
  | .tier => inferInstanceAs (Decidable (BoundsValue _ _))
  | .primary => inferInstanceAs (Decidable (TellsPrimary _ _))
  | .secondary => inferInstanceAs (Decidable (TellsSecondary _ _))
  | .outcome => inferInstanceAs (Decidable True)

theorem all_iff_of_optional {α : Type} {read : String → Reading α} {cell : String}
    {condition : Option α} {holds : α → Bool} {Tells : Prop}
    (h : optional read cell = .ok condition)
    (hread : ∀ a, read cell = .ok a → (holds a = true ↔ Tells)) :
    condition.all holds = true ↔ (cell ≠ "" → Tells) := by
  by_cases hcell : cell = ""
  · have hnone : none = condition := by simpa [optional, hcell] using h
    subst hnone
    simp [hcell]
  · have hsome : ∃ a, read cell = .ok a ∧ some a = condition := by
      simpa [optional, hcell] using h
    obtain ⟨a, ha, rfl⟩ := hsome
    simp [hcell, hread a ha]

theorem contains_iff_namesCategory {cell : String} {condition : Option (List Category)}
    (h : categories cell = .ok condition) (a : Artifact) :
    condition.all (·.contains a.category) = true ↔ (cell ≠ "" → NamesCategory cell a) := by
  apply all_iff_of_optional h
  intro cs hcs
  have hfields := (Reading.mapM_eq_ok_iff_map fun _ _ => category_eq_ok_iff).1 hcs
  show _ ↔ a.category.label ∈ Text.fields separator cell
  rw [hfields, List.mem_map_of_injective Category.label_injective]
  simp

theorem holds_iff_boundsValue {cell : String} {condition : Option Bound}
    (h : bound cell = .ok condition) (value : UInt32) :
    condition.all (·.holds value) = true ↔ (cell ≠ "" → BoundsValue cell value) := by
  apply all_iff_of_optional h
  intro b hb
  obtain ⟨hwritable, digits, -, -, hnumeral, hsplit⟩ := isBound_of_boundChars hb
  rw [String.ofList_toList] at hsplit
  obtain ⟨comparator, limit⟩ := b
  cases comparator with
  | greater =>
    have hsplit : cell.toList = '>' :: digits := by simpa [Comparator.symbol] using hsplit
    simp [Bound.holds_iff, BoundsValue, hsplit, hnumeral]
  | less =>
    have hsplit : cell.toList = '<' :: digits := by simpa [Comparator.symbol] using hsplit
    simp [Bound.holds_iff, BoundsValue, hsplit, hnumeral]
  | equal => simp [Comparator.writable] at hwritable

theorem tellsPrimary_text_iff (p : Predicate) (kind : Attribute) :
    TellsPrimary (Words.primary.text p) kind.label ↔ p.holdsFor kind = true := by
  have hpositive : Words.primary.text p = "是" ++ kind.label ↔ _ :=
    primary_isClear.text_eq_positive_iff
  have hnegative : Words.primary.text p = "不是" ++ kind.label ↔ _ :=
    primary_isClear.text_eq_negative_iff
  have hprefix : "不是".toList <+: (Words.primary.text p).toList ↔ _ :=
    primary_isClear.negative_prefix_iff
  rw [TellsPrimary, Ne, hpositive, hnegative, hprefix, Attribute.label_injective.eq_iff]
  cases hp : p.polarity with
  | positive =>
    simp only [Predicate.holdsFor, hp, reduceCtorEq, true_and, false_and, or_false, beq_iff_eq]
    exact eq_comm
  | negative =>
    simp only [Predicate.holdsFor, hp, reduceCtorEq, true_and, false_and, false_or, bne_iff_ne]
    exact ne_comm

theorem holdsFor_iff_tellsPrimary {cell : String} {condition : Option Predicate}
    (h : primary cell = .ok condition) (kind : Attribute) :
    condition.all (·.holdsFor kind) = true ↔ (cell ≠ "" → TellsPrimary cell kind.label) := by
  apply all_iff_of_optional h
  intro p hp
  rw [(onePredicate_eq_ok_iff primary_isClear).1 hp, tellsPrimary_text_iff]

theorem holdsAmong_iff (p : Predicate) (kinds : List Attribute) :
    p.holdsAmong kinds = true ↔
      (p.polarity = .positive ∧ p.kind ∈ kinds) ∨ (p.polarity = .negative ∧ p.kind ∉ kinds) := by
  cases hp : p.polarity with
  | positive => simp [Predicate.holdsAmong, hp]
  | negative =>
    simp only [Predicate.holdsAmong, hp, List.all_eq_true, bne_iff_ne, reduceCtorEq, false_and,
      true_and, false_or]
    exact ⟨fun h hkind => h p.kind hkind rfl, fun h kind hkind he => h (he ▸ hkind)⟩

theorem tokenTells_text_iff (p : Predicate) (kinds : List Attribute) :
    TokenTells (Words.secondary.text p) (kinds.map Attribute.label) ↔
      p.holdsAmong kinds = true := by
  have hpositive : ∀ label, Words.secondary.text p = "有" ++ label ↔ _ :=
    fun label => secondary_isClear.text_eq_positive_iff
  have hnegative : ∀ label, Words.secondary.text p = "没有" ++ label ↔ _ :=
    fun label => secondary_isClear.text_eq_negative_iff
  have hprefix : "没有".toList <+: (Words.secondary.text p).toList ↔ _ :=
    secondary_isClear.negative_prefix_iff
  have hmem : p.kind.label ∈ kinds.map Attribute.label ↔ p.kind ∈ kinds :=
    List.mem_map_of_injective Attribute.label_injective
  rw [TokenTells, hprefix, holdsAmong_iff, ← hmem]
  simp only [Ne, hpositive, hnegative]
  cases hp : p.polarity with
  | positive => simp
  | negative =>
    simp only [reduceCtorEq, false_and, and_false, exists_false, true_and, false_or]
    exact ⟨fun h hlabel => h _ hlabel rfl, fun h label hlabel he => h (he ▸ hlabel)⟩

theorem holdsAmong_iff_tellsSecondary {cell : String} {condition : Option (List Predicate)}
    (h : secondary cell = .ok condition) (kinds : List Attribute) :
    condition.all (fun ps => ps.all (·.holdsAmong kinds)) = true ↔
      (cell ≠ "" → TellsSecondary cell (kinds.map Attribute.label)) := by
  apply all_iff_of_optional h
  intro ps hps
  have hjoin := (predicates_eq_ok_iff secondary_isClear).1 hps
  have hfields : Text.fields ',' cell = ps.map Words.secondary.text :=
    (fields_eq_map_iff secondary_isClear.separator_notMem_text).2 hjoin
  rw [TellsSecondary, hfields, List.forall_mem_map, List.all_eq_true]
  simp only [tokenTells_text_iff]

end Cell

namespace Row

def IsTrue (row : Row) (a : Artifact) : Prop :=
  ∀ column ∈ Column.all, row.normalized column ≠ "" → Cell.IsTrue (row.normalized column) a column

instance (row : Row) (a : Artifact) : Decidable (row.IsTrue a) :=
  inferInstanceAs (Decidable (∀ _ ∈ _, _))

def statedOutcome (row : Row) : Outcome :=
  if row.normalized .outcome = "锁" then .keep
  else if row.normalized .outcome = "不锁" then .discard
  else .undetermined

end Row

/-- The first data row that is not blank and true of the artifact decides, by its place in the
sheet. Where none is, the artifact is left alone, unless every data row is blank. -/
def Sheet.decisionFor (sheet : Sheet) (a : Artifact) : Decision :=
  match (sheet.rows.tail.zipIdx 2).find? fun (row, _) => !row.isBlank && row.IsTrue a with
  | some (row, n) => ⟨row.statedOutcome, .rule n⟩
  | none =>
    if sheet.rows.tail.all Row.isBlank then ⟨a.heuristic.outcome, .heuristic a.heuristic⟩
    else ⟨.undetermined, .noRuleFits⟩

theorem Row.fits_iff_isTrue {row : Row} {n : Nat} {rule : Rule} (h : row.rule n = .ok rule)
    (a : Artifact) : rule.fits a = true ↔ row.IsTrue a := by
  obtain ⟨hcategories, htier, hlevel, hprimary, hsecondary, -, -⟩ := Row.rule_eq_ok_iff.1 h
  have hall : row.IsTrue a ↔
      (row.normalized .categories ≠ "" → Cell.NamesCategory (row.normalized .categories) a) ∧
      (row.normalized .level ≠ "" → Cell.BoundsValue (row.normalized .level) a.level) ∧
      (row.normalized .tier ≠ "" → Cell.BoundsValue (row.normalized .tier) a.tier) ∧
      (row.normalized .primary ≠ "" →
        Cell.TellsPrimary (row.normalized .primary) a.primary.kind.label) ∧
      (row.normalized .secondary ≠ "" →
        Cell.TellsSecondary (row.normalized .secondary) (a.secondaryKinds.map Attribute.label)) := by
    simp [Row.IsTrue, Column.all, Cell.IsTrue]
  rw [hall, ← Cell.contains_iff_namesCategory hcategories, ← Cell.holds_iff_boundsValue hlevel,
    ← Cell.holds_iff_boundsValue htier, ← Cell.holdsFor_iff_tellsPrimary hprimary,
    ← Cell.holdsAmong_iff_tellsSecondary hsecondary]
  simp only [Rule.fits, Bool.and_eq_true]
  constructor
  · rintro ⟨⟨⟨⟨hc, ht⟩, hl⟩, hp⟩, hs⟩
    exact ⟨hc, hl, ht, hp, hs⟩
  · rintro ⟨hc, hl, ht, hp, hs⟩
    exact ⟨⟨⟨⟨hc, ht⟩, hl⟩, hp⟩, hs⟩

theorem Row.outcome_eq_statedOutcome {row : Row} {n : Nat} {rule : Rule}
    (h : row.rule n = .ok rule) : rule.outcome = row.statedOutcome := by
  obtain ⟨-, -, -, -, -, houtcome, -⟩ := Row.rule_eq_ok_iff.1 h
  obtain ⟨hwritable, hcell⟩ := Cell.outcome_eq_ok_iff.1 houtcome
  rw [Row.statedOutcome, hcell]
  cases ho : rule.outcome with
  | keep => decide
  | discard => decide
  | undetermined =>
    rw [ho] at hwritable
    exact absurd hwritable (by decide)

theorem find?_map_eq_of_forall₂ {α β γ : Type} {R : α → β → Prop} {xs : List α} {ys : List β}
    {p : α → Bool} {q : β → Bool} {f : α → γ} {g : β → γ} (h : List.Forall₂ R xs ys)
    (hpq : ∀ x y, R x y → p x = q y) (hfg : ∀ x y, R x y → f x = g y) :
    (xs.find? p).map f = (ys.find? q).map g := by
  induction h with
  | nil => rfl
  | cons hxy hrest ih =>
    rename_i x y xs ys
    have hp := hpq x y hxy
    cases hq : q y with
    | true => simp [hp, hq, hfg x y hxy]
    | false => simp [hp, hq, ih]

namespace Sheet

theorem firstFit?_map_eq {n : Nat} {rows : List Row} {rules : RuleSet}
    (h : rulesFrom n rows = .ok rules) (a : Artifact) :
    (rules.firstFit? a).map (fun rule => (⟨rule.outcome, .rule rule.row⟩ : Decision)) =
      ((rows.zipIdx n).find? fun entry => !entry.1.isBlank && entry.1.IsTrue a).map
        fun entry => ⟨entry.1.statedOutcome, .rule entry.2⟩ := by
  have hrules := rulesFrom_eq_ok_iff.1 h
  have hfind : ((rows.zipIdx n).find? fun entry => !entry.1.isBlank && entry.1.IsTrue a) =
      (numbered n rows).find? fun entry => decide (entry.1.IsTrue a) := by
    rw [numbered, List.find?_filter]
    simp
  rw [hfind, RuleSet.firstFit?]
  symm
  refine find?_map_eq_of_forall₂ hrules ?_ ?_
  · rintro ⟨row, m⟩ rule hrule
    rw [Bool.eq_iff_iff, decide_eq_true_iff]
    exact (Row.fits_iff_isTrue hrule a).symm
  · rintro ⟨row, m⟩ rule hrule
    have hnumber := (Row.rule_eq_ok_iff.1 hrule).2.2.2.2.2.2
    rw [Row.outcome_eq_statedOutcome hrule, hnumber]

theorem isEmpty_eq_all_isBlank {n : Nat} {rows : List Row} {rules : RuleSet}
    (h : rulesFrom n rows = .ok rules) : rules.isEmpty = rows.all Row.isBlank := by
  induction rows generalizing n rules with
  | nil =>
    cases h
    rfl
  | cons row rows ih =>
    cases hblank : row.isBlank with
    | true =>
      rw [rulesFrom_cons_of_blank hblank] at h
      simp [hblank, ih h]
    | false =>
      obtain ⟨rule, -, rest, -, rfl⟩ := (rulesFrom_cons_eq_ok_iff hblank).1 h
      simp [hblank]

/-- The rules of a sheet decide as its cells say. -/
theorem explain_eq_decisionFor {sheet : Sheet} {rules : RuleSet} (h : sheet.rules = .ok rules)
    (a : Artifact) : rules.explain a = sheet.decisionFor a := by
  have hdata := (rules_eq_ok_iff.1 h).2
  have hfirst := firstFit?_map_eq hdata a
  have hempty := isEmpty_eq_all_isBlank hdata
  rw [decisionFor]
  cases hrow : (sheet.rows.tail.zipIdx 2).find? fun entry =>
      !entry.1.isBlank && entry.1.IsTrue a with
  | some entry =>
    rw [firstDataRow, hrow, Option.map_some, Option.map_eq_some_iff] at hfirst
    obtain ⟨rule, hfit, hdecision⟩ := hfirst
    rw [RuleSet.explain_of_firstFit? hfit]
    exact hdecision
  | none =>
    rw [firstDataRow, hrow, Option.map_none, Option.map_eq_none_iff] at hfirst
    simp only [RuleSet.explain, hfirst, hempty]

/-- A rule, then a blank row, then a rule with a note in a seventh column. -/
def twoRuleSheet : Sheet where
  name := "Active"
  rows :=
    [Column.labels.map some,
      [some " 时之沙，空之杯", some "<1６", some ">4", none, some "有暴击率,没有防御力", some "锁"],
      [none, some "  "],
      [none, none, none, some "不是生命值", none, some "不锁", some "元素伤害"]]

def twoRules : RuleSet :=
  [{ categories := some [.sands, .goblet], level := some ⟨.less, 16⟩, tier := some ⟨.greater, 4⟩
     secondary := some [⟨.critRate, .positive⟩, ⟨.defence, .negative⟩], outcome := .keep, row := 2 },
    { primary := some ⟨.hp, .negative⟩, outcome := .discard, row := 4 }]

def defenceSands : Artifact where
  category := .sands
  tier := 5
  primary := ⟨.energyRecharge, "7.8%"⟩
  secondary := [⟨.critRate, "3.1%"⟩, ⟨.defence, "19"⟩]
  secondary_length_le := by decide
  secondaryKinds_nodup := by decide

theorem twoRuleSheet_explain_eq_decisionFor :
    twoRuleSheet.rules = .ok twoRules ∧
      twoRules.explain defenceSands = twoRuleSheet.decisionFor defenceSands ∧
      twoRuleSheet.decisionFor defenceSands = ⟨.discard, .rule 4⟩ := by
  have hrules : twoRuleSheet.rules = .ok twoRules := by
    apply rules_eq_ok_iff.2
    refine ⟨⟨_, rfl, rfl⟩, ?_⟩
    apply rulesFrom_eq_ok_iff.2
    exact .cons (rfl) (.cons (rfl) .nil)
  have hsame := explain_eq_decisionFor hrules defenceSands
  have hdecision : twoRules.explain defenceSands = ⟨.discard, .rule 4⟩ := by decide
  exact ⟨hrules, hsame, hsame.symm.trans hdecision⟩

end Sheet
end ArtifactRules
