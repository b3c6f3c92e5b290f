import Mathlib.Data.List.Nodup
import Mathlib.Order.Bounds.Basic
import ArtifactRules.Judging
import ArtifactRules.Proofs.CellDecision
import ArtifactRules.Proofs.RuleWriting

/-! Loaded rules and the rows they come from. Every data row that is not blank has one rule, which
carries the number of the row, so the row in a decision tells the rule that has decided. -/

namespace ArtifactRules

namespace Workbook

/-- The rules of what a source hands over, be it a workbook in memory or one in a file. -/
def loadFrom (source : Except Failure Workbook) (active : String) : Except Failure RuleSet := do
  let workbook ← source
  (workbook.load active).result

theorem loadFrom_eq_ok_iff {source : Except Failure Workbook} {active : String}
    {rules : RuleSet} :
    loadFrom source active = .ok rules ↔
      ∃ workbook sheet, source = .ok workbook ∧ workbook.select active = .ok sheet ∧
        sheet.rules = .ok rules := by
  simp only [loadFrom, load, Workbook.rules, Reading.bind_eq_ok_iff, Reading.mapError_eq_ok_iff]
  constructor
  · rintro ⟨workbook, hsource, sheet, hselect, hrules⟩
    exact ⟨workbook, sheet, hsource, hselect, hrules⟩
  · rintro ⟨workbook, sheet, hsource, hselect, hrules⟩
    exact ⟨workbook, hsource, sheet, hselect, hrules⟩

end Workbook

theorem FileTree.result_loadRules (tree : FileTree) (path : Path) (active : String) :
    (tree.loadRules path active).result = Workbook.loadFrom (tree.openWorkbook path) active :=
  Traced.result_bind _ _

namespace Sheet

variable {sheet : Sheet} {rules : RuleSet}

/-- The places of the data rows that are not blank, counted from one with the header first. -/
def rulePlaces (sheet : Sheet) : List Nat :=
  (List.range' 2 (sheet.rows.length - 1)).filter fun p =>
    sheet.rows[p - 1]?.any fun row => !row.isBlank

theorem map_snd_numbered (n : Nat) (rows : List Row) :
    (numbered n rows).map Prod.snd =
      (List.range' n rows.length).filter fun p => rows[p - n]?.any fun row => !row.isBlank := by
  rw [← List.zipIdx_map_snd n rows, List.filter_map, numbered]
  congr 1
  apply List.filter_congr
  rintro ⟨row, p⟩ hentry
  have hrow := (List.mem_zipIdx_iff_le_and_getElem?_sub.1 hentry).2
  simp [hrow]

theorem map_snd_numbered_tail (sheet : Sheet) :
    (numbered 2 sheet.rows.tail).map Prod.snd = sheet.rulePlaces := by
  rw [map_snd_numbered, List.length_tail, rulePlaces]
  apply List.filter_congr
  intro p hp
  have hp : 2 ≤ p := (List.mem_range'_1.1 hp).1
  rw [List.getElem?_tail, show p - 2 + 1 = p - 1 by omega]

theorem map_row_eq_map_snd_numbered {n : Nat} {rows : List Row}
    (h : rulesFrom n rows = .ok rules) :
    rules.map Rule.row = (numbered n rows).map Prod.snd := by
  symm
  rw [← List.forall₂_eq_eq_eq, List.forall₂_map_left_iff, List.forall₂_map_right_iff]
  refine (rulesFrom_eq_ok_iff.1 h).imp ?_
  intro entry rule hrule
  exact (Row.rule_eq_ok_iff.1 hrule).2.2.2.2.2.2.symm

theorem row_bounds_of_mem_rulesFrom {n : Nat} {rows : List Row} (h : rulesFrom n rows = .ok rules)
    {rule : Rule} (hrule : rule ∈ rules) : n ≤ rule.row ∧ rule.row < n + rows.length := by
  have hplace : rule.row ∈ (numbered n rows).map Prod.snd := by
    rw [← map_row_eq_map_snd_numbered h]
    exact List.mem_map_of_mem hrule
  rw [map_snd_numbered] at hplace
  exact List.mem_range'_1.1 (List.mem_filter.1 hplace).1

/-- The rules carry the places of the rows that are not blank, each once and in their order. -/
theorem map_row_eq_rulePlaces (h : sheet.rules = .ok rules) :
    rules.map Rule.row = sheet.rulePlaces := by
  rw [← map_snd_numbered_tail]
  exact map_row_eq_map_snd_numbered (rules_eq_ok_iff.1 h).2

theorem exists_row_of_mem_rules (h : sheet.rules = .ok rules) {rule : Rule} (hrule : rule ∈ rules) :
    ∃ row, sheet.rows[rule.row - 1]? = some row ∧ row.rule rule.row = .ok rule := by
  have hrules := rulesFrom_eq_ok_iff.1 (rules_eq_ok_iff.1 h).2
  obtain ⟨i, hi, rfl⟩ := List.getElem_of_mem hrule
  have hentry : i < (numbered firstDataRow sheet.rows.tail).length := by
    rw [hrules.length_eq]
    exact hi
  have hread : _ = Except.ok rules[i] := hrules.get hentry hi
  have hmem := List.get_mem _ ⟨i, hentry⟩
  obtain ⟨hlow, hrow⟩ := List.mem_zipIdx_iff_le_and_getElem?_sub.1 (List.mem_filter.1 hmem).1
  have hnumber := (Row.rule_eq_ok_iff.1 hread).2.2.2.2.2.2
  rw [← hnumber] at hread hlow hrow
  refine ⟨_, ?_, hread⟩
  have hplace : rules[i].row - firstDataRow + 1 = rules[i].row - 1 := by
    simp only [firstDataRow] at hlow ⊢
    omega
  rwa [List.getElem?_tail, hplace] at hrow

theorem rows_pairwise_lt (h : sheet.rules = .ok rules) :
    rules.Pairwise fun r s => r.row < s.row := by
  have hplaces : sheet.rulePlaces.Pairwise (· < ·) := List.Pairwise.filter _ List.pairwise_lt_range'
  rwa [← map_row_eq_rulePlaces h, List.pairwise_map] at hplaces

theorem row_bounds_of_mem_rules (h : sheet.rules = .ok rules) {rule : Rule} (hrule : rule ∈ rules) :
    2 ≤ rule.row ∧ rule.row ≤ sheet.rows.length := by
  obtain ⟨hlow, hhigh⟩ := row_bounds_of_mem_rulesFrom (rules_eq_ok_iff.1 h).2 hrule
  simp only [firstDataRow, List.length_tail] at hlow hhigh
  omega

/-- A sheet asks for no artifact to be left alone. -/
theorem outcome_ne_undetermined_of_mem_rules (h : sheet.rules = .ok rules) {rule : Rule}
    (hrule : rule ∈ rules) : rule.outcome ≠ .undetermined := by
  obtain ⟨row, -, hread⟩ := exists_row_of_mem_rules h hrule
  rcases (Rule.Writable.of_rule hread).outcome with ho | ho
  · simp [ho]
  · simp [ho]

end Sheet

namespace RuleSet

variable {rules : RuleSet} {a : Artifact}

theorem mem_fittingRows_iff {n : Nat} :
    n ∈ rules.fittingRows a ↔ ∃ rule ∈ rules, rule.fits a = true ∧ rule.row = n := by
  simp [fittingRows, and_assoc]

theorem heuristic_outcome_ne_undetermined (step : HeuristicStep) :
    step.outcome ≠ .undetermined := by
  cases step <;> decide

/-- Where rows increase, the first rule that fits is the one on the least row. -/
theorem isLeast_row_of_firstFit? (hrows : rules.Pairwise fun r s => r.row < s.row) {rule : Rule}
    (h : rules.firstFit? a = some rule) : IsLeast {n | n ∈ rules.fittingRows a} rule.row := by
  obtain ⟨hfits, before, after, rfl, hbefore⟩ := List.find?_eq_some_iff_append.1 h
  constructor
  · exact mem_fittingRows_iff.2 ⟨rule, by simp, hfits, rfl⟩
  · rintro n hn
    obtain ⟨other, hother, hfitsOther, rfl⟩ := mem_fittingRows_iff.1 hn
    have hafter := (List.pairwise_cons.1 (List.pairwise_append.1 hrows).2.1).1
    rcases List.mem_append.1 hother with hmem | hmem
    · exact absurd hfitsOther (by simpa using hbefore other hmem)
    · rcases List.mem_cons.1 hmem with rfl | hmem
      · exact Nat.le_refl _
      · exact Nat.le_of_lt (hafter other hmem)

theorem eq_of_row_eq (hrows : rules.Pairwise fun r s => r.row < s.row) {rule other : Rule}
    (hrule : rule ∈ rules) (hother : other ∈ rules) (h : other.row = rule.row) : other = rule := by
  have hnodup : (rules.map Rule.row).Nodup := by
    rw [List.nodup_iff_pairwise_ne, List.pairwise_map]
    exact hrows.imp Nat.ne_of_lt
  exact List.inj_on_of_nodup_map hnodup hother hrule h

/-- How loaded rules decide: the rule on the least row of all that fit. -/
structure DecidesByRow (rules : RuleSet) (sheet : Sheet) (a : Artifact) (decision : Decision) :
    Prop where
  reason_eq_rule_iff : ∀ n, decision.reason = .rule n ↔ IsLeast {m | m ∈ rules.fittingRows a} n
  outcome_eq : ∀ n, decision.reason = .rule n →
    ∃ rule ∈ rules, rule.row = n ∧ decision.outcome = rule.outcome ∧
      ∀ other ∈ rules, other.row = n → other = rule
  outcome_eq_undetermined_iff : decision.outcome = .undetermined ↔
    rules ≠ [] ∧ ∀ rule ∈ rules, rule.fits a = false
  exists_heuristic_iff : (∃ step, decision.reason = .heuristic step) ↔
    ∀ row ∈ sheet.rows.tail, row.isBlank = true

theorem nil_decidesByRow {sheet : Sheet} (h : ∀ row ∈ sheet.rows.tail, row.isBlank = true)
    (a : Artifact) : DecidesByRow [] sheet a (judge [] a).decision where
  reason_eq_rule_iff n := by simp [judge, fittingRows, IsLeast]
  outcome_eq n hn := by simp [judge] at hn
  outcome_eq_undetermined_iff := by simp [judge, heuristic_outcome_ne_undetermined]
  exists_heuristic_iff := by simpa [judge] using h

theorem decidesByRow_of_fit {sheet : Sheet} (h : sheet.rules = .ok rules)
    (hkept : ¬ ∀ row ∈ sheet.rows.tail, row.isBlank = true) {rule : Rule}
    (hfit : rules.firstFit? a = some rule) :
    DecidesByRow rules sheet a ⟨rule.outcome, .rule rule.row⟩ := by
  have hrule : rule ∈ rules := List.mem_of_find?_eq_some hfit
  have hfits : rule.fits a = true := (List.find?_eq_some_iff_append.1 hfit).1
  have hrows := Sheet.rows_pairwise_lt h
  have hleast := isLeast_row_of_firstFit? hrows hfit
  constructor
  · intro n
    constructor
    · intro hn
      cases hn
      exact hleast
    · intro hn
      rw [hleast.unique hn]
  · intro n hn
    cases hn
    exact ⟨rule, hrule, rfl, rfl, fun other hother => eq_of_row_eq hrows hrule hother⟩
  · constructor
    · intro hleft
      exact absurd hleft (Sheet.outcome_ne_undetermined_of_mem_rules h hrule)
    · rintro ⟨-, hnone⟩
      simp [hnone rule hrule] at hfits
  · simp [hkept]

theorem decidesByRow_of_no_fit {sheet : Sheet} (hne : rules ≠ [])
    (hkept : ¬ ∀ row ∈ sheet.rows.tail, row.isBlank = true)
    (hnone : ∀ rule ∈ rules, rule.fits a = false) :
    DecidesByRow rules sheet a ⟨.undetermined, .noRuleFits⟩ := by
  constructor
  · intro n
    constructor
    · intro hn
      cases hn
    · intro hn
      obtain ⟨rule, hrule, hfits, -⟩ := mem_fittingRows_iff.1 hn.1
      simp [hnone rule hrule] at hfits
  · intro n hn
    cases hn
  · simpa using ⟨hne, hnone⟩
  · simp [hkept]

theorem decidesByRow_of_rules {sheet : Sheet} (h : sheet.rules = .ok rules) (a : Artifact) :
    DecidesByRow rules sheet a (rules.judge a).decision := by
  have hempty := Sheet.isEmpty_eq_all_isBlank (Sheet.rules_eq_ok_iff.1 h).2
  by_cases hne : rules = []
  · subst hne
    exact nil_decidesByRow (by simpa using hempty) a
  · have hkept : ¬ ∀ row ∈ sheet.rows.tail, row.isBlank = true := by
      intro hblank
      rw [List.all_eq_true.2 hblank] at hempty
      exact hne (List.isEmpty_iff.1 hempty)
    cases hfit : rules.firstFit? a with
    | some rule =>
      have hdecision : (rules.judge a).decision = ⟨rule.outcome, .rule rule.row⟩ :=
        explain_of_firstFit? hfit
      rw [hdecision]
      exact decidesByRow_of_fit h hkept hfit
    | none =>
      have hnone : ∀ rule ∈ rules, rule.fits a = false := by
        simpa [firstFit?, List.find?_eq_none] using hfit
      have hdecision : (rules.judge a).decision = ⟨.undetermined, .noRuleFits⟩ :=
        explain_of_no_fit hne hnone
      rw [hdecision]
      exact decidesByRow_of_no_fit hne hkept hnone

end RuleSet

namespace Workbook

/-- The rules that are loaded are those of the rows that are not blank, in order, and the row in a
decision is the least row of a rule that fits. -/
theorem loadFrom_rows {source : Except Failure Workbook} {active : String} {rules : RuleSet}
    (h : loadFrom source active = .ok rules) :
    ∃ workbook sheet, source = .ok workbook ∧ workbook.select active = .ok sheet ∧
      rules.map Rule.row = sheet.rulePlaces ∧
      (∀ rule ∈ rules, ∃ row, sheet.rows[rule.row - 1]? = some row ∧
        row.rule rule.row = .ok rule) ∧
      (rules.Pairwise fun r s => r.row < s.row) ∧
      (∀ rule ∈ rules, 2 ≤ rule.row ∧ rule.row ≤ sheet.rows.length) ∧
      ∀ a : Artifact, rules.DecidesByRow sheet a (rules.judge a).decision := by
  obtain ⟨workbook, sheet, hsource, hselect, hrules⟩ := loadFrom_eq_ok_iff.1 h
  refine ⟨workbook, sheet, hsource, hselect, Sheet.map_row_eq_rulePlaces hrules, ?_,
    Sheet.rows_pairwise_lt hrules, ?_, RuleSet.decidesByRow_of_rules hrules⟩
  · intro rule hrule
    exact Sheet.exists_row_of_mem_rules hrules hrule
  · intro rule hrule
    exact Sheet.row_bounds_of_mem_rules hrules hrule

def twoSheets : Workbook :=
  ⟨[⟨"Notes", []⟩, Sheet.twoRuleSheet]⟩

theorem twoSheets_loadFrom_rows :
    loadFrom (.ok twoSheets) "Active" = .ok Sheet.twoRules ∧
      Sheet.twoRules.map Rule.row = Sheet.twoRuleSheet.rulePlaces ∧
      Sheet.twoRuleSheet.rulePlaces = [2, 4] ∧
      IsLeast {n | n ∈ RuleSet.fittingRows Sheet.twoRules Sheet.defenceSands} 4 := by
  have hrules : loadFrom (.ok twoSheets) "Active" = .ok Sheet.twoRules := by rfl
  obtain ⟨workbook, sheet, hsource, hselect, hplaces, -, -, -, hdecides⟩ := loadFrom_rows hrules
  cases hsource
  cases hselect
  have hreason : (RuleSet.judge Sheet.twoRules Sheet.defenceSands).decision.reason = .rule 4 := by
    decide
  exact ⟨hrules, hplaces, hplaces.symm, ((hdecides _).reason_eq_rule_iff 4).1 hreason⟩

end Workbook
end ArtifactRules
