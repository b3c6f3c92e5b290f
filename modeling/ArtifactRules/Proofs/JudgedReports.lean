import Mathlib.Data.List.Forall2
import ArtifactRules.Report
import ArtifactRules.Proofs.LoadedRules

/-! Reports on artifacts. Every artifact has its entry, the three counts are those of the entries,
and the messages say whether the heuristic has decided and how many artifacts are left alone. -/

namespace ArtifactRules

/-- Rules that can come to be judged by: none, or those that are loaded from a workbook. -/
def RuleSet.Usable (rules : RuleSet) : Prop :=
  rules = [] ∨ ∃ source active, Workbook.loadFrom source active = .ok rules

/-- An artifact is left alone only where there are rules and none of them fits. -/
theorem RuleSet.Usable.outcome_explain_iff {rules : RuleSet} (h : rules.Usable) (a : Artifact) :
    (rules.explain a).outcome = .undetermined ↔
      rules ≠ [] ∧ ∀ rule ∈ rules, rule.fits a = false := by
  rcases h with rfl | ⟨source, active, hload⟩
  · simp [heuristic_outcome_ne_undetermined]
  · obtain ⟨workbook, sheet, -, -, hrules⟩ := Workbook.loadFrom_eq_ok_iff.1 hload
    exact (decidesByRow_of_rules hrules a).outcome_eq_undetermined_iff

namespace Report

variable {rules : RuleSet}

def tally (report : Report) (outcome : Outcome) : Nat :=
  (report.judged.filter fun entry => entry.decision.outcome = outcome).length

/-- What a report on artifacts tells. -/
structure Accounts (rules : RuleSet) (artifacts : List Artifact) (report : Report) : Prop where
  entries : List.Forall₂ (fun a entry => entry = ⟨a, rules.explain a⟩) artifacts report.judged
  total : report.tally .keep + report.tally .discard + report.tally .undetermined =
    artifacts.length
  info_iff : ∀ text, ⟨.info, text⟩ ∈ report.messages ↔
    text = toString artifacts.length ++ " items: " ++ toString (report.tally .keep) ++ " keep, " ++
        toString (report.tally .discard) ++ " discard, " ++
        toString (report.tally .undetermined) ++ " undetermined" ∨
      rules = [] ∧ text = "No rules loaded; using the built-in heuristic."
  note_iff : report.messages.head? =
    some ⟨.info, "No rules loaded; using the built-in heuristic."⟩ ↔ rules = []
  warning_iff : ∀ text, ⟨.warning, text⟩ ∈ report.messages ↔
    0 < report.tally .undetermined ∧
      text = toString (report.tally .undetermined) ++ " items matched no rule and were left alone"
  /-- The artifacts that are left alone are those that no rule fits. -/
  left_eq : rules ≠ [] → report.tally .undetermined =
    (artifacts.filter fun a => rules.all fun rule => !rule.fits a).length
  none_left : rules = [] → report.tally .undetermined = 0

theorem count_judged_eq_tally (report : Report) (outcome : Outcome) :
    count report.judged outcome = report.tally outcome := by
  rw [count, List.countP_eq_length_filter, tally]
  congr 1

theorem count_add_count_add_count (judged : List Judged) :
    count judged .keep + count judged .discard + count judged .undetermined = judged.length := by
  induction judged with
  | nil => rfl
  | cons entry judged ih =>
    simp only [count, List.countP_cons, List.length_cons] at ih ⊢
    cases entry.decision.outcome with
    | keep => simp; omega
    | discard => simp; omega
    | undetermined => simp; omega

theorem forall₂_judgeAll (rules : RuleSet) (artifacts : List Artifact) :
    List.Forall₂ (fun a entry => entry = ⟨a, rules.explain a⟩) artifacts
      (rules.judgeAll artifacts) := by
  rw [RuleSet.judgeAll, List.forall₂_map_right_iff, List.forall₂_same]
  exact fun a _ => rfl

theorem count_undetermined (h : rules.Usable) (hne : rules ≠ []) (artifacts : List Artifact) :
    count (rules.judgeAll artifacts) .undetermined =
      (artifacts.filter fun a => rules.all fun rule => !rule.fits a).length := by
  rw [count, RuleSet.judgeAll, List.countP_map, ← List.countP_eq_length_filter]
  apply List.countP_congr
  intro a _
  simp [RuleSet.judge, h.outcome_explain_iff, hne]

theorem count_undetermined_nil (artifacts : List Artifact) :
    count (RuleSet.judgeAll [] artifacts) .undetermined = 0 := by
  rw [count, RuleSet.judgeAll, List.countP_map, List.countP_eq_zero]
  intro a _
  simp [RuleSet.judge, RuleSet.heuristic_outcome_ne_undetermined]

theorem summary_ne_note (judged : List Judged) :
    summary judged ≠ "No rules loaded; using the built-in heuristic." := by
  intro h
  have hlast : (summary judged).toList.getLast? = some 'd' := by
    rw [summary, String.toList_append, List.getLast?_append]
    rfl
  rw [h] at hlast
  exact absurd hlast (by decide)

theorem messages_ofArtifacts (rules : RuleSet) (artifacts : List Artifact) :
    (ofArtifacts rules artifacts).messages =
      (if rules = [] then [⟨.info, "No rules loaded; using the built-in heuristic."⟩] else []) ++
        ⟨.info, summary (rules.judgeAll artifacts)⟩ ::
          if 0 < count (rules.judgeAll artifacts) .undetermined then
            [⟨.warning, toString (count (rules.judgeAll artifacts) .undetermined) ++
              " items matched no rule and were left alone"⟩]
          else [] := by
  simp [ofArtifacts]

theorem mem_messages_ofArtifacts {artifacts : List Artifact} {message : Message} :
    message ∈ (ofArtifacts rules artifacts).messages ↔
      (rules = [] ∧ message = ⟨.info, "No rules loaded; using the built-in heuristic."⟩) ∨
        message = ⟨.info, summary (rules.judgeAll artifacts)⟩ ∨
        (0 < count (rules.judgeAll artifacts) .undetermined ∧
          message = ⟨.warning, toString (count (rules.judgeAll artifacts) .undetermined) ++
            " items matched no rule and were left alone"⟩) := by
  rw [messages_ofArtifacts, List.mem_append, List.mem_cons, List.mem_ite_nil_right,
    List.mem_ite_nil_right, List.mem_singleton, List.mem_singleton]

/-- The report on artifacts that are judged by rules from a workbook, or by none, accounts for all
of them. -/
theorem accounts_ofArtifacts (h : rules.Usable) (artifacts : List Artifact) :
    Accounts rules artifacts (ofArtifacts rules artifacts) := by
  have hlength : (rules.judgeAll artifacts).length = artifacts.length := List.length_map _
  have htally : ∀ outcome, (ofArtifacts rules artifacts).tally outcome =
      count (rules.judgeAll artifacts) outcome :=
    fun outcome => (count_judged_eq_tally (ofArtifacts rules artifacts) outcome).symm
  constructor
  · exact forall₂_judgeAll rules artifacts
  · rw [htally, htally, htally, count_add_count_add_count, hlength]
  · intro text
    rw [htally, htally, htally, mem_messages_ofArtifacts, ← hlength]
    simp only [Message.mk.injEq, true_and, reduceCtorEq, false_and, and_false, or_false]
    exact or_comm
  · rw [messages_ofArtifacts]
    by_cases hrules : rules = []
    · simp [hrules]
    · simp [hrules, summary_ne_note]
  · intro text
    rw [htally, mem_messages_ofArtifacts]
    simp
  · intro hne
    rw [htally, count_undetermined h hne]
  · rintro rfl
    rw [htally, count_undetermined_nil]

def healthSands : Artifact where
  category := .sands
  tier := 3
  primary := ⟨.hp, ""⟩
  secondary := []
  secondary_length_le := Nat.zero_le _
  secondaryKinds_nodup := List.nodup_nil

theorem twoRules_accounts_ofArtifacts :
    RuleSet.Usable Sheet.twoRules ∧
      (ofArtifacts Sheet.twoRules [Sheet.defenceSands, healthSands]).tally .undetermined = 1 ∧
      ⟨.warning, "1 items matched no rule and were left alone"⟩ ∈
        (ofArtifacts Sheet.twoRules [Sheet.defenceSands, healthSands]).messages := by
  have husable : RuleSet.Usable Sheet.twoRules :=
    .inr ⟨.ok Workbook.twoSheets, "Active", by rfl⟩
  have haccounts := accounts_ofArtifacts husable [Sheet.defenceSands, healthSands]
  have hleft : (ofArtifacts Sheet.twoRules [Sheet.defenceSands, healthSands]).tally .undetermined =
      1 := (haccounts.left_eq (by decide)).trans (by decide)
  refine ⟨husable, hleft, ?_⟩
  rw [haccounts.warning_iff, hleft]
  decide

end Report
end ArtifactRules
