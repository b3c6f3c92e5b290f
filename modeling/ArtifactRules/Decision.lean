import ArtifactRules.Rule

/-! Decisions. With rules, the first that fits decides and an artifact that none fits is left
undetermined; without rules a fixed list of steps decides. The two never mix. -/

namespace ArtifactRules

inductive HeuristicStep
  | levelledUp | lowTier | rarePrimary | doubleCrit | fourLinesNotAllFlat | twoFlatStats | fallback
  deriving DecidableEq, Repr

namespace HeuristicStep

def number : HeuristicStep → Nat
  | levelledUp => 1
  | lowTier => 2
  | rarePrimary => 3
  | doubleCrit => 4
  | fourLinesNotAllFlat => 5
  | twoFlatStats => 6
  | fallback => 7

def outcome : HeuristicStep → Outcome
  | lowTier | twoFlatStats => .discard
  | _ => .keep

def description : HeuristicStep → String
  | levelledUp => "already upgraded"
  | lowTier => "below 5 stars"
  | rarePrimary => "slot-exclusive primary attribute"
  | doubleCrit => "both crit rate and crit damage"
  | fourLinesNotAllFlat => "four lines without every flat stat"
  | twoFlatStats => "two or more flat stats"
  | fallback => "nothing else applied"

def text (step : HeuristicStep) : String :=
  "step " ++ toString step.number ++ ": " ++ step.description

end HeuristicStep

inductive Reason
  | rule (row : Nat)
  | noRuleFits
  | heuristic (step : HeuristicStep)
  deriving DecidableEq, Repr

def Reason.text : Reason → String
  | rule row => "rule on row " ++ toString row
  | noRuleFits => "no rule matched"
  | heuristic step => "heuristic " ++ step.text

structure Decision where
  outcome : Outcome
  reason : Reason
  deriving DecidableEq, Repr

namespace Artifact

/-- Flower and plume roll a single primary attribute. -/
def hasFixedPrimary (a : Artifact) : Bool :=
  a.category == .flower || a.category == .plume

def flatCount (a : Artifact) : Nat :=
  a.secondaryKinds.countP Attribute.isFlat

/-- The first step of the built-in list that applies. -/
def heuristic (a : Artifact) : HeuristicStep :=
  if 0 < a.level then .levelledUp
  else if a.tier < 5 then .lowTier
  else if !a.hasFixedPrimary && !a.primary.kind.isBasePercent then .rarePrimary
  else if a.hasSecondary .critDamage && a.hasSecondary .critRate then .doubleCrit
  else if a.secondary.length = maxSecondary ∧ a.flatCount < 3 then .fourLinesNotAllFlat
  else if 2 ≤ a.flatCount then .twoFlatStats
  else .fallback

end Artifact

namespace RuleSet

def explain (rules : RuleSet) (a : Artifact) : Decision :=
  if rules.isEmpty then ⟨a.heuristic.outcome, .heuristic a.heuristic⟩
  else match rules.firstFit? a with
    | some rule => ⟨rule.outcome, .rule rule.row⟩
    | none => ⟨.undetermined, .noRuleFits⟩

@[simp] theorem explain_nil (a : Artifact) :
    explain [] a = ⟨a.heuristic.outcome, .heuristic a.heuristic⟩ := rfl

theorem explain_of_firstFit? {rules : RuleSet} {a : Artifact} {rule : Rule}
    (h : rules.firstFit? a = some rule) : rules.explain a = ⟨rule.outcome, .rule rule.row⟩ := by
  have hne : rules ≠ [] := by
    rintro rfl
    exact absurd h (by simp [firstFit?])
  simp [explain, hne, h]

theorem explain_of_no_fit {rules : RuleSet} {a : Artifact} (hne : rules ≠ [])
    (h : ∀ rule ∈ rules, rule.fits a = false) :
    rules.explain a = ⟨.undetermined, .noRuleFits⟩ := by
  have hnone : rules.firstFit? a = none := by
    simpa [firstFit?, List.find?_eq_none] using h
  simp [explain, hne, hnone]

def classify (rules : RuleSet) (a : Artifact) : Outcome :=
  (rules.explain a).outcome

end RuleSet
end ArtifactRules
