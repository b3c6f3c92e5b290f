import Mathlib.Data.Finset.Card
import ArtifactRules.Decision

/-! The built-in heuristic as a list of conditions, each on its own. The step that decides is the
first whose condition holds; which flat attributes an artifact has is taken as a set. -/

namespace ArtifactRules

namespace Artifact

def flatKinds (a : Artifact) : Finset Attribute :=
  {.hp, .atk, .defence} ∩ a.secondaryKinds.toFinset

theorem mem_flatKinds_iff {a : Artifact} {kind : Attribute} :
    kind ∈ a.flatKinds ↔ kind ∈ a.secondaryKinds ∧ kind.isFlat = true := by
  simp only [flatKinds, Attribute.isFlat, Finset.mem_inter, Finset.mem_insert,
    Finset.mem_singleton, List.mem_toFinset, Bool.or_eq_true, beq_iff_eq, or_assoc]
  exact and_comm

/-- Counting places counts kinds, because no kind comes twice. -/
theorem card_flatKinds (a : Artifact) : a.flatKinds.card = a.flatCount := by
  have hset : a.flatKinds = (a.secondaryKinds.filter Attribute.isFlat).toFinset := by
    ext kind
    rw [mem_flatKinds_iff, List.mem_toFinset, List.mem_filter]
  rw [hset, List.toFinset_card_of_nodup (a.secondaryKinds_nodup.filter _), flatCount,
    List.countP_eq_length_filter]

theorem flatKinds_subset (a : Artifact) : a.flatKinds ⊆ {.hp, .atk, .defence} :=
  Finset.inter_subset_left

theorem card_flatKinds_le (a : Artifact) : a.flatKinds.card ≤ 3 :=
  Finset.card_le_card a.flatKinds_subset

theorem flatKinds_eq_iff {a : Artifact} :
    a.flatKinds = {.hp, .atk, .defence} ↔ ¬ a.flatCount < 3 := by
  rw [← card_flatKinds, Nat.not_lt]
  constructor
  · intro h
    rw [h]
    decide
  · exact Finset.eq_of_subset_of_card_le a.flatKinds_subset

end Artifact

namespace HeuristicStep

def order : List HeuristicStep :=
  [levelledUp, lowTier, rarePrimary, doubleCrit, fourLinesNotAllFlat, twoFlatStats, fallback]

/-- What a step asks of an artifact. -/
def Applies (a : Artifact) : HeuristicStep → Prop
  | levelledUp => 0 < a.level
  | lowTier => a.tier < 5
  | rarePrimary =>
    a.category ∉ [.flower, .plume] ∧
      a.primary.kind ∉ [.hpPercent, .atkPercent, .defencePercent]
  | doubleCrit => .critDamage ∈ a.secondaryKinds ∧ .critRate ∈ a.secondaryKinds
  | fourLinesNotAllFlat => a.secondary.length = 4 ∧ a.flatKinds ≠ {.hp, .atk, .defence}
  | twoFlatStats => 2 ≤ a.flatKinds.card
  | fallback => True

instance (a : Artifact) (step : HeuristicStep) : Decidable (step.Applies a) :=
  match step with
  | levelledUp => inferInstanceAs (Decidable (_ < _))
  | lowTier => inferInstanceAs (Decidable (_ < _))
  | rarePrimary => inferInstanceAs (Decidable (_ ∧ _))
  | doubleCrit => inferInstanceAs (Decidable (_ ∧ _))
  | fourLinesNotAllFlat => inferInstanceAs (Decidable (_ ∧ _))
  | twoFlatStats => inferInstanceAs (Decidable (_ ≤ _))
  | fallback => inferInstanceAs (Decidable True)

section Conditions

variable {a : Artifact}

theorem applies_rarePrimary_iff :
    rarePrimary.Applies a ↔ (!a.hasFixedPrimary && !a.primary.kind.isBasePercent) = true := by
  simp [Applies, Artifact.hasFixedPrimary, Attribute.isBasePercent, and_assoc]

theorem applies_doubleCrit_iff :
    doubleCrit.Applies a ↔ (a.hasSecondary .critDamage && a.hasSecondary .critRate) = true := by
  simp [Applies, Artifact.hasSecondary]

theorem applies_fourLinesNotAllFlat_iff :
    fourLinesNotAllFlat.Applies a ↔ a.secondary.length = maxSecondary ∧ a.flatCount < 3 := by
  rw [Applies, Ne, Artifact.flatKinds_eq_iff, not_not]
  rfl

theorem applies_twoFlatStats_iff : twoFlatStats.Applies a ↔ 2 ≤ a.flatCount := by
  rw [Applies, Artifact.card_flatKinds]

end Conditions

/-- One test for each step, up to the first that succeeds. -/
theorem heuristic_eq (a : Artifact) :
    a.heuristic =
      if levelledUp.Applies a then levelledUp
      else if lowTier.Applies a then lowTier
      else if rarePrimary.Applies a then rarePrimary
      else if doubleCrit.Applies a then doubleCrit
      else if fourLinesNotAllFlat.Applies a then fourLinesNotAllFlat
      else if twoFlatStats.Applies a then twoFlatStats
      else fallback := by
  simp only [applies_rarePrimary_iff, applies_doubleCrit_iff, applies_fourLinesNotAllFlat_iff,
    applies_twoFlatStats_iff]
  rfl

theorem find?_order (a : Artifact) :
    order.find? (fun step => step.Applies a) = some a.heuristic := by
  have hfallback : fallback.Applies a := trivial
  rw [heuristic_eq]
  split_ifs <;> simp [order, *]

/-- After the fifth step has failed, the sixth is left with few lines or with every flat kind. -/
theorem twoFlatStats_after_fourLines_iff (a : Artifact) :
    ¬ fourLinesNotAllFlat.Applies a ∧ twoFlatStats.Applies a ↔
      a.flatKinds.card = 3 ∨ a.flatKinds.card = 2 ∧ a.secondary.length ≤ 3 := by
  have hcard := a.card_flatKinds_le
  have hlength : a.secondary.length ≤ 4 := a.secondary_length_le
  rw [applies_fourLinesNotAllFlat_iff, applies_twoFlatStats_iff, ← Artifact.card_flatKinds,
    maxSecondary]
  omega

theorem outcome_heuristic (a : Artifact) :
    a.heuristic.outcome =
      if ¬ levelledUp.Applies a ∧
          (lowTier.Applies a ∨
            ¬ rarePrimary.Applies a ∧ ¬ doubleCrit.Applies a ∧
              ¬ fourLinesNotAllFlat.Applies a ∧ twoFlatStats.Applies a)
      then .discard else .keep := by
  rw [heuristic_eq]
  split_ifs <;> simp_all [outcome]

end HeuristicStep

/-- The heuristic goes by the first step that applies. Without rules an artifact is discarded if it
has few stars, or if nothing speaks for it and it has rolled flat attributes, and kept otherwise. -/
theorem RuleSet.classify_nil (a : Artifact) :
    HeuristicStep.order.find? (fun step => step.Applies a) = some a.heuristic ∧
      classify [] a =
        if a.level = 0 ∧
            (a.tier < 5 ∨
              (a.category ∈ [.flower, .plume] ∨
                a.primary.kind ∈ [.hpPercent, .atkPercent, .defencePercent]) ∧
              ¬ (.critDamage ∈ a.secondaryKinds ∧ .critRate ∈ a.secondaryKinds) ∧
              (a.flatKinds.card = 3 ∨ a.flatKinds.card = 2 ∧ a.secondary.length ≤ 3))
        then .discard else .keep := by
  refine ⟨HeuristicStep.find?_order a, ?_⟩
  have hfresh : ¬ HeuristicStep.levelledUp.Applies a ↔ a.level = 0 := by
    simp [HeuristicStep.Applies]
  have hordinary : ¬ HeuristicStep.rarePrimary.Applies a ↔
      a.category ∈ [.flower, .plume] ∨
        a.primary.kind ∈ [.hpPercent, .atkPercent, .defencePercent] := by
    rw [HeuristicStep.Applies, not_and_or, not_not, not_not]
  have hoverall := HeuristicStep.outcome_heuristic a
  simp only [hfresh, hordinary, HeuristicStep.twoFlatStats_after_fourLines_iff] at hoverall
  exact hoverall

end ArtifactRules
