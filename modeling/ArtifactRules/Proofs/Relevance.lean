import ArtifactRules.Proofs.CellDecision
import ArtifactRules.Proofs.HeuristicSteps

/-! What a decision goes by: the category, the stars, the level and the kind of the primary
attribute, and the secondary attributes as a set of kinds. No other difference between two artifacts
shows in a decision, and each of these does under some rules. -/

namespace ArtifactRules
namespace Artifact

/-- They differ at most in name, in the values of their attributes and in the order of the secondary
ones. -/
structure Alike (a b : Artifact) : Prop where
  category_eq : a.category = b.category
  tier_eq : a.tier = b.tier
  level_eq : a.level = b.level
  primaryKind_eq : a.primary.kind = b.primary.kind
  mem_secondaryKinds_iff : ∀ kind, kind ∈ a.secondaryKinds ↔ kind ∈ b.secondaryKinds

namespace Alike

variable {a b : Artifact}

protected theorem refl (a : Artifact) : a.Alike a :=
  ⟨rfl, rfl, rfl, rfl, fun _ => Iff.rfl⟩

theorem length_secondary_eq (h : a.Alike b) : a.secondary.length = b.secondary.length := by
  have hperm : a.secondaryKinds.Perm b.secondaryKinds :=
    (List.perm_ext_iff_of_nodup a.secondaryKinds_nodup b.secondaryKinds_nodup).2
      h.mem_secondaryKinds_iff
  have hlength : a.secondaryKinds.length = b.secondaryKinds.length := hperm.length_eq
  rwa [Record.secondaryKinds, Record.secondaryKinds, List.length_map, List.length_map] at hlength

theorem flatKinds_eq (h : a.Alike b) : a.flatKinds = b.flatKinds := by
  ext kind
  rw [mem_flatKinds_iff, mem_flatKinds_iff, h.mem_secondaryKinds_iff]

theorem applies_iff (h : a.Alike b) (step : HeuristicStep) : step.Applies a ↔ step.Applies b := by
  cases step with
  | levelledUp => rw [HeuristicStep.Applies, HeuristicStep.Applies, h.level_eq]
  | lowTier => rw [HeuristicStep.Applies, HeuristicStep.Applies, h.tier_eq]
  | rarePrimary =>
    rw [HeuristicStep.Applies, HeuristicStep.Applies, h.category_eq, h.primaryKind_eq]
  | doubleCrit =>
    rw [HeuristicStep.Applies, HeuristicStep.Applies, h.mem_secondaryKinds_iff,
      h.mem_secondaryKinds_iff]
  | fourLinesNotAllFlat =>
    rw [HeuristicStep.Applies, HeuristicStep.Applies, h.length_secondary_eq, h.flatKinds_eq]
  | twoFlatStats => rw [HeuristicStep.Applies, HeuristicStep.Applies, h.flatKinds_eq]
  | fallback => exact Iff.rfl

theorem heuristic_eq (h : a.Alike b) : a.heuristic = b.heuristic := by
  have hsteps : (fun step : HeuristicStep => decide (step.Applies a)) =
      fun step => decide (step.Applies b) := by
    funext step
    rw [decide_eq_decide]
    exact h.applies_iff step
  have hfirst := HeuristicStep.find?_order a
  rw [hsteps, HeuristicStep.find?_order] at hfirst
  exact (Option.some.inj hfirst).symm

theorem holdsAmong_eq (h : a.Alike b) (p : Predicate) :
    p.holdsAmong a.secondaryKinds = p.holdsAmong b.secondaryKinds := by
  rw [Bool.eq_iff_iff, Cell.holdsAmong_iff, Cell.holdsAmong_iff, h.mem_secondaryKinds_iff]

theorem fits_eq (h : a.Alike b) (rule : Rule) : rule.fits a = rule.fits b := by
  have hpredicate : (fun p : Predicate => p.holdsAmong a.secondaryKinds) =
      fun p => p.holdsAmong b.secondaryKinds := by
    funext p
    exact h.holdsAmong_eq p
  rw [Rule.fits, Rule.fits, h.category_eq, h.tier_eq, h.level_eq, h.primaryKind_eq, hpredicate]

theorem firstFit?_eq (h : a.Alike b) (rules : RuleSet) : rules.firstFit? a = rules.firstFit? b := by
  have hfits : (fun rule : Rule => rule.fits a) = fun rule => rule.fits b := by
    funext rule
    exact h.fits_eq rule
  rw [RuleSet.firstFit?, RuleSet.firstFit?, hfits]

/-- Both ways to decide, by rules and by the heuristic, take the two artifacts alike. -/
theorem explain_eq (h : a.Alike b) (rules : RuleSet) : rules.explain a = rules.explain b := by
  rw [RuleSet.explain, RuleSet.explain, h.heuristic_eq, h.firstFit?_eq rules]

end Alike

/-- A rule made to the measure of one artifact. -/
def ownRule (a : Artifact) : Rule where
  categories := some [a.category]
  tier := some ⟨.equal, a.tier⟩
  level := some ⟨.equal, a.level⟩
  primary := some ⟨a.primary.kind, .positive⟩
  secondary := some <| Labelled.all.map fun kind =>
    ⟨kind, if kind ∈ a.secondaryKinds then .positive else .negative⟩
  outcome := .keep
  row := Sheet.firstDataRow

theorem holdsAmong_own_iff (a b : Artifact) (kind : Attribute) :
    Predicate.holdsAmong ⟨kind, if kind ∈ a.secondaryKinds then .positive else .negative⟩
        b.secondaryKinds = true ↔
      (kind ∈ a.secondaryKinds ↔ kind ∈ b.secondaryKinds) := by
  rw [Cell.holdsAmong_iff]
  by_cases hkind : kind ∈ a.secondaryKinds
  · simp [hkind]
  · simp [hkind]

/-- It asks for every kind there is, so it fits no artifact with one more or one less. -/
theorem fits_ownRule_iff (a b : Artifact) : a.ownRule.fits b = true ↔ a.Alike b := by
  have hall : ∀ kind : Attribute, kind ∈ (Labelled.all : List Attribute) := by
    intro kind
    cases kind <;> decide
  have hsecondary : a.ownRule.secondary.all (fun ps => ps.all (·.holdsAmong b.secondaryKinds)) =
      true ↔ ∀ kind, kind ∈ a.secondaryKinds ↔ kind ∈ b.secondaryKinds := by
    simp only [ownRule, Option.all_some, List.all_map, List.all_eq_true, Function.comp_apply,
      holdsAmong_own_iff]
    exact ⟨fun h kind => h kind (hall kind), fun h kind _ => h kind⟩
  have hrest : a.ownRule.fits b = true ↔
      (b.category = a.category ∧ b.tier = a.tier ∧ b.level = a.level ∧
        b.primary.kind = a.primary.kind) ∧
      a.ownRule.secondary.all (fun ps => ps.all (·.holdsAmong b.secondaryKinds)) = true := by
    simp [Rule.fits, ownRule, Bound.holds, Comparator.holds, Predicate.holdsFor, and_assoc]
  rw [hrest, hsecondary]
  constructor
  · rintro ⟨⟨hcategory, htier, hlevel, hprimary⟩, hkinds⟩
    exact ⟨hcategory.symm, htier.symm, hlevel.symm, hprimary.symm, hkinds⟩
  · intro h
    exact ⟨⟨h.category_eq.symm, h.tier_eq.symm, h.level_eq.symm, h.primaryKind_eq.symm⟩,
      h.mem_secondaryKinds_iff⟩

/-- Two artifacts are decided alike, outcome and reason, by all rules and by the heuristic if and
only if they have the same category, stars, level, kind of primary and set of secondary kinds. -/
theorem alike_iff_explain_eq (a b : Artifact) :
    a.Alike b ↔ ∀ rules : RuleSet, rules.explain a = rules.explain b := by
  constructor
  · intro h rules
    exact h.explain_eq rules
  · intro h
    have hown : a.ownRule.fits a = true := (fits_ownRule_iff a a).2 (Alike.refl a)
    have hfirst : RuleSet.firstFit? [a.ownRule] a = some a.ownRule := by
      simp [RuleSet.firstFit?, hown]
    have hdecides : RuleSet.explain [a.ownRule] a = ⟨.keep, .rule Sheet.firstDataRow⟩ :=
      RuleSet.explain_of_firstFit? hfirst
    rw [← fits_ownRule_iff]
    by_contra hfits
    have hleft : RuleSet.explain [a.ownRule] b = ⟨.undetermined, .noRuleFits⟩ :=
      RuleSet.explain_of_no_fit (by simp) (by simpa using hfits)
    have hsame := h [a.ownRule]
    rw [hdecides, hleft] at hsame
    cases hsame

end Artifact
end ArtifactRules
