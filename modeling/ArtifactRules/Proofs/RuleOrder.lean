import Mathlib.Data.List.Basic
import ArtifactRules.Decision

/-! The order of rules. The first rule that fits decides, so one whose artifacts all go to earlier
rules is never missed, and rules may change places where it does not matter which of them is first:
in a block of one outcome for what is done, and next to a rule of other artifacts for the reason as
well. -/

namespace ArtifactRules

def Rule.Apart (rule other : Rule) : Prop :=
  ∀ a : Artifact, ¬ (rule.fits a = true ∧ other.fits a = true)

namespace RuleSet

variable {rules before after block other : RuleSet} {rule : Rule} {a : Artifact}

theorem explain_of_firstFit?_eq_none (hne : rules ≠ []) (h : rules.firstFit? a = none) :
    rules.explain a = ⟨.undetermined, .noRuleFits⟩ := by
  simp [explain, hne, h]

theorem explain_congr {others : RuleSet} (hempty : others.isEmpty = rules.isEmpty)
    (hfirst : others.firstFit? a = rules.firstFit? a) : others.explain a = rules.explain a := by
  simp only [explain, hempty, hfirst]

theorem classify_congr {others : RuleSet} (hempty : others.isEmpty = rules.isEmpty)
    (houtcome : (others.firstFit? a).map Rule.outcome = (rules.firstFit? a).map Rule.outcome) :
    others.classify a = rules.classify a := by
  have hclassify : ∀ rules : RuleSet, rules.classify a =
      if rules.isEmpty then a.heuristic.outcome
      else ((rules.firstFit? a).map Rule.outcome).getD .undetermined := by
    intro rules
    rw [classify, explain]
    split
    · rfl
    · cases rules.firstFit? a <;> rfl
  rw [hclassify, hclassify, hempty, houtcome]

theorem firstFit?_append (rules more : RuleSet) (a : Artifact) :
    firstFit? (rules ++ more) a = (rules.firstFit? a).or (more.firstFit? a) :=
  List.find?_append

theorem firstFit?_append_of_some (h : before.firstFit? a = some rule) (after : RuleSet) :
    firstFit? (before ++ after) a = some rule := by
  rw [firstFit?_append, h, Option.some_or]

theorem firstFit?_append_of_none (h : before.firstFit? a = none) (after : RuleSet) :
    firstFit? (before ++ after) a = after.firstFit? a := by
  rw [firstFit?_append, h, Option.none_or]

theorem firstFit?_cons_of_fits (h : rule.fits a = true) (rules : RuleSet) :
    firstFit? (rule :: rules) a = some rule := by
  simp [firstFit?, h]

theorem firstFit?_cons_of_not_fits (h : ¬ rule.fits a = true) (rules : RuleSet) :
    firstFit? (rule :: rules) a = rules.firstFit? a := by
  simp [firstFit?, h]

theorem firstFit?_without (h : before.firstFit? a = none → ¬ rule.fits a = true)
    (after : RuleSet) :
    firstFit? (before ++ after) a = firstFit? (before ++ rule :: after) a := by
  cases hfirst : before.firstFit? a with
  | some first => rw [firstFit?_append_of_some hfirst, firstFit?_append_of_some hfirst]
  | none =>
    rw [firstFit?_append_of_none hfirst, firstFit?_append_of_none hfirst,
      firstFit?_cons_of_not_fits (h hfirst)]

theorem isEmpty_without (hne : before ++ after ≠ []) (rule : Rule) :
    (before ++ after).isEmpty = (before ++ rule :: after).isEmpty := by
  rw [List.isEmpty_eq_false_iff.2 hne, List.isEmpty_eq_false_iff.2 (by simp)]

/-- Whatever the rule fits, one of these fits as well. -/
def Covers (rules : RuleSet) (rule : Rule) : Prop :=
  ∀ a : Artifact, rule.fits a = true → ∃ earlier ∈ rules, earlier.fits a = true

theorem explain_without_covered (h : before.Covers rule) (hne : before ++ after ≠ [])
    (a : Artifact) : explain (before ++ after) a = explain (before ++ rule :: after) a := by
  apply explain_congr (isEmpty_without hne rule)
  apply firstFit?_without
  intro hfirst hfits
  obtain ⟨earlier, hearlier, hfitsEarlier⟩ := h a hfits
  exact List.find?_eq_none.1 hfirst earlier hearlier hfitsEarlier

/-- Where the rules that fit agree on something, so do the first ones in any two orders. -/
theorem map_firstFit?_perm {β : Type} {f : Rule → β} (hperm : other.Perm block)
    (hagree : ∀ r ∈ block, ∀ s ∈ block, r.fits a = true → s.fits a = true → f r = f s) :
    (other.firstFit? a).map f = (block.firstFit? a).map f := by
  cases hother : other.firstFit? a with
  | none =>
    have hnone : block.firstFit? a = none := by
      apply List.find?_eq_none.2
      intro rule hrule
      exact List.find?_eq_none.1 hother rule (hperm.mem_iff.2 hrule)
    rw [hnone]
  | some r =>
    have hr : r ∈ block := hperm.mem_iff.1 (List.mem_of_find?_eq_some hother)
    have hfitsR : r.fits a = true := (List.find?_eq_some_iff_append.1 hother).1
    cases hblock : block.firstFit? a with
    | none => exact absurd hfitsR (List.find?_eq_none.1 hblock r hr)
    | some s =>
      have hs : s ∈ block := List.mem_of_find?_eq_some hblock
      have hfitsS : s.fits a = true := (List.find?_eq_some_iff_append.1 hblock).1
      rw [Option.map_some, Option.map_some, hagree r hr s hs hfitsR hfitsS]

theorem map_firstFit?_block {β : Type} {f : Rule → β} (hperm : other.Perm block)
    (hagree : ∀ r ∈ block, ∀ s ∈ block, r.fits a = true → s.fits a = true → f r = f s)
    (before after : RuleSet) :
    (firstFit? (before ++ other ++ after) a).map f =
      (firstFit? (before ++ block ++ after) a).map f := by
  simp only [firstFit?_append, Option.map_or, map_firstFit?_perm hperm hagree]

theorem isEmpty_block (hperm : other.Perm block) (before after : RuleSet) :
    (before ++ other ++ after).isEmpty = (before ++ block ++ after).isEmpty := by
  have hlength : (before ++ other ++ after).length = (before ++ block ++ after).length :=
    ((hperm.append_left before).append_right after).length_eq
  rw [Bool.eq_iff_iff, List.isEmpty_iff_length_eq_zero, List.isEmpty_iff_length_eq_zero, hlength]

theorem classify_block {outcome : Outcome} (hperm : other.Perm block)
    (hsame : ∀ rule ∈ block, rule.outcome = outcome) (before after : RuleSet) (a : Artifact) :
    classify (before ++ other ++ after) a = classify (before ++ block ++ after) a := by
  apply classify_congr (isEmpty_block hperm before after)
  apply map_firstFit?_block hperm
  intro r hr s hs _ _
  rw [hsame r hr, hsame s hs]

theorem explain_exchanged {r s : Rule} (h : r.Apart s) (before after : RuleSet) (a : Artifact) :
    explain (before ++ s :: r :: after) a = explain (before ++ r :: s :: after) a := by
  have hperm : List.Perm [s, r] [r, s] := List.Perm.swap r s []
  have hagree : ∀ p ∈ [r, s], ∀ q ∈ [r, s], p.fits a = true → q.fits a = true → id p = id q := by
    intro p hp q hq hfitsP hfitsQ
    simp only [List.mem_cons, List.not_mem_nil, or_false] at hp hq
    rcases hp with rfl | rfl <;> rcases hq with rfl | rfl
    · rfl
    · exact absurd ⟨hfitsP, hfitsQ⟩ (h a)
    · exact absurd ⟨hfitsQ, hfitsP⟩ (h a)
    · rfl
  have hfirst := map_firstFit?_block hperm hagree before after
  have hempty := isEmpty_block hperm before after
  simp only [Option.map_id_fun, id_eq, List.append_assoc, List.cons_append, List.nil_append]
    at hfirst hempty
  exact explain_congr hempty hfirst

/-- A rule that earlier ones cover may go as long as a rule is left, the rules of a block of one
outcome may stand in any order, and two neighbours that no artifact has in common may change
places. -/
theorem order_immaterial :
    (∀ (before after : RuleSet) (rule : Rule), before.Covers rule → before ++ after ≠ [] →
      ∀ a, explain (before ++ after) a = explain (before ++ rule :: after) a) ∧
    (∀ (before block other after : RuleSet) (outcome : Outcome), other.Perm block →
      (∀ rule ∈ block, rule.outcome = outcome) →
      ∀ a, classify (before ++ other ++ after) a = classify (before ++ block ++ after) a) ∧
    ∀ (before after : RuleSet) (r s : Rule), r.Apart s →
      ∀ a, explain (before ++ s :: r :: after) a = explain (before ++ r :: s :: after) a := by
  refine ⟨?_, ?_, ?_⟩
  · intro before after rule hcovered hne a
    exact explain_without_covered hcovered hne a
  · intro before block other after outcome hperm hsame a
    exact classify_block hperm hsame before after a
  · intro before after r s hapart a
    exact explain_exchanged hapart before after a

def flowerRule : Rule where
  categories := some [.flower]
  outcome := .discard
  row := 2

def upgradedFlowerRule : Rule where
  categories := some [.flower]
  level := some ⟨.greater, 0⟩
  outcome := .keep
  row := 3

def fewStarsRule : Rule where
  tier := some ⟨.less, 5⟩
  outcome := .discard
  row := 4

def sandsRule : Rule where
  categories := some [.sands]
  outcome := .keep
  row := 5

def upgradedFlower : Artifact where
  category := .flower
  tier := 4
  level := 8
  primary := ⟨.hp, "2342"⟩
  secondary := [⟨.critRate, "6.2"⟩]
  secondary_length_le := by decide
  secondaryKinds_nodup := by decide

theorem flowerRule_order_immaterial :
    (Covers [flowerRule] upgradedFlowerRule ∧
      explain [flowerRule, sandsRule] upgradedFlower =
        explain [flowerRule, upgradedFlowerRule, sandsRule] upgradedFlower) ∧
    (List.Perm [fewStarsRule, flowerRule] [flowerRule, fewStarsRule] ∧
      (∀ rule ∈ [flowerRule, fewStarsRule], rule.outcome = .discard) ∧
      classify [upgradedFlowerRule, fewStarsRule, flowerRule] upgradedFlower =
        classify [upgradedFlowerRule, flowerRule, fewStarsRule] upgradedFlower) ∧
    flowerRule.Apart sandsRule ∧
      explain [fewStarsRule, sandsRule, flowerRule] upgradedFlower =
        explain [fewStarsRule, flowerRule, sandsRule] upgradedFlower := by
  have hcovered : Covers [flowerRule] upgradedFlowerRule := by
    intro a hfits
    have hflower : a.category = .flower := by
      simp only [Rule.fits, upgradedFlowerRule, Bool.and_eq_true] at hfits
      simpa using hfits.1.1.1.1
    exact ⟨flowerRule, by simp, by simp [Rule.fits, flowerRule, hflower]⟩
  have hperm : List.Perm [fewStarsRule, flowerRule] [flowerRule, fewStarsRule] :=
    List.Perm.swap flowerRule fewStarsRule []
  have hsame : ∀ rule ∈ [flowerRule, fewStarsRule], rule.outcome = .discard := by
    simp [flowerRule, fewStarsRule]
  have hapart : flowerRule.Apart sandsRule := by
    rintro a ⟨hflower, hsands⟩
    have hcategory : a.category = .flower := by simpa [Rule.fits, flowerRule] using hflower
    simp [Rule.fits, sandsRule, hcategory] at hsands
  obtain ⟨hwithout, hblock, hexchanged⟩ := order_immaterial
  refine ⟨⟨hcovered, ?_⟩, ⟨hperm, hsame, ?_⟩, hapart, ?_⟩
  · exact hwithout [flowerRule] [sandsRule] upgradedFlowerRule hcovered (by simp) upgradedFlower
  · exact hblock [upgradedFlowerRule] [flowerRule, fewStarsRule] [fewStarsRule, flowerRule] []
      .discard hperm hsame upgradedFlower
  · exact hexchanged [fewStarsRule] [] flowerRule sandsRule hapart upgradedFlower

end RuleSet
end ArtifactRules
