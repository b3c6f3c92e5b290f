import Mathlib.Data.Finset.Card
import ArtifactRules.Proofs.CellDecision
import ArtifactRules.Proofs.RuleWriting

/-! Which rules can ever apply. A bound can be met unless it asks for less than zero or for more
than the largest number, and the secondary predicates can be met unless they ask for too many
attributes or for one that they also rule out. A rule that meets this fits an artifact made to its
measure. -/

namespace ArtifactRules

def Bound.IsUnmeetable (b : Bound) : Prop :=
  b = ⟨.less, 0⟩ ∨ b = ⟨.greater, 4294967295⟩

instance (b : Bound) : Decidable b.IsUnmeetable :=
  inferInstanceAs (Decidable (_ ∨ _))

/-- The largest number is above every other limit, and zero is below it. -/
theorem Bound.exists_holds_iff (b : Bound) :
    (∃ value, b.holds value = true) ↔ ¬b.IsUnmeetable := by
  obtain ⟨comparator, limit⟩ := b
  have hlargest : (4294967295 : UInt32).toNat = 4294967295 := rfl
  have hzero : (0 : UInt32).toNat = 0 := rfl
  simp only [holds_iff, IsUnmeetable, Bound.mk.injEq, ← UInt32.toNat_inj, hlargest, hzero]
  cases comparator with
  | greater =>
    simp only [reduceCtorEq, false_and, true_and, false_or]
    constructor
    · rintro ⟨value, hvalue⟩ hlimit
      have hlt : value.toNat < 4294967296 := value.toNat_lt
      omega
    · intro hlimit
      have hlt : limit.toNat < 4294967296 := limit.toNat_lt
      exact ⟨4294967295, by omega⟩
  | less =>
    simp only [reduceCtorEq, false_and, true_and, or_false]
    constructor
    · rintro ⟨value, hvalue⟩ hlimit
      omega
    · intro hlimit
      exact ⟨0, by omega⟩
  | equal => simp

theorem Bound.exists_all_holds {condition : Option Bound}
    (h : ∀ b ∈ condition, ¬b.IsUnmeetable) : ∃ value, condition.all (·.holds value) = true := by
  cases condition with
  | none => exact ⟨0, rfl⟩
  | some b => exact (exists_holds_iff b).2 (h b rfl)

theorem Predicate.exists_holdsFor (p : Predicate) : ∃ kind, p.holdsFor kind = true := by
  obtain ⟨kind, polarity⟩ := p
  cases polarity with
  | positive => exact ⟨kind, by simp [holdsFor]⟩
  | negative =>
    by_cases hkind : kind = .hp
    · exact ⟨.atk, by simp [holdsFor, hkind]⟩
    · exact ⟨.hp, by simpa [holdsFor] using Ne.symm hkind⟩

namespace Rule

def named (rule : Rule) (polarity : Polarity) : List Attribute :=
  ((rule.secondary.getD []).filter fun p => p.polarity = polarity).map Predicate.kind

theorem mem_named_iff {rule : Rule} {polarity : Polarity} {kind : Attribute} :
    kind ∈ rule.named polarity ↔ ⟨kind, polarity⟩ ∈ rule.secondary.getD [] := by
  simp only [named, List.mem_map, List.mem_filter, decide_eq_true_eq]
  constructor
  · rintro ⟨⟨kind, polarity⟩, ⟨hmem, rfl⟩, rfl⟩
    exact hmem
  · intro hmem
    exact ⟨⟨kind, polarity⟩, ⟨hmem, rfl⟩, rfl⟩

/-- The secondary condition holds of attributes that have all that it asks for and nothing that it
rules out. -/
theorem all_holdsAmong_iff {rule : Rule} {kinds : List Attribute} :
    (rule.secondary.all fun ps => ps.all (·.holdsAmong kinds)) = true ↔
      rule.named .positive ⊆ kinds ∧ (rule.named .negative).Disjoint kinds := by
  have hpredicates : (rule.secondary.all fun ps => ps.all (·.holdsAmong kinds)) = true ↔
      ∀ p ∈ rule.secondary.getD [], p.holdsAmong kinds = true := by
    cases rule.secondary <;> simp
  rw [hpredicates]
  constructor
  · intro h
    refine ⟨fun kind hkind => ?_, fun kind hkind => ?_⟩
    · simpa [Cell.holdsAmong_iff] using h _ (mem_named_iff.1 hkind)
    · simpa [Cell.holdsAmong_iff] using h _ (mem_named_iff.1 hkind)
  · rintro ⟨hpositive, hnegative⟩ ⟨kind, polarity⟩ hmem
    cases polarity with
    | positive => simpa [Cell.holdsAmong_iff] using hpositive (mem_named_iff.2 hmem)
    | negative => simpa [Cell.holdsAmong_iff] using hnegative (mem_named_iff.2 hmem)

/-- Nothing in the rule shuts out every artifact. -/
structure IsMeetable (rule : Rule) : Prop where
  tier : ∀ b ∈ rule.tier, ¬b.IsUnmeetable
  level : ∀ b ∈ rule.level, ¬b.IsUnmeetable
  card_le : (rule.named .positive).toFinset.card ≤ 4
  consistent : ∀ kind, ¬(kind ∈ rule.named .positive ∧ kind ∈ rule.named .negative)

theorem fits_iff {rule : Rule} {a : Artifact} :
    rule.fits a = true ↔
      (∀ cs ∈ rule.categories, a.category ∈ cs) ∧ rule.tier.all (·.holds a.tier) = true ∧
        rule.level.all (·.holds a.level) = true ∧
        rule.primary.all (·.holdsFor a.primary.kind) = true ∧
        rule.named .positive ⊆ a.secondaryKinds ∧
        (rule.named .negative).Disjoint a.secondaryKinds := by
  have hcategories : rule.categories.all (·.contains a.category) = true ↔
      ∀ cs ∈ rule.categories, a.category ∈ cs := by
    cases rule.categories <;> simp
  rw [fits, Bool.and_eq_true, Bool.and_eq_true, Bool.and_eq_true, Bool.and_eq_true,
    all_holdsAmong_iff, hcategories, and_assoc, and_assoc, and_assoc]

theorem isMeetable_of_fits {rule : Rule} {a : Artifact} (h : rule.fits a = true) :
    rule.IsMeetable := by
  obtain ⟨-, htier, hlevel, -, hpositive, hnegative⟩ := fits_iff.1 h
  have hbound : ∀ {condition : Option Bound} {value : UInt32},
      condition.all (·.holds value) = true → ∀ b ∈ condition, ¬b.IsUnmeetable := by
    rintro condition value hholds b rfl
    exact (Bound.exists_holds_iff b).1 ⟨value, hholds⟩
  refine ⟨hbound htier, hbound hlevel, ?_, ?_⟩
  · have hsubset : (rule.named .positive).toFinset ⊆ a.secondaryKinds.toFinset := by
      intro kind hkind
      exact List.mem_toFinset.2 (hpositive (List.mem_toFinset.1 hkind))
    calc (rule.named .positive).toFinset.card
        ≤ a.secondaryKinds.toFinset.card := Finset.card_le_card hsubset
      _ ≤ a.secondaryKinds.length := List.toFinset_card_le _
      _ = a.secondary.length := List.length_map _
      _ ≤ 4 := a.secondary_length_le
  · rintro kind ⟨hasked, hruledOut⟩
    exact hnegative hruledOut (hpositive hasked)

/-- A record that has the secondary attributes that the rule asks for and no others. -/
def tailored (rule : Rule) (category : Category) (tier level : UInt32) (primary : Attribute) :
    Record where
  category
  tier
  level
  primary := ⟨primary, ""⟩
  secondary := (rule.named .positive).dedup.map fun kind => ⟨kind, ""⟩

theorem secondaryKinds_tailored (rule : Rule) (category : Category) (tier level : UInt32)
    (primary : Attribute) :
    (rule.tailored category tier level primary).secondaryKinds =
      (rule.named .positive).dedup := by
  simp [tailored, Record.secondaryKinds, Function.comp_def]

theorem exists_fits_of_isMeetable {rule : Rule} (hcategories : rule.categories ≠ some [])
    (h : rule.IsMeetable) : ∃ a : Artifact, rule.fits a = true := by
  obtain ⟨category, hcategory⟩ : ∃ category, ∀ cs ∈ rule.categories, category ∈ cs := by
    cases hcs : rule.categories with
    | none => exact ⟨.flower, by simp⟩
    | some cs =>
      obtain ⟨category, hmem⟩ := List.exists_mem_of_ne_nil cs fun hnil => hcategories (hnil ▸ hcs)
      exact ⟨category, by simpa using hmem⟩
  obtain ⟨tier, htier⟩ := Bound.exists_all_holds h.tier
  obtain ⟨level, hlevel⟩ := Bound.exists_all_holds h.level
  obtain ⟨primary, hprimary⟩ : ∃ kind, rule.primary.all (·.holdsFor kind) = true := by
    cases rule.primary with
    | none => exact ⟨.hp, rfl⟩
    | some p => exact p.exists_holdsFor
  have hkinds := secondaryKinds_tailored rule category tier level primary
  have hlength : (rule.tailored category tier level primary).secondary.length ≤ maxSecondary := by
    rw [tailored, List.length_map, ← List.card_toFinset]
    exact h.card_le
  have hnodup : (rule.tailored category tier level primary).secondaryKinds.Nodup := by
    rw [hkinds]
    exact List.nodup_dedup _
  refine ⟨⟨_, hlength, hnodup⟩, fits_iff.2 ⟨hcategory, htier, hlevel, hprimary, ?_, ?_⟩⟩
  · rw [hkinds]
    exact List.subset_dedup _
  · intro kind hruledOut hasked
    rw [hkinds, List.mem_dedup] at hasked
    exact h.consistent kind ⟨hasked, hruledOut⟩

/-- A rule that a row is read as fits some record that passes the check if and only if its bounds
can be met and its secondary predicates ask for at most four attributes and for none that they also
rule out. Its categories and its primary predicate shut out no artifact by themselves. -/
theorem exists_check_fits_iff {row : Row} {n : Nat} {rule : Rule} (h : row.rule n = .ok rule) :
    (∃ (r : Record) (a : Artifact), r.check = .ok a ∧ rule.fits a = true) ↔ rule.IsMeetable := by
  constructor
  · rintro ⟨r, a, -, hfits⟩
    exact isMeetable_of_fits hfits
  · intro hmeetable
    obtain ⟨a, hfits⟩ := exists_fits_of_isMeetable (Writable.of_rule h).categories hmeetable
    exact ⟨a.toRecord, a, Artifact.check_toRecord a, hfits⟩

def repeatingRow : Row :=
  [none, some ">０", some ">4294967294", some "不是生命值", some "有攻击力,没有生命值,有攻击力", some "锁"]

def repeatingRule : Rule where
  row := 2
  outcome := .keep
  tier := some ⟨.greater, 4294967294⟩
  level := some ⟨.greater, 0⟩
  primary := some ⟨.hp, .negative⟩
  secondary := some [⟨.atk, .positive⟩, ⟨.hp, .negative⟩, ⟨.atk, .positive⟩]

def crowdedRow : Row :=
  [none, none, none, none, some "有攻击力,有防御力,有生命值,有暴击率,有暴击伤害", some "不锁"]

def crowdedRule : Rule where
  row := 3
  outcome := .discard
  secondary := some [⟨.atk, .positive⟩, ⟨.defence, .positive⟩, ⟨.hp, .positive⟩,
    ⟨.critRate, .positive⟩, ⟨.critDamage, .positive⟩]

theorem repeatingRow_exists_fits :
    repeatingRow.rule 2 = .ok repeatingRule ∧ crowdedRow.rule 3 = .ok crowdedRule ∧
      (∃ (r : Record) (a : Artifact), r.check = .ok a ∧ repeatingRule.fits a = true) ∧
      ¬∃ (r : Record) (a : Artifact), r.check = .ok a ∧ crowdedRule.fits a = true := by
  have hrepeating : repeatingRow.rule 2 = .ok repeatingRule := by decide +kernel
  have hcrowded : crowdedRow.rule 3 = .ok crowdedRule := by decide +kernel
  refine ⟨hrepeating, hcrowded, (exists_check_fits_iff hrepeating).2 ?_, ?_⟩
  · exact ⟨by decide, by decide, by decide, by intro kind; cases kind <;> decide⟩
  · rw [exists_check_fits_iff hcrowded]
    exact fun h => absurd h.card_le (by decide)

end Rule
end ArtifactRules
