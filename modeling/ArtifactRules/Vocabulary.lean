/-! The closed vocabularies of the rule sheet: artifact categories, attributes and outcomes. A
`Labelled` type lists its values in display order, each with the label a sheet uses for it and the
name an artifact record uses for it. -/

namespace ArtifactRules

class Labelled (α : Type) where
  all : List α
  label : α → String
  name : α → String

namespace Labelled

variable {α : Type} [Labelled α]

/-- Labels are matched exactly. -/
def ofLabel? (s : String) : Option α :=
  (all : List α).find? fun a => label a == s

def ofName? (s : String) : Option α :=
  (all : List α).find? fun a => name a == s

def labels (α : Type) [Labelled α] : List String :=
  (all : List α).map label

def names (α : Type) [Labelled α] : List String :=
  (all : List α).map name

theorem label_of_ofLabel? {s : String} {a : α} (h : ofLabel? s = some a) : label a = s := by
  simpa using List.find?_some h

theorem name_of_ofName? {s : String} {a : α} (h : ofName? s = some a) : name a = s := by
  simpa using List.find?_some h

end Labelled

/-- The slot an artifact is worn in. -/
inductive Category
  | flower | plume | sands | goblet | circlet
  deriving DecidableEq, Repr

namespace Category

def label : Category → String
  | flower => "生之花"
  | plume => "死之羽"
  | sands => "时之沙"
  | goblet => "空之杯"
  | circlet => "理之冠"

def name : Category → String
  | flower => "flower"
  | plume => "plume"
  | sands => "sands"
  | goblet => "goblet"
  | circlet => "circlet"

instance : Labelled Category where
  all := [flower, plume, sands, goblet, circlet]
  label := label
  name := name

def ofLabel? : String → Option Category :=
  Labelled.ofLabel?

@[simp] theorem ofLabel?_label (c : Category) : ofLabel? c.label = some c := by
  cases c <;> decide

@[simp] theorem ofName?_name (c : Category) : Labelled.ofName? c.name = some c := by
  cases c <;> decide

theorem ofLabel?_eq_some_iff {s : String} {c : Category} : ofLabel? s = some c ↔ c.label = s :=
  ⟨fun h => Labelled.label_of_ofLabel? h, fun h => h ▸ ofLabel?_label c⟩

end Category

/-- What an artifact can carry, as its primary attribute or as a secondary one. -/
inductive Attribute
  | hp | hpPercent | atk | atkPercent | defence | defencePercent | critDamage | critRate
  | elementalMastery | energyRecharge | pyroDamage | hydroDamage | cryoDamage | electroDamage
  | dendroDamage | anemoDamage | geoDamage | physicalDamage | healingBonus
  deriving DecidableEq, Repr

namespace Attribute

def label : Attribute → String
  | hp => "生命值"
  | hpPercent => "生命值百分比"
  | atk => "攻击力"
  | atkPercent => "攻击力百分比"
  | defence => "防御力"
  | defencePercent => "防御力百分比"
  | critDamage => "暴击伤害"
  | critRate => "暴击率"
  | elementalMastery => "元素精通"
  | energyRecharge => "元素充能效率"
  | pyroDamage => "火元素伤害加成"
  | hydroDamage => "水元素伤害加成"
  | cryoDamage => "冰元素伤害加成"
  | electroDamage => "雷元素伤害加成"
  | dendroDamage => "草元素伤害加成"
  | anemoDamage => "风元素伤害加成"
  | geoDamage => "岩元素伤害加成"
  | physicalDamage => "物理伤害加成"
  | healingBonus => "治疗加成"

def name : Attribute → String
  | hp => "hp"
  | hpPercent => "hp_percent"
  | atk => "atk"
  | atkPercent => "atk_percent"
  | defence => "def"
  | defencePercent => "def_percent"
  | critDamage => "crit_damage"
  | critRate => "crit_rate"
  | elementalMastery => "elemental_mastery"
  | energyRecharge => "energy_recharge"
  | pyroDamage => "pyro_damage"
  | hydroDamage => "hydro_damage"
  | cryoDamage => "cryo_damage"
  | electroDamage => "electro_damage"
  | dendroDamage => "dendro_damage"
  | anemoDamage => "anemo_damage"
  | geoDamage => "geo_damage"
  | physicalDamage => "physical_damage"
  | healingBonus => "healing_bonus"

instance : Labelled Attribute where
  all := [hp, hpPercent, atk, atkPercent, defence, defencePercent, critDamage, critRate,
    elementalMastery, energyRecharge, pyroDamage, hydroDamage, cryoDamage, electroDamage,
    dendroDamage, anemoDamage, geoDamage, physicalDamage, healingBonus]
  label := label
  name := name

def ofLabel? : String → Option Attribute :=
  Labelled.ofLabel?

@[simp] theorem ofLabel?_label (a : Attribute) : ofLabel? a.label = some a := by
  cases a <;> decide

@[simp] theorem ofName?_name (a : Attribute) : Labelled.ofName? a.name = some a := by
  cases a <;> decide

theorem ofLabel?_eq_some_iff {s : String} {a : Attribute} : ofLabel? s = some a ↔ a.label = s :=
  ⟨fun h => Labelled.label_of_ofLabel? h, fun h => h ▸ ofLabel?_label a⟩

/-- Flat health, attack or defence: the secondary rolls of low value. -/
def isFlat (a : Attribute) : Bool :=
  a == hp || a == atk || a == defence

/-- Health, attack or defence as a percentage: the primaries of every slot but flower and plume. -/
def isBasePercent (a : Attribute) : Bool :=
  a == hpPercent || a == atkPercent || a == defencePercent

end Attribute

/-- What to do with an artifact. -/
inductive Outcome
  | keep | discard
  /-- No rule applied: leave the artifact alone. -/
  | undetermined
  deriving DecidableEq, Repr

namespace Outcome

def label : Outcome → String
  | keep => "锁"
  | discard => "不锁"
  | undetermined => "没有决断"

/-- A sheet can only ask for `keep` and `discard`. -/
def writable : List Outcome :=
  [keep, discard]

def ofLabel? (s : String) : Option Outcome :=
  writable.find? fun o => o.label == s

theorem ofLabel?_eq_some_iff {s : String} {o : Outcome} :
    ofLabel? s = some o ↔ o ∈ writable ∧ o.label = s := by
  constructor
  · intro h
    exact ⟨List.mem_of_find?_eq_some h, by simpa using List.find?_some h⟩
  · rintro ⟨ho, rfl⟩
    cases o with
    | keep => decide
    | discard => decide
    | undetermined => exact absurd ho (by decide)

end Outcome
end ArtifactRules
