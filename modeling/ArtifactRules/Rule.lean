import ArtifactRules.Condition

/-! A rule: optional conditions and an outcome. A condition that is absent holds of every
artifact. -/

namespace ArtifactRules

structure Rule where
  categories : Option (List Category) := none
  tier : Option Bound := none
  level : Option Bound := none
  primary : Option Predicate := none
  /-- Every predicate has to hold. -/
  secondary : Option (List Predicate) := none
  outcome : Outcome
  /-- The row of the sheet it was read from, counted from one. -/
  row : Nat
  deriving DecidableEq, Repr

namespace Rule

def fits (r : Rule) (a : Artifact) : Bool :=
  r.categories.all (·.contains a.category)
    && r.tier.all (·.holds a.tier)
    && r.level.all (·.holds a.level)
    && r.primary.all (·.holdsFor a.primary.kind)
    && r.secondary.all fun ps => ps.all (·.holdsAmong a.secondaryKinds)

def categoriesText (cs : List Category) : String :=
  Text.join "," (cs.map Category.label)

def secondaryText (ps : List Predicate) : String :=
  Text.join "," (ps.map Words.secondary.text)

/-- One line in the words of the sheet, level before tier. -/
def text (r : Rule) : String :=
  "[" ++ r.outcome.label ++ "] "
    ++ r.categories.elim "任意圣遗物类型" categoriesText
    ++ r.level.elim ", 任意等级" (", 等级" ++ ·.text)
    ++ r.tier.elim ", 任意星级" (", 星级" ++ ·.text)
    ++ r.primary.elim ", 任意主词条" (", 主词条" ++ Words.primary.text ·)
    ++ r.secondary.elim ", 任意副词条" (", 副词条" ++ secondaryText ·)

end Rule

/-- Rules in sheet order. -/
abbrev RuleSet := List Rule

def RuleSet.firstFit? (rules : RuleSet) (a : Artifact) : Option Rule :=
  rules.find? (·.fits a)

end ArtifactRules
