import ArtifactRules.Proofs.RuleWriting

/-! The line that shows a rule. Spaces set its parts apart and are in none of them, and each part
shows a condition or that there is none, so the line tells all of a rule but its row. -/

namespace ArtifactRules

theorem Outcome.label_injective : Function.Injective Outcome.label := by
  have hall : ∀ o p : Outcome, o.label = p.label → o = p := by
    intro o p
    cases o <;> cases p <;> decide
  intro o p h
  exact hall o p h

theorem Comparator.symbol_injective : Function.Injective Comparator.symbol := by
  have hall : ∀ c d : Comparator, c.symbol = d.symbol → c = d := by
    intro c d
    cases c <;> cases d <;> decide
  intro c d h
  exact hall c d h

/-- The sign ends at the first digit, and the digits are those of one number. -/
theorem Bound.text_injective : Function.Injective Bound.text := by
  intro b c h
  have hhead : ∀ b : Bound, ∀ x ∈ (Nat.toDigits 10 b.limit.toNat).head?, Text.isDigit x = true := by
    intro b x hx
    have hdigits := (Text.natural?_eq_some_iff.1 (Text.natural?_toDigits b.limit.toNat)).1
    exact hdigits x (List.mem_of_mem_head? hx)
  have hchars : b.comparator.symbol.toList ++ Nat.toDigits 10 b.limit.toNat =
      c.comparator.symbol.toList ++ Nat.toDigits 10 c.limit.toNat := by
    rw [← Cell.toList_boundText, ← Cell.toList_boundText, h]
  have hsign : b.comparator.symbol.toList = c.comparator.symbol.toList := by
    rw [← Cell.takeWhile_sign b.comparator.symbol_not_digit (hhead b), hchars,
      Cell.takeWhile_sign c.comparator.symbol_not_digit (hhead c)]
  have hdigits : Nat.toDigits 10 b.limit.toNat = Nat.toDigits 10 c.limit.toNat := by
    rw [← Cell.dropWhile_sign b.comparator.symbol_not_digit (hhead b), hchars,
      Cell.dropWhile_sign c.comparator.symbol_not_digit (hhead c)]
  have hcomparator : b.comparator = c.comparator :=
    Comparator.symbol_injective (String.toList_inj.1 hsign)
  have hlimit : b.limit.toNat = c.limit.toNat := by
    have hnatural := Text.natural?_toDigits b.limit.toNat
    rw [hdigits, Text.natural?_toDigits] at hnatural
    exact (Option.some.inj hnatural).symm
  obtain ⟨comparator, limit⟩ := b
  obtain ⟨comparator', limit'⟩ := c
  rw [Bound.mk.injEq]
  exact ⟨hcomparator, UInt32.toNat_inj.1 hlimit⟩

namespace Cell

theorem IsClear.text_injective {words : Words} (hwords : IsClear words) :
    Function.Injective words.text := by
  intro p q h
  have hp : predicate words (words.text p) = .ok p := (predicate_eq_ok_iff hwords).2 rfl
  have hq : predicate words (words.text p) = .ok q := (predicate_eq_ok_iff hwords).2 h
  rw [hp] at hq
  exact Except.ok.inj hq

/-- Joined texts tell their list, the empty one from all others because no text is empty. -/
theorem join_map_injective {α : Type} {write : α → String} (hwrite : Function.Injective write)
    (hsep : ∀ a, separator ∉ (write a).toList) (hne : ∀ a, write a ≠ "") :
    Function.Injective fun as : List α => Text.join "," (as.map write) := by
  have hempty : ∀ as : List α, Text.join "," (as.map write) = "" → as = [] := by
    intro as h
    by_contra has
    exact join_map_ne_empty hne has h
  intro as bs h
  by_cases hbs : bs = []
  · subst hbs
    exact hempty as h
  · have has : as ≠ [] := by
      rintro rfl
      exact hbs (hempty bs h.symm)
    have hfields : as.map write = bs.map write := by
      rw [← (fields_eq_map_iff hsep).2 ⟨has, rfl⟩]
      exact (fields_eq_map_iff hsep).2 ⟨hbs, h⟩
    exact List.map_injective_iff.2 hwrite hfields

end Cell

namespace Rule

theorem categoriesText_injective : Function.Injective categoriesText :=
  Cell.join_map_injective Category.label_injective Cell.separator_notMem_label
    Cell.category_label_ne_empty

theorem secondaryText_injective : Function.Injective secondaryText :=
  Cell.join_map_injective Cell.secondary_isClear.text_injective
    Cell.secondary_isClear.separator_notMem_text (Cell.text_ne_empty _)

/-- A condition is shown after the name of what it is on, except for a list of categories. -/
def title : Column → String
  | .level => "等级"
  | .tier => "星级"
  | .primary => "主词条"
  | .secondary => "副词条"
  | .categories | .outcome => ""

def absentText : Column → String
  | .categories => "任意圣遗物类型"
  | .level => "任意等级"
  | .tier => "任意星级"
  | .primary => "任意主词条"
  | .secondary => "任意副词条"
  | .outcome => ""

def shownText (rule : Rule) (column : Column) : String :=
  (rule.cellText? column).elim (absentText column) (title column ++ ·)

def textParts (rule : Rule) : List String :=
  ["[" ++ rule.shownText .outcome ++ "]", rule.shownText .categories ++ ",",
    rule.shownText .level ++ ",", rule.shownText .tier ++ ",", rule.shownText .primary ++ ",",
    rule.shownText .secondary]

theorem elim_titled {α : Type} (condition : Option α) (write : α → String)
    (titled absent : String) :
    condition.elim (", " ++ absent) (fun a => ", " ++ titled ++ write a) =
      ", " ++ (condition.map write).elim absent (titled ++ ·) := by
  cases condition with
  | none => rfl
  | some a => exact String.append_assoc

theorem text_eq_join_textParts (rule : Rule) : rule.text = Text.join " " rule.textParts := by
  have houtcome : rule.outcome.label = rule.shownText .outcome := (String.empty_append).symm
  have hcategories : rule.categories.elim "任意圣遗物类型" categoriesText =
      rule.shownText .categories := by
    rw [shownText, cellText?]
    cases rule.categories with
    | none => rfl
    | some cs => exact (String.empty_append).symm
  have hlevel : rule.level.elim ", 任意等级" (", 等级" ++ ·.text) =
      ", " ++ rule.shownText .level := elim_titled rule.level Bound.text "等级" "任意等级"
  have htier : rule.tier.elim ", 任意星级" (", 星级" ++ ·.text) =
      ", " ++ rule.shownText .tier := elim_titled rule.tier Bound.text "星级" "任意星级"
  have hprimary : rule.primary.elim ", 任意主词条" (", 主词条" ++ Words.primary.text ·) =
      ", " ++ rule.shownText .primary :=
    elim_titled rule.primary Words.primary.text "主词条" "任意主词条"
  have hsecondary : rule.secondary.elim ", 任意副词条" (", 副词条" ++ secondaryText ·) =
      ", " ++ rule.shownText .secondary :=
    elim_titled rule.secondary secondaryText "副词条" "任意副词条"
  have hclose : "] " = "]" ++ " " := rfl
  have hcomma : ", " = "," ++ " " := rfl
  rw [text, houtcome, hcategories, hlevel, htier, hprimary, hsecondary, hclose, hcomma]
  simp only [textParts, Text.join, String.append_assoc]

theorem space_notMem_shownText (rule : Rule) (column : Column) :
    ' ' ∉ (rule.shownText column).toList := by
  rw [shownText]
  cases htext : rule.cellText? column with
  | none =>
    cases column <;> decide
  | some text =>
    intro hspace
    rw [Option.elim_some, String.toList_append, List.mem_append] at hspace
    rcases hspace with htitle | hcondition
    · revert htitle
      cases column <;> decide
    · exact absurd (isPlain_of_mem_cellText htext ' ' hcondition).1 (by decide)

theorem fields_text (rule : Rule) : Text.fields ' ' rule.text = rule.textParts := by
  have hspace : ∀ part ∈ rule.textParts, ' ' ∉ part.toList := by
    simp [textParts, space_notMem_shownText]
  rw [text_eq_join_textParts]
  exact Text.fields_join (by simp [textParts]) hspace

theorem title_append_ne_absentText {rule : Rule} {column : Column} {text : String}
    (h : rule.cellText? column = some text) : title column ++ text ≠ absentText column := by
  have htitled : ∀ {noun : String} {m : Char}, noun.toList.head? = some m → m ≠ '任' →
      noun ++ text ≠ "任意" ++ noun := by
    intro noun m hnoun hne
    exact Text.append_ne_append_of_heads hne hnoun rfl text noun
  cases column with
  | categories =>
    obtain ⟨cs, -, rfl⟩ := Option.map_eq_some_iff.1 h
    intro he
    have htext : categoriesText cs = "任意圣遗物类型" := String.empty_append.symm.trans he
    -- there is no title to tell them apart, but a character that no label has
    have hany : '任' ∈ (categoriesText cs).toList := by
      rw [htext]
      decide
    rcases Cell.mem_join hany with hcomma | ⟨label, hlabel, hmem⟩
    · revert hcomma
      decide
    · obtain ⟨c, -, rfl⟩ := List.mem_map.1 hlabel
      revert hmem
      cases c <;> decide
  | level => exact htitled (m := '等') rfl (by decide)
  | tier => exact htitled (m := '星') rfl (by decide)
  | primary => exact htitled (m := '主') rfl (by decide)
  | secondary => exact htitled (m := '副') rfl (by decide)
  | outcome =>
    obtain rfl := Option.some.inj h
    cases rule.outcome <;> decide

theorem cellText?_eq_of_shownText_eq {r s : Rule} {column : Column}
    (h : r.shownText column = s.shownText column) : r.cellText? column = s.cellText? column := by
  rw [shownText, shownText] at h
  cases hr : r.cellText? column with
  | none =>
    cases hs : s.cellText? column with
    | none => rfl
    | some text =>
      rw [hr, hs] at h
      exact absurd h.symm (title_append_ne_absentText hs)
  | some text =>
    cases hs : s.cellText? column with
    | none =>
      rw [hr, hs] at h
      exact absurd h (title_append_ne_absentText hr)
    | some other =>
      rw [hr, hs] at h
      rw [(String.append_right_inj _).1 h]

theorem cellText?_eq_of_text_eq {r s : Rule} (h : r.text = s.text) (column : Column) :
    r.cellText? column = s.cellText? column := by
  have hparts : r.textParts = s.textParts := by
    rw [← fields_text, h, fields_text]
  simp only [textParts, List.cons.injEq, String.append_left_inj, String.append_right_inj, and_true]
    at hparts
  obtain ⟨houtcome, hcategories, hlevel, htier, hprimary, hsecondary⟩ := hparts
  apply cellText?_eq_of_shownText_eq
  cases column with
  | categories => exact hcategories
  | level => exact hlevel
  | tier => exact htier
  | primary => exact hprimary
  | secondary => exact hsecondary
  | outcome => exact houtcome

/-- Rules are shown alike if and only if they differ in their rows at most, and so they fit the same
artifacts. -/
theorem text_eq_iff (r s : Rule) :
    r.text = s.text ↔ r = { s with row := r.row } ∧ ∀ a, r.fits a = s.fits a := by
  constructor
  · intro h
    have hcells := cellText?_eq_of_text_eq h
    have hcategories := Option.map_injective categoriesText_injective (hcells .categories)
    have hlevel := Option.map_injective Bound.text_injective (hcells .level)
    have htier := Option.map_injective Bound.text_injective (hcells .tier)
    have hprimary := Option.map_injective Cell.primary_isClear.text_injective (hcells .primary)
    have hsecondary := Option.map_injective secondaryText_injective (hcells .secondary)
    have houtcome := Outcome.label_injective (Option.some.inj (hcells .outcome))
    have hsame : r = { s with row := r.row } := by
      obtain ⟨categories, tier, level, primary, secondary, outcome, row⟩ := r
      rw [Rule.mk.injEq]
      exact ⟨hcategories, htier, hlevel, hprimary, hsecondary, houtcome, rfl⟩
    refine ⟨hsame, ?_⟩
    intro a
    rw [hsame]
    rfl
  · rintro ⟨hsame, -⟩
    rw [hsame]
    rfl

end Rule
end ArtifactRules
