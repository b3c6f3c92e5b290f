import ArtifactRules.Proofs.LoadedRules
import ArtifactRules.Proofs.RowLayout
import ArtifactRules.Proofs.RuleOrder

/-! Sheets that differ in one row. A blank row that comes in moves the rules after it down, a row
that is blanked hands its artifacts on to the next rule, and a row at the end decides what has been
left alone so far. -/

namespace ArtifactRules

/-- Nothing but blanks in the first six cells. -/
def Row.IsVoid (row : Row) : Prop :=
  ∀ i < 6, ∀ c ∈ (row.textAt i).toList, Text.isBlank c = true

theorem Column.exists_index_eq {i : Nat} (h : i < 6) : ∃ column : Column, column.index = i := by
  match i, h with
  | 0, _ => exact ⟨.categories, rfl⟩
  | 1, _ => exact ⟨.level, rfl⟩
  | 2, _ => exact ⟨.tier, rfl⟩
  | 3, _ => exact ⟨.primary, rfl⟩
  | 4, _ => exact ⟨.secondary, rfl⟩
  | 5, _ => exact ⟨.outcome, rfl⟩

theorem Row.isBlank_iff_isVoid (row : Row) : row.isBlank = true ↔ row.IsVoid := by
  have hempty : ∀ column, row.normalized column = "" ↔
      ∀ c ∈ (row.textAt column.index).toList, Text.isBlank c = true := by
    intro column
    rw [normalized, cell_eq_textAt, Cell.normalize_eq_bare, ← String.toList_eq_nil_iff,
      String.toList_ofList, Cell.bare, List.filterMap_eq_nil_iff]
    simp
  rw [isBlank_iff]
  constructor
  · intro h i hi
    obtain ⟨column, rfl⟩ := Column.exists_index_eq hi
    exact (hempty column).1 (h column)
  · intro h column
    exact (hempty column).2 (h column.index column.index_lt)

instance (row : Row) : Decidable row.IsVoid :=
  decidable_of_iff _ row.isBlank_iff_isVoid

def Rule.movedDown (rule : Rule) : Rule :=
  { rule with row := rule.row + 1 }

/-- A rule in the decision at or after row `p` is one row further down. -/
def Decision.pushedFrom (p : Nat) (decision : Decision) : Decision :=
  match decision.reason with
  | .rule n => if p ≤ n then ⟨decision.outcome, .rule (n + 1)⟩ else decision
  | _ => decision

namespace RuleSet

variable {rules before after : RuleSet} {rule : Rule} {a : Artifact} {p : Nat}

theorem firstFit?_map_movedDown (rules : RuleSet) (a : Artifact) :
    firstFit? (rules.map Rule.movedDown) a = (rules.firstFit? a).map Rule.movedDown :=
  List.find?_map

theorem pushedFrom_of_lt {outcome : Outcome} {n : Nat} (h : n < p) :
    Decision.pushedFrom p ⟨outcome, .rule n⟩ = ⟨outcome, .rule n⟩ := by
  simp [Decision.pushedFrom, Nat.not_le.2 h]

theorem pushedFrom_of_le {outcome : Outcome} {n : Nat} (h : p ≤ n) :
    Decision.pushedFrom p ⟨outcome, .rule n⟩ = ⟨outcome, .rule (n + 1)⟩ := by
  simp [Decision.pushedFrom, h]

theorem explain_append_movedDown (hbefore : ∀ rule ∈ before, rule.row < p)
    (hafter : ∀ rule ∈ after, p ≤ rule.row) (a : Artifact) :
    explain (before ++ after.map Rule.movedDown) a = (explain (before ++ after) a).pushedFrom p := by
  cases hfirst : before.firstFit? a with
  | some rule =>
    have hrow : rule.row < p := hbefore rule (List.mem_of_find?_eq_some hfirst)
    rw [explain_of_firstFit? (firstFit?_append_of_some hfirst _),
      explain_of_firstFit? (firstFit?_append_of_some hfirst _), pushedFrom_of_lt hrow]
  | none =>
    have hmoved : firstFit? (before ++ after.map Rule.movedDown) a =
        (after.firstFit? a).map Rule.movedDown := by
      rw [firstFit?_append_of_none hfirst, firstFit?_map_movedDown]
    have hstill : firstFit? (before ++ after) a = after.firstFit? a :=
      firstFit?_append_of_none hfirst after
    cases hlater : after.firstFit? a with
    | some rule =>
      rw [hlater] at hmoved hstill
      have hrow : p ≤ rule.row := hafter rule (List.mem_of_find?_eq_some hlater)
      rw [explain_of_firstFit? hmoved, explain_of_firstFit? hstill, pushedFrom_of_le hrow]
      rfl
    | none =>
      rw [hlater] at hmoved hstill
      have hempty : (before ++ after.map Rule.movedDown).isEmpty = (before ++ after).isEmpty := by
        cases before <;> cases after <;> rfl
      simp only [explain, hmoved, hstill, hempty]
      split <;> rfl

/-- What is decided when the rule on row `p` is gone: the next rule that fits decides, and without
one the artifact is left alone. -/
inductive NextDecision (rules : RuleSet) (p : Nat) (a : Artifact) : Decision → Prop
  | rule {rule : Rule} (hrule : rule ∈ rules) (hfits : rule.fits a = true) (hrow : p < rule.row)
    (hleast : ∀ other ∈ rules, other.fits a = true → p < other.row → rule.row ≤ other.row) :
    NextDecision rules p a ⟨rule.outcome, .rule rule.row⟩
  | none (h : ∀ rule ∈ rules, rule.fits a = true → rule.row ≤ p) :
    NextDecision rules p a ⟨.undetermined, .noRuleFits⟩

/-- How decisions change as the rule on row `p` goes: only those that it has made. -/
structure LosesRow (rules edited : RuleSet) (p : Nat) (a : Artifact) : Prop where
  explain_eq : (rules.explain a).reason ≠ .rule p → edited.explain a = rules.explain a
  next : (rules.explain a).reason = .rule p → NextDecision rules p a (edited.explain a)

/-- A rule that has not decided is not missed. -/
theorem explain_without (hne : before ++ after ≠ [])
    (h : (explain (before ++ rule :: after) a).reason ≠ .rule rule.row) :
    explain (before ++ after) a = explain (before ++ rule :: after) a := by
  apply explain_congr (isEmpty_without hne rule)
  apply firstFit?_without
  intro hfirst hfits
  have hdecides : firstFit? (before ++ rule :: after) a = some rule := by
    rw [firstFit?_append_of_none hfirst]
    exact firstFit?_cons_of_fits hfits after
  rw [explain_of_firstFit? hdecides] at h
  exact h rfl

theorem firstFit?_before_of_decides (hrows : ∀ first ∈ before, first.row < rule.row)
    (h : (explain (before ++ rule :: after) a).reason = .rule rule.row) :
    before.firstFit? a = none := by
  cases hfirst : before.firstFit? a with
  | none => rfl
  | some first =>
    rw [explain_of_firstFit? (firstFit?_append_of_some hfirst _)] at h
    have hrow : first.row = rule.row := Reason.rule.inj h
    have hlt := hrows first (List.mem_of_find?_eq_some hfirst)
    omega

theorem nextDecision_without (hrows : (before ++ rule :: after).Pairwise fun r s => r.row < s.row)
    (hne : before ++ after ≠ [])
    (h : (explain (before ++ rule :: after) a).reason = .rule rule.row) :
    NextDecision (before ++ rule :: after) rule.row a (explain (before ++ after) a) := by
  obtain ⟨-, hrest, hacross⟩ := List.pairwise_append.1 hrows
  obtain ⟨hlater, hafter⟩ := List.pairwise_cons.1 hrest
  have hfirst := firstFit?_before_of_decides (fun first hmem => hacross first hmem rule (by simp)) h
  -- the rules before it do not fit, so what else fits comes after it
  have hothers : ∀ other ∈ before ++ rule :: after, other.fits a = true →
      other = rule ∨ other ∈ after := by
    intro other hother hfits
    rcases List.mem_append.1 hother with hmem | hmem
    · exact absurd hfits (List.find?_eq_none.1 hfirst other hmem)
    · exact List.mem_cons.1 hmem
  cases hnext : after.firstFit? a with
  | some next =>
    have hmem : next ∈ after := List.mem_of_find?_eq_some hnext
    have hdecides : firstFit? (before ++ after) a = some next := by
      rw [firstFit?_append_of_none hfirst, hnext]
    rw [explain_of_firstFit? hdecides]
    refine .rule (by simp [hmem]) (List.find?_eq_some_iff_append.1 hnext).1 (hlater next hmem) ?_
    intro other hother hfits hrow
    rcases hothers other hother hfits with rfl | hmemAfter
    · exact absurd hrow (Nat.lt_irrefl _)
    · exact (isLeast_row_of_firstFit? hafter hnext).2
        (mem_fittingRows_iff.2 ⟨other, hmemAfter, hfits, rfl⟩)
  | none =>
    have hnoFit : firstFit? (before ++ after) a = none := by
      rw [firstFit?_append_of_none hfirst, hnext]
    rw [explain_of_firstFit?_eq_none hne hnoFit]
    refine .none ?_
    intro other hother hfits
    rcases hothers other hother hfits with rfl | hmemAfter
    · exact Nat.le_refl _
    · exact absurd hfits (List.find?_eq_none.1 hnext other hmemAfter)

/-- A rule at the end decides what has been left alone so far, and nothing else. -/
theorem explain_concat (hne : rules ≠ []) (houtcome : ∀ rule ∈ rules, rule.outcome ≠ .undetermined)
    (last : Rule) (a : Artifact) :
    explain (rules ++ [last]) a =
      if (rules.explain a).outcome = .undetermined ∧ last.fits a = true then
        ⟨last.outcome, .rule last.row⟩
      else rules.explain a := by
  cases hfirst : rules.firstFit? a with
  | some first =>
    have hdecided : first.outcome ≠ .undetermined :=
      houtcome first (List.mem_of_find?_eq_some hfirst)
    rw [explain_of_firstFit? (firstFit?_append_of_some hfirst _), explain_of_firstFit? hfirst,
      if_neg (by simp [hdecided])]
  | none =>
    rw [explain_of_firstFit?_eq_none hne hfirst]
    by_cases hfits : last.fits a = true
    · have hdecides : firstFit? (rules ++ [last]) a = some last := by
        rw [firstFit?_append_of_none hfirst]
        exact firstFit?_cons_of_fits hfits []
      rw [explain_of_firstFit? hdecides, if_pos ⟨rfl, hfits⟩]
    · have hnoFit : firstFit? (rules ++ [last]) a = none := by
        rw [firstFit?_append_of_none hfirst]
        exact firstFit?_cons_of_not_fits hfits []
      rw [explain_of_firstFit?_eq_none (by simp) hnoFit, if_neg (by simp [hfits])]

end RuleSet

theorem Row.rule_renumbered {row : Row} {n : Nat} {rule : Rule} (h : row.rule n = .ok rule) (m : Nat) :
    row.rule m = .ok { rule with row := m } := by
  obtain ⟨hcategories, htier, hlevel, hprimary, hsecondary, houtcome, -⟩ := Row.rule_eq_ok_iff.1 h
  exact Row.rule_eq_ok_iff.2
    ⟨hcategories, htier, hlevel, hprimary, hsecondary, houtcome, rfl⟩

theorem Row.rule_succ {row : Row} {n : Nat} {rule : Rule} (h : row.rule n = .ok rule) :
    row.rule (n + 1) = .ok rule.movedDown := by
  have hnumber : rule.row = n := (Row.rule_eq_ok_iff.1 h).2.2.2.2.2.2
  rw [Row.rule_renumbered h, Rule.movedDown, hnumber]

theorem Row.isBlank_of_rule {row : Row} {n : Nat} {rule : Rule} (h : row.rule n = .ok rule) :
    row.isBlank = false := by
  by_contra hblank
  have hempty : row.normalized .outcome = "" := by
    apply (Row.isBlank_iff row).1
    simpa using hblank
  have houtcome := (Row.rule_eq_ok_iff.1 h).2.2.2.2.2.1
  rw [hempty] at houtcome
  cases houtcome

namespace Sheet

variable {sheet : Sheet} {rules : RuleSet} {p : Nat}

theorem rulesFrom_succ {n : Nat} {rows : List Row} (h : rulesFrom n rows = .ok rules) :
    rulesFrom (n + 1) rows = .ok (rules.map Rule.movedDown) := by
  induction rows generalizing n rules with
  | nil =>
    cases h
    rfl
  | cons row rows ih =>
    cases hblank : row.isBlank with
    | true =>
      rw [rulesFrom_cons_of_blank hblank] at h ⊢
      exact ih h
    | false =>
      obtain ⟨rule, hrule, rest, hrest, rfl⟩ := (rulesFrom_cons_eq_ok_iff hblank).1 h
      exact (rulesFrom_cons_eq_ok_iff hblank).2
        ⟨rule.movedDown, Row.rule_succ hrule, rest.map Rule.movedDown, ih hrest, rfl⟩

theorem insertIdx_length_append (above below : List Row) (row : Row) :
    (above ++ below).insertIdx above.length row = above ++ row :: below := by
  induction above with
  | nil => rfl
  | cons first above ih => simp [ih]

def insertRow (sheet : Sheet) (p : Nat) (row : Row) : Sheet :=
  { sheet with rows := sheet.rows.insertIdx (p - 1) row }

def setRow (sheet : Sheet) (p : Nat) (row : Row) : Sheet :=
  { sheet with rows := sheet.rows.set (p - 1) row }

def addRow (sheet : Sheet) (row : Row) : Sheet :=
  { sheet with rows := sheet.rows ++ [row] }

/-- A header, and data rows of which those from place `p` on are `below`. -/
structure CutAt (sheet : Sheet) (p : Nat) (header : Row) (above below : List Row) : Prop where
  rows_eq : sheet.rows = header :: (above ++ below)
  place_eq : p = firstDataRow + above.length
  header_ok : header.checkHeader = .ok ()

namespace CutAt

variable {header : Row} {above below : List Row}

theorem rules_eq_ok_iff (h : sheet.CutAt p header above below) :
    sheet.rules = .ok rules ↔
      ∃ before, rulesFrom firstDataRow above = .ok before ∧
        ∃ after, rulesFrom p below = .ok after ∧ before ++ after = rules := by
  have hheader : sheet.HasHeader := by
    rw [HasHeader, h.rows_eq]
    exact ⟨header, rfl, h.header_ok⟩
  rw [rules_of_hasHeader hheader, h.rows_eq, List.tail_cons, rulesFrom_append_eq_ok_iff,
    ← h.place_eq]

theorem place_pred_eq (h : sheet.CutAt p header above below) :
    p - 1 = (header :: above).length := by
  rw [h.place_eq, firstDataRow, List.length_cons]
  omega

theorem insertRow (h : sheet.CutAt p header above below) (row : Row) :
    (sheet.insertRow p row).CutAt p header above (row :: below) where
  rows_eq := by
    rw [Sheet.insertRow, h.rows_eq, h.place_pred_eq, ← List.cons_append, insertIdx_length_append,
      List.cons_append]
  place_eq := h.place_eq
  header_ok := h.header_ok

theorem setRow {old : Row} (h : sheet.CutAt p header above (old :: below)) (row : Row) :
    (sheet.setRow p row).CutAt p header above (row :: below) where
  rows_eq := by
    simp [Sheet.setRow, h.rows_eq, h.place_pred_eq]
  place_eq := h.place_eq
  header_ok := h.header_ok

theorem addRow (h : sheet.CutAt (sheet.rows.length + 1) header above below) (row : Row) :
    below = [] ∧ (sheet.addRow row).CutAt (sheet.rows.length + 1) header above [row] := by
  have hend : below = [] := by
    have hplace := h.place_pred_eq
    rw [Nat.add_sub_cancel, h.rows_eq, ← List.cons_append, List.length_append] at hplace
    exact List.length_eq_zero_iff.1 (by omega)
  refine ⟨hend, ?_, h.place_eq, h.header_ok⟩
  rw [Sheet.addRow, h.rows_eq, hend, List.append_nil, List.cons_append]

end CutAt

theorem exists_cutAt (h : sheet.rules = .ok rules) (hlow : 2 ≤ p) (hhigh : p ≤ sheet.rows.length + 1) :
    ∃ header above below, sheet.CutAt p header above below := by
  obtain ⟨header, hhead, hheader⟩ := (rules_eq_ok_iff.1 h).1
  obtain ⟨data, hrows⟩ := List.head?_eq_some_iff.1 hhead
  rw [hrows, List.length_cons] at hhigh
  refine ⟨header, data.take (p - 2), data.drop (p - 2), ?_, ?_, hheader⟩
  · rw [List.take_append_drop, hrows]
  · rw [firstDataRow, List.length_take]
    omega

theorem exists_cutAt_cons (h : sheet.rules = .ok rules) (hlow : 2 ≤ p)
    (hhigh : p ≤ sheet.rows.length) :
    ∃ header above row below, sheet.CutAt p header above (row :: below) ∧
      sheet.rows[p - 1]? = some row := by
  obtain ⟨header, above, below, hcut⟩ := exists_cutAt h hlow (by omega)
  cases below with
  | nil =>
    have hplace := hcut.place_pred_eq
    rw [← List.append_nil (header :: above), List.cons_append, ← hcut.rows_eq] at hplace
    omega
  | cons row below =>
    refine ⟨header, above, row, below, hcut, ?_⟩
    simp [hcut.rows_eq, hcut.place_pred_eq]

theorem explain_insertRow (h : sheet.rules = .ok rules) (hlow : 2 ≤ p)
    (hhigh : p ≤ sheet.rows.length + 1) {blank : Row} (hblank : blank.IsVoid) :
    ∃ edited, (sheet.insertRow p blank).rules = .ok edited ∧
      ∀ a, edited.explain a = (rules.explain a).pushedFrom p := by
  obtain ⟨header, above, below, hcut⟩ := exists_cutAt h hlow hhigh
  obtain ⟨before, hbefore, after, hafter, rfl⟩ := hcut.rules_eq_ok_iff.1 h
  refine ⟨before ++ after.map Rule.movedDown, ?_, ?_⟩
  · refine (hcut.insertRow blank).rules_eq_ok_iff.2 ⟨before, hbefore, _, ?_, rfl⟩
    rw [rulesFrom_cons_of_blank ((Row.isBlank_iff_isVoid blank).2 hblank)]
    exact rulesFrom_succ hafter
  · apply RuleSet.explain_append_movedDown
    · intro rule hrule
      rw [hcut.place_eq]
      exact (row_bounds_of_mem_rulesFrom hbefore hrule).2
    · intro rule hrule
      exact (row_bounds_of_mem_rulesFrom hafter hrule).1

theorem ne_nil_of_not_isVoid (h : sheet.rules = .ok rules) {row : Row}
    (hrow : row ∈ sheet.rows.tail) (hkept : ¬ row.IsVoid) : rules ≠ [] := by
  rintro rfl
  have hempty := isEmpty_eq_all_isBlank (rules_eq_ok_iff.1 h).2
  exact hkept ((Row.isBlank_iff_isVoid row).1 (List.all_eq_true.1 hempty.symm row hrow))

theorem exists_mem_rules_of_decides (h : sheet.rules = .ok rules) {a : Artifact} {n : Nat}
    (hdecides : (rules.explain a).reason = .rule n) : ∃ rule ∈ rules, rule.row = n := by
  obtain ⟨rule, hrule, hrow, -⟩ := (RuleSet.decidesByRow_of_rules h a).outcome_eq n hdecides
  exact ⟨rule, hrule, hrow⟩

theorem not_decides_of_isVoid (h : sheet.rules = .ok rules) {row : Row}
    (hrow : sheet.rows[p - 1]? = some row) (hvoid : row.IsVoid) (a : Artifact) :
    (rules.explain a).reason ≠ .rule p := by
  intro hdecides
  obtain ⟨rule, hrule, rfl⟩ := exists_mem_rules_of_decides h hdecides
  obtain ⟨source, hsource, hread⟩ := exists_row_of_mem_rules h hrule
  rw [hrow, Option.some.injEq] at hsource
  subst hsource
  have hblank := Row.isBlank_of_rule hread
  rw [(Row.isBlank_iff_isVoid row).2 hvoid] at hblank
  cases hblank

theorem losesRow_of_isVoid (h : sheet.rules = .ok rules) {row : Row}
    (hrow : sheet.rows[p - 1]? = some row) (hvoid : row.IsVoid) (a : Artifact) :
    RuleSet.LosesRow rules rules p a where
  explain_eq _ := rfl
  next hdecides := absurd hdecides (not_decides_of_isVoid h hrow hvoid a)

/-- To blank a row takes away its rule, if it has one. -/
theorem CutAt.explain_setRow {header row blank : Row} {above below : List Row}
    (hcut : sheet.CutAt p header above (row :: below)) (h : sheet.rules = .ok rules)
    (hblank : blank.isBlank = true) :
    ∃ edited, (sheet.setRow p blank).rules = .ok edited ∧
      (row.isBlank = true → edited = rules) ∧
      (row.isBlank = false → edited ≠ [] → ∀ a, RuleSet.LosesRow rules edited p a) := by
  obtain ⟨before, hbefore, after, hafter, rfl⟩ := hcut.rules_eq_ok_iff.1 h
  have hset : ∀ rest, rulesFrom (p + 1) below = .ok rest →
      (sheet.setRow p blank).rules = .ok (before ++ rest) := by
    intro rest hrest
    rw [← rulesFrom_cons_of_blank hblank] at hrest
    exact (hcut.setRow blank).rules_eq_ok_iff.2 ⟨before, hbefore, rest, hrest, rfl⟩
  cases hrow : row.isBlank with
  | true =>
    rw [rulesFrom_cons_of_blank hrow] at hafter
    exact ⟨before ++ after, hset after hafter, fun _ => rfl, by simp⟩
  | false =>
    obtain ⟨rule, hrule, rest, hrest, rfl⟩ := (rulesFrom_cons_eq_ok_iff hrow).1 hafter
    have hnumber : rule.row = p := (Row.rule_eq_ok_iff.1 hrule).2.2.2.2.2.2
    refine ⟨before ++ rest, hset rest hrest, by simp, ?_⟩
    intro _ hne a
    rw [← hnumber]
    exact ⟨RuleSet.explain_without hne, RuleSet.nextDecision_without (rows_pairwise_lt h) hne⟩

theorem explain_addRow (h : sheet.rules = .ok rules) {row : Row} {n : Nat} {rule : Rule}
    (hrule : row.rule n = .ok rule) :
    ∃ edited, (sheet.addRow row).rules = .ok edited ∧
      (rules ≠ [] → ∀ a, edited.explain a =
        if (rules.explain a).outcome = .undetermined ∧ rule.fits a = true then
          ⟨rule.outcome, .rule (sheet.rows.length + 1)⟩
        else rules.explain a) := by
  have hlength : 0 < sheet.rows.length := by
    obtain ⟨header, hhead, -⟩ := (rules_eq_ok_iff.1 h).1
    exact List.length_pos_of_mem (List.mem_of_mem_head? hhead)
  obtain ⟨header, above, below, hcut⟩ := exists_cutAt h (by omega) (Nat.le_refl _)
  obtain ⟨rfl, hadded⟩ := hcut.addRow row
  obtain ⟨before, hbefore, after, hafter, rfl⟩ := hcut.rules_eq_ok_iff.1 h
  cases hafter
  have hlast := Row.rule_renumbered hrule (sheet.rows.length + 1)
  refine ⟨before ++ [{ rule with row := sheet.rows.length + 1 }], ?_, ?_⟩
  · refine hadded.rules_eq_ok_iff.2 ⟨before, hbefore, _, ?_, rfl⟩
    exact (rulesFrom_cons_eq_ok_iff (Row.isBlank_of_rule hrule)).2 ⟨_, hlast, [], rfl, rfl⟩
  · rw [List.append_nil] at h ⊢
    intro hne a
    exact RuleSet.explain_concat hne (fun _ => outcome_ne_undetermined_of_mem_rules h) _ a

/-- One edit of a row keeps the sheet readable, and its decisions change as the edit says. -/
structure EditsLocally (sheet : Sheet) (rules : RuleSet) : Prop where
  insert_blank : ∀ p blank, 2 ≤ p → p ≤ sheet.rows.length + 1 → blank.IsVoid →
    ∃ edited, (sheet.insertRow p blank).rules = .ok edited ∧
      ∀ a, edited.explain a = (rules.explain a).pushedFrom p
  set_blank : ∀ p blank, 2 ≤ p → p ≤ sheet.rows.length → blank.IsVoid →
    ∃ edited, (sheet.setRow p blank).rules = .ok edited ∧
      -- without a row that is left, the artifacts are judged by the heuristic instead
      ((∃ row ∈ (sheet.setRow p blank).rows.tail, ¬ row.IsVoid) ∨
          (∃ row ∈ sheet.rows[p - 1]?, row.IsVoid) →
        ∀ a, RuleSet.LosesRow rules edited p a)
  add : ∀ row n rule, row.rule n = .ok rule →
    ∃ edited, (sheet.addRow row).rules = .ok edited ∧
      (rules ≠ [] → ∀ a, edited.explain a =
        if (rules.explain a).outcome = .undetermined ∧ rule.fits a = true then
          ⟨rule.outcome, .rule (sheet.rows.length + 1)⟩
        else rules.explain a)

/-- A sheet that is read can be edited row by row, with local effect. -/
theorem editsLocally_of_rules (h : sheet.rules = .ok rules) : sheet.EditsLocally rules where
  insert_blank _ _ hlow hhigh hblank := explain_insertRow h hlow hhigh hblank
  set_blank p blank hlow hhigh hblank := by
    obtain ⟨header, above, row, below, hcut, hplace⟩ := exists_cutAt_cons h hlow hhigh
    obtain ⟨edited, hedited, hsame, hloses⟩ :=
      hcut.explain_setRow h ((Row.isBlank_iff_isVoid blank).2 hblank)
    refine ⟨edited, hedited, ?_⟩
    intro hleft a
    cases hrow : row.isBlank with
    | true =>
      rw [hsame hrow]
      exact losesRow_of_isVoid h hplace ((Row.isBlank_iff_isVoid row).1 hrow) a
    | false =>
      rcases hleft with ⟨kept, hkept, hfull⟩ | ⟨old, hold, hempty⟩
      · exact hloses hrow (ne_nil_of_not_isVoid hedited hkept hfull) a
      · rw [hplace, Option.mem_some_iff] at hold
        subst hold
        rw [(Row.isBlank_iff_isVoid row).2 hempty] at hrow
        cases hrow
  add _ _ _ hrule := explain_addRow h hrule

def lifeFlower : Artifact where
  category := .flower
  tier := 5
  primary := ⟨.hp, "717"⟩
  secondary := []
  secondary_length_le := by decide
  secondaryKinds_nodup := by decide

theorem twoRuleSheet_editsLocally :
    (∃ edited, (twoRuleSheet.insertRow 3 [none, some "  "]).rules = .ok edited ∧
      edited.explain defenceSands = ⟨.discard, .rule 5⟩) ∧
    (∃ edited, (twoRuleSheet.setRow 4 []).rules = .ok edited ∧
      RuleSet.NextDecision twoRules 4 defenceSands (edited.explain defenceSands) ∧
      edited.explain lifeFlower = twoRules.explain lifeFlower) ∧
    ∃ edited, (twoRuleSheet.addRow [none, none, none, none, none, some "锁"]).rules = .ok edited ∧
      edited.explain defenceSands = ⟨.discard, .rule 4⟩ ∧
      edited.explain lifeFlower = ⟨.keep, .rule 5⟩ := by
  have hrules : twoRuleSheet.rules = .ok twoRules := by rfl
  have hsands : RuleSet.explain twoRules defenceSands = ⟨.discard, .rule 4⟩ := by decide
  have hflower : RuleSet.explain twoRules lifeFlower = ⟨.undetermined, .noRuleFits⟩ := by decide
  have hlocal := editsLocally_of_rules hrules
  refine ⟨?_, ?_, ?_⟩
  · obtain ⟨edited, hedited, hpushed⟩ :=
      hlocal.insert_blank 3 [none, some "  "] (by decide) (by decide) (by decide)
    refine ⟨edited, hedited, ?_⟩
    rw [hpushed, hsands]
    rfl
  · obtain ⟨edited, hedited, hloses⟩ :=
      hlocal.set_blank 4 [] (by decide) (by decide) (by decide)
    have hleft : ∃ row ∈ (twoRuleSheet.setRow 4 []).rows.tail, ¬ row.IsVoid :=
      ⟨_, .head _, by decide⟩
    refine ⟨edited, hedited, (hloses (.inl hleft) _).next ?_, (hloses (.inl hleft) _).explain_eq ?_⟩
    · rw [hsands]
    · simp [hflower]
  · obtain ⟨edited, hedited, hadds⟩ :=
      hlocal.add [none, none, none, none, none, some "锁"] 5 { outcome := .keep, row := 5 } rfl
    have hne : twoRules ≠ [] := by decide
    refine ⟨edited, hedited, ?_, ?_⟩
    · rw [hadds hne, hsands]
      decide
    · rw [hadds hne, hflower]
      decide

end Sheet
end ArtifactRules
