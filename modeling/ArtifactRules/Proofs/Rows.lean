import ArtifactRules.Proofs.Readings
import ArtifactRules.Sheet

/-! Rows and sheets that are read in full. A row gives a rule when each of its six cells is read,
and a sheet gives the rules of its data rows that are not blank, each with its own row number. -/

namespace ArtifactRules

theorem Row.readAt_eq_ok_iff {α : Type} {row : Row} {n : Nat} {column : Column}
    {read : String → Cell.Reading α} {a : α} :
    row.readAt n column read = .ok a ↔ read (row.normalized column) = .ok a := by
  simp [Row.readAt]

theorem Row.rule_eq_ok_iff {row : Row} {n : Nat} {rule : Rule} :
    row.rule n = .ok rule ↔
      Cell.categories (row.normalized .categories) = .ok rule.categories ∧
      Cell.bound (row.normalized .tier) = .ok rule.tier ∧
      Cell.bound (row.normalized .level) = .ok rule.level ∧
      Cell.primary (row.normalized .primary) = .ok rule.primary ∧
      Cell.secondary (row.normalized .secondary) = .ok rule.secondary ∧
      Cell.outcome (row.normalized .outcome) = .ok rule.outcome ∧
      rule.row = n := by
  simp only [Row.rule, Reading.bind_eq_ok_iff, Row.readAt_eq_ok_iff, Reading.pure_eq_ok_iff]
  constructor
  · rintro ⟨categories, hc, tier, ht, level, hl, primary, hp, secondary, hs, outcome, ho, rfl⟩
    exact ⟨hc, ht, hl, hp, hs, ho, rfl⟩
  · rintro ⟨hc, ht, hl, hp, hs, ho, rfl⟩
    exact ⟨_, hc, _, ht, _, hl, _, hp, _, hs, _, ho, rfl⟩

def Cell.fault? (cell : String) : Column → Option CellFault
  | .categories => Reading.fault? (Cell.categories cell)
  | .level => Reading.fault? (Cell.bound cell)
  | .tier => Reading.fault? (Cell.bound cell)
  | .primary => Reading.fault? (Cell.primary cell)
  | .secondary => Reading.fault? (Cell.secondary cell)
  | .outcome => Reading.fault? (Cell.outcome cell)

/-- In the order in which they are judged: the tier is before the level. -/
def Column.judged : List Column :=
  [categories, tier, level, primary, secondary, outcome]

theorem Column.mem_judged (column : Column) : column ∈ judged := by
  cases column <;> decide

def Row.faultAt? (row : Row) (n : Nat) (column : Column) : Option RuleError :=
  (Cell.fault? (row.normalized column) column).map (.badCell n column)

/-- To read one more cell first is to judge one more column first. -/
theorem Row.fault?_readAt_bind {α β : Type} {row : Row} {n : Nat} {column : Column}
    {columns : List Column} {read : String → Cell.Reading α} {next : α → Except RuleError β}
    (hread : ∀ cell, Cell.fault? cell column = Reading.fault? (read cell))
    (hnext : ∀ a, Reading.fault? (next a) = columns.findSome? (row.faultAt? n)) :
    Reading.fault? (row.readAt n column read >>= next) =
      (column :: columns).findSome? (row.faultAt? n) := by
  rw [List.findSome?_cons, Row.faultAt?, hread, Row.readAt]
  cases read (row.normalized column) with
  | ok a => exact hnext a
  | error fault => rfl

/-- A row fails with the first fault of its columns, as they are judged. -/
theorem Row.fault?_rule (row : Row) (n : Nat) :
    Reading.fault? (row.rule n) = Column.judged.findSome? (row.faultAt? n) := by
  apply Row.fault?_readAt_bind (fun _ => rfl)
  intro categories
  apply Row.fault?_readAt_bind (fun _ => rfl)
  intro tier
  apply Row.fault?_readAt_bind (fun _ => rfl)
  intro level
  apply Row.fault?_readAt_bind (fun _ => rfl)
  intro primary
  apply Row.fault?_readAt_bind (fun _ => rfl)
  intro secondary
  apply Row.fault?_readAt_bind (fun _ => rfl)
  intro outcome
  rfl

theorem Row.exists_rule_iff {row : Row} {n : Nat} :
    (∃ rule, row.rule n = .ok rule) ↔
      ∀ column, Cell.fault? (row.normalized column) column = none := by
  rw [← Reading.fault?_eq_none_iff, Row.fault?_rule, List.findSome?_eq_none_iff]
  simp [Row.faultAt?, Column.mem_judged]

theorem Row.isBlank_congr {row other : Row}
    (h : ∀ c : Column, other.normalized c = row.normalized c) : other.isBlank = row.isBlank := by
  simp only [isBlank, h]

theorem Row.rule_congr {row other : Row}
    (h : ∀ c : Column, other.normalized c = row.normalized c) (n : Nat) :
    other.rule n = row.rule n := by
  simp only [rule, readAt, h]

namespace Sheet

/-- The rows that are not blank, each with its number; the first row has number `n`. -/
def numbered (n : Nat) (rows : List Row) : List (Row × Nat) :=
  (rows.zipIdx n).filter fun entry => !entry.1.isBlank

theorem numbered_cons_of_blank {row : Row} (h : row.isBlank = true) (n : Nat) (rows : List Row) :
    numbered n (row :: rows) = numbered (n + 1) rows := by
  simp [numbered, List.zipIdx_cons, h]

theorem numbered_cons {row : Row} (h : row.isBlank = false) (n : Nat) (rows : List Row) :
    numbered n (row :: rows) = (row, n) :: numbered (n + 1) rows := by
  simp [numbered, List.zipIdx_cons, h]

/-- Skipping blank rows while reading is the same as reading what is left without them. -/
theorem rulesFrom_eq_mapM (n : Nat) (rows : List Row) :
    rulesFrom n rows = (numbered n rows).mapM fun entry => entry.1.rule entry.2 := by
  induction rows generalizing n with
  | nil => rfl
  | cons row rows ih =>
    by_cases h : row.isBlank = true
    · rw [rulesFrom, if_pos h, numbered_cons_of_blank h, ih]
    · rw [rulesFrom, if_neg h, numbered_cons (by simpa using h), List.mapM_cons, ih]

theorem rulesFrom_eq_ok_iff {n : Nat} {rows : List Row} {rules : RuleSet} :
    rulesFrom n rows = .ok rules ↔
      List.Forall₂ (fun entry rule => entry.1.rule entry.2 = .ok rule) (numbered n rows) rules := by
  rw [rulesFrom_eq_mapM, Reading.mapM_eq_ok_iff]

def rowAt (rows : List Row) (i : Nat) : Row :=
  rows[i]?.getD []

@[simp] theorem rowAt_nil (i : Nat) : rowAt [] i = [] := rfl

@[simp] theorem rowAt_cons_succ (row : Row) (rows : List Row) (i : Nat) :
    rowAt (row :: rows) (i + 1) = rowAt rows i := rfl

theorem rulesFrom_cons_of_blank {row : Row} (h : row.isBlank = true) (n : Nat) (rows : List Row) :
    rulesFrom n (row :: rows) = rulesFrom (n + 1) rows := by
  rw [rulesFrom, if_pos h]

theorem rulesFrom_cons_eq_ok_iff {row : Row} (h : row.isBlank = false) {n : Nat} {rows : List Row}
    {rules : RuleSet} :
    rulesFrom n (row :: rows) = .ok rules ↔
      ∃ rule, row.rule n = .ok rule ∧ ∃ rest, rulesFrom (n + 1) rows = .ok rest ∧
        rule :: rest = rules := by
  rw [rulesFrom, if_neg (by simp [h])]
  simp only [Reading.bind_eq_ok_iff, Reading.pure_eq_ok_iff]

theorem rulesFrom_append_eq_ok_iff {n : Nat} {rows more : List Row} {rules : RuleSet} :
    rulesFrom n (rows ++ more) = .ok rules ↔
      ∃ before, rulesFrom n rows = .ok before ∧
        ∃ after, rulesFrom (n + rows.length) more = .ok after ∧ before ++ after = rules := by
  simp only [rulesFrom_eq_mapM, numbered, List.zipIdx_append, List.filter_append,
    List.mapM_append, Reading.bind_eq_ok_iff, Reading.pure_eq_ok_iff]

/-- Rows that are read alike, where the shorter list counts as continued by blank rows. -/
def ReadAlike (rows others : List Row) : Prop :=
  ∀ i, ∀ c : Column, (rowAt others i).normalized c = (rowAt rows i).normalized c

theorem ReadAlike.tail {row other : Row} {rows others : List Row}
    (h : ReadAlike (row :: rows) (other :: others)) : ReadAlike rows others := by
  intro i
  simpa using h (i + 1)

theorem ReadAlike.symm {rows others : List Row} (h : ReadAlike rows others) :
    ReadAlike others rows :=
  fun i c => (h i c).symm

theorem ReadAlike.rulesFrom_nil {rows : List Row} (h : ReadAlike [] rows) (n : Nat) :
    rulesFrom n rows = .ok [] := by
  induction rows generalizing n with
  | nil => rfl
  | cons row rows ih =>
    have hblank : row.isBlank = true := by
      have hempty : Row.isBlank [] = true := rfl
      rw [← hempty]
      exact Row.isBlank_congr (h 0)
    have hrest : ReadAlike [] rows := fun i => by simpa using h (i + 1)
    rw [rulesFrom_cons_of_blank hblank, ih hrest]

theorem ReadAlike.rulesFrom_eq {rows others : List Row} (h : ReadAlike rows others) (n : Nat) :
    rulesFrom n others = rulesFrom n rows := by
  induction rows generalizing others n with
  | nil => exact h.rulesFrom_nil n
  | cons row rows ih =>
    cases others with
    | nil => exact (h.symm.rulesFrom_nil n).symm
    | cons other others =>
      have hrow : ∀ c : Column, other.normalized c = row.normalized c := h 0
      simp only [rulesFrom, Row.isBlank_congr hrow, Row.rule_congr hrow, ih h.tail]

def HasHeader (sheet : Sheet) : Prop :=
  ∃ header ∈ sheet.rows.head?, header.checkHeader = .ok ()

theorem rules_of_hasHeader {sheet : Sheet} (h : sheet.HasHeader) :
    sheet.rules = rulesFrom firstDataRow sheet.rows.tail := by
  obtain ⟨header, hhead, hheader⟩ := h
  obtain ⟨data, hrows⟩ := List.head?_eq_some_iff.1 hhead
  simp only [rules, hrows, hheader]
  rfl

theorem rules_of_not_hasHeader {sheet : Sheet} (h : ¬ sheet.HasHeader) :
    sheet.rules = .error (.badHeader ((sheet.rows.head?.map Row.headerTexts).getD [])) := by
  cases hrows : sheet.rows with
  | nil =>
    simp only [rules, hrows]
    rfl
  | cons header data =>
    have hlabels : header.headerTexts ≠ Column.labels := by
      intro hlabels
      apply h
      rw [HasHeader, hrows]
      exact ⟨header, rfl, if_pos hlabels⟩
    simp only [rules, hrows, Row.checkHeader, if_neg hlabels]
    rfl

theorem rules_eq_ok_iff {sheet : Sheet} {rules : RuleSet} :
    sheet.rules = .ok rules ↔
      sheet.HasHeader ∧ rulesFrom firstDataRow sheet.rows.tail = .ok rules := by
  by_cases h : sheet.HasHeader
  · simp [rules_of_hasHeader h, h]
  · simp [rules_of_not_hasHeader h, h]

end Sheet
end ArtifactRules
