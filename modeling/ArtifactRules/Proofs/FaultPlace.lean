import ArtifactRules.Proofs.Rows

/-! Where the error of a sheet lies. It is the header's if the header is not the expected one;
otherwise it is that of the first faulty row, in the first of its faulty columns to be judged, and
nothing that comes later has a part in it. -/

namespace ArtifactRules

def Column.turn (column : Column) : Nat :=
  judged.idxOf column

theorem Column.judged_pairwise_turn : judged.Pairwise fun c d => c.turn < d.turn := by
  decide

theorem Column.turn_le_outcome (column : Column) : column.turn ≤ Column.outcome.turn := by
  cases column <;> decide

theorem Cell.fault?_empty {column : Column} (h : column ≠ .outcome) :
    Cell.fault? "" column = none := by
  cases column with
  | outcome => exact absurd rfl h
  | _ => rfl

namespace Row

/-- The fault of the column, where no column that is judged earlier is at fault. -/
structure FirstFault (row : Row) (column : Column) (fault : CellFault) : Prop where
  fault_eq : Cell.fault? (row.normalized column) column = some fault
  earlier : ∀ c : Column, c.turn < column.turn → Cell.fault? (row.normalized c) c = none

variable {row : Row} {n : Nat} {column : Column} {fault : CellFault}

/-- The error of a row is its first fault. -/
theorem rule_eq_error_iff {e : RuleError} :
    row.rule n = .error e ↔
      ∃ column fault, row.FirstFault column fault ∧ e = .badCell n column fault := by
  rw [← Reading.fault?_eq_some_iff, fault?_rule, List.findSome?_eq_some_iff]
  constructor
  · rintro ⟨before, column, after, hjudged, hfault, hbefore⟩
    obtain ⟨fault, hcell, rfl⟩ := Option.map_eq_some_iff.1 hfault
    refine ⟨column, fault, ⟨hcell, ?_⟩, rfl⟩
    intro c hturn
    have hpairs := Column.judged_pairwise_turn
    have hc := c.mem_judged
    rw [hjudged] at hpairs hc
    have hafter := (List.pairwise_cons.1 (List.pairwise_append.1 hpairs).2.1).1
    rcases List.mem_append.1 hc with hc | hc
    · exact Option.map_eq_none_iff.1 (hbefore c hc)
    · rcases List.mem_cons.1 hc with rfl | hc
      · omega
      · have hlater := hafter c hc
        omega
  · rintro ⟨column, fault, h, rfl⟩
    obtain ⟨before, after, hjudged⟩ := List.append_of_mem column.mem_judged
    have hpairs := Column.judged_pairwise_turn
    rw [hjudged] at hpairs
    refine ⟨before, column, after, hjudged, by rw [faultAt?, h.fault_eq]; rfl, ?_⟩
    intro c hc
    have hturn := (List.pairwise_append.1 hpairs).2.2 c hc column (by simp)
    rw [faultAt?, h.earlier c hturn]
    rfl

theorem FirstFault.rule_eq (h : row.FirstFault column fault) (n : Nat) :
    row.rule n = .error (.badCell n column fault) :=
  rule_eq_error_iff.2 ⟨column, fault, h, rfl⟩

theorem exists_rule_or_firstFault (row : Row) (n : Nat) :
    (∃ rule, row.rule n = .ok rule) ∨ ∃ column fault, row.FirstFault column fault := by
  cases hrule : row.rule n with
  | ok rule => exact .inl ⟨rule, rfl⟩
  | error e =>
    obtain ⟨column, fault, hfault, -⟩ := rule_eq_error_iff.1 hrule
    exact .inr ⟨column, fault, hfault⟩

/-- Cells that keep a row from being blank are still there where the row agrees up to its fault. -/
theorem FirstFault.isBlank_eq_false {other : Row} (h : row.FirstFault column fault)
    (hblank : row.isBlank = false)
    (hcells : ∀ c : Column, c.turn ≤ column.turn → other.cell c = row.cell c) :
    other.isBlank = false := by
  apply Bool.eq_false_iff.2
  intro hother
  have hempty := (isBlank_iff other).1 hother
  have hcell : row.normalized column = "" := by
    rw [normalized, ← hcells column (Nat.le_refl _)]
    exact hempty column
  by_cases hcolumn : column = .outcome
  · subst hcolumn
    have hall : ∀ c : Column, row.normalized c = "" := by
      intro c
      rw [normalized, ← hcells c c.turn_le_outcome]
      exact hempty c
    rw [(isBlank_iff row).2 hall] at hblank
    cases hblank
  · have hnone := Cell.fault?_empty hcolumn
    rw [← hcell, h.fault_eq] at hnone
    cases hnone

/-- The cells of the later columns have no part in a first fault. -/
theorem FirstFault.congr {other : Row} (h : row.FirstFault column fault)
    (hcells : ∀ c : Column, c.turn ≤ column.turn → other.cell c = row.cell c) :
    other.FirstFault column fault where
  fault_eq := by
    rw [normalized, hcells column (Nat.le_refl _)]
    exact h.fault_eq
  earlier c hturn := by
    rw [normalized, hcells c (Nat.le_of_lt hturn)]
    exact h.earlier c hturn

end Row

namespace Sheet

/-- Of the data rows, the one at index `i` is the first that is not blank and not read. -/
structure FirstFault (rows : List Row) (n i : Nat) (column : Column) (fault : CellFault) :
    Prop where
  exists_row : ∃ row, rows[i]? = some row ∧ row.isBlank = false ∧ row.FirstFault column fault
  earlier : ∀ j < i, ∀ row, rows[j]? = some row → row.isBlank = false →
    ∃ rule, row.rule (n + j) = .ok rule

variable {rows : List Row} {row : Row} {n i : Nat} {column : Column} {fault : CellFault}

theorem firstFault_zero (hblank : row.isBlank = false) (h : row.FirstFault column fault) :
    FirstFault (row :: rows) n 0 column fault where
  exists_row := ⟨row, rfl, hblank, h⟩
  earlier _ hj := absurd hj (Nat.not_lt_zero _)

theorem firstFault_succ_iff :
    FirstFault (row :: rows) n (i + 1) column fault ↔
      (row.isBlank = false → ∃ rule, row.rule n = .ok rule) ∧
        FirstFault rows (n + 1) i column fault := by
  constructor
  · intro h
    refine ⟨h.earlier 0 (Nat.succ_pos i) row rfl, h.exists_row, ?_⟩
    intro j hj other hother
    have hrule := h.earlier (j + 1) (Nat.succ_lt_succ hj) other hother
    rwa [Nat.add_comm j 1, ← Nat.add_assoc] at hrule
  · rintro ⟨hfirst, h⟩
    refine ⟨h.exists_row, ?_⟩
    intro j hj other hother
    cases j with
    | zero =>
      obtain rfl : row = other := Option.some.inj hother
      exact hfirst
    | succ j =>
      have hrule := h.earlier j (Nat.lt_of_succ_lt_succ hj) other hother
      rwa [Nat.add_assoc, Nat.add_comm 1 j] at hrule

theorem rulesFrom_cons_eq_error_iff {e : RuleError}
    (h : row.isBlank = false → ∃ rule, row.rule n = .ok rule) :
    rulesFrom n (row :: rows) = .error e ↔ rulesFrom (n + 1) rows = .error e := by
  by_cases hblank : row.isBlank = true
  · rw [rulesFrom, if_pos hblank]
  · obtain ⟨rule, hrule⟩ := h (by simpa using hblank)
    rw [rulesFrom, if_neg hblank, hrule]
    cases rulesFrom (n + 1) rows <;> simp [bind, Except.bind, pure, Except.pure]

theorem FirstFault.rulesFrom_eq (h : FirstFault rows n i column fault) :
    rulesFrom n rows = .error (.badCell (n + i) column fault) := by
  induction rows generalizing n i with
  | nil =>
    obtain ⟨row, hrow, -⟩ := h.exists_row
    cases hrow
  | cons row rows ih =>
    cases i with
    | zero =>
      obtain ⟨other, hother, hblank, hfault⟩ := h.exists_row
      obtain rfl : row = other := Option.some.inj hother
      rw [rulesFrom, hblank, hfault.rule_eq n]
      rfl
    | succ i =>
      obtain ⟨hfirst, hrest⟩ := firstFault_succ_iff.1 h
      rw [rulesFrom_cons_eq_error_iff hfirst, ih hrest, Nat.add_assoc, Nat.add_comm 1 i]

theorem exists_firstFault {e : RuleError} (h : rulesFrom n rows = .error e) :
    ∃ i column fault, FirstFault rows n i column fault := by
  induction rows generalizing n with
  | nil => cases h
  | cons row rows ih =>
    by_cases hfirst : row.isBlank = false → ∃ rule, row.rule n = .ok rule
    · obtain ⟨i, column, fault, hrest⟩ := ih ((rulesFrom_cons_eq_error_iff hfirst).1 h)
      exact ⟨i + 1, column, fault, firstFault_succ_iff.2 ⟨hfirst, hrest⟩⟩
    · obtain ⟨hblank, hrejected⟩ := Classical.not_imp.1 hfirst
      rcases row.exists_rule_or_firstFault n with hrule | ⟨column, fault, hfault⟩
      · exact absurd hrule hrejected
      · exact ⟨0, column, fault, firstFault_zero hblank hfault⟩

/-- The row of a bad cell, taken alone, has the error of the sheet. -/
theorem exists_row_of_badCell {sheet : Sheet} {n : Nat}
    (h : sheet.rules = .error (.badCell n column fault)) :
    2 ≤ n ∧ ∃ row, sheet.rows[n - 1]? = some row ∧
      row.rule n = .error (.badCell n column fault) := by
  by_cases hheader : sheet.HasHeader
  · rw [rules_of_hasHeader hheader] at h
    obtain ⟨i, c, f, hfirst⟩ := exists_firstFault h
    have herror := hfirst.rulesFrom_eq
    rw [h] at herror
    obtain ⟨rfl, rfl, rfl⟩ := RuleError.badCell.inj (Except.error.inj herror)
    obtain ⟨row, hrow, -, hfault⟩ := hfirst.exists_row
    have hplace : firstDataRow + i - 1 = i + 1 := by
      simp only [firstDataRow]
      omega
    refine ⟨Nat.le_add_right 2 i, row, ?_, hfault.rule_eq _⟩
    rwa [hplace, ← List.getElem?_tail]
  · rw [rules_of_not_hasHeader hheader] at h
    cases h

/-- The same six cells in the data rows before index `i`, and in the row at `i` the same cells in
the columns that are judged no later than `column`. -/
def AgreeUpTo (i : Nat) (column : Column) (rows others : List Row) : Prop :=
  ∀ j ≤ i, ∀ row, rows[j]? = some row → ∃ other, others[j]? = some other ∧
    ∀ c : Column, j < i ∨ c.turn ≤ column.turn → other.cell c = row.cell c

theorem FirstFault.congr {others : List Row} (h : FirstFault rows n i column fault)
    (hagree : AgreeUpTo i column rows others) : FirstFault others n i column fault := by
  obtain ⟨row, hrow, hblank, hfault⟩ := h.exists_row
  constructor
  · obtain ⟨other, hother, hcells⟩ := hagree i (Nat.le_refl i) row hrow
    have hcells : ∀ c : Column, c.turn ≤ column.turn → other.cell c = row.cell c :=
      fun c hturn => hcells c (.inr hturn)
    exact ⟨other, hother, hfault.isBlank_eq_false hblank hcells, hfault.congr hcells⟩
  · intro j hj other hother hkept
    have hlength : i < rows.length := (List.getElem?_eq_some_iff.1 hrow).1
    have hbefore : rows[j]? = some rows[j] := List.getElem?_eq_getElem (by omega)
    obtain ⟨same, hsame, hcells⟩ := hagree j (Nat.le_of_lt hj) _ hbefore
    obtain rfl : same = other := Option.some.inj (hsame.symm.trans hother)
    have hcells : ∀ c : Column, same.normalized c = rows[j].normalized c :=
      fun c => congrArg Cell.normalize (hcells c (.inl hj))
    rw [Row.isBlank_congr hcells] at hkept
    rw [Row.rule_congr hcells]
    exact h.earlier j hj _ hbefore hkept

/-- Without the expected header the error is about the header, whatever the data rows are. With it,
the error is the first fault of the first faulty row, and cells that are judged later, later rows
and cells past the sixth do not bear on it. -/
theorem rules_eq_error {sheet : Sheet} {e : RuleError} (h : sheet.rules = .error e) :
    (¬ sheet.HasHeader →
      e = .badHeader ((sheet.rows.head?.map Row.headerTexts).getD []) ∧ e.place? = none ∧
        ∀ other : Sheet, other.rows.head? = sheet.rows.head? → other.rules = .error e) ∧
    (sheet.HasHeader →
      ∃ i column fault, FirstFault sheet.rows.tail 2 i column fault ∧
        e = .badCell (2 + i) column fault ∧ e.place? = some (2 + i, column) ∧
        ∀ other : Sheet, other.rows.head? = sheet.rows.head? →
          AgreeUpTo i column sheet.rows.tail other.rows.tail → other.rules = .error e) := by
  constructor
  · intro hheader
    have he := rules_of_not_hasHeader hheader
    rw [h] at he
    obtain rfl := Except.error.inj he
    refine ⟨rfl, rfl, ?_⟩
    intro other hother
    have hheader : ¬ other.HasHeader := by rwa [HasHeader, hother]
    rw [rules_of_not_hasHeader hheader, hother]
  · intro hheader
    rw [rules_of_hasHeader hheader] at h
    obtain ⟨i, column, fault, hfirst⟩ := exists_firstFault h
    have he := hfirst.rulesFrom_eq
    rw [h] at he
    obtain rfl := Except.error.inj he
    refine ⟨i, column, fault, hfirst, rfl, rfl, ?_⟩
    intro other hother hagree
    have hheader : other.HasHeader := by rwa [HasHeader, hother]
    rw [rules_of_hasHeader hheader, (hfirst.congr hagree).rulesFrom_eq]

/-- A blank row and a good row with a note, then a row at fault in its level, its tier and its
outcome, then another bad row. -/
def faultySheet : Sheet where
  name := "Active"
  rows :=
    [Column.labels.map some,
      [],
      [none, none, none, none, none, some "锁", some "元素伤害"],
      [some "时之沙", some ">abc", some "=5", none, none, none],
      [some "花"]]

theorem faultySheet_rules :
    faultySheet.rules = .error (.badCell 4 .tier (.badComparator "=")) ∧
      ∀ other : Sheet, other.rows.head? = faultySheet.rows.head? →
        AgreeUpTo 2 .tier faultySheet.rows.tail other.rows.tail →
          other.rules = .error (.badCell 4 .tier (.badComparator "=")) := by
  have hheader : faultySheet.HasHeader := ⟨_, rfl, rfl⟩
  have hfault : Row.FirstFault [some "时之沙", some ">abc", some "=5", none, none, none] .tier
      (.badComparator "=") := by
    refine ⟨rfl, ?_⟩
    intro c hturn
    cases c with
    | categories => rfl
    | _ => exact absurd hturn (by decide)
  have hfirst : FirstFault faultySheet.rows.tail 2 2 .tier (.badComparator "=") := by
    refine ⟨⟨_, rfl, by decide, hfault⟩, ?_⟩
    intro j hj row hrow hblank
    have hindex : j = 0 ∨ j = 1 := by omega
    rcases hindex with rfl | rfl
    · obtain rfl : [] = row := Option.some.inj hrow
      exact absurd hblank (by decide)
    · obtain rfl : [none, none, none, none, none, some "锁", some "元素伤害"] = row :=
        Option.some.inj hrow
      exact ⟨{ outcome := .keep, row := 3 }, rfl⟩
  have hrules : faultySheet.rules = .error (.badCell 4 .tier (.badComparator "=")) := by
    rw [rules_of_hasHeader hheader]
    exact hfirst.rulesFrom_eq
  refine ⟨hrules, ?_⟩
  obtain ⟨i, column, fault, -, he, -, hframe⟩ := (rules_eq_error hrules).2 hheader
  injection he with hrow hcolumn
  obtain rfl : i = 2 := by omega
  rwa [← hcolumn] at hframe

end Sheet
end ArtifactRules
