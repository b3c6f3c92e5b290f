import ArtifactRules.Judging
import ArtifactRules.Proofs.CellDecision

/-! The sheet that holds the rules. An only sheet is taken under any name; of several, the first
under the active name is. What is loaded depends on the rows of that sheet and on nothing else in
the workbook. -/

namespace ArtifactRules

theorem Sheet.rules_eq_of_rows_eq {sheet other : Sheet} (h : other.rows = sheet.rows) :
    other.rules = sheet.rules := by
  rw [rules, rules, h]

namespace Workbook

/-- What the choice among the sheets has to come to. -/
inductive Selects (active : String) : List Sheet → Except RuleError Sheet → Prop
  | nothing : Selects active [] (.error .noSheets)
  | only (sheet : Sheet) : Selects active [sheet] (.ok sheet)
  /-- Other sheets, before it or after it, make the name count. -/
  | first {before after : List Sheet} {sheet : Sheet} : before ++ after ≠ [] →
      sheet.name = active → (∀ earlier ∈ before, earlier.name ≠ active) →
      Selects active (before ++ sheet :: after) (.ok sheet)
  | missing {sheets : List Sheet} : 2 ≤ sheets.length → (∀ sheet ∈ sheets, sheet.name ≠ active) →
      Selects active sheets (.error (.missingSheet active (sheets.map Sheet.name)))

variable {workbook other : Workbook} {active otherActive : String} {sheet otherSheet : Sheet}

theorem select_of_several (h : 2 ≤ workbook.sheets.length) (active : String) :
    workbook.select active =
      match workbook.sheets.find? (·.name == active) with
      | some sheet => .ok sheet
      | none => .error (.missingSheet active (workbook.sheets.map Sheet.name)) := by
  obtain ⟨sheets⟩ := workbook
  cases sheets with
  | nil => simp at h
  | cons sheet sheets =>
    cases sheets with
    | nil => simp at h
    | cons next sheets => rfl

theorem select_of_first {before after : List Sheet} (h : 2 ≤ workbook.sheets.length)
    (hsheets : workbook.sheets = before ++ sheet :: after) (hname : sheet.name = active)
    (hbefore : ∀ earlier ∈ before, earlier.name ≠ active) :
    workbook.select active = .ok sheet := by
  have hfind : workbook.sheets.find? (·.name == active) = some sheet := by
    rw [List.find?_eq_some_iff_append]
    exact ⟨by simpa using hname, before, after, hsheets, by simpa using hbefore⟩
  rw [select_of_several h, hfind]

theorem select_of_missing (h : 2 ≤ workbook.sheets.length)
    (hnames : ∀ sheet ∈ workbook.sheets, sheet.name ≠ active) :
    workbook.select active =
      .error (.missingSheet active (workbook.sheets.map Sheet.name)) := by
  have hfind : workbook.sheets.find? (·.name == active) = none := by
    rw [List.find?_eq_none]
    simpa using hnames
  rw [select_of_several h, hfind]

theorem length_of_others {before after : List Sheet} (h : before ++ after ≠ []) (sheet : Sheet) :
    2 ≤ (before ++ sheet :: after).length := by
  have hlength := List.length_pos_iff.2 h
  simp only [List.length_append, List.length_cons] at hlength ⊢
  omega

theorem Selects.select_eq {result : Except RuleError Sheet}
    (h : Selects active workbook.sheets result) : workbook.select active = result := by
  obtain ⟨sheets⟩ := workbook
  cases h with
  | nothing => rfl
  | only sheet => rfl
  | first hothers hname hbefore =>
    exact select_of_first (length_of_others hothers _) rfl hname hbefore
  | missing hlength hnames => exact select_of_missing hlength hnames

/-- A choice is made among any sheets. -/
theorem selects_select (workbook : Workbook) (active : String) :
    Selects active workbook.sheets (workbook.select active) := by
  obtain ⟨sheets⟩ := workbook
  by_cases hlength : 2 ≤ sheets.length
  · by_cases hnames : ∀ sheet ∈ sheets, sheet.name ≠ active
    · rw [select_of_missing hlength hnames]
      exact .missing hlength hnames
    · have hfound : ∃ sheet ∈ sheets, (sheet.name == active) = true := by
        simpa using hnames
      obtain ⟨sheet, hsheet⟩ := Option.isSome_iff_exists.1 (List.find?_isSome.2 hfound)
      obtain ⟨hname, before, after, rfl, hbefore⟩ := List.find?_eq_some_iff_append.1 hsheet
      have hname : sheet.name = active := by simpa using hname
      have hbefore : ∀ earlier ∈ before, earlier.name ≠ active := by simpa using hbefore
      rw [select_of_first hlength rfl hname hbefore]
      refine .first ?_ hname hbefore
      intro hothers
      simp only [List.append_eq_nil_iff] at hothers
      simp [hothers] at hlength
  · cases sheets with
    | nil => exact .nothing
    | cons sheet sheets =>
      obtain rfl : sheets = [] := by
        simpa [Nat.not_le] using hlength
      exact .only sheet

theorem select_eq_iff {result : Except RuleError Sheet} :
    workbook.select active = result ↔ Selects active workbook.sheets result := by
  constructor
  · rintro rfl
    exact selects_select workbook active
  · exact Selects.select_eq

theorem select_eq_noSheets_iff :
    workbook.select active = .error .noSheets ↔ workbook.sheets = [] := by
  rw [select_eq_iff]
  constructor
  · intro h
    generalize workbook.sheets = sheets at h
    cases h
    rfl
  · intro h
    rw [h]
    exact .nothing

theorem result_load_of_select (h : workbook.select active = .ok sheet) :
    (workbook.load active).result = sheet.rules.mapError .rules := by
  rw [load, rules, h]
  rfl

/-- Selection follows the order and the names of the sheets, and two workbooks whose selected sheets
have the same rows are loaded alike, whatever else they hold. -/
theorem select_exact (workbook : Workbook) (active : String) :
    (∀ result, workbook.select active = result ↔ Selects active workbook.sheets result) ∧
      (workbook.select active = .error .noSheets ↔ workbook.sheets = []) ∧
      ∀ (other : Workbook) (otherActive : String) (sheet otherSheet : Sheet),
        workbook.select active = .ok sheet → other.select otherActive = .ok otherSheet →
        otherSheet.rows = sheet.rows →
          (other.load otherActive).result = (workbook.load active).result := by
  refine ⟨fun _ => select_eq_iff, select_eq_noSheets_iff, ?_⟩
  intro other otherActive sheet otherSheet hselect hother hrows
  rw [result_load_of_select hselect, result_load_of_select hother,
    Sheet.rules_eq_of_rows_eq hrows]

def repeatedNames : Workbook :=
  ⟨[⟨"active", [[some "x"]]⟩, Sheet.twoRuleSheet, ⟨"Active", []⟩]⟩

def onlySheet : Workbook :=
  ⟨[{ Sheet.twoRuleSheet with name := "Draft" }]⟩

theorem repeatedNames_select_exact :
    repeatedNames.select "Active" = .ok Sheet.twoRuleSheet ∧
      repeatedNames.select "ACTIVE" =
        .error (.missingSheet "ACTIVE" ["active", "Active", "Active"]) ∧
      (onlySheet.load "Main").result = (repeatedNames.load "Active").result := by
  obtain ⟨hactive, -, hisolates⟩ := select_exact repeatedNames "Active"
  obtain ⟨hupper, -, -⟩ := select_exact repeatedNames "ACTIVE"
  have hfirst : Selects "Active"
      ([⟨"active", [[some "x"]]⟩] ++ Sheet.twoRuleSheet :: [⟨"Active", []⟩])
      (.ok Sheet.twoRuleSheet) := .first (by decide) rfl (by decide)
  have hselect := (hactive _).2 hfirst
  exact ⟨hselect, (hupper _).2 (.missing (by decide) (by decide)),
    hisolates onlySheet "Main" _ _ hselect rfl rfl⟩

end Workbook
end ArtifactRules
