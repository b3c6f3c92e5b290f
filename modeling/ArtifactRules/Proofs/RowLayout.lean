import Mathlib.Data.List.DropRight
import Mathlib.Data.List.Induction
import ArtifactRules.Proofs.Rows
import ArtifactRules.Proofs.Texts

/-! Layout that does not count. Of a header the texts count, without the blanks around them and
without the empty ones at the end; of a data row the first six cells, without any blank and with
either width of comma. Sheets that agree in these have the same rules or the same error. The texts
that a header is judged by tell all that is ever read of a row. -/

namespace ArtifactRules

theorem Cell.normalize_trim (s : String) : normalize (Text.trim s) = normalize s := by
  rw [normalize, normalize, normalizeChars, normalizeChars, Text.filter_trim]

namespace Row

theorem headerTexts_eq (row : Row) :
    row.headerTexts = ((row.map fun cell => cell.getD "").map Text.trim).rdropWhile (· == "") := by
  rw [List.map_map]
  rfl

theorem getElem?_rdropWhile_getD (texts : List String) (i : Nat) :
    (texts.rdropWhile (· == ""))[i]?.getD "" = texts[i]?.getD "" := by
  induction texts using List.reverseRecOn with
  | nil => rfl
  | append_singleton texts text ih =>
    by_cases htext : text = ""
    · subst htext
      rw [List.rdropWhile_concat_pos _ _ _ (by simp), ih]
      rcases Nat.lt_trichotomy i texts.length with hi | rfl | hi
      · rw [List.getElem?_append_left hi]
      · simp
      · rw [List.getElem?_eq_none (by omega), List.getElem?_eq_none (by simp; omega)]
    · rw [List.rdropWhile_concat_neg _ _ _ (by simpa using htext)]

theorem normalized_eq_headerTexts (row : Row) (column : Column) :
    row.normalized column = Cell.normalize (row.headerTexts[column.index]?.getD "") := by
  have hcell : ((row.map fun cell => cell.getD "").map Text.trim)[column.index]?.getD "" =
      Text.trim (row.cell column) := by
    rw [cell, List.getElem?_map, List.getElem?_map]
    cases row[column.index]? with
    | none => rfl
    | some cell => cases cell <;> rfl
  rw [headerTexts_eq, getElem?_rdropWhile_getD, hcell, Cell.normalize_trim, normalized]

theorem normalized_congr {row other : Row} (h : other.headerTexts = row.headerTexts)
    (column : Column) : other.normalized column = row.normalized column := by
  rw [normalized_eq_headerTexts, h, ← normalized_eq_headerTexts]

end Row

namespace Sheet

theorem readAlike_of_headerTexts {rows others : List Row}
    (h : others.map Row.headerTexts = rows.map Row.headerTexts) : ReadAlike rows others := by
  intro i
  apply Row.normalized_congr
  have hplace : others[i]?.map Row.headerTexts = rows[i]?.map Row.headerTexts := by
    rw [← List.getElem?_map, h, List.getElem?_map]
  have hform : ∀ list : List Row,
      (rowAt list i).headerTexts = (list[i]?.map Row.headerTexts).getD [] := by
    intro list
    rw [rowAt]
    cases list[i]? <;> rfl
  rw [hform, hplace, ← hform]

theorem rules_eq_of_readAlike {sheet other : Sheet} {header first : Row} {data rest : List Row}
    (hrows : sheet.rows = header :: data) (hothers : other.rows = first :: rest)
    (hheader : first.headerTexts = header.headerTexts) (hdata : ReadAlike data rest) :
    other.rules = sheet.rules := by
  simp only [rules, hrows, hothers, Row.checkHeader, hheader, hdata.rulesFrom_eq]

theorem rules_congr {sheet other : Sheet}
    (h : other.rows.map Row.headerTexts = sheet.rows.map Row.headerTexts) :
    other.rules = sheet.rules := by
  cases hrows : sheet.rows with
  | nil =>
    have hother : other.rows = [] := by simpa [hrows] using h
    simp only [rules, hrows, hother]
  | cons header data =>
    cases hothers : other.rows with
    | nil => simp [hrows, hothers] at h
    | cons first rest =>
      rw [hrows, hothers, List.map_cons, List.map_cons, List.cons.injEq] at h
      obtain ⟨hheader, hdata⟩ := h
      exact rules_eq_of_readAlike hrows hothers hheader (readAlike_of_headerTexts hdata)

end Sheet

/-- A text without its blanks, each full-width comma in it a plain one. -/
def Cell.bare (text : String) : List Char :=
  text.toList.filterMap fun c => if Text.isBlank c then none else some (if c = '，' then ',' else c)

theorem Cell.normalize_eq_bare (text : String) : normalize text = String.ofList (bare text) := by
  rw [normalize, normalizeChars, bare, ← List.filterMap_eq_map, List.filterMap_filter]
  congr 2
  funext c
  cases Text.isBlank c <;> rfl

def Text.stripped (text : String) : List Char :=
  (text.toList.dropWhile isBlank).rdropWhile isBlank

theorem Column.index_lt (column : Column) : column.index < 6 := by
  cases column <;> decide

namespace Row

/-- The cell at a place counted from zero; a missing one is empty. -/
def textAt (row : Row) (i : Nat) : String :=
  (row[i]?.getD none).getD ""

def dataForm (row : Row) : List (List Char) :=
  (List.range 6).map fun i => Cell.bare (row.textAt i)

def headerForm (row : Row) : List (List Char) :=
  (row.map fun cell => Text.stripped (cell.getD "")).rdropWhile List.isEmpty

theorem cell_eq_textAt (row : Row) (column : Column) : row.cell column = row.textAt column.index := by
  rw [cell, textAt]
  cases row[column.index]? <;> rfl

theorem normalized_congr_dataForm {row other : Row} (h : other.dataForm = row.dataForm)
    (column : Column) : other.normalized column = row.normalized column := by
  have hbare := List.map_inj_left.1 h column.index (List.mem_range.2 column.index_lt)
  simp only [normalized, cell_eq_textAt, Cell.normalize_eq_bare, hbare]

theorem headerTexts_eq_headerForm (row : Row) :
    row.headerTexts = row.headerForm.map String.ofList := by
  have hempty : ((· == "") : String → Bool) ∘ String.ofList = List.isEmpty := by
    funext cs
    cases cs <;> simp
  rw [headerForm, headerTexts, List.rdropWhile, List.map_reverse, ← hempty, ← List.dropWhile_map,
    List.map_reverse, List.map_map]
  rfl

end Row

namespace Sheet

/-- The first rows agree as headers, and every further place has rows that agree as data rows, where
the shorter sheet counts as continued by rows without cells. -/
structure SameLayout (sheet other : Sheet) : Prop where
  header : ∃ first ∈ sheet.rows.head?, ∃ second ∈ other.rows.head?,
    second.headerForm = first.headerForm
  data : ∀ i, (rowAt other.rows.tail i).dataForm = (rowAt sheet.rows.tail i).dataForm

/-- Layout does not matter: sheets of the same layout have the same rules or the same error. -/
theorem rules_eq_of_sameLayout {sheet other : Sheet} (h : sheet.SameLayout other) :
    other.rules = sheet.rules := by
  obtain ⟨first, hfirst, second, hsecond, hheader⟩ := h.header
  obtain ⟨data, hrows⟩ := List.head?_eq_some_iff.1 hfirst
  obtain ⟨rest, hothers⟩ := List.head?_eq_some_iff.1 hsecond
  have htexts : second.headerTexts = first.headerTexts := by
    rw [Row.headerTexts_eq_headerForm, hheader, ← Row.headerTexts_eq_headerForm]
  have hdata : ReadAlike data rest := by
    intro i
    have hform := h.data i
    rw [hrows, hothers] at hform
    exact Row.normalized_congr_dataForm hform
  exact rules_eq_of_readAlike hrows hothers htexts hdata

/-- Blanks around two labels, empty cells after the last, blanks and a full-width comma in the cells,
a note in a seventh cell, and a blank row at the end. -/
def looseSheet : Sheet where
  name := "Active"
  rows :=
    [[some " 圣遗物类型条件", some "等级条件", some "星级条件\u3000", some "主词条条件", some "副词条条件",
        some "期望结果", none, some " "],
      [some "时之沙， 空之杯", some "> = 4", none, none, none, some "锁", some "元素伤害"],
      [none, some " "]]

def tightSheet : Sheet where
  name := "Rules"
  rows :=
    [Column.labels.map some,
      [some "时之沙,空之杯", some ">=4", some "", some "", some "", some "锁"]]

theorem looseSheet_sameLayout :
    looseSheet.SameLayout tightSheet ∧ tightSheet.rules = looseSheet.rules ∧
      looseSheet.rules = .error (.badCell 2 .level (.badComparator ">=")) := by
  have hlayout : looseSheet.SameLayout tightSheet := by
    refine ⟨⟨_, rfl, _, rfl, by decide⟩, ?_⟩
    intro i
    match i with
    | 0 => decide
    | 1 => decide
    | i + 2 => rfl
  exact ⟨hlayout, rules_eq_of_sameLayout hlayout, rfl⟩

end Sheet
end ArtifactRules
