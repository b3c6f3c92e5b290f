import ArtifactRules.Proofs.FaultPlace
import ArtifactRules.Proofs.LoadedRules
import ArtifactRules.Proofs.Places
import ArtifactRules.Proofs.RowLayout
import ArtifactRules.Proofs.WrittenDocuments

/-! One sheet in three forms. Rows that are kept in memory, in a JSON workbook or as tab-separated
text give the same rules or the same error, and what is loaded from tab-separated text counts the
lines of the text. A JSON workbook is read from its file as it was written there. -/

namespace ArtifactRules

theorem Row.map_getD_ofTexts (texts : List String) :
    ((ofTexts texts).map fun cell => cell.getD "") = texts := by
  rw [ofTexts, List.map_map]
  apply List.map_id''
  intro text
  by_cases htext : text = "" <;> simp [htext]

namespace Tabbed

theorem headerTexts_rowOfLine (line : List Char) :
    (rowOfLine line).headerTexts =
      (((Text.fieldChars tab line).map String.ofList).map Text.trim).rdropWhile (· == "") := by
  rw [Row.headerTexts_eq, rowOfLine, Row.map_getD_ofTexts]

theorem headerTexts_rowOfLine_concat (line : List Char) :
    (rowOfLine (line ++ ['\r'])).headerTexts = (rowOfLine line).headerTexts := by
  obtain ⟨fields, last, hfields, hconcat⟩ :=
    Text.exists_fieldChars_concat (show '\r' ≠ tab by decide) line
  simp only [headerTexts_rowOfLine, hfields, hconcat, List.map_append, List.map_singleton,
    Text.trim_concat (show Text.isBlank '\r' = true by decide)]

theorem headerTexts_rowOfLine_dropReturn (line : List Char) :
    (rowOfLine (dropReturn line)).headerTexts = (rowOfLine line).headerTexts := by
  rw [dropReturn]
  split
  · rename_i hlast
    obtain ⟨front, rfl⟩ := List.getLast?_eq_some_iff.1 hlast
    rw [List.dropLast_concat, headerTexts_rowOfLine_concat]
  · rfl

inductive LineEnd
  | feed | returnFeed
  deriving DecidableEq, Repr

def LineEnd.beforeFeed : LineEnd → List Char
  | feed => []
  | returnFeed => ['\r']

/-- The cells of a row with tabs between them; nothing is written for a cell that is missing. -/
def lineOfRow (row : Row) : List Char :=
  (Text.join "\t" (row.map fun cell => cell.getD "")).toList

def linesOfRows (entries : List (Row × LineEnd)) : List Char :=
  entries.flatMap fun entry => lineOfRow entry.1 ++ entry.2.beforeFeed ++ ['\n']

/-- The text of a file of the rows, with a byte order mark or without one. -/
def written (marked : Bool) (entries : List (Row × LineEnd)) : String :=
  String.ofList ((if marked then [byteOrderMark] else []) ++ linesOfRows entries)

/-- The cell can be written: nothing in it separates cells or lines. -/
def IsField (text : String) : Prop :=
  tab ∉ text.toList ∧ '\n' ∉ text.toList

theorem isField_of_mem_row {row : Row} (h : ∀ text, some text ∈ row → IsField text) :
    ∀ text ∈ row.map fun cell => cell.getD "", IsField text := by
  intro text htext
  obtain ⟨cell, hcell, rfl⟩ := List.mem_map.1 htext
  cases cell with
  | none => exact ⟨List.not_mem_nil, List.not_mem_nil⟩
  | some text => exact h text hcell

theorem fieldChars_lineOfRow {row : Row} (hrow : row ≠ [])
    (h : ∀ text, some text ∈ row → IsField text) :
    (Text.fieldChars tab (lineOfRow row)).map String.ofList = row.map fun cell => cell.getD "" := by
  have hfields : Text.fields tab (String.ofList (lineOfRow row)) =
      row.map fun cell => cell.getD "" := by
    rw [lineOfRow, String.ofList_toList]
    refine Text.fields_join (by simpa using hrow) ?_
    exact fun text htext => (isField_of_mem_row h text htext).1
  rwa [Text.fields, String.toList_ofList] at hfields

theorem headerTexts_rowOfLine_lineOfRow {row : Row} (h : ∀ text, some text ∈ row → IsField text) :
    (rowOfLine (lineOfRow row)).headerTexts = row.headerTexts := by
  by_cases hrow : row = []
  · subst hrow
    rfl
  · rw [headerTexts_rowOfLine, fieldChars_lineOfRow hrow h, Row.headerTexts_eq]

theorem headerTexts_rowOfLine_append_beforeFeed (line : List Char) (ending : LineEnd) :
    (rowOfLine (line ++ ending.beforeFeed)).headerTexts = (rowOfLine line).headerTexts := by
  cases ending with
  | feed => rw [LineEnd.beforeFeed, List.append_nil]
  | returnFeed => exact headerTexts_rowOfLine_concat line

theorem feed_notMem_lineOfRow {row : Row} (h : ∀ text, some text ∈ row → IsField text) :
    '\n' ∉ lineOfRow row := by
  intro hfeed
  rcases Cell.mem_join hfeed with htab | ⟨text, htext, hmem⟩
  · exact absurd htab (by decide)
  · exact (isField_of_mem_row h text htext).2 hmem

theorem fieldChars_linesOfRows {entries : List (Row × LineEnd)}
    (h : ∀ entry ∈ entries, ∀ text, some text ∈ entry.1 → IsField text) :
    Text.fieldChars '\n' (linesOfRows entries) =
      (entries.map fun entry => lineOfRow entry.1 ++ entry.2.beforeFeed) ++ [[]] := by
  induction entries with
  | nil => rfl
  | cons entry entries ih =>
    have hline : '\n' ∉ lineOfRow entry.1 ++ entry.2.beforeFeed := by
      rw [List.mem_append, not_or]
      refine ⟨feed_notMem_lineOfRow (h entry (by simp)), ?_⟩
      cases entry.2 <;> decide
    have hrest := ih fun other hother => h other (by simp [hother])
    rw [linesOfRows, List.flatMap_cons, List.append_assoc, List.singleton_append,
      Text.fieldChars_append_cons hline, ← linesOfRows, hrest]
    rfl

theorem lines_linesOfRows {entries : List (Row × LineEnd)}
    (h : ∀ entry ∈ entries, ∀ text, some text ∈ entry.1 → IsField text) :
    lines (linesOfRows entries) =
      entries.map fun entry => dropReturn (lineOfRow entry.1 ++ entry.2.beforeFeed) := by
  simp [lines, fieldChars_linesOfRows h, Function.comp_def]

theorem map_headerTexts_rows_linesOfRows {entries : List (Row × LineEnd)}
    (h : ∀ entry ∈ entries, ∀ text, some text ∈ entry.1 → IsField text) :
    (rows (String.ofList (linesOfRows entries))).map Row.headerTexts =
      (entries.map Prod.fst).map Row.headerTexts := by
  rw [rows, String.toList_ofList, lines_linesOfRows h, List.map_map, List.map_map, List.map_map]
  apply List.map_congr_left
  intro entry hentry
  simp only [Function.comp_apply]
  rw [headerTexts_rowOfLine_dropReturn, headerTexts_rowOfLine_append_beforeFeed,
    headerTexts_rowOfLine_lineOfRow (h entry hentry)]

/-- The first cell does not begin like a marked file. -/
def StartsUnmarked (rows : List Row) : Prop :=
  ∀ row ∈ rows.head?, ∀ text, row.head? = some (some text) →
    text.toList.head? ≠ some byteOrderMark

theorem head?_lineOfRow_ne {row : Row}
    (h : ∀ text, row.head? = some (some text) → text.toList.head? ≠ some byteOrderMark) :
    (lineOfRow row).head? ≠ some byteOrderMark := by
  cases row with
  | nil => simp [lineOfRow, Text.join]
  | cons cell cells =>
    have hfirst : (cell.getD "").toList.head? ≠ some byteOrderMark := by
      cases cell with
      | none => simp
      | some text => exact h text rfl
    cases cells with
    | nil => exact hfirst
    | cons next cells =>
      rw [lineOfRow, List.map_cons, List.map_cons, Text.join, String.toList_append,
        String.toList_append]
      · cases hchars : (cell.getD "").toList with
        | nil => simp [byteOrderMark]
        | cons c cs => simpa [hchars] using hfirst
      · simp

/-- One mark goes, and there is none in the first cell that could be taken for it. -/
theorem dropMark_written {entries : List (Row × LineEnd)}
    (h : StartsUnmarked (entries.map Prod.fst)) (marked : Bool) :
    dropMark (written marked entries).toList = linesOfRows entries := by
  have hhead : (linesOfRows entries).head? ≠ some byteOrderMark := by
    cases entries with
    | nil => simp [linesOfRows]
    | cons entry entries =>
      have hline := head?_lineOfRow_ne (h entry.1 (by simp))
      rw [linesOfRows, List.flatMap_cons]
      cases hchars : lineOfRow entry.1 with
      | nil => cases entry.2 <;> simp [LineEnd.beforeFeed, byteOrderMark]
      | cons c cs => simpa [hchars] using hline
  rw [written, String.toList_ofList]
  cases marked with
  | true => simp [dropMark]
  | false =>
    cases hchars : linesOfRows entries with
    | nil => rfl
    | cons c cs =>
      have hc : c ≠ byteOrderMark := by simpa [hchars] using hhead
      simp [dropMark, hc]

theorem exists_of_getElem?_map_dropReturn {fields : List (List Char)} {line : List Char} {i : Nat}
    (h : (fields.map dropReturn)[i]? = some line) :
    ∃ field, fields[i]? = some field ∧
      (rowOfLine line).headerTexts = (rowOfLine field).headerTexts := by
  rw [List.getElem?_map, Option.map_eq_some_iff] at h
  obtain ⟨field, hfield, rfl⟩ := h
  exact ⟨field, hfield, headerTexts_rowOfLine_dropReturn field⟩

theorem exists_field_of_line {cs line : List Char} {i : Nat} (h : (lines cs)[i]? = some line) :
    ∃ field, (Text.fieldChars '\n' cs)[i]? = some field ∧
      (rowOfLine line).headerTexts = (rowOfLine field).headerTexts := by
  cases hlast : (Text.fieldChars '\n' cs).getLast? with
  | none => simp [lines, hlast] at h
  | some last =>
    obtain ⟨fields, hfields⟩ := List.getLast?_eq_some_iff.1 hlast
    have hkept : ∀ field, fields[i]? = some field →
        (Text.fieldChars '\n' cs)[i]? = some field := by
      intro field hfield
      rw [hfields, List.getElem?_append_left (List.getElem?_eq_some_iff.1 hfield).1, hfield]
    cases last with
    | nil =>
      simp only [lines, hfields, List.getLast?_concat, List.dropLast_concat] at h
      obtain ⟨field, hfield, htexts⟩ := exists_of_getElem?_map_dropReturn h
      exact ⟨field, hkept field hfield, htexts⟩
    | cons c rest =>
      simp only [lines, hfields, List.getLast?_concat, List.dropLast_concat] at h
      by_cases hi : i < fields.length
      · rw [List.getElem?_append_left (by simpa using hi)] at h
        obtain ⟨field, hfield, htexts⟩ := exists_of_getElem?_map_dropReturn h
        exact ⟨field, hkept field hfield, htexts⟩
      · rw [List.getElem?_append_right (by simpa using hi), List.length_map] at h
        refine ⟨line, ?_, rfl⟩
        rw [hfields, List.getElem?_append_right (by omega), h]

theorem getElem?_tail_dropMark {cs : List Char} {i : Nat} (hi : 1 ≤ i) :
    (Text.fieldChars '\n' (dropMark cs))[i]? = (Text.fieldChars '\n' cs)[i]? := by
  cases cs with
  | nil => rfl
  | cons c cs =>
    rw [dropMark]
    split
    · rename_i hc
      have hne : c ≠ '\n' := by
        rw [hc]
        decide
      obtain ⟨j, rfl⟩ := Nat.exists_eq_add_of_le' hi
      rw [← List.getElem?_tail, ← List.getElem?_tail, Text.tail_fieldChars_cons hne]
    · rfl

theorem exists_line_of_row {name content : String} {n : Nat} {row : Row} (hn : 2 ≤ n)
    (h : (sheet name content).rows[n - 1]? = some row) :
    ∃ line, (Text.fields '\n' content)[n - 1]? = some line ∧
      ∀ column, (rowOfLine line.toList).normalized column = row.normalized column := by
  rw [sheet, rows, String.toList_ofList, List.getElem?_map, Option.map_eq_some_iff] at h
  obtain ⟨line, hline, rfl⟩ := h
  obtain ⟨field, hfield, htexts⟩ := exists_field_of_line hline
  rw [getElem?_tail_dropMark (by omega)] at hfield
  refine ⟨String.ofList field, ?_, ?_⟩
  · rw [Text.fields, List.getElem?_map, hfield]
    rfl
  · intro column
    rw [String.toList_ofList]
    exact Row.normalized_congr htexts.symm column

/-- A row number in what is loaded from the text is the number of a line, which by itself is read as
that rule or has that error. -/
structure CountsLines (content : String) (result : Except Failure RuleSet) : Prop where
  rule_line : ∀ rules, result = .ok rules → ∀ rule ∈ rules,
    2 ≤ rule.row ∧ ∃ line, (Text.fields '\n' content)[rule.row - 1]? = some line ∧
      (rowOfLine line.toList).rule rule.row = .ok rule
  fault_line : ∀ n column fault, result = .error (.rules (.badCell n column fault)) →
    2 ≤ n ∧ ∃ line, (Text.fields '\n' content)[n - 1]? = some line ∧
      (rowOfLine line.toList).rule n = .error (.badCell n column fault)

theorem countsLines_sheet (name content : String) :
    CountsLines content ((sheet name content).rules.mapError .rules) where
  rule_line rules hrules rule hrule := by
    rw [Reading.mapError_eq_ok_iff] at hrules
    obtain ⟨row, hrow, hread⟩ := Sheet.exists_row_of_mem_rules hrules hrule
    obtain ⟨hlow, -⟩ := Sheet.row_bounds_of_mem_rules hrules hrule
    obtain ⟨line, hline, hcells⟩ := exists_line_of_row hlow hrow
    exact ⟨hlow, line, hline, (Row.rule_congr hcells _).trans hread⟩
  fault_line n column fault hfault := by
    cases hrules : (sheet name content).rules with
    | ok rules =>
      rw [hrules] at hfault
      cases hfault
    | error e =>
      rw [hrules] at hfault
      cases hfault
      obtain ⟨hlow, row, hrow, hread⟩ := Sheet.exists_row_of_badCell hrules
      obtain ⟨line, hline, hcells⟩ := exists_line_of_row hlow hrow
      exact ⟨hlow, line, hline, (Row.rule_congr hcells _).trans hread⟩

end Tabbed

namespace Workbook

theorem loadFrom_single (sheet : Sheet) (active : String) :
    loadFrom (.ok ⟨[sheet]⟩) active = sheet.rules.mapError .rules := rfl

theorem loadFrom_congr {sheet other : Sheet}
    (h : other.rows.map Row.headerTexts = sheet.rows.map Row.headerTexts) (active : String) :
    loadFrom (.ok ⟨[other]⟩) active = loadFrom (.ok ⟨[sheet]⟩) active := by
  rw [loadFrom_single, loadFrom_single, Sheet.rules_congr h]

end Workbook

namespace FileTree

variable {tree : FileTree} {path : Path}

theorem workbookIn_json {workbook : Workbook} (h : tree.read path = .ok workbook.render) :
    tree.workbookIn .json path = .ok workbook := by
  simp only [workbookIn, readFile, h, Workbook.Format.decode, Except.mapError,
    Reading.bind_eq_ok_iff, Except.ok.injEq, exists_eq_left', Workbook.decode_render]

theorem workbookIn_tabbed {content : String} (h : tree.read path = .ok content) :
    tree.workbookIn .tabbed path = .ok ⟨[Tabbed.sheet path.stem content]⟩ := by
  simp only [workbookIn, readFile, h, Workbook.Format.decode]
  rfl

end FileTree

namespace Workbook

/-- A workbook comes back from its text with all its sheets, rows and cells, and so it does from the
file that the text is written to. -/
theorem decode_written (workbook : Workbook) :
    decode workbook.render = .ok workbook ∧
      (∀ spacing : Json.Spacing, decode (workbook.toDocument.renderIn spacing) = .ok workbook) ∧
      ∀ (tree after : FileTree) (path : Path), tree.write path workbook.render = .ok after →
        after.workbookIn .json path = .ok workbook := by
  refine ⟨workbook.decode_render, workbook.reads.decode_renderIn, ?_⟩
  intro tree after path hwrite
  exact FileTree.workbookIn_json (FileTree.read_of_write hwrite)

def unevenWorkbook : Workbook :=
  ⟨[⟨"", []⟩, ⟨"\"\\\x01\n😀", [[], [none], [some "", none, some "null"]]⟩, ⟨"", [[]]⟩]⟩

theorem unevenWorkbook_decode_written :
    ∃ after, FileTree.write {} ⟨"w.json"⟩ unevenWorkbook.render = .ok after ∧
      after.workbookIn .json ⟨"w.json"⟩ = .ok unevenWorkbook := by
  obtain ⟨-, -, hfile⟩ := decode_written unevenWorkbook
  exact ⟨_, rfl, hfile {} _ ⟨"w.json"⟩ rfl⟩

/-- Rows in memory, in a JSON workbook and in a tab-separated text are loaded alike, whatever the
names of their sheets, and what is loaded from any tab-separated text counts its lines. -/
theorem loadFrom_workbookIn {tree : FileTree} {jsonPath tabbedPath : Path} {marked : Bool}
    {entries : List (Row × Tabbed.LineEnd)} {inMemory inFile : Sheet}
    (hfields : ∀ entry ∈ entries, ∀ text, some text ∈ entry.1 → Tabbed.IsField text)
    (hfirst : Tabbed.StartsUnmarked (entries.map Prod.fst))
    (hmemory : inMemory.rows = entries.map Prod.fst) (hfile : inFile.rows = entries.map Prod.fst)
    (hjson : tree.read jsonPath = .ok (render ⟨[inFile]⟩))
    (htabbed : tree.read tabbedPath = .ok (Tabbed.written marked entries)) (active : String) :
    loadFrom (tree.workbookIn .json jsonPath) active = loadFrom (.ok ⟨[inMemory]⟩) active ∧
      loadFrom (tree.workbookIn .tabbed tabbedPath) active = loadFrom (.ok ⟨[inMemory]⟩) active ∧
      ∀ (path : Path) (content : String), tree.read path = .ok content →
        Tabbed.CountsLines content (loadFrom (tree.workbookIn .tabbed path) active) := by
  refine ⟨?_, ?_, ?_⟩
  · rw [FileTree.workbookIn_json hjson]
    apply loadFrom_congr
    rw [hmemory, hfile]
  · rw [FileTree.workbookIn_tabbed htabbed]
    apply loadFrom_congr
    rw [hmemory, Tabbed.sheet, Tabbed.dropMark_written hfirst,
      Tabbed.map_headerTexts_rows_linesOfRows hfields]
  · intro path content hread
    rw [FileTree.workbookIn_tabbed hread, loadFrom_single]
    exact Tabbed.countsLines_sheet _ _

def mixedEntries : List (Row × Tabbed.LineEnd) :=
  [(Row.ofTexts Column.labels, .returnFeed),
    ([none, some " >３ ", some ">20", none, some "", some "锁\r"], .feed),
    ([], .returnFeed),
    ([some "", none], .feed),
    ([none, none, some ">x", none, none, some "锁"], .returnFeed)]

def mixedSheet : Sheet :=
  ⟨"Rules", mixedEntries.map Prod.fst⟩

def mixedFiles : FileTree where
  entries := [
    (["r.json"], .file (.text (render ⟨[mixedSheet]⟩))),
    (["r.tsv"], .file (.text (Tabbed.written true mixedEntries)))]

/-- The faulty cell is on the last line. -/
theorem mixedFiles_loadFrom_workbookIn :
    loadFrom (mixedFiles.workbookIn .json ⟨"r.json"⟩) "Active" =
        loadFrom (.ok ⟨[mixedSheet]⟩) "Active" ∧
      loadFrom (mixedFiles.workbookIn .tabbed ⟨"r.tsv"⟩) "Active" =
        loadFrom (.ok ⟨[mixedSheet]⟩) "Active" ∧
      loadFrom (.ok ⟨[mixedSheet]⟩) "Active" =
        .error (.rules (.badCell 5 .tier (.badNumber ">x"))) := by
  have hfields : ∀ entry ∈ mixedEntries, ∀ text, some text ∈ entry.1 → Tabbed.IsField text := by
    simp [mixedEntries, Tabbed.IsField, Tabbed.tab, Row.ofTexts, Column.labels, Column.all,
      Column.label]
  have hfirst : Tabbed.StartsUnmarked (mixedEntries.map Prod.fst) := by
    intro row hrow text htext
    cases hrow
    cases htext
    decide
  have hjson : mixedFiles.read ⟨"r.json"⟩ = .ok (render ⟨[mixedSheet]⟩) := by
    rfl
  have htabbed : mixedFiles.read ⟨"r.tsv"⟩ = .ok (Tabbed.written true mixedEntries) := by
    rfl
  have hrows : mixedSheet.rows = mixedEntries.map Prod.fst := rfl
  obtain ⟨hfromJson, hfromTabbed, -⟩ :=
    loadFrom_workbookIn hfields hfirst hrows hrows hjson htabbed "Active"
  exact ⟨hfromJson, hfromTabbed, by rfl⟩

end Workbook
end ArtifactRules
