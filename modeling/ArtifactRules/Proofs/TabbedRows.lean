import ArtifactRules.Proofs.SheetSources

/-! Tab-separated text and its rows. Written back, the rows of a text are the text itself, each line
ended by a line feed alone, so no line is lost or added. Rows that a text can hold come back from
their text, however its lines end. -/

namespace ArtifactRules
namespace Text

theorem mem_joinChars {sep c : Char} {fields : List (List Char)} {field : List Char}
    (hfield : field ∈ fields) (hc : c ∈ field) : c ∈ joinChars sep fields := by
  have hsublist : (joinChars sep [field]).Sublist (joinChars sep fields) :=
    joinChars_sublist (List.singleton_sublist.2 hfield)
  exact hsublist.subset hc

theorem exists_joinChars_concat (sep : Char) (fields : List (List Char)) (last : List Char) :
    ∃ front, joinChars sep (fields ++ [last]) = front ++ last ∧ ∀ c ∈ front.getLast?, c = sep := by
  induction fields with
  | nil => exact ⟨[], rfl, by simp⟩
  | cons field fields ih =>
    obtain ⟨front, hfront, hlast⟩ := ih
    refine ⟨field ++ sep :: front, ?_, ?_⟩
    · rw [List.cons_append, joinChars_cons sep field (by simp), hfront]
      simp
    · cases front with
      | nil => simp
      | cons c front => simpa using hlast

end Text

namespace Tabbed

/-- A line feed with a carriage return before it is a line feed alone. -/
def dropReturns : List Char → List Char
  | [] => []
  | c :: cs => if c = '\r' ∧ cs.head? = some '\n' then dropReturns cs else c :: dropReturns cs

def ended (cs : List Char) : List Char :=
  if cs = [] ∨ cs.getLast? = some '\n' then cs else cs ++ ['\n']

theorem dropReturn_cons_cons (c d : Char) (line : List Char) :
    dropReturn (c :: d :: line) = c :: dropReturn (d :: line) := by
  simp only [dropReturn, List.getLast?_cons_cons, List.dropLast_cons_cons]
  split <;> rfl

theorem dropReturn_of_getLast?_ne {line : List Char} (h : line.getLast? ≠ some '\r') :
    dropReturn line = line :=
  if_neg h

theorem dropReturns_of_notMem {line : List Char} (h : '\n' ∉ line) : dropReturns line = line := by
  induction line with
  | nil => rfl
  | cons c line ih =>
    have hline : '\n' ∉ line := fun hm => h (by simp [hm])
    have hhead : line.head? ≠ some '\n' := fun he => hline (List.mem_of_head? he)
    rw [dropReturns, if_neg (fun hc => hhead hc.2), ih hline]

theorem dropReturns_append_feed {line : List Char} (h : '\n' ∉ line) (rest : List Char) :
    dropReturns (line ++ '\n' :: rest) = dropReturn line ++ '\n' :: dropReturns rest := by
  induction line with
  | nil =>
    rw [List.nil_append, dropReturns, if_neg (by simp)]
    rfl
  | cons c line ih =>
    have hline : '\n' ∉ line := fun hm => h (by simp [hm])
    rw [List.cons_append, dropReturns, ih hline]
    cases line with
    | nil => by_cases hc : c = '\r' <;> simp [hc, dropReturn]
    | cons d line =>
      have hd : d ≠ '\n' := fun he => hline (by simp [he])
      rw [dropReturn_cons_cons, if_neg (by simp [hd])]
      rfl

theorem ended_append_feed (line rest : List Char) :
    ended (line ++ '\n' :: rest) = line ++ '\n' :: ended rest := by
  cases rest with
  | nil => simp [ended]
  | cons c rest =>
    have hlast : (line ++ '\n' :: c :: rest).getLast? = (c :: rest).getLast? := by
      rw [List.getLast?_append_cons, List.getLast?_cons_cons]
    rw [ended, ended, hlast]
    by_cases hfeed : (c :: rest).getLast? = some '\n'
    · rw [if_pos (.inr hfeed), if_pos (.inr hfeed)]
    · simp [hfeed]

/-- A text begins with a line and a line feed, or is all one line. -/
theorem lines_append_feed {line : List Char} (h : '\n' ∉ line) (rest : List Char) :
    lines (line ++ '\n' :: rest) = dropReturn line :: lines rest := by
  obtain ⟨first, fields, hfields⟩ :=
    List.exists_cons_of_ne_nil (Text.fieldChars_ne_nil '\n' rest)
  simp only [lines, Text.fieldChars_append_cons h, hfields, List.getLast?_cons_cons,
    List.dropLast_cons_cons]
  split
  · rfl
  · rfl
  · rename_i hlast
    simp at hlast

theorem lines_of_notMem {line : List Char} (h : '\n' ∉ line) :
    lines line = if line = [] then [] else [line] := by
  rw [lines, Text.fieldChars_of_notMem h]
  cases line <;> rfl

theorem lineOfRow_rowOfLine (line : List Char) : lineOfRow (rowOfLine line) = line := by
  have hjoin := Text.toList_join tab ((Text.fieldChars tab line).map String.ofList)
  rw [lineOfRow, rowOfLine, Row.map_getD_ofTexts]
  refine hjoin.trans ?_
  rw [List.map_map]
  simp [Function.comp_def]

def text (rows : List Row) : String :=
  written false (rows.map fun row => (row, .feed))

theorem toList_text_cons (row : Row) (list : List Row) :
    (text (row :: list)).toList = lineOfRow row ++ '\n' :: (text list).toList := by
  simp [text, written, linesOfRows, LineEnd.beforeFeed]

theorem toList_text_rows_joinChars {fields : List (List Char)} (hne : fields ≠ [])
    (h : ∀ line ∈ fields, '\n' ∉ line) :
    (text ((lines (Text.joinChars '\n' fields)).map rowOfLine)).toList =
      ended (dropReturns (Text.joinChars '\n' fields)) := by
  induction fields with
  | nil => exact absurd rfl hne
  | cons line fields ih =>
    have hline : '\n' ∉ line := h line (by simp)
    by_cases hfields : fields = []
    · subst hfields
      rw [Text.joinChars, lines_of_notMem hline, dropReturns_of_notMem hline, ended]
      by_cases hempty : line = []
      · subst hempty
        rfl
      · have hlast : line.getLast? ≠ some '\n' := fun he => hline (List.mem_of_getLast? he)
        rw [if_neg hempty, if_neg (by simp [hempty, hlast]), List.map_singleton, toList_text_cons,
          lineOfRow_rowOfLine]
        rfl
    · have hrest := ih hfields fun other hother => h other (by simp [hother])
      rw [Text.joinChars_cons '\n' line hfields, lines_append_feed hline, List.map_cons,
        toList_text_cons, lineOfRow_rowOfLine, hrest, dropReturns_append_feed hline,
        ended_append_feed]

/-- What the cells of a row can be that is a line of a text. -/
structure IsLine (row : Row) : Prop where
  ne_nil : row ≠ []
  cell : ∀ text, some text ∈ row → text ≠ "" ∧ IsField text

/-- The last cell does not end in what would be taken for a part of the line's end. -/
def EndsClear (row : Row) : Prop :=
  ∀ text, row.getLast? = some (some text) → text.toList.getLast? ≠ some '\r'

theorem mem_of_mem_dropReturn {line : List Char} {c : Char} (h : c ∈ dropReturn line) :
    c ∈ line := by
  rw [dropReturn] at h
  split at h
  · exact List.dropLast_subset line h
  · exact h

theorem feed_notMem_of_mem_lines {cs line : List Char} (h : line ∈ lines cs) : '\n' ∉ line := by
  have hfields : ∀ field ∈ Text.fieldChars '\n' cs, '\n' ∉ field :=
    fun _ => Text.notMem_of_mem_fieldChars
  have hdropped : ∀ line ∈ (Text.fieldChars '\n' cs).dropLast.map dropReturn, '\n' ∉ line := by
    rw [List.forall_mem_map]
    exact fun field hfield hfeed =>
      hfields field (List.dropLast_subset _ hfield) (mem_of_mem_dropReturn hfeed)
  simp only [lines] at h
  split at h
  · exact hdropped line h
  · rename_i last _ hlast
    rcases List.mem_append.1 h with h | h
    · exact hdropped line h
    · rw [List.mem_singleton.1 h]
      exact hfields last (List.mem_of_getLast? hlast)
  · cases h

theorem isLine_rowOfLine {line : List Char} (h : '\n' ∉ line) : IsLine (rowOfLine line) := by
  refine ⟨by simp [rowOfLine, Row.ofTexts, Text.fieldChars_ne_nil], ?_⟩
  intro text htext
  simp only [rowOfLine, Row.ofTexts, List.map_map, List.mem_map, Function.comp_apply] at htext
  obtain ⟨field, hfield, htext⟩ := htext
  split at htext
  · cases htext
  · rename_i hne
    cases htext
    refine ⟨hne, ?_, ?_⟩
    · rw [String.toList_ofList]
      exact Text.notMem_of_mem_fieldChars hfield
    · rw [String.toList_ofList]
      intro hfeed
      rw [← Text.joinChars_fieldChars tab line] at h
      exact h (Text.mem_joinChars hfield hfeed)

theorem rowOfLine_lineOfRow {row : Row} (h : IsLine row) : rowOfLine (lineOfRow row) = row := by
  rw [rowOfLine, fieldChars_lineOfRow h.ne_nil fun text htext => (h.cell text htext).2, Row.ofTexts,
    List.map_map]
  rw [List.map_congr_left (g := id), List.map_id]
  intro cell hcell
  cases cell with
  | none => rfl
  | some text => simp [(h.cell text hcell).1]

theorem getLast?_lineOfRow_ne {row : Row} (hrow : row ≠ []) (h : EndsClear row) :
    (lineOfRow row).getLast? ≠ some '\r' := by
  obtain ⟨cells, cell, rfl⟩ := (List.eq_nil_or_concat row).resolve_left hrow
  obtain ⟨front, hfront, htab⟩ := Text.exists_joinChars_concat tab
    ((cells.map fun cell => cell.getD "").map String.toList) (cell.getD "").toList
  have hline : lineOfRow (cells.concat cell) = front ++ (cell.getD "").toList := by
    rw [← hfront, lineOfRow]
    refine (Text.toList_join tab _).trans ?_
    simp
  rw [hline, List.getLast?_append]
  intro hlast
  cases hcell : (cell.getD "").toList.getLast? with
  | none =>
    rw [hcell, Option.none_or] at hlast
    exact absurd (htab '\r' hlast) (by decide)
  | some c =>
    rw [hcell, Option.some_or] at hlast
    cases cell with
    | none => simp at hcell
    | some text => exact h text (by simp) (hcell.trans hlast)

theorem dropReturn_append_beforeFeed {line : List Char} (h : line.getLast? ≠ some '\r')
    (ending : LineEnd) : dropReturn (line ++ ending.beforeFeed) = line := by
  cases ending with
  | feed => rw [LineEnd.beforeFeed, List.append_nil, dropReturn_of_getLast?_ne h]
  | returnFeed => simp [LineEnd.beforeFeed, dropReturn]

theorem rows_written_eq_map {entries : List (Row × LineEnd)}
    (h : ∀ entry ∈ entries, IsLine entry.1 ∧ EndsClear entry.1) :
    rows (written false entries) = entries.map Prod.fst := by
  have hfields : ∀ entry ∈ entries, ∀ text, some text ∈ entry.1 → IsField text :=
    fun entry hentry text htext => ((h entry hentry).1.cell text htext).2
  have hchars : (written false entries).toList = linesOfRows entries := by
    simp [written]
  rw [rows, hchars, lines_linesOfRows hfields, List.map_map]
  apply List.map_congr_left
  intro entry hentry
  obtain ⟨hline, hclear⟩ := h entry hentry
  have hlast := getLast?_lineOfRow_ne hline.ne_nil hclear
  rw [Function.comp_apply, dropReturn_append_beforeFeed hlast, rowOfLine_lineOfRow hline]

/-- The rows of any text have cells that a text can hold and write the text again, but for the
carriage returns of its line ends and the end of its last line. Rows of such cells come back from
their text, whether their lines end in a line feed, in a carriage return and a line feed, or some in
the one and some in the other. -/
theorem rows_written :
    (∀ content : String, (∀ row ∈ rows content, IsLine row) ∧
      (text (rows content)).toList = ended (dropReturns content.toList)) ∧
    ∀ entries : List (Row × LineEnd), (∀ entry ∈ entries, IsLine entry.1 ∧ EndsClear entry.1) →
      rows (written false entries) = entries.map Prod.fst := by
  refine ⟨fun content => ⟨?_, ?_⟩, fun _ => rows_written_eq_map⟩
  · rw [rows, List.forall_mem_map]
    exact fun line hline => isLine_rowOfLine (feed_notMem_of_mem_lines hline)
  · have hfields : ∀ line ∈ Text.fieldChars '\n' content.toList, '\n' ∉ line :=
      fun _ => Text.notMem_of_mem_fieldChars
    have hrows := toList_text_rows_joinChars (Text.fieldChars_ne_nil '\n' content.toList) hfields
    rwa [Text.joinChars_fieldChars] at hrows

def returnEntries : List (Row × LineEnd) :=
  [([none], .returnFeed), ([some "\r", none, some "a\rb", none], .feed), ([some "锁"], .returnFeed),
    ([none, none], .feed)]

theorem returnEntries_rows_written :
    (∀ entry ∈ returnEntries, IsLine entry.1 ∧ EndsClear entry.1) ∧
      rows "\r\n\r\t\ta\rb\t\n锁\r\n\t\n" = returnEntries.map Prod.fst := by
  have hentries : ∀ entry ∈ returnEntries, IsLine entry.1 ∧ EndsClear entry.1 := by
    intro entry hentry
    simp only [returnEntries, List.mem_cons, List.not_mem_nil, or_false] at hentry
    rcases hentry with rfl | rfl | rfl | rfl
    all_goals refine ⟨⟨by simp, ?_⟩, ?_⟩ <;> simp [IsField, tab, EndsClear]
  exact ⟨hentries, rows_written.2 returnEntries hentries⟩

example : rows "a\t\n\nb\r" = [[some "a", none], [none], [some "b\r"]] := by decide

end Tabbed
end ArtifactRules
