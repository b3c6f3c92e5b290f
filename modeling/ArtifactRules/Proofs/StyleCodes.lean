import ArtifactRules.Proofs.Texts
import ArtifactRules.Terminal.Layout

/-! Texts without their style codes. With the codes taken out, what is written with colours is what
is written without them. -/

namespace ArtifactRules
namespace Terminal

variable {cs rest start : List Char} {c : Char} {line : Line} {lines : List Line}

def isCode (c : Char) : Bool :=
  c.isDigit || c == ';'

/-- What follows a style code whose escape has been read. -/
def afterCode? : List Char → Option (List Char)
  | '[' :: cs =>
    match cs.dropWhile isCode with
    | 'm' :: rest => some rest
    | _ => none
  | _ => none

theorem afterCode?_eq_some_iff :
    afterCode? cs = some rest ↔ ∃ ds, cs = '[' :: ds ∧ ds.dropWhile isCode = 'm' :: rest := by
  fun_cases afterCode? cs with
  | case1 ds last hlast => simp [hlast]
  | case2 ds hlast => simpa using hlast rest
  | case3 _ hother =>
    simp only [reduceCtorEq, false_iff, not_exists, not_and]
    rintro ds rfl
    exact (hother ds rfl).elim

theorem length_lt_of_afterCode? (h : afterCode? cs = some rest) : rest.length < cs.length := by
  obtain ⟨ds, rfl, hlast⟩ := afterCode?_eq_some_iff.1 h
  have hle := (List.dropWhile_suffix isCode (l := ds)).length_le
  rw [hlast, List.length_cons] at hle
  exact (Nat.lt_of_succ_le hle).trans (Nat.lt_succ_self _)

/-- The text without its style codes, found from the left. -/
def withoutCodes : List Char → List Char
  | [] => []
  | c :: cs =>
    if c = escape then
      match _h : afterCode? cs with
      | some rest => withoutCodes rest
      | none => c :: withoutCodes cs
    else c :: withoutCodes cs
termination_by cs => cs.length
decreasing_by
  · exact (length_lt_of_afterCode? _h).trans (Nat.lt_succ_self _)
  · exact Nat.lt_succ_self _
  · exact Nat.lt_succ_self _

@[simp] theorem withoutCodes_nil : withoutCodes [] = [] := by
  rw [withoutCodes]

theorem withoutCodes_cons_of_ne (h : c ≠ escape) (cs : List Char) :
    withoutCodes (c :: cs) = c :: withoutCodes cs := by
  rw [withoutCodes, if_neg h]

theorem withoutCodes_escape_of_some (h : afterCode? cs = some rest) :
    withoutCodes (escape :: cs) = withoutCodes rest := by
  rw [withoutCodes, if_pos rfl]
  split
  · rename_i last hlast
    rw [Option.some.inj (hlast.symm.trans h)]
  · rename_i hnone
    exact absurd (hnone.symm.trans h) (by simp)

theorem withoutCodes_escape_of_none (h : afterCode? cs = none) :
    withoutCodes (escape :: cs) = escape :: withoutCodes cs := by
  rw [withoutCodes, if_pos rfl]
  split
  · rename_i last hlast
    exact absurd (hlast.symm.trans h) (by simp)
  · rfl

example : withoutCodes "\x1b[1;32mkeep\x1b[0m \x1b[".toList = "keep \x1b[".toList := by
  cbv

theorem withoutCodes_append_of_notMem (h : escape ∉ cs) (rest : List Char) :
    withoutCodes (cs ++ rest) = cs ++ withoutCodes rest := by
  induction cs with
  | nil => rfl
  | cons c cs ih =>
    rw [List.mem_cons, not_or] at h
    obtain ⟨hc, hcs⟩ := h
    rw [List.cons_append, withoutCodes_cons_of_ne (Ne.symm hc), ih hcs, List.cons_append]

theorem withoutCodes_of_notMem (h : escape ∉ cs) : withoutCodes cs = cs := by
  have happend := withoutCodes_append_of_notMem h []
  rwa [List.append_nil, withoutCodes_nil, List.append_nil] at happend

/-- No style code that is open goes on with this character. -/
def Breaks (c : Char) : Prop :=
  c ≠ '[' ∧ c ≠ 'm' ∧ isCode c = false

instance : DecidablePred Breaks :=
  fun c => inferInstanceAs (Decidable (c ≠ '[' ∧ c ≠ 'm' ∧ isCode c = false))

theorem dropWhile_isCode_append (h : ∀ c ∈ rest.head?, Breaks c) (cs : List Char) :
    (cs ++ rest).dropWhile isCode = cs.dropWhile isCode ++ rest := by
  have hrest : rest.dropWhile isCode = rest := by
    cases rest with
    | nil => rfl
    | cons c rest => exact List.dropWhile_cons_of_neg (by simp [(h c rfl).2.2])
  rw [List.dropWhile_append, hrest]
  split
  · rename_i hempty
    rw [List.isEmpty_iff.1 hempty, List.nil_append]
  · rfl

theorem afterCode?_append (h : ∀ c ∈ rest.head?, Breaks c) (cs : List Char) :
    afterCode? (cs ++ rest) = (afterCode? cs).map (· ++ rest) := by
  cases hafter : afterCode? cs with
  | some last =>
    obtain ⟨ds, rfl, hlast⟩ := afterCode?_eq_some_iff.1 hafter
    refine afterCode?_eq_some_iff.2 ⟨ds ++ rest, rfl, ?_⟩
    rw [dropWhile_isCode_append h, hlast, List.cons_append]
  | none =>
    rw [Option.map_none, Option.eq_none_iff_forall_ne_some]
    intro last hsome
    obtain ⟨es, heq, hm⟩ := afterCode?_eq_some_iff.1 hsome
    obtain ⟨-, hrest⟩ | ⟨ds, rfl, rfl⟩ := List.append_eq_cons_iff.1 heq
    · exact (h '[' (by rw [hrest]; rfl)).1 rfl
    rw [dropWhile_isCode_append h] at hm
    obtain ⟨-, hrest⟩ | ⟨left, hleft, -⟩ := List.append_eq_cons_iff.1 hm
    · exact (h 'm' (by rw [hrest]; rfl)).2.1 rfl
    · exact absurd (afterCode?_eq_some_iff.2 ⟨ds, rfl, hleft⟩) (by simp [hafter])

/-- Where no style code goes across, a text may be cut. -/
theorem withoutCodes_append (h : ∀ c ∈ rest.head?, Breaks c) (cs : List Char) :
    withoutCodes (cs ++ rest) = withoutCodes cs ++ withoutCodes rest := by
  fun_induction withoutCodes cs with
  | case1 => rfl
  | case2 cs last hlast ih =>
    have hafter : afterCode? (cs ++ rest) = some (last ++ rest) := by
      rw [afterCode?_append h, hlast, Option.map_some]
    rw [List.cons_append, withoutCodes_escape_of_some hafter, ih]
  | case3 cs hnone ih =>
    have hafter : afterCode? (cs ++ rest) = none := by
      rw [afterCode?_append h, hnone, Option.map_none]
    rw [List.cons_append, withoutCodes_escape_of_none hafter, ih, List.cons_append]
  | case4 c cs hc ih =>
    rw [List.cons_append, withoutCodes_cons_of_ne hc, ih, List.cons_append]

theorem isCode_of_mem_join {texts : List String} (h : ∀ text ∈ texts, ∀ c ∈ text.toList, isCode c = true)
    (hc : c ∈ (Text.join ";" texts).toList) : isCode c = true := by
  fun_induction Text.join ";" texts with
  | case1 => simp at hc
  | case2 text => exact h text (by simp) c hc
  | case3 text texts _ ih =>
    simp only [String.toList_append, List.mem_append] at hc
    obtain (hc | hc) | hc := hc
    · exact h text (by simp) c hc
    · obtain rfl : c = ';' := by simpa using hc
      rfl
    · exact ih (fun other hother => h other (List.mem_cons_of_mem _ hother)) hc

theorem isCode_of_mem_code (style : Style) (h : c ∈ style.code.toList) : isCode c = true := by
  have hall : style.code.toList.all isCode = true := by cases style <;> decide
  exact List.all_eq_true.1 hall c h

theorem afterCode?_opening (styles : List Style) (rest : List Char) :
    afterCode? ((opening styles).tail ++ rest) = some rest := by
  have hcodes : ∀ c ∈ (Text.join ";" (styles.map Style.code)).toList, isCode c = true :=
    fun c => isCode_of_mem_join fun text htext => by
      obtain ⟨style, -, rfl⟩ := List.mem_map.1 htext
      exact fun _ => isCode_of_mem_code style
  refine afterCode?_eq_some_iff.2
    ⟨(Text.join ";" (styles.map Style.code)).toList ++ 'm' :: rest, by simp [opening], ?_⟩
  rw [List.dropWhile_append_of_pos hcodes]
  rfl

theorem withoutCodes_opening_append (styles : List Style) (rest : List Char) :
    withoutCodes (opening styles ++ rest) = withoutCodes rest :=
  withoutCodes_escape_of_some (afterCode?_opening styles rest)

theorem withoutCodes_reset_append (rest : List Char) :
    withoutCodes (reset ++ rest) = withoutCodes rest :=
  withoutCodes_escape_of_some (afterCode?_eq_some_iff.2 ⟨_, rfl, rfl⟩)

theorem reopen_cons (h : ¬ reset <+: c :: cs) : reopen start (c :: cs) = c :: reopen start cs := by
  rw [reopen]
  rintro ds rfl rfl
  exact h ⟨ds, rfl⟩

theorem reopen_cons_of_ne (h : c ≠ escape) : reopen start (c :: cs) = c :: reopen start cs :=
  reopen_cons fun ⟨_, hreset⟩ => h (List.cons.inj hreset).1.symm

theorem head?_reopen (start cs : List Char) : (reopen start cs).head? = cs.head? := by
  fun_cases reopen start cs with
  | case1 => rfl
  | case2 ds => rfl
  | case3 c ds _ => rfl

theorem dropWhile_isCode_reopen (start cs : List Char) :
    (reopen start cs).dropWhile isCode = reopen start (cs.dropWhile isCode) := by
  induction cs with
  | nil => rfl
  | cons c cs ih =>
    by_cases hc : isCode c = true
    · have hne : c ≠ escape := by
        rintro rfl
        exact absurd hc (by decide)
      rw [reopen_cons_of_ne hne, List.dropWhile_cons_of_pos hc, List.dropWhile_cons_of_pos hc, ih]
    · obtain ⟨ds, hds⟩ := List.head?_eq_some_iff.1 (head?_reopen start (c :: cs))
      rw [List.dropWhile_cons_of_neg hc, hds, List.dropWhile_cons_of_neg hc]

theorem afterCode?_reopen (start cs : List Char) :
    afterCode? (reopen start cs) = (afterCode? cs).map (reopen start) := by
  cases hafter : afterCode? cs with
  | some last =>
    obtain ⟨ds, rfl, hlast⟩ := afterCode?_eq_some_iff.1 hafter
    refine afterCode?_eq_some_iff.2 ⟨reopen start ds, reopen_cons_of_ne (by decide), ?_⟩
    rw [dropWhile_isCode_reopen, hlast, reopen_cons_of_ne (by decide)]
  | none =>
    rw [Option.map_none, Option.eq_none_iff_forall_ne_some]
    intro last hsome
    obtain ⟨es, hes, hm⟩ := afterCode?_eq_some_iff.1 hsome
    have hbracket := head?_reopen start cs
    rw [hes, List.head?_cons, eq_comm, List.head?_eq_some_iff] at hbracket
    obtain ⟨ds, rfl⟩ := hbracket
    rw [reopen_cons_of_ne (by decide)] at hes
    obtain rfl := (List.cons.inj hes).2
    have hend := head?_reopen start (ds.dropWhile isCode)
    rw [← dropWhile_isCode_reopen, hm, List.head?_cons, eq_comm, List.head?_eq_some_iff] at hend
    obtain ⟨left, hleft⟩ := hend
    exact absurd (afterCode?_eq_some_iff.2 ⟨ds, rfl, hleft⟩) (by simp [hafter])

/-- Styles that are started again add nothing but codes. -/
theorem withoutCodes_reopen (styles : List Style) (cs : List Char) :
    withoutCodes (reopen (opening styles) cs) = withoutCodes cs := by
  fun_induction withoutCodes cs with
  | case1 => exact withoutCodes_nil
  | case2 cs last hlast ih =>
    -- only a reset is followed by the styles again
    by_cases hreset : reset <+: escape :: cs
    · obtain ⟨ds, hds⟩ := hreset
      obtain rfl := (List.cons.inj hds).2
      obtain rfl : ds = last := Option.some.inj hlast
      calc withoutCodes (reopen (opening styles) (reset ++ ds))
        _ = withoutCodes (reset ++ (opening styles ++ reopen (opening styles) ds)) := rfl
        _ = withoutCodes (opening styles ++ reopen (opening styles) ds) :=
          withoutCodes_reset_append _
        _ = withoutCodes (reopen (opening styles) ds) := withoutCodes_opening_append _ _
        _ = withoutCodes ds := ih
    · have hafter : afterCode? (reopen (opening styles) cs) = some (reopen (opening styles) last) := by
        rw [afterCode?_reopen, hlast, Option.map_some]
      rw [reopen_cons hreset, withoutCodes_escape_of_some hafter, ih]
  | case3 cs hnone ih =>
    have hreset : ¬ reset <+: escape :: cs := by
      rintro ⟨ds, hds⟩
      obtain rfl := (List.cons.inj hds).2
      exact absurd hnone (by simp [afterCode?, isCode])
    have hafter : afterCode? (reopen (opening styles) cs) = none := by
      rw [afterCode?_reopen, hnone, Option.map_none]
    rw [reopen_cons hreset, withoutCodes_escape_of_none hafter, ih]
  | case4 c cs hc ih => rw [reopen_cons_of_ne hc, withoutCodes_cons_of_ne hc, ih]

/-- With its styles or without them, a span shows its text, if the text has no escape or what follows
breaks off a code that the text has opened. -/
theorem withoutCodes_write_append {span : Span}
    (h : escape ∉ span.text.toList ∨ ∀ c ∈ rest.head?, Breaks c) (colours : Bool) :
    withoutCodes (span.write colours ++ rest) =
      withoutCodes span.text.toList ++ withoutCodes rest := by
  rw [Span.write]
  split
  · have hreset : ∀ c ∈ (reset ++ rest).head?, Breaks c := by
      rintro c ⟨⟩
      decide
    rw [List.append_assoc, List.append_assoc, withoutCodes_opening_append,
      withoutCodes_append hreset, withoutCodes_reopen, withoutCodes_reset_append]
  · obtain hescape | hbreaks := h
    · rw [withoutCodes_append_of_notMem hescape, withoutCodes_of_notMem hescape]
    · exact withoutCodes_append hbreaks _

/-- No code goes from one span of a line on into the next one, even without colours. -/
def Apart : Line → Prop
  | [] => True
  | [_] => True
  | span :: next :: rest =>
    (escape ∉ span.text.toList ∨ ∃ c ∈ next.text.toList.head?, Breaks c) ∧ Apart (next :: rest)

def shown (line : Line) : List Char :=
  line.flatMap fun span => withoutCodes span.text.toList

theorem shown_cons (span : Span) (line : Line) :
    shown (span :: line) = withoutCodes span.text.toList ++ shown line :=
  rfl

theorem head?_write_append {span : Span} (h : span.text.toList.head? = some c) (hc : Breaks c)
    (colours : Bool) (rest : List Char) : ∀ d ∈ (span.write colours ++ rest).head?, Breaks d := by
  obtain ⟨cs, hcs⟩ := List.head?_eq_some_iff.1 h
  rw [Span.write]
  split
  · rintro d ⟨⟩
    decide
  · rw [hcs]
    rintro d ⟨⟩
    exact hc

theorem withoutCodes_line_append (h : Apart line) (colours : Bool) (rest : List Char) :
    withoutCodes (line.flatMap (Span.write colours) ++ '\n' :: rest) =
      shown line ++ '\n' :: withoutCodes rest := by
  induction line with
  | nil => exact withoutCodes_cons_of_ne (by decide) rest
  | cons span line ih =>
    have happart : Apart line ∧ (escape ∉ span.text.toList ∨
        ∀ c ∈ (line.flatMap (Span.write colours) ++ '\n' :: rest).head?, Breaks c) := by
      cases line with
      | nil =>
        refine ⟨trivial, .inr ?_⟩
        rintro c ⟨⟩
        decide
      | cons next line =>
        refine ⟨h.2, h.1.imp_right ?_⟩
        rintro ⟨c, hhead, hc⟩
        rw [List.flatMap_cons, List.append_assoc]
        exact head?_write_append hhead hc colours _
    rw [List.flatMap_cons, List.append_assoc, withoutCodes_write_append happart.2,
      ih happart.1, shown_cons, List.append_assoc]

def plain (text : String) : String :=
  String.ofList (withoutCodes text.toList)

/-- Colours change nothing but codes. -/
theorem plain_render (h : ∀ line ∈ lines, Apart line) (colours : Bool) :
    plain (render colours lines) = String.ofList (lines.flatMap fun line => shown line ++ ['\n']) := by
  rw [plain, render, String.toList_ofList]
  congr 1
  induction lines with
  | nil => exact withoutCodes_nil
  | cons line lines ih =>
    have hlines := ih fun other hother => h other (List.mem_cons_of_mem _ hother)
    rw [List.flatMap_cons, List.append_assoc, List.singleton_append,
      withoutCodes_line_append (h line List.mem_cons_self), hlines, List.flatMap_cons,
      List.append_assoc, List.singleton_append]

theorem exists_breaks_space_append (s : String) : ∃ c ∈ (" " ++ s).toList.head?, Breaks c :=
  ⟨' ', Text.head?_toList_append (by decide) s, by decide⟩

theorem apart_ruleLine (rule : Rule) : Apart (ruleLine rule) :=
  ⟨.inr (exists_breaks_space_append _), trivial⟩

theorem apart_judgedLine (judged : Judged) : Apart (judgedLine judged) := by
  have hartifact : (" " ++ judged.artifact.text ++ "  ").toList.head? = some ' ' :=
    Text.head?_toList_append (Text.head?_toList_append (by decide) _) _
  have hreason : ("(" ++ judged.decision.reason.text ++ ")").toList.head? = some '(' :=
    Text.head?_toList_append (Text.head?_toList_append (by decide) _) _
  exact ⟨.inr ⟨' ', hartifact, by decide⟩, .inr ⟨'(', hreason, by decide⟩, trivial⟩

theorem apart_of_mem_wordListLines {list : WordList} (h : line ∈ wordListLines list) :
    Apart line := by
  rw [wordListLines, List.mem_cons, List.mem_map] at h
  obtain rfl | ⟨word, -, rfl⟩ := h <;> trivial

theorem apart_of_mem_settingsLines {path : Path} {settings : Settings}
    (h : line ∈ settingsLines path settings) : Apart line := by
  rw [settingsLines, List.mem_cons, List.mem_map] at h
  obtain rfl | ⟨⟨key, value⟩, -, rfl⟩ := h
  · trivial
  · have hvalue : (" = " ++ value).toList.head? = some ' ' := Text.head?_toList_append (by decide) _
    exact ⟨.inr ⟨' ', hvalue, by decide⟩, trivial⟩

theorem apart_of_mem_intercalate {lists : List (List Line)}
    (h : ∀ lines ∈ lists, ∀ line ∈ lines, Apart line) (hline : line ∈ List.intercalate [[]] lists) :
    Apart line := by
  induction lists with
  | nil => simp at hline
  | cons lines lists ih =>
    have hlists := ih fun others hothers => h others (List.mem_cons_of_mem _ hothers)
    cases lists with
    | nil => exact h lines (by simp) line (by simpa using hline)
    | cons next lists =>
      rw [List.intercalate_cons_cons, List.mem_append, List.mem_append, List.mem_singleton] at hline
      obtain (hline | rfl) | hline := hline
      · exact h lines (by simp) line hline
      · trivial
      · exact hlists hline

theorem apart_reportLines (settingsPath : Path) (report : Report) :
    ∀ line ∈ reportLines settingsPath report, Apart line := by
  intro line hline
  simp only [reportLines, List.mem_append] at hline
  obtain (((hrule | hjudged) | hwords) | hsettings) | hmessage := hline
  · obtain ⟨rule, -, rfl⟩ := List.mem_map.1 hrule
    exact apart_ruleLine rule
  · obtain ⟨judged, -, rfl⟩ := List.mem_map.1 hjudged
    exact apart_judgedLine judged
  · refine apart_of_mem_intercalate (fun lines hlines line hline => ?_) hwords
    obtain ⟨list, -, rfl⟩ := List.mem_map.1 hlines
    exact apart_of_mem_wordListLines hline
  · cases hset : report.settings with
    | none => simp [hset] at hsettings
    | some settings =>
      rw [hset] at hsettings
      exact apart_of_mem_settingsLines hsettings
  · obtain ⟨message, -, rfl⟩ := List.mem_map.1 hmessage
    trivial

theorem apart_of_mem_ruleErrorLines {error : RuleError} (h : line ∈ ruleErrorLines error) :
    Apart line := by
  rw [ruleErrorLines] at h
  split at h
  · simp only [List.mem_cons, List.not_mem_nil, or_false] at h
    obtain rfl | rfl := h <;> trivial
  · simp only [List.mem_cons, List.not_mem_nil, or_false] at h
    obtain rfl | rfl | rfl := h
    -- the row and the column stand between texts that start no code
    · exact ⟨.inl (by decide), .inr ⟨' ', by decide, by decide⟩, .inl (by decide),
        .inr ⟨',', by decide, by decide⟩, trivial⟩
    · trivial
    · trivial

theorem apart_failureLines (failure : Failure) : ∀ line ∈ failureLines failure, Apart line := by
  intro line hline
  cases failure with
  | rules error => exact apart_of_mem_ruleErrorLines hline
  | _ =>
    obtain rfl := List.mem_singleton.1 hline
    exact ⟨.inr (exists_breaks_space_append _), trivial⟩

end Terminal
end ArtifactRules
