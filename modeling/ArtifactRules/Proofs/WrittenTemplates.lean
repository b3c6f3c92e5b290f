import ArtifactRules.Proofs.ChangedFiles
import ArtifactRules.Proofs.ClassifyRun

/-! Templates and the files that rules are read from. A template is written in the format that its
path is read in, so what has been written is read again, as a sheet without rules. -/

namespace ArtifactRules

theorem Tabbed.sheet_template (name : String) :
    Tabbed.sheet name Tabbed.template = ⟨name, [Column.labels.map some]⟩ := by
  have hrows : Tabbed.rows (String.ofList (Tabbed.dropMark Tabbed.template.toList)) =
      [Column.labels.map some] := by
    decide +kernel
  rw [Tabbed.sheet, hrows]

namespace Path

theorem fileName?_of_name {directory name : String}
    (hdirectory : directory = "" ∨ directory.toList.getLast? = some separator)
    (hseparator : separator ∉ name.toList) (hempty : name ≠ "") (hhere : name ≠ here)
    (hup : name ≠ up) : (Path.mk (directory ++ name)).fileName? = some name := by
  have hparts : ∃ before, (Path.mk (directory ++ name)).parts = before ++ [name] := by
    rcases hdirectory with rfl | hlast
    · refine ⟨[], ?_⟩
      simp [parts, Text.fields, Text.fieldChars_of_notMem hseparator]
    · obtain ⟨front, hfront⟩ := List.getLast?_eq_some_iff.1 hlast
      refine ⟨(Text.fieldChars separator front).map String.ofList, ?_⟩
      simp [parts, Text.fields, hfront, Text.fieldChars_append,
        Text.fieldChars_of_notMem hseparator]
  obtain ⟨before, hparts⟩ := hparts
  have hlast : (Path.mk (directory ++ name)).steps.getLast? = some name := by
    simp [steps, hparts, hempty, hhere]
  rw [fileName?, hlast]
  simp [hup]

theorem splitName_append {stem extension : List Char} (hstem : stem ≠ [])
    (h : '.' ∉ extension) : splitName (stem ++ '.' :: extension) = (stem, some extension) := by
  have hkept : ∀ c ∈ extension.reverse, (c != '.') = true := by
    intro c hc
    rw [bne_iff_ne]
    rintro rfl
    exact h (List.mem_reverse.1 hc)
  have hreverse : (stem ++ '.' :: extension).reverse =
      extension.reverse ++ '.' :: stem.reverse := by
    simp
  obtain ⟨c, before, hbefore⟩ := List.exists_cons_of_ne_nil (List.reverse_ne_nil_iff.2 hstem)
  have hdrop : (stem ++ '.' :: extension).reverse.dropWhile (· != '.') = '.' :: c :: before := by
    rw [hreverse, List.dropWhile_append_of_pos hkept, hbefore]
    rfl
  have htake : (stem ++ '.' :: extension).reverse.takeWhile (· != '.') = extension.reverse := by
    rw [hreverse, List.takeWhile_append_of_pos hkept]
    simp
  simp only [splitName, hdrop, htake]
  rw [← hbefore, List.reverse_reverse, List.reverse_reverse]

theorem extension?_of_name {directory stem extension : String}
    (hdirectory : directory = "" ∨ directory.toList.getLast? = some separator)
    (hseparator : separator ∉ stem.toList ++ extension.toList) (hstem : stem ≠ "")
    (hextension : extension ≠ "") (hpoint : '.' ∉ extension.toList) :
    (Path.mk (directory ++ (stem ++ "." ++ extension))).extension? = some extension := by
  have hchars : (stem ++ "." ++ extension).toList = stem.toList ++ '.' :: extension.toList := by
    simp
  have hstem : stem.toList ≠ [] := by simpa using hstem
  have hextension : extension.toList ≠ [] := by simpa using hextension
  -- with something on both sides of the point, a name is longer than any step that names no file
  have hne : ∀ word : String, word.toList.length ≤ 2 → stem ++ "." ++ extension ≠ word := by
    rintro _ hlength rfl
    rw [hchars, List.length_append, List.length_cons] at hlength
    have hbefore := List.length_pos_iff.2 hstem
    have hafter := List.length_pos_iff.2 hextension
    omega
  have hseparator : separator ∉ (stem ++ "." ++ extension).toList := by
    rw [hchars]
    simpa [separator] using hseparator
  have hname := fileName?_of_name hdirectory hseparator (hne "" (by decide)) (hne here (by decide))
    (hne up (by decide))
  rw [extension?, hname, Option.bind_some, hchars, splitName_append hstem hpoint]
  simp

end Path

namespace Workbook.Format

def extensions : Format → List String
  | json => ["json"]
  | tabbed => ["tsv", "txt"]

theorem ofExtension?_eq_some_iff {extension : String} {format : Format} :
    ofExtension? extension = some format ↔ extension.toLower ∈ format.extensions := by
  simp only [ofExtension?]
  cases format <;> split_ifs <;> simp_all [extensions]

theorem ofPath_eq_ok_iff {path : Path} {format : Format} :
    ofPath path = .ok format ↔ ofPath? path = some format := by
  rw [ofPath]
  cases ofPath? path <;> simp

/-- Any file name with the extension of a format will do, in any directory. -/
theorem ofPath_of_name {directory stem extension : String} {format : Format}
    (hdirectory : directory = "" ∨ directory.toList.getLast? = some Path.separator)
    (hstem : stem ≠ "") (hseparator : Path.separator ∉ stem.toList)
    (hextension : extension.toLower ∈ format.extensions) :
    ofPath ⟨directory ++ (stem ++ "." ++ extension)⟩ = .ok format := by
  have hchars : ∀ c ∈ extension.toList, c.toLower ∈ extension.toLower.toList := by
    intro c hc
    change c.toLower ∈ (extension.map Char.toLower).toList
    rw [String.toList_map]
    exact List.mem_map_of_mem hc
  have hletters : ∀ name ∈ format.extensions,
      name ≠ "" ∧ '.' ∉ name.toList ∧ Path.separator ∉ name.toList := by
    cases format <;> decide
  obtain ⟨hempty, hpoint, hslash⟩ := hletters _ hextension
  have hempty : extension ≠ "" := by
    rintro rfl
    exact hempty (by decide +kernel)
  have hname : (Path.mk (directory ++ (stem ++ "." ++ extension))).extension? = some extension := by
    apply Path.extension?_of_name hdirectory _ hstem hempty
    · exact fun hc => hpoint (hchars _ hc)
    · rw [List.mem_append, not_or]
      exact ⟨hseparator, fun hc => hslash (hchars _ hc)⟩
  rw [ofPath_eq_ok_iff, ofPath?, hname]
  exact ofExtension?_eq_some_iff.2 hextension

theorem decode_template (format : Format) (path : Path) :
    ∃ name, format.decode path format.template = .ok ⟨[⟨name, [Column.labels.map some]⟩]⟩ := by
  cases format with
  | json =>
    refine ⟨defaultActiveSheet, ?_⟩
    rw [template, decode, decode_render]
    rfl
  | tabbed =>
    refine ⟨path.stem, ?_⟩
    rw [template, decode, Tabbed.sheet_template]

end Workbook.Format

namespace FileTree

variable {tree after : FileTree} {path : Path} {format : Workbook.Format} {force : Bool}
  {report : Report}

/-- The file holds a sheet without rules, so that the heuristic decides under any settings. -/
structure HoldsTemplate (tree : FileTree) (path : Path) : Prop where
  loads : ∀ active, (tree.loadRules path active).result = .ok []
  checks : ∀ settings, (tree.checkRules settings path).result =
    .ok { messages := [⟨.warning, "The sheet has no rules; the built-in heuristic will be used."⟩] }
  decides : ∀ settings items artifacts, tree.readArtifacts items = .ok artifacts →
    ∃ report, (tree.classify settings (some path) items).result = .ok report ∧
      report.judged = artifacts.map fun a => ⟨a, ⟨a.heuristic.outcome, .heuristic a.heuristic⟩⟩

theorem loadRules_template (h : Workbook.Format.ofPath path = .ok format)
    (hread : tree.read path = .ok format.template) (active : String) :
    (tree.loadRules path active).result = .ok [] := by
  obtain ⟨name, hdecode⟩ := format.decode_template path
  have hopen : tree.openWorkbook path = .ok ⟨[⟨name, [Column.labels.map some]⟩]⟩ := by
    rw [openWorkbook_eq, h, hread]
    exact hdecode
  rw [result_loadRules, hopen]
  rfl

theorem holdsTemplate_of_loadRules (h : ∀ active, (tree.loadRules path active).result = .ok []) :
    tree.HoldsTemplate path where
  loads := h
  checks settings := by
    have hcheck : tree.checkRules settings path =
        tree.loadRules path settings.activeSheet >>= fun rules => pure (.ofRules path rules) := rfl
    rw [hcheck, Traced.bind_of_ok (h settings.activeSheet)]
    rfl
  decides settings items artifacts hartifacts := by
    have hrules : (tree.rulesFor settings (some path)).result = .ok [] := h settings.activeSheet
    refine ⟨.ofArtifacts [] artifacts, ?_, rfl⟩
    rw [classify_of_ok hrules hartifacts]

theorem write_of_writeTemplate (h : Workbook.Format.ofPath path = .ok format)
    (hwrite : tree.writeTemplate path force = (after, .ok report)) :
    tree.write path format.template = .ok after := by
  rw [writeTemplate, Workbook.Format.ofPath_eq_ok_iff.1 h] at hwrite
  split_ifs at hwrite
  · cases hwrite
  · simp only [Option.getD_some] at hwrite
    split at hwrite
    · cases hwrite
    · rename_i written hwritten
      cases hwrite
      exact hwritten

/-- The paths of rules are those of any file name with a known extension. A template that is written
under such a path is loaded from it, and one that would replace a file is refused unless it is
forced. -/
theorem writeTemplate_holdsTemplate :
    (∀ (directory stem extension : String) (format : Workbook.Format),
        directory = "" ∨ directory.toList.getLast? = some Path.separator →
        stem ≠ "" → Path.separator ∉ stem.toList → extension.toLower ∈ format.extensions →
          Workbook.Format.ofPath ⟨directory ++ (stem ++ "." ++ extension)⟩ = .ok format) ∧
      ∀ (path : Path) (format : Workbook.Format), Workbook.Format.ofPath path = .ok format →
        ∀ tree : FileTree,
          (∀ force after report, tree.writeTemplate path force = (after, .ok report) →
            after.read path = .ok format.template ∧ after.HoldsTemplate path) ∧
          (tree.has path = true →
            ∃ failure, tree.writeTemplate path false = (tree, .error failure) ∧
              failure.message =
                "Config error: " ++ path.text ++ " already exists (use --force to overwrite)") := by
  refine ⟨fun _ _ _ _ => Workbook.Format.ofPath_of_name, ?_⟩
  intro path format h tree
  constructor
  · intro force after report hwrite
    have hread := read_of_write (write_of_writeTemplate h hwrite)
    exact ⟨hread, holdsTemplate_of_loadRules (loadRules_template h hread)⟩
  · intro hhas
    exact ⟨.occupied path, writeTemplate_of_has hhas, rfl⟩

def rulesFolder : FileTree where
  entries := [(["rules.d"], .directory)]

def rulesPath : Path :=
  ⟨"rules.d/main.old.TsV"⟩

theorem rulesFolder_writeTemplate :
    ∃ after report, rulesFolder.writeTemplate rulesPath false = (after, .ok report) ∧
      after.HoldsTemplate rulesPath ∧
      ∃ failure, after.writeTemplate rulesPath false = (after, .error failure) := by
  obtain ⟨haccepts, hwrites⟩ := writeTemplate_holdsTemplate
  have hformat : Workbook.Format.ofPath rulesPath = .ok .tabbed :=
    haccepts "rules.d/" "main.old" "TsV" .tabbed (.inr (by decide)) (by decide) (by decide)
      (by decide +kernel)
  obtain ⟨after, report, hwrite, hhas⟩ : ∃ after report,
      rulesFolder.writeTemplate rulesPath false = (after, .ok report) ∧
        after.has rulesPath = true := ⟨_, _, rfl, rfl⟩
  obtain ⟨hholds, -⟩ := hwrites rulesPath .tabbed hformat rulesFolder
  obtain ⟨-, hrefuses⟩ := hwrites rulesPath .tabbed hformat after
  obtain ⟨failure, hfailure, -⟩ := hrefuses hhas
  exact ⟨after, report, hwrite, (hholds _ _ _ hwrite).2, failure, hfailure⟩

end FileTree
end ArtifactRules
