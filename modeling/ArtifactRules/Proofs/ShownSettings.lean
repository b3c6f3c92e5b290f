import ArtifactRules.Proofs.ChangedFiles
import ArtifactRules.Proofs.ClassifyRun

/-! Settings as they are shown, and what a run without a file of rules makes of them. Settings that
are shown alike are the same, but for a file of rules that is set to the empty path and is shown as
if it were not set. -/

namespace ArtifactRules

namespace Settings

variable {settings other : Settings}

/-- The file of rules is set, to a path that is shown as if it were not. -/
def NamesNothing (settings : Settings) : Prop :=
  settings.rulesFile = some ⟨""⟩

instance (settings : Settings) : Decidable settings.NamesNothing :=
  inferInstanceAs (Decidable (_ = _))

theorem get_rulesFile_eq_empty_iff :
    settings.get .rulesFile = "" ↔ settings.rulesFile = none ∨ settings.NamesNothing := by
  rw [NamesNothing, get]
  cases settings.rulesFile with
  | none => simp
  | some path =>
    obtain ⟨text⟩ := path
    simp

theorem get_eq_of_listing_eq (h : settings.listing = other.listing) (key : Key) :
    settings.get key = other.get key := by
  simp only [listing, Key.all, List.map_cons, List.map_nil, List.cons.injEq, Prod.mk.injEq] at h
  cases key with
  | rulesFile => exact h.1.2
  | activeSheet => exact h.2.1.2

/-- A path is told from its text, unless the text is empty. -/
theorem eq_of_listing_eq (h : settings.listing = other.listing)
    (hnothing : settings.NamesNothing ↔ other.NamesNothing) : settings = other := by
  have hsheet : settings.activeSheet = other.activeSheet := get_eq_of_listing_eq h .activeSheet
  have hshown := get_eq_of_listing_eq h .rulesFile
  have hfile : settings.rulesFile = other.rulesFile := by
    by_cases hempty : settings.get .rulesFile = ""
    · have hunset := get_rulesFile_eq_empty_iff.1 hempty
      have hotherUnset := get_rulesFile_eq_empty_iff.1 (hshown ▸ hempty)
      by_cases hset : settings.NamesNothing
      · exact hset.trans (hnothing.1 hset).symm
      · rw [hunset.resolve_right hset, hotherUnset.resolve_right (mt hnothing.2 hset)]
    · have hotherShown : other.get .rulesFile ≠ "" := hshown ▸ hempty
      simp only [get] at hshown hempty hotherShown
      cases hrules : settings.rulesFile with
      | none => simp [hrules] at hempty
      | some path =>
        cases hotherRules : other.rulesFile with
        | none => simp [hotherRules] at hotherShown
        | some otherPath =>
          obtain ⟨text⟩ := path
          obtain ⟨otherText⟩ := otherPath
          simpa [hrules, hotherRules] using hshown
  exact congrArg₂ Settings.mk hfile hsheet

/-- Changing settings never sets the file of rules to the empty path. -/
theorem not_namesNothing_after (h : ¬ settings.NamesNothing) (actions : List SettingsAction) :
    ¬ (settings.after actions).NamesNothing := by
  simp only [NamesNothing, after]
  cases lastGiven? .rulesFile actions with
  | none => exact h
  | some value => by_cases hvalue : value = "" <;> simp [hvalue]

end Settings

namespace FileTree

variable {tree : FileTree} {settings other : Settings} {items : Path}

def classifyUnder (tree : FileTree) (settings : Settings) (heuristic : Bool) (items : Path) :
    Traced Report :=
  tree.classify settings (Command.effectiveRules settings none heuristic) items

theorem classifyUnder_of_namesNothing (h : settings.NamesNothing) (tree : FileTree)
    (items : Path) :
    tree.classifyUnder settings false items = ⟨[], .error (.unknownFormat ⟨""⟩)⟩ := by
  have hrules : Command.effectiveRules settings none false = some ⟨""⟩ := h
  have hfailure : (tree.rulesFor settings (some ⟨""⟩)).result = .error (.unknownFormat ⟨""⟩) := rfl
  rw [classifyUnder, hrules, classify_of_rules_error hfailure]
  rfl

theorem readArtifacts_eq_error {failure : Failure} (h : tree.readArtifacts items = .error failure) :
    (∃ error, failure = .unreadable items error) ∨ ∃ fault, failure = .undecodable fault := by
  rw [readArtifacts, readFile] at h
  cases hread : tree.read items with
  | error error =>
    rw [hread] at h
    cases h
    exact .inl ⟨error, rfl⟩
  | ok content =>
    rw [hread] at h
    cases hdecode : Artifact.decodeList content with
    | ok artifacts =>
      simp [Except.mapError, hdecode, bind, Except.bind] at h
    | error fault =>
      simp only [Except.mapError, hdecode, bind, Except.bind, Except.error.injEq] at h
      exact .inr ⟨fault, h.symm⟩

theorem message_ne_of_readArtifacts {failure : Failure}
    (h : tree.readArtifacts items = .error failure) (path : Path) :
    (Failure.unknownFormat path).message ≠ failure.message := by
  intro hmessage
  have hformat : (Failure.unknownFormat path).message.toList.head? = some 'C' :=
    Text.head?_toList_append (Text.head?_toList_append (by decide) _) _
  rw [hmessage] at hformat
  rcases readArtifacts_eq_error h with ⟨error, rfl⟩ | ⟨fault, rfl⟩
  · have hunreadable : (Failure.unreadable items error).message.toList.head? = some 'c' :=
      Text.head?_toList_append
        (Text.head?_toList_append (Text.head?_toList_append (by decide) _) _) _
    rw [hunreadable] at hformat
    exact absurd hformat (by decide)
  · have hundecodable : (Failure.undecodable fault).message.toList.head? = some 'S' :=
      Text.head?_toList_append (by decide) _
    rw [hundecodable] at hformat
    exact absurd hformat (by decide)

theorem result_classify_none (tree : FileTree) (settings : Settings) (items : Path) :
    (tree.classify settings none items).result =
      (tree.readArtifacts items).map (Report.ofArtifacts []) := by
  have hrules : (tree.rulesFor settings none).result = .ok [] := rfl
  cases hitems : tree.readArtifacts items with
  | error failure => rw [classify_of_items_error hrules hitems]; rfl
  | ok artifacts => rw [classify_of_ok hrules hitems]; rfl

theorem settings_eq_none_of_classifyUnder {heuristic : Bool} {report : Report}
    (h : (tree.classifyUnder settings heuristic items).result = .ok report) :
    report.settings = none := by
  rw [classifyUnder] at h
  cases hrules : (tree.rulesFor settings
      (Command.effectiveRules settings none heuristic)).result with
  | error failure =>
    rw [classify_of_rules_error hrules] at h
    cases h
  | ok rules =>
    cases hitems : tree.readArtifacts items with
    | error failure =>
      rw [classify_of_items_error hrules hitems] at h
      cases h
    | ok artifacts =>
      rw [classify_of_ok hrules hitems] at h
      cases h
      rfl

end FileTree

namespace Terminal

theorem toList_render_failureLines {failure : Failure} (h : ∀ error, failure ≠ .rules error)
    (colours : Bool) :
    (render colours (failureLines failure)).toList =
      Span.write colours ⟨"Error:", [.bold, .red]⟩ ++
        ' ' :: (failure.message.toList ++ ['\n']) := by
  have hlines :
      failureLines failure = [[⟨"Error:", [.bold, .red]⟩, ⟨" " ++ failure.message, []⟩]] := by
    cases failure with
    | rules error => exact absurd rfl (h error)
    | _ => rfl
  have hplain :
      Span.write colours ⟨" " ++ failure.message, []⟩ = ' ' :: failure.message.toList := by
    simp [Span.write]
  rw [hlines, render, String.toList_ofList]
  simp only [List.flatMap_cons, List.flatMap_nil, List.append_nil, List.append_assoc, hplain,
    List.cons_append]

theorem message_eq_of_render_eq {colours : Bool} {failure other : Failure}
    (h : ∀ error, failure ≠ .rules error) (hother : ∀ error, other ≠ .rules error)
    (hrender : render colours (failureLines failure) = render colours (failureLines other)) :
    failure.message = other.message := by
  have hchars := congrArg String.toList hrender
  rw [toList_render_failureLines h, toList_render_failureLines hother, List.append_cancel_left_eq,
    List.cons.injEq, List.append_cancel_right_eq, String.toList_inj] at hchars
  exact hchars.2

end Terminal

namespace Program

variable {around : Surroundings} {arguments otherArguments : List String}
  {invocation other : Invocation} {items : Path} {heuristic : Bool} {tree : FileTree}
  {settings otherSettings : Settings}

/-- The arguments ask for the artifacts to be classified, under the settings and without a file of
rules of their own. -/
structure ClassifiesUnder (around : Surroundings) (arguments : List String)
    (invocation : Invocation) (items : Path) (heuristic : Bool) (tree : FileTree)
    (settings : Settings) : Prop where
  invocation_eq : Invocation.ofArguments? arguments = some invocation
  command_eq : invocation.command = .classify items none heuristic
  settings_eq : Invocation.settings tree (invocation.settingsPathIn around) = .ok settings

/-- The runs differ in nothing but their log. -/
structure EndsAlike (finished other : Finished) : Prop where
  code_eq : finished.code = other.code
  output_eq : finished.output = other.output
  complaint_eq : finished.complaint = other.complaint
  tree_eq : finished.tree = other.tree

theorem EndsAlike.symm {finished other : Finished} (h : EndsAlike finished other) :
    EndsAlike other finished :=
  ⟨h.code_eq.symm, h.output_eq.symm, h.complaint_eq.symm, h.tree_eq.symm⟩

theorem ClassifiesUnder.run_eq
    (h : ClassifiesUnder around arguments invocation items heuristic tree settings) :
    run around arguments tree = finish around invocation tree
      ⟨.settings (invocation.settingsPathIn around) ::
          (tree.classifyUnder settings heuristic items).events,
        (tree.classifyUnder settings heuristic items).result⟩ :=
  run_of_classify h.invocation_eq h.command_eq h.settings_eq rfl

/-- The path of the settings is shown with settings only. -/
theorem endsAlike_finish {traced otherTraced : Traced Report}
    (h : traced.result = otherTraced.result)
    (hreport : ∀ report, traced.result = .ok report → report.settings = none) :
    EndsAlike (finish around invocation tree traced) (finish around other tree otherTraced) := by
  rw [finish, finish, ← h]
  cases hresult : traced.result with
  | error failure => exact ⟨rfl, rfl, rfl, rfl⟩
  | ok report =>
    refine ⟨rfl, ?_, rfl, rfl⟩
    simp [Terminal.reportLines, hreport report hresult]

theorem ClassifiesUnder.decides
    (h : ClassifiesUnder around arguments invocation items heuristic tree settings)
    (hrules : heuristic = true ∨ settings.rulesFile = none) {artifacts : List Artifact}
    (hitems : tree.readArtifacts items = .ok artifacts) :
    Decides around [] artifacts (run around arguments tree) := by
  have hnone : Command.effectiveRules settings none heuristic = none := by
    rcases hrules with rfl | hfile
    · rfl
    · cases heuristic with
      | false => exact hfile
      | true => rfl
  rw [h.run_eq]
  apply decides_finish
  rw [FileTree.classifyUnder, hnone, FileTree.result_classify_none, hitems]
  rfl

theorem ClassifiesUnder.fails
    (h : ClassifiesUnder around arguments invocation items false tree settings)
    (hnothing : settings.NamesNothing) :
    Fails around invocation (.unknownFormat ⟨""⟩) (run around arguments tree) := by
  rw [h.run_eq, FileTree.classifyUnder_of_namesNothing hnothing]
  refine fails_finish rfl ?_ tree
  intro artifact decision hmem
  cases List.mem_singleton.1 hmem

/-- A file of rules that is the empty path is missed even by a run that fails in another way. -/
theorem not_endsAlike_of_namesNothing
    (h : ClassifiesUnder around arguments invocation items false tree settings)
    (hother : ClassifiesUnder around otherArguments other items false tree otherSettings)
    (hnothing : settings.NamesNothing) (hunset : otherSettings.rulesFile = none) :
    ¬ EndsAlike (run around arguments tree) (run around otherArguments tree) := by
  intro halike
  have hfails := h.fails hnothing
  cases hitems : tree.readArtifacts items with
  | ok artifacts =>
    have hcode := (hother.decides (.inr hunset) hitems).code_eq
    rw [← halike.code_eq, hfails.code_eq] at hcode
    exact absurd hcode (by decide)
  | error failure =>
    -- both fail with one line, and the two messages do not begin alike
    have hresult : (tree.classifyUnder otherSettings false items).result = .error failure := by
      have hnone : Command.effectiveRules otherSettings none false = none := hunset
      rw [FileTree.classifyUnder, hnone, FileTree.result_classify_none, hitems]
      rfl
    have hcomplaint := hfails.complaint_eq.symm.trans halike.complaint_eq
    rw [hother.run_eq, finish, hresult] at hcomplaint
    have hrules : ∀ error, failure ≠ .rules error := by
      rcases FileTree.readArtifacts_eq_error hitems with ⟨_, rfl⟩ | ⟨_, rfl⟩ <;> simp
    exact FileTree.message_ne_of_readArtifacts hitems ⟨""⟩
      (Terminal.message_eq_of_render_eq (by simp) hrules hcomplaint)

/-- Runs under settings that are shown alike end alike, unless the settings of one of them set the
file of rules to the empty path and those of the other do not. Then the one fails, whatever else is
in the tree, and the other asks the heuristic. -/
theorem run_classify_of_listing_eq
    (h : ClassifiesUnder around arguments invocation items heuristic tree settings)
    (hother : ClassifiesUnder around otherArguments other items heuristic tree otherSettings)
    (hlisting : settings.listing = otherSettings.listing) :
    (EndsAlike (run around arguments tree) (run around otherArguments tree) ↔
        heuristic = true ∨ (settings.NamesNothing ↔ otherSettings.NamesNothing)) ∧
      ((settings.NamesNothing ↔ otherSettings.NamesNothing) → settings = otherSettings) ∧
      (settings.get .rulesFile = "" → ¬ settings.NamesNothing → settings.rulesFile = none ∧
        ∀ artifacts, tree.readArtifacts items = .ok artifacts →
          Decides around [] artifacts (run around arguments tree)) ∧
      (settings.NamesNothing → heuristic = false →
        Fails around invocation (.unknownFormat ⟨""⟩) (run around arguments tree)) := by
  refine ⟨⟨?_, ?_⟩, Settings.eq_of_listing_eq hlisting, ?_, ?_⟩
  · intro halike
    by_contra hdiffer
    rw [not_or, Bool.not_eq_true] at hdiffer
    obtain ⟨rfl, hdiffer⟩ := hdiffer
    have hshown := Settings.get_eq_of_listing_eq hlisting .rulesFile
    -- the one that is set to the empty path is shown as empty, so the other is too
    by_cases hnothing : settings.NamesNothing
    · have hempty := hshown.symm.trans (Settings.get_rulesFile_eq_empty_iff.2 (.inr hnothing))
      have hunset := (Settings.get_rulesFile_eq_empty_iff.1 hempty).resolve_right
        fun hset => hdiffer (iff_of_true hnothing hset)
      exact not_endsAlike_of_namesNothing h hother hnothing hunset halike
    · have hset : otherSettings.NamesNothing := by
        by_contra hset
        exact hdiffer (iff_of_false hnothing hset)
      have hempty := hshown.trans (Settings.get_rulesFile_eq_empty_iff.2 (.inr hset))
      have hunset := (Settings.get_rulesFile_eq_empty_iff.1 hempty).resolve_right hnothing
      exact not_endsAlike_of_namesNothing hother h hset hunset halike.symm
  · intro hsame
    have hresult : (tree.classifyUnder settings heuristic items).result =
        (tree.classifyUnder otherSettings heuristic items).result := by
      rcases hsame with rfl | hnothing
      · rw [FileTree.classifyUnder, FileTree.classifyUnder]
        exact (FileTree.result_classify_none tree settings items).trans
          (FileTree.result_classify_none tree otherSettings items).symm
      · rw [Settings.eq_of_listing_eq hlisting hnothing]
    rw [h.run_eq, hother.run_eq]
    exact endsAlike_finish hresult fun _ => FileTree.settings_eq_none_of_classifyUnder
  · intro hempty hnothing
    have hunset := (Settings.get_rulesFile_eq_empty_iff.1 hempty).resolve_right hnothing
    exact ⟨hunset, fun _ => h.decides (.inr hunset)⟩
  · rintro hnothing rfl
    exact h.fails hnothing

def emptyRulesFiles : FileTree where
  entries := [
    (["c.json"], .file (.text "\x7b\"rules_file\": \"\"\x7d")),
    (["d.json"], .file (.text "\x7b\"rules_file\": null\x7d")),
    (["a.json"], .file (.text "[]"))]

theorem emptyRulesFiles_run_classify :
    EndsAlike (run {} ["--config", "d.json", "classify", "a.json"] emptyRulesFiles)
        (run {} ["-v", "classify", "a.json"] emptyRulesFiles) ∧
      (run {} ["--config", "d.json", "classify", "a.json"] emptyRulesFiles).code = 0 := by
  have hnull : ClassifiesUnder {} ["--config", "d.json", "classify", "a.json"]
      { settingsPath := some ⟨"d.json"⟩, command := .classify ⟨"a.json"⟩ none false } ⟨"a.json"⟩
      false emptyRulesFiles {} := ⟨by decide +kernel, rfl, by decide +kernel⟩
  have hmissing : ClassifiesUnder {} ["-v", "classify", "a.json"]
      { verbose := true, command := .classify ⟨"a.json"⟩ none false } ⟨"a.json"⟩
      false emptyRulesFiles {} := ⟨by decide +kernel, rfl, by decide +kernel⟩
  obtain ⟨halike, -, hdecides, -⟩ := run_classify_of_listing_eq hnull hmissing rfl
  have hitems : emptyRulesFiles.readArtifacts ⟨"a.json"⟩ = .ok [] := by decide +kernel
  exact ⟨halike.2 (.inr Iff.rfl), ((hdecides rfl (by decide)).2 [] hitems).code_eq⟩

/-- The run under the first file fails and the one under the second does not. -/
theorem emptyRulesFiles_end_unlike :
    ∃ settings other, emptyRulesFiles.loadSettings ⟨"c.json"⟩ = .ok settings ∧
      emptyRulesFiles.loadSettings ⟨"d.json"⟩ = .ok other ∧ settings.listing = other.listing ∧
      (run {} ["--config", "c.json", "classify", "a.json"] emptyRulesFiles).complaint =
        "Error: Config error: cannot read rules from : expected a .json, .tsv or .txt file\n" ∧
      (run {} ["--config", "d.json", "classify", "a.json"] emptyRulesFiles).complaint = "" := by
  have hset : emptyRulesFiles.loadSettings ⟨"c.json"⟩ = .ok ⟨some ⟨""⟩, "Active"⟩ := by
    decide +kernel
  have hunset : emptyRulesFiles.loadSettings ⟨"d.json"⟩ = .ok ⟨none, "Active"⟩ := by
    decide +kernel
  exact ⟨_, _, hset, hunset, rfl, by decide +kernel, by decide +kernel⟩

end Program
end ArtifactRules
