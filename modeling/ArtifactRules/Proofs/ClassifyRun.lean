import ArtifactRules.Program
import ArtifactRules.Proofs.LoadedRules
import ArtifactRules.Proofs.Places

/-! Runs that classify. A run loads the settings, then the rules, then the artifacts, and ends at the
first of them that fails, before anything is decided. Only a run without rules asks the heuristic. -/

namespace ArtifactRules

namespace Traced

variable {α β : Type} {first : Traced α}

theorem bind_of_ok {a : α} (h : first.result = .ok a) (next : α → Traced β) :
    first >>= next = ⟨first.events ++ (next a).events, (next a).result⟩ := by
  change first.andThen next = _
  rw [andThen, h]

theorem bind_of_error {failure : Failure} (h : first.result = .error failure)
    (next : α → Traced β) : first >>= next = ⟨first.events, .error failure⟩ := by
  change first.andThen next = _
  rw [andThen, h]

theorem ofExcept_ok_bind (a : α) (next : α → Traced β) : ofExcept (.ok a) >>= next = next a := rfl

theorem ofExcept_error_bind (failure : Failure) (next : α → Traced β) :
    ofExcept (.error failure) >>= next = ⟨[], .error failure⟩ := rfl

end Traced

def Event.Undecided (events : List Event) : Prop :=
  ∀ artifact decision, Event.judged artifact decision ∉ events

namespace FileTree

variable {tree other : FileTree} {path : Path} {active : String}

theorem openWorkbook_eq (tree : FileTree) (path : Path) :
    tree.openWorkbook path = (Workbook.Format.ofPath path).bind fun format =>
      ((tree.read path).mapError (.unreadable path)).bind fun content =>
        format.decode path content := rfl

def rulesFor (tree : FileTree) (settings : Settings) : Option Path → Traced RuleSet
  | some path => tree.loadRules path settings.activeSheet
  | none => pure []

theorem classify_eq (tree : FileTree) (settings : Settings) (rulesPath : Option Path)
    (items : Path) :
    tree.classify settings rulesPath items =
      tree.rulesFor settings rulesPath >>= fun rules =>
        Traced.ofExcept (tree.readArtifacts items) >>= fun artifacts =>
          ⟨(rules.judgeAll artifacts).map Judged.event, .ok (.ofArtifacts rules artifacts)⟩ := by
  cases rulesPath <;> rfl

variable {settings : Settings} {rulesPath : Option Path} {items : Path} {rules : RuleSet}

theorem classify_of_rules_error {failure : Failure}
    (h : (tree.rulesFor settings rulesPath).result = .error failure) :
    tree.classify settings rulesPath items =
      ⟨(tree.rulesFor settings rulesPath).events, .error failure⟩ := by
  rw [classify_eq, Traced.bind_of_error h]

theorem classify_of_items_error (hrules : (tree.rulesFor settings rulesPath).result = .ok rules)
    {failure : Failure} (h : tree.readArtifacts items = .error failure) :
    tree.classify settings rulesPath items =
      ⟨(tree.rulesFor settings rulesPath).events, .error failure⟩ := by
  rw [classify_eq, Traced.bind_of_ok hrules, h, Traced.ofExcept_error_bind, List.append_nil]

theorem classify_of_ok (hrules : (tree.rulesFor settings rulesPath).result = .ok rules)
    {artifacts : List Artifact} (h : tree.readArtifacts items = .ok artifacts) :
    tree.classify settings rulesPath items =
      ⟨(tree.rulesFor settings rulesPath).events ++ (rules.judgeAll artifacts).map Judged.event,
        .ok (.ofArtifacts rules artifacts)⟩ := by
  rw [classify_eq, Traced.bind_of_ok hrules, h, Traced.ofExcept_ok_bind]

section SameButFile

variable {place : Place}

theorem SameButFile.loadSettings_eq (h : tree.SameButFile other place)
    (hlast : (tree.passed path).getLast? ≠ some place) :
    other.loadSettings path = tree.loadSettings path := by
  rw [loadSettings, loadSettings, h.has_eq hlast]
  cases hd : tree.locate path with
  | error error => simp [has, hd, Except.isOk, Except.toBool]
  | ok d => rw [readFile, readFile, h.read_eq_of_locate hlast hd]

theorem SameButFile.settings_eq (h : tree.SameButFile other place) {settingsPath : Option Path}
    (hlast : ∀ path ∈ settingsPath, (tree.passed path).getLast? ≠ some place) :
    Invocation.settings other settingsPath = Invocation.settings tree settingsPath := by
  cases settingsPath with
  | none => rfl
  | some path => exact h.loadSettings_eq (hlast path rfl)

end SameButFile

end FileTree

namespace Program

variable {around : Surroundings} {arguments : List String} {invocation : Invocation}
  {items : Path} {given : Option Path} {heuristic : Bool} {tree : FileTree}

/-- The run has failed, with the failure for its complaint, and nothing was decided. -/
structure Fails (around : Surroundings) (invocation : Invocation) (failure : Failure)
    (finished : Finished) : Prop where
  code_eq : finished.code = 1
  output_eq : finished.output = ""
  complaint_eq :
    finished.complaint = Terminal.render around.colours (Terminal.failureLines failure)
  log_eq : ∃ events, finished.log = logText around invocation.verbose events ∧
    Event.Undecided events

/-- The run has printed what the rules decide of the artifacts, in their order, and its messages. -/
structure Decides (around : Surroundings) (rules : RuleSet) (artifacts : List Artifact)
    (finished : Finished) : Prop where
  code_eq : finished.code = 0
  output_eq : finished.output = Terminal.render around.colours
    ((artifacts.map fun a => Terminal.judgedLine ⟨a, rules.explain a⟩) ++
      (Report.ofArtifacts rules artifacts).messages.map Terminal.messageLine)
  complaint_eq : finished.complaint = ""

theorem fails_finish {traced : Traced Report} {failure : Failure}
    (h : traced.result = .error failure) (hevents : Event.Undecided traced.events)
    (tree : FileTree) : Fails around invocation failure (finish around invocation tree traced) := by
  rw [finish, h]
  exact ⟨rfl, rfl, rfl, traced.events, rfl, hevents⟩

theorem reportLines_ofArtifacts (path : Path) (rules : RuleSet) (artifacts : List Artifact) :
    Terminal.reportLines path (.ofArtifacts rules artifacts) =
      (artifacts.map fun a => Terminal.judgedLine ⟨a, rules.explain a⟩) ++
        (Report.ofArtifacts rules artifacts).messages.map Terminal.messageLine := by
  have hjudged : (rules.judgeAll artifacts).map Terminal.judgedLine =
      artifacts.map fun a => Terminal.judgedLine ⟨a, rules.explain a⟩ := by
    rw [RuleSet.judgeAll, List.map_map]
    rfl
  rw [← hjudged]
  simp [Terminal.reportLines, Report.ofArtifacts]

theorem decides_finish {traced : Traced Report} {rules : RuleSet} {artifacts : List Artifact}
    (h : traced.result = .ok (.ofArtifacts rules artifacts)) (tree : FileTree) :
    Decides around rules artifacts (finish around invocation tree traced) := by
  rw [finish, h]
  refine ⟨rfl, ?_, rfl⟩
  rw [← reportLines_ofArtifacts ((invocation.settingsPathIn around).getD ⟨""⟩)]

section Classify

variable (h : Invocation.ofArguments? arguments = some invocation)
  (hcommand : invocation.command = .classify items given heuristic) {settings : Settings}
  (hsettings : Invocation.settings tree (invocation.settingsPathIn around) = .ok settings)
include h hcommand hsettings

theorem run_of_classify {traced : Traced Report}
    (htraced : tree.classify settings (Command.effectiveRules settings given heuristic) items =
      traced) :
    run around arguments tree = finish around invocation tree
      ⟨.settings (invocation.settingsPathIn around) :: traced.events, traced.result⟩ := by
  rw [run, h]
  simp only [Invocation.run, hsettings, hcommand, Command.run, htraced]
  rfl

end Classify

end Program
end ArtifactRules
