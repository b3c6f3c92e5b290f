import ArtifactRules.Command
import ArtifactRules.Proofs.Places
import ArtifactRules.Proofs.WrittenDocuments

/-! Settings kept in a file. After any actions on a settings file the settings are those that the
last accepted values give, and every action is answered from the settings of its moment. -/

namespace ArtifactRules

namespace Settings

/-- Any value is accepted for the rules file, and any that is not blank for the active sheet. -/
def Accepts (name value : String) : Prop :=
  name = "rules_file" ∨ name = "active_sheet" ∧ ∃ c ∈ value.toList, Text.isBlank c = false

instance (name value : String) : Decidable (Accepts name value) :=
  decidable_of_iff (name = "rules_file" ∨
      name = "active_sheet" ∧ (value.toList.any fun c => !Text.isBlank c) = true) (by simp [Accepts])

def given? (key : Key) : SettingsAction → Option String
  | .set name value =>
    if name = key.name ∧ Accepts name value then some (Text.trim value) else none
  | _ => none

def lastGiven? (key : Key) (actions : List SettingsAction) : Option String :=
  actions.reverse.findSome? (given? key)

/-- What the settings are after the actions. A rules file of the empty value is unset. -/
def after (settings : Settings) (actions : List SettingsAction) : Settings where
  rulesFile :=
    match lastGiven? .rulesFile actions with
    | none => settings.rulesFile
    | some value => if value = "" then none else some ⟨value⟩
  activeSheet := (lastGiven? .activeSheet actions).getD settings.activeSheet

variable {settings : Settings} {name value : String}

theorem lastGiven?_cons (key : Key) (action : SettingsAction) (actions : List SettingsAction) :
    lastGiven? key (action :: actions) =
      (lastGiven? key actions).or (lastGiven? key [action]) := by
  rw [lastGiven?, List.reverse_cons, List.findSome?_append]
  rfl

theorem after_cons (settings : Settings) (action : SettingsAction)
    (actions : List SettingsAction) :
    settings.after (action :: actions) = (settings.after [action]).after actions := by
  simp only [after, lastGiven?_cons _ action actions]
  congr 1
  · cases lastGiven? .rulesFile actions <;> rfl
  · cases lastGiven? .activeSheet actions <;> rfl

theorem after_of_refused {action : SettingsAction}
    (h : ∀ name value, action = .set name value → ¬ Accepts name value) (settings : Settings) :
    settings.after [action] = settings := by
  cases action with
  | showAll => rfl
  | showKey key => rfl
  | set name value => simp [after, lastGiven?, given?, h name value rfl]

theorem trim_ne_empty_of_accepts (h : Accepts "active_sheet" value) : Text.trim value ≠ "" := by
  obtain ⟨-, c, hc, hkept⟩ := h.resolve_left (by decide)
  intro hblank
  rw [Text.trim_eq_empty_iff.1 hblank c hc] at hkept
  cases hkept

theorem setNamed_activeSheet (settings : Settings) (value : String) :
    settings.setNamed "active_sheet" value =
      if Text.trim value = "" then .error .emptyActiveSheet
      else .ok { settings with activeSheet := Text.trim value } := rfl

theorem setNamed_of_accepts (h : Accepts name value) (settings : Settings) :
    settings.setNamed name value = .ok (settings.after [.set name value]) := by
  rcases h with rfl | ⟨rfl, hvalue⟩
  · rfl
  · have haccepts : Accepts "active_sheet" value := .inr ⟨rfl, hvalue⟩
    rw [setNamed_activeSheet, if_neg (trim_ne_empty_of_accepts haccepts)]
    simp [after, lastGiven?, given?, haccepts, Key.name]

theorem get?_after_of_accepts (h : Accepts name value) (settings : Settings) :
    (settings.after [.set name value]).get? name = some (Text.trim value) := by
  have hset := setNamed_of_accepts h settings
  rcases h with rfl | ⟨rfl, -⟩
  · have hkey : settings.set .rulesFile value = .ok _ := hset
    exact congrArg some (get_of_set hkey .rulesFile)
  · have hkey : settings.set .activeSheet value = .ok _ := hset
    exact congrArg some (get_of_set hkey .activeSheet)

def refusal (name : String) : SetFault :=
  if name = "active_sheet" then .emptyActiveSheet else .unknownKey name

theorem setNamed_of_not_accepts (h : ¬ Accepts name value) (settings : Settings) :
    settings.setNamed name value = .error (refusal name) := by
  rw [Accepts, not_or] at h
  obtain ⟨hrules, hblank⟩ := h
  by_cases hsheet : name = "active_sheet"
  · subst hsheet
    have htrim : Text.trim value = "" := by
      rw [Text.trim_eq_empty_iff]
      simpa using hblank
    rw [setNamed_activeSheet, if_pos htrim]
    rfl
  · have hname : Key.ofName? name = none := by
      simp [Key.ofName?, Key.all, Key.name, Ne.symm hrules, Ne.symm hsheet]
    rw [setNamed, hname, refusal, if_neg hsheet]

theorem trim_activeSheet_after (h : Text.trim settings.activeSheet ≠ "")
    (action : SettingsAction) : Text.trim (settings.after [action]).activeSheet ≠ "" := by
  cases action with
  | showAll => exact h
  | showKey key => exact h
  | set name value =>
    by_cases hsheet : name = "active_sheet" ∧ Accepts name value
    · obtain ⟨rfl, haccepts⟩ := hsheet
      have hvalue : (settings.after [.set "active_sheet" value]).activeSheet = Text.trim value := by
        simp [after, lastGiven?, given?, haccepts, Key.name]
      rw [hvalue, ne_eq, Text.trim_trim_eq_empty_iff]
      exact trim_ne_empty_of_accepts haccepts
    · have hvalue : (settings.after [.set name value]).activeSheet = settings.activeSheet := by
        simp [after, lastGiven?, given?, hsheet, Key.name]
      rwa [hvalue]

end Settings

namespace FileTree

variable {tree : FileTree} {path : Path} {settings : Settings}

def configureAll (tree : FileTree) (path : Path) (actions : List SettingsAction) : FileTree :=
  actions.foldl (fun tree action => (tree.configure path action).1) tree

/-- The file holds the settings, or no file and they are the defaults, and it can be written. -/
structure Stores (tree : FileTree) (path : Path) (settings : Settings) : Prop where
  loads : tree.loadSettings path = .ok settings
  canSave : tree.CanSave path

theorem trim_activeSheet_of_loadSettings (h : tree.loadSettings path = .ok settings) :
    Text.trim settings.activeSheet ≠ "" := by
  rw [loadSettings] at h
  split at h
  · obtain ⟨content, -, h⟩ := Reading.bind_eq_ok_iff.1 h
    obtain ⟨decoded, -, h⟩ := Reading.bind_eq_ok_iff.1 h
    rw [Settings.checked] at h
    split_ifs at h with hblank
    cases h
    exact hblank
  · cases h
    decide

/-- Settings that are saved are loaded again, and others can replace them. -/
theorem CanSave.saveSettings (h : tree.CanSave path)
    (hsheet : Text.trim settings.activeSheet ≠ "") :
    ∃ after, tree.saveSettings path settings = (after, .ok ()) ∧ after.Stores path settings := by
  obtain ⟨after, hsave, hhas, hread, hcanSave⟩ := h.save settings.render
  refine ⟨after, ?_, ?_, hcanSave⟩
  · rw [FileTree.saveSettings, hsave]
    rfl
  · rw [loadSettings, if_pos hhas, readFile, hread]
    simp only [Except.mapError, Reading.bind_eq_ok_iff, Except.ok.injEq, exists_eq_left']
    refine ⟨settings, ?_, ?_⟩
    · rw [Settings.decode_render]
    · rw [Settings.checked, if_neg hsheet]

/-- Without a value that is accepted nothing is written, whatever the file holds. -/
theorem configure_eq_self {action : SettingsAction}
    (h : ∀ name value, action = .set name value → ¬ Settings.Accepts name value)
    (tree : FileTree) (path : Path) : (tree.configure path action).1 = tree := by
  rw [configure]
  cases tree.loadSettings path with
  | error failure => rfl
  | ok settings =>
    cases action with
    | showAll => rfl
    | showKey key => rfl
    | set name value => simp only [Settings.setNamed_of_not_accepts (h name value rfl)]

/-- How the actions on a settings file are answered while it holds the settings. -/
structure Answers (tree : FileTree) (path : Path) (settings : Settings) : Prop where
  showAll : tree.configure path .showAll = (tree, pure { settings := some settings })
  showKey : ∀ key : Settings.Key, tree.configure path (.showKey key.name) =
    (tree, pure (.ofMessage .info (settings.get key)))
  showUnknown : ∀ name, (∀ key : Settings.Key, name ≠ key.name) →
    tree.configure path (.showKey name) =
      (tree, pure (.ofMessage .error ("Unknown config key: " ++ name)))
  set_accepted : ∀ name value, Settings.Accepts name value →
    (tree.configure path (.set name value)).2 =
      ⟨[.saved path name], .ok (.ofMessage .success (name ++ " set to " ++ Text.trim value))⟩
  set_refused : ∀ name value, ¬ Settings.Accepts name value →
    tree.configure path (.set name value) =
      (tree, pure (.ofMessage .error (Settings.refusal name).message))

theorem Stores.configure_set (h : tree.Stores path settings) {name value : String}
    (haccepts : Settings.Accepts name value) :
    ∃ after, tree.configure path (.set name value) =
        (after, ⟨[.saved path name],
          .ok (.ofMessage .success (name ++ " set to " ++ Text.trim value))⟩) ∧
      after.Stores path (settings.after [.set name value]) := by
  -- a blank name would be saved and then keep the file from being loaded
  have hsheet := Settings.trim_activeSheet_after (trim_activeSheet_of_loadSettings h.loads)
    (.set name value)
  obtain ⟨after, hsave, hstores⟩ := h.canSave.saveSettings hsheet
  refine ⟨after, ?_, hstores⟩
  simp only [configure, h.loads, Settings.setNamed_of_accepts haccepts, hsave,
    Settings.get?_after_of_accepts haccepts, Option.getD_some]

theorem Stores.configure_refused (h : tree.Stores path settings) {name value : String}
    (hrefused : ¬ Settings.Accepts name value) :
    tree.configure path (.set name value) =
      (tree, pure (.ofMessage .error (Settings.refusal name).message)) := by
  simp only [configure, h.loads, Settings.setNamed_of_not_accepts hrefused]

theorem Stores.answers (h : tree.Stores path settings) : tree.Answers path settings where
  showAll := by simp only [configure, h.loads]
  showKey key := by
    simp only [configure, h.loads]
    cases key <;> rfl
  showUnknown name hname := by
    have hkey : Settings.Key.ofName? name = none := by
      simp [Settings.Key.ofName?, Settings.Key.all, (hname _).symm]
    simp only [configure, h.loads, Report.ofSetting, Settings.get?, hkey]
    rfl
  set_accepted name value haccepts := by
    obtain ⟨after, hset, -⟩ := h.configure_set haccepts
    rw [hset]
  set_refused name value hrefused := h.configure_refused hrefused

/-- One action keeps a file of settings one, with the settings the action makes. -/
theorem Stores.step (h : tree.Stores path settings) (action : SettingsAction) :
    (tree.configure path action).1.Stores path (settings.after [action]) := by
  by_cases hset : ∃ name value, action = .set name value ∧ Settings.Accepts name value
  · obtain ⟨name, value, rfl, haccepts⟩ := hset
    obtain ⟨after, hconfigure, hstores⟩ := h.configure_set haccepts
    rw [hconfigure]
    exact hstores
  · have hrefused : ∀ name value, action = .set name value → ¬ Settings.Accepts name value :=
      fun name value haction haccepts => hset ⟨name, value, haction, haccepts⟩
    rw [configure_eq_self hrefused, Settings.after_of_refused hrefused]
    exact h

theorem Stores.run (h : tree.Stores path settings) (actions : List SettingsAction) :
    (tree.configureAll path actions).Stores path (settings.after actions) := by
  induction actions generalizing tree settings with
  | nil => exact h
  | cons action actions ih =>
    rw [Settings.after_cons]
    exact ih (h.step action)

end FileTree
end ArtifactRules
