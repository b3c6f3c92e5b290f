import ArtifactRules.Program
import ArtifactRules.Proofs.SettingsStore

/-! The files that a run changes. Saving makes directories where nothing is and then puts one file
where its path leads; a run saves once at most, and what has failed has changed no file. -/

namespace ArtifactRules
namespace FileTree

variable {tree ready after last : FileTree} {path : Path} {place : Place}

def file? (tree : FileTree) (place : Place) : Option Content :=
  match tree.node? place with
  | some (.file content) => some content
  | _ => none

/-- Some directories are new, each where nothing was. -/
structure Grows (tree after : FileTree) : Prop where
  current_eq : after.current = tree.current
  node?_eq : ∀ place, after.node? place = tree.node? place ∨
    tree.node? place = none ∧ after.node? place = some .directory

namespace Grows

theorem refl (tree : FileTree) : tree.Grows tree :=
  ⟨rfl, fun _ => .inl rfl⟩

theorem trans (h : tree.Grows after) (h' : after.Grows last) : tree.Grows last where
  current_eq := h'.current_eq.trans h.current_eq
  node?_eq place := by
    rcases h'.node?_eq place with hsame | ⟨hfree, hnew⟩
    · rw [hsame]
      exact h.node?_eq place
    · rcases h.node?_eq place with hsame | ⟨-, hdirectory⟩
      · exact .inr ⟨hsame.symm.trans hfree, hnew⟩
      · rw [hdirectory] at hfree
        cases hfree

theorem node?_eq_of_isSome (h : tree.Grows after) (hsome : (tree.node? place).isSome = true) :
    after.node? place = tree.node? place := by
  rcases h.node?_eq place with hsame | ⟨hfree, -⟩
  · exact hsame
  · rw [hfree] at hsome
    cases hsome

theorem file?_eq (h : tree.Grows after) (place : Place) : after.file? place = tree.file? place := by
  rcases h.node?_eq place with hsame | ⟨hfree, hnew⟩
  · rw [file?, file?, hsame]
  · rw [file?, file?, hfree, hnew]

theorem walk_eq_ok (h : tree.Grows after) {parts : List String} {p d : Place}
    (hwalk : tree.walk p parts = .ok d) : after.walk p parts = .ok d := by
  induction parts generalizing p with
  | nil => exact hwalk
  | cons part parts ih =>
    obtain ⟨hdirectory, hstep⟩ := walk_cons_eq_ok_iff.1 hwalk
    have hkept : after.isDirectory p = true := by
      have hsome : (tree.node? p).isSome = true := by
        rw [isDirectory, beq_iff_eq] at hdirectory
        rw [hdirectory]
        rfl
      rw [isDirectory, h.node?_eq_of_isSome hsome]
      exact hdirectory
    refine walk_cons_eq_ok_iff.2 ⟨hkept, ?_⟩
    rcases hstep with ⟨hstay, hrest⟩ | ⟨hup, hrest⟩ | ⟨hname, hnode, hrest⟩
    · exact .inl ⟨hstay, ih hrest⟩
    · exact .inr (.inl ⟨hup, ih hrest⟩)
    · refine .inr (.inr ⟨hname, ?_, ih hrest⟩)
      rw [h.node?_eq_of_isSome hnode]
      exact hnode

theorem locate_eq_ok (h : tree.Grows after) (hlocate : tree.locate path = .ok place) :
    after.locate path = .ok place := by
  obtain ⟨_, hchecked, hwalk⟩ := Reading.bind_eq_ok_iff.1 hlocate
  refine Reading.bind_eq_ok_iff.2 ⟨(), hchecked, ?_⟩
  rw [start, h.current_eq]
  exact h.walk_eq_ok hwalk

end Grows

theorem grows_put_directory (h : tree.node? place = none) :
    tree.Grows (tree.put place .directory) where
  current_eq := rfl
  node?_eq other := by
    have hne : place ≠ [] := by
      rintro rfl
      cases h
    rw [node?_put tree _ hne]
    split
    · rename_i hother
      subst hother
      exact .inr ⟨h, rfl⟩
    · exact .inl rfl

theorem grows_of_makeDirectory (h : tree.makeDirectory path = .ok after) : tree.Grows after := by
  obtain ⟨_, -, h⟩ := Reading.bind_eq_ok_iff.1 h
  split at h
  · cases h
  · obtain ⟨directory, -, h⟩ := Reading.bind_eq_ok_iff.1 h
    split_ifs at h with hdirectory hup hsize hfree
    cases h
    exact grows_put_directory (by simpa using hfree)

/-- Also where it fails, making directories leaves nothing but directories behind. -/
theorem grows_makeDirectories (tree : FileTree) (absolute : Bool) (steps : List String) :
    tree.Grows (tree.makeDirectories absolute steps).1 := by
  induction steps with
  | nil => exact Grows.refl tree
  | cons last before ih =>
    rw [makeDirectories]
    split
    · rename_i made hmade
      exact grows_of_makeDirectory hmade
    · split
      · rename_i above error habove
        rw [habove] at ih
        exact ih
      · rename_i above habove
        rw [habove] at ih
        split
        · rename_i made hmade
          exact ih.trans (grows_of_makeDirectory hmade)
        · exact ih
    · exact Grows.refl tree

theorem grows_withParent (tree : FileTree) (path : Path) :
    tree.Grows (tree.withParent path).1 := by
  rw [withParent]
  split_ifs
  · exact Grows.refl tree
  · exact grows_makeDirectories tree _ _

/-- How the files may be left when something is saved under a path, and whether that succeeds. -/
inductive Saves (tree : FileTree) (path : Path) : FileTree → Bool → Prop
  | failed {after : FileTree} : tree.Grows after → Saves tree path after false
  | saved {ready : FileTree} {place : Place} (text : String) : tree.Grows ready →
      ready.target path = .ok place → Saves tree path (ready.put place (.file (.text text))) true

theorem saves_of_write (h : tree.Grows ready) {text : String}
    (hwrite : ready.write path text = .ok after) : tree.Saves path after true := by
  obtain ⟨place, htarget, hput⟩ := Reading.bind_eq_ok_iff.1 hwrite
  cases hput
  exact .saved text h htarget

namespace Saves

variable {success : Bool}

/-- Only the file that the path leads to can be another, and only if it is saved. -/
theorem file?_eq_or (h : tree.Saves path after success) (place : Place) :
    after.file? place = tree.file? place ∨ success = true ∧ after.locate path = .ok place := by
  cases h with
  | failed hgrows => exact .inl (hgrows.file?_eq place)
  | @saved ready saved text hgrows htarget =>
    by_cases hplace : place = saved
    · subst hplace
      exact .inr ⟨rfl, locate_put htarget _⟩
    · obtain ⟨before, name, directory, htargets, rfl⟩ := target_eq_ok_iff.1 htarget
      refine .inl ?_
      rw [← hgrows.file?_eq place, file?, file?,
        node?_put ready _ (ne_nil_of_isDirectory htargets.free), if_neg hplace]

theorem locate_eq_ok (h : tree.Saves path after success) {other : Path}
    (hother : tree.locate other = .ok place) : after.locate other = .ok place := by
  cases h with
  | failed hgrows => exact hgrows.locate_eq_ok hother
  | saved text hgrows htarget =>
    obtain ⟨before, name, directory, htargets, rfl⟩ := target_eq_ok_iff.1 htarget
    obtain ⟨_, hchecked, hwalk⟩ := Reading.bind_eq_ok_iff.1 (hgrows.locate_eq_ok hother)
    exact Reading.bind_eq_ok_iff.2 ⟨(), hchecked, walk_put htargets.free hwalk⟩

theorem read_eq_ok (h : tree.Saves path after true) : ∃ text, after.read path = .ok text := by
  cases h with
  | saved text _ htarget => exact ⟨text, read_put htarget text⟩

end Saves

theorem saves_save (tree : FileTree) (path : Path) (text : String) :
    tree.Saves path (tree.save path text).1 (tree.save path text).2.isOk := by
  have hready := grows_withParent tree path
  cases hparent : tree.withParent path with
  | mk ready made =>
    rw [hparent] at hready
    cases made with
    | error error =>
      rw [save_of_withParent_error hparent]
      exact .failed hready
    | ok =>
      rw [save_of_withParent_ok hparent]
      cases hwrite : ready.write path text with
      | error error => exact .failed hready
      | ok written => exact saves_of_write hready hwrite

theorem saves_saveSettings (tree : FileTree) (path : Path) (settings : Settings) :
    tree.Saves path (tree.saveSettings path settings).1
      (tree.saveSettings path settings).2.isOk := by
  have hsave := saves_save tree path settings.render
  rw [saveSettings]
  cases hresult : tree.save path settings.render with
  | mk after result =>
    rw [hresult] at hsave
    cases result <;> exact hsave

theorem saves_configure {name value : String} (h : Settings.Accepts name value) (tree : FileTree)
    (path : Path) :
    tree.Saves path (tree.configure path (.set name value)).1
      (tree.configure path (.set name value)).2.result.isOk := by
  rw [configure]
  cases tree.loadSettings path with
  | error failure => exact .failed (Grows.refl tree)
  | ok settings =>
    simp only [Settings.setNamed_of_accepts h]
    have hsave := saves_saveSettings tree path (settings.after [.set name value])
    cases hresult : tree.saveSettings path (settings.after [.set name value]) with
    | mk after result =>
      rw [hresult] at hsave
      cases result <;> exact hsave

theorem writeTemplate_of_has (h : tree.has path = true) :
    tree.writeTemplate path false = (tree, .error (.occupied path)) := by
  rw [writeTemplate, h]
  rfl

theorem saves_writeTemplate (tree : FileTree) (path : Path) (force : Bool) :
    tree.Saves path (tree.writeTemplate path force).1 (tree.writeTemplate path force).2.isOk := by
  rw [writeTemplate]
  split_ifs
  · exact .failed (Grows.refl tree)
  · cases hwrite : tree.write path ((Workbook.Format.ofPath? path).getD .json).template with
    | error error =>
      simp only [hwrite]
      exact .failed (Grows.refl tree)
    | ok written =>
      simp only [hwrite]
      exact saves_of_write (Grows.refl tree) hwrite

end FileTree

namespace Invocation

variable {around : Surroundings} {invocation : Invocation} {path : Path}

/-- The path under which an invocation saves a file if it succeeds. A setting that is refused is not
saved. -/
def savesTo? (invocation : Invocation) (around : Surroundings) : Option Path :=
  match invocation.command with
  | .template path _ => some path
  | .config (some name) (some value) =>
    if Settings.Accepts name value then invocation.settingsPathIn around else none
  | .check _ | .classify _ _ _ | .labels | .config _ _ => none

theorem saves_run (h : invocation.savesTo? around = some path) (tree : FileTree) :
    tree.Saves path (invocation.run (invocation.settingsPathIn around) tree).1
      (invocation.run (invocation.settingsPathIn around) tree).2.result.isOk := by
  rw [run]
  cases settings tree (invocation.settingsPathIn around) with
  | error failure => exact .failed (FileTree.Grows.refl tree)
  | ok settings =>
    rw [savesTo?] at h
    split at h
    · rename_i path force hcommand
      cases h
      have hwrite := tree.saves_writeTemplate path force
      simp only [hcommand, Command.run]
      exact hwrite
    · rename_i name value hcommand
      split_ifs at h with haccepts
      have hset := FileTree.saves_configure haccepts tree path
      simp only [hcommand, h, Command.run, Command.settingsAction]
      exact hset
    all_goals cases h

theorem run_eq_self (h : invocation.savesTo? around = none) (tree : FileTree) :
    (invocation.run (invocation.settingsPathIn around) tree).1 = tree := by
  rw [run]
  cases settings tree (invocation.settingsPathIn around) with
  | error failure => rfl
  | ok settings =>
    cases hcommand : invocation.command with
    | check rules => rfl
    | classify artifacts rules heuristic => rfl
    | labels => rfl
    | template path force => simp [savesTo?, hcommand] at h
    | config key value =>
      cases hpath : invocation.settingsPathIn around with
      | none => rfl
      | some path =>
        apply FileTree.configure_eq_self
        intro name new haction haccepts
        -- only an action that names a key and a value sets one
        obtain ⟨rfl, rfl⟩ : key = some name ∧ value = some new := by
          cases key <;> cases value <;> simp_all [Command.settingsAction]
        simp [savesTo?, hcommand, haccepts, hpath] at h

theorem run_of_occupied (h : invocation.command = .template path false) {tree : FileTree}
    (hhas : tree.has path = true) (settingsPath : Option Path) :
    (invocation.run settingsPath tree).1 = tree ∧
      (invocation.run settingsPath tree).2.result.isOk = false := by
  rw [run]
  cases settings tree settingsPath with
  | error failure => exact ⟨rfl, rfl⟩
  | ok settings =>
    simp only [h, Command.run, FileTree.writeTemplate_of_has hhas]
    exact ⟨rfl, rfl⟩

end Invocation

namespace Program

variable {around : Surroundings} {arguments : List String} {tree : FileTree}

def savesTo? (around : Surroundings) (arguments : List String) : Option Path :=
  (Invocation.ofArguments? arguments).bind fun invocation => invocation.savesTo? around

theorem tree_finish (around : Surroundings) (invocation : Invocation) (tree : FileTree)
    (traced : Traced Report) : (finish around invocation tree traced).tree = tree := by
  rw [finish]
  cases traced.result <;> rfl

theorem code_finish (around : Surroundings) (invocation : Invocation) (tree : FileTree)
    (traced : Traced Report) :
    (finish around invocation tree traced).code =
      if traced.result.isOk then 0 else failureCode := by
  rw [finish]
  cases traced.result <;> rfl

theorem run_eq_finish {invocation : Invocation}
    (h : Invocation.ofArguments? arguments = some invocation) (around : Surroundings)
    (tree : FileTree) :
    run around arguments tree = finish around invocation
      (invocation.run (invocation.settingsPathIn around) tree).1
      (invocation.run (invocation.settingsPathIn around) tree).2 := by
  rw [run, h]

theorem saves_run {path : Path} (h : savesTo? around arguments = some path) (tree : FileTree) :
    tree.Saves path (run around arguments tree).tree ((run around arguments tree).code == 0) := by
  obtain ⟨invocation, hinvocation, hpath⟩ := Option.bind_eq_some_iff.1 h
  have hsaves := Invocation.saves_run hpath tree
  rw [run_eq_finish hinvocation, tree_finish, code_finish]
  cases hok : (invocation.run (invocation.settingsPathIn around) tree).2.result.isOk <;>
    rw [hok] at hsaves <;> exact hsaves

theorem tree_run_of_none (h : savesTo? around arguments = none) (tree : FileTree) :
    (run around arguments tree).tree = tree := by
  cases hinvocation : Invocation.ofArguments? arguments with
  | none => rw [run, hinvocation]
  | some invocation =>
    rw [savesTo?, hinvocation] at h
    rw [run_eq_finish hinvocation, tree_finish]
    exact Invocation.run_eq_self h tree

/-- What a run does to the files. -/
structure KeepsFiles (around : Surroundings) (arguments : List String) (tree : FileTree)
    (finished : Finished) : Prop where
  /-- A file that is new or changed is the one that the run has saved. -/
  changed : ∀ place, finished.tree.file? place ≠ tree.file? place →
    finished.code = 0 ∧ ∃ path, savesTo? around arguments = some path ∧
      finished.tree.locate path = .ok place
  changed_once : ∀ place other, finished.tree.file? place ≠ tree.file? place →
    finished.tree.file? other ≠ tree.file? other → place = other
  failed : finished.code ≠ 0 → ∀ place, finished.tree.file? place = tree.file? place
  /-- What was there, a file or a directory, is there. -/
  kept : ∀ path place, tree.locate path = .ok place → finished.tree.locate path = .ok place
  unsaved : savesTo? around arguments = none → finished.tree = tree
  occupied : ∀ invocation path, Invocation.ofArguments? arguments = some invocation →
    invocation.command = .template path false → tree.has path = true →
      finished.code = failureCode ∧ finished.tree = tree
  saved : ∀ path, savesTo? around arguments = some path → finished.code = 0 →
    ∃ text, finished.tree.read path = .ok text

theorem code_eq_and_locate_of_changed {place : Place}
    (h : (run around arguments tree).tree.file? place ≠ tree.file? place) :
    (run around arguments tree).code = 0 ∧ ∃ path, savesTo? around arguments = some path ∧
      (run around arguments tree).tree.locate path = .ok place := by
  cases hpath : savesTo? around arguments with
  | none =>
    rw [tree_run_of_none hpath] at h
    exact absurd rfl h
  | some path =>
    obtain ⟨hcode, hplace⟩ := ((saves_run hpath tree).file?_eq_or place).resolve_left h
    exact ⟨beq_iff_eq.1 hcode, path, rfl, hplace⟩

/-- Whatever the arguments and the files, a run saves one file at most, and none if it fails. -/
theorem run_keepsFiles (around : Surroundings) (arguments : List String) (tree : FileTree) :
    KeepsFiles around arguments tree (run around arguments tree) where
  changed _ := code_eq_and_locate_of_changed
  changed_once place other hplace hother := by
    obtain ⟨-, path, hpath, hlocate⟩ := code_eq_and_locate_of_changed hplace
    obtain ⟨-, path', hpath', hlocate'⟩ := code_eq_and_locate_of_changed hother
    rw [hpath] at hpath'
    cases hpath'
    rw [hlocate] at hlocate'
    exact Except.ok.inj hlocate'
  failed hcode place := by
    by_contra hchanged
    exact hcode (code_eq_and_locate_of_changed hchanged).1
  kept path place hplace := by
    cases hsaves : savesTo? around arguments with
    | none => rwa [tree_run_of_none hsaves]
    | some saved => exact (saves_run hsaves tree).locate_eq_ok hplace
  unsaved hnone := tree_run_of_none hnone tree
  occupied invocation path hinvocation hcommand hhas := by
    obtain ⟨htree, hok⟩ :=
      Invocation.run_of_occupied hcommand hhas (invocation.settingsPathIn around)
    rw [run_eq_finish hinvocation, tree_finish, code_finish, hok]
    exact ⟨rfl, htree⟩
  saved path hpath hcode := by
    have hsaves := saves_run hpath tree
    rw [hcode] at hsaves
    exact hsaves.read_eq_ok

end Program
end ArtifactRules
