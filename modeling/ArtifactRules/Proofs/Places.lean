import Mathlib.Data.String.Basic
import ArtifactRules.FileTree
import ArtifactRules.Proofs.Readings
import ArtifactRules.Proofs.Texts

/-! Places that paths lead to. A path that can be written names a file in a directory that is there,
and what is saved there is read back from the same path and can be replaced. In two trees that differ
in one file, paths that do not lead through that file lead to the same. -/

namespace ArtifactRules

namespace Path

structure IsName (part : String) : Prop where
  ne_empty : part ≠ ""
  ne_here : part ≠ here
  ne_up : part ≠ up
  size_le : part.utf8ByteSize ≤ FileTree.maxName

variable {steps : List String}

theorem separator_notMem_of_mem_parts {path : Path} {part : String} (h : part ∈ path.parts) :
    separator ∉ part.toList := by
  obtain ⟨cs, hcs, rfl⟩ := List.mem_map.1 h
  simpa using Text.notMem_of_mem_fieldChars hcs

theorem text_eq_join (path : Path) : path.text = Text.join "/" path.parts :=
  (Text.join_fields separator path.text).symm

theorem isAbsolute_iff {path : Path} :
    path.isAbsolute = true ↔ ∃ rest, rest ≠ [] ∧ path.parts = "" :: rest := by
  constructor
  · intro h
    cases hchars : path.text.toList with
    | nil => simp [isAbsolute, hchars] at h
    | cons c cs =>
      obtain rfl : c = separator := by simpa [isAbsolute, hchars] using h
      refine ⟨(Text.fieldChars separator cs).map String.ofList, ?_, ?_⟩
      · simp [Text.fieldChars_ne_nil]
      · simp [parts, Text.fields, hchars, Text.fieldChars]
  · rintro ⟨rest, hrest, hparts⟩
    rw [isAbsolute, text_eq_join, hparts, Text.join]
    · simp [separator]
    · exact hrest

theorem parts_ofSteps (hne : steps ≠ []) (h : ∀ step ∈ steps, separator ∉ step.toList)
    (absolute : Bool) :
    (ofSteps absolute steps).parts = (if absolute then [""] else []) ++ steps := by
  cases absolute with
  | false =>
    rw [parts, ofSteps, if_neg Bool.false_ne_true, String.empty_append]
    exact Text.fields_join hne h
  | true =>
    have htext : (ofSteps true steps).text = Text.join "/" ("" :: steps) := by
      rw [ofSteps, Text.join]
      · simp
      · exact hne
    rw [parts, htext]
    exact Text.fields_join (by simp) (by simpa using h)

theorem isAbsolute_ofSteps (hne : steps ≠ []) (h : ∀ step ∈ steps, separator ∉ step.toList)
    (hempty : "" ∉ steps) (absolute : Bool) :
    (ofSteps absolute steps).isAbsolute = absolute := by
  rw [Bool.eq_iff_iff, isAbsolute_iff, parts_ofSteps hne h]
  cases absolute with
  | false =>
    simp only [Bool.false_eq_true, if_false, List.nil_append, iff_false]
    rintro ⟨rest, -, rfl⟩
    exact hempty (by simp)
  | true => simpa using hne

theorem toList_text_sublist {path other : Path} (h : other.parts.Sublist path.parts) :
    other.text.toList.Sublist path.text.toList := by
  have hjoin : ∀ path : Path,
      path.text.toList = Text.joinChars separator (path.parts.map String.toList) := by
    intro path
    rw [← Text.toList_join, text_eq_join]
    rfl
  rw [hjoin, hjoin]
  exact Text.joinChars_sublist (h.map _)

section Parent

variable {path : Path}

theorem isStep_of_mem {step : String} (h : step ∈ path.steps.dropLast) :
    separator ∉ step.toList ∧ step ≠ "" := by
  obtain ⟨hpart, hkept⟩ := List.mem_filter.1 (List.dropLast_subset _ h)
  refine ⟨separator_notMem_of_mem_parts hpart, ?_⟩
  rintro rfl
  simp at hkept

theorem parts_parent (h : path.steps.dropLast ≠ []) :
    path.parent.parts = (if path.isAbsolute then [""] else []) ++ path.steps.dropLast :=
  parts_ofSteps h (fun _ hstep => (isStep_of_mem hstep).1) path.isAbsolute

theorem isAbsolute_parent (h : path.steps.dropLast ≠ []) :
    path.parent.isAbsolute = path.isAbsolute :=
  isAbsolute_ofSteps h (fun _ hstep => (isStep_of_mem hstep).1)
    (fun hstep => (isStep_of_mem hstep).2 rfl) path.isAbsolute

theorem parts_parent_sublist (h : path.steps.dropLast ≠ []) :
    path.parent.parts.Sublist path.parts := by
  rw [parts_parent h]
  by_cases habsolute : path.isAbsolute = true
  · obtain ⟨rest, -, hparts⟩ := isAbsolute_iff.1 habsolute
    have hsteps : path.steps = rest.filter fun part => part != "" && part != here := by
      rw [steps, hparts, List.filter_cons_of_neg (by decide)]
    rw [if_pos habsolute, hparts, hsteps]
    exact ((List.dropLast_sublist _).trans List.filter_sublist).cons_cons ""
  · rw [if_neg habsolute]
    exact (List.dropLast_sublist _).trans List.filter_sublist

theorem text_parent_ne_empty (h : path.steps.dropLast ≠ []) : path.parent.text ≠ "" := by
  intro hempty
  have hparts : path.parent.parts = [""] := by
    rw [parts, hempty]
    rfl
  obtain ⟨step, hstep⟩ := List.exists_mem_of_ne_nil _ h
  have hmem : step ∈ path.parent.parts := by
    rw [parts_parent h]
    exact List.mem_append_right _ hstep
  rw [hparts, List.mem_singleton] at hmem
  exact (isStep_of_mem hstep).2 hmem

end Parent

end Path

namespace FileTree

variable {tree : FileTree} {path : Path} {place p d : Place} {parts : List String}
  {content : Content}

@[simp] theorem isDirectory_nil (tree : FileTree) : tree.isDirectory [] = true := by
  simp [isDirectory, node?]

theorem ne_nil_of_isDirectory (h : tree.isDirectory place = false) : place ≠ [] := by
  rintro rfl
  simp at h

theorem node?_put_self (h : tree.isDirectory place = false) :
    (tree.put place (.file content)).node? place = some (.file content) := by
  rw [node?_put tree _ (ne_nil_of_isDirectory h), if_pos rfl]

theorem isDirectory_put (h : tree.isDirectory place = false) (other : Place) :
    (tree.put place (.file content)).isDirectory other = tree.isDirectory other := by
  rw [isDirectory, node?_put tree _ (ne_nil_of_isDirectory h)]
  split
  · rename_i hother
    rw [hother, h]
    rfl
  · rfl

theorem walk_append (tree : FileTree) (place : Place) (parts more : List String) :
    tree.walk place (parts ++ more) = (tree.walk place parts).bind fun p => tree.walk p more := by
  fun_induction walk tree place parts with
  | case1 place => rfl
  | case2 place part parts hdirectory hstay ih =>
    rw [List.cons_append, walk, if_pos hdirectory, if_pos hstay, ih]
  | case3 place parts hdirectory hmove ih =>
    rw [List.cons_append, walk, if_pos hdirectory, if_neg hmove, if_pos rfl, ih]
  | case4 place part parts hdirectory hstay hup hlong =>
    rw [List.cons_append, walk, if_pos hdirectory, if_neg hstay, if_neg hup, if_pos hlong]
    rfl
  | case5 place part parts hdirectory hstay hup hshort hnode =>
    simp only [List.cons_append, walk, if_pos hdirectory, if_neg hstay, if_neg hup, if_neg hshort,
      hnode]
    rfl
  | case6 place part parts hdirectory hstay hup hshort node hnode ih =>
    simp only [List.cons_append, walk, if_pos hdirectory, if_neg hstay, if_neg hup, if_neg hshort,
      hnode, ih]
  | case7 place part parts hdirectory =>
    rw [List.cons_append, walk, if_neg hdirectory]
    rfl

theorem walk_cons_eq_ok_iff {part : String} :
    tree.walk p (part :: parts) = .ok d ↔
      tree.isDirectory p = true ∧
        ((part = "" ∨ part = Path.here) ∧ tree.walk p parts = .ok d ∨
          part = Path.up ∧ tree.walk p.dropLast parts = .ok d ∨
          Path.IsName part ∧ (tree.node? (p ++ [part])).isSome = true ∧
            tree.walk (p ++ [part]) parts = .ok d) := by
  by_cases hdirectory : tree.isDirectory p = true
  · rw [walk, if_pos hdirectory]
    by_cases hstay : part = "" ∨ part = Path.here
    · have hname : ¬ Path.IsName part := fun h => hstay.elim h.ne_empty h.ne_here
      have hup : part ≠ Path.up := by
        rintro rfl
        revert hstay
        decide
      simp [hdirectory, hstay, hname, hup]
    · by_cases hup : part = Path.up
      · have hname : ¬ Path.IsName part := fun h => h.ne_up hup
        subst hup
        simp [hdirectory, hstay, hname]
      · have hname : Path.IsName part ↔ ¬ maxName < part.utf8ByteSize := by
          rw [not_or] at hstay
          exact ⟨fun h => Nat.not_lt.2 h.size_le, fun h => ⟨hstay.1, hstay.2, hup, Nat.not_lt.1 h⟩⟩
        rw [if_neg hstay, if_neg hup]
        split
        · rename_i hlong
          simp [hstay, hup, hname, hlong]
        · rename_i hshort
          cases hnode : tree.node? (p ++ [part]) <;> simp [hstay, hup, hname, hshort, hdirectory]
  · simp [walk, hdirectory]

/-- A path still leads where it led when a file is put where no directory is. -/
theorem walk_put (hplace : tree.isDirectory place = false) (h : tree.walk p parts = .ok d) :
    (tree.put place (.file content)).walk p parts = .ok d := by
  induction parts generalizing p with
  | nil => exact h
  | cons part parts ih =>
    obtain ⟨hdirectory, hstep⟩ := walk_cons_eq_ok_iff.1 h
    refine walk_cons_eq_ok_iff.2 ⟨(isDirectory_put hplace p).trans hdirectory, ?_⟩
    rcases hstep with ⟨hstay, hrest⟩ | ⟨hup, hrest⟩ | ⟨hname, hnode, hrest⟩
    · exact .inl ⟨hstay, ih hrest⟩
    · exact .inr (.inl ⟨hup, ih hrest⟩)
    · refine .inr (.inr ⟨hname, ?_, ih hrest⟩)
      rw [node?_put tree _ (ne_nil_of_isDirectory hplace)]
      split
      · rfl
      · exact hnode

theorem walk_filter (h : tree.walk p parts = .ok d) :
    tree.walk p (parts.filter fun part => part != "" && part != Path.here) = .ok d := by
  induction parts generalizing p with
  | nil => exact h
  | cons part parts ih =>
    obtain ⟨hdirectory, hstep⟩ := walk_cons_eq_ok_iff.1 h
    rcases hstep with ⟨hstay, hrest⟩ | ⟨rfl, hrest⟩ | ⟨hname, hnode, hrest⟩
    · rw [List.filter_cons_of_neg (by rcases hstay with rfl | rfl <;> decide)]
      exact ih hrest
    · rw [List.filter_cons_of_pos (by decide)]
      exact walk_cons_eq_ok_iff.2 ⟨hdirectory, .inr (.inl ⟨rfl, ih hrest⟩)⟩
    · rw [List.filter_cons_of_pos (by simp [hname.ne_empty, hname.ne_here])]
      exact walk_cons_eq_ok_iff.2 ⟨hdirectory, .inr (.inr ⟨hname, hnode, ih hrest⟩)⟩

theorem mem_placesFrom_self (place : Place) (parts : List String) :
    place ∈ placesFrom place parts := by
  fun_induction placesFrom place parts with
  | case1 => simp
  | case2 place part parts hstay ih => exact ih
  | case3 => simp
  | case4 => simp

/-- Where a path leads depends on the places it passes. -/
theorem walk_congr {other : FileTree}
    (h : ∀ x ∈ placesFrom p parts, other.node? x = tree.node? x) :
    other.walk p parts = tree.walk p parts := by
  induction parts generalizing p with
  | nil => rfl
  | cons part parts ih =>
    have hdirectory : other.isDirectory p = tree.isDirectory p := by
      rw [isDirectory, isDirectory, h p (mem_placesFrom_self p _)]
    rw [placesFrom] at h
    rw [walk, walk, hdirectory]
    by_cases hstay : part = "" ∨ part = Path.here
    · rw [if_pos hstay] at h
      rw [if_pos hstay, if_pos hstay, ih h]
    · rw [if_neg hstay] at h
      rw [if_neg hstay, if_neg hstay]
      by_cases hup : part = Path.up
      · rw [if_pos hup, List.forall_mem_cons] at h
        rw [if_pos hup, if_pos hup, ih h.2]
      · rw [if_neg hup, List.forall_mem_cons] at h
        rw [if_neg hup, if_neg hup, ih h.2, h.2 _ (mem_placesFrom_self _ parts)]

theorem eq_or_isDirectory_of_walk (h : tree.walk p parts = .ok d) :
    (placesFrom p parts).getLast? = some d ∧
      ∀ x ∈ placesFrom p parts, x = d ∨ tree.isDirectory x = true := by
  induction parts generalizing p with
  | nil =>
    cases h
    simp [placesFrom]
  | cons part parts ih =>
    obtain ⟨hdirectory, hstep⟩ := walk_cons_eq_ok_iff.1 h
    -- a step up and a step down both leave a directory behind
    have hmore : ∀ next, tree.walk next parts = .ok d →
        (p :: placesFrom next parts).getLast? = some d ∧
          ∀ x ∈ p :: placesFrom next parts, x = d ∨ tree.isDirectory x = true := by
      intro next hnext
      obtain ⟨hlast, hall⟩ := ih hnext
      refine ⟨?_, List.forall_mem_cons.2 ⟨.inr hdirectory, hall⟩⟩
      rw [List.getLast?_cons, hlast]
      rfl
    rw [placesFrom]
    rcases hstep with ⟨hstay, hrest⟩ | ⟨rfl, hrest⟩ | ⟨hname, -, hrest⟩
    · rw [if_pos hstay]
      exact ih hrest
    · rw [if_neg (by decide), if_pos rfl]
      exact hmore _ hrest
    · rw [if_neg (not_or.2 ⟨hname.ne_empty, hname.ne_here⟩), if_neg hname.ne_up]
      exact hmore _ hrest

/-- The trees differ at most in what file is at the place, or whether one is. -/
structure SameButFile (tree other : FileTree) (place : Place) : Prop where
  current_eq : other.current = tree.current
  node?_eq : ∀ x, x ≠ place → other.node? x = tree.node? x
  no_directory : tree.isDirectory place = false
  no_other_directory : other.isDirectory place = false

namespace SameButFile

variable {other : FileTree}

theorem symm (h : tree.SameButFile other place) : other.SameButFile tree place where
  current_eq := h.current_eq.symm
  node?_eq x hx := (h.node?_eq x hx).symm
  no_directory := h.no_other_directory
  no_other_directory := h.no_directory

theorem start_eq (h : tree.SameButFile other place) (path : Path) :
    other.start path = tree.start path := by
  rw [start, start, h.current_eq]

theorem locate_eq (h : tree.SameButFile other place) (hpassed : place ∉ tree.passed path) :
    other.locate path = tree.locate path := by
  have hwalk :
      other.walk (tree.start path) path.parts = tree.walk (tree.start path) path.parts := by
    apply walk_congr
    intro x hx
    apply h.node?_eq
    rintro rfl
    exact hpassed hx
  rw [locate, locate, h.start_eq, hwalk]

/-- What is there is found in both trees, unless it is the file in which they differ. -/
theorem locate_eq_ok (h : tree.SameButFile other place)
    (hlast : (tree.passed path).getLast? ≠ some place) (hd : tree.locate path = .ok d) :
    other.locate path = .ok d ∧ other.node? d = tree.node? d := by
  obtain ⟨_, -, hwalk⟩ := Reading.bind_eq_ok_iff.1 hd
  obtain ⟨hend, hpassed⟩ := eq_or_isDirectory_of_walk hwalk
  have hne : d ≠ place := by
    rintro rfl
    exact hlast hend
  refine ⟨?_, h.node?_eq d hne⟩
  rw [h.locate_eq, hd]
  intro hmem
  rcases hpassed place hmem with rfl | hdirectory
  · exact hne rfl
  · rw [h.no_directory] at hdirectory
    cases hdirectory

theorem passed_eq (h : tree.SameButFile other place) (path : Path) :
    other.passed path = tree.passed path := by
  rw [passed, passed, h.start_eq]

theorem has_eq (h : tree.SameButFile other place)
    (hlast : (tree.passed path).getLast? ≠ some place) : other.has path = tree.has path := by
  rw [has, has]
  cases htree : tree.locate path with
  | ok d => rw [(h.locate_eq_ok hlast htree).1]
  | error error =>
    cases hother : other.locate path with
    | error => rfl
    | ok d =>
      rw [← h.passed_eq] at hlast
      rw [(h.symm.locate_eq_ok hlast hother).1] at htree
      cases htree

theorem read_eq_of_locate (h : tree.SameButFile other place)
    (hlast : (tree.passed path).getLast? ≠ some place) (hd : tree.locate path = .ok d) :
    other.read path = tree.read path := by
  obtain ⟨hother, hnode⟩ := h.locate_eq_ok hlast hd
  simp only [read, hother, hd, hnode, bind, Except.bind]

theorem read_eq_ok (h : tree.SameButFile other place)
    (hlast : (tree.passed path).getLast? ≠ some place) {text : String}
    (hread : tree.read path = .ok text) : other.read path = .ok text := by
  obtain ⟨d, hd, -⟩ := Reading.bind_eq_ok_iff.1 hread
  rw [h.read_eq_of_locate hlast hd, hread]

end SameButFile

/-- A path that can be written ends in the name of its file. -/
structure Targets (tree : FileTree) (path : Path) (before : List String) (name : String)
    (directory : Place) : Prop where
  checked : checkPath path = .ok ()
  parts_eq : path.parts = before ++ [name]
  isName : Path.IsName name
  walk_eq : tree.walk (tree.start path) before = .ok directory
  isDirectory : tree.isDirectory directory = true
  free : tree.isDirectory (directory ++ [name]) = false

theorem Targets.target_eq {before : List String} {name : String} {directory : Place}
    (h : tree.Targets path before name directory) :
    tree.target path = .ok (directory ++ [name]) := by
  have hlast : path.parts.reverse.dropWhile (· == "") = name :: before.reverse := by
    simp [h.parts_eq, h.isName.ne_empty]
  have hfile : ¬ (name = Path.here ∨ name = Path.up ∨ path.parts.getLast? = some "") := by
    simp [h.parts_eq, h.isName.ne_here, h.isName.ne_up, h.isName.ne_empty]
  have hsize : ¬ maxName < name.utf8ByteSize := Nat.not_lt.2 h.isName.size_le
  simp only [target, h.checked, hlast, List.reverse_reverse, h.walk_eq, hfile, hsize,
    Reading.bind_eq_ok_iff]
  simp [h.isDirectory, h.free]

theorem target_eq_ok_iff :
    tree.target path = .ok place ↔
      ∃ before name directory, tree.Targets path before name directory ∧
        place = directory ++ [name] := by
  constructor
  · intro h
    obtain ⟨_, hchecked, h⟩ := Reading.bind_eq_ok_iff.1 h
    obtain ⟨before, name, hparts⟩ :=
      (List.eq_nil_or_concat' path.parts).resolve_left (Text.fields_ne_nil _ _)
    have hname : name ≠ "" := by
      rintro rfl
      split at h
      · cases h
      · obtain ⟨directory, -, h⟩ := Reading.bind_eq_ok_iff.1 h
        simp only [hparts, List.getLast?_concat, or_true, if_true] at h
        split_ifs at h
    have hlast : path.parts.reverse.dropWhile (· == "") = name :: before.reverse := by
      simp [hparts, hname]
    simp only [hlast, List.reverse_reverse] at h
    obtain ⟨directory, hwalk, h⟩ := Reading.bind_eq_ok_iff.1 h
    split_ifs at h with hdirectory hfile hsize hfree
    rw [not_or, not_or] at hfile
    have hdirectory : tree.isDirectory directory = true := by simpa using hdirectory
    have hfree : tree.isDirectory (directory ++ [name]) = false := by simpa using hfree
    refine ⟨before, name, directory, ?_, (Except.ok.inj h).symm⟩
    exact ⟨hchecked, hparts, ⟨hname, hfile.1, hfile.2.1, Nat.not_lt.1 hsize⟩, hwalk, hdirectory,
      hfree⟩
  · rintro ⟨before, name, directory, h, rfl⟩
    exact h.target_eq

theorem Targets.put {before : List String} {name : String} {directory : Place}
    (h : tree.Targets path before name directory) (content : Content) :
    (tree.put (directory ++ [name]) (.file content)).Targets path before name directory where
  checked := h.checked
  parts_eq := h.parts_eq
  isName := h.isName
  walk_eq := walk_put h.free h.walk_eq
  isDirectory := (isDirectory_put h.free directory).trans h.isDirectory
  free := (isDirectory_put h.free _).trans h.free

theorem locate_put (h : tree.target path = .ok place) (content : Content) :
    (tree.put place (.file content)).locate path = .ok place := by
  obtain ⟨before, name, directory, htarget, rfl⟩ := target_eq_ok_iff.1 h
  have hput := htarget.put content
  have hnode : (tree.put (directory ++ [name]) (.file content)).node? (directory ++ [name]) =
      some (.file content) := node?_put_self htarget.free
  have hname : (tree.put (directory ++ [name]) (.file content)).walk directory [name] =
      .ok (directory ++ [name]) :=
    walk_cons_eq_ok_iff.2 ⟨hput.isDirectory, .inr (.inr ⟨hput.isName, by rw [hnode]; rfl, rfl⟩)⟩
  simp only [locate, Reading.bind_eq_ok_iff]
  refine ⟨(), hput.checked, ?_⟩
  rw [hput.parts_eq, walk_append, hput.walk_eq]
  exact hname

theorem read_put (h : tree.target path = .ok place) (text : String) :
    (tree.put place (.file (.text text))).read path = .ok text := by
  obtain ⟨before, name, directory, htarget, rfl⟩ := target_eq_ok_iff.1 h
  simp only [read, Reading.bind_eq_ok_iff]
  exact ⟨_, locate_put h _, by rw [node?_put_self htarget.free]⟩

/-- What is written is read back. -/
theorem read_of_write {after : FileTree} {text : String} (h : tree.write path text = .ok after) :
    after.read path = .ok text := by
  obtain ⟨place, htarget, hput⟩ := Reading.bind_eq_ok_iff.1 h
  cases hput
  exact read_put htarget text

theorem target_put (h : tree.target path = .ok place) (content : Content) :
    (tree.put place (.file content)).target path = .ok place := by
  obtain ⟨before, name, directory, htarget, rfl⟩ := target_eq_ok_iff.1 h
  exact (htarget.put content).target_eq

theorem checkPath_of_sublist {other : Path} (h : other.text.toList.Sublist path.text.toList)
    (hne : other.text ≠ "") (hpath : checkPath path = .ok ()) : checkPath other = .ok () := by
  have hsize : other.text.utf8ByteSize ≤ path.text.utf8ByteSize := by
    have hlen := String.utf8Len_le_of_sublist h
    rwa [← String.utf8ByteSize_ofList, ← String.utf8ByteSize_ofList, String.ofList_toList,
      String.ofList_toList] at hlen
  rw [checkPath] at hpath
  split_ifs at hpath with hnul hempty hlong
  have hnul : ¬ other.text.toList.contains '\x00' = true := by
    intro hmem
    exact hnul (List.contains_iff_mem.2 (h.subset (List.contains_iff_mem.1 hmem)))
  rw [checkPath, if_neg hnul, if_neg hne, if_neg (by omega)]

theorem Targets.has_parent {before : List String} {name : String} {directory : Place}
    (h : tree.Targets path before name directory) :
    path.parent.text = "" ∨ tree.has path.parent = true := by
  have hsteps : path.steps.dropLast =
      before.filter fun part => part != "" && part != Path.here := by
    rw [Path.steps, h.parts_eq, List.filter_append, List.filter_cons_of_pos, List.filter_nil,
      List.dropLast_concat]
    simp [h.isName.ne_empty, h.isName.ne_here]
  have hwalk := walk_filter h.walk_eq
  rw [← hsteps] at hwalk
  by_cases hkept : path.steps.dropLast = []
  · rw [Path.parent, hkept]
    cases path.isAbsolute with
    | false => exact .inl rfl
    | true => exact .inr rfl
  · have hchecked : checkPath path.parent = .ok () :=
      checkPath_of_sublist (Path.toList_text_sublist (Path.parts_parent_sublist hkept))
        (Path.text_parent_ne_empty hkept) h.checked
    have hlocate : tree.locate path.parent = .ok directory := by
      rw [locate, hchecked, start, Path.isAbsolute_parent hkept, Path.parts_parent hkept]
      rw [start] at hwalk
      by_cases habsolute : path.isAbsolute = true
      · simp only [if_pos habsolute] at hwalk ⊢
        exact walk_cons_eq_ok_iff.2 ⟨isDirectory_nil tree, .inl ⟨.inl rfl, hwalk⟩⟩
      · simp only [if_neg habsolute] at hwalk ⊢
        exact hwalk
    rw [has, hlocate]
    exact .inr rfl

def withParent (tree : FileTree) (path : Path) : FileTree × Except FileError Unit :=
  if path.parent.text = "" ∨ tree.has path.parent then (tree, .ok ())
  else tree.makeDirectories path.isAbsolute path.parent.steps.reverse

theorem save_of_withParent_error {ready : FileTree} {error : FileError}
    (h : tree.withParent path = (ready, .error error)) (text : String) :
    tree.save path text = (ready, .error error) := by
  rw [withParent] at h
  simp only [save, h]

theorem save_of_withParent_ok {ready : FileTree} (h : tree.withParent path = (ready, .ok ()))
    (text : String) :
    tree.save path text =
      match ready.write path text with
      | .ok written => (written, .ok ())
      | .error error => (ready, .error error) := by
  rw [withParent] at h
  cases hwrite : ready.write path text with
  | error error => simp only [save, h, hwrite]
  | ok written => simp only [save, h, hwrite]

/-- The directories are there already, so that nothing but the file is put. -/
theorem save_eq_of_target (h : tree.target path = .ok place) (text : String) :
    tree.save path text = (tree.put place (.file (.text text)), .ok ()) := by
  obtain ⟨before, name, directory, htarget, -⟩ := target_eq_ok_iff.1 h
  have hwrite : tree.write path text = .ok (tree.put place (.file (.text text))) := by
    rw [write, h]
    rfl
  have hparent : tree.withParent path = (tree, .ok ()) := if_pos htarget.has_parent
  rw [save_of_withParent_ok hparent, hwrite]

/-- Something, and then anything, can be saved under the path. -/
def CanSave (tree : FileTree) (path : Path) : Prop :=
  ∃ text, (tree.save path text).2 = .ok ()

theorem CanSave.exists_target (h : tree.CanSave path) :
    ∃ (ready : FileTree) (place : Place), ready.target path = .ok place ∧
      ∀ text, tree.save path text = (ready.put place (.file (.text text)), .ok ()) := by
  obtain ⟨text, htext⟩ := h
  -- which directories are made is settled before the text is looked at
  cases hparent : tree.withParent path with
  | mk ready made =>
    cases made with
    | error error =>
      rw [save_of_withParent_error hparent] at htext
      cases htext
    | ok =>
      rw [save_of_withParent_ok hparent] at htext
      cases htarget : ready.target path with
      | error error => simp [write, htarget] at htext
      | ok place =>
        refine ⟨ready, place, htarget, ?_⟩
        intro other
        rw [save_of_withParent_ok hparent]
        simp [write, htarget]

/-- What is saved is read back and can be replaced. -/
theorem CanSave.save (h : tree.CanSave path) (text : String) :
    ∃ after, tree.save path text = (after, .ok ()) ∧ after.has path = true ∧
      after.read path = .ok text ∧ after.CanSave path := by
  obtain ⟨ready, place, htarget, hsave⟩ := h.exists_target
  refine ⟨_, hsave text, ?_, read_put htarget text, ?_⟩
  · rw [has, locate_put htarget]
    rfl
  · exact ⟨text, by rw [save_eq_of_target (target_put htarget _)]⟩

end FileTree
end ArtifactRules
