import Mathlib.Data.List.DropRight
import ArtifactRules.Proofs.RowLayout

/-! What a first row has to be. The six labels stand in their order, with blanks around them and
nothing but blanks after them. Any other first row is at fault with the texts that were found in its
place, up to the last that is not empty. -/

namespace ArtifactRules
namespace Text

section Dropping

variable {α : Type} {p : α → Bool} {xs kept : List α}

/-- What is dropped passes the test, and what is kept does not begin with what passes it. -/
theorem dropWhile_eq_iff :
    xs.dropWhile p = kept ↔
      ∃ front, (∀ x ∈ front, p x = true) ∧ xs = front ++ kept ∧ ∀ x ∈ kept.head?, p x = false := by
  constructor
  · rintro rfl
    refine ⟨xs.takeWhile p, fun x hx => List.mem_takeWhile_imp hx, ?_, ?_⟩
    · exact List.takeWhile_append_dropWhile.symm
    · intro x hx
      have hhead := List.head?_dropWhile_not p xs
      rw [Option.mem_def.1 hx] at hhead
      simpa using hhead
  · rintro ⟨front, hfront, rfl, hkept⟩
    rw [List.dropWhile_append_of_pos hfront]
    cases kept with
    | nil => rfl
    | cons x kept => simp [hkept x rfl]

theorem rdropWhile_eq_iff :
    xs.rdropWhile p = kept ↔
      ∃ back, (∀ x ∈ back, p x = true) ∧ xs = kept ++ back ∧
        ∀ x ∈ kept.getLast?, p x = false := by
  rw [List.rdropWhile, List.reverse_eq_iff, dropWhile_eq_iff, List.head?_reverse]
  constructor
  · rintro ⟨front, hfront, hxs, hkept⟩
    refine ⟨front.reverse, fun x hx => hfront x (List.mem_reverse.1 hx), ?_, hkept⟩
    rw [List.reverse_eq_iff.1 hxs, List.reverse_append, List.reverse_reverse]
  · rintro ⟨back, hback, rfl, hkept⟩
    exact ⟨back.reverse, fun x hx => hback x (List.mem_reverse.1 hx), List.reverse_append, hkept⟩

end Dropping

def Pads (text core : String) : Prop :=
  ∃ before after : List Char, (∀ c ∈ before, isBlank c = true) ∧ (∀ c ∈ after, isBlank c = true) ∧
    text.toList = before ++ (core.toList ++ after)

def IsBare (text : String) : Prop :=
  (∀ c ∈ text.toList.head?, isBlank c = false) ∧ ∀ c ∈ text.toList.getLast?, isBlank c = false

instance (text : String) : Decidable (IsBare text) :=
  @instDecidableAnd _ _ (Option.decidableForallMem _) (Option.decidableForallMem _)

theorem trim_eq_iff {text core : String} : trim text = core ↔ Pads text core ∧ IsBare core := by
  have hchars : trim text = core ↔ (text.toList.dropWhile isBlank).rdropWhile isBlank =
      core.toList := by
    rw [← String.toList_inj, trim, String.toList_ofList]
    rfl
  rw [hchars]
  constructor
  · intro h
    obtain ⟨after, hafter, hrest, hlast⟩ := rdropWhile_eq_iff.1 h
    obtain ⟨before, hbefore, htext, hhead⟩ := dropWhile_eq_iff.1 hrest
    refine ⟨⟨before, after, hbefore, hafter, htext⟩, fun c hc => hhead c ?_, hlast⟩
    rw [List.head?_append, Option.mem_def.1 hc]
    rfl
  · rintro ⟨⟨before, after, hbefore, hafter, htext⟩, hhead, hlast⟩
    by_cases hcore : core.toList = []
    · have hblank : ∀ c ∈ text.toList, isBlank c = true := by
        rw [htext, hcore, List.nil_append, List.forall_mem_append]
        exact ⟨hbefore, hafter⟩
      rw [hcore, List.dropWhile_eq_nil_iff.2 hblank, List.rdropWhile_nil]
    · have hrest : text.toList.dropWhile isBlank = core.toList ++ after := by
        refine dropWhile_eq_iff.2 ⟨before, hbefore, htext, ?_⟩
        rwa [List.head?_append_of_ne_nil _ hcore]
      exact rdropWhile_eq_iff.2 ⟨after, hafter, hrest, hlast⟩

end Text

namespace Row

/-- A row that a sheet may begin with. -/
structure IsHeader (row : Row) : Prop where
  length_le : 6 ≤ row.length
  label : ∀ (i : Nat) (label : String), Column.labels[i]? = some label →
    ∃ text, row[i]? = some (some text) ∧ Text.Pads text label
  /-- The cells after the labels are missing or blank. -/
  rest : ∀ text, some text ∈ row.drop 6 → ∀ c ∈ text.toList, Text.isBlank c = true

/-- What is found in the place of a header. -/
structure Finds (row : Row) (found : List String) : Prop where
  /-- The cores of the cells, of which some that are empty at the end are left out. -/
  cells : ∃ n, List.Forall₂ (fun cell text => Text.Pads (cell.getD "") text ∧ Text.IsBare text) row
    (found ++ List.replicate n "")
  last : found.getLast? ≠ some ""
  /-- A cell that is not blank is kept with all that are before it. -/
  keeps : ∀ (i : Nat) (text : String), row[i]? = some (some text) →
    (∃ c ∈ text.toList, Text.isBlank c = false) → i < found.length

theorem forall₂_trim_iff {row : Row} {texts : List String} :
    List.Forall₂ (fun cell text => Text.Pads (cell.getD "") text ∧ Text.IsBare text) row texts ↔
      (row.map fun cell => Text.trim (cell.getD "")) = texts := by
  simp only [← Text.trim_eq_iff]
  rw [← List.forall₂_map_left_iff (f := fun cell : Option String => Text.trim (cell.getD "")),
    List.forall₂_eq_eq_eq]

theorem headerTexts_eq_iff {row : Row} {found : List String} :
    row.headerTexts = found ↔
      (∃ n, (row.map fun cell => Text.trim (cell.getD "")) = found ++ List.replicate n "") ∧
        found.getLast? ≠ some "" := by
  have hlast : (∀ text ∈ found.getLast?, (text == "") = false) ↔ found.getLast? ≠ some "" := by
    cases found.getLast? <;> simp
  rw [headerTexts_eq, List.map_map, Text.rdropWhile_eq_iff, ← hlast]
  constructor
  · rintro ⟨back, hback, hrow, hfound⟩
    have hempty : back = List.replicate back.length "" :=
      List.eq_replicate_iff.2 ⟨rfl, fun text htext => by simpa using hback text htext⟩
    exact ⟨⟨back.length, hempty ▸ hrow⟩, hfound⟩
  · rintro ⟨⟨n, hrow⟩, hfound⟩
    exact ⟨List.replicate n "", by simp, hrow, hfound⟩

theorem finds_iff {row : Row} {found : List String} :
    row.Finds found ↔ row.headerTexts = found := by
  rw [headerTexts_eq_iff]
  constructor
  · intro h
    obtain ⟨n, hcells⟩ := h.cells
    exact ⟨⟨n, forall₂_trim_iff.1 hcells⟩, h.last⟩
  · rintro ⟨⟨n, hrow⟩, hlast⟩
    refine ⟨⟨n, forall₂_trim_iff.2 hrow⟩, hlast, ?_⟩
    rintro i text htext ⟨c, hc, hblank⟩
    by_contra hi
    have hcell : (found ++ List.replicate n "")[i]? = some (Text.trim text) := by
      rw [← hrow, List.getElem?_map, htext]
      rfl
    rw [List.getElem?_append_right (Nat.not_lt.1 hi), List.getElem?_replicate] at hcell
    have hempty : Text.trim text = "" := by
      split at hcell
      · exact (Option.some.inj hcell).symm
      · cases hcell
    rw [Text.trim_eq_empty_iff.1 hempty c hc] at hblank
    cases hblank

theorem isBare_label {label : String} (h : label ∈ Column.labels) :
    Text.IsBare label ∧ label ≠ "" := by
  have hall : ∀ label ∈ Column.labels, Text.IsBare label ∧ label ≠ "" := by decide
  exact hall label h

/-- A row is a header if the labels are what is found in its place. -/
theorem isHeader_iff (row : Row) : row.IsHeader ↔ row.headerTexts = Column.labels := by
  rw [headerTexts_eq_iff, and_iff_left (by decide)]
  constructor
  · intro h
    have hlabels : Column.labels <+: row.map fun cell => Text.trim (cell.getD "") := by
      rw [List.prefix_iff_getElem?]
      intro i hi
      have hlabel := List.getElem?_eq_getElem hi
      obtain ⟨text, htext, hpads⟩ := h.label i _ hlabel
      have hbare := isBare_label (List.mem_of_getElem? hlabel)
      rw [List.getElem?_map, htext, ← Text.trim_eq_iff.2 ⟨hpads, hbare.1⟩]
      rfl
    obtain ⟨back, hback⟩ := hlabels
    refine ⟨back.length, hback.symm.trans (congrArg _ (List.eq_replicate_iff.2 ⟨rfl, ?_⟩))⟩
    have hdrop : back = (row.drop 6).map fun cell => Text.trim (cell.getD "") := by
      rw [List.map_drop, ← hback]
      rfl
    rw [hdrop, List.forall_mem_map]
    rintro (_ | text) hcell
    · rfl
    · exact Text.trim_eq_empty_iff.2 (h.rest text hcell)
  · rintro ⟨n, hrow⟩
    refine ⟨?_, ?_, ?_⟩
    · have hlength := congrArg List.length hrow
      rw [List.length_map, List.length_append] at hlength
      have hsix : Column.labels.length = 6 := rfl
      omega
    · intro i label hlabel
      have hi : i < Column.labels.length := (List.getElem?_eq_some_iff.1 hlabel).1
      have hcell := congrArg (fun texts => texts[i]?) hrow
      simp only [List.getElem?_append_left hi, hlabel, List.getElem?_map,
        Option.map_eq_some_iff] at hcell
      obtain ⟨cell, hcell, htrim⟩ := hcell
      cases cell with
      | none => exact absurd htrim.symm (isBare_label (List.mem_of_getElem? hlabel)).2
      | some text => exact ⟨text, hcell, (Text.trim_eq_iff.1 htrim).1⟩
    · intro text htext
      have hmem : Text.trim text ∈ (row.drop 6).map fun cell => Text.trim (cell.getD "") :=
        List.mem_map.2 ⟨some text, htext, rfl⟩
      rw [List.map_drop, hrow] at hmem
      exact Text.trim_eq_empty_iff.1 (List.eq_of_mem_replicate hmem)

/-- A first row is taken for a header if and only if it is one. Any other is refused, without a
place, with what is found in it, and that is never the labels. -/
theorem checkHeader_eq_iff (row : Row) :
    (row.checkHeader = .ok () ↔ row.IsHeader) ∧
      ∀ e, row.checkHeader = .error e ↔
        ¬row.IsHeader ∧ ∃ found, row.Finds found ∧ found ≠ Column.labels ∧
          e = .badHeader found ∧ e.place? = none := by
  rw [isHeader_iff]
  by_cases h : row.headerTexts = Column.labels
  · simp [checkHeader, h]
  · have hcheck : row.checkHeader = .error (.badHeader row.headerTexts) := if_neg h
    refine ⟨?_, ?_⟩
    · simp [hcheck, h]
    · intro e
      rw [hcheck, Except.error.injEq]
      constructor
      · rintro rfl
        exact ⟨h, row.headerTexts, finds_iff.2 rfl, h, rfl, rfl⟩
      · rintro ⟨-, found, hfound, -, rfl, -⟩
        rw [finds_iff.1 hfound]

example : Row.checkHeader [some " 等级条件", none, some "锁\u3000", some "", none] =
    .error (.badHeader ["等级条件", "", "锁"]) := by decide

end Row
end ArtifactRules
