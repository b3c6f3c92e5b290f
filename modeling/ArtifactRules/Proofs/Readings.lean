import Mathlib.Data.List.Forall2
import ArtifactRules.Cell

/-! Readings that may fail, taken apart: of one after another and of a list of texts. -/

namespace ArtifactRules
namespace Reading

variable {ε α β : Type}

@[simp] theorem bind_eq_ok_iff {x : Except ε α} {f : α → Except ε β} {b : β} :
    (x >>= f) = .ok b ↔ ∃ a, x = .ok a ∧ f a = .ok b := by
  cases x <;> simp [bind, Except.bind]

@[simp] theorem map_eq_ok_iff {x : Except ε α} {f : α → β} {b : β} :
    (f <$> x) = .ok b ↔ ∃ a, x = .ok a ∧ f a = b := by
  cases x <;> simp [Functor.map, Except.map]

@[simp] theorem pure_eq_ok_iff {a b : α} : (pure a : Except ε α) = .ok b ↔ a = b := by
  simp [pure, Except.pure]

@[simp] theorem mapError_eq_ok_iff {δ : Type} {x : Except ε α} {f : ε → δ} {a : α} :
    x.mapError f = .ok a ↔ x = .ok a := by
  cases x <;> simp [Except.mapError]

def fault? : Except ε α → Option ε
  | .ok _ => none
  | .error fault => some fault

theorem fault?_eq_none_iff {x : Except ε α} : fault? x = none ↔ ∃ a, x = .ok a := by
  cases x <;> simp [fault?]

theorem fault?_eq_some_iff {x : Except ε α} {fault : ε} :
    fault? x = some fault ↔ x = .error fault := by
  cases x <;> simp [fault?]

theorem mapM_eq_ok_iff {f : α → Except ε β} {xs : List α} {ys : List β} :
    xs.mapM f = .ok ys ↔ List.Forall₂ (fun x y => f x = .ok y) xs ys := by
  induction xs generalizing ys with
  | nil => cases ys <;> simp
  | cons x xs ih =>
    simp only [List.mapM_cons, bind_eq_ok_iff, pure_eq_ok_iff, ih, List.forall₂_cons_left_iff]
    constructor
    · rintro ⟨y, hy, zs, hzs, rfl⟩
      exact ⟨y, zs, hy, hzs, rfl⟩
    · rintro ⟨y, zs, hy, hzs, rfl⟩
      exact ⟨y, hy, zs, hzs, rfl⟩

theorem fault?_mapM (f : α → Except ε β) (xs : List α) :
    fault? (xs.mapM f) = xs.findSome? fun x => fault? (f x) := by
  induction xs with
  | nil => rfl
  | cons x xs ih =>
    rw [List.mapM_cons, List.findSome?_cons, ← ih]
    cases f x with
    | error fault => rfl
    | ok y => cases xs.mapM f <;> rfl

/-- A list fails with the fault of the first of its members that is not read. -/
theorem mapM_eq_error_iff {f : α → Except ε β} {xs : List α} {fault : ε} :
    xs.mapM f = .error fault ↔
      ∃ before x after, xs = before ++ x :: after ∧ (∀ y ∈ before, ∃ b, f y = .ok b) ∧
        f x = .error fault := by
  rw [← fault?_eq_some_iff, fault?_mapM, List.findSome?_eq_some_iff]
  simp only [fault?_eq_none_iff, fault?_eq_some_iff]
  constructor
  · rintro ⟨before, x, after, hxs, hx, hbefore⟩
    exact ⟨before, x, after, hxs, hbefore, hx⟩
  · rintro ⟨before, x, after, hxs, hbefore, hx⟩
    exact ⟨before, x, after, hxs, hx, hbefore⟩

theorem mapM_eq_ok_iff_map {f : α → Except ε β} {write : β → α}
    (h : ∀ x y, f x = .ok y ↔ x = write y) {xs : List α} {ys : List β} :
    xs.mapM f = .ok ys ↔ xs = ys.map write := by
  simp only [mapM_eq_ok_iff, h]
  induction ys generalizing xs with
  | nil => simp
  | cons y ys ih => simp [List.forall₂_cons_right_iff, ih]

end Reading
end ArtifactRules
