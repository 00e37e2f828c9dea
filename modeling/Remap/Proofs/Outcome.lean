import Mathlib.Data.List.Forall2
import Remap.Outcome

set_option relaxedAutoImplicit false
set_option autoImplicit false

/-!
# Outcomes along a list

A function that may fail is applied along a list from the left; the first failure decides.

## Main definitions

* `Remap.FirstFault` — what is wrong with the first faulty element of a list.

## Main results

* `Remap.mapM_eq_ok_iff`, `Remap.mapM_eq_error_iff` — the two outcomes.
* `Remap.exists_firstFault_iff` — there is a first faulty element where there is one at all.
* `Remap.firstFault_filterMap` — the first fault among the results of a partial function.
-/

namespace Remap

variable {α β ε : Type}

/-- `FirstFault fault xs e` says that `e` is wrong with an element of the list, and nothing is wrong
with any element before it. -/
def FirstFault (fault : α → ε → Prop) (xs : List α) (e : ε) : Prop :=
  ∃ front x back, xs = front ++ x :: back ∧ (∀ y ∈ front, ∀ e', ¬fault y e') ∧ fault x e

/-- In the empty list nothing is wrong. -/
theorem not_firstFault_nil (fault : α → ε → Prop) (e : ε) : ¬FirstFault fault [] e := by
  rintro ⟨front, x, back, h, -⟩
  simp at h

/-- The first fault is that of the first element, or the first one behind it where nothing is wrong
with the first element. -/
theorem firstFault_cons {fault : α → ε → Prop} {x : α} {xs : List α} {e : ε} :
    FirstFault fault (x :: xs) e ↔
      fault x e ∨ (∀ e', ¬fault x e') ∧ FirstFault fault xs e := by
  constructor
  · rintro ⟨front, y, back, h, hfront, hy⟩
    cases front with
    | nil =>
      obtain ⟨rfl, -⟩ := List.cons.inj h
      left; exact hy
    | cons z front =>
      obtain ⟨rfl, rfl⟩ := List.cons.inj h
      right
      refine ⟨hfront x List.mem_cons_self, front, y, back, rfl, ?_, hy⟩
      exact fun w hw => hfront w (List.mem_cons_of_mem _ hw)
  · rintro (hx | ⟨hx, front, y, back, rfl, hfront, hy⟩)
    · exact ⟨[], x, xs, rfl, by simp, hx⟩
    · exact ⟨x :: front, y, back, rfl, List.forall_mem_cons.2 ⟨hx, hfront⟩, hy⟩

/-- Faults that agree on the elements of a list have the same first fault. -/
theorem firstFault_congr {fault fault' : α → ε → Prop} {xs : List α} {e : ε}
    (h : ∀ x ∈ xs, ∀ e, fault x e ↔ fault' x e) :
    FirstFault fault xs e ↔ FirstFault fault' xs e := by
  induction xs with
  | nil => simp only [not_firstFault_nil]
  | cons x xs ih =>
    rw [firstFault_cons, firstFault_cons, ih fun y hy => h y (List.mem_cons_of_mem _ hy)]
    simp only [h x List.mem_cons_self]

/-- There is a first faulty element where there is one at all. -/
theorem exists_firstFault_iff {fault : α → ε → Prop} {xs : List α} :
    (∃ e, FirstFault fault xs e) ↔ ∃ x ∈ xs, ∃ e, fault x e := by
  induction xs with
  | nil => simp [not_firstFault_nil]
  | cons x xs ih =>
    simp only [firstFault_cons, List.mem_cons, exists_eq_or_imp, ← ih]
    by_cases hx : ∃ e, fault x e
    · obtain ⟨e, he⟩ := hx
      exact ⟨fun _ => .inl ⟨e, he⟩, fun _ => ⟨e, .inl he⟩⟩
    · rw [not_exists] at hx
      simp [hx]

/-- The first fault among the results of a partial function is that of the first element with a
faulty result. -/
theorem firstFault_filterMap {f : α → Option β} {fault : β → ε → Prop} {xs : List α} {e : ε} :
    FirstFault fault (xs.filterMap f) e ↔
      FirstFault (fun x e => ∃ y, f x = some y ∧ fault y e) xs e := by
  induction xs with
  | nil => simp only [List.filterMap_nil, not_firstFault_nil]
  | cons x xs ih =>
    rw [firstFault_cons, ← ih]
    cases hx : f x with
    | none => simp [hx]
    | some y => simp [hx, firstFault_cons]

/-- Applying a function along a list succeeds where it succeeds at every element. -/
theorem mapM_eq_ok_iff {f : α → Except ε β} {xs : List α} {ys : List β} :
    xs.mapM f = .ok ys ↔ List.Forall₂ (fun x y => f x = .ok y) xs ys := by
  induction xs generalizing ys with
  | nil =>
    rw [List.mapM_nil, List.forall₂_nil_left_iff]
    exact ⟨fun h => (Except.ok.inj h).symm, fun h => h ▸ rfl⟩
  | cons x xs ih =>
    rw [List.mapM_cons, List.forall₂_cons_left_iff]
    cases hx : f x with
    | error e => simp [bind, Except.bind]
    | ok y =>
      cases hxs : xs.mapM f with
      | error e => simp [bind, Except.bind, ← ih, hxs]
      | ok others => simp [bind, Except.bind, pure, Except.pure, ← ih, hxs, eq_comm]

/-- Every element of the second of two related lists is related to one of the first. -/
theorem exists_mem_of_forall₂ {related : α → β → Prop} {xs : List α} {ys : List β}
    (h : List.Forall₂ related xs ys) {y : β} (hy : y ∈ ys) : ∃ x ∈ xs, related x y := by
  induction h with
  | nil => simp at hy
  | @cons x y' xs ys hxy _ ih =>
    rcases List.mem_cons.1 hy with rfl | hy
    · exact ⟨x, List.mem_cons_self, hxy⟩
    · obtain ⟨z, hz, hzy⟩ := ih hy
      exact ⟨z, List.mem_cons_of_mem _ hz, hzy⟩

/-- Lists whose elements have the same results one by one have the same results. -/
theorem filterMap_eq_of_forall₂ {γ : Type} {f : α → Option γ} {g : β → Option γ} {xs : List α}
    {ys : List β} (h : List.Forall₂ (fun x y => f x = g y) xs ys) :
    xs.filterMap f = ys.filterMap g := by
  induction h with
  | nil => rfl
  | cons hxy _ ih => rw [List.filterMap_cons, List.filterMap_cons, hxy, ih]

/-- Applying a function along a list fails as it fails at the first element where it does. -/
theorem mapM_eq_error_iff {f : α → Except ε β} {xs : List α} {e : ε} :
    xs.mapM f = .error e ↔ FirstFault (fun x e => f x = .error e) xs e := by
  induction xs with
  | nil => simp [not_firstFault_nil, pure, Except.pure]
  | cons x xs ih =>
    rw [List.mapM_cons, firstFault_cons, ← ih]
    cases hx : f x with
    | error e' => simp [bind, Except.bind]
    | ok y =>
      cases hxs : xs.mapM f with
      | error e' => simp [bind, Except.bind]
      | ok others => simp [bind, Except.bind, pure, Except.pure]

end Remap
