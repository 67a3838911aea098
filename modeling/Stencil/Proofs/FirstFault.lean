import Mathlib.Data.List.Basic

/-!
# `Stencil.Proofs.FirstFault` — what comes of several steps that may fail

Steps are made from left to right until one of them fails.  What comes of them is told by what each of
them gives by itself: all values, or the first fault.

## Contents
- **Two steps.** `bind_eq_ok_iff` and `bind_eq_error_iff`; `map` and `mapError` change what is told only.
- **Steps from a list.** `mapM_cons_of_ok` and `mapM_cons_of_error`, **`mapM_eq_ok_iff`** and
  **`mapM_eq_error_iff`**; `mapM_congr_map`.
-/

namespace Stencil

variable {α β ε φ σ : Type}

/-! ## Two steps -/

section Steps

variable {x : Except ε α} {f : α → Except ε β}

/-- Both of two steps succeed. -/
theorem bind_eq_ok_iff {b : β} : (x >>= f) = .ok b ↔ ∃ a, x = .ok a ∧ f a = .ok b := by
  cases x <;> simp [bind, Except.bind]

/-- The first of two steps fails, or it succeeds and the second one fails. -/
theorem bind_eq_error_iff {fault : ε} :
    (x >>= f) = .error fault ↔ x = .error fault ∨ ∃ a, x = .ok a ∧ f a = .error fault := by
  cases x <;> simp [bind, Except.bind]

theorem map_eq_ok_iff {g : α → β} {b : β} : x.map g = .ok b ↔ ∃ a, x = .ok a ∧ g a = b := by
  cases x <;> simp [Except.map]

theorem map_eq_error_iff {g : α → β} {fault : ε} : x.map g = .error fault ↔ x = .error fault := by
  cases x <;> simp [Except.map]

@[simp] theorem mapError_ok (g : ε → φ) (a : α) : (.ok a : Except ε α).mapError g = .ok a := rfl

@[simp] theorem mapError_error (g : ε → φ) (fault : ε) :
    (.error fault : Except ε α).mapError g = .error (g fault) := rfl

theorem mapError_eq_ok_iff {g : ε → φ} {a : α} : x.mapError g = .ok a ↔ x = .ok a := by
  cases x <;> simp

theorem mapError_eq_error_iff {g : ε → φ} {fault : φ} :
    x.mapError g = .error fault ↔ ∃ e, x = .error e ∧ g e = fault := by
  cases x <;> simp

end Steps

/-! ## Steps from a list -/

variable {f : α → Except ε β} {item : α} {items : List α}

/-- A step that succeeds adds its value in front. -/
theorem mapM_cons_of_ok {value : β} (h : f item = .ok value) (rest : List α) :
    (item :: rest).mapM f = (rest.mapM f).map (value :: ·) := by
  rw [List.mapM_cons, h]
  rfl

/-- A step that fails is the last one. -/
theorem mapM_cons_of_error {fault : ε} (h : f item = .error fault) (rest : List α) :
    (item :: rest).mapM f = .error fault := by
  rw [List.mapM_cons, h]
  rfl

/-- All steps succeed. -/
theorem mapM_eq_ok_iff {values : List β} :
    items.mapM f = .ok values ↔ items.map f = values.map .ok := by
  induction items generalizing values with
  | nil => cases values <;> simp [pure, Except.pure]
  | cons item rest ih =>
    rw [List.map_cons]
    cases hitem : f item with
    | error fault =>
      rw [mapM_cons_of_error hitem]
      cases values <;> simp
    | ok value =>
      rw [mapM_cons_of_ok hitem]
      cases values with
      | nil => cases rest.mapM f <;> simp [Except.map]
      | cons first values =>
        rw [List.map_cons, List.cons.injEq, Except.ok.injEq, ← ih]
        cases rest.mapM f <;> simp [Except.map]

/-- Steps succeed if each of them does. -/
theorem exists_mapM_eq_ok_iff :
    (∃ values, items.mapM f = .ok values) ↔ ∀ item ∈ items, ∃ value, f item = .ok value := by
  induction items with
  | nil => simp [pure, Except.pure]
  | cons item rest ih =>
    rw [List.forall_mem_cons, ← ih]
    cases hitem : f item with
    | error fault => simp [mapM_cons_of_error hitem]
    | ok value => simp [mapM_cons_of_ok hitem, map_eq_ok_iff]

/-- A step fails, and all steps before it succeed. -/
theorem mapM_eq_error_iff {fault : ε} :
    items.mapM f = .error fault ↔
      ∃ before item after, items = before ++ item :: after ∧
        (∀ earlier ∈ before, ∃ value, f earlier = .ok value) ∧ f item = .error fault := by
  induction items with
  | nil => simp [pure, Except.pure]
  | cons item rest ih =>
    cases hitem : f item with
    | error e =>
      rw [mapM_cons_of_error hitem, Except.error.injEq]
      constructor
      · rintro rfl
        exact ⟨[], item, rest, rfl, by simp, hitem⟩
      · rintro ⟨before, failing, after, hsplit, hbefore, hfailing⟩
        -- no step is made before the first one
        cases before with
        | nil =>
          obtain ⟨rfl, _⟩ := List.cons.inj hsplit
          exact Except.error.inj (hitem.symm.trans hfailing)
        | cons first before =>
          obtain ⟨rfl, _⟩ := List.cons.inj hsplit
          obtain ⟨value, hvalue⟩ := hbefore item List.mem_cons_self
          rw [hitem] at hvalue
          cases hvalue
    | ok value =>
      have hrest : (rest.mapM f).map (value :: ·) = .error fault ↔ rest.mapM f = .error fault := by
        cases rest.mapM f <;> simp [Except.map]
      rw [mapM_cons_of_ok hitem, hrest, ih]
      constructor
      · rintro ⟨before, failing, after, rfl, hbefore, hfailing⟩
        refine ⟨item :: before, failing, after, rfl, ?_, hfailing⟩
        exact List.forall_mem_cons.2 ⟨⟨value, hitem⟩, hbefore⟩
      · rintro ⟨before, failing, after, hsplit, hbefore, hfailing⟩
        cases before with
        | nil =>
          obtain ⟨rfl, _⟩ := List.cons.inj hsplit
          rw [hitem] at hfailing
          cases hfailing
        | cons first before =>
          obtain ⟨_, rfl⟩ := List.cons.inj hsplit
          exact ⟨before, failing, after, rfl, (List.forall_mem_cons.1 hbefore).2, hfailing⟩

/-- What comes of steps depends on nothing but what each of them gives. -/
theorem mapM_congr_map {g : σ → Except ε β} {others : List σ} (h : items.map f = others.map g) :
    items.mapM f = others.mapM g := by
  induction items generalizing others with
  | nil => rw [List.map_eq_nil_iff.1 h.symm, List.mapM_nil, List.mapM_nil]
  | cons item rest ih =>
    obtain ⟨other, others, rfl, hfirst, hrest⟩ := List.map_eq_cons_iff.1 h.symm
    cases hother : g other with
    | ok value =>
      rw [mapM_cons_of_ok (hfirst.symm.trans hother), mapM_cons_of_ok hother, ih hrest.symm]
    | error fault =>
      rw [mapM_cons_of_error (hfirst.symm.trans hother), mapM_cons_of_error hother]

end Stencil
