import Mathlib.Logic.Function.Iterate
import Mathlib.Order.Bounds.Basic

/-!
# The least good value, by ascent

A search for the least good value from a start on replaces a value that is not good by a greater one
that is still a lower bound of the good values (`Bounding`). `climb` does this a number of times;
where it ends at a good value, that is the least one (`isLeast_climb`). Where the step has a lower
adjoint apart from a floor that every step reaches, the starts from which `n` steps are enough are
those above the adjoint's `n`-th iterate of the least good value (`le_climb_iff`).
-/

namespace Ascent

variable {α : Type*} {good : α → Prop} {next : α → α} {s t : α} {n : Nat}

/-- At most `n` steps up from `s`, until a good value. Reference: none. -/
def climb (good : α → Prop) [DecidablePred good] (next : α → α) : Nat → α → α
  | 0, s => s
  | n + 1, s => if good s then s else climb good next n (next s)

section
variable [DecidablePred good]

theorem climb_of_good (hs : good s) : climb good next n s = s := by
  cases n with
  | zero => rfl
  | succ n => rw [climb, if_pos hs]

theorem climb_succ (hs : ¬good s) : climb good next (n + 1) s = climb good next n (next s) := by
  rw [climb, if_neg hs]

end

/-- From a value that is not good, `next` goes up, and not past a good one. Reference: none. -/
structure Bounding [Preorder α] (good : α → Prop) (next : α → α) : Prop where
  grows : ∀ s, ¬good s → s < next s
  bounds : ∀ s t, ¬good s → s ≤ t → good t → next s ≤ t

section
variable [Preorder α] [DecidablePred good]

theorem le_climb (h : Bounding good next) : s ≤ climb good next n s := by
  induction n generalizing s with
  | zero => exact le_refl s
  | succ n ih =>
    by_cases hs : good s
    · rw [climb_of_good hs]
    · rw [climb_succ hs]
      exact (h.grows s hs).le.trans ih

theorem climb_le (h : Bounding good next) (hst : s ≤ t) (ht : good t) :
    climb good next n s ≤ t := by
  induction n generalizing s with
  | zero => exact hst
  | succ n ih =>
    by_cases hs : good s
    · rwa [climb_of_good hs]
    · rw [climb_succ hs]
      exact ih (h.bounds s t hs hst ht)

/-- A good value that the ascent reaches is the least one. Reference: none. -/
theorem isLeast_climb (h : Bounding good next) (hgood : good (climb good next n s)) :
    IsLeast {t | s ≤ t ∧ good t} (climb good next n s) :=
  ⟨⟨le_climb h, hgood⟩, fun _ ht => climb_le h ht.1 ht.2⟩

end

/-! ## How many steps are enough -/

section
variable [Preorder α] {back : α → α} {top floor lo a : α}

/-- `back` answers the least value from which `next` reaches its argument, where the floor does not
reach it. Reference: none. -/
structure Adjoint (good : α → Prop) (next back : α → α) (floor lo top : α) : Prop where
  reached : good top
  least : ∀ s, lo ≤ s → good s → top ≤ s
  le : ∀ a, a ≤ top → back a ≤ a
  le_iff : ∀ s a, lo ≤ s → s ≤ top → ¬good s → a ≤ top → (a ≤ next s ↔ a ≤ floor ∨ back a ≤ s)

theorem Adjoint.iterate_le (h : Adjoint good next back floor lo top) (n : Nat) :
    back^[n] top ≤ top := by
  induction n with
  | zero => exact le_refl top
  | succ n ih =>
    rw [Function.iterate_succ_apply']
    exact (h.le _ ih).trans ih

/-- The steps that are enough, from the start's and from the floor's height. Reference: none. -/
theorem le_climb_iff [DecidablePred good] (hb : Bounding good next)
    (h : Adjoint good next back floor lo top) (hlo : lo ≤ s) (hs : s ≤ top) :
    top ≤ climb good next (n + 1) s ↔ back^[n] top ≤ floor ∨ back^[n + 1] top ≤ s := by
  induction n generalizing s with
  | zero =>
    by_cases hgood : good s
    · rw [climb_of_good hgood]
      have htop := h.least s hlo hgood
      exact iff_of_true htop (.inr ((h.iterate_le 1).trans htop))
    · rw [climb_succ hgood]
      exact h.le_iff s top hlo hs hgood (le_refl top)
  | succ n ih =>
    by_cases hgood : good s
    · rw [climb_of_good hgood]
      have htop := h.least s hlo hgood
      exact iff_of_true htop (.inr ((h.iterate_le _).trans htop))
    · have hbound := hb.bounds s top hgood hs h.reached
      rw [climb_succ hgood, ih (hlo.trans (hb.grows s hgood).le) hbound,
        h.le_iff s _ hlo hs hgood (h.iterate_le _), ← Function.iterate_succ_apply' back]
      -- the floor reaches an iterate where it reaches the one before
      have hdown : back^[n + 1] top ≤ back^[n] top := by
        rw [Function.iterate_succ_apply']
        exact h.le _ (h.iterate_le n)
      exact ⟨fun hor => hor.elim (fun hf => .inl (hdown.trans hf)) id, .inr⟩

end

end Ascent
