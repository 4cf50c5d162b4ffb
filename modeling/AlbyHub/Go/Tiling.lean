import Mathlib.Algebra.Order.Group.Int
import Mathlib.Algebra.Order.Ring.Int
import Mathlib.Order.Monotone.Basic
import Mathlib.Algebra.Group.Basic
import Mathlib.Order.SuccPred.IntervalSucc
import Mathlib.Data.Int.ConditionallyCompleteOrder
import Mathlib.Data.Int.SuccPred

/-!
# Windows that tile a line

A tiling is an increasing sequence of starts: the window `k` holds the points from `start k` up to
`start (k + 1)`. A point is in at most one window (`Tiling.At.unique`), so a function that answers
the start of a window that holds its argument is determined (`Tiling.Locates.eq`) and constant on
each window. `Tiling.scaled` is the same windows in a finer unit.
-/

/-- The starts of windows, one after the other. Reference: none. -/
structure Tiling where
  start : ℤ → ℤ
  strictMono : StrictMono start

namespace Tiling

variable {T : Tiling} {k l t : ℤ}

/-- The window `k` holds the point. Reference: none. -/
def At (T : Tiling) (k t : ℤ) : Prop := T.start k ≤ t ∧ t < T.start (k + 1)

/-- Windows do not overlap. Reference: none. -/
theorem At.unique (h : T.At k t) (h' : T.At l t) : k = l := by
  have hlt : k < l + 1 := T.strictMono.lt_iff_lt.1 (lt_of_le_of_lt h.1 h'.2)
  have hlt' : l < k + 1 := T.strictMono.lt_iff_lt.1 (lt_of_le_of_lt h'.1 h.2)
  omega

/-- A window holds its start. Reference: none. -/
theorem at_start (T : Tiling) (k : ℤ) : T.At k (T.start k) :=
  ⟨le_refl _, T.strictMono (Int.lt_succ k)⟩

/-- The function answers the start of the window that holds its argument. Reference: none. -/
def Locates (T : Tiling) (f : ℤ → ℤ) : Prop := ∀ t, ∃ k, T.At k t ∧ f t = T.start k

section
variable {f : ℤ → ℤ} (h : T.Locates f)

include h

theorem Locates.eq (ht : T.At k t) : f t = T.start k := by
  obtain ⟨l, hl, he⟩ := h t
  rw [he, hl.unique ht]

theorem Locates.start_eq (k : ℤ) : f (T.start k) = T.start k := h.eq (T.at_start k)

theorem Locates.le (t : ℤ) : f t ≤ t := by
  obtain ⟨k, hk, he⟩ := h t
  rw [he]
  exact hk.1

/-- Two points have the same start exactly when one window holds them. Reference: none. -/
theorem Locates.eq_iff (ht : T.At k t) {u : ℤ} : f u = f t ↔ T.At k u := by
  constructor
  · intro he
    obtain ⟨l, hl, hu⟩ := h u
    rw [hu, h.eq ht, T.strictMono.injective.eq_iff] at he
    exact he ▸ hl
  · intro hu
    rw [h.eq hu, h.eq ht]

/-- The start of the next window is the point up to which all points have the start of `t`, and
which is a start itself. Reference: none. -/
theorem Locates.next_iff (ht : T.At k t) {e : ℤ} :
    (t < e ∧ f e = e ∧ ∀ u, f t ≤ u → u < e → f u = f t) ↔ e = T.start (k + 1) := by
  have hstart : f t = T.start k := h.eq ht
  constructor
  · rintro ⟨hlt, hself, hsame⟩
    rcases lt_trichotomy e (T.start (k + 1)) with hless | heq | hmore
    · -- the window of `t` would hold `e`, and begin there
      have hin : T.At k e := ⟨le_trans ht.1 hlt.le, hless⟩
      have he : e = T.start k := hself.symm.trans (h.eq hin)
      exact absurd (lt_of_le_of_lt ht.1 hlt) (he ▸ lt_irrefl _)
    · exact heq
    · -- the next window begins before `e`
      have hnext : f (T.start (k + 1)) = f t :=
        hsame _ (hstart ▸ (T.strictMono (Int.lt_succ k)).le) hmore
      rw [h.start_eq, hstart, T.strictMono.injective.eq_iff] at hnext
      exact absurd hnext (Int.lt_succ k).ne'
  · rintro rfl
    exact ⟨ht.2, h.start_eq _, fun u hle hlt => (h.eq ⟨hstart ▸ hle, hlt⟩).trans hstart.symm⟩

/-- A point of the window is after the start at the later points of its own window and at no others,
unless it is the start. Reference: none. -/
theorem Locates.after_iff (ht : T.At k t) {c : ℤ} (hle : f t ≤ c) (hc : c ≤ t) :
    (∀ u, c ≤ u → (f u < c ↔ f u = f t)) ↔ c ≠ f t := by
  have hstart : f t = T.start k := h.eq ht
  have hin : T.At k c := ⟨hstart ▸ hle, lt_of_le_of_lt hc ht.2⟩
  constructor
  · intro hall heq
    have hself : f c = f t := (h.eq hin).trans hstart.symm
    exact absurd ((hall c le_rfl).2 hself) (by rw [hself, heq]; exact lt_irrefl _)
  · intro hne u hu
    constructor
    · intro hlt
      obtain ⟨l, hl, he⟩ := h u
      have hl' : T.At l c := ⟨he ▸ hlt.le, lt_of_le_of_lt hu hl.2⟩
      rw [he, hstart, hl'.unique hin]
    · intro he
      rw [he]
      exact lt_of_le_of_ne hle (Ne.symm hne)

end

/-- The windows in a unit of which `scale` make up the old one, where the old origin is at
`-shift`. Reference: none. -/
def scaled (T : Tiling) (scale shift : ℤ) (hs : 0 < scale) : Tiling where
  start k := T.start k * scale - shift
  strictMono _ _ hkl := Int.sub_lt_sub_right (Int.mul_lt_mul_of_pos_right (T.strictMono hkl) hs) _

theorem at_scaled {scale shift : ℤ} (hs : 0 < scale) :
    (T.scaled scale shift hs).At k t ↔ T.At k ((t + shift) / scale) := by
  simp only [At, scaled]
  rw [Int.le_ediv_iff_mul_le hs, Int.ediv_lt_iff_lt_mul hs]
  constructor
  · rintro ⟨hle, hlt⟩
    exact ⟨by omega, by omega⟩
  · rintro ⟨hle, hlt⟩
    exact ⟨by omega, by omega⟩

end Tiling
