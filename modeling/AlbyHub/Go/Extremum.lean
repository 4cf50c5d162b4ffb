import Mathlib.Order.Bounds.Basic

/-!
# The best of a list, in a variable

A loop keeps the best value so far in a variable that is empty at first (`keep`): a later value
replaces it only where it is better. At the end the variable holds a value of the list that no value
of the list beats, or nothing where the list is empty. With `<` that is the least value
(`isLeast_keep`), with `>` the greatest (`isGreatest_keep`).
-/

namespace Extremum

variable {α : Type*} {r : α → α → Prop} [DecidableRel r] {l : List α} {a b m : α}

/-- A value replaces what is kept where nothing is, or where it is better. Reference: none. -/
def keep (r : α → α → Prop) [DecidableRel r] (kept : Option α) (a : α) : Option α :=
  match kept with
  | none => some a
  | some b => if r a b then some a else some b

/-- The relation is a strict one, and two values that a third is between are related to it.
Reference: none. -/
structure Better (r : α → α → Prop) : Prop where
  irrefl : ∀ a, ¬r a a
  trans : ∀ a b c, r a b → r b c → r a c
  between : ∀ a b c, r a c → r a b ∨ r b c

theorem foldl_keep_some (hr : Better r) (h : l.foldl (keep r) (some b) = some m) :
    (m = b ∨ m ∈ l) ∧ (∀ a ∈ l, ¬r a m) ∧ ¬r b m := by
  induction l generalizing b with
  | nil =>
    obtain rfl := Option.some.inj h
    exact ⟨.inl rfl, nofun, hr.irrefl b⟩
  | cons a l ih =>
    rw [List.foldl_cons, keep] at h
    split at h
    · next hab =>
      obtain ⟨hm, hl, ha⟩ := ih h
      refine ⟨.inr (hm.elim (fun he => he ▸ List.mem_cons_self) (List.mem_cons_of_mem a)),
        List.forall_mem_cons.2 ⟨ha, hl⟩, fun hb => ha (hr.trans a b m hab hb)⟩
    · next hab =>
      obtain ⟨hm, hl, hb⟩ := ih h
      refine ⟨hm.imp_right (List.mem_cons_of_mem a), List.forall_mem_cons.2 ⟨fun ham => ?_, hl⟩, hb⟩
      exact hb ((hr.between a b m ham).resolve_left hab)

theorem isSome_foldl_keep (b : α) : (l.foldl (keep r) (some b)).isSome := by
  induction l generalizing b with
  | nil => rfl
  | cons a l ih =>
    rw [List.foldl_cons, keep]
    split <;> exact ih _

/-- The loop ends with a value that no value of the list beats. Reference: none. -/
theorem foldl_keep (hr : Better r) (h : l.foldl (keep r) none = some m) :
    m ∈ l ∧ ∀ a ∈ l, ¬r a m := by
  cases l with
  | nil => cases h
  | cons b l =>
    obtain ⟨hm, hl, hb⟩ := foldl_keep_some hr h
    exact ⟨List.mem_cons.2 hm, List.forall_mem_cons.2 ⟨hb, hl⟩⟩

theorem foldl_keep_none : l.foldl (keep r) none = none ↔ l = [] := by
  cases l with
  | nil => exact iff_of_true rfl rfl
  | cons b l =>
    refine iff_of_false (fun h => ?_) nofun
    have hsome : (l.foldl (keep r) (some b)).isSome := isSome_foldl_keep b
    rw [List.foldl_cons, keep] at h
    rw [h] at hsome
    cases hsome

section
variable {β : Type*} [LinearOrder β] {k : List β} {n : β}

/-- The least value so far is the least one at the end. Reference: none. -/
theorem isLeast_keep (h : k.foldl (keep (· < ·)) none = some n) : IsLeast {b | b ∈ k} n := by
  obtain ⟨hmem, hle⟩ := foldl_keep ⟨lt_irrefl, fun _ _ _ => lt_trans,
    fun a b c hac => (lt_or_ge a b).imp_right fun hba => hba.trans_lt hac⟩ h
  exact ⟨hmem, fun b hb => not_lt.1 (hle b hb)⟩

/-- The greatest value so far is the greatest one at the end. Reference: none. -/
theorem isGreatest_keep (h : k.foldl (keep (· > ·)) none = some n) :
    IsGreatest {b | b ∈ k} n := by
  have hbetter : Better fun a b : β => a > b := ⟨lt_irrefl, fun _ _ _ hab hbc => lt_trans hbc hab,
    fun a b c hac => (lt_or_ge b a).imp_right fun hab => hac.trans_le hab⟩
  obtain ⟨hmem, hle⟩ := foldl_keep hbetter h
  exact ⟨hmem, fun b hb => not_lt.1 (hle b hb)⟩

/-- A bound is at least the least value if and only if it is at least some value. Reference:
none. -/
theorem exists_keep_le {x : β} :
    (∃ n ∈ k.foldl (keep (· < ·)) none, n ≤ x) ↔ ∃ b ∈ k, b ≤ x := by
  cases hkeep : k.foldl (keep (· < ·)) none with
  | none =>
    rw [foldl_keep_none.1 hkeep]
    exact iff_of_false nofun nofun
  | some n =>
    obtain ⟨hmem, hle⟩ := isLeast_keep hkeep
    constructor
    · rintro ⟨n', hn, hx⟩
      exact ⟨n, hmem, (Option.some.inj hn) ▸ hx⟩
    · rintro ⟨b, hb, hx⟩
      exact ⟨n, rfl, (hle hb).trans hx⟩

/-- A bound is at most the greatest value if and only if it is at most some value. Reference:
none. -/
theorem exists_le_keep {x : β} :
    (∃ n ∈ k.foldl (keep (· > ·)) none, x ≤ n) ↔ ∃ b ∈ k, x ≤ b := by
  cases hkeep : k.foldl (keep (· > ·)) none with
  | none =>
    rw [foldl_keep_none.1 hkeep]
    exact iff_of_false nofun nofun
  | some n =>
    obtain ⟨hmem, hle⟩ := isGreatest_keep hkeep
    constructor
    · rintro ⟨n', hn, hx⟩
      exact ⟨n, hmem, (Option.some.inj hn) ▸ hx⟩
    · rintro ⟨b, hb, hx⟩
      exact ⟨n, rfl, hx.trans (hle hb)⟩

end

end Extremum
