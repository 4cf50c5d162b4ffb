import AlbyHub.Interaction.Pool

/-!
# Threads by index

Two calls of a pool may be equal as threads, so that what holds of at most one call is a statement
about the places in the list (`Unique`). A step of call `i` replaces the thread at its place, and a
new call is appended.
-/

namespace Interaction

section
variable {T : Type} {ts : List T} {t t' : T} {i : Nat} {P : T → Prop}

/-- At most one place of the list satisfies the property. Reference: none. -/
def Unique (P : T → Prop) (ts : List T) : Prop :=
  ∀ (i j : Nat) (t t' : T), ts[i]? = some t → ts[j]? = some t' → P t → P t' → i = j

/-- A thread after the step of call `i` is the stepped one or another one. Reference: none. -/
theorem mem_set_index (ht : t ∈ ts.set i t') : t = t' ∨ ∃ j, j ≠ i ∧ ts[j]? = some t := by
  obtain ⟨j, hj⟩ := List.mem_iff_getElem?.1 ht
  rw [List.getElem?_set] at hj
  split at hj
  · split at hj
    · exact .inl (Option.some.inj hj).symm
    · cases hj
  · next hne => exact .inr ⟨j, fun he => hne he.symm, hj⟩

theorem mem_set_self (hi : ts[i]? = some t) : t' ∈ ts.set i t' := by
  obtain ⟨hlt, -⟩ := List.getElem?_eq_some_iff.1 hi
  exact List.mem_iff_getElem?.2 ⟨i, by rw [List.getElem?_set_self hlt]⟩

/-- Every thread has a successor after the step of call `i`. Reference: none. -/
theorem exists_mem_set {u : T} (hi : ts[i]? = some t) (hu : u ∈ ts) :
    (u = t ∧ t' ∈ ts.set i t') ∨ u ∈ ts.set i t' := by
  obtain ⟨j, hj⟩ := List.mem_iff_getElem?.1 hu
  by_cases he : i = j
  · rw [he, hj] at hi
    exact .inl ⟨Option.some.inj hi, he ▸ mem_set_self hj⟩
  · exact .inr (List.mem_iff_getElem?.2 ⟨j, by rw [List.getElem?_set_ne he, hj]⟩)

/-- A stronger property. Reference: none. -/
theorem Unique.imp {Q : T → Prop} (hu : Unique P ts) (h : ∀ t, Q t → P t) : Unique Q ts :=
  fun i j t t' hi hj hq hq' => hu i j t t' hi hj (h t hq) (h t' hq')

/-- The stepped call satisfies the property only if it did before. Reference: none. -/
theorem Unique.set (hu : Unique P ts) (hi : ts[i]? = some t) (hp : P t' → P t) :
    Unique P (ts.set i t') := by
  have hold : ∀ (j : Nat) t₁, (ts.set i t')[j]? = some t₁ → P t₁ → ∃ t₂, ts[j]? = some t₂ ∧
      P t₂ := by
    intro j t₁ hj hp₁
    rw [List.getElem?_set] at hj
    split at hj
    · next he =>
      split at hj
      · cases hj
        exact ⟨t, he ▸ hi, hp hp₁⟩
      · cases hj
    · exact ⟨t₁, hj, hp₁⟩
  intro j j' t₁ t₂ hj hj' hp₁ hp₂
  obtain ⟨t₁', hj, hp₁⟩ := hold j t₁ hj hp₁
  obtain ⟨t₂', hj', hp₂⟩ := hold j' t₂ hj' hp₂
  exact hu j j' t₁' t₂' hj hj' hp₁ hp₂

/-- No other call satisfies the property. Reference: none. -/
theorem Unique.set_of_none (hn : ∀ (j : Nat) t, ts[j]? = some t → j ≠ i → ¬ P t) :
    Unique P (ts.set i t') := by
  have hself : ∀ (j : Nat) t₁, (ts.set i t')[j]? = some t₁ → P t₁ → j = i := by
    intro j t₁ hj hp
    rw [List.getElem?_set] at hj
    split at hj
    · next he => exact he.symm
    · exact Decidable.byContradiction fun hne => hn j t₁ hj hne hp
  intro j j' t₁ t₂ hj hj' hp₁ hp₂
  rw [hself j t₁ hj hp₁, hself j' t₂ hj' hp₂]

/-- A new call does not satisfy the property. Reference: none. -/
theorem Unique.append (hu : Unique P ts) (hp : ¬ P t) : Unique P (ts ++ [t]) := by
  have hold : ∀ (i : Nat) t₁, (ts ++ [t])[i]? = some t₁ → P t₁ → ts[i]? = some t₁ := by
    intro i t₁ hi hp₁
    by_cases hlt : i < ts.length
    · rw [← List.getElem?_append_left hlt]
      exact hi
    · rw [List.getElem?_append_right (by omega)] at hi
      have hlast := List.mem_of_getElem? hi
      rw [List.mem_singleton] at hlast
      rw [hlast] at hp₁
      exact absurd hp₁ hp
  intro i j t₁ t₂ hi hj hp₁ hp₂
  exact hu i j t₁ t₂ (hold i t₁ hi hp₁) (hold j t₂ hj hp₂) hp₁ hp₂

/-- Dropping calls makes no second place. Reference: none. -/
theorem Unique.filter (hu : Unique P ts) (p : T → Bool) : Unique P (ts.filter p) := by
  induction ts with
  | nil => exact fun i j t t' hi => nomatch hi
  | cons u ts ih =>
    have htail : Unique P ts := fun i j t t' hi hj hp hp' =>
      Nat.succ.inj (hu (i + 1) (j + 1) t t' hi hj hp hp')
    rw [List.filter_cons]
    split
    · intro i j t t' hi hj hp hp'
      cases i with
      | zero =>
        cases j with
        | zero => rfl
        | succ j =>
          -- the head and another place both satisfy the property
          obtain ⟨m, hm⟩ := List.mem_iff_getElem?.1 (List.mem_filter.1 (List.mem_of_getElem? hj)).1
          cases hu 0 (m + 1) t t' hi hm hp hp'
      | succ i =>
        cases j with
        | zero =>
          obtain ⟨m, hm⟩ := List.mem_iff_getElem?.1 (List.mem_filter.1 (List.mem_of_getElem? hi)).1
          cases hu (m + 1) 0 t t' hm hj hp hp'
        | succ j => exact congrArg Nat.succ (ih htail i j t t' hi hj hp hp')
    · exact ih htail

end

end Interaction
