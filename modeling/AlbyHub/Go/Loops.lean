import Mathlib.Data.List.Basic

/-!
# Loops that return early

A loop handles its elements in order, emits what each of them gives, and returns at the first error
(`eachUntilError`). What it emits is all that the elements are to give (`own`) exactly where no
element that is to give something comes after an error or gives less than it is to.
-/

namespace Go

/-- The loop `for _, x := range l { if err := f(x); err != nil { return err } }`, with what it
emits. Reference: the Go language, `for` with `range`. -/
def eachUntilError {α β ε : Type} (f : α → Except ε Unit × List β) : List α → Except ε Unit × List β
  | [] => (.ok (), [])
  | x :: l =>
    match f x with
    | (.error e, emitted) => (.error e, emitted)
    | (.ok (), emitted) => ((eachUntilError f l).1, emitted ++ (eachUntilError f l).2)

section
variable {α β ε : Type} {f : α → Except ε Unit × List β} {own : α → List β} {l : List α}

/-- Each element gives part of what it is to give, and so does the loop. Reference: none. -/
theorem eachUntilError_sublist (hf : ∀ x ∈ l, (f x).2.Sublist (own x)) :
    (eachUntilError f l).2.Sublist (l.flatMap own) := by
  induction l with
  | nil => exact .slnil
  | cons x l ih =>
    have hx := hf x List.mem_cons_self
    rw [eachUntilError, List.flatMap_cons]
    split
    · next e emitted heq =>
      rw [heq] at hx
      exact hx.trans (List.sublist_append_left _ _)
    · next emitted heq =>
      rw [heq] at hx
      exact hx.append (ih fun y hy => hf y (List.mem_cons_of_mem x hy))

/-- Parts of two lists make up the whole only where each is the whole. Reference: none. -/
theorem append_eq_append_iff_of_sublist {l₁ l₂ l₁' l₂' : List β} (h₁ : l₁.Sublist l₁')
    (h₂ : l₂.Sublist l₂') : l₁ ++ l₂ = l₁' ++ l₂' ↔ l₁ = l₁' ∧ l₂ = l₂' := by
  constructor
  · intro h
    have hlen := congrArg List.length h
    rw [List.length_append, List.length_append] at hlen
    have hlen₁ := h₁.length_le
    have hlen₂ := h₂.length_le
    exact ⟨h₁.eq_of_length (by omega), h₂.eq_of_length (by omega)⟩
  · rintro ⟨rfl, rfl⟩
    rfl

/-- An empty whole has an empty part only. Reference: none. -/
theorem eq_of_sublist {l l' : List β} (h : l.Sublist l') (hne : l' ≠ [] → l = l') : l = l' := by
  by_cases hnil : l' = []
  · rw [hnil] at h ⊢
    exact List.sublist_nil.1 h
  · exact hne hnil

/-- The loop emits all that its elements are to give exactly where each element that is to give
something gives it and comes after no error. Reference: none. -/
theorem eachUntilError_eq_flatMap_iff (hf : ∀ x ∈ l, (f x).2.Sublist (own x)) :
    (eachUntilError f l).2 = l.flatMap own ↔ ∀ before x after, l = before ++ x :: after →
      own x ≠ [] →
      (f x).2 = own x ∧ ∀ y ∈ before, (f y).1 = .ok () := by
  induction l with
  | nil => simp [eachUntilError]
  | cons x l ih =>
    have hx := hf x List.mem_cons_self
    have hl : ∀ y ∈ l, (f y).2.Sublist (own y) := fun y hy => hf y (List.mem_cons_of_mem x hy)
    rw [eachUntilError, List.flatMap_cons]
    split
    · next e emitted heq =>
      rw [heq] at hx
      have hiff : emitted = own x ++ l.flatMap own ↔ emitted = own x ∧ [] = l.flatMap own := by
        have := append_eq_append_iff_of_sublist hx (List.nil_sublist (l.flatMap own))
        rwa [List.append_nil] at this
      rw [hiff]
      constructor
      · rintro ⟨hown, hrest⟩ before y after hl hy
        cases before with
        | nil =>
          obtain ⟨rfl, rfl⟩ := List.cons.inj hl
          rw [heq]
          exact ⟨hown, fun _ hmem => nomatch hmem⟩
        | cons z before =>
          obtain ⟨rfl, rfl⟩ := List.cons.inj hl
          refine absurd ?_ hy
          have hnil := List.flatMap_eq_nil_iff.1 hrest.symm
          exact hnil y (List.mem_append_right _ List.mem_cons_self)
      · intro h
        constructor
        · refine eq_of_sublist hx fun hne => ?_
          have hgives := (h [] x l rfl hne).1
          rwa [heq] at hgives
        · refine (List.flatMap_eq_nil_iff.2 fun y hy => ?_).symm
          by_contra hnil
          obtain ⟨before, after, rfl⟩ := List.append_of_mem hy
          have hok := (h (x :: before) y after rfl hnil).2 x List.mem_cons_self
          rw [heq] at hok
          cases hok
    · next emitted heq =>
      rw [heq] at hx
      rw [append_eq_append_iff_of_sublist hx (eachUntilError_sublist hl), ih hl]
      constructor
      · rintro ⟨hown, hrest⟩ before y after hl hy
        cases before with
        | nil =>
          obtain ⟨rfl, rfl⟩ := List.cons.inj hl
          rw [heq]
          exact ⟨hown, fun _ hmem => nomatch hmem⟩
        | cons z before =>
          obtain ⟨rfl, rfl⟩ := List.cons.inj hl
          obtain ⟨hgives, hok⟩ := hrest before y after rfl hy
          refine ⟨hgives, fun z' hz' => ?_⟩
          rcases List.mem_cons.1 hz' with rfl | hz'
          · rw [heq]
          · exact hok z' hz'
      · intro h
        constructor
        · refine eq_of_sublist hx fun hne => ?_
          have hgives := (h [] x l rfl hne).1
          rwa [heq] at hgives
        · rintro before y after rfl hy
          obtain ⟨hgives, hok⟩ := h (x :: before) y after rfl hy
          exact ⟨hgives, fun z hz => hok z (List.mem_cons_of_mem x hz)⟩

end

end Go
