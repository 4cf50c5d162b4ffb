import Mathlib.Data.List.Basic

/-!
# Runs of a machine

A machine is a partial step function over labels. A run takes the labels of a list one after the
other (`runLabels`), and a policy says which label may be taken in which state (`AllowsLabels`). An
invariant of the allowed steps is one of the allowed runs (`run_induction`).
-/

namespace Interaction

section
variable {S L : Type} (step : S → L → Option S)

/-- A sequence of steps. Reference: none. -/
def runLabels (s : S) : List L → Option S
  | [] => some s
  | l :: ls => (step s l).bind fun s' => runLabels s' ls

/-- The state after a sequence of steps; the first state where it is not possible. Reference:
none. -/
def labelsAfter (s : S) (ls : List L) : S := (runLabels step s ls).getD s

/-- Every step of a sequence is allowed where it is taken. Reference: none. -/
def AllowsLabels (allowed : S → L → Prop) (s : S) : List L → Prop
  | [] => True
  | l :: ls => allowed s l ∧ ∀ s', step s l = some s' → AllowsLabels allowed s' ls

variable {step} {allowed : S → L → Prop} {s s' : S} {ls : List L}

instance decidableAllowsLabels [∀ s l, Decidable (allowed s l)] :
    ∀ (s : S) (ls : List L), Decidable (AllowsLabels step allowed s ls)
  | _, [] => isTrue trivial
  | s, l :: ls =>
    have : Decidable (∀ s', step s l = some s' → AllowsLabels step allowed s' ls) :=
      match step s l with
      | none => isTrue fun _ h => nomatch h
      | some s' =>
        have := decidableAllowsLabels s' ls
        decidable_of_iff (AllowsLabels step allowed s' ls)
          ⟨fun h _ he => Option.some.inj he ▸ h, fun h => h s' rfl⟩
    inferInstanceAs (Decidable (_ ∧ _))

/-- A run that is possible leads to the state after it. Reference: none. -/
theorem runLabels_after (h : (runLabels step s ls).isSome = true) :
    runLabels step s ls = some (labelsAfter step s ls) := by
  obtain ⟨s', hs⟩ := Option.isSome_iff_exists.1 h
  rw [labelsAfter, hs]
  rfl

/-- The induction over a run: what holds at the start and is kept by every allowed step holds at the
end. Reference: none. -/
theorem run_induction {P : S → Prop} (h0 : P s)
    (hstep : ∀ s l s', P s → allowed s l → step s l = some s' → P s')
    (ha : AllowsLabels step allowed s ls) (hr : runLabels step s ls = some s') : P s' := by
  induction ls generalizing s with
  | nil => cases hr; exact h0
  | cons l ls ih =>
    obtain ⟨s₁, hs, hr⟩ := Option.bind_eq_some_iff.1 hr
    exact ih (hstep s l s₁ h0 ha.1 hs) (ha.2 s₁ hs) hr

/-- The induction over a run without a policy. Reference: none. -/
theorem run_invariant {P : S → Prop} (h0 : P s) (hstep : ∀ s l s', P s → step s l = some s' → P s')
    (hr : runLabels step s ls = some s') : P s' := by
  induction ls generalizing s with
  | nil => cases hr; exact h0
  | cons l ls ih =>
    obtain ⟨s₁, hs, hr⟩ := Option.bind_eq_some_iff.1 hr
    exact ih (hstep s l s₁ h0 hs) hr

/-- A property that a step keeps exactly where it is allowed holds all along a run exactly where
each of its steps is. Reference: none. -/
theorem allows_iff_always {I P : S → Prop} (hI : I s) (hP : P s)
    (hkeep : ∀ s l s', I s → step s l = some s' → I s')
    (hiff : ∀ s l s', I s → P s → step s l = some s' → (P s' ↔ allowed s l))
    (hr : runLabels step s ls = some s') :
    AllowsLabels step allowed s ls ↔ ∀ k s', runLabels step s (ls.take k) = some s' → P s' := by
  induction ls generalizing s with
  | nil =>
    refine ⟨fun _ k s' h => ?_, fun _ => trivial⟩
    rw [List.take_nil] at h
    cases h
    exact hP
  | cons l ls ih =>
    obtain ⟨s₁, hs, hr⟩ := Option.bind_eq_some_iff.1 hr
    have htake : ∀ k,
        runLabels step s ((l :: ls).take (k + 1)) = runLabels step s₁ (ls.take k) := by
      intro k
      rw [List.take_succ_cons, runLabels, hs]
      rfl
    constructor
    · rintro ⟨hl, hls⟩ k s' h
      cases k with
      | zero =>
        cases h
        exact hP
      | succ k =>
        rw [htake] at h
        exact (ih (hkeep s l s₁ hI hs) ((hiff s l s₁ hI hP hs).2 hl) hr).1 (hls s₁ hs) k s' h
    · intro h
      have hP₁ : P s₁ := h 1 s₁ (by rw [htake]; rfl)
      refine ⟨(hiff s l s₁ hI hP hs).1 hP₁, fun s₂ hs₂ => ?_⟩
      rw [hs] at hs₂
      cases hs₂
      refine (ih (hkeep s l s₁ hI hs) hP₁ hr).2 fun k s' hk => ?_
      exact h (k + 1) s' (by rw [htake, hk])

end

end Interaction
