import AlbyHub.Interaction.Solo
import Mathlib.Logic.Relation

/-!
# Programs that may crash

A program that is interrupted leaves the state that its last command has made (`Prog.Passes`). A
crash triple says what holds wherever it is interrupted, beside what holds when it returns
(`Prog.Survives`). Where the former is enough to run the program again, it holds after any number of
interrupted runs (`Prog.Survives.recover`).
-/

namespace Interaction

namespace Prog

variable {S E C : Type} {R : C → Type} {α β : Type}
variable {exec : S → (c : C) → E → Option (R c × S)} {s s' : S}

/-- The program, started in `s` and interrupted before a command or before it returns, leaves `s'`.
Reference: none. -/
def Passes (exec : S → (c : C) → E → Option (R c × S)) : Prog C R α → S → S → Prop
  | .ret _, s, s' => s' = s
  | .cmd c k, s, s' => s' = s ∨ ∃ e r s₁, exec s c e = some (r, s₁) ∧ (k r).Passes exec s₁ s'

/-- From `P`, the program leaves `I` wherever it is interrupted, and `Q` where it returns.
Reference: none. -/
def Survives (exec : S → (c : C) → E → Option (R c × S)) (P : S → Prop) (p : Prog C R α)
    (Q : α → S → Prop) (I : S → Prop) : Prop :=
  ∀ s, P s → (∀ s', p.Passes exec s s' → I s') ∧ ∀ a s', p.Runs exec s a s' → Q a s'

variable {P P' : S → Prop} {Q Q' : α → S → Prop} {I : S → Prop}

/-- The rule of a returned value. Reference: none. -/
theorem Survives.ret {a : α} (hq : ∀ s, P s → Q a s) (hi : ∀ s, P s → I s) :
    Survives exec P (pure a : Prog C R α) Q I := by
  refine fun s hp => ⟨?_, ?_⟩
  · rintro _ rfl
    exact hi _ hp
  · rintro _ _ ⟨rfl, rfl⟩
    exact hq _ hp

/-- The rule of one command that is followed by `f`. Reference: none. -/
theorem Survives.call {c : C} {f : R c → Prog C R α} {M : R c → S → Prop} (hi : ∀ s, P s → I s)
    (hx : ∀ s e r s₁, P s → exec s c e = some (r, s₁) → M r s₁)
    (hf : ∀ r, Survives exec (M r) (f r) Q I) : Survives exec P (Prog.call c >>= f) Q I := by
  refine fun s hp => ⟨?_, ?_⟩
  · rintro s' (rfl | ⟨e, r, s₁, he, hk⟩)
    · exact hi _ hp
    · exact (hf r s₁ (hx s e r s₁ hp he)).1 s' hk
  · rintro a s' ⟨e, r, s₁, he, hk⟩
    exact (hf r s₁ (hx s e r s₁ hp he)).2 a s' hk

/-- Where the first program is interrupted, so is the whole. Reference: none. -/
theorem passes_bind {p : Prog C R α} {f : α → Prog C R β} (h : (p >>= f).Passes exec s s') :
    p.Passes exec s s' ∨ ∃ a s₁, p.Runs exec s a s₁ ∧ (f a).Passes exec s₁ s' := by
  induction p generalizing s with
  | ret a => exact .inr ⟨a, s, ⟨rfl, rfl⟩, h⟩
  | cmd c k ih =>
    rcases h with rfl | ⟨e, r, s₁, he, hk⟩
    · exact .inl (.inl rfl)
    · rcases ih r hk with hk | ⟨a, s₂, hr, hf⟩
      · exact .inl (.inr ⟨e, r, s₁, he, hk⟩)
      · exact .inr ⟨a, s₂, ⟨e, r, s₁, he, hr⟩, hf⟩

/-- The rule of sequencing. Reference: none. -/
theorem Survives.bind {p : Prog C R α} {f : α → Prog C R β} {M : α → S → Prop}
    {Q : β → S → Prop} (hp : Survives exec P p M I) (hf : ∀ a, Survives exec (M a) (f a) Q I) :
    Survives exec P (p >>= f) Q I := by
  refine fun s hs => ⟨fun s' h => ?_, fun b s' h => ?_⟩
  · rcases passes_bind h with h | ⟨a, s₁, hr, h⟩
    · exact (hp s hs).1 s' h
    · exact (hf a s₁ ((hp s hs).2 a s₁ hr)).1 s' h
  · obtain ⟨a, s₁, hr, h⟩ := runs_bind.1 h
    exact (hf a s₁ ((hp s hs).2 a s₁ hr)).2 b s' h

/-- The rule of consequence. Reference: none. -/
theorem Survives.mono {p : Prog C R α} (hp : Survives exec P p Q I) (hpre : ∀ s, P' s → P s)
    (hpost : ∀ a s, Q a s → Q' a s) : Survives exec P' p Q' I :=
  fun s hs => ⟨(hp s (hpre s hs)).1, fun a s' h => hpost a s' ((hp s (hpre s hs)).2 a s' h)⟩

/-- The rule of recovery: what is left wherever the program is interrupted, and is enough to run it
again, is left by any number of interrupted runs. Reference: none. -/
theorem Survives.recover {p : Prog C R α} (hp : Survives exec I p Q I) (hs : I s)
    (hc : Relation.ReflTransGen (p.Passes exec) s s') : I s' := by
  induction hc with
  | refl => exact hs
  | tail _ hpass ih => exact (hp _ ih).1 _ hpass

end Prog

end Interaction
