import Mathlib.Data.List.Infix

/-!
# Interactive programs and the disciplines they follow

A program of a concurrent system is a tree of commands (`Prog`): it issues a command, waits for the
answer and continues with it. Nothing here says what a command does. A discipline says which command
may follow which history, and what a program that returns has done by then (`Follows`). Since it
holds for all answers, it does not depend on what other programs do to the state meanwhile; what an
answer says about the state is a matter of the system (`AlbyHub.Interaction.Pool`). The judgement is
defined by recursion on the program; its rules are those of one command (`Follows.call`), of
sequencing (`Follows.bind`) and of weakening (`Follows.mono`).
-/

namespace Interaction

/-- A program over the commands `C`, where the command `c` is answered by an `R c`. Reference: none
(the free monad of a signature). -/
inductive Prog (C : Type) (R : C → Type) (α : Type) where
  | ret (a : α)
  | cmd (c : C) (k : R c → Prog C R α)

/-- A command that was issued, with its answer. Reference: none. -/
structure Call (C : Type) (R : C → Type) where
  cmd : C
  answer : R cmd

namespace Prog

variable {C : Type} {R : C → Type} {α β : Type}

/-- Sequencing: the second program takes over where the first returns. Reference: none. -/
def bind : Prog C R α → (α → Prog C R β) → Prog C R β
  | .ret a, f => f a
  | .cmd c k, f => .cmd c fun r => (k r).bind f

instance : Monad (Prog C R) where
  pure := .ret
  bind := bind

/-- The program that issues one command and returns its answer. Reference: none. -/
def call (c : C) : Prog C R (R c) := .cmd c .ret

/-- Whether the program has returned. Reference: none. -/
def done : Prog C R α → Bool
  | .ret _ => true
  | .cmd _ _ => false

/-- The value of a program that has returned. Reference: none. -/
def result : Prog C R α → Option α
  | .ret a => some a
  | .cmd _ _ => none

/-- The command that the program issues next. Reference: none. -/
def next : Prog C R α → Option C
  | .ret _ => none
  | .cmd c _ => some c

/-- The program with its commands translated into those of another signature, whose answers it
takes. Reference: none. -/
def relabel {C' : Type} {R' : C' → Type} (f : C → C') : Prog C (fun c => R' (f c)) α → Prog C' R' α
  | .ret a => .ret a
  | .cmd c k => .cmd (f c) fun r => (k r).relabel f

theorem bind_assoc {γ : Type} (p : Prog C R α) (f : α → Prog C R β) (g : β → Prog C R γ) :
    (p >>= f >>= g) = (p >>= fun a => f a >>= g) := by
  induction p with
  | ret a => rfl
  | cmd c k ih =>
    show Prog.cmd c _ = Prog.cmd c _
    congr 1
    funext r
    exact ih r

theorem relabel_bind {C' : Type} {R' : C' → Type} (f : C → C') (p : Prog C (fun c => R' (f c)) α)
    (g : α → Prog C (fun c => R' (f c)) β) :
    (p >>= g).relabel f = (p.relabel f >>= fun a => (g a).relabel f : Prog C' R' β) := by
  induction p with
  | ret a => rfl
  | cmd c k ih =>
    show Prog.cmd (f c) _ = Prog.cmd (f c) _
    congr 1
    funext r
    exact ih r

/-- The program with each of its commands carried out by a program. Reference: none. -/
def through {C' : Type} {R' : C' → Type} (f : (c : C) → Prog C' R' (R c)) :
    Prog C R α → Prog C' R' α
  | .ret a => .ret a
  | .cmd c k => (f c).bind fun r => (k r).through f

theorem next_of_done {p : Prog C R α} (h : p.done = true) : p.next = none := by
  cases p with
  | ret a => rfl
  | cmd c k => cases h

end Prog

section
variable {C : Type} {R : C → Type} {α β : Type}
variable {ok ok' : List (Call C R) → C → Prop} {post post' : List (Call C R) → α → Prop}
variable {out : List (Call C R) → β → Prop} {h : List (Call C R)}

/-- Every command that the program still issues is one that `ok` lets follow the history, and when
it returns, the history and the value satisfy `post`. A history is a list of calls, latest first.
Reference: none. -/
def Follows (ok : List (Call C R) → C → Prop) (post : List (Call C R) → α → Prop) :
    List (Call C R) → Prog C R α → Prop
  | h, .ret a => post h a
  | h, .cmd c k => ok h c ∧ ∀ r, Follows ok post (⟨c, r⟩ :: h) (k r)

/-- Every command of the history was one that `ok` lets follow what was before it. Reference:
none. -/
def Obeys (ok : List (Call C R) → C → Prop) : List (Call C R) → Prop
  | [] => True
  | call :: h => ok h call.cmd ∧ Obeys ok h

/-- A command of a history was allowed when it was issued. Reference: none. -/
theorem Obeys.of_mem {call : Call C R} (ho : Obeys ok h) (hc : call ∈ h) :
    ∃ h', h' <:+ h ∧ ok h' call.cmd := by
  induction h with
  | nil => cases hc
  | cons call' h ih =>
    rcases List.mem_cons.1 hc with rfl | hc
    · exact ⟨h, List.suffix_cons _ _, ho.1⟩
    · obtain ⟨h', hs, hok⟩ := ih ho.2 hc
      exact ⟨h', hs.trans (List.suffix_cons _ _), hok⟩

/-- A discipline without conditions. Reference: none. -/
theorem follows_any {p : Prog C R α} : Follows (fun _ _ => True) (fun _ _ => True) h p := by
  induction p generalizing h with
  | ret a => trivial
  | cmd c k ih => exact ⟨trivial, fun r => ih r⟩

/-- The rule of a returned value. Reference: none. -/
@[simp] theorem follows_pure {a : α} :
    Follows ok post h (pure a : Prog C R α) ↔ post h a := Iff.rfl

/-- The rule of one command. Reference: none. -/
@[simp] theorem follows_call {c : C} {post : List (Call C R) → R c → Prop} :
    Follows ok post h (Prog.call c) ↔ ok h c ∧ ∀ r, post (⟨c, r⟩ :: h) r := Iff.rfl

/-- The rule of one command that is followed by `f`. Reference: none. -/
theorem Follows.call {c : C} {f : R c → Prog C R β} (hc : ok h c)
    (hf : ∀ r, Follows ok out (⟨c, r⟩ :: h) (f r)) : Follows ok out h (Prog.call c >>= f) :=
  ⟨hc, hf⟩

/-- The rule of sequencing. The history that the first program leaves ends with the one it started
from. Reference: none. -/
theorem Follows.bind {p : Prog C R α} {f : α → Prog C R β} (hp : Follows ok post h p)
    (hf : ∀ h' a, h <:+ h' → post h' a → Follows ok out h' (f a)) :
    Follows ok out h (p >>= f) := by
  induction p generalizing h with
  | ret a => exact hf h a List.suffix_rfl hp
  | cmd c k ih =>
    refine ⟨hp.1, fun r => ih r (hp.2 r) fun h' a hs hpost => ?_⟩
    exact hf h' a ((List.suffix_cons _ _).trans hs) hpost

/-- The rule of sequencing where the first program's result does not matter. Reference: none. -/
theorem Follows.seq {p : Prog C R α} {f : α → Prog C R β} (hp : Follows ok (fun _ _ => True) h p)
    (hf : ∀ h' a, h <:+ h' → Follows ok out h' (f a)) : Follows ok out h (p >>= f) :=
  hp.bind fun h' a hs _ => hf h' a hs

/-- The rule of a function of the result. Reference: none. -/
theorem Follows.map {p : Prog C R α} {f : α → β} (hp : Follows ok (fun h a => out h (f a)) h p) :
    Follows ok out h (do let a ← p; return f a) :=
  hp.bind fun _ _ _ hpost => hpost

/-- The rule of weakening. Reference: none. -/
theorem Follows.mono {p : Prog C R α} (hp : Follows ok post h p)
    (hok : ∀ h c, ok h c → ok' h c) (hpost : ∀ h' a, h <:+ h' → post h' a → post' h' a) :
    Follows ok' post' h p := by
  induction p generalizing h with
  | ret a => exact hpost h a List.suffix_rfl hp
  | cmd c k ih =>
    refine ⟨hok _ _ hp.1, fun r => ih r (hp.2 r) fun h' a hs => ?_⟩
    exact hpost h' a ((List.suffix_cons _ _).trans hs)

/-- The rule of conjunction: a program that follows two disciplines follows both at once. Reference:
none. -/
theorem Follows.and {p : Prog C R α} (hp : Follows ok post h p) (hp' : Follows ok' post' h p) :
    Follows (fun h c => ok h c ∧ ok' h c) (fun h a => post h a ∧ post' h a) h p := by
  induction p generalizing h with
  | ret a => exact ⟨hp, hp'⟩
  | cmd c k ih => exact ⟨⟨hp.1, hp'.1⟩, fun r => ih r (hp.2 r) (hp'.2 r)⟩

/-- The frame rule: what a program adds to the history are commands that its discipline lets it
issue. Reference: none. -/
theorem Follows.frame {P : C → Prop} {p : Prog C R α} (hP : ∀ h c, ok h c → P c)
    (hp : Follows ok post h p) :
    Follows ok (fun h' a => post h' a ∧ ∀ call ∈ h', call ∈ h ∨ P call.cmd) h p := by
  induction p generalizing h with
  | ret a => exact ⟨hp, fun _ => .inl⟩
  | cmd c k ih =>
    refine ⟨hp.1, fun r => (ih r (hp.2 r)).mono (fun _ _ h => h) fun h' a _ ⟨hpost, hmem⟩ => ?_⟩
    refine ⟨hpost, fun call hc => ?_⟩
    rcases hmem call hc with hc | hc
    · rcases List.mem_cons.1 hc with rfl | hc
      · exact .inr (hP _ _ hp.1)
      · exact .inl hc
    · exact .inr hc

/-- The rule of programs that carry out commands: a relation between the histories of the two that
each of these programs keeps is kept by the whole. Reference: none. -/
theorem Follows.through {C' : Type} {R' : C' → Type} {f : (c : C) → Prog C' R' (R c)}
    {ok' : List (Call C' R') → C' → Prop} {Rel : List (Call C R) → List (Call C' R') → Prop}
    {h' : List (Call C' R')} {p : Prog C R α} (hp : Follows ok post h p) (hrel : Rel h h')
    (hf : ∀ c h h', Rel h h' → ok h c →
      Follows ok' (fun h'' r => Rel (⟨c, r⟩ :: h) h'') h' (f c)) :
    Follows ok' (fun h'' a => ∃ h₁, Rel h₁ h'' ∧ post h₁ a) h' (p.through f) := by
  induction p generalizing h h' with
  | ret a => exact ⟨h, hrel, hp⟩
  | cmd c k ih => exact (hf c h h' hrel hp.1).bind fun h'' r _ hr => ih r (hp.2 r) hr

end

end Interaction
