import AlbyHub.Interaction.Prog

/-!
# Programs that may panic

A program over the commands `C` that may also panic is one over `Option C`, where `none` is the
panic: it has no answer, so nothing comes after it. A nil pointer is dereferenced by `deref`.
`Safe` is the weakest precondition of such a program against an adversary that answers each command
as it may: no answers lead to a panic, and what the program returns after them satisfies the
postcondition, which also sees the calls. Its rules are equivalences, so they compute the exact
condition under which a program does not panic.
-/

namespace Interaction

section
variable {C : Type} {R : C → Type} {α β : Type}

/-- What a command is answered by; a panic has no answer. Reference: none. -/
def Answer (R : C → Type) : Option C → Type
  | some c => R c
  | none => Empty

/-- A program over the commands `C` that may panic. Reference: none. -/
abbrev Panicking (C : Type) (R : C → Type) := Prog (Option C) (Answer R)

namespace Panicking

/-- The program that issues one command and returns its answer. Reference: none. -/
def issue (c : C) : Panicking C R (R c) := Prog.call (R := Answer R) (some c)

/-- The program that panics. Reference: none. -/
def panic : Panicking C R α := .cmd none fun r : Empty => r.elim

/-- The value that a pointer refers to; a nil pointer panics. Reference: none. -/
def deref : Option α → Panicking C R α
  | some a => return a
  | none => panic

/-- The value that a pointer refers to, where the pointer is tested first, else a default.
Reference: none. -/
def derefOr (p : Option α) (d : α) : Panicking C R α :=
  if p.isSome then deref p else return d

/-- A returned value is passed on. Reference: none. -/
@[simp] theorem pure_bind (a : α) (f : α → Panicking C R β) : (pure a >>= f) = f a := rfl

/-- A pointer that is not nil does not panic. Reference: none. -/
@[simp] theorem deref_some (a : α) : (deref (some a) : Panicking C R α) = pure a := rfl

/-- A tested pointer does not panic. Reference: none. -/
@[simp] theorem derefOr_eq (p : Option α) (d : α) :
    (derefOr p d : Panicking C R α) = pure (p.getD d) := by
  cases p <;> rfl

end Panicking

open Panicking

variable {may : (c : C) → R c → Prop} {post post' : List (Call C R) → α → Prop}
variable {out : List (Call C R) → β → Prop} {h : List (Call C R)}

/-- No answers that the commands may have lead the program to a panic, and when it returns, the
calls (latest first) and the value satisfy `post`. Reference: none. -/
def Safe (may : (c : C) → R c → Prop) (post : List (Call C R) → α → Prop) :
    List (Call C R) → Panicking C R α → Prop
  | h, .ret a => post h a
  | _, .cmd none _ => False
  | h, .cmd (some c) k => ∀ r : R c, may c r → Safe may post (⟨c, r⟩ :: h) (k r)

/-- The rule of a returned value. Reference: none. -/
@[simp] theorem safe_pure {a : α} : Safe may post h (pure a) ↔ post h a := Iff.rfl

/-- The rule of one command. Reference: none. -/
@[simp] theorem safe_issue {c : C} {post : List (Call C R) → R c → Prop} :
    Safe may post h (issue c) ↔ ∀ r, may c r → post (⟨c, r⟩ :: h) r := Iff.rfl

/-- The rule of a panic. Reference: none. -/
@[simp] theorem safe_panic : Safe may post h panic ↔ False := Iff.rfl

/-- The rule of a pointer. Reference: none. -/
@[simp] theorem safe_deref {p : Option α} : Safe may post h (deref p) ↔ ∃ a, p = some a ∧
  post h a := by
  cases p with
  | none => simp [deref]
  | some a => simp [deref]

/-- The rule of sequencing. Reference: none. -/
@[simp] theorem safe_bind {p : Panicking C R α} {f : α → Panicking C R β} :
    Safe may out h (p >>= f) ↔ Safe may (fun h a => Safe may out h (f a)) h p := by
  induction p generalizing h with
  | ret a => exact Iff.rfl
  | cmd c k ih =>
    cases c with
    | none => exact Iff.rfl
    | some c => exact forall₂_congr fun r _ => ih r

/-- The rule of a test. Reference: none. -/
@[simp] theorem safe_ite {c : Prop} [Decidable c] {p q : Panicking C R α} :
    Safe may post h (if c then p else q) ↔
      (c → Safe may post h p) ∧ (¬c → Safe may post h q) := by
  by_cases hc : c <;> simp [hc]

/-- The rule of weakening. Reference: none. -/
theorem Safe.mono {p : Panicking C R α} (hp : Safe may post h p)
    (hpost : ∀ h' a, h <:+ h' → post h' a → post' h' a) : Safe may post' h p := by
  induction p generalizing h with
  | ret a => exact hpost h a List.suffix_rfl hp
  | cmd c k ih =>
    cases c with
    | none => exact hp
    | some c =>
      exact fun r hr => ih r (hp r hr) fun h' a hs => hpost h' a ((List.suffix_cons _ _).trans hs)

/-- The rule of weakening for a program whose result does not matter. Reference: none. -/
theorem Safe.imp {p : Panicking C R α} (hp : Safe may (fun _ _ => True) h p)
    (hpost : ∀ h' a, h <:+ h' → post h' a) : Safe may post h p :=
  hp.mono fun h' a hs _ => hpost h' a hs

/-- A program whose commands have more answers has more to fear. Reference: none. -/
theorem Safe.anti {may' : (c : C) → R c → Prop} {p : Panicking C R α} (hp : Safe may post h p)
    (hmay : ∀ c r, may' c r → may c r) : Safe may' post h p := by
  induction p generalizing h with
  | ret a => exact hp
  | cmd c k ih =>
    cases c with
    | none => exact hp
    | some c => exact fun r hr => ih r (hp r (hmay c r hr))

/-! ## What a program returns, and whether it panics -/

/-- The program may return the value. Reference: none. -/
def MayReturn (may : (c : C) → R c → Prop) : Panicking C R α → α → Prop
  | .ret a, b => b = a
  | .cmd none _, _ => False
  | .cmd (some c) k, b => ∃ r : R c, may c r ∧ MayReturn may (k r) b

/-- No answers lead the program to a panic. Reference: none. -/
def Harmless (may : (c : C) → R c → Prop) (p : Panicking C R α) : Prop :=
  Safe may (fun _ _ => True) [] p

@[simp] theorem mayReturn_pure {a b : α} : MayReturn may (pure a) b ↔ b = a := Iff.rfl

@[simp] theorem mayReturn_issue {c : C} {r : R c} : MayReturn may (issue c) r ↔ may c r := by
  constructor
  · rintro ⟨r', hr, rfl⟩
    exact hr
  · exact fun hr => ⟨r, hr, rfl⟩

@[simp] theorem mayReturn_deref {p : Option α} {a : α} :
    MayReturn may (deref p) a ↔ p = some a := by
  cases p with
  | none => exact iff_of_false id (Option.some_ne_none a).symm
  | some b => simp [eq_comm]

@[simp] theorem mayReturn_ite {c : Prop} [Decidable c] {p q : Panicking C R α} {a : α} :
    MayReturn may (if c then p else q) a ↔ (c ∧ MayReturn may p a) ∨ (¬c ∧ MayReturn may q a) := by
  by_cases hc : c <;> simp [hc]

/-- The rule of sequencing. Reference: none. -/
@[simp] theorem mayReturn_bind {p : Panicking C R α} {f : α → Panicking C R β} {b : β} :
    MayReturn may (p >>= f) b ↔ ∃ a, MayReturn may p a ∧ MayReturn may (f a) b := by
  induction p with
  | ret a => exact ⟨fun hb => ⟨a, rfl, hb⟩, fun ⟨_, rfl, hb⟩ => hb⟩
  | cmd c k ih =>
    cases c with
    | none => exact ⟨False.elim, fun ⟨_, ha, _⟩ => ha⟩
    | some c =>
      constructor
      · rintro ⟨r, hr, hb⟩
        obtain ⟨a, ha, hb⟩ := (ih r).1 hb
        exact ⟨a, ⟨r, hr, ha⟩, hb⟩
      · rintro ⟨a, ⟨r, hr, ha⟩, hb⟩
        exact ⟨r, hr, (ih r).2 ⟨a, ha, hb⟩⟩

/-- Without a postcondition the calls that were made do not matter. Reference: none. -/
theorem safe_true_iff {p : Panicking C R α} :
    Safe may (fun _ _ => True) h p ↔ Harmless may p := by
  unfold Harmless
  generalize ([] : List (Call C R)) = h'
  induction p generalizing h h' with
  | ret a => exact Iff.rfl
  | cmd c k ih =>
    cases c with
    | none => exact Iff.rfl
    | some c => exact forall₂_congr fun r _ => ih r _

@[simp] theorem harmless_pure {a : α} : Harmless may (pure a) := trivial

@[simp] theorem harmless_issue {c : C} : Harmless may (issue c) := fun _ _ => trivial

@[simp] theorem harmless_deref {p : Option α} : Harmless may (deref p) ↔ p.isSome = true := by
  cases p with
  | none => exact iff_of_false id Bool.false_ne_true
  | some a => exact iff_of_true trivial rfl

@[simp] theorem harmless_ite {c : Prop} [Decidable c] {p q : Panicking C R α} :
    Harmless may (if c then p else q) ↔ (c → Harmless may p) ∧ (¬c → Harmless may q) := safe_ite

/-- The rule of sequencing. Reference: none. -/
theorem harmless_bind {p : Panicking C R α} {f : α → Panicking C R β} :
    Harmless may (p >>= f) ↔ Harmless may p ∧ ∀ a, MayReturn may p a → Harmless may (f a) := by
  induction p with
  | ret a => exact ⟨fun hf => ⟨trivial, fun _ ha => ha ▸ hf⟩, fun hf => hf.2 a rfl⟩
  | cmd c k ih =>
    cases c with
    | none => exact ⟨fun hp => hp.elim, fun hp => hp.1.elim⟩
    | some c =>
      constructor
      · intro hp
        have hk : ∀ r, may c r → _ := fun r hr => (ih r).1 (safe_true_iff.1 (hp r hr))
        refine ⟨fun r hr => safe_true_iff.2 (hk r hr).1, ?_⟩
        rintro a ⟨r, hr, ha⟩
        exact (hk r hr).2 a ha
      · rintro ⟨hp, hf⟩ r hr
        refine safe_true_iff.2 ((ih r).2 ⟨safe_true_iff.1 (hp r hr), fun a ha => ?_⟩)
        exact hf a ⟨r, hr, ha⟩

/-- The rule of one command that is followed by `f`. Reference: none. -/
theorem harmless_issue_bind {c : C} {f : R c → Panicking C R β} :
    Harmless may (issue c >>= f) ↔ ∀ r, may c r → Harmless may (f r) := by
  rw [harmless_bind]
  exact ⟨fun hf r hr => hf.2 r (mayReturn_issue.2 hr),
    fun hf => ⟨harmless_issue, fun r hr => hf r (mayReturn_issue.1 hr)⟩⟩

/-- A program that does not panic returns, where every command is answered. Reference: none. -/
theorem Harmless.returns {p : Panicking C R α} (hp : Harmless may p)
    (htotal : ∀ c, ∃ r, may c r) : ∃ a, MayReturn may p a := by
  induction p with
  | ret a => exact ⟨a, rfl⟩
  | cmd c k ih =>
    cases c with
    | none => exact hp.elim
    | some c =>
      obtain ⟨r, hr⟩ := htotal c
      obtain ⟨a, ha⟩ := ih r (safe_true_iff.1 (hp r hr))
      exact ⟨a, r, hr, ha⟩

/-- The rule of sequencing for what does not depend on the result. Reference: none. -/
theorem Harmless.bind_iff {p : Panicking C R α} {f : α → Panicking C R β} {P : Prop}
    (hp : Harmless may p) (htotal : ∀ c, ∃ r, may c r)
    (hf : ∀ a, MayReturn may p a → (Harmless may (f a) ↔ P)) : Harmless may (p >>= f) ↔ P := by
  rw [harmless_bind]
  obtain ⟨a, ha⟩ := hp.returns htotal
  constructor
  · exact fun hpf => (hf a ha).1 (hpf.2 a ha)
  · exact fun hP => ⟨hp, fun b hb => (hf b hb).2 hP⟩

/-- A program whose results have no influence can be left out. Reference: none. -/
theorem Harmless.seq_iff {p : Panicking C R α} {q : Panicking C R β} (hp : Harmless may p)
    (htotal : ∀ c, ∃ r, may c r) : Harmless may (do let _ ← p; q) ↔ Harmless may q :=
  hp.bind_iff htotal fun _ _ => Iff.rfl

/-! ## Which commands a program issues -/

/-- The program may issue the command, whether or not it panics afterwards. Reference: none. -/
def MayIssue (may : (c : C) → R c → Prop) : Panicking C R α → C → Prop
  | .ret _, _ => False
  | .cmd none _, _ => False
  | .cmd (some c) k, d => d = c ∨ ∃ r : R c, may c r ∧ MayIssue may (k r) d

section
variable {c d : C}

@[simp] theorem mayIssue_pure {a : α} : ¬ MayIssue may (pure a) d := id

@[simp] theorem mayIssue_panic : ¬ MayIssue may (panic : Panicking C R α) d := id

@[simp] theorem mayIssue_issue : MayIssue may (issue c) d ↔ d = c :=
  ⟨fun h => h.resolve_right fun h => h.choose_spec.2, .inl⟩

@[simp] theorem mayIssue_deref {p : Option α} : ¬ MayIssue may (deref p) d := by
  cases p with
  | none => exact mayIssue_panic
  | some a => exact mayIssue_pure

@[simp] theorem mayIssue_ite {b : Prop} [Decidable b] {p q : Panicking C R α} :
    MayIssue may (if b then p else q) d ↔ (b ∧ MayIssue may p d) ∨ (¬b ∧ MayIssue may q d) := by
  by_cases hb : b <;> simp [hb]

/-- The rule of sequencing. Reference: none. -/
@[simp] theorem mayIssue_bind {p : Panicking C R α} {f : α → Panicking C R β} :
    MayIssue may (p >>= f) d ↔
      MayIssue may p d ∨ ∃ a, MayReturn may p a ∧ MayIssue may (f a) d := by
  induction p with
  | ret a =>
    constructor
    · exact fun h => .inr ⟨a, rfl, h⟩
    · rintro (h | ⟨_, rfl, h⟩)
      · exact h.elim
      · exact h
  | cmd c k ih =>
    cases c with
    | none =>
      constructor
      · exact False.elim
      · rintro (h | ⟨_, h, -⟩)
        · exact h
        · exact h
    | some c =>
      constructor
      · rintro (h | ⟨r, hr, h⟩)
        · exact .inl (.inl h)
        · rcases (ih r).1 h with h | ⟨a, ha, h⟩
          · exact .inl (.inr ⟨r, hr, h⟩)
          · exact .inr ⟨a, ⟨r, hr, ha⟩, h⟩
      · rintro ((h | ⟨r, hr, h⟩) | ⟨a, ⟨r, hr, ha⟩, h⟩)
        · exact .inl h
        · exact .inr ⟨r, hr, (ih r).2 (.inl h)⟩
        · exact .inr ⟨r, hr, (ih r).2 (.inr ⟨a, ha, h⟩)⟩

end

section
variable {D : Type} {f : D → C}

/-- The program with its commands among those of a larger signature. Reference: none. -/
def Panicking.within (f : D → C) : Panicking D (fun d => R (f d)) α → Panicking C R α
  | .ret a => .ret a
  | .cmd none _ => panic
  | .cmd (some d) k => .cmd (some (f d)) fun r => within f (k r)

@[simp] theorem Panicking.within_issue (d : D) :
    within f (issue d : Panicking D (fun d => R (f d)) (R (f d))) = issue (f d) := rfl

theorem Panicking.within_bind (p : Panicking D (fun d => R (f d)) α)
    (k : α → Panicking D (fun d => R (f d)) β) :
    within f (p >>= k) = (within f p >>= fun a => within f (k a)) := by
  induction p with
  | ret a => rfl
  | cmd d q ih =>
    cases d with
    | none =>
      show Prog.cmd none _ = Prog.cmd none _
      congr 1
      funext r
      exact r.elim
    | some d =>
      show Prog.cmd (some (f d)) _ = Prog.cmd (some (f d)) _
      congr 1
      funext r
      exact ih r

/-- The rule of a pointer in a discipline that lets a panic follow. Reference: none. -/
theorem Follows.deref {ok : List (Call (Option C) (Answer R)) → Option C → Prop}
    {out : List (Call (Option C) (Answer R)) → β → Prop} {h : List (Call (Option C) (Answer R))}
    {p : Option α} {k : α → Panicking C R β} (hpanic : ok h none)
    (hk : ∀ a, Follows ok out h (k a)) : Follows ok out h (Panicking.deref p >>= k) := by
  cases p with
  | none => exact ⟨hpanic, fun r => r.elim⟩
  | some a => exact hk a

/-- A discipline that lets each of the program's commands, and a panic, follow every history.
Reference: none. -/
theorem follows_within {ok : List (Call (Option C) (Answer R)) → Option C → Prop}
    {h : List (Call (Option C) (Answer R))} {p : Panicking D (fun d => R (f d)) α}
    (hpanic : ∀ h, ok h none)
    (hok : ∀ d, MayIssue (fun _ _ => True) p d → ∀ h, ok h (some (f d))) :
    Follows ok (fun _ _ => True) h (within f p) := by
  induction p generalizing h with
  | ret a => trivial
  | cmd d q ih =>
    cases d with
    | none => exact ⟨hpanic h, fun r => r.elim⟩
    | some d =>
      refine ⟨hok d (.inl rfl) h, fun r => ih r fun d' hd => ?_⟩
      exact hok d' (.inr ⟨r, trivial, hd⟩)

/-- It panics where the program does. Reference: none. -/
@[simp] theorem harmless_within {p : Panicking D (fun d => R (f d)) α} :
    Harmless may (within f p) ↔ Harmless (fun d => may (f d)) p := by
  induction p with
  | ret a => exact Iff.rfl
  | cmd d k ih =>
    cases d with
    | none => exact Iff.rfl
    | some d => exact forall₂_congr fun r _ => safe_true_iff.trans ((ih r).trans safe_true_iff.symm)

/-- It issues the program's commands. Reference: none. -/
@[simp] theorem mayIssue_within {p : Panicking D (fun d => R (f d)) α} {c : C} :
    MayIssue may (within f p) c ↔ ∃ d, c = f d ∧ MayIssue (fun d => may (f d)) p d := by
  induction p with
  | ret a => exact iff_of_false id fun h => h.choose_spec.2
  | cmd d k ih =>
    cases d with
    | none => exact iff_of_false id fun h => h.choose_spec.2
    | some d =>
      constructor
      · rintro (rfl | ⟨r, hr, h⟩)
        · exact ⟨d, rfl, .inl rfl⟩
        · obtain ⟨d', rfl, h'⟩ := (ih r).1 h
          exact ⟨d', rfl, .inr ⟨r, hr, h'⟩⟩
      · rintro ⟨d', rfl, rfl | ⟨r, hr, h⟩⟩
        · exact .inl rfl
        · exact .inr ⟨r, hr, (ih r).2 ⟨d', rfl, h⟩⟩

/-- A program without a panic, whose commands are some of those of a larger signature. Reference:
none. -/
theorem harmless_relabel (p : Prog D (fun d => Answer R (some (f d))) α) :
    Harmless may (p.relabel fun d => some (f d) : Panicking C R α) := by
  induction p with
  | ret a => trivial
  | cmd d k ih => exact fun r _ => safe_true_iff.2 (ih r)

/-- What such a program returns is what its discipline says, for answers that its commands may have.
Reference: none. -/
theorem MayReturn.of_follows {ok : List (Call D fun d => Answer R (some (f d))) → D → Prop}
    {post : List (Call D fun d => Answer R (some (f d))) → α → Prop}
    {h : List (Call D fun d => Answer R (some (f d)))}
    {p : Prog D (fun d => Answer R (some (f d))) α} {a : α} (hp : Follows ok post h p)
    (ha : MayReturn may (p.relabel fun d => some (f d) : Panicking C R α) a) :
    ∃ h', (∀ call ∈ h', call ∈ h ∨ may (f call.cmd) call.answer) ∧ post h' a := by
  induction p generalizing h with
  | ret b =>
    cases ha
    exact ⟨h, fun _ => .inl, hp⟩
  | cmd d k ih =>
    obtain ⟨r, hr, ha⟩ := ha
    obtain ⟨h', hmem, hpost⟩ := ih r (hp.2 r) ha
    refine ⟨h', fun call hc => ?_, hpost⟩
    rcases hmem call hc with hc | hc
    · rcases List.mem_cons.1 hc with rfl | hc
      · exact .inr hr
      · exact .inl hc
    · exact .inr hc

end

end

end Interaction
