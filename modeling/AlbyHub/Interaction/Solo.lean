import AlbyHub.Interaction.Pool

/-!
# A program executed alone

`Prog.Runs` relates a state to the states in which a program may return when nothing else happens
meanwhile, over all environments of its commands. It is compositional (`Prog.runs_bind`), and every
such run is one of the pool (`Prog.Runs.reach`). What every command of a program keeps, the program
keeps (`Prog.Keeps`). `Prog.play` computes the run where the environment
of each command is given, and what others do to the state just before it.
-/

namespace Interaction

namespace Prog

variable {S E C : Type} {R : C → Type} {α β Op Out : Type}
variable {exec : S → (c : C) → E → Option (R c × S)} {s s' : S}

/-- The program, started in `s`, returns `a` in `s'`. Reference: none. -/
def Runs (exec : S → (c : C) → E → Option (R c × S)) : Prog C R α → S → α → S → Prop
  | .ret a, s, b, s' => b = a ∧ s' = s
  | .cmd c k, s, b, s' => ∃ e r s₁, exec s c e = some (r, s₁) ∧ (k r).Runs exec s₁ b s'

@[simp] theorem runs_pure {a b : α} :
    (pure a : Prog C R α).Runs exec s b s' ↔ b = a ∧ s' = s := Iff.rfl

theorem runs_call {c : C} {r : R c} :
    (call c : Prog C R (R c)).Runs exec s r s' ↔ ∃ e, exec s c e = some (r, s') := by
  constructor
  · rintro ⟨e, r', s₁, hx, rfl, rfl⟩
    exact ⟨e, hx⟩
  · rintro ⟨e, hx⟩
    exact ⟨e, r, s', hx, rfl, rfl⟩

/-- The rule of sequencing. Reference: none. -/
theorem runs_bind {p : Prog C R α} {f : α → Prog C R β} {b : β} :
    (p >>= f).Runs exec s b s' ↔ ∃ a s₁, p.Runs exec s a s₁ ∧ (f a).Runs exec s₁ b s' := by
  induction p generalizing s with
  | ret a =>
    constructor
    · intro h
      exact ⟨a, s, ⟨rfl, rfl⟩, h⟩
    · rintro ⟨_, _, ⟨rfl, rfl⟩, h⟩
      exact h
  | cmd c k ih =>
    constructor
    · rintro ⟨e, r, s₁, hx, h⟩
      obtain ⟨a, s₂, hk, hf⟩ := (ih r).1 h
      exact ⟨a, s₂, ⟨e, r, s₁, hx, hk⟩, hf⟩
    · rintro ⟨a, s₂, ⟨e, r, s₁, hx, hk⟩, hf⟩
      exact ⟨e, r, s₁, hx, (ih r).2 ⟨a, s₂, hk, hf⟩⟩

/-- The rule of one command that is followed by `f`. Reference: none. -/
theorem runs_call_bind {c : C} {f : R c → Prog C R β} {b : β} :
    (call c >>= f).Runs exec s b s' ↔
      ∃ e r s₁, exec s c e = some (r, s₁) ∧ (f r).Runs exec s₁ b s' := Iff.rfl

/-- The program, started in `s`, issues the calls `h`, oldest first, and returns `a` in `s'`.
Reference: none. -/
def Traces (exec : S → (c : C) → E → Option (R c × S)) :
    Prog C R α → S → List (Call C R) → α → S → Prop
  | .ret a, s, h, b, s' => h = [] ∧ b = a ∧ s' = s
  | .cmd c k, s, h, b, s' => ∃ e r s₁ h', exec s c e = some (r, s₁) ∧ h = ⟨c, r⟩ :: h' ∧
      (k r).Traces exec s₁ h' b s'

/-- The rule of sequencing. Reference: none. -/
theorem traces_bind {p : Prog C R α} {f : α → Prog C R β} {h : List (Call C R)} {b : β} :
    (p >>= f).Traces exec s h b s' ↔
      ∃ h₁ a s₁ h₂, h = h₁ ++ h₂ ∧ p.Traces exec s h₁ a s₁ ∧ (f a).Traces exec s₁ h₂ b s' := by
  induction p generalizing s h with
  | ret a =>
    constructor
    · intro hf
      exact ⟨[], a, s, h, rfl, ⟨rfl, rfl, rfl⟩, hf⟩
    · rintro ⟨_, _, _, h₂, rfl, ⟨rfl, rfl, rfl⟩, hf⟩
      exact hf
  | cmd c k ih =>
    constructor
    · rintro ⟨e, r, s₁, h', hx, rfl, hk⟩
      obtain ⟨h₁, a, s₂, h₂, rfl, hp, hf⟩ := (ih r).1 hk
      exact ⟨_, a, s₂, h₂, rfl, ⟨e, r, s₁, h₁, hx, rfl, hp⟩, hf⟩
    · rintro ⟨_, a, s₂, h₂, rfl, ⟨e, r, s₁, h', hx, rfl, hp⟩, hf⟩
      exact ⟨e, r, s₁, h' ++ h₂, hx, rfl, (ih r).2 ⟨h', a, s₂, h₂, rfl, hp, hf⟩⟩

/-- The rule of one command that is followed by `f`. Reference: none. -/
theorem traces_call_bind {c : C} {f : R c → Prog C R β} {h : List (Call C R)} {b : β} :
    (call c >>= f).Traces exec s h b s' ↔
      ∃ e r s₁ h', exec s c e = some (r, s₁) ∧ h = ⟨c, r⟩ :: h' ∧ (f r).Traces exec s₁ h' b s' :=
  Iff.rfl

/-- The answers to its calls determine what a program returns. Reference: none. -/
theorem Traces.result_eq {p : Prog C R α} {h : List (Call C R)} {a b : α} {t t' : S}
    (hp : p.Traces exec s h a s') (hq : p.Traces exec t h b t') : a = b := by
  induction p generalizing s t h with
  | ret c =>
    obtain ⟨-, rfl, -⟩ := hp
    obtain ⟨-, rfl, -⟩ := hq
    rfl
  | cmd c k ih =>
    obtain ⟨e, r, s₁, h₁, -, rfl, hk⟩ := hp
    obtain ⟨e', r', t₁, h₂, -, heq, hk'⟩ := hq
    cases heq
    exact ih r hk hk'

/-- A run issues some calls. Reference: none. -/
theorem Runs.exists_trace {p : Prog C R α} {a : α} (hp : p.Runs exec s a s') :
    ∃ h, p.Traces exec s h a s' := by
  induction p generalizing s with
  | ret b => exact ⟨[], rfl, hp⟩
  | cmd c k ih =>
    obtain ⟨e, r, s₁, hx, hk⟩ := hp
    obtain ⟨h, ht⟩ := ih r hk
    exact ⟨_, e, r, s₁, h, hx, rfl, ht⟩

/-- The calls of a run leave a run. Reference: none. -/
theorem Traces.runs {p : Prog C R α} {h : List (Call C R)} {a : α}
    (hp : p.Traces exec s h a s') : p.Runs exec s a s' := by
  induction p generalizing s h with
  | ret b => exact hp.2
  | cmd c k ih =>
    obtain ⟨e, r, s₁, h', hx, -, hk⟩ := hp
    exact ⟨e, r, s₁, hx, ih r hk⟩

/-- A run of a translated program is a run of the program, where the translated commands are
executed as the commands are. Reference: none. -/
theorem Traces.of_relabel {C' : Type} {R' : C' → Type} {f : C → C'}
    {exec' : S → (c : C') → E → Option (R' c × S)} {exec : S → (c : C) → E → Option (R' (f c) × S)}
    (hx : ∀ s c e, exec' s (f c) e = exec s c e) {p : Prog C (fun c => R' (f c)) α}
    {h' : List (Call C' R')} {a : α} (hp : (p.relabel f).Traces exec' s h' a s') :
    ∃ h, h' = h.map (fun call => ⟨f call.cmd, call.answer⟩) ∧ p.Traces exec s h a s' := by
  induction p generalizing s h' with
  | ret b => exact ⟨[], hp.1, rfl, hp.2⟩
  | cmd c k ih =>
    obtain ⟨e, r, s₁, h'', hc, rfl, hk⟩ := hp
    obtain ⟨h, rfl, ht⟩ := ih r hk
    exact ⟨⟨c, r⟩ :: h, rfl, e, r, s₁, h, (hx s c e) ▸ hc, rfl, ht⟩

/-- A run in environments of another kind, where each of them stands for one of the first kind.
Reference: none. -/
theorem Runs.of_exec {E' : Type} {exec' : S → (c : C) → E' → Option (R c × S)}
    {p : Prog C R α} {a : α}
    (he : ∀ s c e', ∃ e, exec' s c e' = exec s c e) (hp : p.Runs exec' s a s') :
    p.Runs exec s a s' := by
  induction p generalizing s with
  | ret b => exact hp
  | cmd c k ih =>
    obtain ⟨e', r, s₁, hx, hk⟩ := hp
    obtain ⟨e, heq⟩ := he s c e'
    exact ⟨e, r, s₁, heq ▸ hx, ih r hk⟩

/-- A program that runs alone runs in the pool, behind other calls that rest. Reference: none. -/
theorem Runs.reach_last {body : Op → Prog C R Out} {init : Config S C R Op Out → Prop}
    {op : Op} {p : Prog C R Out} {h : List (Call C R)} {a : Out} (hp : p.Runs exec s a s')
    (ts : List (Thread C R Op Out))
    (hr : Reach exec body init (fun _ _ => True) ⟨s, ts ++ [⟨op, h, p⟩]⟩) :
    ∃ h', Reach exec body init (fun _ _ => True) ⟨s', ts ++ [⟨op, h', .ret a⟩]⟩ := by
  induction p generalizing s h with
  | ret b =>
    obtain ⟨rfl, rfl⟩ := hp
    exact ⟨h, hr⟩
  | cmd c k ih =>
    obtain ⟨e, r, s₁, hx, hk⟩ := hp
    have hstep : Config.step exec body ⟨s, ts ++ [⟨op, h, .cmd c k⟩]⟩ (.run ts.length e) =
        some ⟨s₁, ts ++ [⟨op, ⟨c, r⟩ :: h, k r⟩]⟩ := by
      simp [Config.step, hx]
    exact ih r hk (.step hr trivial hstep)

/-- A program that runs alone runs in the pool. Reference: none. -/
theorem Runs.reach {body : Op → Prog C R Out} {init : Config S C R Op Out → Prop} {op : Op}
    {p : Prog C R Out} {h : List (Call C R)} {a : Out} (hp : p.Runs exec s a s')
    (hr : Reach exec body init (fun _ _ => True) ⟨s, [⟨op, h, p⟩]⟩) :
    ∃ h', Reach exec body init (fun _ _ => True) ⟨s', [⟨op, h', .ret a⟩]⟩ :=
  hp.reach_last [] hr

/-- A call can be made at any time and run to its end before anything else happens. Reference:
none. -/
theorem Runs.served {body : Op → Prog C R Out} {init : Config S C R Op Out → Prop}
    {ts : List (Thread C R Op Out)} {op : Op} {a : Out} (hp : (body op).Runs exec s a s')
    (hr : Reach exec body init (fun _ _ => True) ⟨s, ts⟩) :
    ∃ ts', Reach exec body init (fun _ _ => True) ⟨s', ts'⟩ :=
  (hp.reach_last ts (.step (l := .spawn op) hr trivial rfl)).imp' _ fun _ => id

/-- The program's run where `env c` is the environment of the command `c` and `before c` is what
others do to the state just before it is executed. Reference: none. -/
def play (exec : S → (c : C) → E → Option (R c × S)) (before : C → S → S) (env : C → E) :
    Prog C R α → S → Option (α × S)
  | .ret a, s => some (a, s)
  | .cmd c k, s =>
    (exec (before c s) c (env c)).bind fun (r, s') => (k r).play exec before env s'

section
variable {before : C → S → S} {env : C → E}

@[simp] theorem play_pure {a : α} :
    (pure a : Prog C R α).play exec before env s = some (a, s) := rfl

/-- The rule of one command that is followed by `f`. Reference: none. -/
theorem play_call_bind {c : C} {f : R c → Prog C R β} :
    (call c >>= f).play exec before env s =
      (exec (before c s) c (env c)).bind fun x => (f x.1).play exec before env x.2 := rfl

/-- A computed run that nobody interferes with is a run. Reference: none. -/
theorem Runs.of_play {p : Prog C R α} {a : α}
    (h : p.play exec (fun _ s => s) env s = some (a, s')) :
    p.Runs exec s a s' := by
  induction p generalizing s with
  | ret b =>
    cases h
    exact ⟨rfl, rfl⟩
  | cmd c k ih =>
    obtain ⟨⟨r, s₁⟩, hx, hk⟩ := Option.bind_eq_some_iff.1 h
    exact ⟨env c, r, s₁, hx, ih r hk⟩

/-- A computed run issues some calls, each answered in its environment. Reference: none. -/
theorem Traces.of_play {p : Prog C R α} {a : α}
    (h : p.play exec (fun _ s => s) env s = some (a, s')) :
    ∃ calls, p.Traces exec s calls a s' ∧
      ∀ call ∈ calls, ∃ s₁ s₂, exec s₁ call.cmd (env call.cmd) = some (call.answer, s₂) := by
  induction p generalizing s with
  | ret b =>
    cases h
    exact ⟨[], ⟨rfl, rfl, rfl⟩, nofun⟩
  | cmd c k ih =>
    obtain ⟨⟨r, s₁⟩, hx, hk⟩ := Option.bind_eq_some_iff.1 h
    obtain ⟨calls, ht, hcalls⟩ := ih r hk
    exact ⟨⟨c, r⟩ :: calls, ⟨env c, r, s₁, calls, hx, rfl, ht⟩,
      List.forall_mem_cons.2 ⟨⟨s, s₁, hx⟩, hcalls⟩⟩

/-- The computed run of a translated program. Reference: none. -/
theorem play_relabel {C' : Type} {R' : C' → Type} {f : C → C'}
    {exec' : S → (c : C') → E → Option (R' c × S)} {exec : S → (c : C) → E → Option (R' (f c) × S)}
    {env : C' → E} (hx : ∀ s c e, exec' s (f c) e = exec s c e)
    {p : Prog C (fun c => R' (f c)) α} :
    (p.relabel f).play exec' (fun _ s => s) env s =
      p.play exec (fun _ s => s) (fun c => env (f c)) s := by
  induction p generalizing s with
  | ret a => rfl
  | cmd c k ih =>
    show (exec' s (f c) (env (f c))).bind _ = (exec s c (env (f c))).bind _
    rw [hx]
    exact congrArg _ (funext fun x => ih x.1)

/-- The rule of sequencing. Reference: none. -/
theorem play_bind {p : Prog C R α} {f : α → Prog C R β} :
    (p >>= f).play exec before env s =
      (p.play exec before env s).bind fun x => (f x.1).play exec before env x.2 := by
  induction p generalizing s with
  | ret a => rfl
  | cmd c k ih =>
    show (exec (before c s) c (env c)).bind _ = ((exec (before c s) c (env c)).bind _).bind _
    rw [Option.bind_assoc]
    exact congrArg _ (funext fun x => ih x.1)

end

section
variable {I : S → Prop}

/-- Every run of the program from a state with `I` ends in one with `I`. Reference: none. -/
def Keeps (exec : S → (c : C) → E → Option (R c × S)) (I : S → Prop) (p : Prog C R α) : Prop :=
  ∀ s a s', I s → p.Runs exec s a s' → I s'

theorem Keeps.ret {a : α} : Keeps exec I (pure a : Prog C R α) := by
  rintro s _ _ hi ⟨rfl, rfl⟩
  exact hi

/-- The rule of one command. Reference: none. -/
theorem Keeps.call {c : C} (h : ∀ s e r s', I s → exec s c e = some (r, s') → I s') :
    Keeps exec I (call c : Prog C R (R c)) := by
  intro s r s' hi hr
  obtain ⟨e, hx⟩ := runs_call.1 hr
  exact h s e r s' hi hx

/-- The rule of sequencing. Reference: none. -/
theorem Keeps.bind {p : Prog C R α} {f : α → Prog C R β} (hp : Keeps exec I p)
    (hf : ∀ a, Keeps exec I (f a)) : Keeps exec I (p >>= f) := by
  intro s b s' hi hr
  obtain ⟨a, s₁, hp', hf'⟩ := runs_bind.1 hr
  exact hf a s₁ b s' (hp s a s₁ hi hp') hf'

end

end Prog

end Interaction
