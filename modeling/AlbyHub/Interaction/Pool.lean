import AlbyHub.Interaction.Prog
import Mathlib.Algebra.GroupWithZero.Nat
import Mathlib.Data.List.Basic

/-!
# Pools of calls over one shared state

A system serves calls. Each call runs its program (`body op`) over the shared state, one command at
a time and interleaved in any way with the others; a restart drops the calls that have not returned
(`Config.step`). A run takes steps that a policy allows (`Reach`). `Reach.induction` is the
induction over a run, and `Reach.sound` is its instance for systems whose bodies follow a
discipline: what the answers of the past say about the state (`known`) and the invariant are kept
when every disciplined command keeps them.
-/

namespace Interaction

/-- A call in the pool: its operation, what it has done (latest first), what it has left to do.
Reference: none. -/
structure Thread (C : Type) (R : C → Type) (Op Out : Type) where
  op : Op
  hist : List (Call C R)
  rest : Prog C R Out

/-- The shared state and the calls. Reference: none. -/
structure Config (S C : Type) (R : C → Type) (Op Out : Type) where
  state : S
  threads : List (Thread C R Op Out)

/-- What a pool can do: start a call, execute the next command of the call number `i` in the
environment `e`, or restart. Reference: none. -/
inductive Label (Op E : Type) where
  | spawn (op : Op)
  | run (i : Nat) (e : E)
  | restart
  deriving DecidableEq

section
variable {S E C : Type} {R : C → Type} {Op Out : Type}
variable (exec : S → (c : C) → E → Option (R c × S)) (body : Op → Prog C R Out)

/-- One step of the pool. Reference: none. -/
def Config.step (cfg : Config S C R Op Out) : Label Op E → Option (Config S C R Op Out)
  | .spawn op => some { cfg with threads := cfg.threads ++ [⟨op, [], body op⟩] }
  | .run i e =>
    match cfg.threads[i]? with
    | some ⟨op, h, .cmd c k⟩ =>
      match exec cfg.state c e with
      | some (r, s) => some ⟨s, cfg.threads.set i ⟨op, ⟨c, r⟩ :: h, k r⟩⟩
      | none => none
    | _ => none
  | .restart => some { cfg with threads := cfg.threads.filter (·.rest.done) }

/-- A sequence of steps. Reference: none. -/
def Config.run (cfg : Config S C R Op Out) : List (Label Op E) → Option (Config S C R Op Out)
  | [] => some cfg
  | l :: ls => (cfg.step exec body l).bind fun cfg' => Config.run cfg' ls

variable {exec body}
variable {cfg cfg' : Config S C R Op Out} {i : Nat} {e : E}

/-- What a step of a call does. Reference: none. -/
theorem Config.step_run (hs : cfg.step exec body (.run i e) = some cfg') :
    ∃ op h c k r s, cfg.threads[i]? = some ⟨op, h, .cmd c k⟩ ∧
      exec cfg.state c e = some (r, s) ∧
      cfg' = ⟨s, cfg.threads.set i ⟨op, ⟨c, r⟩ :: h, k r⟩⟩ := by
  simp only [Config.step] at hs
  split at hs
  · next op h c k hi =>
    split at hs
    · next r s hx => exact ⟨op, h, c, k, r, s, hi, hx, (Option.some.inj hs).symm⟩
    · cases hs
  · cases hs

/-- A thread of a pool after a step of call `i` is the stepped call or an old one. Reference:
none. -/
theorem Config.mem_set {t t' : Thread C R Op Out} {ts : List (Thread C R Op Out)}
    (ht : t ∈ ts.set i t') : t = t' ∨ t ∈ ts :=
  (List.mem_or_eq_of_mem_set ht).symm

/-- A thread of a pool before a step of call `i` is the call that steps or one after it. Reference:
none. -/
theorem Config.mem_of_set {t t₀ : Thread C R Op Out} {ts : List (Thread C R Op Out)}
    (t' : Thread C R Op Out) (hi : ts[i]? = some t₀) (ht : t ∈ ts) : t = t₀ ∨ t ∈ ts.set i t' := by
  obtain ⟨j, hj⟩ := List.mem_iff_getElem?.1 ht
  by_cases he : i = j
  · left
    rw [he, hj] at hi
    exact Option.some.inj hi
  · right
    refine List.mem_iff_getElem?.2 ⟨j, ?_⟩
    rw [List.getElem?_set_ne he, hj]

/-- What a call weighs is replaced in the weight of all calls when it steps. Reference: none. -/
theorem Config.sum_set {t t' : Thread C R Op Out} {ts : List (Thread C R Op Out)}
    (w : Thread C R Op Out → Nat) (hi : ts[i]? = some t) :
    ((ts.set i t').map w).sum + w t = (ts.map w).sum + w t' := by
  induction ts generalizing i with
  | nil => cases hi
  | cons t₀ ts ih =>
    cases i with
    | zero =>
      cases hi
      simp only [List.set_cons_zero, List.map_cons, List.sum_cons]
      omega
    | succ i =>
      have hrest := ih (i := i) hi
      simp only [List.set_cons_succ, List.map_cons, List.sum_cons]
      omega

/-- Dropping calls drops their weight. Reference: none. -/
theorem Config.sum_filter_le {p : Thread C R Op Out → Bool} {ts : List (Thread C R Op Out)}
    (w : Thread C R Op Out → Nat) : ((ts.filter p).map w).sum ≤ (ts.map w).sum := by
  induction ts with
  | nil => exact Nat.le_refl _
  | cons t ts ih =>
    rw [List.filter_cons, List.map_cons, List.sum_cons]
    split
    · rw [List.map_cons, List.sum_cons]; omega
    · omega

/-- The reachable configurations of the pool: those of the runs that start in `init` and take
allowed steps. Reference: none. -/
inductive Reach (exec : S → (c : C) → E → Option (R c × S)) (body : Op → Prog C R Out)
    (init : Config S C R Op Out → Prop) (allowed : Config S C R Op Out → Label Op E → Prop) :
    Config S C R Op Out → Prop
  | start {cfg₀ : Config S C R Op Out} : init cfg₀ → Reach exec body init allowed cfg₀
  | step {cfg₀ cfg₁ : Config S C R Op Out} {l : Label Op E} :
      Reach exec body init allowed cfg₀ → allowed cfg₀ l → cfg₀.step exec body l = some cfg₁ →
      Reach exec body init allowed cfg₁

variable {init : Config S C R Op Out → Prop} {allowed : Config S C R Op Out → Label Op E → Prop}

/-- Every step of a sequence is allowed where it is taken. Reference: none. -/
def Config.Allows (exec : S → (c : C) → E → Option (R c × S)) (body : Op → Prog C R Out)
    (allowed : Config S C R Op Out → Label Op E → Prop) :
    Config S C R Op Out → List (Label Op E) → Prop
  | _, [] => True
  | cfg, l :: ls => allowed cfg l ∧ ∀ cfg', cfg.step exec body l = some cfg' →
      Config.Allows exec body allowed cfg' ls

instance Config.decidableAllows [∀ cfg l, Decidable (allowed cfg l)] :
    ∀ (cfg : Config S C R Op Out) (ls : List (Label Op E)),
      Decidable (cfg.Allows exec body allowed ls)
  | _, [] => isTrue trivial
  | cfg, l :: ls =>
    have : Decidable (∀ cfg', cfg.step exec body l = some cfg' →
        cfg'.Allows exec body allowed ls) :=
      match cfg.step exec body l with
      | none => isTrue fun _ h => nomatch h
      | some cfg' =>
        have := Config.decidableAllows cfg' ls
        decidable_of_iff (cfg'.Allows exec body allowed ls)
          ⟨fun h _ he => Option.some.inj he ▸ h, fun h => h cfg' rfl⟩
    inferInstanceAs (Decidable (_ ∧ _))

theorem Config.allows_true {ls : List (Label Op E)} :
    cfg.Allows exec body (fun _ _ => True) ls := by
  induction ls generalizing cfg with
  | nil => trivial
  | cons l ls ih => exact ⟨trivial, fun _ _ => ih⟩

/-- A sequence of allowed steps reaches what it computes. Reference: none. -/
theorem Reach.of_run {ls : List (Label Op E)} (h : Reach exec body init allowed cfg)
    (ha : cfg.Allows exec body allowed ls) (hr : cfg.run exec body ls = some cfg') :
    Reach exec body init allowed cfg' := by
  induction ls generalizing cfg with
  | nil => cases hr; exact h
  | cons l ls ih =>
    obtain ⟨cfg₁, h₁, hr⟩ := Option.bind_eq_some_iff.1 hr
    exact ih (.step h ha.1 h₁) (ha.2 cfg₁ h₁) hr

/-- A call executes its next command. Reference: none. -/
theorem Reach.run {op : Op} {h : List (Call C R)} {c : C} {k : R c → Prog C R Out} {r : R c} {s : S}
    (hr : Reach exec body init allowed cfg) (hi : cfg.threads[i]? = some ⟨op, h, .cmd c k⟩)
    (ha : allowed cfg (.run i e)) (hx : exec cfg.state c e = some (r, s)) :
    Reach exec body init allowed ⟨s, cfg.threads.set i ⟨op, ⟨c, r⟩ :: h, k r⟩⟩ :=
  .step hr ha (by simp [Config.step, hi, hx])

/-- The induction over a run: what holds at the start and is kept by every allowed step holds
throughout. Reference: none. -/
theorem Reach.induction {P : Config S C R Op Out → Prop} (h0 : ∀ cfg, init cfg → P cfg)
    (hstep : ∀ cfg l cfg', Reach exec body init allowed cfg → P cfg → allowed cfg l →
      cfg.step exec body l = some cfg' → P cfg')
    (h : Reach exec body init allowed cfg) : P cfg := by
  induction h with
  | start h => exact h0 _ h
  | step h ha hs ih => exact hstep _ _ _ h ih ha hs

/-- A run that a policy allows is one that a weaker policy allows. Reference: none. -/
theorem Reach.imp {allowed' : Config S C R Op Out → Label Op E → Prop}
    (h : Reach exec body init allowed cfg) (ha : ∀ cfg l, allowed cfg l → allowed' cfg l) :
    Reach exec body init allowed' cfg := by
  induction h with
  | start h₀ => exact .start h₀
  | step _ hl hs ih => exact .step ih (ha _ _ hl) hs

/-- A run from a reachable configuration is a continuation of a run to it. Reference: none. -/
theorem Reach.trans (h : Reach exec body init allowed cfg)
    (h' : Reach exec body (· = cfg) allowed cfg') : Reach exec body init allowed cfg' := by
  induction h' with
  | start h₀ => rw [h₀]; exact h
  | step _ ha hs ih => exact .step ih ha hs

/-- A discipline of the calls, an invariant of the state, and what an answered command says about
the state from then on, such that a disciplined step keeps all of them. `policy` is what an
allowed step satisfies. Reference: none. -/
structure Sound (exec : S → (c : C) → E → Option (R c × S)) (body : Op → Prog C R Out)
    (allowed : Config S C R Op Out → Label Op E → Prop)
    (ok : Op → List (Call C R) → C → Prop) (post : Op → List (Call C R) → Out → Prop)
    (policy : Op → List (Call C R) → S → C → E → Prop)
    (inv : S → Prop) (known : Op → Call C R → S → Prop) : Prop where
  body : ∀ op, Follows (ok op) (post op) [] (body op)
  obeys : ∀ cfg i e op h c k, allowed cfg (.run i e) →
    cfg.threads[i]? = some ⟨op, h, .cmd c k⟩ → policy op h cfg.state c e
  step : ∀ op h s c e r s', inv s → (∀ call ∈ h, known op call s) → ok op h c → policy op h s c e →
    exec s c e = some (r, s') →
    inv s' ∧ known op ⟨c, r⟩ s' ∧ ∀ op call, known op call s → known op call s'

/-- The invariant of a configuration: the state's invariant, and for every call its discipline and
what its answers say. Reference: none. -/
structure Config.Disciplined (ok : Op → List (Call C R) → C → Prop)
    (post : Op → List (Call C R) → Out → Prop) (inv : S → Prop)
    (known : Op → Call C R → S → Prop) (cfg : Config S C R Op Out) : Prop where
  inv : inv cfg.state
  follows : ∀ t ∈ cfg.threads, Follows (ok t.op) (post t.op) t.hist t.rest
  obeys : ∀ t ∈ cfg.threads, Obeys (ok t.op) t.hist
  known : ∀ t ∈ cfg.threads, ∀ call ∈ t.hist, known t.op call cfg.state

variable {ok : Op → List (Call C R) → C → Prop} {post : Op → List (Call C R) → Out → Prop}
variable {policy : Op → List (Call C R) → S → C → E → Prop} {inv : S → Prop}
variable {known : Op → Call C R → S → Prop}

/-- The thread that steps issues a disciplined command. Reference: none. -/
theorem Config.Disciplined.issues (hd : cfg.Disciplined ok post inv known) {op : Op}
    {h : List (Call C R)} {c : C} {k : R c → Prog C R Out}
    (hi : cfg.threads[i]? = some ⟨op, h, .cmd c k⟩) : ok op h c :=
  (hd.follows _ (List.mem_of_getElem? hi)).1

/-- What a call does next after a command is one that its discipline lets follow, or it has returned
with its postcondition. Reference: none. -/
theorem Config.Disciplined.follows_next (hd : cfg.Disciplined ok post inv known) {op : Op}
    {h : List (Call C R)} {c : C} {k : R c → Prog C R Out} (r : R c)
    (hi : cfg.threads[i]? = some ⟨op, h, .cmd c k⟩) :
    (∀ c', (k r).next = some c' → ok op (⟨c, r⟩ :: h) c') ∧
    ((k r).next = none → ∃ a, post op (⟨c, r⟩ :: h) a) := by
  have hf := (hd.follows _ (List.mem_of_getElem? hi)).2 r
  cases hk : k r with
  | ret a =>
    rw [hk] at hf
    exact ⟨nofun, fun _ => ⟨a, hf⟩⟩
  | cmd c' k' =>
    rw [hk] at hf
    refine ⟨fun c'' he => ?_, nofun⟩
    obtain rfl := Option.some.inj he
    exact hf.1

/-- A call that has returned satisfies its postcondition. Reference: none. -/
theorem Config.Disciplined.returned (hd : cfg.Disciplined ok post inv known)
    {t : Thread C R Op Out} {a : Out} (ht : t ∈ cfg.threads) (hret : t.rest = .ret a) :
    post t.op t.hist a := by
  have hf := hd.follows t ht
  rw [hret] at hf
  exact hf

/-- An allowed step keeps the invariant of the configuration. Reference: none. -/
theorem Config.Disciplined.step {l : Label Op E} (hd : cfg.Disciplined ok post inv known)
    (hs : Sound exec body allowed ok post policy inv known) (ha : allowed cfg l)
    (hstep : cfg.step exec body l = some cfg') : cfg'.Disciplined ok post inv known := by
  cases l with
  | spawn op =>
    cases hstep
    refine ⟨hd.inv, fun t ht => ?_, fun t ht => ?_, fun t ht => ?_⟩
    · rcases List.mem_append.1 ht with ht | ht
      · exact hd.follows t ht
      · rw [List.mem_singleton.1 ht]; exact hs.body op
    · rcases List.mem_append.1 ht with ht | ht
      · exact hd.obeys t ht
      · rw [List.mem_singleton.1 ht]; trivial
    · rcases List.mem_append.1 ht with ht | ht
      · exact hd.known t ht
      · rw [List.mem_singleton.1 ht]; simp
  | run i e =>
    obtain ⟨op, h, c, k, r, s, hi, hx, rfl⟩ := Config.step_run hstep
    have hmem := List.mem_of_getElem? hi
    obtain ⟨hinv, hnew, hold⟩ :=
      hs.step op h cfg.state c e r s hd.inv (hd.known _ hmem) (hd.issues hi)
      (hs.obeys cfg i e op h c k ha hi) hx
    refine ⟨hinv, fun t ht => ?_, fun t ht => ?_, fun t ht => ?_⟩
    · rcases Config.mem_set ht with rfl | ht
      · exact (hd.follows _ hmem).2 r
      · exact hd.follows t ht
    · rcases Config.mem_set ht with rfl | ht
      · exact ⟨hd.issues hi, hd.obeys _ hmem⟩
      · exact hd.obeys t ht
    · rcases Config.mem_set ht with rfl | ht
      · intro call hcall
        rcases List.mem_cons.1 hcall with rfl | hcall
        · exact hnew
        · exact hold op call (hd.known _ hmem call hcall)
      · exact fun call hcall => hold t.op call (hd.known t ht call hcall)
  | restart =>
    cases hstep
    exact ⟨hd.inv, fun t ht => hd.follows t (List.mem_filter.1 ht).1,
      fun t ht => hd.obeys t (List.mem_filter.1 ht).1,
      fun t ht => hd.known t (List.mem_filter.1 ht).1⟩

/-- Every reachable configuration keeps the discipline, the invariant and what is known. Reference:
none. -/
theorem Reach.sound (hs : Sound exec body allowed ok post policy inv known)
    (h0 : ∀ cfg, init cfg → cfg.Disciplined ok post inv known)
    (h : Reach exec body init allowed cfg) : cfg.Disciplined ok post inv known :=
  h.induction h0 fun _ _ _ _ hd ha hstep => hd.step hs ha hstep

end

end Interaction
