import AlbyHub.Swaps.AutoSwapCalls
import Mathlib.Data.List.Nodup

/-!
# At most one auto swap

Where ticks do not overlap, the listeners' writes succeed, and no tick begins while a swap from
before the start of the process is pending, there is at most one pending auto swap. The addresses
differ where Esplora reports a transaction at those that are already given (`auto_swap_exclusive`).
A loop that is replaced while it is inside a tick is not stopped, and the new one ticks as well
(`auto_swaps_overlap`).
-/

namespace AlbyHub.AutoSwap

open Interaction

/-- A loop is about to wait for its timer. Reference: `swaps/swaps_service.go:186
EnableAutoSwapOut`. -/
def Waits : Option AutoCmd → Bool
  | some (.wait _) => true
  | _ => false

/-- The call is a loop of the process that is inside a tick. Reference:
`swaps/swaps_service.go:187 EnableAutoSwapOut`. -/
def Inside (proc : Nat) (t : AutoThread) : Prop :=
  t.op.proc = proc ∧ Ticked t.hist = true ∧ Waits t.rest.next = false

instance (proc : Nat) (t : AutoThread) : Decidable (Inside proc t) :=
  inferInstanceAs (Decidable (_ ∧ _ ∧ _))

/-- A pending auto swap. Reference: `db/models.go:94 Swap`. -/
def SwapRow.pendingAuto (row : SwapRow) : Bool :=
  row.autoSwap && row.hub.swap.state = .pending

/-- An auto swap to an address that was derived from the xpub. Reference: `db/models.go:94 Swap`. -/
def SwapRow.xpubAuto (row : SwapRow) : Bool := row.autoSwap && row.hub.swap.usedXpub

/-- The pending auto swaps. Reference: none. -/
def AutoHub.pendingAutoSwaps (s : AutoHub) : List SwapRow := s.rows.filter (·.pendingAuto)

/-- The derived addresses that auto swaps were given. Reference: none. -/
def AutoHub.xpubAddresses (s : AutoHub) : List String :=
  (s.rows.filter (·.xpubAuto)).map (·.destinationAddress)

/-- The listener does not record a state, or it forgets an error. Reference:
`swaps/swaps_service.go:606`, `:1288`, `:1297`. -/
def Loses : SwapCmd → SwapEnv → Prop
  | .updates u, env => u.state ≠ none ∧ env.fault ≠ none
  | .check .voutValue, env | .getFeeRate, env => env.fails ≠ none
  | _, _ => False

instance : ∀ (c : SwapCmd) (env : SwapEnv), Decidable (Loses c env) := by
  intro c env
  induction c using SwapCmd.casesOn with
  | updates => exact inferInstanceAs (Decidable (_ ∧ _))
  | check what =>
    induction what using SwapCheck.casesOn with
    | voutValue => exact inferInstanceAs (Decidable (env.fails ≠ none))
    | _ => exact isFalse id
  | getFeeRate => exact inferInstanceAs (Decidable (env.fails ≠ none))
  | _ => exact isFalse id

/-- What a step needs. A timer is received where no loop is inside a tick, no auto swap from before
the start of the process is pending, and the context is not done. The listener of a tick records the
states and has no error of the claim's fee. Esplora knows a transaction at every address that was
given to an auto swap. Reference: `swaps/swaps_service.go:187`, `:606`, `:1287`, `:1471
checkAddressHasTransactions`. -/
def StepApart (cfg : AutoPool) (env : AutoEnv) (t : AutoThread) : Option AutoCmd → Prop
  | some (.wait _) => env.tick = true →
    (∀ t' ∈ cfg.threads, ¬ Inside cfg.state.proc t') ∧ cfg.state.ctxDone = false ∧
      ∀ row ∈ cfg.state.pendingAutoSwaps, cfg.state.startedAt < row.id
  | some (.listen _ c) => Inside cfg.state.proc t → ¬ Loses c env.swap
  | some (.checkAddressHasTransactions address) =>
    env.fault = none → env.answer = false → address ∉ cfg.state.xpubAddresses
  | _ => True

/-- Reference: none. -/
def Apart (cfg : AutoPool) : AutoLabel → Prop
  | .run i env => ∀ t ∈ cfg.threads[i]?, StepApart cfg env t t.rest.next
  | _ => True

/-- What holds while the ticks are apart. Reference: none. -/
structure OneAutoSwap (s : AutoHub) (ts : List AutoThread) : Prop where
  follows : ∀ t ∈ ts, Follows (AutoOk t.op) anyPost t.hist t.rest
  later : ∀ t ∈ ts, s.proc < t.op.proc → t.hist = []
  one : Unique (Inside s.proc) ts
  ids : (s.rows.map (·.id)).Nodup
  bound : ∀ row ∈ s.rows, row.id ≤ s.seq
  single : s.pendingAutoSwaps.length ≤ 1
  before : ∀ t ∈ ts, Inside s.proc t → (∀ id, ¬ Created t.hist id) → s.pendingAutoSwaps = []
  covered : s.ctxDone = false → ∀ row ∈ s.pendingAutoSwaps,
    row.id ≤ s.startedAt ∨ ∃ t ∈ ts, Inside s.proc t ∧ Created t.hist row.id
  recorded : ∀ t ∈ ts, ∀ id, (∃ call ∈ t.hist, OnRow Records id call) →
    ∀ row ∈ s.pendingAutoSwaps, row.id ≠ id
  seen : ∀ t ∈ ts, ∀ id, (∃ call ∈ t.hist, OnRow (fun _ => True) id call) → id ≤ s.seq
  cancelled : ∀ t ∈ ts, t.op.proc = s.proc → ∀ id,
    (∃ call ∈ t.hist, OnRow Cancelled id call) → s.ctxDone = true
  kept : ∀ t ∈ ts, Inside s.proc t → ∀ id, ¬ ∃ call ∈ sinceWait t.hist, OnRow Lost id call
  addresses : s.xpubAddresses.Nodup
  unused : ∀ t ∈ ts, Inside s.proc t → (∀ id, ¬ Created t.hist id) → ∀ address,
    (⟨.checkAddressHasTransactions address, .ok false⟩ : AutoCall) ∈ sinceWait t.hist →
    address ∉ s.xpubAddresses

/-! ## The table -/

/-- The table keeps its rows, no row becomes pending, and the process is the same. Reference:
none. -/
structure AutoHub.Keeps (s s' : AutoHub) : Prop where
  ids : s'.rows.map (·.id) = s.rows.map (·.id)
  length : s'.pendingAutoSwaps.length ≤ s.pendingAutoSwaps.length
  pending : ∀ row' ∈ s'.pendingAutoSwaps, ∃ row ∈ s.pendingAutoSwaps, row.id = row'.id
  addresses : s'.xpubAddresses = s.xpubAddresses
  seq : s'.seq = s.seq
  proc : s'.proc = s.proc
  startedAt : s'.startedAt = s.startedAt
  ctxDone : s.ctxDone = true → s'.ctxDone = true

/-- A row that stays what it is, and is not pending unless it was. Reference: none. -/
structure SwapRow.Keeps (row row' : SwapRow) : Prop where
  id : row'.id = row.id
  pending : row'.pendingAuto = true → row.pendingAuto = true
  xpub : row'.xpubAuto = row.xpubAuto
  address : row'.destinationAddress = row.destinationAddress

section
variable {s s' : AutoHub} {f : SwapRow → SwapRow}

theorem SwapRow.Keeps.refl (row : SwapRow) : row.Keeps row := ⟨rfl, fun h => h, rfl, rfl⟩

/-- Rows are changed one by one. Reference: none. -/
theorem AutoHub.Keeps.of_map (hrows : s'.rows = s.rows.map f)
    (hf : ∀ row ∈ s.rows, row.Keeps (f row)) (hseq : s'.seq = s.seq) (hproc : s'.proc = s.proc)
    (hstarted : s'.startedAt = s.startedAt) (hctx : s.ctxDone = true → s'.ctxDone = true) :
    s.Keeps s' := by
  have hfilter : ∀ rows : List SwapRow, (∀ row ∈ rows, row.Keeps (f row)) →
      ((rows.map f).filter (·.pendingAuto)).length ≤ (rows.filter (·.pendingAuto)).length ∧
      ((rows.map f).filter (·.xpubAuto)).map (·.destinationAddress) =
        (rows.filter (·.xpubAuto)).map (·.destinationAddress) := by
    intro rows hrows
    induction rows with
    | nil => exact ⟨Nat.le_refl _, rfl⟩
    | cons row rows ih =>
      have hrow := hrows row List.mem_cons_self
      obtain ⟨hlength, haddresses⟩ := ih fun row hmem => hrows row (List.mem_cons_of_mem _ hmem)
      simp only [List.map_cons, List.filter_cons, hrow.xpub]
      constructor
      · by_cases hp : (f row).pendingAuto = true
        · rw [if_pos hp, if_pos (hrow.pending hp)]
          simp only [List.length_cons]
          omega
        · rw [if_neg hp]
          split
          · simp only [List.length_cons]
            omega
          · exact hlength
      · split
        · rw [List.map_cons, List.map_cons, hrow.address, haddresses]
        · exact haddresses
  obtain ⟨hlength, haddresses⟩ := hfilter s.rows hf
  refine ⟨?_, ?_, ?_, ?_, hseq, hproc, hstarted, hctx⟩
  · rw [hrows, List.map_map]
    exact List.map_congr_left fun row hmem => (hf row hmem).id
  · unfold AutoHub.pendingAutoSwaps
    rw [hrows]
    exact hlength
  · intro row' hmem
    unfold AutoHub.pendingAutoSwaps at hmem
    rw [hrows] at hmem
    obtain ⟨hmem, hp⟩ := List.mem_filter.1 hmem
    obtain ⟨row, hrow, rfl⟩ := List.mem_map.1 hmem
    exact ⟨row, List.mem_filter.2 ⟨hrow, (hf row hrow).pending hp⟩, (hf row hrow).id.symm⟩
  · unfold AutoHub.xpubAddresses
    rw [hrows]
    exact haddresses

/-- The table is not touched. Reference: none. -/
theorem AutoHub.Keeps.of_rows (hrows : s'.rows = s.rows) (hseq : s'.seq = s.seq)
    (hproc : s'.proc = s.proc) (hstarted : s'.startedAt = s.startedAt)
    (hctx : s.ctxDone = true → s'.ctxDone = true) : s.Keeps s' :=
  .of_map (f := fun row => row) (by rw [hrows, List.map_id']) (fun row _ => .refl row) hseq hproc
    hstarted hctx

end

/-! ## The listener's commands -/

section
variable {hub hub' : SwapHub} {c : SwapCmd} {r : c.Ans} {env : SwapEnv}

theorem execSwap_usedXpub (hx : execSwap hub c env = some (r, hub')) :
    hub'.swap.usedXpub = hub.swap.usedXpub := by
  rcases execSwap_swap hx with heq | ⟨u, -, -, heq⟩
  · rw [heq]
  · rw [heq]
    rfl

/-- A swap is pending only if it was. Reference: `swaps/swaps_service.go:597`. -/
theorem execSwap_pending (hx : execSwap hub c env = some (r, hub'))
    (hc : ∀ u, c = .updates u → u.state ≠ some .pending) (hp : hub'.swap.state = .pending) :
    hub.swap.state = .pending := by
  rcases execSwap_swap hx with heq | ⟨u, rfl, -, heq⟩
  · rw [heq] at hp
    exact hp
  · rw [heq] at hp
    cases hu : u.state with
    | none =>
      simp only [Swap.updates, hu] at hp
      exact hp
    | some state =>
      simp only [Swap.updates, hu, Option.getD_some] at hp
      rw [hp] at hu
      exact absurd hu (hc u rfl)

/-- A swap whose end was recorded, or found recorded, is not pending. Reference:
`swaps/swaps_service.go:597 markSwapState`. -/
theorem execSwap_records (hx : execSwap hub c env = some (r, hub')) (hr : Records ⟨c, r⟩) :
    hub'.swap.state ≠ .pending := by
  cases c with
  | updates u =>
    simp only [execSwap, Option.some.injEq, Prod.mk.injEq] at hx
    obtain ⟨rfl, rfl⟩ := hx
    cases hf : env.fault with
    | some e =>
      rw [hf] at hr
      exact hr.elim
    | none =>
      rw [hf] at hr
      obtain ⟨state, hu, hne⟩ := hr
      simp only [SwapHub.written, Option.isNone_none, if_true, Swap.updates, hu, Option.getD_some]
      exact hne
  | findInState state =>
    simp only [execSwap, Option.some.injEq, Prod.mk.injEq] at hx
    obtain ⟨rfl, rfl⟩ := hx
    split at hr
    · next hfound =>
      simp only [Bool.and_eq_true, decide_eq_true_eq] at hfound
      rw [hfound.2]
      exact hr
    · exact hr.elim
  | _ => exact hr.elim

theorem loses_of_lost (hx : execSwap hub c env = some (r, hub')) (hl : Lost ⟨c, r⟩) :
    Loses c env := by
  have hanswer : ∀ {fails : Option String} {e : String},
      SwapEnv.answer fails () = .error e → fails ≠ none := by
    rintro fails e he rfl
    cases he
  cases c with
  | updates u =>
    cases r with
    | error e =>
      simp only [execSwap, Option.some.injEq, Prod.mk.injEq] at hx
      exact ⟨hl, hanswer hx.1⟩
    | ok a => cases a; exact hl.elim
  | check what =>
    cases r with
    | error e =>
      simp only [execSwap, Option.some.injEq, Prod.mk.injEq] at hx
      cases what <;> first | exact hanswer hx.1 | exact hl.elim
    | ok a => cases a; cases what <;> exact hl.elim
  | getFeeRate =>
    cases r with
    | error e =>
      simp only [execSwap, Option.some.injEq, Prod.mk.injEq] at hx
      exact hanswer hx.1
    | ok a => cases a; exact hl.elim
  | _ => exact hl.elim

end

/-! ## Steps -/

theorem AutoEnv.reply_eq_ok {env : AutoEnv} {α : Type} {a b : α} (hr : env.reply a = .ok b) :
    env.fault = none ∧ a = b := by
  unfold AutoEnv.reply at hr
  split at hr
  · cases hr
  · next hf => exact ⟨hf, Except.ok.inj hr⟩

namespace OneAutoSwap

variable {s s' : AutoHub} {ts : List AutoThread} {i : Nat} {op : AutoSpawn} {h : List AutoCall}
variable {c : AutoCmd} {k : c.Ans → AutoProg SwapExit} {r : c.Ans}

theorem issues (hn : OneAutoSwap s ts) (hi : ts[i]? = some ⟨op, h, .cmd c k⟩) : AutoOk op h c :=
  (hn.follows _ (List.mem_of_getElem? hi)).1

theorem follows_set (hn : OneAutoSwap s ts) (hi : ts[i]? = some ⟨op, h, .cmd c k⟩) :
    ∀ t ∈ ts.set i ⟨op, ⟨c, r⟩ :: h, k r⟩, Follows (AutoOk t.op) anyPost t.hist t.rest := by
  intro t ht
  rcases Config.mem_set ht with rfl | ht
  · exact (hn.follows _ (List.mem_of_getElem? hi)).2 r
  · exact hn.follows t ht

/-- A loop that is about to wait has ended its tick. Reference: `swaps/swaps_service.go:186
EnableAutoSwapOut`. -/
theorem over_of_waits {t : AutoThread} (hf : Follows (AutoOk t.op) anyPost t.hist t.rest)
    (hw : Waits t.rest.next = true) (ht : Ticked t.hist = true) : TickOver t.hist := by
  obtain ⟨op, h, rest⟩ := t
  cases rest with
  | ret exit => cases hw
  | cmd c k =>
    cases c with
    | wait ctx => exact hf.1 ht
    | _ => cases hw

theorem later_set (hn : OneAutoSwap s ts) (hproc : op.proc = s.proc) :
    ∀ t ∈ ts.set i ⟨op, ⟨c, r⟩ :: h, k r⟩, s.proc < t.op.proc → t.hist = [] := by
  intro t ht hlt
  rcases Config.mem_set ht with rfl | ht
  · have hlt : s.proc < op.proc := hlt
    omega
  · exact hn.later t ht hlt

/-- What follows from a listener's commands follows from those of the stepped call and of the
others. Reference: none. -/
theorem onRow_set {P : Call SwapCmd SwapCmd.Ans → Prop} {Q : AutoSpawn → Nat → Prop}
    (hi : ts[i]? = some ⟨op, h, .cmd c k⟩) (hnew : ∀ id, OnRow P id ⟨c, r⟩ → Q op id)
    (hold : ∀ t ∈ ts, ∀ id, (∃ call ∈ t.hist, OnRow P id call) → Q t.op id) :
    ∀ t ∈ ts.set i ⟨op, ⟨c, r⟩ :: h, k r⟩, ∀ id, (∃ call ∈ t.hist, OnRow P id call) →
      Q t.op id := by
  intro t ht id hcall
  rcases Config.mem_set ht with rfl | ht
  · rcases onRow_of_cons hcall with hcall | hcall
    · exact hnew id hcall
    · exact hold _ (List.mem_of_getElem? hi) id hcall
  · exact hold t ht id hcall

/-- A tick is not over before the end of the swap that it has created. Reference:
`swaps/swaps_service.go:186 EnableAutoSwapOut`. -/
theorem not_waits {t : AutoThread} {id : Nat}
    (hf : Follows (AutoOk t.op) anyPost t.hist t.rest) (hticked : Ticked t.hist = true)
    (hcreated : Created t.hist id) (hrecorded : ¬ ∃ call ∈ t.hist, OnRow Records id call)
    (hcancelled : ¬ ∃ call ∈ t.hist, OnRow Cancelled id call)
    (hkept : ¬ ∃ call ∈ sinceWait t.hist, OnRow Lost id call) : Waits t.rest.next = false := by
  cases hwaits : Waits t.rest.next with
  | false => rfl
  | true =>
    exfalso
    obtain ⟨call, hcall, hon⟩ := over_of_waits hf hwaits hticked id hcreated
    rcases hon.or with hrec | hon
    · exact hrecorded ⟨call, sinceWait_subset hcall, hrec⟩
    · rcases hon.or with hlost | hdone
      · exact hkept ⟨call, hcall, hlost⟩
      · exact hcancelled ⟨call, sinceWait_subset hcall, hdone⟩

/-- The row of a new swap. Reference: `swaps/swaps_service.go:301 SwapOut`. -/
theorem ids_append (hn : OneAutoSwap s ts) {row : SwapRow} (hid : row.id = s.seq + 1) :
    ((s.rows ++ [row]).map (·.id)).Nodup := by
  rw [List.map_append]
  refine List.nodup_append.2 ⟨hn.ids, by simp, ?_⟩
  rintro id hmem id' hmem' rfl
  obtain ⟨row', hrow', he⟩ := List.mem_map.1 hmem
  have hle := hn.bound row' hrow'
  simp only [List.map_cons, List.map_nil, List.mem_singleton] at hmem'
  omega

theorem bound_append (hn : OneAutoSwap s ts) {row : SwapRow} (hid : row.id = s.seq + 1) :
    ∀ row' ∈ s.rows ++ [row], row'.id ≤ s.seq + 1 := by
  intro row' hrow'
  rcases List.mem_append.1 hrow' with hrow' | hrow'
  · have hle := hn.bound row' hrow'
    omega
  · rw [List.mem_singleton.1 hrow']
    omega

theorem addresses_append (hn : OneAutoSwap s ts) {row : SwapRow}
    (hnew : row.xpubAuto = true → row.destinationAddress ∉ s.xpubAddresses) :
    (((s.rows ++ [row]).filter (·.xpubAuto)).map (·.destinationAddress)).Nodup := by
  rw [List.filter_append, List.map_append]
  refine List.nodup_append.2 ⟨hn.addresses, ?_, ?_⟩
  · rw [List.filter_cons]
    split <;> simp
  · rintro address haddress address' haddress' rfl
    obtain ⟨row', hrow', rfl⟩ := List.mem_map.1 haddress'
    obtain ⟨hrow', hx⟩ := List.mem_filter.1 hrow'
    obtain rfl := List.mem_singleton.1 hrow'
    exact hnew hx haddress

/-- A step that leaves a swap pending leaves the tick that created it. Reference:
`swaps/swaps_service.go:186 EnableAutoSwapOut`. -/
theorem covered_set (hn : OneAutoSwap s ts) (hi : ts[i]? = some ⟨op, h, .cmd c k⟩)
    (hproc : op.proc = s.proc) (hk : s.Keeps s') (hw : ∀ ctx, c ≠ .wait ctx)
    (hcreates : ∀ id, ¬ CreatesRow id ⟨c, r⟩)
    (hrecorded : ∀ t ∈ ts.set i ⟨op, ⟨c, r⟩ :: h, k r⟩, ∀ id,
      (∃ call ∈ t.hist, OnRow Records id call) → ∀ row ∈ s'.pendingAutoSwaps, row.id ≠ id)
    (hcancelled : ∀ t ∈ ts.set i ⟨op, ⟨c, r⟩ :: h, k r⟩, ∀ id,
      (∃ call ∈ t.hist, OnRow Cancelled id call) → t.op.proc = s.proc → s'.ctxDone = true)
    (hkept : Inside s.proc ⟨op, h, .cmd c k⟩ →
      ∀ id, ¬ ∃ call ∈ sinceWait (⟨c, r⟩ :: h), OnRow Lost id call)
    (hctx : s'.ctxDone = false) : ∀ row ∈ s'.pendingAutoSwaps,
      row.id ≤ s.startedAt ∨ ∃ t ∈ ts.set i ⟨op, ⟨c, r⟩ :: h, k r⟩,
        Inside s.proc t ∧ Created t.hist row.id := by
  intro row' hrow'
  obtain ⟨row, hrow, hid⟩ := hk.pending row' hrow'
  have hnotDone : s'.ctxDone ≠ true := by
    rw [hctx]
    exact Bool.false_ne_true
  have hctx₀ : s.ctxDone = false := Bool.eq_false_iff.2 fun hd => hnotDone (hk.ctxDone hd)
  rw [← hid]
  rcases hn.covered hctx₀ row hrow with hold | ⟨t, ht, hin, hrowOf⟩
  · exact .inl hold
  · right
    have hnew : (t = ⟨op, h, .cmd c k⟩ ∧
        ⟨op, ⟨c, r⟩ :: h, k r⟩ ∈ ts.set i ⟨op, ⟨c, r⟩ :: h, k r⟩) ∨
        t ∈ ts.set i ⟨op, ⟨c, r⟩ :: h, k r⟩ := exists_mem_set hi ht
    rcases hnew with ⟨rfl, ht'⟩ | ht'
    · -- the tick is not over, because the row is pending
      have hticked : Ticked (⟨c, r⟩ :: h) = true := (ticked_cons hw).trans hin.2.1
      have hcreated := (created_cons_iff hw hcreates).2 hrowOf
      refine ⟨_, ht', ⟨hproc, hticked, ?_⟩, hcreated⟩
      exact not_waits (hn.follows_set hi _ ht') hticked hcreated
        (fun hcall => hrecorded _ ht' row.id hcall row' hrow' hid.symm)
        (fun hcall => hnotDone (hcancelled _ ht' row.id hcall hproc)) (hkept hin row.id)
    · exact ⟨t, ht', hin, hrowOf⟩

/-- A command that neither waits nor creates a row nor starts a process. Reference: none. -/
theorem advance (hn : OneAutoSwap s ts) (hi : ts[i]? = some ⟨op, h, .cmd c k⟩)
    (hproc : op.proc = s.proc) (hk : s.Keeps s') (hw : ∀ ctx, c ≠ .wait ctx)
    (hcreates : ∀ id, ¬ CreatesRow id ⟨c, r⟩)
    (hrecords : ∀ id, OnRow Records id ⟨c, r⟩ → ∀ row ∈ s'.pendingAutoSwaps, row.id ≠ id)
    (hseen : ∀ id, OnRow (fun _ => True) id ⟨c, r⟩ → id ≤ s.seq)
    (hdone : ∀ id, OnRow Cancelled id ⟨c, r⟩ → s'.ctxDone = true)
    (hlost : Inside s.proc ⟨op, h, .cmd c k⟩ → ∀ id, ¬ OnRow Lost id ⟨c, r⟩)
    (hunused : ∀ address, (⟨c, r⟩ : AutoCall) = ⟨.checkAddressHasTransactions address, .ok false⟩ →
      address ∉ s.xpubAddresses) :
    OneAutoSwap s' (ts.set i ⟨op, ⟨c, r⟩ :: h, k r⟩) := by
  have hmem := List.mem_of_getElem? hi
  have hnext : Waits (Prog.next (.cmd c k : AutoProg SwapExit)) = false := by
    show Waits (some c) = false
    cases c <;> first | rfl | exact absurd rfl (hw _)
  have hinside : ∀ rest : AutoProg SwapExit, Inside s.proc ⟨op, ⟨c, r⟩ :: h, rest⟩ →
      Inside s.proc ⟨op, h, .cmd c k⟩ := by
    rintro rest ⟨hp, ht, -⟩
    exact ⟨hp, (ticked_cons hw).symm.trans ht, hnext⟩
  have hcreated : ∀ id, Created (⟨c, r⟩ :: h) id ↔ Created h id :=
    fun id => created_cons_iff hw hcreates
  have hrecorded := onRow_set (Q := fun _ id => ∀ row ∈ s'.pendingAutoSwaps, row.id ≠ id) hi
    hrecords fun t ht id hcall row' hrow' => by
      obtain ⟨row, hrow, hid⟩ := hk.pending row' hrow'
      rw [← hid]
      exact hn.recorded t ht id hcall row hrow
  have hcancelled := onRow_set (Q := fun op _ => op.proc = s.proc → s'.ctxDone = true) hi
    (fun id hcall _ => hdone id hcall)
    fun t ht id hcall hp => hk.ctxDone (hn.cancelled t ht hp id hcall)
  have hkept : Inside s.proc ⟨op, h, .cmd c k⟩ →
      ∀ id, ¬ ∃ call ∈ sinceWait (⟨c, r⟩ :: h), OnRow Lost id call := by
    intro hin id hcall
    rw [sinceWait_cons hw] at hcall
    rcases onRow_of_cons hcall with hcall | hcall
    · exact hlost hin id hcall
    · exact hn.kept _ hmem hin id hcall
  refine ⟨hn.follows_set hi, ?_, ?_, ?_, ?_, ?_, ?_, ?_, hrecorded, ?_, ?_, ?_, ?_, ?_⟩
  · rw [hk.proc]
    exact hn.later_set hproc
  · rw [hk.proc]
    exact hn.one.set hi (hinside _)
  · rw [hk.ids]
    exact hn.ids
  · intro row' hrow'
    have hid : row'.id ∈ s'.rows.map (·.id) := List.mem_map_of_mem hrow'
    rw [hk.ids] at hid
    obtain ⟨row, hrow, he⟩ := List.mem_map.1 hid
    have hle := hn.bound row hrow
    rw [hk.seq]
    omega
  · exact Nat.le_trans hk.length hn.single
  · intro t ht hin hnone
    rw [hk.proc] at hin
    have hempty : s.pendingAutoSwaps = [] := by
      rcases Config.mem_set ht with rfl | ht
      · exact hn.before _ hmem (hinside _ hin) fun id hid => hnone id ((hcreated id).2 hid)
      · exact hn.before t ht hin hnone
    have hle := hk.length
    rw [hempty] at hle
    exact List.eq_nil_of_length_eq_zero (Nat.le_zero.1 hle)
  · intro hctx
    rw [hk.startedAt, hk.proc]
    exact hn.covered_set hi hproc hk hw hcreates hrecorded hcancelled hkept hctx
  · rw [hk.seq]
    exact onRow_set (Q := fun _ id => id ≤ s.seq) hi hseen hn.seen
  · intro t ht hp id hcall
    rw [hk.proc] at hp
    exact hcancelled t ht id hcall hp
  · intro t ht hin id hcall
    rw [hk.proc] at hin
    rcases Config.mem_set ht with rfl | ht
    · exact hkept (hinside _ hin) id hcall
    · exact hn.kept t ht hin id hcall
  · rw [hk.addresses]
    exact hn.addresses
  · intro t ht hin hnone address hcall
    rw [hk.proc] at hin
    rw [hk.addresses]
    rcases Config.mem_set ht with rfl | ht
    · rw [sinceWait_cons hw] at hcall
      rcases List.mem_cons.1 hcall with he | hcall
      · exact hunused address he.symm
      · exact hn.unused _ hmem (hinside _ hin) (fun id hid => hnone id ((hcreated id).2 hid))
          address hcall
    · exact hn.unused t ht hin hnone address hcall

theorem not_onRow {P : Call SwapCmd SwapCmd.Ans → Prop} {id : Nat}
    (hc : ∀ id c', c ≠ .listen id c') : ¬ OnRow P id ⟨c, r⟩ := by
  intro hcall
  cases c <;> first | exact hcall | exact hc _ _ rfl

/-- A command that is not one of a listener. Reference: none. -/
theorem quiet (hn : OneAutoSwap s ts) (hi : ts[i]? = some ⟨op, h, .cmd c k⟩)
    (hproc : op.proc = s.proc) (hk : s.Keeps s') (hw : ∀ ctx, c ≠ .wait ctx)
    (hcreates : ∀ id, ¬ CreatesRow id ⟨c, r⟩) (hl : ∀ id c', c ≠ .listen id c')
    (hunused : ∀ address, (⟨c, r⟩ : AutoCall) = ⟨.checkAddressHasTransactions address, .ok false⟩ →
      address ∉ s.xpubAddresses) :
    OneAutoSwap s' (ts.set i ⟨op, ⟨c, r⟩ :: h, k r⟩) :=
  hn.advance hi hproc hk hw hcreates (fun _ hcall => absurd hcall (not_onRow hl))
    (fun _ hcall => absurd hcall (not_onRow hl)) (fun _ hcall => absurd hcall (not_onRow hl))
    (fun _ _ => not_onRow hl) hunused

/-- The timer of a loop has fired, or its context is done. Reference: `swaps/swaps_service.go:186
EnableAutoSwapOut`. -/
theorem waited {ctx : Nat} {fired : Bool} {k : Bool → AutoProg SwapExit} (hn : OneAutoSwap s ts)
    (hi : ts[i]? = some ⟨op, h, .cmd (.wait ctx) k⟩) (hproc : op.proc = s.proc)
    (hapart : fired = true → (∀ t ∈ ts, ¬ Inside s.proc t) ∧ s.ctxDone = false ∧
      ∀ row ∈ s.pendingAutoSwaps, s.startedAt < row.id) :
    OneAutoSwap s (ts.set i ⟨op, ⟨.wait ctx, fired⟩ :: h, k fired⟩) := by
  have hmem := List.mem_of_getElem? hi
  have hout : ¬ Inside s.proc ⟨op, h, .cmd (.wait ctx) k⟩ := fun hin => by cases hin.2.2
  have hfired : ∀ {rest : AutoProg SwapExit},
      Inside s.proc ⟨op, ⟨.wait ctx, fired⟩ :: h, rest⟩ → fired = true := fun hin => hin.2.1
  -- no swap is pending when a tick begins
  have hnone : fired = true → s.pendingAutoSwaps = [] := by
    intro hf
    obtain ⟨hothers, hctx, hstarted⟩ := hapart hf
    refine List.eq_nil_iff_forall_not_mem.2 fun row hrow => ?_
    rcases hn.covered hctx row hrow with hold | ⟨t, ht, hin, -⟩
    · have hlt := hstarted row hrow
      omega
    · exact hothers t ht hin
  refine ⟨hn.follows_set hi, ?_, ?_, hn.ids, hn.bound, hn.single, ?_, ?_, ?_, ?_, ?_, ?_,
    hn.addresses, ?_⟩
  · exact hn.later_set hproc
  · cases hf : fired with
    | false => exact hn.one.set hi fun hin => by cases hin.2.1
    | true =>
      refine Unique.set_of_none fun j t hj _ => ?_
      exact (hapart hf).1 t (List.mem_of_getElem? hj)
  · intro t ht hin hc
    rcases Config.mem_set ht with rfl | ht
    · exact hnone (hfired hin)
    · exact hn.before t ht hin hc
  · intro hctx row hrow
    rcases hn.covered hctx row hrow with hold | ⟨t, ht, hin, hc⟩
    · exact .inl hold
    · have hnew : (t = ⟨op, h, .cmd (.wait ctx) k⟩ ∧ ⟨op, ⟨.wait ctx, fired⟩ :: h, k fired⟩ ∈
          ts.set i ⟨op, ⟨.wait ctx, fired⟩ :: h, k fired⟩) ∨
          t ∈ ts.set i ⟨op, ⟨.wait ctx, fired⟩ :: h, k fired⟩ := exists_mem_set hi ht
      rcases hnew with ⟨rfl, -⟩ | ht'
      · exact absurd hin hout
      · exact .inr ⟨t, ht', hin, hc⟩
  · exact onRow_set (Q := fun _ id => ∀ row ∈ s.pendingAutoSwaps, row.id ≠ id) hi
      (fun _ hc => hc.elim) hn.recorded
  · exact onRow_set (Q := fun _ id => id ≤ s.seq) hi (fun _ hc => hc.elim) hn.seen
  · intro t ht hp id hcall
    exact onRow_set (Q := fun op _ => op.proc = s.proc → s.ctxDone = true) hi
      (fun _ hc => hc.elim) (fun t ht id hcall hp => hn.cancelled t ht hp id hcall) t ht id hcall hp
  · intro t ht hin id hcall
    rcases Config.mem_set ht with rfl | ht
    · obtain ⟨call, hcall, -⟩ := hcall
      cases hcall
    · exact hn.kept t ht hin id hcall
  · intro t ht hin hc address hcall
    rcases Config.mem_set ht with rfl | ht
    · cases hcall
    · exact hn.unused t ht hin hc address hcall

/-- A swap was created. Reference: `swaps/swaps_service.go:301 SwapOut`. -/
theorem created {amountSat : Nat} {destination text : String} {auto used : Bool}
    {k : Except String (Nat × Swap) → AutoProg SwapExit} (hn : OneAutoSwap s ts)
    (hi : ts[i]? = some ⟨op, h, .cmd (.createReverseSwap amountSat destination auto used) k⟩)
    (hproc : op.proc = s.proc) :
    OneAutoSwap
      { s with
        seq := s.seq + 1
        rows := s.rows ++
          [⟨s.seq + 1, ⟨newSwap text amountSat used, false⟩, auto, destination⟩] }
      (ts.set i ⟨op, ⟨.createReverseSwap amountSat destination auto used,
        .ok (s.seq + 1, newSwap text amountSat used)⟩ :: h,
        k (.ok (s.seq + 1, newSwap text amountSat used))⟩) := by
  have hmem := List.mem_of_getElem? hi
  obtain ⟨hticked, hnone, hused⟩ := hn.issues hi
  have hin : Inside s.proc ⟨op, h, .cmd (.createReverseSwap amountSat destination auto used) k⟩ :=
    ⟨hproc, hticked, rfl⟩
  have hbefore : s.rows.filter (·.pendingAuto) = [] := hn.before _ hmem hin hnone
  -- no other loop is inside a tick
  have hother : ∀ (j : Nat) t, ts[j]? = some t → j ≠ i → ¬ Inside s.proc t :=
    fun j t hj hne hin' => hne (hn.one j i t _ hj hi hin' hin)
  have hself : ∀ {t : AutoThread} {t' : AutoThread}, t ∈ ts.set i t' → Inside s.proc t →
      t = t' := by
    intro t t' ht hint
    rcases mem_set_index ht with rfl | ⟨j, hne, hj⟩
    · rfl
    · exact absurd hint (hother j t hj hne)
  have hpending : ∀ row ∈ List.filter SwapRow.pendingAuto (s.rows ++
      [⟨s.seq + 1, ⟨newSwap text amountSat used, false⟩, auto, destination⟩]),
      row.id = s.seq + 1 := by
    intro row hrow
    rw [List.filter_append, hbefore, List.nil_append] at hrow
    rw [List.mem_singleton.1 (List.mem_filter.1 hrow).1]
  have hcreated : Created (⟨.createReverseSwap amountSat destination auto used,
      .ok (s.seq + 1, newSwap text amountSat used)⟩ :: h) (s.seq + 1) :=
    ⟨_, List.mem_cons_self, rfl⟩
  let result : Except String (Nat × Swap) := .ok (s.seq + 1, newSwap text amountSat used)
  have hseen := onRow_set (r := result) (P := fun _ => True) (Q := fun _ id => id ≤ s.seq) hi
    (fun _ hc => hc.elim) hn.seen
  -- no listener has begun with the swap
  have hfresh : ∀ (P : Call SwapCmd SwapCmd.Ans → Prop), ∀ t ∈ ts.set i
      ⟨op, ⟨.createReverseSwap amountSat destination auto used, result⟩ :: h, k result⟩,
      ¬ ∃ call ∈ t.hist, OnRow P (s.seq + 1) call := by
    rintro P t ht ⟨call, hcall, hon⟩
    have hle := hseen t ht (s.seq + 1) ⟨call, hcall, hon.mono fun _ _ => trivial⟩
    omega
  refine ⟨hn.follows_set hi, hn.later_set hproc, Unique.set_of_none hother, hn.ids_append rfl,
    hn.bound_append rfl, ?_, ?_, ?_, ?_, ?_, ?_, ?_, hn.addresses_append fun hx => ?_, ?_⟩
  · unfold AutoHub.pendingAutoSwaps
    rw [List.filter_append, hbefore, List.nil_append]
    exact List.length_filter_le _ _
  · intro t ht hint hc
    obtain rfl := hself ht hint
    exact absurd hcreated (hc _)
  · intro hctx row hrow
    right
    refine ⟨_, mem_set_self hi, ⟨hproc, hticked, ?_⟩, (hpending row hrow).symm ▸ hcreated⟩
    refine not_waits (hn.follows_set hi _ (mem_set_self hi)) hticked hcreated
      (hfresh _ _ (mem_set_self hi)) (hfresh _ _ (mem_set_self hi)) ?_
    rintro ⟨call, hcall, hlost⟩
    exact hfresh _ _ (mem_set_self hi) ⟨call, sinceWait_subset hcall, hlost⟩
  · rintro t ht id hcall row hrow rfl
    rw [hpending row hrow] at hcall
    exact hfresh _ t ht hcall
  · intro t ht id hcall
    have hle := hseen t ht id hcall
    show id ≤ s.seq + 1
    omega
  · intro t ht hp id hcall
    exact onRow_set (Q := fun op _ => op.proc = s.proc → s.ctxDone = true) hi
      (fun _ hc => hc.elim) (fun t ht id hcall hp => hn.cancelled t ht hp id hcall) t ht id hcall hp
  · intro t ht hint id hcall
    obtain rfl := hself ht hint
    exact hn.kept _ hmem hin id ((onRow_of_cons hcall).resolve_left fun hc => hc)
  · have hu : used = true := (Bool.and_eq_true_iff.1 hx).2
    exact hn.unused _ hmem hin hnone destination (hused hu)
  · intro t ht hint hc
    obtain rfl := hself ht hint
    exact absurd hcreated (hc _)

/-- A new process has started. Reference: `swaps/swaps_service.go:79 NewSwapsService`. -/
theorem booted {proc : Nat} {k : Unit → AutoProg SwapExit} (hn : OneAutoSwap s ts)
    (hi : ts[i]? = some ⟨op, h, .cmd (.newSwapsService proc) k⟩) (hproc : op.proc = s.proc + 1) :
    OneAutoSwap
      { s with
        proc := proc
        startedAt := s.seq
        ctxDone := false
        contexts := 0
        cancelled := []
        cancelFn := none
        decryptedXpub := "" }
      (ts.set i ⟨op, ⟨.newSwapsService proc, ()⟩ :: h, k ()⟩) := by
  have hmem := List.mem_of_getElem? hi
  obtain ⟨rfl, rfl⟩ := hn.issues hi
  -- no call of the new process has done anything yet
  have hnew : ∀ t ∈ ts.set i ⟨op, [⟨.newSwapsService op.proc, ()⟩], k ()⟩, t.op.proc = op.proc →
      Ticked t.hist = false ∧ ∀ (P : Call SwapCmd SwapCmd.Ans → Prop) id,
        ¬ ∃ call ∈ t.hist, OnRow P id call := by
    intro t ht hp
    rcases Config.mem_set ht with rfl | ht
    · refine ⟨rfl, fun P id hcall => ?_⟩
      rcases onRow_of_cons hcall with hcall | ⟨call, hcall, -⟩
      · exact hcall
      · cases hcall
    · have hempty := hn.later t ht (by omega)
      rw [hempty]
      refine ⟨rfl, fun P id ⟨call, hcall, _⟩ => ?_⟩
      cases hcall
  have hout : ∀ t ∈ ts.set i ⟨op, [⟨.newSwapsService op.proc, ()⟩], k ()⟩,
      ¬ Inside op.proc t := by
    intro t ht hin
    have hticked := (hnew t ht hin.1).1
    rw [hin.2.1] at hticked
    cases hticked
  refine ⟨hn.follows_set hi, ?_, ?_, hn.ids, hn.bound, hn.single, ?_, ?_, ?_, ?_, ?_, ?_,
    hn.addresses, ?_⟩
  · intro t ht hlt
    rcases Config.mem_set ht with rfl | ht
    · exact absurd hlt (Nat.lt_irrefl _)
    · have hlt : op.proc < t.op.proc := hlt
      exact hn.later t ht (by omega)
  · intro j j' t t' hj _ hin _
    exact absurd hin (hout t (List.mem_of_getElem? hj))
  · intro t ht hin
    exact absurd hin (hout t ht)
  · intro _ row hrow
    exact .inl (hn.bound row (List.mem_filter.1 hrow).1)
  · intro t ht id hcall
    rcases Config.mem_set ht with rfl | ht
    · exact absurd hcall ((hnew _ (mem_set_self hi) rfl).2 _ id)
    · exact hn.recorded t ht id hcall
  · intro t ht id hcall
    rcases Config.mem_set ht with rfl | ht
    · exact absurd hcall ((hnew _ (mem_set_self hi) rfl).2 _ id)
    · exact hn.seen t ht id hcall
  · intro t ht hp id hcall
    exact absurd hcall ((hnew t ht hp).2 _ id)
  · intro t ht hin
    exact absurd hin (hout t ht)
  · intro t ht hin
    exact absurd hin (hout t ht)

/-- A new call has done nothing. Reference: none. -/
theorem spawned {derive : String → Nat → Except String String}
    (hderive : ∀ xpub i, derive xpub i ≠ .ok "") (hn : OneAutoSwap s ts) (call : AutoSpawn) :
    OneAutoSwap s (ts ++ [⟨call, [], autoBody derive call⟩]) := by
  have hold : ∀ {P : AutoThread → Prop}, (∀ t ∈ ts, P t) → P ⟨call, [], autoBody derive call⟩ →
      ∀ t ∈ ts ++ [⟨call, [], autoBody derive call⟩], P t := by
    intro P hts hnew t ht
    rcases List.mem_append.1 ht with ht | ht
    · exact hts t ht
    · rw [List.mem_singleton.1 ht]
      exact hnew
  have hout : ¬ Inside s.proc ⟨call, [], autoBody derive call⟩ := fun hin => by cases hin.2.1
  have hnone : ∀ {P : Call SwapCmd SwapCmd.Ans → Prop} {id : Nat},
      ¬ ∃ call ∈ ([] : List AutoCall), OnRow P id call := fun ⟨_, hcall, _⟩ => nomatch hcall
  refine ⟨hold hn.follows (follows_autoBody hderive call), hold hn.later fun _ => rfl,
    hn.one.append hout, hn.ids, hn.bound, hn.single, hold hn.before fun hin => absurd hin hout, ?_,
    hold hn.recorded fun id hcall => absurd hcall hnone,
    hold hn.seen fun id hcall => absurd hcall hnone,
    hold hn.cancelled fun _ id hcall => absurd hcall hnone,
    hold hn.kept fun hin => absurd hin hout, hn.addresses,
    hold hn.unused fun hin => absurd hin hout⟩
  intro hctx row hrow
  rcases hn.covered hctx row hrow with hstarted | ⟨t, ht, hin, hc⟩
  · exact .inl hstarted
  · exact .inr ⟨t, List.mem_append_left _ ht, hin, hc⟩

/-- A command of a listener. Reference: `swaps/swaps_service.go:885`, `:1053`. -/
theorem listened {id : Nat} {c : SwapCmd} {k : c.Ans → AutoProg SwapExit} {r : c.Ans}
    {hub : SwapHub} {row : SwapRow} {env : SwapEnv} (hn : OneAutoSwap s ts)
    (hi : ts[i]? = some ⟨op, h, .cmd (.listen id c) k⟩) (hproc : op.proc = s.proc)
    (hrow : s.rows.find? (·.id = id) = some row) (hx : execSwap row.hub c env = some (r, hub))
    (hdone : c = .select → env.signal = .done → s.ctxDone = true)
    (hapart : Inside s.proc ⟨op, h, .cmd (.listen id c) k⟩ → ¬ Loses c env) :
    OneAutoSwap (s.setRow id hub) (ts.set i ⟨op, ⟨.listen id c, r⟩ :: h, k r⟩) := by
  have hok := hn.issues hi
  have hmemrow : row ∈ s.rows := List.mem_of_find?_eq_some hrow
  have hid : row.id = id := by simpa using List.find?_some hrow
  have hunique : ∀ row' ∈ s.rows, row'.id = id → row' = row := fun row' hrow' hid' =>
    List.inj_on_of_nodup_map hn.ids hrow' hmemrow (hid'.trans hid.symm)
  have hwrites : ∀ u, c = .updates u → u.state ≠ some .pending := by
    rintro u rfl
    exact hok
  have hkeeps : s.Keeps (s.setRow id hub) := by
    refine .of_map rfl (fun row' hrow' => ?_) rfl rfl rfl fun hd => hd
    split
    · next he =>
      obtain rfl := hunique row' hrow' he
      refine ⟨rfl, fun hp => ?_, ?_, rfl⟩
      · obtain ⟨hauto, hstate⟩ := Bool.and_eq_true_iff.1 hp
        refine Bool.and_eq_true_iff.2 ⟨hauto, decide_eq_true ?_⟩
        exact execSwap_pending hx hwrites (of_decide_eq_true hstate)
      · show (row'.autoSwap && hub.swap.usedXpub) = (row'.autoSwap && row'.hub.swap.usedXpub)
        rw [execSwap_usedXpub hx]
    · exact .refl row'
  refine hn.advance hi hproc hkeeps nofun (fun id hc => hc) ?_ ?_ ?_ ?_ nofun
  · rintro id' ⟨rfl, hrecords⟩ row' hrow' hid'
    obtain ⟨hmem, hp⟩ := List.mem_filter.1 hrow'
    obtain ⟨row₀, hrow₀, rfl⟩ := List.mem_map.1 hmem
    split at hp
    · exact execSwap_records hx hrecords (of_decide_eq_true (Bool.and_eq_true_iff.1 hp).2)
    · next hne =>
      rw [if_neg hne] at hid'
      exact hne hid'
  · rintro id' ⟨rfl, -⟩
    have hle := hn.bound row hmemrow
    omega
  · rintro id' ⟨rfl, hc⟩
    show s.ctxDone = true
    cases c with
    | select =>
      refine hdone rfl ?_
      simp only [execSwap, Option.some.injEq, Prod.mk.injEq] at hx
      rw [hx.1]
      cases r <;> first | rfl | exact hc.elim
    | _ => exact hc.elim
  · rintro hin id' ⟨-, hl⟩
    exact hapart hin (loses_of_lost hx hl)

/-- Reference: none. -/
theorem step {derive : String → Nat → Except String String}
    (hderive : ∀ xpub i, derive xpub i ≠ .ok "") {cfg cfg' : AutoPool} {l : AutoLabel}
    (hn : OneAutoSwap cfg.state cfg.threads) (hin : InProcess cfg l) (ha : Apart cfg l)
    (hs : cfg.step autoExec (autoBody derive) l = some cfg') :
    OneAutoSwap cfg'.state cfg'.threads := by
  cases l with
  | spawn call =>
    cases hs
    exact hn.spawned hderive call
  | restart => exact hin.elim
  | run i env =>
    obtain ⟨op, h, c, k, r, s', hi, hx, rfl⟩ := Config.step_run hs
    obtain ⟨s, ts⟩ := cfg
    have hissuer : op.proc = s.issuer (some c) := hin _ hi
    have hstep : StepApart ⟨s, ts⟩ env ⟨op, h, .cmd c k⟩ (some c) := ha _ hi
    have hsame : ∀ {s' : AutoHub}, s'.rows = s.rows → s'.seq = s.seq → s'.proc = s.proc →
        s'.startedAt = s.startedAt → (s.ctxDone = true → s'.ctxDone = true) → s.Keeps s' := .of_rows
    cases c with
    | newSwapsService proc =>
      cases hx
      exact hn.booted hi hissuer
    | wait ctx =>
      simp only [autoExec] at hx
      split at hx
      · next ht =>
        cases hx
        exact hn.waited hi hissuer fun _ => hstep ht
      · split at hx
        · cases hx
          exact hn.waited hi hissuer nofun
        · cases hx
    | createReverseSwap amountSat destination auto used =>
      simp only [autoExec] at hx
      split at hx
      · cases hx
        refine hn.quiet hi hissuer (.of_map rfl (fun row _ => ?_) rfl rfl rfl fun hd => hd) nofun
          (fun _ hc => hc) nofun nofun
        split
        · refine ⟨rfl, fun hp => ?_, rfl, rfl⟩
          cases of_decide_eq_true (Bool.and_eq_true_iff.1 hp).2
        · exact .refl row
      · cases hx
        exact hn.created hi hissuer
    | listen id c =>
      simp only [autoExec] at hx
      split at hx
      · cases hx
      · next hguard =>
        split at hx
        · cases hx
        · next row hrow =>
          obtain ⟨⟨r', hub⟩, hx', he⟩ := Option.map_eq_some_iff.1 hx
          cases he
          refine hn.listened hi hissuer hrow hx' (fun hc hsignal => ?_) hstep
          cases hd : s.ctxDone with
          | true => rfl
          | false => exact absurd ⟨hc, hsignal, hd⟩ hguard
    | checkAddressHasTransactions address =>
      cases hx
      refine hn.quiet hi hissuer (hsame rfl rfl rfl rfl fun hd => hd) nofun (fun _ hc =>
        hc) nofun ?_
      intro address' he
      injection he with hcmd hanswer
      cases hcmd
      obtain ⟨hf, ha⟩ := AutoEnv.reply_eq_ok hanswer
      exact hstep hf ha
    | setUpdate key value =>
      simp only [autoExec] at hx
      split at hx
      · cases hx
        exact hn.quiet hi hissuer (hsame rfl rfl rfl rfl fun hd => hd) nofun (fun _ hc =>
          hc) nofun nofun
      · cases hx
        exact hn.quiet hi hissuer (hsame rfl rfl rfl rfl fun hd => hd) nofun (fun _ hc =>
          hc) nofun nofun
    | cancelContext =>
      cases hx
      exact hn.quiet hi hissuer (hsame rfl rfl rfl rfl fun _ => rfl) nofun (fun _ hc =>
        hc) nofun nofun
    | _ =>
      cases hx
      exact hn.quiet hi hissuer (hsame rfl rfl rfl rfl fun hd => hd) nofun (fun _ hc =>
        hc) nofun nofun

end OneAutoSwap

/-- A hub before its first process: no calls, at most one pending auto swap, and no address given
twice. Reference: `swaps/swaps_service.go:79 NewSwapsService`. -/
def FreshHub (cfg : AutoPool) : Prop :=
  cfg.threads = [] ∧ cfg.state.startedAt = cfg.state.seq ∧ (cfg.state.rows.map (·.id)).Nodup ∧
    (∀ row ∈ cfg.state.rows, row.id ≤ cfg.state.seq) ∧
    cfg.state.pendingAutoSwaps.length ≤ 1 ∧ cfg.state.xpubAddresses.Nodup

/-- In every run of every sequence of calls whose ticks are apart, at most one auto swap is pending,
and no two auto swaps are given the same derived address. Reference: `swaps/swaps_service.go:146
EnableAutoSwapOut`, `:369 SwapOut`. -/
theorem auto_swap_exclusive {derive : String → Nat → Except String String}
    (hderive : ∀ xpub i, derive xpub i ≠ .ok "") {cfg : AutoPool}
    (hr : Reach autoExec (autoBody derive) FreshHub
      (fun cfg l => InProcess cfg l ∧ Apart cfg l) cfg) :
    cfg.state.pendingAutoSwaps.length ≤ 1 ∧ cfg.state.xpubAddresses.Nodup := by
  have hn : OneAutoSwap cfg.state cfg.threads := by
    refine Reach.induction (P := fun cfg => OneAutoSwap cfg.state cfg.threads) ?_
      (fun cfg l cfg' _ hn ha hs => hn.step hderive ha.1 ha.2 hs) hr
    rintro ⟨s, ts⟩ ⟨rfl, hstarted, hids, hbound, hsingle, haddresses⟩
    refine ⟨nofun, nofun, nofun, hids, hbound, hsingle, nofun, fun _ row hrow => ?_,
      nofun, nofun, nofun, nofun, haddresses, nofun⟩
    left
    have hle : row.id ≤ s.seq := hbound row (List.mem_filter.1 hrow).1
    have heq : s.startedAt = s.seq := hstarted
    show row.id ≤ s.startedAt
    omega
  exact ⟨hn.single, hn.addresses⟩

/-! ## Runs -/

instance decidableInProcess (cfg : AutoPool) : (l : AutoLabel) → Decidable (InProcess cfg l)
  | .spawn _ => isTrue trivial
  | .restart => isFalse id
  | .run i _ =>
    inferInstanceAs (Decidable (∀ t ∈ cfg.threads[i]?, t.op.proc = cfg.state.issuer t.rest.next))

instance decidableStepApart (cfg : AutoPool) (env : AutoEnv) (t : AutoThread) (c : Option AutoCmd) :
    Decidable (StepApart cfg env t c) := by
  unfold StepApart
  split <;> infer_instance

instance decidableApart (cfg : AutoPool) : (l : AutoLabel) → Decidable (Apart cfg l)
  | .spawn _ | .restart => isTrue trivial
  | .run i env =>
    inferInstanceAs (Decidable (∀ t ∈ cfg.threads[i]?, StepApart cfg env t t.rest.next))

/-- The addresses of an xpub, by their path. Reference: `swaps/swaps_service.go:1438
deriveAddressFromXpub`. -/
def pathAddress (xpub : String) (index : Nat) : Except String String :=
  .ok (xpub ++ "/0/" ++ toString index)

/-- Auto swaps of 50000 sat to an xpub are configured. Reference: `api/api.go:1081
EnableAutoSwapOut`. -/
def configuredHub : AutoHub where
  rows := []
  seq := 0
  config
    | .AutoSwapDestinationKey => "xpub"
    | .AutoSwapBalanceThresholdKey => "100000"
    | .AutoSwapAmountKey => "50000"
    | .AutoSwapXpubIndexStart => ""

/-- Reference: none. -/
def pendingLook (cfg : AutoPool) : List (Nat × String) :=
  cfg.state.pendingAutoSwaps.map fun row => (row.id, row.destinationAddress)

/-- Ten commands of `EnableAutoSwapOut`, then the tick up to the creation of the swap. Reference:
`swaps/swaps_service.go:146 EnableAutoSwapOut`. -/
def enablesAndTicks (i : Nat) (swapId : String) : List AutoLabel :=
  List.replicate 10 (.run i { answer := true }) ++
    List.replicate 7 (.run i { tick := true, amountMsat := 200000000, text := swapId })

/-- The swap expires, and the loop creates the next one in its second tick. Reference:
`swaps/swaps_service.go:1368 startSwapOutListener`. -/
def expiresAndTicks : List AutoLabel :=
  [.run 0 {}, .run 0 {},
    .run 0 { swap := { signal := .update { id := "first", status := .swapExpired } } },
    .run 0 {}, .run 0 {}] ++
  List.replicate 5 (.run 0 { tick := true, amountMsat := 200000000 }) ++
  [.run 0 { answer := true }, .run 0 {}, .run 0 { text := "second" }]

/-- Reference: none. -/
def oneByOneRun : List AutoLabel :=
  .spawn ⟨1, .newSwapsService 4⟩ :: .run 0 {} :: enablesAndTicks 0 "first" ++ expiresAndTicks

theorem pathAddress_ne (xpub : String) (index : Nat) : pathAddress xpub index ≠ .ok "" := by
  intro he
  have hlength := congrArg String.length (Except.ok.inj he)
  simp only [String.length_append] at hlength
  have hslash : "/0/".length = 3 := rfl
  have hempty : "".length = 0 := rfl
  omega

theorem configuredHub_fresh : FreshHub ⟨configuredHub, []⟩ :=
  ⟨rfl, rfl, List.nodup_nil, nofun, Nat.zero_le _, List.nodup_nil⟩

/-- A loop that creates two swaps, one after the other. Reference: `swaps/swaps_service.go:184
EnableAutoSwapOut`. -/
theorem auto_swap_exclusive_twice : ∃ cfg : AutoPool,
    pendingLook cfg = [(2, "xpub/0/1")] ∧ cfg.state.xpubAddresses = ["xpub/0/0", "xpub/0/1"] ∧
      cfg.state.pendingAutoSwaps.length ≤ 1 ∧ cfg.state.xpubAddresses.Nodup := by
  have hlook : (Config.run autoExec (autoBody pathAddress) ⟨configuredHub, []⟩ oneByOneRun).map
      (fun cfg => (pendingLook cfg, cfg.state.xpubAddresses)) =
        some ([(2, "xpub/0/1")], ["xpub/0/0", "xpub/0/1"]) := by decide +kernel
  obtain ⟨cfg, hrun, hcfg⟩ := Option.map_eq_some_iff.1 hlook
  have hstart : Reach autoExec (autoBody pathAddress) FreshHub
      (fun cfg l => InProcess cfg l ∧ Apart cfg l) ⟨configuredHub, []⟩ :=
    .start configuredHub_fresh
  obtain ⟨hpending, haddresses⟩ := Prod.mk.inj hcfg
  exact ⟨cfg, hpending, haddresses,
    auto_swap_exclusive pathAddress_ne (hstart.of_run (by decide +kernel) hrun)⟩

/-- The process starts, its loop creates a swap, and while the loop is in the swap's listener the
auto swaps are configured again. Reference: `swaps/swaps_service.go:146 EnableAutoSwapOut`. -/
def reconfigureRun : List AutoLabel :=
  .spawn ⟨1, .newSwapsService 3⟩ :: .run 0 {} :: enablesAndTicks 0 "first" ++
    .spawn ⟨1, .enableAutoSwapOut 3⟩ :: enablesAndTicks 1 "second"

/-- Two auto swaps to the same address are pending. Reference: `swaps/swaps_service.go:146
EnableAutoSwapOut`. -/
theorem auto_swaps_overlap : ∃ cfg : AutoPool,
    Reach autoExec (autoBody pathAddress) FreshHub InProcess cfg ∧
      pendingLook cfg = [(1, "xpub/0/0"), (2, "xpub/0/0")] ∧
      ¬ (cfg.state.pendingAutoSwaps.length ≤ 1 ∧ cfg.state.xpubAddresses.Nodup) := by
  have hlook : (Config.run autoExec (autoBody pathAddress) ⟨configuredHub, []⟩ reconfigureRun).map
      pendingLook = some [(1, "xpub/0/0"), (2, "xpub/0/0")] := by decide +kernel
  obtain ⟨cfg, hrun, hcfg⟩ := Option.map_eq_some_iff.1 hlook
  have hstart : Reach autoExec (autoBody pathAddress) FreshHub InProcess ⟨configuredHub, []⟩ :=
    .start configuredHub_fresh
  refine ⟨cfg, hstart.of_run (by decide +kernel) hrun, hcfg, fun ⟨hone, _⟩ => ?_⟩
  have hlength := congrArg List.length hcfg
  simp only [pendingLook, List.length_map, List.length_cons, List.length_nil] at hlength
  omega

end AlbyHub.AutoSwap
