import AlbyHub.Transactions.WellFormed

/-!
# Each outcome is told once

A row comes into the state settled or failed by a commit, and the call that commits it is handed the
event of it. So over a run the events that were published, with those that calls are about to
publish, are as many as the commits (`Pool.Told`): a commit hands out one event exactly when it
changes the state of the row, and a call publishes what it was handed before it goes on.
-/

namespace AlbyHub

open Go Interaction

/-- The row with the id is in the state. Reference: the column `state` of `db/models.go:66
Transaction`. -/
def Table.Has (t : Table) (state : TransactionState) (id : Nat) : Prop :=
  ∃ r ∈ t.rows, r.id = id ∧ r.state = state

instance Table.decidableHas (t : Table) (state : TransactionState) (id : Nat) :
    Decidable (t.Has state id) := inferInstanceAs (Decidable (∃ r ∈ t.rows, _))

/-- Whether the row comes into the state, as a number. Reference: none. -/
def Table.gained (t t' : Table) (state : TransactionState) (id : Nat) : Nat :=
  if ¬ t.Has state id ∧ t'.Has state id then 1 else 0

/-- How often the row came into the state in a run. Reference: none. -/
def Pool.became (W : World) (state : TransactionState) (id : Nat) : Pool → List PoolLabel → Nat
  | _, [] => 0
  | cfg, l :: labels =>
    match cfg.step (exec W) (body W) l with
    | none => 0
    | some cfg' => cfg.state.db.transactions.gained cfg'.state.db.transactions state id +
        became W state id cfg' labels

/-- How many events tell that the row came into the state. Reference: none. -/
def Pool.told (state : TransactionState) (id : Nat) (cfg : Pool) : Nat :=
  cfg.state.published.countP (Event.tells state id)

/-- How many of these events calls were handed and have not published yet. Reference: none. -/
def Pool.handed (state : TransactionState) (id : Nat) (cfg : Pool) : Nat :=
  (cfg.threads.map fun t => (toPublish t.hist).countP (Event.tells state id)).sum

/-- The states that events tell of. Reference: `transactions/transactions_service.go:1623
afterTransactionSettled`, `:1757 markPaymentFailed`. -/
def TransactionState.IsOutcome (state : TransactionState) : Prop := state = .settled ∨
    state = .failed

section
variable {W : World} {env : Env} {s s' : Hub} {t : Table} {r row : Transaction} {h : History}
variable {state : TransactionState} {id : Nat} {now : Time} {u : Update}

/-! ## What a change of the table gains -/

theorem Table.gained_self : t.gained t state id = 0 := if_neg fun h => h.1 h.2

theorem Table.has_create : (t.create now row).Has state id ↔
    t.Has state id ∨ t.nextId = id ∧ row.state = state := by
  constructor
  · rintro ⟨r, hr, hid, hst⟩
    rcases Table.mem_create.1 hr with hr | rfl
    · exact .inl ⟨r, hr, hid, hst⟩
    · exact .inr ⟨hid, hst⟩
  · rintro (⟨r, hr, hid, hst⟩ | ⟨hid, hst⟩)
    · exact ⟨r, Table.mem_create.2 (.inl hr), hid, hst⟩
    · exact ⟨_, Table.mem_create.2 (.inr rfl), hid, hst⟩

/-- A new row comes into its state. Reference: gorm `Create`. -/
theorem Table.gained_create : t.gained (t.create now row) state id =
    if t.nextId = id ∧ row.state = state then 1 else 0 := by
  refine if_congr ?_ rfl rfl
  rw [has_create]
  constructor
  · rintro ⟨hnot, hhas | hnew⟩
    · exact absurd hhas hnot
    · exact hnew
  · intro hnew
    refine ⟨?_, .inr hnew⟩
    rintro ⟨r, hr, hid, _⟩
    have hlt := t.id_lt r hr
    omega

theorem Table.has_update (hr : r ∈ t.rows) : (t.update r.id u).Has state id ↔
    if r.id = id then (u r).state = state else t.Has state id := by
  by_cases hid : r.id = id
  · rw [if_pos hid]
    constructor
    · rintro ⟨r', hr', hid', hst⟩
      rcases Table.of_mem_update hr' with ⟨_, hne⟩ | ⟨r₀, hr₀, hid₀, rfl⟩
      · exact absurd (hid'.trans hid.symm) hne
      · rwa [Table.eq_of_id hr₀ hr hid₀] at hst
    · intro hst
      exact ⟨u r, Table.mem_update_self hr, by simpa using hid, hst⟩
  · rw [if_neg hid]
    constructor
    · rintro ⟨r', hr', hid', hst⟩
      rcases Table.of_mem_update hr' with ⟨hr', _⟩ | ⟨r₀, _, hid₀, rfl⟩
      · exact ⟨r', hr', hid', hst⟩
      · exact absurd (hid₀.symm.trans ((Update.id u r₀).symm.trans hid')) hid
    · rintro ⟨r', hr', hid', hst⟩
      exact ⟨r', Table.mem_update_of_ne hr' fun he => hid (he.symm.trans hid'), hid', hst⟩

/-- The updated row may come into another state. Reference: gorm `Updates`. -/
theorem Table.gained_update (hr : r ∈ t.rows) : t.gained (t.update r.id u) state id =
    if r.id = id ∧ r.state ≠ state ∧ (u r).state = state then 1 else 0 := by
  refine if_congr ?_ rfl rfl
  rw [has_update hr]
  by_cases hid : r.id = id
  · have hhas : t.Has state id ↔ r.state = state := by
      constructor
      · rintro ⟨r', hr', hid', hst⟩
        rwa [Table.eq_of_id hr' hr (hid'.trans hid.symm)] at hst
      · exact fun hst => ⟨r, hr, hid, hst⟩
    rw [if_pos hid, hhas]
    exact ⟨fun h => ⟨hid, h⟩, fun h => h.2⟩
  · rw [if_neg hid]
    exact ⟨fun h => absurd h.2 h.1, fun h => absurd h.1 hid⟩

/-- The settlement's event tells of its row, and the warnings of none. Reference:
`transactions/transactions_service.go:1622 afterTransactionSettled`. -/
theorem Transaction.SettlementEvents.tells {events : List Event} (hev : r.SettlementEvents events) :
    events.countP (Event.tells state id) = if state = .settled ∧ r.id = id then 1 else 0 := by
  obtain ⟨warnings, rfl, hw⟩ := hev
  have hnone : warnings.countP (Event.tells state id) = 0 := by
    rw [List.countP_eq_zero]
    intro e he
    obtain ⟨_, _, rfl⟩ := hw e he
    simp [Event.tells]
  have hevent : r.settledEvent.tells state id = (state = .settled && r.id = id) := by
    unfold Transaction.settledEvent
    split <;> rfl
  rw [List.countP_cons, hnone, hevent]
  simp

/-- A transaction without an effect on the states of rows, or one that fails. Reference: gorm
`Transaction`. -/
theorem gained_of_transaction {α : Type} {b : TxResult α × List Event} {a : Except Err α}
    (hx : s.transaction env b = some (a, s')) (hok : ∀ x db, b.1 = .ok (x, db) → a = .ok x →
      s.db.transactions.gained db.transactions state id = 0) :
    s.db.transactions.gained s'.db.transactions state id = 0 := by
  rcases Hub.transaction_cases hx with ⟨_, -, rfl⟩ | ⟨_, -, -, rfl⟩ | ⟨x, db, hb, ha, rfl⟩
  · exact Table.gained_self
  · exact Table.gained_self
  · exact hok x db hb ha

theorem gained_create_pending (ho : state.IsOutcome) (hst : row.state = .pending) :
    t.gained (t.create now row) state id = 0 := by
  rw [Table.gained_create, if_neg]
  rintro ⟨_, hs⟩
  rcases ho with rfl | rfl <;> cases hst.symm.trans hs

/-- A settlement. Reference: `transactions/transactions_service.go:1488 markTransactionSettled`. -/
theorem gained_settle {preimage : String} {feeMsat : Nat} {selfPayment : Bool} (hk : t.Knows row)
    (hn : t.select row.settledFilter = []) :
    t.gained (t.update row.id (settleUpdate preimage feeMsat selfPayment now)) state id =
      if state = .settled ∧ row.id = id then 1 else 0 := by
  obtain ⟨r₀, hr₀, hi⟩ := hk
  have hid : r₀.id = row.id := Transaction.id_of_identity hi
  have hst₀ := Table.not_settled_of_select ⟨r₀, hr₀, hi⟩ hn hr₀ hid
  rw [← hid, Table.gained_update hr₀]
  refine if_congr ?_ rfl rfl
  constructor
  · rintro ⟨hid, _, hst⟩
    exact ⟨hst.symm, hid⟩
  · rintro ⟨rfl, hid⟩
    exact ⟨hid, hst₀, rfl⟩

/-- A failure. Reference: `transactions/transactions_service.go:1743 markPaymentFailed`. -/
theorem gained_fail {reason : String} (hr : r ∈ t.rows)
    (hst : r.state = .pending ∨ r.state = .accepted) :
    t.gained (t.update r.id (failUpdate reason now)) state id =
      if state = .failed ∧ r.id = id then 1 else 0 := by
  rw [Table.gained_update hr]
  refine if_congr ?_ rfl rfl
  constructor
  · rintro ⟨hid, _, hst⟩
    exact ⟨hst.symm, hid⟩
  · rintro ⟨rfl, hid⟩
    refine ⟨hid, fun hfailed => ?_, rfl⟩
    rcases hst with hst | hst <;> cases hst.symm.trans hfailed

/-- An acceptance. Reference: `transactions/transactions_service.go:1019
markHoldInvoiceAccepted`. -/
theorem gained_accept {settleDeadline : Nat} {selfPayment : Bool} (ho : state.IsOutcome)
    (hr : r ∈ t.rows) :
    t.gained (t.update r.id (acceptUpdate settleDeadline selfPayment)) state id = 0 := by
  rw [Table.gained_update hr, if_neg]
  rintro ⟨_, _, hst⟩
  rcases ho with rfl | rfl <;> cases hst

/-- An edit of the metadata. Reference: `transactions/transactions_service.go:1421
SetTransactionMetadata`. -/
theorem gained_updateMetadata {rowId : Nat} {metadata : String} :
    t.gained (t.update rowId (metadataUpdate metadata)) state id = 0 := by
  refine if_neg fun h => h.1 ?_
  obtain ⟨r, hr, hid, hst⟩ := h.2
  rcases Table.of_mem_update hr with ⟨hr, _⟩ | ⟨r₀, hr₀, _, rfl⟩
  · exact ⟨r, hr, hid, hst⟩
  · exact ⟨r₀, hr₀, by simpa using hid, hst⟩

/-- A commit hands out the event of each state that a row comes into by it. Reference:
`transactions/transactions_service.go:1467 markTransactionSettled`, `:1521
createSettledTransactionFromNotification`, `:1704 markPaymentFailed`. -/
theorem exec_tells {c : Cmd} {a : c.Ans} (ho : state.IsOutcome)
    (hc : c.Sourced s.db.transactions) (hx : exec W s c env = some (a, s')) :
    s.db.transactions.gained s'.db.transactions state id =
      (handedEvents ⟨c, a⟩).countP (Event.tells state id) := by
  by_cases hw : c.writes = false
  · rw [exec_of_not_writes hw hx, Table.gained_self]
    cases c <;> first | rfl | cases hw
  cases c with
  | publish event =>
    cases hx
    exact Table.gained_self
  | create row =>
    refine gained_of_transaction hx fun x db hb _ => ?_
    obtain ⟨_, _, rfl⟩ := createForTx_ok hb
    exact gained_create_pending ho hc.1
  | sendPaymentTx args =>
    refine gained_of_transaction hx fun x db hb _ => ?_
    obtain ⟨_, _, _, _, rfl⟩ := sendPaymentTx_ok hb
    exact gained_create_pending ho rfl
  | sendKeysendTx row =>
    refine gained_of_transaction hx fun x db hb _ => ?_
    obtain ⟨_, _, _, rfl⟩ := validateAndCreate_ok hb
    exact gained_create_pending ho hc.1
  | markTransactionSettledTx row preimage feeMsat selfPayment =>
    cases a with
    | error e => exact gained_of_transaction hx fun _ _ _ h => nomatch h
    | ok st =>
      obtain ⟨db, hb, rfl⟩ := Hub.transaction_ok hx
      rcases markTransactionSettledTx_ok hb with
        ⟨_, _, _, rfl, rfl⟩ | ⟨hn, _, hst, _, hev, _, ht⟩
      · exact Table.gained_self
      · have hcount : (handedEvents ⟨.markTransactionSettledTx row preimage feeMsat selfPayment,
            .ok st⟩).countP (Event.tells state id) =
            if state = .settled ∧ st.settled.id = id then 1 else 0 := hev.tells
        rw [hcount, ht, gained_settle hc hn, hst, Update.id]
  | createSettledTransactionTx row preimage feeMsat selfPayment =>
    cases a with
    | error e => exact gained_of_transaction hx fun _ _ _ h => nomatch h
    | ok st =>
      obtain ⟨db, hb, rfl⟩ := Hub.transaction_ok hx
      rcases createSettledTransactionTx_ok hb with ⟨_, _, _, rfl, rfl⟩ | ⟨_, _, hst, hev, _, ht⟩
      · exact Table.gained_self
      · have hcount : (handedEvents ⟨.createSettledTransactionTx row preimage feeMsat selfPayment,
            .ok st⟩).countP (Event.tells state id) =
            if state = .settled ∧ st.settled.id = id then 1 else 0 := hev.tells
        rw [hcount, ht, Table.gained_create, hst]
        refine if_congr ?_ rfl rfl
        constructor
        · rintro ⟨hid, hs⟩
          exact ⟨hs.symm, hid⟩
        · rintro ⟨rfl, hid⟩
          exact ⟨hid, rfl⟩
  | markPaymentFailedTx row reason =>
    match a with
    | .error e => exact gained_of_transaction hx fun _ _ _ h => nomatch h
    | .ok (marked, copy) =>
      obtain ⟨db, hb, rfl⟩ := Hub.transaction_ok hx
      obtain ⟨existing, hmem, hid, ⟨_, rfl, rfl, rfl⟩ | ⟨hst, rfl, rfl, rfl⟩⟩ :=
        markPaymentFailedTx_ok hb
      · exact Table.gained_self
      · have hid := Table.Knows.existing_id hc hid
        rw [DB.withTransactions_transactions, ← hid, gained_fail hmem hst, hid]
        simp [handedEvents, Event.tells, List.countP_cons]
  | markHoldInvoiceAcceptedTx paymentRequest paymentHash settleDeadline selfPayment =>
    cases a with
    | error e => exact gained_of_transaction hx fun _ _ _ h => nomatch h
    | ok row =>
      obtain ⟨db, hb, rfl⟩ := Hub.transaction_ok hx
      obtain ⟨r, hmem, _, _, rfl⟩ := markHoldInvoiceAcceptedTx_ok hb
      exact gained_accept ho hmem
  | updateMetadata rowId metadata =>
    refine gained_of_transaction hx fun x db hb _ => ?_
    cases hb
    exact gained_updateMetadata
  | _ => exact absurd rfl hw

/-! ## A step of a call -/

theorem History.Quiet.count {q : Event → Bool} (hq : h.Quiet)
    (hout : ∀ event, q event = true → event.isOutcome = true) : (toPublish h).countP q = 0 := by
  rw [List.countP_eq_zero]
  intro event he ht
  have hn := hq event he
  rw [hout event ht] at hn
  cases hn

/-- A command publishes an event that the call was handed, or is handed new ones. Reference:
none. -/
theorem exec_counted {q : Event → Bool} {c : Cmd} {a : c.Ans}
    (hout : ∀ event, q event = true → event.isOutcome = true) (hc : SourcedBy h c)
    (hp : PromptBy h c) (hx : exec W s c env = some (a, s')) :
    s'.published.countP q + (toPublish (⟨c, a⟩ :: h)).countP q =
      s.published.countP q + (toPublish h).countP q + (handedEvents ⟨c, a⟩).countP q := by
  obtain ⟨events, hpub, ⟨event, rfl, rfl⟩ | ⟨hne, hdenial⟩⟩ := exec_published hx
  · obtain ⟨⟨rest, hrest⟩, _⟩ := hc
    have htail : toPublish (⟨.publish event, a⟩ :: h) = rest := by
      rw [toPublish, hrest]
      rfl
    have hnone : (handedEvents ⟨.publish event, a⟩).countP q = 0 := rfl
    rw [hnone, htail, hrest, hpub, List.countP_append, List.countP_cons, List.countP_cons,
      List.countP_nil]
    omega
  · have hquiet : h.Quiet := by
      cases c <;> first | exact hp | exact hp.1 | exact absurd rfl (hne _)
    have hdenied : events.countP q = 0 := by
      rw [List.countP_eq_zero]
      intro event he ht
      have hd := hdenial event he
      have ho := hout event ht
      revert hd ho
      cases event <;> simp [Event.isDenial, Event.isOutcome]
    rw [toPublish_cons hne, hpub, List.countP_append, hdenied, hquiet.count hout]

/-- A command publishes the event that the call was handed, or is handed one for what it commits.
Reference: none. -/
theorem exec_told {c : Cmd} {a : c.Ans} (ho : state.IsOutcome)
    (hk : ∀ call ∈ h, KnownRows call s) (hc : SourcedBy h c) (hp : PromptBy h c)
    (hx : exec W s c env = some (a, s')) :
    s'.published.countP (Event.tells state id) +
        (toPublish (⟨c, a⟩ :: h)).countP (Event.tells state id) =
      s.published.countP (Event.tells state id) + (toPublish h).countP (Event.tells state id) +
        s.db.transactions.gained s'.db.transactions state id := by
  rw [exec_counted (fun _ => Event.isOutcome_of_tells) hc hp hx]
  exact congrArg _ (exec_tells ho (hc.sourced hk) hx).symm

/-- A call that does not publish next has published what it was handed. Reference: none. -/
theorem quiet_of_next {t : Interaction.Thread Cmd Cmd.Ans Op Result}
    (hf : Follows (fun h c => SourcedBy h c ∧ PromptBy h c) (fun h _ => History.Quiet h) t.hist
      t.rest) (hnot : ∀ event, t.rest.next ≠ some (.publish event)) : History.Quiet t.hist := by
  cases hrest : t.rest with
  | ret a =>
    rw [hrest] at hf
    exact hf
  | cmd c k =>
    rw [hrest] at hf hnot
    have hp := hf.1.2
    cases c <;> first | exact hp | exact hp.1 | exact absurd rfl (hnot _)

/-- A step of the hub that is not a restart. Reference: none. -/
theorem Pool.step_told {cfg cfg' : Pool} {l : PoolLabel} (ho : state.IsOutcome)
    (hd : cfg.Disciplined (fun _ h c => SourcedBy h c ∧ PromptBy h c) (fun _ h _ => History.Quiet h)
      (fun _ => True) (fun _ => KnownRows))
    (hl : l ≠ .restart) (hs : cfg.step (exec W) (body W) l = some cfg') :
    cfg'.told state id + cfg'.handed state id = cfg.told state id + cfg.handed state id +
      cfg.state.db.transactions.gained cfg'.state.db.transactions state id := by
  cases l with
  | spawn op =>
    cases hs
    simp [Pool.told, Pool.handed, Table.gained_self, toPublish]
  | run i e =>
    obtain ⟨op, h, c, k, r, s, hi, hx, rfl⟩ := Config.step_run hs
    obtain ⟨hc, hp⟩ := hd.issues hi
    have hstep : s.published.countP (Event.tells state id) +
        (toPublish (⟨c, r⟩ :: h)).countP (Event.tells state id) =
          cfg.state.published.countP (Event.tells state id) +
            (toPublish h).countP (Event.tells state id) +
            cfg.state.db.transactions.gained s.db.transactions state id :=
      exec_told ho (hd.known _ (List.mem_of_getElem? hi)) hc hp hx
    have hsum : Pool.handed state id ⟨s, cfg.threads.set i ⟨op, ⟨c, r⟩ :: h, k r⟩⟩ +
        (toPublish h).countP (Event.tells state id) = cfg.handed state id +
          (toPublish (⟨c, r⟩ :: h)).countP (Event.tells state id) :=
      Config.sum_set (fun t => (toPublish t.hist).countP (Event.tells state id)) hi
    unfold Pool.told
    dsimp only at hstep ⊢
    omega
  | restart => exact absurd rfl hl

/-- Over a run without a restart the events match the commits, up to those that calls are about to
publish. Reference: none. -/
theorem Pool.run_told {cfg cfg' : Pool} {labels : List PoolLabel} (ho : state.IsOutcome)
    (hd : cfg.Disciplined (fun _ h c => SourcedBy h c ∧ PromptBy h c) (fun _ h _ => History.Quiet h)
      (fun _ => True) (fun _ => KnownRows))
    (hl : .restart ∉ labels) (hr : cfg.run (exec W) (body W) labels = some cfg') :
    cfg'.told state id + cfg'.handed state id =
        cfg.told state id + cfg.handed state id + cfg.became W state id labels ∧
      cfg'.Disciplined (fun _ h c => SourcedBy h c ∧ PromptBy h c) (fun _ h _ => History.Quiet h)
        (fun _ => True) (fun _ => KnownRows) := by
  induction labels generalizing cfg with
  | nil =>
    cases hr
    exact ⟨rfl, hd⟩
  | cons l labels ih =>
    obtain ⟨cfg₁, hs, hr⟩ := Option.bind_eq_some_iff.1 hr
    have hsound := @sound_of_prompt W anyStep (fun _ => True) fun _ _ _ _ _ => trivial
    have hstep : Pool.told state id cfg₁ + Pool.handed state id cfg₁ =
        cfg.told state id + cfg.handed state id +
          cfg.state.db.transactions.gained cfg₁.state.db.transactions state id :=
      Pool.step_told ho hd (fun he => hl (he ▸ List.mem_cons_self)) hs
    obtain ⟨hrest, hd'⟩ := ih (hd.step hsound trivial hs)
      (fun hmem => hl (List.mem_cons_of_mem _ hmem)) hr
    refine ⟨?_, hd'⟩
    have hbecame : cfg.became W state id (l :: labels) =
        cfg.state.db.transactions.gained cfg₁.state.db.transactions state id +
          Pool.became W state id cfg₁ labels := by
      rw [Pool.became, hs]
    omega

/-! ## Over a run -/

/-- A commit that found the work done: the row of the payment is settled, or the row to fail is
failed or settled; or the database transaction failed. Reference:
`transactions/transactions_service.go:1482 markTransactionSettled`, `:1540
createSettledTransactionFromNotification`, `:1734 markPaymentFailed`. -/
def IdleCommit (t : Table) : Call Cmd Cmd.Ans → Prop
  | ⟨.markTransactionSettledTx row _ _ _, a⟩ => t.select row.settledFilter ≠ [] ∨ ∃ e, a = .error e
  | ⟨.createSettledTransactionTx row _ _ _, a⟩ => t.select row.settledFilter ≠ [] ∨ ∃ e,
    a = .error e
  | ⟨.markPaymentFailedTx row _, a⟩ =>
    t.Has .failed row.id ∨ t.Has .settled row.id ∨ ∃ e, a = .error e
  | _ => False

/-- A database transaction that fails changes nothing. Reference: gorm `Transaction`. -/
theorem Hub.transaction_failed {α : Type} {b : TxResult α} {e : Err}
    (hx : s.transaction env (b, []) = some (.error e, s')) : s' = s := by
  rcases Hub.transaction_cases hx with ⟨_, -, rfl⟩ | ⟨_, -, -, rfl⟩ | ⟨_, _, -, ha, -⟩
  · rfl
  · simp
  · cases ha

/-- Such a commit changes nothing and hands out nothing. Reference:
`transactions/transactions_service.go:1467 markTransactionSettled`, `:1521
createSettledTransactionFromNotification`, `:1704 markPaymentFailed`. -/
theorem exec_idle {c : Cmd} {a : c.Ans} (hc : c.Sourced s.db.transactions)
    (hx : exec W s c env = some (a, s')) (hidle : IdleCommit s.db.transactions ⟨c, a⟩) :
    s' = s ∧ handedEvents ⟨c, a⟩ = [] := by
  have hsame : ∀ {db : DB}, db = s.db → (⟨db, s.published ++ []⟩ : Hub) = s := by
    rintro _ rfl
    rw [List.append_nil]
  cases c with
  | markTransactionSettledTx row preimage feeMsat selfPayment =>
    cases a with
    | error e => exact ⟨Hub.transaction_failed hx, rfl⟩
    | ok st =>
      have hfound : s.db.transactions.select row.settledFilter ≠ [] := by
        rcases hidle with hfound | ⟨_, he⟩
        · exact hfound
        · cases he
      obtain ⟨db, hb, rfl⟩ := Hub.transaction_ok hx
      rcases markTransactionSettledTx_ok hb with ⟨_, _, _, rfl, hdb⟩ | ⟨hn, _⟩
      · exact ⟨hsame hdb, rfl⟩
      · exact absurd hn hfound
  | createSettledTransactionTx row preimage feeMsat selfPayment =>
    cases a with
    | error e => exact ⟨Hub.transaction_failed hx, rfl⟩
    | ok st =>
      have hfound : s.db.transactions.select row.settledFilter ≠ [] := by
        rcases hidle with hfound | ⟨_, he⟩
        · exact hfound
        · cases he
      obtain ⟨db, hb, rfl⟩ := Hub.transaction_ok hx
      rcases createSettledTransactionTx_ok hb with ⟨_, _, _, rfl, hdb⟩ | ⟨hn, _⟩
      · exact ⟨hsame hdb, rfl⟩
      · exact absurd hn hfound
  | markPaymentFailedTx row reason =>
    match a with
    | .error e => exact ⟨Hub.transaction_failed hx, rfl⟩
    | .ok (marked, copy) =>
      obtain ⟨db, hb, rfl⟩ := Hub.transaction_ok hx
      obtain ⟨existing, hmem, hid, ⟨_, rfl, rfl, hdb⟩ | ⟨hst, _⟩⟩ := markPaymentFailedTx_ok hb
      · exact ⟨hsame hdb, rfl⟩
      · -- the row that was found is neither failed nor settled
        have hid := Table.Knows.existing_id hc hid
        have hne : ∀ {state}, s.db.transactions.Has state row.id → existing.state = state := by
          rintro state ⟨r, hr, hrid, hrst⟩
          rwa [Table.eq_of_id hr hmem (hrid.trans hid.symm)] at hrst
        rcases hidle with hfailed | hsettled | ⟨_, he⟩
        · rcases hst with hst | hst <;> cases hst.symm.trans (hne hfailed)
        · rcases hst with hst | hst <;> cases hst.symm.trans (hne hsettled)
        · cases he
  | _ => exact hidle.elim

/-- In every run the events that tell that a row was settled, or that it failed, are at most as many
as the commits by which it came into that state, and exactly as many when no call is about to
publish. A commit that finds the work done or fails changes nothing, and the call is handed nothing
to publish. Reference: `transactions/transactions_service.go:1467 markTransactionSettled`, `:1521
createSettledTransactionFromNotification`, `:1704 markPaymentFailed`. -/
theorem outcomes_told_once (W : World) {cfg₀ cfg : Pool} {labels : List PoolLabel}
    (h0 : Fresh (fun _ => True) cfg₀) (hl : .restart ∉ labels)
    (hr : cfg₀.run (exec W) (body W) labels = some cfg) :
    (∀ state, state = .settled ∨ state = .failed → ∀ id,
      cfg.told state id ≤ cfg₀.became W state id labels ∧
        ((∀ t ∈ cfg.threads, ∀ event, t.rest.next ≠ some (.publish event)) →
          cfg.told state id = cfg₀.became W state id labels)) ∧
      ∀ (i : Nat) (op : Op) (h : History) (c : Cmd) (k : c.Ans → Svc Result) (env : Env) (a : c.Ans)
        (s' : Hub), cfg.threads[i]? = some ⟨op, h, .cmd c k⟩ →
        exec W cfg.state c env = some (a, s') → IdleCommit cfg.state.db.transactions ⟨c, a⟩ →
          s' = cfg.state ∧ toPublish (⟨c, a⟩ :: h) = [] := by
  have hd₀ : cfg₀.Disciplined (fun _ h c => SourcedBy h c ∧ PromptBy h c)
      (fun _ h _ => History.Quiet h) (fun _ => True) (fun _ => KnownRows) :=
    ⟨trivial, by simp [h0.2.2], by simp [h0.2.2], by simp [h0.2.2]⟩
  have hstart : ∀ state id, cfg₀.told state id = 0 ∧ cfg₀.handed state id = 0 := by
    intro state id
    simp [Pool.told, Pool.handed, h0.2.1, h0.2.2]
  refine ⟨fun state ho id => ?_, fun i op h c k env a s' hi hx hidle => ?_⟩
  · obtain ⟨hcount, hd⟩ : cfg.told state id + cfg.handed state id = cfg₀.told state id +
        cfg₀.handed state id + cfg₀.became W state id labels ∧ _ :=
      Pool.run_told ho hd₀ hl hr
    obtain ⟨htold₀, hhanded₀⟩ := hstart state id
    refine ⟨by omega, fun hnext => ?_⟩
    -- a call that does not publish next was handed nothing that it has not published
    have hquiet : ∀ t ∈ cfg.threads, History.Quiet t.hist := fun t ht =>
      quiet_of_next (hd.follows t ht) (hnext t ht)
    have hhanded : cfg.handed state id = 0 := by
      unfold Pool.handed
      rw [List.sum_eq_zero_iff_forall_eq_nat]
      intro n hn
      obtain ⟨t, ht, rfl⟩ := List.mem_map.1 hn
      exact (hquiet t ht).count fun _ => Event.isOutcome_of_tells
    omega
  · obtain ⟨_, hd⟩ : cfg.told .settled 0 + cfg.handed .settled 0 = cfg₀.told .settled 0 +
        cfg₀.handed .settled 0 + cfg₀.became W .settled 0 labels ∧ _ :=
      Pool.run_told (.inl rfl) hd₀ hl hr
    have hmem := List.mem_of_getElem? hi
    have hsourced := (hd.issues hi).1.sourced (hd.known _ hmem)
    obtain ⟨hs, hnone⟩ := exec_idle hsourced hx hidle
    refine ⟨hs, ?_⟩
    rw [toPublish_cons, hnone]
    rintro event rfl
    exact hidle

end

theorem outcomes_told_once_keysend :
    ∃ cfg : Pool, (demoPool .empty).run (exec demo) (body demo) (demoKeysendRun 0) = some cfg ∧
      (demoPool .empty).became demo .settled 1 (demoKeysendRun 0) = 1 ∧
        cfg.told .settled 1 ≤ (demoPool .empty).became demo .settled 1 (demoKeysendRun 0) := by
  have hrun : ((demoPool .empty).run (exec demo) (body demo) (demoKeysendRun 0)).isSome = true := by
    decide +kernel
  obtain ⟨cfg, hcfg⟩ := Option.isSome_iff_exists.1 hrun
  have hlabels : (.restart : PoolLabel) ∉ demoKeysendRun 0 := by
    intro hmem
    unfold demoKeysendRun steps at hmem
    simp at hmem
  obtain ⟨hcount, _⟩ := outcomes_told_once demo ⟨trivial, rfl, rfl⟩ hlabels hcfg
  exact ⟨cfg, hcfg, by decide +kernel, (hcount .settled (.inl rfl) 1).1⟩

end AlbyHub
