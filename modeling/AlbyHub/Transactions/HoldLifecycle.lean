import AlbyHub.Transactions.HoldActions
import AlbyHub.Transactions.Sourced

/-!
# The life of a hold invoice

A hold invoice that is paid from the own node is accepted by its payer, who waits, and then settled
or canceled by calls that race. Each of them finds the accepted row and changes it in a later
transaction. A cancellation looks at the row again there, a settlement does not, so that it can
follow a cancellation (`settled_after_cancellation`). Where none does (`Unraced`), the row moves as
it should, its end is published at most once, and the payer learns that end
(`hold_invoice_lifecycle`).
-/

namespace AlbyHub

open Go Interaction

/-- The moves of a hold invoice. Reference: `transactions/transactions_service.go:993
markHoldInvoiceAccepted`, `:1306 SettleHoldInvoice`, `:1354 CancelHoldInvoice`. -/
inductive TransactionState.MovesTo : TransactionState → TransactionState → Prop
  | stay {state : TransactionState} : MovesTo state state
  | accept : MovesTo .pending .accepted
  | settle : MovesTo .accepted .settled
  | cancel : MovesTo .accepted .failed

/-- A call on a hold invoice. Reference: `transactions/transactions_service.go:993
markHoldInvoiceAccepted`, `:1095 interceptSelfHoldPayment`, `:1306 SettleHoldInvoice`, `:1354
CancelHoldInvoice`. -/
inductive HoldOp where
  | markHoldInvoiceAccepted (paymentRequest paymentHash : String) (settleDeadline : Nat)
      (selfPayment : Bool)
  | settleHoldInvoice (preimage : String)
  | cancelHoldInvoice (paymentHash : String)
  | interceptSelfHoldPayment (paymentRequest paymentHash : String)

/-- The answer to a payer. Reference: `transactions/transactions_service.go:1095
interceptSelfHoldPayment`. -/
abbrev HoldResult := Option (Except Err PayInvoiceResponse)

/-- Reference: the functions of `HoldOp`. -/
def holdBody (W : World) : HoldOp → Svc HoldResult
  | .markHoldInvoiceAccepted paymentRequest paymentHash settleDeadline selfPayment => do
    markHoldInvoiceAccepted paymentRequest paymentHash settleDeadline selfPayment
    return none
  | .settleHoldInvoice preimage => do
    let _ ← SettleHoldInvoice W preimage
    return none
  | .cancelHoldInvoice paymentHash => do
    let _ ← CancelHoldInvoice paymentHash
    return none
  | .interceptSelfHoldPayment paymentRequest paymentHash => do
    return some (← interceptSelfHoldPayment paymentRequest paymentHash)

/-- The hub with the calls. Reference: none. -/
abbrev HoldPool := Config Hub Cmd Cmd.Ans HoldOp HoldResult

/-- Reference: none. -/
abbrev HoldLabel := Label HoldOp Env

/-- Reference: none. -/
abbrev HoldRun (W : World) (init : HoldPool → Prop) (allowed : HoldPool → HoldLabel → Prop) :
    HoldPool → Prop := Reach (exec W) (holdBody W) init allowed

instance Table.decidableAt (t : Table) (id : Nat) (p : Transaction → Prop) [DecidablePred p] :
    Decidable (t.At id p) := inferInstanceAs (Decidable (∃ r ∈ t.rows, _))

/-- The command settles the row. Reference: `transactions/transactions_service.go:1470
markTransactionSettled`. -/
def Cmd.settles (id : Nat) : Cmd → Bool
  | .markTransactionSettledTx row _ _ _ => row.id = id
  | _ => false

/-- The row is not settled after it was canceled. Reference:
`transactions/transactions_service.go:1341 SettleHoldInvoice`. -/
def Unraced (id : Nat) (cfg : HoldPool) : HoldLabel → Prop
  | .run i _ => ∀ t ∈ cfg.threads[i]?, ∀ c ∈ t.rest.next, c.settles id = true →
    ¬ cfg.state.db.transactions.At id (·.state = .failed)
  | _ => True

instance (id : Nat) (cfg : HoldPool) (l : HoldLabel) : Decidable (Unraced id cfg l) := by
  induction l using Label.casesOn with
  | run i env => exact inferInstanceAs (Decidable (∀ t ∈ cfg.threads[i]?, _))
  | spawn op => exact isTrue trivial
  | restart => exact isTrue trivial

/-- The row is the only incoming one of its invoice. Reference:
`transactions/transactions_service.go:247 MakeHoldInvoice`. -/
structure Table.HoldInvoice (t : Table) (id : Nat) (invoice : String) : Prop where
  row : t.At id fun r => r.type = .incoming ∧ r.paymentRequest = invoice
  only : ∀ r ∈ t.rows, r.type = .incoming → r.paymentRequest = invoice → r.id = id

/-- Whether the event tells a payer of the invoice how it ended. Reference:
`transactions/hold_invoice_self_payment_consumer.go:24 ConsumeEvent`. -/
def Event.concludes (invoice : String) (e : Event) : Bool := (holdUpdate invoice e).isSome

/-- The invoice is pending, and nothing was published of its end. Reference:
`transactions/transactions_service.go:247 MakeHoldInvoice`. -/
structure HoldStart (id : Nat) (invoice : String) (cfg : HoldPool) : Prop where
  holds : cfg.state.db.transactions.HoldInvoice id invoice
  pending : cfg.state.db.transactions.At id (·.state = .pending)
  quiet : ∀ e ∈ cfg.state.published, e.concludes invoice = false
  idle : cfg.threads = []

/-- The row has ended as the update says. Reference:
`transactions/hold_invoice_self_payment_consumer.go:24 ConsumeEvent`. -/
def Table.Concluded (t : Table) (id : Nat) : HoldUpdate → Prop
  | .settled row => ∃ preimage, row.preimage = some preimage ∧
    t.At id fun r => r.state = .settled ∧ r.preimage = some preimage
  | .canceled _ => t.At id (·.state = .failed)

/-- A response to the payer that agrees with the row. Reference:
`transactions/transactions_service.go:1113 interceptSelfHoldPayment`. -/
inductive Table.Agrees (t : Table) (id : Nat) : Except Err PayInvoiceResponse → Prop
  | settled {preimage : String} :
    (t.At id fun r => r.state = .settled ∧ r.preimage = some preimage) →
    Agrees t id (.ok ⟨preimage, 0⟩)
  | canceled : t.At id (·.state = .failed) → Agrees t id (.error .holdInvoiceCanceled)

/-- The row moves as a hold invoice should. Reference: none. -/
def Table.Moves (id : Nat) (t t' : Table) : Prop :=
  ∀ r ∈ t.rows, r.id = id → ∃ r' ∈ t'.rows, r'.id = id ∧ r.state.MovesTo r'.state

/-- The end of the invoice is published at most once and as it is, and each payer that has received
an update returns what agrees with it. Reference: none. -/
structure HoldPool.Concludes (id : Nat) (invoice : String) (cfg : HoldPool) : Prop where
  once : cfg.state.published.countP (Event.concludes invoice) ≤ 1
  published : ∀ e ∈ cfg.state.published, ∀ update, holdUpdate invoice e = some update →
    cfg.state.db.transactions.Concluded id update
  payers : ∀ t ∈ cfg.threads, ∀ paymentHash response,
    t.op = .interceptSelfHoldPayment invoice paymentHash → t.rest = .ret (some response) →
    (∃ since update, Did t.hist (.receiveHoldUpdate since invoice) update) →
    cfg.state.db.transactions.Agrees id response

/-! ## The calls -/

/-- The call has found the row accepted. Reference: `transactions/transactions_service.go:1319
SettleHoldInvoice`, `:1357 CancelHoldInvoice`. -/
def History.Held (h : History) (row : Transaction) : Prop :=
  ∃ paymentHash, Did h (.find
    { type := some .incoming, state := some .accepted, paymentHash } .none) (.ok (some row))

/-- The calls settle and fail what they have found accepted, publish what they were handed, and
write nothing else. Reference: the functions of `HoldOp`. -/
def HeldBy (h : History) : Cmd → Prop
  | .markTransactionSettledTx row _ _ _ | .markPaymentFailedTx row _ => h.Held row
  | .publish event => ∃ events, toPublish h = event :: events
  | .create _ | .sendPaymentTx _ | .sendKeysendTx _ | .createSettledTransactionTx _ _ _ _
  | .updateMetadata _ _ => False
  | _ => True

/-- The call has received no update yet. Reference: none. -/
def History.Waits (h : History) : Prop :=
  ∀ since invoice update, ¬ Did h (.receiveHoldUpdate since invoice) update

/-- What the response says of the update. Reference: `transactions/transactions_service.go:1113
interceptSelfHoldPayment`. -/
def HoldUpdate.Says (response : Except Err PayInvoiceResponse) : HoldUpdate → Prop
  | .settled row => ∀ preimage, row.preimage = some preimage → response = .ok ⟨preimage, 0⟩
  | .canceled _ => response = .error .holdInvoiceCanceled

/-- The response is what the update says. Reference: `transactions/transactions_service.go:1113
interceptSelfHoldPayment`. -/
def Heeds (paymentRequest : String) (h : History) (response : Except Err PayInvoiceResponse) :
    Prop :=
  ∀ since invoice update, Did h (.receiveHoldUpdate since invoice) update →
    invoice = paymentRequest ∧ update.Says response

/-- A payer returns a response that is what it was told. Reference:
`transactions/transactions_service.go:1095 interceptSelfHoldPayment`. -/
def Responds (op : HoldOp) (h : History) (r : HoldResult) : Prop :=
  ∀ paymentRequest paymentHash, op = .interceptSelfHoldPayment paymentRequest paymentHash →
    ∀ response, r = some response → Heeds paymentRequest h response

section
variable {W : World} {h : History} {c : Cmd} {a : c.Ans} {paymentRequest paymentHash : String}

theorem heldBy_lenient : Lenient HeldBy where
  read h c hc _ := by cases c <;> trivial
  publish _ _ events he _ := ⟨events, he⟩

theorem History.Waits.cons (hw : h.Waits)
    (hc : ∀ since invoice, c ≠ .receiveHoldUpdate since invoice) :
    History.Waits (⟨c, a⟩ :: h) := by
  intro since invoice update hd
  rcases List.mem_cons.1 hd with he | hd
  · exact hc since invoice (congrArg Call.cmd he).symm
  · exact hw since invoice update hd

theorem History.Waits.heeds {response : Except Err PayInvoiceResponse} (hw : h.Waits) :
    Heeds paymentRequest h response :=
  fun since invoice update hd => absurd hd (hw since invoice update)

theorem waits_markHoldInvoiceAccepted {settleDeadline : Nat} {selfPayment : Bool} (hw : h.Waits) :
    Follows HeldBy (fun h' _ => History.Waits h') h
      (markHoldInvoiceAccepted paymentRequest paymentHash settleDeadline selfPayment) := by
  refine .call trivial fun r => ?_
  cases r with
  | error e => exact hw.cons fun _ _ => Cmd.noConfusion
  | ok row =>
    refine ⟨⟨[], rfl⟩, fun _ => ?_⟩
    exact (hw.cons fun _ _ => Cmd.noConfusion).cons fun _ _ => Cmd.noConfusion

/-- A payer returns what the update says that it has received. Reference:
`transactions/transactions_service.go:1095 interceptSelfHoldPayment`. -/
theorem heeds_interceptSelfHoldPayment :
    Follows HeldBy (Heeds paymentRequest) []
      (interceptSelfHoldPayment paymentRequest paymentHash) := by
  have hw : History.Waits [] := fun _ _ _ hd => absurd hd List.not_mem_nil
  refine .call trivial fun since => .call trivial fun info => ?_
  have hw₁ := hw.cons (c := .registerSubscriber) (a := since) fun _ _ => Cmd.noConfusion
  have hw₂ := hw₁.cons (c := .lnGetInfo) (a := info) fun _ _ => Cmd.noConfusion
  cases info with
  | error e => exact hw₂.heeds
  | ok blockHeight =>
    simp only
    split
    · exact hw₂.heeds
    · refine (waits_markHoldInvoiceAccepted hw₂).bind fun h' _ _ hw' =>
        .call trivial fun update => ?_
      -- the update is the only one that the call has received
      have only : ∀ {response : Except Err PayInvoiceResponse}, update.Says response →
          Heeds paymentRequest (⟨.receiveHoldUpdate since paymentRequest, update⟩ :: h')
            response := by
        intro response hsaid since' invoice update' hd
        rcases List.mem_cons.1 hd with he | hd
        · cases he
          exact ⟨rfl, hsaid⟩
        · exact absurd hd (hw' since' invoice update')
      cases update with
      | canceled row => exact only rfl
      | settled row =>
        cases hpre : row.preimage with
        | none =>
          simp only [hpre]
          refine only fun preimage hp => ?_
          rw [hpre] at hp
          cases hp
        | some preimage =>
          simp only [hpre]
          refine only fun preimage' hp => ?_
          rw [hpre] at hp
          cases hp
          rfl

theorem holdBody_follows (op : HoldOp) : Follows HeldBy (Responds op) [] (holdBody W op) := by
  cases op with
  | markHoldInvoiceAccepted =>
    refine (follows_markHoldInvoiceAccepted heldBy_lenient trivial).bind fun _ _ _ _ => ?_
    exact fun _ _ => HoldOp.noConfusion
  | settleHoldInvoice =>
    refine (follows_settleHoldInvoice heldBy_lenient fun _ _ _ _ hd => ⟨_, hd⟩).bind
      fun _ _ _ _ => ?_
    exact fun _ _ => HoldOp.noConfusion
  | cancelHoldInvoice =>
    refine (follows_cancelHoldInvoice heldBy_lenient (fun _ _ hd => ⟨_, hd⟩)
      fun _ _ _ _ _ hmore => ⟨[], hmore⟩).bind fun _ _ _ _ => ?_
    exact fun _ _ => HoldOp.noConfusion
  | interceptSelfHoldPayment =>
    refine heeds_interceptSelfHoldPayment.bind fun h' response _ hheeds => ?_
    rintro _ _ ⟨⟩ _ ⟨⟩
    exact hheeds

end

/-! ## The row -/

/-- What the answer to a call says from then on. Reference: none. -/
structure Learned (id : Nat) (invoice : String) (call : Call Cmd Cmd.Ans) (s : Hub) : Prop where
  rows : KnownRows call s
  truthful : Truthful call
  begun : ∀ row ∈ answeredRows call, row.state ≠ .pending →
    s.db.transactions.At row.id (·.state ≠ .pending)
  handed : ∀ e ∈ handedEvents call, ∀ update, holdUpdate invoice e = some update →
    s.db.transactions.Concluded id update
  update : ∀ since update, call = ⟨.receiveHoldUpdate since invoice, update⟩ →
    s.db.transactions.Concluded id update

section
variable {W : World} {s s' : Hub} {env : Env} {h : History} {c : Cmd} {a : c.Ans}
variable {id : Nat} {invoice : String} {t t' : Table} {r row : Transaction}
variable {p : Transaction → Prop}

theorem Table.At.of_mem (ha : t.At id p) (hr : r ∈ t.rows) (hid : r.id = id) : p r := by
  obtain ⟨r', hr', hid', hp⟩ := ha
  rwa [Table.eq_of_id hr hr' (hid.trans hid'.symm)]

/-- A row that a call has found accepted is an incoming one that is not pending. Reference:
`transactions/transactions_service.go:1319 SettleHoldInvoice`. -/
theorem History.Held.known (hh : h.Held row) (hk : ∀ call ∈ h, Learned id invoice call s) :
    s.db.transactions.Knows row ∧ row.type = .incoming ∧
      s.db.transactions.At row.id (·.state ≠ .pending) := by
  obtain ⟨paymentHash, hd⟩ := hh
  have hl := hk _ hd
  have hrow : row ∈ answeredRows ⟨.find { type := some .incoming, state := some .accepted
                                          paymentHash } .none, .ok (some row)⟩ :=
    List.mem_singleton.2 rfl
  obtain ⟨-, htype, hstate, -⟩ := (hl.truthful : Where.Matches _ row)
  have htype : row.type = .incoming := by simpa [eq_comm] using htype
  have hstate : row.state = .accepted := by simpa [eq_comm] using hstate
  refine ⟨hl.rows row hrow, htype, hl.begun row hrow ?_⟩
  rw [hstate]
  exact TransactionState.noConfusion

theorem HeldBy.sourced (hc : HeldBy h c) (hk : ∀ call ∈ h, Learned id invoice call s) :
    c.Sourced s.db.transactions := by
  cases c with
  | markTransactionSettledTx => exact (History.Held.known hc hk).1
  | markPaymentFailedTx => exact (History.Held.known hc hk).1
  | create | sendKeysendTx => exact hc.elim
  | _ => trivial

/-- A step of a call moves the row, and keeps it once it has ended. Reference: none. -/
theorem exec_moves (hx : exec W s c env = some (a, s')) (hc : HeldBy h c)
    (hk : ∀ call ∈ h, Learned id invoice call s)
    (hraced : c.settles id = true → ¬ s.db.transactions.At id (·.state = .failed))
    (hr : r ∈ s.db.transactions.rows) (hid : r.id = id) :
    ∃ r' ∈ s'.db.transactions.rows, r'.id = id ∧ r.state.MovesTo r'.state ∧
      (r.state = .settled ∨ r.state = .failed → r' = r) := by
  have of_update : ∀ {n : Nat} {u : Update}, (r.id = n → r.state.MovesTo (u r).state ∧
      r.state ≠ .settled ∧ r.state ≠ .failed) →
      ∃ r' ∈ (s.db.transactions.update n u).rows, r'.id = id ∧ r.state.MovesTo r'.state ∧
        (r.state = .settled ∨ r.state = .failed → r' = r) := by
    intro n u hu
    by_cases hn : r.id = n
    · subst hn
      obtain ⟨hmove, hsettled, hfailed⟩ := hu rfl
      refine ⟨u r, Table.mem_update_self hr, by simpa using hid, hmove, fun hend => ?_⟩
      exact (hend.elim hsettled hfailed).elim
    · exact ⟨r, Table.mem_update_of_ne hr hn, hid, .stay, fun _ => rfl⟩
  have hsourced := hc.sourced hk
  generalize s'.db.transactions = t', exec_effect hx = he
  cases he with
  | same => exact ⟨r, hr, hid, .stay, fun _ => rfl⟩
  | create | sendPayment | sendKeysend | createSettled | updateMetadata => exact hc.elim
  | @settle row preimage feeMsat selfPayment hn =>
    refine of_update fun hrow => ?_
    have hbegun := (History.Held.known hc hk).2.2.of_mem hr hrow
    have hsettled := Table.not_settled_of_select hsourced hn hr hrow
    have hfailed : r.state ≠ .failed :=
      fun hst => hraced (decide_eq_true (hrow.symm.trans hid)) ⟨r, hr, hid, hst⟩
    refine ⟨?_, hsettled, hfailed⟩
    cases hst : r.state with
    | pending => exact absurd hst hbegun
    | accepted => exact .settle
    | settled => exact absurd hst hsettled
    | failed => exact absurd hst hfailed
  | @fail row existing reason hmem hex hst =>
    refine of_update fun hrow => ?_
    have hbegun := (History.Held.known hc hk).2.2.of_mem hr hrow
    rw [← Table.eq_of_id hr hmem (hrow.trans (hsourced.existing_id hex).symm)] at hst
    rcases hst with hst | hst
    · exact absurd hst hbegun
    · rw [hst]
      exact ⟨.cancel, TransactionState.noConfusion, TransactionState.noConfusion⟩
  | accept hr₀ hacc =>
    refine of_update fun hrow => ?_
    rw [Table.eq_of_id hr hr₀ hrow, hacc.2.2.2]
    exact ⟨.accept, TransactionState.noConfusion, TransactionState.noConfusion⟩

/-- What holds of the row after a step that it held of when it had ended. Reference: none. -/
theorem Table.Concluded.kept {update : HoldUpdate}
    (hkept : ∀ r ∈ t.rows, r.id = id → r.state = .settled ∨ r.state = .failed → r ∈ t'.rows)
    (hu : t.Concluded id update) : t'.Concluded id update := by
  cases update with
  | settled row =>
    obtain ⟨preimage, hpre, r, hr, hid, hst, hp⟩ := hu
    exact ⟨preimage, hpre, r, hkept r hr hid (.inl hst), hid, hst, hp⟩
  | canceled row =>
    obtain ⟨r, hr, hid, hst⟩ := hu
    exact ⟨r, hkept r hr hid (.inr hst), hid, hst⟩

/-- The row of an incoming copy of the invoice. Reference: none. -/
theorem Table.HoldInvoice.id_eq (hi : t.HoldInvoice id invoice) (hk : t.Knows row)
    (htype : row.type = .incoming) (hinvoice : row.paymentRequest = invoice) : row.id = id := by
  obtain ⟨r, hr, hri⟩ := hk
  rw [← Transaction.id_of_identity hri]
  exact hi.only r hr ((congrArg Identity.type hri).trans htype)
    ((congrArg Identity.paymentRequest hri).trans hinvoice)

theorem Table.HoldInvoice.step (hi : t.HoldInvoice id invoice)
    (hstep : ∀ r' ∈ t'.rows, ∃ r ∈ t.rows, r.identity = r'.identity)
    (hkept : ∀ r ∈ t.rows, ∃ r' ∈ t'.rows, r'.identity = r.identity) :
    t'.HoldInvoice id invoice where
  row := by
    obtain ⟨r, hr, hid, htype, hinvoice⟩ := hi.row
    obtain ⟨r', hr', hri⟩ := hkept r hr
    exact ⟨r', hr', (Transaction.id_of_identity hri).trans hid,
      (congrArg Identity.type hri).trans htype,
      (congrArg Identity.paymentRequest hri).trans hinvoice⟩
  only r' hr' htype hinvoice := by
    obtain ⟨r, hr, hri⟩ := hstep r' hr'
    rw [← Transaction.id_of_identity hri]
    exact hi.only r hr ((congrArg Identity.type hri).trans htype)
      ((congrArg Identity.paymentRequest hri).trans hinvoice)

/-- The calls insert no row. Reference: none. -/
theorem exec_holdInvoice (hi : s.db.transactions.HoldInvoice id invoice)
    (hx : exec W s c env = some (a, s')) (hc : HeldBy h c) :
    s'.db.transactions.HoldInvoice id invoice := by
  have of_update : ∀ {n : Nat} {u : Update},
      (s.db.transactions.update n u).HoldInvoice id invoice := by
    intro n u
    refine hi.step (fun r' hr' => ?_) fun r hr => ?_
    · obtain ⟨r, hr, rfl⟩ := Table.mem_update.1 hr'
      exact ⟨r, hr, (Table.updateRow_identity n u r).symm⟩
    · exact ⟨_, Table.mem_update.2 ⟨r, hr, rfl⟩, Table.updateRow_identity n u r⟩
  generalize s'.db.transactions = t', exec_effect hx = he
  cases he with
  | same => exact hi
  | create | sendPayment | sendKeysend | createSettled | updateMetadata => exact hc.elim
  | settle | fail | accept => exact of_update

/-! ## The events -/

theorem holdUpdate_paymentReceived {update : HoldUpdate} :
    holdUpdate invoice (.paymentReceived row) = some update ↔
      row.paymentRequest = invoice ∧ update = .settled row := by
  unfold holdUpdate
  rw [Option.ite_none_right_eq_some, Option.some_inj, eq_comm (b := update)]

theorem holdUpdate_holdInvoiceCanceled {update : HoldUpdate} :
    holdUpdate invoice (.holdInvoiceCanceled row) = some update ↔
      row.paymentRequest = invoice ∧ update = .canceled row := by
  unfold holdUpdate
  rw [Option.ite_none_right_eq_some, Option.some_inj, eq_comm (b := update)]

/-- The end of the invoice that the events of a settlement tell of. Reference:
`transactions/transactions_service.go:1622 afterTransactionSettled`. -/
theorem Transaction.SettlementEvents.concludes {events : List Event}
    (hev : row.SettlementEvents events) : events.countP (Event.concludes invoice) ≤ 1 ∧
      ∀ e ∈ events, ∀ update, holdUpdate invoice e = some update →
        update = .settled row ∧ row.type = .incoming ∧ row.paymentRequest = invoice := by
  obtain ⟨warnings, rfl, hw⟩ := hev
  have hnone : ∀ e ∈ warnings, holdUpdate invoice e = none := by
    intro e he
    obtain ⟨_, _, rfl⟩ := hw e he
    rfl
  refine ⟨?_, fun e he update hu => ?_⟩
  · have hcount : warnings.countP (Event.concludes invoice) = 0 := by
      rw [List.countP_eq_zero]
      intro e he
      simp [Event.concludes, hnone e he]
    rw [List.countP_cons, hcount]
    split <;> omega
  · rcases List.mem_cons.1 he with rfl | he
    · unfold Transaction.settledEvent at hu
      split at hu
      · next htype =>
        obtain ⟨hinvoice, hupdate⟩ := holdUpdate_paymentReceived.1 hu
        exact ⟨hupdate, htype, hinvoice⟩
      · cases hu
    · rw [hnone e he] at hu
      cases hu

/-- The events that a call is handed tell of the end at most once, and only where the row has come
to it in the same transaction. Reference: `transactions/transactions_service.go:1470
markTransactionSettled`, `:1709 markPaymentFailed`. -/
theorem exec_handed (hi : s.db.transactions.HoldInvoice id invoice)
    (hx : exec W s c env = some (a, s')) (hc : HeldBy h c)
    (hk : ∀ call ∈ h, Learned id invoice call s)
    (hraced : c.settles id = true → ¬ s.db.transactions.At id (·.state = .failed)) :
    (handedEvents ⟨c, a⟩).countP (Event.concludes invoice) ≤ 1 ∧
      ∀ e ∈ handedEvents ⟨c, a⟩, ∀ update, holdUpdate invoice e = some update →
        s.db.transactions.At id (·.state = .accepted) ∧ s'.db.transactions.Concluded id update := by
  have nothing : handedEvents ⟨c, a⟩ = [] →
      (handedEvents ⟨c, a⟩).countP (Event.concludes invoice) ≤ 1 ∧
      ∀ e ∈ handedEvents ⟨c, a⟩, ∀ update, holdUpdate invoice e = some update →
        s.db.transactions.At id (·.state = .accepted) ∧ s'.db.transactions.Concluded id update := by
    intro hnone
    rw [hnone]
    exact ⟨Nat.zero_le _, fun e he => absurd he List.not_mem_nil⟩
  cases c with
  | markTransactionSettledTx row preimage feeMsat selfPayment =>
    cases a with
    | error e => exact nothing rfl
    | ok st =>
      obtain ⟨hknows, htype, hbegun⟩ := History.Held.known hc hk
      obtain ⟨db, hb, rfl⟩ := Hub.transaction_ok hx
      rcases markTransactionSettledTx_ok hb with ⟨_, _, _, rfl, rfl⟩ | ⟨hn, _, hst, _, hev, _, ht⟩
      · exact nothing rfl
      · refine ⟨hev.concludes.1, fun e he update hu => ?_⟩
        obtain ⟨rfl, -, hinvoice⟩ := hev.concludes.2 e he update hu
        rw [hst] at hinvoice ⊢
        have hid : row.id = id := hi.id_eq hknows htype hinvoice
        obtain ⟨r, hr, hri⟩ := hknows
        have hrid : r.id = row.id := Transaction.id_of_identity hri
        have hafter : (settleUpdate preimage feeMsat selfPayment env.now) r ∈
            db.transactions.rows := by
          rw [ht, ← hrid]
          exact Table.mem_update_self hr
        have hnot := Table.not_settled_of_select ⟨r, hr, hri⟩ hn hr hrid
        refine ⟨⟨r, hr, hrid.trans hid, ?_⟩, preimage, rfl, _, hafter, ?_, rfl, rfl⟩
        · have hnotfailed : r.state ≠ .failed :=
            fun hf => hraced (decide_eq_true hid) ⟨r, hr, hrid.trans hid, hf⟩
          have hnotpending := hbegun.of_mem hr hrid
          cases hstate : r.state with
          | pending => exact absurd hstate hnotpending
          | accepted => exact hstate
          | settled => exact absurd hstate hnot
          | failed => exact absurd hstate hnotfailed
        · rw [Update.id]
          exact hrid.trans hid
  | markPaymentFailedTx row reason =>
    cases a with
    | error e => exact nothing rfl
    | ok failed =>
      obtain ⟨marked, copy⟩ := failed
      cases marked with
      | false => exact nothing rfl
      | true =>
        obtain ⟨hknows, htype, hbegun⟩ := History.Held.known hc hk
        obtain ⟨db, hb, rfl⟩ := Hub.transaction_ok hx
        obtain ⟨existing, hmem, hex, ⟨_, hfalse, _⟩ | ⟨hst, _, rfl, rfl⟩⟩ :=
          markPaymentFailedTx_ok hb
        · cases hfalse
        · have hid := hknows.existing_id hex
          refine ⟨?_, fun e he update hu => ?_⟩
          · have hfailed : holdUpdate invoice (.paymentFailed (failUpdate reason env.now row)) =
                none := rfl
            rw [handedEvents, List.countP_cons_of_neg (by simp [Event.concludes, hfailed]),
              List.countP_cons, List.countP_nil]
            split <;> simp
          · have he : e = .paymentFailed (failUpdate reason env.now row) ∨
                e = .holdInvoiceCanceled (failUpdate reason env.now row) := by
              simpa [handedEvents] using he
            rcases he with rfl | rfl
            · cases hu
            · obtain ⟨hinvoice, rfl⟩ := holdUpdate_holdInvoiceCanceled.1 hu
              have hrow : row.id = id := hi.id_eq hknows htype hinvoice
              refine ⟨⟨existing, hmem, hid.trans hrow, ?_⟩, ?_⟩
              · exact hst.resolve_left (hbegun.of_mem hmem hid)
              · refine ⟨failUpdate reason env.now existing, ?_, ?_, rfl⟩
                · rw [DB.withTransactions_transactions, ← hid]
                  exact Table.mem_update_self hmem
                · rw [Update.id]
                  exact hid.trans hrow
  | markHoldInvoiceAcceptedTx =>
    cases a with
    | error e => exact nothing rfl
    | ok row =>
      refine ⟨Nat.zero_le 1, fun e he update hu => ?_⟩
      rw [List.mem_singleton.1 he] at hu
      cases hu
  | createSettledTransactionTx => exact hc.elim
  | _ => exact nothing rfl

theorem holdUpdate_of_denial {e : Event} (he : e.isDenial = true) :
    holdUpdate invoice e = none := by
  cases e <;> first | rfl | cases he

/-- What a step publishes a call was handed before, or does not tell of the invoice. Reference:
`transactions/transactions_service.go:1655 publishEvents`. -/
theorem exec_reported (hx : exec W s c env = some (a, s')) (hc : HeldBy h c) :
    ∃ events, s'.published = s.published ++ events ∧ ∀ e ∈ events,
      holdUpdate invoice e = none ∨ ∃ call ∈ h, e ∈ handedEvents call := by
  obtain ⟨events, hpub, ⟨event, rfl, rfl⟩ | ⟨-, hdenial⟩⟩ := exec_published hx
  · obtain ⟨more, hmore⟩ := hc
    refine ⟨[event], hpub, fun e he => .inr ?_⟩
    rw [List.mem_singleton.1 he]
    exact mem_handedEvents_of_toPublish (hmore ▸ List.mem_cons_self)
  · exact ⟨events, hpub, fun e he => .inl (holdUpdate_of_denial (hdenial e he))⟩

/-! ## A step -/

/-- The invariant of the hub. Reference: none. -/
structure Hub.HoldsInvoice (id : Nat) (invoice : String) (s : Hub) : Prop where
  holds : s.db.transactions.HoldInvoice id invoice
  reported : ∀ e ∈ s.published, ∀ update, holdUpdate invoice e = some update →
    s.db.transactions.Concluded id update

theorem Transaction.Step.begun (hstep : r.Step row) (hr : r.state ≠ .pending) :
    row.state ≠ .pending := by
  cases hstep with
  | annotate => exact hr
  | settle | fail | accept => exact TransactionState.noConfusion

/-- What an answer says stays so. Reference: none. -/
theorem Learned.step {call : Call Cmd Cmd.Ans} (hl : Learned id invoice call s)
    (hstep : s.db.transactions.Step s'.db.transactions)
    (hkept : ∀ r ∈ s.db.transactions.rows, r.id = id → r.state = .settled ∨ r.state = .failed →
      r ∈ s'.db.transactions.rows) : Learned id invoice call s' where
  rows row hrow := hstep.knows (hl.rows row hrow)
  truthful := hl.truthful
  begun row hrow hst := hstep.at (fun _ _ h => h.begun) (hl.begun row hrow hst)
  handed e he update hu := (hl.handed e he update hu).kept hkept
  update since update he := (hl.update since update he).kept hkept

/-- A payer receives what was published. Reference:
`transactions/hold_invoice_self_payment_consumer.go:24 ConsumeEvent`. -/
theorem exec_receive {since : Nat} {update : HoldUpdate}
    (hx : exec W s (.receiveHoldUpdate since invoice) env = some (update, s')) :
    s' = s ∧ ∃ e ∈ s.published, holdUpdate invoice e = some update := by
  obtain ⟨update', hpick, he⟩ := Option.map_eq_some_iff.1 hx
  cases he
  obtain ⟨e, he, hu⟩ := List.mem_filterMap.1 (mem_of_pick hpick)
  exact ⟨rfl, e, List.mem_of_mem_drop he, hu⟩

theorem sound_holdBody (W : World) (id : Nat) (invoice : String) :
    Sound (exec W) (holdBody W) (Unraced id) (fun _ => HeldBy)
      Responds
      (fun _ _ s c _ => c.settles id = true → ¬ s.db.transactions.At id (·.state = .failed))
      (Hub.HoldsInvoice id invoice) (fun _ => Learned id invoice) where
  body := holdBody_follows
  obeys cfg i env op h c k ha hi := ha _ hi c rfl
  step op h s c env a s' hi hk hc hraced hx := by
    have hstep := exec_step hx (hc.sourced hk)
    have hkept : ∀ r ∈ s.db.transactions.rows, r.id = id → r.state = .settled ∨ r.state = .failed →
        r ∈ s'.db.transactions.rows := by
      intro r hr hid hend
      obtain ⟨r', hr', -, -, hsame⟩ := exec_moves hx hc hk hraced hr hid
      exact hsame hend ▸ hr'
    have hhanded := exec_handed hi.holds hx hc hk hraced
    refine ⟨⟨exec_holdInvoice hi.holds hx hc, ?_⟩, ⟨?_, exec_truthful hx, ?_, ?_, ?_⟩,
      fun _ call hl => hl.step hstep hkept⟩
    · intro e he update hu
      obtain ⟨events, hpub, hevents⟩ := exec_reported hx hc
      rw [hpub] at he
      rcases List.mem_append.1 he with he | he
      · exact (hi.reported e he update hu).kept hkept
      · rcases hevents e he with hnone | ⟨call, hcall, hmem⟩
        · rw [hnone] at hu
          cases hu
        · exact ((hk call hcall).handed e hmem update hu).kept hkept
    · exact fun row hrow => .of_mem (exec_answered hx row hrow)
    · exact fun row hrow hst => ⟨row, exec_answered hx row hrow, rfl, hst⟩
    · exact fun e he update hu => (hhanded.2 e he update hu).2
    · intro since update he
      cases he
      obtain ⟨rfl, e, he, hu⟩ := exec_receive hx
      exact hi.reported e he update hu

/-! ## The count -/

/-- How many events of the end of the invoice were published, with those that calls are about to
publish. Reference: none. -/
def HoldPool.concluding (invoice : String) (cfg : HoldPool) : Nat :=
  cfg.state.published.countP (Event.concludes invoice) +
    (cfg.threads.map fun t => (toPublish t.hist).countP (Event.concludes invoice)).sum

/-- There is one at most, and none before the row has ended. Reference: none. -/
def HoldPool.Once (id : Nat) (invoice : String) (cfg : HoldPool) : Prop :=
  cfg.concluding invoice ≤ 1 ∧ (cfg.concluding invoice ≠ 0 →
    cfg.state.db.transactions.At id fun r => r.state = .settled ∨ r.state = .failed)

/-- A command publishes an event that the call was handed, or is handed new ones. Reference:
none. -/
theorem exec_concluding (invoice : String) (hx : exec W s c env = some (a, s'))
    (hc : HeldBy h c) :
    s'.published.countP (Event.concludes invoice) +
        (toPublish (⟨c, a⟩ :: h)).countP (Event.concludes invoice) ≤
      s.published.countP (Event.concludes invoice) +
        (toPublish h).countP (Event.concludes invoice) +
        (handedEvents ⟨c, a⟩).countP (Event.concludes invoice) := by
  obtain ⟨events, hpub, ⟨event, rfl, rfl⟩ | ⟨hne, hdenial⟩⟩ := exec_published hx
  · obtain ⟨rest, hrest⟩ := hc
    have htail : toPublish (⟨.publish event, a⟩ :: h) = rest := by
      rw [toPublish, hrest]
      rfl
    rw [htail, hrest, hpub, List.countP_append, List.countP_cons, List.countP_cons,
      List.countP_nil]
    omega
  · have hdenied : events.countP (Event.concludes invoice) = 0 := by
      rw [List.countP_eq_zero]
      intro e he
      simp [Event.concludes, holdUpdate_of_denial (hdenial e he)]
    rw [toPublish_cons hne, hpub, List.countP_append, hdenied]
    omega

theorem Table.Concluded.ended {update : HoldUpdate} (hu : t.Concluded id update) :
    t.At id fun r => r.state = .settled ∨ r.state = .failed := by
  cases update with
  | settled row =>
    obtain ⟨_, -, r, hr, hid, hst, -⟩ := hu
    exact ⟨r, hr, hid, .inl hst⟩
  | canceled row =>
    obtain ⟨r, hr, hid, hst⟩ := hu
    exact ⟨r, hr, hid, .inr hst⟩

theorem not_ended_of_accepted (ha : t.At id (·.state = .accepted)) :
    ¬ t.At id fun r => r.state = .settled ∨ r.state = .failed := by
  rintro ⟨r, hr, hid, hend⟩
  have hst := ha.of_mem hr hid
  rcases hend with hend | hend <;> cases hst.symm.trans hend

/-- The end is handed out once, by the transaction that brings it. Reference: none. -/
theorem HoldPool.Once.run {cfg : HoldPool} {i : Nat} {op : HoldOp} {k : c.Ans → Svc HoldResult}
    (ho : HoldPool.Once id invoice cfg) (hi : cfg.state.HoldsInvoice id invoice)
    (hat : cfg.threads[i]? = some ⟨op, h, .cmd c k⟩) (hc : HeldBy h c)
    (hk : ∀ call ∈ h, Learned id invoice call cfg.state)
    (hraced : c.settles id = true → ¬ cfg.state.db.transactions.At id (·.state = .failed))
    (hx : exec W cfg.state c env = some (a, s')) :
    HoldPool.Once id invoice ⟨s', cfg.threads.set i ⟨op, ⟨c, a⟩ :: h, k a⟩⟩ := by
  have hsum : ((cfg.threads.set i ⟨op, ⟨c, a⟩ :: h, k a⟩).map fun t =>
        (toPublish t.hist).countP (Event.concludes invoice)).sum +
      (toPublish h).countP (Event.concludes invoice) =
      (cfg.threads.map fun t => (toPublish t.hist).countP (Event.concludes invoice)).sum +
        (toPublish (⟨c, a⟩ :: h)).countP (Event.concludes invoice) :=
    Config.sum_set (fun t => (toPublish t.hist).countP (Event.concludes invoice)) hat
  have hcount := exec_concluding invoice hx hc
  obtain ⟨hone, hhanded⟩ := exec_handed hi.holds hx hc hk hraced
  have hle : HoldPool.concluding invoice ⟨s', cfg.threads.set i ⟨op, ⟨c, a⟩ :: h, k a⟩⟩ ≤
      cfg.concluding invoice + (handedEvents ⟨c, a⟩).countP (Event.concludes invoice) := by
    unfold HoldPool.concluding
    dsimp only
    omega
  obtain ⟨hatmost, hended⟩ := ho
  by_cases hnone : (handedEvents ⟨c, a⟩).countP (Event.concludes invoice) = 0
  · refine ⟨by omega, fun hne => ?_⟩
    obtain ⟨r, hr, hid, hend⟩ := hended (by omega)
    obtain ⟨r', hr', -, -, hsame⟩ := exec_moves hx hc hk hraced hr hid
    exact ⟨r, hsame hend ▸ hr', hid, hend⟩
  · -- the row was accepted until now, so that nothing was told of its end
    obtain ⟨e, he, hconcludes⟩ := List.countP_pos_iff.1 (Nat.pos_of_ne_zero hnone)
    obtain ⟨update, hu⟩ := Option.isSome_iff_exists.1 hconcludes
    obtain ⟨haccepted, hnow⟩ := hhanded e he update hu
    have hzero : cfg.concluding invoice = 0 := by
      by_contra hne
      exact not_ended_of_accepted haccepted (hended hne)
    exact ⟨by omega, fun _ => hnow.ended⟩

theorem HoldPool.Once.step {cfg cfg' : HoldPool} {l : HoldLabel}
    (ho : HoldPool.Once id invoice cfg)
    (hd : cfg.Disciplined (fun _ => HeldBy) Responds (Hub.HoldsInvoice id invoice)
      (fun _ => Learned id invoice))
    (ha : Unraced id cfg l) (hs : cfg.step (exec W) (holdBody W) l = some cfg') :
    HoldPool.Once id invoice cfg' := by
  obtain ⟨hone, hended⟩ := ho
  cases l with
  | spawn op =>
    cases hs
    have hsame : HoldPool.concluding invoice
        { cfg with threads := cfg.threads ++ [⟨op, [], holdBody W op⟩] } =
        cfg.concluding invoice := by
      simp [HoldPool.concluding, toPublish]
    exact ⟨hsame ▸ hone, fun hne => hended (hsame ▸ hne)⟩
  | run i env =>
    obtain ⟨op, h, c, k, a, s', hat, hx, rfl⟩ := Config.step_run hs
    exact HoldPool.Once.run ⟨hone, hended⟩ hd.inv hat (hd.issues hat)
      (hd.known _ (List.mem_of_getElem? hat)) (ha _ hat c rfl) hx
  | restart =>
    cases hs
    have hle : HoldPool.concluding invoice
        { cfg with threads := cfg.threads.filter (·.rest.done) } ≤ cfg.concluding invoice :=
      Nat.add_le_add_left (Config.sum_filter_le _) _
    exact ⟨hle.trans hone, fun hne => hended (by omega)⟩

/-! ## A run -/

theorem HoldStart.disciplined {cfg : HoldPool} (h : HoldStart id invoice cfg) :
    cfg.Disciplined (fun _ => HeldBy) Responds (Hub.HoldsInvoice id invoice)
      (fun _ => Learned id invoice) where
  inv := by
    refine ⟨h.holds, fun e he update hu => ?_⟩
    have hquiet := h.quiet e he
    rw [Event.concludes, hu] at hquiet
    cases hquiet
  follows := by simp [h.idle]
  obeys := by simp [h.idle]
  known := by simp [h.idle]

theorem HoldStart.once {cfg : HoldPool} (h : HoldStart id invoice cfg) :
    HoldPool.Once id invoice cfg := by
  have hzero : cfg.concluding invoice = 0 := by
    have hnone : cfg.state.published.countP (Event.concludes invoice) = 0 := by
      rw [List.countP_eq_zero]
      intro e he
      simp [h.quiet e he]
    simp [HoldPool.concluding, hnone, h.idle]
  exact ⟨by omega, fun hne => absurd hzero hne⟩

/-- A payer that has received an update returns what agrees with the row. Reference:
`transactions/transactions_service.go:1113 interceptSelfHoldPayment`. -/
theorem agrees_of_heeds {response : Except Err PayInvoiceResponse} {since : Nat}
    {update : HoldUpdate} (hh : Heeds invoice h response)
    (hd : Did h (.receiveHoldUpdate since invoice) update) (hu : t.Concluded id update) :
    t.Agrees id response := by
  have hsaid := (hh since invoice update hd).2
  cases update with
  | settled row =>
    obtain ⟨preimage, hpre, hat⟩ := hu
    rw [hsaid preimage hpre]
    exact .settled hat
  | canceled row =>
    obtain rfl : response = .error .holdInvoiceCanceled := hsaid
    exact .canceled hu

end

/-- In every run of calls on hold invoices where the row is not settled after it was canceled, the
row of a pending invoice is accepted, and then settled or failed for good; its end is published at
most once and as it is; and every payer that has waited for it returns what agrees with it.
Reference: `transactions/transactions_service.go:1306 SettleHoldInvoice`, `:1354 CancelHoldInvoice`.
-/
theorem hold_invoice_lifecycle (W : World) (id : Nat) (invoice : String) (cfg : HoldPool)
    (h : HoldRun W (HoldStart id invoice) (Unraced id) cfg) :
    cfg.Concludes id invoice ∧
      ∀ l cfg', Unraced id cfg l → cfg.step (exec W) (holdBody W) l = some cfg' →
        cfg.state.db.transactions.Moves id cfg'.state.db.transactions := by
  have hd := h.sound (sound_holdBody W id invoice) fun _ => HoldStart.disciplined
  have hone : HoldPool.Once id invoice cfg :=
    Reach.induction (fun _ => HoldStart.once) (fun cfg l cfg' hr ho ha hs =>
      ho.step (hr.sound (sound_holdBody W id invoice) fun _ => HoldStart.disciplined) ha hs) h
  refine ⟨⟨(Nat.le_add_right _ _).trans hone.1, hd.inv.reported, ?_⟩, fun l cfg' ha hs => ?_⟩
  · rintro t ht paymentHash response hop hret ⟨since, update, hdid⟩
    have hheeds := hd.returned ht hret invoice paymentHash hop response rfl
    exact agrees_of_heeds hheeds hdid ((hd.known t ht _ hdid).update since update rfl)
  · intro r hr hid
    cases l with
    | run i env =>
      obtain ⟨op, h, c, k, a, s', hat, hx, rfl⟩ := Config.step_run hs
      obtain ⟨r', hr', hid', hmove, -⟩ := exec_moves hx (hd.issues hat)
        (hd.known _ (List.mem_of_getElem? hat)) (ha _ hat c rfl) hr hid
      exact ⟨r', hr', hid', hmove⟩
    | spawn op =>
      cases hs
      exact ⟨r, hr, hid, .stay⟩
    | restart =>
      cases hs
      exact ⟨r, hr, hid, .stay⟩

/-- The hub with a hold invoice that was not paid. Reference:
`transactions/self_hold_payments_test.go`. -/
def pendingPool : HoldPool where
  state.published := []
  state.db := demoDB (Table.empty.create demoNow {
    id := 0, type := .incoming, state := .pending, amountMsat := 1100000
    paymentRequest := bobHoldInvoice, paymentHash := wrappedHash, hold := true })
  threads := []

theorem holdStart_pending : HoldStart 1 bobHoldInvoice pendingPool where
  holds := ⟨by decide +kernel, by decide +kernel⟩
  pending := by decide +kernel
  quiet _ he := absurd he List.not_mem_nil
  idle := rfl

/-- The next steps of the calls. Reference: none. -/
def holdSteps (calls : List Nat) : List HoldLabel :=
  calls.map fun i => .run i { now := demoNow, blockHeight := .ok 120 }

/-- The payer waits, and a settlement and a cancellation have both found the accepted row.
Reference: `transactions/self_hold_payments_test.go`. -/
def raceSteps : List HoldLabel :=
  .spawn (.interceptSelfHoldPayment bobHoldInvoice wrappedHash) :: holdSteps [0, 0, 0, 0] ++
    [.spawn (.settleHoldInvoice wrappedPreimage), .spawn (.cancelHoldInvoice wrappedHash)] ++
    holdSteps [1, 2]

/-- The preimage or the error that a payer is answered. Reference: none. -/
def answerText : Except Err PayInvoiceResponse → String
  | .ok response => response.preimage
  | .error e => e.error

/-- Whether the row is settled, the events of its end, and what payers are answered. Reference:
none. -/
def HoldPool.look (cfg : HoldPool) : Bool × Nat × List String :=
  (cfg.state.db.transactions.At 1 (·.state = .settled),
    cfg.state.published.countP (Event.concludes bobHoldInvoice),
    cfg.threads.filterMap fun t => t.rest.result.join.map answerText)

theorem hold_invoice_lifecycle_settled : ∃ cfg : HoldPool,
    pendingPool.run (exec demo) (holdBody demo) (raceSteps ++ holdSteps [1, 1, 2, 0]) = some cfg ∧
      HoldPool.look cfg = (true, 1, [wrappedPreimage]) ∧
      HoldPool.Concludes 1 bobHoldInvoice cfg := by
  have hlook : (pendingPool.run (exec demo) (holdBody demo)
      (raceSteps ++ holdSteps [1, 1, 2, 0])).map HoldPool.look =
      some (true, 1, [wrappedPreimage]) := by decide +kernel
  obtain ⟨cfg, hafter, hcfg⟩ := Option.map_eq_some_iff.1 hlook
  have hrun : HoldRun demo (HoldStart 1 bobHoldInvoice) (Unraced 1) cfg :=
    Reach.of_run (.start holdStart_pending) (by decide +kernel) hafter
  exact ⟨cfg, hafter, hcfg, (hold_invoice_lifecycle demo 1 bobHoldInvoice cfg hrun).1⟩

/-- A settlement that has found the accepted row settles it although it was canceled meanwhile: both
ends are published, and the payer was told that the invoice is canceled. Reference:
`transactions/transactions_service.go:1306 SettleHoldInvoice`. -/
theorem settled_after_cancellation : ∃ cfg₁ cfg : HoldPool,
    HoldRun demo (HoldStart 1 bobHoldInvoice) (fun _ _ => True) cfg₁ ∧
      cfg₁.state.db.transactions.At 1 (·.state = .failed) ∧
      cfg₁.run (exec demo) (holdBody demo) (holdSteps [1, 1, 0]) = some cfg ∧
      HoldPool.look cfg = (true, 2, [Err.holdInvoiceCanceled.error]) ∧
      ¬ HoldPool.Concludes 1 bobHoldInvoice cfg := by
  have hlook : ((pendingPool.run (exec demo) (holdBody demo)
      (raceSteps ++ holdSteps [2, 2, 2])).bind fun cfg₁ =>
        if cfg₁.state.db.transactions.At 1 (·.state = .failed) then
          (cfg₁.run (exec demo) (holdBody demo) (holdSteps [1, 1, 0])).map HoldPool.look
        else none) = some (true, 2, [Err.holdInvoiceCanceled.error]) := by decide +kernel
  obtain ⟨cfg₁, hafter₁, hlook⟩ := Option.bind_eq_some_iff.1 hlook
  obtain ⟨hfailed, hlook⟩ := Option.ite_none_right_eq_some.1 hlook
  obtain ⟨cfg, hafter, hcfg⟩ := Option.map_eq_some_iff.1 hlook
  refine ⟨cfg₁, cfg, Reach.of_run (.start holdStart_pending) Config.allows_true hafter₁, hfailed,
    hafter, hcfg, fun hconcludes => ?_⟩
  have htwo : cfg.state.published.countP (Event.concludes bobHoldInvoice) = 2 :=
    congrArg (fun look => look.2.1) hcfg
  have hone := hconcludes.once
  omega

end AlbyHub
