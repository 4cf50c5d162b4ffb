import AlbyHub.LnClient.LdkEvents

/-!
# What an acknowledged event has stored

The goroutine of an event stores it: whatever the database answers it, when it returns it has issued
a command that stores the event, and without a failure of the database this command did store it
(`exec_stores`). So if the loop acknowledges an event only after its goroutine has returned, every
acknowledged event is stored (`acknowledged_stored`). The loop does not wait (`received_lost`).
-/

namespace AlbyHub

open Go Interaction

/-- The row is one that a lookup for the event's payment answered. Reference: the queries of
`transactions/transactions_service.go:794 ConsumeEvent`. -/
def NodeEvent.Found (event : NodeEvent) (h : History) (row : Transaction) : Prop :=
  ∃ q order, Did h (.find q order) (.ok (some row)) ∧ q.type = some event.rowType ∧
    q.paymentHash = event.paymentHash

/-- What the goroutine of the event issues. Reference: `transactions/transactions_service.go:794
ConsumeEvent`. -/
def NodeEvent.Issues (event : NodeEvent) (h : History) : Cmd → Prop
  | .markTransactionSettledTx row _ feeMsat _ => feeMsat < 2 ^ 63 ∧ event.Found h row
  | .createSettledTransactionTx row _ feeMsat _ => feeMsat < 2 ^ 63 ∧ row.amountMsat < 2 ^ 63 ∧
    row.type = event.rowType ∧ row.paymentHash = event.paymentHash
  | .find q order => event.Stores (.find q order) →
    q = { event.rows with state := some .pending } ∧ ∀ l, order.first l = l
  | .markPaymentFailedTx row _ => event.Found h row
  | .markHoldInvoiceAcceptedTx paymentRequest paymentHash _ _ =>
    paymentRequest = event.invoice ∧ paymentHash = event.paymentHash
  | _ => True

/-- The call is the end of the event: it stored it, or it failed. A lookup stores it where it finds
nothing. Reference: none. -/
def NodeEvent.EndedBy (event : NodeEvent) : Call Cmd Cmd.Ans → Prop
  | ⟨.find _ _, .ok (some _)⟩ => False
  | ⟨.find q order, .ok none⟩ => event.Stores (.find q order)
  | ⟨.find _ _, .error _⟩ => True
  | ⟨c, _⟩ => event.Stores c

/-- The event has ended. Reference: none. -/
def NodeEvent.Ended (event : NodeEvent) (h : History) : Prop := ∃ call ∈ h, event.EndedBy call

/-- The database takes the event's row. Reference: `transactions/transactions_service.go:1470
markTransactionSettled`, `:816 ConsumeEvent`; `database/sql/driver` `defaultConverter`. -/
def NodeEvent.Storable (W : World) : NodeEvent → Prop
  | .paymentReceived tx => tx.Recordable ∧
    ∀ fields, tx.metadata = some fields → ∃ bytes, W.marshal (.object fields) = .ok bytes
  | .paymentSent tx => tx.Recordable
  | .paymentFailed _ _ => True
  | .holdInvoiceAccepted tx => tx.settleDeadline ≠ none

section
variable {W : World} {env : Env} {s s' : Hub} {event : NodeEvent} {h h' : History} {α : Type}
variable {row : Transaction} {tx : LnTransaction} {preimage reason : String} {feeMsat : Nat}

theorem NodeEvent.Ended.mono (he : event.Ended h) (hs : h <:+ h') : event.Ended h' := by
  obtain ⟨call, hc, hend⟩ := he
  exact ⟨call, hs.subset hc, hend⟩

theorem NodeEvent.Ended.last {c : Cmd} {a : c.Ans} (he : event.EndedBy ⟨c, a⟩) :
    event.Ended (⟨c, a⟩ :: h) := ⟨_, List.mem_cons_self, he⟩

/-! ## The program of the goroutine -/

/-- The publications of an ended event. Reference: `transactions/transactions_service.go:1655
publishEvents`. -/
theorem ended_publishEvents {events : List Event} (he : event.Ended h) :
    Follows event.Issues (fun h' _ => event.Ended h') h (publishEvents events) := by
  induction events generalizing h with
  | nil => exact he
  | cons e events ih => exact .call trivial fun _ => ih (he.mono (List.suffix_cons _ _))

/-- Reference: `transactions/transactions_service.go:1470 markTransactionSettled`. -/
theorem ended_settleCopy (hp : preimage ≠ "") (hfee : feeMsat < 2 ^ 63) (hfound : event.Found h row)
    (hstores : ∀ row preimage feeMsat,
      event.Stores (.markTransactionSettledTx row preimage feeMsat false)) :
    Follows event.Issues (fun h' _ =>
      event.Ended h') h (settleCopy row preimage feeMsat false) := by
  unfold settleCopy
  rw [if_neg hp]
  refine .call ⟨hfee, hfound⟩ fun r => ?_
  have he : event.Ended (⟨.markTransactionSettledTx row preimage feeMsat false, r⟩ :: h) :=
    .last (hstores row preimage feeMsat)
  cases r with
  | error e => exact he
  | ok st => exact (ended_publishEvents he).bind fun _ _ _ he => he

/-- Reference: `transactions/transactions_service.go:1470 markTransactionSettled`. -/
theorem ended_markTransactionSettled (hp : preimage ≠ "") (hfee : feeMsat < 2 ^ 63)
    (hfound : event.Found h row) (hstores : ∀ row preimage feeMsat,
      event.Stores (.markTransactionSettledTx row preimage feeMsat false)) :
    Follows event.Issues (fun h' _ => event.Ended h') h
      (do let _ ← markTransactionSettled row preimage feeMsat false; return ()) := by
  have hsettled : Follows event.Issues (fun h' _ => event.Ended h') h
      (markTransactionSettled row preimage feeMsat false) :=
    (ended_settleCopy hp hfee hfound hstores).bind fun _ _ _ he => he
  exact hsettled.bind fun _ _ _ he => he

/-- Reference: `transactions/transactions_service.go:1709 markPaymentFailed`. -/
theorem ended_markPaymentFailed (hfound : event.Found h row)
    (hstores : ∀ row reason, event.Stores (.markPaymentFailedTx row reason)) :
    Follows event.Issues (fun h' _ => event.Ended h') h (markPaymentFailed row reason) := by
  refine .call hfound fun r => ?_
  have he : event.Ended (⟨.markPaymentFailedTx row reason, r⟩ :: h) := .last (hstores row reason)
  match r with
  | .error e => exact he
  | .ok (marked, copy) => exact (ended_publishEvents he).bind fun _ _ _ he => he

/-- Reference: `transactions/transactions_service.go:1528
createSettledTransactionFromNotification`. -/
theorem ended_createSettled (hp : preimage ≠ "") (hfee : feeMsat < 2 ^ 63)
    (hamount : row.amountMsat < 2 ^ 63) (hty : row.type = event.rowType)
    (hhash : row.paymentHash = event.paymentHash)
    (hstores : ∀ row preimage feeMsat,
      event.Stores (.createSettledTransactionTx row preimage feeMsat false)) :
    Follows event.Issues (fun h' _ => event.Ended h') h
      (createSettledTransactionFromNotification row preimage feeMsat false) := by
  unfold createSettledTransactionFromNotification
  rw [if_neg hp]
  refine .call ⟨hfee, hamount, hty, hhash⟩ fun r => ?_
  have he : event.Ended (⟨.createSettledTransactionTx row preimage feeMsat false, r⟩ :: h) :=
    .last (hstores row preimage feeMsat)
  cases r with
  | error e => exact he
  | ok st => exact (ended_publishEvents he).bind fun _ _ _ he => he

theorem issues_getAppIdFromCustomRecords {records : List TLVRecord} :
    Follows event.Issues (fun _ _ => True) h (getAppIdFromCustomRecords records) := by
  induction records generalizing h with
  | nil => trivial
  | cons record records ih =>
    unfold getAppIdFromCustomRecords
    split
    · exact ih
    · split
      · exact ih
      · refine .call trivial fun r => ?_
        cases r with
        | error e => exact ih
        | ok app => trivial

theorem ended_createReceived (hst : (NodeEvent.paymentReceived tx).Storable W) :
    Follows (NodeEvent.paymentReceived tx).Issues
      (fun h' _ => (NodeEvent.paymentReceived tx).Ended h') h (createReceived W tx) := by
  obtain ⟨⟨hp, hamount, hfee⟩, hmarshal⟩ := hst
  unfold createReceived
  cases hmeta : tx.metadata with
  | none => exact ended_createSettled hp hfee hamount rfl rfl fun _ _ _ => trivial
  | some fields =>
    obtain ⟨bytes, hb⟩ := hmarshal fields hmeta
    simp only [hb]
    exact issues_getAppIdFromCustomRecords.bind fun _ _ _ _ =>
      ended_createSettled hp hfee hamount rfl rfl fun _ _ _ => trivial

/-- A row that the lookups for a sent payment answer; where one fails the event has ended.
Reference: `transactions/transactions_service.go:889 ConsumeEvent`. -/
theorem issues_findSent :
    Follows (NodeEvent.paymentSent tx).Issues (fun h' r =>
      (∀ row, r = .ok (some row) → (NodeEvent.paymentSent tx).Found h' row) ∧
      (∀ e, r = .error e → (NodeEvent.paymentSent tx).Ended h')) h (findSent tx.paymentHash) := by
  have answered : ∀ {h : History} (q : Where) (order : Order) (r : Except Err (Option Transaction)),
      q.type = some .outgoing → q.paymentHash = tx.paymentHash →
      (∀ row, r = .ok (some row) →
        (NodeEvent.paymentSent tx).Found (⟨.find q order, r⟩ :: h) row) ∧
      (∀ e, r = .error e → (NodeEvent.paymentSent tx).Ended (⟨.find q order, r⟩ :: h)) := by
    intro h q order r hty hhash
    constructor
    · rintro row rfl
      exact ⟨q, order, .last, hty, hhash⟩
    · rintro e rfl
      exact .last trivial
  have free : ∀ (h : History) (q : Where) (order : Order),
      (NodeEvent.paymentSent tx).Issues h (.find q order) := fun _ _ _ hst => hst.elim
  refine .call (free _ _ _) fun r => ?_
  match r with
  | .error e => exact answered _ _ _ rfl rfl
  | .ok (some row) => exact answered _ _ _ rfl rfl
  | .ok none =>
    refine .call (free _ _ _) fun r => ?_
    match r with
    | .error e => exact answered _ _ _ rfl rfl
    | .ok (some row) => exact answered _ _ _ rfl rfl
    | .ok none => exact ⟨free _ _ _, fun r => answered _ _ r rfl rfl⟩

/-- When the goroutine of a storable event returns, the event has ended. Reference:
`transactions/transactions_service.go:794 ConsumeEvent`. -/
theorem ended_consumeEvent (hst : event.Storable W) :
    Follows event.Issues (fun h' _ => event.Ended h') [] (ConsumeEvent W event) := by
  cases event with
  | paymentReceived tx =>
    refine .call (fun hstores => hstores.elim) fun r => ?_
    cases r with
    | error e => exact .last trivial
    | ok found =>
      cases found with
      | none => exact (ended_createReceived hst).bind fun _ _ _ he => he
      | some row =>
        exact ended_markTransactionSettled hst.1.1 hst.1.2.2 ⟨_, _, .last, rfl, rfl⟩
          fun _ _ _ => trivial
  | holdInvoiceAccepted tx =>
    simp only [ConsumeEvent]
    split
    · next hnone => exact absurd hnone hst
    · next settleDeadline _ =>
      refine .call ⟨rfl, rfl⟩ fun r => ?_
      have he : (NodeEvent.holdInvoiceAccepted tx).Ended
          [⟨.markHoldInvoiceAcceptedTx tx.invoice tx.paymentHash settleDeadline false, r⟩] :=
        .last trivial
      cases r with
      | error e => exact he
      | ok row => exact ⟨trivial, fun _ => he.mono (List.suffix_cons _ _)⟩
  | paymentSent tx =>
    refine issues_findSent.bind fun h' r _ hsent => ?_
    obtain ⟨hfound, herror⟩ := hsent
    cases r with
    | error e => exact herror e rfl
    | ok found =>
      cases found with
      | none =>
        have hcreate : Follows (NodeEvent.paymentSent tx).Issues
            (fun h' _ => (NodeEvent.paymentSent tx).Ended h') h'
            (createSettledTransactionFromNotification (sentRow tx) tx.preimage
              (uint64OfInt tx.feesPaidMsat) false) :=
          ended_createSettled hst.1 hst.2.2 hst.2.1 rfl rfl fun _ _ _ => trivial
        exact hcreate.bind fun _ _ _ he => he
      | some row =>
        exact ended_markTransactionSettled hst.1 hst.2.2 (hfound row rfl) fun _ _ _ => trivial
  | paymentFailed tx reason =>
    refine .call (fun _ => ⟨rfl, fun _ => rfl⟩) fun r => ?_
    cases r with
    | error e => exact .last trivial
    | ok found =>
      cases found with
      | none => exact .last trivial
      | some row =>
        have hfound : (NodeEvent.paymentFailed tx reason).Found [⟨.find
            { type := some .outgoing, state := some .pending, paymentHash := tx.paymentHash } .none,
            .ok (some row)⟩] row := ⟨_, _, .last, rfl, rfl⟩
        have hfail : Follows (NodeEvent.paymentFailed tx reason).Issues
            (fun h' _ =>
              (NodeEvent.paymentFailed tx reason).Ended h') _ (markPaymentFailed row reason) :=
          ended_markPaymentFailed hfound fun _ _ => trivial
        exact hfail.bind fun _ _ _ he => he

/-! ## What its commands do -/

/-- Without a failure a transaction does what its body does. Reference: gorm `Transaction`. -/
theorem Hub.transaction_of_no_fault {b : TxResult α × List Event} {r : Except Err α}
    (hf : env.fault = none) (hx : s.transaction env b = some (r, s')) :
    (∃ e, b.1 = .error e ∧ s'.db = s.db) ∨ ∃ a, b.1 = .ok (a, s'.db) := by
  obtain ⟨b, events⟩ := b
  unfold Hub.transaction at hx
  split at hx
  · next hfault => rw [hf] at hfault; cases hfault
  · next heq => cases heq; cases hx; exact .inl ⟨_, rfl, rfl⟩
  · next heq => cases heq; cases hx; exact .inr ⟨_, rfl⟩

/-- A row that a lookup for the event answered is one of its payment. Reference: gorm `Find`. -/
theorem NodeEvent.Found.matches (hf : event.Found h row) (ht : ∀ call ∈ h, Truthful call) :
    event.rows.Matches row := by
  obtain ⟨q, order, hd, hty, hhash⟩ := hf
  obtain ⟨-, htype, -, -, hpay⟩ : q.Matches row := ht _ hd
  rw [hty] at htype
  rw [hhash] at hpay
  exact ⟨.inl rfl, htype, .inl rfl, .inl rfl, hpay⟩

theorem select_settledFilter_of_mem {t : Table} {r : Transaction} (hr : r ∈ t.rows)
    (hm : row.settledFilter.Matches r) : t.select row.settledFilter ≠ [] :=
  List.ne_nil_of_mem (Table.mem_select.2 ⟨hr, hm⟩)

/-- A settlement stores the event. Reference: `transactions/transactions_service.go:1470
markTransactionSettled`. -/
theorem markTransactionSettledTx_stores {db db' : DB} {selfPayment : Bool}
    (hfee : feeMsat < 2 ^ 63) (hknows : db.transactions.Knows row)
    (hx : (∃ e, markTransactionSettledTx W env db row preimage feeMsat selfPayment = .error e ∧
        db' = db) ∨
      ∃ a, markTransactionSettledTx W env db row preimage feeMsat selfPayment = .ok (a, db')) :
    db'.transactions.select row.settledFilter ≠ [] := by
  rcases hx with ⟨e, he, -⟩ | ⟨a, ha⟩
  · unfold markTransactionSettledTx at he
    split at he
    · cases he
    · rw [if_pos hfee] at he
      cases he
  · rcases markTransactionSettledTx_ok ha with ⟨existing, hmem, hm, -, rfl⟩ |
      ⟨-, -, -, -, -, -, ht⟩
    · exact select_settledFilter_of_mem hmem hm
    · obtain ⟨r, hr, hi⟩ := hknows
      rw [ht, ← Transaction.id_of_identity hi]
      refine Table.select_settledFilter_ne_nil (Table.mem_update_self hr) rfl ?_
      rw [Update.payment, Transaction.payment_of_identity hi]

/-- A record of the payment stores the event. Reference:
`transactions/transactions_service.go:1528 createSettledTransactionFromNotification`. -/
theorem createSettledTransactionTx_stores {db db' : DB} {selfPayment : Bool}
    (hfee : feeMsat < 2 ^ 63) (hamount : row.amountMsat < 2 ^ 63)
    (hx : (∃ e, createSettledTransactionTx W env db row preimage feeMsat selfPayment = .error e ∧
        db' = db) ∨
      ∃ a, createSettledTransactionTx W env db row preimage feeMsat selfPayment = .ok (a, db')) :
    db'.transactions.select row.settledFilter ≠ [] := by
  rcases hx with ⟨e, he, -⟩ | ⟨a, ha⟩
  · have hstorable : (settleUpdate preimage feeMsat selfPayment env.now row).Storable :=
      ⟨hamount, hfee, Nat.two_pow_pos 63⟩
    unfold createSettledTransactionTx createTx at he
    rw [if_pos hstorable] at he
    split at he <;> cases he
  · rcases createSettledTransactionTx_ok ha with ⟨existing, hmem, hm, -, rfl⟩ |
      ⟨-, -, -, -, -, ht⟩
    · exact select_settledFilter_of_mem hmem hm
    · rw [ht]
      exact Table.select_settledFilter_ne_nil (Table.mem_create.2 (.inr rfl)) rfl rfl

/-- After a failure the row is not pending: it is failed, or was settled. Reference:
`transactions/transactions_service.go:1709 markPaymentFailed`. -/
theorem markPaymentFailedTx_stores {db db' : DB} (hknows : db.transactions.Knows row)
    (hx : (∃ e, markPaymentFailedTx env db row reason = .error e ∧ db' = db) ∨
      ∃ a, markPaymentFailedTx env db row reason = .ok (a, db')) :
    ∀ r ∈ db'.transactions.rows, r.id = row.id → r.state ≠ .pending := by
  intro r hr hid
  rcases hx with ⟨e, he, rfl⟩ | ⟨⟨marked, copy⟩, ha⟩
  · obtain ⟨existing, hmem, heid, hst⟩ := markPaymentFailedTx_error hknows he
    rw [Table.eq_of_id hr hmem (hid.trans heid.symm), hst]
    decide
  · obtain ⟨existing, hmem, heid, ⟨hst, -, -, rfl⟩ | ⟨-, -, -, rfl⟩⟩ := markPaymentFailedTx_ok ha
    · rw [Table.eq_of_id hr hmem (hid.trans (hknows.existing_id heid).symm), hst]
      decide
    · rcases Table.of_mem_update hr with ⟨-, hne⟩ | ⟨r₀, -, -, rfl⟩
      · exact absurd hid hne
      · exact TransactionState.noConfusion

/-- A command that ends the event stores it, unless the database fails. Reference:
`transactions/transactions_service.go:794 ConsumeEvent`. -/
theorem exec_stores {c : Cmd} {a : c.Ans} (hf : env.fault = none) (hi : event.Issues h c)
    (ht : ∀ call ∈ h, Truthful call) (hc : c.Sourced s.db.transactions)
    (hx : exec W s c env = some (a, s')) (he : event.EndedBy ⟨c, a⟩) :
    event.Stores c ∧ event.StoredBy s.db.transactions s'.db.transactions c := by
  cases c with
  | find q order =>
    simp only [exec, Hub.read, hf] at hx
    cases hx
    cases hp : pick env.pick (order.first (s.db.transactions.select q)) with
    | some row =>
      rw [hp] at he
      exact he.elim
    | none =>
      rw [hp] at he
      obtain ⟨rfl, hfirst⟩ := hi he
      refine ⟨he, ?_⟩
      rw [hfirst, pick_eq_none] at hp
      exact hp
  | markTransactionSettledTx row preimage feeMsat selfPayment =>
    obtain ⟨hfee, hfound⟩ := hi
    exact ⟨he, hfound.matches ht,
      markTransactionSettledTx_stores hfee hc (Hub.transaction_of_no_fault hf hx)⟩
  | createSettledTransactionTx row preimage feeMsat selfPayment =>
    obtain ⟨hfee, hamount, hty, hhash⟩ := hi
    refine ⟨he, ⟨.inl rfl, .inr ?_, .inl rfl, .inl rfl, .inr hhash⟩,
      createSettledTransactionTx_stores hfee hamount (Hub.transaction_of_no_fault hf hx)⟩
    exact congrArg some hty.symm
  | markPaymentFailedTx row reason =>
    exact ⟨he, hi.matches ht, markPaymentFailedTx_stores hc (Hub.transaction_of_no_fault hf hx)⟩
  | markHoldInvoiceAcceptedTx paymentRequest paymentHash settleDeadline selfPayment =>
    refine ⟨he, hi.1, hi.2, ?_⟩
    rcases Hub.transaction_of_no_fault hf hx with ⟨e, hb, -⟩ | ⟨row, hb⟩
    · left
      simp only [markHoldInvoiceAcceptedTx] at hb
      split at hb
      · next hnone => simpa using hnone
      · cases hb
    · obtain ⟨r, hr, hacc, -, hdb⟩ := markHoldInvoiceAcceptedTx_ok hb
      have hmem : acceptUpdate settleDeadline selfPayment r ∈ s'.db.transactions.rows := by
        rw [hdb]
        exact Table.mem_update_self hr
      exact .inr ⟨r, hr, hacc, _, hmem, rfl, rfl⟩
  | _ => cases event <;> exact he.elim

end

/-! ## The runs of the event loop -/

/-- A hub before the first event of its node. Reference: none. -/
def LdkHub.Fresh (s : LdkHub) : Prop := s.pool.threads = [] ∧ s.handling = none ∧
    s.acknowledged = []

/-- The goroutine number `i` has returned. Reference: none. -/
def Pool.Returned (pool : Pool) (i : Nat) : Prop := ∃ t ∈ pool.threads[i]?, t.rest.done = true

/-- The loop acknowledges a payment event only once its goroutine, which was started and can store
it, has returned, and the database does not fail that goroutine. Reference:
`lnclient/ldk/ldk.go:352`, `events/events.go:60 publish`. -/
def LdkHub.Waits (W : World) (s : LdkHub) : LdkStep → Prop
  | .acknowledge _ => ∀ h ∈ s.handling, h.event.IsPayment →
    ∃ consumer ∈ h.consumer, consumer.1.Storable W ∧ s.pool.Returned consumer.2
  | .run i env => ∀ h ∈ s.handling, ∀ consumer ∈ h.consumer, consumer.2 = i → env.fault = none
  | _ => True

/-- Every step of the run waits. Reference: none. -/
def LdkHub.AlwaysWaits (W : World) : LdkHub → List LdkStep → Prop
  | _, [] => True
  | s, l :: ls => s.Waits W l ∧ ∀ s', s.step W l = some s' → LdkHub.AlwaysWaits W s' ls

instance (tx : LnTransaction) : Decidable tx.Recordable := inferInstanceAs (Decidable (_ ∧ _))

theorem marshals_iff (W : World) (metadata : Option Metadata) :
    metadata.all (fun fields => (W.marshal (.object fields)).isOk) = true ↔
      ∀ fields, metadata = some fields → ∃ bytes, W.marshal (.object fields) = .ok bytes := by
  cases metadata with
  | none => simp
  | some fields => cases hm : W.marshal (.object fields) <;> simp [hm, Except.isOk, Except.toBool]

instance (W : World) : ∀ event : NodeEvent, Decidable (event.Storable W)
  | .paymentReceived tx =>
    have : Decidable (∀ fields, tx.metadata = some fields →
        ∃ bytes, W.marshal (.object fields) = .ok bytes) := decidable_of_iff _ (marshals_iff W _)
    inferInstanceAs (Decidable (_ ∧ _))
  | .paymentSent tx => inferInstanceAs (Decidable tx.Recordable)
  | .paymentFailed _ _ => inferInstanceAs (Decidable True)
  | .holdInvoiceAccepted tx => inferInstanceAs (Decidable (tx.settleDeadline ≠ none))

instance (pool : Pool) (i : Nat) : Decidable (pool.Returned i) :=
  inferInstanceAs (Decidable (∃ t ∈ pool.threads[i]?, t.rest.done = true))

instance (W : World) (s : LdkHub) : ∀ l, Decidable (s.Waits W l)
  | .acknowledge _ => inferInstanceAs (Decidable (∀ h ∈ s.handling, h.event.IsPayment →
      ∃ consumer ∈ h.consumer, consumer.1.Storable W ∧ s.pool.Returned consumer.2))
  | .run i env => inferInstanceAs (Decidable (∀ h ∈ s.handling, ∀ consumer ∈ h.consumer,
      consumer.2 = i → env.fault = none))
  | .emit _ | .handle _ | .drop | .spawn _ | .crash => inferInstanceAs (Decidable True)

instance LdkHub.decidableAlwaysWaits (W : World) :
    ∀ (s : LdkHub) (ls : List LdkStep), Decidable (s.AlwaysWaits W ls)
  | _, [] => isTrue trivial
  | s, l :: ls =>
    have : Decidable (∀ s', s.step W l = some s' → s'.AlwaysWaits W ls) :=
      match s.step W l with
      | none => isTrue fun _ h => nomatch h
      | some s' =>
        have := LdkHub.decidableAlwaysWaits W s' ls
        decidable_of_iff (s'.AlwaysWaits W ls)
          ⟨fun h _ he => Option.some.inj he ▸ h, fun h => h s' rfl⟩
    inferInstanceAs (Decidable (_ ∧ _))

/-- The goroutine number `i` is on its way to store the event, or has stored it. Reference: none. -/
structure Pool.Consumes (pool : Pool) (event : NodeEvent) (i : Nat) (stored : Bool) : Prop where
  intro ::
  thread : ∃ t, pool.threads[i]? = some t ∧
    Follows event.Issues (fun h' _ => event.Ended h') t.hist t.rest ∧
    (∀ call ∈ t.hist, Truthful call) ∧ (event.Ended t.hist → stored = true)

/-- The invariant of a hub with an LDK node. Reference: none. -/
structure LdkHub.Sound (W : World) (s : LdkHub) : Prop where
  pool : s.pool.Disciplined (fun _ => SourcedBy) (fun _ => anyResult) (fun _ => True)
    (fun _ => KnownRows)
  acknowledged : ∀ a ∈ s.acknowledged, a.1.IsPayment → a.2 = true
  handling : ∀ h event i, s.handling = some h → h.consumer = some (event, i) → event.Storable W →
    s.pool.Consumes event i h.stored

section
variable {W : World} {s s' : LdkHub} {pool pool' : Pool} {event : NodeEvent} {h : Handling}
variable {i j : Nat} {env : Env} {stored : Bool}

/-- The pool of a hub keeps its discipline. Reference: none. -/
theorem LdkHub.Sound.pool_step {l : PoolLabel} (hs : s.Sound W)
    (hstep : s.pool.step (exec W) (body W) l = some pool') :
    pool'.Disciplined (fun _ => SourcedBy) (fun _ => anyResult) (fun _ => True)
      (fun _ => KnownRows) := by
  have hsound : Interaction.Sound (exec W) (body W) anyStep (fun _ => SourcedBy) (fun _ =>
    anyResult)
      (fun _ _ _ _ _ => True) (fun _ => True) (fun _ => KnownRows) :=
    sound_of_ledger W (fun _ => True) fun _ _ => trivial
  exact hs.pool.step hsound trivial hstep

/-- A new goroutine. Reference: `events/events.go:60 publish`. -/
theorem consumes_body (hst : event.Storable W) (ts : List HubThread) :
    Pool.Consumes ⟨pool.state,
      ts ++ [⟨.consumeEvent event, [], body W (.consumeEvent event)⟩]⟩ event
      ts.length false := by
  refine ⟨_, List.getElem?_concat_length, ?_, fun _ hcall => absurd hcall List.not_mem_nil, ?_⟩
  · exact (ended_consumeEvent hst).bind fun _ _ _ he => he
  · rintro ⟨call, hcall, -⟩
    cases hcall

/-- A new call does not disturb the goroutine. Reference: none. -/
theorem Pool.Consumes.append {t : HubThread} (hc : pool.Consumes event i stored) :
    Pool.Consumes ⟨pool.state, pool.threads ++ [t]⟩ event i stored := by
  obtain ⟨t₀, hi, hrest⟩ := hc
  refine ⟨t₀, ?_, hrest⟩
  rw [List.getElem?_append_left (List.getElem?_eq_some_iff.1 hi).1]
  exact hi

/-- A step of the goroutine itself, or of another call. Reference: none. -/
theorem Pool.Consumes.run (hc : pool.Consumes event j h.stored)
    (hd : pool.Disciplined (fun _ => SourcedBy) (fun _ => anyResult) (fun _ => True)
      (fun _ => KnownRows))
    (hconsumer : h.consumer = some (event, j)) (hf : j = i → env.fault = none)
    (hstep : pool.step (exec W) (body W) (.run i env) = some pool') :
    pool'.Consumes event j (h.after pool pool' i).stored := by
  obtain ⟨t, ht, hfollows, htruth, hended⟩ := hc
  obtain ⟨op, hist, c, k, a, s', hi, hx, rfl⟩ := Config.step_run hstep
  by_cases hij : j = i
  · subst hij
    obtain rfl : t = _ := Option.some.inj (ht.symm.trans hi)
    have hlt := (List.getElem?_eq_some_iff.1 hi).1
    refine ⟨_, List.getElem?_set_self hlt, hfollows.2 a, ?_, ?_⟩
    · intro call hcall
      rcases List.mem_cons.1 hcall with rfl | hcall
      · exact exec_truthful hx
      · exact htruth call hcall
    · rintro ⟨call, hcall, hend⟩
      rcases List.mem_cons.1 hcall with rfl | hcall
      · have hmem := List.mem_of_getElem? hi
        have hsourced := (hd.issues hi).sourced (hd.known _ hmem)
        obtain ⟨hstores, hstored⟩ := exec_stores (hf rfl) hfollows.1 htruth hsourced hx hend
        have hnext : pool.next j = some c := by rw [Pool.next, hi]; rfl
        simp [Handling.after, Handling.storedBy, hconsumer, hnext, hstores, hstored]
      · have := hended ⟨call, hcall, hend⟩
        simp [Handling.after, this]
  · refine ⟨t, ?_, hfollows, htruth, fun he => ?_⟩
    · rw [List.getElem?_set_ne (Ne.symm hij)]
      exact ht
    · simp [Handling.after, hended he]

/-- The step of the loop that handles an event. Reference: `lnclient/ldk/ldk.go:345`. -/
theorem LdkHub.Sound.handle (hs : s.Sound W) (node : String → Option PaymentDetails)
    (event : LdkEvent) : (s.handle W node event).Sound W := by
  unfold LdkHub.handle
  split
  · refine ⟨hs.pool, hs.acknowledged, fun h event i hh hc => ?_⟩
    cases hh
    cases hc
  · next nodeEvent _ =>
    refine ⟨hs.pool_step (l := .spawn (.consumeEvent nodeEvent)) rfl, hs.acknowledged,
      fun h event i hh hc hst => ?_⟩
    cases hh
    cases hc
    exact consumes_body hst s.pool.threads

/-- One step that waits keeps the invariant. Reference: none. -/
theorem LdkHub.Sound.step {l : LdkStep} (hs : s.Sound W) (hw : s.Waits W l)
    (hstep : s.step W l = some s') : s'.Sound W := by
  cases l with
  | emit event =>
    cases hstep
    exact ⟨hs.pool, hs.acknowledged, hs.handling⟩
  | handle node =>
    simp only [LdkHub.step] at hstep
    split at hstep
    · cases hstep
      exact hs.handle node _
    · cases hstep
  | acknowledge ok =>
    simp only [LdkHub.step] at hstep
    split at hstep
    · cases hstep
    · next h hh =>
      cases hstep
      refine ⟨hs.pool, fun a ha hpay => ?_, fun _ _ _ hh => (nomatch hh)⟩
      rcases List.mem_append.1 ha with ha | ha
      · exact hs.acknowledged a ha hpay
      · obtain rfl := List.mem_singleton.1 ha
        -- the goroutine has returned, so the event has ended
        obtain ⟨⟨event, i⟩, hc, hst, t, ht, hdone⟩ := hw h hh hpay
        obtain ⟨t', ht', hfollows, -, hended⟩ := hs.handling h event i hh hc hst
        obtain rfl : t' = t := Option.some.inj (ht'.symm.trans ht)
        refine hended ?_
        cases hrest : t'.rest with
        | ret x =>
          rw [hrest] at hfollows
          exact hfollows
        | cmd c k =>
          rw [hrest] at hdone
          cases hdone
  | drop =>
    cases hstep
    exact ⟨hs.pool, hs.acknowledged, fun _ _ _ hh => (nomatch hh)⟩
  | spawn op =>
    simp only [LdkHub.step, Option.map_eq_some_iff] at hstep
    obtain ⟨pool', hpool, rfl⟩ := hstep
    refine ⟨hs.pool_step hpool, hs.acknowledged, fun h event i hh hc hst => ?_⟩
    cases hpool
    exact (hs.handling h event i hh hc hst).append
  | run i env =>
    obtain ⟨pool', hpool, rfl⟩ := Option.map_eq_some_iff.1 hstep
    refine ⟨hs.pool_step hpool, hs.acknowledged, fun h event j hh hc hst => ?_⟩
    obtain ⟨h₀, hh₀, rfl⟩ := Option.map_eq_some_iff.1 hh
    exact (hs.handling h₀ event j hh₀ hc hst).run hs.pool hc (hw h₀ hh₀ (event, j) hc) hpool
  | crash =>
    simp only [LdkHub.step, Option.map_eq_some_iff] at hstep
    obtain ⟨pool', hpool, rfl⟩ := hstep
    exact ⟨hs.pool_step hpool, hs.acknowledged, fun _ _ _ hh => (nomatch hh)⟩

/-- A run whose steps wait keeps the invariant. Reference: none. -/
theorem LdkHub.Sound.run {ls : List LdkStep} (hs : s.Sound W) (hw : s.AlwaysWaits W ls)
    (hr : s.run W ls = some s') : s'.Sound W := by
  induction ls generalizing s with
  | nil =>
    cases hr
    exact hs
  | cons l ls ih =>
    obtain ⟨s₁, hstep, hr⟩ := Option.bind_eq_some_iff.1 hr
    exact ih (hs.step hw.1 hstep) (hw.2 s₁ hstep) hr

theorem LdkHub.Fresh.sound (h0 : s.Fresh) : s.Sound W := by
  obtain ⟨hthreads, hhandling, hack⟩ := h0
  have none_left : ∀ t, t ∉ s.pool.threads := fun t ht => by
    rw [hthreads] at ht
    cases ht
  refine ⟨⟨trivial, fun t ht => absurd ht (none_left t), fun t ht => absurd ht (none_left t),
    fun t ht => absurd ht (none_left t)⟩, fun a ha => ?_, fun h event i hh => ?_⟩
  · rw [hack] at ha
    cases ha
  · rw [hhandling] at hh
    cases hh

/-- Over every sequence of node events, calls and crashes: where the loop acknowledges an event only
after its goroutine has returned, the effect of every acknowledged payment event is stored.
Reference: `lnclient/ldk/ldk.go:320`, `events/events.go:48 publish`. -/
theorem acknowledged_stored {ls : List LdkStep} (h0 : s.Fresh) (hw : s.AlwaysWaits W ls)
    (hr : s.run W ls = some s') : ∀ a ∈ s'.acknowledged, a.1.IsPayment → a.2 = true :=
  (h0.sound.run hw hr).acknowledged

end

/-- A node that has received a keysend. Reference: `lnclient/ldk/ldk.go:1552
ldkPaymentToTransaction`. -/
def receivedNode (paymentId : String) : Option PaymentDetails :=
  if paymentId = "id" then some {
    kind := .spontaneous wrappedHash (some wrappedPreimage) []
    succeeded := true
    amountMsat := some 1000 }
  else none

/-- A hub over an empty table. Reference: none. -/
def demoLdkHub : LdkHub := ⟨demoPool .empty, [], none, []⟩

/-- The keysend is received and handled, its goroutine runs to its end, then the event is
acknowledged. Reference: none. -/
def waitingRun : List LdkStep :=
  [.emit (.paymentReceived (some "id")), .handle receivedNode] ++
    List.replicate 3 (.run 0 { now := demoNow }) ++ [.acknowledge true, .crash]

/-- The loop acknowledges the event before its goroutine has run. Reference:
`lnclient/ldk/ldk.go:352`. -/
def hastyRun : List LdkStep :=
  [.emit (.paymentReceived (some "id")), .handle receivedNode, .acknowledge true, .crash]

/-- The keysend is acknowledged, the hub crashes, and nothing is left of it. Reference:
`events/events.go:60 publish`. -/
theorem received_lost : demoLdkHub.Fresh ∧ ∃ s, demoLdkHub.run demo hastyRun = some s ∧
    s.acknowledged = [(.paymentReceived (some "id"), false)] ∧ s.queue = [] ∧
    s.pool.threads = [] ∧ s.pool.state.db.transactions.rows = [] :=
  ⟨⟨rfl, rfl, rfl⟩, _, rfl, by decide, rfl, rfl, rfl⟩

/-- Where the loop waits, the keysend is stored before it is acknowledged. Reference:
`lnclient/ldk/ldk.go:352`. -/
theorem acknowledged_stored_keysend : demoLdkHub.AlwaysWaits demo waitingRun ∧
    ∃ s, demoLdkHub.run demo waitingRun = some s ∧
      (.paymentReceived (some "id"), true) ∈ s.acknowledged ∧
      ∀ a ∈ s.acknowledged, a.1.IsPayment → a.2 = true := by
  have hw : demoLdkHub.AlwaysWaits demo waitingRun := by decide +kernel
  exact ⟨hw, _, rfl, by decide +kernel, acknowledged_stored ⟨rfl, rfl, rfl⟩ hw rfl⟩

end AlbyHub
