import AlbyHub.LnClient.LdkEvents
import AlbyHub.LnClient.Payments

/-!
# The final failures of payments

Four clients tell the transactions service that a payment has failed for good: each converts what
its node says and publishes the event `nwc_lnclient_payment_failed`, whose properties have no static
type. The service casts the properties to `*lnclient.PaymentFailedEventProperties` and drops the
event when they are something else, which is what the client of CLN publishes.
`failure_takes_effect` says exactly which failures reach their row.
-/

namespace AlbyHub

open Go Interaction

/-! ## The bus -/

/-- The types of properties that the events of the clients have. Reference: `events/models.go`,
`lnclient/models.go:29 Transaction`, `lnclient/models.go:209 PaymentFailedEventProperties`. -/
inductive Properties where
  | transaction (tx : LnTransaction)
  | paymentFailed (tx : LnTransaction) (reason : String)

/-- Reference: `events/models.go Event`. -/
structure BusEvent where
  event : String
  properties : Properties

/-- An event of the bus, as the service takes it: one whose properties cannot be cast is logged and
dropped. Reference: `transactions/transactions_service.go:794 ConsumeEvent`. -/
def BusEvent.cast (e : BusEvent) : Option NodeEvent :=
  match e.properties with
  | .transaction tx =>
    if e.event = "nwc_lnclient_payment_received" then some (.paymentReceived tx)
    else if e.event = "nwc_lnclient_hold_invoice_accepted" then some (.holdInvoiceAccepted tx)
    else if e.event = "nwc_lnclient_payment_sent" then some (.paymentSent tx)
    else none
  | .paymentFailed tx reason =>
    if e.event = "nwc_lnclient_payment_failed" then some (.paymentFailed tx reason) else none

/-- Reference: `transactions/transactions_service.go:794 ConsumeEvent`. -/
def ConsumeBusEvent (W : World) (e : BusEvent) : Svc Unit :=
  match e.cast with
  | none => return ()
  | some event => ConsumeEvent W event

/-! ## LDK -/

/-- Reference: ldk-node `PaymentFailureReason`. -/
inductive PaymentFailureReason where
  | recipientRejected | userAbandoned | retriesExhausted | paymentExpired | routeNotFound
  | unexpectedError | unknownRequiredFeatures | invoiceRequestExpired | invoiceRequestRejected
  | blindedPathCreationFailed
  deriving DecidableEq, Repr

/-- Reference: `lnclient/ldk/ldk.go:2173 getPaymentFailReason`. -/
def getPaymentFailReason : Option PaymentFailureReason → String
  | some .recipientRejected => "RecipientRejected"
  | some .userAbandoned => "UserAbandoned"
  | some .retriesExhausted => "RetriesExhausted"
  | some .paymentExpired => "PaymentExpired"
  | some .routeNotFound => "RouteNotFound"
  | some .unexpectedError => "UnexpectedError"
  | some .unknownRequiredFeatures => "UnknownRequiredFeatures"
  | some .invoiceRequestExpired => "InvoiceRequestExpired"
  | some .invoiceRequestRejected => "InvoiceRequestRejected"
  | some .blindedPathCreationFailed => "BlindedPathCreationFailed"
  | none => "UnknownError"

/-- An event of the handler on the bus. Reference: `lnclient/ldk/ldk.go:1678 handleLdkEvent`. -/
def NodeEvent.onBus : NodeEvent → BusEvent
  | .paymentReceived tx => ⟨"nwc_lnclient_payment_received", .transaction tx⟩
  | .holdInvoiceAccepted tx => ⟨"nwc_lnclient_hold_invoice_accepted", .transaction tx⟩
  | .paymentSent tx => ⟨"nwc_lnclient_payment_sent", .transaction tx⟩
  | .paymentFailed tx reason => ⟨"nwc_lnclient_payment_failed", .paymentFailed tx reason⟩

@[simp] theorem NodeEvent.cast_onBus (event : NodeEvent) : event.onBus.cast = some event := by
  cases event <;> rfl

/-! ## LND -/

/-- A payment in the stream of all payments. Reference: LND `lnrpc.Payment`. -/
structure TrackedPayment extends LNDPayment where
  paymentRequest : String := ""
  paymentHash : String
  valueMsat : Int := 0
  creationTimeNs : Int := 0

/-- The time of its creation is left out. Reference: `lnclient/lnd/lnd.go:1544
lndPaymentToTransaction`. -/
def lndPaymentToTransaction (W : World) (payment : TrackedPayment) : Except String LnTransaction :=
  let settledAt :=
    if payment.status = .succeeded then some (payment.creationTimeNs / 1000000000) else none
  let transaction : LnTransaction := {
    invoice := payment.paymentRequest
    preimage := payment.paymentPreimage
    paymentHash := payment.paymentHash
    amountMsat := payment.valueMsat
    feesPaidMsat := payment.feeMsat
    settledAt }
  if payment.paymentRequest ≠ "" then
    (W.decodepay (toLower W.lowerNonAscii payment.paymentRequest)).map fun paymentRequest =>
      { transaction with
        description := paymentRequest.description
        descriptionHash := paymentRequest.descriptionHash
        expiresAt := some (expiresAtUnix paymentRequest) }
  else .ok transaction

/-- What is published for a payment of the stream. Reference: `lnclient/lnd/lnd.go:171
subscribePayments`. -/
def lndPaymentEvent (W : World) (payment : TrackedPayment) : Option BusEvent :=
  match payment.status with
  | .failed => (lndPaymentToTransaction W payment).toOption.map fun transaction =>
      ⟨"nwc_lnclient_payment_failed", .paymentFailed transaction payment.failureReason⟩
  | .succeeded => (lndPaymentToTransaction W payment).toOption.map fun transaction =>
      ⟨"nwc_lnclient_payment_sent", .transaction transaction⟩
  | .unknown | .inFlight | .initiated => none

/-! ## CLN -/

/-- Reference: CLN `SendPayFailureNotification`, `SendpayFailureData`. -/
structure SendpayFailure where
  bolt11 : Option String := none
  bolt12 : Option String := none
  amountMsat : Option Nat := none
  amountSentMsat : Option Nat := none
  completedAt : Option Nat := none
  description : String := ""
  paymentPreimage : List UInt8 := []
  paymentHash : List UInt8

/-- Reference: CLN `DecodeResponse`. -/
inductive DecodeResponse where
  | bolt12Invoice (offerAbsoluteExpiry : Option Nat)
  | bolt11Invoice (createdAt expiry : Option Nat) (descriptionHash : Option (List UInt8))
  | other

/-- `decode` is the node's answer to `Decode`; the time of the creation is left out. Reference:
`lnclient/cln/cln.go:362 clnSendpayFailureToTransaction`. -/
def clnSendpayFailureToTransaction (decode : String → Except String DecodeResponse)
    (data : Option SendpayFailure) : Except String LnTransaction :=
  match data with
  | none => .error "sendpay_failure data is nil"
  | some data =>
    let invstring := (data.bolt11.orElse fun _ => data.bolt12).getD ""
    let amountMsat := int64 (data.amountMsat.getD 0)
    let transaction : LnTransaction := {
      invoice := invstring
      description := data.description
      preimage := hexEncodeToString data.paymentPreimage
      paymentHash := hexEncodeToString data.paymentHash
      amountMsat
      feesPaidMsat := match data.amountSentMsat with
        | some amountSentMsat => wrapInt64 (int64 amountSentMsat - amountMsat)
        | none => 0
      expiresAt := some 0
      settledAt := some (int64 (data.completedAt.getD 0)) }
    if invstring = "" then .ok transaction
    else
      match decode invstring with
      | .error e => .error ("decode failed: " ++ e)
      | .ok (.bolt12Invoice offerAbsoluteExpiry) =>
        .ok { transaction with expiresAt := some (int64 (offerAbsoluteExpiry.getD 0)) }
      | .ok (.bolt11Invoice createdAt expiry descriptionHash) => .ok { transaction with
          expiresAt := some (match createdAt, expiry with
            | some createdAt, some expiry => wrapInt64 (int64 createdAt + int64 expiry)
            | _, _ => 0)
          descriptionHash := (descriptionHash.map hexEncodeToString).getD "" }
      | .ok .other =>
        .error ("invstring `" ++ invstring ++ "` is not a bolt11 or bolt12 invoice")

/-- What is published for a failure of the stream: the transaction itself. Reference:
`lnclient/cln/cln.go:346 subscribeFailedPayments`. -/
def clnFailureEvent (decode : String →
    Except String DecodeResponse) (data : Option SendpayFailure) :
    Option BusEvent :=
  (clnSendpayFailureToTransaction decode data).toOption.map fun transaction =>
    ⟨"nwc_lnclient_payment_failed", .transaction transaction⟩

/-! ## Bark -/

/-- Reference: Bark `Movement`. -/
structure Movement where
  status : String
  paymentHash : Option String
  offchainFeeSats : Nat := 0

/-- Where a result goes: to the call that waits for it, or on the bus. Reference:
`lnclient/bark/bark.go:375 deliverSendResult`. -/
inductive Delivery where
  | waiter (result : Except String PayInvoiceResponse)
  | publish (event : BusEvent)

/-- Reference: `lnclient/bark/bark.go:375 deliverSendResult`. -/
def deliverSendResult (waiting : Bool) (result : Except String PayInvoiceResponse)
    (fallback : Option BusEvent) : Option Delivery :=
  if waiting then some (.waiter result) else fallback.map .publish

/-- Reference: `lnclient/bark/bark.go:385 paymentHashFromMovement`. -/
def paymentHashFromMovement (movement : Movement) : Option String :=
  match movement.paymentHash with
  | none => none
  | some paymentHash => if paymentHash = "" then none else some paymentHash

/-- A movement of a payment. `preimage` is the answer of `getSettledSendPreimage`, `now` the time.
Reference: `lnclient/bark/bark.go:293 handleLightningSendMovement`. -/
def handleLightningSendMovement (preimage : String → Except String String) (now : Int)
    (waiting : Bool) (movement : Movement) : Option Delivery :=
  if movement.status = "pending" then none
  else
    match paymentHashFromMovement movement with
    | none => none
    | some paymentHash =>
      if movement.status ≠ "successful" then
        let reason := "bark lightning send " ++ movement.status
        deliverSendResult waiting (.error reason)
          (some ⟨"nwc_lnclient_payment_failed", .paymentFailed { paymentHash } reason⟩)
      else
        match preimage paymentHash with
        | .error e =>
          deliverSendResult waiting
            (.error ("bark lightning send completed without a preimage: " ++ e)) none
        | .ok preimage =>
          let feeMsat := uint64 (movement.offchainFeeSats * 1000)
          deliverSendResult waiting (.ok ⟨preimage, feeMsat⟩)
            (some ⟨"nwc_lnclient_payment_sent",
              .transaction
                { paymentHash, preimage, feesPaidMsat := int64 feeMsat, settledAt := some now }⟩)

/-! ## What a failure does -/

/-- A final failure as the client gets it from its node; the answers of the node that the conversion
asks for are given with it. `waiting` is the row of the call that waits for the payment at the
client. Reference: `lnclient/ldk/ldk.go:1846`, `lnclient/lnd/lnd.go:171`, `lnclient/cln/cln.go:335`,
`lnclient/bark/bark.go:293`. -/
inductive FailureNotification where
  | ldk (paymentHash : Option String) (node : String → Option PaymentDetails)
      (paymentId : Option String) (reason : Option PaymentFailureReason)
  | lnd (payment : TrackedPayment)
  | cln (decode : String → Except String DecodeResponse) (data : Option SendpayFailure)
  | bark (preimage : String → Except String String) (now : Int) (movement : Movement)
      (waiting : Option Transaction)

namespace FailureNotification

/-- Reference: `lnclient/bark/bark.go:538 takeInflightSend`. -/
def waiting : FailureNotification → Option Transaction
  | .bark _ _ _ waiting => waiting
  | _ => none

/-- What the client makes of the notification. Reference: `lnclient/ldk/ldk.go:1846`,
`lnclient/lnd/lnd.go:171`, `lnclient/cln/cln.go:346`, `lnclient/bark/bark.go:293`. -/
def delivery (W : World) : FailureNotification → Option Delivery
  | .ldk _ node paymentId reason =>
    (handleLdkEvent W node (.paymentFailed paymentId (getPaymentFailReason reason))).map
      fun event => .publish event.onBus
  | .lnd payment => (lndPaymentEvent W payment).map .publish
  | .cln decode data => (clnFailureEvent decode data).map .publish
  | .bark preimage now movement waiting =>
    handleLightningSendMovement preimage now waiting.isSome movement

/-- The notification in the hub: the service consumes the event, or the waiting call goes on with
the result. Reference: `transactions/transactions_service.go:794 ConsumeEvent`, `:441
SendPaymentSync`. -/
def handle (W : World) (n : FailureNotification) : Svc Unit :=
  match n.delivery W, n.waiting with
  | some (.publish event), _ => ConsumeBusEvent W event
  | some (.waiter result), some dbTransaction => do
    let _ ← finishPayment dbTransaction false (result.mapError .message)
    return ()
  | _, _ => return ()

end FailureNotification

/-- The hash that the details of a payment have. Reference: ldk-node `PaymentKind`. -/
def PaymentKind.hash : PaymentKind → Option String
  | .bolt11 hash _ _ | .bolt11Jit hash _ _ | .spontaneous hash _ _ => some hash
  | .bolt12Offer hash _ _ _ => hash
  | .other => none

/-- The hash that the converted payment has: that of an invoice that is not there is left out.
Reference: `lnclient/ldk/ldk.go:1491 ldkPaymentToTransaction`. -/
def PaymentKind.kept : PaymentKind → String
  | .bolt11 hash _ (some _) | .bolt11Jit hash _ _ | .spontaneous hash _ _ => hash
  | .bolt12Offer hash _ _ _ => hash.getD ""
  | .bolt11 _ _ none | .other => ""

/-- The details of a payment can be converted. Reference: `lnclient/ldk/ldk.go:1494`, `:1538
ldkPaymentToTransaction`. -/
def PaymentKind.Converts (W : World) : PaymentKind → Prop
  | .bolt11 _ _ (some invoice) => ∃ paymentRequest,
    W.decodepay (toLower W.lowerNonAscii invoice) = .ok paymentRequest
  | .bolt12Offer none _ _ _ => False
  | _ => True

/-- No other payment is pending. Reference: none. -/
def Table.OnlyPending (t : Table) (row : Transaction) : Prop :=
  ∀ r ∈ t.rows, r.type = .outgoing → r.state = .pending → r = row

namespace FailureNotification

/-- The notification is the final failure of the payment with the hash. Reference: ldk-node
`PaymentFailed`, LND `lnrpc.Payment`, CLN `sendpay_failure`, Bark `Movement`. -/
def IsFor (hash : String) : FailureNotification → Prop
  | .ldk paymentHash node paymentId _ => paymentHash = some hash ∧
    ∀ id details, paymentId = some id → node id = some details →
      ∀ hash', details.kind.hash = some hash' → hash' = hash
  | .lnd payment => payment.status = .failed ∧ payment.paymentHash = hash
  | .cln _ data => ∀ failure, data = some failure → hexEncodeToString failure.paymentHash = hash
  | .bark _ _ movement _ => movement.status ≠ "pending" ∧ movement.status ≠ "successful" ∧
    movement.paymentHash = some hash

/-- The notification reaches the row: the client can convert it and publishes it with the hash, and
it is not the client of CLN. Where the hash gets lost the lookup takes any pending payment.
Reference: `lnclient/ldk/ldk.go:1846`, `lnclient/lnd/lnd.go:171`, `lnclient/cln/cln.go:351`,
`lnclient/bark/bark.go:293`. -/
def Reaches (W : World) (t : Table) (row : Transaction) : FailureNotification → Prop
  | .ldk _ node paymentId _ => ∃ id details, paymentId = some id ∧ node id = some details ∧
    details.kind.Converts W ∧ (details.kind.kept ≠ "" ∨ t.OnlyPending row)
  | .lnd payment => (payment.paymentRequest = "" ∨ ∃ paymentRequest,
      W.decodepay (toLower W.lowerNonAscii payment.paymentRequest) = .ok paymentRequest) ∧
    (row.paymentHash ≠ "" ∨ t.OnlyPending row)
  | .cln _ _ => False
  | .bark _ _ _ _ => row.paymentHash ≠ ""

end FailureNotification

/-- The commands while the database works. Reference: none. -/
def calmExec (W : World) (s : Hub) (c : Cmd) (env : Env) : Option (c.Ans × Hub) :=
  if env.fault = none then exec W s c env else none

/-- The row is failed and reserves nothing. Reference: `transactions/transactions_service.go:1744
markPaymentFailed`. -/
def Transaction.FailedIn (row : Transaction) (db : DB) : Prop :=
  ∃ r ∈ db.transactions.rows, r.id = row.id ∧ r.state = .failed ∧ r.feeReserveMsat = 0

/-- The program fails the row, whatever the database answers. Reference: none. -/
def Fails (W : World) (s : Hub) (row : Transaction) (p : Svc Unit) : Prop :=
  (∃ s', p.Runs (calmExec W) s () s') ∧ ∀ s', p.Runs (calmExec W) s () s' → row.FailedIn s'.db

section
variable {W : World} {s s' : Hub} {row r w : Transaction} {reason : String} {env : Env}
  {n : FailureNotification} {tx : LnTransaction}

/-- The row with an id is found. Reference: gorm `Find` with a primary key. -/
theorem pick_id {t : Table} (hrow : row ∈ t.rows) (hid : w.id = row.id) (k : Nat) :
    pick k (t.select { id := w.id }) = some row := by
  have hpos := t.id_pos row hrow
  cases hp : pick k (t.select { id := w.id }) with
  | none =>
    have hmem : row ∈ t.select { id := w.id } :=
      Table.mem_select.2 ⟨hrow, by simp [Where.Matches, hid]⟩
    rw [pick_eq_none.1 hp] at hmem
    cases hmem
  | some found =>
    obtain ⟨hmem, hm⟩ := Table.mem_select.1 (mem_of_pick hp)
    have hfound : found.id = w.id := hm.1.resolve_left (show w.id ≠ 0 by omega)
    rw [Table.eq_of_id hmem hrow (hfound.trans hid)]

/-- What failing a pending row does. Reference: `transactions/transactions_service.go:1712
markPaymentFailed`. -/
theorem calm_markPaymentFailedTx (hrow : row ∈ s.db.transactions.rows)
    (hpend : row.state = .pending)
    (hid : w.id = row.id) (henv : env.fault = none) :
    calmExec W s (.markPaymentFailedTx w reason) env =
      some (.ok (true, failUpdate reason env.now w), { s with
        db := s.db.withTransactions
          (s.db.transactions.update row.id (failUpdate reason env.now)) }) := by
  have htx : markPaymentFailedTx env s.db w reason = .ok ((true, failUpdate reason env.now w),
      s.db.withTransactions (s.db.transactions.update row.id (failUpdate reason env.now))) := by
    rw [markPaymentFailedTx, pick_id hrow hid]
    simp only [hpend, hid]
  simp only [calmExec, henv, if_true, exec, Hub.transaction, htx, List.append_nil]

/-- A run that fails a pending row. Reference: `transactions/transactions_service.go:1709
markPaymentFailed`. -/
theorem calm_runs_markPaymentFailed (hrow : row ∈ s.db.transactions.rows)
    (hpend : row.state = .pending)
    (hid : w.id = row.id) {a : Except Err (Bool × Transaction)} :
    (markPaymentFailed w reason).Runs (calmExec W) s a s' ↔ ∃ now,
      a = .ok (true, failUpdate reason now w) ∧ s' = {
        db := s.db.withTransactions (s.db.transactions.update row.id (failUpdate reason now))
        published := s.published ++ [.paymentFailed (failUpdate reason now w)] } := by
  have hpublish : ∀ (s s' : Hub) (event : Event) (u : Unit),
      (publishEvents [event]).Runs (calmExec W) s u s' ↔
        s' = { s with published := s.published ++ [event] } := by
    intro s s' event u
    constructor
    · rintro ⟨e, u, s₁, hx, -, rfl⟩
      rw [calmExec] at hx
      split at hx
      · cases hx; rfl
      · cases hx
    · rintro rfl
      exact ⟨{}, (), _, rfl, rfl, rfl⟩
  constructor
  · intro hrun
    obtain ⟨e, r, s₁, hx, hrun⟩ := Prog.runs_call_bind.1 hrun
    have henv : e.fault = none := by
      rw [calmExec] at hx
      split at hx
      · assumption
      · cases hx
    rw [calm_markPaymentFailedTx hrow hpend hid henv] at hx
    cases hx
    obtain ⟨u, s₂, hpub, rfl, rfl⟩ := Prog.runs_bind.1 hrun
    exact ⟨e.now, rfl, (hpublish _ _ _ _).1 hpub⟩
  · rintro ⟨now, rfl, rfl⟩
    refine Prog.runs_call_bind.2 ⟨{ now := now }, _, _, calm_markPaymentFailedTx hrow hpend hid rfl,
      ?_⟩
    exact Prog.runs_bind.2 ⟨(), _, (hpublish _ _ _ _).2 rfl, rfl, rfl⟩

/-- The row that was pending is failed. Reference: `transactions/transactions_service.go:1744
markPaymentFailed`. -/
theorem failedIn_update {db : DB} (hrow : row ∈ db.transactions.rows) (now : Time) :
    row.FailedIn (db.withTransactions (db.transactions.update row.id (failUpdate reason now))) :=
  ⟨_, Table.mem_update_self hrow, by simp, rfl, rfl⟩

/-- A pending row is not failed. Reference: none. -/
theorem not_failedIn {db : DB} (hrow : row ∈ db.transactions.rows) (hpend : row.state = .pending) :
    ¬ row.FailedIn db := by
  rintro ⟨r, hr, hid, hst, -⟩
  rw [Table.eq_of_id hr hrow hid, hpend] at hst
  cases hst

/-- The call that waits fails its row. Reference: `transactions/transactions_service.go:441
SendPaymentSync`. -/
theorem fails_finishPayment (hrow : row ∈ s.db.transactions.rows) (hpend : row.state = .pending)
    (hid : w.id = row.id) {e : Err} :
    Fails W s row (do let _ ← finishPayment w false (.error e); return ()) := by
  have hruns : ∀ {a : Except Err Transaction} {s' : Hub},
      (finishPayment w false (.error e)).Runs (calmExec W) s a s' ↔
        a = .error e ∧ ∃ a', (markPaymentFailed w e.error).Runs (calmExec W) s a' s' := by
    intro a s'
    constructor
    · intro hrun
      obtain ⟨a', s₁, hrun, rfl, rfl⟩ := Prog.runs_bind.1 hrun
      exact ⟨rfl, a', hrun⟩
    · rintro ⟨rfl, a', hrun⟩
      exact Prog.runs_bind.2 ⟨a', _, hrun, rfl, rfl⟩
  constructor
  · obtain ⟨a, s', hrun⟩ : ∃ a s', (markPaymentFailed w e.error).Runs (calmExec W) s a s' :=
      ⟨_, _, (calm_runs_markPaymentFailed hrow hpend hid).2 ⟨0, rfl, rfl⟩⟩
    exact ⟨s', Prog.runs_bind.2 ⟨_, s', Prog.runs_bind.2 ⟨a, s', hrun, rfl, rfl⟩, rfl, rfl⟩⟩
  · intro s' hrun
    obtain ⟨a, s₁, hrun, -, rfl⟩ := Prog.runs_bind.1 hrun
    obtain ⟨a', s₂, hrun, -, rfl⟩ := Prog.runs_bind.1 hrun
    obtain ⟨now, -, rfl⟩ := (calm_runs_markPaymentFailed hrow hpend hid).1 hrun
    exact failedIn_update hrow now

/-- A program that returns at once does not fail the row. Reference: none. -/
theorem not_fails_pure (hrow : row ∈ s.db.transactions.rows) (hpend : row.state = .pending) :
    ¬ Fails W s row (return ()) := fun h => not_failedIn hrow hpend (h.2 s ⟨rfl, rfl⟩)

/-- The lookup for a failure: the hash of a payment, and no filter where the hash is empty.
Reference: `transactions/transactions_service.go:974 ConsumeEvent`. -/
theorem mem_lookup {t : Table} {hash : String} :
    r ∈ t.select { type := some .outgoing, state := some .pending, paymentHash := hash } ↔
      r ∈ t.rows ∧ r.type = .outgoing ∧ r.state = .pending ∧
        (hash = "" ∨ r.paymentHash = hash) := by
  rw [Table.mem_select]
  constructor
  · rintro ⟨hr, -, htype, hstate, -, hhash⟩
    exact ⟨hr, (Option.some.inj (htype.resolve_left nofun)).symm,
      (Option.some.inj (hstate.resolve_left nofun)).symm, hhash⟩
  · rintro ⟨hr, htype, hstate, hhash⟩
    exact ⟨hr, .inl rfl, .inr (congrArg some htype.symm), .inr (congrArg some hstate.symm),
      .inl rfl,
      hhash⟩

/-- An event with the hash of the payment, or with none, fails the row if and only if the lookup
finds nothing but the row. Reference: `transactions/transactions_service.go:964 ConsumeEvent`. -/
theorem fails_consumePaymentFailed (hrow : row ∈ s.db.transactions.rows)
    (hout : row.type = .outgoing) (hpend : row.state = .pending)
    (honly : ∀ r ∈ s.db.transactions.rows, r.type = .outgoing → r.state = .pending →
      r.paymentHash = row.paymentHash → r = row)
    (hhash : tx.paymentHash = "" ∨ tx.paymentHash = row.paymentHash) :
    Fails W s row (consumePaymentFailed tx reason) ↔
      tx.paymentHash ≠ "" ∨ s.db.transactions.OnlyPending row := by
  have hfind : ∀ e : Env, e.fault = none → calmExec W s (.find
      { type := some .outgoing, state := some .pending, paymentHash := tx.paymentHash } .none) e =
      some (.ok (pick e.pick (s.db.transactions.select
        { type := some .outgoing, state := some .pending, paymentHash := tx.paymentHash })),
          s) := by
    intro e he
    simp only [calmExec, he, if_true, exec, Hub.read, Order.first]
  have hmem : row ∈ s.db.transactions.select
      { type := some .outgoing, state := some .pending, paymentHash := tx.paymentHash } :=
    mem_lookup.2 ⟨hrow, hout, hpend, hhash.imp_right Eq.symm⟩
  -- a row that the lookup answers is failed
  have hcontinue : ∀ {r : Transaction} {k : Nat}, pick k (s.db.transactions.select
      { type := some .outgoing, state := some .pending, paymentHash := tx.paymentHash }) = some r →
      r ∈ s.db.transactions.rows ∧ r.state = .pending ∧
      (consumePaymentFailed tx reason).Runs (calmExec W) s () {
        db := s.db.withTransactions (s.db.transactions.update r.id (failUpdate reason 0))
        published := s.published ++ [.paymentFailed (failUpdate reason 0 r)] } := by
    intro r k hp
    obtain ⟨hr, -, hst, -⟩ := mem_lookup.1 (mem_of_pick hp)
    refine ⟨hr, hst, Prog.runs_call_bind.2 ⟨{ pick := k }, _, _, hfind _ rfl, ?_⟩⟩
    rw [hp]
    exact Prog.runs_bind.2 ⟨_, _, (calm_runs_markPaymentFailed hr hst rfl).2 ⟨0, rfl, rfl⟩, rfl,
      rfl⟩
  constructor
  · intro hfails
    refine Decidable.or_iff_not_imp_left.2 fun hempty r hr hro hrp => ?_
    have hempty : tx.paymentHash = "" := Decidable.not_not.1 hempty
    obtain ⟨k, hp⟩ := exists_pick (mem_lookup.2 ⟨hr, hro, hrp, .inl hempty⟩)
    obtain ⟨-, -, hrun⟩ := hcontinue hp
    refine Classical.byContradiction fun hne => ?_
    -- the lookup may answer the other row, and this one stays pending
    have hid : row.id ≠ r.id := fun h => hne (Table.eq_of_id hr hrow h.symm)
    exact not_failedIn (Table.mem_update_of_ne hrow hid) hpend (hfails.2 _ hrun)
  · intro hreach
    have hfound : ∀ k r, pick k (s.db.transactions.select
        { type := some .outgoing, state := some .pending, paymentHash := tx.paymentHash }) =
          some r →
        r = row := by
      intro k r hp
      obtain ⟨hr, hro, hrp, hrh⟩ := mem_lookup.1 (mem_of_pick hp)
      rcases hreach with hne | honly'
      · exact honly r hr hro hrp ((hrh.resolve_left hne).trans (hhash.resolve_left hne))
      · exact honly' r hr hro hrp
    constructor
    · obtain ⟨k, hp⟩ := exists_pick hmem
      exact ⟨_, (hcontinue hp).2.2⟩
    · intro s' hrun
      obtain ⟨e, a, s₁, hx, hrun⟩ := Prog.runs_call_bind.1 hrun
      have henv : e.fault = none := by
        rw [calmExec] at hx
        split at hx
        · assumption
        · cases hx
      rw [hfind e henv] at hx
      cases hx
      cases hp : pick e.pick (s.db.transactions.select
          { type := some .outgoing, state := some .pending, paymentHash := tx.paymentHash }) with
      | none =>
        rw [pick_eq_none.1 hp] at hmem
        cases hmem
      | some r =>
        rw [hp] at hrun
        obtain rfl := hfound _ _ hp
        obtain ⟨a, s₁, hrun, -, rfl⟩ := Prog.runs_bind.1 hrun
        obtain ⟨now, -, rfl⟩ := (calm_runs_markPaymentFailed hrow hpend rfl).1 hrun
        exact failedIn_update hrow now

/-- The conversion of a payment's details, where it succeeds. Reference: `lnclient/ldk/ldk.go:1471
ldkPaymentToTransaction`. -/
theorem ldkPaymentToTransaction_ok {details : PaymentDetails} (h : details.kind.Converts W) :
    ∃ tx, ldkPaymentToTransaction W details = .ok tx ∧ tx.paymentHash = details.kind.kept := by
  unfold ldkPaymentToTransaction
  cases hk : details.kind with
  | bolt11 hash preimage invoice =>
    rw [hk] at h
    cases invoice with
    | none => exact ⟨_, rfl, rfl⟩
    | some invoice =>
      obtain ⟨paymentRequest, hdecode⟩ := h
      simp only [hdecode]
      exact ⟨_, rfl, rfl⟩
  | bolt11Jit hash preimage fee => exact ⟨_, rfl, rfl⟩
  | bolt12Offer hash preimage offerId payerNote =>
    rw [hk] at h
    cases hash with
    | none => exact h.elim
    | some hash => exact ⟨_, rfl, rfl⟩
  | spontaneous hash preimage tlvs => exact ⟨_, rfl, rfl⟩
  | other => exact ⟨_, rfl, rfl⟩

/-- The conversion of a payment's details, where it fails. Reference: `lnclient/ldk/ldk.go:1494`,
`:1538 ldkPaymentToTransaction`. -/
theorem ldkPaymentToTransaction_error {details : PaymentDetails} (h : ¬ details.kind.Converts W) :
    ∃ e, ldkPaymentToTransaction W details = .error e := by
  unfold ldkPaymentToTransaction
  cases hk : details.kind with
  | bolt11 hash preimage invoice =>
    rw [hk] at h
    cases invoice with
    | none => exact (h trivial).elim
    | some invoice =>
      cases hdecode : W.decodepay (toLower W.lowerNonAscii invoice) with
      | error e =>
        simp only [hdecode]
        exact ⟨e, rfl⟩
      | ok paymentRequest => exact (h ⟨paymentRequest, hdecode⟩).elim
  | bolt12Offer hash preimage offerId payerNote =>
    rw [hk] at h
    cases hash with
    | none => exact ⟨_, rfl⟩
    | some hash => exact (h trivial).elim
  | bolt11Jit | spontaneous | other =>
    rw [hk] at h
    exact (h trivial).elim

/-- A converted payment has its hash or none. Reference: `lnclient/ldk/ldk.go:1471
ldkPaymentToTransaction`. -/
theorem kept_cases (kind : PaymentKind) : kind.kept = "" ∨ kind.hash = some kind.kept := by
  cases kind with
  | bolt11 hash preimage invoice =>
    cases invoice with
    | none => exact .inl rfl
    | some invoice => exact .inr rfl
  | bolt12Offer hash preimage offerId payerNote =>
    cases hash with
    | none => exact .inl rfl
    | some hash => exact .inr rfl
  | bolt11Jit | spontaneous => exact .inr rfl
  | other => exact .inl rfl

/-- A payment of the stream of LND is converted if and only if its invoice, where it has one, can be
decoded. Reference: `lnclient/lnd/lnd.go:1544 lndPaymentToTransaction`. -/
theorem lndPaymentToTransaction_cases (payment : TrackedPayment) :
    ((payment.paymentRequest = "" ∨ ∃ paymentRequest,
        W.decodepay (toLower W.lowerNonAscii payment.paymentRequest) = .ok paymentRequest) ∧
      ∃ tx, lndPaymentToTransaction W payment = .ok tx ∧ tx.paymentHash = payment.paymentHash) ∨
    (¬ (payment.paymentRequest = "" ∨ ∃ paymentRequest,
        W.decodepay (toLower W.lowerNonAscii payment.paymentRequest) = .ok paymentRequest) ∧
      ∃ e, lndPaymentToTransaction W payment = .error e) := by
  unfold lndPaymentToTransaction
  by_cases hempty : payment.paymentRequest = ""
  · exact .inl ⟨.inl hempty, _, if_neg (not_not_intro hempty), rfl⟩
  · rw [if_pos hempty]
    cases hdecode : W.decodepay (toLower W.lowerNonAscii payment.paymentRequest) with
    | ok paymentRequest => exact .inl ⟨.inr ⟨_, rfl⟩, _, rfl, rfl⟩
    | error e =>
      refine .inr ⟨fun h => ?_, e, rfl⟩
      rcases h with h | ⟨paymentRequest, h⟩
      · exact hempty h
      · cases h

/-- A transaction as the properties of a failure is dropped. Reference:
`transactions/transactions_service.go:965 ConsumeEvent`. -/
theorem handle_cln {decode : String → Except String DecodeResponse} {data : Option SendpayFailure} :
    (FailureNotification.cln decode data).handle W = return () := by
  cases htx : clnSendpayFailureToTransaction decode data with
  | error e => simp [FailureNotification.handle, FailureNotification.delivery, clnFailureEvent, htx,
      Except.toOption]
  | ok tx => simp [FailureNotification.handle, FailureNotification.delivery, clnFailureEvent, htx,
      Except.toOption, ConsumeBusEvent, BusEvent.cast]

/-- A failed payment of LND's stream. Reference: `lnclient/lnd/lnd.go:171 subscribePayments`. -/
theorem failure_takes_effect_of_lnd (hrow : row ∈ s.db.transactions.rows)
    (hout : row.type = .outgoing) (hpend : row.state = .pending)
    (honly : ∀ r ∈ s.db.transactions.rows, r.type = .outgoing → r.state = .pending →
      r.paymentHash = row.paymentHash → r = row) {payment : TrackedPayment}
    (hfor : (FailureNotification.lnd payment).IsFor row.paymentHash) :
    Fails W s row ((FailureNotification.lnd payment).handle W) ↔
      (FailureNotification.lnd payment).Reaches W s.db.transactions row := by
  obtain ⟨hfailed, hhash⟩ := hfor
  rcases lndPaymentToTransaction_cases (W := W) payment with
    ⟨hconv, tx, htx, htxhash⟩ | ⟨hconv, e, he⟩
  · have hhandle : (FailureNotification.lnd payment).handle W =
        consumePaymentFailed tx payment.failureReason := by
      simp only [FailureNotification.handle, FailureNotification.delivery, lndPaymentEvent,
        hfailed, htx, Except.toOption]
      rfl
    have hrowhash : tx.paymentHash = row.paymentHash := htxhash.trans hhash
    rw [hhandle, fails_consumePaymentFailed hrow hout hpend honly (.inr hrowhash), hrowhash]
    exact ⟨fun h => ⟨hconv, h⟩, fun h => h.2⟩
  · have hhandle : (FailureNotification.lnd payment).handle W = pure () := by
      simp only [FailureNotification.handle, FailureNotification.delivery, lndPaymentEvent,
        hfailed, he, Except.toOption]
      rfl
    rw [hhandle]
    exact ⟨fun h => absurd h (not_fails_pure hrow hpend), fun h => absurd h.1 hconv⟩

/-- A failed movement of Bark: it answers the call that waits for it, or is published. Reference:
`lnclient/bark/bark.go:293 handleLightningSendMovement`. -/
theorem failure_takes_effect_of_bark (hrow : row ∈ s.db.transactions.rows)
    (hout : row.type = .outgoing) (hpend : row.state = .pending)
    (honly : ∀ r ∈ s.db.transactions.rows, r.type = .outgoing → r.state = .pending →
      r.paymentHash = row.paymentHash → r = row) {preimage : String → Except String String}
    {now : Int} {movement : Movement} {waiting : Option Transaction}
    (hfor : (FailureNotification.bark preimage now movement waiting).IsFor row.paymentHash)
    (hwait : ∀ w, waiting = some w → w.id = row.id) :
    Fails W s row ((FailureNotification.bark preimage now movement waiting).handle W) ↔
      (FailureNotification.bark preimage now movement waiting).Reaches W s.db.transactions row := by
  obtain ⟨hpending, hsuccessful, hhash⟩ := hfor
  by_cases hempty : row.paymentHash = ""
  · have hhandle : (FailureNotification.bark preimage now movement waiting).handle W = pure () := by
      simp [FailureNotification.handle, FailureNotification.delivery, handleLightningSendMovement,
        paymentHashFromMovement, hpending, hhash, hempty]
    rw [hhandle]
    exact ⟨fun h => absurd h (not_fails_pure hrow hpend), fun h => absurd hempty h⟩
  · cases waiting with
    | some w =>
      have hhandle : (FailureNotification.bark preimage now movement (some w)).handle W = (do
          let _ ← finishPayment w false
              (.error (.message ("bark lightning send " ++ movement.status)))
          return ()) := by
        simp only [FailureNotification.handle, FailureNotification.delivery,
          handleLightningSendMovement, paymentHashFromMovement, if_neg hpending, hhash,
          if_neg hempty, if_pos hsuccessful]
        rfl
      rw [hhandle]
      exact ⟨fun _ => hempty, fun _ => fails_finishPayment hrow hpend (hwait w rfl)⟩
    | none =>
      have hhandle : (FailureNotification.bark preimage now movement none).handle W =
          consumePaymentFailed { paymentHash := row.paymentHash }
            ("bark lightning send " ++ movement.status) := by
        simp only [FailureNotification.handle, FailureNotification.delivery,
          handleLightningSendMovement, paymentHashFromMovement, if_neg hpending, hhash,
          if_neg hempty, if_pos hsuccessful]
        rfl
      rw [hhandle, fails_consumePaymentFailed hrow hout hpend honly (.inr rfl)]
      exact ⟨fun _ => hempty, fun h => .inl h⟩

/-- A failure of LDK whose payment the node lists. Reference: `lnclient/ldk/ldk.go:1846
handleLdkEvent`. -/
theorem failure_takes_effect_of_ldk (hrow : row ∈ s.db.transactions.rows)
    (hout : row.type = .outgoing) (hpend : row.state = .pending)
    (honly : ∀ r ∈ s.db.transactions.rows, r.type = .outgoing → r.state = .pending →
      r.paymentHash = row.paymentHash → r = row) {paymentHash : Option String}
    {node : String → Option PaymentDetails} {id : String} {details : PaymentDetails}
    {failed : Option PaymentFailureReason} (hnode : node id = some details)
    (hfor : (FailureNotification.ldk paymentHash node (some id) failed).IsFor row.paymentHash) :
    Fails W s row ((FailureNotification.ldk paymentHash node (some id) failed).handle W) ↔
      (FailureNotification.ldk paymentHash node (some id) failed).Reaches W s.db.transactions
        row := by
  by_cases hconv : details.kind.Converts W
  · obtain ⟨tx, htx, hkept⟩ := ldkPaymentToTransaction_ok hconv
    have hhandle : (FailureNotification.ldk paymentHash node (some id) failed).handle W =
        consumePaymentFailed tx (getPaymentFailReason failed) := by
      simp only [FailureNotification.handle, FailureNotification.delivery, handleLdkEvent,
        eventTransaction, hnode, htx]
      rfl
    have hhash : tx.paymentHash = "" ∨ tx.paymentHash = row.paymentHash := by
      rw [hkept]
      exact (kept_cases details.kind).imp_right (hfor.2 id details rfl hnode _)
    rw [hhandle, fails_consumePaymentFailed hrow hout hpend honly hhash, hkept]
    constructor
    · exact fun h => ⟨id, details, rfl, hnode, hconv, h⟩
    · rintro ⟨id', details', hid, hd, -, h⟩
      cases hid
      rw [hnode] at hd
      cases hd
      exact h
  · obtain ⟨e, he⟩ := ldkPaymentToTransaction_error hconv
    have hhandle : (FailureNotification.ldk paymentHash node (some id) failed).handle W =
        pure () := by
      simp [FailureNotification.handle, FailureNotification.delivery, handleLdkEvent,
        eventTransaction, hnode, he]
    rw [hhandle]
    refine ⟨fun h => absurd h (not_fails_pure hrow hpend), ?_⟩
    rintro ⟨id', details', hid, hd, hc, -⟩
    cases hid
    rw [hnode] at hd
    cases hd
    exact absurd hc hconv

/-- A final failure fails its row if and only if it reaches it: a failure from CLN never does, one
from another client does where it can be converted and keeps the hash. Reference:
`transactions/transactions_service.go:964 ConsumeEvent`. -/
theorem failure_takes_effect (hrow : row ∈ s.db.transactions.rows) (hout : row.type = .outgoing)
    (hpend : row.state = .pending)
    (honly : ∀ r ∈ s.db.transactions.rows, r.type = .outgoing → r.state = .pending →
      r.paymentHash = row.paymentHash → r = row)
    (hfor : n.IsFor row.paymentHash) (hwait : ∀ w, n.waiting = some w → w.id = row.id) :
    Fails W s row (n.handle W) ↔ n.Reaches W s.db.transactions row := by
  have hdropped : n.handle W = pure () → ¬ Fails W s row (n.handle W) :=
    fun h => h ▸ not_fails_pure hrow hpend
  cases n with
  | cln decode data =>
    constructor
    · exact fun h => hdropped handle_cln h
    · exact False.elim
  | lnd payment => exact failure_takes_effect_of_lnd hrow hout hpend honly hfor
  | bark preimage now movement waiting =>
    exact failure_takes_effect_of_bark hrow hout hpend honly hfor hwait
  | ldk paymentHash node paymentId reason =>
    cases hid : paymentId with
    | none =>
      subst hid
      refine ⟨fun h => absurd h (hdropped rfl), ?_⟩
      rintro ⟨id, details, hid, -⟩
      cases hid
    | some id =>
      subst hid
      cases hnode : node id with
      | some details => exact failure_takes_effect_of_ldk hrow hout hpend honly hnode hfor
      | none =>
        have hhandle : (FailureNotification.ldk paymentHash node (some id) reason).handle W =
            pure () := by
          simp [FailureNotification.handle, FailureNotification.delivery, handleLdkEvent,
            eventTransaction, hnode]
        refine ⟨fun h => absurd h (hdropped hhandle), ?_⟩
        rintro ⟨id', details, hid, hd, -⟩
        cases hid
        rw [hnode] at hd
        cases hd

end

/-! ## Runs -/

/-- A pending keysend. Reference: none. -/
def demoUnsettled : Transaction where
  type := .outgoing
  state := .pending
  amountMsat := 1000
  feeReserveMsat := 10
  paymentHash := "ab"

/-- A hub with one pending payment. Reference: none. -/
def demoPendingHub : Hub where
  db := ⟨Table.empty.create 0 demoUnsettled, [], [], List.nodup_nil⟩
  published := []

/-- The row of the pending payment. Reference: none. -/
def demoPending : Transaction := Table.empty.created 0 demoUnsettled

/-- The failure of the payment as CLN reports it. Reference: CLN `sendpay_failure`. -/
def demoClnFailure : FailureNotification :=
  .cln (fun _ => .error "") (some { paymentHash := [0xab] })

theorem demoPending_only : ∀ r ∈ demoPendingHub.db.transactions.rows, r.type = .outgoing →
    r.state = .pending → r.paymentHash = demoPending.paymentHash → r = demoPending := by
  intro r hr _ _ _
  exact List.mem_singleton.1 hr

/-- The failure that CLN reports leaves the payment pending. Reference: `lnclient/cln/cln.go:351
subscribeFailedPayments`. -/
theorem cln_failure_dropped : demoPending ∈ demoPendingHub.db.transactions.rows ∧
    demoPending.type = .outgoing ∧ demoPending.state = .pending ∧
    (∀ r ∈ demoPendingHub.db.transactions.rows, r.type = .outgoing → r.state = .pending →
      r.paymentHash = demoPending.paymentHash → r = demoPending) ∧
    demoClnFailure.IsFor demoPending.paymentHash ∧ demoClnFailure.waiting = none ∧
    ¬ Fails demo demoPendingHub demoPending (demoClnFailure.handle demo) := by
  refine ⟨List.mem_singleton_self _, rfl, rfl, demoPending_only, ?_, rfl, fun h => ?_⟩
  · intro failure hfailure
    cases hfailure
    decide
  · rw [demoClnFailure, handle_cln] at h
    exact not_fails_pure (List.mem_singleton_self _) rfl h

/-- The failure of the keysend as LND reports it fails the payment. Reference:
`lnclient/lnd/lnd.go:171 subscribePayments`. -/
theorem failure_takes_effect_lnd : Fails demo demoPendingHub demoPending
    ((FailureNotification.lnd { status := .failed, paymentHash := "ab" }).handle demo) :=
  (failure_takes_effect (n := .lnd { status := .failed, paymentHash := "ab" })
    (List.mem_singleton_self _) rfl rfl demoPending_only ⟨rfl, rfl⟩ fun _ hw => by cases hw).2
    ⟨.inl rfl, .inl (by decide)⟩

end AlbyHub
