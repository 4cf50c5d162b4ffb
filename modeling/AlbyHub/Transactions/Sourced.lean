import AlbyHub.Transactions.Discipline

/-!
# Every call works on copies of rows

The rows that a call gives to a settlement or a failure are rows that the database answered to it,
and the rows it inserts unsettled are pending (`body_sourced`). So every command of every call makes
a step of the ledger, however the calls are interleaved (`Reachable.ledger`).
-/

namespace AlbyHub

open Go Interaction

/-- The row is one that the database answered to the call. Reference: none. -/
def History.Answered (h : History) (row : Transaction) : Prop := ∃ call ∈ h, row ∈ answeredRows call

/-- The row is the outgoing one that the call inserted. Reference:
`transactions/transactions_service.go:397`, `:512`. -/
def History.Inserted (h : History) (row : Transaction) : Prop :=
  ∃ call ∈ h, insertedRow call = some row

/-- The row is one that the call may fail: its own payment, a payment that it looked up, or an
accepted hold invoice. Reference: the calls of `transactions/transactions_service.go:1709
markPaymentFailed`. -/
def History.MayFail (h : History) (row : Transaction) : Prop :=
  h.Inserted row ∨ ∃ q, Did h (.find q .none) (.ok (some row)) ∧
    (q.type = some .outgoing ∨ q.type = some .incoming ∧ q.state = some .accepted)

/-- The row arguments of a command come from the history, or are pending new rows; a settlement has
a preimage; a row that a notification creates is charged to no app; an event is published in its
turn, and a cancellation is of an incoming row. Reference: none. -/
def SourcedBy (h : History) : Cmd → Prop
  | .markTransactionSettledTx row preimage _ _ => History.Answered h row ∧ preimage ≠ ""
  | .createSettledTransactionTx row preimage _ _ =>
    preimage ≠ "" ∧ (row.type = .outgoing → row.appId = none)
  | .markPaymentFailedTx row _ => h.MayFail row
  | .create row => row.state = .pending ∧ row.type = .incoming
  | .sendKeysendTx row => ∃ k : KeysendArgs, row = k.row
  | .publish event => (∃ events, toPublish h = event :: events) ∧
    (h.Truthful → ∀ row, event = .holdInvoiceCanceled row → row.type = .incoming)
  | _ => True

section
variable {W : World} {h h' : History} {row : Transaction}

theorem History.Answered.mono (hr : History.Answered h row) (hs : h <:+ h') :
    History.Answered h' row := by
  obtain ⟨call, hc, hrow⟩ := hr
  exact ⟨call, hs.subset hc, hrow⟩

theorem History.Answered.last {c : Cmd} {a : c.Ans} (hr : row ∈ answeredRows ⟨c, a⟩) :
    History.Answered (⟨c, a⟩ :: h) row := ⟨_, List.mem_cons_self, hr⟩

theorem History.Inserted.mono (hr : History.Inserted h row) (hs : h <:+ h') : h'.Inserted row := by
  obtain ⟨call, hc, hrow⟩ := hr
  exact ⟨call, hs.subset hc, hrow⟩

theorem answeredRows_of_insertedRow {call : Call Cmd Cmd.Ans} (hrow : insertedRow call = some row) :
    row ∈ answeredRows call := by
  unfold insertedRow at hrow
  split at hrow <;> cases hrow <;> exact List.mem_singleton.2 rfl

theorem History.Inserted.answered (hr : History.Inserted h row) : History.Answered h row := by
  obtain ⟨call, hc, hrow⟩ := hr
  exact ⟨call, hc, answeredRows_of_insertedRow hrow⟩

theorem History.MayFail.answered (hr : History.MayFail h row) : History.Answered h row := by
  rcases hr with hr | ⟨q, hd, -⟩
  · exact hr.answered
  · exact ⟨_, hd, List.mem_singleton.2 rfl⟩

theorem sourcedBy_lenient : Lenient SourcedBy where
  read h c _ _ := by cases c <;> trivial
  publish h event events he hn := by
    refine ⟨⟨events, he⟩, fun ht row hrow => ?_⟩
    have := hn ht
    rw [hrow] at this
    cases this

/-- No condition on what a program returns. Reference: none. -/
abbrev anyResult {α : Type} (_ : History) (_ : α) : Prop := True

theorem sourced_interceptSelfPayment {paymentRequest paymentHash : String} :
    Follows SourcedBy anyResult h (interceptSelfPayment paymentRequest paymentHash) := by
  refine (follows_interceptSelfPayment sourcedBy_lenient (fun _ _ _ => trivial)
    (fun _ _ _ => trivial) ?_).mono
    (fun _ _ h => h) fun _ _ _ _ => trivial
  rintro h' incoming preimage - - - hp hd
  exact ⟨⟨_, hd, List.mem_singleton.2 rfl⟩, hp⟩

theorem sourced_finishPayment {selfPayment : Bool} {r : Except Err PayInvoiceResponse}
    (hrow : History.Inserted h row) :
    Follows SourcedBy anyResult h (finishPayment row selfPayment r) :=
  follows_finishPayment sourcedBy_lenient (fun _ => .inl hrow) fun _ _ hp => ⟨hrow.answered, hp⟩

theorem sourced_makeInvoice {amountMsat : Nat} {description descriptionHash : String}
    {expiry : Nat} {metadata : Option Metadata} {appId requestEventId : Option Nat}
    {throughNodePubkey : Option String} :
    Follows SourcedBy anyResult h (MakeInvoice W amountMsat description descriptionHash expiry
      metadata appId requestEventId throughNodePubkey) := by
  unfold MakeInvoice
  split
  · trivial
  · split
    · trivial
    · split
      · trivial
      · split
        · trivial
        · refine .call trivial fun r => ?_
          cases r with
          | error e => trivial
          | ok tx => exact ⟨⟨rfl, rfl⟩, fun _ => trivial⟩

theorem sourced_makeHoldInvoice {amountMsat : Nat} {description descriptionHash : String}
    {expiry : Nat} {paymentHash : String} {minCltvExpiryDelta : Option Nat}
    {metadata : Option Metadata} {appId requestEventId : Option Nat} :
    Follows SourcedBy anyResult h (MakeHoldInvoice W amountMsat description descriptionHash expiry
      paymentHash minCltvExpiryDelta metadata appId requestEventId) := by
  unfold MakeHoldInvoice
  split
  · trivial
  · refine .call trivial fun r => ?_
    cases r with
    | error e => trivial
    | ok tx => exact ⟨⟨rfl, rfl⟩, fun _ => trivial⟩

theorem sourced_sendPaymentSync {payReq : String} {amountMsat : Option Nat}
    {metadata : Option Metadata} {appId requestEventId : Option Nat} :
    Follows SourcedBy anyResult h
      (SendPaymentSync W payReq amountMsat metadata appId requestEventId) := by
  refine follows_sendPaymentSync sourcedBy_lenient (fun _ _ _ => trivial) (fun _ _ _ _ => trivial)
    fun h' a row _ _ => ?_
  have hrow : History.Inserted (⟨.sendPaymentTx a, .ok row⟩ :: h') row :=
    ⟨_, List.mem_cons_self, rfl⟩
  unfold SendPaymentSync.pay
  refine Follows.seq ?_ fun _ _ hs => sourced_finishPayment (hrow.mono hs)
  split
  · exact sourced_interceptSelfPayment
  · exact ⟨trivial, fun _ => trivial⟩

theorem sourced_sendKeysend {amountMsat : Nat} {destination : String}
    {customRecords : List TLVRecord} {preimage : String} {appId requestEventId : Option Nat} :
    Follows SourcedBy anyResult h
      (SendKeysend W amountMsat destination customRecords preimage appId requestEventId) := by
  refine follows_sendKeysend sourcedBy_lenient (fun _ _ _ _ => trivial) (fun _ k _ _ => ⟨k, rfl⟩)
    fun h' k row _ _ => ?_
  have hrow : History.Inserted (⟨.sendKeysendTx k.row, .ok row⟩ :: h') row :=
    ⟨_, List.mem_cons_self, rfl⟩
  unfold KeysendArgs.pay
  split
  · refine (follows_getAppIdFromCustomRecords sourcedBy_lenient _).bind fun h₁ recipient hs₁ _ => ?_
    refine .call ⟨rfl, rfl⟩ fun r => ?_
    cases r with
    | error e => trivial
    | ok incoming =>
      refine sourced_interceptSelfPayment.bind fun h₂ _ hs₂ _ => ?_
      exact sourced_finishPayment (hrow.mono ((hs₁.trans (List.suffix_cons _ _)).trans hs₂))
  · exact .call trivial fun _ => sourced_finishPayment (hrow.mono (List.suffix_cons _ _))

theorem sourced_checkUnsettledTransaction (hrow : History.Answered h row) :
    Follows SourcedBy anyResult h (checkUnsettledTransaction W row) := by
  unfold checkUnsettledTransaction
  split
  · trivial
  · refine .call trivial fun r => ?_
    cases r with
    | error e => trivial
    | ok tx =>
      simp only
      split
      · trivial
      · refine (follows_settleCopy sourcedBy_lenient fun hp =>
          ⟨hrow.mono (List.suffix_cons _ _), hp⟩).bind fun _ r _ _ => ?_
        cases r <;> trivial

theorem sourced_checkUnsettledTransactions :
    Follows SourcedBy anyResult h (checkUnsettledTransactions W) := by
  have checkEach : ∀ (rows : List Transaction) {h : History},
      (∀ row ∈ rows, History.Answered h row) →
      Follows SourcedBy anyResult h (checkEach W rows) := by
    intro rows
    induction rows with
    | nil => exact fun _ => trivial
    | cons row rows ih =>
      intro h hrows
      refine (sourced_checkUnsettledTransaction (hrows row List.mem_cons_self)).bind
        fun h' _ hs _ => ih fun r hr => ?_
      exact (hrows r (List.mem_cons_of_mem _ hr)).mono hs
  unfold checkUnsettledTransactions
  split
  · trivial
  · refine .call trivial fun now => .call trivial fun r => ?_
    cases r with
    | error e => trivial
    | ok rows => exact checkEach rows fun row hrow => .last hrow

theorem sourced_isolatedAppId {appId : Option Nat} :
    Follows SourcedBy anyResult h (isolatedAppId appId) := by
  cases appId with
  | none => trivial
  | some appId =>
    refine .call trivial fun r => ?_
    cases r <;> trivial

theorem sourced_lookupTransaction {paymentHash : String} {type : Option TransactionType}
    {appId : Option Nat} :
    Follows SourcedBy anyResult h (LookupTransaction W paymentHash type appId) := by
  refine sourced_isolatedAppId.bind fun h₁ r _ _ => ?_
  cases r with
  | error e => trivial
  | ok appId =>
    refine .call trivial fun r => ?_
    match r with
    | .error e => trivial
    | .ok none => trivial
    | .ok (some row) =>
      simp only
      split
      · refine (sourced_checkUnsettledTransaction ?_).bind fun _ _ _ _ => trivial
        exact .last (List.mem_singleton.2 rfl)
      · trivial

theorem sourced_settleHoldInvoice {preimage : String} :
    Follows SourcedBy anyResult h (SettleHoldInvoice W preimage) :=
  follows_settleHoldInvoice sourcedBy_lenient fun _ _ _ hp hd =>
    ⟨⟨_, hd, List.mem_singleton.2 rfl⟩, hp⟩

theorem sourced_cancelHoldInvoice {paymentHash : String} :
    Follows SourcedBy anyResult h (CancelHoldInvoice paymentHash) := by
  refine follows_cancelHoldInvoice sourcedBy_lenient (fun _ _ hd => .inr ⟨_, hd, .inr ⟨rfl, rfl⟩⟩)
    fun h' row copy hd hfailed hmore => ⟨⟨[], hmore⟩, ?_⟩
  -- the canceled row is the one that was looked up
  rintro ht _ ⟨⟩
  have hm : Where.Matches _ row := ht.of_did hd
  have hid : copy.identity = row.identity := ht.of_did hfailed
  have hty : row.type = .incoming := by simpa [eq_comm] using hm.2.1
  exact (congrArg Identity.type hid).trans hty

theorem sourced_createReceived {tx : LnTransaction} :
    Follows SourcedBy anyResult h (createReceived W tx) := by
  unfold createReceived
  split
  · exact follows_createSettled sourcedBy_lenient fun hp => ⟨hp, fun hty => nomatch hty⟩
  · split
    · trivial
    · refine (follows_getAppIdFromCustomRecords sourcedBy_lenient _).bind fun _ _ _ _ => ?_
      exact follows_createSettled sourcedBy_lenient fun hp => ⟨hp, fun hty => nomatch hty⟩

theorem sourced_findSent {paymentHash : String} : Follows SourcedBy
    (fun h' r => ∀ row, r = .ok (some row) → History.Answered h' row) h
    (findSent paymentHash) := by
  have answered : ∀ {h : History} (q : Where) (order : Order) (r : Except Err (Option Transaction))
      (row : Transaction), r = .ok (some row) →
      History.Answered (⟨.find q order, r⟩ :: h) row := by
    rintro h q order _ row rfl
    exact .last (List.mem_singleton.2 rfl)
  refine .call trivial fun r => ?_
  match r with
  | .error e => exact answered _ _ _
  | .ok (some row) => exact answered _ _ _
  | .ok none =>
    refine .call trivial fun r => ?_
    match r with
    | .error e => exact answered _ _ _
    | .ok (some row) => exact answered _ _ _
    | .ok none => exact ⟨trivial, answered _ _⟩

theorem sourced_consumeEvent {event : NodeEvent} :
    Follows SourcedBy anyResult h (ConsumeEvent W event) := by
  have settle : ∀ {h : History} {row : Transaction} {preimage : String} {feeMsat : Nat},
      History.Answered h row → Follows SourcedBy anyResult h
        (do let _ ← markTransactionSettled row preimage feeMsat false; return ()) :=
    fun hrow => (follows_markTransactionSettled sourcedBy_lenient fun hp => ⟨hrow, hp⟩).bind
      fun _ _ _ _ => trivial
  cases event with
  | paymentReceived tx =>
    refine .call trivial fun r => ?_
    match r with
    | .error e => trivial
    | .ok none => exact sourced_createReceived.bind fun _ _ _ _ => trivial
    | .ok (some row) => exact settle (.last (List.mem_singleton.2 rfl))
  | holdInvoiceAccepted tx =>
    simp only [ConsumeEvent]
    split
    · trivial
    · exact (follows_markHoldInvoiceAccepted sourcedBy_lenient trivial).mono (fun _ _ h => h)
        fun _ _ _ _ => trivial
  | paymentSent tx =>
    refine sourced_findSent.bind fun h' r _ hrow => ?_
    match r with
    | .error e => trivial
    | .ok none =>
      exact (follows_createSettled sourcedBy_lenient fun hp => ⟨hp, fun _ => rfl⟩).bind
        fun _ _ _ _ => trivial
    | .ok (some row) => exact settle (hrow row rfl)
  | paymentFailed tx reason =>
    refine .call trivial fun r => ?_
    match r with
    | .error e => trivial
    | .ok none => trivial
    | .ok (some row) =>
      refine (follows_markPaymentFailed sourcedBy_lenient ?_).bind fun _ _ _ _ => trivial
      exact .inr ⟨_, .last, .inl rfl⟩

theorem sourced_setTransactionMetadata {id : Nat} {metadata : Metadata} :
    Follows SourcedBy anyResult h (SetTransactionMetadata W id metadata) := by
  unfold SetTransactionMetadata
  split
  · trivial
  · exact ⟨trivial, fun _ => trivial⟩

theorem sourced_setTransactionUserLabels {id : Nat} {labels : List (String × String)} :
    Follows SourcedBy anyResult h (SetTransactionUserLabels W id labels) := by
  unfold SetTransactionUserLabels
  split
  · trivial
  · refine .call trivial fun r => ?_
    match r with
    | .error e => trivial
    | .ok none => trivial
    | .ok (some row) =>
      simp only
      split
      · trivial
      · split
        · exact ⟨trivial, fun _ => trivial⟩
        · trivial
      · exact sourced_setTransactionMetadata

/-- Every call works on copies of rows. Reference: none. -/
theorem body_sourced (W : World) (op : Op) : Follows SourcedBy anyResult [] (body W op) := by
  have done : ∀ {α β : Type} {p : Svc α} {f : α → β}, Follows SourcedBy anyResult [] p →
      Follows SourcedBy anyResult [] (do let r ← p; return f r) :=
    fun hp => hp.bind fun _ _ _ _ => trivial
  cases op with
  | makeInvoice => exact done sourced_makeInvoice
  | makeHoldInvoice => exact done sourced_makeHoldInvoice
  | sendPaymentSync => exact done sourced_sendPaymentSync
  | sendKeysend => exact sourced_sendKeysend
  | lookupTransaction => exact done sourced_lookupTransaction
  | listTransactions =>
    refine done (sourced_checkUnsettledTransactions.bind fun _ _ _ _ =>
      sourced_isolatedAppId.bind fun _ r _ _ => ?_)
    cases r with
    | error => trivial
    | ok => exact follows_queryPage sourcedBy_lenient
  | settleHoldInvoice => exact done sourced_settleHoldInvoice
  | cancelHoldInvoice => exact done sourced_cancelHoldInvoice
  | consumeEvent => exact sourced_consumeEvent.bind fun _ _ _ _ => trivial
  | setTransactionMetadata => exact done sourced_setTransactionMetadata
  | setTransactionUserLabels => exact done sourced_setTransactionUserLabels

/-- The rows of an answer are known from then on. Reference: none. -/
def KnownRows (call : Call Cmd Cmd.Ans) (s : Hub) : Prop :=
  ∀ row ∈ answeredRows call, s.db.transactions.Knows row

/-- A sourced command of a call whose answers are known is a step of the ledger. Reference: none. -/
theorem SourcedBy.sourced {s : Hub} {c : Cmd} (hc : SourcedBy h c)
    (hk : ∀ call ∈ h, KnownRows call s) : c.Sourced s.db.transactions := by
  cases c with
  | markTransactionSettledTx =>
    obtain ⟨⟨call, hcall, hrow⟩, -⟩ := hc
    exact hk call hcall _ hrow
  | markPaymentFailedTx =>
    obtain ⟨call, hcall, hrow⟩ := hc.answered
    exact hk call hcall _ hrow
  | create => exact hc
  | sendKeysendTx =>
    obtain ⟨k, rfl⟩ := hc
    exact ⟨rfl, rfl⟩
  | _ => trivial

/-- Every step of a call is a step of the ledger, and keeps what is known. Reference: none. -/
theorem exec_sourced {s s' : Hub} {env : Env} {c : Cmd} {a : c.Ans}
    (hk : ∀ call ∈ h, KnownRows call s) (hc : SourcedBy h c)
    (hx : exec W s c env = some (a, s')) :
    s.db.transactions.Step s'.db.transactions ∧ KnownRows ⟨c, a⟩ s' ∧
      ∀ call, KnownRows call s → KnownRows call s' := by
  have hstep := exec_step hx (hc.sourced hk)
  exact ⟨hstep, fun row hrow => .of_mem (exec_answered hx row hrow), fun call hcall row hrow =>
    hstep.knows (hcall row hrow)⟩

/-- An invariant of the ledger's steps is an invariant of the hub. Reference: none. -/
theorem sound_of_ledger (W : World) {allowed : Pool → PoolLabel → Prop} (inv : Table → Prop)
    (hinv : ∀ {t t' : Table}, t.Step t' → inv t → inv t') :
    Sound (exec W) (body W) allowed (fun _ => SourcedBy) (fun _ => anyResult)
      (fun _ _ _ _ _ => True) (fun s => inv s.db.transactions) (fun _ => KnownRows) where
  body := body_sourced W
  obeys _ _ _ _ _ _ _ _ _ := trivial
  step _ h s c e r s' hi hk hc _ hx := by
    obtain ⟨hstep, hnew, hold⟩ := exec_sourced hk hc hx
    exact ⟨hinv hstep hi, hnew, fun _ => hold⟩

end

end AlbyHub
