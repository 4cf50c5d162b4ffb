import AlbyHub.Nip47.Controllers
import AlbyHub.Transactions.Sourced
import AlbyHub.Transactions.Runs

/-!
# What the requests of an isolated app write

A request of an isolated app writes rows of the app, and by design three kinds of other rows: the
incoming row that its own payment to the own node is received on, the invoice that `make_invoice`
attributes to the app that its metadata names, and, where the hub has to poll, the rows that
`list_transactions` finds paid at the node (`OwnRow`). Each method follows the discipline `OwnBy`,
whose facts are read off the answers of the call (`History.Faithful`), so it holds in any company.
`settle_hold_invoice` and `cancel_hold_invoice`, which act for no app in particular, are not
covered.
-/

namespace AlbyHub

open Go Interaction

/-- The call makes a payment, an invoice or a query for the app. Reference: the parameter `appId` of
`transactions/transactions_service.go:38 TransactionsService`. -/
def Op.RequestOf (appId : Nat) : Op → Prop
  | .makeInvoice _ _ _ _ _ a _ _ | .makeHoldInvoice _ _ _ _ _ _ _ a _ | .sendPaymentSync _ _ _ a _
  | .sendKeysend _ _ _ _ a _ | .lookupTransaction _ _ a | .listTransactions _ a _ => a = some appId
  | _ => False

/-- Whether the request settles or cancels a hold invoice. Reference:
`nip47/controllers/settle_hold_invoice_controller.go:17 HandleSettleHoldInvoiceEvent`,
`nip47/controllers/cancel_hold_invoice_controller.go:17 HandleCancelHoldInvoiceEvent`. -/
def Nip47Request.endsHoldInvoice : Nip47Request → Bool
  | .settleHoldInvoice _ | .cancelHoldInvoice _ => true
  | _ => false

/-- The row is the receiving one of a payment of the app to the own node: it has the payment hash of
the app's outgoing row, and its invoice if the payment has one. Reference:
`transactions/transactions_service.go:1055 interceptSelfPayment`. -/
def ReceivesFrom (appId : Nat) (h : History) (r : Transaction) : Prop :=
  ∃ call ∈ h, ∃ sent, insertedRow call = some sent ∧ sent.appId = some appId ∧
    sent.selfPayment = true ∧ r.type = .incoming ∧
    (sent.paymentHash = "" ∨ r.paymentHash = sent.paymentHash) ∧
    (sent.paymentRequest = "" ∨ r.paymentRequest = sent.paymentRequest)

/-- The row is an invoice for the app that the metadata of the call names. Reference:
`transactions/transactions_service.go:197 MakeInvoice`. -/
def Op.Attributes (r : Transaction) : Op → Prop
  | .makeInvoice _ _ _ _ metadata _ _ _ => ∃ numerator denominator,
    lookupKey "app_id" metadata = some (.number numerator denominator) ∧
      r.appId = some (uintOfFloat numerator denominator) ∧ r.type = .incoming
  | _ => False

/-- The row is one that the call polled, and found paid at the node. Reference:
`transactions/transactions_service.go:755 checkUnsettledTransactions`. -/
def Op.Polled (W : World) (h : History) (r : Transaction) : Op → Prop
  | .listTransactions _ _ _ => W.notifiesReceived = false ∧
    ∃ tx, Did h (.lnLookupInvoice r.paymentHash) (.ok tx) ∧ tx.settledAt ≠ none
  | _ => False

/-- The rows that a call for the app may write. Reference: none. -/
def OwnRow (W : World) (appId : Nat) (op : Op) (h : History) (r : Transaction) : Prop :=
  r.appId = some appId ∨ ReceivesFrom appId h r ∨ op.Attributes r ∨ op.Polled W h r

/-- The answers are true of a hub where the app is isolated. Reference: none. -/
def FaithfulTo (appId : Nat) (call : Call Cmd Cmd.Ans) : Prop :=
  Truthful call ∧ ∀ isolated, call = ⟨.isIsolated appId, .ok isolated⟩ → isolated = true

/-- Reference: none. -/
def History.Faithful (appId : Nat) (h : History) : Prop := ∀ call ∈ h, FaithfulTo appId call

/-- A call for the app writes its own rows, if the answers that it was given are true. Reference:
none. -/
def OwnBy (W : World) (appId : Nat) (op : Op) (h : History) (c : Cmd) : Prop :=
  h.Faithful appId → c.Writes (OwnRow W appId op h)

section
variable {W : World} {appId : Nat} {op : Op} {h h' : History} {row : Transaction}

theorem ownBy_lenient : Lenient (OwnBy W appId op) where
  read h c hc _ _ := by cases c <;> trivial
  publish _ _ _ _ _ _ := trivial

theorem History.Faithful.mono (hf : History.Faithful appId h') (hs : h <:+ h') : h.Faithful appId :=
  fun call hc => hf call (hs.subset hc)

theorem History.Faithful.of_did {c : Cmd} {a : c.Ans} (hf : History.Faithful appId h)
    (hd : Did h c a) : AlbyHub.Truthful ⟨c, a⟩ := (hf _ hd).1

theorem ReceivesFrom.mono {r : Transaction} (hr : ReceivesFrom appId h r) (hs : h <:+ h') :
    ReceivesFrom appId h' r := by
  obtain ⟨call, hc, hsent⟩ := hr
  exact ⟨call, hs.subset hc, hsent⟩

theorem Op.Polled.mono {r : Transaction} (hr : op.Polled W h r) (hs : h <:+ h') :
    op.Polled W h' r := by
  cases op with
  | listTransactions =>
    obtain ⟨hn, tx, hd, hset⟩ := hr
    exact ⟨hn, tx, hd.mono hs, hset⟩
  | _ => exact hr

theorem OwnRow.mono {r : Transaction} (hr : OwnRow W appId op h r) (hs : h <:+ h') :
    OwnRow W appId op h' r :=
  hr.imp_right (Or.imp (·.mono hs) (Or.imp_right (·.mono hs)))

/-- Which rows a call may write depends on their app and their payment only. Reference: none. -/
theorem OwnRow.congr {r r' : Transaction} (happ : r'.appId = r.appId) (hp : r'.payment = r.payment)
    (hr : OwnRow W appId op h r) : OwnRow W appId op h r' := by
  simp only [Transaction.payment, Prod.mk.injEq] at hp
  obtain ⟨hty, hhash, hreq⟩ := hp
  rcases hr with hr | ⟨call, hc, sent, hsent⟩ | hr | hr
  · exact .inl (happ.trans hr)
  · refine .inr (.inl ⟨call, hc, sent, ?_⟩)
    rwa [hty, hhash, hreq]
  · refine .inr (.inr (.inl ?_))
    cases op with
    | makeInvoice =>
      obtain ⟨n, d, hkey, ha, ht⟩ := hr
      exact ⟨n, d, hkey, happ.trans ha, hty.trans ht⟩
    | _ => exact hr
  · refine .inr (.inr (.inr ?_))
    cases op with
    | listTransactions =>
      obtain ⟨hn, tx, hd, hset⟩ := hr
      exact ⟨hn, tx, by rwa [hhash], hset⟩
    | _ => exact hr

/-- A payment is finished on the app's own row. Reference:
`transactions/transactions_service.go:441 SendPaymentSync`. -/
theorem own_finishPayment {selfPayment : Bool} {r : Except Err PayInvoiceResponse}
    (hrow : h.Faithful appId → row.appId = some appId) :
    Follows (OwnBy W appId op) anyResult h (finishPayment row selfPayment r) :=
  follows_finishPayment ownBy_lenient (fun _ hf => .inl (hrow hf)) fun _ _ _ hf => .inl (hrow hf)

/-- The incoming row that a self-payment settles or accepts receives it. Reference:
`transactions/transactions_service.go:1055 interceptSelfPayment`. -/
theorem own_interceptSelfPayment {paymentRequest paymentHash : String}
    (hsent : h.Faithful appId → ∃ call ∈ h, ∃ sent, insertedRow call = some sent ∧
      sent.appId = some appId ∧ sent.selfPayment = true ∧ sent.paymentHash = paymentHash ∧
      sent.paymentRequest = paymentRequest) :
    Follows (OwnBy W appId op) anyResult h (interceptSelfPayment paymentRequest paymentHash) := by
  have receives : ∀ {h'} {r : Transaction}, h <:+ h' → History.Faithful appId h' →
      r.type = .incoming →
      (paymentHash = "" ∨ r.paymentHash = paymentHash) →
      (paymentRequest = "" ∨ r.paymentRequest = paymentRequest) → OwnRow W appId op h' r := by
    intro h' r hs hf hty hhash hreq
    obtain ⟨call, hc, sent, hins, happ, hself, rfl, rfl⟩ := hsent (hf.mono hs)
    exact .inr (.inl ⟨call, hs.subset hc, sent, hins, happ, hself, hty, hhash, hreq⟩)
  refine (follows_interceptSelfPayment ownBy_lenient ?_ (fun _ _ _ _ => trivial) ?_).mono
    (fun _ _ h => h)
    fun _ _ _ _ => trivial
  · rintro h' settleDeadline hs hf r ⟨hhash, hreq, hty, -⟩
    exact receives hs hf hty (.inr hhash) (.inr hreq)
  · intro h' incoming preimage hs _ _ _ hd hf
    have hm : Where.Matches _ incoming := hf.of_did hd
    obtain ⟨-, hty, -, hreq, hhash⟩ := hm
    have hty : incoming.type = .incoming := by simpa [eq_comm] using hty
    exact receives hs hf hty hhash hreq

/-- The app that an invoice is made for: the caller's, or the one that the metadata names.
Reference: `transactions/transactions_service.go:197 MakeInvoice`. -/
theorem overwriteAppId_ok {metadata : Option Metadata} {a b : Option Nat}
    (ho : overwriteAppId metadata a = .ok b) : b = a ∨ ∃ numerator denominator,
      lookupKey "app_id" metadata = some (.number numerator denominator) ∧
        b = some (uintOfFloat numerator denominator) := by
  unfold overwriteAppId at ho
  split at ho
  · cases ho; exact .inl rfl
  · cases ho; exact .inl rfl
  · next numerator denominator hkey => cases ho; exact .inr ⟨numerator, denominator, hkey, rfl⟩
  · cases ho

theorem own_makeInvoice {amountMsat : Nat} {description descriptionHash : String} {expiry : Nat}
    {metadata : Option Metadata} {requestEventId : Option Nat} {throughNodePubkey : Option String} :
    Follows (OwnBy W appId (.makeInvoice amountMsat description descriptionHash expiry metadata
      (some appId) requestEventId throughNodePubkey)) anyResult h
      (MakeInvoice W amountMsat description descriptionHash expiry metadata (some appId)
        requestEventId throughNodePubkey) := by
  unfold MakeInvoice
  split
  · trivial
  · split
    · trivial
    · split
      · trivial
      · split
        · trivial
        · next b hb =>
          refine .call (ownBy_lenient.read _ _ rfl rfl) fun r => ?_
          cases r with
          | error e => trivial
          | ok tx =>
            refine ⟨fun _ => ?_, fun _ => trivial⟩
            rcases overwriteAppId_ok hb with hb | ⟨n, d, hkey, hb⟩
            · exact .inl hb
            · exact .inr (.inr (.inl ⟨n, d, hkey, hb, rfl⟩))

theorem own_makeHoldInvoice {amountMsat : Nat} {description descriptionHash : String}
    {expiry : Nat} {paymentHash : String} {minCltvExpiryDelta : Option Nat}
    {metadata : Option Metadata} {requestEventId : Option Nat} :
    Follows (OwnBy W appId op) anyResult h (MakeHoldInvoice W amountMsat description
      descriptionHash expiry paymentHash minCltvExpiryDelta metadata (some appId)
      requestEventId) := by
  unfold MakeHoldInvoice
  split
  · trivial
  · refine .call (ownBy_lenient.read _ _ rfl rfl) fun r => ?_
    cases r with
    | error e => trivial
    | ok tx => exact ⟨fun _ => .inl rfl, fun _ => trivial⟩

theorem own_sendPaymentSync {payReq : String} {amountMsat : Option Nat}
    {metadata : Option Metadata} {requestEventId : Option Nat} :
    Follows (OwnBy W appId op) anyResult h
      (SendPaymentSync W payReq amountMsat metadata (some appId) requestEventId) := by
  refine follows_sendPaymentSync ownBy_lenient (fun _ _ _ => trivial)
    (fun _ a _ ha _ now => .inl ha.appId) fun h' a row _ ha => ?_
  have created : ∀ {h₁}, Did h₁ (.sendPaymentTx a) (.ok row) → History.Faithful appId h₁ →
      row.appId = some appId ∧ row.selfPayment = a.selfPayment ∧
        row.paymentHash = a.paymentRequest.paymentHash ∧ row.paymentRequest = a.payReq := by
    intro h₁ hd hf
    obtain ⟨now, id, createdAt, rfl⟩ := hf.of_did hd
    exact ⟨ha.appId, rfl, rfl, rfl⟩
  unfold SendPaymentSync.pay
  refine Follows.seq ?_ fun _ _ hs =>
    own_finishPayment fun hf => (created (Did.last.mono hs) hf).1
  split
  · next hself =>
    refine own_interceptSelfPayment fun hf => ?_
    obtain ⟨happ, hs, hhash, hreq⟩ := created .last hf
    exact ⟨_, List.mem_cons_self, row, rfl, happ, hs.trans hself, hhash, hreq⟩
  · exact ⟨fun _ => trivial, fun _ => trivial⟩

theorem own_sendKeysend {amountMsat : Nat} {destination : String} {customRecords : List TLVRecord}
    {preimage : String} {requestEventId : Option Nat} :
    Follows (OwnBy W appId op) anyResult h
      (SendKeysend W amountMsat destination customRecords preimage (some appId)
        requestEventId) := by
  refine follows_sendKeysend ownBy_lenient (fun _ _ _ _ => trivial)
    (fun _ k _ hk _ => .inl hk.appId) fun h' k row _ hk => ?_
  have created : ∀ {h₁}, Did h₁ (.sendKeysendTx k.row) (.ok row) → History.Faithful appId h₁ →
      row.appId = some appId ∧ row.selfPayment = k.selfPayment ∧
        row.paymentHash = k.paymentHash ∧ row.paymentRequest = "" := by
    intro h₁ hd hf
    obtain ⟨id, createdAt, rfl⟩ := hf.of_did hd
    exact ⟨hk.appId, rfl, rfl, rfl⟩
  unfold KeysendArgs.pay
  split
  · next hself =>
    -- the inserted row stands in the history of the steps that receive the payment
    have sent : ∀ {h₁}, Did h₁ (.sendKeysendTx k.row) (.ok row) → History.Faithful appId h₁ →
        ∃ call ∈ h₁, ∃ sent, insertedRow call = some sent ∧ sent.appId = some appId ∧
          sent.selfPayment = true ∧ sent.paymentHash = k.paymentHash ∧
          sent.paymentRequest = "" := by
      intro h₁ hd hf
      obtain ⟨happ, hs, hhash, hreq⟩ := created hd hf
      exact ⟨_, hd, row, rfl, happ, hs.trans hself, hhash, hreq⟩
    refine (follows_getAppIdFromCustomRecords ownBy_lenient _).bind fun h₁ recipient hs₁ _ => ?_
    have hd₁ : Did h₁ (.sendKeysendTx k.row) (.ok row) := Did.last.mono hs₁
    refine .call (fun hf => ?_) fun r => ?_
    · obtain ⟨call, hc, o, hins, happ, hs, hhash, hreq⟩ := sent hd₁ hf
      exact .inr (.inl ⟨call, hc, o, hins, happ, hs, rfl, .inr hhash.symm, .inl hreq⟩)
    · cases r with
      | error e => trivial
      | ok incoming =>
        have hd₂ := hd₁.mono (List.suffix_cons ⟨.create (k.incomingRow recipient), .ok incoming⟩ h₁)
        refine (own_interceptSelfPayment fun hf => sent hd₂ hf).bind fun h₂ _ hs₂ _ => ?_
        exact Follows.mono (own_finishPayment fun hf => (created (hd₂.mono hs₂) hf).1)
          (fun _ _ h => h) fun _ _ _ _ => trivial
  · refine .call (fun _ => trivial) fun r => ?_
    exact Follows.mono (own_finishPayment fun hf =>
      (created (Did.last.mono (List.suffix_cons _ _)) hf).1)
      (fun _ _ h => h) fun _ _ _ _ => trivial

/-- A row that is polled is settled when the node tells that it is paid. Reference:
`transactions/transactions_service.go:773 checkUnsettledTransaction`. -/
theorem own_checkUnsettledTransaction
    (hrow : ∀ h' tx, h <:+ h' → History.Faithful appId h' → W.notifiesReceived = false →
      Did h' (.lnLookupInvoice row.paymentHash) (.ok tx) → tx.settledAt ≠ none →
      OwnRow W appId op h' row) :
    Follows (OwnBy W appId op) anyResult h (checkUnsettledTransaction W row) := by
  unfold checkUnsettledTransaction
  split
  · trivial
  · next hn =>
    refine .call (fun _ => trivial) fun r => ?_
    cases r with
    | error e => trivial
    | ok tx =>
      simp only
      split
      · trivial
      · next hset =>
        refine (follows_settleCopy ownBy_lenient fun _ hf => ?_).bind fun _ r _ _ => ?_
        · exact hrow _ tx (List.suffix_cons _ _) hf (by simpa using hn) .last hset
        · cases r <;> trivial

theorem own_checkUnsettledTransactions {q : ListQuery} {a : Option Nat} {force : Bool} :
    Follows (OwnBy W appId (.listTransactions q a force)) anyResult h
      (checkUnsettledTransactions W) := by
  have checkEach : ∀ (rows : List Transaction) {h : History},
      Follows (OwnBy W appId (.listTransactions q a force)) anyResult h (checkEach W rows) := by
    intro rows
    induction rows with
    | nil => exact fun {_} => trivial
    | cons row rows ih =>
      intro h
      refine (own_checkUnsettledTransaction fun h' tx _ _ hn hd hset => ?_).bind fun _ _ _ _ => ih
      exact .inr (.inr (.inr ⟨hn, tx, hd, hset⟩))
  unfold checkUnsettledTransactions
  split
  · trivial
  · refine .call (fun _ => trivial) fun now => .call (fun _ => trivial) fun r => ?_
    cases r with
    | error e => trivial
    | ok rows => exact checkEach rows

/-- An isolated app is told its own rows only. Reference:
`transactions/transactions_service.go:605 LookupTransaction`. -/
theorem own_isolatedAppId :
    Follows (OwnBy W appId op)
      (fun h' r => ∀ a, r = .ok a → History.Faithful appId h' → a = some appId) h
      (isolatedAppId (some appId)) := by
  refine .call (fun _ => trivial) fun r => ?_
  cases r with
  | error e => exact fun _ hr => nomatch hr
  | ok isolated =>
    rintro a ⟨⟩ hf
    have hiso : isolated = true := (hf _ List.mem_cons_self).2 isolated rfl
    rw [hiso, if_pos rfl]

theorem own_lookupTransaction {paymentHash : String} {type : Option TransactionType} :
    Follows (OwnBy W appId op) anyResult h
      (LookupTransaction W paymentHash type (some appId)) := by
  refine own_isolatedAppId.bind fun h₁ r _ happ => ?_
  cases r with
  | error e => trivial
  | ok a =>
    refine .call (fun _ => trivial) fun r => ?_
    match r with
    | .error e => trivial
    | .ok none => trivial
    | .ok (some row) =>
      simp only
      split
      · refine (own_checkUnsettledTransaction fun h' tx hs hf _ _ _ => .inl ?_).bind
          fun _ _ _ _ => trivial
        have ha : a = some appId := happ a rfl (hf.mono ((List.suffix_cons _ _).trans hs))
        have hrow : a = none ∨ row.appId = a := hf.of_did (Did.last.mono hs)
        rcases hrow with hrow | hrow
        · rw [hrow] at ha; cases ha
        · exact hrow.trans ha
      · trivial

/-- Every call for the app writes its own rows. Reference: none. -/
theorem body_own (W : World) (appId : Nat) (op : Op) : Follows
    (fun h c => op.RequestOf appId → OwnBy W appId op h c) anyResult [] (body W op) := by
  by_cases ho : op.RequestOf appId
  · have done : ∀ {α β : Type} {p : Svc α} {f : α → β}, Follows (OwnBy W appId op) anyResult [] p →
        Follows (OwnBy W appId op) anyResult [] (do let r ← p; return f r) :=
      fun hp => hp.bind fun _ _ _ _ => trivial
    have own : Follows (OwnBy W appId op) anyResult [] (body W op) := by
      cases op with
      | makeInvoice => cases ho; exact done own_makeInvoice
      | makeHoldInvoice => cases ho; exact done own_makeHoldInvoice
      | sendPaymentSync => cases ho; exact done own_sendPaymentSync
      | sendKeysend => cases ho; exact own_sendKeysend
      | lookupTransaction => cases ho; exact done own_lookupTransaction
      | listTransactions =>
        cases ho
        refine done (own_checkUnsettledTransactions.bind fun _ _ _ _ =>
          own_isolatedAppId.bind fun _ r _ _ => ?_)
        cases r with
        | error => trivial
        | ok => exact follows_queryPage ownBy_lenient
      | _ => cases ho
    exact own.mono (fun _ _ h _ => h) fun _ _ _ _ => trivial
  · exact follows_any.mono (fun _ _ _ h => absurd h ho) fun _ _ _ _ => trivial

/-- A request that does not end a hold invoice makes calls for its app. Reference:
`nip47/controllers`, the `Handle` methods. -/
theorem Nip47Request.calls_requestOf {request : Nip47Request} {requestEventId : Nat}
    (hr : request.endsHoldInvoice = false) (hop : op ∈ request.calls W appId requestEventId) :
    op.RequestOf appId := by
  have payInvoice : ∀ params : PayInvoiceParams, op ∈ params.calls W appId requestEventId →
      op.RequestOf appId := by
    intro params hop
    simp only [PayInvoiceParams.calls] at hop
    split at hop
    · cases hop
    · rw [List.mem_singleton.1 hop]; rfl
  have payKeysend : ∀ params : PayKeysendParams, op ∈ params.calls appId requestEventId →
      op.RequestOf appId := by
    intro params hop
    rw [List.mem_singleton.1 hop]
    rfl
  cases request with
  | payInvoice params => exact payInvoice params hop
  | multiPayInvoice invoices =>
    obtain ⟨params, -, hop⟩ := List.mem_flatMap.1 hop
    exact payInvoice params hop
  | payKeysend params => exact payKeysend params hop
  | multiPayKeysend keysends =>
    obtain ⟨params, -, hop⟩ := List.mem_flatMap.1 hop
    exact payKeysend params hop
  | makeInvoice | listTransactions =>
    rw [List.mem_singleton.1 hop]
    rfl
  | makeHoldInvoice =>
    simp only [Nip47Request.calls] at hop
    split at hop
    · cases hop
    · rw [List.mem_singleton.1 hop]; rfl
  | lookupInvoice =>
    simp only [Nip47Request.calls] at hop
    split at hop
    · rw [List.mem_singleton.1 hop]; rfl
    · split at hop
      · cases hop
      · rw [List.mem_singleton.1 hop]; rfl
  | settleHoldInvoice | cancelHoldInvoice => cases hr

/-- A hub where the app is isolated answers what is true of it. Reference: none. -/
theorem exec_faithful {s s' : Hub} {env : Env} {c : Cmd} {a : c.Ans} (hi : s.db.Isolated appId)
    (hx : exec W s c env = some (a, s')) : FaithfulTo appId ⟨c, a⟩ := by
  refine ⟨exec_truthful hx, ?_⟩
  rintro isolated ⟨⟩
  obtain ⟨-, ⟨_, he⟩ | he⟩ := Hub.read_eq hx
  · cases he
  · obtain ⟨app, happ, hid, hiso⟩ := hi
    rw [Except.ok.inj he]
    exact List.any_eq_true.2 ⟨app, happ, by simp [hid, hiso]⟩

/-- The discipline of an isolated app is kept in every run. Reference: none. -/
theorem own_sound (W : World) (appId : Nat) :
    Sound (exec W) (body W) anyStep
      (fun op h c => SourcedBy h c ∧ (op.RequestOf appId → OwnBy W appId op h c))
      (fun _ h r => anyResult h r ∧ anyResult h r) (fun _ _ _ _ _ => True)
      (fun s => s.db.Isolated appId) (fun _ call s => KnownRows call s ∧
        FaithfulTo appId call) where
  body op := (body_sourced W op).and (body_own W appId op)
  obeys _ _ _ _ _ _ _ _ _ := trivial
  step op h s c e a s' hi hk hc _ hx := by
    obtain ⟨-, hrows, hold⟩ := exec_sourced (fun call hcall => (hk call hcall).1) hc.1 hx
    exact ⟨hi.sameApps (exec_sameApps hx), ⟨hrows, exec_faithful hi hx⟩,
      fun _ call hcall => ⟨hold call hcall.1, hcall.2⟩⟩

end

/-- Whenever call `i` is of a request of the app, but for the settlement and the cancellation of a
hold invoice, the rows that its step creates or changes satisfy `own`, and no row changes its app.
Reference: none. -/
def Pool.WritesOnly (W : World) (appId : Nat) (own : Op → History → Transaction → Prop) (i : Nat)
    (cfg cfg' : Pool) : Prop :=
  ∀ t, cfg.threads[i]? = some t → ∀ (request : Nip47Request) (requestEventId : Nat),
    request.endsHoldInvoice = false → t.op ∈ request.calls W appId requestEventId →
    ∀ r' ∈ cfg'.state.db.transactions.rows, r' ∉ cfg.state.db.transactions.rows →
      own t.op t.hist r' ∧
        ∀ r ∈ cfg.state.db.transactions.rows, r.id = r'.id → r'.appId = r.appId

/-- The requests of an isolated app write rows of the app, and those that receive its own payments,
that its metadata attributes or that it finds paid, in any company. Reference: `nip47/controllers`,
`transactions/transactions_service.go`. -/
theorem isolated_app_writes_own (W : World) (appId : Nat) {cfg cfg' : Pool} {i : Nat} {env : Env}
    (h : Reachable W (Fresh (DB.Isolated · appId)) anyStep cfg)
    (hs : cfg.step (exec W) (body W) (.run i env) = some cfg') :
    cfg.WritesOnly W appId (OwnRow W appId) i cfg' := by
  have hd := h.sound (own_sound W appId) fun _ hf =>
    ⟨hf.1, by simp [hf.2.2], by simp [hf.2.2], by simp [hf.2.2]⟩
  obtain ⟨op, hist, c, k, a, s', hi, hx, rfl⟩ := Config.step_run hs
  intro t ht request requestEventId hr hop r' hr' hnew
  obtain rfl : ⟨op, hist, .cmd c k⟩ = t := Option.some.inj (hi.symm.trans ht)
  have hknown := hd.known _ (List.mem_of_getElem? hi)
  obtain ⟨hsourced, hown⟩ := hd.issues hi
  have hc := hsourced.sourced fun call hcall => (hknown call hcall).1
  refine ⟨?_, fun r hr hid => ?_⟩
  · have hwrites := hown (Nip47Request.calls_requestOf hr hop) fun call hcall =>
      (hknown call hcall).2
    exact (exec_changes (fun _ _ => OwnRow.congr) hx hc hwrites hr').resolve_left hnew
  · obtain ⟨r'', hr'', hstep⟩ := (exec_step hx hc).row hr
    obtain rfl := Table.eq_of_id hr' hr'' (hid.symm.trans hstep.id.symm)
    exact congrArg Identity.appId hstep.identity

/-- The invoice of a demo request, as the node answers it when it is made and once it is paid.
Reference: `tests/mock_ln_client.go`. -/
def demoInvoice (preimage : String) (settledAt : Option Int) : Env where
  now := demoNow
  transaction := .ok
    { invoice := mockInvoice, paymentHash := mockHash, preimage, settledAt, amountMsat := 123000 }

/-- Alice's app asks for an invoice. Reference: `nip47/controllers/make_invoice_controller.go`. -/
def demoMakeInvoice (metadata : Option Metadata) : Nip47Request :=
  .makeInvoice 123000 "" "" 0 metadata

/-- The call of the request is about to insert its row. Reference: none. -/
def demoBeforeInvoice (W : World) (appId : Nat) (metadata : Option Metadata) : Pool :=
  (demoPool .empty).after W (((demoMakeInvoice metadata).calls W appId 1).map .spawn ++
    steps 0 1 (demoInvoice "" none))

theorem isolated_app_writes_own_invoice :
    ((demoBeforeInvoice demo 1 none).after demo
        [.run 0 (demoInvoice "" none)]).state.db.transactions.rows.map (·.appId) = [some 1] ∧
      (demoBeforeInvoice demo 1 none).WritesOnly demo 1 (OwnRow demo 1) 0
        ((demoBeforeInvoice demo 1 none).after demo [.run 0 (demoInvoice "" none)]) :=
  ⟨by decide +kernel, isolated_app_writes_own demo 1
    (.of_after (.start ⟨⟨_, List.mem_cons_self, rfl, rfl⟩, rfl, rfl⟩) Config.allows_any
      (by decide +kernel)) (Pool.step_after (by decide +kernel))⟩

/-- The rows that an isolated app should write: its own, and those that receive its payments.
Reference: none. -/
def StrictlyOwn (appId : Nat) (_ : Op) (h : History) (r : Transaction) : Prop :=
  r.appId = some appId ∨ ReceivesFrom appId h r

/-- Whether the step of call `i`, which has inserted no payment, writes a row of another app.
Reference: none. -/
def Pool.writesOther (appId i : Nat) (cfg cfg' : Pool) : Bool :=
  cfg.threads[i]?.any fun t => t.hist.all (fun call => (insertedRow call).isNone) &&
    cfg'.state.db.transactions.rows.any fun r =>
      r ∉ cfg.state.db.transactions.rows && r.appId ≠ some appId

theorem Pool.not_writesOnly {W : World} {appId i : Nat} {cfg cfg' : Pool} {op : Op}
    (request : Nip47Request) (requestEventId : Nat) (hr : request.endsHoldInvoice = false)
    (hop : request.calls W appId requestEventId = [op])
    (ht : cfg.threads[i]?.map (·.op) = some op) (hw : cfg.writesOther appId i cfg' = true) :
    ¬ cfg.WritesOnly W appId (StrictlyOwn appId) i cfg' := by
  intro hown
  obtain ⟨t, hi, rfl⟩ := Option.map_eq_some_iff.1 ht
  simp only [writesOther, hi, Option.any_some, Bool.and_eq_true, List.all_eq_true, List.any_eq_true,
    Option.isNone_iff_eq_none, decide_eq_true_eq] at hw
  obtain ⟨hnone, r', hr', hnew, happ⟩ := hw
  have hmem : t.op ∈ request.calls W appId requestEventId :=
    by rw [hop]; exact List.mem_singleton_self _
  rcases (hown t hi request requestEventId hr hmem r' hr' hnew).1 with h | ⟨call, hc, sent, hsent,
    -⟩
  · exact happ h
  · rw [hnone call hc] at hsent
    cases hsent

/-- The hub polls, and Bob's invoice is pending, when Alice's app lists its transactions and learns
that Bob was paid. Reference: `transactions/transactions_service.go:755
checkUnsettledTransactions`. -/
def demoBeforePoll : Pool :=
  (demoBeforeInvoice (demoWorld []) 2 none).after (demoWorld [])
    (.run 0 (demoInvoice "" none) ::
      ((Nip47Request.listTransactions {}).calls (demoWorld []) 1 1).map .spawn ++
      steps 1 3 (demoInvoice wrappedPreimage (some 1772323200)))

/-- Requests of Alice's isolated app create an invoice of Bob's app, and settle one. Reference:
`transactions/transactions_service.go:197 MakeInvoice`, `:755 checkUnsettledTransactions`. -/
theorem isolated_app_writes_other :
    (Reachable demo (Fresh (DB.Isolated · 1)) anyStep
        (demoBeforeInvoice demo 1 (some [("app_id", .number 2 1)])) ∧
      ¬ (demoBeforeInvoice demo 1 (some [("app_id", .number 2 1)])).WritesOnly demo 1
        (StrictlyOwn 1) 0 ((demoBeforeInvoice demo 1 (some [("app_id", .number 2 1)])).after demo
          [.run 0 (demoInvoice "" none)])) ∧
    (Reachable (demoWorld []) (Fresh (DB.Isolated · 1)) anyStep demoBeforePoll ∧
      ¬ demoBeforePoll.WritesOnly (demoWorld []) 1 (StrictlyOwn 1) 1 (demoBeforePoll.after
        (demoWorld []) [.run 1 (demoInvoice wrappedPreimage (some 1772323200))])) := by
  have hstart : Fresh (DB.Isolated · 1) (demoPool .empty) :=
    ⟨⟨_, List.mem_cons_self, rfl, rfl⟩, rfl, rfl⟩
  refine ⟨⟨.of_after (.start hstart) Config.allows_any (by decide +kernel), ?_⟩,
    ⟨.of_after (.of_after (.start hstart) Config.allows_any (by decide +kernel)) Config.allows_any
      (by decide +kernel), ?_⟩⟩
  · exact Pool.not_writesOnly (demoMakeInvoice (some [("app_id", .number 2 1)])) 1 rfl rfl rfl
      (by decide +kernel)
  · exact Pool.not_writesOnly (.listTransactions {}) 1 rfl rfl rfl (by decide +kernel)

end AlbyHub
