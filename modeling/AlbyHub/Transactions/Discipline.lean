import AlbyHub.Transactions.Effects

/-!
# The disciplines of the shared programs

The private methods of the service, under any discipline that lets reads and publications happen
at any time: which writes they issue, and what their results say about the history they leave. Every
claim about calls instantiates the discipline and reads its facts off these lemmas.
-/

namespace AlbyHub

open Go Interaction

/-- The call is in the history. Reference: none. -/
def Did (h : History) (c : Cmd) (a : c.Ans) : Prop := (⟨c, a⟩ : Call Cmd Cmd.Ans) ∈ h

/-- Every answer says what it should. Reference: none. -/
def History.Truthful (h : History) : Prop := ∀ call ∈ h, AlbyHub.Truthful call

section
variable {h h' : History} {c : Cmd} {a : c.Ans}

theorem Did.mono (hd : Did h c a) (hs : h <:+ h') : Did h' c a := hs.subset hd

theorem History.Truthful.mono (ht : History.Truthful h') (hs : h <:+ h') : h.Truthful :=
  fun call hc => ht call (hs.subset hc)

theorem History.Truthful.of_did (ht : History.Truthful h) (hd : Did h c a) :
    AlbyHub.Truthful ⟨c, a⟩ := ht _ hd

theorem Did.last : Did (⟨c, a⟩ :: h) c a := List.mem_cons_self

end

/-- The events that an answered transaction hands to its caller, in the order in which they are
published; the second one of a failure is published by a cancellation only. Reference:
`eventsToPublish` in `transactions/transactions_service.go:1476`, `:1711`; `:1046`, `:1400`. -/
def handedEvents : Call Cmd Cmd.Ans → List Event
  | ⟨.markTransactionSettledTx _ _ _ _, .ok st⟩ | ⟨.createSettledTransactionTx _ _ _ _, .ok st⟩ =>
    st.events
  | ⟨.markPaymentFailedTx _ _, .ok (true, copy)⟩ => [.paymentFailed copy, .holdInvoiceCanceled copy]
  | ⟨.markHoldInvoiceAcceptedTx _ _ _ _, .ok row⟩ => [.holdInvoiceAccepted row]
  | _ => []

/-- What the last transaction handed out and was not published yet. Reference: none. -/
def toPublish : History → List Event
  | [] => []
  | ⟨.publish _, _⟩ :: h => (toPublish h).tail
  | call :: _ => handedEvents call

theorem toPublish_cons {h : History} {c : Cmd} {a : c.Ans} (hc : ∀ event, c ≠ .publish event) :
    toPublish (⟨c, a⟩ :: h) = handedEvents ⟨c, a⟩ := by
  cases c <;> first | rfl | exact absurd rfl (hc _)

/-- What is to be published was handed out by a transaction of the call. Reference: none. -/
theorem mem_handedEvents_of_toPublish {h : History} {event : Event} (he : event ∈ toPublish h) :
    ∃ call ∈ h, event ∈ handedEvents call := by
  induction h with
  | nil => cases he
  | cons call h ih =>
    unfold toPublish at he
    split at he
    · cases he
    · next heq =>
      cases heq
      obtain ⟨call', hcall, hmem⟩ := ih (List.mem_of_mem_tail he)
      exact ⟨call', List.mem_cons_of_mem _ hcall, hmem⟩
    · next heq =>
      cases heq
      exact ⟨_, List.mem_cons_self, he⟩

/-- A receipt that a transaction hands out is of the incoming row that it settled. Reference:
`transactions/transactions_service.go:1623 afterTransactionSettled`. -/
theorem exec_received {W : World} {s s' : Hub} {env : Env} {c : Cmd} {a : c.Ans} {row : Transaction}
    (hx : exec W s c env = some (a, s')) (he : .paymentReceived row ∈ handedEvents ⟨c, a⟩) :
    row.type = .incoming ∧ ∃ r preimage feeMsat selfPayment,
      s.db.transactions.select r.settledFilter = [] ∧
      ((c = .markTransactionSettledTx r preimage feeMsat selfPayment ∧
          row = settleUpdate preimage feeMsat selfPayment env.now r ∧ s'.db.transactions =
            s.db.transactions.update r.id (settleUpdate preimage feeMsat selfPayment env.now)) ∨
        (c = .createSettledTransactionTx r preimage feeMsat selfPayment ∧
          row = s.db.transactions.created env.now
            (settleUpdate preimage feeMsat selfPayment env.now r) ∧
              row ∈ s'.db.transactions.rows)) := by
  -- the only receipt among the events of a settlement is that of its row
  have of_events : ∀ {settled : Transaction} {events : List Event},
      settled.SettlementEvents events → .paymentReceived row ∈ events →
      row = settled ∧ settled.type = .incoming := by
    rintro settled _ ⟨warnings, rfl, hw⟩ hmem
    rcases List.mem_cons.1 hmem with heq | hmem
    · unfold Transaction.settledEvent at heq
      split at heq
      · next hty => cases heq; exact ⟨rfl, hty⟩
      · cases heq
    · obtain ⟨_, _, hne⟩ := hw _ hmem
      cases hne
  unfold handedEvents at he
  split at he
  · next r preimage feeMsat selfPayment st heq =>
    cases heq
    obtain ⟨db, hb, rfl⟩ := Hub.transaction_ok hx
    rcases markTransactionSettledTx_ok hb with ⟨_, -, -, rfl, -⟩ | ⟨hn, -, hst, -, hev, -, ht⟩
    · cases he
    · obtain ⟨hrow, hty⟩ := of_events hev he
      exact ⟨by rw [hrow, hty], r, preimage, feeMsat, selfPayment, hn,
        .inl ⟨rfl, hrow.trans hst, ht⟩⟩
  · next r preimage feeMsat selfPayment st heq =>
    cases heq
    obtain ⟨db, hb, rfl⟩ := Hub.transaction_ok hx
    rcases createSettledTransactionTx_ok hb with ⟨_, -, -, rfl, -⟩ | ⟨hn, -, hst, hev, -, ht⟩
    · cases he
    · obtain ⟨hrow, hty⟩ := of_events hev he
      refine ⟨by rw [hrow, hty], r, preimage, feeMsat, selfPayment, hn,
        .inr ⟨rfl, hrow.trans hst, ?_⟩⟩
      rw [ht, hrow, hst]
      exact Table.mem_create.2 (.inr rfl)
  · simp at he
  · simp at he
  · cases he

/-- Whether the answer to the command decides how a payment ends: the LN client's, or the update of
a hold invoice. Reference: the calls of `Cmd`. -/
def Cmd.decides : Cmd → Bool
  | .lnSendPaymentSync _ _ | .lnSendKeysend _ _ _ _ | .receiveHoldUpdate _ _ => true
  | _ => false

/-- A discipline that lets reads happen at any time, and publications of what is to be published but
for cancellations. Reference: none. -/
structure Lenient (ok : History → Cmd → Prop) : Prop where
  read : ∀ h c, c.writes = false → c.decides = false → ok h c
  publish : ∀ h event events, toPublish h = event :: events →
    (h.Truthful → event.isCancellation = false) → ok h (.publish event)

section
variable {ok : History → Cmd → Prop} {h : History} {dbTransaction : Transaction}
variable {preimage paymentRequest paymentHash reason : String} {feeMsat : Nat} {selfPayment : Bool}

theorem follows_publishEvents (hr : Lenient ok) {events more : List Event}
    (hp : toPublish h = events ++ more)
    (hn : h.Truthful → ∀ e ∈ events, e.isCancellation = false) :
    Follows ok (fun h' _ => toPublish h' = more) h (publishEvents events) := by
  induction events generalizing h with
  | nil => exact hp
  | cons event events ih =>
    refine .call (hr.publish _ _ _ hp fun ht => hn ht event List.mem_cons_self) fun _ => ih ?_ ?_
    · rw [toPublish, hp]
      rfl
    · exact fun ht e he => hn (ht.mono (List.suffix_cons _ _)) e (List.mem_cons_of_mem _ he)

/-- Reference: `transactions/transactions_service.go:731 ListTransactions`. -/
theorem follows_queryPage (hr : Lenient ok) {q : ListQuery} :
    Follows ok (fun _ _ => True) h (queryPage q) := by
  refine .call (hr.read _ _ rfl rfl) fun r => ?_
  cases r with
  | error => trivial
  | ok totalCount =>
    refine .call (hr.read _ _ rfl rfl) fun r => ?_
    cases r <;> trivial

/-- A settlement answers what its transaction answered. Reference:
`transactions/transactions_service.go:1470 markTransactionSettled`. -/
theorem follows_settleCopy (hr : Lenient ok)
    (hw : preimage ≠ "" →
      ok h (.markTransactionSettledTx dbTransaction preimage feeMsat selfPayment)) :
    Follows ok (fun h' r =>
      (∀ x, r = .ok x → preimage ≠ "" ∧ ∃ st : Settlement, x = (st.settled, st.copy) ∧
        Did h' (.markTransactionSettledTx dbTransaction preimage feeMsat selfPayment) (.ok st)) ∧
      (∀ e, r = .error e → preimage = "" ∨
        Did h' (.markTransactionSettledTx dbTransaction preimage feeMsat selfPayment) (.error e)))
      h (settleCopy dbTransaction preimage feeMsat selfPayment) := by
  unfold settleCopy
  split
  · next hp => exact ⟨by simp, fun _ _ => .inl hp⟩
  · next hp =>
    refine .call (hw hp) fun r => ?_
    cases r with
    | error e => exact ⟨by simp, by rintro _ ⟨⟩; exact .inr .last⟩
    | ok st =>
      have hn : History.Truthful
          (⟨.markTransactionSettledTx dbTransaction preimage feeMsat selfPayment, .ok st⟩ :: h) →
          ∀ e ∈ st.events, e.isCancellation = false := fun ht => ht _ List.mem_cons_self
      refine (follows_publishEvents hr (List.append_nil _).symm hn).bind fun h' _ hs _ => ?_
      refine ⟨?_, by simp⟩
      rintro _ ⟨⟩
      exact ⟨hp, st, rfl, Did.last.mono hs⟩

/-- Reference: `transactions/transactions_service.go:1470 markTransactionSettled`. -/
theorem follows_markTransactionSettled (hr : Lenient ok)
    (hw : preimage ≠ "" →
      ok h (.markTransactionSettledTx dbTransaction preimage feeMsat selfPayment)) :
    Follows ok (fun h' r =>
      (∀ x, r = .ok x → preimage ≠ "" ∧ ∃ st : Settlement, x = st.settled ∧
        Did h' (.markTransactionSettledTx dbTransaction preimage feeMsat selfPayment) (.ok st)) ∧
      (∀ e, r = .error e → preimage = "" ∨
        Did h' (.markTransactionSettledTx dbTransaction preimage feeMsat selfPayment) (.error e)))
      h (markTransactionSettled dbTransaction preimage feeMsat selfPayment) := by
  refine (follows_settleCopy hr hw).bind fun h' r _ ⟨hok, herr⟩ => ?_
  cases r with
  | error e => exact ⟨by simp [Except.map], by rintro _ ⟨⟩; exact herr e rfl⟩
  | ok x =>
    refine ⟨?_, by simp [Except.map]⟩
    rintro _ ⟨⟩
    obtain ⟨hp, st, rfl, hd⟩ := hok x rfl
    exact ⟨hp, st, rfl, hd⟩

theorem follows_createSettled (hr : Lenient ok)
    (hw : preimage ≠ "" →
      ok h (.createSettledTransactionTx dbTransaction preimage feeMsat selfPayment)) :
    Follows ok (fun _ _ => True) h
      (createSettledTransactionFromNotification dbTransaction preimage feeMsat selfPayment) := by
  unfold createSettledTransactionFromNotification
  split
  · trivial
  · next hp =>
    refine .call (hw hp) fun r => ?_
    cases r with
    | error e => trivial
    | ok st =>
      have hn : History.Truthful
          (⟨.createSettledTransactionTx dbTransaction preimage feeMsat selfPayment, .ok st⟩ :: h) →
          ∀ e ∈ st.events, e.isCancellation = false := fun ht => ht _ List.mem_cons_self
      exact (follows_publishEvents hr (List.append_nil _).symm hn).bind fun _ _ _ _ => trivial

/-- Reference: `transactions/transactions_service.go:1709 markPaymentFailed`. -/
theorem follows_markPaymentFailed (hr : Lenient ok)
    (hw : ok h (.markPaymentFailedTx dbTransaction reason)) :
    Follows ok (fun h' r => Did h' (.markPaymentFailedTx dbTransaction reason) r ∧
      ∀ copy, r = .ok (true, copy) → toPublish h' = [.holdInvoiceCanceled copy]) h
      (markPaymentFailed dbTransaction reason) := by
  refine .call hw fun r => ?_
  match r with
  | .error e => exact ⟨.last, fun _ h => nomatch h⟩
  | .ok (false, copy) =>
    exact (follows_publishEvents hr rfl (by simp)).bind fun h' _ hs _ =>
      ⟨Did.last.mono hs, fun _ h => nomatch h⟩
  | .ok (true, copy) =>
    refine (follows_publishEvents hr rfl (by simp [Event.isCancellation])).bind
      fun h' _ hs hmore => ⟨Did.last.mono hs, ?_⟩
    rintro _ ⟨⟩
    exact hmore

theorem follows_finishPayment (hr : Lenient ok) {r : Except Err PayInvoiceResponse}
    (hfail : ∀ reason, ok h (.markPaymentFailedTx dbTransaction reason))
    (hsettle : ∀ preimage feeMsat, preimage ≠ "" →
      ok h (.markTransactionSettledTx dbTransaction preimage feeMsat selfPayment)) :
    Follows ok (fun _ _ => True) h (finishPayment dbTransaction selfPayment r) := by
  cases r with
  | error e => exact (follows_markPaymentFailed hr (hfail _)).bind fun _ _ _ _ => trivial
  | ok response =>
    exact (follows_markTransactionSettled hr (hsettle _ _)).mono (fun _ _ h => h)
      fun _ _ _ _ => trivial

theorem follows_markHoldInvoiceAccepted (hr : Lenient ok)
    {settleDeadline : Nat} (hw : ok h
      (.markHoldInvoiceAcceptedTx paymentRequest paymentHash settleDeadline selfPayment)) :
    Follows ok (fun h' _ => ∃ r, Did h'
      (.markHoldInvoiceAcceptedTx paymentRequest paymentHash settleDeadline selfPayment) r) h
      (markHoldInvoiceAccepted paymentRequest paymentHash settleDeadline selfPayment) := by
  refine .call hw fun r => ?_
  cases r with
  | error e => exact ⟨_, .last⟩
  | ok row =>
    exact ⟨hr.publish _ _ _ rfl fun _ => rfl,
      fun _ => ⟨.ok row, Did.last.mono (List.suffix_cons _ _)⟩⟩

/-- How the payer of a self-payment learns the preimage: the invoice's row was settled by the payer,
or its event was received. Reference:
`transactions/transactions_service.go:1055 interceptSelfPayment`. -/
def SelfPaid (paymentRequest paymentHash : String) (h : History) (preimage : String) : Prop :=
  (∃ (incoming : Transaction) (st : Settlement), incoming.hold = false ∧
    incoming.preimage = some preimage ∧ preimage ≠ "" ∧
    Did h (.find { type := some .incoming, state := some .pending, paymentRequest, paymentHash }
      .none) (.ok (some incoming)) ∧
    Did h (.markTransactionSettledTx incoming preimage 0 true) (.ok st)) ∨
  (∃ since row, row.preimage = some preimage ∧
    Did h (.receiveHoldUpdate since paymentRequest) (.settled row))

/-- Reference: `transactions/transactions_service.go:1095 interceptSelfHoldPayment`. -/
theorem follows_interceptSelfHoldPayment (hr : Lenient ok)
    (hw : ∀ h' settleDeadline, h <:+ h' →
      ok h' (.markHoldInvoiceAcceptedTx paymentRequest paymentHash settleDeadline true))
    (hwait : ∀ h' since, h <:+ h' → ok h' (.receiveHoldUpdate since paymentRequest)) :
    Follows ok (fun h' r => ∀ x, r = .ok x →
      x.feeMsat = 0 ∧ ∃ since row, row.preimage = some x.preimage ∧
        Did h' (.receiveHoldUpdate since paymentRequest) (.settled row)) h
      (interceptSelfHoldPayment paymentRequest paymentHash) := by
  refine .call (hr.read _ _ rfl rfl) fun since => .call (hr.read _ _ rfl rfl) fun info => ?_
  cases info with
  | error e => exact fun _ hx => nomatch hx
  | ok blockHeight =>
    simp only
    split
    · exact fun _ hx => nomatch hx
    · refine (follows_markHoldInvoiceAccepted hr (hw _ _ ?_)).bind fun h₁ _ hs₁ _ => ?_
      · exact (List.suffix_cons _ _).trans (List.suffix_cons _ _)
      · refine .call (hwait _ _ (((List.suffix_cons _ _).trans (List.suffix_cons _ _)).trans hs₁))
          fun update => ?_
        cases update with
        | canceled row => exact fun _ hx => nomatch hx
        | settled row =>
          cases hpre : row.preimage with
          | none => simp [hpre]
          | some preimage =>
            simp only [hpre]
            rintro _ ⟨⟩
            exact ⟨rfl, since, row, hpre, .last⟩

/-- Reference: `transactions/transactions_service.go:1055 interceptSelfPayment`. -/
theorem follows_interceptSelfPayment (hr : Lenient ok)
    (haccept : ∀ h' settleDeadline, h <:+ h' →
      ok h' (.markHoldInvoiceAcceptedTx paymentRequest paymentHash settleDeadline true))
    (hwait : ∀ h' since, h <:+ h' → ok h' (.receiveHoldUpdate since paymentRequest))
    (hsettle : ∀ h' incoming preimage, h <:+ h' → incoming.hold = false →
      incoming.preimage = some preimage → preimage ≠ "" → Did h' (.find
        { type := some .incoming, state := some .pending, paymentRequest, paymentHash } .none)
        (.ok (some incoming)) → ok h' (.markTransactionSettledTx incoming preimage 0 true)) :
    Follows ok (fun h' r => ∀ x, r = .ok x →
      x.feeMsat = 0 ∧ SelfPaid paymentRequest paymentHash h' x.preimage) h
      (interceptSelfPayment paymentRequest paymentHash) := by
  refine .call (hr.read _ _ rfl rfl) fun found => ?_
  match found with
  | .error e => exact fun _ hx => nomatch hx
  | .ok none => exact fun _ hx => nomatch hx
  | .ok (some incoming) =>
    simp only
    split
    · refine (follows_interceptSelfHoldPayment hr (fun h' d hs => ?_) fun h' since hs => ?_).mono
        (fun _ _ h => h) ?_
      · exact haccept h' d ((List.suffix_cons _ _).trans hs)
      · exact hwait h' since ((List.suffix_cons _ _).trans hs)
      · intro h' r _ hpost x hx
        exact ⟨(hpost x hx).1, .inr (hpost x hx).2⟩
    · next hhold =>
      have hhold : incoming.hold = false := by simpa using hhold
      cases hpre : incoming.preimage with
      | none => exact fun _ hx => nomatch hx
      | some preimage =>
        refine (follows_markTransactionSettled hr fun hp =>
          hsettle _ incoming preimage (List.suffix_cons _ _) hhold hpre hp .last).bind
          fun h' r hs ⟨hok, _⟩ => ?_
        cases r with
        | error e => exact fun _ hx => nomatch hx
        | ok settled =>
          rintro _ ⟨⟩
          obtain ⟨hp, st, -, hd⟩ := hok settled rfl
          exact ⟨rfl, .inl ⟨incoming, st, hhold, hpre, hp, Did.last.mono hs, hd⟩⟩

/-- The outgoing row that a call inserted. Reference:
`transactions/transactions_service.go:397`, `:512`. -/
def insertedRow : Call Cmd Cmd.Ans → Option Transaction
  | ⟨.sendPaymentTx _, .ok row⟩ | ⟨.sendKeysendTx _, .ok row⟩ => some row
  | _ => none

/-- A call that a payment makes before its row is there. Reference:
`transactions/transactions_service.go:301 SendPaymentSync`, `:465 SendKeysend`. -/
def Prepares : Call Cmd Cmd.Ans → Prop
  | ⟨.now, _⟩ | ⟨.randomBytes, _⟩ | ⟨.find _ _, _⟩ | ⟨.sendPaymentTx _, .error _⟩
  | ⟨.sendKeysendTx _, .error _⟩ => True
  | _ => False

theorem Prepares.insertedRow_eq_none {call : Call Cmd Cmd.Ans} (hp : Prepares call) :
    insertedRow call = none := by
  unfold insertedRow
  split <;> first | rfl | cases hp

/-- The arguments of the transaction of `SendPaymentSync`, given what was looked up. Reference:
`transactions/transactions_service.go:301 SendPaymentSync`. -/
structure SendPaymentArgs.Of (W : World) (payReq : String) (amountMsat : Option Nat)
    (appId requestEventId : Option Nat) (h : History) (a : SendPaymentArgs) : Prop where
  payReq : a.payReq = toLower W.lowerNonAscii payReq
  decoded : W.decodepay a.payReq = .ok a.paymentRequest
  appId : a.appId = appId
  requestEventId : a.requestEventId = requestEventId
  amount : a.paymentAmountMsat = paymentAmount a.paymentRequest amountMsat
  incoming : ∃ found, a.selfPayment = isSelfPayment found ∧ Did h (.find
    { type := some .incoming, paymentHash := a.paymentRequest.paymentHash
      paymentRequest := a.payReq } .none) found

/-- `SendPaymentSync` inserts one row and then tries to pay, or inserts none; before the row it only
prepares. Reference: `transactions/transactions_service.go:301 SendPaymentSync`. -/
theorem follows_sendPaymentSync_prepared {W : World} {payReq : String} {amountMsat : Option Nat}
    {metadata : Option Metadata} {appId requestEventId : Option Nat}
    {post : History → Except Err Transaction → Prop} (hr : Lenient ok)
    (hnone : ∀ h' e, (∀ call ∈ h', call ∈ h ∨ Prepares call) → post h' (.error e))
    (hinsert : ∀ h' a, h <:+ h' → (∀ call ∈ h', call ∈ h ∨ Prepares call) →
      a.Of W payReq amountMsat appId requestEventId h' → ok h' (.sendPaymentTx a))
    (hpay : ∀ h' a row, (∀ call ∈ h', call ∈ h ∨ Prepares call) →
      a.Of W payReq amountMsat appId requestEventId h' →
      Follows ok post (⟨.sendPaymentTx a, .ok row⟩ :: h') (SendPaymentSync.pay a.payReq amountMsat
        a.paymentRequest.paymentHash a.selfPayment row)) :
    Follows ok post h (SendPaymentSync W payReq amountMsat metadata appId requestEventId) := by
  unfold SendPaymentSync
  split
  · exact hnone h _ fun _ => .inl
  · simp only
    split
    · exact hnone h _ fun _ => .inl
    · next paymentRequest hdec =>
      refine .call (hr.read _ _ rfl rfl) fun now => ?_
      split
      · refine hnone _ _ fun call hc => ?_
        rcases List.mem_cons.1 hc with rfl | hc
        · exact .inr trivial
        · exact .inl hc
      · refine .call (hr.read _ _ rfl rfl) fun incoming => ?_
        -- the two reads are all that the call has done when it inserts the row
        have hreads : ∀ call ∈ (⟨.find _ _, incoming⟩ :: ⟨.now, now⟩ :: h : History),
            call ∈ h ∨ Prepares call := by
          intro call hc
          rcases List.mem_cons.1 hc with rfl | hc
          · exact .inr trivial
          · rcases List.mem_cons.1 hc with rfl | hc
            · exact .inr trivial
            · exact .inl hc
        refine .call (hinsert _ _ ((List.suffix_cons _ _).trans (List.suffix_cons _ _)) hreads
          ⟨rfl, hdec, rfl, rfl, rfl, incoming, rfl, .last⟩) fun r => ?_
        cases r with
        | error e =>
          refine hnone _ _ fun call hc => ?_
          rcases List.mem_cons.1 hc with rfl | hc
          · exact .inr trivial
          · exact hreads call hc
        | ok row => exact hpay _ _ row hreads ⟨rfl, hdec, rfl, rfl, rfl, incoming, rfl, .last⟩

/-- `SendPaymentSync` inserts one row and then tries to pay, or inserts none. Reference:
`transactions/transactions_service.go:301 SendPaymentSync`. -/
theorem follows_sendPaymentSync {W : World} {payReq : String} {amountMsat : Option Nat}
    {metadata : Option Metadata} {appId requestEventId : Option Nat}
    {post : History → Except Err Transaction → Prop} (hr : Lenient ok)
    (hnone : ∀ h' e, (∀ call ∈ h', call ∈ h ∨ Prepares call) → post h' (.error e))
    (hinsert : ∀ h' a, h <:+ h' → a.Of W payReq amountMsat appId requestEventId h' →
      ok h' (.sendPaymentTx a))
    (hpay : ∀ h' a row, (∀ call ∈ h', call ∈ h ∨ Prepares call) →
      a.Of W payReq amountMsat appId requestEventId h' →
      Follows ok post (⟨.sendPaymentTx a, .ok row⟩ :: h') (SendPaymentSync.pay a.payReq amountMsat
        a.paymentRequest.paymentHash a.selfPayment row)) :
    Follows ok post h (SendPaymentSync W payReq amountMsat metadata appId requestEventId) :=
  follows_sendPaymentSync_prepared hr hnone (fun h' a hs _ ha => hinsert h' a hs ha) hpay

/-- The keysend that `SendKeysend` sends. Reference:
`transactions/transactions_service.go:465 SendKeysend`. -/
structure KeysendArgs.Of (W : World) (amountMsat : Nat) (destination : String)
    (customRecords : List TLVRecord) (appId requestEventId : Option Nat) (k : KeysendArgs) :
    Prop where
  amountMsat : k.amountMsat = amountMsat
  destination : k.destination = destination
  customRecords : k.customRecords = customRecords
  appId : k.appId = appId
  requestEventId : k.requestEventId = requestEventId
  selfPayment : k.selfPayment = decide (k.destination = W.pubkey)
  paymentHash : ∃ bytes, hexDecodeString k.preimage = some bytes ∧ bytes.length = 32 ∧
    k.paymentHash = hexEncodeToString (W.sha256 bytes)

/-- The preimage of a keysend is not empty. Reference:
`transactions/transactions_service.go:475 SendKeysend`. -/
theorem KeysendArgs.Of.preimage_ne {W : World} {amountMsat : Nat} {destination : String}
    {customRecords : List TLVRecord} {appId requestEventId : Option Nat} {k : KeysendArgs}
    (hk : k.Of W amountMsat destination customRecords appId requestEventId) : k.preimage ≠ "" := by
  intro h
  obtain ⟨bytes, hb, hl, -⟩ := hk.paymentHash
  rw [h] at hb
  cases hb
  cases hl

/-- `SendKeysend` inserts one outgoing row and then tries to pay, or inserts none. Reference:
`transactions/transactions_service.go:465 SendKeysend`. -/
theorem follows_sendKeysend {W : World} {amountMsat : Nat} {destination : String}
    {customRecords : List TLVRecord} {appId requestEventId : Option Nat}
    {post : History → Result → Prop} (hr : Lenient ok)
    (hnone : ∀ h' r, (r = .ok none ∨ ∃ e, r = .error e) →
      (∀ call ∈ h', call ∈ h ∨ Prepares call) → post h' r)
    (hinsert : ∀ h' (k : KeysendArgs), h <:+ h' →
      k.Of W amountMsat destination customRecords appId requestEventId →
      ok h' (.sendKeysendTx k.row))
    (hpay : ∀ h' (k : KeysendArgs) row, (∀ call ∈ h', call ∈ h ∨ Prepares call) →
      k.Of W amountMsat destination customRecords appId requestEventId →
      Follows ok (fun h (r : Except Err Transaction) =>
        post h (r.map some)) (⟨.sendKeysendTx k.row, .ok row⟩ :: h')
        (k.pay row)) :
    Follows ok post h
      (SendKeysend W amountMsat destination customRecords preimage appId requestEventId) := by
  -- the preimage is the caller's or a random one, and nothing is inserted before it is there
  have hpreimage : Follows ok
      (fun h' _ => h <:+ h' ∧ ∀ call ∈ h', call ∈ h ∨ Prepares call) h
      (keysendPreimage preimage) := by
    unfold keysendPreimage
    split
    · refine .call (hr.read _ _ rfl rfl) fun bytes => ⟨List.suffix_cons _ _, fun call hc => ?_⟩
      rcases List.mem_cons.1 hc with rfl | hc
      · exact .inr trivial
      · exact .inl hc
    · exact ⟨List.suffix_rfl, fun _ => .inl⟩
  refine hpreimage.bind fun h₁ preimage _ ⟨hs, hframe⟩ => ?_
  cases preimage with
  | error e => exact hnone _ _ (.inr ⟨e, rfl⟩) hframe
  | ok preimage =>
    simp only
    split
    · exact hnone _ _ (.inr ⟨_, rfl⟩) hframe
    · next bytes hbytes =>
      split
      · exact hnone _ _ (.inl rfl) hframe
      · next hlen =>
        refine Follows.map ?_
        unfold SendKeysend.send
        split
        · exact hnone _ _ (.inr ⟨_, rfl⟩) hframe
        · next metadata _ =>
          have hk : KeysendArgs.Of W amountMsat destination customRecords appId requestEventId
              { amountMsat, destination, customRecords, preimage, metadata, appId, requestEventId
                paymentHash := hexEncodeToString (W.sha256 bytes)
                boostagram := getBoostagramBytesFromCustomRecords W customRecords
                description := getDescriptionFromCustomRecords W customRecords
                selfPayment := destination = W.pubkey } :=
            ⟨rfl, rfl, rfl, rfl, rfl, rfl, bytes, hbytes, Decidable.not_not.1 hlen, rfl⟩
          refine .call (hinsert _ _ hs hk) fun r => ?_
          cases r with
          | ok row => exact hpay _ _ row hframe hk
          | error e =>
            refine hnone _ _ (.inr ⟨e, rfl⟩) fun call hc => ?_
            rcases List.mem_cons.1 hc with rfl | hc
            · exact .inr trivial
            · exact hframe call hc

theorem follows_getAppIdFromCustomRecords (hr : Lenient ok)
    (records : List TLVRecord) :
    Follows ok (fun h' _ => ∀ call ∈ h', call ∈ h ∨ call.cmd.writes = false) h
      (getAppIdFromCustomRecords records) := by
  induction records generalizing h with
  | nil => exact fun _ => .inl
  | cons record records ih =>
    unfold getAppIdFromCustomRecords
    split
    · exact ih
    · split
      · exact ih
      · refine .call (hr.read _ _ rfl rfl) fun r => ?_
        cases r with
        | error e =>
          refine ih.mono (fun _ _ h => h) fun h' _ _ hpost call hc => ?_
          rcases hpost call hc with hc | hc
          · rcases List.mem_cons.1 hc with rfl | hc
            · exact .inr rfl
            · exact .inl hc
          · exact .inr hc
        | ok app =>
          intro call hc
          rcases List.mem_cons.1 hc with rfl | hc
          · exact .inr rfl
          · exact .inl hc

/-- A settlement of a hold invoice is of the accepted row that it found. Reference:
`transactions/transactions_service.go:1306 SettleHoldInvoice`. -/
theorem follows_settleHoldInvoice {W : World} (hr : Lenient ok)
    (hw : ∀ h' paymentHash row, preimage ≠ "" → Did h' (.find
        { type := some .incoming, state := some .accepted, paymentHash } .none) (.ok (some row)) →
      ok h' (.markTransactionSettledTx row preimage 0 row.selfPayment)) :
    Follows ok (fun _ _ => True) h (SettleHoldInvoice W preimage) := by
  unfold SettleHoldInvoice
  split
  · trivial
  · split
    · trivial
    · refine .call (hr.read _ _ rfl rfl) fun r => ?_
      cases r with
      | error e => trivial
      | ok found =>
        cases found with
        | none => trivial
        | some row =>
          refine Follows.seq ?_ fun h' err hs => ?_
          · split
            · trivial
            · exact ⟨hr.read _ _ rfl rfl, fun _ => trivial⟩
          · cases err with
            | error e => trivial
            | ok _ =>
              exact (follows_markTransactionSettled hr fun hp =>
                hw _ _ _ hp (Did.last.mono hs)).mono (fun _ _ h => h) fun _ _ _ _ => trivial

/-- A cancellation of a hold invoice is of the accepted row that it found, and is published where
the row is failed by it. Reference: `transactions/transactions_service.go:1354
CancelHoldInvoice`. -/
theorem follows_cancelHoldInvoice (hr : Lenient ok)
    (hw : ∀ h' row, Did h' (.find
        { type := some .incoming, state := some .accepted, paymentHash } .none) (.ok (some row)) →
      ok h' (.markPaymentFailedTx row "Hold invoice was cancelled"))
    (hpublish : ∀ h' row copy, Did h' (.find
        { type := some .incoming, state := some .accepted, paymentHash } .none) (.ok (some row)) →
      Did h' (.markPaymentFailedTx row "Hold invoice was cancelled") (.ok (true, copy)) →
      toPublish h' = [.holdInvoiceCanceled copy] → ok h' (.publish (.holdInvoiceCanceled copy))) :
    Follows ok (fun _ _ => True) h (CancelHoldInvoice paymentHash) := by
  refine .call (hr.read _ _ rfl rfl) fun r => ?_
  cases r with
  | error e => trivial
  | ok found =>
    cases found with
    | none => trivial
    | some row =>
      have hd : Did (⟨.find { type := some .incoming, state := some .accepted, paymentHash } .none,
        .ok (some row)⟩ :: h) _ _ := .last
      refine Follows.seq ?_ fun h₁ err hs => ?_
      · split
        · trivial
        · exact ⟨hr.read _ _ rfl rfl, fun _ => trivial⟩
      · cases err with
        | error e => trivial
        | ok _ =>
          refine (follows_markPaymentFailed hr (hw _ _ (hd.mono hs))).bind
            fun h₂ r hs₂ ⟨hfailed, hmore⟩ => ?_
          cases r with
          | error e => trivial
          | ok failed =>
            obtain ⟨marked, copy⟩ := failed
            cases marked with
            | false => trivial
            | true =>
              exact .call (hpublish _ _ _ ((hd.mono hs).mono hs₂) hfailed (hmore copy rfl))
                fun _ => trivial

end

end AlbyHub
