import AlbyHub.Transactions.Sourced

/-!
# Outcomes are told at once

A call that has settled or failed a row publishes the event of it before it issues another command
and before it returns (`body_prompt`). The rows that a call inserts unsettled have no instant of
settlement, and the incoming ones no fee reserve.
-/

namespace AlbyHub

open Go Interaction

/-- Whether the event tells that the row came into the state. Reference:
`transactions/transactions_service.go:1623 afterTransactionSettled`, `:1757 markPaymentFailed`. -/
def Event.tells (state : TransactionState) (id : Nat) : Event → Bool
  | .paymentSent row | .paymentReceived row => state = .settled && row.id = id
  | .paymentFailed row => state = .failed && row.id = id
  | _ => false

/-- Whether the event tells how a payment ended, or warns of the budget that it used. Reference: the
calls of `Publish` in `transactions/transactions_service.go`. -/
def Event.isOutcome : Event → Bool
  | .paymentSent _ | .paymentReceived _ | .paymentFailed _ | .budgetWarning _ _ => true
  | _ => false

/-- No outcome is left to be published. Reference: none. -/
def History.Quiet (h : History) : Prop := ∀ event ∈ toPublish h, event.isOutcome = false

/-- A call publishes all outcomes before it goes on; a row that it inserts pending is not settled
and has no fee reserve. Reference: none. -/
def PromptBy (h : History) : Cmd → Prop
  | .publish _ => True
  | .create row => h.Quiet ∧ row.feeReserveMsat = 0 ∧ row.settledAt = none
  | _ => h.Quiet

/-- Whether the command hands out events or publishes. Reference: `handedEvents`. -/
def Cmd.hands : Cmd → Bool
  | .publish _ | .markTransactionSettledTx _ _ _ _ | .createSettledTransactionTx _ _ _ _
  | .markPaymentFailedTx _ _ | .markHoldInvoiceAcceptedTx _ _ _ _ => true
  | _ => false

/-- The program follows the discipline and leaves nothing to publish. Reference: none. -/
abbrev Prompt {α : Type} (h : History) (p : Svc α) : Prop :=
  Follows PromptBy (fun (h' : History) _ => h'.Quiet) h p

section
variable {W : World} {h : History} {row : Transaction} {c : Cmd} {a : c.Ans}

theorem Event.isOutcome_of_tells {event : Event} {state : TransactionState} {id : Nat}
    (ht : event.tells state id = true) : event.isOutcome = true := by
  cases event <;> first | rfl | cases ht

theorem quiet_nil : History.Quiet [] := fun _ he => nomatch he

theorem quiet_cons (hc : c.hands = false) : History.Quiet (⟨c, a⟩ :: h) := by
  intro event he
  cases c <;> first | cases he | cases hc

theorem prompt_publishEvents {events more : List Event} (hp : toPublish h = events ++ more)
    (hmore : ∀ event ∈ more, event.isOutcome = false) : Prompt h (publishEvents events) := by
  induction events generalizing h with
  | nil =>
    intro event he
    rw [hp] at he
    exact hmore event he
  | cons event events ih =>
    refine .call trivial fun _ => ih ?_
    rw [toPublish, hp]
    rfl

theorem prompt_settleCopy {preimage : String} {feeMsat : Nat} {selfPayment : Bool} (hq : h.Quiet) :
    Prompt h (settleCopy row preimage feeMsat selfPayment) := by
  unfold settleCopy
  split
  · exact hq
  · refine .call hq fun r => ?_
    cases r with
    | error e => exact fun _ he => nomatch he
    | ok st =>
      exact (prompt_publishEvents (List.append_nil _).symm fun _ he => nomatch he).bind
        fun _ _ _ hq => hq

theorem prompt_markTransactionSettled {preimage : String} {feeMsat : Nat} {selfPayment : Bool}
    (hq : h.Quiet) : Prompt h (markTransactionSettled row preimage feeMsat selfPayment) :=
  (prompt_settleCopy hq).bind fun _ _ _ hq => hq

theorem prompt_createSettled {preimage : String} {feeMsat : Nat} {selfPayment : Bool}
    (hq : h.Quiet) :
    Prompt h (createSettledTransactionFromNotification row preimage feeMsat selfPayment) := by
  unfold createSettledTransactionFromNotification
  split
  · exact hq
  · refine .call hq fun r => ?_
    cases r with
    | error e => exact fun _ he => nomatch he
    | ok st =>
      exact (prompt_publishEvents (List.append_nil _).symm fun _ he => nomatch he).bind
        fun _ _ _ hq => hq

theorem prompt_markPaymentFailed {reason : String} (hq : h.Quiet) :
    Prompt h (markPaymentFailed row reason) := by
  refine .call hq fun r => ?_
  match r with
  | .error e => exact fun _ he => nomatch he
  | .ok (false, copy) => exact fun _ he => nomatch he
  | .ok (true, copy) =>
    -- the second event is that of a cancellation, which is not an outcome
    refine (@prompt_publishEvents _ _ [.holdInvoiceCanceled copy] rfl ?_).bind
      fun _ _ _ hq => hq
    intro event he
    rw [List.mem_singleton.1 he]
    rfl

theorem prompt_markHoldInvoiceAccepted {paymentRequest paymentHash : String} {settleDeadline : Nat}
    {selfPayment : Bool} (hq : h.Quiet) :
    Prompt h (markHoldInvoiceAccepted paymentRequest paymentHash settleDeadline selfPayment) := by
  refine .call hq fun r => ?_
  cases r with
  | error e => exact fun _ he => nomatch he
  | ok row =>
    refine ⟨trivial, fun _ => ?_⟩
    intro event he
    cases he

theorem prompt_interceptSelfHoldPayment {paymentRequest paymentHash : String} (hq : h.Quiet) :
    Prompt h (interceptSelfHoldPayment paymentRequest paymentHash) := by
  refine .call hq fun since => .call (quiet_cons rfl) fun info => ?_
  have hq₁ : History.Quiet (⟨.lnGetInfo, info⟩ :: ⟨.registerSubscriber, since⟩ :: h) :=
    quiet_cons rfl
  cases info with
  | error e => exact hq₁
  | ok blockHeight =>
    simp only
    split
    · exact hq₁
    · refine (prompt_markHoldInvoiceAccepted hq₁).bind fun h₂ _ _ hq₂ => .call hq₂ fun update => ?_
      have hq₃ : History.Quiet (⟨.receiveHoldUpdate since paymentRequest, update⟩ :: h₂) :=
        quiet_cons rfl
      cases update with
      | canceled row => exact hq₃
      | settled row =>
        simp only
        split <;> exact hq₃

theorem prompt_interceptSelfPayment {paymentRequest paymentHash : String} (hq : h.Quiet) :
    Prompt h (interceptSelfPayment paymentRequest paymentHash) := by
  refine .call hq fun found => ?_
  match found with
  | .error e => exact quiet_cons rfl
  | .ok none => exact quiet_cons rfl
  | .ok (some incoming) =>
    simp only
    split
    · exact prompt_interceptSelfHoldPayment (quiet_cons rfl)
    · split
      · exact quiet_cons rfl
      · refine (prompt_markTransactionSettled (quiet_cons rfl)).bind fun h₁ r _ hq₁ => ?_
        cases r <;> exact hq₁

theorem prompt_finishPayment {selfPayment : Bool} {r : Except Err PayInvoiceResponse}
    (hq : h.Quiet) : Prompt h (finishPayment row selfPayment r) := by
  cases r with
  | error e => exact (prompt_markPaymentFailed hq).bind fun _ _ _ hq => hq
  | ok response => exact prompt_markTransactionSettled hq

theorem prompt_makeInvoice {amountMsat : Nat} {description descriptionHash : String}
    {expiry : Nat} {metadata : Option Metadata} {appId requestEventId : Option Nat}
    {throughNodePubkey : Option String} (hq : h.Quiet) :
    Prompt h (MakeInvoice W amountMsat description descriptionHash expiry metadata appId
      requestEventId throughNodePubkey) := by
  unfold MakeInvoice
  split
  · exact hq
  · split
    · exact hq
    · split
      · exact hq
      · split
        · exact hq
        · refine .call hq fun r => ?_
          cases r with
          | error e => exact quiet_cons rfl
          | ok tx => exact ⟨⟨quiet_cons rfl, rfl, rfl⟩, fun _ => quiet_cons rfl⟩

theorem prompt_makeHoldInvoice {amountMsat : Nat} {description descriptionHash : String}
    {expiry : Nat} {paymentHash : String} {minCltvExpiryDelta : Option Nat}
    {metadata : Option Metadata} {appId requestEventId : Option Nat} (hq : h.Quiet) :
    Prompt h (MakeHoldInvoice W amountMsat description descriptionHash expiry paymentHash
      minCltvExpiryDelta metadata appId requestEventId) := by
  unfold MakeHoldInvoice
  split
  · exact hq
  · refine .call hq fun r => ?_
    cases r with
    | error e => exact quiet_cons rfl
    | ok tx => exact ⟨⟨quiet_cons rfl, rfl, rfl⟩, fun _ => quiet_cons rfl⟩

theorem prompt_sendPaymentSync {payReq : String} {amountMsat : Option Nat}
    {metadata : Option Metadata} {appId requestEventId : Option Nat} (hq : h.Quiet) :
    Prompt h (SendPaymentSync W payReq amountMsat metadata appId requestEventId) := by
  unfold SendPaymentSync
  split
  · exact hq
  · simp only
    split
    · exact hq
    · refine .call hq fun now => ?_
      split
      · exact quiet_cons rfl
      · refine .call (quiet_cons rfl) fun incoming => .call (quiet_cons rfl) fun r => ?_
        cases r with
        | error e => exact quiet_cons rfl
        | ok row =>
          simp only
          unfold SendPaymentSync.pay
          split
          · exact (prompt_interceptSelfPayment (quiet_cons rfl)).bind fun _ _ _ hq =>
              prompt_finishPayment hq
          · exact .call (quiet_cons rfl) fun _ => prompt_finishPayment (quiet_cons rfl)

theorem prompt_getAppIdFromCustomRecords (hq : h.Quiet) (records : List TLVRecord) :
    Prompt h (getAppIdFromCustomRecords records) := by
  induction records generalizing h with
  | nil => exact hq
  | cons record records ih =>
    unfold getAppIdFromCustomRecords
    split
    · exact ih hq
    · split
      · exact ih hq
      · refine .call hq fun r => ?_
        cases r with
        | error e => exact ih (quiet_cons rfl)
        | ok app => exact quiet_cons rfl

theorem prompt_keysendPay {k : KeysendArgs} (hq : h.Quiet) : Prompt h (k.pay row) := by
  unfold KeysendArgs.pay
  split
  · refine (prompt_getAppIdFromCustomRecords hq _).bind fun h₁ recipient _ hq₁ => ?_
    refine .call ⟨hq₁, rfl, rfl⟩ fun r => ?_
    cases r with
    | error e => exact quiet_cons rfl
    | ok incoming =>
      exact (prompt_interceptSelfPayment (quiet_cons rfl)).bind fun _ _ _ hq =>
        prompt_finishPayment hq
  · exact .call hq fun _ => prompt_finishPayment (quiet_cons rfl)

theorem prompt_sendKeysend {amountMsat : Nat} {destination : String}
    {customRecords : List TLVRecord} {preimage : String} {appId requestEventId : Option Nat}
    (hq : h.Quiet) :
    Prompt h
      (SendKeysend W amountMsat destination customRecords preimage appId requestEventId) := by
  have hpreimage : Prompt h (keysendPreimage preimage) := by
    unfold keysendPreimage
    split
    · exact .call hq fun _ => quiet_cons rfl
    · exact hq
  refine hpreimage.bind fun h₁ preimage _ hq₁ => ?_
  cases preimage with
  | error e => exact hq₁
  | ok preimage =>
    simp only
    split
    · exact hq₁
    · split
      · exact hq₁
      · refine Follows.map ?_
        unfold SendKeysend.send
        split
        · exact hq₁
        · refine .call hq₁ fun r => ?_
          cases r with
          | error e => exact quiet_cons rfl
          | ok row => exact prompt_keysendPay (quiet_cons rfl)

theorem prompt_checkUnsettledTransaction (hq : h.Quiet) :
    Prompt h (checkUnsettledTransaction W row) := by
  unfold checkUnsettledTransaction
  split
  · exact hq
  · refine .call hq fun r => ?_
    cases r with
    | error e => exact quiet_cons rfl
    | ok tx =>
      simp only
      split
      · exact quiet_cons rfl
      · refine (prompt_settleCopy (quiet_cons rfl)).bind fun _ r _ hq => ?_
        cases r <;> exact hq

theorem prompt_checkUnsettledTransactions (hq : h.Quiet) :
    Prompt h (checkUnsettledTransactions W) := by
  have hrows : ∀ (rows : List Transaction) {h : History}, h.Quiet →
      Prompt h (checkEach W rows) := by
    intro rows
    induction rows with
    | nil => exact fun hq => hq
    | cons row rows ih =>
      exact fun hq => (prompt_checkUnsettledTransaction hq).bind fun _ _ _ hq => ih hq
  unfold checkUnsettledTransactions
  split
  · exact hq
  · refine .call hq fun now => .call (quiet_cons rfl) fun r => ?_
    cases r with
    | error e => exact quiet_cons rfl
    | ok rows => exact hrows rows (quiet_cons rfl)

theorem prompt_isolatedAppId {appId : Option Nat} (hq : h.Quiet) :
    Prompt h (isolatedAppId appId) := by
  cases appId with
  | none => exact hq
  | some appId =>
    refine .call hq fun r => ?_
    cases r <;> exact quiet_cons rfl

theorem prompt_lookupTransaction {paymentHash : String} {type : Option TransactionType}
    {appId : Option Nat} (hq : h.Quiet) :
    Prompt h (LookupTransaction W paymentHash type appId) := by
  refine (prompt_isolatedAppId hq).bind fun h₁ r _ hq₁ => ?_
  cases r with
  | error e => exact hq₁
  | ok appId =>
    refine .call hq₁ fun r => ?_
    match r with
    | .error e => exact quiet_cons rfl
    | .ok none => exact quiet_cons rfl
    | .ok (some row) =>
      simp only
      split
      · exact (prompt_checkUnsettledTransaction (quiet_cons rfl)).bind fun _ _ _ hq => hq
      · exact quiet_cons rfl

theorem prompt_listTransactions {params : ListQuery} {appId : Option Nat}
    {forceFilterByAppId : Bool} (hq : h.Quiet) :
    Prompt h (ListTransactions W params appId forceFilterByAppId) := by
  refine (prompt_checkUnsettledTransactions hq).bind fun h₁ _ _ hq₁ => ?_
  refine (prompt_isolatedAppId hq₁).bind fun h₂ r _ hq₂ => ?_
  cases r with
  | error e => exact hq₂
  | ok isolated =>
    refine .call hq₂ fun r => ?_
    cases r with
    | error e => exact quiet_cons rfl
    | ok totalCount =>
      refine .call (quiet_cons rfl) fun r => ?_
      cases r <;> exact quiet_cons rfl

theorem prompt_settleHoldInvoice {preimage : String} (hq : h.Quiet) :
    Prompt h (SettleHoldInvoice W preimage) := by
  unfold SettleHoldInvoice
  split
  · exact hq
  · split
    · exact hq
    · refine .call hq fun r => ?_
      match r with
      | .error e => exact quiet_cons rfl
      | .ok none => exact quiet_cons rfl
      | .ok (some row) =>
        simp only
        split
        · exact prompt_markTransactionSettled (quiet_cons rfl)
        · refine .call (quiet_cons rfl) fun r => ?_
          cases r with
          | error e => exact quiet_cons rfl
          | ok _ => exact prompt_markTransactionSettled (quiet_cons rfl)

theorem prompt_cancelHoldInvoice {paymentHash : String} (hq : h.Quiet) :
    Prompt h (CancelHoldInvoice paymentHash) := by
  refine .call hq fun r => ?_
  cases r with
  | error e => exact quiet_cons rfl
  | ok found =>
    cases found with
    | none => exact quiet_cons rfl
    | some row =>
      simp only
      refine Follows.bind (?_ : Prompt _ _) fun h₁ r _ hq₁ => ?_
      · split
        · exact quiet_cons rfl
        · exact ⟨quiet_cons rfl, fun _ => quiet_cons rfl⟩
      · cases r with
        | error e => exact hq₁
        | ok _ =>
          refine (prompt_markPaymentFailed hq₁).bind fun h₂ r _ hq₂ => ?_
          cases r with
          | error e => exact hq₂
          | ok failed =>
            obtain ⟨failed, copy⟩ := failed
            cases failed with
            | false => exact hq₂
            | true =>
              refine .call trivial fun _ => ?_
              exact fun event he => hq₂ event (List.mem_of_mem_tail he)

theorem prompt_consumeEvent {event : NodeEvent} (hq : h.Quiet) :
    Prompt h (ConsumeEvent W event) := by
  cases event with
  | paymentReceived tx =>
    refine .call hq fun r => ?_
    cases r with
    | error e => exact quiet_cons rfl
    | ok found =>
      cases found with
      | none =>
        refine Follows.bind ?_ fun _ _ _ hq => hq
        unfold createReceived
        split
        · exact prompt_createSettled (quiet_cons rfl)
        · split
          · exact quiet_cons rfl
          · exact (prompt_getAppIdFromCustomRecords (quiet_cons rfl) _).bind fun _ _ _ hq =>
              prompt_createSettled hq
      | some row =>
        exact (prompt_markTransactionSettled (quiet_cons rfl)).bind fun _ _ _ hq => hq
  | holdInvoiceAccepted tx =>
    simp only [ConsumeEvent]
    split
    · exact hq
    · exact prompt_markHoldInvoiceAccepted hq
  | paymentSent tx =>
    have hfind : Prompt h (findSent tx.paymentHash) := by
      refine .call hq fun r => ?_
      cases r with
      | error e => exact quiet_cons rfl
      | ok found =>
        cases found with
        | some row => exact quiet_cons rfl
        | none =>
          refine .call (quiet_cons rfl) fun r => ?_
          cases r with
          | error e => exact quiet_cons rfl
          | ok found =>
            cases found with
            | some row => exact quiet_cons rfl
            | none => exact ⟨quiet_cons rfl, fun _ => quiet_cons rfl⟩
    refine hfind.bind fun h₁ r _ hq₁ => ?_
    cases r with
    | error e => exact hq₁
    | ok found =>
      cases found with
      | none => exact (prompt_createSettled hq₁).bind fun _ _ _ hq => hq
      | some row => exact (prompt_markTransactionSettled hq₁).bind fun _ _ _ hq => hq
  | paymentFailed tx reason =>
    refine .call hq fun r => ?_
    cases r with
    | error e => exact quiet_cons rfl
    | ok found =>
      cases found with
      | none => exact quiet_cons rfl
      | some row => exact (prompt_markPaymentFailed (quiet_cons rfl)).bind fun _ _ _ hq => hq

theorem prompt_setTransactionMetadata {id : Nat} {metadata : Metadata} (hq : h.Quiet) :
    Prompt h (SetTransactionMetadata W id metadata) := by
  unfold SetTransactionMetadata
  split
  · exact hq
  · exact ⟨hq, fun _ => quiet_cons rfl⟩

theorem prompt_setTransactionUserLabels {id : Nat} {labels : List (String × String)}
    (hq : h.Quiet) : Prompt h (SetTransactionUserLabels W id labels) := by
  unfold SetTransactionUserLabels
  split
  · exact hq
  · refine .call hq fun r => ?_
    match r with
    | .error e => exact quiet_cons rfl
    | .ok none => exact quiet_cons rfl
    | .ok (some row) =>
      simp only
      split
      · exact quiet_cons rfl
      · split
        · exact ⟨quiet_cons rfl, fun _ => quiet_cons rfl⟩
        · exact quiet_cons rfl
      · exact prompt_setTransactionMetadata (quiet_cons rfl)

/-- Every call publishes all outcomes before it goes on. Reference:
`transactions/transactions_service.go:1655 publishEvents`. -/
theorem body_prompt (W : World) (op : Op) : Prompt [] (body W op) := by
  have done : ∀ {α : Type} {p : Svc α} {f : α → Result}, Prompt [] p →
      Prompt [] (do let r ← p; return f r) := fun hp => hp.bind fun _ _ _ hq => hq
  cases op with
  | makeInvoice => exact done (prompt_makeInvoice quiet_nil)
  | makeHoldInvoice => exact done (prompt_makeHoldInvoice quiet_nil)
  | sendPaymentSync => exact done (prompt_sendPaymentSync quiet_nil)
  | sendKeysend => exact prompt_sendKeysend quiet_nil
  | lookupTransaction => exact done (prompt_lookupTransaction quiet_nil)
  | listTransactions => exact done (prompt_listTransactions quiet_nil)
  | settleHoldInvoice => exact done (prompt_settleHoldInvoice quiet_nil)
  | cancelHoldInvoice => exact done (prompt_cancelHoldInvoice quiet_nil)
  | consumeEvent => exact (prompt_consumeEvent quiet_nil).bind fun _ _ _ hq => hq
  | setTransactionMetadata => exact done (prompt_setTransactionMetadata quiet_nil)
  | setTransactionUserLabels => exact done (prompt_setTransactionUserLabels quiet_nil)

end

end AlbyHub
