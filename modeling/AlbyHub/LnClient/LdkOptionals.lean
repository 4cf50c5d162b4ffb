import AlbyHub.LnClient.LdkHandler

/-!
# The optional fields of the LDK events

Only two dereferences of the handler are not behind a test for nil (`noPanic_handleLdkEvent`): the
counterparty of a ready channel, where the first channel that the node lists with the event's id is
inbound and an LSPS2 pubkey is configured, and the reason of a closed channel. So an event survives
the loop, and is acknowledged, exactly where it has what these need (`survives_iff`). A payment
event publishes what the model of the transactions service takes (`publishes_payment`).
-/

namespace AlbyHub.Ldk

open Go Interaction Panicking

/-- What a node may say about its channels and its payments. Reference: none. -/
structure Node where
  channels : List ChannelDetails → Prop
  payment : String → Option PaymentDetails → Prop

/-- What a command may be answered by; only the channels and the payments are the node's choice,
everything else is arbitrary. Reference: none. -/
def Node.may (node : Node) : (c : Cmd) → c.Ans → Prop
  | .listChannels, channels => node.channels channels
  | .payment paymentId, payment => node.payment paymentId payment
  | _, _ => True

/-- The event has what the handler dereferences: a closed channel has a reason, and a ready channel
has a counterparty unless no LSPS2 pubkey is configured or the channel is outbound, or is not
listed. Reference: `lnclient/ldk/ldk.go:1698 handleLdkEvent`, `:2206 getChannelCloseReason`. -/
def Event.Complete (ls : LDKService) (node : Node) : Event → Prop
  | .channelReady channelId _ none => ls.lsps2Pubkey ≠ "" →
    ∀ channels, node.channels channels →
      ∀ channel, channels.find? (·.channelId = channelId) = some channel → channel.isOutbound
  | .channelClosed _ _ reason => reason.isSome
  | _ => True

variable {W : World} {ls : LDKService} {node : Node} {h : List (Call Cmd Cmd.Ans)}

/-- No answers lead the program to a panic. Reference: none. -/
abbrev NoPanic {α : Type} (node : Node) (h : List (Call Cmd Cmd.Ans)) (p : Client α) : Prop :=
  Safe node.may (fun _ _ => True) h p

/-- The conversion of a payment tests every pointer. Reference: `lnclient/ldk/ldk.go:1471
ldkPaymentToTransaction`. -/
theorem convertPayment_eq (payment : PaymentDetails) :
    convertPayment W payment = pure (ldkPaymentToTransaction W payment) := by
  unfold convertPayment ldkPaymentToTransaction
  cases payment.kind with
  | other => simp
  | bolt11 hash preimage bolt11Invoice =>
    cases bolt11Invoice with
    | none => simp
    | some bolt11Invoice =>
      cases hdecode : W.decodepay (toLower W.lowerNonAscii bolt11Invoice) <;>
        cases hsucceeded : payment.succeeded <;> simp [hdecode]
  | bolt11Jit hash preimage skimmed =>
    cases hsucceeded : payment.succeeded <;> cases preimage <;> cases skimmed <;> simp
  | bolt12Offer hash preimage offerId payerNote =>
    cases hash <;> cases payerNote <;> cases hsucceeded : payment.succeeded <;> simp
  | spontaneous hash preimage customTlvs => simp

/-! ## The functions that the handler calls -/

/-- Reference: `lnclient/ldk/ldk.go:1333 GetOnchainBalance`. -/
theorem noPanic_increasePendingBalanceFromClosure (balance : SweepBalance)
    (response : Nat × List PendingBalanceDetails) :
    NoPanic node h (increasePendingBalanceFromClosure balance response) := by
  unfold increasePendingBalanceFromClosure
  simp only [safe_ite, Bool.and_eq_true, Option.isSome_iff_exists]
  refine ⟨?_, fun _ => trivial⟩
  rintro ⟨⟨⟨⟨nodeId, hn⟩, channelId, hc⟩, txId, ht⟩, index, hi⟩
  simp [hn, hc, ht, hi]

/-- Reference: `lnclient/ldk/ldk.go:1352 GetOnchainBalance`. -/
theorem noPanic_pendingSweeps (height : Nat) (response : Nat × List PendingBalanceDetails)
    (sweeps : List PendingSweepBalance) :
    NoPanic node h (pendingSweeps height response sweeps) := by
  induction sweeps generalizing response h with
  | nil => trivial
  | cons sweep rest ih =>
    have hadd : ∀ balance, NoPanic node h (do
        pendingSweeps height (← increasePendingBalanceFromClosure balance response) rest) := by
      intro balance
      rw [NoPanic, safe_bind]
      exact (noPanic_increasePendingBalanceFromClosure balance response).imp
        fun h' response' _ => ih response'
    cases sweep with
    | pendingBroadcast balance => exact hadd balance
    | broadcastAwaitingConfirmation balance => exact hadd balance
    | awaitingThresholdConfirmations balance confirmationHeight =>
      rw [pendingSweeps, NoPanic, safe_ite]
      exact ⟨fun _ => hadd balance, fun _ => ih response⟩

/-- Reference: `lnclient/ldk/ldk.go:1275 GetOnchainBalance`. -/
theorem noPanic_getOnchainBalance : NoPanic node h GetOnchainBalance := by
  unfold GetOnchainBalance
  simp only [safe_bind, safe_issue]
  intro height _ channels _ balances _
  exact (noPanic_pendingSweeps _ _ _).imp fun _ _ _ => trivial

/-- Reference: `lnclient/ldk/ldk.go:1214 UpdateChannel`. -/
theorem noPanic_updateChannel (request : UpdateChannelRequest) :
    NoPanic node h (UpdateChannel request) := by
  unfold UpdateChannel
  simp only [safe_bind, safe_issue]
  intro channels _
  cases channels.find? _ with
  | none => simp
  | some channel =>
    simp only [Option.isNone_some, Bool.false_eq_true, if_false, deref_some, pure_bind]
    exact fun _ _ => trivial

/-- Reference: `lnclient/ldk/ldk.go:1927 backupChannels`. -/
theorem noPanic_channelBackups (peers : List PeerDetails) (channels : List ChannelDetails) :
    NoPanic node h (channelBackups peers channels) := by
  induction channels generalizing h with
  | nil => trivial
  | cons channel rest ih =>
    rw [channelBackups]
    simp only [derefOr_eq, pure_bind]
    cases peers.reverse.find? _ with
    | none => simpa using ih
    | some peer =>
      simp only [Option.isNone_some, Bool.false_eq_true, if_false, deref_some, pure_bind, safe_bind]
      exact ih.imp fun _ _ _ => trivial

/-- Reference: `lnclient/ldk/ldk.go:1923 backupChannels`. -/
theorem noPanic_backupChannels : NoPanic node h backupChannels := by
  unfold backupChannels
  simp only [safe_bind, safe_issue]
  intro channels _ peers _
  refine (noPanic_channelBackups peers channels).imp fun h' backups _ => ?_
  intro monitors _
  cases monitors with
  | error e => trivial
  | ok monitors =>
    simp only [safe_bind, safe_issue]
    exact fun _ _ _ _ _ _ => trivial

/-! ## The branches of the handler -/

/-- Reference: `lnclient/ldk/ldk.go:1698 handleLdkEvent`. -/
theorem noPanic_isJitChannel (channel : ChannelDetails) (counterpartyNodeId : Option String) :
    NoPanic node h (isJitChannel ls channel counterpartyNodeId) ↔
      (counterpartyNodeId = none → ls.lsps2Pubkey ≠ "" → channel.isOutbound = true) := by
  unfold isJitChannel
  cases counterpartyNodeId with
  | none => cases channel.isOutbound <;> simp
  | some nodeId => simp

/-- Reference: `lnclient/ldk/ldk.go:1700 handleLdkEvent`. -/
theorem noPanic_isTrustedPeer (counterpartyNodeId : Option String) (isJit : Bool) :
    NoPanic node h (isTrustedPeer counterpartyNodeId isJit) := by
  cases counterpartyNodeId with
  | none => trivial
  | some nodeId => simp [isTrustedPeer]

/-- Reference: `lnclient/ldk/ldk.go:1694 handleLdkEvent`. -/
theorem noPanic_setUpChannel (channel : ChannelDetails) (userChannelId : String)
    (counterpartyNodeId : Option String) :
    NoPanic node h (setUpChannel ls channel userChannelId counterpartyNodeId) ↔
      (counterpartyNodeId = none → ls.lsps2Pubkey ≠ "" → channel.isOutbound = true) := by
  have hjit : NoPanic node h (isJitChannel ls channel counterpartyNodeId) ↔ _ :=
    noPanic_isJitChannel channel counterpartyNodeId
  rw [← hjit]
  unfold setUpChannel
  rw [NoPanic, safe_bind]
  refine ⟨fun hp => hp.mono fun _ _ _ _ => trivial, fun hp => hp.imp fun h₁ isJit _ => ?_⟩
  simp only [safe_bind]
  refine (noPanic_isTrustedPeer counterpartyNodeId isJit).imp fun h₂ isTrusted _ => ?_
  intro _ _
  refine noPanic_backupChannels.imp fun h₃ _ _ => ?_
  cases counterpartyNodeId with
  | none => trivial
  | some nodeId =>
    simp only [Option.isNone_some, Bool.false_eq_true, if_false, deref_some, pure_bind, safe_bind]
    exact (noPanic_updateChannel _).imp fun _ _ _ => trivial

/-- Reference: `lnclient/ldk/ldk.go:1684 handleLdkEvent`. -/
theorem noPanic_handleChannelReady (channelId userChannelId : String)
    (counterpartyNodeId : Option String) :
    NoPanic node h (handleChannelReady ls channelId userChannelId counterpartyNodeId) ↔
      (Event.channelReady channelId userChannelId counterpartyNodeId).Complete ls node := by
  unfold handleChannelReady
  rw [NoPanic, safe_bind, safe_issue]
  constructor
  · intro hp
    cases counterpartyNodeId with
    | some nodeId => trivial
    | none =>
      intro hls channels hc channel hfind
      have hready := hp channels hc
      simp only [hfind] at hready
      exact (noPanic_setUpChannel channel userChannelId none).1 hready rfl hls
  · intro hp channels hc
    split
    · trivial
    · next channel hfind =>
      refine (noPanic_setUpChannel channel userChannelId counterpartyNodeId).2 fun hnone hls => ?_
      subst hnone
      exact hp hls channels hc channel hfind

/-- Reference: `lnclient/ldk/ldk.go:1745 handleLdkEvent`. -/
theorem noPanic_handleChannelClosed (channelId : String) (counterpartyNodeId : Option String)
    (reason : Option ClosureReason) :
    NoPanic node h (handleChannelClosed channelId counterpartyNodeId reason) ↔
      (Event.channelClosed channelId counterpartyNodeId reason).Complete ls node := by
  unfold handleChannelClosed
  rw [NoPanic, safe_bind]
  cases reason with
  | none => exact iff_of_false (fun hp => hp () trivial) (by simp [Event.Complete])
  | some reason =>
    have hreason : ∃ text, getChannelCloseReason (some reason) = pure text := by
      cases reason <;> exact ⟨_, rfl⟩
    obtain ⟨text, hreason⟩ := hreason
    refine iff_of_true (fun _ _ => ?_) rfl
    show Safe node.may _ _ (getChannelCloseReason (some reason) >>= _)
    rw [hreason, pure_bind, safe_bind]
    refine noPanic_getOnchainBalance.imp fun h' balance _ => ?_
    cases balance <;> cases counterpartyNodeId <;> exact fun _ _ => trivial

/-- Reference: `lnclient/ldk/ldk.go:1804 handleLdkEvent`. -/
theorem noPanic_handlePayment (paymentId : Option String) (event : LnTransaction → NodeEvent) :
    NoPanic node h (handlePayment W paymentId event) := by
  cases paymentId with
  | none => trivial
  | some paymentId =>
    unfold handlePayment
    simp only [Option.isNone_some, Bool.false_eq_true, if_false, deref_some, pure_bind]
    rw [NoPanic, safe_bind, safe_issue]
    intro payment _
    cases payment with
    | none => trivial
    | some payment =>
      simp only [Option.isNone_some, Bool.false_eq_true, if_false, deref_some, pure_bind,
        convertPayment_eq]
      cases ldkPaymentToTransaction W payment with
      | error e => trivial
      | ok transaction => exact fun _ _ => trivial

/-- The handler does not panic exactly where the event has what it dereferences. Reference:
`lnclient/ldk/ldk.go:1678 handleLdkEvent`. -/
theorem noPanic_handleLdkEvent (event : Event) :
    NoPanic node h (handleLdkEvent W ls event) ↔ event.Complete ls node := by
  cases event with
  | channelReady channelId userChannelId counterpartyNodeId =>
    exact noPanic_handleChannelReady channelId userChannelId counterpartyNodeId
  | channelClosed channelId counterpartyNodeId reason =>
    exact noPanic_handleChannelClosed channelId counterpartyNodeId reason
  | paymentReceived paymentId => exact iff_of_true (noPanic_handlePayment _ _) trivial
  | paymentSuccessful paymentId _ _ => exact iff_of_true (noPanic_handlePayment _ _) trivial
  | paymentFailed paymentId _ reason => exact iff_of_true (noPanic_handlePayment _ _) trivial
  | paymentForwarded earned forwarded =>
    refine iff_of_true ?_ trivial
    cases earned with
    | none => trivial
    | some earned =>
      cases forwarded with
      | none => trivial
      | some forwarded => exact fun _ _ => trivial
  | paymentClaimable paymentId claimDeadline =>
    refine iff_of_true ?_ trivial
    cases claimDeadline with
    | none => trivial
    | some claimDeadline => exact noPanic_handlePayment (some paymentId) _
  | other => exact iff_of_true trivial trivial

/-! ## The loop -/

/-- The loop called `EventHandled`. Reference: `lnclient/ldk/ldk.go:356`. -/
def Acknowledged (h : List (Call Cmd Cmd.Ans)) : Prop := ∃ r, ⟨.eventHandled, r⟩ ∈ h

/-- The context had ended. Reference: `lnclient/ldk/ldk.go:345`, `:353`. -/
def Stopped (h : List (Call Cmd Cmd.Ans)) : Prop := ⟨.ctxErr, true⟩ ∈ h ∨ ⟨.deliver, false⟩ ∈ h

/-- The event does not panic and is acknowledged, unless the hub is stopped. Reference:
`lnclient/ldk/ldk.go:339`. -/
def Survives (W : World) (ls : LDKService) (node : Node) (event : Event) : Prop :=
  Safe node.may (fun h _ => Acknowledged h ∨ Stopped h) [] (onEvent W ls event)

/-- An event survives the loop exactly where it has what the handler dereferences. Reference:
`lnclient/ldk/ldk.go:339`. -/
theorem survives_iff (W : World) (ls : LDKService) (node : Node) (event : Event) :
    Survives W ls node event ↔ event.Complete ls node := by
  unfold Survives onEvent
  rw [safe_bind, safe_issue]
  constructor
  · intro hp
    have hrun := hp false trivial
    rw [if_neg Bool.false_ne_true, safe_bind] at hrun
    exact noPanic_handleLdkEvent event |>.1 (hrun.mono fun _ _ _ _ => trivial)
  · intro hc stopped _
    cases stopped with
    | true => exact .inr (.inl (.head _))
    | false =>
      rw [if_neg Bool.false_ne_true, safe_bind]
      refine ((noPanic_handleLdkEvent event).2 hc).imp fun h' _ _ => ?_
      rw [safe_bind, safe_issue]
      intro delivered _
      cases delivered with
      | true => exact fun r _ => .inl ⟨r, .head _⟩
      | false => exact .inr (.inr (.head _))

/-- A node with one channel, which the peer `"lsp"` opened, and without payments. Reference:
none. -/
def demoLspNode : Node where
  channels channels := channels =
    [{ channelId := "c", userChannelId := "u", counterpartyNodeId := "lsp",
       channelValueSats := 100000, isOutbound := false, isAnnounced := false,
       config := ⟨0, 0, .fixedLimit 5000000⟩ }]
  payment _ payment := payment = none

/-- With this peer configured, the hub does not survive that the channel is ready, where the event
has no counterparty; nor that a channel is closed, where the event has no reason. Reference:
`lnclient/ldk/ldk.go:1698 handleLdkEvent`, `:2209 getChannelCloseReason`. -/
theorem missing_fields_not_survived :
    ¬Survives demo ⟨"lsp"⟩ demoLspNode (.channelReady "c" "u" none) ∧
      ¬Survives demo ⟨"lsp"⟩ demoLspNode (.channelClosed "c" (some "lsp") none) := by
  constructor
  · intro hp
    exact hp false trivial _ rfl
  · intro hp
    exact hp false trivial () trivial

/-! ## What is published about payments -/

/-- The event as the transactions service's model has it. Reference: `lnclient/ldk/ldk.go:1678
handleLdkEvent`. -/
def Event.toLdkEvent : Event → LdkEvent
  | .paymentReceived paymentId => .paymentReceived paymentId
  | .paymentSuccessful paymentId _ _ => .paymentSuccessful paymentId
  | .paymentFailed paymentId _ reason => .paymentFailed paymentId (getPaymentFailReason reason)
  | .paymentClaimable paymentId claimDeadline => .paymentClaimable paymentId claimDeadline
  | _ => .other

/-- The payments that were published, latest first. Reference: none. -/
def publishedPayments (h : List (Call Cmd Cmd.Ans)) : List NodeEvent :=
  h.filterMap fun call =>
    match call.cmd with
    | .publish (.payment event) => some event
    | _ => none

/-- Reference: `lnclient/ldk/ldk.go:1804 handleLdkEvent`. -/
theorem publishes_handlePayment {payments : String → Option PaymentDetails}
    (hnode : ∀ paymentId payment, node.payment paymentId payment → payment = payments paymentId)
    (paymentId : Option String) (event : LnTransaction → NodeEvent) :
    Safe node.may (fun h' _ => publishedPayments h' =
        ((eventTransaction W payments paymentId).map event).toList ++ publishedPayments h) h
      (handlePayment W paymentId event) := by
  cases paymentId with
  | none => rfl
  | some paymentId =>
    unfold handlePayment
    simp only [Option.isNone_some, Bool.false_eq_true, if_false, deref_some, pure_bind]
    rw [safe_bind, safe_issue]
    intro payment hp
    have heq : payment = payments paymentId := hnode paymentId payment hp
    cases payment with
    | none => simp [eventTransaction, ← heq, publishedPayments]
    | some payment =>
      simp only [Option.isNone_some, Bool.false_eq_true, if_false, deref_some, pure_bind,
        convertPayment_eq]
      cases hconvert : ldkPaymentToTransaction W payment with
      | error e => simp [eventTransaction, ← heq, hconvert, publishedPayments]
      | ok transaction =>
        intro r _
        show publishedPayments (⟨.publish (.payment (event transaction)), r⟩ :: _ :: h) = _
        simp [eventTransaction, ← heq, hconvert, publishedPayments]

/-- Where the node's payments are those of `payments`, an event about a payment publishes what the
model of the transactions service takes. Reference: `lnclient/ldk/ldk.go:1678 handleLdkEvent`. -/
theorem publishes_payment {payments : String → Option PaymentDetails}
    (hnode : ∀ paymentId payment, node.payment paymentId payment → payment = payments paymentId)
    {event : Event} (hpayment : event.toLdkEvent.IsPayment) :
    Safe node.may (fun h' _ => publishedPayments h' =
        (AlbyHub.handleLdkEvent W payments event.toLdkEvent).toList ++ publishedPayments h) h
      (handleLdkEvent W ls event) := by
  cases event with
  | paymentReceived paymentId => exact publishes_handlePayment hnode paymentId _
  | paymentSuccessful paymentId _ _ => exact publishes_handlePayment hnode paymentId _
  | paymentFailed paymentId _ reason => exact publishes_handlePayment hnode paymentId _
  | paymentClaimable paymentId claimDeadline =>
    cases claimDeadline with
    | none => rfl
    | some claimDeadline => exact publishes_handlePayment hnode (some paymentId) _
  | channelReady | channelClosed | paymentForwarded | other => exact absurd rfl hpayment

end AlbyHub.Ldk
