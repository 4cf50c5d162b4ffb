import AlbyHub.Interaction.Panics
import AlbyHub.LnClient.Failures

/-!
# The LDK event handler with its pointers

The events of the node, its payments, its balances and its channels have optional fields, which are
pointers to the hub. Here the handler of the loop is written with every one of its dereferences, as
a program that asks the node and publishes events and that may panic. What it publishes about
payments is what `handleLdkEvent` says.
-/

namespace AlbyHub.Ldk

open Go Interaction Panicking

/-! ## What the node says -/

/-- Reference: ldk-node `OutPoint`. -/
structure OutPoint where
  txid : String
  vout : Nat

/-- Reference: ldk-node `MaxDustHtlcExposure`. -/
inductive MaxDustHtlcExposure where
  | fixedLimit (limitMsat : Nat)
  | feeRateMultiplier (multiplier : Nat)
  deriving DecidableEq, Repr

/-- Reference: ldk-node `ChannelConfig`, the fields that the hub sets. -/
structure ChannelConfig where
  forwardingFeeBaseMsat : Nat
  forwardingFeeProportionalMillionths : Nat
  maxDustHtlcExposure : MaxDustHtlcExposure

/-- Reference: ldk-node `ChannelDetails`. -/
structure ChannelDetails where
  channelId : String
  userChannelId : String
  counterpartyNodeId : String
  fundingTxo : Option OutPoint := none
  channelValueSats : Nat
  isOutbound : Bool
  isAnnounced : Bool
  config : ChannelConfig

/-- Reference: ldk-node `PeerDetails`. -/
structure PeerDetails where
  nodeId : String
  address : String

/-- A balance of a channel; its six kinds are counted alike. Reference: ldk-node `LightningBalance`.
-/
structure LightningBalance where
  counterpartyNodeId : String
  channelId : String
  amountSatoshis : Nat
  fundingTxId : String
  fundingTxIndex : Nat

/-- Reference: the fields that the three kinds of ldk-node `PendingSweepBalance` have in common. -/
structure SweepBalance where
  counterpartyNodeId : Option String
  channelId : Option String
  amountSatoshis : Nat
  fundingTxId : Option String
  fundingTxIndex : Option Nat

/-- Reference: ldk-node `PendingSweepBalance`. -/
inductive PendingSweepBalance where
  | pendingBroadcast (balance : SweepBalance)
  | broadcastAwaitingConfirmation (balance : SweepBalance)
  | awaitingThresholdConfirmations (balance : SweepBalance) (confirmationHeight : Nat)

/-- Reference: ldk-node `BalanceDetails`. -/
structure BalanceDetails where
  totalOnchainBalanceSats : Nat
  spendableOnchainBalanceSats : Nat
  totalAnchorChannelsReserveSats : Nat
  lightningBalances : List LightningBalance
  pendingBalancesFromChannelClosures : List PendingSweepBalance

/-- Reference: ldk-node `ClosureReason`; `other` are the kinds that the hub does not know. -/
inductive ClosureReason where
  | counterpartyForceClosed (peerMsg : String)
  | holderForceClosed
  | legacyCooperativeClosure
  | counterpartyInitiatedCooperativeClosure
  | locallyInitiatedCooperativeClosure
  | commitmentTxConfirmed
  | fundingTimedOut
  | processingError (err : String)
  | disconnectedPeer
  | outdatedChannelManager
  | counterpartyCoopClosedUnfundedChannel
  | fundingBatchClosure
  | htlCsTimedOut
  | other (text : String)

/-- The events with the fields that the handler reads, and the optional ones that it does not; a
pointer is an option. Reference: ldk-node `Event`; `other` are the kinds without a case in the
handler. -/
inductive Event where
  | channelReady (channelId userChannelId : String) (counterpartyNodeId : Option String)
  | channelClosed (channelId : String) (counterpartyNodeId : Option String)
      (reason : Option ClosureReason)
  | paymentReceived (paymentId : Option String)
  | paymentSuccessful (paymentId paymentPreimage : Option String) (feePaidMsat : Option Nat)
  | paymentFailed (paymentId paymentHash : Option String) (reason : Option PaymentFailureReason)
  | paymentForwarded (totalFeeEarnedMsat outboundAmountForwardedMsat : Option Nat)
  | paymentClaimable (paymentId : String) (claimDeadline : Option Nat)
  | other

/-! ## What the hub does -/

/-- Reference: `lnclient/models.go PendingBalanceDetails`. -/
structure PendingBalanceDetails where
  nodeId : String
  channelId : String
  amountSat : Nat
  fundingTxId : String
  fundingTxVout : Nat

/-- The balances for internal use are left out. Reference: `lnclient/models.go
OnchainBalanceResponse`. -/
structure OnchainBalanceResponse where
  spendableSat : Int
  totalSat : Int
  reservedSat : Int
  pendingBalancesFromChannelClosuresSat : Nat
  pendingBalancesDetails : List PendingBalanceDetails
  pendingSweepBalancesDetails : List PendingBalanceDetails

/-- Reference: `lnclient/models.go UpdateChannelRequest`. -/
structure UpdateChannelRequest where
  channelId : String
  nodeId : String
  forwardingFeeBaseMsat : Nat := 0
  forwardingFeeProportionalMillionths : Nat := 0
  maxDustHtlcExposureFromFeeRateMultiplier : Nat := 0

/-- Reference: `events/models.go ChannelBackup`. -/
structure ChannelBackup where
  channelID : String
  peerID : String
  peerSocketAddress : String
  channelSize : Nat
  fundingTxID : String
  fundingTxVout : Nat

/-- Reference: `events/models.go StaticChannelsBackupEvent`; a monitor is its key with its value in
hexadecimal. -/
structure StaticChannelsBackupEvent where
  channels : List ChannelBackup
  monitors : List (String × String)
  nodeID : String

/-- What the handler publishes. Reference: `lnclient/ldk/ldk.go:1678 handleLdkEvent`, the calls of
`Publish`. -/
inductive Published where
  | channelReady (counterpartyNodeId : Option String) (isPublic jit : Bool) (capacity : Nat)
      (isOutbound trusted : Bool)
  | backupChannels (event : StaticChannelsBackupEvent)
  | channelClosed (counterpartyNodeId counterpartyNodeUrl reason : String) (pendingBalance : Nat)
      (fundingTxId : String) (fundingTxVout : Nat) (fundingTxUrl : String)
  | payment (event : NodeEvent)
  | paymentForwarded (totalFeeEarnedMsat outboundAmountForwardedMsat : Nat)

/-- The commands of the loop: the calls of the node, the bus, the disk and the tests of the context;
`deliver` hands the event to the consumers unless the context ends. Reference:
`lnclient/ldk/ldk.go:320`. -/
inductive Cmd where
  | ctxErr
  | listChannels
  | listPeers
  | trustedPeersNoReserve
  | updateChannelConfig (userChannelId nodeId : String) (config : ChannelConfig)
  | getEncodedChannelMonitors
  | nodeId
  | saveStaticChannelBackupToDisk (event : StaticChannelsBackupEvent)
  | requestWalletSync
  | currentBestBlockHeight
  | listBalances
  | payment (paymentId : String)
  | publish (event : Published)
  | deliver
  | eventHandled

/-- What a command is answered by. Reference: `lnclient/ldk/ldk.go:320`. -/
abbrev Cmd.Ans : Cmd → Type
  | .ctxErr | .deliver => Bool
  | .listChannels => List ChannelDetails
  | .listPeers => List PeerDetails
  | .trustedPeersNoReserve => List String
  | .updateChannelConfig _ _ _ | .eventHandled => Except String Unit
  | .getEncodedChannelMonitors => Except String (List (String × List UInt8))
  | .nodeId => String
  | .currentBestBlockHeight => Nat
  | .listBalances => BalanceDetails
  | .payment _ => Option PaymentDetails
  | .saveStaticChannelBackupToDisk _ | .requestWalletSync | .publish _ => Unit

/-- Reference: `lnclient/ldk/ldk.go:43 LDKService`. -/
structure LDKService where
  lsps2Pubkey : String

/-- A computation of the client. Reference: none. -/
abbrev Client := Panicking Cmd Cmd.Ans

/-- Reference: none. -/
abbrev ask (c : Cmd) : Client c.Ans := issue c

/-- The conversion of `ldkPaymentToTransaction` with its dereferences. Reference:
`lnclient/ldk/ldk.go:1471 ldkPaymentToTransaction`. -/
def convertPayment (W : World) (payment : PaymentDetails) : Client (Except String LnTransaction) :=
  do
  let amount ← derefOr payment.amountMsat 0
  let fee ← derefOr payment.feePaidMsat 0
  let amountMsat := int64 amount
  let lastUpdate := int64 payment.latestUpdateTimestamp
  match payment.kind with
  | .bolt11 hash preimage bolt11Invoice =>
    if bolt11Invoice.isSome then do
      let bolt11Invoice ← deref bolt11Invoice
      match W.decodepay (toLower W.lowerNonAscii bolt11Invoice) with
      | .error e => return .error e
      | .ok paymentRequest =>
        let preimage ← if payment.succeeded then derefOr preimage "" else pure ""
        return .ok {
          invoice := bolt11Invoice
          description := paymentRequest.description
          descriptionHash := paymentRequest.descriptionHash
          preimage
          paymentHash := hash
          amountMsat
          feesPaidMsat := int64 fee
          expiresAt := some (expiresAtUnix paymentRequest)
          settledAt := if payment.succeeded then
              some (if 0 < payment.latestUpdateTimestamp then
                lastUpdate else paymentRequest.createdAt)
            else none
          metadata := some [] }
    else
      return .ok { paymentHash := "", amountMsat, feesPaidMsat := int64 fee, metadata := some [] }
  | .other =>
    return .ok { paymentHash := "", amountMsat, feesPaidMsat := int64 fee, metadata := some [] }
  | .bolt11Jit hash preimage counterpartySkimmedFeeMsat =>
    let (preimage, settledAt) ← if payment.succeeded && preimage.isSome then do
        pure (← deref preimage, some lastUpdate)
      else pure ("", none)
    let fee ← derefOr counterpartySkimmedFeeMsat fee
    return .ok {
      preimage
      paymentHash := hash
      amountMsat
      feesPaidMsat := int64 fee
      settledAt
      metadata := some [] }
  | .bolt12Offer hash preimage offerId payerNote =>
    if hash.isNone then return .error "BOLT-12 payment has no payment hash" else do
      let hash ← deref hash
      let note ← if payerNote.isSome then do
          pure [("payer_note", Json.string (← deref payerNote))]
        else pure []
      let preimage ← if payment.succeeded then derefOr preimage "" else pure ""
      return .ok {
        preimage
        paymentHash := hash
        amountMsat
        feesPaidMsat := int64 fee
        settledAt := if payment.succeeded then some lastUpdate else none
        metadata := some [("offer", .object (("id", .string offerId) :: note))] }
  | .spontaneous hash preimage customTlvs =>
    let preimage ← derefOr preimage ""
    let tlvRecords := customTlvs.map fun (type, value) => ⟨type, hexEncodeToString value⟩
    return .ok {
      preimage
      paymentHash := hash
      amountMsat
      feesPaidMsat := int64 fee
      settledAt := if payment.succeeded then some lastUpdate else none
      metadata := some [("tlv_records", tlvRecordsJson tlvRecords)]
      tlvRecords }

/-- Reference: `lnclient/ldk/ldk.go:1333 GetOnchainBalance`, `increasePendingBalanceFromClosure`.
-/
def increasePendingBalanceFromClosure (balance : SweepBalance)
    (response : Nat × List PendingBalanceDetails) : Client (Nat × List PendingBalanceDetails) := do
  let sat := uint64 (response.1 + balance.amountSatoshis)
  if balance.counterpartyNodeId.isSome && balance.channelId.isSome &&
      balance.fundingTxId.isSome && balance.fundingTxIndex.isSome then do
    let details : PendingBalanceDetails := {
      nodeId := ← deref balance.counterpartyNodeId
      channelId := ← deref balance.channelId
      amountSat := balance.amountSatoshis
      fundingTxId := ← deref balance.fundingTxId
      fundingTxVout := ← deref balance.fundingTxIndex }
    return (sat, response.2 ++ [details])
  else
    return (sat, response.2)

/-- The balances of channels that were closed, added to those that are closing. Reference:
`lnclient/ldk/ldk.go:1275 GetOnchainBalance`. -/
def pendingSweeps (currentHeight : Nat) (response : Nat × List PendingBalanceDetails) :
    List PendingSweepBalance → Client (Nat × List PendingBalanceDetails)
  | [] => return response
  | .pendingBroadcast balance :: rest | .broadcastAwaitingConfirmation balance :: rest => do
    pendingSweeps currentHeight (← increasePendingBalanceFromClosure balance response) rest
  | .awaitingThresholdConfirmations balance confirmationHeight :: rest => do
    if currentHeight < (confirmationHeight + 6) % 2 ^ 32 then
      pendingSweeps currentHeight (← increasePendingBalanceFromClosure balance response) rest
    else
      pendingSweeps currentHeight response rest

/-- The response is a pointer; the error is always nil. Reference: `lnclient/ldk/ldk.go:1275
GetOnchainBalance`. -/
def GetOnchainBalance : Client (Option OnchainBalanceResponse) := do
  let height ← ask .currentBestBlockHeight
  let channels ← ask .listChannels
  let balances ← ask .listBalances
  let closing := balances.lightningBalances.filter fun balance =>
    !channels.any (·.channelId = balance.channelId)
  let closingSat := closing.foldl (fun sat balance => uint64 (sat + balance.amountSatoshis)) 0
  let (sat, sweeps) ← pendingSweeps height (closingSat, [])
    balances.pendingBalancesFromChannelClosures
  let reserve : Nat := balances.totalAnchorChannelsReserveSats
  return some {
    spendableSat := int64 balances.spendableOnchainBalanceSats
    totalSat := int64 (uint64OfInt ((balances.totalOnchainBalanceSats : Int) - reserve))
    reservedSat := int64 reserve
    pendingBalancesFromChannelClosuresSat := sat
    pendingBalancesDetails := closing.map fun balance => {
      nodeId := balance.counterpartyNodeId
      channelId := balance.channelId
      amountSat := balance.amountSatoshis
      fundingTxId := balance.fundingTxId
      fundingTxVout := balance.fundingTxIndex }
    pendingSweepBalancesDetails := sweeps }

/-- Reference: `lnclient/ldk/ldk.go:1214 UpdateChannel`. -/
def UpdateChannel (request : UpdateChannelRequest) : Client (Except String Unit) := do
  let channels ← ask .listChannels
  let foundChannel := channels.find? fun channel =>
    channel.userChannelId = request.channelId && channel.counterpartyNodeId = request.nodeId
  if foundChannel.isNone then return .error "channel not found" else do
    let existingConfig := (← deref foundChannel).config
    let config : ChannelConfig := {
      forwardingFeeBaseMsat := request.forwardingFeeBaseMsat
      forwardingFeeProportionalMillionths := request.forwardingFeeProportionalMillionths
      maxDustHtlcExposure :=
        if 0 < request.maxDustHtlcExposureFromFeeRateMultiplier then
          .feeRateMultiplier request.maxDustHtlcExposureFromFeeRateMultiplier
        else existingConfig.maxDustHtlcExposure }
    ask (.updateChannelConfig request.channelId request.nodeId config)

/-- The channels of a backup; the last peer with the channel's node id is taken, and a channel
without one is skipped. Reference: `lnclient/ldk/ldk.go:1923 backupChannels`. -/
def channelBackups (peers : List PeerDetails) :
    List ChannelDetails → Client (List ChannelBackup)
  | [] => return []
  | channel :: rest => do
    let fundingTxo ← derefOr channel.fundingTxo ⟨"", 0⟩
    let peer := peers.reverse.find? (·.nodeId = channel.counterpartyNodeId)
    if peer.isNone then channelBackups peers rest else do
      let backup : ChannelBackup := {
        channelID := channel.channelId
        peerID := channel.counterpartyNodeId
        peerSocketAddress := (← deref peer).address
        channelSize := channel.channelValueSats
        fundingTxID := fundingTxo.txid
        fundingTxVout := fundingTxo.vout }
      return backup :: (← channelBackups peers rest)

/-- Reference: `lnclient/ldk/ldk.go:1923 backupChannels`. -/
def backupChannels : Client Unit := do
  let ldkChannels ← ask .listChannels
  let ldkPeers ← ask .listPeers
  let channels ← channelBackups ldkPeers ldkChannels
  match ← ask .getEncodedChannelMonitors with
  | .error _ => return ()
  | .ok monitors => do
    let event : StaticChannelsBackupEvent := {
      channels
      monitors := monitors.map fun (key, value) => (key, hexEncodeToString value)
      nodeID := ← ask .nodeId }
    ask (.saveStaticChannelBackupToDisk event)
    ask (.publish (.backupChannels event))

/-- Reference: `lnclient/ldk/ldk.go:2206 getChannelCloseReason`. -/
def getChannelCloseReason (reason : Option ClosureReason) : Client String := do
  match ← deref reason with
  | .counterpartyForceClosed peerMsg =>
    return "CounterpartyForceClosed (Peer message: " ++ peerMsg ++ ")"
  | .holderForceClosed => return "HolderForceClosed"
  | .legacyCooperativeClosure => return "LegacyCooperativeClosure"
  | .counterpartyInitiatedCooperativeClosure => return "CounterpartyInitiatedCooperativeClosure"
  | .locallyInitiatedCooperativeClosure => return "LocallyInitiatedCooperativeClosure"
  | .commitmentTxConfirmed => return "CommitmentTxConfirmed"
  | .fundingTimedOut => return "FundingTimedOut"
  | .processingError err => return "ProcessingError: " ++ err
  | .disconnectedPeer => return "DisconnectedPeer"
  | .outdatedChannelManager => return "OutdatedChannelManager"
  | .counterpartyCoopClosedUnfundedChannel => return "CounterpartyCoopClosedUnfundedChannel"
  | .fundingBatchClosure => return "FundingBatchClosure"
  | .htlCsTimedOut => return "HTLCsTimedOut"
  | .other text => return "Unknown: " ++ text

/-- Whether the channel was opened for an invoice; the conjunction stops at the first part that is
false. Reference: `lnclient/ldk/ldk.go:1698 handleLdkEvent`, `isJit`. -/
def isJitChannel (ls : LDKService) (channel : ChannelDetails) (counterpartyNodeId : Option String) :
    Client Bool :=
  if channel.isOutbound || ls.lsps2Pubkey == "" then return false
  else return (← deref counterpartyNodeId) == ls.lsps2Pubkey

/-- Reference: `lnclient/ldk/ldk.go:1700 handleLdkEvent`, `isTrusted`. -/
def isTrustedPeer (counterpartyNodeId : Option String) (isJit : Bool) : Client Bool :=
  if counterpartyNodeId.isNone then return false
  else do
    let trustedPeersNoReserve ← ask .trustedPeersNoReserve
    return trustedPeersNoReserve.contains (← deref counterpartyNodeId) || isJit

/-- A ready channel that the node lists is published, backed up and configured. Reference:
`lnclient/ldk/ldk.go:1694 handleLdkEvent`. -/
def setUpChannel (ls : LDKService) (channel : ChannelDetails) (userChannelId : String)
    (counterpartyNodeId : Option String) : Client Unit := do
  let isJit ← isJitChannel ls channel counterpartyNodeId
  let isTrusted ← isTrustedPeer counterpartyNodeId isJit
  ask (.publish (.channelReady counterpartyNodeId channel.isAnnounced isJit
    channel.channelValueSats channel.isOutbound isTrusted))
  backupChannels
  if counterpartyNodeId.isNone then return () else do
    let _ ← UpdateChannel {
      channelId := userChannelId
      nodeId := ← deref counterpartyNodeId
      maxDustHtlcExposureFromFeeRateMultiplier := if isTrusted then 100000 else 0
      forwardingFeeBaseMsat := 100000000 }

/-- Reference: `lnclient/ldk/ldk.go:1684 handleLdkEvent`. -/
def handleChannelReady (ls : LDKService) (channelId userChannelId : String)
    (counterpartyNodeId : Option String) : Client Unit := do
  let channels ← ask .listChannels
  match channels.find? (·.channelId = channelId) with
  | none => return ()
  | some channel => setUpChannel ls channel userChannelId counterpartyNodeId

/-- The funding output that the last of the details names, with their sum. Reference:
`lnclient/ldk/ldk.go:1766 handleLdkEvent`. -/
def closedBalance (channelId : String) (details : List PendingBalanceDetails) :
    Nat × String × Nat :=
  (details.filter (·.channelId = channelId)).foldl
    (fun (sat, _, _) details =>
      (uint64 (sat + details.amountSat), details.fundingTxId, details.fundingTxVout))
    (0, "", 0)

/-- Reference: `lnclient/ldk/ldk.go:1745 handleLdkEvent`. -/
def handleChannelClosed (channelId : String) (counterpartyNodeId : Option String)
    (reason : Option ClosureReason) : Client Unit := do
  ask .requestWalletSync
  let closureReason ← getChannelCloseReason reason
  let onchainBalance ← GetOnchainBalance
  let details ← if onchainBalance.isSome then do
      let balance ← deref onchainBalance
      pure (balance.pendingBalancesDetails ++ balance.pendingSweepBalancesDetails)
    else pure []
  let (pendingBalance, fundingTxId, fundingTxVout) := closedBalance channelId details
  let found := details.any (·.channelId = channelId)
  let (nodeId, nodeUrl) ← if counterpartyNodeId.isSome then do
      let nodeId ← deref counterpartyNodeId
      pure (nodeId, "https://amboss.space/node/" ++ nodeId)
    else pure ("", "")
  ask (.publish (.channelClosed nodeId nodeUrl closureReason pendingBalance fundingTxId
    fundingTxVout
    (if found then
      "https://mempool.space/tx/" ++ fundingTxId ++ "#flow=&vout=" ++ toString fundingTxVout
      else "")))

/-- The payment of an event is looked up, converted and published. Reference:
`lnclient/ldk/ldk.go:1804`, `:1825`, `:1846 handleLdkEvent`. -/
def handlePayment (W : World) (paymentId : Option String) (event : LnTransaction → NodeEvent) :
    Client Unit := do
  if paymentId.isNone then return () else do
    let payment ← ask (.payment (← deref paymentId))
    if payment.isNone then return () else do
      match ← convertPayment W (← deref payment) with
      | .error _ => return ()
      | .ok transaction => ask (.publish (.payment (event transaction)))

/-- Reference: `lnclient/ldk/ldk.go:1678 handleLdkEvent`. -/
def handleLdkEvent (W : World) (ls : LDKService) : Event → Client Unit
  | .channelReady channelId userChannelId counterpartyNodeId =>
    handleChannelReady ls channelId userChannelId counterpartyNodeId
  | .channelClosed channelId counterpartyNodeId reason =>
    handleChannelClosed channelId counterpartyNodeId reason
  | .paymentReceived paymentId => handlePayment W paymentId .paymentReceived
  | .paymentSuccessful paymentId _ _ => handlePayment W paymentId .paymentSent
  | .paymentFailed paymentId _ reason =>
    handlePayment W paymentId (.paymentFailed · (getPaymentFailReason reason))
  | .paymentForwarded totalFeeEarnedMsat outboundAmountForwardedMsat => do
    if totalFeeEarnedMsat.isNone || outboundAmountForwardedMsat.isNone then return () else do
      ask (.publish (.paymentForwarded (← deref totalFeeEarnedMsat)
        (← deref outboundAmountForwardedMsat)))
  | .paymentClaimable paymentId claimDeadline => do
    if claimDeadline.isNone then return () else do
      -- the deadline is logged
      let _ ← deref claimDeadline
      handlePayment W (some paymentId) fun transaction =>
        .holdInvoiceAccepted { transaction with settleDeadline := claimDeadline }
  | .other => return ()

/-- An event of the loop: it is handled, handed to the consumers and acknowledged, unless the
context ends; the result says whether the loop goes on. Reference: `lnclient/ldk/ldk.go:339`. -/
def onEvent (W : World) (ls : LDKService) (event : Event) : Client Bool := do
  if ← ask .ctxErr then return false else do
    handleLdkEvent W ls event
    if ← ask .deliver then do
      -- an error is logged
      let _ ← ask .eventHandled
      return true
    else return false

end AlbyHub.Ldk
