import AlbyHub.Go.Hex
import AlbyHub.Transactions.HoldActions

/-!
# The hash of a hold invoice

The caller names a hold invoice by a payment hash in hex, the node reports it in lower case, and the
hub recomputes it from a preimage, in lower case as well. The row has one spelling: with LDK that of
the decoded invoice, with CLN the caller's. Each lookup compares it as a text, so all of them find
the row exactly where the caller's spelling is in lower case (`hold_hash_spelling_iff`).
-/

namespace AlbyHub

open Go Interaction

/-! ## The two backends -/

/-- Reference: ldk-node `Bolt11InvoiceDescription`. -/
inductive Bolt11InvoiceDescription where
  | direct (description : String)
  | hash (hash : String)

/-- The payment that the node has recorded for an invoice. Reference: ldk-node
`PaymentDetails`. -/
structure LdkHoldPayment where
  bolt11Invoice : String
  createdAt : Nat

/-- What `MakeHoldInvoice` takes from the node; the event on the missing liquidity is left out.
Reference: ldk-node `Bolt11Payment`. -/
structure LdkNode where
  receiveForHash : Nat → Bolt11InvoiceDescription → Nat → String → Option Nat →
    Except String LdkHoldPayment

/-- Reference: `lnclient/ldk/ldk.go:2457 MakeHoldInvoice`. -/
def LDKService.MakeHoldInvoice (node : LdkNode) (decodepay : String → Except String Bolt11)
    (amountMsat : Int) (description descriptionHash : String) (expirySeconds : Int)
    (paymentHash : String) (minCltvExpiryDelta : Option Nat) : Except String LnTransaction :=
  if expirySeconds < 0 ∨ 24 * 60 * 60 < expirySeconds then .error "invalid invoice expiry" else
  let expirySeconds := if expirySeconds = 0 then 86400 else expirySeconds
  let descriptionType := if description = "" ∧ descriptionHash ≠ "" then
    .hash descriptionHash else .direct description
  match hexDecodeString paymentHash with
  | none => .error "failed to decode payment hash: encoding/hex: invalid string"
  | some decodedPaymentHash =>
    if decodedPaymentHash.length ≠ 32 then .error "payment hash must be 32 bytes" else
    if minCltvExpiryDelta.any (65535 < ·) then
      .error "min_cltv_expiry_delta must be <= 65535"
    else do
      let payment ← node.receiveForHash (uint64OfInt amountMsat) descriptionType
        expirySeconds.toNat (hexEncodeToString decodedPaymentHash) minCltvExpiryDelta
      let paymentRequest ← decodepay payment.bolt11Invoice
      return {
        invoice := payment.bolt11Invoice
        paymentHash := paymentRequest.paymentHash
        amountMsat := amountMsat
        expiresAt := some (paymentRequest.createdAt + paymentRequest.expiry)
        description := paymentRequest.description
        descriptionHash := paymentRequest.descriptionHash }

/-- Reference: `InvoiceRequest` of the hold plugin. -/
structure HoldInvoiceRequest where
  paymentHash : List UInt8
  amountMsat : Nat
  expiry : Nat
  minFinalCltvExpiry : Option Nat
  memo : Option String
  hash : Option (List UInt8)

/-- What `MakeHoldInvoice` takes from the hold plugin, and the time. Reference:
`lnclient/cln/cln.go:1881 MakeHoldInvoice`. -/
structure ClnNode where
  holdEnabled : Bool
  invoice : HoldInvoiceRequest → Except String String
  now : Int

/-- The description or its hash. Reference: `lnclient/cln/cln.go:1915 MakeHoldInvoice`. -/
def holdDescription (description descriptionHash : String) :
    Except String (Option String × Option (List UInt8)) :=
  if descriptionHash = "" then .ok (some description, none)
  else match hexDecodeString descriptionHash with
    | none => .error "Invalid description hash: encoding/hex: invalid string"
    | some descriptionHashBytes => .ok (none, some descriptionHashBytes)

/-- Reference: `lnclient/cln/cln.go:1881 MakeHoldInvoice`. -/
def CLNService.MakeHoldInvoice (node : ClnNode) (amountMsat : Int)
    (description descriptionHash : String) (expiry : Int) (paymentHash : String)
    (minCltvExpiryDelta : Option Nat) : Except String LnTransaction :=
  if node.holdEnabled = false then .error "hold plugin not configured" else
  match hexDecodeString paymentHash with
  | none => .error "Invalid payment hash: encoding/hex: invalid string"
  | some paymentHashBytes => do
    let expiry := if expiry = 0 then 86400 else expiry
    let (memo, hash) ← holdDescription description descriptionHash
    let bolt11 ← (node.invoice {
      paymentHash := paymentHashBytes, amountMsat := uint64OfInt amountMsat
      expiry := uint64OfInt expiry, minFinalCltvExpiry := minCltvExpiryDelta, memo,
      hash }).mapError ("Failed to make hold invoice: " ++ ·)
    return {
      invoice := bolt11
      description := description
      descriptionHash := descriptionHash
      paymentHash := paymentHash
      amountMsat := amountMsat
      expiresAt := some (node.now + expiry) }

/-- A backend with the answers of its node. Reference: `lnclient/models.go:60 LNClient`. -/
inductive HoldBackend where
  | ldk (node : LdkNode) (decodepay : String → Except String Bolt11)
  | cln (node : ClnNode)

/-- Reference: `lnclient/models.go:60 LNClient`. -/
def HoldBackend.MakeHoldInvoice (b : HoldBackend) (amountMsat : Int)
    (description descriptionHash : String) (expiry : Int) (paymentHash : String)
    (minCltvExpiryDelta : Option Nat) : Except String LnTransaction :=
  match b with
  | .ldk node decodepay => LDKService.MakeHoldInvoice node decodepay amountMsat description
      descriptionHash expiry paymentHash minCltvExpiryDelta
  | .cln node => CLNService.MakeHoldInvoice node amountMsat description descriptionHash expiry
      paymentHash minCltvExpiryDelta

/-- The node issues an invoice for the hash that it is given, and the hash of a decoded invoice is
written like this one, in lower case. Reference: ldk-node `ReceiveForHash`,
`decodepay.Decodepay`. -/
def HoldBackend.Reports : HoldBackend → Prop
  | .ldk node decodepay => ∀ amountMsat description expirySecs bytes minCltvExpiryDelta payment
      paymentRequest,
      node.receiveForHash amountMsat description expirySecs (hexEncodeToString bytes)
        minCltvExpiryDelta = .ok payment →
      decodepay payment.bolt11Invoice = .ok paymentRequest →
      paymentRequest.paymentHash = hexEncodeToString bytes
  | .cln _ => True

/-- The call is not one for a hold invoice, or the backend has answered it. Reference: none. -/
def HoldBackend.Answers (b : HoldBackend) (call : Call Cmd Cmd.Ans) : Prop :=
  ∀ amountMsat description descriptionHash expiry paymentHash minCltvExpiryDelta answer,
    call = ⟨.lnMakeHoldInvoice amountMsat description descriptionHash expiry paymentHash
      minCltvExpiryDelta, answer⟩ →
    answer = (b.MakeHoldInvoice amountMsat description descriptionHash expiry paymentHash
      minCltvExpiryDelta).mapError .message

/-! ## What a call finds -/

/-- The id of the row that a lookup has found, if any; nothing for another command and where the
database fails. Reference: none. -/
def Cmd.found : (c : Cmd) → c.Ans → Option (Option Nat)
  | .find _ _, .ok row => some (row.map (·.id))
  | .lookup _ _ _, .ok row => some (row.map (·.id))
  | .markHoldInvoiceAcceptedTx _ _ _ _, .ok row => some (some row.id)
  | .markHoldInvoiceAcceptedTx _ _ _ _, .error (.message _) => some none
  | _, _ => none

/-- Some run of the program has this for its first lookup. Reference: none. -/
def FirstFound {α : Type} (W : World) : Svc α → Hub → Option Nat → Prop
  | .ret _, _, _ => False
  | .cmd c k, s, found => ∃ env r s', exec W s c env = some (r, s') ∧
      (c.found r = some found ∨ c.found r = none ∧ FirstFound W (k r) s' found)

/-- The program finds the row: there is a run that looks it up, and no run finds none or another.
Reference: none. -/
def Finds {α : Type} (W : World) (p : Svc α) (s : Hub) (id : Nat) : Prop :=
  FirstFound W p s (some id) ∧ ∀ found, FirstFound W p s found → found = some id

/-- The hub has the invoice's row in the given state, and no other incoming row with the hash, in
any spelling. Reference: none. -/
structure Hub.Holds (s : Hub) (row held : Transaction) (bytes : List UInt8) : Prop where
  mem : held ∈ s.db.transactions.rows
  same : held.identity = row.identity
  only : ∀ r ∈ s.db.transactions.rows, r.type = .incoming →
    hexDecodeString r.paymentHash = some bytes → r = held

/-- The row of a hold invoice is found by the node's events on the invoice, by a settlement with a
preimage of its hash, and by a cancellation and a lookup with the caller's spelling of the hash.
Reference: `transactions/transactions_service.go:796 ConsumeEvent`, `:1306 SettleHoldInvoice`,
`:1354 CancelHoldInvoice`, `:599 LookupTransaction`. -/
structure FoundBySpelling (W : World) (row : Transaction) (bytes : List UInt8)
    (paymentHash : String) : Prop where
  accepted : ∀ s held tx deadline, s.Holds row held bytes → held.state = .pending →
    tx.invoice = row.paymentRequest → tx.paymentHash = hexEncodeToString bytes →
    tx.settleDeadline = some deadline →
    Finds W (ConsumeEvent W (.holdInvoiceAccepted tx)) s row.id
  received : ∀ s held tx, s.Holds row held bytes → tx.paymentHash = hexEncodeToString bytes →
    Finds W (ConsumeEvent W (.paymentReceived tx)) s row.id
  settle : ∀ s held preimage preimageBytes, s.Holds row held bytes → held.state = .accepted →
    preimage.utf8ByteSize = 64 → hexDecodeString preimage = some preimageBytes →
    W.sha256 preimageBytes = bytes → Finds W (SettleHoldInvoice W preimage) s row.id
  cancel : ∀ s held, s.Holds row held bytes → held.state = .accepted →
    Finds W (CancelHoldInvoice paymentHash) s row.id
  lookup : ∀ s held type appId, s.Holds row held bytes →
    (type = some .incoming ∨ type = none ∧ ∀ r ∈ s.db.transactions.rows,
      hexDecodeString r.paymentHash = some bytes → r = held) →
    (appId = none ∨ appId = row.appId) →
    Finds W (LookupTransaction W paymentHash type appId) s row.id

section
variable {α : Type} {W : World} {s : Hub} {row held : Transaction} {bytes : List UInt8}
variable {paymentHash : String} {q : Where} {f : Except Err (Option Transaction) → Svc α}
variable {tx : LnTransaction} {n : Nat} {l : List Transaction}

theorem pick_only (hmem : held ∈ l) (honly : ∀ r ∈ l, r = held) : pick n l = some held := by
  cases hp : pick n l with
  | none =>
    rw [pick_eq_none.1 hp] at hmem
    cases hmem
  | some r => rw [honly r (mem_of_pick hp)]

/-- A search that stops where the database fails finds the row that it selects alone. Reference:
gorm `Find`. -/
theorem finds_find (hmem : held ∈ s.db.transactions.rows) (hq : q.Matches held)
    (honly : ∀ r ∈ s.db.transactions.rows, q.Matches r → r = held)
    (hstop : ∀ e s found, ¬ FirstFound W (f (.error e)) s found) :
    Finds W (ask (.find q .none) >>= f) s held.id := by
  have hpick : ∀ n, pick n (s.db.transactions.select q) = some held := fun n =>
    pick_only (Table.mem_select.2 ⟨hmem, hq⟩) fun r hr =>
      honly r (Table.mem_select.1 hr).1 (Table.mem_select.1 hr).2
  constructor
  · refine ⟨{}, .ok (some held), s, ?_, .inl rfl⟩
    rw [exec, Order.first, hpick]
    rfl
  · rintro found ⟨env, r, s', hx, hfound⟩
    rw [exec, Order.first, hpick] at hx
    obtain ⟨-, ⟨e, rfl⟩ | rfl⟩ := Hub.read_eq hx
    · rcases hfound with hfound | ⟨-, hrest⟩
      · cases hfound
      · exact absurd hrest (hstop (.database e) s' found)
    · rcases hfound with hfound | ⟨hnone, -⟩
      · exact (Option.some.inj hfound).symm
      · cases hnone

/-- A search does not find a row that it does not select. Reference: gorm `Find`. -/
theorem not_finds_find {id : Nat}
    (hother : ∀ r ∈ s.db.transactions.rows, q.Matches r → r.id ≠ id)
    (hstop : ∀ e s found, ¬ FirstFound W (f (.error e)) s found) :
    ¬ Finds W (ask (.find q .none) >>= f) s id := by
  rintro ⟨⟨env, r, s', hx, hfound⟩, -⟩
  obtain ⟨-, ⟨e, rfl⟩ | rfl⟩ := Hub.read_eq hx
  · rcases hfound with hfound | ⟨-, hrest⟩
    · cases hfound
    · exact hstop (.database e) s' _ hrest
  · rcases hfound with hfound | ⟨hnone, -⟩
    · obtain ⟨r, hp, hid⟩ := Option.map_eq_some_iff.1 (Option.some.inj hfound)
      obtain ⟨hr, hqr⟩ := Table.mem_select.1 (mem_of_pick hp)
      exact hother r hr hqr hid
    · cases hnone

/-- The rule of a command that is no lookup. Reference: none. -/
theorem finds_call_bind {c : Cmd} {k : c.Ans → Svc α} {id : Nat} (hc : ∀ r, c.found r = none)
    (hfirst : ∃ env r s', exec W s c env = some (r, s') ∧ FirstFound W (k r) s' (some id))
    (hall : ∀ env r s', exec W s c env = some (r, s') → ∀ found, FirstFound W (k r) s' found →
      found = some id) :
    Finds W (ask c >>= k) s id := by
  constructor
  · obtain ⟨env, r, s', hx, hfound⟩ := hfirst
    exact ⟨env, r, s', hx, .inr ⟨hc r, hfound⟩⟩
  · rintro found ⟨env, r, s', hx, hfound⟩
    rcases hfound with hfound | ⟨-, hfound⟩
    · rw [hc r] at hfound
      cases hfound
    · exact hall env r s' hx found hfound

/-! ## The calls on a row whose hash is spelled as they spell it -/

theorem Hub.Holds.id_eq (h : s.Holds row held bytes) : held.id = row.id :=
  congrArg Identity.id h.same

theorem Hub.Holds.type_eq (h : s.Holds row held bytes) : held.type = row.type :=
  congrArg Identity.type h.same

theorem Hub.Holds.paymentRequest_eq (h : s.Holds row held bytes) :
    held.paymentRequest = row.paymentRequest :=
  congrArg Identity.paymentRequest h.same

theorem Hub.Holds.paymentHash_eq (h : s.Holds row held bytes) :
    held.paymentHash = row.paymentHash :=
  congrArg Identity.paymentHash h.same

theorem Hub.Holds.appId_eq (h : s.Holds row held bytes) : held.appId = row.appId :=
  congrArg Identity.appId h.same

/-- The search for an incoming row of the hash, in any state or in the held row's. Reference:
`transactions/transactions_service.go:803 ConsumeEvent`, `:1319 SettleHoldInvoice`, `:1357
CancelHoldInvoice`. -/
theorem Hub.Holds.finds_incoming (h : s.Holds row held bytes) {state : Option TransactionState}
    (hstate : state = none ∨ state = some held.state) (hrow : row.type = .incoming)
    (hne : row.paymentHash ≠ "") (hdecode : hexDecodeString row.paymentHash = some bytes)
    (hhash : paymentHash = row.paymentHash)
    (hstop : ∀ e s found, ¬ FirstFound W (f (.error e)) s found) :
    Finds W (ask (.find { type := some .incoming, state, paymentHash } .none) >>= f) s row.id := by
  subst hhash
  have htype : held.type = .incoming := h.type_eq.trans hrow
  rw [← h.id_eq]
  refine finds_find h.mem
    ⟨.inl rfl, .inr (congrArg some htype.symm), hstate, .inl rfl, .inr h.paymentHash_eq⟩ ?_ hstop
  rintro r hr ⟨-, hrtype, -, -, hrhash⟩
  have hrtype : r.type = .incoming := by simpa [eq_comm] using hrtype
  exact h.only r hr hrtype ((hrhash.resolve_left hne) ▸ hdecode)

/-- Reference: `transactions/transactions_service.go:993 markHoldInvoiceAccepted`. -/
theorem Hub.Holds.finds_accepted (h : s.Holds row held bytes) (hstate : held.state = .pending)
    (hrow : row.type = .incoming) (hdecode : hexDecodeString row.paymentHash = some bytes)
    {deadline : Nat} : Finds W
      (markHoldInvoiceAccepted row.paymentRequest row.paymentHash deadline false) s row.id := by
  have hheld : held.Acceptable row.paymentRequest row.paymentHash :=
    ⟨h.paymentHash_eq, h.paymentRequest_eq, h.type_eq.trans hrow, hstate⟩
  have hfind : s.db.transactions.rows.find? (·.Acceptable row.paymentRequest row.paymentHash) =
      some held := by
    cases hf : s.db.transactions.rows.find?
        (·.Acceptable row.paymentRequest row.paymentHash) with
    | none => exact absurd (decide_eq_true hheld) (List.find?_eq_none.1 hf held h.mem)
    | some r =>
      have haccept := List.find?_some hf
      obtain ⟨hhash, -, htype, -⟩ := of_decide_eq_true haccept
      rw [h.only r (List.mem_of_find?_eq_some hf) htype (hhash ▸ hdecode)]
  have hx : ∀ env, exec W s
      (.markHoldInvoiceAcceptedTx row.paymentRequest row.paymentHash deadline false) env =
      s.transaction env (.ok (acceptUpdate deadline false held, s.db.withTransactions
        (s.db.transactions.update held.id (acceptUpdate deadline false))), []) := by
    intro env
    rw [exec, markHoldInvoiceAcceptedTx, hfind]
  have hid : (acceptUpdate deadline false held).id = row.id :=
    (Update.id _ _).trans h.id_eq
  constructor
  · refine ⟨{}, _, _, hx {}, .inl ?_⟩
    exact congrArg (fun id => some (some id)) hid
  · rintro found ⟨env, r, s', hrun, hfound⟩
    rw [hx] at hrun
    rcases Hub.transaction_cases hrun with ⟨_, rfl, -⟩ | ⟨_, hb, -, -⟩ | ⟨a, db, hb, rfl, -⟩
    · rcases hfound with hfound | ⟨-, hrest⟩
      · cases hfound
      · exact hrest.elim
    · cases hb
    · cases hb
      rcases hfound with hfound | ⟨hnone, -⟩
      · exact (Option.some.inj hfound).symm.trans (congrArg some hid)
      · cases hnone

/-- A lookup that stops where the database fails finds the row that it may return alone. Reference:
`transactions/transactions_service.go:629 LookupTransaction`. -/
theorem finds_lookup {type : Option TransactionType} {appId : Option Nat}
    (hpick : ∀ n, pick n (lookupRows W s.db.transactions paymentHash type appId) = some held)
    (hstop : ∀ e s found, ¬ FirstFound W (f (.error e)) s found) :
    Finds W (ask (.lookup paymentHash type appId) >>= f) s held.id := by
  constructor
  · refine ⟨{}, .ok (some held), s, ?_, .inl rfl⟩
    rw [exec, hpick]
    rfl
  · rintro found ⟨env, r, s', hx, hfound⟩
    rw [exec, hpick] at hx
    obtain ⟨-, ⟨e, rfl⟩ | rfl⟩ := Hub.read_eq hx
    · rcases hfound with hfound | ⟨-, hrest⟩
      · cases hfound
      · exact absurd hrest (hstop (.database e) s' found)
    · rcases hfound with hfound | ⟨hnone, -⟩
      · exact (Option.some.inj hfound).symm
      · cases hnone

/-- The rows of a lookup that selects one. Reference: `transactions/transactions_service.go:629
LookupTransaction`. -/
theorem Hub.Holds.pick_lookupRows (h : s.Holds row held bytes) {type : Option TransactionType}
    {appId : Option Nat} (hrow : row.type = .incoming) (hne : row.paymentHash ≠ "")
    (hdecode : hexDecodeString row.paymentHash = some bytes)
    (htype : type = some .incoming ∨ type = none ∧ ∀ r ∈ s.db.transactions.rows,
      hexDecodeString r.paymentHash = some bytes → r = held)
    (happ : appId = none ∨ appId = row.appId) :
    pick n (lookupRows W s.db.transactions row.paymentHash type appId) = some held := by
  have honly : ∀ r ∈ s.db.transactions.select { type, paymentHash := row.paymentHash },
      r = held := by
    intro r hr
    obtain ⟨hrmem, -, hrtype, -, -, hrhash⟩ := Table.mem_select.1 hr
    have hbytes : hexDecodeString r.paymentHash = some bytes := hrhash.resolve_left hne ▸ hdecode
    rcases htype with rfl | ⟨-, hall⟩
    · exact h.only r hrmem (Option.some.inj (hrtype.resolve_left nofun)).symm hbytes
    · exact hall r hrmem hbytes
  refine pick_only ?_ fun r hr => honly r (mem_of_lookupRows hr).1
  have hselected : held ∈ (s.db.transactions.select
      { type, paymentHash := row.paymentHash }).filter
        fun r => appId = none ∨ r.appId = appId := by
    refine List.mem_filter.2 ⟨Table.mem_select.2 ⟨h.mem, .inl rfl, ?_, .inl rfl, .inl rfl,
      .inr h.paymentHash_eq⟩, decide_eq_true ?_⟩
    · rcases htype with rfl | ⟨rfl, -⟩
      · exact .inr (congrArg some (h.type_eq.trans hrow).symm)
      · exact .inl rfl
    · exact happ.imp_right fun he => h.appId_eq.trans he.symm
  refine List.mem_filter.2 ⟨hselected, List.all_eq_true.2 fun r hr => ?_⟩
  rw [honly r (List.mem_filter.1 hr).1, lookupBefore_irrefl]
  rfl

/-- Reference: `transactions/transactions_service.go:599 LookupTransaction`. -/
theorem Hub.Holds.finds_lookup (h : s.Holds row held bytes) {type : Option TransactionType}
    {appId : Option Nat} (hrow : row.type = .incoming) (hne : row.paymentHash ≠ "")
    (hdecode : hexDecodeString row.paymentHash = some bytes)
    (htype : type = some .incoming ∨ type = none ∧ ∀ r ∈ s.db.transactions.rows,
      hexDecodeString r.paymentHash = some bytes → r = held)
    (happ : appId = none ∨ appId = row.appId) :
    Finds W (LookupTransaction W row.paymentHash type appId) s row.id := by
  rw [← h.id_eq]
  cases appId with
  | none =>
    exact AlbyHub.finds_lookup (fun n => h.pick_lookupRows hrow hne hdecode htype (.inl rfl))
      fun _ _ _ => id
  | some appId =>
    have hrows : ∀ (isolated : Bool) (n : Nat), pick n (lookupRows W s.db.transactions
        row.paymentHash type (if isolated then some appId else none)) = some held := by
      intro isolated n
      refine h.pick_lookupRows hrow hne hdecode htype ?_
      cases isolated with
      | false => exact .inl rfl
      | true => exact happ
    refine finds_call_bind (c := .isIsolated appId) (fun _ => rfl) ⟨{}, _, s, rfl, ?_⟩ ?_
    · exact (AlbyHub.finds_lookup (hrows _) fun _ _ _ => id).1
    · intro env r s' hx found hfound
      obtain ⟨rfl, ⟨e, rfl⟩ | rfl⟩ := Hub.read_eq hx
      · exact hfound.elim
      · exact (AlbyHub.finds_lookup (hrows _) fun _ _ _ => id).2 found hfound

/-! ## The spelling of the row -/

/-- A table of one row. Reference: none. -/
def Table.single (row : Transaction) (hpos : 0 < row.id) : Table where
  rows := [row]
  nextId := row.id + 1
  next_pos := Nat.succ_pos _
  id_pos := fun _ hr => List.mem_singleton.1 hr ▸ hpos
  id_lt := fun _ hr => List.mem_singleton.1 hr ▸ Nat.lt_succ_self _
  sorted := List.pairwise_singleton _ _

theorem holds_single {db : DB} (hpos : 0 < row.id) :
    Hub.Holds ⟨db.withTransactions (Table.single row hpos), []⟩ row row bytes :=
  ⟨List.mem_cons_self, rfl, fun _ hr _ _ => List.mem_singleton.1 hr⟩

/-- The calls find a row exactly where its hash is spelled as the node spells it and as the caller
does. Reference: none. -/
theorem foundBySpelling_iff (hrow : row.type = .incoming) (hpos : 0 < row.id) (hne : bytes ≠ [])
    (hdecode : hexDecodeString row.paymentHash = some bytes)
    (hs : hexDecodeString paymentHash = some bytes) :
    FoundBySpelling W row bytes paymentHash ↔
      row.paymentHash = hexEncodeToString bytes ∧ row.paymentHash = paymentHash := by
  have hnonempty : ∀ s, hexDecodeString s = some bytes → s ≠ "" := by
    rintro s hs rfl
    exact hne (Option.some.inj hs).symm
  have hempty := hnonempty _ hdecode
  constructor
  · intro hfound
    have hholds := @holds_single row bytes (demoDB .empty) hpos
    constructor
    · -- a received event on a hub with this row alone
      refine Decidable.byContradiction fun hother => not_finds_find ?_ (fun _ _ _ => id)
        (hfound.received _ row { paymentHash := hexEncodeToString bytes } hholds rfl)
      rintro r hr ⟨-, -, -, -, hhash⟩ -
      rw [List.mem_singleton.1 hr] at hhash
      exact hother (hhash.resolve_left (hexEncodeToString_ne hne))
    · -- a lookup on this hub
      refine Decidable.byContradiction fun hother => ?_
      obtain ⟨⟨env, r, s', hx, hlookup⟩, -⟩ := hfound.lookup _ row none none hholds
        (.inr ⟨rfl, fun r hr _ => List.mem_singleton.1 hr⟩) (.inl rfl)
      obtain ⟨-, ⟨e, rfl⟩ | rfl⟩ := Hub.read_eq hx
      · exact hlookup.elim nofun fun hrest => hrest.2.elim
      · obtain ⟨r, hp, -⟩ := Option.map_eq_some_iff.1
          (Option.some.inj (hlookup.resolve_right fun hnone => nomatch hnone.1))
        obtain ⟨hr, -, -, -, -, hhash⟩ :=
          Table.mem_select.1 (mem_of_lookupRows (mem_of_pick hp)).1
        rw [List.mem_singleton.1 hr] at hhash
        exact hother (hhash.resolve_left (hnonempty _ hs))
  · rintro ⟨hnode, rfl⟩
    refine ⟨?_, ?_, ?_, ?_, ?_⟩
    · intro s held tx deadline hh hstate hinvoice hhash hdeadline
      rw [ConsumeEvent, hdeadline, hinvoice, hhash, ← hnode]
      exact hh.finds_accepted hstate hrow hdecode
    · intro s held tx hh hhash
      exact hh.finds_incoming (.inl rfl) hrow hempty hdecode (hhash.trans hnode.symm)
        fun _ _ _ => id
    · intro s held preimage preimageBytes hh hstate hsize hpreimage hsha
      rw [SettleHoldInvoice, if_neg (not_not.2 hsize), hpreimage]
      exact hh.finds_incoming (.inr (congrArg some hstate.symm)) hrow hempty hdecode
        (hsha ▸ hnode.symm) fun _ _ _ => id
    · intro s held hh hstate
      exact hh.finds_incoming (.inr (congrArg some hstate.symm)) hrow hempty hdecode rfl
        fun _ _ _ => id
    · intro s held type appId hh htype happ
      exact hh.finds_lookup hrow hempty hdecode htype happ

end

/-! ## The creation of the row -/

section
variable {W : World} {s s' : Hub} {h : List (Call Cmd Cmd.Ans)} {row : Transaction}
variable {bytes : List UInt8} {paymentHash description descriptionHash : String}
variable {amountMsat expiry : Nat} {minCltvExpiryDelta appId requestEventId : Option Nat}
variable {metadata : Option Metadata} {b : HoldBackend}

/-- The row has the hash that the node's client has answered. Reference:
`transactions/transactions_service.go:279 MakeHoldInvoice`. -/
theorem traces_MakeHoldInvoice
    (ht : (MakeHoldInvoice W amountMsat description descriptionHash expiry paymentHash
      minCltvExpiryDelta metadata appId requestEventId).Traces (exec W) s h (.ok row) s') :
    row.type = .incoming ∧ 0 < row.id ∧ ∃ tx, row.paymentHash = tx.paymentHash ∧
      (⟨.lnMakeHoldInvoice (int64 amountMsat) description descriptionHash (int64 expiry)
        paymentHash minCltvExpiryDelta, .ok tx⟩ : Call Cmd Cmd.Ans) ∈ h := by
  unfold MakeHoldInvoice at ht
  split at ht
  · obtain ⟨-, hret, -⟩ := ht
    cases hret
  · obtain ⟨env, r, s₁, h₁, hx, rfl, hrest⟩ := Prog.traces_call_bind.1 ht
    cases r with
    | error e =>
      obtain ⟨-, hret, -⟩ := hrest
      cases hret
    | ok tx =>
      obtain ⟨env', r', s₂, h₂, hx', rfl, -, rfl, -⟩ := hrest
      obtain ⟨db, hcreate, -⟩ := Hub.transaction_ok hx'
      obtain ⟨-, rfl, -⟩ := createForTx_ok hcreate
      exact ⟨rfl, Table.next_pos _, tx, rfl, List.mem_cons_self⟩

/-- With LDK the hash is that of the decoded invoice. Reference: `lnclient/ldk/ldk.go:2457
MakeHoldInvoice`. -/
theorem LDKService.MakeHoldInvoice_hash {node : LdkNode}
    {decodepay : String →
    Except String Bolt11} (hreports : (HoldBackend.ldk node decodepay).Reports)
    {amountMsat expiry : Int} {tx : LnTransaction} (hs : hexDecodeString paymentHash = some bytes)
    (h : LDKService.MakeHoldInvoice node decodepay amountMsat description descriptionHash expiry
      paymentHash minCltvExpiryDelta = .ok tx) : tx.paymentHash = hexEncodeToString bytes := by
  simp only [LDKService.MakeHoldInvoice, hs] at h
  split at h
  · cases h
  split at h
  · cases h
  split at h
  · cases h
  · simp only [bind, Except.bind] at h
    split at h
    · cases h
    · next payment hpayment =>
      split at h
      · cases h
      · next paymentRequest hrequest =>
        obtain rfl := Except.ok.inj h
        exact hreports _ _ _ bytes _ payment paymentRequest hpayment hrequest

/-- With CLN the hash is the caller's. Reference: `lnclient/cln/cln.go:1881 MakeHoldInvoice`. -/
theorem CLNService.MakeHoldInvoice_hash {node : ClnNode} {amountMsat expiry : Int}
    {tx : LnTransaction}
    (h : CLNService.MakeHoldInvoice node amountMsat description descriptionHash expiry paymentHash
      minCltvExpiryDelta = .ok tx) : tx.paymentHash = paymentHash := by
  simp only [CLNService.MakeHoldInvoice] at h
  split at h
  · cases h
  split at h
  · cases h
  · simp only [bind, Except.bind] at h
    split at h
    · cases h
    split at h
    · cases h
    · obtain rfl := Except.ok.inj h
      rfl

/-- The row of a created hold invoice is found by all calls if and only if the caller has written
the hash in lower case. Reference: `transactions/transactions_service.go:247 MakeHoldInvoice`. -/
theorem hold_hash_spelling_iff (hreports : b.Reports) (hlength : bytes.length = 32)
    (hs : hexDecodeString paymentHash = some bytes)
    (ht : (MakeHoldInvoice W amountMsat description descriptionHash expiry paymentHash
      minCltvExpiryDelta metadata appId requestEventId).Traces (exec W) s h (.ok row) s')
    (hanswers : ∀ call ∈ h, b.Answers call) :
    FoundBySpelling W row bytes paymentHash ↔
      toLower W.lowerNonAscii paymentHash = paymentHash := by
  obtain ⟨hrow, hpos, tx, hhash, hcall⟩ := traces_MakeHoldInvoice ht
  have hne : bytes ≠ [] := by
    rintro rfl
    cases hlength
  have hlower := hexEncodeToString_of_hexDecodeString (f := W.lowerNonAscii) hs
  have hok : b.MakeHoldInvoice (int64 amountMsat) description descriptionHash (int64 expiry)
      paymentHash minCltvExpiryDelta = .ok tx := by
    have hanswer := hanswers _ hcall _ _ _ _ _ _ _ rfl
    cases hmade : b.MakeHoldInvoice (int64 amountMsat) description descriptionHash (int64 expiry)
        paymentHash minCltvExpiryDelta with
    | error e =>
      rw [hmade] at hanswer
      cases hanswer
    | ok made =>
      rw [hmade] at hanswer
      cases hanswer
      rfl
  rw [← hlower]
  cases b with
  | ldk node decodepay =>
    have hkey := hhash.trans (LDKService.MakeHoldInvoice_hash hreports hs hok)
    rw [foundBySpelling_iff hrow hpos hne (hkey ▸ hexDecodeString_hexEncodeToString bytes) hs, hkey]
    exact and_iff_right rfl
  | cln node =>
    have hkey := hhash.trans (CLNService.MakeHoldInvoice_hash hok)
    rw [foundBySpelling_iff hrow hpos hne (hkey ▸ hs) hs, hkey]
    exact (and_iff_left rfl).trans eq_comm

end

/-- A hold plugin that answers an invoice. Reference: none. -/
def demoClnNode : ClnNode :=
  { holdEnabled := true, invoice := fun _ => .ok charlieInvoice, now := 0 }

/-- A hold invoice of CLN for any hash. Reference: `lnclient/cln/cln.go:1881 MakeHoldInvoice`. -/
theorem traces_demoClnNode {paymentHash : String} {bytes : List UInt8}
    (hs : hexDecodeString paymentHash = some bytes) : ∃ h row s',
      (MakeHoldInvoice demo 1000 "" "" 0 paymentHash none none none none).Traces (exec demo)
        ⟨demoDB .empty, []⟩ h (.ok row) s' ∧
      (∀ call ∈ h, (HoldBackend.cln demoClnNode).Answers call) ∧ row.paymentHash = paymentHash := by
  let tx : LnTransaction := {
    invoice := charlieInvoice, paymentHash, amountMsat := 1000, expiresAt := some 86400 }
  have hmade : (HoldBackend.cln demoClnNode).MakeHoldInvoice 1000 "" "" 0 paymentHash none =
      .ok tx := by
    simp only [HoldBackend.MakeHoldInvoice, CLNService.MakeHoldInvoice, hs]
    rfl
  have hamount : int64 1000 = 1000 := by decide
  have hexpiry : int64 0 = 0 := by decide
  refine ⟨_, _, _, ⟨{ transaction := .ok tx }, _, _, _, rfl, rfl, {}, _, _, _, rfl, rfl, rfl, rfl,
    rfl⟩, ?_, rfl⟩
  intro call hcall
  rcases List.mem_cons.1 hcall with rfl | hcall
  · intro _ _ _ _ _ _ answer hanswer
    cases hanswer
    exact congrArg (Except.mapError Err.message) (hamount ▸ hexpiry ▸ hmade.symm)
  · rw [List.mem_singleton.1 hcall]
    exact fun _ _ _ _ _ _ _ hanswer => nomatch hanswer

theorem exists_bytes {s : String}
    (h : (hexDecodeString s).map List.length = some 32) :
    ∃ bytes, hexDecodeString s = some bytes ∧ bytes.length = 32 := by
  obtain ⟨bytes, hs, hlength⟩ := Option.map_eq_some_iff.1 h
  exact ⟨bytes, hs, hlength⟩

theorem hold_hash_spelling_lower : ∃ bytes row, hexDecodeString wrappedHash = some bytes ∧
    (FoundBySpelling demo row bytes wrappedHash ↔
      toLower demo.lowerNonAscii wrappedHash = wrappedHash) := by
  obtain ⟨bytes, hs, hlength⟩ := exists_bytes (s := wrappedHash) (by decide +kernel)
  obtain ⟨h, row, s', ht, hanswers, -⟩ := traces_demoClnNode hs
  have hreports : (HoldBackend.cln demoClnNode).Reports := trivial
  exact ⟨bytes, row, hs, hold_hash_spelling_iff hreports hlength hs ht hanswers⟩

/-- The hash in upper case. Reference: none. -/
def upperHash : String := "8F3CFA1CDCF19DE4B6FDB9EC339B7470E724D0C755B7C7568164D5DF1B70EA6E"

/-- With CLN a row that is named in upper case is not found by the node's events. Reference:
`lnclient/cln/cln.go:1950 MakeHoldInvoice`. -/
theorem upper_case_hash_not_found : ¬ ∀ (b : HoldBackend) (W : World) (s s' : Hub)
    (h : List (Call Cmd Cmd.Ans)) (row : Transaction) (bytes : List UInt8) (paymentHash : String),
    b.Reports → bytes.length = 32 → hexDecodeString paymentHash = some bytes →
    (MakeHoldInvoice W 1000 "" "" 0 paymentHash none none none none).Traces (exec W) s h (.ok row)
      s' → (∀ call ∈ h, b.Answers call) → FoundBySpelling W row bytes paymentHash := by
  intro hfound
  obtain ⟨bytes, hs, hlength⟩ := exists_bytes (s := upperHash) (by decide +kernel)
  obtain ⟨h, row, s', ht, hanswers, hhash⟩ := traces_demoClnNode hs
  have hrow := traces_MakeHoldInvoice ht
  have hne : bytes ≠ [] := by
    rintro rfl
    cases hlength
  have hspelled := ((foundBySpelling_iff hrow.1 hrow.2.1 hne (hhash ▸ hs) hs).1
    (hfound (.cln demoClnNode) _ _ _ _ _ _ _ trivial hlength hs ht hanswers)).1
  rw [hhash, hexEncodeToString_of_hexDecodeString (f := fun c => c) hs] at hspelled
  exact absurd hspelled (by decide +kernel)

end AlbyHub
