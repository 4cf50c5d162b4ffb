import AlbyHub.Transactions.Prompt
import AlbyHub.Transactions.Runs

/-!
# Rows are well formed

The columns of a row that depend on its state (`Transaction.WellFormed`): every command of every
call keeps them so, on all rows. The conversions of a row for NIP-47 and for the API read through
its pointers, and on a well-formed row all that they read through are set.
-/

namespace AlbyHub

open Go Interaction

/-- The text of the column `state`, in lower case. Reference: `constants/constants.go:9
TRANSACTION_STATE_PENDING`. -/
def TransactionState.text : TransactionState → String
  | .pending => "pending"
  | .settled => "settled"
  | .failed => "failed"
  | .accepted => "accepted"

/-- `t.Unix()`. Reference: Go `time.Time.Unix`. -/
def Time.toUnix (t : Time) : Int := t / 1000000000

/-- Reference: `nip47/models/models.go:32 Transaction`. -/
structure Nip47Transaction where
  type : String
  state : String
  invoice : String
  description : String
  descriptionHash : String
  preimage : String
  paymentHash : String
  amount : Int
  feesPaid : Int
  createdAt : Int
  expiresAt : Option Int
  settledAt : Option Int
  settleDeadline : Option Nat
  metadata : Option (List (String × Json))

/-- The JSON of a column; an error is logged, and what was decoded is kept. Reference:
`nip47/models/transactions.go:33 ToNip47Transaction`. -/
def decodedMetadata (W : World) (metadata : String) : Option (List (String × Json)) :=
  if metadata = "" then none else (W.unmarshal metadata).1

/-- The instant of the settlement, with the preimage that is read through its pointer; `none` where
that is nil. Reference: `nip47/models/transactions.go:20 ToNip47Transaction`. -/
def settledPreimage (transaction : Transaction) : Option (Option Int × String) :=
  match transaction.settledAt with
  | none => some (none, "")
  | some settledAt =>
    match transaction.preimage with
    | none => none
    | some preimage => some (some settledAt.toUnix, preimage)

/-- The answer is `none` where a nil pointer is read through. Reference:
`nip47/models/transactions.go:13 ToNip47Transaction`. -/
def ToNip47Transaction (W : World) (now : Time) (transaction : Transaction) :
    Option Nip47Transaction := do
  let (settledAt, preimage) ← settledPreimage transaction
  let expired := transaction.settledAt = none ∧ ∃ expiresAt ∈ transaction.expiresAt, expiresAt < now
  return {
    type := transaction.type.text
    state := if expired then "expired" else transaction.state.text
    invoice := transaction.paymentRequest
    description := transaction.description
    descriptionHash := transaction.descriptionHash
    preimage := preimage
    paymentHash := transaction.paymentHash
    amount := int64 transaction.amountMsat
    feesPaid := int64 transaction.feeMsat
    createdAt := transaction.createdAt.toUnix
    expiresAt := transaction.expiresAt.map Time.toUnix
    settledAt := settledAt
    settleDeadline := transaction.settleDeadline
    metadata := decodedMetadata W transaction.metadata }

/-- Instants are texts, and a boostagram is a `B`. Reference: `api/models.go:516 Transaction`. -/
structure ApiTransaction (B : Type) where
  id : Nat
  type : String
  state : String
  invoice : String
  description : String
  descriptionHash : String
  preimage : Option String
  paymentHash : String
  amount : Nat
  amountSat : Nat
  amountMsat : Nat
  feesPaid : Nat
  feesPaidSat : Nat
  feesPaidMsat : Nat
  updatedAt : String
  createdAt : String
  settledAt : Option String
  appId : Option Nat
  metadata : Option (List (String × Json))
  boostagram : Option B
  failureReason : String

/-- Every pointer of the row is copied or compared with nil, and none is read through. `rfc3339`
formats an instant, and `toApiBoostagram` is the API's boostagram of a JSON text. Reference:
`api/transactions.go:137 toApiTransaction`. -/
def toApiTransaction {B : Type} (W : World) (rfc3339 : Time → String) (toApiBoostagram : String → B)
    (transaction : Transaction) : ApiTransaction B where
  id := transaction.id
  type := transaction.type.text
  state := transaction.state.text
  invoice := transaction.paymentRequest
  description := transaction.description
  descriptionHash := transaction.descriptionHash
  preimage := if transaction.settledAt = none then none else transaction.preimage
  paymentHash := transaction.paymentHash
  amount := transaction.amountMsat
  amountSat := transaction.amountMsat / 1000
  amountMsat := transaction.amountMsat
  feesPaid := transaction.feeMsat
  feesPaidSat := transaction.feeMsat / 1000
  feesPaidMsat := transaction.feeMsat
  updatedAt := rfc3339 transaction.updatedAt
  createdAt := rfc3339 transaction.createdAt
  settledAt := transaction.settledAt.map rfc3339
  appId := transaction.appId
  metadata := decodedMetadata W transaction.metadata
  boostagram := if transaction.boostagram = "" then none else
    some (toApiBoostagram transaction.boostagram)
  failureReason := transaction.failureReason

/-- What the state and the type of a row say about its other columns. Reference: `db/models.go:66
Transaction`. -/
structure Transaction.WellFormed (r : Transaction) : Prop where
  settledAt : r.state = .settled ↔ r.settledAt ≠ none
  preimage : r.state = .settled → ∃ preimage, r.preimage = some preimage ∧ preimage ≠ ""
  released : r.state = .settled ∨ r.state = .failed → r.feeReserveMsat = 0
  incoming : r.type = .incoming → r.feeReserveMsat = 0
  accepted : r.state = .accepted → r.type = .incoming ∧ r.settleDeadline ≠ none

/-- Reference: `db/models.go:66 Transaction`. -/
def Table.WellFormed (t : Table) : Prop := ∀ r ∈ t.rows, r.WellFormed

section
variable {W : World} {env : Env} {s s' : Hub} {t : Table} {r row : Transaction} {h : History}

/-- A new row is pending, and an incoming one has no fee reserve. Reference:
`transactions/transactions_service.go:225`, `:397`, `:512`. -/
theorem Transaction.WellFormed.pending (hst : r.state = .pending) (hat : r.settledAt = none)
    (hin : r.type = .incoming → r.feeReserveMsat = 0) : r.WellFormed where
  settledAt := by simp [hst, hat]
  preimage hs := by rw [hst] at hs; cases hs
  released hs := by rw [hst] at hs; simp at hs
  incoming := hin
  accepted hs := by rw [hst] at hs; cases hs

/-- Reference: `transactions/transactions_service.go:1488 markTransactionSettled`, `:1545
createSettledTransactionFromNotification`. -/
theorem Transaction.WellFormed.settle {preimage : String} {feeMsat : Nat} {selfPayment : Bool}
    {now : Time} (hp : preimage ≠ "") :
    (settleUpdate preimage feeMsat selfPayment now r).WellFormed where
  settledAt := by simp [settleUpdate]
  preimage _ := ⟨preimage, rfl, hp⟩
  released _ := rfl
  incoming _ := rfl
  accepted hs := nomatch hs

/-- Reference: `transactions/transactions_service.go:1743 markPaymentFailed`. -/
theorem Transaction.WellFormed.fail {reason : String} {now : Time} (hr : r.WellFormed)
    (hst : r.state = .pending ∨ r.state = .accepted) : (failUpdate reason now r).WellFormed where
  settledAt := by
    have hnone : r.settledAt = none := by
      by_contra hat
      have hs := hr.settledAt.2 hat
      rw [hs] at hst
      simp at hst
    simp [failUpdate, hnone]
  preimage hs := nomatch hs
  released _ := rfl
  incoming _ := rfl
  accepted hs := nomatch hs

/-- Reference: `transactions/transactions_service.go:1019 markHoldInvoiceAccepted`. -/
theorem Transaction.WellFormed.accept {settleDeadline : Nat} {selfPayment : Bool}
    (hr : r.WellFormed) (hty : r.type = .incoming) (hst : r.state = .pending) :
    (acceptUpdate settleDeadline selfPayment r).WellFormed where
  settledAt := by
    have hnone : r.settledAt = none := by
      by_contra hat
      have hs := hr.settledAt.2 hat
      rw [hst] at hs
      cases hs
    simp [acceptUpdate, hnone]
  preimage hs := nomatch hs
  released hs := by simp [acceptUpdate] at hs
  incoming _ := hr.incoming hty
  accepted _ := ⟨hty, fun hnone => nomatch hnone⟩

/-- Reference: `transactions/transactions_service.go:1421 SetTransactionMetadata`. -/
theorem Transaction.WellFormed.annotate {metadata : String} (hr : r.WellFormed) :
    (metadataUpdate metadata r).WellFormed :=
  ⟨hr.settledAt, hr.preimage, hr.released, hr.incoming, hr.accepted⟩

theorem Table.WellFormed.create {now : Time} (ht : t.WellFormed) (hrow : row.WellFormed) :
    (t.create now row).WellFormed := by
  intro r hr
  rcases Table.mem_create.1 hr with hr | rfl
  · exact ht r hr
  · exact ⟨hrow.settledAt, hrow.preimage, hrow.released, hrow.incoming, hrow.accepted⟩

theorem Table.WellFormed.update {id : Nat} {u : Update} (ht : t.WellFormed)
    (hu : ∀ r ∈ t.rows, r.id = id → (u r).WellFormed) : (t.update id u).WellFormed := by
  intro r hr
  rcases Table.of_mem_update hr with ⟨hr, -⟩ | ⟨r₀, hr₀, hid, rfl⟩
  · exact ht r hr
  · exact hu r₀ hr₀ hid

/-- A command of a call keeps the rows well formed. Reference: the calls of `Cmd`. -/
theorem exec_wellFormed {c : Cmd} {a : c.Ans} (ht : s.db.transactions.WellFormed)
    (hk : ∀ call ∈ h, KnownRows call s) (hc : SourcedBy h c) (hp : PromptBy h c)
    (hx : exec W s c env = some (a, s')) : s'.db.transactions.WellFormed := by
  have hsourced := hc.sourced hk
  generalize s'.db.transactions = t', exec_effect hx = he
  cases he with
  | same => exact ht
  | create =>
    exact ht.create (.pending hc.1 hp.2.2 fun _ => hp.2.1)
  | sendPayment => exact ht.create (.pending rfl rfl fun hty => nomatch hty)
  | sendKeysend =>
    obtain ⟨k, rfl⟩ := hc
    exact ht.create (.pending rfl rfl fun hty => nomatch hty)
  | settle => exact ht.update fun _ _ _ => .settle hc.2
  | createSettled => exact ht.create (.settle hc.1)
  | fail hmem hid hst =>
    refine ht.update fun r hr hrid => ?_
    rw [Table.eq_of_id hr hmem (hrid.trans (hsourced.existing_id hid).symm)]
    exact (ht _ hmem).fail hst
  | accept hmem hacc =>
    refine ht.update fun r hr hrid => ?_
    rw [Table.eq_of_id hr hmem hrid]
    exact (ht _ hmem).accept hacc.2.2.1 hacc.2.2.2
  | updateMetadata => exact ht.update fun r hr _ => (ht r hr).annotate

/-- An invariant that the commands of the calls keep is an invariant of the hub. Reference: none. -/
theorem sound_of_prompt (W : World) {allowed : Pool → PoolLabel → Prop} (inv : Hub → Prop)
    (hinv : ∀ {s s' : Hub} {h : History} {env : Env} {c : Cmd} {a : c.Ans}, inv s →
      (∀ call ∈ h, KnownRows call s) → SourcedBy h c → PromptBy h c →
      exec W s c env = some (a, s') → inv s') :
    Sound (exec W) (body W) allowed (fun _ h c => SourcedBy h c ∧ PromptBy h c)
      (fun _ h _ => History.Quiet h) (fun _ _ _ _ _ => True) inv (fun _ => KnownRows) where
  body op := ((body_sourced W op).and (body_prompt W op)).mono (fun _ _ h => h)
    fun _ _ _ hpost => hpost.2
  obeys _ _ _ _ _ _ _ _ _ := trivial
  step _ h s c e r s' hi hk hc _ hx := by
    obtain ⟨-, hnew, hold⟩ := exec_sourced hk hc.1 hx
    exact ⟨hinv hi hk hc.1 hc.2 hx, hnew, fun _ => hold⟩

/-- The rows of a reachable state are well formed. Reference: none. -/
theorem Reachable.wellFormed {allowed : Pool → PoolLabel → Prop} {cfg : Pool}
    (h : Reachable W (Fresh fun db => db.transactions.WellFormed) allowed cfg) :
    cfg.state.db.transactions.WellFormed := by
  have hsound := @sound_of_prompt W allowed
    (fun s => s.db.transactions.WellFormed) fun ht hk hc hp hx => exec_wellFormed ht hk hc hp hx
  have hd := h.sound hsound fun cfg hf =>
    ⟨hf.1, by simp [hf.2.2], by simp [hf.2.2], by simp [hf.2.2]⟩
  exact hd.inv

/-- The preimage is there where it is read. Reference: `nip47/models/transactions.go:25
ToNip47Transaction`. -/
theorem Transaction.WellFormed.settledPreimage (hr : r.WellFormed) :
    (settledPreimage r).isSome = true := by
  unfold AlbyHub.settledPreimage
  split
  · rfl
  · next settledAt hat =>
    obtain ⟨preimage, hp, _⟩ := hr.preimage (hr.settledAt.2 (by simp [hat]))
    rw [hp]
    rfl

theorem Transaction.WellFormed.toNip47Transaction (hr : r.WellFormed) (now : Time) :
    (ToNip47Transaction W now r).isSome = true := by
  obtain ⟨x, hx⟩ := Option.isSome_iff_exists.1 hr.settledPreimage
  unfold ToNip47Transaction
  rw [hx]
  rfl

/-- The API gives a preimage exactly with the instant of the settlement. Reference:
`api/transactions.go:143 toApiTransaction`. -/
theorem Transaction.WellFormed.toApiTransaction {B : Type} (hr : r.WellFormed)
    (rfc3339 : Time → String) (toApiBoostagram : String → B) :
    (toApiTransaction W rfc3339 toApiBoostagram r).preimage.isSome =
      (toApiTransaction W rfc3339 toApiBoostagram r).settledAt.isSome := by
  unfold AlbyHub.toApiTransaction
  cases hat : r.settledAt with
  | none => simp
  | some settledAt =>
    obtain ⟨preimage, hp, _⟩ := hr.preimage (hr.settledAt.2 (by simp [hat]))
    simp [hp]

/-- In every reachable state every row is well formed, and it is converted without a nil pointer
being read through: NIP-47's conversion finds the preimage, and the API's reads through no pointer.
Reference: `transactions/transactions_service.go:1467 markTransactionSettled`, `:1704
markPaymentFailed`, `:993 markHoldInvoiceAccepted`, `nip47/models/transactions.go:13
ToNip47Transaction`. -/
theorem rows_well_formed (W : World) {cfg : Pool}
    (h : Reachable W (Fresh fun db => db.transactions.WellFormed) anyStep cfg) :
    ∀ r ∈ cfg.state.db.transactions.rows,
      r.WellFormed ∧ (∀ now, (ToNip47Transaction W now r).isSome = true) ∧
        ∀ {B : Type} (rfc3339 : Time → String) (toApiBoostagram : String → B),
          (toApiTransaction W rfc3339 toApiBoostagram r).preimage.isSome =
            (toApiTransaction W rfc3339 toApiBoostagram r).settledAt.isSome := by
  intro r hr
  have hwell := h.wellFormed r hr
  exact ⟨hwell, hwell.toNip47Transaction, hwell.toApiTransaction⟩

end

theorem rows_well_formed_keysend :
    ((demoPool .empty).after demo (demoKeysendRun 0)).state.db.transactions.rows.map (·.state) =
      [.settled, .settled] ∧
    ∀ r ∈ ((demoPool .empty).after demo (demoKeysendRun 0)).state.db.transactions.rows,
      r.WellFormed ∧ ∀ now, (ToNip47Transaction demo now r).isSome = true := by
  have hreach : Reachable demo (Fresh fun db => db.transactions.WellFormed) anyStep
      ((demoPool .empty).after demo (demoKeysendRun 0)) :=
    .of_after (.start ⟨by simp [Table.WellFormed, demoPool, demoDB, Table.empty], rfl, rfl⟩)
      Config.allows_any (by decide +kernel)
  refine ⟨by decide +kernel, fun r hr => ?_⟩
  obtain ⟨hwell, hnip47, _⟩ := rows_well_formed demo hreach r hr
  exact ⟨hwell, hnip47⟩

end AlbyHub
