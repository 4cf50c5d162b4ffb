import AlbyHub.Interaction.Solo
import AlbyHub.Transactions.Effects
import AlbyHub.Transactions.Runs

/-!
# Settling and cancelling a hold invoice

What a settlement or a cancellation does to the table when it runs alone. Both find an accepted
row by a hash, ask the node where the payment is not the hub's own, and then write that row. The
hash of a settlement is computed, but that of a cancellation is the caller's, and an empty one
finds any accepted row (`hold_actions_on_named_iff`).
-/

namespace AlbyHub

open Go Interaction

/-- At most one row changes, and it had the property. Reference: none. -/
def Table.ChangesOne (P : Transaction → Prop) (t t' : Table) : Prop :=
  t'.rows = t.rows ∨
    ∃ row ∈ t.rows, P row ∧ ∃ u : Update, t'.rows = t.rows.map (Table.updateRow row.id u)

/-- An incoming accepted row of the hash. Reference: `transactions/transactions_service.go:1358
CancelHoldInvoice`. -/
def Transaction.HeldFor (paymentHash : String) (row : Transaction) : Prop :=
  row.type = .incoming ∧ row.state = .accepted ∧ row.paymentHash = paymentHash

/-- A call of the node that has failed. Reference: `transactions/transactions_service.go:1331
SettleHoldInvoice`, `:1371 CancelHoldInvoice`. -/
inductive NodeFailed : Call Cmd Cmd.Ans → Prop
  | settle {preimage : String} {e : Err} : NodeFailed ⟨.lnSettleHoldInvoice preimage, .error e⟩
  | cancel {paymentHash : String} {e : Err} :
    NodeFailed ⟨.lnCancelHoldInvoice paymentHash, .error e⟩

/-- The purpose of the two calls: each changes no row but one that is held for the hash that it
names, and none when the node fails. Reference: none. -/
structure HoldActionsOnNamed (W : World) (s : Hub) (paymentHash : String) : Prop where
  cancel : ∀ h a s', (CancelHoldInvoice paymentHash).Traces (exec W) s h a s' →
    s.db.transactions.ChangesOne (·.HeldFor paymentHash) s'.db.transactions ∧
      ((∃ call ∈ h, NodeFailed call) → s'.db.transactions.rows = s.db.transactions.rows)
  settle : ∀ preimage h a s', (SettleHoldInvoice W preimage).Traces (exec W) s h a s' →
    s.db.transactions.ChangesOne (fun row => ∃ bytes, hexDecodeString preimage = some bytes ∧
        row.HeldFor (hexEncodeToString (W.sha256 bytes))) s'.db.transactions ∧
      ((∃ call ∈ h, NodeFailed call) → s'.db.transactions.rows = s.db.transactions.rows)

section
variable {W : World} {s s' : Hub} {h : List (Call Cmd Cmd.Ans)} {row : Transaction}
variable {paymentHash preimage : String} {q : Where}

theorem not_nodeFailed {c : Cmd} {r : c.Ans} (hs : ∀ preimage, c ≠ .lnSettleHoldInvoice preimage)
    (hc : ∀ paymentHash, c ≠ .lnCancelHoldInvoice paymentHash) : ¬ NodeFailed ⟨c, r⟩ := by
  intro hf
  cases hf with
  | settle => exact hs _ rfl
  | cancel => exact hc _ rfl

/-- Publishing leaves the database, and calls no node. Reference:
`transactions/transactions_service.go:1655 publishEvents`. -/
theorem traces_publishEvents {events : List Event} {u : Unit}
    (ht : (publishEvents events).Traces (exec W) s h u s') :
    s'.db = s.db ∧ ∀ call ∈ h, ¬ NodeFailed call := by
  induction events generalizing s h with
  | nil =>
    obtain ⟨rfl, -, rfl⟩ := ht
    exact ⟨rfl, fun call hc => absurd hc List.not_mem_nil⟩
  | cons event events ih =>
    obtain ⟨env, r, s₁, h', hx, rfl, hrest⟩ := ht
    obtain ⟨hdb, hcalls⟩ := ih hrest
    cases hx
    refine ⟨hdb, fun call hc => ?_⟩
    rcases List.mem_cons.1 hc with rfl | hc
    · exact not_nodeFailed nofun nofun
    · exact hcalls call hc

/-- A settlement writes the row of the caller's copy, or none. Reference:
`transactions/transactions_service.go:1470 markTransactionSettled`. -/
theorem traces_markTransactionSettled {feeMsat : Nat} {selfPayment : Bool}
    {a : Except Err Transaction}
    (ht : (markTransactionSettled row preimage feeMsat selfPayment).Traces (exec W) s h a s') :
    (s'.db.transactions = s.db.transactions ∨
      ∃ u : Update, s'.db.transactions = s.db.transactions.update row.id u) ∧
    ∀ call ∈ h, ¬ NodeFailed call := by
  obtain ⟨h₁, settled, s₁, h₂, rfl, hsettle, rfl, -, rfl⟩ := Prog.traces_bind.1 ht
  rw [List.append_nil]
  unfold settleCopy at hsettle
  split at hsettle
  · obtain ⟨rfl, -, rfl⟩ := hsettle
    exact ⟨.inl rfl, fun call hc => absurd hc List.not_mem_nil⟩
  · obtain ⟨env, r, s₂, h', hx, rfl, hrest⟩ := hsettle
    have heffect : s₂.db.transactions = s.db.transactions ∨
        ∃ u : Update, s₂.db.transactions = s.db.transactions.update row.id u := by
      have heff := exec_effect hx
      generalize s₂.db.transactions = t at heff ⊢
      cases heff with
      | same => exact .inl rfl
      | settle => exact .inr ⟨_, rfl⟩
    cases r with
    | error e =>
      obtain ⟨rfl, -, rfl⟩ := hrest
      refine ⟨heffect, fun call hc => ?_⟩
      rw [List.mem_singleton.1 hc]
      exact not_nodeFailed nofun nofun
    | ok settlement =>
      change Prog.Traces (exec W) (publishEvents _ >>= fun _ => pure _) _ _ _ _ at hrest
      obtain ⟨h₃, u, s₃, h₄, rfl, hpublish, rfl, -, rfl⟩ := Prog.traces_bind.1 hrest
      obtain ⟨hdb, hcalls⟩ := traces_publishEvents hpublish
      rw [hdb, List.append_nil]
      refine ⟨heffect, fun call hc => ?_⟩
      rcases List.mem_cons.1 hc with rfl | hc
      · exact not_nodeFailed nofun nofun
      · exact hcalls call hc

/-- A failure writes the row of the caller's copy, or none. Reference:
`transactions/transactions_service.go:1709 markPaymentFailed`. -/
theorem traces_markPaymentFailed {reason : String} {a : Except Err (Bool × Transaction)}
    (ht : (markPaymentFailed row reason).Traces (exec W) s h a s') :
    (s'.db.transactions = s.db.transactions ∨
      ∃ u : Update, s'.db.transactions = s.db.transactions.update row.id u) ∧
    ∀ call ∈ h, ¬ NodeFailed call := by
  obtain ⟨env, r, s₂, h', hx, rfl, hrest⟩ := ht
  have heffect : s₂.db.transactions = s.db.transactions ∨
      ∃ u : Update, s₂.db.transactions = s.db.transactions.update row.id u := by
    have heff := exec_effect hx
    generalize s₂.db.transactions = t at heff ⊢
    cases heff with
    | same => exact .inl rfl
    | fail => exact .inr ⟨_, rfl⟩
  cases r with
  | error e =>
    obtain ⟨rfl, -, rfl⟩ := hrest
    refine ⟨heffect, fun call hc => ?_⟩
    rw [List.mem_singleton.1 hc]
    exact not_nodeFailed nofun nofun
  | ok answer =>
    obtain ⟨marked, copy⟩ := answer
    change Prog.Traces (exec W) (publishEvents _ >>= fun _ => pure _) _ _ _ _ at hrest
    obtain ⟨h₃, u, s₃, h₄, rfl, hpublish, rfl, -, rfl⟩ := Prog.traces_bind.1 hrest
    obtain ⟨hdb, hcalls⟩ := traces_publishEvents hpublish
    rw [hdb, List.append_nil]
    refine ⟨heffect, fun call hc => ?_⟩
    rcases List.mem_cons.1 hc with rfl | hc
    · exact not_nodeFailed nofun nofun
    · exact hcalls call hc

/-- The rows that a search for an accepted row finds. Reference: gorm struct conditions. -/
theorem heldFor_of_find {env : Env} {s₁ : Hub}
    (hx : exec W s (.find { type := some .incoming, state := some .accepted, paymentHash } .none)
      env = some (.ok (some row), s₁)) :
    s₁ = s ∧ row ∈ s.db.transactions.rows ∧
      (row.HeldFor paymentHash ∨ paymentHash = "" ∧ row.HeldFor row.paymentHash) := by
  obtain ⟨hs, ⟨e, he⟩ | hrow⟩ := Hub.read_eq hx
  · cases he
  · obtain ⟨hmem, hm⟩ := Table.mem_select.1 (mem_of_pick (Except.ok.inj hrow).symm)
    obtain ⟨-, htype, hstate, -, hhash⟩ := hm
    have htype : row.type = .incoming := by simpa [eq_comm] using htype
    have hstate : row.state = .accepted := by simpa [eq_comm] using hstate
    refine ⟨hs, hmem, ?_⟩
    rcases hhash with hempty | hhash
    · exact .inr ⟨hempty, htype, hstate, rfl⟩
    · exact .inl ⟨htype, hstate, hhash⟩

/-- The node is asked only where the payment is not the hub's own, and leaves the hub. Reference:
`transactions/transactions_service.go:1330 SettleHoldInvoice`. -/
theorem traces_lnSettleHoldInvoice {selfPayment : Bool} {a : Except Err Unit}
    (ht : (if selfPayment then pure (.ok ()) else ask (.lnSettleHoldInvoice preimage) :
      Svc (Except Err Unit)).Traces (exec W) s h a s') :
    s' = s ∧ (a = .ok () → ∀ call ∈ h, ¬ NodeFailed call) := by
  split at ht
  · obtain ⟨rfl, -, rfl⟩ := ht
    exact ⟨rfl, fun _ call hc => absurd hc List.not_mem_nil⟩
  · obtain ⟨env, r, s₁, h', hx, rfl, rfl, rfl, rfl⟩ := ht
    refine ⟨(Hub.lnClient_eq hx).1, fun hok call hc => ?_⟩
    obtain rfl := List.mem_singleton.1 hc
    rintro ⟨⟩
    cases hok

/-- Reference: `transactions/transactions_service.go:1370 CancelHoldInvoice`. -/
theorem traces_lnCancelHoldInvoice {selfPayment : Bool} {a : Except Err Unit}
    (ht : (if selfPayment then pure (.ok ()) else ask (.lnCancelHoldInvoice paymentHash) :
      Svc (Except Err Unit)).Traces (exec W) s h a s') :
    s' = s ∧ (a = .ok () → ∀ call ∈ h, ¬ NodeFailed call) := by
  split at ht
  · obtain ⟨rfl, -, rfl⟩ := ht
    exact ⟨rfl, fun _ call hc => absurd hc List.not_mem_nil⟩
  · obtain ⟨env, r, s₁, h', hx, rfl, rfl, rfl, rfl⟩ := ht
    refine ⟨(Hub.lnClient_eq hx).1, fun hok call hc => ?_⟩
    obtain rfl := List.mem_singleton.1 hc
    rintro ⟨⟩
    cases hok

/-- What a call does to the table that has found an accepted row: nothing, or it writes this row,
and no node has failed. Reference: none. -/
def WritesHeld (s : Hub) (paymentHash : String) (h : List (Call Cmd Cmd.Ans)) (s' : Hub) : Prop :=
  s'.db.transactions = s.db.transactions ∨
    (∀ call ∈ h, ¬ NodeFailed call) ∧ ∃ row ∈ s.db.transactions.rows,
      (row.HeldFor paymentHash ∨ paymentHash = "" ∧ row.HeldFor row.paymentHash) ∧
      ∃ u : Update, s'.db.transactions = s.db.transactions.update row.id u

/-- Reference: `transactions/transactions_service.go:1354 CancelHoldInvoice`. -/
theorem traces_CancelHoldInvoice {a : Except Err Unit}
    (ht : (CancelHoldInvoice paymentHash).Traces (exec W) s h a s') :
    WritesHeld s paymentHash h s' := by
  rw [CancelHoldInvoice] at ht
  obtain ⟨env, r, s₁, h₁, hx, rfl, hrest⟩ := Prog.traces_call_bind.1 ht
  cases r with
  | error e =>
    obtain ⟨rfl, -, rfl⟩ := hrest
    exact .inl (by rw [(Hub.read_eq hx).1])
  | ok found =>
    cases found with
    | none =>
      obtain ⟨rfl, -, rfl⟩ := hrest
      exact .inl (by rw [(Hub.read_eq hx).1])
    | some row =>
      obtain ⟨rfl, hmem, hheld⟩ := heldFor_of_find hx
      obtain ⟨h₂, acknowledged, s₂, h₃, rfl, hnode, hmark⟩ := Prog.traces_bind.1 hrest
      obtain ⟨rfl, hnofail⟩ := traces_lnCancelHoldInvoice hnode
      cases acknowledged with
      | error e =>
        obtain ⟨rfl, -, rfl⟩ := hmark
        exact .inl rfl
      | ok _ =>
        obtain ⟨h₄, marked, s₃, h₅, rfl, hfail, hpublish⟩ := Prog.traces_bind.1 hmark
        obtain ⟨htable, hcalls⟩ := traces_markPaymentFailed hfail
        have hend : s'.db = s₃.db ∧ ∀ call ∈ h₅, ¬ NodeFailed call := by
          cases marked with
          | error e =>
            obtain ⟨rfl, -, rfl⟩ := hpublish
            exact ⟨rfl, fun call hc => absurd hc List.not_mem_nil⟩
          | ok answer =>
            obtain ⟨marked, copy⟩ := answer
            cases marked with
            | false =>
              obtain ⟨rfl, -, rfl⟩ := hpublish
              exact ⟨rfl, fun call hc => absurd hc List.not_mem_nil⟩
            | true =>
              obtain ⟨env, r, s₄, h₆, hx, rfl, rfl, -, rfl⟩ := Prog.traces_call_bind.1 hpublish
              cases hx
              refine ⟨rfl, fun call hc => ?_⟩
              rw [List.mem_singleton.1 hc]
              exact not_nodeFailed nofun nofun
        rw [WritesHeld, hend.1]
        rcases htable with hsame | hu
        · exact .inl hsame
        · refine .inr ⟨fun call hc => ?_, row, hmem, hheld, hu⟩
          rcases List.mem_cons.1 hc with rfl | hc
          · exact not_nodeFailed nofun nofun
          · rcases List.mem_append.1 hc with hc | hc
            · exact hnofail rfl call hc
            · rcases List.mem_append.1 hc with hc | hc
              · exact hcalls call hc
              · exact hend.2 call hc

/-- Reference: `transactions/transactions_service.go:1306 SettleHoldInvoice`. -/
theorem traces_SettleHoldInvoice {a : Except Err Transaction}
    (ht : (SettleHoldInvoice W preimage).Traces (exec W) s h a s') :
    s'.db.transactions = s.db.transactions ∨ ∃ bytes, hexDecodeString preimage = some bytes ∧
      WritesHeld s (hexEncodeToString (W.sha256 bytes)) h s' := by
  unfold SettleHoldInvoice at ht
  split at ht
  · obtain ⟨-, -, rfl⟩ := ht
    exact .inl rfl
  split at ht
  · obtain ⟨-, -, rfl⟩ := ht
    exact .inl rfl
  · next bytes hbytes =>
    refine .inr ⟨bytes, hbytes, ?_⟩
    obtain ⟨env, r, s₁, h₁, hx, rfl, hrest⟩ := Prog.traces_call_bind.1 ht
    cases r with
    | error e =>
      obtain ⟨rfl, -, rfl⟩ := hrest
      exact .inl (by rw [(Hub.read_eq hx).1])
    | ok found =>
      cases found with
      | none =>
        obtain ⟨rfl, -, rfl⟩ := hrest
        exact .inl (by rw [(Hub.read_eq hx).1])
      | some row =>
        obtain ⟨rfl, hmem, hheld⟩ := heldFor_of_find hx
        obtain ⟨h₂, acknowledged, s₂, h₃, rfl, hnode, hmark⟩ := Prog.traces_bind.1 hrest
        obtain ⟨rfl, hnofail⟩ := traces_lnSettleHoldInvoice hnode
        cases acknowledged with
        | error e =>
          obtain ⟨rfl, -, rfl⟩ := hmark
          exact .inl rfl
        | ok _ =>
          obtain ⟨htable, hcalls⟩ := traces_markTransactionSettled hmark
          rcases htable with hsame | hu
          · exact .inl hsame
          · refine .inr ⟨fun call hc => ?_, row, hmem, hheld, hu⟩
            rcases List.mem_cons.1 hc with rfl | hc
            · exact not_nodeFailed nofun nofun
            · rcases List.mem_append.1 hc with hc | hc
              · exact hnofail rfl call hc
              · exact hcalls call hc

theorem hexEncodeToString_ne {bytes : List UInt8} (hne : bytes ≠ []) :
    hexEncodeToString bytes ≠ "" := by
  intro he
  have hlist := congrArg String.toList he
  rw [hexEncodeToString, String.toList_ofList] at hlist
  cases bytes with
  | nil => exact hne rfl
  | cons b bytes => cases hlist

/-- An accepted row that is found can be cancelled. Reference:
`transactions/transactions_service.go:1354 CancelHoldInvoice`. -/
theorem runs_CancelHoldInvoice (hmem : row ∈ s.db.transactions.rows)
    (hheld : row.HeldFor row.paymentHash)
    (hfind : paymentHash = "" ∨ row.paymentHash = paymentHash) :
    ∃ s', (CancelHoldInvoice paymentHash).Runs (exec W) s (.ok ()) s' ∧
      s'.db.transactions =
        s.db.transactions.update row.id (failUpdate "Hold invoice was cancelled" 0) := by
  obtain ⟨htype, hstate, -⟩ := hheld
  have hfound : row ∈ s.db.transactions.select
      { type := some .incoming, state := some .accepted, paymentHash } :=
    Table.mem_select.2 ⟨hmem, .inl rfl, .inr (congrArg some htype.symm),
      .inr (congrArg some hstate.symm), .inl rfl, hfind⟩
  obtain ⟨n, hpick⟩ := exists_pick hfound
  -- the row is found again by its id
  have hagain : pick 0 (s.db.transactions.select { id := row.id }) = some row := by
    have hrow : row ∈ s.db.transactions.select { id := row.id } :=
      Table.mem_select.2 ⟨hmem, .inr rfl, .inl rfl, .inl rfl, .inl rfl, .inl rfl⟩
    cases hp : pick 0 (s.db.transactions.select { id := row.id }) with
    | none =>
      rw [pick_eq_none.1 hp] at hrow
      cases hrow
    | some row' =>
      obtain ⟨hmem', hid, -⟩ := Table.mem_select.1 (mem_of_pick hp)
      have hpos := s.db.transactions.id_pos row hmem
      have hid : row'.id = row.id := hid.resolve_left fun h0 => Nat.ne_of_gt hpos h0
      rw [Table.eq_of_id hmem' hmem hid]
  let copy := failUpdate "Hold invoice was cancelled" 0 row
  let failed : Hub := ⟨s.db.withTransactions
    (s.db.transactions.update row.id (failUpdate "Hold invoice was cancelled" 0)), s.published⟩
  have hfail : exec W s (.markPaymentFailedTx row "Hold invoice was cancelled") {} =
      some (.ok (true, copy), failed) := by
    simp only [exec, markPaymentFailedTx, hagain, hstate, Hub.transaction, List.append_nil]
    rfl
  have hmark : (markPaymentFailed row "Hold invoice was cancelled").Runs (exec W) s
      (.ok (true, copy)) { failed with published := failed.published ++ [.paymentFailed copy] } :=
    Prog.runs_call_bind.2 ⟨{}, _, _, hfail,
      Prog.runs_bind.2 ⟨(), _, ⟨{}, (), _, rfl, rfl, rfl⟩, rfl, rfl⟩⟩
  refine ⟨{ failed with published :=
    failed.published ++ [.paymentFailed copy] ++ [.holdInvoiceCanceled copy] }, ?_, rfl⟩
  rw [CancelHoldInvoice]
  refine Prog.runs_call_bind.2 ⟨{ pick := n }, .ok (some row), s, ?_, ?_⟩
  · rw [exec, Order.first, hpick]
    rfl
  refine Prog.runs_bind.2 ⟨.ok (), s, ?_, ?_⟩
  · split
    · exact ⟨rfl, rfl⟩
    · exact ⟨{}, .ok (), s, rfl, rfl, rfl⟩
  exact Prog.runs_bind.2 ⟨.ok (true, copy), _, hmark, {}, (), _, rfl, rfl, rfl⟩

/-- Both calls act on the named invoice only exactly where the hash of the cancellation is one, or
finds no accepted row with a hash. Reference: `transactions/transactions_service.go:1354
CancelHoldInvoice`, `:1306 SettleHoldInvoice`. -/
theorem hold_actions_on_named_iff (W : World) (hsha : ∀ bytes, (W.sha256 bytes).length = 32)
    (s : Hub) (paymentHash : String) :
    HoldActionsOnNamed W s paymentHash ↔ (paymentHash ≠ "" ∨ ∀ row ∈ s.db.transactions.rows,
      row.type = .incoming → row.state = .accepted → row.paymentHash = "") := by
  constructor
  · intro hnamed
    rw [Decidable.or_iff_not_imp_left, not_not]
    rintro rfl row hmem htype hstate
    obtain ⟨s', hruns, hfailed⟩ := runs_CancelHoldInvoice (W := W) hmem ⟨htype, hstate, rfl⟩
      (.inl rfl)
    obtain ⟨h, htrace⟩ := hruns.exists_trace
    have hrow : failUpdate "Hold invoice was cancelled" 0 row ∈ s'.db.transactions.rows := by
      rw [hfailed]
      exact Table.mem_update_self hmem
    rcases (hnamed.cancel h _ s' htrace).1 with hsame | ⟨row', hmem', hheld, u, hrows⟩
    · rw [hsame] at hrow
      have heq := Table.eq_of_id hrow hmem rfl
      rw [← heq] at hstate
      cases hstate
    · by_cases hid : row.id = row'.id
      · rw [Table.eq_of_id hmem hmem' hid]
        exact hheld.2.2
      · have hold : row ∈ s'.db.transactions.rows := by
          rw [hrows]
          exact List.mem_map.2 ⟨row, hmem, Table.updateRow_of_ne hid⟩
        have heq := Table.eq_of_id hold hrow rfl
        rw [heq] at hstate
        cases hstate
  · intro hcond
    refine ⟨fun h a s' ht => ?_, fun preimage h a s' ht => ?_⟩
    · rcases traces_CancelHoldInvoice ht with hsame | ⟨hnofail, row, hmem, hheld, u, hu⟩
      · exact ⟨.inl (by rw [hsame]), fun _ => by rw [hsame]⟩
      · refine ⟨.inr ⟨row, hmem, ?_, u, by rw [hu]; rfl⟩, fun ⟨call, hc, hf⟩ =>
          absurd hf (hnofail call hc)⟩
        rcases hheld with hheld | ⟨rfl, hheld⟩
        · exact hheld
        · rcases hcond with hne | hempty
          · exact absurd rfl hne
          · exact ⟨hheld.1, hheld.2.1, hempty row hmem hheld.1 hheld.2.1⟩
    · rcases traces_SettleHoldInvoice ht with hsame | ⟨bytes, hbytes, hsame | ⟨hnofail, hwrite⟩⟩
      · exact ⟨.inl (by rw [hsame]), fun _ => by rw [hsame]⟩
      · exact ⟨.inl (by rw [hsame]), fun _ => by rw [hsame]⟩
      · obtain ⟨row, hmem, hheld, u, hu⟩ := hwrite
        refine ⟨.inr ⟨row, hmem, ⟨bytes, hbytes, ?_⟩, u, by rw [hu]; rfl⟩, fun ⟨call, hc, hf⟩ =>
          absurd hf (hnofail call hc)⟩
        have hne : hexEncodeToString (W.sha256 bytes) ≠ "" := by
          refine hexEncodeToString_ne fun hempty => ?_
          have hlength := hsha bytes
          rw [hempty] at hlength
          cases hlength
        exact hheld.resolve_right fun ⟨hempty, _⟩ => hne hempty

end

/-- A table with a hold invoice that was paid from the own node. Reference:
`transactions/self_hold_payments_test.go`. -/
def heldTable : Table where
  rows := [{
    id := 1, type := .incoming, state := .accepted, amountMsat := 1000000
    paymentRequest := charlieInvoice, paymentHash := wrappedHash, hold := true
    selfPayment := true, settleDeadline := some 144 }]
  nextId := 2
  next_pos := by decide
  id_pos := by decide
  id_lt := by decide
  sorted := by decide

/-- The world of the tests with a digest of 32 bytes for every input. Reference: Go
`crypto/sha256`. -/
def demoHashing : World :=
  { demo with sha256 := fun bytes =>
      if hexEncodeToString bytes = wrappedPreimage then
        (hexDecodeString wrappedHash).getD []
      else List.replicate 32 0 }

theorem hold_actions_on_named_held :
    HoldActionsOnNamed demoHashing ⟨demoDB heldTable, []⟩ wrappedHash ↔
      (wrappedHash ≠ "" ∨ ∀ row ∈ heldTable.rows,
        row.type = .incoming → row.state = .accepted → row.paymentHash = "") := by
  refine hold_actions_on_named_iff demoHashing (fun bytes => ?_) ⟨demoDB heldTable, []⟩ wrappedHash
  by_cases hp : hexEncodeToString bytes = wrappedPreimage
  · have hhash : demoHashing.sha256 bytes = (hexDecodeString wrappedHash).getD [] := if_pos hp
    rw [hhash]
    decide +kernel
  · have hzero : demoHashing.sha256 bytes = List.replicate 32 0 := if_neg hp
    rw [hzero]
    rfl

/-- A cancellation of the empty hash cancels a hold invoice that it does not name. Reference:
`transactions/transactions_service.go:1357 CancelHoldInvoice`. -/
theorem empty_hash_cancels_any :
    ¬ HoldActionsOnNamed demoHashing ⟨demoDB heldTable, []⟩ "" := by
  intro hnamed
  let row : Transaction := {
    id := 1, type := .incoming, state := .accepted, amountMsat := 1000000
    paymentRequest := charlieInvoice, paymentHash := wrappedHash, hold := true
    selfPayment := true, settleDeadline := some 144 }
  have hrow : row ∈ (⟨demoDB heldTable, []⟩ : Hub).db.transactions.rows := List.mem_cons_self
  obtain ⟨s', hruns, hfailed⟩ := runs_CancelHoldInvoice (W := demoHashing) hrow
    ⟨rfl, rfl, rfl⟩ (.inl rfl : "" = "" ∨ row.paymentHash = "")
  obtain ⟨h, htrace⟩ := hruns.exists_trace
  have hstates : s'.db.transactions.rows.map (·.state) = [.failed] := by
    rw [hfailed]
    rfl
  rcases (hnamed.cancel h _ s' htrace).1 with hsame | ⟨row', hmem', ⟨-, -, hhash⟩, -⟩
  · rw [hsame] at hstates
    cases hstates
  · rw [List.mem_singleton.1 hmem'] at hhash
    exact absurd hhash (by decide)

end AlbyHub
