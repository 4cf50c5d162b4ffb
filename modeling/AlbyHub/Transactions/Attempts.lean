import AlbyHub.Transactions.Once
import AlbyHub.Transactions.Runs

/-!
# The life of a row, and the attempts at an invoice

A row is never deleted and keeps what it is about; its state only moves forward, and as long as the
state is the same nothing but the metadata is written (`rows_move_forward`). A payment of an invoice
may be tried again after it failed, and then has several rows. The lookups for them ignore their
errors; as long as they do not fail, at most one of the rows is pending at any time, and once one is
settled no further one is inserted (`invoice_attempts`).
-/

namespace AlbyHub

open Go Interaction

/-- How far the row has come: it may be accepted before it fails, and settled after it failed.
Reference: `constants/constants.go:9 TRANSACTION_STATE_PENDING`. -/
def TransactionState.rank : TransactionState → Nat
  | .pending => 0
  | .accepted => 1
  | .failed => 2
  | .settled => 3

/-- What a row may have become later. Reference: the statements of
`transactions/transactions_service.go` that write to `transactions`. -/
structure Transaction.Became (r r' : Transaction) : Prop where
  identity : r'.identity = r.identity
  forward : r.state.rank ≤ r'.state.rank
  same : r'.state = r.state → r' = { r with metadata := r'.metadata }
  accepted : r'.state = .accepted → r.state ≠ .accepted → r.type = .incoming

section
variable {t t' : Table} {r r' r'' : Transaction}

theorem TransactionState.rank_injective {a b : TransactionState} (h : a.rank = b.rank) : a = b := by
  cases a <;> cases b <;> simp_all [rank]

theorem Transaction.Became.refl (r : Transaction) : r.Became r where
  identity := rfl
  forward := Nat.le_refl _
  same _ := rfl
  accepted hs hn := absurd hs hn

theorem Transaction.Became.trans (h : r.Became r') (h' : r'.Became r'') : r.Became r'' where
  identity := h'.identity.trans h.identity
  forward := h.forward.trans h'.forward
  same hs := by
    -- the state did not move in between either
    have hmid : r'.state = r.state := by
      refine TransactionState.rank_injective (Nat.le_antisymm ?_ h.forward)
      rw [← hs]
      exact h'.forward
    have heq := h'.same (hs.trans hmid.symm)
    rw [h.same hmid] at heq
    exact heq
  accepted hs hn := by
    by_cases hmid : r'.state = .accepted
    · exact h.accepted hmid hn
    · have hty := h'.accepted hs hmid
      rwa [show r'.type = r.type from congrArg Identity.type h.identity] at hty

/-- A step of a row's life moves it forward. Reference: none. -/
theorem Transaction.Step.became (h : r.Step r') : r.Became r' := by
  cases h with
  | annotate => exact ⟨rfl, Nat.le_refl _, fun _ => rfl, fun hs hn => absurd hs hn⟩
  | settle hst =>
    refine ⟨rfl, ?_, fun hs => absurd hs.symm hst, fun hs => TransactionState.noConfusion hs⟩
    show r.state.rank ≤ 3
    cases r.state <;> simp [TransactionState.rank]
  | fail hst =>
    refine ⟨rfl, ?_, fun hs => ?_, fun hs => TransactionState.noConfusion hs⟩
    · rcases hst with hst | hst <;> simp [failUpdate, TransactionState.rank, hst]
    · rcases hst with hst | hst <;> rw [hst] at hs <;> cases hs
  | accept hty hst =>
    refine ⟨rfl, ?_, fun hs => ?_, fun _ _ => hty⟩
    · simp [acceptUpdate, TransactionState.rank, hst]
    · rw [hst] at hs
      cases hs

end

section
variable {W : World} {allowed : Pool → PoolLabel → Prop} {cfg cfg' : Pool}

/-- In a run from any table all calls work on copies of rows. Reference: none. -/
theorem Reachable.ledger (h : Reachable W (Fresh fun _ => True) allowed cfg) :
    cfg.Ledger fun _ => True := by
  have h0 : ∀ cfg, Fresh (fun _ => True) cfg → cfg.Ledger fun _ => True := fun _ =>
    Pool.ledger_of_fresh fun _ h => h
  exact h.sound (sound_of_ledger W (fun _ => True) fun _ h => h) h0

/-- A reflexive and transitive relation that every step of the ledger satisfies holds between the
ends of a run. Reference: none. -/
theorem Reachable.relates {R : Table → Table → Prop} (hrefl : ∀ t, R t t)
    (htrans : ∀ t t' t'', R t t' → R t' t'' → R t t'') (hstep : ∀ t t', t.Step t' → R t t')
    (hd : cfg.Ledger fun _ => True) (h : Reachable W (· = cfg) allowed cfg') :
    R cfg.state.db.transactions cfg'.state.db.transactions := by
  have hboth : (cfg'.Ledger fun _ => True) ∧
      R cfg.state.db.transactions cfg'.state.db.transactions := by
    induction h with
    | start h₀ =>
      subst h₀
      exact ⟨hd, hrefl _⟩
    | step _ ha hs ih =>
      obtain ⟨hd₁, hr⟩ := ih
      refine ⟨hd₁.step (sound_of_ledger W (fun _ => True) fun _ h => h) ha hs, ?_⟩
      exact htrans _ _ _ hr (hstep _ _ (Pool.ledger_step hd₁ hs))
  exact hboth.2

/-- Every row of the earlier table is in the later one, as it became. Reference: none. -/
def Table.MovesForward (t t' : Table) : Prop := ∀ r ∈ t.rows, ∃ r' ∈ t'.rows, r.Became r'

/-- From any reachable state on, whatever calls run in whatever order, no row is lost or moves back.
Reference: `transactions/transactions_service.go:1467 markTransactionSettled`, `:1704
markPaymentFailed`, `:993 markHoldInvoiceAccepted`. -/
theorem rows_move_forward (W : World) {cfg cfg' : Pool}
    (h : Reachable W (Fresh fun _ => True) anyStep cfg)
    (h' : Reachable W (· = cfg) anyStep cfg') :
    cfg.state.db.transactions.MovesForward cfg'.state.db.transactions := by
  refine Reachable.relates (R := Table.MovesForward) (fun t r hr => ⟨r, hr, .refl r⟩) ?_ ?_
    h.ledger h'
  · intro t t' t'' h h' r hr
    obtain ⟨r₁, hr₁, hb₁⟩ := h r hr
    obtain ⟨r₂, hr₂, hb₂⟩ := h' r₁ hr₁
    exact ⟨r₂, hr₂, hb₁.trans hb₂⟩
  · intro t t' hs r hr
    obtain ⟨r', hr', hstep⟩ := hs.row hr
    exact ⟨r', hr', hstep.became⟩

end

/-- A row of a payment of an invoice: a keysend has none. Reference:
`transactions/transactions_service.go:397 SendPaymentSync`, `:512 SendKeysend`. -/
def Transaction.PaysInvoice (r : Transaction) : Prop := r.type = .outgoing ∧ r.paymentRequest ≠ ""

/-- At most one attempt at an invoice is pending. Reference:
`transactions/transactions_service.go:370 SendPaymentSync`. -/
def Table.PendingOnce (t : Table) : Prop :=
  ∀ r ∈ t.rows, ∀ r' ∈ t.rows, r.PaysInvoice → r.state = .pending → r'.state = .pending →
    r.payment = r'.payment → r = r'

/-- The later rows of an invoice that was paid are the earlier ones. Reference:
`transactions/transactions_service.go:362 SendPaymentSync`. -/
def Table.PaidClosed (t t' : Table) : Prop :=
  ∀ r ∈ t.rows, r.PaysInvoice → r.state = .settled →
    ∀ r' ∈ t'.rows, r'.payment = r.payment → ∃ r₀ ∈ t.rows, r₀.identity = r'.identity

/-- The lookups for other payments of the invoice do not fail. Reference:
`transactions/transactions_service.go:362`, `:374 SendPaymentSync`. -/
def lookupsWork (env : Env) : Cmd → Prop
  | .sendPaymentTx _ => env.settledLookupFails = false ∧ env.pendingLookupFails = false
  | _ => True

instance (env : Env) (c : Cmd) : Decidable (lookupsWork env c) := by
  induction c using Cmd.casesOn with
  | sendPaymentTx => exact inferInstanceAs (Decidable (_ ∧ _))
  | _ => exact isTrue trivial

/-- No lookup for other payments of an invoice fails. Reference:
`transactions/transactions_service.go:362`, `:374 SendPaymentSync`. -/
def lookupSteps : Policy where
  call _ _ _ c env := lookupsWork env c

instance (op : Op) (h : History) (s : Hub) (c : Cmd) (env : Env) :
    Decidable (lookupSteps.call op h s c env) := inferInstanceAs (Decidable (lookupsWork env c))

instance (cfg : Pool) (op : Op) : Decidable (lookupSteps.spawn cfg op) := isTrue trivial

instance (cfg : Pool) : Decidable (lookupSteps.restart cfg) := isTrue trivial

section
variable {W : World} {env : Env} {s s' : Hub} {h : History} {t t' : Table} {r r' : Transaction}
variable {cfg cfg' : Pool}

theorem Transaction.PaysInvoice.congr (hp : r'.payment = r.payment) (h : r.PaysInvoice) :
    r'.PaysInvoice := by
  simp only [Transaction.payment, Prod.mk.injEq] at hp
  exact ⟨hp.1.trans h.1, fun he => h.2 (hp.2.2.symm.trans he)⟩

/-- Where a row of an invoice comes from: it made a step of its life, or it is new, and then the
invoice was not paid, and had no pending attempt if the new one is pending. Reference:
`transactions/transactions_service.go:360 SendPaymentSync`, `:1535
createSettledTransactionFromNotification`. -/
theorem exec_attempt {c : Cmd} {a : c.Ans} (hk : ∀ call ∈ h, KnownRows call s)
    (hc : SourcedBy h c) (hl : lookupsWork env c) (hx : exec W s c env = some (a, s'))
    (hr' : r' ∈ s'.db.transactions.rows) (hp : r'.PaysInvoice) :
    (∃ r ∈ s.db.transactions.rows, r.Step r') ∨
      r'.id = s.db.transactions.nextId ∧ ∀ r ∈ s.db.transactions.rows, r.payment = r'.payment →
        r.state ≠ .settled ∧ (r'.state = .pending → r.state ≠ .pending) := by
  by_cases hold : ∃ r ∈ s.db.transactions.rows, r.id = r'.id
  · obtain ⟨r, hr, hid⟩ := hold
    obtain ⟨r'', hr'', hstep⟩ := (exec_sourced hk hc hx).1.row hr
    rw [Table.eq_of_id hr' hr'' (hid.symm.trans hstep.id.symm)]
    exact .inl ⟨r, hr, hstep⟩
  · have of_update : ∀ {id : Nat} {u : Update},
        r' ∉ (s.db.transactions.update id u).rows := by
      intro id u hmem
      obtain ⟨r, hr, rfl⟩ := Table.mem_update.1 hmem
      exact hold ⟨r, hr, by simp⟩
    have of_create : ∀ {now : Time} {row : Transaction},
        r' ∈ (s.db.transactions.create now row).rows → r' = s.db.transactions.created now row :=
      fun hmem => (Table.mem_create.1 hmem).resolve_left fun hr => hold ⟨r', hr, rfl⟩
    refine .inr ?_
    generalize s'.db.transactions = t', exec_effect hx = he at hr'
    cases he with
    | same => exact absurd ⟨r', hr', rfl⟩ hold
    | create =>
      have hty := hp.1
      rw [of_create hr', show (s.db.transactions.created _ _).type = .incoming from hc.2] at hty
      cases hty
    | sendPayment _ hfree =>
      rw [of_create hr']
      exact ⟨rfl, fun r hr hpay =>
        ⟨(hfree r hr hpay.symm).1 hl.1, fun _ => (hfree r hr hpay.symm).2 hl.2⟩⟩
    | sendKeysend =>
      obtain ⟨k, rfl⟩ := hc
      have hreq := hp.2
      rw [of_create hr'] at hreq
      exact absurd rfl hreq
    | createSettled hn =>
      rw [of_create hr']
      refine ⟨rfl, fun r hr hpay => ⟨fun hs => ?_, fun hst => TransactionState.noConfusion hst⟩⟩
      exact Table.select_settledFilter_ne_nil hr hs hpay hn
    | settle | fail | accept | updateMetadata => exact absurd hr' of_update

/-- A row that is pending after a step of its life was so before. Reference: none. -/
theorem Transaction.Step.was_pending (hs : r.Step r') (h : r'.state = .pending) :
    r.state = .pending := by
  have hle := hs.became.forward
  rw [h] at hle
  exact TransactionState.rank_injective (Nat.le_zero.1 hle)

/-- A command keeps at most one attempt at each invoice pending. Reference: none. -/
theorem Table.PendingOnce.exec {c : Cmd} {a : c.Ans} (hone : s.db.transactions.PendingOnce)
    (hk : ∀ call ∈ h, KnownRows call s) (hc : SourcedBy h c) (hl : lookupsWork env c)
    (hx : AlbyHub.exec W s c env = some (a, s')) : s'.db.transactions.PendingOnce := by
  intro r₁ hr₁ r₂ hr₂ hp hs₁ hs₂ hpay
  refine Table.eq_of_id hr₁ hr₂ ?_
  rcases exec_attempt hk hc hl hx hr₁ hp with ⟨r, hr, hstep⟩ | ⟨hid, hfree⟩ <;>
    rcases exec_attempt hk hc hl hx hr₂ (hp.congr hpay.symm) with
      ⟨r', hr', hstep'⟩ | ⟨hid', hfree'⟩
  · have hpr := Transaction.payment_of_identity hstep.identity
    have hpr' := Transaction.payment_of_identity hstep'.identity
    have heq := hone r hr r' hr' (hp.congr hpr.symm) (hstep.was_pending hs₁)
      (hstep'.was_pending hs₂) (hpr.symm.trans (hpay.trans hpr'))
    rw [hstep.id, hstep'.id, heq]
  · have hpr := Transaction.payment_of_identity hstep.identity
    exact absurd (hstep.was_pending hs₁) ((hfree' r hr (hpr.symm.trans hpay)).2 hs₂)
  · have hpr' := Transaction.payment_of_identity hstep'.identity
    exact absurd (hstep'.was_pending hs₂) ((hfree r' hr' (hpr'.symm.trans hpay.symm)).2 hs₁)
  · rw [hid, hid']

/-- A command inserts no row for an invoice that was paid. Reference: none. -/
theorem Table.paidClosed_exec {c : Cmd} {a : c.Ans} (hk : ∀ call ∈ h, KnownRows call s)
    (hc : SourcedBy h c) (hl : lookupsWork env c) (hx : AlbyHub.exec W s c env = some (a, s')) :
    s.db.transactions.PaidClosed s'.db.transactions := by
  intro r hr hp hs r' hr' hpay
  rcases exec_attempt hk hc hl hx hr' (hp.congr hpay) with ⟨r₀, hr₀, hstep⟩ | ⟨-, hfree⟩
  · exact ⟨r₀, hr₀, hstep.identity.symm⟩
  · exact absurd hs (hfree r hr hpay.symm).1

/-- A step of the hub inserts no row for an invoice that was paid. Reference: none. -/
theorem Pool.paidClosed_step {inv : Table → Prop} {l : PoolLabel} (hd : cfg.Ledger inv)
    (ha : lookupSteps.allowed cfg l) (hs : cfg.step (exec W) (body W) l = some cfg') :
    cfg.state.db.transactions.PaidClosed cfg'.state.db.transactions := by
  cases l with
  | spawn | restart => cases hs; exact fun r _ _ _ r' hr' _ => ⟨r', hr', rfl⟩
  | run i e =>
    obtain ⟨op, h, c, k, a, s, hi, hx, rfl⟩ := Config.step_run hs
    exact Table.paidClosed_exec (hd.known _ (List.mem_of_getElem? hi)) (hd.issues hi)
      (ha op h c k hi) hx

/-- Over a run no row is inserted for an invoice that was paid. Reference:
`transactions/transactions_service.go:362 SendPaymentSync`. -/
theorem Reachable.paidClosed (hd : cfg.Ledger fun _ => True)
    (h : Reachable W (· = cfg) lookupSteps.allowed cfg') :
    cfg.state.db.transactions.PaidClosed cfg'.state.db.transactions := by
  have hall : (cfg'.Ledger fun _ => True) ∧
      SettledKept cfg.state.db.transactions cfg'.state.db.transactions ∧
      cfg.state.db.transactions.PaidClosed cfg'.state.db.transactions := by
    induction h with
    | start h₀ =>
      subst h₀
      exact ⟨hd, fun r hr _ => ⟨r.metadata, hr⟩, fun r _ _ _ r' hr' _ => ⟨r', hr', rfl⟩⟩
    | @step cfg₁ cfg₂ l hreach ha hs ih =>
      obtain ⟨hd₁, hkept, hclosed⟩ := ih
      refine ⟨hd₁.step (sound_of_ledger W (fun _ => True) fun _ h => h) ha hs,
        Reachable.settledKept hd (.step hreach ha hs), fun r hr hp hs' r'' hr'' hpay => ?_⟩
      -- the settled row is still there when the step is taken
      obtain ⟨m, hm⟩ := hkept r hr hs'
      obtain ⟨r', hr', hid'⟩ := Pool.paidClosed_step hd₁ ha hs _ hm hp hs' r'' hr'' hpay
      obtain ⟨r₀, hr₀, hid⟩ :=
        hclosed r hr hp hs' r' hr' ((Transaction.payment_of_identity hid').trans hpay)
      exact ⟨r₀, hr₀, hid.trans hid'⟩
  exact hall.2.2

/-- At most one attempt at an invoice is pending here; and whatever happens from here on, an invoice
that is paid is not attempted again. Reference: `transactions/transactions_service.go:360
SendPaymentSync`. -/
def Pool.AttemptsOnce (W : World) (cfg : Pool) : Prop :=
  cfg.state.db.transactions.PendingOnce ∧
    ∀ cfg', Reachable W (· = cfg) lookupSteps.allowed cfg' →
      cfg.state.db.transactions.PaidClosed cfg'.state.db.transactions

/-- Where no lookup for them fails, every reachable state has at most one pending attempt at an
invoice and attempts no invoice that is paid. Reference:
`transactions/transactions_service.go:360 SendPaymentSync`, `:1535
createSettledTransactionFromNotification`. -/
theorem invoice_attempts (W : World) {cfg : Pool}
    (h : Reachable W (Fresh fun db => db.transactions.PendingOnce) lookupSteps.allowed cfg) :
    cfg.AttemptsOnce W := by
  have hsound : Sound (exec W) (body W) lookupSteps.allowed (fun _ => SourcedBy)
      (fun _ => anyResult) lookupSteps.call (fun s => s.db.transactions.PendingOnce)
      (fun _ => KnownRows) :=
    { body := body_sourced W
      obeys := fun _ _ _ op h c k ha hi => ha op h c k hi
      step := fun _ _ _ _ _ _ _ hi hk hc hl hx =>
        have hstep := exec_sourced hk hc hx
        ⟨hi.exec hk hc hl hx, hstep.2.1, fun _ => hstep.2.2⟩ }
  have hd : cfg.Ledger Table.PendingOnce :=
    h.sound hsound fun _ => Pool.ledger_of_fresh fun _ h => h
  exact ⟨hd.inv, fun cfg' h' => h'.paidClosed ⟨trivial, hd.follows, hd.obeys, hd.known⟩⟩

instance (r : Transaction) : Decidable r.PaysInvoice := inferInstanceAs (Decidable (_ ∧ _))

instance (t : Table) : Decidable t.PendingOnce :=
  inferInstanceAs (Decidable (∀ r ∈ t.rows, ∀ r' ∈ t.rows, _ → _ → _ → _ → _))

end

/-- An invoice whose first payment failed, and whose second one is pending. Reference:
`transactions/payments_test.go`. -/
def retriedTable : Table :=
  let row : Transaction :=
    { type := .outgoing, state := .failed, paymentRequest := mockInvoice, paymentHash := mockHash }
  (Table.empty.create demoNow row).create demoNow { row with state := .pending }

theorem rows_move_forward_keysend :
    ((demoPool retriedTable).after demo (demoKeysendRun 0)).state.db.transactions.rows.map
      (·.state) = [.failed, .pending, .settled, .settled] ∧
    retriedTable.MovesForward
      ((demoPool retriedTable).after demo (demoKeysendRun 0)).state.db.transactions := by
  have hinit : Reachable demo (Fresh fun _ => True) anyStep (demoPool retriedTable) :=
    .start ⟨trivial, rfl, rfl⟩
  have hrun : Reachable demo (· = demoPool retriedTable) anyStep
      ((demoPool retriedTable).after demo (demoKeysendRun 0)) :=
    .of_after (.start rfl) Config.allows_any (by decide +kernel)
  exact ⟨by decide +kernel, rows_move_forward demo hinit hrun⟩

theorem invoice_attempts_retried :
    (∃ r ∈ retriedTable.rows, r.PaysInvoice ∧ r.state = .pending) ∧
    ((demoPool retriedTable).after demo (demoKeysendRun 0)).AttemptsOnce demo :=
  ⟨by decide +kernel, invoice_attempts demo
    (.of_after (.start ⟨by decide +kernel, rfl, rfl⟩) (by decide +kernel) (by decide +kernel))⟩

end AlbyHub
