import AlbyHub.Transactions.Sourced
import AlbyHub.Transactions.Runs

/-!
# One settlement for each payment, and it is final

Over every run of the hub, with any calls in any order: at most one row of each payment is settled,
and a settled row keeps its state, amounts, preimage, instant and app. Both hold of every step of
the ledger (`Table.Step.settledOnce`, `Table.Step.settled`).
-/

namespace AlbyHub

open Interaction

section
variable {W : World} {init : Pool → Prop} {allowed : Pool → PoolLabel → Prop} {cfg cfg' : Pool}

/-- The configurations whose calls all work on copies of rows. Reference: none. -/
abbrev Pool.Ledger (inv : Table → Prop) (cfg : Pool) : Prop :=
  cfg.Disciplined (fun _ => SourcedBy) (fun _ => anyResult) (fun s => inv s.db.transactions)
    (fun _ => KnownRows)

theorem Pool.ledger_of_fresh {P : DB → Prop} {inv : Table → Prop}
    (hP : ∀ db, P db → inv db.transactions) (h : Fresh P cfg) : cfg.Ledger inv where
  inv := hP _ h.1
  follows := by simp [h.2.2]
  obeys := by simp [h.2.2]
  known := by simp [h.2.2]

/-- A step of the hub is a step of the ledger. Reference: none. -/
theorem Pool.ledger_step {inv : Table → Prop} {l : PoolLabel} (hd : cfg.Ledger inv)
    (hs : cfg.step (exec W) (body W) l = some cfg') :
    cfg.state.db.transactions.Step cfg'.state.db.transactions := by
  cases l with
  | spawn | restart => cases hs; exact .same
  | run i e =>
    obtain ⟨op, h, c, k, r, s, hi, hx, rfl⟩ := Config.step_run hs
    exact (exec_sourced (hd.known _ (List.mem_of_getElem? hi)) (hd.issues hi) hx).1

/-- The settled rows that a later configuration has too, but for their metadata. Reference: none. -/
def SettledKept (t t' : Table) : Prop :=
  ∀ r ∈ t.rows, r.state = .settled → ∃ m, { r with metadata := m } ∈ t'.rows

/-- Settled rows are kept over a run. Reference: none. -/
theorem Reachable.settledKept (hd : cfg.Ledger fun _ => True)
    (h : Reachable W (· = cfg) allowed cfg') :
    SettledKept cfg.state.db.transactions cfg'.state.db.transactions := by
  have hboth : (cfg'.Ledger fun _ => True) ∧
      SettledKept cfg.state.db.transactions cfg'.state.db.transactions := by
    induction h with
    | start h₀ =>
      subst h₀
      exact ⟨hd, fun r hr _ => ⟨r.metadata, hr⟩⟩
    | step _ ha hs ih =>
      obtain ⟨hd₁, hk⟩ := ih
      refine ⟨hd₁.step (sound_of_ledger W (fun _ => True) fun _ h => h) ha hs, ?_⟩
      intro r hr hsettled
      obtain ⟨m, hm⟩ := hk r hr hsettled
      obtain ⟨m', hm'⟩ := (Pool.ledger_step hd₁ hs).settled hm hsettled
      exact ⟨m', hm'⟩
  exact hboth.2

/-- At most one row of each payment is settled here, and whatever happens from here on, a settled
row keeps its state, amount, fee, preimage, instant and app. Reference:
`transactions/transactions_service.go:1594 findSettledTransaction`, `:1704 markPaymentFailed`. -/
def Pool.SettledOnceForGood (W : World) (cfg : Pool) : Prop :=
  (∀ r ∈ cfg.state.db.transactions.rows, ∀ r' ∈ cfg.state.db.transactions.rows,
    r.state = .settled → r'.state = .settled → r.type = r'.type →
    r.paymentHash = r'.paymentHash → r.paymentRequest = r'.paymentRequest → r = r') ∧
  ∀ cfg', Reachable W (· = cfg) anyStep cfg' →
    ∀ r ∈ cfg.state.db.transactions.rows, r.state = .settled →
      ∃ r' ∈ cfg'.state.db.transactions.rows, r'.id = r.id ∧ r'.state = .settled ∧
        r'.amountMsat = r.amountMsat ∧ r'.feeMsat = r.feeMsat ∧ r'.preimage = r.preimage ∧
        r'.settledAt = r.settledAt ∧ r'.appId = r.appId

/-- One settlement for each payment, and it is final, in every reachable state. Reference:
`transactions/transactions_service.go:1467 markTransactionSettled`,
`:1521 createSettledTransactionFromNotification`, `:1704 markPaymentFailed`. -/
theorem settled_once_for_good (W : World) {cfg : Pool}
    (h : Reachable W (Fresh fun db => db.transactions.SettledOnce) anyStep cfg) :
    cfg.SettledOnceForGood W := by
  have hd : cfg.Ledger Table.SettledOnce :=
    h.sound (sound_of_ledger W _ Table.Step.settledOnce) fun _ => Pool.ledger_of_fresh fun _ h => h
  refine ⟨fun r hr r' hr' hs hs' ht hh hq => hd.inv r hr r' hr' hs hs' ?_, fun cfg' h' r hr hs =>
    ?_⟩
  · rw [Transaction.payment, Transaction.payment, ht, hh, hq]
  · have hd' : cfg.Ledger fun _ => True := ⟨trivial, hd.follows, hd.obeys, hd.known⟩
    obtain ⟨m, hm⟩ := h'.settledKept hd' r hr hs
    exact ⟨_, hm, rfl, hs, rfl, rfl, rfl, rfl, rfl⟩

end

theorem settled_once_for_good_keysend :
    ((demoPool .empty).after demo (demoKeysendRun 0)).state.db.transactions.rows.map (·.state) =
      [.settled, .settled] ∧
    ((demoPool .empty).after demo (demoKeysendRun 0)).SettledOnceForGood demo :=
  ⟨by decide +kernel, settled_once_for_good demo
    (.of_after (.start ⟨by simp [Table.SettledOnce, demoPool, demoDB, Table.empty], rfl, rfl⟩)
      Config.allows_any (by decide +kernel))⟩

end AlbyHub
