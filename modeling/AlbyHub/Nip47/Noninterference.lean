import AlbyHub.Interaction.Solo
import AlbyHub.Nip47.Controllers
import AlbyHub.Transactions.Effects
import AlbyHub.Transactions.Runs

/-!
# What an isolated app can read

The answers to the reading requests of an isolated app are compared in two hubs that agree on the
app and its rows. The environment of a command is the same in both runs, and so is the moment at
which the app is deleted: before the first command that `gone` marks. Two things of other apps can
show. The flag of a deleted app reads as false, and its query is not filtered. And where the hub
polls, a settled row of another app with the same payment keeps the app's row from being settled.
Without these the answers are the same (`noninterference_iff`).
-/

namespace AlbyHub

open Go Interaction

/-- The deletion of an app: its permissions go with it, its transactions stay. Reference:
`apps/apps_service.go:183 DeleteApp`, `db/migrations/202401191539_initial_migration.sql.tmpl`. -/
def DB.deleteApp (db : DB) (id : Nat) : DB where
  transactions := db.transactions
  apps := db.apps.filter (·.id ≠ id)
  permissions := db.permissions.filter (·.appId ≠ id)
  apps_nodup := (db.apps_nodup.sublist (List.filter_sublist.map _))

/-- Reference: `apps/apps_service.go:183 DeleteApp`. -/
def Hub.deleteApp (s : Hub) (id : Nat) : Hub := { s with db := s.db.deleteApp id }

/-- The app is deleted before the commands that `gone` marks. Reference: none. -/
def deletion (id : Nat) (gone : Cmd → Bool) (c : Cmd) (s : Hub) : Hub :=
  if gone c then s.deleteApp id else s

/-- The requests of NIP-47 that read. Reference: `nip47/controllers`, the `Handle` methods of
`lookup_invoice`, `list_transactions` and `get_balance`. -/
inductive ReadRequest where
  | lookupInvoice (invoice paymentHash : String)
  | listTransactions (params : ListTransactionsParams)
  | getBalance

/-- What a handler makes its response of. Reference: `nip47/controllers`, the calls of
`publishResponse`. -/
inductive ReadAnswer where
  | badRequest (message : String)
  | transaction (r : Except Err Transaction)
  | transactions (r : Except Err (List Transaction × Nat))
  | balance (r : Except Err Int)

/-- Reference: `nip47/controllers/get_balance_controller.go:24 HandleGetBalanceEvent`. -/
def HandleGetBalanceEvent (app : App) : Svc ReadAnswer :=
  if app.isolated then do
    let r ← ask (.isolatedBalance app.id)
    return .balance r
  else do
    let r ← ask .lnGetBalances
    return .balance r

/-- Reference: `nip47/controllers/lookup_invoice_controller.go:25 HandleLookupInvoiceEvent`. -/
def HandleLookupInvoiceEvent (W : World) (invoice paymentHash : String) (appId : Nat) :
    Svc ReadAnswer :=
  let hash := if paymentHash ≠ "" then .ok paymentHash
    else (W.decodepay (toLower W.lowerNonAscii invoice)).map (·.paymentHash)
  match hash with
  | .error e => return .badRequest ("Failed to decode bolt11 invoice: " ++ e)
  | .ok paymentHash => do
    let r ← LookupTransaction W paymentHash none (some appId)
    return .transaction r

/-- Reference: `nip47/controllers/list_transactions_controller.go:29
HandleListTransactionsEvent`. -/
def HandleListTransactionsEvent (W : World) (params : ListTransactionsParams) (appId : Nat) :
    Svc ReadAnswer := do
  let r ← ListTransactions W params.query (some appId) false
  return .transactions r

/-- `app` is the row that `HandleEvent` has loaded. Reference: `nip47/event_handler.go:364
HandleEvent`. -/
def ReadRequest.handle (W : World) (app : App) : ReadRequest → Svc ReadAnswer
  | .lookupInvoice invoice paymentHash => HandleLookupInvoiceEvent W invoice paymentHash app.id
  | .listTransactions params => HandleListTransactionsEvent W params app.id
  | .getBalance => HandleGetBalanceEvent app

/-- The answer to the request of the app. Reference: none. -/
def ReadRequest.answer (W : World) (app : App) (env : Cmd → Env) (gone : Cmd → Bool)
    (request : ReadRequest) (s : Hub) : Option ReadAnswer :=
  ((request.handle W app).play (exec W) (deletion app.id gone) env s).map (·.1)

/-- The rows of an app. Reference: none. -/
def Table.of (t : Table) (appId : Nat) : List Transaction := t.rows.filter (·.appId = some appId)

/-- The two databases agree on the app, its permissions and its transactions. Reference: none. -/
structure DB.Agree (app : App) (db db' : DB) : Prop where
  left : app ∈ db.apps
  right : app ∈ db'.apps
  permissions : db.permissions.filter (·.appId = app.id) = db'.permissions.filter (·.appId = app.id)
  transactions : db.transactions.of app.id = db'.transactions.of app.id

/-- No request of the app is answered by what is not the app's. Reference: none. -/
def Noninterfering (W : World) (app : App) (gone : Cmd → Bool) : Prop :=
  ∀ (request : ReadRequest) (env : Cmd → Env) (s s' : Hub), s.db.Agree app s'.db →
    request.answer W app env gone s = request.answer W app env gone s'

section
variable {W : World} {app : App} {env : Cmd → Env} {gone : Cmd → Bool} {s s' : Hub} {t t' : Table}
variable {q : ListQuery} {id : Nat} {c : Cmd}

@[simp] theorem deletion_transactions :
    (deletion id gone c s).db.transactions = s.db.transactions := by
  unfold deletion
  split <;> rfl

theorem deletion_of_not_gone (h : gone c = false) : deletion id gone c s = s :=
  if_neg (by simp [h])

/-- The isolation flag of a deleted app. Reference: `transactions/transactions_service.go:606
LookupTransaction`. -/
theorem any_deleteApp : (s.deleteApp app.id).db.apps.any (fun a => a.id = app.id && a.isolated) =
    false := by
  rw [List.any_eq_false]
  intro a ha
  have hne := (List.mem_filter.1 ha).2
  simp only [ne_eq, decide_eq_true_eq] at hne
  simp [hne]

/-- The isolation flag of an isolated app. Reference: `transactions/transactions_service.go:606
LookupTransaction`. -/
theorem any_isolated (happ : app ∈ s.db.apps) (hiso : app.isolated = true) :
    s.db.apps.any (fun a => a.id = app.id && a.isolated) = true :=
  List.any_eq_true.2 ⟨app, happ, by simp [hiso]⟩

/-- A lookup for an app reads its rows only. Reference: `transactions/transactions_service.go:619
LookupTransaction`. -/
theorem lookupRows_congr {paymentHash : String} {type : Option TransactionType}
    (h : t.of id = t'.of id) :
    lookupRows W t paymentHash type (some id) = lookupRows W t' paymentHash type (some id) := by
  have own : ∀ t : Table, (t.select { type, paymentHash }).filter
      (fun r => (some id : Option Nat) = none ∨ r.appId = some id) =
      (t.of id).filter ((Where.Matches { type, paymentHash } ·)) := by
    intro t
    simp only [Table.select, Table.of, List.filter_filter, reduceCtorEq, false_or]
    exact List.filter_congr fun r _ => Bool.and_comm _ _
  unfold lookupRows
  rw [own t, own t', h]

/-- A listing for an app reads its rows only. Reference: `transactions/transactions_service.go:672
ListTransactions`. -/
theorem rows_congr (hq : q.appId = some id) (h : t.of id = t'.of id) :
    q.rows W t = q.rows W t' := by
  have own : ∀ t : Table, q.rows W t = (t.of id).filter (q.Lists W ·) := by
    intro t
    rw [Table.of, List.filter_filter]
    refine List.filter_congr fun r _ => ?_
    by_cases hl : q.Lists W r
    · have happ : r.appId = some id := hl.1 id hq
      simp [hl, happ]
    · simp [hl]
  rw [own t, own t', h]

/-- The balance of an app is one of its rows. Reference: `db/queries/get_isolated_balance.go:8
GetIsolatedBalanceMsat`. -/
theorem balance_congr (h : t.of id = t'.of id) :
    GetIsolatedBalanceMsat t id = GetIsolatedBalanceMsat t' id := by
  have received : ∀ t : Table,
      t.rows.filter (·.ReceivedBy id) = (t.of id).filter (·.ReceivedBy id) := by
    intro t
    rw [Table.of, List.filter_filter]
    refine List.filter_congr fun r _ => ?_
    by_cases hr : r.ReceivedBy id
    · simp [hr, hr.1]
    · simp [hr]
  have spent : ∀ t : Table, t.rows.filter (·.SpentBy id) = (t.of id).filter (·.SpentBy id) := by
    intro t
    rw [Table.of, List.filter_filter]
    refine List.filter_congr fun r _ => ?_
    by_cases hr : r.SpentBy id
    · simp [hr, hr.1]
    · simp [hr]
  unfold GetIsolatedBalanceMsat Table.received Table.spent
  rw [received t, received t', spent t, spent t', h]

/-- The flag is read from the app's row, if it is still there. Reference:
`transactions/transactions_service.go:605 LookupTransaction`. -/
theorem play_isolatedAppId (W : World) (env : Cmd → Env) (s : Hub) (happ : app ∈ s.db.apps)
    (hiso : app.isolated = true)
    (hflag : gone (.isIsolated app.id) = false) :
    (isolatedAppId (some app.id)).play (exec W) (deletion app.id gone) env s =
      some (match (env (.isIsolated app.id)).fault with
        | some e => .error (.database e)
        | none => .ok (some app.id), s) := by
  rw [isolatedAppId, Prog.play_call_bind, deletion_of_not_gone hflag]
  simp only [exec, Hub.read, any_isolated happ hiso]
  cases (env (.isIsolated app.id)).fault <;> rfl

/-- Where the node tells of received payments, a pending row is answered as it is. Reference:
`transactions/transactions_service.go:773 checkUnsettledTransaction`. -/
theorem checkUnsettledTransaction_notified (hn : W.notifiesReceived = true) (row : Transaction) :
    checkUnsettledTransaction W row = pure row := by
  rw [checkUnsettledTransaction, if_pos hn]

theorem checkUnsettledTransactions_notified (hn : W.notifiesReceived = true) :
    checkUnsettledTransactions W = pure () := by
  rw [checkUnsettledTransactions, if_pos hn]

/-- The answer that a handler makes of a method's result. Reference: none. -/
theorem play_answer {α : Type} {p : Svc α} {f : α → ReadAnswer} :
    ((do let r ← p; return f r : Svc ReadAnswer).play (exec W) (deletion id gone) env s).map (·.1) =
      ((p.play (exec W) (deletion id gone) env s).map (·.1)).map f := by
  rw [Prog.play_bind]
  cases p.play (exec W) (deletion id gone) env s <;> rfl

/-- The answer to a lookup by payment hash. Reference:
`nip47/controllers/lookup_invoice_controller.go:25 HandleLookupInvoiceEvent`. -/
theorem answer_lookupInvoice {invoice paymentHash : String} (h : paymentHash ≠ "") :
    (ReadRequest.lookupInvoice invoice paymentHash).answer W app env gone s =
      (((LookupTransaction W paymentHash none (some app.id)).play (exec W) (deletion app.id gone)
        env s).map (·.1)).map .transaction := by
  simp only [ReadRequest.answer, ReadRequest.handle, HandleLookupInvoiceEvent, if_pos h]
  exact play_answer

/-- What a lookup answers once the flag is read. Reference:
`transactions/transactions_service.go:619 LookupTransaction`. -/
theorem play_lookupTransaction {f : Option Nat} {s₁ : Hub} {paymentHash : String}
    (hi : (isolatedAppId (some app.id)).play (exec W) (deletion app.id gone) env s =
      some (.ok f, s₁))
    (hs : s₁.db.transactions = s.db.transactions)
    (hfault : (env (.lookup paymentHash none f)).fault = none) :
    ((LookupTransaction W paymentHash none (some app.id)).play (exec W) (deletion app.id gone) env
      s).map (·.1) =
      match pick (env (.lookup paymentHash none f)).pick
        (lookupRows W s.db.transactions paymentHash none f) with
      | none => some (.error .notFound)
      | some row =>
        if row.state = .pending then
          ((checkUnsettledTransaction W row).play (exec W) (deletion app.id gone) env
            (deletion app.id gone (.lookup paymentHash none f) s₁)).map fun x => .ok x.1
        else some (.ok row) := by
  rw [LookupTransaction, Prog.play_bind, hi, Option.bind_some, Prog.play_call_bind]
  simp only [exec, Hub.read, hfault, deletion_transactions, hs, Option.bind_some]
  cases pick (env (.lookup paymentHash none f)).pick
    (lookupRows W s.db.transactions paymentHash none f) with
  | none => rfl
  | some row =>
    simp only
    split
    · rw [Prog.play_bind]
      cases (checkUnsettledTransaction W row).play (exec W) (deletion app.id gone) env
        (deletion app.id gone (.lookup paymentHash none f) s₁) <;> rfl
    · rfl

/-- A lookup of the app is answered by its rows. Reference:
`transactions/transactions_service.go:599 LookupTransaction`. -/
theorem lookupTransaction_congr (env : Cmd → Env) (hn : W.notifiesReceived = true)
    (hiso : app.isolated = true)
    (hflag : gone (.isIsolated app.id) = false) (h : s.db.Agree app s'.db) (paymentHash : String) :
    ((LookupTransaction W paymentHash none (some app.id)).play (exec W) (deletion app.id gone) env
      s).map (·.1) =
    ((LookupTransaction W paymentHash none (some app.id)).play (exec W) (deletion app.id gone) env
      s').map (·.1) := by
  have hread : ∀ s : Hub, app ∈ s.db.apps → _ := fun s happ =>
    play_isolatedAppId W env s happ hiso hflag
  cases hf : (env (.isIsolated app.id)).fault with
  | some e =>
    rw [LookupTransaction, Prog.play_bind, Prog.play_bind, hread s h.left, hread s' h.right, hf]
    rfl
  | none =>
    simp only [hf] at hread
    cases hl : (env (.lookup paymentHash none (some app.id))).fault with
    | some e =>
      rw [LookupTransaction, Prog.play_bind, Prog.play_bind, hread s h.left, hread s' h.right]
      simp only [Option.bind_some, Prog.play_call_bind, exec, Hub.read, hl]
      rfl
    | none =>
      rw [play_lookupTransaction (hread s h.left) rfl hl,
        play_lookupTransaction (hread s' h.right) rfl hl, lookupRows_congr h.transactions]
      simp only [checkUnsettledTransaction_notified hn]
      rfl

/-- The page of a query. Reference: `transactions/transactions_service.go:731 ListTransactions`. -/
theorem play_queryPage :
    ((queryPage q).play (exec W) (deletion id gone) env s).map (·.1) =
      if q.Bindable then
        match (env (.countRows q)).fault, (env (.listRows q)).fault with
        | some e, _ | none, some e => some (.error (.database e))
        | none, none => some (.ok (q.page (orderUpdated (env (.listRows q)).pick
          (q.rows W s.db.transactions)), (q.rows W s.db.transactions).length))
      else some (.error highBitSet) := by
  rw [queryPage, Prog.play_call_bind]
  simp only [exec, Hub.query, Hub.read, deletion_transactions]
  split
  · next hq =>
    cases (env (.countRows q)).fault with
    | some e => rfl
    | none =>
      simp only [Option.bind_some, Prog.play_call_bind, exec, Hub.query, Hub.read,
        deletion_transactions, if_pos hq]
      cases (env (.listRows q)).fault <;> rfl
  · rfl

/-- A listing of the app is answered by its rows. Reference:
`transactions/transactions_service.go:654 ListTransactions`. -/
theorem listTransactions_congr (env : Cmd → Env) (hn : W.notifiesReceived = true)
    (hiso : app.isolated = true)
    (hflag : gone (.isIsolated app.id) = false) (h : s.db.Agree app s'.db) (params : ListQuery) :
    ((ListTransactions W params (some app.id) false).play (exec W) (deletion app.id gone) env
      s).map (·.1) =
    ((ListTransactions W params (some app.id) false).play (exec W) (deletion app.id gone) env
      s').map (·.1) := by
  have answer : ∀ s : Hub, app ∈ s.db.apps →
      ((ListTransactions W params (some app.id) false).play (exec W) (deletion app.id gone) env
        s).map (·.1) =
      match (env (.isIsolated app.id)).fault with
      | some e => some (.error (.database e))
      | none => ((queryPage { params with appId := some app.id }).play (exec W)
        (deletion app.id gone) env s).map (·.1) := by
    intro s happ
    rw [ListTransactions, checkUnsettledTransactions_notified hn, Prog.play_bind, Prog.play_pure,
      Option.bind_some, Prog.play_bind, play_isolatedAppId _ _ _ happ hiso hflag, Option.bind_some]
    cases (env (.isIsolated app.id)).fault <;> rfl
  rw [answer s h.left, answer s' h.right, play_queryPage, play_queryPage,
    rows_congr rfl h.transactions]

/-- The balance of an isolated app is answered from its rows, whenever it is deleted. Reference:
`nip47/controllers/get_balance_controller.go:24 HandleGetBalanceEvent`. -/
theorem getBalance_congr (hiso : app.isolated = true) (h : s.db.Agree app s'.db) :
    ReadRequest.getBalance.answer W app env gone s =
      ReadRequest.getBalance.answer W app env gone s' := by
  unfold ReadRequest.answer ReadRequest.handle HandleGetBalanceEvent
  rw [if_pos hiso]
  simp only [Prog.play_call_bind, exec, deletion_transactions, balance_congr h.transactions]
  cases (env (.isolatedBalance app.id)).fault <;> rfl

end

/-- A payment of an app. Reference: `transactions/transactions_service.go:397 SendPaymentSync`. -/
def demoPaymentOf (appId : Nat) (state : TransactionState) : Transaction :=
  { appId := some appId, type := .outgoing, state := state, paymentHash := mockHash }

/-- A hub with one app, over a table. Reference: none. -/
def soleApp (app : App) (t : Table) : Hub :=
  ⟨⟨t, [app], [], List.nodup_singleton _⟩, []⟩

/-- The hub's node answers that the payment is settled. Reference:
`transactions/transactions_service.go:780 checkUnsettledTransaction`. -/
def settledAtNode (_ : Cmd) : Env :=
  { transaction := .ok { paymentHash := mockHash, settledAt := some 0, preimage := "preimage" } }

section
variable {W : World} {app : App} {env : Cmd → Env} {gone : Cmd → Bool} {s : Hub} {t t' : Table}

theorem agree_soleApp (h : t.of app.id = t'.of app.id) :
    (soleApp app t).db.Agree app (soleApp app t').db :=
  ⟨List.mem_singleton_self _, List.mem_singleton_self _, rfl, h⟩

theorem play_publishEvents (W : World) (env : Cmd → Env) (before : Cmd → Hub →
    Hub) (events : List Event) (s : Hub) :
    ∃ s', (publishEvents events).play (exec W) before env s = some ((), s') := by
  induction events generalizing s with
  | nil => exact ⟨s, rfl⟩
  | cons event events ih => exact ih _

/-- The settlement of a row where the database does not fail. Reference:
`transactions/transactions_service.go:1477 markTransactionSettled`. -/
theorem exec_settle (c : Cmd) (row : Transaction) (s : Hub) : ∃ settlement s',
    exec W s (.markTransactionSettledTx row "preimage" 0 false) (settledAtNode c) =
      some (.ok settlement, s') ∧
    settlement.copy = if s.db.transactions.select row.settledFilter = [] then
      settleUpdate "preimage" 0 false 0 row else row := by
  simp only [exec, Hub.transaction, settledAtNode, markTransactionSettledTx]
  cases hf : findSettledTransaction
    { transaction := .ok { paymentHash := mockHash, settledAt := some 0, preimage := "preimage" } }
    s.db row with
  | some existing =>
    have hne : s.db.transactions.select row.settledFilter ≠ [] :=
      List.ne_nil_of_mem (mem_of_pick hf)
    exact ⟨_, _, rfl, (if_neg hne).symm⟩
  | none => exact ⟨_, _, rfl, (if_pos (pick_eq_none.1 hf)).symm⟩

/-- What a lookup at such a node answers for a pending row: its copy is settled, unless another row
of the same payment is. Reference: `transactions/transactions_service.go:1597
findSettledTransaction`. -/
theorem play_checkUnsettledTransaction (app : App) (gone : Cmd →
    Bool) (hn : W.notifiesReceived = false) (row : Transaction)
    (s : Hub) :
    ((checkUnsettledTransaction W row).play (exec W) (deletion app.id gone) settledAtNode s).map
      (·.1) = some (if s.db.transactions.select row.settledFilter = [] then
        settleUpdate "preimage" 0 false 0 row else row) := by
  obtain ⟨settlement, s₁, hx, hcopy⟩ := exec_settle (W := W)
    (.markTransactionSettledTx row "preimage" 0 false) row
    (deletion app.id gone (.markTransactionSettledTx row "preimage" 0 false)
      (deletion app.id gone (.lnLookupInvoice row.paymentHash) s))
  obtain ⟨s₂, hpub⟩ := play_publishEvents W settledAtNode
    (deletion app.id gone) settlement.events s₁
  rw [deletion_transactions, deletion_transactions] at hcopy
  have hcopied : (settleCopy row "preimage" 0 false).play (exec W) (deletion app.id gone)
      settledAtNode (deletion app.id gone (.lnLookupInvoice row.paymentHash) s) =
      some (.ok (settlement.settled, settlement.copy), s₂) := by
    rw [settleCopy, if_neg (by decide), Prog.play_call_bind, hx, Option.bind_some, Prog.play_bind,
      hpub]
    rfl
  rw [checkUnsettledTransaction, if_neg (by simp [hn]), Prog.play_call_bind]
  show Option.map (·.1) (Prog.play (exec W) (deletion app.id gone) settledAtNode
    (settleCopy row "preimage" 0 false >>= _)
    (deletion app.id gone (.lnLookupInvoice row.paymentHash) s)) = _
  rw [Prog.play_bind, hcopied, ← hcopy]
  rfl

/-- The lookup of a deleted app is not filtered: it is answered with the payment of another app.
Reference: `transactions/transactions_service.go:606 LookupTransaction`. -/
theorem not_noninterfering_deleted (hflag : gone (.isIsolated app.id) = true) :
    ¬ Noninterfering W app gone := by
  intro h
  have hagree : Table.empty.of app.id =
      (Table.empty.create 0 (demoPaymentOf (app.id + 1) .settled)).of app.id := by
    simp [Table.of, Table.empty, Table.created, demoPaymentOf]
  have heq := h (.lookupInvoice "" mockHash) (fun _ => {}) (soleApp app .empty)
    (soleApp app (Table.empty.create 0 (demoPaymentOf (app.id + 1) .settled)))
    (agree_soleApp hagree)
  have hread : ∀ s : Hub, (isolatedAppId (some app.id)).play (exec W) (deletion app.id gone)
      (fun _ => {}) s = some (.ok none, s.deleteApp app.id) := by
    intro s
    rw [isolatedAppId, Prog.play_call_bind]
    simp only [exec, Hub.read, deletion, if_pos hflag, any_deleteApp]
    rfl
  have hne : mockHash ≠ "" := by decide
  rw [answer_lookupInvoice hne, answer_lookupInvoice hne, play_lookupTransaction (hread _) rfl rfl,
    play_lookupTransaction (hread _) rfl rfl] at heq
  have hnone : pick 0 (lookupRows W Table.empty mockHash none none) = none := rfl
  have hsome : pick 0 (lookupRows W (Table.empty.create 0 (demoPaymentOf (app.id + 1) .settled))
      mockHash none none) =
      some (Table.empty.created 0 (demoPaymentOf (app.id + 1) .settled)) := by
    simp [lookupRows, Table.select, Where.Matches, Table.empty, Table.created, demoPaymentOf,
      lookupBefore, pick]
  simp only [soleApp, hnone, hsome] at heq
  simp [Table.created, demoPaymentOf] at heq

/-- Where the hub polls, the app's pending payment stays pending if another app has a settled one of
the same payment. Reference: `transactions/transactions_service.go:1597 findSettledTransaction`. -/
theorem not_noninterfering_polling (hn : W.notifiesReceived = false) (hiso : app.isolated = true)
    (hflag : gone (.isIsolated app.id) = false) : ¬ Noninterfering W app gone := by
  intro h
  let t := Table.empty.create 0 (demoPaymentOf app.id .pending)
  let t' := t.create 0 (demoPaymentOf (app.id + 1) .settled)
  let row := Table.empty.created 0 (demoPaymentOf app.id .pending)
  have hagree : t.of app.id = t'.of app.id := by
    simp [t, t', Table.of, Table.empty, Table.created, demoPaymentOf]
  have heq := h (.lookupInvoice "" mockHash) settledAtNode (soleApp app t) (soleApp app t')
    (agree_soleApp hagree)
  have hread : ∀ t, (isolatedAppId (some app.id)).play (exec W) (deletion app.id gone)
      settledAtNode (soleApp app t) = some (.ok (some app.id), soleApp app t) :=
    fun t => play_isolatedAppId _ _ _ (List.mem_singleton_self _) hiso hflag
  have hrow : pick 0 (lookupRows W t mockHash none (some app.id)) = some row := by
    simp [t, row, lookupRows, Table.select, Where.Matches, Table.empty, Table.created,
      demoPaymentOf,
      lookupBefore, pick]
  have hne : mockHash ≠ "" := by decide
  have hpending : row.state = .pending := rfl
  have lookup : ∀ t : Table, pick 0 (lookupRows W t mockHash none (some app.id)) = some row →
      ((LookupTransaction W mockHash none (some app.id)).play (exec W) (deletion app.id gone)
        settledAtNode (soleApp app t)).map (·.1) =
          some (.ok (if t.select row.settledFilter = [] then
          settleUpdate "preimage" 0 false 0 row else row)) := by
    intro t hrow
    have hcheck := play_checkUnsettledTransaction app gone hn row
      (deletion app.id gone (.lookup mockHash none (some app.id)) (soleApp app t))
    rw [play_lookupTransaction (hread t) rfl rfl, show (settledAtNode _).pick = 0 from rfl,
      show (soleApp app t).db.transactions = t from rfl, hrow]
    simp only [hpending, if_true]
    rw [deletion_transactions] at hcheck
    have hmap := congrArg (Option.map (@Except.ok Err _)) hcheck
    rw [Option.map_map] at hmap
    exact hmap
  rw [answer_lookupInvoice hne, answer_lookupInvoice hne, lookup t hrow,
    lookup t' ((congrArg (pick 0) (lookupRows_congr hagree)).symm.trans hrow)] at heq
  have hfree : t.select row.settledFilter = [] := by
    simp [t, row, Table.select, Where.Matches, Transaction.settledFilter, Table.empty,
      Table.created,
      demoPaymentOf]
  have htaken : t'.select row.settledFilter ≠ [] := by
    refine List.ne_nil_of_mem (Table.mem_select.2 ⟨Table.mem_create.2 (.inr rfl), ?_⟩)
    simp [row, Where.Matches, Transaction.settledFilter, Table.created, demoPaymentOf]
  rw [if_pos hfree, if_neg htaken] at heq
  simp only [Option.map_some, Option.some.injEq, ReadAnswer.transaction.injEq,
    Except.ok.injEq] at heq
  have hstate := congrArg Transaction.state heq
  cases hstate

/-- The requests of an isolated app are answered independently of what is not the app's exactly
where the node tells of received payments and the app is not deleted before its isolation flag is
read. Reference: `transactions/transactions_service.go:599 LookupTransaction`, `:654
ListTransactions`, `nip47/controllers/get_balance_controller.go:24 HandleGetBalanceEvent`. -/
theorem noninterference_iff (W : World) (app : App) (gone : Cmd → Bool)
    (hiso : app.isolated = true) :
    Noninterfering W app gone ↔
      W.notifiesReceived = true ∧ gone (.isIsolated app.id) = false := by
  constructor
  · intro h
    have hflag : gone (.isIsolated app.id) = false :=
      Bool.eq_false_of_not_eq_true fun hg => not_noninterfering_deleted hg h
    refine ⟨?_, hflag⟩
    by_contra hn
    exact not_noninterfering_polling (Bool.eq_false_of_not_eq_true hn) hiso hflag h
  · rintro ⟨hn, hflag⟩ request env s s' hagree
    cases request with
    | getBalance => exact getBalance_congr hiso hagree
    | listTransactions params =>
      have heq := listTransactions_congr env hn hiso hflag hagree params.query
      exact play_answer.trans ((congrArg (Option.map .transactions) heq).trans play_answer.symm)
    | lookupInvoice invoice paymentHash =>
      have heq := fun paymentHash =>
        lookupTransaction_congr env hn hiso hflag hagree paymentHash
      unfold ReadRequest.answer ReadRequest.handle HandleLookupInvoiceEvent
      simp only
      split
      · rfl
      · next hash _ =>
        exact play_answer.trans
          ((congrArg (Option.map .transaction) (heq hash)).trans play_answer.symm)

/-- Reference: `tests/mock_ln_client.go`. -/
theorem noninterference_iff_demo : Noninterfering demo ⟨1, "alice", true, none⟩ (fun _ => false) ↔
    demo.notifiesReceived = true ∧ (fun _ => false : Cmd → Bool) (.isIsolated 1) = false :=
  noninterference_iff demo ⟨1, "alice", true, none⟩ (fun _ => false) rfl

end

/-- Alice's app is deleted before its isolation flag is read, and the lookup is answered with Bob's
payment. Reference: `transactions/transactions_service.go:606 LookupTransaction`. -/
theorem deleted_app_reads_other :
    let app : App := ⟨1, "alice", true, none⟩
    let bobs := Table.empty.create 0 (demoPaymentOf 2 .settled)
    (soleApp app .empty).db.Agree app (soleApp app bobs).db ∧
    (ReadRequest.lookupInvoice "" mockHash).answer demo app (fun _ => {}) (fun _ => true)
      (soleApp app .empty) = some (.transaction (.error .notFound)) ∧
    (ReadRequest.lookupInvoice "" mockHash).answer demo app (fun _ => {}) (fun _ => true)
      (soleApp app bobs) =
        some (.transaction (.ok (Table.empty.created 0 (demoPaymentOf 2 .settled)))) ∧
    ¬ Noninterfering demo app (fun _ => true) :=
  ⟨agree_soleApp rfl, rfl, rfl, not_noninterfering_deleted rfl⟩

end AlbyHub
