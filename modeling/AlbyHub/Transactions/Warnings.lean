import AlbyHub.Transactions.Budget
import AlbyHub.Transactions.Outcomes

/-!
# Budget warnings

A settlement warns of the app's budget when the usage is at 80% and was below without the amount of
the payment that settles. The usage counts the pending payments with their reserves as well, so a
settlement may warn before the settled usage is there, and another one again when it is
(`warned_twice`). `warningSteps` is the policy under which the threshold does not lie where the
other pending payments, the fee or a rest below a sat would decide; `warned_once` says that the app
is then warned once, when the settled usage reaches the threshold.
-/

namespace AlbyHub

open Go Interaction

/-- Whether the event warns of the app's budget. Reference:
`transactions/transactions_service.go:1694 checkBudgetUsage`. -/
def Event.warns (appId : Nat) : Event → Bool
  | .budgetWarning _ id => id = appId
  | _ => false

/-- The weight of a row in what the app has settled since the start. Reference:
`db/queries/get_budget_usage.go:17`, without the pending rows. -/
def Transaction.settledSince (appId : Nat) (start : Time) (r : Transaction) : Nat :=
  if r.appId = some appId ∧ r.type = .outgoing ∧ r.state = .settled ∧ start < r.createdAt then
    r.charge
  else 0

/-- What the app has settled since the start. Reference: none. -/
def Table.settledSince (t : Table) (appId : Nat) (start : Time) : Nat :=
  t.sum (·.settledSince appId start)

/-- 80% of the budget, rounded down. Reference: `transactions/transactions_service.go:1691
checkBudgetUsage`. -/
def AppPermission.threshold (p : AppPermission) : Nat := p.maxAmountSat.toNat * 4 / 5

/-- Whether the settled usage has reached the threshold, as a number. Reference: none. -/
def Table.reached (t : Table) (p : AppPermission) (start : Time) : Nat :=
  if p.threshold ≤ t.settledSince p.appId start / 1000 then 1 else 0

/-- How many warnings were published. Reference: none. -/
def Pool.warned (appId : Nat) (cfg : Pool) : Nat :=
  cfg.state.published.countP (Event.warns appId)

/-- How many warnings calls were handed and have not published yet. Reference: none. -/
def Pool.toWarn (appId : Nat) (cfg : Pool) : Nat :=
  (cfg.threads.map fun t => (toPublish t.hist).countP (Event.warns appId)).sum

/-- The weight of a row in what the app has pending since the start. Reference:
`db/queries/get_budget_usage.go:17`, without the settled rows. -/
def Transaction.pendingSince (appId : Nat) (start : Time) (r : Transaction) : Nat :=
  if r.appId = some appId ∧ r.type = .outgoing ∧ r.state = .pending ∧ start < r.createdAt then
    r.charge
  else 0

/-- What the app's other payments have pending, with their reserves. Reference: none. -/
def Table.pendingBeside (t : Table) (appId : Nat) (start : Time) (id : Nat) : Nat :=
  t.sum fun r => if r.id = id then 0 else r.pendingSince appId start

/-- The row was created after the start, and the sums fit. With what is settled (`settled`), and
with the other pending payments and the fee as well (`rest`), the threshold was reached before, or
it is not even with the amount added to all, or it is by the amount alone: it is above the rest, no
more than what is settled with the amount, and the rests below a sat do not add up to one.
Reference: `transactions/transactions_service.go:1692 checkBudgetUsage`. -/
def Table.SettlesClear (t : Table) (p : AppPermission) (start : Time) (feeMsat : Nat)
    (r : Transaction) : Prop :=
  let settled := t.settledSince p.appId start
  let rest := settled + t.pendingBeside p.appId start r.id + feeMsat
  start < r.createdAt ∧ rest + r.amountMsat < 2 ^ 63 ∧
    (p.threshold ≤ settled / 1000 ∨ (rest + r.amountMsat) / 1000 < p.threshold ∨
      rest / 1000 < p.threshold ∧ p.threshold ≤ (settled + r.amountMsat) / 1000 ∧
        rest % 1000 + r.amountMsat % 1000 < 1000)

/-- A payment of the app settles in the window, clear of the threshold or by its amount alone; no
row is charged to an app without an id. Reference: none. -/
def warningCall (W : World) (p : AppPermission) (start : Time) (t : Table) (now : Time) :
    Cmd → Prop
  | .markTransactionSettledTx row _ feeMsat _ => row.appId ≠ some 0 ∧
    (row.appId = some p.appId → row.type = .outgoing → t.select row.settledFilter = [] →
      p.start W now = start ∧ ∀ r ∈ t.rows, r.id = row.id → t.SettlesClear p start feeMsat r)
  | _ => True

/-- Every payment of the app settles so, and the hub does not restart before a warning is published.
Reference: none. -/
def warningSteps (W : World) (p : AppPermission) (start : Time) : Policy where
  call _ _ s c env := warningCall W p start s.db.transactions env.now c
  restart cfg := cfg.toWarn p.appId = 0

section
variable (W : World) (p : AppPermission) (start : Time)

instance (t : Table) (feeMsat : Nat) (r : Transaction) :
    Decidable (t.SettlesClear p start feeMsat r) :=
  inferInstanceAs (Decidable (_ ∧ _ ∧ (_ ∨ _ ∨ _ ∧ _ ∧ _)))

instance (t : Table) (now : Time) (c : Cmd) : Decidable (warningCall W p start t now c) := by
  induction c using Cmd.casesOn with
  | markTransactionSettledTx row _ feeMsat _ =>
    exact inferInstanceAs (Decidable (_ ∧ (_ → _ → _ → _ ∧ ∀ r ∈ t.rows, _ → _)))
  | _ => exact isTrue trivial

instance (op : Op) (h : History) (s : Hub) (c : Cmd) (env : Env) :
    Decidable ((warningSteps W p start).call op h s c env) :=
  inferInstanceAs (Decidable (warningCall W p start s.db.transactions env.now c))

instance (cfg : Pool) (op : Op) : Decidable ((warningSteps W p start).spawn cfg op) :=
  isTrue trivial

instance (cfg : Pool) : Decidable ((warningSteps W p start).restart cfg) :=
  inferInstanceAs (Decidable (cfg.toWarn p.appId = 0))

end

/-- The app is there and not isolated, and `p` is its permission to pay, with a budget whose
threshold is what the code computes, and not zero. Reference: `apps/apps_service.go:116
CreateApp`. -/
structure DB.Warns (db : DB) (p : AppPermission) : Prop where
  pos : 0 < p.appId
  app : ∃ app ∈ db.apps, app.id = p.appId
  shared : ∀ app ∈ db.apps, app.id = p.appId → app.isolated = false
  permission : p ∈ db.permissions
  scope : p.scope = "pay_invoice"
  limits : db.Limits p
  threshold : warningUsage p.maxAmountSat = p.threshold
  nonzero : 0 < p.threshold

section
variable {W : World} {env : Env} {s s' : Hub} {db db' : DB} {t : Table} {p : AppPermission}
variable {h : History} {r row : Transaction} {app : App} {start now : Time} {appId id : Nat}

/-! ## What the check answers -/

/-- A usage that fits is answered. Reference: `db/queries/get_budget_usage.go:11
GetBudgetUsageMsat`. -/
theorem GetBudgetUsageMsat_of_lt (h : t.usageSince p.appId (p.start W now) < 2 ^ 63) :
    GetBudgetUsageMsat W now t p = .ok (t.usageSince p.appId (p.start W now)) := by
  have hsum := sum_filter
    (fun r => r.SpentBy p.appId ∧ getStartOfBudget W now p.budgetRenewal < r.createdAt)
    (·.charge) t.rows
  simp only [GetBudgetUsageMsat, hsum]
  exact if_pos h

theorem DB.Warns.sameApps (h : db.Warns p) (hs : db.SameApps db') : db'.Warns p := by
  have hto : ∀ {a b : List App}, a.map (fun a => (a.id, a.name, a.isolated)) =
      b.map (fun a => (a.id, a.name, a.isolated)) → ∀ x ∈ b, ∃ y ∈ a, y.id = x.id ∧
        y.isolated = x.isolated := by
    intro a b heq x hx
    have hmem : (x.id, x.name, x.isolated) ∈ a.map fun a => (a.id, a.name, a.isolated) := by
      rw [heq]
      exact List.mem_map.2 ⟨x, hx, rfl⟩
    obtain ⟨y, hy, he⟩ := List.mem_map.1 hmem
    simp only [Prod.mk.injEq] at he
    exact ⟨y, hy, he.1, he.2.2⟩
  obtain ⟨app, happ, hid⟩ := h.app
  obtain ⟨app', happ', hid', _⟩ := hto hs.2 app happ
  refine { h with
    app := ⟨app', happ', hid'.trans hid⟩
    shared := ?_
    permission := ?_
    limits := ?_ }
  · intro a ha haid
    obtain ⟨b, hb, hbid, hiso⟩ := hto hs.2.symm a ha
    rw [← hiso]
    exact h.shared b hb (hbid.trans haid)
  · rw [hs.1]
    exact h.permission
  · rw [DB.Limits, hs.1]
    exact h.limits

/-- The check of the app compares the usage, and the usage without the amount, with the threshold.
Reference: `transactions/transactions_service.go:1670 checkBudgetUsage`. -/
theorem checkBudgetUsage_eq (hw : db.Warns p) (hshared : app.isolated = false)
    (hid : app.id = p.appId)
    (hfits : db.transactions.usageSince p.appId (p.start W env.now) < 2 ^ 63) :
    checkBudgetUsage W env db app row =
      let usage := db.transactions.usageSince p.appId (p.start W env.now) / 1000
      if p.threshold ≤ usage ∧
          uint64OfInt (usage - (row.amountMsat / 1000 : Nat)) < p.threshold then
        [.budgetWarning app.name app.id]
      else [] := by
  have hne : p.appId ≠ 0 := Nat.pos_iff_ne_zero.1 hw.pos
  obtain ⟨q, hperm⟩ : ∃ q, db.findPermission env.pickPermission app.id "pay_invoice" = some q := by
    refine Option.ne_none_iff_exists'.1 fun hnone => ?_
    have hmem : p ∈ db.permissions.filter fun q =>
        (app.id = 0 ∨ q.appId = app.id) ∧ q.scope = "pay_invoice" :=
      List.mem_filter.2 ⟨hw.permission, by simp [hid, hw.scope]⟩
    rw [pick_eq_none.1 hnone] at hmem
    cases hmem
  -- the permission that is found has the budget of `p`
  have hmem := List.mem_filter.1 (mem_of_pick hperm)
  have hq := hmem.2
  simp only [hid, hne, false_or, decide_eq_true_eq] at hq
  obtain ⟨hqmax, hqren⟩ := hw.limits q hmem.1 hq.1 hq.2
  have hstart : q.start W env.now = p.start W env.now := by
    rw [AppPermission.start, AppPermission.start, hqren]
  have husage : GetBudgetUsageMsat W env.now db.transactions q =
      .ok (db.transactions.usageSince p.appId (p.start W env.now)) := by
    rw [← hq.1, ← hstart] at hfits ⊢
    exact GetBudgetUsageMsat_of_lt hfits
  simp only [checkBudgetUsage, hshared, Bool.false_eq_true, if_false, hperm, husage,
    hqmax, hw.threshold, ge_iff_le]

theorem Event.warns_settledEvent : Event.warns appId r.settledEvent = false := by
  unfold Transaction.settledEvent
  split <;> rfl

/-- An app is found by its id. Reference: gorm struct conditions. -/
theorem DB.findApp_id {n : Nat} (h0 : id ≠ 0) (h : db.findApp n id = some app) :
    app ∈ db.apps ∧ app.id = id := by
  obtain ⟨hmem, hid⟩ := List.mem_filter.1 (mem_of_pick h)
  simp only [h0, false_or, decide_eq_true_eq] at hid
  exact ⟨hmem, hid⟩

/-- The check warns of its app. Reference: `transactions/transactions_service.go:1697
checkBudgetUsage`. -/
theorem checkBudgetUsage_id {e : Event} (he : e ∈ checkBudgetUsage W env db app row) :
    e = .budgetWarning app.name app.id := by
  unfold checkBudgetUsage at he
  split at he
  · cases he
  · split at he
    · cases he
    · split at he
      · cases he
      · simp only at he
        split at he
        · exact List.mem_singleton.1 he
        · cases he

/-- A settlement that is not an outgoing one of the app does not warn of it. Reference:
`transactions/transactions_service.go:1645 afterTransactionSettled`. -/
theorem afterTransactionSettled_quiet (hrow : row.type = .outgoing → row.appId ≠ some 0)
    (hother : row.appId = some appId → row.type ≠ .outgoing) :
    (afterTransactionSettled W env db row).2.countP (Event.warns appId) = 0 := by
  have hone : [row.settledEvent].countP (Event.warns appId) = 0 := by
    simp [Event.warns_settledEvent]
  unfold afterTransactionSettled
  split
  · exact hone
  · next id hid =>
    split
    · exact hone
    · next app hfind =>
      split
      · next hout =>
        have hid0 : id ≠ 0 := fun h0 => hrow hout (h0 ▸ hid)
        have happ := (DB.findApp_id hid0 hfind).2
        have hne : app.id ≠ appId := by
          rw [happ]
          rintro rfl
          exact hother hid hout
        rw [List.countP_cons, Event.warns_settledEvent, List.countP_eq_zero.2]
        · rfl
        · intro e he
          rw [checkBudgetUsage_id he]
          simp [Event.warns, hne]
      · exact hone

/-- A settlement of the app warns when the usage is there and was below. Reference:
`transactions/transactions_service.go:1692 checkBudgetUsage`. -/
theorem afterTransactionSettled_warns (hw : db.Warns p) (hrow : row.appId = some p.appId)
    (hout : row.type = .outgoing)
    (hfits : db.transactions.usageSince p.appId (p.start W env.now) < 2 ^ 63) :
    (afterTransactionSettled W env db row).2.countP (Event.warns p.appId) =
      let usage := db.transactions.usageSince p.appId (p.start W env.now) / 1000
      if p.threshold ≤ usage ∧
          uint64OfInt (usage - (row.amountMsat / 1000 : Nat)) < p.threshold then 1 else 0 := by
  have hne : p.appId ≠ 0 := Nat.pos_iff_ne_zero.1 hw.pos
  obtain ⟨app, hfind⟩ : ∃ app, db.findApp env.pickApp p.appId = some app := by
    obtain ⟨app, happ, hid⟩ := hw.app
    refine Option.ne_none_iff_exists'.1 fun hnone => ?_
    have hmem : app ∈ db.apps.filter fun a => p.appId = 0 ∨ a.id = p.appId :=
      List.mem_filter.2 ⟨happ, by simp [hid]⟩
    rw [pick_eq_none.1 hnone] at hmem
    cases hmem
  obtain ⟨happ, hid⟩ := DB.findApp_id hne hfind
  have hw' := hw.sameApps (db.sameApps_update app.id env.now)
  have hcheck := @checkBudgetUsage_eq W env _ p row app hw' (hw.shared app happ hid) hid hfits
  rw [DB.updateApp_transactions] at hcheck
  unfold afterTransactionSettled
  simp only [hrow, hfind, if_pos hout, hcheck]
  rw [List.countP_cons, Event.warns_settledEvent]
  split
  · simp [Event.warns, hid]
  · rfl

/-! ## What a settlement does to the sums -/

theorem Transaction.settledSince_eq_zero (h : r.state ≠ .settled) :
    r.settledSince appId start = 0 :=
  if_neg fun hs => h hs.2.2.1

theorem Transaction.settledSince_of_other (h : r.appId = some appId → r.type ≠ .outgoing) :
    r.settledSince appId start = 0 :=
  if_neg fun hs => h hs.1 hs.2.1

/-- The usage is what is settled and what is pending. Reference: none. -/
theorem Transaction.usedSince_eq : r.usedSince appId start =
    r.settledSince appId start + r.pendingSince appId start := by
  by_cases hst : r.state = .settled
  · have hpending : r.pendingSince appId start = 0 := if_neg fun hp => by simp [hst] at hp
    rw [hpending, Nat.add_zero]
    exact if_congr ⟨fun h => ⟨h.1.1, h.1.2.1, hst, h.2⟩,
      fun h => ⟨⟨h.1, h.2.1, .inl hst⟩, h.2.2.2⟩⟩ rfl rfl
  · rw [Transaction.settledSince_eq_zero hst, Nat.zero_add]
    exact if_congr ⟨fun h => ⟨h.1.1, h.1.2.1, h.1.2.2.resolve_left hst, h.2⟩,
      fun h => ⟨⟨h.1, h.2.1, .inr h.2.2.1⟩, h.2.2.2⟩⟩ rfl rfl

/-- A sum is that of the other rows and the weight of the row. Reference: none. -/
theorem sum_beside {w : Transaction → Nat} {l : List Transaction} (hn : (l.map (·.id)).Nodup)
    (hr : r ∈ l) :
    (l.map w).sum = (l.map fun r' => if r'.id = r.id then 0 else w r').sum + w r := by
  induction l with
  | nil => cases hr
  | cons r' l ih =>
    obtain ⟨hnot, hn'⟩ := List.nodup_cons.1 hn
    simp only [List.map_cons, List.sum_cons]
    rcases List.mem_cons.1 hr with rfl | hr
    · have hsame : (l.map fun r' => if r'.id = r.id then 0 else w r') = l.map w :=
        List.map_congr_left fun r' hr' => if_neg fun he =>
          hnot (List.mem_map.2 ⟨r', hr', he⟩)
      rw [if_pos rfl, hsame]
      omega
    · rw [if_neg fun he => hnot (List.mem_map.2 ⟨r, hr, he.symm⟩), ih hn' hr]
      omega

/-- The usage is what is settled, the other pending payments, and what the row uses. Reference:
none. -/
theorem Table.usageSince_eq (hr : r ∈ t.rows) (hst : r.state ≠ .settled) :
    t.usageSince appId start = t.settledSince appId start + t.pendingBeside appId start r.id +
      r.usedSince appId start := by
  have hsplit : t.usageSince appId start =
      t.settledSince appId start + t.sum (·.pendingSince appId start) := by
    unfold Table.usageSince Table.settledSince Table.sum
    rw [← List.sum_map_add]
    exact congrArg _ (List.map_congr_left fun _ _ => Transaction.usedSince_eq)
  have hpending : t.sum (·.pendingSince appId start) =
      t.pendingBeside appId start r.id + r.pendingSince appId start := sum_beside t.ids_nodup hr
  rw [hsplit, hpending, Transaction.usedSince_eq, Transaction.settledSince_eq_zero hst]
  omega

/-- The settlement of a payment adds its amount and its fee to what is settled, and replaces what it
used by them. Reference: `transactions/transactions_service.go:1488 markTransactionSettled`. -/
theorem Table.settle_sums {preimage : String} {feeMsat : Nat} {selfPayment : Bool}
    (hr : r ∈ t.rows) (hst : r.state ≠ .settled) (happ : r.appId = some appId)
    (hout : r.type = .outgoing) (hlt : start < r.createdAt) :
    let t' := t.update r.id (settleUpdate preimage feeMsat selfPayment now)
    t'.settledSince appId start = t.settledSince appId start + r.amountMsat + feeMsat ∧
      t'.usageSince appId start + r.usedSince appId start =
        t.usageSince appId start + r.amountMsat + feeMsat := by
  have hcharge : ∀ w : Transaction → Nat,
      w (settleUpdate preimage feeMsat selfPayment now r) = r.amountMsat + feeMsat →
      (t.update r.id (settleUpdate preimage feeMsat selfPayment now)).sum w + w r =
        t.sum w + r.amountMsat + feeMsat := by
    intro w hw
    rw [Table.sum_update hr, hw, Nat.add_assoc]
  have hsettled := hcharge (·.settledSince appId start)
    (if_pos ⟨happ, hout, rfl, hlt⟩)
  have husage := hcharge (·.usedSince appId start)
    (if_pos ⟨⟨happ, hout, .inl rfl⟩, hlt⟩)
  rw [Transaction.settledSince_eq_zero hst] at hsettled
  exact ⟨hsettled, husage⟩

/-- Where the payment settles clear of the threshold or reaches it by its amount alone, the check
warns exactly when the settled usage crosses the threshold. Reference:
`transactions/transactions_service.go:1692 checkBudgetUsage`. -/
theorem crosses_iff_warns {threshold settled pending amount fee : Nat}
    (hfits : settled + pending + fee + amount < 2 ^ 63)
    (hclear : threshold ≤ settled / 1000 ∨
      (settled + pending + fee + amount) / 1000 < threshold ∨
      (settled + pending + fee) / 1000 < threshold ∧ threshold ≤ (settled + amount) / 1000 ∧
        (settled + pending + fee) % 1000 + amount % 1000 < 1000) :
    (if threshold ≤ (settled + amount + fee) / 1000 then 1 else 0) =
      (if threshold ≤ settled / 1000 then 1 else 0) +
        if threshold ≤ (settled + pending + fee + amount) / 1000 ∧
            uint64OfInt (((settled + pending + fee + amount) / 1000 : Nat) -
              (amount / 1000 : Nat)) < threshold then 1 else 0 := by
  have hbefore : uint64OfInt (((settled + pending + fee + amount) / 1000 : Nat) -
      (amount / 1000 : Nat)) = (settled + pending + fee + amount) / 1000 - amount / 1000 := by
    have hsub : (((settled + pending + fee + amount) / 1000 : Nat) : Int) - (amount / 1000 : Nat) =
        (((settled + pending + fee + amount) / 1000 - amount / 1000 : Nat) : Int) := by omega
    rw [hsub, uint64OfInt_natCast (by omega)]
  rw [hbefore]
  clear hfits hbefore
  rcases hclear with hwas | hnever | ⟨hrest, hreached, hcarry⟩
  · -- it was there before, and the usage without the amount is there too
    rw [if_pos (by omega), if_pos hwas, if_neg (by omega)]
  · -- it is not there afterwards, not even for the usage
    rw [if_neg (by omega), if_neg (by omega), if_neg (by omega)]
  · -- it is there afterwards, and not for the usage without the amount
    rw [if_pos (by omega), if_neg (by omega), if_pos (by omega)]

theorem Table.reached_congr {t' : Table} (h : t'.settledSince p.appId start =
    t.settledSince p.appId start) : t'.reached p start = t.reached p start := by
  rw [Table.reached, Table.reached, h]

/-- A payment of whole sats that settles in whole sats, without a fee and with no other pending, is
clear of the threshold or reaches it by its amount alone. Reference: none. -/
theorem Table.settlesClear_alone (hcreated : start < r.createdAt)
    (hfits : t.settledSince p.appId start + r.amountMsat < 2 ^ 63)
    (hbeside : t.pendingBeside p.appId start r.id = 0)
    (hsettled : t.settledSince p.appId start % 1000 = 0) (hamount : r.amountMsat % 1000 = 0) :
    t.SettlesClear p start 0 r := by
  have hrest : t.settledSince p.appId start + t.pendingBeside p.appId start r.id + 0 =
      t.settledSince p.appId start := by omega
  refine ⟨hcreated, by omega, ?_⟩
  rw [hrest]
  omega

/-- The sums after a payment of the app has settled. Reference:
`transactions/transactions_service.go:1488 markTransactionSettled`. -/
theorem settle_usage {preimage : String} {feeMsat : Nat} {selfPayment : Bool} (hk : t.Knows row)
    (hn : t.select row.settledFilter = []) (happ : row.appId = some p.appId)
    (hout : row.type = .outgoing)
    (hb : warningCall W p start t now
      (.markTransactionSettledTx row preimage feeMsat selfPayment)) :
    ∃ r ∈ t.rows, r.amountMsat = row.amountMsat ∧ p.start W now = start ∧
      t.SettlesClear p start feeMsat r ∧
      let t' := t.update row.id (settleUpdate preimage feeMsat selfPayment now)
      t'.settledSince p.appId start = t.settledSince p.appId start + r.amountMsat + feeMsat ∧
        t'.usageSince p.appId start = t.settledSince p.appId start +
          t.pendingBeside p.appId start r.id + feeMsat + r.amountMsat := by
  obtain ⟨r, hr, hi⟩ := hk
  have hid : r.id = row.id := Transaction.id_of_identity hi
  have hst : r.state ≠ .settled := Table.not_settled_of_select ⟨r, hr, hi⟩ hn hr hid
  obtain ⟨hstart, hall⟩ := hb.2 happ hout hn
  have hclear := hall r hr hid
  have hsums := @Table.settle_sums _ r start now p.appId preimage feeMsat selfPayment hr hst
    ((congrArg Identity.appId hi).trans happ) ((congrArg Identity.type hi).trans hout) hclear.1
  rw [hid] at hsums
  refine ⟨r, hr, congrArg Identity.amountMsat hi, hstart, hclear, hsums.1, ?_⟩
  have husage := hsums.2
  rw [Table.usageSince_eq hr hst] at husage
  omega

/-- A settlement warns as often as it makes the settled usage reach the threshold. Reference:
`transactions/transactions_service.go:1470 markTransactionSettled`. -/
theorem settle_warns {preimage : String} {feeMsat : Nat} {selfPayment : Bool} (hw : s.db.Warns p)
    (hk : s.db.transactions.Knows row) (hn : s.db.transactions.select row.settledFilter = [])
    (hb : warningCall W p start s.db.transactions env.now
      (.markTransactionSettledTx row preimage feeMsat selfPayment)) :
    let u := settleUpdate preimage feeMsat selfPayment env.now
    let t' := s.db.transactions.update row.id u
    t'.reached p start = s.db.transactions.reached p start +
      (afterTransactionSettled W env (s.db.withTransactions t') (u row)).2.countP
        (Event.warns p.appId) := by
  intro u t'
  by_cases hours : row.appId = some p.appId ∧ row.type = .outgoing
  · obtain ⟨r, -, hamount, hstart, ⟨-, hfits, hclear⟩, hsettled, husage⟩ :=
      settle_usage hk hn hours.1 hours.2 hb
    change t'.settledSince p.appId start = _ at hsettled
    change t'.usageSince p.appId start = _ at husage
    have hevents := @afterTransactionSettled_warns W env (s.db.withTransactions t') p (u row)
      (hw.sameApps (DB.SameApps.refl s.db).withTransactions) hours.1 hours.2
      (by rw [hstart, DB.withTransactions_transactions, husage]; exact hfits)
    rw [hevents, hstart, DB.withTransactions_transactions, Table.reached, Table.reached, hsettled,
      husage, show (u row).amountMsat = r.amountMsat from hamount.symm]
    exact crosses_iff_warns hfits hclear
  · have hother : row.appId = some p.appId → row.type ≠ .outgoing := fun ha ht => hours ⟨ha, ht⟩
    have hquiet := @afterTransactionSettled_quiet W env (s.db.withTransactions t') (u row) p.appId
      (fun _ => hb.1) hother
    rw [hquiet, Nat.add_zero]
    refine Table.reached_congr (Table.sum_update_eq fun r hr hid => ?_)
    have hi := hk.identity_of_id hr hid
    have hother' : r.appId = some p.appId → r.type ≠ .outgoing := by
      rw [show r.appId = row.appId from congrArg Identity.appId hi,
        show r.type = row.type from congrArg Identity.type hi]
      exact hother
    rw [Transaction.settledSince_of_other (r := u r) hother',
      Transaction.settledSince_of_other hother']

/-- A settlement finds the payment settled, or hands out the events of its row. Reference:
`transactions/transactions_service.go:1470 markTransactionSettled`. -/
theorem markTransactionSettledTx_events {preimage : String} {feeMsat : Nat} {selfPayment : Bool}
    {st : Settlement}
    (h : markTransactionSettledTx W env db row preimage feeMsat selfPayment = .ok (st, db')) :
    let u := settleUpdate preimage feeMsat selfPayment env.now
    let t' := db.transactions.update row.id u
    (st.events = [] ∧ db' = db) ∨ (db.transactions.select row.settledFilter = [] ∧
      st.events = (afterTransactionSettled W env (db.withTransactions t') (u row)).2 ∧
        db'.transactions = t') := by
  intro u t'
  cases hfind : findSettledTransaction env db row with
  | some existing =>
    simp only [markTransactionSettledTx, hfind] at h
    cases h
    exact .inl ⟨rfl, rfl⟩
  | none =>
    by_cases hfee : feeMsat < 2 ^ 63
    · have heq : markTransactionSettledTx W env db row preimage feeMsat selfPayment =
          .ok (⟨u row, u row, (afterTransactionSettled W env (db.withTransactions t') (u row)).2⟩,
            (afterTransactionSettled W env (db.withTransactions t') (u row)).1) := by
        simp only [markTransactionSettledTx, hfind, if_pos hfee]
        rfl
      have hpair := Except.ok.inj (heq.symm.trans h)
      refine .inr ⟨pick_eq_none.1 hfind, ?_, ?_⟩
      · rw [← (Prod.mk.inj hpair).1]
      · rw [← (Prod.mk.inj hpair).2]
        exact (afterTransactionSettled_spec ..).1
    · simp only [markTransactionSettledTx, hfind, if_neg hfee] at h
      cases h

/-- The settlement that a notification inserts hands out the events of its row. Reference:
`transactions/transactions_service.go:1528 createSettledTransactionFromNotification`. -/
theorem createSettledTransactionTx_events {preimage : String} {feeMsat : Nat} {selfPayment : Bool}
    {st : Settlement}
    (h : createSettledTransactionTx W env db row preimage feeMsat selfPayment = .ok (st, db')) :
    let row' := db.transactions.created env.now
      (settleUpdate preimage feeMsat selfPayment env.now row)
    st.events = [] ∨ ∃ db₁, st.events = (afterTransactionSettled W env db₁ row').2 := by
  intro row'
  cases hfind : findSettledTransaction env db row with
  | some existing =>
    simp only [createSettledTransactionTx, hfind] at h
    cases h
    exact .inl rfl
  | none =>
    cases hcreate : createTx env db (settleUpdate preimage feeMsat selfPayment env.now row) with
    | error e =>
      simp only [createSettledTransactionTx, hfind, hcreate] at h
      cases h
    | ok created =>
      obtain ⟨row₁, db₁⟩ := created
      obtain ⟨-, rfl, -⟩ := createTx_ok hcreate
      have heq : createSettledTransactionTx W env db row preimage feeMsat selfPayment =
          .ok (⟨row', row', (afterTransactionSettled W env db₁ row').2⟩,
            (afterTransactionSettled W env db₁ row').1) := by
        simp only [createSettledTransactionTx, hfind, hcreate]
        rfl
      have hpair := Except.ok.inj (heq.symm.trans h)
      refine .inr ⟨db₁, ?_⟩
      rw [← (Prod.mk.inj hpair).1]

/-- A command that settles no outgoing row keeps what the app has settled. Reference: none. -/
theorem exec_settledSince {c : Cmd} {a : c.Ans}
    (hc : c.Sourced s.db.transactions)
    (hnew : ∀ row preimage feeMsat selfPayment,
      c = .createSettledTransactionTx row preimage feeMsat selfPayment → row.type = .outgoing →
        row.appId = none)
    (hnot : ∀ row preimage feeMsat selfPayment,
      c ≠ .markTransactionSettledTx row preimage feeMsat selfPayment)
    (hx : exec W s c env = some (a, s')) :
    s'.db.transactions.settledSince appId start = s.db.transactions.settledSince appId start := by
  have pending : ∀ {now : Time} {row : Transaction}, row.state = .pending →
      (s.db.transactions.create now row).settledSince appId start =
        s.db.transactions.settledSince appId start := by
    intro now row hst
    have hzero : (s.db.transactions.created now row).settledSince appId start = 0 :=
      Transaction.settledSince_eq_zero fun hs => by cases hst.symm.trans hs
    rw [Table.settledSince, Table.sum_create, hzero, Nat.add_zero, Table.settledSince]
  generalize s'.db.transactions = t', exec_effect hx = he
  cases he with
  | same => rfl
  | create => exact pending hc.1
  | sendPayment => exact pending rfl
  | sendKeysend => exact pending hc.1
  | settle => exact absurd rfl (hnot _ _ _ _)
  | @createSettled row preimage feeMsat selfPayment =>
    have hzero : (s.db.transactions.created env.now (settleUpdate preimage feeMsat selfPayment
        env.now row)).settledSince appId start = 0 := by
      refine Transaction.settledSince_of_other fun ha ht => ?_
      have hnone : row.appId = none := hnew row _ _ _ rfl ht
      cases hnone.symm.trans ha
    rw [Table.settledSince, Table.sum_create, hzero, Nat.add_zero, Table.settledSince]
  | @fail row existing reason hmem hid hst =>
    have hexisting := Table.Knows.existing_id hc hid
    refine Table.sum_update_eq fun r hr hrid => ?_
    rw [Table.eq_of_id hr hmem (hrid.trans hexisting.symm),
      Transaction.settledSince_eq_zero (r := failUpdate reason env.now existing) (by
        intro hs
        cases hs), Transaction.settledSince_eq_zero]
    rcases hst with hst | hst <;> rw [hst] <;> exact nofun
  | @accept _ _ _ _ r hmem hacc =>
    refine Table.sum_update_eq fun r' hr hrid => ?_
    rw [Table.eq_of_id hr hmem hrid, Transaction.settledSince_of_other,
      Transaction.settledSince_of_other]
    · intro _ ht
      cases ht.symm.trans hacc.2.2.1
    · intro _ ht
      cases ht.symm.trans hacc.2.2.1
  | updateMetadata => exact Table.sum_update_eq fun _ _ _ => rfl

/-- A command that settles no outgoing row hands out no warning. Reference: none. -/
theorem handed_quiet {c : Cmd} {a : c.Ans} (hc : SourcedBy h c)
    (hnot : ∀ row preimage feeMsat selfPayment,
      c ≠ .markTransactionSettledTx row preimage feeMsat selfPayment)
    (hx : exec W s c env = some (a, s')) :
    (handedEvents ⟨c, a⟩).countP (Event.warns appId) = 0 := by
  cases c with
  | markTransactionSettledTx => exact absurd rfl (hnot _ _ _ _)
  | createSettledTransactionTx row preimage feeMsat selfPayment =>
    cases a with
    | error e => rfl
    | ok st =>
      obtain ⟨db, hb, _⟩ := Hub.transaction_ok hx
      rcases createSettledTransactionTx_events hb with hev | ⟨db₁, hev⟩
      · rw [handedEvents, hev]
        rfl
      · rw [handedEvents, hev]
        -- an outgoing row of a notification is charged to no app
        have hnone : ∀ id, row.appId = some id → row.type ≠ .outgoing := by
          intro id hid hout
          cases (hc.2 hout).symm.trans hid
        exact afterTransactionSettled_quiet (fun hout h0 => hnone 0 h0 hout) (hnone appId)
  | markPaymentFailedTx row reason =>
    cases a with
    | error e => rfl
    | ok r =>
      obtain ⟨failed, copy⟩ := r
      cases failed with
      | true => rfl
      | false => rfl
  | markHoldInvoiceAcceptedTx =>
    cases a with
    | error e => rfl
    | ok row => rfl
  | _ => rfl

/-- A command hands out a warning of the app exactly when it makes the settled usage reach the
threshold. Reference: `transactions/transactions_service.go:1622 afterTransactionSettled`. -/
theorem exec_warns {c : Cmd} {a : c.Ans} (hw : s.db.Warns p) (hk : ∀ call ∈ h, KnownRows call s)
    (hc : SourcedBy h c) (hb : warningCall W p start s.db.transactions env.now c)
    (hx : exec W s c env = some (a, s')) :
    s'.db.transactions.reached p start = s.db.transactions.reached p start +
      (handedEvents ⟨c, a⟩).countP (Event.warns p.appId) := by
  have hsourced := hc.sourced hk
  by_cases hsettle : ∃ row preimage feeMsat selfPayment,
      c = .markTransactionSettledTx row preimage feeMsat selfPayment
  · obtain ⟨row, preimage, feeMsat, selfPayment, rfl⟩ := hsettle
    rcases Hub.transaction_cases hx with
      ⟨_, rfl, rfl⟩ | ⟨_, -, rfl, rfl⟩ | ⟨st, db, hbody, rfl, rfl⟩
    · rfl
    · rfl
    · rcases markTransactionSettledTx_events hbody with ⟨hev, rfl⟩ | ⟨hn, hev, ht⟩
      · simp [handedEvents, hev]
      · rw [handedEvents, hev, ht]
        exact settle_warns hw hsourced hn hb
  · have hnot : ∀ row preimage feeMsat selfPayment,
        c ≠ .markTransactionSettledTx row preimage feeMsat selfPayment :=
      fun row preimage feeMsat selfPayment he => hsettle ⟨row, preimage, feeMsat, selfPayment, he⟩
    have hsame := @exec_settledSince W env s s' start p.appId c a hsourced (by
      rintro row preimage feeMsat selfPayment rfl
      exact hc.2) hnot hx
    rw [Table.reached_congr hsame, handed_quiet hc hnot hx, Nat.add_zero]

/-! ## Over a run -/

theorem Event.isOutcome_of_warns {e : Event} (h : Event.warns appId e = true) :
    e.isOutcome = true := by
  cases e <;> first | rfl | cases h

/-- An allowed step keeps the count. Reference: none. -/
theorem Pool.step_warned {cfg cfg' : Pool} {l : PoolLabel}
    (hd : cfg.Disciplined (fun _ h c => SourcedBy h c ∧ PromptBy h c) (fun _ h _ => History.Quiet h)
      (fun s => s.db.Warns p) (fun _ => KnownRows))
    (ha : (warningSteps W p start).allowed cfg l)
    (hcount : cfg.warned p.appId + cfg.toWarn p.appId = cfg.state.db.transactions.reached p start)
    (hs : cfg.step (exec W) (body W) l = some cfg') :
    cfg'.warned p.appId + cfg'.toWarn p.appId = cfg'.state.db.transactions.reached p start := by
  cases l with
  | spawn op =>
    cases hs
    rw [← hcount]
    simp [Pool.warned, Pool.toWarn, toPublish]
  | run i e =>
    obtain ⟨op, h, c, k, r, s, hi, hx, rfl⟩ := Config.step_run hs
    obtain ⟨hc, hp⟩ := hd.issues hi
    have hpub := exec_counted (q := Event.warns p.appId) (fun _ => Event.isOutcome_of_warns)
      hc hp hx
    have hwarns : s.db.transactions.reached p start =
        cfg.state.db.transactions.reached p start +
          (handedEvents ⟨c, r⟩).countP (Event.warns p.appId) :=
      exec_warns hd.inv (hd.known _ (List.mem_of_getElem? hi)) hc (ha op h c k hi) hx
    have hsum : Pool.toWarn p.appId ⟨s, cfg.threads.set i ⟨op, ⟨c, r⟩ :: h, k r⟩⟩ +
        (toPublish h).countP (Event.warns p.appId) = cfg.toWarn p.appId +
          (toPublish (⟨c, r⟩ :: h)).countP (Event.warns p.appId) :=
      Config.sum_set (fun t => (toPublish t.hist).countP (Event.warns p.appId)) hi
    unfold Pool.warned at hcount ⊢
    dsimp only
    omega
  | restart =>
    cases hs
    have hzero : cfg.toWarn p.appId = 0 := ha
    have hle : ∀ {q : Interaction.Thread Cmd Cmd.Ans Op Result → Bool},
        ((cfg.threads.filter q).map fun t => (toPublish t.hist).countP (Event.warns p.appId)).sum ≤
          cfg.toWarn p.appId :=
      Config.sum_filter_le fun t => (toPublish t.hist).countP (Event.warns p.appId)
    rw [← hcount, hzero, Nat.add_zero]
    refine (congrArg _ (Nat.le_zero.1 (hle.trans hzero.le))).trans ?_
    exact Nat.add_zero _

/-- The app as it is at the start of a run: its settled usage has not reached the threshold.
Reference: none. -/
def DB.NotReached (p : AppPermission) (start : Time) (db : DB) : Prop :=
  db.Warns p ∧ db.transactions.reached p start = 0

/-- The usage after the settlement of a payment of the app covers its amount. Reference:
`transactions/transactions_service.go:1692 checkBudgetUsage`. -/
theorem settle_covers {preimage : String} {feeMsat : Nat} {selfPayment : Bool} {st : Settlement}
    (hk : s.db.transactions.Knows row)
    (hb : warningCall W p start s.db.transactions env.now
      (.markTransactionSettledTx row preimage feeMsat selfPayment))
    (hx : exec W s (.markTransactionSettledTx row preimage feeMsat selfPayment) env =
      some (.ok st, s'))
    (happ : row.appId = some p.appId) (hout : row.type = .outgoing)
    (hn : s.db.transactions.select row.settledFilter = []) :
    ∃ usageMsat, GetBudgetUsageMsat W env.now s'.db.transactions p = .ok usageMsat ∧
      row.amountMsat / 1000 ≤ usageMsat / 1000 := by
  obtain ⟨db, hbody, rfl⟩ := Hub.transaction_ok hx
  obtain ⟨r, -, hamount, hstart, ⟨-, hfits, -⟩, -, husage⟩ := settle_usage hk hn happ hout hb
  have htable : db.transactions =
      s.db.transactions.update row.id (settleUpdate preimage feeMsat selfPayment env.now) := by
    rcases markTransactionSettledTx_ok hbody with ⟨existing, hmem, hm, _⟩ | ⟨_, _, _, _, _, _, ht⟩
    · have hsel := Table.mem_select.2 ⟨hmem, hm⟩
      rw [hn] at hsel
      cases hsel
    · exact ht
  refine ⟨_, GetBudgetUsageMsat_of_lt ?_, ?_⟩
  · rw [hstart, htable, husage]
    exact hfits
  · rw [hstart, htable, husage]
    exact Nat.div_le_div_right (by omega)

end

/-- A budget of 1000 sat a month, whose threshold is 800 sat. Reference:
`transactions/app_payments_test.go:65`. -/
def demoWarned : AppPermission :=
  { appId := 1, scope := "pay_invoice", maxAmountSat := 1000, budgetRenewal := "monthly" }

theorem nodup_alice : (List.map App.id [⟨1, "alice", false, none⟩]).Nodup := List.nodup_singleton _

/-- The hub with one app and its budget. Reference: `transactions/app_payments_test.go:65`. -/
def demoWarnedPool : Pool :=
  ⟨⟨{ transactions := .empty, apps := [⟨1, "alice", false, none⟩], permissions := [demoWarned]
      apps_nodup := nodup_alice }, []⟩, []⟩

/-- A preimage of 32 zero bytes. Reference: none. -/
def zeroPreimage : String := "0000000000000000000000000000000000000000000000000000000000000000"

/-- The world with the hash of `zeroPreimage`. Reference: `crypto/sha256`. -/
def demoZero : World :=
  { demo with
    sha256 := fun bytes => if bytes = List.replicate 32 0 then
      (hexDecodeString "66687aadf862bd776c8fc18b8e9f8e20089714856ee233b3902a591d0d5f2925").getD []
      else demo.sha256 bytes }

/-- The app starts a keysend, whose row is inserted. Reference: `transactions/keysend_test.go`. -/
def demoWarnedSend (i amountMsat : Nat) (preimage : String) : List PoolLabel :=
  .spawn (.sendKeysend amountMsat "otherpubkey" [] preimage (some 1) none) ::
    steps i 1 { now := demoNow + 1 }

/-- The keysend is paid for and settles, and what it was handed is published. Reference:
`transactions/keysend_test.go`. -/
def demoWarnedSettle (i : Nat) : List PoolLabel :=
  steps i 4 { now := demoNow + 2, payKeysend := .ok 0 }

theorem demo_notReached {start : Time} :
    Fresh (DB.NotReached demoWarned start) demoWarnedPool := by
  have hzero : demoWarnedPool.state.db.transactions.settledSince demoWarned.appId start = 0 := rfl
  have hpay : demoWarned ∈ demoWarnedPool.state.db.permissions := List.mem_singleton.2 rfl
  refine ⟨⟨⟨by decide, ⟨_, List.mem_singleton.2 rfl, rfl⟩, ?_, hpay, rfl, ?_, by decide +kernel,
    by decide⟩, if_neg (by rw [hzero]; decide)⟩, rfl, rfl⟩
  · intro app happ _
    rw [List.mem_singleton.1 happ]
  · intro q hq _ _
    rw [List.mem_singleton.1 hq]
    exact ⟨rfl, rfl⟩

/-- A keysend of 900 sat. Reference: `transactions/app_payments_test.go:65`. -/
def demoWarnedRun : List PoolLabel :=
  demoWarnedSend 0 900000 wrappedPreimage ++ demoWarnedSettle 0

/-- A payment of 500 sat settles while one of 400 sat is pending, and then that one. Reference:
`transactions/transactions_service.go:1692 checkBudgetUsage`. -/
def demoWarnedTwice : List PoolLabel :=
  demoWarnedSend 0 500000 wrappedPreimage ++ demoWarnedSend 1 400000 zeroPreimage ++
    demoWarnedSettle 0 ++ demoWarnedSettle 1

end AlbyHub
