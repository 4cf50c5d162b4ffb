import AlbyHub.Apps.Registry
import AlbyHub.Db.Sums

/-!
# The total of the sub-wallets

The total balance of the sub-wallets is computed by two queries over all of their rows, where the
balance of an isolated app takes two queries for that app alone. A sub-wallet is an app with a
certain metadata, whether it is isolated or not. `total_is_sum`: the total is the sum of the
balances of these apps, as long as its two parts fit the database's integers.
-/

namespace AlbyHub

/-- The table `apps`, in which an id names one row. Reference: `db/models.go:18 App`. -/
structure AppsTable where
  rows : List AppRow
  ids_nodup : (rows.map (·.id)).Nodup

/-- Reference: `constants/constants.go:81 SUBWALLET_APPSTORE_APP_ID`. -/
def subwalletAppstoreAppId : String := "uncle-jim"

/-- Reference: `constants/constants.go METADATA_APPSTORE_APP_ID_KEY`. -/
def metadataAppstoreAppIdKey : String := "app_store_app_id"

/-- The database's text of a key of a JSON column. Reference: gorm `datatypes.JSONQuery`. -/
abbrev JsonText := String → String → Option String

/-- The app is selected as a sub-wallet; of a column that is `NULL` nothing is extracted. Reference:
`db/queries/get_total_subwallet_balance.go:11 GetTotalSubwalletBalanceMsat`. -/
def AppRow.IsSubwallet (J : JsonText) (a : AppRow) : Prop :=
  a.metadata ≠ "" ∧ J a.metadata metadataAppstoreAppIdKey = some subwalletAppstoreAppId

instance (J : JsonText) (a : AppRow) : Decidable (a.IsSubwallet J) :=
  inferInstanceAs (Decidable (_ ∧ _))

/-- The sub-wallets. Reference: `db/queries/get_total_subwallet_balance.go:11
GetTotalSubwalletBalanceMsat`. -/
def AppsTable.subwallets (J : JsonText) (apps : AppsTable) : List AppRow :=
  apps.rows.filter (·.IsSubwallet J)

/-- The ids that the subquery selects. Reference: `db/queries/get_total_subwallet_balance.go:11
GetTotalSubwalletBalanceMsat`. -/
def AppsTable.subwalletAppIDs (J : JsonText) (apps : AppsTable) : List Nat :=
  (apps.subwallets J).map (·.id)

/-- `app_id IN (?)`, which a `NULL` is not. Reference: `db/queries/get_total_subwallet_balance.go:20
GetTotalSubwalletBalanceMsat`. -/
def Transaction.InApps (ids : List Nat) (r : Transaction) : Prop := ∃ id ∈ ids, r.appId = some id

instance (ids : List Nat) (r : Transaction) : Decidable (r.InApps ids) :=
  inferInstanceAs (Decidable (∃ id ∈ ids, r.appId = some id))

/-- Reference: `db/queries/get_total_subwallet_balance.go:18 GetTotalSubwalletBalanceMsat`. -/
def Table.receivedByAny (t : Table) (ids : List Nat) : Nat :=
  ((t.rows.filter fun r => r.InApps ids ∧ r.type = .incoming ∧ r.state = .settled).map
    (·.amountMsat)).sum

/-- Reference: `db/queries/get_total_subwallet_balance.go:30 GetTotalSubwalletBalanceMsat`. -/
def Table.spentByAny (t : Table) (ids : List Nat) : Nat :=
  ((t.rows.filter fun r =>
    r.InApps ids ∧ r.type = .outgoing ∧ (r.state = .settled ∨ r.state = .pending)).map
    (·.charge)).sum

/-- Reference: `db/queries/get_total_subwallet_balance.go:10 GetTotalSubwalletBalanceMsat`. -/
def GetTotalSubwalletBalanceMsat (J : JsonText) (apps : AppsTable) (t : Table) : Except Err Int :=
  let ids := apps.subwalletAppIDs J
  if t.receivedByAny ids < 2 ^ 63 ∧ t.spentByAny ids < 2 ^ 63 then
    .ok (t.receivedByAny ids - t.spentByAny ids)
  else .error (.database "integer overflow")

/-- What the sub-wallets received, and what they spent, fits the database's integers. Reference:
SQL `SUM`. -/
def TotalsFit (J : JsonText) (apps : AppsTable) (t : Table) : Prop :=
  ((apps.subwallets J).map fun a => t.received a.id).sum < 2 ^ 63 ∧
    ((apps.subwallets J).map fun a => t.spent a.id).sum < 2 ^ 63

section
variable {ids : List Nat} {t : Table} {r : Transaction}

/-! ## The sum over several apps -/

/-- A sum over the rows of several apps is the sum of the sums for each of them. Reference: none. -/
theorem sum_comm_apps (w : Nat → Transaction → Nat) (rows : List Transaction) (ids : List Nat) :
    (rows.map fun r => (ids.map fun id => w id r).sum).sum =
      (ids.map fun id => (rows.map (w id)).sum).sum := by
  induction rows with
  | nil => simp
  | cons r rows ih =>
    have hadd : ∀ ids : List Nat, (ids.map fun id => ((r :: rows).map (w id)).sum).sum =
        (ids.map fun id => w id r).sum + (ids.map fun id => (rows.map (w id)).sum).sum := by
      intro ids
      induction ids with
      | nil => rfl
      | cons id ids ihs =>
        simp only [List.map_cons, List.sum_cons] at ihs ⊢
        omega
    rw [List.map_cons, List.sum_cons, ih, hadd]

/-- Of several distinct apps a row has one at most. Reference: none. -/
theorem sum_weights (hn : ids.Nodup) (p : Transaction → Prop) [DecidablePred p]
    (f : Transaction → Nat) (r : Transaction) :
    (ids.map fun id => if r.appId = some id ∧ p r then f r else 0).sum =
      if r.InApps ids ∧ p r then f r else 0 := by
  induction ids with
  | nil => simp [Transaction.InApps]
  | cons id ids ih =>
    obtain ⟨hid, hn⟩ := List.nodup_cons.1 hn
    rw [List.map_cons, List.sum_cons, ih hn]
    by_cases hr : r.appId = some id
    · have hnot : ¬ r.InApps ids := by
        rintro ⟨id', hmem, hid'⟩
        have heq : id = id' := Option.some.inj (hr.symm.trans hid')
        exact hid (heq ▸ hmem)
      have hin : r.InApps (id :: ids) := ⟨id, List.mem_cons_self, hr⟩
      simp [hr, hnot, hin]
    · have hin : r.InApps (id :: ids) ↔ r.InApps ids := by
        simp [Transaction.InApps, hr]
      simp [hr, hin]

theorem receivedByAny_eq (hn : ids.Nodup) :
    t.receivedByAny ids = (ids.map t.received).sum := by
  have hsum : ids.map t.received = ids.map fun id => (t.rows.map (·.receivedBy id)).sum :=
    List.map_congr_left fun id _ => Table.received_eq_sum
  rw [hsum, ← sum_comm_apps (fun id r => r.receivedBy id), Table.receivedByAny, sum_filter]
  congr 1
  refine List.map_congr_left fun r _ => ?_
  exact (sum_weights hn (fun r => r.type = .incoming ∧ r.state = .settled) (·.amountMsat) r).symm

theorem spentByAny_eq (hn : ids.Nodup) : t.spentByAny ids = (ids.map t.spent).sum := by
  have hsum : ids.map t.spent = ids.map fun id => (t.rows.map (·.spentBy id)).sum :=
    List.map_congr_left fun id _ => Table.spent_eq_sum
  rw [hsum, ← sum_comm_apps (fun id r => r.spentBy id), Table.spentByAny, sum_filter]
  congr 1
  refine List.map_congr_left fun r _ => ?_
  exact (sum_weights hn (fun r => r.type = .outgoing ∧ (r.state = .settled ∨ r.state = .pending))
    (·.charge) r).symm

/-- Rows that belong to none of the apps do not count. Reference:
`db/queries/get_total_subwallet_balance.go:20 GetTotalSubwalletBalanceMsat`. -/
theorem filter_inApps {t' : Table} (p : Transaction → Prop) [DecidablePred p]
    (h : t.rows.filter (·.InApps ids) = t'.rows.filter (·.InApps ids)) :
    (t.rows.filter fun r => r.InApps ids ∧ p r) = t'.rows.filter fun r => r.InApps ids ∧ p r := by
  have hand : ∀ rows : List Transaction, (rows.filter fun r => r.InApps ids ∧ p r) =
      (rows.filter (·.InApps ids)).filter fun r => p r := by
    intro rows
    rw [List.filter_filter]
    exact List.filter_congr fun r _ => by simp [Bool.and_comm]
  rw [hand, hand, h]

end

section
variable (J : JsonText) (apps : AppsTable) (t : Table)

theorem subwalletAppIDs_nodup : (apps.subwalletAppIDs J).Nodup :=
  apps.ids_nodup.sublist (List.filter_sublist.map _)

theorem receivedByAny_subwallets : t.receivedByAny (apps.subwalletAppIDs J) =
    ((apps.subwallets J).map fun a => t.received a.id).sum := by
  rw [receivedByAny_eq (subwalletAppIDs_nodup J apps), AppsTable.subwalletAppIDs, List.map_map]
  rfl

theorem spentByAny_subwallets : t.spentByAny (apps.subwalletAppIDs J) =
    ((apps.subwallets J).map fun a => t.spent a.id).sum := by
  rw [spentByAny_eq (subwalletAppIDs_nodup J apps), AppsTable.subwalletAppIDs, List.map_map]
  rfl

/-- Where the two sums over some apps fit, the balance of each of them is computed. Reference:
`db/queries/get_isolated_balance.go:8 GetIsolatedBalanceMsat`. -/
theorem balances_of_fit (l : List AppRow) (hr : (l.map fun a => t.received a.id).sum < 2 ^ 63)
    (hs : (l.map fun a => t.spent a.id).sum < 2 ^ 63) :
    ∃ balances, l.mapM (fun a => GetIsolatedBalanceMsat t a.id) = .ok balances ∧
      ((l.map fun a => t.received a.id).sum : Int) - (l.map fun a => t.spent a.id).sum =
        balances.sum := by
  induction l with
  | nil => exact ⟨[], rfl, rfl⟩
  | cons a l ih =>
    rw [List.map_cons, List.sum_cons] at hr hs
    obtain ⟨balances, hm, hsum⟩ := ih (by omega) (by omega)
    have ha : GetIsolatedBalanceMsat t a.id = .ok (t.received a.id - t.spent a.id) :=
      if_pos ⟨by omega, by omega⟩
    refine ⟨(t.received a.id - t.spent a.id) :: balances, ?_, ?_⟩
    · rw [List.mapM_cons, ha, hm]
      rfl
    · rw [List.map_cons, List.sum_cons, List.map_cons, List.sum_cons, List.sum_cons]
      omega

/-- The total is the sum of the balances of the sub-wallets if its two parts fit, and an error if
not; rows of other apps, of deleted ones and of none do not count. Reference:
`db/queries/get_total_subwallet_balance.go:10 GetTotalSubwalletBalanceMsat`. -/
theorem total_is_sum :
    (TotalsFit J apps t → ∃ balances,
      (apps.subwallets J).mapM (fun a => GetIsolatedBalanceMsat t a.id) = .ok balances ∧
        GetTotalSubwalletBalanceMsat J apps t = .ok balances.sum) ∧
    (¬ TotalsFit J apps t → ∃ e, GetTotalSubwalletBalanceMsat J apps t = .error e) ∧
    ∀ t' : Table, t.rows.filter (·.InApps (apps.subwalletAppIDs J)) =
      t'.rows.filter (·.InApps (apps.subwalletAppIDs J)) →
        GetTotalSubwalletBalanceMsat J apps t' = GetTotalSubwalletBalanceMsat J apps t := by
  refine ⟨fun hfit => ?_, fun hfit => ?_, fun t' h => ?_⟩
  · obtain ⟨balances, hm, hsum⟩ := balances_of_fit t (apps.subwallets J) hfit.1 hfit.2
    refine ⟨balances, hm, ?_⟩
    simp only [GetTotalSubwalletBalanceMsat, receivedByAny_subwallets, spentByAny_subwallets]
    exact (if_pos hfit).trans (congrArg Except.ok hsum)
  · simp only [GetTotalSubwalletBalanceMsat, receivedByAny_subwallets, spentByAny_subwallets]
    exact ⟨_, if_neg hfit⟩
  · have hreceived : t'.receivedByAny (apps.subwalletAppIDs J) =
        t.receivedByAny (apps.subwalletAppIDs J) := by
      rw [Table.receivedByAny, ← filter_inApps _ h, Table.receivedByAny]
    have hspent : t'.spentByAny (apps.subwalletAppIDs J) =
        t.spentByAny (apps.subwalletAppIDs J) := by
      rw [Table.spentByAny, ← filter_inApps _ h, Table.spentByAny]
    simp only [GetTotalSubwalletBalanceMsat, hreceived, hspent]

end

/-! ## Sub-wallets that are not isolated -/

/-- The metadata of a sub-wallet. Reference: `db/queries/get_total_subwallet_balance_test.go:24`. -/
def subwalletMetadata : String := "\x7b\"app_store_app_id\":\"uncle-jim\"\x7d"

/-- Reference: gorm `datatypes.JSONQuery` on that text. -/
def subwalletText : JsonText := fun metadata key =>
  if metadata = subwalletMetadata ∧ key = metadataAppstoreAppIdKey then some "uncle-jim" else none

/-- Apps with the metadata of a sub-wallet, of which the first may be isolated or not. Reference:
`db/models.go:18 App`. -/
def twoApps (isolated : Bool) : AppsTable where
  rows := [{ id := 1, name := "app", isolated, appPubkey := "a", metadata := subwalletMetadata },
    { id := 2, name := "sub-wallet", isolated := true, appPubkey := "b"
      metadata := subwalletMetadata }]
  ids_nodup := by simp

/-- A table with a payment that each of them received. Reference: none. -/
def twoPayments (amountMsat : Nat) : Table :=
  (Table.empty.create 0
    { appId := some 1, type := .incoming, state := .settled, amountMsat := amountMsat }).create 0
    { appId := some 2, type := .incoming, state := .settled, amountMsat := amountMsat }

/-- The total counts the payment of an app that is not isolated; and where each balance fits the
database's integers, their sum may not. Reference: `db/queries/get_total_subwallet_balance.go:13
GetTotalSubwalletBalanceMsat`. -/
theorem subwallet_total_differs :
    GetTotalSubwalletBalanceMsat subwalletText (twoApps false) (twoPayments 1000) = .ok 2000 ∧
    GetTotalSubwalletBalanceMsat subwalletText (twoApps true) (twoPayments (2 ^ 62)) =
      .error (.database "integer overflow") ∧
    ¬ ∀ (J : JsonText) (apps : AppsTable) (t : Table) (balances : List Int),
      ((apps.subwallets J).filter (·.isolated)).mapM (fun a => GetIsolatedBalanceMsat t a.id) =
        .ok balances → GetTotalSubwalletBalanceMsat J apps t = .ok balances.sum := by
  have htotal : GetTotalSubwalletBalanceMsat subwalletText (twoApps false) (twoPayments 1000) =
      .ok 2000 := by decide +kernel
  refine ⟨htotal, by decide +kernel, fun h => ?_⟩
  have hsum := h subwalletText (twoApps false) (twoPayments 1000) [1000] (by decide +kernel)
  exact absurd (htotal.symm.trans hsum) (by decide)

end AlbyHub
