import AlbyHub.Db.Paging
import AlbyHub.Interaction.Solo
import AlbyHub.Transactions.Effects
import AlbyHub.Transactions.Runs
import Mathlib.Data.List.Permutation

/-!
# Reading the transactions by pages

A client reads the listing with the offsets 0, `limit`, `2 * limit`, … until a page is empty. The
rows are ordered by the instant of their last change alone, so rows that were changed at one instant
have no order, and each page may come from another one. `pages_once_iff` says when the pages are the
rows of the listing: when no such rows are on two sides of a page boundary, the offsets fit an `int`
and the driver takes the arguments.
-/

namespace AlbyHub

open Go Interaction

/-- The listing behind the check of the unsettled transactions. Reference:
`transactions/transactions_service.go:657 ListTransactions`. -/
def listPage (params : ListQuery) (appId : Option Nat) (forceFilterByAppId : Bool) :
    Svc (Except Err (List Transaction × Nat)) := do
  match ← isolatedAppId appId with
  | .error e => return .error e
  | .ok isolated =>
    queryPage { params with appId := if forceFilterByAppId then appId else isolated }

/-- Reference: `transactions/transactions_service.go:654 ListTransactions`. -/
theorem ListTransactions_eq (W : World) (params : ListQuery) (appId : Option Nat)
    (forceFilterByAppId : Bool) : ListTransactions W params appId forceFilterByAppId =
      (checkUnsettledTransactions W >>= fun _ => listPage params appId forceFilterByAppId) := rfl

/-- A call of `ListTransactions` that finds the database `db` when it queries the rows answers `a`.
Reference: `transactions/transactions_service.go:654 ListTransactions`. -/
def ListsIn (W : World) (db : DB) (params : ListQuery) (appId : Option Nat)
    (forceFilterByAppId : Bool) (a : List Transaction × Nat) : Prop :=
  ∃ s s₁ s', (checkUnsettledTransactions W).Runs (exec W) s () s₁ ∧ s₁.db = db ∧
    (listPage params appId forceFilterByAppId).Runs (exec W) s₁ (.ok a) s'

/-- The parameters of the `k`-th page. Reference: none. -/
def ListQuery.at (params : ListQuery) (limit k : Nat) : ListQuery :=
  { params with limit, offset := k * limit }

/-- The query of the listing: it is restricted to the app if the app is isolated, or if the caller
wants this. Reference: `transactions/transactions_service.go:671 ListTransactions`. -/
def listedQuery (db : DB) (params : ListQuery) (appId : Option Nat) (forceFilterByAppId : Bool) :
    ListQuery :=
  { params with
    appId := if forceFilterByAppId then appId
      else appId.filter fun id => db.apps.any fun a => a.id = id && a.isolated }

/-- The rows that match. Reference: `transactions/transactions_service.go:654 ListTransactions`. -/
def matching (W : World) (db : DB) (params : ListQuery) (appId : Option Nat)
    (forceFilterByAppId : Bool) : List Transaction :=
  (listedQuery db params appId forceFilterByAppId).rows W db.transactions

/-- Reading page after page until one is empty gives each matching row once, whatever order the
database gives to each page, and every page comes with their number. Reference: none. -/
def PagesOnce (W : World) (db : DB) (params : ListQuery) (appId : Option Nat)
    (forceFilterByAppId : Bool) (limit : Nat) : Prop :=
  (∀ k, ∃ a, ListsIn W db (params.at limit k) appId forceFilterByAppId a) ∧
    ∀ pages : Nat → List Transaction × Nat,
      (∀ k, ListsIn W db (params.at limit k) appId forceFilterByAppId (pages k)) →
        ∃ n, (pages n).1 = [] ∧ (∀ k < n, (pages k).1 ≠ []) ∧
          ((List.range n).flatMap fun k => (pages k).1).Perm
            (matching W db params appId forceFilterByAppId) ∧
          ∀ k ≤ n, (pages k).2 = ((List.range n).flatMap fun k => (pages k).1).length

section
variable {W : World} {db : DB} {params : ListQuery} {appId : Option Nat}
variable {forceFilterByAppId : Bool} {limit k : Nat} {l σ : List Transaction} {q : ListQuery}

/-! ## One page -/

instance : Std.Total fun r r' : Transaction => r'.updatedAt ≤ r.updatedAt :=
  ⟨fun r r' => Int.le_total r'.updatedAt r.updatedAt⟩

instance : IsTrans Transaction fun r r' => r'.updatedAt ≤ r.updatedAt :=
  ⟨fun _ _ _ h h' => Int.le_trans h' h⟩

/-- The database may answer every order that the key allows, and no other one. Reference: SQL
`ORDER BY`. -/
theorem exists_orderUpdated :
    (∃ n, orderUpdated n l = σ) ↔ Paging.Ordered (·.updatedAt) l σ := by
  constructor
  · rintro ⟨n, rfl⟩
    refine ⟨(List.perm_insertionSort _ _).trans ?_, List.pairwise_insertionSort _ _⟩
    cases hp : pick n l.permutations with
    | none => exact List.Perm.refl l
    | some τ => exact List.mem_permutations.1 (mem_of_pick hp)
  · intro ho
    obtain ⟨n, hn⟩ := exists_pick (List.mem_permutations.2 ho.perm)
    refine ⟨n, ?_⟩
    rw [orderUpdated, hn]
    exact ho.sorted.insertionSort_eq

/-- A listing that succeeds reads the state only. Reference:
`transactions/transactions_service.go:654 ListTransactions`. -/
theorem query_ok {α : Type} {s s' : Hub} {env : Env} {a : α} {r : Except Err α}
    (h : s.query env q a = some (r, s')) : s' = s ∧ (∀ b, r = .ok b → q.Bindable ∧ b = a) := by
  unfold Hub.query at h
  split at h
  · next hb =>
    unfold Hub.read at h
    split at h
    · cases h
      exact ⟨rfl, nofun⟩
    · cases h
      exact ⟨rfl, fun b hok => ⟨hb, (Except.ok.inj hok).symm⟩⟩
  · cases h
    exact ⟨rfl, nofun⟩

/-- A listing without a fault succeeds. Reference: `transactions/transactions_service.go:654
ListTransactions`. -/
theorem query_of_bindable {α : Type} {s : Hub} {env : Env} {a : α} (hb : q.Bindable)
    (he : env.fault = none) : s.query env q a = some (.ok a, s) := by
  rw [Hub.query, if_pos hb, Hub.read, he]

/-- What a page query answers. Reference: `transactions/transactions_service.go:731
ListTransactions`. -/
theorem runs_queryPage {s : Hub} {a : List Transaction × Nat} :
    (∃ s', (queryPage q).Runs (exec W) s (.ok a) s') ↔
      q.Bindable ∧ (∃ n, a.1 = q.page (orderUpdated n (q.rows W s.db.transactions))) ∧
        a.2 = (q.rows W s.db.transactions).length := by
  constructor
  · rintro ⟨s', h⟩
    obtain ⟨env, r, s₁, hx, h⟩ := Prog.runs_call_bind.1 h
    obtain ⟨rfl, hcount⟩ := query_ok hx
    cases r with
    | error e => cases h.1
    | ok totalCount =>
      obtain ⟨env', r, s₂, hx', h⟩ := Prog.runs_call_bind.1 h
      obtain ⟨rfl, hlist⟩ := query_ok hx'
      cases r with
      | error e => cases h.1
      | ok transactions =>
        obtain ⟨heq, -⟩ := h
        obtain rfl := Except.ok.inj heq
        exact ⟨(hcount _ rfl).1, ⟨env'.pick, (hlist _ rfl).2⟩, (hcount _ rfl).2⟩
  · rintro ⟨hb, ⟨n, hn⟩, hcount⟩
    obtain ⟨rows, count⟩ := a
    obtain rfl : rows = _ := hn
    obtain rfl : count = _ := hcount
    refine ⟨s, Prog.runs_call_bind.2 ⟨{}, .ok _, s, query_of_bindable hb rfl, ?_⟩⟩
    exact Prog.runs_call_bind.2 ⟨{ pick := n }, .ok _, s, query_of_bindable hb rfl, rfl, rfl⟩

/-- What a listing answers. Reference: `transactions/transactions_service.go:654
ListTransactions`. -/
theorem runs_listPage {s : Hub} {a : List Transaction × Nat} :
    (∃ s', (listPage params appId forceFilterByAppId).Runs (exec W) s (.ok a) s') ↔
      (listedQuery s.db params appId forceFilterByAppId).Bindable ∧
        (∃ n, a.1 = (listedQuery s.db params appId forceFilterByAppId).page
          (orderUpdated n (matching W s.db params appId forceFilterByAppId))) ∧
        a.2 = (matching W s.db params appId forceFilterByAppId).length := by
  cases appId with
  | none =>
    have hq : listedQuery s.db params none forceFilterByAppId =
        { params with appId := if forceFilterByAppId then none else none } := rfl
    rw [matching, hq]
    exact runs_queryPage
  | some id =>
    have hfilter : (some id).filter (fun id => s.db.apps.any fun a => a.id = id && a.isolated) =
        if s.db.apps.any fun a => a.id = id && a.isolated then some id else none := rfl
    constructor
    · rintro ⟨s', h⟩
      obtain ⟨env, r, s₁, hx, h⟩ := Prog.runs_call_bind.1 h
      obtain ⟨rfl, ⟨e, rfl⟩ | rfl⟩ := Hub.read_eq hx
      · cases h.1
      · have hrun := runs_queryPage.1 ⟨s', h⟩
        rw [matching, listedQuery, hfilter]
        exact hrun
    · intro h
      rw [matching, listedQuery, hfilter] at h
      obtain ⟨s', hrun⟩ := runs_queryPage.2 h
      exact ⟨s', Prog.runs_call_bind.2 ⟨{}, .ok _, s, rfl, hrun⟩⟩

/-- The check of the unsettled transactions may leave the database as it is. Reference:
`transactions/transactions_service.go:755 checkUnsettledTransactions`. -/
theorem runs_check (s : Hub) : (checkUnsettledTransactions W).Runs (exec W) s () s := by
  unfold checkUnsettledTransactions
  split
  · exact ⟨rfl, rfl⟩
  · refine Prog.runs_call_bind.2 ⟨{}, _, s, rfl, ?_⟩
    exact Prog.runs_call_bind.2 ⟨{ fault := some "" }, .error _, s, rfl, rfl, rfl⟩

/-- What a call of `ListTransactions` answers in a database. Reference:
`transactions/transactions_service.go:654 ListTransactions`. -/
theorem listsIn_iff {a : List Transaction × Nat} :
    ListsIn W db (params.at limit k) appId forceFilterByAppId a ↔
      (listedQuery db params appId forceFilterByAppId).Bindable ∧
        (∃ σ, Paging.Ordered (·.updatedAt) (matching W db params appId forceFilterByAppId) σ ∧
          a.1 = ((listedQuery db params appId forceFilterByAppId).at limit k).page σ) ∧
        a.2 = (matching W db params appId forceFilterByAppId).length := by
  have hpages : ∀ s : Hub, s.db = db →
      ((∃ s', (listPage (params.at limit k) appId forceFilterByAppId).Runs (exec W) s (.ok a) s') ↔
        (listedQuery db params appId forceFilterByAppId).Bindable ∧
          (∃ n, a.1 = ((listedQuery db params appId forceFilterByAppId).at limit k).page
            (orderUpdated n (matching W db params appId forceFilterByAppId))) ∧
          a.2 = (matching W db params appId forceFilterByAppId).length) := by
    rintro s rfl
    exact runs_listPage
  constructor
  · rintro ⟨s, s₁, s', -, hdb, h⟩
    obtain ⟨hb, ⟨n, hn⟩, hcount⟩ := (hpages s₁ hdb).1 ⟨s', h⟩
    exact ⟨hb, ⟨_, exists_orderUpdated.1 ⟨n, rfl⟩, hn⟩, hcount⟩
  · rintro ⟨hb, ⟨σ, ho, hpage⟩, hcount⟩
    obtain ⟨n, rfl⟩ := exists_orderUpdated.2 ho
    obtain ⟨s', h⟩ := (hpages ⟨db, []⟩ rfl).2 ⟨hb, ⟨n, hpage⟩, hcount⟩
    exact ⟨⟨db, []⟩, ⟨db, []⟩, s', runs_check _, rfl, h⟩

/-! ## The offsets of the pages -/

/-- Every offset that is asked for fits an `int`. Reference:
`transactions/transactions_service.go:743 ListTransactions`. -/
def OffsetsFit (count limit : Nat) : Prop := ∀ k, k * limit < count → (k + 1) * limit < 2 ^ 63

/-- A page whose numbers fit. Reference: `transactions/transactions_service.go:739
ListTransactions`. -/
theorem page_at (hpos : 0 < limit) (hlimit : limit < 2 ^ 63) (hoffset : k * limit < 2 ^ 63) :
    (q.at limit k).page σ = Paging.page (k * limit) limit σ := by
  have hl : int64 limit = limit := int64_of_lt hlimit
  have ho : int64 (k * limit) = (k * limit : Nat) := int64_of_lt hoffset
  unfold ListQuery.page ListQuery.at Paging.page
  simp only [hl, ho]
  rw [if_pos ⟨hpos, Int.natCast_nonneg limit⟩, Int.toNat_natCast]
  by_cases hk : 0 < ((k * limit : Nat) : Int)
  · rw [if_pos hk, Int.toNat_natCast]
  · have hzero : k * limit = 0 := by omega
    rw [if_neg hk, hzero, List.drop_zero]

/-- An empty listing has empty pages. Reference: `transactions/transactions_service.go:739
ListTransactions`. -/
theorem page_nil : (q.at limit k).page [] = [] := by
  unfold ListQuery.page
  simp

/-- A page with an offset that an `int` makes negative begins with the first row. Reference:
`transactions/transactions_service.go:743 ListTransactions`, gorm `clause.Limit`. -/
theorem page_of_negative (hn : int64 (k * limit) ≤ 0) :
    (q.at limit k).page σ = (q.at limit 0).page σ := by
  have hzero : int64 (0 * limit) = 0 := by rw [Nat.zero_mul]; rfl
  unfold ListQuery.page ListQuery.at
  have hnot : ¬ 0 < int64 (k * limit) := by omega
  simp only [hzero, Int.lt_irrefl, hnot, if_false]

/-- The upper half of the unsigned numbers is negative. Reference: the Go language, conversions. -/
theorem int64_neg {n : Nat} (hge : 2 ^ 63 ≤ n) (hlt : n < 2 ^ 64) : int64 n < 0 := by
  unfold int64
  rw [Nat.mod_eq_of_lt hlt, if_neg (by omega)]
  omega

/-- A page that begins before the last row has a row. Reference:
`transactions/transactions_service.go:739 ListTransactions`. -/
theorem page_ne_nil (hpos : 0 < limit) (hlimit : limit < 2 ^ 64) (hoffset : k * limit < 2 ^ 63)
    (hk : k * limit < σ.length) : (q.at limit k).page σ ≠ [] := by
  by_cases hl : limit < 2 ^ 63
  · rw [page_at hpos hl hoffset, Paging.page]
    intro hnil
    have hlen := congrArg List.length hnil
    rw [List.length_take, List.length_drop, List.length_nil] at hlen
    omega
  · -- Such a limit is negative as an `int`, and only the first page begins before it.
    have hzero : k = 0 := by
      rcases Nat.eq_zero_or_pos k with hk0 | hk0
      · exact hk0
      · have hle : limit ≤ k * limit := Nat.le_mul_of_pos_left limit hk0
        omega
    obtain rfl := hzero
    have hneg := int64_neg (Nat.not_lt.1 hl) hlimit
    have hnot : ¬ (limit > 0 ∧ 0 ≤ int64 limit) := by omega
    have hstart : int64 (0 * limit) = 0 := by rw [Nat.zero_mul]; rfl
    unfold ListQuery.page ListQuery.at
    simp only [hstart, Int.lt_irrefl, if_false]
    rw [if_neg hnot]
    intro hnil
    rw [hnil] at hk
    exact Nat.not_lt_zero _ hk

/-- Where some offset does not fit, the first such page begins with the first row again. Reference:
`transactions/transactions_service.go:743 ListTransactions`. -/
theorem exists_negative {count : Nat} (hlimit : limit < 2 ^ 64) (hn : ¬ OffsetsFit count limit) :
    ∃ k, 0 < k ∧ (∀ j < k, j * limit < count ∧ j * limit < 2 ^ 63) ∧ int64 (k * limit) < 0 := by
  have hex : ∃ k, k * limit < count ∧ 2 ^ 63 ≤ (k + 1) * limit := by
    by_contra hall
    refine hn fun k hk => Nat.not_le.1 fun hge => hall ⟨k, hk, hge⟩
  classical
  obtain ⟨hcount, hge⟩ := Nat.find_spec hex
  have hleast : ∀ j, j < Nat.find hex → ¬ (j * limit < count ∧ 2 ^ 63 ≤ (j + 1) * limit) :=
    fun j hj => Nat.find_min hex hj
  generalize Nat.find hex = k at hcount hge hleast
  have hbefore : ∀ j, j ≤ k → j * limit < count := fun j hj =>
    Nat.lt_of_le_of_lt (Nat.mul_le_mul_right limit hj) hcount
  have hfits : ∀ j, j ≤ k → j * limit < 2 ^ 63 := by
    intro j hj
    cases j with
    | zero => rw [Nat.zero_mul]; decide
    | succ j => exact Nat.not_le.1 fun h => hleast j hj ⟨hbefore j (Nat.le_of_succ_le hj), h⟩
  have hmul : (k + 1) * limit = k * limit + limit := Nat.succ_mul k limit
  refine ⟨k + 1, Nat.succ_pos k, fun j hj => ⟨hbefore j (by omega), hfits j (by omega)⟩, ?_⟩
  refine int64_neg hge ?_
  rcases Nat.eq_zero_or_pos k with hk0 | hk0
  · obtain rfl := hk0
    omega
  · have hle : limit ≤ k * limit := Nat.le_mul_of_pos_left limit hk0
    have hk := hfits k (Nat.le_refl k)
    omega

/-! ## All pages -/

/-- The rows of a listing are distinct. Reference: the primary key of `transactions`. -/
theorem matching_nodup : (matching W db params appId forceFilterByAppId).Nodup :=
  (List.Nodup.of_map _ db.transactions.ids_nodup).filter _

/-- Where the pages are the rows of the listing, no row is on two of them. Reference: none. -/
theorem not_twice {pages : Nat → List Transaction} {n i j : Nat} {r : Transaction}
    (hp : ((List.range n).flatMap pages).Perm l) (hl : l.Nodup) (hij : i < j) (hj : j < n)
    (hri : r ∈ pages i) : r ∉ pages j := by
  have hdisjoint := (List.nodup_flatMap.1 (hp.nodup_iff.2 hl)).2
  have hpair := List.pairwise_iff_getElem.1 hdisjoint i j (by simp; omega) (by simpa) hij
  simp only [List.getElem_range] at hpair
  exact hpair hri

/-- Where the conditions hold, the pages up to the first empty one are the rows. Reference:
`transactions/transactions_service.go:654 ListTransactions`. -/
theorem pages_of_conditions {orders : Nat → List Transaction} (hpos : 0 < limit)
    (ho : ∀ k, Paging.Ordered (·.updatedAt) l (orders k)) (hlimit : limit < 2 ^ 64)
    (hfit : OffsetsFit l.length limit) (hties : Paging.NoTieAcross (·.updatedAt) l limit) :
    ∃ n, (q.at limit n).page (orders n) = [] ∧ (∀ k < n, (q.at limit k).page (orders k) ≠ []) ∧
      ((List.range n).flatMap fun k => (q.at limit k).page (orders k)).Perm l := by
  have hlen : ∀ k, (orders k).length = l.length := fun k => (ho k).length
  -- The number of pages that have a row.
  obtain ⟨n, hlast, hbefore⟩ : ∃ n, l.length ≤ n * limit ∧ ∀ k < n, k * limit < l.length := by
    have hex : ∃ n, l.length ≤ n * limit := ⟨l.length, Nat.le_mul_of_pos_right _ hpos⟩
    classical
    exact ⟨Nat.find hex, Nat.find_spec hex, fun k hk => Nat.not_le.1 (Nat.find_min hex hk)⟩
  have hoffset : ∀ k ≤ n, k * limit < 2 ^ 63 := by
    intro k hk
    cases k with
    | zero => rw [Nat.zero_mul]; decide
    | succ k => exact hfit k (hbefore k hk)
  have hsmall : 0 < l.length → limit < 2 ^ 63 := by
    intro hl
    have h0 := hfit 0 (by rw [Nat.zero_mul]; exact hl)
    rwa [Nat.zero_add, Nat.one_mul] at h0
  have hpage : ∀ k ≤ n, (q.at limit k).page (orders k) =
      Paging.page (k * limit) limit (orders k) := by
    intro k hk
    rcases Nat.eq_zero_or_pos l.length with hl | hl
    · have hnil : orders k = [] := List.eq_nil_of_length_eq_zero ((hlen k).trans hl)
      rw [hnil, page_nil, Paging.page, List.drop_nil, List.take_nil]
    · exact page_at hpos (hsmall hl) (hoffset k hk)
  refine ⟨n, ?_, fun k hk => ?_, ?_⟩
  · rw [hpage n (Nat.le_refl n), Paging.page,
      List.drop_eq_nil_of_le (by rw [hlen]; exact hlast), List.take_nil]
  · refine page_ne_nil hpos hlimit (hoffset k hk.le) ?_
    rw [hlen]
    exact hbefore k hk
  · have hpages : ((List.range n).flatMap fun k => (q.at limit k).page (orders k)) =
        (List.range n).flatMap fun k => Paging.page (k * limit) limit (orders k) :=
      List.flatMap_congr fun k hk => hpage k (List.mem_range.1 hk).le
    rw [hpages]
    refine (Paging.pages_perm ho (ho 0) hties n).trans ?_
    rw [List.take_of_length_le (by rw [hlen]; exact hlast)]
    exact (ho 0).perm

/-- Where the pages are the rows of the listing whatever their orders, the conditions hold.
Reference: `transactions/transactions_service.go:654 ListTransactions`. -/
theorem conditions_of_pages (hpos : 0 < limit) (hlimit : limit < 2 ^ 64) (hl : l.Nodup)
    (hpages : ∀ orders : Nat → List Transaction,
      (∀ k, Paging.Ordered (·.updatedAt) l (orders k)) →
        ∃ n, (q.at limit n).page (orders n) = [] ∧
          ((List.range n).flatMap fun k => (q.at limit k).page (orders k)).Perm l) :
    OffsetsFit l.length limit ∧ Paging.NoTieAcross (·.updatedAt) l limit := by
  obtain ⟨σ, hσ⟩ : ∃ σ, Paging.Ordered (·.updatedAt) l σ := ⟨_, exists_orderUpdated.1 ⟨0, rfl⟩⟩
  have hfit : OffsetsFit l.length limit := by
    by_contra hnot
    -- The page with the first negative offset begins with the first row, as the first page does.
    obtain ⟨k, hk0, hbefore, hneg⟩ := exists_negative hlimit hnot
    obtain ⟨n, hnil, hperm⟩ := hpages (fun _ => σ) fun _ => hσ
    have hpage : ∀ j < k, (q.at limit j).page σ ≠ [] := fun j hj =>
      page_ne_nil hpos hlimit (hbefore j hj).2 (hσ.length ▸ (hbefore j hj).1)
    have hagain : (q.at limit k).page σ = (q.at limit 0).page σ := page_of_negative hneg.le
    have hkn : k < n := by
      by_contra hle
      rcases Nat.eq_or_lt_of_le (Nat.not_lt.1 hle) with rfl | hlt
      · exact hpage 0 hk0 (hagain ▸ hnil)
      · exact hpage n hlt hnil
    obtain ⟨r, hr⟩ := List.exists_mem_of_ne_nil _ (hpage 0 hk0)
    exact not_twice hperm hl hk0 hkn hr (hagain ▸ hr)
  refine ⟨hfit, fun k hk0 hk heq => ?_⟩
  obtain ⟨σ', a, hσ', ha, ha'⟩ := hσ.exists_swapped (Nat.mul_pos hk0 hpos) hk heq
  have horders : ∀ j, Paging.Ordered (·.updatedAt) l (if j = k then σ' else σ) := by
    intro j
    split
    · exact hσ'
    · exact hσ
  obtain ⟨n, hnil, hperm⟩ := hpages (fun j => if j = k then σ' else σ) horders
  obtain ⟨j, rfl⟩ : ∃ j, k = j + 1 := ⟨k - 1, by omega⟩
  have hmul : (j + 1) * limit = j * limit + limit := Nat.succ_mul j limit
  have hfits : (j + 1) * limit < 2 ^ 63 := hfit j (by omega)
  have hkn : j + 1 < n := by
    by_contra hle
    have hn : n * limit ≤ (j + 1) * limit := Nat.mul_le_mul_right limit (Nat.not_lt.1 hle)
    refine page_ne_nil hpos hlimit (Nat.lt_of_le_of_lt hn hfits) ?_ hnil
    rw [(horders n).length]
    exact Nat.lt_of_le_of_lt hn hk
  -- The row is the last one of page `j`, and the first one of the next page.
  have hlast : a ∈ (q.at limit j).page (if j = j + 1 then σ' else σ) := by
    rw [if_neg (by omega), page_at hpos (by omega) (by omega)]
    refine List.mem_of_getElem? (i := limit - 1) ?_
    rw [Paging.page, List.getElem?_take_of_lt (by omega), List.getElem?_drop, ← ha]
    congr 1
    omega
  have hfirst : a ∈ (q.at limit (j + 1)).page (if j + 1 = j + 1 then σ' else σ) := by
    rw [if_pos rfl, page_at hpos (by omega) hfits]
    refine List.mem_of_getElem? (i := 0) ?_
    rw [Paging.page, List.getElem?_take_of_lt hpos, List.getElem?_drop, ← ha']
    congr 1
  exact not_twice hperm hl (Nat.lt_succ_self j) hkn hlast hfirst

/-- Where the pages are right, the conditions hold. Reference:
`transactions/transactions_service.go:654 ListTransactions`. -/
theorem conditions_of_pagesOnce (hpos : 0 < limit) (hlimit : limit < 2 ^ 64)
    (h : PagesOnce W db params appId forceFilterByAppId limit) :
    params.Bindable ∧
      OffsetsFit (matching W db params appId forceFilterByAppId).length limit ∧
      Paging.NoTieAcross (·.updatedAt) (matching W db params appId forceFilterByAppId) limit := by
  obtain ⟨a, ha⟩ := h.1 0
  have hb := (listsIn_iff.1 ha).1
  refine ⟨hb, conditions_of_pages (q := listedQuery db params appId forceFilterByAppId) hpos
    hlimit matching_nodup fun orders ho => ?_⟩
  obtain ⟨n, hnil, -, hperm, -⟩ := h.2 (fun k => (_, _)) fun k =>
    listsIn_iff.2 ⟨hb, ⟨orders k, ho k, rfl⟩, rfl⟩
  exact ⟨n, hnil, hperm⟩

/-- Reading page after page gives each matching row once, whatever order the database gives to rows
that were changed at one instant, if and only if the driver takes the arguments, the offsets fit an
`int`, and no two such rows are on two sides of a page boundary. Reference:
`transactions/transactions_service.go:654 ListTransactions`. -/
theorem pages_once_iff (W : World) (db : DB) (params : ListQuery) (appId : Option Nat)
    (forceFilterByAppId : Bool) (limit : Nat) (hpos : 0 < limit) (hlimit : limit < 2 ^ 64) :
    PagesOnce W db params appId forceFilterByAppId limit ↔
      params.Bindable ∧
      OffsetsFit (matching W db params appId forceFilterByAppId).length limit ∧
      Paging.NoTieAcross (·.updatedAt) (matching W db params appId forceFilterByAppId) limit := by
  refine ⟨conditions_of_pagesOnce hpos hlimit, ?_⟩
  rintro ⟨hb, hfit, hties⟩
  refine ⟨fun k => ⟨(_, _), listsIn_iff.2 ⟨hb, ⟨_, exists_orderUpdated.1 ⟨0, rfl⟩, rfl⟩, rfl⟩⟩,
    fun pages hpages => ?_⟩
  choose orders ho hpage using fun k => (listsIn_iff.1 (hpages k)).2.1
  have hcount := fun k => (listsIn_iff.1 (hpages k)).2.2
  obtain ⟨n, hnil, hne, hperm⟩ := pages_of_conditions
    (q := listedQuery db params appId forceFilterByAppId) hpos ho hlimit hfit hties
  simp only [← hpage] at hnil hne hperm
  exact ⟨n, hnil, hne, hperm, fun k _ => (hcount k).trans hperm.length_eq.symm⟩

end

/-! ## Two rows of one instant -/

/-- Two invoices that were settled at one instant. Reference: none. -/
def sameInstant : DB where
  transactions := (Table.empty.create 0 { type := .incoming, state := .settled }).create 0
    { type := .incoming, state := .settled }
  apps := []
  permissions := []
  apps_nodup := by simp

/-- The first page may have one of the rows, and the second page the same one. Reference:
`transactions/transactions_service.go:737 ListTransactions`. -/
theorem same_instant_twice : ¬ PagesOnce demo sameInstant {} none false 1 := by
  intro h
  have hties := (conditions_of_pagesOnce (by decide) (by decide) h).2.2
  exact hties 1 (by decide) (by decide +kernel) (by decide +kernel)

/-- With two rows to a page there is no boundary between them. Reference: none. -/
theorem pages_once_iff_two :
    0 < 2 ∧ 2 < 2 ^ 64 ∧ (PagesOnce demo sameInstant {} none false 2 ↔
      ({} : ListQuery).Bindable ∧ OffsetsFit (matching demo sameInstant {} none false).length 2 ∧
      Paging.NoTieAcross (·.updatedAt) (matching demo sameInstant {} none false) 2) :=
  ⟨by decide, by decide, pages_once_iff demo sameInstant {} none false 2 (by decide) (by decide)⟩

end AlbyHub
