import AlbyHub.Apps.RequestedBudget

/-!
# What an update retains

An update of the permissions writes the same terms to all rows of the app, and takes what the
request does not carry from the app's first `pay_invoice` row. So the rows that it keeps retain what
was not asked for exactly where they agree in it with that row, or, without one, have no expiry, no
limit and no renewal (`update_only_changes_asked_iff`). The other promises hold of every update: the
scopes stay where the request has none, new rows get the terms of those that are kept, no other app
is touched, and an update that fails changes nothing.
-/

namespace AlbyHub

open Go

/-- The terms that an update starts from. Reference: `api/api.go:244 UpdateApp`. -/
def Registry.defaultTerms (r : Registry) (appId : Nat) : Terms :=
  (r.payInvoiceTerms appId).getD ⟨none, 0, ""⟩

/-- The maximum amount of the request, in sat. Reference: `api/api.go:172 UpdateApp`. -/
def UpdateAppRequest.maximum (request : UpdateAppRequest) : Option Nat :=
  ResolveToSat request.maxAmountSat request.maxAmountMsat request.maxAmount none

/-- The request keeps the scope. Reference: `api/api.go:291 UpdateApp`. -/
def UpdateAppRequest.Keeps (request : UpdateAppRequest) (scope : String) : Prop :=
  ∀ scopes, request.scopes = some scopes → scope ∈ scopes

/-- The terms agree in what the request does not carry. Reference: `api/api.go:260 UpdateApp`. -/
structure UpdateAppRequest.Retains (request : UpdateAppRequest) (t t' : Terms) : Prop where
  expiresAt : request.expiresAt = none → request.updateExpiresAt = false →
    t'.expiresAt = t.expiresAt
  maxAmountSat : request.maximum = none → t'.maxAmountSat = t.maxAmountSat
  budgetRenewal : request.budgetRenewal = none → t'.budgetRenewal = t.budgetRenewal

/-- The stored amounts are `int` values. Reference: `db/models.go:38 AppPermission`. -/
def Registry.AmountsFit (r : Registry) : Prop :=
  ∀ p ∈ r.permissions, -2 ^ 63 ≤ p.maxAmountSat ∧ p.maxAmountSat < 2 ^ 63

/-- The update changes only what the request asks for. Reference: `api/api.go:239 UpdateApp`. -/
structure UpdateAppRequest.OnlyAsked (request : UpdateAppRequest) (appId : Nat) (r r' : Registry) :
    Prop where
  kept : ∀ p ∈ r.permissions, p.appId = appId → request.Keeps p.scope →
    ∃ p' ∈ r'.permissions, p'.id = p.id ∧ p'.appId = appId ∧ p'.scope = p.scope ∧
      request.Retains p.terms p'.terms
  scopes : request.scopes = none → (r'.grants appId).map (·.1) = (r.grants appId).map (·.1)
  added : ∀ g ∈ r'.grants appId, ∀ g' ∈ r'.grants appId, g.1 ∉ (r.grants appId).map (·.1) →
    g'.1 ∈ (r.grants appId).map (·.1) → g.2 = g'.2
  others : ∀ id, id ≠ appId → r'.grants id = r.grants id

section
variable {r r' : Registry} {userApp app : AppRow} {env : AppsEnv} {expiresAt : Option Time}
variable {budgetRenewal scope : String} {scopes existing removed : List String}
variable {request : UpdateAppRequest} {p : PermissionRow} {t t' : Terms} {appId : Nat}

/-! ## The rows that stay -/

theorem Registry.mem_createPermission {maxAmountSat : Int}
    (h : r.createPermission app scope expiresAt maxAmountSat budgetRenewal = .ok r')
    (hp : p ∈ r.permissions) : p ∈ r'.permissions := by
  simp only [createPermission] at h
  split at h
  · obtain rfl := Except.ok.inj h
    refine List.mem_append_left _ ?_
    rwa [upsertApp_permissions]
  · cases h

/-- Reference: `api/api.go:310 UpdateApp`. -/
theorem mem_addScopes {maxAmountSat : Nat}
    (h : addScopes userApp expiresAt maxAmountSat budgetRenewal scopes existing r =
      .ok (removed, r')) (hp : p ∈ r.permissions) : p ∈ r'.permissions := by
  induction scopes generalizing r existing with
  | nil =>
    cases h
    exact hp
  | cons scope scopes ih =>
    unfold addScopes at h
    split at h
    · exact ih h hp
    · split at h
      · cases h
      · next r₁ hcreate => exact ih h (Registry.mem_createPermission hcreate hp)

/-- Reference: `api/api.go:325 UpdateApp`. -/
theorem mem_foldl_delete {id : Nat} (hp : p ∈ r.permissions) (hscope : p.scope ∉ removed) :
    p ∈ (removed.foldl (fun r scope => r.deletePermissions id scope) r).permissions := by
  induction removed generalizing r with
  | nil => exact hp
  | cons scope removed ih =>
    refine ih (List.mem_filter.2 ⟨hp, ?_⟩) fun hmem => hscope (List.mem_cons_of_mem _ hmem)
    have hne : p.scope ≠ scope := fun he => hscope (he ▸ List.mem_cons_self)
    simp [hne]

/-- A row whose scope is kept is there afterwards, under its id. Reference: `api/api.go:239
UpdateApp`. -/
theorem updatePermissions_kept (h : updatePermissions env userApp request r = .ok r')
    (hp : p ∈ r.permissions) (hid : p.appId = userApp.id) (hkeep : request.Keeps p.scope) :
    ∃ p' ∈ r'.permissions, p'.id = p.id ∧ p'.appId = userApp.id ∧ p'.scope = p.scope ∧
      (request.touchesPermissions request.maximum = false → p' = p) := by
  simp only [updatePermissions] at h
  split at h
  · cases h
    exact ⟨p, hp, rfl, hid, rfl, fun _ => rfl⟩
  · next htouched =>
    obtain ⟨expiresAt, -, h⟩ := ok_of_bind h
    obtain ⟨_, -, h⟩ := ok_of_bind h
    generalize ((ResolveToSat request.maxAmountSat request.maxAmountMsat request.maxAmount
      none).getD _) = maxAmountSat at h
    generalize request.budgetRenewal.getD _ = budgetRenewal at h
    obtain ⟨hpid, happ, hscope⟩ :=
      Registry.assignPermission_key userApp.id expiresAt maxAmountSat budgetRenewal p
    refine ⟨_, ?_, hpid, happ.trans hid, hscope, fun huntouched => absurd huntouched htouched⟩
    have hassigned := List.mem_map_of_mem
      (f := Registry.assignPermission userApp.id expiresAt maxAmountSat budgetRenewal) hp
    split at h
    · cases h
      exact hassigned
    · next scopes hscopes =>
      obtain ⟨_, -, h⟩ := ok_of_bind h
      obtain ⟨_, -, h⟩ := ok_of_bind h
      obtain ⟨⟨removed, r₁⟩, hadd, h⟩ := ok_of_bind h
      cases h
      refine mem_foldl_delete (mem_addScopes hadd hassigned) ?_
      rw [(addScopes_grants hadd).1, hscope]
      intro hremoved
      exact of_decide_eq_true (List.mem_filter.1 hremoved).2 (hkeep scopes hscopes)

/-- Reference: `api/api.go:171 UpdateApp`. -/
theorem Api.UpdateApp_kept (h : Api.UpdateApp env userApp request r = .ok r')
    (hp : p ∈ r.permissions) (hid : p.appId = userApp.id) (hkeep : request.Keeps p.scope) :
    ∃ p' ∈ r'.permissions, p'.id = p.id ∧ p'.appId = userApp.id ∧ p'.scope = p.scope ∧
      (request.touchesPermissions request.maximum = false → p' = p) := by
  obtain ⟨r₁, hname, h⟩ := ok_of_bind h
  obtain ⟨r₂, hisolated, h⟩ := ok_of_bind h
  obtain ⟨r₃, hmetadata, h⟩ := ok_of_bind h
  obtain ⟨r₄, hpermissions, h⟩ := ok_of_bind h
  split at h
  · cases h
  · cases h
    have hsame : r₃.permissions = r.permissions :=
      (sameGrants_updateMetadata hmetadata).permissions.trans
        ((sameGrants_updateIsolated hisolated).permissions.trans
          (sameGrants_updateName hname).permissions)
    exact updatePermissions_kept hpermissions (hsame ▸ hp) hid hkeep

/-! ## The terms that are written -/

theorem UpdateAppRequest.Retains.refl : request.Retains t t :=
  ⟨fun _ _ => rfl, fun _ => rfl, fun _ => rfl⟩

/-- What an update writes agrees with its defaults in what the request does not carry. Reference:
`api/api.go:244 UpdateApp`. -/
theorem retains_defaultTerms (hfit : r.AmountsFit)
    (h : request.Writes env (r.payInvoiceTerms appId) t) :
    request.Retains (r.defaultTerms appId) t := by
  have hmax : ∀ q, r.payInvoiceTerms appId = some q →
      -2 ^ 63 ≤ q.maxAmountSat ∧ q.maxAmountSat < 2 ^ 63 := by
    intro q hq
    obtain ⟨g, hg, rfl⟩ := Option.map_eq_some_iff.1 hq
    obtain ⟨p, hp, -, rfl⟩ := Registry.mem_grants.1 (List.mem_of_find?_eq_some hg)
    exact hfit p hp
  unfold Registry.defaultTerms
  generalize r.payInvoiceTerms appId = payInvoice at h hmax ⊢
  refine ⟨fun hnone hkeep => ?_, fun hnone => ?_, fun hnone => ?_⟩
  · have hexpires := h.expiresAt
    rw [newExpiresAt, hnone, hkeep] at hexpires
    rw [← Except.ok.inj hexpires]
    cases payInvoice <;> rfl
  · have hamount := h.maxAmountSat
    have hlt := h.maxAmountSat_lt
    rw [show ResolveToSat _ _ _ _ = none from hnone, Option.getD_none] at hamount
    cases payInvoice with
    | none => exact hamount
    | some q =>
      obtain ⟨hlow, hhigh⟩ := hmax q rfl
      simp only [Option.map_some, Option.getD_some, uint64OfInt] at hamount ⊢
      omega
  · have hrenewal := h.budgetRenewal
    rw [hnone, Option.getD_none] at hrenewal
    rw [hrenewal]
    cases payInvoice <;> rfl

/-- Where the request does not carry a field, the written terms and the defaults are alike.
Reference: none. -/
theorem UpdateAppRequest.Retains.congr_right (h : request.Retains t' t) {q : Terms} :
    request.Retains q t ↔ request.Retains q t' := by
  constructor
  · intro hq
    exact ⟨fun hn hk => (h.expiresAt hn hk).symm.trans (hq.expiresAt hn hk),
      fun hn => (h.maxAmountSat hn).symm.trans (hq.maxAmountSat hn),
      fun hn => (h.budgetRenewal hn).symm.trans (hq.budgetRenewal hn)⟩
  · intro hq
    exact ⟨fun hn hk => (h.expiresAt hn hk).trans (hq.expiresAt hn hk),
      fun hn => (h.maxAmountSat hn).trans (hq.maxAmountSat hn),
      fun hn => (h.budgetRenewal hn).trans (hq.budgetRenewal hn)⟩

/-- A request that carries no scopes keeps them all. Reference: `api/api.go:291 UpdateApp`. -/
theorem scopes_of_updatedGrants {grants : List (String × Terms)} (h : request.scopes = none) :
    (updatedGrants request t grants).map (·.1) = grants.map (·.1) := by
  rw [updatedGrants, h, List.map_map]
  rfl

/-- The promises that every update keeps. Reference: `api/api.go:239 UpdateApp`. -/
theorem onlyAsked_of_kept (h : UpdatedGrants env userApp request r r')
    (hkept : ∀ p ∈ r.permissions, p.appId = userApp.id → request.Keeps p.scope →
      ∃ p' ∈ r'.permissions, p'.id = p.id ∧ p'.appId = userApp.id ∧ p'.scope = p.scope ∧
        request.Retains p.terms p'.terms) :
    request.OnlyAsked userApp.id r r' := by
  cases h with
  | untouched _ hgrants =>
    refine ⟨hkept, fun _ => by rw [hgrants], fun g hg _ _ hnew _ => ?_, fun id _ => hgrants id⟩
    rw [hgrants] at hg
    exact absurd (List.mem_map_of_mem hg) hnew
  | touched _ _ _ hgrants =>
    have hown := hgrants userApp.id
    rw [if_pos rfl] at hown
    refine ⟨hkept, fun hnone => ?_, fun g hg g' hg' _ _ => ?_, fun id hne => ?_⟩
    · rw [hown, scopes_of_updatedGrants hnone]
    · rw [hown] at hg hg'
      rw [terms_of_mem_updatedGrants hg, terms_of_mem_updatedGrants hg']
    · rw [hgrants, if_neg (Ne.symm hne)]

/-- An update that fails changes nothing, and one that succeeds changes only what is asked for if
and only if it asks for no change of the permissions or each row that it keeps agrees with the
defaults in what the request does not carry. Reference: `api/api.go:171 UpdateApp`. -/
theorem update_only_changes_asked_iff (env : AppsEnv) (userApp : AppRow)
    (request : UpdateAppRequest) (r : Registry) (hfit : r.AmountsFit) :
    (∀ e, Api.UpdateApp env userApp request r = .error e →
      (AppsOp.updateApp env userApp request).step r = r) ∧
    ∀ r', Api.UpdateApp env userApp request r = .ok r' →
      (request.OnlyAsked userApp.id r r' ↔
        request.touchesPermissions request.maximum = false ∨
        ∀ p ∈ r.permissions, p.appId = userApp.id → request.Keeps p.scope →
          request.Retains p.terms (r.defaultTerms userApp.id)) := by
  refine ⟨fun e h => by rw [AppsOp.step, h], fun r' h => ?_⟩
  have hgrants := Api.UpdateApp_grants h
  constructor
  · intro hasked
    cases hgrants with
    | untouched huntouched => exact .inl huntouched
    | touched _ hwrites _ hgrants =>
      refine .inr fun p hp hid hkeep => ?_
      obtain ⟨p', hp', -, hid', -, hretains⟩ := hasked.kept p hp hid hkeep
      have hmem := hgrants userApp.id ▸ Registry.mem_grants.2 ⟨p', hp', hid', rfl⟩
      rw [if_pos rfl] at hmem
      rw [show p'.terms = _ from terms_of_mem_updatedGrants hmem] at hretains
      exact (retains_defaultTerms hfit hwrites).congr_right.1 hretains
  · intro hagree
    refine onlyAsked_of_kept hgrants fun p hp hid hkeep => ?_
    obtain ⟨p', hp', hpid, hid', hscope, hsame⟩ := Api.UpdateApp_kept h hp hid hkeep
    refine ⟨p', hp', hpid, hid', hscope, ?_⟩
    cases hgrants with
    | untouched huntouched =>
      rw [hsame huntouched]
      exact .refl
    | touched htouched hwrites _ hgrants =>
      have huntouched : request.touchesPermissions request.maximum ≠ false := fun huntouched =>
        Bool.noConfusion (htouched.symm.trans huntouched)
      have hretains := hagree.resolve_left huntouched p hp hid hkeep
      have hmem := hgrants userApp.id ▸ Registry.mem_grants.2 ⟨p', hp', hid', rfl⟩
      rw [if_pos rfl] at hmem
      rw [show p'.terms = _ from terms_of_mem_updatedGrants hmem]
      exact (retains_defaultTerms hfit hwrites).congr_right.2 hretains

end

/-- A hub with one app, which may read the balance for some time. Reference: none. -/
def readerHub : Registry :=
  Registry.empty.run [.createApp { parseTime := fun _ => .ok (Time.unix 100) }
    { name := "reader", expiresAt := "1970", scopes := ["get_balance"] }]

theorem readerHub_amountsFit : readerHub.AmountsFit := by
  unfold Registry.AmountsFit
  decide +kernel

/-- The app's row as the API reads it. Reference: none. -/
def readerApp : AppRow :=
  { id := 1, name := "reader", isolated := false, appPubkey := "", walletPubkey := some "" }

/-- A request for another name retains everything. Reference: none. -/
theorem rename_only_changes_asked : ∃ r',
    Api.UpdateApp {} readerApp { name := some "balance" } readerHub = .ok r' ∧
      UpdateAppRequest.OnlyAsked { name := some "balance" } 1 readerHub r' :=
  ⟨_, rfl, ((update_only_changes_asked_iff {} readerApp { name := some "balance" } readerHub
    readerHub_amountsFit).2 _ rfl).2 (.inl rfl)⟩

/-- A request for a limit takes the expiry from an app that may not pay. Reference: `api/api.go:276
UpdateApp`. -/
theorem expiry_lost : ¬ ∀ (env : AppsEnv) (userApp : AppRow) (request : UpdateAppRequest)
    (r r' : Registry), r.AmountsFit → Api.UpdateApp env userApp request r = .ok r' →
    request.OnlyAsked userApp.id r r' := by
  intro hasked
  have h : Api.UpdateApp {} readerApp { maxAmountSat := some 5 } readerHub = .ok _ := rfl
  obtain ⟨p', hp', -, -, -, hretains⟩ := (hasked _ _ _ _ _ readerHub_amountsFit h).kept
    { appId := 1, scope := "get_balance", maxAmountSat := 0, budgetRenewal := "never", id := 1,
      expiresAt := some (Time.unix 100) } (by decide +kernel) rfl nofun
  have hexpired : ∀ p ∈ ((AppsOp.updateApp {} readerApp
      { maxAmountSat := some 5 }).step readerHub).permissions, p.expiresAt = none := by
    decide +kernel
  exact absurd ((hexpired p' hp').symm.trans (hretains.expiresAt rfl rfl)) nofun

end AlbyHub
