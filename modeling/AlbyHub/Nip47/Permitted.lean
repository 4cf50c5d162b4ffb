import AlbyHub.Nip47.Accepted
import AlbyHub.Apps.PermissionRows

/-!
# The methods that an app may call

`GetPermittedMethods` tells an app which methods it may call, from the scopes to the methods;
`HandleEvent` goes from the method of a request to its scope and looks for one row. The two agree,
and both follow the scopes that were last requested for the app with success
(`requested_scopes_govern`). A connection that an app creates over NIP-47 may call the methods it
was created with, and the others of their scopes (`connection_permits`).
-/

namespace AlbyHub

open Go Interaction Panicking EventHandler

/-! ## Scopes and methods -/

/-- A method that is granted to every app, or has one of the scopes. Reference:
`nip47/event_handler.go:335 HandleEvent`. -/
def Covers (scopes : List String) (method : String) : Prop :=
  method ∈ GetAlwaysGrantedMethods ∨
    ∃ scope ∈ scopes, RequestMethodToScope method = .ok scope

/-- The methods of a scope are those that have it. Reference: `nip47/permissions/permissions.go:117
scopeToRequestMethods`, `:153 RequestMethodToScope`. -/
theorem mem_scopeToRequestMethods {scope method : String} :
    method ∈ scopeToRequestMethods scope ↔
      scope ≠ "" ∧ RequestMethodToScope method = .ok scope := by
  constructor
  · intro h
    unfold scopeToRequestMethods at h
    split at h
    all_goals simp only [List.mem_cons, List.not_mem_nil, or_false] at h
    case h_1 | h_4 => rcases h with rfl | rfl | rfl | rfl <;> exact ⟨by decide, rfl⟩
    all_goals
      subst h
      exact ⟨by decide, rfl⟩
  · rintro ⟨hne, h⟩
    unfold RequestMethodToScope at h
    split at h
    case h_16 => cases h
    case h_6 => exact absurd (Except.ok.inj h).symm hne
    all_goals
      cases h
      simp [scopeToRequestMethods]

section
variable {r : Registry} {app : AppRow} {turn : AppTurn} {supportedMethods scopes : List String}
variable {method scope : String}

/-- The one method without a scope is always granted. Reference:
`nip47/permissions/permissions.go:159 RequestMethodToScope`. -/
theorem granted_of_noScope (h : RequestMethodToScope method = .ok "") :
    method ∈ GetAlwaysGrantedMethods := by
  unfold RequestMethodToScope at h
  split at h
  case h_6 => simp [GetAlwaysGrantedMethods]
  case h_16 => cases h
  all_goals exact absurd (Except.ok.inj h) (by decide)

/-- What is advertised is what the scopes of the app's rows cover, as far as the node supports it.
Reference: `nip47/permissions/permissions.go:63 GetPermittedMethods`. -/
theorem mem_GetPermittedMethods (hfault : turn.fault = false)
    (hrows : ∀ scope, scope ≠ "" →
      ((∃ p ∈ turn.permissions, p.appId = app.id ∧ p.scope = scope) ↔ scope ∈ scopes)) :
    method ∈ GetPermittedMethods app turn supportedMethods ↔
      Covers scopes method ∧ (method = "create_connection" ∨ method ∈ supportedMethods) := by
  have hmethods : method ∈ (((turn.permissions.filter fun p => p.appId = app.id).map
        (·.scope)).flatMap scopeToRequestMethods) ↔
      ∃ scope ∈ scopes, scope ≠ "" ∧ RequestMethodToScope method = .ok scope := by
    simp only [List.mem_flatMap, List.mem_map, List.mem_filter, mem_scopeToRequestMethods,
      decide_eq_true_eq]
    constructor
    · rintro ⟨scope, ⟨p, ⟨hp, hid⟩, hscope⟩, hne, hm⟩
      exact ⟨scope, (hrows scope hne).1 ⟨p, hp, hid, hscope⟩, hne, hm⟩
    · rintro ⟨scope, hmem, hne, hm⟩
      obtain ⟨p, hp, hid, hscope⟩ := (hrows scope hne).2 hmem
      exact ⟨scope, ⟨p, ⟨hp, hid⟩, hscope⟩, hne, hm⟩
  have hcovers : Covers scopes method ↔ method ∈ GetAlwaysGrantedMethods ∨
      ∃ scope ∈ scopes, scope ≠ "" ∧ RequestMethodToScope method = .ok scope := by
    unfold Covers
    constructor
    · rintro (hgranted | ⟨scope, hmem, hm⟩)
      · exact .inl hgranted
      · by_cases hne : scope = ""
        · exact .inl (granted_of_noScope (hne ▸ hm))
        · exact .inr ⟨scope, hmem, hne, hm⟩
    · rintro (hgranted | ⟨scope, hmem, -, hm⟩)
      · exact .inl hgranted
      · exact .inr ⟨scope, hmem, hm⟩
  simp only [GetPermittedMethods, hfault, Bool.false_eq_true, if_false, List.mem_filter,
    List.mem_append, hmethods, decide_eq_true_eq, hcovers]
  grind

end

section
variable {s s' : AppsState} {op : AppsOp} {ops : List AppsOp} {app : AppRow}

/-! ## Ids -/

/-- No app has the id 0, which `HasPermission` would read as any app. Reference: `AUTOINCREMENT`,
`nip47/permissions/permissions.go:40 HasPermission`. -/
structure Registry.Positive (r : Registry) : Prop where
  nextAppId : 0 < r.nextAppId
  app : ∀ appId, r.HasApp appId → 0 < appId

theorem Registry.Positive.created {r r' : Registry} {maxAmountSat : Nat} {budgetRenewal : String}
    {expiresAt : Option Time} {scopes : List String} (h : r.Positive)
    (hc : AppsService.Created r maxAmountSat budgetRenewal expiresAt scopes app r') :
    r'.Positive := by
  refine ⟨?_, fun appId happ => ?_⟩
  · rw [hc.nextAppId]
    omega
  · rcases (hc.hasApp appId).1 happ with hold | rfl
    · exact h.app appId hold
    · exact h.nextAppId

/-- What a call does to the tables: nothing, or it creates, updates or deletes an app. Reference:
none. -/
inductive Registry.Changed (r : Registry) : Registry → Prop
  | unchanged : Changed r r
  | created {maxAmountSat : Nat} {budgetRenewal : String} {expiresAt : Option Time}
    {scopes : List String} {app : AppRow} {r' : Registry} :
    AppsService.Created r maxAmountSat budgetRenewal expiresAt scopes app r' → Changed r r'
  | updated {env : AppsEnv} {userApp : AppRow} {request : UpdateAppRequest} {r' : Registry} :
    r.HasApp userApp.id → Api.UpdateApp env userApp request r = .ok r' → Changed r r'
  | deleted {id : Nat} : Changed r (r.deleteApp id)

theorem AppsState.changed_step (hs : s.step op = some s') : s.registry.Changed s'.registry := by
  unfold AppsState.step at hs
  split at hs
  · next hpossible =>
    cases hs
    cases op with
    | createApp env request =>
      simp only [AppsOp.step]
      cases Api.CreateApp_run env request s.registry with
      | failed hrun _ =>
        rw [hrun]
        exact .unchanged
      | reported hrun _ _ _ hcreate =>
        rw [hrun]
        exact .created (AppsService.CreateApp_created hcreate)
      | unreported hrun _ _ hcreate =>
        rw [hrun]
        exact .created (AppsService.CreateApp_created hcreate)
    | updateApp env userApp request =>
      simp only [AppsOp.step]
      cases hupdate : Api.UpdateApp env userApp request s.registry with
      | error e => exact .unchanged
      | ok r' => exact .updated hpossible hupdate
    | createConnection env params =>
      simp only [AppsOp.step]
      cases hrun : HandleCreateConnectionEvent env params s.registry with
      | error e => exact .unchanged
      | ok created =>
        obtain ⟨scopes, app, -, hcreated⟩ := HandleCreateConnectionEvent_created hrun
        exact .created hcreated
    | deleteApp env id =>
      simp only [AppsOp.step, AppsService.DeleteApp]
      cases env.fault with
      | some e => exact .unchanged
      | none => exact .deleted
  · cases hs

theorem Registry.Changed.positive {r r' : Registry} (hc : r.Changed r') (h : r.Positive) :
    r'.Positive := by
  cases hc with
  | unchanged => exact h
  | created hcreated => exact h.created hcreated
  | updated happ hupdate =>
    obtain ⟨hnext, happs⟩ := Api.UpdateApp_apps happ hupdate
    exact ⟨hnext ▸ h.nextAppId, fun appId happ => h.app appId ((happs appId).1 happ)⟩
  | deleted =>
    exact ⟨h.nextAppId, fun appId happ => h.app appId (Registry.hasApp_deleteApp.1 happ).1⟩

/-! ## Stored amounts -/

/-- The amount is an `int` value. Reference: `db/models.go:38 AppPermission`. -/
def Terms.AmountFits (t : Terms) : Prop := -2 ^ 63 ≤ t.maxAmountSat ∧ t.maxAmountSat < 2 ^ 63

theorem Registry.amountsFit_iff {r : Registry} :
    r.AmountsFit ↔ ∀ appId, ∀ g ∈ r.grants appId, g.2.AmountFits := by
  constructor
  · intro h appId g hg
    obtain ⟨p, hp, -, rfl⟩ := Registry.mem_grants.1 hg
    exact h p hp
  · intro h p hp
    exact h p.appId (p.scope, p.terms) (Registry.mem_grants.2 ⟨p, hp, rfl, rfl⟩)

theorem int64_fits (n : Nat) : -2 ^ 63 ≤ int64 n ∧ int64 n < 2 ^ 63 := by
  unfold int64
  split <;> omega

/-- A call stores `int` values. Reference: `apps/apps_service.go:126 CreateApp`, `api/api.go:276
UpdateApp`. -/
theorem Registry.Changed.amountsFit {r r' : Registry} (hc : r.Changed r') (h : r.AmountsFit) :
    r'.AmountsFit := by
  rw [Registry.amountsFit_iff] at h ⊢
  cases hc with
  | unchanged => exact h
  | created hcreated =>
    intro appId g hg
    rw [hcreated.grants, List.mem_append] at hg
    rcases hg with hg | hg
    · exact h appId g hg
    · split at hg
      · obtain ⟨scope, -, rfl⟩ := List.mem_map.1 hg
        exact int64_fits _
      · cases hg
  | updated _ hupdate =>
    intro appId g hg
    cases Api.UpdateApp_grants hupdate with
    | untouched _ hsame =>
      rw [hsame] at hg
      exact h appId g hg
    | touched _ hwrites _ hgrants =>
      rw [hgrants] at hg
      split at hg
      · rw [terms_of_mem_updatedGrants hg]
        refine ⟨?_, hwrites.maxAmountSat_lt⟩
        rw [hwrites.maxAmountSat]
        omega
      · exact h appId g hg
  | deleted =>
    intro appId g hg
    obtain ⟨p, hp, hid, rfl⟩ := Registry.mem_grants.1 hg
    have hold := (List.mem_filter.1 hp).1
    exact h appId _ (Registry.mem_grants.2 ⟨p, hold, hid, rfl⟩)

/-- In every run the stored amounts are `int` values. Reference: `db/models.go:38
AppPermission`. -/
theorem AppsState.amounts_fit (hr : runLabels AppsState.step .initial ops = some s) :
    s.registry.AmountsFit :=
  run_invariant (P := fun s => s.registry.AmountsFit) (fun _ hp => by cases hp)
    (fun _ _ _ h hs => (AppsState.changed_step hs).amountsFit h) hr

/-! ## The permission check -/

/-- The expiry of the app's permissions. Reference: `api/api.go:263 UpdateApp`. -/
def Registry.expiresAt (r : Registry) (appId : Nat) : Option Time :=
  (r.grants appId).head?.bind (·.2.expiresAt)

/-- The permissions of the app are not expired. Reference: `nip47/permissions/permissions.go:49
HasPermission`. -/
def Registry.Unexpired (r : Registry) (appId : Nat) (now : Time) : Prop :=
  ∀ expiresAt ∈ r.expiresAt appId, now ≤ expiresAt

/-- The check of the permission, where the rows match the scopes. Reference:
`nip47/permissions/permissions.go:38 HasPermission`. -/
theorem HasPermission_iff {r : Registry} {turn : AppTurn} {scopes : List String} {scope : String}
    (hrows : RowsMatch (r.grants app.id) scopes) (hid : app.id ≠ 0) (hne : scope ≠ "")
    (hfault : turn.fault = false) (hperms : turn.permissions = r.permissions) :
    (HasPermission turn app scope).1 = true ↔ scope ∈ scopes ∧ r.Unexpired app.id turn.now := by
  have hfind : turn.findPermission app scope =
      pick turn.choice (r.permissions.filter fun p => p.appId = app.id ∧ p.scope = scope) := by
    simp [AppTurn.findPermission, hfault, hperms, hid, hne]
  unfold HasPermission
  rw [hfind]
  cases hpick : pick turn.choice
      (r.permissions.filter fun p => p.appId = app.id ∧ p.scope = scope) with
  | none =>
    refine iff_of_false Bool.false_ne_true fun h => ?_
    obtain ⟨g, hg, rfl⟩ := List.mem_map.1 ((hrows.mem scope).2 h.1)
    obtain ⟨p, hp, happ, rfl⟩ := Registry.mem_grants.1 hg
    exact absurd (pick_eq_none.1 hpick) (List.ne_nil_of_mem
      (List.mem_filter.2 ⟨hp, decide_eq_true ⟨happ, rfl⟩⟩))
  | some p =>
    obtain ⟨hp, hkey⟩ := List.mem_filter.1 (mem_of_pick hpick)
    obtain ⟨happ, hscope⟩ := of_decide_eq_true hkey
    have hg : (p.scope, p.terms) ∈ r.grants app.id := Registry.mem_grants.2 ⟨p, hp, happ, rfl⟩
    have hmem : scope ∈ scopes := (hrows.mem scope).1 (List.mem_map.2 ⟨_, hg, hscope⟩)
    -- all rows of the app have the terms of the first one
    have hexpires : r.expiresAt app.id = p.expiresAt := by
      unfold Registry.expiresAt
      cases hgrants : r.grants app.id with
      | nil => rw [hgrants] at hg; exact absurd hg List.not_mem_nil
      | cons g gs =>
        have heq := hrows.uniform g (hgrants ▸ List.mem_cons_self) _ hg
        simp [heq, PermissionRow.terms]
    simp only [Registry.Unexpired, hexpires, hmem, true_and]
    split
    · next hexpired =>
      obtain ⟨expiresAt, hmem, hlt⟩ := hexpired
      refine iff_of_false Bool.false_ne_true fun h => ?_
      exact absurd (h expiresAt hmem) (Int.not_le.2 hlt)
    · next hcurrent =>
      exact iff_of_true rfl fun expiresAt hmem => Int.not_lt.1 fun hlt =>
        hcurrent ⟨expiresAt, hmem, hlt⟩

/-- What the handler sees of the tables and the clock: the permissions, the time at the check of the
age and that at the check of the permission. Reference: `nip47/event_handler.go:352 HandleEvent`. -/
def Sees (permissions : List PermissionRow) (arrived checked : Time) : (c : EventCmd) → c.Ans → Prop
  | .turn, turn => turn.fault = false ∧ turn.permissions = permissions ∧ turn.now = checked
  | .service .now, now => now = arrived
  | _, _ => True

/-- The permissions of an app follow the scopes: they decide which methods are advertised and which
requests are handed to their controllers. Reference: `nip47/permissions/permissions.go:63
GetPermittedMethods`, `nip47/event_handler.go:335 HandleEvent`. -/
structure Registry.Governed (r : Registry) (scopes : List String) (app : AppRow) : Prop where
  advertised : ∀ turn supportedMethods method, turn.fault = false →
    turn.permissions = r.permissions →
    (method ∈ GetPermittedMethods app turn supportedMethods ↔
      Covers scopes method ∧ (method = "create_connection" ∨ method ∈ supportedMethods))
  accepted : ∀ L x cipher request arrived checked a, x.app = app →
    (MayReturn (Sees r.permissions arrived checked) (acceptRequest L x cipher request) (some a) ↔
      a = ⟨x, cipher, request⟩ ∧ Covers scopes request.method ∧
        (request.method ∉ GetAlwaysGrantedMethods → r.Unexpired app.id checked ∧
          ∀ scope, RequestMethodToScope request.method = .ok scope →
            isStale arrived x.event scope = false))

/-- An accepted request, and the reasons. Reference: `nip47/event_handler.go:335 HandleEvent`. -/
theorem mayReturn_acceptRequest {L : Library} {x : Context} {cipher : Nip47Cipher}
    {request : Request} {a : Accepted} {may : (c : EventCmd) → c.Ans → Prop} :
    MayReturn may (acceptRequest L x cipher request) (some a) ↔ a = ⟨x, cipher, request⟩ ∧
      (request.method ∈ GetAlwaysGrantedMethods ∨
        ∃ scope, RequestMethodToScope request.method = .ok scope ∧
          ∃ now, may (.service .now) now ∧ isStale now x.event scope = false ∧
            ∃ turn, may .turn turn ∧ (HasPermission turn x.app scope).1 = true) := by
  unfold acceptRequest
  by_cases hgranted : request.method ∈ GetAlwaysGrantedMethods
  · simp [hgranted]
  · cases hscope : RequestMethodToScope request.method with
    | error e => simp [hgranted]
    | ok scope =>
      simp only [hgranted, if_false, mayReturn_bind, mayReturn_issue, mayReturn_ite,
        mayReturn_pure, false_or, Except.ok.injEq, reduceCtorEq, and_false, Bool.not_eq_true]
      constructor
      · rintro ⟨now, hnow, hfresh, turn, hturn, h⟩
        rcases hperm : HasPermission turn x.app scope with ⟨granted, code, message⟩
        rw [hperm] at h
        cases granted with
        | false => simp at h
        | true =>
          have hgranted : (HasPermission turn x.app scope).1 = true := by rw [hperm]
          exact ⟨Option.some.inj h, scope, rfl, now, hnow, hfresh, turn, hturn, hgranted⟩
      · rintro ⟨rfl, _, rfl, now, hnow, hfresh, turn, hturn, hperm⟩
        refine ⟨now, hnow, hfresh, turn, hturn, ?_⟩
        generalize HasPermission turn x.app scope = answer at hperm ⊢
        obtain ⟨granted, code, message⟩ := answer
        cases hperm
        rfl

/-- Rows that match the scopes govern the app. Reference: none. -/
theorem Registry.governed {r : Registry} {scopes : List String}
    (hrows : RowsMatch (r.grants app.id) scopes) (hid : app.id ≠ 0) : r.Governed scopes app := by
  have hmem : ∀ scope, scope ≠ "" →
      ((∃ p ∈ r.permissions, p.appId = app.id ∧ p.scope = scope) ↔ scope ∈ scopes) := by
    intro scope _
    rw [← hrows.mem scope, List.mem_map]
    constructor
    · rintro ⟨p, hp, happ, hscope⟩
      exact ⟨(p.scope, p.terms), Registry.mem_grants.2 ⟨p, hp, happ, rfl⟩, hscope⟩
    · rintro ⟨g, hg, hscope⟩
      obtain ⟨p, hp, happ, rfl⟩ := Registry.mem_grants.1 hg
      exact ⟨p, hp, happ, hscope⟩
  refine ⟨fun turn supportedMethods method hfault hperms => ?_, ?_⟩
  · exact mem_GetPermittedMethods hfault (by rw [hperms]; exact hmem)
  · intro L x cipher request arrived checked a happ
    subst happ
    rw [mayReturn_acceptRequest, and_congr_right_iff]
    intro _
    constructor
    · rintro (hgranted | ⟨scope, hscope, now, hnow, hfresh, turn, hturn, hperm⟩)
      · exact ⟨.inl hgranted, fun hn => absurd hgranted hn⟩
      · obtain ⟨hfault, hperms, hclock⟩ : turn.fault = false ∧ turn.permissions = r.permissions ∧
          turn.now = checked := hturn
        obtain rfl : now = arrived := hnow
        by_cases hgranted : request.method ∈ GetAlwaysGrantedMethods
        · exact ⟨.inl hgranted, fun hn => absurd hgranted hn⟩
        · have hne : scope ≠ "" := fun he => hgranted (granted_of_noScope (he ▸ hscope))
          obtain ⟨hscopes, hcurrent⟩ := (HasPermission_iff hrows hid hne hfault hperms).1 hperm
          refine ⟨.inr ⟨scope, hscopes, hscope⟩, fun _ => ⟨hclock ▸ hcurrent, ?_⟩⟩
          intro scope' hscope'
          cases hscope.symm.trans hscope'
          exact hfresh
    · rintro ⟨hgranted | ⟨scope, hscopes, hscope⟩, hrest⟩
      · exact .inl hgranted
      · by_cases hgranted : request.method ∈ GetAlwaysGrantedMethods
        · exact .inl hgranted
        · have hne : scope ≠ "" := fun he => hgranted (granted_of_noScope (he ▸ hscope))
          obtain ⟨hcurrent, hfresh⟩ := hrest hgranted
          let turn : AppTurn := { now := checked, permissions := r.permissions }
          exact .inr ⟨scope, hscope, arrived, rfl, hfresh scope hscope, turn, ⟨rfl, rfl, rfl⟩,
            (HasPermission_iff hrows hid hne rfl rfl).2 ⟨hscopes, hcurrent⟩⟩

/-- In every run of the calls that write permissions, each of which keeps the rows in order, the
rows of each app match its scopes. Reference: none. -/
theorem AppsState.rows_in_order (hr : runLabels AppsState.step .initial ops = some s)
    (hk : AllowsLabels AppsState.step (fun s op => op.KeepsRows s) .initial ops) :
    s.WellFormed ∧ s.registry.Positive := by
  have hpositive : AppsState.initial.registry.Positive := ⟨Nat.one_pos, fun _ h => by
    obtain ⟨_, ha, _⟩ := h
    exact absurd ha List.not_mem_nil⟩
  have hall : s.Tracked ∧ s.WellFormed ∧ s.registry.Positive := by
    refine run_induction (P := fun s => s.Tracked ∧ s.WellFormed ∧ s.registry.Positive)
      ⟨tracked_initial, wellFormed_initial, hpositive⟩ ?_ hk hr
    rintro s op s' ⟨ht, hw, hp⟩ hkeeps hs
    have hw' := (wellFormed_step_iff ht hw hs).2 hkeeps
    exact ⟨tracked_step ht hs, hw', (AppsState.changed_step hs).positive hp⟩
  exact hall.2

/-- After every run of the calls that write permissions, each of which keeps the rows in order, the
permissions of each app follow the scopes that were last requested for it with success. Reference:
`nip47/permissions/permissions.go:63 GetPermittedMethods`, `nip47/event_handler.go:335
HandleEvent`. -/
theorem requested_scopes_govern (hr : runLabels AppsState.step .initial ops = some s)
    (hk : AllowsLabels AppsState.step (fun s op => op.KeepsRows s) .initial ops)
    (happ : s.registry.HasApp app.id) :
    ∃ scopes, s.requested app.id = some scopes ∧ s.registry.Governed scopes app := by
  obtain ⟨hw, hp⟩ := AppsState.rows_in_order hr hk
  obtain ⟨scopes, hrequested, hrows⟩ := hw app.id happ
  exact ⟨scopes, hrequested, Registry.governed hrows (Nat.ne_of_gt (hp.app app.id happ))⟩

/-- The app of `extendedReader` may look at its balance and at the node, and no more. Reference:
none. -/
theorem requested_scopes_govern_reader :
    ∃ scopes, (labelsAfter AppsState.step .initial extendedReader).requested readerApp.id =
        some scopes ∧
      (labelsAfter AppsState.step .initial extendedReader).registry.Governed scopes readerApp := by
  have hcreate : AppsOp.KeepsRows .initial
      (.createApp {} { name := "reader", scopes := ["get_balance"] }) := fun _ _ _ _ =>
    ⟨by decide, _, rfl⟩
  refine requested_scopes_govern (runLabels_after (by decide +kernel))
    ⟨hcreate, fun s hs => ⟨fun _ _ _ => ⟨?_, ?_, ?_⟩, fun _ _ => trivial⟩⟩ (by decide +kernel)
  · intro scopes hscopes
    cases hscopes
    exact ⟨by decide, by decide⟩
  · intro renewal hrenewal
    cases hrenewal
    decide
  · exact fun hnone => absurd hnone (Option.some_ne_none _)

end

/-! ## A connection over NIP-47 -/

section
variable {env : AppsEnv} {params : CreateConnectionParams} {r r' : Registry}
variable {walletPubkey : Option String} {app : AppRow}

/-- What the new app may call: the methods that were asked for, and the others of their scopes.
Reference: `nip47/controllers/create_connection_controller.go:56 HandleCreateConnectionEvent`. -/
structure CreateConnectionParams.Permits (params : CreateConnectionParams) (r : Registry)
    (app : AppRow) : Prop where
  requested : ∀ turn supportedMethods, turn.fault = false → turn.permissions = r.permissions →
    ∀ method ∈ params.requestMethods, method ∈ supportedMethods →
      method ∈ GetPermittedMethods app turn supportedMethods
  justified : ∀ turn supportedMethods method, turn.fault = false →
    turn.permissions = r.permissions →
    method ∈ GetPermittedMethods app turn supportedMethods →
      method ∈ GetAlwaysGrantedMethods ∨ ∃ requested ∈ params.requestMethods,
        RequestMethodToScope requested = RequestMethodToScope method

/-- Every method of the list has a scope. Reference: `nip47/permissions/permissions.go:141
RequestMethodsToScopes`. -/
theorem scope_of_scopesOfMethods {methods scopes scopes' : List String} {method : String}
    (h : scopesOfMethods methods scopes = .ok scopes') (hm : method ∈ methods) :
    ∃ scope, RequestMethodToScope method = .ok scope := by
  induction methods generalizing scopes with
  | nil => exact absurd hm List.not_mem_nil
  | cons m methods ih =>
    unfold scopesOfMethods at h
    split at h
    · cases h
    · next scope hscope =>
      rcases List.mem_cons.1 hm with rfl | hm
      · exact ⟨scope, hscope⟩
      · exact ih h hm

theorem connectionScopes_scopes {scopes : List String}
    (h : connectionScopes env params = .ok scopes) :
    ∃ granted, RequestMethodsToScopes params.requestMethods = .ok granted ∧
      scopes = if params.notificationTypes = [] then granted else granted ++ ["notifications"] := by
  obtain ⟨_, -, h⟩ := ok_of_bind h
  obtain ⟨_, -, h⟩ := ok_of_bind h
  obtain ⟨_, -, h⟩ := ok_of_bind h
  obtain ⟨_, -, h⟩ := ok_of_bind h
  obtain ⟨granted, hgranted, h⟩ := ok_of_bind h
  obtain ⟨_, -, h⟩ := ok_of_bind h
  exact ⟨granted, ok_of_mapError hgranted, (Except.ok.inj h).symm⟩

/-- A connection that is created over NIP-47 may call every method it was created with that the node
supports, and beyond those only methods that every app may call or that share the scope of one of
them. Reference: `nip47/controllers/create_connection_controller.go:34
HandleCreateConnectionEvent`, `nip47/permissions/permissions.go:63 GetPermittedMethods`. -/
theorem connection_permits (h : HandleCreateConnectionEvent env params r = .ok (walletPubkey, r'))
    (hid : app.id = r.nextAppId) : params.Permits r' app := by
  obtain ⟨scopes, hscopes, h⟩ := ok_of_bind h
  obtain ⟨⟨⟨app', secret⟩, r₁⟩, hcreate, h⟩ := ok_of_bind h
  cases h
  have hhas := (AppsService.CreateApp_ok (ok_of_mapError hcreate)).2
  obtain ⟨granted, hgranted, rfl⟩ := connectionScopes_scopes hscopes
  have hrows : ∀ scope, scope ≠ "" →
      ((∃ p ∈ r'.permissions, p.appId = app.id ∧ p.scope = scope) ↔
        scope ∈ if params.notificationTypes = [] then granted else
          granted ++ ["notifications"]) := by
    intro scope _
    have hnew := hhas r.nextAppId scope
    simp only [Registry.not_hasScope_nextAppId, true_and, false_or] at hnew
    rw [hid]
    exact hnew
  -- the scope of notifications has no method
  have hcovers : ∀ method, Covers (if params.notificationTypes = [] then granted else
      granted ++ ["notifications"]) method → method ∈ GetAlwaysGrantedMethods ∨
        ∃ requested ∈ params.requestMethods,
          RequestMethodToScope requested = RequestMethodToScope method := by
    rintro method (halways | ⟨scope, hmem, hscope⟩)
    · exact .inl halways
    · have hgrants : scope ∈ granted := by
        split at hmem
        · exact hmem
        · refine (List.mem_append.1 hmem).resolve_right fun hn => ?_
          rw [List.mem_singleton] at hn
          subst hn
          rcases RequestMethodToScope_mem hscope with he | ⟨-, hne⟩
          · exact absurd he (by decide)
          · exact hne rfl
      rcases (mem_scopesOfMethods hgranted).1 hgrants with hnil | ⟨-, requested, hreq, heq⟩
      · exact absurd hnil List.not_mem_nil
      · exact .inr ⟨requested, hreq, heq.trans hscope.symm⟩
  refine ⟨fun turn supportedMethods hfault hperms method hreq hsupported => ?_,
    fun turn supportedMethods method hfault hperms hmem => ?_⟩
  · refine (mem_GetPermittedMethods hfault (hperms ▸ hrows)).2 ⟨?_, .inr hsupported⟩
    obtain ⟨scope, hscope⟩ := scope_of_scopesOfMethods hgranted hreq
    by_cases hne : scope = ""
    · exact .inl (granted_of_noScope (hne ▸ hscope))
    · have hmem : scope ∈ granted :=
        (mem_scopesOfMethods hgranted).2 (.inr ⟨hne, method, hreq, hscope⟩)
      refine .inr ⟨scope, ?_, hscope⟩
      split
      · exact hmem
      · exact List.mem_append_left _ hmem
  · exact hcovers method ((mem_GetPermittedMethods hfault (hperms ▸ hrows)).1 hmem).1

/-- A connection for invoices, on a node that knows hold invoices. Reference: none. -/
def invoiceConnection : CreateConnectionParams :=
  { name := "reader", pubkey := "", requestMethods := ["make_invoice", "get_budget"] }

theorem connection_permits_invoices : ∃ walletPubkey r',
    HandleCreateConnectionEvent { supportedMethods := ["make_invoice", "get_budget"] }
      invoiceConnection .empty = .ok (walletPubkey, r') ∧
    invoiceConnection.Permits r' readerApp := by
  obtain ⟨walletPubkey, r', h⟩ : ∃ walletPubkey r',
      HandleCreateConnectionEvent { supportedMethods := ["make_invoice", "get_budget"] }
        invoiceConnection .empty = .ok (walletPubkey, r') := ⟨_, _, rfl⟩
  exact ⟨walletPubkey, r', h, connection_permits h rfl⟩

end

end AlbyHub
