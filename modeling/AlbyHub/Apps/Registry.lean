import AlbyHub.Go.Numbers
import AlbyHub.Go.Text
import AlbyHub.Db.Models

/-!
# The apps and their permissions

The tables `apps` and `app_permissions` as the functions that create, change and delete apps see
them. A registry carries what the schema enforces: an id is given once (`AUTOINCREMENT`), and a
permission row belongs to an app that is there (the foreign key, with its cascade).
-/

namespace AlbyHub

/-- A row of `apps`. Reference: `db/models.go:18 App`. -/
structure AppRow extends App where
  appPubkey : String
  walletPubkey : Option String := none
  metadata : String := ""
  deriving DecidableEq, Repr

/-- A row of `app_permissions`. Reference: `db/models.go:32 AppPermission`. -/
structure PermissionRow extends AppPermission where
  id : Nat := 0
  expiresAt : Option Time := none
  deriving DecidableEq, Repr

/-- A column of `apps` that is updated by itself, with its value. Reference: `api/api.go:186
UpdateApp`, `apps/apps_service.go:155 CreateApp`. -/
inductive AppColumn where
  | name (name : String)
  | isolated (isolated : Bool)
  | metadata (metadata : String)
  | walletPubkey (walletPubkey : String)

/-- Reference: gorm `Update`. -/
def AppRow.update (a : AppRow) : AppColumn → AppRow
  | .name name => { a with name := name }
  | .isolated isolated => { a with isolated := isolated }
  | .metadata metadata => { a with metadata := metadata }
  | .walletPubkey walletPubkey => { a with walletPubkey := some walletPubkey }

@[simp] theorem AppRow.update_id (a : AppRow) (column : AppColumn) : (a.update column).id =
  a.id := by
  cases column <;> rfl

/-- The two tables. Reference: `db/migrations/202407151352_autoincrement.go appsMigration`. -/
structure Registry where
  apps : List AppRow
  permissions : List PermissionRow
  nextAppId : Nat
  nextPermissionId : Nat
  app_lt : ∀ a ∈ apps, a.id < nextAppId
  permission_lt : ∀ p ∈ permissions, p.id < nextPermissionId
  references : ∀ p ∈ permissions, ∃ a ∈ apps, a.id = p.appId

namespace Registry

/-- The tables of a new hub. Reference: none. -/
def empty : Registry := ⟨[], [], 1, 1, nofun, nofun, nofun⟩

/-- Whether an app is there. Reference: `fk_app_permissions_app`. -/
def HasApp (r : Registry) (appId : Nat) : Prop := ∃ a ∈ r.apps, a.id = appId

instance (r : Registry) (appId : Nat) : Decidable (r.HasApp appId) :=
  inferInstanceAs (Decidable (∃ a ∈ r.apps, a.id = appId))

/-- The insertion of a row of `apps` under its id. Reference: gorm `Create`. -/
def insertApp (r : Registry) (a : AppRow) : Registry where
  apps := r.apps ++ [a]
  permissions := r.permissions
  nextAppId := max r.nextAppId (a.id + 1)
  nextPermissionId := r.nextPermissionId
  app_lt := by
    intro b hb
    rcases List.mem_append.1 hb with hb | hb
    · have := r.app_lt b hb; omega
    · rw [List.mem_singleton.1 hb]; omega
  permission_lt := r.permission_lt
  references := by
    intro p hp
    obtain ⟨b, hb, hid⟩ := r.references p hp
    exact ⟨b, List.mem_append_left _ hb, hid⟩

/-- The insertion of the app that a permission row comes with: nothing where its id or public key is
there. Reference: gorm `SaveBeforeAssociations`, `clause.OnConflict{DoNothing: true}`. -/
def upsertApp (r : Registry) (a : AppRow) : Registry :=
  if r.apps.any (fun b => b.id = a.id || b.appPubkey = a.appPubkey) then r else r.insertApp a

/-- The insertion of a row of `app_permissions`, with the next id. Reference: gorm `Create`. -/
def insertPermission (r : Registry) (p : PermissionRow) (h : r.HasApp p.appId) : Registry where
  apps := r.apps
  permissions := r.permissions ++ [{ p with id := r.nextPermissionId }]
  nextAppId := r.nextAppId
  nextPermissionId := r.nextPermissionId + 1
  app_lt := r.app_lt
  permission_lt := by
    intro q hq
    rcases List.mem_append.1 hq with hq | hq
    · exact Nat.lt_succ_of_lt (r.permission_lt q hq)
    · rw [List.mem_singleton.1 hq]; exact Nat.lt_succ_self _
  references := by
    intro q hq
    rcases List.mem_append.1 hq with hq | hq
    · exact r.references q hq
    · rw [List.mem_singleton.1 hq]; exact h

/-- `tx.Create(&db.AppPermission{App: app, …})`. Reference: `api/api.go:311 UpdateApp`,
`apps/apps_service.go:134 CreateApp`. -/
def createPermission (r : Registry) (app : AppRow) (scope : String) (expiresAt : Option Time)
    (maxAmountSat : Int) (budgetRenewal : String) : Except String Registry :=
  let r := r.upsertApp app
  if h : r.HasApp app.id then
    .ok (r.insertPermission { appId := app.id, scope, expiresAt, maxAmountSat, budgetRenewal } h)
  else .error "FOREIGN KEY constraint failed"

/-- `tx.Model(&db.App{}).Where("id", appId).Update(…)`. Reference: `api/api.go:186 UpdateApp`. -/
def updateApp (r : Registry) (appId : Nat) (column : AppColumn) : Registry where
  apps := r.apps.map fun a => if a.id = appId then a.update column else a
  permissions := r.permissions
  nextAppId := r.nextAppId
  nextPermissionId := r.nextPermissionId
  app_lt := by
    intro b hb
    obtain ⟨a, ha, rfl⟩ := List.mem_map.1 hb
    have hlt := r.app_lt a ha
    split
    · rw [AppRow.update_id]; exact hlt
    · exact hlt
  permission_lt := r.permission_lt
  references := by
    intro p hp
    obtain ⟨a, ha, hid⟩ := r.references p hp
    refine ⟨_, List.mem_map.2 ⟨a, ha, rfl⟩, ?_⟩
    split
    · rw [AppRow.update_id]; exact hid
    · exact hid

/-- A permission row with the expiry and budget of an update. Reference: `api/api.go:276
UpdateApp`. -/
def assignPermission (appId : Nat) (expiresAt : Option Time) (maxAmountSat : Int)
    (budgetRenewal : String) (p : PermissionRow) : PermissionRow :=
  if p.appId = appId then
    { p with expiresAt := expiresAt, maxAmountSat := maxAmountSat, budgetRenewal := budgetRenewal }
  else p

theorem assignPermission_key (appId : Nat) (expiresAt : Option Time) (maxAmountSat : Int)
    (budgetRenewal : String) (p : PermissionRow) :
    (assignPermission appId expiresAt maxAmountSat budgetRenewal p).id = p.id ∧
    (assignPermission appId expiresAt maxAmountSat budgetRenewal p).appId = p.appId ∧
    (assignPermission appId expiresAt maxAmountSat budgetRenewal p).scope = p.scope := by
  unfold assignPermission
  split <;> exact ⟨rfl, rfl, rfl⟩

/-- `tx.Model(&db.AppPermission{}).Where("app_id", appId).Updates(…)`. Reference: `api/api.go:276
UpdateApp`. -/
def updatePermissions (r : Registry) (appId : Nat) (expiresAt : Option Time) (maxAmountSat : Int)
    (budgetRenewal : String) : Registry where
  apps := r.apps
  permissions := r.permissions.map (assignPermission appId expiresAt maxAmountSat budgetRenewal)
  nextAppId := r.nextAppId
  nextPermissionId := r.nextPermissionId
  app_lt := r.app_lt
  permission_lt := by
    intro q hq
    obtain ⟨p, hp, rfl⟩ := List.mem_map.1 hq
    rw [(assignPermission_key appId expiresAt maxAmountSat budgetRenewal p).1]
    exact r.permission_lt p hp
  references := by
    intro q hq
    obtain ⟨p, hp, rfl⟩ := List.mem_map.1 hq
    rw [(assignPermission_key appId expiresAt maxAmountSat budgetRenewal p).2.1]
    exact r.references p hp

/-- `tx.Where("app_id = ? AND scope = ?", …).Delete(&db.AppPermission{})`. Reference:
`api/api.go:325 UpdateApp`. -/
def deletePermissions (r : Registry) (appId : Nat) (scope : String) : Registry where
  apps := r.apps
  permissions := r.permissions.filter fun p => ¬ (p.appId = appId ∧ p.scope = scope)
  nextAppId := r.nextAppId
  nextPermissionId := r.nextPermissionId
  app_lt := r.app_lt
  permission_lt := fun p hp => r.permission_lt p (List.mem_filter.1 hp).1
  references := fun p hp => r.references p (List.mem_filter.1 hp).1

/-- `svc.db.Delete(app)`, which deletes the app's permission rows with it. Reference:
`apps/apps_service.go:185 DeleteApp`, `fk_app_permissions_app`. -/
def deleteApp (r : Registry) (appId : Nat) : Registry where
  apps := r.apps.filter (·.id ≠ appId)
  permissions := r.permissions.filter (·.appId ≠ appId)
  nextAppId := r.nextAppId
  nextPermissionId := r.nextPermissionId
  app_lt := fun a ha => r.app_lt a (List.mem_filter.1 ha).1
  permission_lt := fun p hp => r.permission_lt p (List.mem_filter.1 hp).1
  references := by
    intro p hp
    obtain ⟨hp, hne⟩ := List.mem_filter.1 hp
    obtain ⟨a, ha, hid⟩ := r.references p hp
    refine ⟨a, List.mem_filter.2 ⟨ha, ?_⟩, hid⟩
    rw [hid]
    exact hne

/-- The app has a permission row with the scope. Reference: `nip47/permissions/permissions.go:40
HasPermission`. -/
def HasScope (r : Registry) (appId : Nat) (scope : String) : Prop :=
  ∃ p ∈ r.permissions, p.appId = appId ∧ p.scope = scope

instance (r : Registry) (appId : Nat) (scope : String) : Decidable (r.HasScope appId scope) :=
  inferInstanceAs (Decidable (∃ p ∈ r.permissions, p.appId = appId ∧ p.scope = scope))

section
variable {r r' : Registry} {a app : AppRow} {appId : Nat} {scope scope' : String}
variable {expiresAt : Option Time} {maxAmountSat : Int} {budgetRenewal : String}

@[simp] theorem upsertApp_permissions : (r.upsertApp a).permissions = r.permissions := by
  unfold upsertApp
  split <;> rfl

/-- A new id belongs to no permission row. Reference: `AUTOINCREMENT`. -/
theorem not_hasScope_nextAppId : ¬ r.HasScope r.nextAppId scope := by
  rintro ⟨p, hp, hid, -⟩
  obtain ⟨b, hb, hbid⟩ := r.references p hp
  have hlt := r.app_lt b hb
  omega

/-- The scopes after the insertion of a permission row. Reference: gorm `Create`. -/
theorem hasScope_createPermission
    (h : r.createPermission app scope expiresAt maxAmountSat budgetRenewal = .ok r') :
    r'.HasScope appId scope' ↔ r.HasScope appId scope' ∨ (app.id = appId ∧ scope = scope') := by
  simp only [createPermission] at h
  split at h
  · obtain rfl := Except.ok.inj h
    constructor
    · rintro ⟨p, hp, hid, hscope⟩
      rcases List.mem_append.1 hp with hp | hp
      · rw [upsertApp_permissions] at hp
        exact .inl ⟨p, hp, hid, hscope⟩
      · rw [List.mem_singleton.1 hp] at hid hscope
        exact .inr ⟨hid, hscope⟩
    · rintro (⟨p, hp, hid, hscope⟩ | ⟨hid, hscope⟩)
      · refine ⟨p, List.mem_append_left _ ?_, hid, hscope⟩
        rw [upsertApp_permissions]
        exact hp
      · exact ⟨_, List.mem_append_right _ List.mem_cons_self, hid, hscope⟩
  · cases h

@[simp] theorem hasScope_updateApp {column : AppColumn} {id : Nat} :
    (r.updateApp id column).HasScope appId scope ↔ r.HasScope appId scope := Iff.rfl

@[simp] theorem hasScope_insertApp : (r.insertApp a).HasScope appId scope ↔
  r.HasScope appId scope :=
  Iff.rfl

/-- An update of expiry and budget keeps the scopes. Reference: `api/api.go:276 UpdateApp`. -/
@[simp] theorem hasScope_updatePermissions {id : Nat} :
    (r.updatePermissions id expiresAt maxAmountSat budgetRenewal).HasScope appId scope ↔
      r.HasScope appId scope := by
  constructor
  · rintro ⟨q, hq, hid, hscope⟩
    obtain ⟨p, hp, rfl⟩ := List.mem_map.1 hq
    obtain ⟨-, hpid, hpscope⟩ := assignPermission_key id expiresAt maxAmountSat budgetRenewal p
    exact ⟨p, hp, hpid ▸ hid, hpscope ▸ hscope⟩
  · rintro ⟨p, hp, hid, hscope⟩
    obtain ⟨-, hpid, hpscope⟩ := assignPermission_key id expiresAt maxAmountSat budgetRenewal p
    exact ⟨_, List.mem_map.2 ⟨p, hp, rfl⟩, hpid.trans hid, hpscope.trans hscope⟩

theorem hasScope_of_deletePermissions {id : Nat}
    (h : (r.deletePermissions id scope').HasScope appId scope) : r.HasScope appId scope := by
  obtain ⟨p, hp, hid, hscope⟩ := h
  exact ⟨p, (List.mem_filter.1 hp).1, hid, hscope⟩

theorem hasScope_of_deleteApp {id : Nat} (h : (r.deleteApp id).HasScope appId scope) :
    r.HasScope appId scope := by
  obtain ⟨p, hp, hid, hscope⟩ := h
  exact ⟨p, (List.mem_filter.1 hp).1, hid, hscope⟩

end

end Registry

end AlbyHub
