import LlmObs.Backend.Api.Invites
import LlmObs.Backend.Api.ProjectMembers
import LlmObs.Backend.Api.ProjectSettings
import LlmObs.Backend.Api.Users
import LlmObs.Backend.Services.Storage
import LlmObs.Foundation.Statements

/-!
Owns the endpoints of `users.py` and `projects.py` that change something, each as the
statements it runs on its session, with the audit event it inserts and the place of its
commit. It does not own what an endpoint does after the commit.
-/

namespace LlmObs.Backend

open LlmObs.Foundation

/-! ### Tables and writes -/

/-- The arguments of `log_audit`, and the columns of `audit_log` that it fills. -/
structure AuditEvent where
  orgId : UUID
  userId : Option UUID
  action : String
  resourceId : Option String
  metadata : Json

structure AdminDatabase where
  accounts : AccountDatabase
  keys : Table ProjectApiKey ProjectApiKey.Clash
  /-- The columns of `projects` that `accounts` does not hold. -/
  settings : ProjectSettingsTable
  auditLog : List AuditEvent

inductive AdminWrite where
  | insertInvite (row : InviteRow)
  | insertUser (row : UserRow)
  | upsertMembership (id : UUID) (projectId : String) (userId : UUID) (role : MembershipRole)
  | acceptInvite (id : UUID) (now : Int)
  | writeUser (orgId id : UUID) (write : UserWrite)
  | insertProject (project : ProjectAccount) (settings : ProjectSettings)
  | rotateKey (orgId projectId : UUID) (newHash : String)
  | deleteMembership (projectId userId : UUID)
  | insertApiKey (row : ProjectApiKey)
  | revokeKey (orgId projectId keyId : UUID) (now : Int)
  | updateSettings (orgId projectId : UUID) (update : ProjectSettingsUpdate)
  | insertAudit (event : AuditEvent)

/-- Whether the write is a change of its endpoint, and no audit event. -/
def AdminWrite.isMutation : AdminWrite → Bool
  | .insertAudit _ => false
  | _ => true

def orViolation {α : Type} (violation : AccountsError) : Option α → Except AccountsError α
  | some value => .ok value
  | none => .error violation

def ensureProject (db : AccountDatabase) (id : UUID) : Except AccountsError Unit :=
  if ∃ project ∈ db.projects.rows, project.id = id then .ok ()
  else .error accountForeignKeyViolation

namespace AdminDatabase

def setAccounts (db : AdminDatabase) (accounts : AccountDatabase) : AdminDatabase :=
  { db with accounts := accounts }

/-- The row of `projects` that `update_settings` selects, by its two halves. -/
def settings? (db : AdminDatabase) (orgId projectId : UUID) : Option ProjectSettings :=
  db.settings.rows.find? (·.isOf orgId projectId)

end AdminDatabase

namespace AdminWrite

/-- The tables with the write, or the exception that it raises. -/
def apply (runtime : Runtime) (write : AdminWrite) (db : AdminDatabase) :
    Except AccountsError AdminDatabase :=
  match write with
  | .insertInvite row => do
      let invites ← orViolation accountUniqueViolation (db.accounts.invites.insert? row)
      return db.setAccounts { db.accounts with invites := invites }
  | .insertUser row => do
      if ¬∃ org ∈ db.accounts.organizations.rows, org.id = row.orgId then
        throw accountForeignKeyViolation
      let users ← orViolation accountUniqueViolation (db.accounts.users.insert? row)
      return db.setAccounts { db.accounts with users := users }
  | .upsertMembership id projectId userId role => do
      let projectId ← parseUuid projectId
      ensureProject db.accounts projectId
      let memberships ← orViolation accountUniqueViolation
        (MembershipTable.upsert? db.accounts.memberships ⟨id, projectId, userId, role⟩)
      return db.setAccounts { db.accounts with memberships := memberships }
  | .acceptInvite id now =>
      return db.setAccounts
        { db.accounts with invites := InviteTable.accept db.accounts.invites id now }
  | .writeUser orgId id write => return db.setAccounts (commitUserWrite db.accounts orgId id write)
  | .insertProject project settings => do
      let projects ← orViolation accountUniqueViolation (db.accounts.projects.insert? project)
      let settings ← orViolation accountUniqueViolation (db.settings.insert? settings)
      return { db.setAccounts { db.accounts with projects := projects } with settings := settings }
  | .rotateKey orgId projectId newHash => do
      let projects ← orViolation accountUniqueViolation
        (db.accounts.projects.updateWhere? (·.isRotated orgId projectId)
          fun project => { project with apiKeyHash := newHash })
      return db.setAccounts { db.accounts with projects := projects }
  | .deleteMembership projectId userId =>
      return db.setAccounts { db.accounts with
        memberships := db.accounts.memberships.deleteWhere fun row =>
          decide (row.projectId = projectId) && decide (row.userId = userId) }
  | .insertApiKey row => do
      ensureProject db.accounts row.projectId
      let keys ← orViolation accountUniqueViolation (db.keys.insert? row)
      return { db with keys := keys }
  | .revokeKey orgId projectId keyId now =>
      return { db with
        keys := db.keys.mapRows
          (fun key =>
            if key.isRevoked db.accounts.projects.rows orgId projectId keyId then key.revoke now
            else key)
          fun _ _ clash => ProjectApiKey.clash_revoke.mp clash }
  | .updateSettings orgId projectId update =>
      match db.settings? orgId projectId with
      | none => return db
      | some stored =>
          match update.set? runtime stored with
          | none => throw (.raised ⟨.sqlAlchemyError, "null value violates not-null constraint"⟩)
          | some _ => return { db with
              settings := db.settings.mapRows (·.updated runtime update orgId projectId)
                fun _ _ clash => by simpa only [ProjectSettings.updated_id] using clash }
  | .insertAudit event => do
      match event.resourceId with
      | some text => let _ ← parseUuid text
      | none => pure ()
      return { db with auditLog := db.auditLog ++ [event] }

section

variable {runtime : Runtime} {db : AdminDatabase}

theorem apply_rotateKey (orgId projectId : UUID) (newHash : String) :
    (rotateKey orgId projectId newHash).apply runtime db =
      (orViolation accountUniqueViolation
        (db.accounts.projects.updateWhere? (·.isRotated orgId projectId)
          fun project => { project with apiKeyHash := newHash })).map fun projects =>
        db.setAccounts { db.accounts with projects := projects } := rfl

/-- An event about a resource whose id is an id is stored. -/
theorem apply_insertAudit {event : AuditEvent} {text : String} {id : UUID}
    (resource : event.resourceId = some text) (parsed : UUID.ofText? text = some id) :
    (insertAudit event).apply runtime db =
      .ok { db with auditLog := db.auditLog ++ [event] } := by
  simp only [apply, resource, parseUuid, parsed]
  rfl

end

end AdminWrite

/-! ### Bodies -/

/-- The fields of a validated `ProjectCreate` beside its name. -/
structure ProjectCreateSettings where
  retentionDays : Nat := 90
  payloadStorageMode : PayloadStorageMode := .all
  payloadMaxBytes : Nat := defaultPayloadMaxBytes
  payloadRedactKeys : String := defaultRedactKeys
  retentionDays_ge : 7 ≤ retentionDays := by decide
  retentionDays_le : retentionDays ≤ 365 := by decide
  payloadMaxBytes_le : payloadMaxBytes ≤ maxPayloadMaxBytes := by decide
  payloadRedactKeys_le : payloadRedactKeys.length ≤ 1000 := by decide

def ProjectCreateSettings.row (runtime : Runtime) (settings : ProjectCreateSettings)
    (id orgId : UUID) : ProjectSettings where
  id := id
  orgId := orgId
  retentionDays := settings.retentionDays
  payloadStorageMode := settings.payloadStorageMode
  payloadMaxBytes := settings.payloadMaxBytes
  payloadRedactKeys := runtime.strip settings.payloadRedactKeys

/-- The validated body of `create_api_key`, and the id and the token that it draws. The
description, which nothing modelled reads, is left out. -/
structure ApiKeyCreateCall where
  projectId : String
  name : String
  scope : ApiKeyScope
  id : UUID
  token : String
  name_ge : 1 ≤ name.length := by decide
  name_le : name.length ≤ 100 := by decide

def ApiKeyCreateCall.row (call : ApiKeyCreateCall) (projectId : UUID) : ProjectApiKey where
  id := call.id
  projectId := projectId
  keyHash := newApiKeyHash call.token
  scope := call.scope
  isActive := true
  revokedAt := none

def storageModeText : PayloadStorageMode → String
  | .all => "all"
  | .errors => "errors"
  | .none => "none"

/-! ### Endpoints -/

abbrev AdminScript := Script AdminDatabase AdminWrite AccountsError

namespace AdminScript

/-- `log_audit` with the session of the caller. Its other mode, a session of its own, is
left out: no endpoint calls it. -/
def logAudit (event : AuditEvent) : AdminScript Unit := Script.write (.insertAudit event)

/-- `raise` unless the condition holds. -/
def check (condition : Prop) [Decidable condition] (error : AccountsError) : AdminScript Unit :=
  Script.ofExcept (if condition then .ok () else .error error)

def currentAdmin (subject : UUID) : AdminScript SignedInUser :=
  Script.query fun db => requireAdmin db.accounts.users subject

/-! ### `users.py` -/

/-- `validate_invite_project_assignments`, which asks the database about projects only
where there are some. -/
def validateAssignments (body : UserInviteCreate) (orgId : UUID) :
    AdminScript (List ProjectAssignment) :=
  if body.projectAssignments = [] then pure []
  else Script.query fun db => validateInviteProjectAssignments db.accounts body orgId

/-- `create_invite` -/
def createInvite (subject : UUID) (call : InviteCall) : AdminScript InviteRow := do
  let user ← currentAdmin subject
  Script.transaction do
    Script.query fun db =>
      if emailRegistered db.accounts call.body.email then .error emailAlreadyRegistered else .ok ()
    let assignments ← validateAssignments call.body user.orgId
    let row := call.row user assignments
    Script.write (.insertInvite row)
    let invited ← Script.ofExcept (serializeProjectAssignments row.projectAssignments)
    logAudit {
      orgId := user.orgId
      userId := some user.sub
      action := "user.invite.create"
      resourceId := some row.id.str
      metadata := .obj [("email", .str call.body.email), ("role", .str call.body.role.text),
        ("project_assignment_count", .int invited.length)] }
    return row

/-- The loop over the assignments, from the one that draws membership id `index`. -/
def assignProjects (call : AcceptCall) : Nat → List ProjectAssignment → AdminScript Unit
  | _, [] => pure ()
  | index, assignment :: rest => do
      Script.write (.upsertMembership (call.membershipId index) assignment.projectId call.userId
        assignment.role)
      assignProjects call (index + 1) rest

/-- `accept_invite`, where `datetime.now(UTC)` is `now`: the new user and the project that
the answer selects. -/
def acceptInvite (call : AcceptCall) (now : Int) : AdminScript (UserRow × Option String) :=
  Script.transaction do
    let invite ← Script.query fun db =>
      match db.accounts.invites.rows.find? (·.isOpen call.token) with
      | some invite => .ok invite
      | none => .error invalidInvite
    check (¬invite.expiresAt ≤ now) expiredInvite
    Script.query fun db =>
      if emailRegistered db.accounts invite.email then .error emailAlreadyRegistered else .ok ()
    Script.write (.insertUser (call.user invite))
    let assignments ← Script.ofExcept (serializeProjectAssignments invite.projectAssignments)
    assignProjects call 0 assignments
    Script.write (.acceptInvite invite.id now)
    let selected ← Script.query fun db => .ok (selectedProjectId db.accounts invite)
    logAudit {
      orgId := invite.orgId
      userId := some call.userId
      action := "user.invite.accept"
      resourceId := some invite.id.str
      metadata := .obj [("email", .str invite.email), ("role", .str invite.role.text),
        ("project_assignment_count", .int assignments.length)] }
    return (call.user invite, selected)

/-- What `update_user_role` and `delete_user` tell `log_audit` about their target. -/
def userEditMetadata (target : UserRow) : UserCall → Json
  | .updateUserRole role => .obj [("email", .str target.email),
      ("old_role", .str target.role.text), ("new_role", .str role.text)]
  | .deleteUser => .obj [("email", .str target.email), ("role", .str target.role.text)]

def userEditAction : UserCall → String
  | .updateUserRole _ => "user.role.update"
  | .deleteUser => "user.delete"

/-- The refusal of an admin as the target of their own request. -/
def refuseSelf (request : UserRequest) (user : SignedInUser) : AdminScript Unit :=
  match request.call.endpoint.selfError with
  | some detail => check (request.userId ≠ user.sub.str) (.http 400 detail)
  | none => pure ()

/-- The count of the admins, where the endpoint makes it. -/
def keepAdmin (request : UserRequest) (user : SignedInUser) (target : UserRow) :
    AdminScript Unit :=
  if request.call.endpoint.countsAdmins target then
    Script.query fun db =>
      if adminCount db.accounts.users user.orgId ≤ 1 then .error lastAdmin else .ok ()
  else pure ()

/-- `update_user_role` and `delete_user`: the target as it was. -/
def editUser (request : UserRequest) : AdminScript UserRow := do
  let user ← currentAdmin request.subject
  refuseSelf request user
  Script.transaction do
    let target ← Script.query fun db => do
      let id ← parseUuid request.userId
      match db.accounts.users.rows.find? (·.isTarget user.orgId id) with
      | some target => .ok target
      | none => .error (.http 404 "User not found")
    keepAdmin request user target
    Script.writeFound (.writeUser user.orgId target.id request.call.endpoint.write)
      (fun db => db.accounts.users.rows.any (·.isWritten user.orgId target.id))
      request.call.endpoint.missing
    logAudit {
      orgId := user.orgId
      userId := some user.sub
      action := userEditAction request.call
      resourceId := some request.userId
      metadata := userEditMetadata target request.call }
    return target

/-! ### `projects.py` -/

/-- `create_project`, whose body has `settings` beside its name. -/
def createProject (runtime : Runtime) (subject : UUID) (call : ProjectCreateCall)
    (settings : ProjectCreateSettings) : AdminScript ProjectAccount := do
  let user ← currentAdmin subject
  let name := runtime.strip call.name
  check (name ≠ "") (.http 400 "Project name is required")
  Script.transaction do
    Script.query fun db =>
      if ∃ project ∈ db.accounts.projects.rows, project.orgId = user.orgId ∧ project.name = name then
        .error (.http 409 "Project already exists")
      else .ok ()
    let row := call.row user.orgId name
    Script.write (.insertProject row (settings.row runtime call.id user.orgId))
    logAudit {
      orgId := user.orgId
      userId := some user.sub
      action := "project.create"
      resourceId := some row.id.str
      metadata := .obj [("name", .str name)] }
    return row

def projectNotFound : AccountsError := .http 404 "Project not found"

/-- `rotate_api_key` up to its calls of Redis: the hash that is replaced. -/
def rotateApiKey (subject : UUID) (projectId token : String) : AdminScript String := do
  let user ← currentAdmin subject
  Script.transaction do
    let project ← Script.query fun db => do
      let id ← parseUuid projectId
      match db.accounts.projects.rows.find? (·.isRotated user.orgId id) with
      | some project => .ok project
      | none => .error projectNotFound
    Script.writeFound (.rotateKey user.orgId project.id (newApiKeyHash token))
      (fun db => db.accounts.projects.rows.any (·.isRotated user.orgId project.id))
      projectNotFound
    logAudit {
      orgId := user.orgId
      userId := some user.sub
      action := "api_key.rotate"
      resourceId := some projectId
      metadata := .obj [] }
    return project.apiKeyHash

/-- `assign_project_member` -/
def assignProjectMember (subject : UUID) (call : MemberAssignCall) : AdminScript Unit := do
  let user ← currentAdmin subject
  Script.transaction do
    let _ ← Script.query fun db => ensureProjectInOrg db.accounts call.projectId user.orgId
    let target ← Script.query fun db => ensureUserInOrg db.accounts call.userId user.orgId
    Script.write (.upsertMembership call.membershipId call.projectId target call.role)
    logAudit {
      orgId := user.orgId
      userId := some user.sub
      action := "project.member.assign"
      resourceId := some call.projectId
      metadata := .obj [("target_user_id", .str call.userId), ("role", .str call.role.text)] }

/-- `remove_project_member` -/
def removeProjectMember (subject : UUID) (projectId userId : String) : AdminScript Unit := do
  let user ← currentAdmin subject
  Script.transaction do
    let project ← Script.query fun db => ensureProjectInOrg db.accounts projectId user.orgId
    let target ← Script.query fun db => ensureUserInOrg db.accounts userId user.orgId
    Script.writeFound (.deleteMembership project target)
      (fun db => db.accounts.memberships.rows.any fun row =>
        decide (row.projectId = project) && decide (row.userId = target))
      (.http 404 "Project membership not found")
    logAudit {
      orgId := user.orgId
      userId := some user.sub
      action := "project.member.remove"
      resourceId := some projectId
      metadata := .obj [("target_user_id", .str userId)] }

/-- `create_api_key` -/
def createApiKey (subject : UUID) (call : ApiKeyCreateCall) : AdminScript ProjectApiKey := do
  let user ← currentAdmin subject
  Script.transaction do
    let project ← Script.query fun db => do
      let id ← parseUuid call.projectId
      if ∃ project ∈ db.accounts.projects.rows, project.id = id ∧ project.orgId = user.orgId then
        .ok id
      else .error projectNotFound
    let row := call.row project
    Script.write (.insertApiKey row)
    logAudit {
      orgId := user.orgId
      userId := some user.sub
      action := "api_key.create"
      resourceId := some call.projectId
      metadata := .obj [("name", .str call.name), ("scope", .str call.scope.text)] }
    return row

/-- `revoke_api_key` up to its call of Redis, where `now()` of the statement is `now`. -/
def revokeApiKey (subject : UUID) (projectId keyId : String) (now : Int) : AdminScript Unit := do
  let user ← currentAdmin subject
  Script.transaction do
    let project ← Script.ofExcept (parseUuid projectId)
    let key ← Script.ofExcept (parseUuid keyId)
    Script.writeFound (.revokeKey user.orgId project key now)
      (fun db => db.keys.rows.any
        (·.isRevoked db.accounts.projects.rows user.orgId project key))
      (.http 404 "API key not found")
    logAudit {
      orgId := user.orgId
      userId := some user.sub
      action := "api_key.revoke"
      resourceId := some projectId
      metadata := .obj [("key_id", .str keyId)] }

/-- A set field of `body.model_dump(exclude_unset=True)`. -/
def settingsEntry {α : Type} (name : String) (json : α → Json) :
    Option (Option α) → List (String × Json)
  | none => []
  | some none => [(name, .null)]
  | some (some value) => [(name, json value)]

/-- `values` of `update_settings`. -/
def settingsValues (runtime : Runtime) (update : ProjectSettingsUpdate) : Json :=
  .obj (settingsEntry "retention_days" (fun days : Nat => .int days) update.retentionDays ++
    settingsEntry "payload_storage_mode" (fun mode : PayloadStorageMode => .str (storageModeText mode))
      update.payloadStorageMode ++
    settingsEntry "payload_max_bytes" (fun bytes : Nat => .int bytes) update.payloadMaxBytes ++
    settingsEntry "payload_redact_keys" (fun keys => .str (runtime.strip keys))
      update.payloadRedactKeys)

/-- `update_settings`, which commits by itself. -/
def updateSettings (runtime : Runtime) (subject : UUID) (projectId : String)
    (update : ProjectSettingsUpdate) : AdminScript Unit := do
  let user ← currentAdmin subject
  check (update.isEmpty = false) (.http 400 "No settings provided")
  let project ← Script.ofExcept (parseUuid projectId)
  Script.writeFound (.updateSettings user.orgId project update)
    (fun db => (db.settings? user.orgId project).isSome) projectNotFound
  logAudit {
    orgId := user.orgId
    userId := some user.sub
    action := "project.settings.update"
    resourceId := some projectId
    metadata := settingsValues runtime update }
  Script.commit (pure ())

end AdminScript

end LlmObs.Backend
