import LlmObs.Backend.Api.Projects
import LlmObs.Backend.Core.Accounts
import LlmObs.Foundation.Outcome

/-!
Owns `create_project`, `assign_project_member` and `remove_project_member` over the
accounts. The payload settings and the retention of a new project are left out: nothing
that is modelled over the accounts reads them.
-/

namespace LlmObs.Backend

open LlmObs.Foundation

/-- The validated body of `create_project` with the id and the key token that the
request draws. -/
structure ProjectCreateCall where
  name : String
  id : UUID
  keyToken : String
  name_ge : 1 ≤ name.length := by decide
  name_le : name.length ≤ 255 := by decide

def ProjectCreateCall.row (call : ProjectCreateCall) (orgId : UUID) (name : String) :
    ProjectAccount where
  id := call.id
  orgId := orgId
  name := name
  apiKeyHash := newApiKeyHash call.keyToken
  isActive := true

/-- `create_project` -/
def createProject (runtime : Runtime) (db : AccountDatabase) (subject : UUID)
    (call : ProjectCreateCall) : Except AccountsError AccountDatabase := do
  let user ← requireAdmin db.users subject
  let name := runtime.strip call.name
  if name = "" then throw (.http 400 "Project name is required")
  if ∃ project ∈ db.projects.rows, project.orgId = user.orgId ∧ project.name = name then
    throw (.http 409 "Project already exists")
  match db.projects.insert? (call.row user.orgId name) with
  | some projects => return { db with projects := projects }
  | none => throw accountUniqueViolation

def parseUuid (text : String) : Except AccountsError UUID :=
  match UUID.ofText? text with
  | some id => .ok id
  | none => .error invalidUuid

/-- `ensure_project_in_org`, which the callers follow with statements about the same
id. -/
def ensureProjectInOrg (db : AccountDatabase) (projectId : String) (orgId : UUID) :
    Except AccountsError UUID := do
  let id ← parseUuid projectId
  if ∃ project ∈ db.projects.rows,
      project.id = id ∧ project.orgId = orgId ∧ project.isActive = true then
    return id
  else throw (.http 404 "Project not found")

/-- The `SELECT` of the target among the active users of the organization. -/
def ensureUserInOrg (db : AccountDatabase) (userId : String) (orgId : UUID) :
    Except AccountsError UUID := do
  let id ← parseUuid userId
  if ∃ row ∈ db.users.rows, row.id = id ∧ row.orgId = orgId ∧ row.isActive = true then
    return id
  else throw (.http 404 "User not found")

/-- The path and the body of `assign_project_member`, and the id that it draws. -/
structure MemberAssignCall where
  projectId : String
  userId : String
  role : MembershipRole
  membershipId : UUID

/-- `assign_project_member` -/
def assignProjectMember (db : AccountDatabase) (subject : UUID) (call : MemberAssignCall) :
    Except AccountsError AccountDatabase := do
  let user ← requireAdmin db.users subject
  let projectId ← ensureProjectInOrg db call.projectId user.orgId
  let userId ← ensureUserInOrg db call.userId user.orgId
  match MembershipTable.upsert? db.memberships
      ⟨call.membershipId, projectId, userId, call.role⟩ with
  | some memberships => return { db with memberships := memberships }
  | none => throw accountUniqueViolation

/-- `remove_project_member` -/
def removeProjectMember (db : AccountDatabase) (subject : UUID) (projectId userId : String) :
    Except AccountsError AccountDatabase := do
  let user ← requireAdmin db.users subject
  let project ← ensureProjectInOrg db projectId user.orgId
  let target ← ensureUserInOrg db userId user.orgId
  if ∃ row ∈ db.memberships.rows, row.projectId = project ∧ row.userId = target then
    return { db with
      memberships := db.memberships.deleteWhere fun row =>
        decide (row.projectId = project) && decide (row.userId = target) }
  else throw (.http 404 "Project membership not found")

/-! ### What a call does -/

theorem createProject_eq_ok {runtime : Runtime} {db next : AccountDatabase} {subject : UUID}
    {call : ProjectCreateCall} (created : createProject runtime db subject call = .ok next) :
    ∃ projects : Table ProjectAccount ProjectAccount.Clash, ∃ project,
      projects.rows = db.projects.rows ++ [project] ∧
        next = { db with projects := projects } := by
  simp only [createProject, bind_eq_ok] at created
  obtain ⟨user, -, created⟩ := created
  split at created
  · cases created
  · split at created
    · cases created
    · split at created
      · rename_i projects inserted
        cases created
        exact ⟨projects, _, Table.insert?_rows inserted, rfl⟩
      · cases created

theorem ensureProjectInOrg_eq_ok {db : AccountDatabase} {projectId : String} {orgId id : UUID}
    (ensured : ensureProjectInOrg db projectId orgId = .ok id) :
    ∃ project ∈ db.projects.rows, project.id = id ∧ project.orgId = orgId := by
  simp only [ensureProjectInOrg, bind_eq_ok] at ensured
  obtain ⟨parsed, -, ensured⟩ := ensured
  split at ensured
  · rename_i found
    obtain ⟨project, stored, sameId, sameOrg, -⟩ := found
    cases ensured
    exact ⟨project, stored, sameId, sameOrg⟩
  · cases ensured

theorem ensureUserInOrg_eq_ok {db : AccountDatabase} {userId : String} {orgId id : UUID}
    (ensured : ensureUserInOrg db userId orgId = .ok id) :
    ∃ row ∈ db.users.rows, row.id = id ∧ row.orgId = orgId := by
  simp only [ensureUserInOrg, bind_eq_ok] at ensured
  obtain ⟨parsed, -, ensured⟩ := ensured
  split at ensured
  · rename_i found
    obtain ⟨row, stored, sameId, sameOrg, -⟩ := found
    cases ensured
    exact ⟨row, stored, sameId, sameOrg⟩
  · cases ensured

/-- The upserted membership has a project and a user of one organization. -/
theorem assignProjectMember_eq_ok {db next : AccountDatabase} {subject : UUID}
    {call : MemberAssignCall} (assigned : assignProjectMember db subject call = .ok next) :
    ∃ row memberships, MembershipTable.upsert? db.memberships row = some memberships ∧
      next = { db with memberships := memberships } ∧
      ∃ user ∈ db.users.rows, ∃ project ∈ db.projects.rows,
        user.id = row.userId ∧ project.id = row.projectId ∧ user.orgId = project.orgId := by
  simp only [assignProjectMember, bind_eq_ok] at assigned
  obtain ⟨admin, -, projectId, projectEnsured, userId, userEnsured, assigned⟩ := assigned
  obtain ⟨project, projectStored, sameProject, projectOrg⟩ :=
    ensureProjectInOrg_eq_ok projectEnsured
  obtain ⟨user, userStored, sameUser, userOrg⟩ := ensureUserInOrg_eq_ok userEnsured
  split at assigned
  · rename_i memberships upserted
    cases assigned
    exact ⟨_, memberships, upserted, rfl, user, userStored, project, projectStored, sameUser,
      sameProject, userOrg.trans projectOrg.symm⟩
  · cases assigned

theorem removeProjectMember_eq_ok {db next : AccountDatabase} {subject : UUID}
    {projectId userId : String}
    (removed : removeProjectMember db subject projectId userId = .ok next) :
    ∃ selected, next = { db with memberships := db.memberships.deleteWhere selected } := by
  simp only [removeProjectMember, bind_eq_ok] at removed
  obtain ⟨admin, -, project, -, target, -, removed⟩ := removed
  split at removed
  · cases removed
    exact ⟨_, rfl⟩
  · cases removed

end LlmObs.Backend
