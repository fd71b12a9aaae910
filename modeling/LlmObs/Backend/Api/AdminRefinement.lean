import LlmObs.Backend.Api.AdminStatements
import LlmObs.Backend.Api.MembershipScope

/-!
Owns the agreement of the two models of `create_invite`, `create_project`,
`assign_project_member` and `remove_project_member`: an endpoint whose statements all
answer leaves the accounts that its handler makes of them in one step.
-/

namespace LlmObs.Backend

open LlmObs.Foundation

theorem ofText?_of_ensureProjectInOrg {db : AccountDatabase} {projectId : String}
    {orgId id : UUID} (ensured : ensureProjectInOrg db projectId orgId = .ok id) :
    UUID.ofText? projectId = some id := by
  rw [ensureProjectInOrg, parseUuid] at ensured
  cases parsed : UUID.ofText? projectId with
  | none =>
      rw [parsed] at ensured
      cases ensured
  | some project =>
      rw [parsed, ok_bind] at ensured
      split at ensured
      · exact congrArg some (Except.ok.inj ensured)
      · cases ensured

namespace AdminScript

variable {Value : Type} (runtime : Runtime) (db : AdminDatabase) (subject : UUID)

/-- The tables after a request whose statements all answer. -/
def undisturbed (script : AdminScript Value) : AdminDatabase :=
  (script.run (AdminWrite.apply runtime) (fun _ => none) (.begin db)).2.database

theorem commitFree_logAudit (event : AuditEvent) : (logAudit event).CommitFree :=
  Script.commitFree_write _

/-- An endpoint of an admin with one commit at its end takes effect as one step. -/
theorem undisturbed_asAdmin (body : SignedInUser → AdminScript Value)
    (free : ∀ user, (body user).CommitFree) :
    undisturbed runtime db (currentAdmin subject >>= body).transaction =
      Script.leaves db (do
        let user ← requireAdmin db.accounts.users subject
        (body user).eval (AdminWrite.apply runtime) db) := by
  have readOnly : (currentAdmin subject).CommitFree := Script.commitFree_query _
  rw [undisturbed, Script.database_transaction (readOnly.bind free), currentAdmin,
    Script.eval_query_bind]

/-- An event is stored beside the accounts. -/
theorem eval_logAudit {event : AuditEvent} {text : String} {id : UUID} {view : AdminDatabase}
    (resource : event.resourceId = some text) (parsed : UUID.ofText? text = some id) :
    (logAudit event).eval (AdminWrite.apply runtime) view =
      .ok ((), { view with auditLog := view.auditLog ++ [event] }) := by
  rw [logAudit, Script.eval_write, AdminWrite.apply_insertAudit resource parsed]
  rfl

theorem accounts_assignProjectMember (call : MemberAssignCall) :
    (undisturbed runtime db (assignProjectMember subject call)).accounts =
      db.accounts.orUnchanged
        (LlmObs.Backend.assignProjectMember db.accounts subject call) := by
  rw [assignProjectMember, Script.bind_transaction, undisturbed_asAdmin,
    LlmObs.Backend.assignProjectMember]
  swap
  · intro user
    refine (Script.commitFree_query _).bind fun _ => (Script.commitFree_query _).bind fun _ => ?_
    exact (Script.commitFree_write _).bind fun _ => commitFree_logAudit _
  cases requireAdmin db.accounts.users subject with
  | error error => rfl
  | ok user =>
  rw [ok_bind, ok_bind, Script.eval_query_bind]
  cases ensured : ensureProjectInOrg db.accounts call.projectId user.orgId with
  | error error => rfl
  | ok project =>
  rw [ok_bind, ok_bind, Script.eval_query_bind]
  cases ensureUserInOrg db.accounts call.userId user.orgId with
  | error error => rfl
  | ok target =>
  have parsed := ofText?_of_ensureProjectInOrg ensured
  have stored : ∃ row ∈ db.accounts.projects.rows, row.id = project := by
    obtain ⟨row, member, same, -⟩ := ensureProjectInOrg_eq_ok ensured
    exact ⟨row, member, same⟩
  rw [ok_bind, ok_bind, Script.eval_write_bind]
  simp only [AdminWrite.apply, parseUuid, parsed, ok_bind, ensureProject, if_pos stored]
  cases MembershipTable.upsert? db.accounts.memberships
      ⟨call.membershipId, project, target, call.role⟩ with
  | none => rfl
  | some memberships =>
      show (Script.leaves db (Script.eval _ _ _)).accounts = _
      rw [eval_logAudit runtime rfl parsed]
      rfl

theorem accounts_removeProjectMember (projectId userId : String) :
    (undisturbed runtime db (removeProjectMember subject projectId userId)).accounts =
      db.accounts.orUnchanged
        (LlmObs.Backend.removeProjectMember db.accounts subject projectId userId) := by
  rw [removeProjectMember, Script.bind_transaction, undisturbed_asAdmin,
    LlmObs.Backend.removeProjectMember]
  swap
  · intro user
    refine (Script.commitFree_query _).bind fun _ => (Script.commitFree_query _).bind fun _ => ?_
    exact (Script.commitFree_writeFound _ _ _).bind fun _ => commitFree_logAudit _
  cases requireAdmin db.accounts.users subject with
  | error error => rfl
  | ok user =>
  rw [ok_bind, ok_bind, Script.eval_query_bind]
  cases ensured : ensureProjectInOrg db.accounts projectId user.orgId with
  | error error => rfl
  | ok project =>
  rw [ok_bind, ok_bind, Script.eval_query_bind]
  cases ensureUserInOrg db.accounts userId user.orgId with
  | error error => rfl
  | ok target =>
  have parsed := ofText?_of_ensureProjectInOrg ensured
  have found : (db.accounts.memberships.rows.any fun row =>
      decide (row.projectId = project) && decide (row.userId = target)) = true ↔
        ∃ row ∈ db.accounts.memberships.rows, row.projectId = project ∧ row.userId = target := by
    simp
  rw [ok_bind, ok_bind, Script.eval_writeFound_bind]
  show (Script.leaves db (if _ then _ else _)).accounts = _
  simp only [found]
  split
  · rw [eval_logAudit runtime rfl parsed]
    rfl
  · rfl

theorem eval_validateAssignments (body : UserInviteCreate) (orgId : UUID) :
    (validateAssignments body orgId).eval (AdminWrite.apply runtime) db =
      (validateInviteProjectAssignments db.accounts body orgId).map fun assignments =>
        (assignments, db) := by
  rw [validateAssignments]
  by_cases none : body.projectAssignments = []
  · rw [if_pos none, validateInviteProjectAssignments, if_pos (List.map_eq_nil_iff.mpr none)]
    rfl
  · rw [if_neg none, Script.query, Script.eval]
    cases validateInviteProjectAssignments db.accounts body orgId with
    | error error => rfl
    | ok assignments => rfl

theorem accounts_createInvite (call : InviteCall) :
    (undisturbed runtime db (createInvite subject call)).accounts =
      db.accounts.orUnchanged (LlmObs.Backend.createInvite db.accounts subject call) := by
  rw [createInvite, Script.bind_transaction, undisturbed_asAdmin,
    LlmObs.Backend.createInvite]
  swap
  · intro user
    have validates : (validateAssignments call.body user.orgId).CommitFree :=
      Script.commitFree_ite (Script.commitFree_pure []) (Script.commitFree_query _)
    refine (Script.commitFree_query _).bind fun _ => validates.bind fun _ => ?_
    refine (Script.commitFree_write _).bind fun _ => (Script.commitFree_ofExcept _).bind fun _ => ?_
    exact (commitFree_logAudit _).bind fun _ => Script.commitFree_pure _
  cases requireAdmin db.accounts.users subject with
  | error error => rfl
  | ok user =>
  rw [ok_bind, ok_bind, Script.eval_query_bind]
  by_cases registered : emailRegistered db.accounts call.body.email
  · rw [if_pos registered, if_pos registered]
    rfl
  rw [if_neg registered, if_neg registered, ok_bind, Script.eval_bind, eval_validateAssignments]
  cases validateInviteProjectAssignments db.accounts call.body user.orgId with
  | error error => rfl
  | ok assignments =>
  show (Script.leaves db (Script.eval _ _ db)).accounts = _
  rw [Script.eval_write_bind, ok_bind]
  simp only [AdminWrite.apply]
  cases db.accounts.invites.insert? (call.row user assignments) with
  | none => rfl
  | some invites =>
  show (Script.leaves db (Script.eval _ _ _)).accounts = _
  rw [Script.eval_ofExcept_bind, InviteCall.row, serializeProjectAssignments_json, ok_bind,
    Script.eval_bind, eval_logAudit runtime rfl (UUID.ofText?_str call.id)]
  rfl

/-- Where the columns that accounts do not hold belong to projects that they do. -/
theorem accounts_createProject (call : ProjectCreateCall) (settings : ProjectCreateSettings)
    (halves : ∀ row ∈ db.settings.rows, ∃ project ∈ db.accounts.projects.rows,
      project.id = row.id) :
    (undisturbed runtime db (createProject runtime subject call settings)).accounts =
      db.accounts.orUnchanged
        (LlmObs.Backend.createProject runtime db.accounts subject call) := by
  simp only [createProject, Script.bind_transaction]
  rw [undisturbed_asAdmin, LlmObs.Backend.createProject]
  swap
  · intro user
    refine (Script.commitFree_ofExcept _).bind fun _ => (Script.commitFree_query _).bind fun _ => ?_
    refine (Script.commitFree_write _).bind fun _ => ?_
    exact (commitFree_logAudit _).bind fun _ => Script.commitFree_pure _
  cases requireAdmin db.accounts.users subject with
  | error error => rfl
  | ok user =>
  rw [ok_bind, ok_bind, check, Script.eval_ofExcept_bind]
  generalize runtime.strip call.name = name
  by_cases blank : name = ""
  · rw [if_neg (not_not.mpr blank), if_pos blank]
    rfl
  rw [if_pos blank, if_neg blank, ok_bind, Script.eval_query_bind]
  by_cases taken : ∃ project ∈ db.accounts.projects.rows,
      project.orgId = user.orgId ∧ project.name = name
  · rw [if_pos taken, if_pos taken]
    rfl
  rw [if_neg taken, if_neg taken, ok_bind, Script.eval_write_bind]
  simp only [AdminWrite.apply]
  cases inserted : db.accounts.projects.insert? (call.row user.orgId name) with
  | none => rfl
  | some projects =>
  cases halved : db.settings.insert? (settings.row runtime call.id user.orgId) with
  | none =>
      obtain ⟨row, stored, same⟩ := Table.insert?_eq_none_iff.mp halved
      obtain ⟨project, member, sameId⟩ := halves row stored
      have clashes : db.accounts.projects.insert? (call.row user.orgId name) = none :=
        Table.insert?_eq_none_iff.mpr ⟨project, member, Or.inl (sameId.trans same)⟩
      rw [clashes] at inserted
      cases inserted
  | some rows =>
  simp only [orViolation, ok_bind, pure, Except.pure]
  rw [Script.eval_bind, eval_logAudit runtime rfl (UUID.ofText?_str call.id)]
  rfl

end AdminScript

end LlmObs.Backend
