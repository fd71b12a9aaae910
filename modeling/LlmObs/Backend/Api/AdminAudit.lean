import LlmObs.Backend.Api.AdminStatements

/-!
Owns the atomicity of a change and its audit event: whichever statement or commit of an
endpoint fails, its writes are all committed with one audit event at their end, or none
of them is.
-/

namespace LlmObs.Backend

open LlmObs.Foundation

/-- The writes of a request that committed nothing, or its changes with their event. -/
inductive AuditedOnce (action : String) : List AdminWrite → Prop
  | nothing : AuditedOnce action []
  | audited (changes : List AdminWrite) (event : AuditEvent) (changed : changes ≠ [])
      (mutations : ∀ write ∈ changes, write.isMutation = true) (named : event.action = action) :
      AuditedOnce action (changes ++ [.insertAudit event])

theorem AuditedOnce.iff {action : String} {writes : List AdminWrite}
    (audited : AuditedOnce action writes) :
    (∃ write ∈ writes, write.isMutation = true) ↔
      ∃ event, .insertAudit event ∈ writes ∧ event.action = action := by
  cases audited with
  | nothing => simp
  | audited changes event changed mutations named =>
      obtain ⟨first, member⟩ := List.exists_mem_of_ne_nil changes changed
      constructor
      · intro _
        exact ⟨event, by simp, named⟩
      · intro _
        exact ⟨first, List.mem_append_left _ member, mutations first member⟩

/-! ### Rules for scripts that audit -/

/-- Some changes and no audit event. -/
structure Changes (pending : List AdminWrite) : Prop where
  changed : pending ≠ []
  mutations : ∀ write ∈ pending, write.isMutation = true

theorem Changes.concat {pending : List AdminWrite} {write : AdminWrite}
    (before : ∀ write ∈ pending, write.isMutation = true) (mutation : write.isMutation = true) :
    Changes (pending ++ [write]) where
  changed := by simp
  mutations other member := by
    rcases List.mem_append.mp member with old | new
    · exact before other old
    · rwa [List.mem_singleton.mp new]

namespace AdminScript

variable {action : String} {Value Result : Type}

abbrev Audits (action : String) (script : AdminScript Value) : Prop :=
  script.Commits (AuditedOnce action) (fun _ _ _ => True) [] []

/-- A body that audits its changes may be committed. -/
abbrev Body (action : String) (script : AdminScript Value) (pending : List AdminWrite) : Prop :=
  script.Commits (AuditedOnce action) (fun _ committed pending =>
    AuditedOnce action (committed ++ pending)) [] pending

theorem readOnly_currentAdmin (subject : UUID) : (currentAdmin subject).ReadOnly :=
  Script.readOnly_query _

theorem readOnly_check {condition : Prop} [Decidable condition] {error : AccountsError} :
    (check condition error).ReadOnly :=
  Script.readOnly_ofExcept _

theorem audits_transaction {body : AdminScript Value} (whole : Body action body []) :
    Audits action body.transaction :=
  (Script.commits_transaction whole).mono fun _ _ _ _ => trivial

section Bodies

variable {pending : List AdminWrite} {rest : Unit → AdminScript Result} {write : AdminWrite}

theorem body_write (whole : Body action (rest ()) (pending ++ [write])) :
    Body action (Script.write write >>= rest) pending :=
  Script.commits_bind.mpr (Script.commits_write whole)

theorem body_writeFound {found : AdminDatabase → Bool} {missing : AccountsError}
    (whole : Body action (rest ()) (pending ++ [write])) :
    Body action (Script.writeFound write found missing >>= rest) pending :=
  Script.commits_bind.mpr (Script.commits_writeFound whole)

/-- The event of the endpoint, after its changes. -/
theorem body_logAudit {event : AuditEvent} (changes : Changes pending)
    (named : event.action = action) : Body action (logAudit event) pending :=
  Script.commits_write (.audited pending event changes.changed changes.mutations named)

theorem body_logAudit_return {event : AuditEvent} {value : Result} (changes : Changes pending)
    (named : event.action = action) :
    Body action (logAudit event >>= fun _ => pure value) pending :=
  Script.commits_bind.mpr (body_logAudit changes named)

theorem changes_one (mutation : write.isMutation = true) : Changes ([] ++ [write]) :=
  .concat (by simp) mutation

end Bodies

/-! ### Endpoints -/

theorem audits_createInvite (subject : UUID) (call : InviteCall) :
    Audits "user.invite.create" (createInvite subject call) := by
  refine (readOnly_currentAdmin subject).bind fun user => audits_transaction ?_
  have validates : (validateAssignments call.body user.orgId).ReadOnly :=
    Script.readOnly_ite (Script.readOnly_pure []) (Script.readOnly_query _)
  refine (Script.readOnly_query _).bind fun _ => validates.bind fun assignments => ?_
  refine body_write ((Script.readOnly_ofExcept _).bind fun invited => ?_)
  exact body_logAudit_return (changes_one rfl) (by rfl)

/-- The loop leaves its upserts after the changes before it. -/
theorem commits_assignProjects (call : AcceptCall) {committed pending : List AdminWrite}
    (index : Nat) (assignments : List ProjectAssignment)
    (before : Changes pending) :
    (assignProjects call index assignments).Commits (AuditedOnce action)
      (fun _ committedAfter pendingAfter => committedAfter = committed ∧ Changes pendingAfter)
      committed pending := by
  induction assignments generalizing index pending with
  | nil => exact ⟨rfl, before⟩
  | cons assignment rest inductionHypothesis =>
      exact Script.commits_bind.mpr (Script.commits_write
        (inductionHypothesis (index + 1) (.concat before.mutations rfl)))

theorem audits_acceptInvite (call : AcceptCall) (now : Int) :
    Audits "user.invite.accept" (acceptInvite call now) := by
  refine audits_transaction ((Script.readOnly_query _).bind fun invite => ?_)
  refine readOnly_check.bind fun _ => (Script.readOnly_query _).bind fun _ => ?_
  refine body_write ((Script.readOnly_ofExcept _).bind fun assignments => ?_)
  refine Script.commits_bind.mpr
    ((commits_assignProjects call 0 assignments (changes_one rfl)).mono ?_)
  rintro _ _ pending ⟨rfl, changes⟩
  refine body_write ((Script.readOnly_query _).bind fun selected => ?_)
  exact body_logAudit_return (.concat changes.mutations rfl) (by rfl)

theorem audits_editUser (request : UserRequest) :
    Audits (userEditAction request.call) (editUser request) := by
  refine (readOnly_currentAdmin _).bind fun user => ?_
  have refuses : (refuseSelf request user).ReadOnly := by
    unfold refuseSelf
    split
    · exact readOnly_check
    · exact Script.readOnly_pure ()
  refine refuses.bind fun _ => audits_transaction ((Script.readOnly_query _).bind fun target => ?_)
  have counts : (keepAdmin request user target).ReadOnly :=
    Script.readOnly_ite (Script.readOnly_query _) (Script.readOnly_pure ())
  refine counts.bind fun _ => body_writeFound ?_
  exact body_logAudit_return (changes_one rfl) (by rfl)

theorem audits_createProject (runtime : Runtime) (subject : UUID) (call : ProjectCreateCall)
    (settings : ProjectCreateSettings) :
    Audits "project.create" (createProject runtime subject call settings) := by
  refine (readOnly_currentAdmin subject).bind fun user => readOnly_check.bind fun _ => ?_
  refine audits_transaction ((Script.readOnly_query _).bind fun _ => body_write ?_)
  exact body_logAudit_return (changes_one rfl) (by rfl)

theorem audits_rotateApiKey (subject : UUID) (projectId token : String) :
    Audits "api_key.rotate" (rotateApiKey subject projectId token) := by
  refine (readOnly_currentAdmin subject).bind fun user => audits_transaction ?_
  refine (Script.readOnly_query _).bind fun project => body_writeFound ?_
  exact body_logAudit_return (changes_one rfl) (by rfl)

theorem audits_assignProjectMember (subject : UUID) (call : MemberAssignCall) :
    Audits "project.member.assign" (assignProjectMember subject call) := by
  refine (readOnly_currentAdmin subject).bind fun user => audits_transaction ?_
  refine (Script.readOnly_query _).bind fun _ => (Script.readOnly_query _).bind fun target => ?_
  exact body_write (body_logAudit (changes_one rfl) (by rfl))

theorem audits_removeProjectMember (subject : UUID) (projectId userId : String) :
    Audits "project.member.remove" (removeProjectMember subject projectId userId) := by
  refine (readOnly_currentAdmin subject).bind fun user => audits_transaction ?_
  refine (Script.readOnly_query _).bind fun _ => (Script.readOnly_query _).bind fun target => ?_
  exact body_writeFound (body_logAudit (changes_one rfl) (by rfl))

theorem audits_createApiKey (subject : UUID) (call : ApiKeyCreateCall) :
    Audits "api_key.create" (createApiKey subject call) := by
  refine (readOnly_currentAdmin subject).bind fun user => audits_transaction ?_
  refine (Script.readOnly_query _).bind fun project => body_write ?_
  exact body_logAudit_return (changes_one rfl) (by rfl)

theorem audits_revokeApiKey (subject : UUID) (projectId keyId : String) (now : Int) :
    Audits "api_key.revoke" (revokeApiKey subject projectId keyId now) := by
  refine (readOnly_currentAdmin subject).bind fun user => audits_transaction ?_
  refine (Script.readOnly_ofExcept _).bind fun _ => (Script.readOnly_ofExcept _).bind fun _ => ?_
  exact body_writeFound (body_logAudit (changes_one rfl) (by rfl))

/-- The endpoint without `db.begin()`: its one commit stands after the event. -/
theorem audits_updateSettings (runtime : Runtime) (subject : UUID) (projectId : String)
    (update : ProjectSettingsUpdate) :
    Audits "project.settings.update" (updateSettings runtime subject projectId update) := by
  refine (readOnly_currentAdmin subject).bind fun user => readOnly_check.bind fun _ => ?_
  refine (Script.readOnly_ofExcept _).bind fun project => ?_
  refine Script.commits_bind.mpr (Script.commits_writeFound ?_)
  refine Script.commits_bind.mpr (Script.commits_write ⟨?_, trivial⟩)
  have changes : Changes ([] ++ [.updateSettings user.orgId project update]) := changes_one rfl
  exact .audited _ _ changes.changed changes.mutations (by rfl)

end AdminScript

/-! ### Requests -/

inductive AdminRequest where
  | createInvite (subject : UUID) (call : InviteCall)
  | acceptInvite (call : AcceptCall) (now : Int)
  | editUser (request : UserRequest)
  | createProject (subject : UUID) (call : ProjectCreateCall) (settings : ProjectCreateSettings)
  | rotateApiKey (subject : UUID) (projectId token : String)
  | assignProjectMember (subject : UUID) (call : MemberAssignCall)
  | removeProjectMember (subject : UUID) (projectId userId : String)
  | createApiKey (subject : UUID) (call : ApiKeyCreateCall)
  | revokeApiKey (subject : UUID) (projectId keyId : String) (now : Int)
  | updateSettings (subject : UUID) (projectId : String) (update : ProjectSettingsUpdate)

namespace AdminRequest

/-- The action that the endpoint audits. -/
def action : AdminRequest → String
  | .createInvite .. => "user.invite.create"
  | .acceptInvite .. => "user.invite.accept"
  | .editUser request => AdminScript.userEditAction request.call
  | .createProject .. => "project.create"
  | .rotateApiKey .. => "api_key.rotate"
  | .assignProjectMember .. => "project.member.assign"
  | .removeProjectMember .. => "project.member.remove"
  | .createApiKey .. => "api_key.create"
  | .revokeApiKey .. => "api_key.revoke"
  | .updateSettings .. => "project.settings.update"

/-- The endpoint, up to what it does after its commit. -/
def script (runtime : Runtime) : AdminRequest → AdminScript Unit
  | .createInvite subject call => do let _ ← AdminScript.createInvite subject call
  | .acceptInvite call now => do let _ ← AdminScript.acceptInvite call now
  | .editUser request => do let _ ← AdminScript.editUser request
  | .createProject subject call settings => do
      let _ ← AdminScript.createProject runtime subject call settings
  | .rotateApiKey subject projectId token => do
      let _ ← AdminScript.rotateApiKey subject projectId token
  | .assignProjectMember subject call => AdminScript.assignProjectMember subject call
  | .removeProjectMember subject projectId userId =>
      AdminScript.removeProjectMember subject projectId userId
  | .createApiKey subject call => do let _ ← AdminScript.createApiKey subject call
  | .revokeApiKey subject projectId keyId now =>
      AdminScript.revokeApiKey subject projectId keyId now
  | .updateSettings subject projectId update =>
      AdminScript.updateSettings runtime subject projectId update

/-- The session of the request when it has ended. -/
def session (runtime : Runtime) (fault : Nat → Option (Fault AccountsError))
    (db : AdminDatabase) (request : AdminRequest) : ScriptState AdminDatabase AdminWrite :=
  ((request.script runtime).run (AdminWrite.apply runtime) fault (.begin db)).2

theorem audits_discard {Value : Type} {action : String} {script : AdminScript Value}
    (audits : AdminScript.Audits action script) :
    AdminScript.Audits action (do let _ ← script) :=
  Script.commits_bind.mpr audits

theorem audits_script (runtime : Runtime) (request : AdminRequest) :
    AdminScript.Audits request.action (request.script runtime) := by
  cases request with
  | createInvite subject call => exact audits_discard (AdminScript.audits_createInvite subject call)
  | acceptInvite call now => exact audits_discard (AdminScript.audits_acceptInvite call now)
  | editUser request => exact audits_discard (AdminScript.audits_editUser request)
  | createProject subject call settings =>
      exact audits_discard (AdminScript.audits_createProject runtime subject call settings)
  | rotateApiKey subject projectId token =>
      exact audits_discard (AdminScript.audits_rotateApiKey subject projectId token)
  | assignProjectMember subject call =>
      exact AdminScript.audits_assignProjectMember subject call
  | removeProjectMember subject projectId userId =>
      exact AdminScript.audits_removeProjectMember subject projectId userId
  | createApiKey subject call => exact audits_discard (AdminScript.audits_createApiKey subject call)
  | revokeApiKey subject projectId keyId now =>
      exact AdminScript.audits_revokeApiKey subject projectId keyId now
  | updateSettings subject projectId update =>
      exact AdminScript.audits_updateSettings runtime subject projectId update

theorem auditedOnce_session (runtime : Runtime) (fault : Nat → Option (Fault AccountsError))
    (db : AdminDatabase) (request : AdminRequest) :
    AuditedOnce request.action (request.session runtime fault db).committed :=
  Script.committed_run (request.audits_script runtime) .nothing

end AdminRequest

end LlmObs.Backend
