import LlmObs.Backend.Api.Auth
import LlmObs.Backend.Api.Invites
import LlmObs.Backend.Api.ProjectMembers
import LlmObs.Backend.Api.Users

/-!
Owns that memberships stay inside an organization, over every sequence of calls that
write accounts: a membership joins a user and a project of one organization, and so
will every assignment that a pending invite carries.
-/

namespace LlmObs.Backend

open LlmObs.Foundation

/-! ### The calls -/

/-- One call, with the user of its token where it needs one. The transactions of
`register`, `accept_invite` and the edits of users may end after any number of their
statements. -/
inductive AccountCall where
  | register (call : RegisterCall) (statements : Nat)
  | createProject (subject : UUID) (call : ProjectCreateCall)
  | createInvite (subject : UUID) (call : InviteCall)
  | acceptInvite (now : Int) (call : AcceptCall) (statements : Nat)
  | assignProjectMember (subject : UUID) (call : MemberAssignCall)
  | removeProjectMember (subject : UUID) (projectId userId : String)
  | editUser (request : UserRequest) (statements : Nat)

/-- What a call that may fail leaves: its own database, or the one before. -/
def AccountDatabase.orUnchanged (db : AccountDatabase) :
    Except AccountsError AccountDatabase → AccountDatabase
  | .ok next => next
  | .error _ => db

/-- The database after a call. -/
def AccountCall.serve (runtime : Runtime) (settings : RegistrationSettings)
    (db : AccountDatabase) : AccountCall → AccountDatabase
  | .register call statements =>
      (LlmObs.Backend.register runtime settings).call 0 db call statements
  | .createProject subject call =>
      db.orUnchanged (LlmObs.Backend.createProject runtime db subject call)
  | .createInvite subject call =>
      db.orUnchanged (LlmObs.Backend.createInvite db subject call)
  | .acceptInvite now call statements =>
      LlmObs.Backend.acceptInvite.call now db call statements
  | .assignProjectMember subject call =>
      db.orUnchanged (LlmObs.Backend.assignProjectMember db subject call)
  | .removeProjectMember subject projectId userId =>
      db.orUnchanged (LlmObs.Backend.removeProjectMember db subject projectId userId)
  | .editUser request statements => userEdits.call 0 db request statements

/-! ### Links inside an organization -/

/-- The membership joins a user and a project of one organization. -/
def MembershipRow.Linked (db : AccountDatabase) (row : MembershipRow) : Prop :=
  ∃ user ∈ db.users.rows, ∃ project ∈ db.projects.rows,
    user.id = row.userId ∧ project.id = row.projectId ∧ user.orgId = project.orgId

/-- The assignment names a project of the organization. -/
def ProjectAssignment.InOrg (db : AccountDatabase) (orgId : UUID)
    (assignment : ProjectAssignment) : Prop :=
  ∃ project ∈ db.projects.rows,
    UUID.ofText? assignment.projectId = some project.id ∧ project.orgId = orgId

/-- The assignments of the invite can be read and name projects of its organization. -/
def InviteRow.Linked (db : AccountDatabase) (invite : InviteRow) : Prop :=
  ∃ assignments, serializeProjectAssignments invite.projectAssignments = .ok assignments ∧
    ∀ assignment ∈ assignments, assignment.InOrg db invite.orgId

structure AccountDatabase.InScope (db : AccountDatabase) : Prop where
  memberships : ∀ row ∈ db.memberships.rows, row.Linked db
  invites : ∀ invite ∈ db.invites.rows, invite.acceptedAt = none → invite.Linked db

section Monotone

variable {db next : AccountDatabase}

/-- A link depends on the ids of the membership only, and survives where its user and
its project do. -/
theorem MembershipRow.Linked.mono {row before : MembershipRow} (linked : before.Linked db)
    (sameProject : row.projectId = before.projectId) (sameUser : row.userId = before.userId)
    (users : ∀ user ∈ db.users.rows, user.id = row.userId →
      ∃ kept ∈ next.users.rows, kept.id = user.id ∧ kept.orgId = user.orgId)
    (projects : ∀ project ∈ db.projects.rows, project ∈ next.projects.rows) :
    row.Linked next := by
  obtain ⟨user, userStored, project, projectStored, userId, projectId, sameOrg⟩ := linked
  obtain ⟨kept, keptStored, keptId, keptOrg⟩ :=
    users user userStored (userId.trans sameUser.symm)
  exact ⟨kept, keptStored, project, projects project projectStored,
    (keptId.trans userId).trans sameUser.symm, projectId.trans sameProject.symm,
    keptOrg.trans sameOrg⟩

theorem InviteRow.Linked.mono {invite : InviteRow} (linked : invite.Linked db)
    (projects : ∀ project ∈ db.projects.rows, project ∈ next.projects.rows) :
    invite.Linked next := by
  obtain ⟨assignments, serialized, inOrg⟩ := linked
  refine ⟨assignments, serialized, fun assignment member => ?_⟩
  obtain ⟨project, stored, sameId, sameOrg⟩ := inOrg assignment member
  exact ⟨project, projects project stored, sameId, sameOrg⟩

/-- A database with more users and projects, and the same memberships and invites. -/
theorem AccountDatabase.InScope.grow (scope : db.InScope)
    (users : ∀ user ∈ db.users.rows, user ∈ next.users.rows)
    (projects : ∀ project ∈ db.projects.rows, project ∈ next.projects.rows)
    (memberships : next.memberships = db.memberships) (invites : next.invites = db.invites) :
    next.InScope where
  memberships row stored :=
    (scope.memberships row (memberships ▸ stored)).mono rfl rfl
      (fun user userStored _ => ⟨user, users user userStored, rfl, rfl⟩) projects
  invites invite stored pending := (scope.invites invite (invites ▸ stored) pending).mono projects

end Monotone

/-! ### One call -/

section Calls

variable {db next : AccountDatabase}

theorem inScope_register {runtime : Runtime} {settings : RegistrationSettings}
    (scope : db.InScope) (now : Int) (call : RegisterCall) (statements : Nat) :
    ((register runtime settings).call now db call statements).InScope := by
  refine TransactionSystem.call_keeps AccountDatabase.InScope (fun _ _ => True)
    (fun _ => trivial) (fun _ _ => trivial) (fun {registration next} _ commits => ?_) scope
    statements
  have committed : commitRegistration runtime db registration.call = some next := by
    simp only [register] at commits
    split at commits
    · exact commits
    · cases commits
  obtain ⟨-, users, projects, invites, memberships⟩ := rows_of_commitRegistration committed
  refine scope.grow (fun user stored => ?_) (fun project stored => ?_) memberships invites
  · rw [users]
    exact List.mem_append_left _ stored
  · rw [projects]
    exact List.mem_append_left _ stored

theorem inScope_createProject {runtime : Runtime} {subject : UUID} {call : ProjectCreateCall}
    (scope : db.InScope) (created : createProject runtime db subject call = .ok next) :
    next.InScope := by
  obtain ⟨projects, project, rows, rfl⟩ := createProject_eq_ok created
  refine scope.grow (fun user stored => stored) (fun other stored => ?_) rfl rfl
  dsimp only
  rw [rows]
  exact List.mem_append_left _ stored

/-- What the check of the body admits names projects of the organization. -/
theorem inOrg_of_validated {body : UserInviteCreate} {orgId : UUID}
    {assignments : List ProjectAssignment}
    (validated : validateInviteProjectAssignments db body orgId = .ok assignments) :
    ∀ assignment ∈ assignments, assignment.InOrg db orgId := by
  intro assignment member
  unfold validateInviteProjectAssignments at validated
  dsimp only at validated
  split at validated
  · cases validated
    cases member
  · split at validated
    · cases validated
    · split at validated
      · rename_i found
        cases validated
        have known := found.2 assignment.projectId (List.mem_map_of_mem member)
        obtain ⟨project, selected, text⟩ := List.mem_map.mp known
        rw [List.mem_filter, Bool.and_eq_true, Bool.and_eq_true, decide_eq_true_eq] at selected
        exact ⟨project, selected.1, by rw [← text, UUID.ofText?_str], selected.2.1.1⟩
      · cases validated

theorem inScope_createInvite {subject : UUID} {call : InviteCall} (scope : db.InScope)
    (created : createInvite db subject call = .ok next) : next.InScope := by
  simp only [createInvite, bind_eq_ok] at created
  obtain ⟨user, -, created⟩ := created
  split at created
  · cases created
  · simp only [bind_eq_ok] at created
    obtain ⟨assignments, validated, created⟩ := created
    split at created
    · rename_i invites inserted
      cases created
      refine ⟨scope.memberships, fun invite stored pending => ?_⟩
      dsimp only at stored
      rw [Table.insert?_rows inserted, List.mem_append, List.mem_singleton] at stored
      rcases stored with old | rfl
      · exact scope.invites invite old pending
      · exact ⟨assignments, serializeProjectAssignments_json assignments,
          inOrg_of_validated validated⟩
    · cases created

theorem inScope_assignProjectMember {subject : UUID} {call : MemberAssignCall}
    (scope : db.InScope) (assigned : assignProjectMember db subject call = .ok next) :
    next.InScope := by
  obtain ⟨row, memberships, upserted, rfl, linked⟩ := assignProjectMember_eq_ok assigned
  refine ⟨fun member stored => ?_, scope.invites⟩
  obtain ⟨before, source, sameProject, sameUser⟩ := MembershipTable.mem_upsert? upserted stored
  have beforeLinked : before.Linked db := by
    rcases source with old | rfl
    · exact scope.memberships before old
    · exact linked
  exact beforeLinked.mono sameProject sameUser (fun user userStored _ =>
    ⟨user, userStored, rfl, rfl⟩) fun project projectStored => projectStored

theorem inScope_removeProjectMember {subject : UUID} {projectId userId : String}
    (scope : db.InScope)
    (removed : removeProjectMember db subject projectId userId = .ok next) : next.InScope := by
  obtain ⟨selected, rfl⟩ := removeProjectMember_eq_ok removed
  exact ⟨fun row stored => scope.memberships row (Table.mem_deleteWhere.mp stored).1,
    scope.invites⟩

/-- A role does not move a user, and a deleted user takes the memberships along. -/
theorem inScope_commitUserWrite (scope : db.InScope) (orgId id : UUID) (write : UserWrite) :
    (commitUserWrite db orgId id write).InScope := by
  cases write with
  | setRole role =>
      refine ⟨fun row stored => ?_, scope.invites⟩
      refine (scope.memberships row stored).mono rfl rfl (fun user userStored _ => ?_)
        fun project projectStored => projectStored
      refine ⟨_, List.mem_map_of_mem userStored, ?_⟩
      split <;> exact ⟨rfl, rfl⟩
  | delete =>
      refine ⟨fun row stored => ?_, scope.invites⟩
      obtain ⟨rowStored, kept⟩ := Table.mem_deleteWhere.mp stored
      refine (scope.memberships row rowStored).mono rfl rfl (fun user userStored isUser => ?_)
        fun project projectStored => projectStored
      refine ⟨user, Table.mem_deleteWhere.mpr ⟨userStored, ?_⟩, rfl, rfl⟩
      have other : user.id ≠ id := by
        rw [isUser]
        simpa using kept
      simp [UserRow.isWritten, other]

theorem inScope_editUser (scope : db.InScope) (now : Int) (request : UserRequest)
    (statements : Nat) : (userEdits.call now db request statements).InScope := by
  refine TransactionSystem.call_keeps AccountDatabase.InScope (fun _ _ => True)
    (fun _ => trivial) (fun _ _ => trivial) (fun {transaction next} _ commits => ?_) scope
    statements
  simp only [userEdits] at commits
  split at commits
  · cases commits
    exact inScope_commitUserWrite scope _ _ _
  · cases commits

end Calls

/-! ### An acceptance -/

/-- What an acceptance on its own has written links the new user to projects of the
invite's organization, and what it will write does too. -/
structure AcceptanceInScope (db : AccountDatabase) (acceptance : Acceptance) : Prop where
  invite : ∀ invite ∈ acceptance.invite?, invite.Linked db
  members : ∀ invite ∈ acceptance.invite?, ∀ row ∈ acceptance.members,
    row.userId = acceptance.call.userId ∧
      ∃ project ∈ db.projects.rows, project.id = row.projectId ∧ project.orgId = invite.orgId
  remaining : ∀ invite members next remaining,
    acceptance.stage = .assigning invite members next remaining →
      ∀ assignment ∈ next :: remaining, assignment.InOrg db invite.orgId

theorem acceptanceInScope_afterUpserts {db : AccountDatabase} {acceptance : Acceptance}
    {invite : InviteRow} {members : List MembershipRow} {rest : List ProjectAssignment}
    (linked : invite.Linked db)
    (written : ∀ row ∈ members, row.userId = acceptance.call.userId ∧
      ∃ project ∈ db.projects.rows, project.id = row.projectId ∧ project.orgId = invite.orgId)
    (inOrg : ∀ assignment ∈ rest, assignment.InOrg db invite.orgId) :
    AcceptanceInScope db (acceptance.at (.afterUpserts invite members rest)) where
  invite other isInvite := by
    rw [invite?_afterUpserts, Option.mem_some_iff] at isInvite
    exact isInvite ▸ linked
  members other isInvite row member := by
    rw [invite?_afterUpserts, Option.mem_some_iff] at isInvite
    rw [members_afterUpserts] at member
    exact isInvite ▸ written row member
  remaining other before next remaining stage assignment member := by
    cases rest with
    | nil => cases stage
    | cons first rest =>
        cases stage
        exact inOrg assignment member

theorem acceptanceInScope_move {db : AccountDatabase} {held : AccountLock → Bool}
    {acceptance moved : Acceptance} (scope : db.InScope)
    (holds : AcceptanceInScope db acceptance)
    (same : moved = acceptance.at moved.stage)
    (move : AcceptMove db held acceptance moved.stage) : AcceptanceInScope db moved := by
  rw [same]
  cases move with
  | selected invite before stored token unaccepted free unexpired reached =>
      rw [reached]
      refine ⟨fun other isInvite => ?_, fun _ _ row member => (by cases member),
        fun _ _ _ _ stage => (by cases stage)⟩
      cases isInvite
      exact scope.invites invite stored unaccepted
  | checked invite before reached | inserted invite before _ reached =>
      rw [reached]
      refine ⟨fun other isInvite => ?_, fun _ _ row member => (by cases member),
        fun _ _ _ _ stage => (by cases stage)⟩
      cases isInvite
      exact holds.invite invite (by rw [Acceptance.invite?, before]; rfl)
  | read invite assignments before serialized reached =>
      rw [reached]
      have linked := holds.invite invite (by rw [Acceptance.invite?, before]; rfl)
      refine acceptanceInScope_afterUpserts linked (fun row member => by cases member) ?_
      obtain ⟨stored, read, inOrg⟩ := linked
      rw [serialized, Except.ok.injEq] at read
      exact read ▸ inOrg
  | upserted invite members assignment remaining row before free ofUser ofProject reached =>
      rw [reached]
      have known : invite ∈ acceptance.invite? := by rw [Acceptance.invite?, before]; rfl
      have written : acceptance.members = members := by rw [Acceptance.members, before]
      have inOrg := holds.remaining invite members assignment remaining before
      refine acceptanceInScope_afterUpserts (holds.invite invite known) (fun other member => ?_)
        fun later isLater => inOrg later (List.mem_cons_of_mem _ isLater)
      rw [List.mem_append, List.mem_singleton] at member
      rcases member with old | rfl
      · exact holds.members invite known other (written ▸ old)
      · obtain ⟨project, stored, sameId, sameOrg⟩ := inOrg assignment (List.mem_cons_self ..)
        rw [ofProject, Option.some.injEq] at sameId
        exact ⟨ofUser, project, stored, sameId.symm, sameOrg⟩
  | consumed invite members before reached | chosen invite members before reached =>
      rw [reached]
      have known : invite ∈ acceptance.invite? := by rw [Acceptance.invite?, before]; rfl
      have written : acceptance.members = members := by rw [Acceptance.members, before]
      refine ⟨fun other isInvite => ?_, fun other isInvite row member => ?_,
        fun _ _ _ _ stage => (by cases stage)⟩
      · cases isInvite
        exact holds.invite invite known
      · cases isInvite
        exact holds.members invite known row (written ▸ member)

/-- A row after several upserts has the project and user of one before them, or of an
upserted row. -/
theorem MembershipTable.mem_upsertAll? {rows : List MembershipRow}
    {memberships next : MembershipTable} {member : MembershipRow}
    (upserted : MembershipTable.upsertAll? memberships rows = some next)
    (stored : member ∈ next.rows) :
    ∃ before, (before ∈ memberships.rows ∨ before ∈ rows) ∧
      member.projectId = before.projectId ∧ member.userId = before.userId := by
  induction rows generalizing memberships with
  | nil =>
      cases upserted
      exact ⟨member, Or.inl stored, rfl, rfl⟩
  | cons row rest inductionHypothesis =>
      rw [MembershipTable.upsertAll?, List.foldlM_cons] at upserted
      obtain ⟨middle, first, later⟩ := Option.bind_eq_some_iff.mp upserted
      obtain ⟨before, source, sameProject, sameUser⟩ := inductionHypothesis later
      rcases source with inMiddle | inRest
      · obtain ⟨origin, originSource, originProject, originUser⟩ :=
          MembershipTable.mem_upsert? first inMiddle
        refine ⟨origin, ?_, sameProject.trans originProject, sameUser.trans originUser⟩
        rcases originSource with old | rfl
        · exact Or.inl old
        · exact Or.inr (List.mem_cons_self ..)
      · exact ⟨before, Or.inr (List.mem_cons_of_mem _ inRest), sameProject, sameUser⟩

theorem inScope_commitAcceptance {db next : AccountDatabase} {acceptance : Acceptance}
    (scope : db.InScope) (holds : AcceptanceInScope db acceptance)
    (commits : commitAcceptance db acceptance = some next) : next.InScope := by
  obtain ⟨invite, members, projectId, users, memberships, stage, inserted, upserted, rfl⟩ :=
    commit_acceptance commits
  have known : invite ∈ acceptance.invite? := by rw [Acceptance.invite?, stage]; rfl
  have written : acceptance.members = members := by rw [Acceptance.members, stage]
  have rows := Table.insert?_rows inserted
  refine ⟨fun row stored => ?_, fun other stored pending => ?_⟩
  · obtain ⟨before, source, sameProject, sameUser⟩ :=
      MembershipTable.mem_upsertAll? upserted stored
    rcases source with old | new
    · refine (scope.memberships before old).mono sameProject sameUser
        (fun user userStored _ => ⟨user, ?_, rfl, rfl⟩) fun project projectStored => projectStored
      dsimp only
      rw [rows]
      exact List.mem_append_left _ userStored
    · obtain ⟨ofUser, project, projectStored, sameId, sameOrg⟩ :=
        holds.members invite known before (written ▸ new)
      refine ⟨acceptance.call.user invite, ?_, project, projectStored,
        (sameUser.trans ofUser).symm, sameId.trans sameProject.symm, sameOrg.symm⟩
      dsimp only
      rw [rows]
      exact List.mem_append_right _ (List.mem_singleton_self _)
  · obtain ⟨before, beforeStored, rfl⟩ := List.mem_map.mp stored
    by_cases accepted : before.id = invite.id
    · rw [if_pos accepted] at pending
      cases pending
    · rw [if_neg accepted] at pending ⊢
      exact (scope.invites before beforeStored pending).mono fun project projectStored =>
        projectStored

theorem inScope_acceptInvite {db : AccountDatabase} (scope : db.InScope) (now : Int)
    (call : AcceptCall) (statements : Nat) :
    (acceptInvite.call now db call statements).InScope := by
  refine TransactionSystem.call_keeps AccountDatabase.InScope AcceptanceInScope
    (fun {acceptance} started => ?_) (fun holds goes => ?_)
    (fun holds commits => inScope_commitAcceptance scope holds commits) scope statements
  · cases started
    exact ⟨fun _ isInvite => (by cases isInvite), fun _ isInvite => (by cases isInvite),
      fun _ _ _ _ stage => (by cases stage)⟩
  · obtain ⟨same, move⟩ := acceptMove_of_goes goes
    exact acceptanceInScope_move scope holds same move

/-! ### Every sequence of calls -/

theorem AccountDatabase.InScope.orUnchanged {db : AccountDatabase}
    {outcome : Except AccountsError AccountDatabase} (scope : db.InScope)
    (kept : ∀ next, outcome = .ok next → next.InScope) : (db.orUnchanged outcome).InScope := by
  cases outcome with
  | ok next => exact kept next rfl
  | error _ => exact scope

theorem inScope_serve {runtime : Runtime} {settings : RegistrationSettings}
    {db : AccountDatabase} (scope : db.InScope) (call : AccountCall) :
    (call.serve runtime settings db).InScope := by
  cases call with
  | register call statements => exact inScope_register scope 0 call statements
  | createProject subject call =>
      exact scope.orUnchanged fun _ created => inScope_createProject scope created
  | createInvite subject call =>
      exact scope.orUnchanged fun _ created => inScope_createInvite scope created
  | acceptInvite now call statements => exact inScope_acceptInvite scope now call statements
  | assignProjectMember subject call =>
      exact scope.orUnchanged fun _ assigned => inScope_assignProjectMember scope assigned
  | removeProjectMember subject projectId userId =>
      exact scope.orUnchanged fun _ removed => inScope_removeProjectMember scope removed
  | editUser request statements => exact inScope_editUser scope 0 request statements

/-- After every sequence of calls, each membership joins a user and a project of one
organization, and each assignment of a pending invite names a project of the invite's
organization. -/
theorem memberships_stayInOrganization (runtime : Runtime) (settings : RegistrationSettings)
    (calls : List AccountCall) :
    (calls.foldl (AccountCall.serve runtime settings) .empty).InScope := by
  have kept : ∀ (calls : List AccountCall) (db : AccountDatabase), db.InScope →
      (calls.foldl (AccountCall.serve runtime settings) db).InScope := by
    intro calls
    induction calls with
    | nil =>
        intro db scope
        exact scope
    | cons call rest inductionHypothesis =>
        intro db scope
        exact inductionHypothesis _ (inScope_serve scope call)
  exact kept calls .empty ⟨fun _ stored => (by cases stored), fun _ stored => (by cases stored)⟩

/-- A registration, an invite to its project and the acceptance make one membership. -/
example : (([.register
      { body := { email := "admin@example.com", orgName := "first", bootstrapToken := none }
        orgId := 1, slugSuffix := "000001", userId := 2, passwordHash := "", projectId := 3
        keyToken := "key" } 5,
    .createInvite 2
      { body :=
          { email := "guest@example.com", role := .member,
            projectAssignments := [⟨(3 : UUID).str, .viewer⟩] }
        id := 4, token := "0123456789abcdef0123456789abcdef", now := 0 },
    .acceptInvite 1
      { token := "0123456789abcdef0123456789abcdef", userId := 5, passwordHash := ""
        membershipId := fun _ => 6 } 7] : List AccountCall).foldl
      (AccountCall.serve .inUtc ⟨true, none⟩) .empty).memberships.rows = [⟨6, 3, 5, .viewer⟩] := by
  decide +kernel

end LlmObs.Backend
