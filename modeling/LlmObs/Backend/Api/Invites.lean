import LlmObs.Backend.Core.Accounts
import LlmObs.Foundation.Outcome

/-!
Owns the invites: `create_invite`, whose project assignments are checked and stored as
data, and `accept_invite`, statement by statement, which reads them back. It does not
own the access token of the answer.
-/

namespace LlmObs.Backend

open LlmObs.Foundation

structure ProjectAssignment where
  projectId : String
  role : MembershipRole
deriving DecidableEq, Repr

/-- `hash_invite_token` -/
def hashInviteToken (token : String) : String := hexdigest (sha256 (encodeUtf8 token.toList))

/-! ### Stored assignments -/

def invalidAssignments : AccountsError := .http 400 "Invite project assignments are invalid"

/-- `role not in {"member", "viewer"}` of a list or a dictionary. -/
def unhashableRole : AccountsError := .raised ⟨.typeError, "unhashable type"⟩

/-- One item of `serialize_project_assignments`. -/
def readProjectAssignment (item : Json) : Except AccountsError ProjectAssignment :=
  match item with
  | .obj entries =>
      match entries.lookup "project_id" with
      | some (.str projectId) =>
          match entries.lookup "role" with
          | some (.str role) =>
              if role = MembershipRole.member.text then .ok ⟨projectId, .member⟩
              else if role = MembershipRole.viewer.text then .ok ⟨projectId, .viewer⟩
              else .error invalidAssignments
          | some (.arr _) | some (.obj _) => .error unhashableRole
          | _ => .error invalidAssignments
      | _ => .error invalidAssignments
  | _ => .error invalidAssignments

/-- `serialize_project_assignments` -/
def serializeProjectAssignments (value : Json) :
    Except AccountsError (List ProjectAssignment) :=
  if value.isTruthy then
    match value with
    | .arr items => items.mapM readProjectAssignment
    | _ => .error invalidAssignments
  else .ok []

/-- `json.dumps(project_assignments)` as the column holds it. -/
def ProjectAssignment.json (assignment : ProjectAssignment) : Json :=
  .obj [("project_id", .str assignment.projectId), ("role", .str assignment.role.text)]

@[simp] theorem readProjectAssignment_json (assignment : ProjectAssignment) :
    readProjectAssignment assignment.json = .ok assignment := by
  obtain ⟨projectId, role⟩ := assignment
  cases role <;> rfl

/-- What is stored is read back. -/
@[simp] theorem serializeProjectAssignments_json (assignments : List ProjectAssignment) :
    serializeProjectAssignments (.arr (assignments.map ProjectAssignment.json)) =
      .ok assignments := by
  cases assignments with
  | nil => rfl
  | cons first rest =>
      have read : ∀ assignments : List ProjectAssignment,
          (assignments.map ProjectAssignment.json).mapM readProjectAssignment =
            .ok assignments := by
        intro assignments
        induction assignments with
        | nil => rfl
        | cons first rest inductionHypothesis =>
            rw [List.map_cons, List.mapM_cons, readProjectAssignment_json, inductionHypothesis]
            rfl
      exact read (first :: rest)

/-! ### `create_invite` -/

/-- The validated body. -/
structure UserInviteCreate where
  email : String
  role : UserRole
  projectAssignments : List ProjectAssignment
  unique : (projectAssignments.map ProjectAssignment.projectId).Nodup := by decide

/-- A body with the id and the token that the request draws, and its clock. -/
structure InviteCall where
  body : UserInviteCreate
  id : UUID
  token : String
  now : Int

def inviteTtlHours : Nat := 24

def invalidProjects : AccountsError := .http 400 "One or more selected projects are invalid"

/-- `validate_invite_project_assignments`: the ids of the active projects that are
found, as texts, are the ones of the body. -/
def validateInviteProjectAssignments (db : AccountDatabase) (body : UserInviteCreate)
    (orgId : UUID) : Except AccountsError (List ProjectAssignment) :=
  let projectIds := body.projectAssignments.map ProjectAssignment.projectId
  if projectIds = [] then .ok []
  else
    match projectIds.mapM UUID.ofText? with
    | none => .error invalidUuid
    | some ids =>
        let found := (db.projects.rows.filter fun project =>
          decide (project.orgId = orgId) && project.isActive && ids.any (· = project.id)).map
            fun project => project.id.str
        if (∀ id ∈ found, id ∈ projectIds) ∧ ∀ id ∈ projectIds, id ∈ found then
          .ok body.projectAssignments
        else .error invalidProjects

/-- The row that `create_invite` inserts. -/
def InviteCall.row (call : InviteCall) (user : SignedInUser)
    (assignments : List ProjectAssignment) : InviteRow where
  id := call.id
  orgId := user.orgId
  email := call.body.email
  role := call.body.role
  tokenHash := hashInviteToken call.token
  expiresAt := call.now + inviteTtlHours * 3600 * 1000000
  acceptedAt := none
  createdByUserId := user.sub
  projectAssignments := .arr (assignments.map ProjectAssignment.json)

/-- `create_invite` by the user with the token of `subject`. -/
def createInvite (db : AccountDatabase) (subject : UUID) (call : InviteCall) :
    Except AccountsError AccountDatabase := do
  let user ← requireAdmin db.users subject
  if emailRegistered db call.body.email then throw emailAlreadyRegistered
  let assignments ← validateInviteProjectAssignments db call.body user.orgId
  match db.invites.insert? (call.row user assignments) with
  | some invites => return { db with invites := invites }
  | none => throw accountUniqueViolation

/-! ### `accept_invite` -/

/-- The validated body with what the request draws: the id of the user, the hash of
the password and the ids of the memberships in their order. -/
structure AcceptCall where
  token : String
  userId : UUID
  passwordHash : String
  membershipId : Nat → UUID
  token_ge : 32 ≤ token.length := by decide

/-- The next statement, and what the transaction has read and written. -/
inductive AcceptStage where
  | selecting
  | checkingEmail (invite : InviteRow)
  | insertingUser (invite : InviteRow)
  /-- No statement: the column of the invite is read as a list. -/
  | readingAssignments (invite : InviteRow)
  | assigning (invite : InviteRow) (members : List MembershipRow) (next : ProjectAssignment)
      (remaining : List ProjectAssignment)
  | consuming (invite : InviteRow) (members : List MembershipRow)
  | choosingProject (invite : InviteRow) (members : List MembershipRow)
  /-- Nothing is left but the commit. -/
  | accepted (invite : InviteRow) (members : List MembershipRow) (projectId : Option String)

structure Acceptance where
  call : AcceptCall
  /-- `datetime.now(UTC)`, read before the transaction. -/
  now : Int
  stage : AcceptStage

def Acceptance.at (acceptance : Acceptance) (stage : AcceptStage) : Acceptance :=
  { acceptance with stage := stage }

@[simp] theorem Acceptance.call_at (acceptance : Acceptance) (stage : AcceptStage) :
    (acceptance.at stage).call = acceptance.call := rfl

namespace Acceptance

/-- The row that the transaction has locked. -/
def invite? (acceptance : Acceptance) : Option InviteRow :=
  match acceptance.stage with
  | .selecting => none
  | .checkingEmail invite | .insertingUser invite | .readingAssignments invite
  | .assigning invite _ _ _ | .consuming invite _ | .choosingProject invite _
  | .accepted invite _ _ => some invite

/-- The memberships that the transaction has written, in their order. -/
def members (acceptance : Acceptance) : List MembershipRow :=
  match acceptance.stage with
  | .assigning _ members _ _ | .consuming _ members | .choosingProject _ members
  | .accepted _ members _ => members
  | .selecting | .checkingEmail _ | .insertingUser _ | .readingAssignments _ => []

/-- Whether the user has been inserted. -/
def hasUser (acceptance : Acceptance) : Bool :=
  match acceptance.stage with
  | .readingAssignments _ | .assigning _ _ _ _ | .consuming _ _ | .choosingProject _ _
  | .accepted _ _ _ => true
  | .selecting | .checkingEmail _ | .insertingUser _ => false

end Acceptance

/-- The row that `accept_invite` inserts for an invite. -/
def AcceptCall.user (call : AcceptCall) (invite : InviteRow) : UserRow where
  id := call.userId
  orgId := invite.orgId
  email := invite.email
  passwordHash := call.passwordHash
  role := invite.role
  isActive := true

/-- The upserts of several rows. -/
def MembershipTable.upsertAll? (memberships : MembershipTable) (rows : List MembershipRow) :
    Option MembershipTable :=
  rows.foldlM (fun memberships row => MembershipTable.upsert? memberships row) memberships

/-- The statement after some upserts: the next one, or the `UPDATE` of the invite. -/
def AcceptStage.afterUpserts (invite : InviteRow) (members : List MembershipRow) :
    List ProjectAssignment → AcceptStage
  | [] => .consuming invite members
  | next :: remaining => .assigning invite members next remaining

/-- The project that the answer selects. -/
def selectedProjectId (db : AccountDatabase) (invite : InviteRow) : Option String :=
  match serializeProjectAssignments invite.projectAssignments with
  | .ok (first :: _) => some first.projectId
  | _ => (db.projects.rows.find? fun project =>
      decide (project.orgId = invite.orgId) && project.isActive).map fun project =>
        project.id.str

def invalidInvite : AccountsError := .http 400 "Invite is invalid or already accepted"
def expiredInvite : AccountsError := .http 400 "Invite has expired"

/-- The `WHERE` clause of the `SELECT .. FOR UPDATE`. -/
def InviteRow.isOpen (token : String) (row : InviteRow) : Bool :=
  decide (row.tokenHash = hashInviteToken token) && row.acceptedAt.isNone

/-- The upsert of one assignment, with the memberships that the transaction has written
before it. -/
def upsertReply (db : AccountDatabase) (held : AccountLock → Bool) (invite : InviteRow)
    (acceptance : Acceptance) (assignment : ProjectAssignment)
    (remaining : List ProjectAssignment) : Reply Acceptance AccountsError :=
  match UUID.ofText? assignment.projectId with
  | none => .raises invalidUuid
  | some projectId =>
      let row : MembershipRow :=
        ⟨acceptance.call.membershipId acceptance.members.length, projectId,
          acceptance.call.userId, assignment.role⟩
      foreignKeyReply (∃ project ∈ db.projects.rows, project.id = projectId)
        (insertReply held row.entries
          (MembershipTable.upsertAll? db.memberships (acceptance.members ++ [row]) = none)
          (acceptance.at (.afterUpserts invite (acceptance.members ++ [row]) remaining)))

def acceptStatement (db : AccountDatabase) (held : AccountLock → Bool)
    (acceptance : Acceptance) : Reply Acceptance AccountsError :=
  match acceptance.stage with
  | .selecting =>
      match db.invites.rows.find? (·.isOpen acceptance.call.token) with
      | none => .raises invalidInvite
      | some invite =>
          if held (.invite invite.id) then .waits
          else if invite.expiresAt ≤ acceptance.now then .raises expiredInvite
          else .goes (acceptance.at (.checkingEmail invite))
  | .checkingEmail invite =>
      if emailRegistered db invite.email then .raises emailAlreadyRegistered
      else .goes (acceptance.at (.insertingUser invite))
  | .insertingUser invite =>
      foreignKeyReply (∃ row ∈ db.organizations.rows, row.id = invite.orgId)
        (insertReply held (acceptance.call.user invite).entries
          (∃ row ∈ db.users.rows, row.Clash (acceptance.call.user invite))
          (acceptance.at (.readingAssignments invite)))
  | .readingAssignments invite =>
      match serializeProjectAssignments invite.projectAssignments with
      | .ok assignments => .goes (acceptance.at (.afterUpserts invite [] assignments))
      | .error error => .raises error
  | .assigning invite _ assignment remaining =>
      upsertReply db held invite acceptance assignment remaining
  | .consuming invite members => .goes (acceptance.at (.choosingProject invite members))
  | .choosingProject invite members =>
      .goes (acceptance.at (.accepted invite members (selectedProjectId db invite)))
  | .accepted _ _ _ => .waits

def Acceptance.locks (acceptance : Acceptance) : List AccountLock :=
  (acceptance.invite?.toList.flatMap fun invite => .invite invite.id ::
    if acceptance.hasUser then (acceptance.call.user invite).entries else []) ++
    acceptance.members.flatMap MembershipRow.entries

/-- The `UPDATE` of the invite. -/
def InviteTable.accept (invites : InviteTable) (id : UUID) (now : Int) : InviteTable :=
  invites.mapRows
    (fun row => if row.id = id then { row with acceptedAt := some now } else row)
    fun left right clashes => by
      have keeps : ∀ row : InviteRow,
          (if row.id = id then { row with acceptedAt := some now } else row).id = row.id ∧
            (if row.id = id then { row with acceptedAt := some now } else row).tokenHash =
              row.tokenHash := by
        intro row
        split <;> exact ⟨rfl, rfl⟩
      simpa only [InviteRow.Clash, keeps] using clashes

/-- The database with the user, the memberships and the consumed invite. -/
def commitAcceptance (db : AccountDatabase) (acceptance : Acceptance) :
    Option AccountDatabase := do
  match acceptance.stage with
  | .accepted invite members _ =>
      let users ← db.users.insert? (acceptance.call.user invite)
      let memberships ← MembershipTable.upsertAll? db.memberships members
      return { db with
        users := users
        memberships := memberships
        invites := InviteTable.accept db.invites invite.id acceptance.now }
  | _ => none

/-- `accept_invite`. -/
def acceptInvite : TransactionSystem AccountDatabase AcceptCall Acceptance AccountLock
    AccountsError where
  start now _ call := .ok ⟨call, now, .selecting⟩
  locks := Acceptance.locks
  statement := acceptStatement
  commit := commitAcceptance

/-! ### What a request can do -/

section AfterUpserts

variable (acceptance : Acceptance) (invite : InviteRow) (members : List MembershipRow)
  (rest : List ProjectAssignment)

@[simp] theorem invite?_afterUpserts :
    (acceptance.at (.afterUpserts invite members rest)).invite? = some invite := by
  cases rest <;> rfl

@[simp] theorem members_afterUpserts :
    (acceptance.at (.afterUpserts invite members rest)).members = members := by
  cases rest <;> rfl

@[simp] theorem hasUser_afterUpserts :
    (acceptance.at (.afterUpserts invite members rest)).hasUser = true := by
  cases rest <;> rfl

end AfterUpserts

/-- What a statement moves on to. -/
inductive AcceptMove (db : AccountDatabase) (held : AccountLock → Bool)
    (acceptance : Acceptance) (stage : AcceptStage) : Prop
  | selected (invite : InviteRow) (before : acceptance.stage = .selecting)
      (stored : invite ∈ db.invites.rows)
      (token : invite.tokenHash = hashInviteToken acceptance.call.token)
      (unaccepted : invite.acceptedAt = none) (free : held (.invite invite.id) = false)
      (unexpired : acceptance.now < invite.expiresAt) (reached : stage = .checkingEmail invite)
  | checked (invite : InviteRow) (before : acceptance.stage = .checkingEmail invite)
      (reached : stage = .insertingUser invite)
  | inserted (invite : InviteRow) (before : acceptance.stage = .insertingUser invite)
      (free : ∀ entry ∈ (acceptance.call.user invite).entries, held entry = false)
      (reached : stage = .readingAssignments invite)
  | read (invite : InviteRow) (assignments : List ProjectAssignment)
      (before : acceptance.stage = .readingAssignments invite)
      (serialized : serializeProjectAssignments invite.projectAssignments = .ok assignments)
      (reached : stage = .afterUpserts invite [] assignments)
  | upserted (invite : InviteRow) (members : List MembershipRow)
      (assignment : ProjectAssignment) (remaining : List ProjectAssignment)
      (row : MembershipRow)
      (before : acceptance.stage = .assigning invite members assignment remaining)
      (free : ∀ entry ∈ row.entries, held entry = false)
      (ofUser : row.userId = acceptance.call.userId)
      (ofProject : UUID.ofText? assignment.projectId = some row.projectId)
      (reached : stage = .afterUpserts invite (members ++ [row]) remaining)
  | consumed (invite : InviteRow) (members : List MembershipRow)
      (before : acceptance.stage = .consuming invite members)
      (reached : stage = .choosingProject invite members)
  | chosen (invite : InviteRow) (members : List MembershipRow)
      (before : acceptance.stage = .choosingProject invite members)
      (reached : stage = .accepted invite members (selectedProjectId db invite))

theorem acceptMove_of_goes {db : AccountDatabase} {held : AccountLock → Bool}
    {acceptance moved : Acceptance}
    (goes : acceptStatement db held acceptance = .goes moved) :
    moved = acceptance.at moved.stage ∧ AcceptMove db held acceptance moved.stage := by
  unfold acceptStatement at goes
  split at goes
  · rename_i before
    split at goes
    · cases goes
    · rename_i invite found
      have stored := List.mem_of_find?_eq_some found
      have opened := List.find?_some found
      simp only [InviteRow.isOpen, Bool.and_eq_true, decide_eq_true_eq, Option.isNone_iff_eq_none]
        at opened
      split at goes
      · cases goes
      · rename_i free
        split at goes
        · cases goes
        · rename_i unexpired
          cases goes
          exact ⟨rfl, .selected invite before stored opened.1 opened.2 (by simpa using free)
            (not_le.mp unexpired) rfl⟩
  · rename_i invite before
    split at goes
    · cases goes
    · cases goes
      exact ⟨rfl, .checked invite before rfl⟩
  · rename_i invite before
    obtain ⟨rfl, free, -⟩ := insertReply_goes (foreignKeyReply_goes goes).1
    exact ⟨rfl, .inserted invite before free rfl⟩
  · rename_i invite before
    split at goes
    · rename_i assignments serialized
      cases goes
      exact ⟨rfl, .read invite assignments before serialized rfl⟩
    · cases goes
  · rename_i invite members assignment remaining before
    unfold upsertReply at goes
    split at goes
    · cases goes
    · rename_i projectId readId
      obtain ⟨rfl, free, -⟩ := insertReply_goes (foreignKeyReply_goes goes).1
      have written : acceptance.members = members := by rw [Acceptance.members, before]
      exact ⟨rfl, .upserted invite members assignment remaining _ before free rfl readId
        (by rw [written]; rfl)⟩
  · rename_i invite members before
    cases goes
    exact ⟨rfl, .consumed invite members before rfl⟩
  · rename_i invite members before
    cases goes
    exact ⟨rfl, .chosen invite members before rfl⟩
  · cases goes

theorem commit_acceptance {db next : AccountDatabase} {acceptance : Acceptance}
    (commits : commitAcceptance db acceptance = some next) :
    ∃ invite members projectId users memberships,
      acceptance.stage = .accepted invite members projectId ∧
        db.users.insert? (acceptance.call.user invite) = some users ∧
        MembershipTable.upsertAll? db.memberships members = some memberships ∧
        next = { db with
          users := users
          memberships := memberships
          invites := InviteTable.accept db.invites invite.id acceptance.now } := by
  unfold commitAcceptance at commits
  split at commits
  · rename_i invite members projectId stage
    simp only [bind, Option.bind_eq_some_iff, pure, Option.some.injEq] at commits
    obtain ⟨users, inserted, memberships, upserted, rfl⟩ := commits
    exact ⟨invite, members, projectId, users, memberships, stage, inserted, upserted, rfl⟩
  · cases commits

end LlmObs.Backend
