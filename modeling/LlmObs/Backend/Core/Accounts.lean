import LlmObs.Backend.Api.Projects
import LlmObs.Foundation.Transactions

/-!
Owns the accounts: organizations, users, invites and project memberships with their
unique constraints, the entries of those constraints that a transaction can lock,
and the user that a token signs in. It does not own the endpoints. `audit_log` is
left out: nothing modelled reads it.
-/

namespace LlmObs.Backend

open LlmObs.Foundation

/-- `ck_users_role` -/
inductive UserRole where
  | admin
  | member
  | viewer
deriving DecidableEq, Repr

def UserRole.text : UserRole → String
  | .admin => "admin"
  | .member => "member"
  | .viewer => "viewer"

/-- `ck_project_memberships_role` -/
inductive MembershipRole where
  | member
  | viewer
deriving DecidableEq, Repr

def MembershipRole.text : MembershipRole → String
  | .member => "member"
  | .viewer => "viewer"

/-! ### Tables -/

structure OrganizationRow where
  id : UUID
  name : String
  slug : String
deriving DecidableEq, Repr

/-- The primary key and `UNIQUE (slug)`. -/
def OrganizationRow.Clash (left right : OrganizationRow) : Prop :=
  left.id = right.id ∨ left.slug = right.slug

instance : DecidableRel OrganizationRow.Clash :=
  fun _ _ => inferInstanceAs (Decidable (_ ∨ _))

structure UserRow where
  id : UUID
  orgId : UUID
  email : String
  passwordHash : String
  role : UserRole
  isActive : Bool
deriving DecidableEq, Repr

/-- The primary key and `UNIQUE (email)`. -/
def UserRow.Clash (left right : UserRow) : Prop :=
  left.id = right.id ∨ left.email = right.email

instance : DecidableRel UserRow.Clash :=
  fun _ _ => inferInstanceAs (Decidable (_ ∨ _))

abbrev UserTable := Table UserRow UserRow.Clash

structure InviteRow where
  id : UUID
  orgId : UUID
  email : String
  role : UserRole
  tokenHash : String
  expiresAt : Int
  acceptedAt : Option Int
  createdByUserId : UUID
  /-- A `jsonb` column. -/
  projectAssignments : Json

/-- The primary key and `UNIQUE (token_hash)`. -/
def InviteRow.Clash (left right : InviteRow) : Prop :=
  left.id = right.id ∨ left.tokenHash = right.tokenHash

instance : DecidableRel InviteRow.Clash :=
  fun _ _ => inferInstanceAs (Decidable (_ ∨ _))

abbrev InviteTable := Table InviteRow InviteRow.Clash

structure MembershipRow where
  id : UUID
  projectId : UUID
  userId : UUID
  role : MembershipRole
deriving DecidableEq, Repr

/-- The primary key and `uq_project_memberships_project_user`. -/
def MembershipRow.Clash (left right : MembershipRow) : Prop :=
  left.id = right.id ∨ left.projectId = right.projectId ∧ left.userId = right.userId

instance : DecidableRel MembershipRow.Clash :=
  fun _ _ => inferInstanceAs (Decidable (_ ∨ _ ∧ _))

abbrev MembershipTable := Table MembershipRow MembershipRow.Clash

/-- The row that an upsert of `row` updates. -/
def MembershipRow.IsOf (row stored : MembershipRow) : Prop :=
  stored.projectId = row.projectId ∧ stored.userId = row.userId

instance (row stored : MembershipRow) : Decidable (row.IsOf stored) :=
  inferInstanceAs (Decidable (_ ∧ _))

/-- `INSERT INTO project_memberships .. ON CONFLICT (project_id, user_id) DO UPDATE`;
`none` is a unique violation of the primary key. -/
def MembershipTable.upsert? (memberships : MembershipTable) (row : MembershipRow) :
    Option MembershipTable :=
  if ∃ stored ∈ memberships.rows, row.IsOf stored then
    some (memberships.mapRows
      (fun stored => if row.IsOf stored then { stored with role := row.role } else stored)
      fun left right clashes => by
        have keeps : ∀ stored : MembershipRow,
            (if row.IsOf stored then { stored with role := row.role } else stored).id =
                stored.id ∧
              (if row.IsOf stored then { stored with role := row.role } else stored).projectId =
                stored.projectId ∧
              (if row.IsOf stored then { stored with role := row.role } else stored).userId =
                stored.userId := by
          intro stored
          split <;> exact ⟨rfl, rfl, rfl⟩
        simpa only [MembershipRow.Clash, keeps] using clashes)
  else memberships.insert? row

/-- A row after an upsert has the project and user of one before it, or of the upserted
row. -/
theorem MembershipTable.mem_upsert? {memberships next : MembershipTable}
    {row member : MembershipRow} (upserted : MembershipTable.upsert? memberships row = some next)
    (stored : member ∈ next.rows) :
    ∃ before, (before ∈ memberships.rows ∨ before = row) ∧
      member.projectId = before.projectId ∧ member.userId = before.userId := by
  unfold MembershipTable.upsert? at upserted
  split at upserted
  · cases upserted
    obtain ⟨before, beforeStored, rfl⟩ := List.mem_map.mp stored
    refine ⟨before, Or.inl beforeStored, ?_⟩
    split <;> exact ⟨rfl, rfl⟩
  · rw [Table.insert?_rows upserted, List.mem_append, List.mem_singleton] at stored
    exact ⟨member, stored, rfl, rfl⟩

structure AccountDatabase where
  organizations : Table OrganizationRow OrganizationRow.Clash
  users : UserTable
  projects : Table ProjectAccount ProjectAccount.Clash
  invites : InviteTable
  memberships : MembershipTable

def AccountDatabase.empty : AccountDatabase where
  organizations := Table.empty
  users := Table.empty
  projects := Table.empty
  invites := Table.empty
  memberships := Table.empty

/-! ### Locks -/

/-- A row that a transaction has locked, or an entry of a unique index that it has
inserted. -/
inductive AccountLock where
  | organization (id : UUID)
  | slug (slug : String)
  | user (id : UUID)
  | email (email : String)
  | project (id : UUID)
  | apiKeyHash (hash : String)
  | projectName (orgId : UUID) (name : String)
  | invite (id : UUID)
  | membership (id : UUID)
  | memberOf (projectId userId : UUID)
deriving DecidableEq, Repr

def OrganizationRow.entries (row : OrganizationRow) : List AccountLock :=
  [.organization row.id, .slug row.slug]

def UserRow.entries (row : UserRow) : List AccountLock := [.user row.id, .email row.email]

/-- The entries of a row of `projects`. -/
def projectEntries (row : ProjectAccount) : List AccountLock :=
  [.project row.id, .apiKeyHash row.apiKeyHash, .projectName row.orgId row.name]

def MembershipRow.entries (row : MembershipRow) : List AccountLock :=
  [.membership row.id, .memberOf row.projectId row.userId]

/-! ### Errors and statements -/

/-- How a request that changes nothing ends. -/
inductive AccountsError where
  | http (statusCode : Nat) (detail : String)
  | raised (exception : PyException)
deriving DecidableEq, Repr

def accountUniqueViolation : AccountsError :=
  .raised ⟨.sqlAlchemyError, "duplicate key value violates unique constraint"⟩

def accountForeignKeyViolation : AccountsError :=
  .raised ⟨.sqlAlchemyError, "insert or update on table violates foreign key constraint"⟩

def emailAlreadyRegistered : AccountsError := .http 409 "Email already registered"

/-- `SELECT 1 FROM users WHERE email = :email` finds a row. -/
def emailRegistered (db : AccountDatabase) (email : String) : Prop :=
  ∃ row ∈ db.users.rows, row.email = email

instance (db : AccountDatabase) (email : String) : Decidable (emailRegistered db email) :=
  inferInstanceAs (Decidable (∃ _ ∈ _, _ = _))

def invalidUuid : AccountsError := .raised ⟨.sqlAlchemyError, "invalid UUID"⟩

/-- An `INSERT`: it waits for a transaction that has inserted one of its index
entries, and raises where a committed row has one. -/
def insertReply {Phase : Type} (held : AccountLock → Bool) (entries : List AccountLock)
    (clashes : Prop) [Decidable clashes] (inserted : Phase) : Reply Phase AccountsError :=
  if entries.any held then .waits
  else if clashes then .raises accountUniqueViolation
  else .goes inserted

/-- A statement whose rows refer to committed ones. -/
def foreignKeyReply {Phase : Type} (referenced : Prop) [Decidable referenced] :
    Reply Phase AccountsError → Reply Phase AccountsError
  | .goes phase => if referenced then .goes phase else .raises accountForeignKeyViolation
  | reply => reply

theorem foreignKeyReply_goes {Phase : Type} {referenced : Prop} [Decidable referenced]
    {reply : Reply Phase AccountsError} {moved : Phase}
    (goes : foreignKeyReply referenced reply = .goes moved) :
    reply = .goes moved ∧ referenced := by
  unfold foreignKeyReply at goes
  split at goes
  · split at goes
    · rename_i isReferenced
      exact ⟨goes, isReferenced⟩
    · cases goes
  · rename_i other
    exact absurd goes (other moved)

theorem insertReply_goes {Phase : Type} {held : AccountLock → Bool} {entries : List AccountLock}
    {clashes : Prop} [Decidable clashes] {inserted moved : Phase}
    (goes : insertReply held entries clashes inserted = .goes moved) :
    moved = inserted ∧ (∀ entry ∈ entries, held entry = false) ∧ ¬clashes := by
  unfold insertReply at goes
  split at goes
  · cases goes
  · rename_i free
    split at goes
    · cases goes
    · rename_i apart
      cases goes
      exact ⟨rfl, by simpa using free, apart⟩

/-! ### The signed-in user -/

/-- What `get_current_user` returns. -/
structure SignedInUser extends CurrentUser where
  sub : UUID

def UserRow.signedIn (row : UserRow) : SignedInUser where
  orgId := row.orgId
  role := row.role.text
  sub := row.id

/-- `load_current_user_from_token` for a token that is valid for `subject`. -/
def loadCurrentUser (users : UserTable) (subject : UUID) : Except AccountsError SignedInUser :=
  match users.rows.find? fun row => row.id = subject ∧ row.isActive = true with
  | some row => .ok row.signedIn
  | none => .error (.http 401 "Invalid or expired token")

/-- The dependencies and the first line of an endpoint for admins. -/
def requireAdmin (users : UserTable) (subject : UUID) : Except AccountsError SignedInUser := do
  let user ← loadCurrentUser users subject
  if user.isAdmin then return user else throw (.http 403 "Admin role required")

theorem isAdmin_signedIn (row : UserRow) :
    row.signedIn.isAdmin = true ↔ row.role = .admin := by
  cases role : row.role <;>
    simp [UserRow.signedIn, CurrentUser.isAdmin, role, UserRole.text, roleLevels, List.lookup_cons]

end LlmObs.Backend
