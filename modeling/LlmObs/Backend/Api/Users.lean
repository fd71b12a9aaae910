import LlmObs.Backend.Core.Accounts
import LlmObs.Foundation.Outcome

/-!
Owns `update_user_role` and `delete_user`, statement by statement: the lock on the
target, the count of the admins, the write and the commit. It does not own the
invites.
-/

namespace LlmObs.Backend

open LlmObs.Foundation

/-! ### The endpoints -/

inductive UserWrite where
  | setRole (role : UserRole)
  | delete
deriving DecidableEq, Repr

/-- What the two endpoints do differently. -/
structure UserEndpoint where
  /-- The refusal of an admin as the target of their own request. -/
  selfError : Option String
  /-- Whether the admins are counted before the write. -/
  countsAdmins : UserRow → Bool
  write : UserWrite
  /-- Where the write finds no row. -/
  missing : AccountsError

def updateUserRole (role : UserRole) : UserEndpoint where
  selfError := if role = .admin then none else some "Cannot remove your own admin role"
  countsAdmins target := decide (target.role = .admin) && !decide (role = .admin)
  write := .setRole role
  missing := .raised ⟨.sqlAlchemyError, "No row was found when one was required"⟩

def deleteUser : UserEndpoint where
  selfError := some "Cannot delete your own user"
  countsAdmins target := decide (target.role = .admin)
  write := .delete
  missing := .http 404 "User not found"

inductive UserCall where
  | updateUserRole (role : UserRole)
  | deleteUser
deriving DecidableEq, Repr

def UserCall.endpoint : UserCall → UserEndpoint
  | .updateUserRole role => LlmObs.Backend.updateUserRole role
  | .deleteUser => LlmObs.Backend.deleteUser

/-- A request with a token of `subject` and the text of the path. -/
structure UserRequest where
  subject : UUID
  userId : String
  call : UserCall

/-- The next statement, and the target that the transaction has locked. -/
inductive UserStage where
  | selecting
  | counting (target : UserRow)
  | writing (target : UserRow)
  /-- Nothing is left but the commit. -/
  | written (target : UserRow)
deriving DecidableEq, Repr

structure UserTransaction where
  orgId : UUID
  userId : String
  call : UserCall
  stage : UserStage
deriving DecidableEq, Repr

def UserTransaction.at (transaction : UserTransaction) (stage : UserStage) : UserTransaction :=
  { transaction with stage := stage }

def UserStage.target? : UserStage → Option UserRow
  | .selecting => none
  | .counting target | .writing target | .written target => some target

/-! ### Statements -/

/-- What precedes the transaction. The texts of the path and of the own id are
compared. -/
def startUserRequest (db : AccountDatabase) (request : UserRequest) :
    Except AccountsError UserTransaction := do
  let user ← requireAdmin db.users request.subject
  match request.call.endpoint.selfError with
  | some detail =>
      if request.userId = user.sub.str then throw (.http 400 detail)
      else return ⟨user.orgId, request.userId, request.call, .selecting⟩
  | none => return ⟨user.orgId, request.userId, request.call, .selecting⟩

/-- The `WHERE` clause of the `SELECT .. FOR UPDATE`. -/
def UserRow.isTarget (orgId id : UUID) (row : UserRow) : Bool :=
  decide (row.id = id) && decide (row.orgId = orgId) && row.isActive

/-- An active admin of the organization. -/
def UserRow.isAdminOf (orgId : UUID) (row : UserRow) : Bool :=
  decide (row.orgId = orgId) && decide (row.role = .admin) && row.isActive

/-- `SELECT count(*)` over the active admins. -/
def adminCount (users : UserTable) (orgId : UUID) : Nat :=
  users.rows.countP (·.isAdminOf orgId)

def lastAdmin : AccountsError := .http 400 "Organization must keep at least one admin"

def userStatement (db : AccountDatabase) (held : AccountLock → Bool)
    (transaction : UserTransaction) : Reply UserTransaction AccountsError :=
  match transaction.stage with
  | .selecting =>
      match UUID.ofText? transaction.userId with
      | none => .raises invalidUuid
      | some id =>
          match db.users.rows.find? (·.isTarget transaction.orgId id) with
          | none => .raises (.http 404 "User not found")
          | some target =>
              if held (.user target.id) then .waits
              else if transaction.call.endpoint.countsAdmins target then
                .goes (transaction.at (.counting target))
              else .goes (transaction.at (.writing target))
  | .counting target =>
      if adminCount db.users transaction.orgId ≤ 1 then .raises lastAdmin
      else .goes (transaction.at (.writing target))
  | .writing target =>
      if ∃ row ∈ db.users.rows, row.id = target.id ∧ row.orgId = transaction.orgId then
        .goes (transaction.at (.written target))
      else .raises transaction.call.endpoint.missing
  | .written _ => .waits

/-- The rows that the write selects. -/
def UserRow.isWritten (orgId id : UUID) (row : UserRow) : Bool :=
  decide (row.id = id) && decide (row.orgId = orgId)

def UserTable.setRole (users : UserTable) (orgId id : UUID) (role : UserRole) : UserTable :=
  users.mapRows (fun row => if row.isWritten orgId id then { row with role := role } else row)
    fun left right clashes => by
      have keeps : ∀ row : UserRow,
          (if row.isWritten orgId id then { row with role := role } else row).id = row.id ∧
            (if row.isWritten orgId id then { row with role := role } else row).email =
              row.email := by
        intro row
        split <;> exact ⟨rfl, rfl⟩
      simpa only [UserRow.Clash, keeps] using clashes

/-- The database with the write; the memberships of a deleted user go with it. -/
def commitUserWrite (db : AccountDatabase) (orgId id : UUID) : UserWrite → AccountDatabase
  | .setRole role => { db with users := UserTable.setRole db.users orgId id role }
  | .delete => { db with
      users := db.users.deleteWhere (·.isWritten orgId id)
      memberships := db.memberships.deleteWhere fun row => decide (row.userId = id) }

/-- `update_user_role` and `delete_user`. -/
def userEdits : TransactionSystem AccountDatabase UserRequest UserTransaction AccountLock
    AccountsError where
  start _ db request := startUserRequest db request
  locks transaction := transaction.stage.target?.toList.map fun target => .user target.id
  statement := userStatement
  commit db transaction :=
    match transaction.stage with
    | .written target =>
        some (commitUserWrite db transaction.orgId target.id transaction.call.endpoint.write)
    | _ => none

/-! ### What a request can do -/

theorem isAdmin_of_requireAdmin {users : UserTable} {subject : UUID} {user : SignedInUser}
    (admitted : requireAdmin users subject = .ok user) :
    ∃ row ∈ users.rows, row.isAdminOf user.orgId = true ∧ row.signedIn = user := by
  simp only [requireAdmin, loadCurrentUser] at admitted
  split at admitted
  · rename_i row found
    have stored := List.mem_of_find?_eq_some found
    have active := List.find?_some found
    simp only [ok_bind] at admitted
    split at admitted
    · rename_i admin
      cases admitted
      rw [isAdmin_signedIn] at admin
      simp only [decide_eq_true_eq] at active
      exact ⟨row, stored, by simp [UserRow.isAdminOf, UserRow.signedIn, admin, active.2], rfl⟩
    · cases admitted
  · cases admitted

theorem stage_of_startUserRequest {db : AccountDatabase} {request : UserRequest}
    {transaction : UserTransaction} (started : startUserRequest db request = .ok transaction) :
    transaction.stage = .selecting := by
  simp only [startUserRequest, bind_eq_ok] at started
  obtain ⟨user, -, opened⟩ := started
  split at opened
  · split at opened
    · cases opened
    · cases opened
      rfl
  · cases opened
    rfl

/-- What a statement moves on to. -/
inductive UserMove (db : AccountDatabase) (held : AccountLock → Bool)
    (transaction : UserTransaction) (stage : UserStage) : Prop
  | selected (target : UserRow) (stored : target ∈ db.users.rows)
      (before : transaction.stage = .selecting) (ofOrg : target.orgId = transaction.orgId)
      (active : target.isActive = true) (free : held (.user target.id) = false)
      (reached : stage = if transaction.call.endpoint.countsAdmins target then .counting target
        else .writing target)
  | counted (target : UserRow) (before : transaction.stage = .counting target)
      (others : 1 < adminCount db.users transaction.orgId) (reached : stage = .writing target)
  | written (target : UserRow) (before : transaction.stage = .writing target)
      (reached : stage = .written target)

theorem userMove_of_goes {db : AccountDatabase} {held : AccountLock → Bool}
    {transaction moved : UserTransaction}
    (goes : userStatement db held transaction = .goes moved) :
    moved = transaction.at moved.stage ∧ UserMove db held transaction moved.stage := by
  unfold userStatement at goes
  split at goes
  · rename_i before
    split at goes
    · cases goes
    · rename_i id _
      split at goes
      · cases goes
      · rename_i target found
        have stored := List.mem_of_find?_eq_some found
        have selects := List.find?_some found
        simp only [UserRow.isTarget, Bool.and_eq_true, decide_eq_true_eq] at selects
        split at goes
        · cases goes
        · rename_i free
          rw [Bool.not_eq_true] at free
          split at goes
          · rename_i counts
            cases goes
            exact ⟨rfl, .selected target stored before selects.1.2 selects.2 free
              (by rw [if_pos counts]; rfl)⟩
          · rename_i counts
            cases goes
            exact ⟨rfl, .selected target stored before selects.1.2 selects.2 free
              (by rw [if_neg counts]; rfl)⟩
  · rename_i target before
    split at goes
    · cases goes
    · rename_i others
      cases goes
      exact ⟨rfl, .counted target before (not_le.mp others) rfl⟩
  · rename_i target before
    split at goes
    · cases goes
      exact ⟨rfl, .written target before rfl⟩
    · cases goes
  · cases goes

end LlmObs.Backend
