import LlmObs.Backend.Api.Users
import LlmObs.Foundation.Machine

/-!
Owns when an organization keeps an admin while any number of `update_user_role` and
`delete_user` transactions are interleaved: every count that lets an admin go has to
see one that no other open transaction is about to take away.
-/

namespace LlmObs.Backend

open LlmObs.Foundation

abbrev UserSessions := Sessions AccountDatabase UserTransaction AccountsError

def AccountDatabase.HasAdmin (db : AccountDatabase) (orgId : UUID) : Prop :=
  ∃ row ∈ db.users.rows, row.isAdminOf orgId = true

instance (db : AccountDatabase) (orgId : UUID) : Decidable (db.HasAdmin orgId) :=
  inferInstanceAs (Decidable (∃ _ ∈ _, _ = _))

/-- The admin whose removal has passed its count. -/
def UserTransaction.removes? (transaction : UserTransaction) : Option UserRow :=
  match transaction.stage with
  | .writing target | .written target =>
      if transaction.call.endpoint.countsAdmins target then some target else none
  | _ => none

/-- The admin stays whatever the open transactions commit. -/
def UserSessions.Staying (state : UserSessions) (orgId : UUID) (row : UserRow) : Prop :=
  row.isAdminOf orgId = true ∧
    ∀ transaction ∈ state.openPhases, ∀ target ∈ transaction.removes?, target.id ≠ row.id

instance (state : UserSessions) (orgId : UUID) (row : UserRow) :
    Decidable (UserSessions.Staying state orgId row) :=
  inferInstanceAs (Decidable (_ ∧ _))

/-- A count that finds more than one admin leaves, besides its target, an admin that
no other open transaction has been allowed to take away. -/
def CountLeavesAdmin (state : UserSessions) : SessionAction UserRequest → Prop
  | .statement index =>
      match state.phase? index with
      | some ⟨orgId, _, _, .counting target⟩ =>
          1 < adminCount state.database.users orgId →
            ∃ row ∈ state.database.users.rows,
              row.id ≠ target.id ∧ UserSessions.Staying state orgId row
      | _ => True
  | _ => True

instance (state : UserSessions) (action : SessionAction UserRequest) :
    Decidable (CountLeavesAdmin state action) := by
  unfold CountLeavesAdmin
  split
  · split <;> infer_instance
  · infer_instance

/-! ### Locked targets -/

/-- The target is the committed row. -/
structure TargetStored (db : AccountDatabase) (transaction : UserTransaction) : Prop where
  stored : ∀ target ∈ transaction.stage.target?, target ∈ db.users.rows
  ofOrg : ∀ target ∈ transaction.stage.target?, target.orgId = transaction.orgId

theorem UserTable.row_eq_of_id {users : UserTable} {left right : UserRow}
    (leftStored : left ∈ users.rows) (rightStored : right ∈ users.rows)
    (same : left.id = right.id) : left = right :=
  Table.eq_of_clash (fun _ _ clashes => clashes.imp Eq.symm Eq.symm) leftStored rightStored
    (Or.inl same)

/-- A write leaves the other rows. -/
theorem mem_commitUserWrite {db : AccountDatabase} {orgId id : UUID} {row : UserRow}
    (stored : row ∈ db.users.rows) (different : row.id ≠ id) (write : UserWrite) :
    row ∈ (commitUserWrite db orgId id write).users.rows := by
  have unselected : row.isWritten orgId id = false := by simp [UserRow.isWritten, different]
  cases write with
  | setRole role =>
      refine List.mem_map.mpr ⟨row, stored, ?_⟩
      rw [unselected]
      rfl
  | delete => exact Table.mem_deleteWhere.mpr ⟨stored, unselected⟩

theorem commit_userEdits {db next : AccountDatabase} {transaction : UserTransaction}
    (commits : userEdits.commit db transaction = some next) :
    ∃ target, transaction.stage = .written target ∧
      next = commitUserWrite db transaction.orgId target.id
        transaction.call.endpoint.write := by
  simp only [userEdits] at commits
  split at commits
  · rename_i target written
    exact ⟨target, written, (Option.some.inj commits).symm⟩
  · cases commits

theorem userEdits_preserves : userEdits.Preserves TargetStored fun _ _ => True where
  locks_start {now db request transaction} started := by
    simp [userEdits, UserStage.target?, stage_of_startUserRequest started]
  locks_goes {db held transaction moved} goes lock locked := by
    obtain ⟨-, move⟩ := userMove_of_goes goes
    obtain ⟨target, isTarget, rfl⟩ : ∃ target, moved.stage.target? = some target ∧
        AccountLock.user target.id = lock := by
      simpa [userEdits] using locked
    have kept : ∀ before, transaction.stage.target? = some before → before = target →
        AccountLock.user target.id ∈ userEdits.locks transaction := by
      rintro before known rfl
      simp [userEdits, known]
    cases move with
    | selected selected _ before _ _ free reached =>
        right
        have same : selected = target := by
          rw [reached] at isTarget
          split at isTarget <;> exact Option.some.inj isTarget
        exact same ▸ free
    | counted counted before _ reached =>
        rw [reached] at isTarget
        exact Or.inl (kept counted (by rw [before]; rfl) (Option.some.inj isTarget))
    | written written before reached =>
        rw [reached] at isTarget
        exact Or.inl (kept written (by rw [before]; rfl) (Option.some.inj isTarget))
  valid_start {now db request transaction} started := by
    have selecting := stage_of_startUserRequest started
    constructor <;> simp [selecting, UserStage.target?]
  valid_goes {db history held transaction moved} _ valid goes := by
    obtain ⟨same, move⟩ := userMove_of_goes goes
    have sameOrg : moved.orgId = transaction.orgId := by
      rw [same]
      rfl
    cases move with
    | selected selected stored before ofOrg _ _ reached =>
        have target : moved.stage.target? = some selected := by
          rw [reached]
          split <;> rfl
        constructor <;> simp [target, stored, sameOrg, ofOrg]
    | counted counted before _ reached =>
        have known : transaction.stage.target? = some counted := by rw [before]; rfl
        have target : moved.stage.target? = some counted := by rw [reached]; rfl
        rw [← known] at target
        exact ⟨target ▸ valid.stored, target ▸ sameOrg ▸ valid.ofOrg⟩
    | written written before reached =>
        have known : transaction.stage.target? = some written := by rw [before]; rfl
        have target : moved.stage.target? = some written := by rw [reached]; rfl
        rw [← known] at target
        exact ⟨target ▸ valid.stored, target ▸ sameOrg ▸ valid.ofOrg⟩
  valid_commit {db next transaction other} valid _ apart commits := by
    obtain ⟨written, stage, rfl⟩ := commit_userEdits commits
    refine ⟨fun target isTarget => ?_, valid.ofOrg⟩
    refine mem_commitUserWrite (valid.stored target isTarget) (fun same => ?_) _
    refine apart (.user target.id) ?_ ?_
    · simp [userEdits, Option.mem_def.mp isTarget]
    · simp [userEdits, stage, UserStage.target?, same]
  global_commit _ _ _ := trivial

/-! ### The admin that stays -/

/-- An admin whose write did not have to be counted stays an admin. -/
theorem admin_of_uncounted {db : AccountDatabase} {transaction : UserTransaction}
    {target : UserRow} {orgId : UUID} (stored : target ∈ db.users.rows)
    (admin : target.isAdminOf orgId = true)
    (uncounted : transaction.call.endpoint.countsAdmins target = false) :
    ∃ row ∈ (commitUserWrite db transaction.orgId target.id
        transaction.call.endpoint.write).users.rows,
      row.id = target.id ∧ row.isAdminOf orgId = true := by
  have isAdmin : target.role = .admin := by
    simp only [UserRow.isAdminOf, Bool.and_eq_true, decide_eq_true_eq] at admin
    exact admin.1.2
  cases call : transaction.call with
  | updateUserRole role =>
      have toAdmin : role = .admin := by
        simpa [UserCall.endpoint, updateUserRole, call, isAdmin] using uncounted
      refine ⟨_, List.mem_map.mpr ⟨target, stored, rfl⟩, ?_⟩
      split
      · refine ⟨rfl, ?_⟩
        rw [← admin]
        simp [UserRow.isAdminOf, toAdmin, isAdmin]
      · exact ⟨rfl, admin⟩
  | deleteUser => simp [UserCall.endpoint, deleteUser, call, isAdmin] at uncounted

/-- Some admin stays whatever the open transactions commit. -/
def UserSessions.Safe (orgId : UUID) (state : UserSessions) : Prop :=
  ∃ row ∈ state.database.users.rows, UserSessions.Staying state orgId row

/-- A step after which the open transactions remove no other admin. -/
theorem UserSessions.Staying.mono {state next : UserSessions} {orgId : UUID} {row : UserRow}
    (staying : UserSessions.Staying state orgId row)
    (removals : ∀ transaction ∈ next.openPhases, transaction ∈ state.openPhases ∨
      ∀ target ∈ transaction.removes?, target.id ≠ row.id) :
    UserSessions.Staying next orgId row := by
  refine ⟨staying.1, fun transaction member target removed => ?_⟩
  rcases removals transaction member with old | new
  · exact staying.2 transaction old target removed
  · exact new target removed

theorem safe_moved {state : UserSessions} {orgId : UUID} {index : Nat}
    {transaction moved : UserTransaction} (safe : UserSessions.Safe orgId state)
    (valid : TargetStored state.database transaction)
    (leaves : CountLeavesAdmin state (.statement index))
    (found : state.phase? index = some transaction)
    (goes : userStatement state.database (userEdits.heldByOthers state.sessions index)
      transaction = .goes moved) :
    UserSessions.Safe orgId (state.setSession index (.running moved)) := by
  obtain ⟨row, stored, staying⟩ := safe
  obtain ⟨same, move⟩ := userMove_of_goes goes
  -- An admin that stays before the statement stays unless the statement is its count.
  have stays : ∀ {kept : UserRow}, UserSessions.Staying state orgId kept →
      (∀ target ∈ moved.removes?, target.id ≠ kept.id) →
      UserSessions.Staying (state.setSession index (.running moved)) orgId kept := by
    intro kept keptStaying apart
    refine keptStaying.mono fun other member => ?_
    rcases Sessions.openPhases_setSession member with old | new
    · exact Or.inl old
    · cases new
      exact Or.inr apart
  cases move with
  | selected selected _ _ _ _ _ reached =>
      refine ⟨row, stored, stays staying ?_⟩
      have nothing : moved.removes? = none := by
        by_cases counts : transaction.call.endpoint.countsAdmins selected = true
        · rw [if_pos counts] at reached
          rw [same, UserTransaction.removes?, UserTransaction.at, reached]
        · rw [if_neg counts] at reached
          rw [same, UserTransaction.removes?, UserTransaction.at, reached]
          exact if_neg counts
      simp [nothing]
  | counted target before others reached =>
      have removes : ∀ removed ∈ moved.removes?, removed = target := by
        intro removed isRemoved
        rw [same, UserTransaction.removes?, UserTransaction.at, reached] at isRemoved
        dsimp only at isRemoved
        split at isRemoved
        · exact (Option.some.inj isRemoved).symm
        · cases isRemoved
      obtain ⟨txOrg, userId, call, stage⟩ := transaction
      cases before
      simp only [CountLeavesAdmin, found] at leaves
      by_cases sameOrg : orgId = txOrg
      · subst sameOrg
        obtain ⟨left, leftStored, different, leftStaying⟩ := leaves others
        exact ⟨left, leftStored, stays leftStaying fun removed isRemoved =>
          removes removed isRemoved ▸ Ne.symm different⟩
      · refine ⟨row, stored, stays staying fun removed isRemoved sameId => ?_⟩
        rw [removes removed isRemoved] at sameId
        have rowOrg : row.orgId = orgId := by
          have admin := staying.1
          simp only [UserRow.isAdminOf, Bool.and_eq_true, decide_eq_true_eq] at admin
          exact admin.1.1
        have sameRow := UserTable.row_eq_of_id (valid.stored target rfl) stored sameId
        exact sameOrg (rowOrg.symm.trans (sameRow ▸ valid.ofOrg target rfl))
  | written target before reached =>
      refine ⟨row, stored, stays staying ?_⟩
      have unchanged : moved.removes? = transaction.removes? := by
        rw [same, UserTransaction.removes?, UserTransaction.removes?, UserTransaction.at,
          reached, before]
      rw [unchanged]
      exact staying.2 transaction (Sessions.mem_openPhases.mpr ⟨index, found⟩)

theorem safe_committed {state : UserSessions} {orgId : UUID} {index : Nat}
    {transaction : UserTransaction} {db : AccountDatabase}
    (safe : UserSessions.Safe orgId state) (valid : TargetStored state.database transaction)
    (found : state.phase? index = some transaction)
    (commits : userEdits.commit state.database transaction = some db) :
    UserSessions.Safe orgId { state.setSession index .committed with
      database := db
      history := state.history ++ [(transaction, state.now)] } := by
  obtain ⟨row, stored, staying⟩ := safe
  obtain ⟨target, written, rfl⟩ := commit_userEdits commits
  have fewer : ∀ other ∈ (state.setSession index .committed).openPhases,
      other ∈ state.openPhases := by
    intro other member
    rcases Sessions.openPhases_setSession member with old | new
    · exact old
    · cases new
  by_cases isTarget : row.id = target.id
  · have targetStored := valid.stored target (by rw [written]; rfl)
    obtain rfl := UserTable.row_eq_of_id stored targetStored isTarget
    have uncounted : transaction.call.endpoint.countsAdmins row = false := by
      by_contra counted
      rw [Bool.not_eq_false] at counted
      refine staying.2 transaction (Sessions.mem_openPhases.mpr ⟨index, found⟩) row ?_ rfl
      rw [UserTransaction.removes?, written]
      exact if_pos counted
    obtain ⟨after, afterStored, sameId, admin⟩ := admin_of_uncounted stored staying.1 uncounted
    refine ⟨after, afterStored, admin, fun other member removed isRemoved => ?_⟩
    rw [sameId]
    exact staying.2 other (fewer other member) removed isRemoved
  · exact ⟨row, mem_commitUserWrite stored isTarget _, staying.mono fun other member =>
      Or.inl (fewer other member)⟩

theorem safe_step {state next : UserSessions} {orgId : UUID}
    {action : SessionAction UserRequest}
    (kept : userEdits.Kept TargetStored (fun _ _ => True) state)
    (safe : UserSessions.Safe orgId state) (leaves : CountLeavesAdmin state action)
    (stepped : userEdits.machine.step state action = some next) :
    UserSessions.Safe orgId next := by
  cases TransactionSystem.change_of_step stepped with
  | began request session started same =>
      obtain ⟨row, stored, staying⟩ := safe
      subst same
      refine ⟨row, stored, staying.mono fun transaction member => ?_⟩
      rcases Sessions.openPhases_push member with old | new
      · exact Or.inl old
      · right
        have selecting := stage_of_startUserRequest (started transaction new)
        simp [UserTransaction.removes?, selecting]
  | moved index transaction moved acted found replied same =>
      subst acted same
      exact safe_moved safe (kept.valid found) leaves found replied
  | failed index transaction error found same =>
      obtain ⟨row, stored, staying⟩ := safe
      subst same
      refine ⟨row, stored, staying.mono fun other member => ?_⟩
      rcases Sessions.openPhases_setSession member with old | new
      · exact Or.inl old
      · cases new
  | committed index transaction db found commits same =>
      subst same
      exact safe_committed safe (kept.valid found) found commits
  | elapsed duration same =>
      obtain ⟨row, stored, staying⟩ := safe
      exact same ▸ ⟨row, stored, staying⟩

/-- An organization with an active admin keeps one, as long as every count that lets
a removal through leaves an admin that no other removal has been counted for. -/
theorem hasAdmin_of_countsLeaveAdmin {db : AccountDatabase} {now : Int} {orgId : UUID}
    {actions : List (SessionAction UserRequest)} {final : UserSessions}
    (admin : db.HasAdmin orgId)
    (reached : userEdits.machine.run (.idle db now) actions = some final)
    (leaves : userEdits.machine.Along CountLeavesAdmin (.idle db now) actions) :
    final.database.HasAdmin orgId := by
  have both : userEdits.Kept TargetStored (fun _ _ => True) final ∧
      UserSessions.Safe orgId final := by
    refine userEdits.machine.run_invariant
      (fun state => userEdits.Kept TargetStored (fun _ _ => True) state ∧
        UserSessions.Safe orgId state) ?_ ?_ leaves reached
    · intro state action next ⟨kept, safe⟩ leaves stepped
      exact ⟨kept.change userEdits_preserves (TransactionSystem.change_of_step stepped),
        safe_step kept safe leaves stepped⟩
    · obtain ⟨row, stored, isAdmin⟩ := admin
      refine ⟨TransactionSystem.kept_idle trivial now, row, stored, isAdmin, ?_⟩
      simp [Sessions.openPhases, Sessions.idle]
  obtain ⟨row, stored, staying⟩ := both.2
  exact ⟨row, stored, staying.1⟩

/-- Organization 7 with two admins. -/
def twoAdmins : AccountDatabase :=
  { AccountDatabase.empty with
    users := (Table.empty.insertOrSkip ⟨1, 7, "first@example.com", "", .admin, true⟩).insertOrSkip
      ⟨2, 7, "second@example.com", "", .admin, true⟩ }

/-- The first admin demotes the second one. -/
def oneDemotion : List (SessionAction UserRequest) :=
  [.begin ⟨1, (2 : UUID).str, .updateUserRole .member⟩, .statement 0, .statement 0, .statement 0,
    .commit 0]

theorem hasAdmin_of_countsLeaveAdmin_demoted :
    ∃ final, userEdits.machine.run (.idle twoAdmins 0) oneDemotion = some final ∧
      final.database.HasAdmin 7 := by
  obtain ⟨final, reached⟩ : ∃ final,
      userEdits.machine.run (.idle twoAdmins 0) oneDemotion = some final := ⟨_, rfl⟩
  have admin : twoAdmins.HasAdmin 7 := by decide
  exact ⟨final, reached, hasAdmin_of_countsLeaveAdmin admin reached (by decide +kernel)⟩

/-- Each of two admins demotes the other: both counts see two admins, and none is
left. -/
theorem mutualDemotion_removesLastAdmin :
    ∃ final, userEdits.machine.run (.idle twoAdmins 0)
        [.begin ⟨1, (2 : UUID).str, .updateUserRole .member⟩,
          .begin ⟨2, (1 : UUID).str, .updateUserRole .member⟩, .statement 0, .statement 1,
          .statement 0, .statement 1, .statement 0, .statement 1, .commit 0, .commit 1] =
        some final ∧
      twoAdmins.HasAdmin 7 ∧ ¬ final.database.HasAdmin 7 :=
  ⟨_, rfl, by decide, by decide +kernel⟩

end LlmObs.Backend
