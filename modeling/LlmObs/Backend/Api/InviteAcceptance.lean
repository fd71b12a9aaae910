import LlmObs.Backend.Api.Invites
import LlmObs.Foundation.Machine

/-!
Owns what any number of interleaved `accept_invite` transactions do to the invites:
each yields one user at most, to a request that read its clock before the expiry, and
requests that fail leave no trace.
-/

namespace LlmObs.Backend

open LlmObs.Foundation

abbrev InviteSessions := Sessions AccountDatabase Acceptance AccountsError

/-- An invite that a request may accept. -/
structure InviteRow.Acceptable (invite : InviteRow) (acceptance : Acceptance) : Prop where
  token : invite.tokenHash = hashInviteToken acceptance.call.token
  unaccepted : invite.acceptedAt = none
  unexpired : acceptance.now < invite.expiresAt

/-- The invite that the transaction has locked is the committed row. -/
def InviteHeld (db : AccountDatabase) (acceptance : Acceptance) : Prop :=
  ∀ invite ∈ acceptance.invite?, invite ∈ db.invites.rows ∧ invite.Acceptable acceptance

/-- What holds of the committed acceptances, in their order. -/
structure AcceptedSoFar (initial db : AccountDatabase) (history : List (Acceptance × Int)) :
    Prop where
  acceptable : ∀ entry ∈ history, ∃ invite ∈ initial.invites.rows,
    entry.1.invite? = some invite ∧ invite.Acceptable entry.1
  single : (history.map fun entry => entry.1.invite?.map InviteRow.id).Nodup
  users : db.users.rows = initial.users.rows ++
    history.filterMap fun entry => entry.1.invite?.map entry.1.call.user
  replays : (history.map Prod.fst).foldlM commitAcceptance initial = some db
  unaccepted : ∀ row ∈ db.invites.rows, row.acceptedAt = none → row ∈ initial.invites.rows
  consumed : ∀ entry ∈ history, ∀ invite ∈ entry.1.invite?, ∀ row ∈ db.invites.rows,
    row.id = invite.id → row.acceptedAt ≠ none

theorem acceptedSoFar_nil (db : AccountDatabase) : AcceptedSoFar db db [] where
  acceptable _ member := by cases member
  single := List.nodup_nil
  users := (List.append_nil _).symm
  replays := rfl
  unaccepted _ stored _ := stored
  consumed _ member := by cases member

/-! ### One acceptance -/

/-- A statement keeps the call and the invite, unless it selects the invite. -/
theorem invite?_of_move {db : AccountDatabase} {held : AccountLock → Bool}
    {acceptance moved : Acceptance} (same : moved = acceptance.at moved.stage)
    (move : AcceptMove db held acceptance moved.stage) :
    moved.invite? = acceptance.invite? ∨ ∃ invite ∈ db.invites.rows,
      moved.invite? = some invite ∧ invite.Acceptable moved ∧ moved.members = [] ∧
        moved.hasUser = false ∧ held (.invite invite.id) = false := by
  cases move with
  | selected invite before stored token unaccepted free unexpired reached =>
      right
      rw [same, reached]
      exact ⟨invite, stored, rfl, ⟨token, unaccepted, unexpired⟩, rfl, rfl, free⟩
  | checked invite before reached | inserted invite before _ reached
  | consumed invite _ before reached | chosen invite _ before reached =>
      left
      rw [same, reached, Acceptance.invite?, Acceptance.invite?, before]
      rfl
  | read invite _ before _ reached | upserted invite _ _ _ _ before _ _ _ reached =>
      left
      rw [same, reached, invite?_afterUpserts, Acceptance.invite?, before]

/-- A transaction takes the lock of its invite, the entries of its user and those of
its memberships while they are free. -/
theorem locks_of_move {db : AccountDatabase} {held : AccountLock → Bool}
    {acceptance moved : Acceptance} (same : moved = acceptance.at moved.stage)
    (move : AcceptMove db held acceptance moved.stage) {lock : AccountLock}
    (locked : lock ∈ moved.locks) : lock ∈ acceptance.locks ∨ held lock = false := by
  cases move with
  | selected invite before stored token unaccepted free unexpired reached =>
      rw [same, reached] at locked
      have isInvite : lock = .invite invite.id := by
        simpa [Acceptance.locks, Acceptance.invite?, Acceptance.at, Acceptance.hasUser,
          Acceptance.members] using locked
      exact Or.inr (isInvite ▸ free)
  | checked invite before reached | consumed invite _ before reached
  | chosen invite _ before reached =>
      left
      rw [same, reached] at locked
      simpa [Acceptance.locks, Acceptance.invite?, Acceptance.at, Acceptance.hasUser,
        Acceptance.members, before] using locked
  | inserted invite before free reached =>
      rw [same, reached] at locked
      have cases : lock = .invite invite.id ∨
          lock ∈ (acceptance.call.user invite).entries := by
        simpa [Acceptance.locks, Acceptance.invite?, Acceptance.at, Acceptance.hasUser,
          Acceptance.members] using locked
      rcases cases with rfl | entry
      · left
        simp [Acceptance.locks, Acceptance.invite?, before]
      · exact Or.inr (free lock entry)
  | read invite assignments before serialized reached =>
      left
      rw [same, reached, Acceptance.locks, invite?_afterUpserts, members_afterUpserts,
        hasUser_afterUpserts] at locked
      simpa [Acceptance.locks, Acceptance.invite?, Acceptance.hasUser, Acceptance.members,
        before] using locked
  | upserted invite members assignment remaining row before free ofUser ofProject reached =>
      rw [same, reached, Acceptance.locks, invite?_afterUpserts, members_afterUpserts,
        hasUser_afterUpserts, List.flatMap_append, ← List.append_assoc, List.mem_append] at locked
      rcases locked with old | new
      · left
        simpa [Acceptance.locks, Acceptance.invite?, Acceptance.hasUser, Acceptance.members,
          before] using old
      · right
        rw [List.flatMap_singleton] at new
        exact free lock new

/-- The row of another invite stays. -/
theorem InviteTable.mem_accept {invites : InviteTable} {row : InviteRow} {id : UUID} {now : Int}
    (stored : row ∈ invites.rows) (different : row.id ≠ id) :
    row ∈ (InviteTable.accept invites id now).rows :=
  List.mem_map.mpr ⟨row, stored, if_neg different⟩

/-- A row after the `UPDATE` is the accepted one or another row of before. -/
theorem InviteTable.of_mem_accept {invites : InviteTable} {row : InviteRow} {id : UUID}
    {now : Int} (stored : row ∈ (InviteTable.accept invites id now).rows) :
    row.id = id ∧ row.acceptedAt = some now ∨ row.id ≠ id ∧ row ∈ invites.rows := by
  obtain ⟨before, beforeStored, rfl⟩ := List.mem_map.mp stored
  by_cases accepted : before.id = id
  · rw [if_pos accepted]
    exact Or.inl ⟨accepted, rfl⟩
  · rw [if_neg accepted]
    exact Or.inr ⟨accepted, beforeStored⟩

/-- A commit adds its user and consumes its invite. -/
theorem AcceptedSoFar.committed {initial db next : AccountDatabase}
    {history : List (Acceptance × Int)} {acceptance : Acceptance} {time : Int}
    (sofar : AcceptedSoFar initial db history) (holds : InviteHeld db acceptance)
    (commits : commitAcceptance db acceptance = some next) :
    AcceptedSoFar initial next (history ++ [(acceptance, time)]) := by
  obtain ⟨invite, members, projectId, users, memberships, stage, inserted, -, rfl⟩ :=
    commit_acceptance commits
  have known : acceptance.invite? = some invite := by rw [Acceptance.invite?, stage]
  obtain ⟨stored, acceptable⟩ := holds invite known
  refine ⟨?_, ?_, ?_, ?_, ?_, ?_⟩
  · intro entry member
    rw [List.mem_append, List.mem_singleton] at member
    rcases member with old | rfl
    · exact sofar.acceptable entry old
    · exact ⟨invite, sofar.unaccepted invite stored acceptable.unaccepted, known, acceptable⟩
  · rw [List.map_append, List.map_singleton, ← List.concat_eq_append, List.nodup_concat]
    refine ⟨fun repeated => ?_, sofar.single⟩
    obtain ⟨entry, member, sameId⟩ := List.mem_map.mp repeated
    rw [known, Option.map_some, Option.map_eq_some_iff] at sameId
    obtain ⟨earlier, isEarlier, sameId⟩ := sameId
    exact sofar.consumed entry member earlier isEarlier invite stored sameId.symm
      acceptable.unaccepted
  · dsimp only
    rw [Table.insert?_rows inserted, sofar.users, List.filterMap_append, List.append_assoc,
      List.filterMap_cons, known]
    rfl
  · rw [List.map_append, List.foldlM_append, sofar.replays, List.map_singleton]
    simp [commits]
  · intro row rowStored open'
    rcases InviteTable.of_mem_accept rowStored with ⟨-, accepted⟩ | ⟨-, old⟩
    · rw [accepted] at open'
      cases open'
    · exact sofar.unaccepted row old open'
  · intro entry member other isOther row rowStored sameId
    rcases InviteTable.of_mem_accept rowStored with ⟨-, accepted⟩ | ⟨different, old⟩
    · rw [accepted]
      exact Option.some_ne_none _
    · rw [List.mem_append, List.mem_singleton] at member
      rcases member with earlier | rfl
      · exact sofar.consumed entry earlier other isOther row old sameId
      · rw [known, Option.mem_some_iff] at isOther
        exact absurd (sameId.trans (congrArg InviteRow.id isOther.symm)) different

theorem acceptInvite_preserves (initial : AccountDatabase) :
    acceptInvite.Preserves InviteHeld (AcceptedSoFar initial) where
  locks_start started := by
    cases started
    rfl
  locks_goes goes lock locked := by
    obtain ⟨same, move⟩ := acceptMove_of_goes goes
    exact locks_of_move same move locked
  valid_start started invite isInvite := by
    cases started
    cases isInvite
  valid_goes {db history held acceptance moved} _ holds goes invite isInvite := by
    obtain ⟨same, move⟩ := acceptMove_of_goes goes
    rcases invite?_of_move same move with kept | ⟨selected, stored, isSelected, acceptable, -⟩
    · rw [kept] at isInvite
      obtain ⟨stored, acceptable⟩ := holds invite isInvite
      rw [same]
      exact ⟨stored, acceptable.token, acceptable.unaccepted, acceptable.unexpired⟩
    · rw [isSelected, Option.mem_some_iff] at isInvite
      exact isInvite ▸ ⟨stored, acceptable⟩
  valid_commit {db next acceptance other} holds _ apart commits invite isInvite := by
    obtain ⟨accepted, members, projectId, users, memberships, stage, -, -, rfl⟩ :=
      commit_acceptance commits
    obtain ⟨stored, acceptable⟩ := holds invite isInvite
    refine ⟨InviteTable.mem_accept stored fun sameId => ?_, acceptable⟩
    refine apart (.invite invite.id) ?_ ?_
    · simp [acceptInvite, Acceptance.locks, Option.mem_def.mp isInvite]
    · simp [acceptInvite, Acceptance.locks, Acceptance.invite?, stage, sameId]
  global_commit sofar holds commits := sofar.committed holds commits

/-- Of any interleaving of `accept_invite` calls: whoever got a user presented the token
of an unaccepted invite and read the clock before its expiry, no two of them used the
same invite, the new users are theirs, and the tables are those that their commits
alone make. -/
theorem acceptsOnce_of_run {db : AccountDatabase} {now : Int}
    {actions : List (SessionAction AcceptCall)} {final : InviteSessions}
    (reached : acceptInvite.machine.run (.idle db now) actions = some final) :
    (∀ entry ∈ final.history, ∃ invite ∈ db.invites.rows, entry.1.invite? = some invite ∧
        invite.tokenHash = hashInviteToken entry.1.call.token ∧ invite.acceptedAt = none ∧
        entry.1.now < invite.expiresAt) ∧
      (final.history.map fun entry => entry.1.invite?.map InviteRow.id).Nodup ∧
      final.database.users.rows = db.users.rows ++
        (final.history.filterMap fun entry => entry.1.invite?.map entry.1.call.user) ∧
      (final.history.map Prod.fst).foldlM commitAcceptance db = some final.database := by
  have sofar := (TransactionSystem.kept_of_run (acceptInvite_preserves db)
    (TransactionSystem.kept_idle (acceptedSoFar_nil db) now) reached).global
  refine ⟨fun entry member => ?_, sofar.single, sofar.users, sofar.replays⟩
  obtain ⟨invite, stored, known, acceptable⟩ := sofar.acceptable entry member
  exact ⟨invite, stored, known, acceptable.token, acceptable.unaccepted, acceptable.unexpired⟩

def inviteToken : String := "0123456789abcdef0123456789abcdef"

/-- An invite of organization 7 that expires at 100. -/
def openInvite : InviteRow where
  id := 3
  orgId := 7
  email := "guest@example.com"
  role := .member
  tokenHash := hashInviteToken inviteToken
  expiresAt := 100
  acceptedAt := none
  createdByUserId := 1
  projectAssignments := .arr []

def oneInvite : AccountDatabase where
  organizations := Table.empty.insertOrSkip ⟨7, "seven", "seven-000001"⟩
  users := Table.empty
  projects := Table.empty
  invites := Table.empty.insertOrSkip openInvite
  memberships := Table.empty

def guest (userId : UUID) : AcceptCall where
  token := inviteToken
  userId := userId
  passwordHash := "hash"
  membershipId index := BitVec.ofNat 128 index

/-- The six statements of an acceptance without assignments, and its commit. -/
def acceptAlone (index : Nat) : List (SessionAction AcceptCall) :=
  List.replicate 6 (.statement index) ++ [.commit index]

/-- Two requests with the token: the second one finds the invite accepted. -/
theorem acceptsOnce_of_run_twice :
    ∃ final, acceptInvite.machine.run (.idle oneInvite 50)
        ([.begin (guest 11), .begin (guest 12)] ++ acceptAlone 0 ++ [.statement 1]) =
          some final ∧
      (final.history.map fun entry => entry.1.invite?.map InviteRow.id).Nodup := by
  obtain ⟨final, reached⟩ : ∃ final, acceptInvite.machine.run (.idle oneInvite 50)
      ([.begin (guest 11), .begin (guest 12)] ++ acceptAlone 0 ++ [.statement 1]) =
        some final := Option.isSome_iff_exists.mp (by decide +kernel)
  exact ⟨final, reached, (acceptsOnce_of_run reached).2.1⟩

/-- The clock is read before the transaction: one that starts at 50 commits at 110,
after the expiry. -/
theorem inviteAccepted_afterExpiry :
    (acceptInvite.machine.run (.idle oneInvite 50)
        ([.begin (guest 11), .elapse 60] ++ acceptAlone 0)).map
        (fun final => (final.history.map fun entry =>
            (entry.1.invite?.map InviteRow.expiresAt, entry.2),
          final.database.users.rows)) =
      some ([(some 100, 110)], [(guest 11).user openInvite]) := by
  decide +kernel

end LlmObs.Backend
