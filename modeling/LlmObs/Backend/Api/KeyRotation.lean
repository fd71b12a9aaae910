import LlmObs.Backend.Api.AdminStatements

/-!
Owns `rotate_api_key` with its Redis calls: the transaction, the client and the two
deletions behind the commit, each of which can fail, and when a rotation that does not
return its key leaves the stored hash as it was.
-/

namespace LlmObs.Backend

open LlmObs.Foundation

/-! ### The endpoint -/

/-- What `rotate_api_key` asks of Redis. -/
inductive RedisCall where
  | getRedis
  | deletePrevious
  | deleteNew
deriving DecidableEq, Repr

/-- Which statement of the transaction and which call of Redis fails. -/
structure RotationFaults where
  database : Nat → Option (Fault AccountsError)
  redis : RedisCall → Option PyException

/-- The tables, and the texts that Redis holds. -/
structure RotationState where
  db : AdminDatabase
  cache : String → Option String

def RotationState.delete (state : RotationState) (cacheKey : String) : RotationState :=
  { state with cache := fun key => if key = cacheKey then none else state.cache key }

/-- `get_redis` and the two deletions. -/
def deleteCachedKeys (redis : RedisCall → Option PyException) (previousHash newHash : String)
    (state : RotationState) : Except AccountsError Unit × RotationState :=
  match redis .getRedis with
  | some exception => (.error (.raised exception), state)
  | none =>
      match redis .deletePrevious with
      | some exception => (.error (.raised exception), state)
      | none =>
          let state := state.delete (apiKeyCacheKey previousHash)
          match redis .deleteNew with
          | some exception => (.error (.raised exception), state)
          | none => (.ok (), state.delete (apiKeyCacheKey newHash))

/-- A call of `rotate_api_key`, which draws `token`. -/
structure RotationRequest where
  subject : UUID
  projectId : String
  token : String

namespace RotationRequest

def newHash (request : RotationRequest) : String := newApiKeyHash request.token

/-- The transaction of the call, from its first statement. -/
def transaction (request : RotationRequest) (runtime : Runtime)
    (fault : Nat → Option (Fault AccountsError)) (db : AdminDatabase) :
    Except AccountsError String × ScriptState AdminDatabase AdminWrite :=
  (AdminScript.rotateApiKey request.subject request.projectId request.token).run
    (AdminWrite.apply runtime) fault (.begin db)

/-- `rotate_api_key`: the new key, and what is stored afterwards. -/
def serve (request : RotationRequest) (runtime : Runtime) (faults : RotationFaults)
    (state : RotationState) : Except AccountsError String × RotationState :=
  match request.transaction runtime faults.database state.db with
  | (.error error, session) => (.error error, { state with db := session.database })
  | (.ok previousHash, session) =>
      match deleteCachedKeys faults.redis previousHash request.newHash
          { state with db := session.database } with
      | (.error error, after) => (.error error, after)
      | (.ok (), after) => (.ok ("llmobs_" ++ request.token), after)

/-! ### The transaction -/

/-- The request passes every check, and the new hash is no other project's. -/
structure Admitted (request : RotationRequest) (db : AdminDatabase) (user : SignedInUser)
    (id : UUID) (project : ProjectAccount) (projects : Table ProjectAccount ProjectAccount.Clash) :
    Prop where
  admin : requireAdmin db.accounts.users request.subject = .ok user
  parsed : UUID.ofText? request.projectId = some id
  found : db.accounts.projects.rows.find? (·.isRotated user.orgId id) = some project
  updated : db.accounts.projects.updateWhere? (·.isRotated user.orgId id)
    (fun row => { row with apiKeyHash := request.newHash }) = some projects

/-- How the transaction ends. -/
inductive RotationEnd (request : RotationRequest) (fault : Nat → Option (Fault AccountsError))
    (db : AdminDatabase) :
    Except AccountsError String × ScriptState AdminDatabase AdminWrite → Prop
  | unchanged (error : AccountsError) (session : ScriptState AdminDatabase AdminWrite)
      (same : session.database = db)
      (cause : ∀ user id project projects, request.Admitted db user id project projects →
        (∀ index < 4, fault index = none) →
          ∃ failure, fault 4 = some failure ∧ failure.tookEffect = false) :
      RotationEnd request fault db (.error error, session)
  | replaced (user : SignedInUser) (id : UUID) (project : ProjectAccount)
      (projects : Table ProjectAccount ProjectAccount.Clash)
      (result : Except AccountsError String) (session : ScriptState AdminDatabase AdminWrite)
      (admitted : request.Admitted db user id project projects)
      (quiet : ∀ index < 4, fault index = none)
      (committed : fault 4 = none ∧ result = .ok project.apiKeyHash ∨
        ∃ failure, fault 4 = some failure ∧ failure.tookEffect = true ∧
          result = .error failure.error)
      (stored : session.database.accounts.projects = projects) :
      RotationEnd request fault db (result, session)

theorem isRotated_id {orgId id : UUID} {project : ProjectAccount}
    (selected : project.isRotated orgId id = true) : project.id = id := by
  simp only [ProjectAccount.isRotated, Bool.and_eq_true, decide_eq_true_eq] at selected
  exact selected.1

theorem rotationEnd (request : RotationRequest) (runtime : Runtime)
    (fault : Nat → Option (Fault AccountsError)) (db : AdminDatabase) :
    request.RotationEnd fault db (request.transaction runtime fault db) := by
  have stopped : ∀ index < 4, ∀ failure error session, fault index = some failure →
      session.database = db → request.RotationEnd fault db (.error error, session) := by
    intro index below failure error session failed same
    refine .unchanged error session same fun _ _ _ _ _ quiet => ?_
    rw [quiet index below] at failed
    cases failed
  have refused : ∀ error session, session.database = db →
      (∀ user id project projects, ¬request.Admitted db user id project projects) →
        request.RotationEnd fault db (.error error, session) := fun error session same never =>
    .unchanged error session same fun user id project projects admitted =>
      absurd admitted (never user id project projects)
  simp only [transaction, AdminScript.rotateApiKey, AdminScript.currentAdmin, AdminScript.logAudit,
    Script.run_bind, Script.run_query, Script.run_transaction, Script.run_writeFound,
    Script.run_write, Script.run_pure, ScriptState.statements_begin, ScriptState.view_begin]
  cases first : fault 0 with
  | some failure => exact stopped 0 (by decide) failure _ _ first rfl
  | none =>
  cases admin : requireAdmin db.accounts.users request.subject with
  | error error =>
      refine refused _ _ rfl fun user _ _ _ admitted => ?_
      rw [admitted.admin] at admin
      cases admin
  | ok user =>
  simp only [ScriptState.statements_answered, ScriptState.statements_begin, Nat.zero_add,
    ScriptState.view_answered, ScriptState.view_begin]
  cases second : fault 1 with
  | some failure => exact stopped 1 (by decide) failure _ _ second rfl
  | none =>
  cases parsed : UUID.ofText? request.projectId with
  | none =>
      simp only [parseUuid, parsed, error_bind]
      refine refused _ _ rfl fun _ _ _ _ admitted => ?_
      rw [admitted.parsed] at parsed
      cases parsed
  | some id =>
  simp only [parseUuid, parsed, ok_bind]
  cases found : db.accounts.projects.rows.find? (·.isRotated user.orgId id) with
  | none =>
      refine refused _ _ rfl fun otherUser otherId _ _ admitted => ?_
      have sameUser := Except.ok.inj (admitted.admin.symm.trans admin)
      have sameId := Option.some.inj (admitted.parsed.symm.trans parsed)
      rw [sameUser, sameId] at admitted
      rw [admitted.found] at found
      cases found
  | some project =>
  have sameId : project.id = id := isRotated_id (List.find?_some found)
  simp only [sameId, ScriptState.statements_answered, ScriptState.statements_begin, Nat.zero_add,
    ScriptState.view_answered, ScriptState.view_begin, Nat.reduceAdd, AdminWrite.apply_rotateKey]
  cases third : fault 2 with
  | some failure => exact stopped 2 (by decide) failure _ _ third rfl
  | none =>
  cases updated : db.accounts.projects.updateWhere? (·.isRotated user.orgId id)
      (fun row => { row with apiKeyHash := newApiKeyHash request.token }) with
  | none =>
      refine refused _ _ rfl fun otherUser otherId _ _ admitted => ?_
      have sameUser := Except.ok.inj (admitted.admin.symm.trans admin)
      have sameId := Option.some.inj (admitted.parsed.symm.trans parsed)
      rw [sameUser, sameId] at admitted
      have impossible := admitted.updated
      rw [newHash, updated] at impossible
      cases impossible
  | some projects =>
  have admitted : request.Admitted db user id project projects := ⟨admin, parsed, found, updated⟩
  have isFound : (db.accounts.projects.rows.any (·.isRotated user.orgId id)) = true :=
    List.any_eq_true.mpr ⟨project, List.mem_of_find?_eq_some found, List.find?_some found⟩
  have audits : ∀ (event : AuditEvent) (view : AdminDatabase),
      event.resourceId = some request.projectId →
        AdminWrite.apply runtime (.insertAudit event) view =
          .ok { view with auditLog := view.auditLog ++ [event] } :=
    fun event view resource => AdminWrite.apply_insertAudit resource parsed
  simp only [orViolation, Except.map, isFound, if_true, ScriptState.statements_answered,
    ScriptState.statements_wrote, ScriptState.statements_begin, Nat.reduceAdd, audits,
    ScriptState.view_answered, ScriptState.view_wrote]
  cases fourth : fault 3 with
  | some failure => exact stopped 3 (by decide) failure _ _ fourth rfl
  | none =>
  have quiet : ∀ index < 4, fault index = none := by
    intro index below
    interval_cases index <;> assumption
  simp only [ScriptState.statements_answered, ScriptState.statements_wrote,
    ScriptState.statements_begin, Nat.reduceAdd]
  cases last : fault 4 with
  | none => exact .replaced user id project projects _ _ admitted quiet (.inl ⟨last, rfl⟩) rfl
  | some failure =>
  cases effect : failure.tookEffect with
  | true =>
      exact .replaced user id project projects _ _ admitted quiet
        (.inr ⟨failure, last, effect, rfl⟩) (by simp [effect]; rfl)
  | false =>
      refine .unchanged _ _ (by simp [effect]) fun _ _ _ _ _ _ => ⟨failure, last, effect⟩

/-! ### Which hash is stored -/

/-- `api_key_hash` of a project. -/
def storedHash (db : AdminDatabase) (id : UUID) : Option String :=
  (db.accounts.projects.rows.find? (·.id = id)).map (·.apiKeyHash)

section

variable {request : RotationRequest} {db next : AdminDatabase} {user : SignedInUser} {id : UUID}
  {project : ProjectAccount} {projects : Table ProjectAccount ProjectAccount.Clash}

/-- The row that is selected is the one with the id. -/
theorem Admitted.find?_id (admitted : request.Admitted db user id project projects) :
    db.accounts.projects.rows.find? (·.id = id) = some project := by
  have stored := List.mem_of_find?_eq_some admitted.found
  have sameId := isRotated_id (List.find?_some admitted.found)
  cases first : db.accounts.projects.rows.find? (·.id = id) with
  | none =>
      have other := List.find?_eq_none.mp first project stored
      simp [sameId] at other
  | some row =>
      have rowId : row.id = id := by simpa using List.find?_some first
      rw [Table.eq_of_clash
        (fun _ _ clash => clash.imp Eq.symm (Or.imp Eq.symm (And.imp Eq.symm Eq.symm)))
        (List.mem_of_find?_eq_some first) stored (Or.inl (rowId.trans sameId.symm))]

theorem Admitted.storedHash_before (admitted : request.Admitted db user id project projects) :
    storedHash db id = some project.apiKeyHash := by
  rw [storedHash, admitted.find?_id, Option.map_some]

theorem Admitted.replaces_iff (admitted : request.Admitted db user id project projects) :
    (∃ otherUser otherId other otherProjects,
        request.Admitted db otherUser otherId other otherProjects ∧
          other.apiKeyHash ≠ request.newHash) ↔
      project.apiKeyHash ≠ request.newHash := by
  constructor
  · rintro ⟨otherUser, otherId, other, otherProjects, otherAdmitted, different⟩
    have sameUser := Except.ok.inj (otherAdmitted.admin.symm.trans admitted.admin)
    have sameId := Option.some.inj (otherAdmitted.parsed.symm.trans admitted.parsed)
    rw [sameUser, sameId] at otherAdmitted
    rwa [Option.some.inj (otherAdmitted.found.symm.trans admitted.found)] at different
  · exact fun different => ⟨user, id, project, projects, admitted, different⟩

/-- The update gives the project the new hash. -/
theorem Admitted.storedHash_after (admitted : request.Admitted db user id project projects)
    (stored : next.accounts.projects = projects) :
    storedHash next id = some request.newHash := by
  have selected := List.find?_some admitted.found
  have rows := Table.updateWhere?_rows admitted.updated
  have sameIds : ∀ row : ProjectAccount,
      (if row.isRotated user.orgId id then { row with apiKeyHash := request.newHash }
        else row).id = row.id := by
    intro row
    split <;> rfl
  rw [storedHash, stored, rows, List.find?_map]
  simp only [Function.comp_def, sameIds, admitted.find?_id, Option.map_some, selected, if_true]

end

/-! ### When the project keeps its key -/

/-- A call that does not return the new key leaves the stored hash of the project. -/
def KeepsKey (request : RotationRequest) (runtime : Runtime) (faults : RotationFaults)
    (state : RotationState) : Prop :=
  (∀ key, (request.serve runtime faults state).1 ≠ .ok key) →
    ∀ id, UUID.ofText? request.projectId = some id →
      storedHash (request.serve runtime faults state).2.db id = storedHash state.db id

/-- The request is admitted, and its hash is not the stored one. -/
def Replaces (request : RotationRequest) (db : AdminDatabase) : Prop :=
  ∃ user id project projects, request.Admitted db user id project projects ∧
    project.apiKeyHash ≠ request.newHash

end RotationRequest

/-- Something fails when the commit has taken effect, and nothing before. -/
def RotationFaults.AfterCommit (faults : RotationFaults) : Prop :=
  (∀ index < 4, faults.database index = none) ∧
    ((∃ failure, faults.database 4 = some failure ∧ failure.tookEffect = true) ∨
      faults.database 4 = none ∧ ∃ call, faults.redis call ≠ none)

theorem deleteCachedKeys_db (redis : RedisCall → Option PyException)
    (previousHash newHash : String) (state : RotationState) :
    (deleteCachedKeys redis previousHash newHash state).2.db = state.db := by
  unfold deleteCachedKeys
  split
  · rfl
  · split
    · rfl
    · split <;> rfl

theorem deleteCachedKeys_ok (redis : RedisCall → Option PyException)
    (previousHash newHash : String) (state : RotationState) :
    (deleteCachedKeys redis previousHash newHash state).1 = .ok () ↔
      ∀ call, redis call = none := by
  unfold deleteCachedKeys
  constructor
  · intro deleted call
    split at deleted
    · cases deleted
    · rename_i connected
      split at deleted
      · cases deleted
      · rename_i previous
        split at deleted
        · cases deleted
        · rename_i new
          cases call <;> assumption
  · intro answers
    simp only [answers]

namespace RotationRequest

section

variable {request : RotationRequest} {runtime : Runtime} {faults : RotationFaults}
  {state : RotationState}

theorem serve_of_error {error : AccountsError} {session : ScriptState AdminDatabase AdminWrite}
    (ended : request.transaction runtime faults.database state.db = (.error error, session)) :
    request.serve runtime faults state = (.error error, { state with db := session.database }) := by
  rw [serve, ended]

/-- Behind a commit, the tables stay, and the key is returned when Redis answers. -/
theorem serve_of_ok {previousHash : String} {session : ScriptState AdminDatabase AdminWrite}
    (ended : request.transaction runtime faults.database state.db = (.ok previousHash, session)) :
    (request.serve runtime faults state).2.db = session.database ∧
      ((∃ key, (request.serve runtime faults state).1 = .ok key) ↔
        ∀ call, faults.redis call = none) := by
  have kept := deleteCachedKeys_db faults.redis previousHash request.newHash
    { state with db := session.database }
  have deleted := deleteCachedKeys_ok faults.redis previousHash request.newHash
    { state with db := session.database }
  rw [serve, ended]
  dsimp only
  split
  · rename_i error after deletes
    rw [deletes] at kept deleted
    refine ⟨kept, ?_⟩
    rw [← deleted]
    simp
  · rename_i after deletes
    rw [deletes] at kept deleted
    refine ⟨kept, ?_⟩
    rw [← deleted]
    simp

/-- After an update that took effect, the new hash is stored, and the key is returned
unless something fails behind the commit. -/
theorem serve_replaced {user : SignedInUser} {id : UUID} {project : ProjectAccount}
    {projects : Table ProjectAccount ProjectAccount.Clash}
    {result : Except AccountsError String} {session : ScriptState AdminDatabase AdminWrite}
    (admitted : request.Admitted state.db user id project projects)
    (quiet : ∀ index < 4, faults.database index = none)
    (committed : faults.database 4 = none ∧ result = .ok project.apiKeyHash ∨
      ∃ failure, faults.database 4 = some failure ∧ failure.tookEffect = true ∧
        result = .error failure.error)
    (stored : session.database.accounts.projects = projects)
    (ended : request.transaction runtime faults.database state.db = (result, session)) :
    storedHash (request.serve runtime faults state).2.db id = some request.newHash ∧
      ((∃ key, (request.serve runtime faults state).1 = .ok key) ↔ ¬faults.AfterCommit) := by
  have after := admitted.storedHash_after stored
  rw [RotationFaults.AfterCommit, and_iff_right quiet]
  rcases committed with ⟨last, rfl⟩ | ⟨failure, last, effect, rfl⟩
  · obtain ⟨kept, returned⟩ := serve_of_ok ended
    rw [kept, returned]
    exact ⟨after, by simp [last]⟩
  · rw [serve_of_error ended]
    exact ⟨after, by simp [last, effect]⟩

/-- A failure behind the commit leaves the project without the key that it had. -/
theorem not_keepsKey_of_afterCommit (replaces : request.Replaces state.db)
    (fails : faults.AfterCommit) : ¬request.KeepsKey runtime faults state := by
  have ended := request.rotationEnd runtime faults.database state.db
  generalize ending : request.transaction runtime faults.database state.db = outcome at ended
  cases ended with
  | unchanged error session same cause =>
      obtain ⟨user, id, project, projects, admitted, -⟩ := replaces
      obtain ⟨failure, last, noEffect⟩ := cause user id project projects admitted fails.1
      rcases fails.2 with ⟨other, sameLast, effect⟩ | ⟨none, -⟩
      · rw [last] at sameLast
        cases sameLast
        rw [noEffect] at effect
        cases effect
      · rw [last] at none
        cases none
  | replaced user id project projects result session admitted quiet committed stored =>
      obtain ⟨finalHash, returned⟩ := serve_replaced admitted quiet committed stored ending
      intro keeps
      have unreturned : ∀ key, (request.serve runtime faults state).1 ≠ .ok key :=
        fun key isReturned => returned.mp ⟨key, isReturned⟩ fails
      have kept := keeps unreturned id admitted.parsed
      rw [finalHash, admitted.storedHash_before] at kept
      exact admitted.replaces_iff.mp replaces (Option.some.inj kept).symm

end

/-- The project keeps its key unless the request replaces it and something fails when the
commit has taken effect. -/
theorem keepsKey_iff (request : RotationRequest) (runtime : Runtime) (faults : RotationFaults)
    (state : RotationState) :
    request.KeepsKey runtime faults state ↔
      ¬(request.Replaces state.db ∧ faults.AfterCommit) := by
  refine ⟨fun keeps both => not_keepsKey_of_afterCommit both.1 both.2 keeps, fun sound => ?_⟩
  intro unreturned other parsed
  have ended := request.rotationEnd runtime faults.database state.db
  generalize ending : request.transaction runtime faults.database state.db = outcome at ended
  cases ended with
  | unchanged error session same cause => rw [serve_of_error ending, same]
  | replaced user id project projects result session admitted quiet committed stored =>
      obtain ⟨finalHash, returned⟩ := serve_replaced admitted quiet committed stored ending
      rw [Option.some.inj (parsed.symm.trans admitted.parsed), finalHash,
        admitted.storedHash_before]
      by_contra different
      refine sound ⟨admitted.replaces_iff.mpr fun same => ?_, ?_⟩
      · exact different (congrArg some same.symm)
      · by_contra noFailure
        obtain ⟨key, isReturned⟩ := returned.mpr noFailure
        exact unreturned key isReturned

/-! ### A deletion that fails -/

/-- An admin and their project. -/
def oneProject : AdminDatabase where
  accounts := { AccountDatabase.empty with
    users := ⟨[⟨7, 3, "admin@example.com", "", .admin, true⟩], List.pairwise_singleton _ _⟩
    projects := ⟨[⟨5, 3, "Demo", "previous", true⟩], List.pairwise_singleton _ _⟩ }
  keys := Table.empty
  settings := Table.empty
  auditLog := []

def rotation : RotationRequest where
  subject := 7
  projectId := UUID.str 5
  token := ""

/-- Redis is gone at the first deletion. -/
def redisGone : RotationFaults where
  database _ := none
  redis call := if call = .deletePrevious then some ⟨.redisError, "Connection lost"⟩ else none

theorem rotation_replaces : rotation.Replaces oneProject := by
  refine ⟨⟨⟨3, "admin"⟩, 7⟩, 5, ⟨5, 3, "Demo", "previous", true⟩,
    ⟨[⟨5, 3, "Demo", rotation.newHash, true⟩], List.pairwise_singleton _ _⟩,
    ⟨rfl, UUID.ofText?_str 5, rfl, ?_⟩, fun same => ?_⟩
  · show Table.ofRows? [(⟨5, 3, "Demo", rotation.newHash, true⟩ : ProjectAccount)] = _
    exact dif_pos (List.pairwise_singleton _ _)
  · have lengths : "previous".length = rotation.newHash.length := congrArg String.length same
    rw [show rotation.newHash.length = 64 by simp [newHash, newApiKeyHash, apiKeyHash, hexdigest]]
      at lengths
    exact absurd lengths (by decide)

theorem not_keepsKey :
    ¬rotation.KeepsKey Runtime.inUtc redisGone ⟨oneProject, fun _ => none⟩ := by
  have fails : redisGone.AfterCommit :=
    ⟨fun _ _ => rfl, .inr ⟨rfl, .deletePrevious, by simp [redisGone]⟩⟩
  exact not_keepsKey_of_afterCommit rotation_replaces fails

end RotationRequest

end LlmObs.Backend
