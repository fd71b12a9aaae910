import LlmObs.Backend.Core.Auth

/-!
Owns the edits that take a key out of use: `revoke_api_key` and `rotate_api_key`,
with the role they require and the errors that leave the tables as they are. It does
not own the Redis calls behind a commit, nor the other project endpoints.
-/

namespace LlmObs.Backend

open LlmObs.Foundation

/-- The entries of a user that the endpoints read. -/
structure CurrentUser where
  orgId : UUID
  role : String

inductive KeyCall where
  /-- `now()` of the statement is `now`. -/
  | revokeApiKey (projectId keyId : UUID) (now : Int)
  /-- `secrets.token_urlsafe(32)` returns `token`. -/
  | rotateApiKey (projectId : UUID) (token : String)

structure KeyRequest where
  user : CurrentUser
  call : KeyCall

/-- How a call that edits nothing ends. -/
inductive ProjectsError where
  | http (statusCode : Nat) (detail : String)
  | raised (exception : PyException)
deriving DecidableEq, Repr

def keyUniqueViolation : ProjectsError :=
  .raised ⟨.sqlAlchemyError, "duplicate key value violates unique constraint"⟩

/-- `ROLE_LEVELS` -/
def roleLevels : List (String × Int) := [("viewer", 0), ("member", 1), ("admin", 2)]

/-- `require_admin`: the level of the role is not below the one of `admin`. -/
def CurrentUser.isAdmin (user : CurrentUser) : Bool :=
  decide (2 ≤ (roleLevels.lookup user.role).getD (-1))

/-! ### Revocation -/

/-- The `WHERE` clause of `revoke_api_key`. -/
def ProjectApiKey.isRevoked (projects : List ProjectAccount) (orgId projectId keyId : UUID)
    (key : ProjectApiKey) : Bool :=
  decide (key.id = keyId) && projects.any fun project =>
    decide (project.id = projectId) && decide (project.orgId = orgId) &&
      decide (key.projectId = project.id)

/-- The `SET` clause of `revoke_api_key`. -/
def ProjectApiKey.revoke (now : Int) (key : ProjectApiKey) : ProjectApiKey :=
  { key with
    isActive := false
    revokedAt := some (key.revokedAt.getD now) }

theorem ProjectApiKey.clash_revoke {selected : ProjectApiKey → Bool} {now : Int}
    {left right : ProjectApiKey} :
    (if selected left then left.revoke now else left).Clash
        (if selected right then right.revoke now else right) ↔ left.Clash right := by
  split <;> split <;> rfl

/-- `revoke_api_key`: the hash of the key that is revoked, and the tables afterwards. -/
def revokeApiKey (user : CurrentUser) (projectId keyId : UUID) (now : Int)
    (tables : KeyTables) : Except ProjectsError String × KeyTables :=
  if user.isAdmin then
    match tables.keys.rows.find?
        (·.isRevoked tables.projects.rows user.orgId projectId keyId) with
    | none => (.error (.http 404 "API key not found"), tables)
    | some key =>
        (.ok key.keyHash,
          { tables with
            keys := tables.keys.mapRows
              (fun key =>
                if key.isRevoked tables.projects.rows user.orgId projectId keyId then
                  key.revoke now
                else key)
              fun _ _ clash => ProjectApiKey.clash_revoke.mp clash })
  else (.error (.http 403 "Admin role required"), tables)

/-! ### Rotation -/

/-- The `WHERE` clause of both statements of `rotate_api_key`. -/
def ProjectAccount.isRotated (orgId projectId : UUID) (project : ProjectAccount) : Bool :=
  decide (project.id = projectId) && decide (project.orgId = orgId)

/-- `new_hash` -/
def newApiKeyHash (token : String) : String := apiKeyHash ("llmobs_" ++ token)

/-- `rotate_api_key`: the hash of the key that is replaced, and the tables
afterwards. -/
def rotateApiKey (user : CurrentUser) (projectId : UUID) (token : String)
    (tables : KeyTables) : Except ProjectsError String × KeyTables :=
  if user.isAdmin then
    match tables.projects.rows.find? (·.isRotated user.orgId projectId) with
    | none => (.error (.http 404 "Project not found"), tables)
    | some project =>
        match tables.projects.updateWhere? (·.isRotated user.orgId projectId)
            fun project => { project with apiKeyHash := newApiKeyHash token } with
        | none => (.error keyUniqueViolation, tables)
        | some projects => (.ok project.apiKeyHash, { tables with projects := projects })
  else (.error (.http 403 "Admin role required"), tables)

/-- What a request answers about the key it takes out of use, and the tables after
it. -/
def KeyRequest.answer (request : KeyRequest) (tables : KeyTables) :
    Except ProjectsError String × KeyTables :=
  match request.call with
  | .revokeApiKey projectId keyId now => revokeApiKey request.user projectId keyId now tables
  | .rotateApiKey projectId token => rotateApiKey request.user projectId token tables

/-! ### Retired hashes -/

/-- No key in use has the hash. -/
structure KeyTables.Retired (tables : KeyTables) (keyHash : String) : Prop where
  projects : ∀ project ∈ tables.projects.rows, project.apiKeyHash ≠ keyHash
  keys : ∀ key ∈ tables.keys.rows, key.keyHash = keyHash → key.isActive = false

/-- No project and no key, revoked or not, has the hash. -/
structure KeyTables.Unused (tables : KeyTables) (keyHash : String) : Prop where
  projects : ∀ project ∈ tables.projects.rows, project.apiKeyHash ≠ keyHash
  keys : ∀ key ∈ tables.keys.rows, key.keyHash ≠ keyHash

/-- No project and key share a hash. -/
def KeyTables.HashesApart (tables : KeyTables) : Prop :=
  ∀ project ∈ tables.projects.rows, ∀ key ∈ tables.keys.rows,
    project.apiKeyHash ≠ key.keyHash

instance (tables : KeyTables) : Decidable tables.HashesApart :=
  inferInstanceAs (Decidable (∀ _ ∈ _, ∀ _ ∈ _, _ ≠ _))

/-- The hash that a request draws. -/
def KeyCall.drawn? : KeyCall → Option String
  | .revokeApiKey _ _ _ => none
  | .rotateApiKey _ token => some (newApiKeyHash token)

/-- A retired hash selects no row. -/
theorem KeyTables.Retired.keyRows {tables : KeyTables} {keyHash : String}
    (retired : tables.Retired keyHash) : tables.keyRows keyHash = [] := by
  apply List.eq_nil_iff_forall_not_mem.mpr
  intro row member
  rcases List.mem_append.mp member with legacy | ofKey
  · obtain ⟨project, stored, selected⟩ := List.mem_filterMap.mp legacy
    unfold ProjectAccount.keyRow? at selected
    split at selected
    · rename_i meets
      exact retired.projects project stored meets.1
    · cases selected
  · obtain ⟨key, stored, joined⟩ := List.mem_flatMap.mp ofKey
    obtain ⟨project, _, selected⟩ := List.mem_filterMap.mp joined
    unfold ProjectApiKey.keyRow? at selected
    split at selected
    · rename_i meets
      have inactive := retired.keys key stored meets.1
      rw [meets.2.1] at inactive
      cases inactive
    · cases selected

theorem selectKeyRow_of_retired {tables : KeyTables} {keyHash : String}
    (retired : tables.Retired keyHash) (lookup : KeyLookup) :
    selectKeyRow lookup tables keyHash = none := by
  cases selected : selectKeyRow lookup tables keyHash with
  | none => rfl
  | some row =>
      have member := lookup.limitOne_mem _ _ selected
      rw [retired.keyRows] at member
      cases member

/-! ### What an edit does to the hashes -/

section

variable {tables next : KeyTables} {user : CurrentUser} {projectId keyId : UUID} {now : Int}
  {token keyHash : String}

/-- A revocation retires its hash and keeps every other one as it was. -/
theorem revokeApiKey_spec
    (answered : revokeApiKey user projectId keyId now tables = (.ok keyHash, next)) :
    next.projects = tables.projects ∧
      (∃ key ∈ tables.keys.rows, key.keyHash = keyHash) ∧
      (∀ key ∈ next.keys.rows, ∃ before ∈ tables.keys.rows, key.keyHash = before.keyHash ∧
        (before.isActive = false ∨ key.keyHash = keyHash → key.isActive = false)) := by
  unfold revokeApiKey at answered
  split at answered
  · split at answered
    · cases answered
    · rename_i key found
      cases answered
      have stored := List.mem_of_find?_eq_some found
      have selects := List.find?_some found
      refine ⟨rfl, ⟨key, stored, rfl⟩, ?_⟩
      intro after member
      obtain ⟨before, beforeStored, rfl⟩ := List.mem_map.mp member
      refine ⟨before, beforeStored, ?_, ?_⟩
      · split <;> rfl
      · split
        · intro _
          rfl
        · rename_i unselected
          rintro (inactive | same)
          · exact inactive
          · have sameKey : before = key :=
              Table.eq_of_clash (fun _ _ clash => clash.imp Eq.symm Eq.symm) beforeStored stored
                (Or.inr same)
            rw [sameKey] at unselected
            exact absurd selects unselected
  · cases answered

/-- A rotation gives one project the drawn hash, and its old hash to none. -/
theorem rotateApiKey_spec
    (answered : rotateApiKey user projectId token tables = (.ok keyHash, next)) :
    next.keys = tables.keys ∧
      (∃ project ∈ tables.projects.rows, project.apiKeyHash = keyHash) ∧
      (∀ project ∈ next.projects.rows, project.apiKeyHash = newApiKeyHash token ∨
        project ∈ tables.projects.rows ∧ project.apiKeyHash ≠ keyHash) := by
  unfold rotateApiKey at answered
  split at answered
  · split at answered
    · cases answered
    · rename_i project found
      split at answered
      · cases answered
      · rename_i projects updated
        cases answered
        have stored := List.mem_of_find?_eq_some found
        have selects := List.find?_some found
        refine ⟨rfl, ⟨project, stored, rfl⟩, ?_⟩
        intro after member
        rw [Table.updateWhere?_rows updated] at member
        obtain ⟨before, beforeStored, rfl⟩ := List.mem_map.mp member
        split
        · exact Or.inl rfl
        · rename_i unselected
          right
          refine ⟨beforeStored, fun same => ?_⟩
          have sameProject : before = project := by
            apply Table.eq_of_clash _ beforeStored stored (Or.inr (Or.inl same))
            exact fun _ _ clash => clash.imp Eq.symm (Or.imp Eq.symm (And.imp Eq.symm Eq.symm))
          rw [sameProject] at unselected
          exact absurd selects unselected
  · cases answered

theorem revokeApiKey_retires (apart : tables.HashesApart)
    (answered : revokeApiKey user projectId keyId now tables = (.ok keyHash, next)) :
    next.HashesApart ∧ next.Retired keyHash ∧
      ∀ other, tables.Retired other → next.Retired other := by
  obtain ⟨projects, ⟨revoked, revokedStored, revokedHash⟩, keys⟩ := revokeApiKey_spec answered
  refine ⟨?_, ⟨?_, ?_⟩, ?_⟩
  · intro project stored key member
    obtain ⟨before, beforeStored, same, _⟩ := keys key member
    rw [projects] at stored
    rw [same]
    exact apart project stored before beforeStored
  · intro project stored
    rw [projects] at stored
    rw [← revokedHash]
    exact apart project stored revoked revokedStored
  · intro key member same
    obtain ⟨_, _, _, inactive⟩ := keys key member
    exact inactive (Or.inr same)
  · intro other retired
    constructor
    · rw [projects]
      exact retired.projects
    · intro key member same
      obtain ⟨before, beforeStored, sameHash, inactive⟩ := keys key member
      exact inactive (Or.inl (retired.keys before beforeStored (sameHash.symm.trans same)))

theorem rotateApiKey_retires (apart : tables.HashesApart)
    (unused : tables.Unused (newApiKeyHash token))
    (answered : rotateApiKey user projectId token tables = (.ok keyHash, next)) :
    next.HashesApart ∧ next.Retired keyHash ∧
      ∀ other, tables.Retired other → other ≠ newApiKeyHash token → next.Retired other := by
  obtain ⟨keys, ⟨replaced, replacedStored, replacedHash⟩, projects⟩ := rotateApiKey_spec answered
  refine ⟨?_, ⟨?_, ?_⟩, ?_⟩
  · intro project member key stored
    rw [keys] at stored
    rcases projects project member with drawn | ⟨old, _⟩
    · rw [drawn]
      exact (unused.keys key stored).symm
    · exact apart project old key stored
  · intro project member
    rcases projects project member with drawn | ⟨_, different⟩
    · rw [drawn, ← replacedHash]
      exact (unused.projects replaced replacedStored).symm
    · exact different
  · intro key stored same
    rw [keys] at stored
    exact absurd (replacedHash.trans same.symm) (apart replaced replacedStored key stored)
  · intro other retired notDrawn
    constructor
    · intro project member
      rcases projects project member with drawn | ⟨old, _⟩
      · rw [drawn]
        exact notDrawn.symm
      · exact retired.projects project old
    · rw [keys]
      exact retired.keys

/-- An edit that succeeds retires its hash, and keeps every other retired hash but the
drawn one so. -/
theorem answer_retires {request : KeyRequest} (apart : tables.HashesApart)
    (fresh : ∀ hash ∈ request.call.drawn?, tables.Unused hash)
    (answered : request.answer tables = (.ok keyHash, next)) :
    next.HashesApart ∧ next.Retired keyHash ∧
      ∀ other, tables.Retired other → other ∉ request.call.drawn? → next.Retired other := by
  unfold KeyRequest.answer at answered
  split at answered
  · obtain ⟨nextApart, retired, others⟩ := revokeApiKey_retires apart answered
    exact ⟨nextApart, retired, fun other before _ => others other before⟩
  · rename_i projectId token call
    have unused := fresh (newApiKeyHash token) (by simp [call, KeyCall.drawn?])
    obtain ⟨nextApart, retired, others⟩ := rotateApiKey_retires apart unused answered
    refine ⟨nextApart, retired, fun other before notDrawn => others other before ?_⟩
    rintro rfl
    exact notDrawn (by simp [call, KeyCall.drawn?])

theorem answer_error {request : KeyRequest} {error : ProjectsError}
    (answered : request.answer tables = (.error error, next)) : next = tables := by
  unfold KeyRequest.answer at answered
  split at answered
  · unfold revokeApiKey at answered
    split at answered
    · split at answered <;> cases answered
      rfl
    · cases answered
      rfl
  · unfold rotateApiKey at answered
    split at answered
    · split at answered
      · cases answered
        rfl
      · split at answered <;> cases answered
        rfl
    · cases answered
      rfl

end

end LlmObs.Backend
