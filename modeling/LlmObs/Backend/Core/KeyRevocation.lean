import LlmObs.Backend.Api.Projects
import LlmObs.Foundation.CacheCoherence

/-!
Owns authentications that run beside revocations and rotations: any number of
`get_project_from_api_key` runs, each a Redis `get`, a `SELECT` and a Redis `setex`,
and any number of `revoke_api_key` and `rotate_api_key` calls, each a commit and its
Redis deletions. It says when an authentication that starts after such a call has
returned does not accept the key that the call took out of use.
-/

namespace LlmObs.Backend

open LlmObs.Foundation

/-! ### Authentications beside edits -/

structure KeyQuery where
  keyHash : String
  requiredScope : ApiKeyScope
deriving DecidableEq

/-- The text that Redis holds, where its dict passes the scope check. -/
def findCachedKey (lookup : KeyLookup) (query : KeyQuery) :
    List String → Except AuthError (Option String)
  | [] => .ok none
  | cached :: _ =>
      match cachedEntries lookup (some cached) with
      | .error error => .error error
      | .ok none => .ok none
      | .ok (some entries) =>
          if apiKeyAllows (scopeEntry entries) query.requiredScope then .ok (some cached)
          else .error apiKeyScopeDenied

theorem mem_of_findCachedKey {lookup : KeyLookup} {query : KeyQuery} {values : List String}
    {value : String} (found : findCachedKey lookup query values = .ok (some value)) :
    value ∈ values := by
  cases values with
  | nil => cases found
  | cons cached rest =>
      simp only [findCachedKey] at found
      split at found
      · cases found
      · cases found
      · split at found
        · cases found
          exact List.mem_cons_self ..
        · cases found

/-- `get_project_from_api_key` of any number of requests, and the two edits. -/
def cachedKeys (lookup : KeyLookup) :
    CacheAside KeyTables KeyQuery KeyRequest String KeyRow String AuthError where
  key query := apiKeyCacheKey query.keyHash
  select tables query := selectKeyRow lookup tables query.keyHash
  find := findCachedKey lookup
  find_mem _ _ _ found := mem_of_findCachedKey found
  admits query row := apiKeyAllows (some row.scope.text) query.requiredScope
  encode row := lookup.dumps row.json
  commit tables request :=
    match request.answer tables with
    | (.ok keyHash, next) =>
        (next, some (.delete (apiKeyCacheKey keyHash)
          (request.call.drawn?.toList.map apiKeyCacheKey)))
    | (.error _, next) => (next, none)
  keeps := false

abbrev KeyState := CacheAside.State KeyTables KeyQuery String KeyRow String

abbrev KeyAction := CacheAside.Action KeyQuery KeyRequest String

/-- An authentication that starts after an edit has returned does not accept the key
that the edit took out of use. -/
def StaysOut (state : KeyState) (authentication edit : Nat) : Prop :=
  ∀ client ∈ state.clients authentication, ∀ writer ∈ state.writers edit,
    client.after edit = true → ∀ answer ∈ client.phase.used?,
      apiKeyCacheKey answer.1.keyHash ≠ writer.invalidation.stale

instance (state : KeyState) (authentication edit : Nat) :
    Decidable (StaysOut state authentication edit) :=
  inferInstanceAs (Decidable (∀ _ ∈ _, ∀ _ ∈ _, _ → ∀ _ ∈ _, _))

/-- The token of a rotation is new: its hash is the hash of no key, and of none that
was taken out of use. -/
def DrawsNew (state : KeyState) : KeyAction → Prop
  | .commit _ request =>
      ∀ hash ∈ request.call.drawn?, state.store.Unused hash ∧
        ∀ number writer, state.writers number = some writer →
          writer.invalidation.stale ≠ apiKeyCacheKey hash
  | _ => True

/-- The action is no rotation. -/
def drawsNothing : KeyAction → Bool
  | .commit _ request => request.call.drawn?.isNone
  | _ => true

theorem drawsNew_of_drawsNothing {state : KeyState} {action : KeyAction}
    (nothing : drawsNothing action = true) : DrawsNew state action := by
  cases action with
  | commit number request =>
      intro hash drawn
      rw [drawsNothing, Option.isNone_iff_eq_none] at nothing
      rw [nothing] at drawn
      cases drawn
  | _ => trivial

/-! ### What was taken out of use stays so in the tables -/

/-- No tables committed since an edit have its hash in use. -/
structure RetiredSince (state : KeyState) : Prop where
  apart : state.store.HashesApart
  known : state.StoreKnown
  retired : ∀ number writer, state.writers number = some writer →
    ∃ keyHash, writer.invalidation.stale = apiKeyCacheKey keyHash ∧
      ∀ tables ∈ writer.since, tables.Retired keyHash

section

variable {lookup : KeyLookup} {state next : KeyState}

theorem apiKeyCacheKey_injective {left right : String}
    (same : apiKeyCacheKey left = apiKeyCacheKey right) : left = right := by
  have texts := congrArg String.toList same
  simp only [apiKeyCacheKey, String.toList_append] at texts
  exact String.toList_inj.mp (List.append_cancel_left texts)

theorem retiredSince_initial {tables : KeyTables} (apart : tables.HashesApart)
    (cache : String → Option String) : RetiredSince (.initial tables cache) where
  apart := apart
  known := by intro _ _ found; cases found
  retired := by intro _ _ found; cases found

/-- A commit that retires what was retired before. -/
theorem retiredSince_advance (sound : RetiredSince state) {tables : KeyTables}
    (apart : tables.HashesApart)
    (keeps : ∀ number writer keyHash, state.writers number = some writer →
      writer.invalidation.stale = apiKeyCacheKey keyHash → state.store.Retired keyHash →
        tables.Retired keyHash) : RetiredSince (state.advance tables) where
  apart := apart
  known := by
    intro number writer found
    obtain ⟨before, _, rfl⟩ := Option.map_eq_some_iff.mp found
    exact List.mem_append_right _ (List.mem_singleton_self _)
  retired := by
    intro number writer found
    obtain ⟨before, foundBefore, rfl⟩ := Option.map_eq_some_iff.mp found
    obtain ⟨keyHash, stale, retired⟩ := sound.retired number before foundBefore
    refine ⟨keyHash, stale, fun since member => ?_⟩
    rcases List.mem_append.mp member with earlier | new
    · exact retired since earlier
    · rw [List.mem_singleton.mp new]
      exact keeps number before keyHash foundBefore stale
        (retired state.store (sound.known number before foundBefore))

/-- An edit that succeeds retires its hash in the tables that it commits. -/
theorem retiredSince_answer (sound : RetiredSince state) {number : Nat} {request : KeyRequest}
    (draws : DrawsNew state (.commit number request)) {tables : KeyTables} {keyHash : String}
    (answered : request.answer state.store = (.ok keyHash, tables)) :
    RetiredSince (state.advance tables) ∧ tables.Retired keyHash := by
  obtain ⟨apart, retired, others⟩ :=
    answer_retires sound.apart (fun hash drawn => (draws hash drawn).1) answered
  refine ⟨retiredSince_advance sound apart ?_, retired⟩
  intro other writer otherHash found stale before
  apply others otherHash before
  intro drawn
  exact (draws otherHash drawn).2 other writer found stale

theorem retiredSince_step (sound : RetiredSince state) {action : KeyAction}
    (draws : DrawsNew state action)
    (stepped : CacheAside.step (cachedKeys lookup) state action = some next) :
    RetiredSince next := by
  have known := CacheAside.storeKnown_step sound.known stepped
  cases CacheAside.stateStep_of_some _ stepped with
  | opened unused => exact ⟨sound.apart, known, sound.retired⟩
  | client found clientStepped => exact ⟨sound.apart, known, sound.retired⟩
  | unanswered unused commits =>
      simp only [cachedKeys] at commits
      split at commits
      · cases commits
      · rename_i answered
        cases commits
        rw [answer_error answered]
        exact retiredSince_advance sound sound.apart fun _ _ _ _ _ retired => retired
  | committed unused commits =>
      simp only [cachedKeys] at commits
      split at commits
      · rename_i keyHash _ answered
        cases commits
        obtain ⟨advanced, retired⟩ := retiredSince_answer sound draws answered
        refine ⟨advanced.apart, known, ?_⟩
        intro other writer found
        rcases CacheAside.put_eq_some.mp found with ⟨rfl, rfl⟩ | ⟨_, found⟩
        · refine ⟨keyHash, rfl, fun since member => ?_⟩
          rw [List.mem_singleton.mp member]
          exact retired
        · exact advanced.retired other writer found
      · cases commits
  | @writer number _ writer _ _ foundWriter writerStepped =>
      refine ⟨sound.apart, known, fun other found isFound => ?_⟩
      rcases CacheAside.put_eq_some.mp isFound with ⟨rfl, rfl⟩ | ⟨_, isFound⟩
      · exact sound.retired other writer foundWriter
      · exact sound.retired other found isFound
  | expired key => exact ⟨sound.apart, known, sound.retired⟩

/-- No value is current for a key that was taken out of use. -/
theorem RetiredSince.not_current (sound : RetiredSince state) {number : Nat}
    {writer : CacheAside.Writer KeyTables String} (found : state.writers number = some writer)
    (value : String) : ¬ (cachedKeys lookup).Current writer value := by
  rintro ⟨tables, since, query, row, key, selected, _⟩
  obtain ⟨keyHash, stale, retired⟩ := sound.retired number writer found
  have same : query.keyHash = keyHash := apiKeyCacheKey_injective (key.trans stale)
  change selectKeyRow lookup tables query.keyHash = some row at selected
  rw [same, selectKeyRow_of_retired (retired tables since) lookup] at selected
  cases selected

end

/-- Where no project and key share a hash: in a run in which no authentication
writes a key back to Redis behind the deletion of an edit that took it out of use,
and every rotation draws a new token, no authentication that starts after an edit
has returned accepts the key that the edit took out of use. -/
theorem staysOut_of_storesCurrent (lookup : KeyLookup) (tables : KeyTables)
    (cache : String → Option String) (actions : List KeyAction) (state : KeyState)
    (apart : tables.HashesApart)
    (along : (CacheAside.machine (cachedKeys lookup)).Along
      (fun state action => CacheAside.StoresCurrent (cachedKeys lookup) state action ∧
        DrawsNew state action) (.initial tables cache) actions)
    (reached : (CacheAside.machine (cachedKeys lookup)).run (.initial tables cache) actions =
      some state) (authentication edit : Nat) :
    StaysOut state authentication edit := by
  have sound : RetiredSince state := by
    apply Machine.run_invariant _ RetiredSince _ (retiredSince_initial apart cache) along reached
    intro state action next sound meets stepped
    exact retiredSince_step sound meets.2 stepped
  have current : (CacheAside.machine (cachedKeys lookup)).Along
      (CacheAside.StoresCurrent (cachedKeys lookup)) (.initial tables cache) actions := by
    apply Machine.Along.mono (fun _ _ _ _ _ => trivial) _ trivial along
    intro state action _ meets
    exact meets.1
  rintro client opened writer committed after ⟨query, value⟩ used same
  have phase : client.phase = .used query value := CacheAside.ClientPhase.eq_used_of_used? used
  exact sound.not_current committed value
    (CacheAside.current_of_run current reached opened phase after committed same)

/-! ### Two orders of the same steps -/

/-- The only row that `tablesWithKey` selects. -/
def ingestKeyRow : KeyRow := ⟨1, 1, "Demo", .ingest, some 2, false⟩

def ingestQuery : KeyQuery := ⟨"deadbeef", .ingest⟩

/-- An admin revokes the key. -/
def revokeKey : List KeyAction :=
  [.commit 0 ⟨⟨1, "admin"⟩, .revokeApiKey 1 2 0⟩, .writer 0 .delete, .writer 0 .respond]

def beginIngest (authentication : Nat) : List KeyAction :=
  [.openClient authentication, .client authentication (.begin ingestQuery),
    .client authentication .get]

/-- An authentication before a revocation, and one after it. -/
def revokeBetween : List KeyAction :=
  beginIngest 0 ++ [.client 0 .select, .client 0 (.setex true)] ++ revokeKey ++ beginIngest 1 ++
    [.client 1 .select]

theorem staysOut_of_storesCurrent_between :
    ∃ state, (CacheAside.machine (cachedKeys (loadsOnly [ingestKeyRow.json]))).run
        (.initial (tablesWithKey "deadbeef" .ingest) fun _ => none) revokeBetween = some state ∧
      StaysOut state 1 0 := by
  have runs : ((CacheAside.machine (cachedKeys (loadsOnly [ingestKeyRow.json]))).run
      (.initial (tablesWithKey "deadbeef" .ingest) fun _ => none) revokeBetween).isSome =
        true := by
    decide +kernel
  obtain ⟨state, reached⟩ := Option.isSome_iff_exists.mp runs
  have current : (CacheAside.machine (cachedKeys (loadsOnly [ingestKeyRow.json]))).Along
      (CacheAside.StoresCurrent (cachedKeys (loadsOnly [ingestKeyRow.json])))
      (.initial (tablesWithKey "deadbeef" .ingest) fun _ => none) revokeBetween :=
    CacheAside.along_storesCurrent_of_selected (by decide +kernel)
  have draws : (CacheAside.machine (cachedKeys (loadsOnly [ingestKeyRow.json]))).Along DrawsNew
      (.initial (tablesWithKey "deadbeef" .ingest) fun _ => none) revokeBetween := by
    apply Machine.along_of_forall
    intro action member state
    exact drawsNew_of_drawsNothing (List.all_eq_true.mp (by decide) action member)
  exact ⟨state, reached, staysOut_of_storesCurrent (loadsOnly [ingestKeyRow.json])
    (tablesWithKey "deadbeef" .ingest) (fun _ => none) revokeBetween state (by decide +kernel)
    (current.and draws) reached 1 0⟩

/-- The key is revoked between the `SELECT` of an authentication and its `setex`. -/
def revokeInside : List KeyAction :=
  beginIngest 0 ++ [.client 0 .select] ++ revokeKey ++ [.client 0 (.setex true)] ++ beginIngest 1

/-- An authentication that starts after the revocation has returned accepts the
revoked key from Redis. -/
theorem revokeInside_accepts :
    ∃ state, (CacheAside.machine (cachedKeys (loadsOnly [ingestKeyRow.json]))).run
        (.initial (tablesWithKey "deadbeef" .ingest) fun _ => none) revokeInside = some state ∧
      ¬ StaysOut state 1 0 := by
  have accepted : ∃ state ∈ (CacheAside.machine (cachedKeys (loadsOnly [ingestKeyRow.json]))).run
      (.initial (tablesWithKey "deadbeef" .ingest) fun _ => none) revokeInside,
        ¬ StaysOut state 1 0 := by
    decide +kernel
  exact accepted

end LlmObs.Backend
