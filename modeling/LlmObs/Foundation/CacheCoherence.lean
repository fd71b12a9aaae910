import LlmObs.Foundation.CacheAside

/-!
Owns what a client of a cached store may use after an edit. A value is current for a
writer when some store committed since its edit supplies it. The rule of this module
is that a client opened after a writer has responded uses current values only, as
long as no value that is not current is written to the cache behind the writer's
deletion, and no scan passes such a value under a key its pattern misses.
-/

namespace LlmObs.Foundation

namespace CacheAside

variable {Store Query Edit Key Row Value Failure : Type}

section

variable (cached : CacheAside Store Query Edit Key Row Value Failure)

/-! ### Current values -/

/-- Some query under the key gets the value from the store. -/
def Supplies (store : Store) (key : Key) (value : Value) : Prop :=
  ∃ query row, cached.key query = key ∧ cached.select store query = some row ∧
    cached.encode row = value

/-- A store committed since the edit of the writer supplies the value. -/
def Current (writer : Writer Store Key) (value : Value) : Prop :=
  ∃ store ∈ writer.since, cached.Supplies store writer.invalidation.stale value

/-- No further call of the writer takes out what is under its stale key now. -/
def Writer.Cleared (writer : Writer Store Key) : Prop :=
  match writer.phase with
  | .scanning passed found =>
      writer.invalidation.stale ∈ passed ∧ writer.invalidation.stale ∉ found
  | .deleting calls => ∀ keys ∈ calls, writer.invalidation.stale ∉ keys
  | .responded => True
  | .failed => False

/-- A client writes to the cache no value behind the deletion of a writer for which
the value is not current, and the pattern of a scan covers its stale key if such a
value is there when the scan passes. -/
def StoresCurrent (state : State Store Query Key Row Value) : Action Query Edit Key → Prop
  | .client number (.setex _) =>
      ∀ client query row, state.clients number = some client →
        client.phase = .storing query row →
        ∀ other writer, state.writers other = some writer →
          writer.invalidation.stale = cached.key query → writer.Cleared →
            cached.Current writer (cached.encode row)
  | .writer number (.pass key) =>
      ∀ writer, state.writers number = some writer → key = writer.invalidation.stale →
        writer.invalidation.pattern key = true ∨
          ∀ value, state.cache key = some value → cached.Current writer value
  | _ => True

/-- What a client holds for the stale key of a writer is current. -/
structure Client.Fresh (client : Client Query Key Row Value) (writer : Writer Store Key) :
    Prop where
  kept : ∀ value ∈ client.kept writer.invalidation.stale, cached.Current writer value
  storing : ∀ query row, client.phase = .storing query row →
    cached.key query = writer.invalidation.stale → cached.Current writer (cached.encode row)
  used : ∀ query value, client.phase = .used query value →
    cached.key query = writer.invalidation.stale → cached.Current writer value

structure Coherent (state : State Store Query Key Row Value) : Prop where
  store_mem : ∀ number writer, state.writers number = some writer → state.store ∈ writer.since
  cleared : ∀ number writer, state.writers number = some writer → writer.Cleared →
    ∀ value, state.cache writer.invalidation.stale = some value → cached.Current writer value
  responded : ∀ number client, state.clients number = some client →
    ∀ other, client.after other = true →
      ∃ writer, state.writers other = some writer ∧ writer.phase = .responded
  fresh : ∀ number client, state.clients number = some client →
    ∀ other writer, client.after other = true → state.writers other = some writer →
      Client.Fresh cached client writer

/-! ### Undisturbed clients -/

/-- What a client is about to write, and for which query. -/
def ClientPhase.storing? : ClientPhase Query Row Value → Option (Query × Row)
  | .storing query row => some (query, row)
  | _ => none

/-- What a client writes to the cache is still what the store answers, and the
pattern of a scan covers its stale key if anything is there when the scan passes. -/
def StoresSelected (state : State Store Query Key Row Value) : Action Query Edit Key → Prop
  | .client number (.setex _) =>
      ∀ client ∈ state.clients number, ∀ storing ∈ client.phase.storing?,
        cached.select state.store storing.1 = some storing.2
  | .writer number (.pass key) =>
      ∀ writer ∈ state.writers number, key = writer.invalidation.stale →
        writer.invalidation.pattern key = true ∨ (state.cache key).isNone = true
  | _ => True

/-- The current store is among those committed since any edit. -/
def State.StoreKnown (state : State Store Query Key Row Value) : Prop :=
  ∀ number writer, state.writers number = some writer → state.store ∈ writer.since

end

section

variable {cached : CacheAside Store Query Edit Key Row Value Failure} {store : Store}
  {cache nextCache : Key → Option Value} {client next : Client Query Key Row Value}
  {writer : Writer Store Key} {state : State Store Query Key Row Value}

theorem coherent_initial : Coherent cached (.initial store cache) where
  store_mem := by intro _ _ found; cases found
  cleared := by intro _ _ found; cases found
  responded := by intro _ _ found; cases found
  fresh := by intro _ _ found; cases found

theorem not_cleared_start {invalidation : Invalidation Key} {since : List Store} :
    ¬ Writer.Cleared ⟨invalidation, .start invalidation, since⟩ := by
  cases invalidation with
  | delete stale others =>
      intro cleared
      exact cleared [stale] (List.mem_cons_self ..) (List.mem_singleton_self _)
  | scan fixed pattern stale =>
      intro cleared
      cases cleared.1

/-- With more stores committed, more values are current. -/
theorem current_advance {value : Value} (current : cached.Current writer value)
    (store : Store) : cached.Current { writer with since := writer.since ++ [store] } value := by
  obtain ⟨supplier, member, supplies⟩ := current
  exact ⟨supplier, List.mem_append_left _ member, supplies⟩

/-- What the store still answers is current. -/
theorem storesCurrent_of_selected (known : state.StoreKnown) {action : Action Query Edit Key}
    (selected : StoresSelected cached state action) : StoresCurrent cached state action := by
  cases action with
  | client number action =>
      cases action with
      | setex answered =>
          intro client query row found phase other writer foundWriter same _
          have storing : client.phase.storing? = some (query, row) := by
            simp [ClientPhase.storing?, phase]
          have answered := selected client found (query, row) storing
          exact ⟨state.store, known other writer foundWriter, query, row, same.symm, answered, rfl⟩
      | _ => trivial
  | writer number action =>
      cases action with
      | pass key =>
          intro writer found same
          rcases selected writer found same with covers | absent
          · exact Or.inl covers
          · right
            intro value held
            rw [held] at absent
            cases absent
      | _ => trivial
  | _ => trivial

/-! ### A store, a writer or a client that is new -/

variable {number : Nat}

theorem coherent_advance (coherent : Coherent cached state) (store : Store) :
    Coherent cached (state.advance store) := by
  have back : ∀ other writer, (state.advance store).writers other = some writer →
      ∃ before, state.writers other = some before ∧
        writer = { before with since := before.since ++ [store] } := by
    intro other writer found
    obtain ⟨before, foundBefore, same⟩ := Option.map_eq_some_iff.mp found
    exact ⟨before, foundBefore, same.symm⟩
  constructor
  · intro other writer found
    obtain ⟨before, _, rfl⟩ := back other writer found
    exact List.mem_append_right _ (List.mem_singleton_self _)
  · intro other writer found cleared value held
    obtain ⟨before, foundBefore, rfl⟩ := back other writer found
    exact current_advance (coherent.cleared other before foundBefore cleared value held) store
  · intro number client found other after
    obtain ⟨writer, foundWriter, responded⟩ := coherent.responded number client found other after
    exact ⟨{ writer with since := writer.since ++ [store] },
      Option.map_eq_some_iff.mpr ⟨writer, foundWriter, rfl⟩, responded⟩
  · intro number client found other writer after foundWriter
    obtain ⟨before, foundBefore, rfl⟩ := back other writer foundWriter
    have fresh := coherent.fresh number client found other before after foundBefore
    exact ⟨fun value member => current_advance (fresh.kept value member) store,
      fun query row phase same => current_advance (fresh.storing query row phase same) store,
      fun query value phase same => current_advance (fresh.used query value phase same) store⟩

/-- A writer that has just committed has cleared nothing, and no client was opened
after it had responded. -/
theorem coherent_startWriter (coherent : Coherent cached state)
    (unused : state.writers number = none) (invalidation : Invalidation Key) :
    Coherent cached { state with
      writers := put state.writers number (some
        { invalidation := invalidation
          phase := .start invalidation
          since := [state.store] }) } := by
  have different : ∀ client opened, state.clients client = some opened →
      ∀ other, opened.after other = true → other ≠ number := by
    rintro client opened found other after rfl
    obtain ⟨writer, foundWriter, _⟩ := coherent.responded client opened found other after
    rw [unused] at foundWriter
    cases foundWriter
  constructor
  · intro other writer found
    rcases put_eq_some.mp found with ⟨rfl, rfl⟩ | ⟨_, found⟩
    · exact List.mem_singleton_self _
    · exact coherent.store_mem other writer found
  · intro other writer found cleared
    rcases put_eq_some.mp found with ⟨rfl, rfl⟩ | ⟨_, found⟩
    · exact absurd cleared not_cleared_start
    · exact coherent.cleared other writer found cleared
  · intro client opened found other after
    obtain ⟨writer, foundWriter, responded⟩ := coherent.responded client opened found other after
    exact ⟨writer, put_eq_some.mpr (Or.inr ⟨different client opened found other after,
      foundWriter⟩), responded⟩
  · intro client opened found other writer after foundWriter
    rcases put_eq_some.mp foundWriter with ⟨same, _⟩ | ⟨_, foundWriter⟩
    · exact absurd same (different client opened found other after)
    · exact coherent.fresh client opened found other writer after foundWriter

theorem coherent_openClient (coherent : Coherent cached state) :
    Coherent cached { state with
      clients := put state.clients number (some
        { kept := fun _ => []
          phase := .idle
          after := fun writer => ((state.writers writer).map (·.Responded)).getD false }) } := by
  constructor
  · exact coherent.store_mem
  · exact coherent.cleared
  · intro other client found writerNumber after
    rcases put_eq_some.mp found with ⟨rfl, rfl⟩ | ⟨_, found⟩
    · cases known : state.writers writerNumber with
      | none => simp [known] at after
      | some writer =>
          refine ⟨writer, rfl, ?_⟩
          simp only [known, Option.map_some, Option.getD_some, Writer.Responded] at after
          split at after
          · assumption
          · cases after
    · exact coherent.responded other client found writerNumber after
  · intro other client found writerNumber writer after foundWriter
    rcases put_eq_some.mp found with ⟨rfl, rfl⟩ | ⟨_, found⟩
    · constructor
      · intro _ member
        cases member
      · intro _ _ phase
        cases phase
      · intro _ _ phase
        cases phase
    · exact coherent.fresh other client found writerNumber writer after foundWriter

variable [DecidableEq Key]

/-! ### Client steps -/

@[simp] theorem kept_use {key : Key} {query : Query} {value : Value} :
    (client.use key query value).kept = put client.kept key (client.kept key ++ [value]) := rfl

theorem fresh_of_use (fresh : Client.Fresh cached client writer) {query : Query} {value : Value}
    (current : cached.key query = writer.invalidation.stale → cached.Current writer value) :
    Client.Fresh cached (client.use (cached.key query) query value) writer where
  kept := by
    intro found member
    by_cases same : writer.invalidation.stale = cached.key query
    · rw [kept_use, same, put_self, List.mem_append, List.mem_singleton] at member
      rcases member with old | rfl
      · exact fresh.kept found (same ▸ old)
      · exact current same.symm
    · rw [kept_use, put_of_ne _ _ same] at member
      exact fresh.kept found member
  storing := by intro other row phase; cases phase
  used := by
    intro other found phase same
    cases phase
    exact current same

/-- One step of a client, by what it may use and write next. -/
inductive ClientStep (cached : CacheAside Store Query Edit Key Row Value Failure) (store : Store)
    (cache : Key → Option Value) (client : Client Query Key Row Value) :
    ClientAction Query → Client Query Key Row Value → (Key → Option Value) → Prop where
  /-- Nothing to use or to write. -/
  | bare {action : ClientAction Query} {phase : ClientPhase Query Row Value}
      (notStoring : phase.storing? = none) (notUsed : phase.used? = none) :
      ClientStep cached store cache client action { client with phase := phase } cache
  | reused {query : Query} {value : Value}
      (found : cached.find query (client.kept (cached.key query)) = .ok (some value)) :
      ClientStep cached store cache client (.begin query)
        { client with phase := .used query value } cache
  | got {query : Query} {value : Value}
      (found : cached.find query (cache (cached.key query)).toList = .ok (some value)) :
      ClientStep cached store cache client .get (client.use (cached.key query) query value) cache
  | selected {query : Query} {row : Row} (answers : cached.select store query = some row) :
      ClientStep cached store cache client .select
        { client with phase := .storing query row } cache
  | stored {query : Query} {row : Row} (phase : client.phase = .storing query row)
      (answered : Bool) :
      ClientStep cached store cache client (.setex answered)
        (if answered then client.use (cached.key query) query (cached.encode row)
          else { client with phase := .failed })
        (put cache (cached.key query) (some (cached.encode row)))

theorem clientStep_of_some {action : ClientAction Query}
    (stepped : clientStep cached store cache client action = some (next, nextCache)) :
    ClientStep cached store cache client action next nextCache := by
  cases action with
  | begin query =>
      simp only [clientStep] at stepped
      split at stepped
      · split at stepped
        · cases stepped
          exact .bare rfl rfl
        · rename_i found
          cases stepped
          exact .reused found
        · cases stepped
          exact .bare rfl rfl
      · cases stepped
  | get =>
      simp only [clientStep] at stepped
      split at stepped
      · split at stepped
        · cases stepped
          exact .bare rfl rfl
        · rename_i found
          cases stepped
          exact .got found
        · cases stepped
          exact .bare rfl rfl
      · cases stepped
  | select =>
      simp only [clientStep] at stepped
      split at stepped
      · split at stepped
        · cases stepped
          exact .bare rfl rfl
        · rename_i answers
          split at stepped
          · cases stepped
            exact .selected answers
          · cases stepped
            exact .bare rfl rfl
      · cases stepped
  | setex answered =>
      simp only [clientStep] at stepped
      split at stepped
      · rename_i phase
        cases stepped
        exact .stored phase answered
      · cases stepped
  | abort =>
      cases stepped
      exact .bare rfl rfl

theorem fresh_clientStep {action : ClientAction Query}
    (fresh : Client.Fresh cached client writer) (store_mem : store ∈ writer.since)
    (cachedCurrent : ∀ value, cache writer.invalidation.stale = some value →
      cached.Current writer value)
    (stepped : clientStep cached store cache client action = some (next, nextCache)) :
    Client.Fresh cached next writer := by
  have failed : Client.Fresh cached { client with phase := .failed } writer :=
    ⟨fresh.kept, by simp, by simp⟩
  cases clientStep_of_some stepped with
  | bare notStoring notUsed =>
      refine ⟨fresh.kept, fun query row phase => ?_, fun query value phase => ?_⟩
      · cases phase
        cases notStoring
      · cases phase
        cases notUsed
  | reused found =>
      refine ⟨fresh.kept, by simp, fun query value phase same => ?_⟩
      cases phase
      exact fresh.kept _ (same ▸ cached.find_mem _ _ _ found)
  | got found =>
      apply fresh_of_use fresh
      intro same
      have held := Option.mem_toList.mp (cached.find_mem _ _ _ found)
      exact cachedCurrent _ (same ▸ held)
  | @selected query row answers =>
      refine ⟨fresh.kept, fun other found phase same => ?_, by simp⟩
      cases phase
      exact ⟨store, store_mem, query, row, same, answers, rfl⟩
  | stored phase answered =>
      cases answered with
      | true => exact fresh_of_use fresh fun same => fresh.storing _ _ phase same
      | false => exact failed

/-- Only `setex` writes to the cache, and no step changes who had responded. -/
theorem clientStep_cases {action : ClientAction Query}
    (stepped : clientStep cached store cache client action = some (next, nextCache)) :
    next.after = client.after ∧ (nextCache = cache ∨
      ∃ answered query row, action = .setex answered ∧ client.phase = .storing query row ∧
        nextCache = put cache (cached.key query) (some (cached.encode row))) := by
  cases clientStep_of_some stepped with
  | stored phase answered =>
      refine ⟨?_, Or.inr ⟨answered, _, _, rfl, phase, rfl⟩⟩
      split <;> rfl
  | _ => exact ⟨rfl, Or.inl rfl⟩

/-! ### Writer steps -/

/-- A writer step only takes entries out of the cache, and clears the stale key of
its writer when nothing that is not current is left under it. -/
theorem writerStep_cleared {action : WriterAction Key} {phase : WriterPhase Key}
    (stepped : writerStep cache writer action = some (phase, nextCache))
    (covers : ∀ key, action = .pass key → key = writer.invalidation.stale →
      writer.invalidation.pattern key = true ∨
        ∀ value, cache key = some value → cached.Current writer value)
    (cleared : writer.Cleared → ∀ value, cache writer.invalidation.stale = some value →
      cached.Current writer value)
    (after : Writer.Cleared { writer with phase := phase }) :
    ∀ value, nextCache writer.invalidation.stale = some value → cached.Current writer value := by
  cases action with
  | pass key =>
      simp only [writerStep] at stepped
      split at stepped
      · rename_i passed found scanning
        cases stepped
        obtain ⟨isPassed, notFound⟩ := after
        intro value held
        by_cases same : key = writer.invalidation.stale
        · rcases covers key rfl same with matches' | current
          · apply absurd _ notFound
            subst same
            simp [matches', held]
          · exact current value (same ▸ held)
        · apply cleared _ value held
          simp only [Writer.Cleared, scanning]
          constructor
          · exact (List.mem_cons.mp isPassed).resolve_left fun other => same other.symm
          · intro member
            apply notFound
            split
            · exact List.mem_cons_of_mem _ member
            · exact member
      · cases stepped
  | endScan =>
      simp only [writerStep] at stepped
      split at stepped
      · rename_i passed found scanning
        split at stepped
        · rename_i isPassed
          cases stepped
          apply cleared
          simp only [Writer.Cleared, scanning]
          exact ⟨isPassed, after found (List.mem_singleton_self _)⟩
        · cases stepped
      · cases stepped
  | delete =>
      simp only [writerStep] at stepped
      split at stepped
      · rename_i keys rest deleting
        cases stepped
        intro value held
        simp only at held
        split at held
        · cases held
        · rename_i notDeleted
          apply cleared _ value held
          simp only [Writer.Cleared, deleting]
          intro others member
          rcases List.mem_cons.mp member with rfl | later
          · exact notDeleted
          · exact after others later
      · cases stepped
  | respond =>
      simp only [writerStep] at stepped
      split at stepped
      · rename_i deleting
        cases stepped
        apply cleared
        simp [Writer.Cleared, deleting]
      · cases stepped
  | abandon =>
      simp only [writerStep] at stepped
      split at stepped
      · cases stepped
      · cases stepped
        exact after.elim

theorem writerStep_cache {action : WriterAction Key} {phase : WriterPhase Key}
    (stepped : writerStep cache writer action = some (phase, nextCache)) {key : Key}
    {value : Value} (held : nextCache key = some value) : cache key = some value := by
  cases action with
  | pass passed =>
      simp only [writerStep] at stepped
      split at stepped <;> cases stepped
      exact held
  | endScan =>
      simp only [writerStep] at stepped
      split at stepped
      · split at stepped <;> cases stepped
        exact held
      · cases stepped
  | delete =>
      simp only [writerStep] at stepped
      split at stepped <;> cases stepped
      simp only at held
      split at held
      · cases held
      · exact held
  | respond =>
      simp only [writerStep] at stepped
      split at stepped <;> cases stepped
      exact held
  | abandon =>
      simp only [writerStep] at stepped
      split at stepped <;> cases stepped
      exact held

/-- A writer that has responded takes no further step. -/
theorem writerStep_of_responded {action : WriterAction Key}
    (responded : writer.phase = .responded) : writerStep cache writer action = none := by
  cases action <;> simp [writerStep, responded, Writer.Responded]

/-! ### Every step keeps what clients and cache hold current -/

variable {nextState : State Store Query Key Row Value}

theorem coherent_client (coherent : Coherent cached state) {action : ClientAction Query}
    (meets : ∀ answered query row, action = .setex answered → client.phase = .storing query row →
      ∀ other writer, state.writers other = some writer →
        writer.invalidation.stale = cached.key query → writer.Cleared →
          cached.Current writer (cached.encode row))
    (found : state.clients number = some client)
    (stepped : clientStep cached state.store state.cache client action = some (next, nextCache)) :
    Coherent cached { state with
      clients := put state.clients number (some next)
      cache := nextCache } := by
  obtain ⟨sameAfter, caches⟩ := clientStep_cases stepped
  constructor
  · exact coherent.store_mem
  · intro other writer foundWriter cleared value held
    rcases caches with rfl | ⟨answered, query, row, isSetex, phase, rfl⟩
    · exact coherent.cleared other writer foundWriter cleared value held
    · rcases put_eq_some.mp held with ⟨same, rfl⟩ | ⟨_, held⟩
      · exact meets answered query row isSetex phase other writer foundWriter same cleared
      · exact coherent.cleared other writer foundWriter cleared value held
  · intro other opened foundOther writerNumber after
    rcases put_eq_some.mp foundOther with ⟨rfl, rfl⟩ | ⟨_, foundOther⟩
    · rw [sameAfter] at after
      exact coherent.responded other client found writerNumber after
    · exact coherent.responded other opened foundOther writerNumber after
  · intro other opened foundOther writerNumber writer after foundWriter
    rcases put_eq_some.mp foundOther with ⟨rfl, rfl⟩ | ⟨_, foundOther⟩
    · rw [sameAfter] at after
      obtain ⟨known, foundKnown, responded⟩ :=
        coherent.responded other client found writerNumber after
      have sameWriter : writer = known := Option.some.inj (foundWriter.symm.trans foundKnown)
      have cleared : writer.Cleared := by simp [Writer.Cleared, sameWriter, responded]
      exact fresh_clientStep
        (coherent.fresh other client found writerNumber writer after foundWriter)
        (coherent.store_mem writerNumber writer foundWriter)
        (coherent.cleared writerNumber writer foundWriter cleared) stepped
    · exact coherent.fresh other opened foundOther writerNumber writer after foundWriter

theorem coherent_writer (coherent : Coherent cached state) {action : WriterAction Key}
    {phase : WriterPhase Key}
    (meets : ∀ key, action = .pass key → key = writer.invalidation.stale →
      writer.invalidation.pattern key = true ∨
        ∀ value, state.cache key = some value → cached.Current writer value)
    (found : state.writers number = some writer)
    (stepped : writerStep state.cache writer action = some (phase, nextCache)) :
    Coherent cached { state with
      writers := put state.writers number (some { writer with phase := phase })
      cache := nextCache } := by
  have running : ∀ client opened, state.clients client = some opened →
      ∀ other, opened.after other = true → other ≠ number := by
    rintro client opened foundClient other after rfl
    obtain ⟨known, foundKnown, responded⟩ :=
      coherent.responded client opened foundClient other after
    have sameWriter : writer = known := Option.some.inj (found.symm.trans foundKnown)
    rw [writerStep_of_responded (sameWriter ▸ responded)] at stepped
    cases stepped
  constructor
  · intro other known foundKnown
    rcases put_eq_some.mp foundKnown with ⟨rfl, rfl⟩ | ⟨_, foundKnown⟩
    · exact coherent.store_mem other writer found
    · exact coherent.store_mem other known foundKnown
  · intro other known foundKnown cleared value held
    rcases put_eq_some.mp foundKnown with ⟨rfl, rfl⟩ | ⟨_, foundKnown⟩
    · exact writerStep_cleared stepped meets (coherent.cleared other writer found) cleared value
        held
    · exact coherent.cleared other known foundKnown cleared value (writerStep_cache stepped held)
  · intro client opened foundClient other after
    obtain ⟨known, foundKnown, responded⟩ :=
      coherent.responded client opened foundClient other after
    exact ⟨known, put_eq_some.mpr (Or.inr ⟨running client opened foundClient other after,
      foundKnown⟩), responded⟩
  · intro client opened foundClient other known after foundKnown
    rcases put_eq_some.mp foundKnown with ⟨same, _⟩ | ⟨_, foundKnown⟩
    · exact absurd same (running client opened foundClient other after)
    · exact coherent.fresh client opened foundClient other known after foundKnown

theorem coherent_expire (coherent : Coherent cached state) (key : Key) :
    Coherent cached { state with cache := put state.cache key none } where
  store_mem := coherent.store_mem
  cleared := by
    intro other writer found cleared value held
    by_cases same : writer.invalidation.stale = key
    · simp [same] at held
    · simp only [put_of_ne _ _ same] at held
      exact coherent.cleared other writer found cleared value held
  responded := coherent.responded
  fresh := coherent.fresh

theorem coherent_step (coherent : Coherent cached state) {action : Action Query Edit Key}
    (meets : StoresCurrent cached state action)
    (stepped : step cached state action = some nextState) : Coherent cached nextState := by
  cases stateStep_of_some cached stepped with
  | opened unused => exact coherent_openClient coherent
  | client found clientStepped =>
      apply coherent_client coherent _ found clientStepped
      rintro answered query row rfl
      exact meets _ query row found
  | unanswered unused commits => exact coherent_advance coherent _
  | committed unused commits =>
      apply coherent_startWriter (coherent_advance coherent _)
      simp [State.advance, unused]
  | writer found writerStepped =>
      apply coherent_writer coherent _ found writerStepped
      rintro key rfl
      exact meets _ found
  | expired key => exact coherent_expire coherent key

/-- In a run that writes current values only, what a client uses is current for
every writer that had responded when the client was opened. -/
theorem current_of_run {actions : List (Action Query Edit Key)}
    (along : (machine cached).Along (StoresCurrent cached) (.initial store cache) actions)
    (reached : (machine cached).run (.initial store cache) actions = some state)
    (found : state.clients number = some client) {query : Query} {value : Value}
    (used : client.phase = .used query value) {other : Nat} (after : client.after other = true)
    (foundWriter : state.writers other = some writer)
    (same : cached.key query = writer.invalidation.stale) : cached.Current writer value := by
  have coherent : Coherent cached state := by
    apply (machine cached).run_invariant (Coherent cached) _ coherent_initial along reached
    intro state action next coherent meets stepped
    exact coherent_step coherent meets stepped
  exact (coherent.fresh number client found other writer after foundWriter).used query value used
    same

/-! ### Undisturbed runs -/

instance [DecidableEq Row] (state : State Store Query Key Row Value)
    (action : Action Query Edit Key) : Decidable (StoresSelected cached state action) :=
  match action with
  | .client _ (.setex _) => inferInstanceAs (Decidable (∀ _ ∈ _, ∀ _ ∈ _, _))
  | .writer _ (.pass _) => inferInstanceAs (Decidable (∀ _ ∈ _, _))
  | .client _ (.begin _) | .client _ .get | .client _ .select | .client _ .abort
  | .writer _ .endScan | .writer _ .delete | .writer _ .respond | .writer _ .abandon
  | .openClient _ | .commit _ _ | .expire _ => isTrue trivial

theorem storeKnown_step (known : state.StoreKnown) {action : Action Query Edit Key}
    (stepped : step cached state action = some nextState) : nextState.StoreKnown := by
  have advanced : ∀ store, (state.advance store).StoreKnown := by
    intro store other writer found
    obtain ⟨before, _, rfl⟩ := Option.map_eq_some_iff.mp found
    exact List.mem_append_right _ (List.mem_singleton_self _)
  cases stateStep_of_some cached stepped with
  | opened unused => exact known
  | client found clientStepped => exact known
  | unanswered unused commits => exact advanced _
  | committed unused commits =>
      intro other writer found
      rcases put_eq_some.mp found with ⟨rfl, rfl⟩ | ⟨_, found⟩
      · exact List.mem_singleton_self _
      · exact advanced _ other writer found
  | @writer number _ writer _ _ foundWriter writerStepped =>
      intro other found foundOther
      rcases put_eq_some.mp foundOther with ⟨rfl, rfl⟩ | ⟨_, foundOther⟩
      · exact known other writer foundWriter
      · exact known other found foundOther
  | expired key => exact known

theorem along_storesCurrent_of_selected {actions : List (Action Query Edit Key)}
    (along : (machine cached).Along (StoresSelected cached) (.initial store cache) actions) :
    (machine cached).Along (StoresCurrent cached) (.initial store cache) actions := by
  have initial : (State.initial store cache : State Store Query Key Row Value).StoreKnown := by
    intro _ _ found
    cases found
  apply Machine.Along.mono _ _ initial along
  · intro state action next known stepped
    exact storeKnown_step known stepped
  · intro state action known selected
    exact storesCurrent_of_selected known selected

end

end CacheAside

end LlmObs.Foundation
