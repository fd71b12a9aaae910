import LlmObs.Backend.Workers.ProcessSpan

/-!
Owns what the preparation and the span insert of one attempt amount to: which
prepared spans become rows, and which of them `select_inserted_spans` finds
again. A span with a naive start is stored but never found.
-/

namespace LlmObs.Backend

open LlmObs.Foundation

/-! ### Preparation -/

/-- The first span of a batch is prepared or counted as failed, and the rest is
prepared behind it. -/
theorem prepareSpans_cons {prepare : Nat → SpanSchema → PrepareState →
      Except Halt PreparedSpan × PrepareState} {index : Nat} {head : SpanSchema}
    {rest : List SpanSchema} {state next : PrepareState} {prepared : List PreparedSpan}
    {failed : Nat}
    (done : prepareSpans prepare index (head :: rest) state = (.ok (prepared, failed), next)) :
    ∃ middle restPrepared restFailed,
      prepareSpans prepare (index + 1) rest middle = (.ok (restPrepared, restFailed), next) ∧
      ((∃ first, prepare index head state = (.ok first, middle) ∧
          prepared = first :: restPrepared ∧ failed = restFailed) ∨
        (prepared = restPrepared ∧ failed = restFailed + 1)) := by
  simp only [prepareSpans] at done
  split at done
  · rename_i first middle prepares
    obtain ⟨others, same⟩ := Prod.mk.inj done
    obtain ⟨⟨restPrepared, restFailed⟩, prepared, counted⟩ := map_eq_ok.mp others
    cases counted
    exact ⟨middle, restPrepared, restFailed, Prod.ext prepared same,
      Or.inl ⟨first, prepares, rfl, rfl⟩⟩
  · rename_i exception middle raises
    split at done
    · cases done
    · obtain ⟨others, same⟩ := Prod.mk.inj done
      obtain ⟨⟨restPrepared, restFailed⟩, prepared, counted⟩ := map_eq_ok.mp others
      cases counted
      exact ⟨middle, restPrepared, restFailed, Prod.ext prepared same, Or.inr ⟨rfl, rfl⟩⟩
  · cases done

/-- Every span of the batch is prepared or counted as failed, and a prepared span
keeps its identifiers and its start. -/
theorem prepareSpans_spec {prepare : Nat → SpanSchema → PrepareState →
      Except Halt PreparedSpan × PrepareState} {keeps : SpanSchema → PreparedSpan → Prop}
    (keepsPrepared : ∀ index span state prepared next,
      prepare index span state = (.ok prepared, next) → keeps span prepared)
    {index : Nat} {spans : List SpanSchema} {state next : PrepareState}
    {prepared : List PreparedSpan} {failed : Nat}
    (done : prepareSpans prepare index spans state = (.ok (prepared, failed), next)) :
    prepared.length + failed = spans.length ∧
      ∀ span ∈ prepared, ∃ source ∈ spans, keeps source span := by
  induction spans generalizing index state prepared failed next with
  | nil =>
      simp only [prepareSpans, Prod.mk.injEq, Except.ok.injEq] at done
      obtain ⟨⟨rfl, rfl⟩, rfl⟩ := done
      simp
  | cons head rest inductionHypothesis =>
      obtain ⟨middle, restPrepared, restFailed, others, split⟩ := prepareSpans_cons done
      obtain ⟨total, sources⟩ := inductionHypothesis others
      have fromRest : ∀ span ∈ restPrepared, ∃ source ∈ head :: rest, keeps source span := by
        intro span member
        obtain ⟨source, inRest, kept⟩ := sources span member
        exact ⟨source, List.mem_cons_of_mem _ inRest, kept⟩
      rcases split with ⟨first, prepares, rfl, rfl⟩ | ⟨rfl, rfl⟩
      · refine ⟨by simp only [List.length_cons]; omega, ?_⟩
        intro span member
        rcases List.mem_cons.mp member with rfl | later
        · exact ⟨head, List.mem_cons_self .., keepsPrepared _ _ _ _ _ prepares⟩
        · exact fromRest span later
      · exact ⟨by simp only [List.length_cons]; omega, fromRest⟩

/-- What a prepared span takes from the batch. -/
structure SpanSchema.PreparesTo (projectId : UUID) (span : SpanSchema)
    (prepared : PreparedSpan) : Prop where
  id : prepared.id = span.spanId
  traceId : prepared.traceId = span.traceId
  projectId : prepared.projectId = projectId
  startedAt : prepared.startedAt = span.startedAt

theorem prepareSpan_keeps {runtime : Runtime} {env : AttemptEnv} {prices : ModelPricingTable}
    {settings : PayloadPrivacySettings} {projectId : UUID} {index : Nat} {span : SpanSchema}
    {state next : PrepareState} {prepared : PreparedSpan}
    (done : prepareSpan runtime env prices settings projectId index span state =
      (.ok prepared, next)) : span.PreparesTo projectId prepared := by
  simp only [prepareSpan] at done
  split at done
  · cases done
  · split at done
    · cases done
    · split at done
      · cases done
      · simp only [Prod.mk.injEq, Except.ok.injEq] at done
        obtain ⟨rfl, -⟩ := done
        exact ⟨rfl, rfl, rfl, rfl⟩

/-- What the preparation of a span keeps holds of every prepared span of a batch. -/
theorem prepareBatch_keeps {runtime : Runtime} {env : AttemptEnv} {projectId : UUID}
    {spans : List SpanSchema} {world : World} {prepared : List PreparedSpan} {failed : Nat}
    {keeps : SpanSchema → PreparedSpan → Prop}
    (keepsPrepared : ∀ index span state prepared next,
      prepareSpan runtime env world.db.modelPricing
          (loadPayloadPrivacySettings projectId world.db.projects) projectId index span state =
        (.ok prepared, next) → keeps span prepared)
    (done : (prepareBatch runtime env projectId spans world).1 = .ok (prepared, failed)) :
    prepared.length + failed = spans.length ∧
      ∀ span ∈ prepared, ∃ source ∈ spans, keeps source span := by
  simp only [prepareBatch] at done
  split at done
  · cases done
  · exact prepareSpans_spec keepsPrepared (Prod.ext done rfl)

theorem prepareBatch_spec {runtime : Runtime} {env : AttemptEnv} {projectId : UUID}
    {spans : List SpanSchema} {world next : World} {prepared : List PreparedSpan}
    {failed : Nat}
    (done : prepareBatch runtime env projectId spans world = (.ok (prepared, failed), next)) :
    prepared.length + failed = spans.length ∧ next.db = world.db ∧
      ∀ span ∈ prepared, ∃ source ∈ spans, source.PreparesTo projectId span := by
  obtain ⟨total, sources⟩ := prepareBatch_keeps
    (fun _ _ _ _ _ prepares => prepareSpan_keeps prepares) (congrArg Prod.fst done)
  refine ⟨total, ?_, sources⟩
  have sameDb := congrArg (fun result => result.2.db) done
  rw [← sameDb, prepareBatch]
  split <;> rfl

/-! ### Which spans are stored -/

/-- The primary key of the row that the span is stored as. -/
def PreparedSpan.identity (localInstant : Int → Int) (span : PreparedSpan) : UUID × Int :=
  (span.id, span.startedAt.toTimestamptz localInstant)

/-- The identities of the stored spans. -/
def SpanTable.identities (table : SpanTable) : List (UUID × Int) :=
  table.rows.map SpanRow.primaryKey

/-- The prepared spans that become rows: the first of each new identity. -/
def storedSpans (localInstant : Int → Int) (table : SpanTable)
    (prepared : List PreparedSpan) : List PreparedSpan :=
  firstNew (PreparedSpan.identity localInstant) (SpanTable.identities table) prepared

/-- The prepared spans that `select_inserted_spans` finds: the first aware one of
each new identity. -/
def recognisedSpans (localInstant : Int → Int) (table : SpanTable)
    (prepared : List PreparedSpan) : List PreparedSpan :=
  firstNew (PreparedSpan.identity localInstant) (SpanTable.identities table)
    (prepared.filter fun span => decide span.startedAt.Aware)

section

variable {localInstant : Int → Int} {table : SpanTable} {prepared : List PreparedSpan}

theorem insertAll_toRow (localInstant : Int → Int) (table : SpanTable)
    (prepared : List PreparedSpan) :
    (table.insertAll (prepared.map (·.toRow localInstant))).2 =
      (storedSpans localInstant table prepared).map (·.toRow localInstant) := by
  rw [insertAll_eq_firstNew, firstNew_map]
  rfl

theorem bulkInsertSpans_rows (localInstant : Int → Int) (table : SpanTable)
    (prepared : List PreparedSpan) :
    (bulkInsertSpans localInstant prepared table).1.rows =
      table.rows ++ (storedSpans localInstant table prepared).map (·.toRow localInstant) := by
  rw [← insertAll_toRow, ← Table.insertAll_rows]
  rfl

theorem bulkInsertSpans_identities (localInstant : Int → Int) (table : SpanTable)
    (prepared : List PreparedSpan) :
    (bulkInsertSpans localInstant prepared table).2.map SpanIdentity.key =
      (storedSpans localInstant table prepared).map fun span =>
        (span.id, .aware (span.startedAt.toTimestamptz localInstant)) := by
  simp only [bulkInsertSpans, insertAll_toRow, List.map_map]
  refine List.map_congr_left fun span _ => ?_
  simp [SpanIdentity.key, PreparedSpan.toRow]

/-- With an identity left for each new aware span and none for a naive one,
`select_inserted_spans` takes the first aware span of each. -/
theorem selectInsertedSpans_eq_firstNew {remaining : List (UUID × Datetime.Key)}
    {seen : List (UUID × Int)} (distinct : remaining.Nodup)
    (aware : ∀ span ∈ prepared, span.startedAt.Aware →
      (SpanIdentity.key (span.id, span.startedAt) ∈ remaining ↔
        span.identity localInstant ∉ seen))
    (naive : ∀ span ∈ prepared, ¬ span.startedAt.Aware →
      SpanIdentity.key (span.id, span.startedAt) ∉ remaining) :
    selectInsertedSpans prepared remaining =
      firstNew (PreparedSpan.identity localInstant) seen
        (prepared.filter fun span => decide span.startedAt.Aware) := by
  induction prepared generalizing remaining seen with
  | nil => rfl
  | cons span rest inductionHypothesis =>
      have restNaive : ∀ later ∈ rest, ¬ later.startedAt.Aware →
          SpanIdentity.key (later.id, later.startedAt) ∉ remaining :=
        fun later member => naive later (List.mem_cons_of_mem _ member)
      by_cases isAware : span.startedAt.Aware
      · rw [List.filter_cons_of_pos (by simpa using isAware)]
        have headKnown := aware span (List.mem_cons_self ..) isAware
        by_cases known : span.identity localInstant ∈ seen
        · rw [firstNew_cons_of_seen known]
          simp only [selectInsertedSpans]
          rw [if_neg fun found => headKnown.mp found known]
          exact inductionHypothesis distinct
            (fun later member => aware later (List.mem_cons_of_mem _ member)) restNaive
        · rw [firstNew_cons_of_new known]
          simp only [selectInsertedSpans]
          rw [if_pos (headKnown.mpr known)]
          congr 1
          refine inductionHypothesis (distinct.erase _) (fun later member laterAware => ?_)
            fun later member laterNaive found =>
              restNaive later member laterNaive (List.mem_of_mem_erase found)
          rw [distinct.mem_erase_iff, aware later (List.mem_cons_of_mem _ member) laterAware,
            List.mem_cons, not_or]
          have sameIdentity : SpanIdentity.key (later.id, later.startedAt) =
              SpanIdentity.key (span.id, span.startedAt) ↔
                later.identity localInstant = span.identity localInstant := by
            simp [SpanIdentity.key, PreparedSpan.identity, laterAware.key_eq localInstant,
              isAware.key_eq localInstant]
          rw [Ne, sameIdentity]
      · rw [List.filter_cons_of_neg (by simpa using isAware)]
        simp only [selectInsertedSpans]
        rw [if_neg (naive span (List.mem_cons_self ..) isAware)]
        exact inductionHypothesis distinct
          (fun later member => aware later (List.mem_cons_of_mem _ member)) restNaive

/-- The spans that an attempt carries on with after its insert. -/
theorem selectInsertedSpans_bulkInsertSpans (localInstant : Int → Int) (table : SpanTable)
    (prepared : List PreparedSpan) :
    selectInsertedSpans prepared
        ((bulkInsertSpans localInstant prepared table).2.map SpanIdentity.key) =
      recognisedSpans localInstant table prepared := by
  rw [bulkInsertSpans_identities]
  have awareKeys : (storedSpans localInstant table prepared).map (fun span =>
        (span.id, Datetime.Key.aware (span.startedAt.toTimestamptz localInstant))) =
      ((storedSpans localInstant table prepared).map (·.identity localInstant)).map
        fun identity => (identity.1, Datetime.Key.aware identity.2) := by
    rw [List.map_map]
    rfl
  have injective : Function.Injective fun identity : UUID × Int =>
      (identity.1, Datetime.Key.aware identity.2) := by
    rintro ⟨_, _⟩ ⟨_, _⟩ same
    simpa using same
  rw [awareKeys]
  refine selectInsertedSpans_eq_firstNew ((firstNew_nodup _ _).map injective) ?_ ?_
  · intro span member isAware
    have key : SpanIdentity.key (span.id, span.startedAt) =
        (fun identity : UUID × Int => (identity.1, Datetime.Key.aware identity.2))
          (span.identity localInstant) := by
      simp [SpanIdentity.key, PreparedSpan.identity, isAware.key_eq localInstant]
    rw [key, List.mem_map_of_injective injective]
    exact ⟨fun found => (mem_map_firstNew.mp found).1,
      fun new => mem_map_firstNew.mpr ⟨new, List.mem_map_of_mem member⟩⟩
  · intro span _ isNaive found
    obtain ⟨identity, -, same⟩ := List.mem_map.mp found
    simp [SpanIdentity.key, Datetime.key_of_not_aware isNaive] at same

theorem aware_of_mem_recognisedSpans {span : PreparedSpan}
    (member : span ∈ recognisedSpans localInstant table prepared) : span.startedAt.Aware := by
  have kept := (firstNew_sublist _ _).subset member
  simpa using (List.mem_filter.mp kept).2

theorem recognisedSpans_of_aware (aware : ∀ span ∈ prepared, span.startedAt.Aware) :
    recognisedSpans localInstant table prepared = storedSpans localInstant table prepared := by
  have all : prepared.filter (fun span => decide span.startedAt.Aware) = prepared :=
    List.filter_eq_self.mpr fun span member => by simpa using aware span member
  rw [recognisedSpans, all]
  rfl

end

end LlmObs.Backend
