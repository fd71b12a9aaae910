import LlmObs.Backend.Workers.BatchConsistency
import LlmObs.Backend.Workers.PayloadObjects

/-!
Owns what the column types of `spans` refuse, and what a refusal costs. All rows of a
batch go through one statement, so one refused value raises for every one of them, and
the exception counts as a transient one.
-/

namespace LlmObs.Backend

open LlmObs.Foundation

/-! ### Column types -/

/-- `TEXT`: every character but the one that ends a C string. -/
def fitsText (text : String) : Bool := decide (Char.ofNat 0 ∉ text.toList)

def fitsVarchar (limit : Nat) (text : String) : Bool :=
  decide (text.length ≤ limit) && fitsText text

/-- `INTEGER` -/
def fitsInteger (value : Nat) : Bool := decide (value < 2 ^ 31)

/-- `NUMERIC(precision, scale)`, which checks the rounded value. -/
def fitsNumeric (precision scale : Nat) (value : ℚ) : Bool :=
  decide (|Decimal.toNumeric scale value| < 10 ^ (precision - scale))

/-- The instants of the years 1 to 9999 in UTC, which is what the driver converts. -/
def fitsTimestamptz (instant : Int) : Bool :=
  decide (-62135596800000000 ≤ instant) && decide (instant < 253402300800000000)

/-- The columns of `spans` that hold what a client sent, or what is computed from it. The
worker itself makes the ids, the status and the payload columns; `latency_ms` is a
double; `metadata` is bound as the text of its JSON, in which no character is left that
`JSONB` refuses. -/
def PreparedSpan.fitsColumns (localInstant : Int → Int) (span : PreparedSpan) : Bool :=
  fitsVarchar 255 span.name && fitsVarchar 50 span.provider && fitsVarchar 100 span.model &&
    fitsInteger span.inputTokens && fitsInteger span.outputTokens &&
    fitsNumeric 12 8 span.costUsd && span.error.all fitsText &&
    fitsTimestamptz (span.startedAt.toTimestamptz localInstant)

/-- The parameters of the price lookup of a span. No cache has the price of a name that
`model_pricing` cannot hold, or one in force before year 1, so the statement is sent. -/
def SpanSchema.fitsLookup (localInstant : Int → Int) (span : SpanSchema) : Bool :=
  fitsText span.model && fitsTimestamptz (span.startedAt.toTimestamptz localInstant)

/-! ### An attempt under column types -/

/-- What a statement raises for a value that its parameter cannot hold. -/
def dataError : PyException := ⟨.sqlAlchemyError, "invalid input for query argument"⟩

/-- The surroundings with a database that refuses the price lookup of a span, and the
insert of the rows, for their values. -/
def AttemptEnv.withColumnTypes (localInstant : Int → Int) (spans : List SpanSchema)
    (rows : List PreparedSpan) (env : AttemptEnv) : AttemptEnv :=
  { env with
    fault := fun stage =>
      match stage with
      | .calculate index =>
          if spans[index]?.all (·.fitsLookup localInstant) then env.fault stage
          else some ⟨.raised dataError, false⟩
      | .insertSpans =>
          if rows.all (·.fitsColumns localInstant) then env.fault stage
          else some ⟨.raised dataError, false⟩
      | _ => env.fault stage }

/-- The rows that an attempt hands to `bulk_insert_spans`, unless it ends before. -/
def attemptRows (runtime : Runtime) (env : AttemptEnv) (projectId : UUID)
    (spans : List SpanSchema) (world : World) : List PreparedSpan :=
  (attemptPairs runtime env projectId spans world).map Prod.snd

/-- One attempt of `process_span_batch` with a database that checks its columns. -/
def processTypedBatch (runtime : Runtime) (env : AttemptEnv) (projectId : UUID)
    (spans : List SpanSchema) (world : World) : AttemptRun :=
  processSpanBatch runtime
    (env.withColumnTypes runtime.localInstant spans
      (attemptRows runtime env projectId spans world)) projectId spans world

/-- The row that the span becomes has a value that a column refuses. -/
def SpanSchema.Rejected (runtime : Runtime) (env : AttemptEnv) (projectId : UUID)
    (spans : List SpanSchema) (world : World) (span : SpanSchema) : Prop :=
  ∃ row, (span, row) ∈ attemptPairs runtime env projectId spans world ∧
    row.fitsColumns runtime.localInstant = false

/-- The project has the row of the span. -/
def SpanSchema.StoredIn (localInstant : Int → Int) (projectId : UUID) (db : Database)
    (span : SpanSchema) : Prop :=
  ∃ row ∈ db.spans.rows, row.projectId = projectId ∧
    SpanRow.primaryKey row = (span.spanId, span.startedAt.toTimestamptz localInstant)

section

variable {runtime : Runtime} {env : AttemptEnv} {projectId : UUID} {spans : List SpanSchema}
  {world : World}

/-! ### What the schema leaves to the columns -/

/-- What holds of every span with what it is prepared to holds of the prepared pairs. -/
theorem forall_preparedPairs {prepare : Nat → SpanSchema → PrepareState →
      Except Halt PreparedSpan × PrepareState} (keeps : SpanSchema × PreparedSpan → Prop)
    (keepsPrepared : ∀ index span state row next,
      prepare index span state = (.ok row, next) → keeps (span, row)) :
    ∀ (spans : List SpanSchema) (index : Nat) (state : PrepareState),
      ∀ pair ∈ preparedPairs prepare index spans state, keeps pair := by
  intro spans
  induction spans with
  | nil =>
      intro index state pair member
      cases member
  | cons span rest inductionHypothesis =>
      intro index state pair member
      simp only [preparedPairs] at member
      split at member
      · rename_i row next prepares
        rcases List.mem_cons.mp member with rfl | later
        · exact keepsPrepared _ _ _ _ _ prepares
        · exact inductionHypothesis _ _ pair later
      · split at member
        · cases member
        · exact inductionHypothesis _ _ pair member
      · cases member

/-- A prepared span is the dict of its span with some cost and payload. -/
theorem exists_preparedSpan {prices : ModelPricingTable} {settings : PayloadPrivacySettings}
    {index : Nat} {span : SpanSchema} {state next : PrepareState} {row : PreparedSpan}
    (prepares : prepareSpan runtime env prices settings projectId index span state =
      (.ok row, next)) :
    ∃ redactKeys cost payload,
      row = preparedSpan runtime projectId redactKeys span cost payload := by
  simp only [prepareSpan] at prepares
  split at prepares
  · cases prepares
  · split at prepares
    · cases prepares
    · split at prepares
      · cases prepares
      · simp only [Prod.mk.injEq, Except.ok.injEq] at prepares
        exact ⟨_, _, _, prepares.1.symm⟩

theorem exists_preparedSpan_of_mem {pair : SpanSchema × PreparedSpan}
    (member : pair ∈ attemptPairs runtime env projectId spans world) :
    ∃ redactKeys cost payload,
      pair.2 = preparedSpan runtime projectId redactKeys pair.1 cost payload := by
  simp only [attemptPairs] at member
  split at member
  · cases member
  · split at member
    · cases member
    · exact forall_preparedPairs (fun pair => ∃ redactKeys cost payload,
        pair.2 = preparedSpan runtime projectId redactKeys pair.1 cost payload)
        (fun _ _ _ _ _ prepares => exists_preparedSpan prepares) _ _ _ pair member

theorem fitsVarchar_of_allowed :
    ∀ provider ∈ allowedProviders, fitsVarchar 50 provider = true := by
  decide +kernel

/-- After the schema a row can only be refused for its texts, its cost or its start. -/
theorem fitsColumns_iff {pair : SpanSchema × PreparedSpan}
    (member : pair ∈ attemptPairs runtime env projectId spans world) :
    pair.2.fitsColumns runtime.localInstant = true ↔
      fitsText pair.1.name = true ∧ fitsText pair.1.model = true ∧
        pair.1.error.all fitsText = true ∧ fitsNumeric 12 8 pair.2.costUsd = true ∧
        fitsTimestamptz (pair.1.startedAt.toTimestamptz runtime.localInstant) = true := by
  obtain ⟨redactKeys, cost, payload, same⟩ := exists_preparedSpan_of_mem member
  obtain ⟨span, row⟩ := pair
  dsimp only at same
  subst same
  have provider := fitsVarchar_of_allowed span.provider span.provider_mem
  have name := span.name_le
  have model := span.model_le
  have inputTokens : span.inputTokens < 2 ^ 31 := by
    have bound := span.inputTokens_le
    omega
  have outputTokens : span.outputTokens < 2 ^ 31 := by
    have bound := span.outputTokens_le
    omega
  simp only [PreparedSpan.fitsColumns, preparedSpan, provider, Bool.and_true]
  simp only [fitsVarchar, fitsInteger, name, model, inputTokens, outputTokens, decide_true,
    Bool.true_and, Bool.and_true, Bool.and_eq_true, and_assoc]
  constructor
  · rintro ⟨nameFits, modelFits, costFits, errorFits, startFits⟩
    exact ⟨nameFits, modelFits, errorFits, costFits, startFits⟩
  · rintro ⟨nameFits, modelFits, errorFits, costFits, startFits⟩
    exact ⟨nameFits, modelFits, costFits, errorFits, startFits⟩

/-! ### What a refusal costs -/

/-- An insert that raises leaves the database as it was. -/
theorem db_of_insertFault {fault : Fault} (raises : env.fault .insertSpans = some fault) :
    (processSpanBatch runtime env projectId spans world).world.db = world.db := by
  have startDb := startAttempt_db env world
  have path := attemptPath runtime env projectId spans world
  generalize processSpanBatch runtime env projectId spans world = run at path
  cases path with
  | notStarted started =>
      rw [started] at startDb
      exact startDb
  | @notStored begun after halt started prepares =>
      rw [started] at startDb
      have preparedDb := prepareBatch_db runtime env projectId spans begun
      rw [prepares] at preparedDb
      exact (failAttempt_spec env halt none after).1.trans (preparedDb.trans startDb)
  | stored batch started prepares stores =>
      rw [storeBatch, AttemptEnv.check, raises] at stores
      cases stores

/-- One refused row and the batch stores nothing. -/
theorem db_of_rejected {span : SpanSchema}
    (rejected : span.Rejected runtime env projectId spans world) :
    (processTypedBatch runtime env projectId spans world).world.db = world.db := by
  obtain ⟨row, member, refused⟩ := rejected
  have someRefused : ¬ (attemptRows runtime env projectId spans world).all
      (·.fitsColumns runtime.localInstant) = true := by
    intro allFit
    have fits := List.all_eq_true.mp allFit row (List.mem_map_of_mem member)
    exact absurd (refused.symm.trans fits) Bool.false_ne_true
  refine db_of_insertFault (?_ : _ = some ⟨.raised dataError, false⟩)
  simp only [AttemptEnv.withColumnTypes]
  exact if_neg someRefused

/-- Where the columns take every value, an attempt is one without their checks. -/
theorem processTypedBatch_of_fits
    (lookups : ∀ span ∈ spans, span.fitsLookup runtime.localInstant = true)
    (rows : ∀ row ∈ attemptRows runtime env projectId spans world,
      row.fitsColumns runtime.localInstant = true) :
    processTypedBatch runtime env projectId spans world =
      processSpanBatch runtime env projectId spans world := by
  have unchanged : env.withColumnTypes runtime.localInstant spans
      (attemptRows runtime env projectId spans world) = env := by
    cases env with
    | mk fault cacheDrift eventId now =>
        simp only [AttemptEnv.withColumnTypes, AttemptEnv.mk.injEq, and_true]
        funext stage
        cases stage with
        | calculate index =>
            apply if_pos
            rw [Option.all_eq_true]
            intro span found
            exact lookups span (List.mem_of_getElem? found)
        | insertSpans => exact if_pos (List.all_eq_true.mpr rows)
        | _ => rfl
  rw [processTypedBatch, unchanged]

/-- Among the spans beside it, if there are any, is one whose row is refused. -/
def SpanSchema.RejectedBeside (runtime : Runtime) (env : AttemptEnv) (projectId : UUID)
    (before after : List SpanSchema) (world : World) (span : SpanSchema) : Prop :=
  before ++ after ≠ [] → ∃ other ∈ before ++ after,
    other.Rejected runtime env projectId (before ++ span :: after) world

/-- A span that would be stored alone is stored beside others, one of which is refused, only
if there are no others, or if it was stored before. -/
theorem storedBeside_rejected_iff {before after : List SpanSchema} {span : SpanSchema}
    (alone : span.StoredIn runtime.localInstant projectId
      (processTypedBatch runtime env projectId [span] world).world.db)
    (beside : span.RejectedBeside runtime env projectId before after world) :
    span.StoredIn runtime.localInstant projectId
        (processTypedBatch runtime env projectId (before ++ span :: after) world).world.db ↔
      before ++ after = [] ∨ span.StoredIn runtime.localInstant projectId world.db := by
  by_cases others : before ++ after = []
  · obtain ⟨rfl, rfl⟩ := List.append_eq_nil_iff.mp others
    exact ⟨fun _ => Or.inl rfl, fun _ => alone⟩
  · obtain ⟨other, -, rejected⟩ := beside others
    rw [db_of_rejected rejected]
    exact ⟨Or.inr, fun stored => stored.resolve_left others⟩

end

/-! ### A name that Postgres cannot represent -/

/-- A span whose name is the character that no text column takes. -/
def nulNamedSpan : SpanSchema :=
  { spanStartingAt (.utc 0) with
    spanId := 5
    name := String.singleton (Char.ofNat 0)
    name_le := by decide }

theorem storedAlone_spanStartingAt : (spanStartingAt (.utc 0)).StoredIn id 1
    (processTypedBatch .inUtc .faultless 1 [spanStartingAt (.utc 0)]
      (.ofDatabase (.ofProject 1))).world.db := by
  have lookups : ∀ span ∈ [spanStartingAt (.utc 0)], span.fitsLookup id = true := by
    decide +kernel
  have rows : ∀ row ∈ attemptRows .inUtc .faultless 1 [spanStartingAt (.utc 0)]
      (.ofDatabase (.ofProject 1)), row.fitsColumns id = true :=
    List.all_eq_true.mp (by decide +kernel)
  rw [processTypedBatch_of_fits lookups rows]
  exact ⟨_, List.mem_singleton_self _, rfl, rfl⟩

theorem rejected_nulNamedSpan : nulNamedSpan.Rejected .inUtc .faultless 1
    [nulNamedSpan, spanStartingAt (.utc 0)] (.ofDatabase (.ofProject 1)) :=
  ⟨_, List.mem_cons_self .., by decide +kernel⟩

theorem storedBeside_rejected_iff_nulNamed :
    (spanStartingAt (.utc 0)).StoredIn id 1
        (processTypedBatch .inUtc .faultless 1 [nulNamedSpan, spanStartingAt (.utc 0)]
          (.ofDatabase (.ofProject 1))).world.db ↔
      [nulNamedSpan] = [] ∨ (spanStartingAt (.utc 0)).StoredIn id 1 (Database.ofProject 1) := by
  have beside : (spanStartingAt (.utc 0)).RejectedBeside .inUtc .faultless 1
      [nulNamedSpan] [] (.ofDatabase (.ofProject 1)) :=
    fun _ => ⟨_, List.mem_cons_self .., rejected_nulNamedSpan⟩
  exact storedBeside_rejected_iff storedAlone_spanStartingAt beside

/-- A span that is stored alone is lost beside one whose name Postgres refuses. -/
theorem not_storedBeside_rejected :
    ¬ ∀ (runtime : Runtime) (env : AttemptEnv) (projectId : UUID)
      (before after : List SpanSchema) (span : SpanSchema) (world : World),
      (∀ stage, env.fault stage = none) →
      span.StoredIn runtime.localInstant projectId
        (processTypedBatch runtime env projectId [span] world).world.db →
      (∀ other ∈ before ++ after,
        other.Rejected runtime env projectId (before ++ span :: after) world) →
      span.StoredIn runtime.localInstant projectId
        (processTypedBatch runtime env projectId (before ++ span :: after) world).world.db := by
  intro storedBeside
  have stored := storedBeside .inUtc .faultless 1 [nulNamedSpan] [] (spanStartingAt (.utc 0))
    (.ofDatabase (.ofProject 1)) (fun _ => rfl) storedAlone_spanStartingAt
    (by simpa using rejected_nulNamedSpan)
  rw [List.singleton_append, db_of_rejected rejected_nulNamedSpan] at stored
  obtain ⟨row, member, -⟩ := stored
  cases member

end LlmObs.Backend
