import LlmObs.Backend.Api.Pricing
import LlmObs.Backend.Schemas.IngestRequest
import LlmObs.Backend.Services.CostLookups
import LlmObs.Backend.Workers.AttemptEffect
import LlmObs.Backend.Workers.ProcessSpan

/-!
Owns the way of a name from the catalogue and from a span to the match of the two.
`create_pricing` and `SpanSchema` normalise names on their own; it says for which names and
which states of the loop over the spans the one price of the catalogue is the price of a span.
-/

namespace LlmObs.Backend

open LlmObs.Foundation

/-! ### The spans that an attempt looks up -/

/-- A span whose turn it is in the loop, with the state of the loop. -/
structure Visit where
  index : Nat
  span : SpanSchema
  state : PrepareState

/-- The spans that the loop of `prepareSpans` comes to. -/
def visits (prepare : Nat → SpanSchema → PrepareState →
      Except Halt PreparedSpan × PrepareState) :
    Nat → List SpanSchema → PrepareState → List Visit
  | _, [], _ => []
  | index, span :: rest, state =>
      ⟨index, span, state⟩ ::
        match prepare index span state with
        | (.ok _, next) => visits prepare (index + 1) rest next
        | (.error (.raised exception), next) =>
            if isTransientSpanProcessingError exception then []
            else visits prepare (index + 1) rest next
        | (.error .killed, _) => []

/-- The body of the loop in an attempt. -/
def attemptPrepare (runtime : Runtime) (env : AttemptEnv) (projectId : UUID) (world : World) :
    Nat → SpanSchema → PrepareState → Except Halt PreparedSpan × PrepareState :=
  prepareSpan runtime env world.db.modelPricing
    (loadPayloadPrivacySettings projectId world.db.projects) projectId

/-- The spans that an attempt comes to, unless it ends before the loop. -/
def attemptVisits (runtime : Runtime) (env : AttemptEnv) (projectId : UUID)
    (spans : List SpanSchema) (world : World) : List Visit :=
  match startAttempt env world with
  | (_, some _) => []
  | (begun, none) =>
      match env.check .loadSettings with
      | .error _ => []
      | .ok _ =>
          visits (attemptPrepare runtime env projectId begun) 0 spans
            ⟨begun.pricingCache, fun _ => [], begun.objects⟩

namespace Visit

variable (visit : Visit)

def name : PricedName := ⟨visit.span.provider, visit.span.model, visit.span.provider_mem⟩

/-- The caches as the lookup of the span finds them. -/
def caches (env : AttemptEnv) : LookupState :=
  ⟨fun _ => visit.state.intervals, env.cacheDrift visit.index visit.state.cache⟩

/-- The cost of the span is computed from the price. -/
structure PricedFrom (runtime : Runtime) (env : AttemptEnv) (projectId : UUID) (world : World)
    (pricing : Pricing) : Prop where
  found : ∃ next, (visit.caches env).answer runtime world.db.modelPricing 0 visit.name
    visit.span.startedAt = .ok (some pricing, next)
  cost : ∀ prepared next, attemptPrepare runtime env projectId world visit.index visit.span
      visit.state = (.ok prepared, next) →
    costOf pricing visit.span.inputTokens visit.span.outputTokens = .ok prepared.costUsd

end Visit

/-- Redis holds prices of the catalogue only. -/
def CacheSound (prices : ModelPricingTable) (cache : PricingCache) : Prop :=
  ∀ name : PricedName, ∀ pricing ∈ cache name.pair, name.Loaded prices pricing

/-- Other workers and the expiry put no other prices there. -/
def AttemptEnv.DriftsSound (env : AttemptEnv) (prices : ModelPricingTable) : Prop :=
  ∀ index cache, CacheSound prices cache → CacheSound prices (env.cacheDrift index cache)

section

variable {runtime : Runtime} {env : AttemptEnv} {projectId : UUID} {world : World}
  {prices : ModelPricingTable}

/-- Both caches of the loop hold prices of the catalogue only. -/
structure PrepareState.CachesSound (state : PrepareState) (prices : ModelPricingTable) : Prop where
  cache : CacheSound prices state.cache
  intervals : ∀ name : PricedName, ∀ pricing ∈ state.intervals name.pair,
    name.Loaded prices pricing

theorem PrepareState.CachesSound.lookup {visit : Visit}
    (sound : visit.state.CachesSound prices) (drifts : env.DriftsSound prices) :
    (visit.caches env).Sound prices :=
  fun name => ⟨fun _ => sound.intervals name, drifts visit.index _ sound.cache name⟩

/-- A calculation leaves the caches that its lookup leaves. -/
theorem calculate_caches (runtime : Runtime) (env : AttemptEnv) (prices : ModelPricingTable)
    (visit : Visit) :
    let caches := visit.caches env
    let answer := calculate runtime prices visit.span.provider visit.span.model
      visit.span.inputTokens visit.span.outputTokens visit.span.startedAt visit.state.intervals
      (env.cacheDrift visit.index visit.state.cache)
    let after := lookupStep runtime prices caches (.lookup 0 visit.name visit.span.startedAt)
    answer.2.1 = after.intervals 0 ∧ answer.2.2 = after.cache := by
  simp only [calculate, lookupStep, LookupState.answer, Visit.caches, Visit.name]
  split
  · rename_i exception raises
    simp only [raises]
    exact ⟨trivial, trivial⟩
  · rename_i intervals cache answered
    simp only [answered, if_true]
    exact ⟨trivial, trivial⟩
  · rename_i pricing intervals cache answered
    simp only [answered, if_true]
    exact ⟨trivial, trivial⟩

theorem PrepareState.CachesSound.calculate (runtime : Runtime) (visit : Visit)
    (sound : visit.state.CachesSound prices) (drifts : env.DriftsSound prices)
    {result : Except PyException ℚ} {intervals : BatchPricingIntervals} {cache : PricingCache}
    (calculated : calculate runtime prices visit.span.provider visit.span.model
      visit.span.inputTokens visit.span.outputTokens visit.span.startedAt visit.state.intervals
      (env.cacheDrift visit.index visit.state.cache) = (result, intervals, cache))
    (objects : ObjectStore) : (⟨cache, intervals, objects⟩ : PrepareState).CachesSound prices := by
  have after : (lookupStep runtime prices (visit.caches env)
      (.lookup 0 visit.name visit.span.startedAt)).Sound prices :=
    sound_lookupStep (sound.lookup drifts) _
  have caches := calculate_caches runtime env prices visit
  dsimp only at caches
  rw [calculated] at caches
  obtain ⟨rfl, rfl⟩ := caches
  exact ⟨fun name => (after name).2, fun name => (after name).1 0⟩

/-- The step: one span leaves sound caches. -/
theorem PrepareState.CachesSound.prepareSpan {settings : PayloadPrivacySettings} {index : Nat}
    {span : SpanSchema} {state next : PrepareState} {result : Except Halt PreparedSpan}
    (sound : state.CachesSound prices) (drifts : env.DriftsSound prices)
    (prepared : prepareSpan runtime env prices settings projectId index span state =
      (result, next)) : next.CachesSound prices := by
  have calculated := fun {answer : Except PyException ℚ} {intervals : BatchPricingIntervals}
      {cache : PricingCache} equal (objects : ObjectStore) =>
    @PrepareState.CachesSound.calculate env prices runtime ⟨index, span, state⟩ sound drifts
      answer intervals cache equal objects
  rw [LlmObs.Backend.prepareSpan] at prepared
  split at prepared
  · cases prepared
    exact sound
  · split at prepared
    · rename_i exception intervals cache equal
      cases prepared
      exact calculated equal _
    · rename_i cost intervals cache equal
      dsimp only at prepared
      split at prepared
      · cases prepared
        exact calculated equal _
      · cases prepared
        exact calculated equal _

/-- Induction on the spans: the loop comes to each of them with sound caches. -/
theorem visits_sound {settings : PayloadPrivacySettings} (drifts : env.DriftsSound prices)
    (spans : List SpanSchema) (index : Nat) (state : PrepareState)
    (sound : state.CachesSound prices) :
    ∀ visit ∈ visits (prepareSpan runtime env prices settings projectId) index spans state,
      visit.state.CachesSound prices := by
  induction spans generalizing index state with
  | nil => exact fun visit member => absurd member List.not_mem_nil
  | cons span rest inductionHypothesis =>
      intro visit member
      rcases List.mem_cons.mp member with rfl | later
      · exact sound
      · split at later
        · rename_i prepared next equal
          exact inductionHypothesis _ next (sound.prepareSpan drifts equal) visit later
        · rename_i exception next equal
          split at later
          · cases later
          · exact inductionHypothesis _ next (sound.prepareSpan drifts equal) visit later
        · cases later

theorem attemptVisits_sound {spans : List SpanSchema}
    (drifts : env.DriftsSound world.db.modelPricing)
    (cached : CacheSound world.db.modelPricing world.pricingCache) :
    ∀ visit ∈ attemptVisits runtime env projectId spans world,
      visit.state.CachesSound world.db.modelPricing := by
  have sameDb := startAttempt_db env world
  have sameCache : (startAttempt env world).1.pricingCache = world.pricingCache :=
    startAttempt_keeps (fun _ _ => rfl) env world
  intro visit member
  rw [attemptVisits] at member
  generalize startAttempt env world = started at member sameDb sameCache
  obtain ⟨begun, halt⟩ := started
  cases halt with
  | some halt => cases member
  | none =>
      dsimp only at member sameDb sameCache
      split at member
      · cases member
      · rw [attemptPrepare, sameDb, sameCache] at member
        refine visits_sound drifts spans 0 _ ⟨cached, ?_⟩ visit member
        exact fun name pricing absent => absurd absent List.not_mem_nil

/-! ### The names -/

/-- The provider of an accepted span is the normalised one of its document. -/
theorem provider_of_accepted {validation : Validation} {now : Int} {uuid4 : UUID}
    {entries : List (String × Json)} {span : SpanSchema} {provider : String}
    (accepted : validation.span now uuid4 (.obj entries) = some span)
    (sent : entries.lookup "provider" = some (.str provider)) :
    span.provider = validation.normalizeProvider provider := by
  obtain ⟨found, values, bounds, isDict, _, parsed, built, _⟩ := span_eq_some accepted
  cases isDict
  rw [built, ← provider_of_spanValues parsed sent]
  rfl

/-- The row of `create_pricing` has the names that it made of the body. -/
theorem names_of_created {body : PricingCreate} {createdAt : Int} {catalog : PricingCatalog}
    {row : PricingRow} (created : (createPricing runtime body createdAt catalog).1 = .ok row) :
    row.provider = normalizeName runtime body.provider ∧ row.model = runtime.strip body.model := by
  rw [createPricing] at created
  dsimp only at created
  split at created
  · cases created
  · split at created
    · split at created
      · cases created
        exact ⟨rfl, rfl⟩
      · cases created
    · cases created

/-- The two normalisations of a provider agree where the catalogue has an allowed one. -/
theorem normalizeProvider_eq_iff {validation : Validation} {body : PricingCreate}
    {provider : String}
    (commutes : ∀ text, validation.runtime.strip (validation.runtime.lower text) =
      validation.runtime.lower (validation.runtime.strip text))
    (same : validation.runtime.strip (validation.runtime.lower provider) =
      validation.runtime.strip (validation.runtime.lower body.provider)) :
    validation.normalizeProvider provider = normalizeName validation.runtime body.provider ↔
      normalizeName validation.runtime body.provider ∈ allowedProviders := by
  have folded : validation.runtime.strip (validation.runtime.lower provider) =
      normalizeName validation.runtime body.provider := same.trans (commutes body.provider)
  rw [Validation.normalizeProvider]
  simp only [folded]
  split
  · rename_i allowed
    exact iff_of_true rfl allowed
  · rename_i unknown
    refine iff_of_false (fun custom => unknown ?_) unknown
    rw [← custom]
    decide

/-! ### The lookup in a catalogue of one price -/

section Only

variable {price : ModelPrice} (only : prices.rows = [price])
include only

theorem apart_of_only : PricesApart prices := by
  intro left leftStored right rightStored different
  rw [only, List.mem_singleton] at leftStored rightStored
  exact absurd (leftStored.trans rightStored.symm) different

theorem has_of_only {name : PricedName} {row : ModelPrice} (has : name.Has prices row) :
    row = price ∧ price.provider = name.provider ∧ price.model = name.model := by
  have same : row = price := by
    have stored := has.1
    rwa [only, List.mem_singleton] at stored
  exact ⟨same, same ▸ has.2.1, same ▸ has.2.2⟩

/-- A lookup under another name finds nothing. -/
theorem not_found_of_other {state : LookupState} (sound : state.Sound prices)
    {name : PricedName} (other : ¬ (price.provider = name.provider ∧ price.model = name.model))
    (atTime : Datetime) (pricing : Pricing) (next : BatchPricingIntervals × PricingCache) :
    state.answer runtime prices 0 name atTime ≠ .ok (some pricing, next) := by
  have notLoaded (cached : Pricing) : ¬ name.Loaded prices cached := by
    rintro ⟨row, has, _⟩
    exact other (has_of_only only has).2
  have uncached : NaiveOnlyUncached state (.lookup 0 name atTime) := by
    right
    constructor
    · exact List.eq_nil_iff_forall_not_mem.mpr fun cached member =>
        notLoaded cached ((sound name).1 0 cached member)
    · exact Option.eq_none_iff_forall_not_mem.mpr fun cached member =>
        notLoaded cached ((sound name).2 cached member)
  have selects : (state.answer runtime prices 0 name atTime).map Prod.fst =
      .ok (selectPrice runtime prices name.provider name.model atTime) :=
    answersAsSelect_of_apart (apart_of_only only) sound uncached
  intro answered
  rw [answered] at selects
  have found : selectPrice runtime prices name.provider name.model atTime = some pricing :=
    (Except.ok.inj selects).symm
  rcases selectPrice_cases runtime prices name atTime with ⟨missing, _⟩ | ⟨row, _, has, _⟩
  · rw [missing] at found
    cases found
  · exact other (has_of_only only has).2

/-- Under its own name and inside its validity the price is found, unless a start without an
offset meets a cached price. -/
theorem found_iff_of_own {state : LookupState} (sound : state.Sound prices) {name : PricedName}
    (own : price.provider = name.provider ∧ price.model = name.model) {atTime : Datetime}
    (inside : price.validity.Covers (atTime.toTimestamptz runtime.localInstant)) :
    (∃ next, state.answer runtime prices 0 name atTime = .ok (some price.pricing, next)) ↔
      NaiveOnlyUncached state (.lookup 0 name atTime) := by
  have has : name.Has prices price := ⟨only ▸ List.mem_singleton.mpr rfl, own⟩
  have selected := selectPrice_of_covers (apart_of_only only) has inside
  have selects : AnswersAsSelect runtime prices state (.lookup 0 name atTime) ↔
      ∃ next, state.answer runtime prices 0 name atTime = .ok (some price.pricing, next) := by
    rw [AnswersAsSelect, selected]
    constructor
    · intro same
      cases answered : state.answer runtime prices 0 name atTime with
      | error exception =>
          rw [answered] at same
          cases same
      | ok result =>
          rw [answered] at same
          exact ⟨result.2, by rw [← Except.ok.inj same]⟩
    · rintro ⟨next, answered⟩
      rw [answered]
      rfl
  rw [← selects]
  exact ⟨naiveOnlyUncached_of_answersAsSelect sound,
    answersAsSelect_of_apart (apart_of_only only) sound⟩

end Only

/-- What is prepared of a span whose price is found costs what that price says. -/
theorem cost_of_found {settings : PayloadPrivacySettings} {visit : Visit} {pricing : Pricing}
    {next : BatchPricingIntervals × PricingCache}
    (found : (visit.caches env).answer runtime prices 0 visit.name visit.span.startedAt =
      .ok (some pricing, next)) {prepared : PreparedSpan} {after : PrepareState}
    (prepares : prepareSpan runtime env prices settings projectId visit.index visit.span
      visit.state = (.ok prepared, after)) :
    costOf pricing visit.span.inputTokens visit.span.outputTokens = .ok prepared.costUsd := by
  have lookup : getBatchPricing runtime prices visit.span.provider visit.span.model
      visit.span.startedAt visit.state.intervals
      (env.cacheDrift visit.index visit.state.cache) = .ok (some pricing, next) := found
  rw [prepareSpan] at prepares
  split at prepares
  · cases prepares
  · simp only [calculate, lookup] at prepares
    split at prepares
    · cases prepares
    · rename_i cost intervals cache priced
      split at prepares
      · cases prepares
      · cases prepares
        exact congrArg Prod.fst priced

end

/-- In a catalogue of one price, a span with the names of that price up to letter case and
outer spaces, inside its validity, is priced from it exactly if its provider is one that spans
can have, its model has no outer spaces, and a start without an offset meets no cached price. -/
theorem pricedFrom_iff {validation : Validation}
    (commutes : ∀ text, validation.runtime.strip (validation.runtime.lower text) =
      validation.runtime.lower (validation.runtime.strip text))
    {body : PricingCreate} {createdAt : Int} {catalog : PricingCatalog} {row : PricingRow}
    (created : (createPricing validation.runtime body createdAt catalog).1 = .ok row)
    {env : AttemptEnv} {projectId : UUID} {spans : List SpanSchema} {world : World}
    {price : ModelPrice} (sameNames : price.SameName row.toModelPrice)
    (only : world.db.modelPricing.rows = [price])
    (cached : CacheSound world.db.modelPricing world.pricingCache)
    (drifts : env.DriftsSound world.db.modelPricing) {visit : Visit}
    (visited : visit ∈ attemptVisits validation.runtime env projectId spans world)
    {now : Int} {uuid4 : UUID} {entries : List (String × Json)} {provider : String}
    (accepted : validation.span now uuid4 (.obj entries) = some visit.span)
    (sent : entries.lookup "provider" = some (.str provider))
    (sameProvider : validation.runtime.strip (validation.runtime.lower provider) =
      validation.runtime.strip (validation.runtime.lower body.provider))
    (sameModel : validation.runtime.strip visit.span.model = validation.runtime.strip body.model)
    (inside : price.validity.Covers
      (visit.span.startedAt.toTimestamptz validation.runtime.localInstant)) :
    visit.PricedFrom validation.runtime env projectId world price.pricing ↔
      normalizeName validation.runtime body.provider ∈ allowedProviders ∧
        validation.runtime.strip visit.span.model = visit.span.model ∧
        NaiveOnlyUncached (visit.caches env) (.lookup 0 visit.name visit.span.startedAt) := by
  have sound := (attemptVisits_sound drifts cached visit visited).lookup drifts
  obtain ⟨rowProvider, rowModel⟩ := names_of_created created
  have providers : price.provider = visit.name.provider ↔
      normalizeName validation.runtime body.provider ∈ allowedProviders := by
    rw [← normalizeProvider_eq_iff commutes sameProvider, sameNames.1, rowProvider,
      ← provider_of_accepted accepted sent]
    exact eq_comm
  have models : price.model = visit.name.model ↔
      validation.runtime.strip visit.span.model = visit.span.model := by
    rw [sameNames.2, rowModel, ← sameModel]
    rfl
  rw [← providers, ← models]
  constructor
  · intro priced
    obtain ⟨next, found⟩ := priced.found
    have own : price.provider = visit.name.provider ∧ price.model = visit.name.model := by
      by_contra other
      exact not_found_of_other only sound other _ _ _ found
    exact ⟨own.1, own.2, (found_iff_of_own only sound own inside).mp ⟨next, found⟩⟩
  · rintro ⟨provider, model, uncached⟩
    have found := (found_iff_of_own only sound ⟨provider, model⟩ inside).mpr uncached
    obtain ⟨next, answered⟩ := found
    exact ⟨⟨next, answered⟩, fun prepared after prepares => cost_of_found answered prepares⟩

section Examples

/-- Validation of spans that start at the epoch, where only one text has an outer space. -/
def trimmingValidation : Validation where
  runtime :=
    { Runtime.inUtc with strip := fun text => if text = " gpt-4o" then "gpt-4o" else text }
  uuid? := fun _ => some 3
  uuid5 := fun _ => 0
  int? := fun
    | .int value => some value
    | _ => none
  float? := fun
    | .int value => some value
    | .float value => some value
    | _ => none
  datetime? := fun
    | .str "1970-01-01T00:00:00Z" => some (.utc 0)
    | _ => none
  strLength := fun _ => 2

def spanDocument (model : String) : List (String × Json) :=
  [("trace_id", .str "3"), ("provider", .str "openai"), ("model", .str model),
    ("latency_ms", .int 0), ("started_at", .str "1970-01-01T00:00:00Z")]

theorem gpt4o_le : "gpt-4o".length ≤ 100 := by decide

def gpt4oPrice : PricingCreate where
  provider := "openai"
  model := "gpt-4o"
  inputCostPer1kTokens := 1
  outputCostPer1kTokens := 1
  validFrom := some (.utc 0)
  model_le := gpt4o_le

def gpt4oRow : PricingRow := ⟨⟨"openai", "gpt-4o", 1, 1, 0, none⟩, 1⟩

theorem created_gpt4oRow :
    (createPricing trimmingValidation.runtime gpt4oPrice 0 .empty).1 = .ok gpt4oRow := by
  decide +kernel

/-- A worker whose catalogue has one price. -/
def pricedWorld : World :=
  .ofDatabase { Database.ofProject 1 with
    modelPricing := Table.empty.insertOrSkip gpt4oRow.toModelPrice }

theorem pricedWorld_cacheSound :
    CacheSound pricedWorld.db.modelPricing pricedWorld.pricingCache :=
  fun _ _ absent => by cases absent

theorem faultless_driftsSound (prices : ModelPricingTable) :
    AttemptEnv.faultless.DriftsSound prices := fun _ _ sound => sound

/-- The only span of a batch. -/
def onlyVisit (span : SpanSchema) : Visit :=
  ⟨0, span, ⟨fun _ => none, fun _ => [], fun _ => none⟩⟩

theorem onlyVisit_visited (runtime : Runtime) (span : SpanSchema) :
    onlyVisit span ∈ attemptVisits runtime .faultless 1 [span] pricedWorld :=
  List.mem_cons_self ..

theorem pricedFrom_iff_gpt4o :
    ∃ span, trimmingValidation.span 0 1 (.obj (spanDocument "gpt-4o")) = some span ∧
      ((onlyVisit span).PricedFrom trimmingValidation.runtime .faultless 1 pricedWorld
          gpt4oRow.pricing ↔
        normalizeName trimmingValidation.runtime "openai" ∈ allowedProviders ∧
          trimmingValidation.runtime.strip span.model = span.model ∧
          NaiveOnlyUncached ((onlyVisit span).caches .faultless)
            (.lookup 0 (onlyVisit span).name span.startedAt)) := by
  have known : (trimmingValidation.span 0 1 (.obj (spanDocument "gpt-4o"))).map
      (fun span => (span.model, span.startedAt)) = some ("gpt-4o", .utc 0) := by
    decide +kernel
  obtain ⟨span, accepted, fields⟩ := Option.map_eq_some_iff.mp known
  obtain ⟨model, startedAt⟩ := Prod.mk.inj fields
  refine ⟨span, accepted, ?_⟩
  exact pricedFrom_iff (fun _ => rfl) created_gpt4oRow ⟨rfl, rfl⟩ rfl pricedWorld_cacheSound
    (faultless_driftsSound _) (onlyVisit_visited _ span) accepted rfl rfl
    (by show _ = trimmingValidation.runtime.strip "gpt-4o"; rw [onlyVisit, model])
    (by rw [onlyVisit, startedAt]; decide)

/-- A span with an outer space in its model is accepted, but not priced from the price of the
model, which the catalogue has without it. -/
theorem spacedModel_not_priced :
    ∃ span, trimmingValidation.span 0 1 (.obj (spanDocument " gpt-4o")) = some span ∧
      trimmingValidation.runtime.strip span.model =
        trimmingValidation.runtime.strip gpt4oPrice.model ∧
      gpt4oRow.validity.Covers
        (span.startedAt.toTimestamptz trimmingValidation.runtime.localInstant) ∧
      ¬ (onlyVisit span).PricedFrom trimmingValidation.runtime .faultless 1 pricedWorld
        gpt4oRow.pricing := by
  have known : (trimmingValidation.span 0 1 (.obj (spanDocument " gpt-4o"))).map
      (fun span => (span.model, span.startedAt)) = some (" gpt-4o", .utc 0) := by
    decide +kernel
  obtain ⟨span, accepted, fields⟩ := Option.map_eq_some_iff.mp known
  obtain ⟨model, startedAt⟩ := Prod.mk.inj fields
  refine ⟨span, accepted, by rw [model]; decide, by rw [startedAt]; decide, fun priced => ?_⟩
  obtain ⟨next, found⟩ := priced.found
  have sound := (attemptVisits_sound (faultless_driftsSound _) pricedWorld_cacheSound _
    (onlyVisit_visited trimmingValidation.runtime span)).lookup (faultless_driftsSound _)
  refine not_found_of_other rfl sound (fun own => ?_) _ _ _ found
  have same : gpt4oRow.model = span.model := own.2
  rw [model] at same
  exact absurd same (by decide)

end Examples

end LlmObs.Backend
