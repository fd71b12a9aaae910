import LlmObs.Backend.Api.Pricing
import LlmObs.Backend.Services.CostLookups
import LlmObs.Foundation.CacheCoherence

/-!
Owns price lookups that run beside price edits: any number of `CostService` objects,
each lookup a Redis `get`, a `SELECT` and a Redis `setex`, and any number of edits of
`model_pricing`, each a commit and the calls of `invalidate_pricing_cache`. It says
when a service created after an edit has returned uses no price that the edit
replaced. How Redis matches a pattern is a parameter.
-/

namespace LlmObs.Backend

open LlmObs.Foundation

/-! ### Invalidation -/

/-- `legacy_key` -/
def legacyPricingKey (provider model : String) : String :=
  "pricing:" ++ provider ++ ":" ++ model

/-- `invalidate_pricing_cache` -/
def invalidatePricingCache (glob : String → String → Bool) (provider model : String) :
    Invalidation String :=
  .scan (legacyPricingKey provider model) (glob (legacyPricingKey provider model ++ ":*"))
    (PricedName.cacheKey provider model)

def globSpecials : List Char := ['*', '?', '[', ']', '\\']

/-- No character of the text is special in a pattern. -/
def globPlain (text : String) : Bool :=
  text.toList.all fun character => !globSpecials.contains character

theorem globPlain_append (left right : String) :
    globPlain (left ++ right) = (globPlain left && globPlain right) := by
  simp [globPlain, String.toList_append]

/-- What the pattern of a `SCAN` promises: a text without special characters matches
itself, and a star matches everything. -/
structure GlobLaws (glob : String → String → Bool) : Prop where
  literal : ∀ plain pattern text : String, globPlain plain = true →
    glob (plain ++ pattern) (plain ++ text) = glob pattern text
  star : ∀ text, glob "*" text = true

/-- The pattern for a model without special characters matches the key that lookups
of it write. -/
theorem pattern_of_plain {glob : String → String → Bool} (laws : GlobLaws glob)
    (name : PricedName) (plain : globPlain name.model = true) :
    (invalidatePricingCache glob name.provider name.model).pattern
      (PricedName.cacheKey name.provider name.model) = true := by
  have providers : ∀ provider ∈ allowedProviders, globPlain provider = true := by
    decide +kernel
  have pricingText : globPlain "pricing:" = true := by decide +kernel
  have colonText : globPlain ":" = true := by decide +kernel
  have fixed : globPlain (legacyPricingKey name.provider name.model ++ ":") = true := by
    simp only [legacyPricingKey, globPlain_append, pricingText, colonText, plain,
      providers name.provider name.provider_mem, Bool.and_self]
  have patternText : legacyPricingKey name.provider name.model ++ ":*" =
      legacyPricingKey name.provider name.model ++ ":" ++ "*" := by
    rw [String.append_assoc]
    rfl
  have keyText : PricedName.cacheKey name.provider name.model =
      legacyPricingKey name.provider name.model ++ ":" ++ "active" := by
    rw [String.append_assoc]
    rfl
  show glob (legacyPricingKey name.provider name.model ++ ":*") _ = true
  rw [patternText, keyText, laws.literal _ _ _ fixed]
  exact laws.star _

/-! ### Lookups beside edits -/

structure PriceQuery where
  name : PricedName
  atTime : Datetime
deriving DecidableEq

/-- `_get_batch_pricing` of every service, and the three edits. -/
def cachedPricing (runtime : Runtime) (glob : String → String → Bool) :
    CacheAside PricingCatalog PriceQuery PricingRequest String Pricing Pricing PyException where
  key query := PricedName.cacheKey query.name.provider query.name.model
  select catalog query :=
    selectPrice runtime catalog.table.prices query.name.provider query.name.model query.atTime
  find query := firstCovering query.atTime
  find_mem _ _ _ found := mem_of_firstCovering found
  admits _ _ := true
  encode := id
  commit catalog request :=
    match request.answer runtime catalog with
    | (.ok row, next) => (next, some (invalidatePricingCache glob row.provider row.model))
    | (.error _, next) => (next, none)
  keeps := true

abbrev PricingState := CacheAside.State PricingCatalog PriceQuery String Pricing Pricing

abbrev PricingAction := CacheAside.Action PriceQuery PricingRequest String

/-- Some catalog committed since an edit holds the price under the name. -/
def HeldSince (catalogs : List PricingCatalog) (name : PricedName) (pricing : Pricing) : Prop :=
  ∃ catalog ∈ catalogs, ∃ row ∈ catalog.table.rows,
    row.provider = name.provider ∧ row.model = name.model ∧ row.pricing = pricing

instance (catalogs : List PricingCatalog) (name : PricedName) (pricing : Pricing) :
    Decidable (HeldSince catalogs name pricing) :=
  inferInstanceAs (Decidable (∃ _ ∈ _, ∃ _ ∈ _, _))

/-- What a service uses, if it was created after the edit had returned, is not a
price that the edit replaced. -/
def EditTakesEffect (state : PricingState) (service edit : Nat) : Prop :=
  ∀ client ∈ state.clients service, ∀ writer ∈ state.writers edit, client.after edit = true →
    ∀ answer ∈ client.phase.used?,
      PricedName.cacheKey answer.1.name.provider answer.1.name.model =
          writer.invalidation.stale →
        HeldSince writer.since answer.1.name answer.2

/-! ### Edits take effect -/

section

variable {runtime : Runtime} {glob : String → String → Bool} {catalog : PricingCatalog}

/-- A current price of a key is held under the name that the key belongs to. -/
theorem heldSince_of_current {writer : CacheAside.Writer PricingCatalog String}
    {query : PriceQuery} {pricing : Pricing}
    (current : (cachedPricing runtime glob).Current writer pricing)
    (same : PricedName.cacheKey query.name.provider query.name.model =
      writer.invalidation.stale) :
    HeldSince writer.since query.name pricing := by
  obtain ⟨supplier, committed, asked, selected, askedKey, answered, rfl⟩ := current
  have sameName : asked.name = query.name := PricedName.eq_of_cacheKey (askedKey.trans same.symm)
  change selectPrice runtime supplier.table.prices asked.name.provider asked.name.model
    asked.atTime = some selected at answered
  rcases selectPrice_cases runtime supplier.table.prices asked.name asked.atTime with
    ⟨missing, _⟩ | ⟨row, found, ⟨stored, provider, model⟩, _⟩
  · rw [missing] at answered
    cases answered
  · rw [found] at answered
    cases answered
    obtain ⟨pricingRow, member, rfl⟩ := List.mem_map.mp stored
    exact ⟨supplier, committed, pricingRow, member, sameName ▸ provider, sameName ▸ model, rfl⟩

/-- In a run in which no lookup writes a price back after an edit of it has cleared
Redis, and no pattern misses such a price, every edit that has returned takes
effect. -/
theorem editsTakeEffect_of_storesCurrent (runtime : Runtime) (glob : String → String → Bool)
    (catalog : PricingCatalog) (cache : String → Option Pricing) (actions : List PricingAction)
    (state : PricingState)
    (along : (CacheAside.machine (cachedPricing runtime glob)).Along
      (CacheAside.StoresCurrent (cachedPricing runtime glob)) (.initial catalog cache) actions)
    (reached : (CacheAside.machine (cachedPricing runtime glob)).run (.initial catalog cache)
      actions = some state) (service edit : Nat) :
    EditTakesEffect state service edit := by
  rintro client opened writer committed after ⟨query, pricing⟩ used same
  have phase : client.phase = .used query pricing :=
    CacheAside.ClientPhase.eq_used_of_used? used
  have current := CacheAside.current_of_run along reached opened phase after committed same
  exact heldSince_of_current current same

end

instance (state : PricingState) (service edit : Nat) :
    Decidable (EditTakesEffect state service edit) :=
  inferInstanceAs (Decidable (∀ _ ∈ _, ∀ _ ∈ _, _ → ∀ _ ∈ _, _ → _))

/-! ### Two orders of the same steps -/

/-- How patterns without special characters but a last star match. -/
def prefixGlob (pattern key : String) : Bool := pattern.toList.dropLast.isPrefixOf key.toList

/-- One price from 10 on. -/
def pricedCatalog : PricingCatalog := ((priceFrom 10).answer .inUtc .empty).2

def claudeAt (atTime : Int) : PriceQuery := ⟨claudeSonnet, .utc atTime⟩

/-- The price is doubled. -/
def doublePrice : PricingAction :=
  .commit 0 ⟨true, .updatePricing 1 ⟨some (2 / 1000), some (4 / 1000), none, none,
    by decide +kernel, by decide +kernel⟩⟩

def invalidateClaude : List PricingAction :=
  [.writer 0 (.pass (PricedName.cacheKey "anthropic" "claude-sonnet")), .writer 0 .endScan,
    .writer 0 .delete, .writer 0 .respond]

/-- A service looks the price up, and one created after the edit does so again. -/
def editBetweenLookups : List PricingAction :=
  [.openClient 0, .client 0 (.begin (claudeAt 20)), .client 0 .get, .client 0 .select,
    .client 0 (.setex true), doublePrice] ++ invalidateClaude ++
  [.openClient 1, .client 1 (.begin (claudeAt 20)), .client 1 .get, .client 1 .select,
    .client 1 (.setex true)]

theorem editsTakeEffect_of_storesCurrent_between :
    ∃ state, (CacheAside.machine (cachedPricing .inUtc prefixGlob)).run
        (.initial pricedCatalog fun _ => none) editBetweenLookups = some state ∧
      EditTakesEffect state 1 0 := by
  have runs : ((CacheAside.machine (cachedPricing .inUtc prefixGlob)).run
      (.initial pricedCatalog fun _ => none) editBetweenLookups).isSome = true := by
    decide +kernel
  obtain ⟨state, reached⟩ := Option.isSome_iff_exists.mp runs
  have along : (CacheAside.machine (cachedPricing .inUtc prefixGlob)).Along
      (CacheAside.StoresCurrent (cachedPricing .inUtc prefixGlob))
      (.initial pricedCatalog fun _ => none) editBetweenLookups :=
    CacheAside.along_storesCurrent_of_selected (by decide +kernel)
  exact ⟨state, reached, editsTakeEffect_of_storesCurrent .inUtc prefixGlob pricedCatalog
    (fun _ => none) editBetweenLookups state along reached 1 0⟩

/-- The price is doubled between the `SELECT` of a lookup and its `setex`. -/
def editInsideLookup : List PricingAction :=
  [.openClient 0, .client 0 (.begin (claudeAt 20)), .client 0 .get, .client 0 .select,
    doublePrice] ++ invalidateClaude ++
  [.client 0 (.setex true), .openClient 1, .client 1 (.begin (claudeAt 20)), .client 1 .get]

/-- The service created after the edit has returned uses the price it replaced. -/
theorem editInsideLookup_usesReplaced :
    ∃ state, (CacheAside.machine (cachedPricing .inUtc prefixGlob)).run
        (.initial pricedCatalog fun _ => none) editInsideLookup = some state ∧
      ¬ EditTakesEffect state 1 0 := by
  have misused : ∃ state ∈ (CacheAside.machine (cachedPricing .inUtc prefixGlob)).run
      (.initial pricedCatalog fun _ => none) editInsideLookup,
        ¬ EditTakesEffect state 1 0 := by
    decide +kernel
  exact misused

end LlmObs.Backend
