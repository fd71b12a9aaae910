import LlmObs.Backend.Api.PricingIntervals
import LlmObs.Backend.Schemas.Ingest
import LlmObs.Backend.Services.Cost
import LlmObs.Foundation.Machine
import LlmObs.Foundation.Outcome

/-!
Owns sequences of price lookups without edits in between: any number of
`CostService` objects that share Redis, each with its own batch intervals, and
when what they answer from their caches is what the `SELECT` would answer. The
caches answer with any interval that covers the time, the `SELECT` with the
latest one.
-/

namespace LlmObs.Backend

open LlmObs.Foundation

/-- The provider and model of a validated span. -/
structure PricedName where
  provider : String
  model : String
  provider_mem : provider ∈ allowedProviders := by decide
deriving DecidableEq

namespace PricedName

def pair (name : PricedName) : String × String := (name.provider, name.model)

/-- `_cache_key` -/
def cacheKey (provider model : String) : String :=
  "pricing:" ++ provider ++ ":" ++ model ++ ":active"

theorem eq_of_split {Symbol : Type} {separator : Symbol} {left left' right right' : List Symbol}
    (free : separator ∉ left) (free' : separator ∉ left')
    (same : left ++ separator :: right = left' ++ separator :: right') :
    left = left' ∧ right = right' := by
  induction left generalizing left' with
  | nil =>
      cases left' with
      | nil => simpa using same
      | cons first rest =>
          rw [List.nil_append, List.cons_append, List.cons.injEq] at same
          exact absurd (same.1 ▸ List.mem_cons_self ..) free'
  | cons first rest inductionHypothesis =>
      cases left' with
      | nil =>
          rw [List.nil_append, List.cons_append, List.cons.injEq] at same
          exact absurd (same.1 ▸ List.mem_cons_self ..) free
      | cons first' rest' =>
          rw [List.cons_append, List.cons_append, List.cons.injEq] at same
          have split := inductionHypothesis (fun member => free (List.mem_cons_of_mem _ member))
            (fun member => free' (List.mem_cons_of_mem _ member)) same.2
          exact ⟨by rw [same.1, split.1], split.2⟩

theorem colon_free (name : PricedName) : ':' ∉ name.provider.toList := by
  have all : ∀ provider ∈ allowedProviders, ':' ∉ provider.toList := by decide
  exact all name.provider name.provider_mem

/-- No provider of a span has a colon, so a Redis key belongs to one name. -/
theorem eq_of_cacheKey {left right : PricedName}
    (same : cacheKey left.provider left.model = cacheKey right.provider right.model) :
    left = right := by
  have texts := congrArg String.toList same
  simp only [cacheKey, String.toList_append, List.append_assoc] at texts
  have inner := List.append_cancel_left texts
  have split := eq_of_split left.colon_free right.colon_free inner
  have tails : left.model.toList ++ ":active".toList = right.model.toList ++ ":active".toList :=
    split.2
  have models := List.append_cancel_right tails
  cases left
  cases right
  simp only [mk.injEq]
  exact ⟨String.toList_inj.mp split.1, String.toList_inj.mp models⟩

end PricedName

/-! ### Lookups -/

/-- The batch intervals of every `CostService`, and Redis. -/
structure LookupState where
  intervals : Nat → BatchPricingIntervals
  cache : PricingCache

def LookupState.empty : LookupState := ⟨fun _ _ => [], fun _ => none⟩

inductive LookupAction where
  /-- `_get_batch_pricing` of one service -/
  | lookup (service : Nat) (name : PricedName) (atTime : Datetime)
  /-- A Redis entry reaches its time to live. -/
  | expire (name : PricedName)

section

variable (runtime : Runtime) (prices : ModelPricingTable)

/-- What a lookup returns, with the caches after it. -/
def LookupState.answer (state : LookupState) (service : Nat) (name : PricedName)
    (atTime : Datetime) :
    Except PyException (Option Pricing × BatchPricingIntervals × PricingCache) :=
  getBatchPricing runtime prices name.provider name.model atTime (state.intervals service)
    state.cache

/-- A lookup that raises leaves the caches as they are. -/
def lookupStep (state : LookupState) : LookupAction → LookupState
  | .lookup service name atTime =>
      match state.answer runtime prices service name atTime with
      | .ok (_, intervals, cache) =>
          { intervals := fun other => if other = service then intervals else state.intervals other
            cache := cache }
      | .error _ => state
  | .expire name =>
      { state with cache := fun key => if key = name.pair then none else state.cache key }

def lookupMachine : Machine LookupState LookupAction where
  step state action := some (lookupStep runtime prices state action)

/-- The lookup returns the price that the `SELECT` finds. -/
def AnswersAsSelect (state : LookupState) : LookupAction → Prop
  | .lookup service name atTime =>
      (state.answer runtime prices service name atTime).map Prod.fst =
        .ok (selectPrice runtime prices name.provider name.model atTime)
  | .expire _ => True

/-- A lookup at a time without an offset finds nothing cached for its name. -/
def NaiveOnlyUncached (state : LookupState) : LookupAction → Prop
  | .lookup service name atTime =>
      atTime.Aware ∨ state.intervals service name.pair = [] ∧ state.cache name.pair = none
  | .expire _ => True

/-- No two prices of a name that spans can have are in force together. -/
def PricesApart : Prop :=
  ∀ left ∈ prices.rows, ∀ right ∈ prices.rows, left ≠ right →
    left.provider ∈ allowedProviders → left.SameName right →
      left.validity.Apart right.validity

end

section

variable {runtime : Runtime} {prices : ModelPricingTable} {state : LookupState}
  {name : PricedName} {atTime : Datetime} {service : Nat} {row other : ModelPrice}

/-- The row is stored under the name. -/
def PricedName.Has (name : PricedName) (prices : ModelPricingTable) (row : ModelPrice) : Prop :=
  row ∈ prices.rows ∧ row.provider = name.provider ∧ row.model = name.model

/-! ### The `SELECT` -/

theorem mem_of_latestPrice {rows : List ModelPrice} (latest : latestPrice rows = some row) :
    row ∈ rows ∧ ∀ other ∈ rows, other.validFrom ≤ row.validFrom := by
  induction rows generalizing row with
  | nil => cases latest
  | cons first rest inductionHypothesis =>
      unfold latestPrice at latest
      cases later : latestPrice rest with
      | none =>
          rw [later] at latest
          cases latest
          have none : rest = [] := by
            cases rest with
            | nil => rfl
            | cons second rest =>
                unfold latestPrice at later
                split at later
                · cases later
                · split at later <;> cases later
          subst none
          simp
      | some candidate =>
          rw [later] at latest
          obtain ⟨member, greatest⟩ := inductionHypothesis later
          simp only at latest
          split at latest
          · rename_i notLater
            cases latest
            refine ⟨List.mem_cons_self .., fun other otherMember => ?_⟩
            rcases List.mem_cons.mp otherMember with rfl | otherRest
            · exact le_refl _
            · exact le_trans (greatest other otherRest) notLater
          · rename_i isLater
            cases latest
            refine ⟨List.mem_cons_of_mem _ member, fun other otherMember => ?_⟩
            rcases List.mem_cons.mp otherMember with rfl | otherRest
            · exact le_of_lt (not_le.mp isLater)
            · exact greatest other otherRest

theorem latestPrice_isSome {rows : List ModelPrice} (member : row ∈ rows) :
    ∃ latest, latestPrice rows = some latest := by
  cases rows with
  | nil => cases member
  | cons first rest =>
      unfold latestPrice
      split
      · exact ⟨first, rfl⟩
      · split
        · exact ⟨first, rfl⟩
        · exact ⟨_, rfl⟩

theorem inForce_iff {instant : Int} :
    row.inForce name.provider name.model instant = true ↔
      row.provider = name.provider ∧ row.model = name.model ∧ row.validity.Covers instant := by
  simp [ModelPrice.inForce, HalfOpen.Covers, ModelPrice.validity, Option.all_eq_true, and_assoc]

/-- What the `SELECT` finds is the latest of the prices in force. -/
theorem selectPrice_cases (runtime : Runtime) (prices : ModelPricingTable) (name : PricedName)
    (atTime : Datetime) :
    (selectPrice runtime prices name.provider name.model atTime = none ∧
      ∀ row, name.Has prices row →
        ¬ row.validity.Covers (atTime.toTimestamptz runtime.localInstant)) ∨
    ∃ row, selectPrice runtime prices name.provider name.model atTime = some row.pricing ∧
      name.Has prices row ∧
      row.validity.Covers (atTime.toTimestamptz runtime.localInstant) ∧
      ∀ other, name.Has prices other →
        other.validity.Covers (atTime.toTimestamptz runtime.localInstant) →
        other.validFrom ≤ row.validFrom := by
  unfold selectPrice
  have listed : ∀ row, row ∈ prices.rows.filter (·.inForce name.provider name.model
      (atTime.toTimestamptz runtime.localInstant)) ↔ name.Has prices row ∧
        row.validity.Covers (atTime.toTimestamptz runtime.localInstant) := by
    intro row
    rw [List.mem_filter, inForce_iff]
    simp [PricedName.Has, and_assoc]
  cases latest : latestPrice (prices.rows.filter (·.inForce name.provider name.model
      (atTime.toTimestamptz runtime.localInstant))) with
  | none =>
      left
      refine ⟨rfl, fun row has covers => ?_⟩
      obtain ⟨found, isFound⟩ := latestPrice_isSome ((listed row).mpr ⟨has, covers⟩)
      rw [latest] at isFound
      cases isFound
  | some row =>
      right
      obtain ⟨member, greatest⟩ := mem_of_latestPrice latest
      obtain ⟨has, covers⟩ := (listed row).mp member
      exact ⟨row, rfl, has, covers, fun other otherHas otherCovers =>
        greatest other ((listed other).mpr ⟨otherHas, otherCovers⟩)⟩

/-- Rows of a name that start together are one row. -/
theorem PricedName.Has.eq_of_start (has : name.Has prices row) (otherHas : name.Has prices other)
    (sameStart : row.validFrom = other.validFrom) : row = other := by
  apply Table.eq_of_clash (fun _ _ clash => clash.symm) has.1 otherHas.1
  simp [ModelPrice.uniqueKey, has.2.1, has.2.2, otherHas.2.1, otherHas.2.2, sameStart]

/-- Where prices are apart, the one in force is the one the `SELECT` finds. -/
theorem selectPrice_of_covers (apart : PricesApart prices) (has : name.Has prices row)
    (covers : row.validity.Covers (atTime.toTimestamptz runtime.localInstant)) :
    selectPrice runtime prices name.provider name.model atTime = some row.pricing := by
  rcases selectPrice_cases runtime prices name atTime with
    ⟨_, missing⟩ | ⟨found, selected, foundHas, foundCovers, _⟩
  · exact absurd covers (missing row has)
  · by_cases same : found = row
    · rw [selected, same]
    · have sameName : found.SameName row :=
        ⟨foundHas.2.1.trans has.2.1.symm, foundHas.2.2.trans has.2.2.symm⟩
      have disjoint := apart found foundHas.1 row has.1 same (foundHas.2.1 ▸ name.provider_mem)
        sameName
      exact absurd ⟨foundCovers, covers⟩ (disjoint _)

/-- At its own start a price that is ever in force is the latest one. -/
theorem selectPrice_at_start (has : name.Has prices row)
    (covers : row.validity.Covers row.validFrom) :
    selectPrice runtime prices name.provider name.model (.utc row.validFrom) =
      some row.pricing := by
  rcases selectPrice_cases runtime prices name (.utc row.validFrom) with
    ⟨_, missing⟩ | ⟨found, selected, foundHas, foundCovers, latest⟩
  · rw [Datetime.toTimestamptz_utc] at missing
    exact absurd covers (missing row has)
  · rw [Datetime.toTimestamptz_utc] at foundCovers latest
    have sameStart : found.validFrom = row.validFrom :=
      le_antisymm foundCovers.1 (latest row has covers)
    rw [selected, foundHas.eq_of_start has sameStart]

/-! ### The caches -/

/-- What a cache holds for a name was loaded from a row of it. -/
def PricedName.Loaded (name : PricedName) (prices : ModelPricingTable) (pricing : Pricing) : Prop :=
  ∃ row, name.Has prices row ∧ pricing = row.pricing

def LookupState.Sound (prices : ModelPricingTable) (state : LookupState) : Prop :=
  ∀ name : PricedName,
    (∀ service, ∀ pricing ∈ state.intervals service name.pair, name.Loaded prices pricing) ∧
      ∀ pricing ∈ state.cache name.pair, name.Loaded prices pricing

theorem cachedIntervalCovers_of_aware (runtime : Runtime) (row : ModelPrice)
    (aware : atTime.Aware) :
    cachedIntervalCovers row.pricing atTime =
      .ok (decide (row.validity.Covers (atTime.toTimestamptz runtime.localInstant))) := by
  have starts := (Datetime.aware_utc row.validFrom).le?_eq runtime.localInstant aware
  rw [Datetime.toTimestamptz_utc] at starts
  simp only [cachedIntervalCovers, ModelPrice.pricing, starts, orTypeError, ok_bind]
  by_cases started : row.validFrom ≤ atTime.toTimestamptz runtime.localInstant
  · cases ends : row.validTo with
    | none => simp [started, HalfOpen.Covers, ModelPrice.validity, ends, pure, Except.pure]
    | some validTo =>
        have before := aware.lt?_eq runtime.localInstant (Datetime.aware_utc validTo)
        rw [Datetime.toTimestamptz_utc] at before
        simp [started, HalfOpen.Covers, ModelPrice.validity, ends, before]
  · simp [started, HalfOpen.Covers, ModelPrice.validity, pure, Except.pure]

theorem cachedIntervalCovers_of_naive (naive : ¬ atTime.Aware) :
    cachedIntervalCovers row.pricing atTime = .error mixedDatetimeError := by
  have mixed : (Datetime.utc row.validFrom).le? atTime = none := by
    simp [Datetime.le?, Datetime.key_of_not_aware naive]
  simp [cachedIntervalCovers, ModelPrice.pricing, mixed, orTypeError, error_bind]

/-- Among loaded prices an aware time finds one that covers it, or none does. -/
theorem firstCovering_of_aware (runtime : Runtime) {pricings : List Pricing} (aware : atTime.Aware)
    (loaded : ∀ pricing ∈ pricings, name.Loaded prices pricing) :
    firstCovering atTime pricings = .ok none ∨
      ∃ row, name.Has prices row ∧ row.pricing ∈ pricings ∧
        row.validity.Covers (atTime.toTimestamptz runtime.localInstant) ∧
        firstCovering atTime pricings = .ok (some row.pricing) := by
  induction pricings with
  | nil => exact Or.inl rfl
  | cons first rest inductionHypothesis =>
      obtain ⟨row, has, rfl⟩ := loaded first (List.mem_cons_self ..)
      have answered := cachedIntervalCovers_of_aware runtime row aware
      unfold firstCovering
      rw [answered, ok_bind]
      by_cases covers : row.validity.Covers (atTime.toTimestamptz runtime.localInstant)
      · right
        exact ⟨row, has, List.mem_cons_self .., covers, by simp [covers, pure, Except.pure]⟩
      · rcases inductionHypothesis fun pricing member =>
            loaded pricing (List.mem_cons_of_mem _ member) with missing | ⟨found, foundHas,
              member, foundCovers, isFound⟩
        · left
          simpa [covers] using missing
        · right
          exact ⟨found, foundHas, List.mem_cons_of_mem _ member, foundCovers, by
            simpa [covers] using isFound⟩

theorem firstCovering_of_naive {pricings : List Pricing} (naive : ¬ atTime.Aware)
    (cached : pricings ≠ []) (loaded : ∀ pricing ∈ pricings, name.Loaded prices pricing) :
    firstCovering atTime pricings = .error mixedDatetimeError := by
  cases pricings with
  | nil => exact absurd rfl cached
  | cons first rest =>
      obtain ⟨row, _, rfl⟩ := loaded first (List.mem_cons_self ..)
      unfold firstCovering
      rw [cachedIntervalCovers_of_naive naive, error_bind]

theorem mem_of_firstCovering {pricings : List Pricing} {pricing : Pricing}
    (found : firstCovering atTime pricings = .ok (some pricing)) : pricing ∈ pricings := by
  induction pricings with
  | nil => cases found
  | cons first rest inductionHypothesis =>
      unfold firstCovering at found
      obtain ⟨covers, _, found⟩ := bind_eq_ok.mp found
      cases covers with
      | true =>
          cases found
          exact List.mem_cons_self ..
      | false => exact List.mem_cons_of_mem _ (inductionHypothesis found)

/-! ### One lookup -/

/-- The batch intervals of a service after a fetch. -/
def keepPricing (name : PricedName) (pricing : Pricing) (intervals : BatchPricingIntervals) :
    BatchPricingIntervals :=
  fun key => if key = name.pair then intervals key ++ [pricing] else intervals key

/-- Redis after `setex`. -/
def storePricing (name : PricedName) (pricing : Pricing) (cache : PricingCache) : PricingCache :=
  fun key => if key = name.pair then some pricing else cache key

theorem answer_of_batchHit {pricing : Pricing}
    (hit : firstCovering atTime (state.intervals service name.pair) = .ok (some pricing)) :
    state.answer runtime prices service name atTime =
      .ok (some pricing, state.intervals service, state.cache) := by
  rw [PricedName.pair] at hit
  simp only [LookupState.answer, getBatchPricing, hit, ok_bind]
  rfl

theorem answer_of_redisHit {pricing : Pricing}
    (missed : firstCovering atTime (state.intervals service name.pair) = .ok none)
    (hit : firstCovering atTime (state.cache name.pair).toList = .ok (some pricing)) :
    state.answer runtime prices service name atTime =
      .ok (some pricing, keepPricing name pricing (state.intervals service), state.cache) := by
  rw [PricedName.pair] at missed hit
  simp only [LookupState.answer, getBatchPricing, getPricing, missed, hit, ok_bind]
  rfl

theorem answer_of_missed
    (missed : firstCovering atTime (state.intervals service name.pair) = .ok none)
    (missedRedis : firstCovering atTime (state.cache name.pair).toList = .ok none) :
    state.answer runtime prices service name atTime =
      match selectPrice runtime prices name.provider name.model atTime with
      | none => .ok (none, state.intervals service, state.cache)
      | some pricing =>
          .ok (some pricing, keepPricing name pricing (state.intervals service),
            storePricing name pricing state.cache) := by
  rw [PricedName.pair] at missed missedRedis
  simp only [LookupState.answer, getBatchPricing, getPricing, missed, missedRedis, ok_bind]
  cases selectPrice runtime prices name.provider name.model atTime with
  | none => rfl
  | some pricing => rfl

theorem answer_of_raise {exception : PyException}
    (raises : firstCovering atTime (state.intervals service name.pair) = .error exception ∨
      firstCovering atTime (state.intervals service name.pair) = .ok none ∧
        firstCovering atTime (state.cache name.pair).toList = .error exception) :
    state.answer runtime prices service name atTime = .error exception := by
  simp only [PricedName.pair] at raises
  rcases raises with raises | ⟨missed, raises⟩
  · simp only [LookupState.answer, getBatchPricing, raises, error_bind]
  · simp only [LookupState.answer, getBatchPricing, getPricing, missed, raises, ok_bind,
      error_bind]

/-- A lookup keeps both caches, or adds one price of its name that it returns. -/
theorem answer_cases {result : Option Pricing} {intervals : BatchPricingIntervals}
    {cache : PricingCache} (sound : state.Sound prices)
    (answered : state.answer runtime prices service name atTime =
      .ok (result, intervals, cache)) :
    (intervals = state.intervals service ∧ cache = state.cache) ∨
      ∃ pricing, name.Loaded prices pricing ∧
        intervals = keepPricing name pricing (state.intervals service) ∧
          (cache = state.cache ∨ cache = storePricing name pricing state.cache) := by
  cases batch : firstCovering atTime (state.intervals service name.pair) with
  | error exception =>
      rw [answer_of_raise (Or.inl batch)] at answered
      cases answered
  | ok hit =>
      cases hit with
      | some pricing =>
          rw [answer_of_batchHit batch] at answered
          cases answered
          exact Or.inl ⟨rfl, rfl⟩
      | none =>
          cases redis : firstCovering atTime (state.cache name.pair).toList with
          | error exception =>
              rw [answer_of_raise (Or.inr ⟨batch, redis⟩)] at answered
              cases answered
          | ok hit =>
              cases hit with
              | some pricing =>
                  rw [answer_of_redisHit batch redis] at answered
                  cases answered
                  have cached := Option.mem_toList.mp (mem_of_firstCovering redis)
                  exact Or.inr ⟨pricing, (sound name).2 pricing cached, rfl, Or.inl rfl⟩
              | none =>
                  rw [answer_of_missed batch redis] at answered
                  rcases selectPrice_cases runtime prices name atTime with
                    ⟨missing, _⟩ | ⟨row, found, has, _⟩
                  · rw [missing] at answered
                    cases answered
                    exact Or.inl ⟨rfl, rfl⟩
                  · rw [found] at answered
                    cases answered
                    exact Or.inr ⟨row.pricing, ⟨row, has, rfl⟩, rfl, Or.inr rfl⟩

theorem sound_empty : LookupState.empty.Sound prices := by
  intro name
  constructor
  · intro _ _ member
    cases member
  · intro _ member
    cases member

theorem PricedName.eq_of_pair {left right : PricedName} (same : left.pair = right.pair) :
    left = right := by
  cases left
  cases right
  simpa [PricedName.pair] using same

theorem sound_keepPricing {pricing : Pricing} {intervals : BatchPricingIntervals}
    (sound : ∀ name : PricedName, ∀ pricing ∈ intervals name.pair, name.Loaded prices pricing)
    (loaded : name.Loaded prices pricing) (other : PricedName) :
    ∀ found ∈ keepPricing name pricing intervals other.pair, other.Loaded prices found := by
  intro found member
  unfold keepPricing at member
  split at member
  · rename_i same
    rw [PricedName.eq_of_pair same] at member ⊢
    rcases List.mem_append.mp member with old | new
    · exact sound name found old
    · rw [List.mem_singleton.mp new]
      exact loaded
  · exact sound other found member

theorem sound_storePricing {pricing : Pricing} {cache : PricingCache}
    (sound : ∀ name : PricedName, ∀ pricing ∈ cache name.pair, name.Loaded prices pricing)
    (loaded : name.Loaded prices pricing) (other : PricedName) :
    ∀ found ∈ storePricing name pricing cache other.pair, other.Loaded prices found := by
  intro found member
  unfold storePricing at member
  split at member
  · rename_i same
    rw [PricedName.eq_of_pair same]
    cases member
    exact loaded
  · exact sound other found member

theorem sound_lookupStep (sound : state.Sound prices) (action : LookupAction) :
    (lookupStep runtime prices state action).Sound prices := by
  cases action with
  | lookup service name atTime =>
      simp only [lookupStep]
      split
      · rename_i result intervals cache answered
        intro other
        rcases answer_cases sound answered with ⟨rfl, rfl⟩ | ⟨pricing, loaded, rfl, caches⟩
        · constructor
          · intro anyService
            simp only
            split
            · exact (sound other).1 service
            · exact (sound other).1 anyService
          · exact (sound other).2
        · constructor
          · intro anyService
            simp only
            split
            · exact sound_keepPricing (fun name => (sound name).1 service) loaded other
            · exact (sound other).1 anyService
          · rcases caches with rfl | rfl
            · exact (sound other).2
            · exact sound_storePricing (fun name => (sound name).2) loaded other
      · exact sound
  | expire name =>
      intro other
      refine ⟨(sound other).1, fun pricing cached => ?_⟩
      simp only [lookupStep] at cached
      split at cached
      · cases cached
      · exact (sound other).2 pricing cached

/-! ### Which lookups answer as the `SELECT` -/

/-- Where prices are apart, a lookup at a time with an offset, or with nothing
cached, finds the price of the `SELECT`. -/
theorem answersAsSelect_of_apart (apart : PricesApart prices) (sound : state.Sound prices)
    {action : LookupAction} (meets : NaiveOnlyUncached state action) :
    AnswersAsSelect runtime prices state action := by
  cases action with
  | expire name => trivial
  | lookup service name atTime =>
      have missed : firstCovering atTime (state.intervals service name.pair) = .ok none →
          firstCovering atTime (state.cache name.pair).toList = .ok none →
          AnswersAsSelect runtime prices state (.lookup service name atTime) := by
        intro missed missedRedis
        show Except.map Prod.fst (state.answer runtime prices service name atTime) = _
        rw [answer_of_missed missed missedRedis]
        cases selectPrice runtime prices name.provider name.model atTime with
        | none => rfl
        | some pricing => rfl
      rcases meets with aware | ⟨noIntervals, noCache⟩
      · rcases firstCovering_of_aware runtime aware ((sound name).1 service) with
          batchMissed | ⟨row, has, _, covers, hit⟩
        · have loaded : ∀ pricing ∈ (state.cache name.pair).toList, name.Loaded prices pricing :=
            fun pricing member => (sound name).2 pricing (Option.mem_toList.mp member)
          rcases firstCovering_of_aware runtime aware loaded with
            redisMissed | ⟨row, has, _, covers, hit⟩
          · exact missed batchMissed redisMissed
          · show Except.map Prod.fst (state.answer runtime prices service name atTime) = _
            rw [answer_of_redisHit batchMissed hit, selectPrice_of_covers apart has covers]
            rfl
        · show Except.map Prod.fst (state.answer runtime prices service name atTime) = _
          rw [answer_of_batchHit hit, selectPrice_of_covers apart has covers]
          rfl
      · apply missed
        · rw [noIntervals]
          rfl
        · rw [noCache]
          rfl

/-- A lookup at a time without an offset raises as soon as anything is cached. -/
theorem naiveOnlyUncached_of_answersAsSelect (sound : state.Sound prices)
    {action : LookupAction} (answers : AnswersAsSelect runtime prices state action) :
    NaiveOnlyUncached state action := by
  cases action with
  | expire name => trivial
  | lookup service name atTime =>
      by_cases aware : atTime.Aware
      · exact Or.inl aware
      · right
        have returns : state.answer runtime prices service name atTime ≠
            .error mixedDatetimeError := by
          intro raises
          rw [AnswersAsSelect, raises] at answers
          cases answers
        have noIntervals : state.intervals service name.pair = [] := by
          by_contra cached
          exact returns (answer_of_raise
            (Or.inl (firstCovering_of_naive aware cached ((sound name).1 service))))
        refine ⟨noIntervals, ?_⟩
        by_contra cached
        apply returns
        apply answer_of_raise
        right
        refine ⟨by rw [noIntervals]; rfl, ?_⟩
        have loaded : ∀ pricing ∈ (state.cache name.pair).toList, name.Loaded prices pricing :=
          fun pricing member => (sound name).2 pricing (Option.mem_toList.mp member)
        apply firstCovering_of_naive aware _ loaded
        intro empty
        exact cached (Option.toList_eq_nil_iff.mp empty)

/-- Two prices that meet: the earlier one is cached at its start, and then answers
for the start of the later one. -/
theorem exists_wrongLookup (runtime : Runtime) {left right : ModelPrice}
    (leftHas : name.Has prices left) (rightHas : name.Has prices right)
    (earlier : left.validFrom < right.validFrom) (meet : ¬ left.validity.Apart right.validity) :
    ∃ actions, (lookupMachine runtime prices).Along NaiveOnlyUncached .empty actions ∧
      ¬ (lookupMachine runtime prices).Along (AnswersAsSelect runtime prices) .empty actions := by
  rw [HalfOpen.apart_iff_of_le (le_of_lt earlier), not_not] at meet
  obtain ⟨leftCovers, rightCovers⟩ := meet
  have leftStarts : left.validity.Covers left.validFrom :=
    leftCovers.of_le (le_refl _) (le_of_lt earlier)
  have first : LookupState.empty.answer runtime prices 0 name (.utc left.validFrom) =
      .ok (some left.pricing, keepPricing name left.pricing fun _ => [],
        storePricing name left.pricing fun _ => none) := by
    rw [answer_of_missed rfl rfl, selectPrice_at_start leftHas leftStarts]
    rfl
  let next := lookupStep runtime prices .empty (.lookup 0 name (.utc left.validFrom))
  have cached : next.intervals 0 name.pair = [left.pricing] := by
    simp only [next, lookupStep, first]
    simp [keepPricing]
  have hit : firstCovering (.utc right.validFrom) (next.intervals 0 name.pair) =
      .ok (some left.pricing) := by
    have covers : left.validity.Covers
        ((Datetime.utc right.validFrom).toTimestamptz runtime.localInstant) := by
      rw [Datetime.toTimestamptz_utc]
      exact leftCovers
    rw [cached]
    unfold firstCovering
    rw [cachedIntervalCovers_of_aware runtime left (Datetime.aware_utc _), ok_bind,
      decide_eq_true covers]
    rfl
  refine ⟨[.lookup 0 name (.utc left.validFrom), .lookup 0 name (.utc right.validFrom)],
    ⟨Or.inl (Datetime.aware_utc _), fun _ _ => ⟨Or.inl (Datetime.aware_utc _),
      fun _ _ => trivial⟩⟩, ?_⟩
  intro answers
  have second := (answers.2 next rfl).1
  rw [AnswersAsSelect, answer_of_batchHit hit,
    selectPrice_at_start rightHas rightCovers] at second
  have samePrice : left.pricing = right.pricing := by simpa [Except.map] using second
  have sameStart : left.validFrom = right.validFrom := by
    simpa [ModelPrice.pricing, Datetime.utc] using congrArg Pricing.validFrom samePrice
  exact absurd sameStart (ne_of_lt earlier)

end

/-! ### The tables that edits leave behind -/

/-- `model_pricing` without the columns that no lookup reads. -/
def PricingTable.prices (table : PricingTable) : ModelPricingTable :=
  ⟨table.rows.map (·.toModelPrice), by
    rw [List.pairwise_map]
    exact table.unique.imp fun distinct sameKey => distinct (Or.inr sameKey)⟩

/-- Edits that keep the intervals disjoint keep the prices apart. -/
theorem pricesApart_of_disjoint {catalog : PricingCatalog} (disjoint : catalog.IntervalsDisjoint) :
    PricesApart catalog.table.prices := by
  intro left leftStored right rightStored different _ sameName
  obtain ⟨leftRow, leftMember, rfl⟩ := List.mem_map.mp leftStored
  obtain ⟨rightRow, rightMember, rfl⟩ := List.mem_map.mp rightStored
  apply disjoint.2 leftRow leftMember rightRow rightMember _ sameName
  intro sameId
  exact different (congrArg _ (PricingTable.row_eq_of_id leftMember rightMember sameId))

/-- In a sequence of lookups that all answer as the `SELECT`, no time without an
offset meets a cached price; and this is enough if and only if no two prices of a
name that spans can have are in force together. -/
theorem answersAsSelect_iff_apart (runtime : Runtime) (prices : ModelPricingTable) :
    (∀ actions, (lookupMachine runtime prices).Along (AnswersAsSelect runtime prices) .empty
        actions → (lookupMachine runtime prices).Along NaiveOnlyUncached .empty actions) ∧
      ((∀ actions, (lookupMachine runtime prices).Along NaiveOnlyUncached .empty actions →
          (lookupMachine runtime prices).Along (AnswersAsSelect runtime prices) .empty actions) ↔
        PricesApart prices) := by
  have preserved : ∀ state action next, LookupState.Sound prices state →
      (lookupMachine runtime prices).step state action = some next →
        LookupState.Sound prices next := by
    intro state action next sound stepped
    cases stepped
    exact sound_lookupStep sound action
  refine ⟨fun actions => ?_, fun enough => ?_, fun apart actions => ?_⟩
  · exact Machine.Along.mono preserved
      (fun _ _ sound => naiveOnlyUncached_of_answersAsSelect sound) sound_empty
  · intro left leftStored right rightStored different allowed sameName
    by_contra meet
    let name : PricedName := ⟨left.provider, left.model, allowed⟩
    have leftHas : name.Has prices left := ⟨leftStored, rfl, rfl⟩
    have rightHas : name.Has prices right := ⟨rightStored, sameName.1.symm, sameName.2.symm⟩
    rcases lt_trichotomy left.validFrom right.validFrom with earlier | same | later
    · obtain ⟨actions, meets, wrong⟩ := exists_wrongLookup runtime leftHas rightHas earlier meet
      exact wrong (enough actions meets)
    · exact different (leftHas.eq_of_start rightHas same)
    · obtain ⟨actions, meets, wrong⟩ := exists_wrongLookup runtime rightHas leftHas later
        fun apart => meet apart.symm
      exact wrong (enough actions meets)
  · exact Machine.Along.mono preserved
      (fun _ _ sound => answersAsSelect_of_apart apart sound) sound_empty

instance (runtime : Runtime) (prices : ModelPricingTable) (state : LookupState)
    (action : LookupAction) : Decidable (AnswersAsSelect runtime prices state action) :=
  match action with
  | .lookup _ _ _ => inferInstanceAs (Decidable (_ = _))
  | .expire _ => isTrue trivial

def claudeSonnet : PricedName := ⟨"anthropic", "claude-sonnet", by decide⟩

/-- A price and its successor. -/
theorem answersAsSelect_iff_apart_successor :
    ∃ catalog, (pricingMachine .inUtc).run .empty [priceFrom 10, priceFrom 20] = some catalog ∧
      ∀ actions, (lookupMachine .inUtc catalog.table.prices).Along NaiveOnlyUncached .empty
          actions →
        (lookupMachine .inUtc catalog.table.prices).Along
          (AnswersAsSelect .inUtc catalog.table.prices) .empty actions :=
  ⟨_, rfl, (answersAsSelect_iff_apart .inUtc _).2.mpr
    (pricesApart_of_disjoint (by decide +kernel))⟩

/-- After a back-dated price, a lookup at its start caches it and the next one gets
it where the `SELECT` finds the later price. -/
theorem backDatedPrice_answersFromCache :
    ∃ catalog, (pricingMachine .inUtc).run .empty [priceFrom 10, priceFrom 5] = some catalog ∧
      ¬ (lookupMachine .inUtc catalog.table.prices).Along
        (AnswersAsSelect .inUtc catalog.table.prices) .empty
        [.lookup 0 claudeSonnet (.utc 5), .lookup 0 claudeSonnet (.utc 10)] :=
  ⟨_, rfl, by decide +kernel⟩

end LlmObs.Backend
