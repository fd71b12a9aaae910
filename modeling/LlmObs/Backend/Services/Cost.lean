import LlmObs.Backend.Models
import LlmObs.Backend.Runtime
import LlmObs.Foundation.Decimal

/-!
Owns the cost of a span: the price in force at its start, looked up in the
intervals of the batch, then in Redis, then in `model_pricing`, and the decimal
arithmetic on it. It does not own the edits of `model_pricing`.
-/

namespace LlmObs.Backend

open LlmObs.Foundation

/-- A price as the caches keep it. -/
structure Pricing where
  input : ℚ
  output : ℚ
  validFrom : Option Datetime
  validTo : Option Datetime
deriving DecidableEq, Repr

/-- What `pricing:{provider}:{model}:active` holds. -/
abbrev PricingCache := String × String → Option Pricing

/-- `_batch_pricing_intervals` of one `CostService`. -/
abbrev BatchPricingIntervals := String × String → List Pricing

/-- `_cached_interval_covers` -/
def cachedIntervalCovers (pricing : Pricing) (atTime : Datetime) : Except PyException Bool :=
  match pricing.validFrom with
  | none => .ok false
  | some validFrom => do
      if ← orTypeError (validFrom.le? atTime) then
        match pricing.validTo with
        | none => return true
        | some validTo => orTypeError (atTime.lt? validTo)
      else return false

/-- The first listed price that covers `atTime`. -/
def firstCovering (atTime : Datetime) : List Pricing → Except PyException (Option Pricing)
  | [] => .ok none
  | pricing :: rest => do
      if ← cachedIntervalCovers pricing atTime then return some pricing
      else firstCovering atTime rest

/-- The `WHERE` clause of `_get_pricing`. -/
def ModelPrice.inForce (provider model : String) (instant : Int) (row : ModelPrice) : Bool :=
  decide (row.provider = provider) && decide (row.model = model) &&
    decide (row.validFrom ≤ instant) && row.validTo.all fun validTo => decide (instant < validTo)

/-- `ORDER BY valid_from DESC LIMIT 1`. -/
def latestPrice : List ModelPrice → Option ModelPrice
  | [] => none
  | row :: rest =>
      match latestPrice rest with
      | none => some row
      | some later => if later.validFrom ≤ row.validFrom then some row else some later

def ModelPrice.pricing (row : ModelPrice) : Pricing where
  input := row.inputCostPer1kTokens
  output := row.outputCostPer1kTokens
  validFrom := some (.utc row.validFrom)
  validTo := row.validTo.map .utc

/-- The row that the `SELECT` of `_get_pricing` returns. -/
def selectPrice (runtime : Runtime) (prices : ModelPricingTable) (provider model : String)
    (atTime : Datetime) : Option Pricing :=
  (latestPrice (prices.rows.filter
    (·.inForce provider model (atTime.toTimestamptz runtime.localInstant)))).map (·.pricing)

/-- `_get_pricing`: the price, and Redis afterwards. -/
def getPricing (runtime : Runtime) (prices : ModelPricingTable) (provider model : String)
    (atTime : Datetime) (cache : PricingCache) :
    Except PyException (Option Pricing × PricingCache) := do
  match ← firstCovering atTime (cache (provider, model)).toList with
  | some cached => return (some cached, cache)
  | none =>
      match selectPrice runtime prices provider model atTime with
      | none => return (none, cache)
      | some pricing =>
          return (some pricing,
            fun key => if key = (provider, model) then some pricing else cache key)

/-- `_get_batch_pricing`: the price, and both caches afterwards. -/
def getBatchPricing (runtime : Runtime) (prices : ModelPricingTable) (provider model : String)
    (atTime : Datetime) (intervals : BatchPricingIntervals) (cache : PricingCache) :
    Except PyException (Option Pricing × BatchPricingIntervals × PricingCache) := do
  match ← firstCovering atTime (intervals (provider, model)) with
  | some pricing => return (some pricing, intervals, cache)
  | none =>
      match ← getPricing runtime prices provider model atTime cache with
      | (none, cache) => return (none, intervals, cache)
      | (some fetched, cache) =>
          return (some fetched,
            fun key =>
              if key = (provider, model) then intervals key ++ [fetched] else intervals key,
            cache)

def invalidOperationError : PyException :=
  ⟨.invalidOperation, "[<class 'decimal.InvalidOperation'>]"⟩

/-- The arithmetic of `calculate`. -/
def costOf (pricing : Pricing) (inputTokens outputTokens : Nat) : Except PyException ℚ :=
  let inputCost := Decimal.div (Decimal.mul pricing.input inputTokens) 1000
  let outputCost := Decimal.div (Decimal.mul pricing.output outputTokens) 1000
  match Decimal.quantize? 8 (Decimal.add inputCost outputCost) with
  | some cost => .ok cost
  | none => .error invalidOperationError

/-- `CostService.calculate`: the cost, and both caches afterwards. -/
def calculate (runtime : Runtime) (prices : ModelPricingTable) (provider model : String)
    (inputTokens outputTokens : Nat) (atTime : Datetime) (intervals : BatchPricingIntervals)
    (cache : PricingCache) : Except PyException ℚ × BatchPricingIntervals × PricingCache :=
  match getBatchPricing runtime prices provider model atTime intervals cache with
  | .error exception => (.error exception, intervals, cache)
  | .ok (none, intervals, cache) => (.ok 0, intervals, cache)
  | .ok (some pricing, intervals, cache) =>
      (costOf pricing inputTokens outputTokens, intervals, cache)

end LlmObs.Backend
