import LlmObs.Backend.Workers.ConcurrentBatches
import LlmObs.Backend.Workers.RejectedRows

/-!
Owns the sizes of costs. The decimal context is wide enough for every price and every token
count, so a cost is exact but for one rounding; the columns of a span and of a trace are
narrower, and it says which costs and which sums they hold.
-/

namespace LlmObs.Backend

open LlmObs.Foundation

/-- A price that a `NUMERIC(12, 10)` column holds and that is not negative. -/
structure IsPrice (price : ℚ) : Prop where
  scaled : Decimal.Scaled 10 price
  nonneg : 0 ≤ price
  fits : price < 100

/-- What the tokens cost, before any rounding. -/
def Pricing.exactCost (pricing : Pricing) (inputTokens outputTokens : Nat) : ℚ :=
  (pricing.input * inputTokens + pricing.output * outputTokens) / 1000

/-- The cost is the exact one, rounded once, half to even, to eight decimals, and `cost_usd`
holds it. -/
structure CostStorable (result : Except PyException ℚ) (exact : ℚ) : Prop where
  rounded : result = .ok (Decimal.quantize 8 exact)
  fits : ∀ cost, result = .ok cost → fitsNumeric 12 8 cost = true

/-- `total_tokens` and `total_cost_usd` hold the sums. -/
def TraceAggregates.SumsFit (aggregates : TraceAggregates) : Prop :=
  fitsInteger aggregates.totalTokens = true ∧ fitsNumeric 12 8 aggregates.totalCostUsd = true

/-! ### The arithmetic of a cost -/

/-- The cost of the tokens of one kind is exact. -/
theorem kindCost_eq {price : ℚ} (isPrice : IsPrice price) {tokens : Nat}
    (bound : tokens ≤ 10000000) :
    Decimal.div (Decimal.mul price tokens) 1000 = price * tokens / 1000 ∧
      Decimal.Scaled 13 (price * tokens / 1000) ∧ 0 ≤ price * tokens / 1000 ∧
      price * tokens / 1000 ≤ 10 ^ 6 := by
  have nonneg : 0 ≤ price * tokens := mul_nonneg isPrice.nonneg (Nat.cast_nonneg _)
  have cast : (tokens : ℚ) ≤ 10 ^ 7 := by exact_mod_cast bound
  have limit : price * tokens ≤ 100 * 10 ^ 7 :=
    mul_le_mul isPrice.fits.le cast (Nat.cast_nonneg _) (by norm_num)
  have product := isPrice.scaled.mul_natCast tokens
  have quotient : Decimal.Scaled 13 (price * tokens / 1000) := by
    have shifted := product.div_pow 3
    norm_num at shifted
    exact shifted
  have exactProduct : Decimal.mul price tokens = price * tokens := by
    refine product.inContext ?_
    rw [abs_of_nonneg nonneg, Decimal.contextPrecision]
    linarith
  refine ⟨?_, quotient, by positivity, by linarith⟩
  rw [exactProduct]
  refine quotient.inContext ?_
  rw [abs_of_nonneg (by positivity), Decimal.contextPrecision]
  linarith

/-- The cost is exact up to the one rounding. -/
theorem costOf_eq {pricing : Pricing} (input : IsPrice pricing.input)
    (output : IsPrice pricing.output) {inputTokens outputTokens : Nat}
    (inputBound : inputTokens ≤ 10000000) (outputBound : outputTokens ≤ 10000000) :
    costOf pricing inputTokens outputTokens =
      .ok (Decimal.quantize 8 (pricing.exactCost inputTokens outputTokens)) := by
  obtain ⟨inputExact, inputScaled, inputNonneg, inputLe⟩ := kindCost_eq input inputBound
  obtain ⟨outputExact, outputScaled, outputNonneg, outputLe⟩ := kindCost_eq output outputBound
  have same : pricing.exactCost inputTokens outputTokens =
      pricing.input * inputTokens / 1000 + pricing.output * outputTokens / 1000 := by
    rw [Pricing.exactCost, add_div]
  have sum : Decimal.add (pricing.input * inputTokens / 1000)
      (pricing.output * outputTokens / 1000) =
        pricing.exactCost inputTokens outputTokens := by
    rw [same]
    refine inputScaled.add_eq outputScaled ?_
    rw [abs_of_nonneg (by positivity), Decimal.contextPrecision]
    linarith
  have nonneg : 0 ≤ pricing.exactCost inputTokens outputTokens := by
    rw [same]
    positivity
  -- The coefficient is far below the digits of the context.
  have small : Decimal.quantize 8 (pricing.exactCost inputTokens outputTokens) <
      ((10 ^ 16 : ℤ) : ℚ) / 10 ^ 8 := by
    rw [Decimal.quantize_lt_iff (by norm_num), same]
    norm_num
    linarith
  have fits : |Decimal.quantize 8 (pricing.exactCost inputTokens outputTokens)| * 10 ^ 8 <
      10 ^ Decimal.contextPrecision := by
    rw [abs_of_nonneg (Decimal.quantize_nonneg nonneg), Decimal.contextPrecision]
    norm_num at small ⊢
    linarith
  rw [costOf]
  simp only [inputExact, outputExact, sum, Decimal.quantize?, if_pos fits]

/-- The column holds the rounded cost exactly below half a step under its limit. -/
theorem fitsNumeric_cost {exact : ℚ} (nonneg : 0 ≤ exact) :
    fitsNumeric 12 8 (Decimal.quantize 8 exact) = true ↔
      exact < 10 ^ 4 - 5 / 10 ^ 9 := by
  have limit : ((10 : ℚ) ^ (12 - 8)) = ((10 ^ 12 : ℤ) : ℚ) / 10 ^ 8 := by norm_num
  rw [fitsNumeric, decide_eq_true_eq, (Decimal.scaled_quantize 8 exact).toNumeric,
    abs_of_nonneg (Decimal.quantize_nonneg nonneg), limit,
    Decimal.quantize_lt_iff (by norm_num)]
  norm_num
  constructor <;> intro below <;> linarith

/-- A calculation that finds a price is the arithmetic on it. -/
theorem calculate_of_found {runtime : Runtime} {prices : ModelPricingTable}
    {provider model : String} {atTime : Datetime} {intervals : BatchPricingIntervals}
    {cache : PricingCache} {pricing : Pricing} {next : BatchPricingIntervals × PricingCache}
    (found : getBatchPricing runtime prices provider model atTime intervals cache =
      .ok (some pricing, next)) (inputTokens outputTokens : Nat) :
    (calculate runtime prices provider model inputTokens outputTokens atTime intervals
      cache).1 = costOf pricing inputTokens outputTokens := by
  rw [calculate, found]

/-! ### The sums of a trace -/

theorem sumsFit_iff {interval : ℚ → Int} {rows : List SpanRow}
    (stored : ∀ row ∈ rows, Decimal.Scaled 8 row.costUsd) :
    (aggregateSpans interval rows).SumsFit ↔
      (rows.map fun row => row.inputTokens + row.outputTokens).sum ≤ 2147483647 ∧
        |(rows.map (·.costUsd)).sum| < 10000 := by
  have sum : Decimal.Scaled 8 (rows.map (·.costUsd)).sum :=
    Decimal.scaled_sum fun cost member => by
      obtain ⟨row, isRow, rfl⟩ := List.mem_map.mp member
      exact stored row isRow
  have limit : ((10 : ℚ) ^ (12 - 8)) = 10000 := by norm_num
  have integer (value : Nat) : fitsInteger value = true ↔ value ≤ 2147483647 := by
    rw [fitsInteger, decide_eq_true_eq]
    omega
  rw [TraceAggregates.SumsFit, integer, fitsNumeric, decide_eq_true_eq, aggregateSpans,
    sum.toNumeric, limit]

/-- The cost of a span is exact but for one rounding, and its column holds it exactly if the
tokens cost less than ten thousand, up to half a step. The columns of a trace hold what
`update_trace_aggregates` writes exactly if the tokens and the costs of its spans sum up to no
more. -/
theorem costs_storable_iff (runtime : Runtime) (prices : ModelPricingTable) (span : SpanSchema)
    (intervals : BatchPricingIntervals) (cache : PricingCache) (pricing : Pricing)
    (next : BatchPricingIntervals × PricingCache)
    (found : getBatchPricing runtime prices span.provider span.model span.startedAt intervals
      cache = .ok (some pricing, next))
    (input : IsPrice pricing.input) (output : IsPrice pricing.output)
    (interval : ℚ → Int) (spans : SpanTable) (task : AggregateTask)
    (stored : ∀ row ∈ spans.rows, Decimal.Scaled 8 row.costUsd) :
    (CostStorable
        (calculate runtime prices span.provider span.model span.inputTokens span.outputTokens
          span.startedAt intervals cache).1
        (pricing.exactCost span.inputTokens span.outputTokens) ↔
      pricing.input * span.inputTokens + pricing.output * span.outputTokens <
        10 ^ 7 - 5 / 10 ^ 6) ∧
    ((task.values interval spans).SumsFit ↔
      (((traceSpans task.projectId task.traceId spans.rows).filter
          fun row => task.startedAt ≤ row.startedAt).map
            fun row => row.inputTokens + row.outputTokens).sum ≤ 2147483647 ∧
        |(((traceSpans task.projectId task.traceId spans.rows).filter
          fun row => task.startedAt ≤ row.startedAt).map (·.costUsd)).sum| < 10000) := by
  constructor
  · have calculated := calculate_of_found found span.inputTokens span.outputTokens
    rw [costOf_eq input output span.inputTokens_le span.outputTokens_le] at calculated
    rw [calculated]
    have inputNonneg : 0 ≤ pricing.input * span.inputTokens :=
      mul_nonneg input.nonneg (Nat.cast_nonneg _)
    have outputNonneg : 0 ≤ pricing.output * span.outputTokens :=
      mul_nonneg output.nonneg (Nat.cast_nonneg _)
    have nonneg : 0 ≤ pricing.exactCost span.inputTokens span.outputTokens :=
      div_nonneg (add_nonneg inputNonneg outputNonneg) (by norm_num)
    have column := fitsNumeric_cost nonneg
    have scale : pricing.exactCost span.inputTokens span.outputTokens < 10 ^ 4 - 5 / 10 ^ 9 ↔
        pricing.input * span.inputTokens + pricing.output * span.outputTokens <
          10 ^ 7 - 5 / 10 ^ 6 := by
      rw [Pricing.exactCost]
      constructor <;> intro below <;> linarith
    rw [← scale, ← column]
    constructor
    · exact fun storable => storable.fits _ rfl
    · refine fun fits => ⟨rfl, fun cost same => ?_⟩
      cases same
      exact fits
  · refine sumsFit_iff fun row member => stored row ?_
    exact (mem_traceSpans.mp (List.mem_filter.mp member).1).1

section Examples

/-- A price of one dollar for a thousand tokens. -/
def dollarPrice : Pricing := ⟨1, 1, some (.utc 0), none⟩

theorem isPrice_one : IsPrice 1 := ⟨⟨10 ^ 10, by norm_num⟩, by norm_num, by norm_num⟩

/-- A span with as many input tokens as the schema accepts. -/
def largestSpan : SpanSchema :=
  { spanStartingAt (.utc 0) with
    inputTokens := 10000000
    inputTokens_le := Nat.le_refl _ }

theorem found_dollarPrice :
    getBatchPricing .inUtc Table.empty largestSpan.provider largestSpan.model
        largestSpan.startedAt (fun _ => [dollarPrice]) (fun _ => none) =
      .ok (some dollarPrice, fun _ => [dollarPrice], fun _ => none) := rfl

theorem costs_storable_iff_dollarPrice :
    (CostStorable
        (calculate .inUtc Table.empty largestSpan.provider largestSpan.model
          largestSpan.inputTokens largestSpan.outputTokens largestSpan.startedAt
          (fun _ => [dollarPrice]) (fun _ => none)).1
        (dollarPrice.exactCost 10000000 0) ↔
      (1 : ℚ) * 10000000 + 1 * 0 < 10 ^ 7 - 5 / 10 ^ 6) ∧
    (((⟨1, 1, 0⟩ : AggregateTask).values (fun _ => 0) Table.empty).SumsFit ↔
      0 ≤ 2147483647 ∧ |(0 : ℚ)| < 10000) :=
  costs_storable_iff .inUtc Table.empty largestSpan (fun _ => [dollarPrice]) (fun _ => none)
    dollarPrice (fun _ => [dollarPrice], fun _ => none) found_dollarPrice isPrice_one isPrice_one
    (fun _ => 0) Table.empty ⟨1, 1, 0⟩ (by intro row member; cases member)

/-- Ten million tokens at this price cost more than `cost_usd` holds. -/
theorem largestSpan_not_storable :
    IsPrice dollarPrice.input ∧ IsPrice dollarPrice.output ∧
      ¬ CostStorable
        (calculate .inUtc Table.empty largestSpan.provider largestSpan.model
          largestSpan.inputTokens largestSpan.outputTokens largestSpan.startedAt
          (fun _ => [dollarPrice]) (fun _ => none)).1
        (dollarPrice.exactCost largestSpan.inputTokens largestSpan.outputTokens) := by
  refine ⟨isPrice_one, isPrice_one, fun storable => ?_⟩
  have exact : dollarPrice.exactCost largestSpan.inputTokens largestSpan.outputTokens =
      10 ^ 4 := by
    norm_num [Pricing.exactCost, dollarPrice, largestSpan, spanStartingAt]
  have column := storable.fits _ storable.rounded
  rw [exact, fitsNumeric_cost (by norm_num)] at column
  norm_num at column

end Examples

end LlmObs.Backend
