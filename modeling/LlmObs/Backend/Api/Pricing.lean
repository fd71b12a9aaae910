import LlmObs.Backend.Models
import LlmObs.Backend.Runtime
import LlmObs.Foundation.Decimal
import LlmObs.Foundation.HalfOpen

/-!
Owns the edits of `model_pricing`: `create_pricing`, `update_pricing` and
`end_pricing`, with the request bodies that validation lets through and the
errors that leave the table as it is. It does not own the cache invalidation
that follows a commit, nor the lookups.
-/

namespace LlmObs.Backend

open LlmObs.Foundation

/-- `[valid_from, valid_to)`. -/
def ModelPrice.validity (row : ModelPrice) : HalfOpen Int := ⟨row.validFrom, row.validTo⟩

def ModelPrice.SameName (left right : ModelPrice) : Prop :=
  left.provider = right.provider ∧ left.model = right.model

instance (left right : ModelPrice) : Decidable (left.SameName right) :=
  inferInstanceAs (Decidable (_ ∧ _))

/-- A stored row of `model_pricing`. -/
structure PricingRow extends ModelPrice where
  id : Int
deriving DecidableEq, Repr

/-- `PRIMARY KEY (id)` and `UNIQUE (provider, model, valid_from)`. -/
def PricingRow.Clash (left right : PricingRow) : Prop :=
  left.id = right.id ∨ left.uniqueKey = right.uniqueKey

instance : DecidableRel PricingRow.Clash :=
  fun _ _ => inferInstanceAs (Decidable (_ ∨ _))

abbrev PricingTable := Table PricingRow PricingRow.Clash

/-- `model_pricing` and the sequence behind its `id` column. -/
structure PricingCatalog where
  table : PricingTable
  nextId : Int
  nextId_fresh : ∀ row ∈ table.rows, row.id < nextId

def PricingCatalog.empty : PricingCatalog := ⟨Table.empty, 1, fun _ member => by cases member⟩

/-! ### Request bodies -/

/-- A cost of a request body has at most ten decimal places. -/
def tenDecimalPlaces (cost : ℚ) : Bool := (cost * 10 ^ 10).den == 1

structure PricingCreate where
  provider : String
  model : String
  inputCostPer1kTokens : ℚ
  outputCostPer1kTokens : ℚ
  validFrom : Option Datetime := none
  provider_pos : 1 ≤ provider.length := by decide
  provider_le : provider.length ≤ 50 := by decide
  model_pos : 1 ≤ model.length := by decide
  model_le : model.length ≤ 100 := by decide
  inputCost_nonneg : 0 ≤ inputCostPer1kTokens := by decide +kernel
  outputCost_nonneg : 0 ≤ outputCostPer1kTokens := by decide +kernel
  inputCost_places : tenDecimalPlaces inputCostPer1kTokens = true := by decide +kernel
  outputCost_places : tenDecimalPlaces outputCostPer1kTokens = true := by decide +kernel

structure PricingUpdate where
  inputCostPer1kTokens : Option ℚ := none
  outputCostPer1kTokens : Option ℚ := none
  validFrom : Option Datetime := none
  validTo : Option Datetime := none
  inputCost_nonneg : ∀ cost ∈ inputCostPer1kTokens, 0 ≤ cost := by decide +kernel
  outputCost_nonneg : ∀ cost ∈ outputCostPer1kTokens, 0 ≤ cost := by decide +kernel

structure PricingEndDate where
  validTo : Option Datetime := none

/-- One call of an endpoint; `now` is what `datetime.now(UTC)` returns to it. -/
inductive PricingCall where
  | createPricing (body : PricingCreate) (now : Int)
  | updatePricing (pricingId : Int) (body : PricingUpdate)
  | endPricing (pricingId : Int) (body : PricingEndDate) (now : Int)

structure PricingRequest where
  isPlatformAdmin : Bool
  call : PricingCall

/-- How a call that edits nothing ends. -/
inductive PricingError where
  | http (statusCode : Nat) (detail : String)
  | raised (exception : PyException)
deriving DecidableEq, Repr

def pricingUniqueViolation : PricingError :=
  .raised ⟨.sqlAlchemyError, "duplicate key value violates unique constraint"⟩

def columnOverflow : PricingError :=
  .raised ⟨.sqlAlchemyError, "value does not fit the column"⟩

def pricingNotFound : PricingError := .http 404 "Pricing record not found"

/-! ### The endpoints -/

def normalizeName (runtime : Runtime) (value : String) : String :=
  runtime.lower (runtime.strip value)

/-- The columns take the row: `VARCHAR(50)`, `VARCHAR(100)` and `NUMERIC(12, 10)`. -/
def ModelPrice.fitsColumns (row : ModelPrice) : Bool :=
  decide (row.provider.length ≤ 50) && decide (row.model.length ≤ 100) &&
    decide (|row.inputCostPer1kTokens| < 100) && decide (|row.outputCostPer1kTokens| < 100)

/-- The `WHERE` clause of the first statement of `create_pricing`. -/
def ModelPrice.closes (provider model : String) (validFrom : Int) (row : ModelPrice) : Bool :=
  decide (row.provider = provider) && decide (row.model = model) &&
    decide (row.validFrom < validFrom) &&
    row.validTo.all fun validTo => decide (validFrom < validTo)

/-- `SET valid_to = :valid_from` where a row is still in force then. -/
def PricingRow.closePrevious (provider model : String) (validFrom : Int) (row : PricingRow) :
    PricingRow :=
  if row.closes provider model validFrom then { row with validTo := some validFrom } else row

theorem PricingRow.clash_closePrevious {provider model : String} {validFrom : Int}
    {left right : PricingRow} :
    (left.closePrevious provider model validFrom).Clash
        (right.closePrevious provider model validFrom) ↔ left.Clash right := by
  unfold PricingRow.closePrevious
  split <;> split <;> rfl

def PricingTable.closePrevious (table : PricingTable) (provider model : String)
    (validFrom : Int) : PricingTable :=
  table.mapRows (·.closePrevious provider model validFrom)
    fun _ _ clash => PricingRow.clash_closePrevious.mp clash

/-- The row that `create_pricing` inserts. -/
def PricingCreate.price (runtime : Runtime) (body : PricingCreate) (now : Int) : ModelPrice where
  provider := normalizeName runtime body.provider
  model := runtime.strip body.model
  inputCostPer1kTokens := Decimal.toNumeric 10 body.inputCostPer1kTokens
  outputCostPer1kTokens := Decimal.toNumeric 10 body.outputCostPer1kTokens
  validFrom := (body.validFrom.getD (.utc now)).toTimestamptz runtime.localInstant
  validTo := none

theorem PricingCatalog.fresh_insert {catalog : PricingCatalog} {closed next : PricingTable}
    {price : ModelPrice} {provider model : String} {validFrom : Int}
    (closes : closed = catalog.table.closePrevious provider model validFrom)
    (inserted : closed.insert? ⟨price, catalog.nextId⟩ = some next) :
    ∀ row ∈ next.rows, row.id < catalog.nextId + 1 := by
  intro row member
  rw [Table.insert?_rows inserted, List.mem_append, List.mem_singleton] at member
  rcases member with stored | rfl
  · rw [closes] at stored
    obtain ⟨before, beforeStored, rfl⟩ := List.mem_map.mp stored
    have older := catalog.nextId_fresh before beforeStored
    have sameId : (before.closePrevious provider model validFrom).id = before.id := by
      unfold PricingRow.closePrevious
      split <;> rfl
    omega
  · exact Int.lt_succ _

/-- `create_pricing`. A failed `INSERT` rolls the transaction back but has drawn
an id. -/
def createPricing (runtime : Runtime) (body : PricingCreate) (now : Int)
    (catalog : PricingCatalog) : Except PricingError PricingRow × PricingCatalog :=
  let price := body.price runtime now
  if price.model = "" then (.error (.http 422 "Model is required"), catalog)
  else if price.fitsColumns then
    let closed := catalog.table.closePrevious price.provider price.model price.validFrom
    match inserted : closed.insert? ⟨price, catalog.nextId⟩ with
    | some table =>
        (.ok ⟨price, catalog.nextId⟩,
          ⟨table, catalog.nextId + 1, PricingCatalog.fresh_insert rfl inserted⟩)
    | none =>
        (.error pricingUniqueViolation,
          { catalog with
            nextId := catalog.nextId + 1
            nextId_fresh := fun row member =>
              lt_trans (catalog.nextId_fresh row member) (Int.lt_succ _) })
  else (.error columnOverflow, catalog)

/-- The row with new values in its other columns. -/
def PricingRow.assign (columns : ModelPrice → ModelPrice) (row : PricingRow) : PricingRow :=
  ⟨columns row.toModelPrice, row.id⟩

theorem PricingCatalog.fresh_update {catalog : PricingCatalog} {next : PricingTable}
    {pricingId : Int} {columns : ModelPrice → ModelPrice}
    (updated : catalog.table.updateWhere? (fun row => decide (row.id = pricingId))
      (PricingRow.assign columns) = some next) :
    ∀ row ∈ next.rows, row.id < catalog.nextId := by
  intro row member
  rw [Table.updateWhere?_rows updated] at member
  obtain ⟨before, stored, rfl⟩ := List.mem_map.mp member
  have older := catalog.nextId_fresh before stored
  split
  · exact older
  · exact older

/-- `UPDATE model_pricing SET .. WHERE id = :pricing_id RETURNING ..`. -/
def PricingCatalog.updateById (catalog : PricingCatalog) (pricingId : Int)
    (columns : ModelPrice → ModelPrice) : Except PricingError PricingRow × PricingCatalog :=
  match catalog.table.rows.find? fun row => decide (row.id = pricingId) with
  | none => (.error pricingNotFound, catalog)
  | some row =>
      if (columns row.toModelPrice).fitsColumns then
        match updated : catalog.table.updateWhere? (fun row => decide (row.id = pricingId))
            (PricingRow.assign columns) with
        | some table =>
            (.ok (row.assign columns),
              ⟨table, catalog.nextId, PricingCatalog.fresh_update updated⟩)
        | none => (.error pricingUniqueViolation, catalog)
      else (.error columnOverflow, catalog)

/-- `updates` is empty. -/
def PricingUpdate.isEmpty (body : PricingUpdate) : Bool :=
  body.inputCostPer1kTokens.isNone && body.outputCostPer1kTokens.isNone &&
    body.validFrom.isNone && body.validTo.isNone

/-- The `SET` clause of `update_pricing`: only the given fields. -/
def PricingUpdate.columns (runtime : Runtime) (body : PricingUpdate) (row : ModelPrice) :
    ModelPrice :=
  { row with
    inputCostPer1kTokens :=
      (body.inputCostPer1kTokens.map (Decimal.toNumeric 10)).getD row.inputCostPer1kTokens
    outputCostPer1kTokens :=
      (body.outputCostPer1kTokens.map (Decimal.toNumeric 10)).getD row.outputCostPer1kTokens
    validFrom :=
      (body.validFrom.map (·.toTimestamptz runtime.localInstant)).getD row.validFrom
    validTo := (body.validTo.map (·.toTimestamptz runtime.localInstant)).or row.validTo }

/-- `update_pricing` -/
def updatePricing (runtime : Runtime) (pricingId : Int) (body : PricingUpdate)
    (catalog : PricingCatalog) : Except PricingError PricingRow × PricingCatalog :=
  if body.isEmpty then (.error (.http 400 "No fields to update"), catalog)
  else catalog.updateById pricingId (body.columns runtime)

/-- The `SET` clause of `end_pricing`. -/
def PricingEndDate.columns (runtime : Runtime) (body : PricingEndDate) (now : Int)
    (row : ModelPrice) : ModelPrice :=
  { row with
    validTo := some ((body.validTo.getD (.utc now)).toTimestamptz runtime.localInstant) }

/-- `end_pricing` -/
def endPricing (runtime : Runtime) (pricingId : Int) (body : PricingEndDate) (now : Int)
    (catalog : PricingCatalog) : Except PricingError PricingRow × PricingCatalog :=
  catalog.updateById pricingId (body.columns runtime now)

/-- What a request answers, and the table after it. -/
def PricingRequest.answer (runtime : Runtime) (request : PricingRequest)
    (catalog : PricingCatalog) : Except PricingError PricingRow × PricingCatalog :=
  if request.isPlatformAdmin then
    match request.call with
    | .createPricing body now => createPricing runtime body now catalog
    | .updatePricing pricingId body => updatePricing runtime pricingId body catalog
    | .endPricing pricingId body now => endPricing runtime pricingId body now catalog
  else (.error (.http 403 "Platform admin role required"), catalog)

end LlmObs.Backend
