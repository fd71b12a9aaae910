import LlmObs.Backend.Api.Pricing
import LlmObs.Foundation.Machine

/-!
Owns the validity intervals that the edits of `model_pricing` leave behind: what
each call does to the rows, and which calls keep the intervals of every provider
and model ordered and pairwise disjoint. `create_pricing` closes the row before
the new one but never ends the new row at a later one, and the other two endpoints
look at no other row.
-/

namespace LlmObs.Backend

open LlmObs.Foundation

/-- No interval is inverted, and no two of one provider and model meet. -/
def IntervalsApart (rows : List PricingRow) : Prop :=
  (∀ row ∈ rows, row.validity.Ordered) ∧
    ∀ left ∈ rows, ∀ right ∈ rows, left.id ≠ right.id →
      left.SameName right.toModelPrice → left.validity.Apart right.validity

instance (rows : List PricingRow) : Decidable (IntervalsApart rows) :=
  inferInstanceAs (Decidable (_ ∧ _))

def PricingCatalog.IntervalsDisjoint (catalog : PricingCatalog) : Prop :=
  IntervalsApart catalog.table.rows

instance (catalog : PricingCatalog) : Decidable catalog.IntervalsDisjoint :=
  inferInstanceAs (Decidable (IntervalsApart _))

/-- One request after another. -/
def pricingMachine (runtime : Runtime) : Machine PricingCatalog PricingRequest where
  step catalog request := some (request.answer runtime catalog).2

/-! ### What a call does to the rows -/

/-- `create_pricing` gets as far as its `COMMIT` with this row. -/
def PricingCatalog.Takes (catalog : PricingCatalog) (price : ModelPrice) : Prop :=
  price.model ≠ "" ∧ price.fitsColumns = true ∧
    ∀ row ∈ catalog.table.rows, row.uniqueKey ≠ price.uniqueKey

instance (catalog : PricingCatalog) (price : ModelPrice) : Decidable (catalog.Takes price) :=
  inferInstanceAs (Decidable (_ ∧ _ ∧ _))

/-- The stored row can get these columns: they fit, and their key is free. -/
def PricingCatalog.TakesUpdate (catalog : PricingCatalog) (row : PricingRow)
    (columns : ModelPrice → ModelPrice) : Prop :=
  (columns row.toModelPrice).fitsColumns = true ∧
    ∀ other ∈ catalog.table.rows, other.id ≠ row.id →
      other.uniqueKey ≠ (columns row.toModelPrice).uniqueKey

instance (catalog : PricingCatalog) (row : PricingRow) (columns : ModelPrice → ModelPrice) :
    Decidable (catalog.TakesUpdate row columns) :=
  inferInstanceAs (Decidable (_ ∧ _))

section

variable {runtime : Runtime} {catalog : PricingCatalog} {body : PricingCreate} {now : Int}
  {provider model : String} {validFrom : Int} {row left right : PricingRow} {pricingId : Int}
  {columns : ModelPrice → ModelPrice} {table : PricingTable}

@[simp] theorem PricingRow.id_closePrevious :
    (row.closePrevious provider model validFrom).id = row.id := by
  unfold PricingRow.closePrevious
  split <;> rfl

@[simp] theorem PricingRow.uniqueKey_closePrevious :
    (row.closePrevious provider model validFrom).uniqueKey = row.uniqueKey := by
  unfold PricingRow.closePrevious
  split <;> rfl

theorem sameName_symm {left right : ModelPrice} (same : left.SameName right) :
    right.SameName left :=
  ⟨same.1.symm, same.2.symm⟩

theorem PricingRow.Clash.symm (clash : left.Clash right) : right.Clash left :=
  clash.imp Eq.symm Eq.symm

theorem PricingTable.row_eq_of_id (leftStored : left ∈ table.rows)
    (rightStored : right ∈ table.rows) (sameId : left.id = right.id) : left = right :=
  Table.eq_of_clash (fun _ _ => PricingRow.Clash.symm) leftStored rightStored (Or.inl sameId)

/-- The two statements of `create_pricing`, or none of them. -/
theorem rows_createPricing :
    (createPricing runtime body now catalog).2.table.rows =
      let price := body.price runtime now
      if catalog.Takes price then
        catalog.table.rows.map (·.closePrevious price.provider price.model price.validFrom) ++
          [⟨price, catalog.nextId⟩]
      else catalog.table.rows := by
  have clashes : ∀ price : ModelPrice,
      (∃ stored ∈ (catalog.table.closePrevious price.provider price.model price.validFrom).rows,
        stored.Clash ⟨price, catalog.nextId⟩) ↔
      ∃ stored ∈ catalog.table.rows, stored.uniqueKey = price.uniqueKey := by
    intro price
    simp only [PricingTable.closePrevious, Table.mapRows_rows, List.mem_map,
      exists_exists_and_eq_and, PricingRow.Clash, PricingRow.id_closePrevious,
      PricingRow.uniqueKey_closePrevious]
    constructor
    · rintro ⟨stored, member, sameId | sameKey⟩
      · exact absurd sameId (ne_of_lt (catalog.nextId_fresh stored member))
      · exact ⟨stored, member, sameKey⟩
    · rintro ⟨stored, member, sameKey⟩
      exact ⟨stored, member, Or.inr sameKey⟩
  unfold createPricing
  simp only
  by_cases unnamed : (body.price runtime now).model = ""
  · simp [unnamed, PricingCatalog.Takes]
  by_cases fits : (body.price runtime now).fitsColumns = true
  · rw [if_neg unnamed, if_pos fits]
    split
    · rename_i next inserted
      have free : catalog.Takes (body.price runtime now) := by
        refine ⟨unnamed, fits, fun stored member sameKey => ?_⟩
        have clash := (clashes _).mpr ⟨stored, member, sameKey⟩
        rw [← Table.insert?_eq_none_iff, inserted] at clash
        cases clash
      rw [if_pos free]
      exact Table.insert?_rows inserted
    · rename_i refused
      rw [if_neg]
      intro takes
      obtain ⟨stored, member, sameKey⟩ := (clashes _).mp (Table.insert?_eq_none_iff.mp refused)
      exact takes.2.2 stored member sameKey
  · rw [if_neg unnamed, if_neg fits, if_neg fun takes => fits takes.2.1]

/-- The `UPDATE` of a row breaks no constraint if and only if its key is free. -/
theorem pairwise_assign_iff (stored : row ∈ catalog.table.rows) :
    (catalog.table.rows.map fun other =>
        if decide (other.id = row.id) = true then other.assign columns else other).Pairwise
      (fun earlier later => ¬ earlier.Clash later) ↔
    ∀ other ∈ catalog.table.rows, other.id ≠ row.id →
      other.uniqueKey ≠ (columns row.toModelPrice).uniqueKey := by
  rw [Table.pairwise_map_iff (fun _ _ => PricingRow.Clash.symm) fun _ => Or.inl rfl]
  simp only [decide_eq_true_eq]
  constructor
  · intro distinct other member different sameKey
    have apart := distinct other member row stored fun same => different (congrArg _ same)
    rw [if_neg different, if_pos rfl] at apart
    exact apart (Or.inr sameKey)
  · intro free left leftStored right rightStored different
    have differentIds : left.id ≠ right.id :=
      fun sameId => different (PricingTable.row_eq_of_id leftStored rightStored sameId)
    by_cases leftIs : left.id = row.id
    · have rightIs : right.id ≠ row.id := fun same => differentIds (leftIs.trans same.symm)
      have leftRow := PricingTable.row_eq_of_id leftStored stored leftIs
      rw [if_pos leftIs, if_neg rightIs, leftRow]
      rintro (sameId | sameKey)
      · exact rightIs sameId.symm
      · exact free right rightStored rightIs sameKey.symm
    · rw [if_neg leftIs]
      by_cases rightIs : right.id = row.id
      · have rightRow := PricingTable.row_eq_of_id rightStored stored rightIs
        rw [if_pos rightIs, rightRow]
        rintro (sameId | sameKey)
        · exact leftIs sameId
        · exact free left leftStored leftIs sameKey
      · rw [if_neg rightIs]
        rintro (sameId | sameKey)
        · exact differentIds sameId
        · exact different (Table.eq_of_clash (fun _ _ => PricingRow.Clash.symm) leftStored
            rightStored (Or.inr sameKey))

/-- An `UPDATE` of one row by its id, or nothing. -/
theorem rows_updateById :
    (catalog.updateById pricingId columns).2.table.rows =
      if ∀ row ∈ catalog.table.rows, row.id = pricingId → catalog.TakesUpdate row columns then
        catalog.table.rows.map fun row =>
          if row.id = pricingId then row.assign columns else row
      else catalog.table.rows := by
  unfold PricingCatalog.updateById
  split
  · rename_i missing
    have unchanged : (catalog.table.rows.map fun row =>
        if row.id = pricingId then row.assign columns else row) = catalog.table.rows := by
      have others : ∀ row ∈ catalog.table.rows, row.id ≠ pricingId := by
        simpa using List.find?_eq_none.mp missing
      calc
        _ = catalog.table.rows.map id :=
          List.map_congr_left fun row member => if_neg (others row member)
        _ = catalog.table.rows := List.map_id _
    rw [unchanged, ite_self]
  · rename_i row found
    have stored := List.mem_of_find?_eq_some found
    have isRow : row.id = pricingId := by simpa using List.find?_some found
    subst isRow
    have only : (∀ other ∈ catalog.table.rows, other.id = row.id →
        catalog.TakesUpdate other columns) ↔ catalog.TakesUpdate row columns := by
      constructor
      · intro all
        exact all row stored rfl
      · intro takes other member sameId
        rw [PricingTable.row_eq_of_id member stored sameId]
        exact takes
    simp only [only]
    by_cases fits : (columns row.toModelPrice).fitsColumns = true
    · rw [if_pos fits]
      split
      · rename_i next updated
        have free : catalog.TakesUpdate row columns := by
          refine ⟨fits, (pairwise_assign_iff stored).mp ?_⟩
          rw [← Table.updateWhere?_rows updated]
          exact next.unique
        rw [if_pos free]
        simpa using Table.updateWhere?_rows updated
      · rename_i refused
        rw [if_neg]
        intro takes
        apply Table.ofRows?_eq_none_iff.mp refused
        exact (pairwise_assign_iff stored).mpr takes.2
    · rw [if_neg fits, if_neg fun takes => fits takes.1]

/-! ### What closing a row leaves -/

theorem PricingRow.sameName_closePrevious {price : ModelPrice} :
    (row.closePrevious provider model validFrom).SameName price ↔ row.SameName price := by
  unfold PricingRow.closePrevious
  split <;> rfl

theorem PricingRow.closePrevious_of_later (later : validFrom ≤ row.validFrom) :
    row.closePrevious provider model validFrom = row := by
  apply if_neg
  simp [ModelPrice.closes, not_lt.mpr later]

theorem PricingRow.covers_of_closePrevious {point : Int}
    (covers : (row.closePrevious provider model validFrom).validity.Covers point) :
    row.validity.Covers point := by
  unfold PricingRow.closePrevious at covers
  split at covers
  · rename_i closes
    simp only [ModelPrice.closes, Bool.and_eq_true, Option.all_eq_true, decide_eq_true_eq]
      at closes
    exact HalfOpen.Covers.of_closedAt closes.2 covers
  · exact covers

theorem PricingRow.ordered_closePrevious (ordered : row.validity.Ordered) :
    (row.closePrevious provider model validFrom).validity.Ordered := by
  unfold PricingRow.closePrevious
  split
  · rename_i closes
    simp only [ModelPrice.closes, Bool.and_eq_true, decide_eq_true_eq] at closes
    show (row.validity.closedAt validFrom).Ordered
    exact HalfOpen.ordered_closedAt (le_of_lt closes.1.2)
  · exact ordered

/-- An earlier row of the name is not in force once the new one is. -/
theorem PricingRow.not_covers_closePrevious {price : ModelPrice} {point : Int}
    (sameName : row.SameName price) (earlier : row.validFrom < price.validFrom)
    (started : price.validFrom ≤ point) :
    ¬ (row.closePrevious price.provider price.model price.validFrom).validity.Covers point := by
  unfold PricingRow.closePrevious
  split
  · show ¬ (row.validity.closedAt price.validFrom).Covers point
    exact HalfOpen.not_covers_closedAt started
  · rename_i open'
    intro covers
    apply open'
    have ends : row.validTo.all (fun validTo => decide (price.validFrom < validTo)) = true := by
      rw [Option.all_eq_true]
      intro validTo given
      exact decide_eq_true (lt_of_le_of_lt started (covers.2 validTo given))
    simp [ModelPrice.closes, sameName.1, sameName.2, earlier, ends]

/-! ### Which calls keep the intervals apart -/

/-- No row of the name that is ever in force starts behind the new one. -/
def PricingCatalog.NoneLater (catalog : PricingCatalog) (price : ModelPrice) : Prop :=
  ∀ row ∈ catalog.table.rows, row.SameName price → price.validFrom < row.validFrom →
    ¬ row.validity.Covers row.validFrom

instance (catalog : PricingCatalog) (price : ModelPrice) : Decidable (catalog.NoneLater price) :=
  inferInstanceAs (Decidable (∀ _ ∈ _, _))

/-- The interval that the row gets is not inverted and meets no other of its name. -/
def PricingCatalog.LeavesApart (catalog : PricingCatalog) (row : PricingRow)
    (columns : ModelPrice → ModelPrice) : Prop :=
  (columns row.toModelPrice).validity.Ordered ∧
    ∀ other ∈ catalog.table.rows, other.id ≠ row.id →
      other.SameName (columns row.toModelPrice) →
        other.validity.Apart (columns row.toModelPrice).validity

instance (catalog : PricingCatalog) (row : PricingRow) (columns : ModelPrice → ModelPrice) :
    Decidable (catalog.LeavesApart row columns) :=
  inferInstanceAs (Decidable (_ ∧ _))

theorem disjoint_createPricing_iff (disjoint : IntervalsApart catalog.table.rows) :
    IntervalsApart (createPricing runtime body now catalog).2.table.rows ↔
      (catalog.Takes (body.price runtime now) → catalog.NoneLater (body.price runtime now)) := by
  rw [rows_createPricing]
  generalize isPrice : body.price runtime now = price
  have unending : price.validity = ⟨price.validFrom, none⟩ := by rw [← isPrice]; rfl
  by_cases takes : catalog.Takes price
  · simp only [takes, if_true, true_imp_iff]
    constructor
    · intro ⟨_, apart⟩ row stored sameName later
      have met := apart (row.closePrevious price.provider price.model price.validFrom)
        (List.mem_append_left _ (List.mem_map_of_mem stored)) ⟨price, catalog.nextId⟩
        (List.mem_append_right _ (List.mem_singleton_self _))
        (by simpa using ne_of_lt (catalog.nextId_fresh row stored))
        (PricingRow.sameName_closePrevious.mpr sameName)
      rw [PricingRow.closePrevious_of_later (le_of_lt later), unending] at met
      exact (HalfOpen.apart_unending_iff (le_of_lt later)).mp met
    · intro noneLater
      have withNew : ∀ row ∈ catalog.table.rows, row.SameName price →
          (row.closePrevious price.provider price.model price.validFrom).validity.Apart
            price.validity := by
        intro row stored sameName
        rcases lt_trichotomy row.validFrom price.validFrom with earlier | same | later
        · intro point both
          exact PricingRow.not_covers_closePrevious sameName earlier both.2.1 both.1
        · apply absurd _ (takes.2.2 row stored)
          simp [ModelPrice.uniqueKey, sameName.1, sameName.2, same]
        · rw [PricingRow.closePrevious_of_later (le_of_lt later), unending]
          exact (HalfOpen.apart_unending_iff (le_of_lt later)).mpr
            (noneLater row stored sameName later)
      constructor
      · intro row member
        rw [List.mem_append, List.mem_singleton] at member
        rcases member with stored | rfl
        · obtain ⟨before, beforeStored, rfl⟩ := List.mem_map.mp stored
          exact PricingRow.ordered_closePrevious (disjoint.1 before beforeStored)
        · intro stop ends
          rw [unending] at ends
          cases ends
      · intro left leftMember right rightMember differentIds sameName
        rw [List.mem_append, List.mem_singleton] at leftMember rightMember
        rcases leftMember with leftClosed | rfl
        · obtain ⟨leftBefore, leftStored, rfl⟩ := List.mem_map.mp leftClosed
          rw [PricingRow.sameName_closePrevious] at sameName
          rcases rightMember with rightClosed | rfl
          · obtain ⟨rightBefore, rightStored, rfl⟩ := List.mem_map.mp rightClosed
            have names : leftBefore.SameName rightBefore.toModelPrice := by
              have back := PricingRow.sameName_closePrevious.mp (sameName_symm sameName)
              exact sameName_symm back
            rw [PricingRow.id_closePrevious, PricingRow.id_closePrevious] at differentIds
            intro point both
            exact disjoint.2 leftBefore leftStored rightBefore rightStored differentIds names
              point ⟨PricingRow.covers_of_closePrevious both.1,
                PricingRow.covers_of_closePrevious both.2⟩
          · exact withNew leftBefore leftStored sameName
        · rcases rightMember with rightClosed | rfl
          · obtain ⟨rightBefore, rightStored, rfl⟩ := List.mem_map.mp rightClosed
            have names := PricingRow.sameName_closePrevious.mp (sameName_symm sameName)
            exact (withNew rightBefore rightStored names).symm
          · exact absurd rfl differentIds
  · simp only [takes, if_false, false_imp_iff, iff_true]
    exact disjoint

theorem disjoint_updateById_iff (disjoint : IntervalsApart catalog.table.rows) :
    IntervalsApart (catalog.updateById pricingId columns).2.table.rows ↔
      ∀ row ∈ catalog.table.rows, row.id = pricingId → catalog.TakesUpdate row columns →
        catalog.LeavesApart row columns := by
  rw [rows_updateById]
  split
  · rename_i takes
    constructor
    · intro ⟨ordered, apart⟩ row stored isRow _
      have assigned : row.assign columns ∈ catalog.table.rows.map fun row =>
          if row.id = pricingId then row.assign columns else row :=
        List.mem_map.mpr ⟨row, stored, if_pos isRow⟩
      refine ⟨ordered _ assigned, ?_⟩
      intro other otherStored different sameName
      have kept : other ∈ catalog.table.rows.map fun row =>
          if row.id = pricingId then row.assign columns else row :=
        List.mem_map.mpr ⟨other, otherStored, if_neg fun same => different (same.trans isRow.symm)⟩
      exact apart other kept (row.assign columns) assigned different sameName
    · intro leaves
      have withRow : ∀ row ∈ catalog.table.rows, row.id = pricingId →
          ∀ other ∈ catalog.table.rows, other.id ≠ pricingId →
            other.SameName (columns row.toModelPrice) →
            other.validity.Apart (columns row.toModelPrice).validity := by
        intro row stored isRow other otherStored different sameName
        exact (leaves row stored isRow (takes row stored isRow)).2 other otherStored
          (fun same => different (same.trans isRow)) sameName
      constructor
      · intro row member
        obtain ⟨before, stored, rfl⟩ := List.mem_map.mp member
        by_cases isRow : before.id = pricingId
        · rw [if_pos isRow]
          exact (leaves before stored isRow (takes before stored isRow)).1
        · rw [if_neg isRow]
          exact disjoint.1 before stored
      · intro left leftMember right rightMember differentIds sameName
        obtain ⟨leftBefore, leftStored, rfl⟩ := List.mem_map.mp leftMember
        obtain ⟨rightBefore, rightStored, rfl⟩ := List.mem_map.mp rightMember
        by_cases leftIs : leftBefore.id = pricingId
        · rw [if_pos leftIs] at differentIds sameName ⊢
          by_cases rightIs : rightBefore.id = pricingId
          · rw [if_pos rightIs] at differentIds
            exact absurd (leftIs.trans rightIs.symm) differentIds
          · rw [if_neg rightIs] at sameName ⊢
            exact (withRow leftBefore leftStored leftIs rightBefore rightStored rightIs
              (sameName_symm sameName)).symm
        · rw [if_neg leftIs] at differentIds sameName ⊢
          by_cases rightIs : rightBefore.id = pricingId
          · rw [if_pos rightIs] at sameName ⊢
            exact withRow rightBefore rightStored rightIs leftBefore leftStored leftIs sameName
          · rw [if_neg rightIs] at differentIds sameName ⊢
            exact disjoint.2 leftBefore leftStored rightBefore rightStored differentIds sameName
  · rename_i refused
    constructor
    · intro _ row stored isRow takes
      apply absurd _ refused
      intro other otherStored isOther
      rw [PricingTable.row_eq_of_id otherStored stored (isOther.trans isRow.symm)]
      exact takes
    · intro _
      exact disjoint

end

/-- The condition on a call and the table before it. -/
def KeepsIntervals (runtime : Runtime) (catalog : PricingCatalog) (request : PricingRequest) :
    Prop :=
  request.isPlatformAdmin = true →
    match request.call with
    | .createPricing body now =>
        catalog.Takes (body.price runtime now) → catalog.NoneLater (body.price runtime now)
    | .updatePricing pricingId body =>
        body.isEmpty = false → ∀ row ∈ catalog.table.rows, row.id = pricingId →
          catalog.TakesUpdate row (body.columns runtime) →
            catalog.LeavesApart row (body.columns runtime)
    | .endPricing pricingId body now =>
        ∀ row ∈ catalog.table.rows, row.id = pricingId →
          catalog.TakesUpdate row (body.columns runtime now) →
            catalog.LeavesApart row (body.columns runtime now)

instance (runtime : Runtime) (catalog : PricingCatalog) (request : PricingRequest) :
    Decidable (KeepsIntervals runtime catalog request) :=
  match request with
  | ⟨_, .createPricing _ _⟩ => inferInstanceAs (Decidable (_ → _ → _))
  | ⟨_, .updatePricing _ _⟩ => inferInstanceAs (Decidable (_ → _ → ∀ _ ∈ _, _))
  | ⟨_, .endPricing _ _ _⟩ => inferInstanceAs (Decidable (_ → ∀ _ ∈ _, _))

theorem disjoint_answer_iff {runtime : Runtime} {catalog : PricingCatalog}
    (disjoint : catalog.IntervalsDisjoint) (request : PricingRequest) :
    (request.answer runtime catalog).2.IntervalsDisjoint ↔
      KeepsIntervals runtime catalog request := by
  unfold PricingRequest.answer KeepsIntervals
  by_cases admin : request.isPlatformAdmin = true
  · simp only [admin, if_true, true_imp_iff]
    cases request.call with
    | createPricing body now => exact disjoint_createPricing_iff disjoint
    | updatePricing pricingId body =>
        show (updatePricing runtime pricingId body catalog).2.IntervalsDisjoint ↔ _
        unfold updatePricing
        by_cases empty : body.isEmpty = true
        · simp [empty, disjoint]
        · rw [if_neg empty]
          simp only [Bool.not_eq_true] at empty
          simp only [empty, true_imp_iff]
          exact disjoint_updateById_iff disjoint
    | endPricing pricingId body now => exact disjoint_updateById_iff disjoint
  · simp [admin, disjoint]

/-- The intervals of every provider and model stay ordered and pairwise disjoint
throughout a sequence of calls if and only if every call of it meets the
condition. -/
theorem intervalsDisjoint_iff_keepsIntervals (runtime : Runtime) {catalog : PricingCatalog}
    (disjoint : catalog.IntervalsDisjoint) (requests : List PricingRequest) :
    (pricingMachine runtime).Always PricingCatalog.IntervalsDisjoint catalog requests ↔
      (pricingMachine runtime).Along (KeepsIntervals runtime) catalog requests := by
  apply Machine.always_iff_along _ _ disjoint
  intro catalog request disjoint
  exact ⟨_, rfl, disjoint_answer_iff disjoint request⟩

/-- A price from this instant on. -/
def priceFrom (validFrom : Int) : PricingRequest :=
  ⟨true, .createPricing ⟨"anthropic", "claude-sonnet", 1 / 1000, 2 / 1000, some (.utc validFrom),
    by decide, by decide, by decide, by decide, by decide +kernel, by decide +kernel,
    by decide +kernel, by decide +kernel⟩ 0⟩

/-- A price, its successor, and the end of the successor. -/
theorem intervalsDisjoint_iff_keepsIntervals_successor :
    (pricingMachine .inUtc).Always PricingCatalog.IntervalsDisjoint .empty
      [priceFrom 10, priceFrom 20, ⟨true, .endPricing 2 ⟨some (.utc 30)⟩ 0⟩] :=
  (intervalsDisjoint_iff_keepsIntervals .inUtc (by decide) _).mpr (by decide +kernel)

/-- The back-dated price has no end and meets the one that was there. -/
theorem backDatedPrice_overlaps :
    ¬ ∀ requests, (pricingMachine .inUtc).Always PricingCatalog.IntervalsDisjoint .empty
      requests := by
  intro always
  have overlap := always [priceFrom 10, priceFrom 5] [priceFrom 10, priceFrom 5] [] _
    (List.append_nil _) rfl
  revert overlap
  decide +kernel

end LlmObs.Backend
