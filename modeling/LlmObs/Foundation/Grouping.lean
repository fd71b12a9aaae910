import LlmObs.Foundation.Table
import Mathlib.Data.List.Dedup

/-!
Owns grouped queries: `GROUP BY` with an aggregate, and the left join of a list of keys with
the groups. A series of keys that is joined with groups sums the rows whose keys it has.
-/

namespace LlmObs.Foundation

universe u v w

variable {Row : Type u} {Key : Type v} {Group : Type w} [DecidableEq Key]

/-- `SELECT .. FROM rows GROUP BY key`: one group for each key. -/
def groupBy (key : Row → Key) (aggregate : Key → List Row → Group) (rows : List Row) :
    List Group :=
  (rows.map key).dedup.map fun value => aggregate value (rows.filter fun row => key row = value)

/-- `keys LEFT JOIN groups ON value = key`: a key with each of its matches, or alone. -/
def leftJoin (key : Group → Key) (keys : List Key) (groups : List Group) :
    List (Key × Option Group) :=
  keys.flatMap fun value =>
    match groups.filter fun group => key group = value with
    | [] => [(value, none)]
    | matched => matched.map fun group => (value, some group)

/-- The group of a key is the only one that matches it. -/
theorem filter_groupBy {key : Row → Key} {aggregate : Key → List Row → Group}
    {groupKey : Group → Key} (keeps : ∀ value rows, groupKey (aggregate value rows) = value)
    (rows : List Row) (value : Key) :
    (groupBy key aggregate rows).filter (fun group => groupKey group = value) =
      if value ∈ rows.map key then [aggregate value (rows.filter fun row => key row = value)]
      else [] := by
  rw [groupBy, List.filter_map]
  have matches' : ((rows.map key).dedup.filter ((fun group => decide (groupKey group = value)) ∘
      fun value => aggregate value (rows.filter fun row => key row = value))) =
        (rows.map key).dedup.filter (fun found => found = value) :=
    List.filter_congr fun found _ => by rw [Function.comp_apply, keeps]
  rw [matches']
  by_cases known : value ∈ rows.map key
  · have once : (rows.map key).dedup.filter (fun found => found = value) = [value] := by
      rw [List.filter_eq, List.count_dedup, if_pos known]
      rfl
    rw [once, if_pos known]
    rfl
  · have never : (rows.map key).dedup.filter (fun found => found = value) = [] := by
      refine List.filter_eq_nil_iff.mpr fun found member same => known ?_
      exact of_decide_eq_true same ▸ List.mem_dedup.mp member
    rw [never, if_neg known]
    rfl

/-- So the join has each key once. -/
theorem leftJoin_groupBy {key : Row → Key} {aggregate : Key → List Row → Group}
    {groupKey : Group → Key} (keeps : ∀ value rows, groupKey (aggregate value rows) = value)
    (keys : List Key) (rows : List Row) :
    leftJoin groupKey keys (groupBy key aggregate rows) = keys.map fun value =>
      (value, if value ∈ rows.map key then
        some (aggregate value (rows.filter fun row => key row = value)) else none) := by
  rw [leftJoin, List.map_eq_flatMap]
  refine List.flatMap_congr fun value _ => ?_
  rw [filter_groupBy keeps]
  by_cases known : value ∈ rows.map key
  · rw [if_pos known, if_pos known]
    rfl
  · rw [if_neg known, if_neg known]

/-- A series of distinct keys sums a column over the rows whose keys it has, where a group
sums the column over its rows and a key without one counts nothing. -/
theorem sum_leftJoin_groupBy {Value : Type*} [AddCommMonoid Value] {key : Row → Key}
    {aggregate : Key → List Row → Group} {groupKey : Group → Key}
    (keeps : ∀ value rows, groupKey (aggregate value rows) = value) {keys : List Key}
    (distinct : keys.Nodup) (rows : List Row) {column : Row → Value}
    {amount : Key × Option Group → Value} (alone : ∀ value, amount (value, none) = 0)
    (sums : ∀ value rows, amount (value, some (aggregate value rows)) = (rows.map column).sum) :
    ((leftJoin groupKey keys (groupBy key aggregate rows)).map amount).sum =
      ((rows.filter fun row => key row ∈ keys).map column).sum := by
  have each : ∀ value ∈ keys, amount (value, if value ∈ rows.map key then
      some (aggregate value (rows.filter fun row => key row = value)) else none) =
        (((rows.filter fun row => key row ∈ keys).filter fun row => key row = id value).map
          column).sum := by
    intro value member
    have within : (rows.filter fun row => key row ∈ keys).filter (fun row => key row = id value) =
        rows.filter fun row => key row = value := by
      rw [List.filter_filter]
      refine List.filter_congr fun row _ => ?_
      by_cases same : key row = value
      · simp [same, member]
      · simp [same]
    rw [within]
    by_cases known : value ∈ rows.map key
    · rw [if_pos known, sums]
    · have nothing : rows.filter (fun row => key row = value) = [] :=
        List.filter_eq_nil_iff.mpr fun row found same =>
          known (of_decide_eq_true same ▸ List.mem_map_of_mem found)
      rw [if_neg known, alone, nothing]
      rfl
  have covers : ∀ row ∈ rows.filter (fun row => key row ∈ keys), ∃ value ∈ keys,
      id value = key row := fun row member =>
    ⟨key row, of_decide_eq_true (List.mem_filter.mp member).2, rfl⟩
  have identical : (keys.map id).Nodup := by rwa [List.map_id]
  have groups : sumWhere id (fun value => (((rows.filter fun row => key row ∈ keys).filter
      fun row => key row = id value).map column).sum) (fun _ => true) keys =
        sumWhere key column (fun _ => true) (rows.filter fun row => key row ∈ keys) :=
    sumWhere_groups (fun _ => true) identical covers
  simp only [sumWhere, List.filter_true] at groups
  rw [leftJoin_groupBy keeps, List.map_map, ← groups]
  exact congrArg List.sum (List.map_congr_left each)

end LlmObs.Foundation
