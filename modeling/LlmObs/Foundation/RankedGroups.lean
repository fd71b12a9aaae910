import LlmObs.Foundation.Grouping
import LlmObs.Foundation.OrderedLimit
import Mathlib.Algebra.Order.BigOperators.Group.List
import Mathlib.Data.List.Forall2

/-!
Owns the ranking of groups: `GROUP BY` with aggregates that may leave a choice, its `ORDER BY`
and `LIMIT`, and the row numbers of a window. A limit that has room for all keys keeps each sum
of a column; one that has not keeps a part of it, of groups that no other one comes before.

Nothing here names a concrete query.
-/

namespace LlmObs.Foundation

universe u v w

section Grouped

variable {Row : Type u} {Key : Type v} {Group : Type w} [DecidableEq Key] {key : Row → Key}
  {aggregates : Key → List Row → Group → Prop} {rows : List Row} {groups : List Group}

/-- `groups` are those of a `GROUP BY key` whose aggregates the relation allows. -/
def IsGrouped (key : Row → Key) (aggregates : Key → List Row → Group → Prop) (rows : List Row)
    (groups : List Group) : Prop :=
  List.Forall₂ (fun value group => aggregates value (rows.filter fun row => key row = value) group)
    (rows.map key).dedup groups

/-- Aggregates that are allowed for the groups there are. -/
theorem isGrouped_of_aggregates {aggregate : Key → List Row → Group}
    (allowed : ∀ value ∈ rows.map key, aggregates value (rows.filter fun row => key row = value)
      (aggregate value (rows.filter fun row => key row = value))) :
    IsGrouped key aggregates rows (groupBy key aggregate rows) := by
  rw [IsGrouped, groupBy, List.forall₂_map_right_iff]
  exact List.forall₂_same.mpr fun value member => allowed value (List.mem_dedup.mp member)

/-- Aggregates that leave no choice. -/
theorem isGrouped_groupBy (key : Row → Key) (aggregate : Key → List Row → Group)
    (rows : List Row) :
    IsGrouped key (fun value members group => group = aggregate value members) rows
      (groupBy key aggregate rows) :=
  isGrouped_of_aggregates fun _ _ => rfl

namespace IsGrouped

theorem map_key {groupKey : Group → Key}
    (keeps : ∀ value members group, aggregates value members group → groupKey group = value)
    (grouped : IsGrouped key aggregates rows groups) :
    groups.map groupKey = (rows.map key).dedup := by
  have same : List.Forall₂ (· = ·) (rows.map key).dedup (groups.map groupKey) := by
    rw [List.forall₂_map_right_iff]
    exact List.Forall₂.imp (fun value group aggregated => (keeps value _ group aggregated).symm)
      grouped
  rw [List.forall₂_eq_eq_eq] at same
  exact same.symm

theorem exists_of_mem (grouped : IsGrouped key aggregates rows groups) {group : Group}
    (member : group ∈ groups) : ∃ value ∈ rows.map key,
      aggregates value (rows.filter fun row => key row = value) group := by
  obtain ⟨index, inside, rfl⟩ := List.getElem_of_mem member
  have inKeys : index < (rows.map key).dedup.length := by
    rw [List.Forall₂.length_eq grouped]
    exact inside
  exact ⟨(rows.map key).dedup[index], List.mem_dedup.mp (List.getElem_mem inKeys),
    List.Forall₂.get grouped inKeys inside⟩

theorem exists_of_key (grouped : IsGrouped key aggregates rows groups) {value : Key}
    (known : value ∈ rows.map key) : ∃ group ∈ groups,
      aggregates value (rows.filter fun row => key row = value) group := by
  obtain ⟨index, inKeys, rfl⟩ := List.getElem_of_mem (List.mem_dedup.mpr known)
  have inside : index < groups.length := by
    rw [← List.Forall₂.length_eq grouped]
    exact inKeys
  exact ⟨groups[index], List.getElem_mem inside, List.Forall₂.get grouped inKeys inside⟩

/-- Groups sum a column to what its rows do. -/
theorem sum_eq {Value : Type*} [AddCommMonoid Value] {column : Row → Value}
    {amount : Group → Value}
    (sums : ∀ value members group, aggregates value members group →
      amount group = (members.map column).sum)
    (grouped : IsGrouped key aggregates rows groups) :
    (groups.map amount).sum = (rows.map column).sum := by
  have each : groups.map amount = (rows.map key).dedup.map fun value =>
      ((rows.filter fun row => key row = value).map column).sum := by
    have same : List.Forall₂ (· = ·) ((rows.map key).dedup.map fun value =>
        ((rows.filter fun row => key row = value).map column).sum) (groups.map amount) := by
      rw [List.forall₂_map_left_iff, List.forall₂_map_right_iff]
      exact List.Forall₂.imp (fun value group aggregated => (sums value _ group aggregated).symm)
        grouped
    rw [List.forall₂_eq_eq_eq] at same
    exact same.symm
  have distinct : ((rows.map key).dedup.map id).Nodup := by
    rw [List.map_id]
    exact List.nodup_dedup _
  have covers : ∀ row ∈ rows, ∃ value ∈ (rows.map key).dedup, id value = key row :=
    fun row member => ⟨key row, List.mem_dedup.mpr (List.mem_map_of_mem member), rfl⟩
  have total : sumWhere id (fun value => ((rows.filter fun row => key row = id value).map
      column).sum) (fun _ => true) (rows.map key).dedup = sumWhere key column (fun _ => true) rows :=
    sumWhere_groups (fun _ => true) distinct covers
  simp only [sumWhere, List.filter_true] at total
  rw [each]
  exact total

/-- A join that has one row for each group keeps the groups. -/
theorem flatMap {Joined : Type*} {join : Group → List Joined}
    {joined : Key → List Row → Joined → Prop}
    (once : ∀ value ∈ rows.map key, ∀ group,
      aggregates value (rows.filter fun row => key row = value) group →
        ∃ row, join group = [row] ∧ joined value (rows.filter fun row => key row = value) row)
    (grouped : IsGrouped key aggregates rows groups) :
    IsGrouped key joined rows (groups.flatMap join) := by
  have known : ∀ value ∈ (rows.map key).dedup, value ∈ rows.map key :=
    fun value => List.mem_dedup.mp
  rw [IsGrouped] at grouped ⊢
  revert known
  generalize (rows.map key).dedup = keys at grouped ⊢
  intro known
  induction grouped with
  | nil => exact .nil
  | cons aggregated _ inductionHypothesis =>
      obtain ⟨row, only, joins⟩ := once _ (known _ (List.mem_cons_self ..)) _ aggregated
      rw [List.flatMap_cons, only]
      exact .cons joins
        (inductionHypothesis fun value member => known value (List.mem_cons_of_mem _ member))

end IsGrouped

end Grouped

section Ranked

variable {Row : Type u} {Key : Type v} {Group : Type w} [DecidableEq Key] {key : Row → Key}
  {aggregates : Key → List Row → Group → Prop} {le : Group → Group → Prop} {limit : Nat}
  {rows : List Row} {answer : List Group}

/-- `answer` is one that `GROUP BY key ORDER BY le LIMIT limit` may return. -/
def IsRanked (key : Row → Key) (aggregates : Key → List Row → Group → Prop)
    (le : Group → Group → Prop) (limit : Nat) (rows : List Row) (answer : List Group) : Prop :=
  ∃ groups : List Group, IsGrouped key aggregates rows groups ∧ IsTop le limit groups answer

namespace IsRanked

theorem exists_of_mem (ranked : IsRanked key aggregates le limit rows answer) {group : Group}
    (member : group ∈ answer) : ∃ value ∈ rows.map key,
      aggregates value (rows.filter fun row => key row = value) group := by
  obtain ⟨groups, grouped, top⟩ := ranked
  exact grouped.exists_of_mem (top.mem member)

/-- No key has two groups. -/
theorem nodup_key {groupKey : Group → Key}
    (keeps : ∀ value members group, aggregates value members group → groupKey group = value)
    (ranked : IsRanked key aggregates le limit rows answer) : (answer.map groupKey).Nodup := by
  obtain ⟨groups, grouped, top⟩ := ranked
  have distinct : (groups.map groupKey).Nodup := by
    rw [grouped.map_key keeps]
    exact List.nodup_dedup _
  obtain ⟨leftOut, order, -⟩ := top.exists_leftOut
  have all := (order.map groupKey).nodup_iff.mpr distinct
  rw [List.map_append] at all
  exact all.of_append_left

/-- A key without a group in the answer comes after each one that has, in a full answer. -/
theorem le_of_leftOut {groupKey : Group → Key}
    (keeps : ∀ value members group, aggregates value members group → groupKey group = value)
    (ranked : IsRanked key aggregates le limit rows answer) {value : Key}
    (known : value ∈ rows.map key) (leftOut : value ∉ answer.map groupKey) :
    answer.length = limit ∧ ∃ group,
      aggregates value (rows.filter fun row => key row = value) group ∧
        ∀ shown ∈ answer, le shown group := by
  obtain ⟨groups, grouped, top⟩ := ranked
  obtain ⟨group, member, aggregated⟩ := grouped.exists_of_key known
  have notShown : group ∉ answer := fun shown => leftOut <| by
    rw [← keeps _ _ _ aggregated]
    exact List.mem_map_of_mem shown
  obtain ⟨full, after⟩ := top.le_of_notMem member notShown
  exact ⟨full, group, aggregated, after⟩

/-- The answer sums a column to a part of what the rows do. -/
theorem sum_le {Value : Type*} [AddCommMonoid Value] [PartialOrder Value]
    [IsOrderedAddMonoid Value] {column : Row → Value} {amount : Group → Value}
    (sums : ∀ value members group, aggregates value members group →
      amount group = (members.map column).sum)
    (nonneg : ∀ row ∈ rows, 0 ≤ column row)
    (ranked : IsRanked key aggregates le limit rows answer) :
    (answer.map amount).sum ≤ (rows.map column).sum := by
  obtain ⟨groups, grouped, top⟩ := ranked
  obtain ⟨leftOut, order, -⟩ := top.exists_leftOut
  have rest : 0 ≤ (leftOut.map amount).sum := by
    refine List.sum_nonneg fun value member => ?_
    obtain ⟨group, other, rfl⟩ := List.mem_map.mp member
    have inGroups : group ∈ groups := order.mem_iff.mp (List.mem_append_right _ other)
    obtain ⟨_, -, aggregated⟩ := grouped.exists_of_mem inGroups
    rw [sums _ _ _ aggregated]
    refine List.sum_nonneg fun part found => ?_
    obtain ⟨row, kept, rfl⟩ := List.mem_map.mp found
    exact nonneg row (List.mem_filter.mp kept).1
  calc (answer.map amount).sum
      ≤ (answer.map amount).sum + (leftOut.map amount).sum := le_add_of_nonneg_right rest
    _ = ((answer ++ leftOut).map amount).sum := by rw [List.map_append, List.sum_append]
    _ = (groups.map amount).sum := (order.map amount).sum_eq
    _ = (rows.map column).sum := grouped.sum_eq sums

/-- All of it where the limit has room for the keys. -/
theorem sum_eq {Value : Type*} [AddCommMonoid Value] {column : Row → Value}
    {amount : Group → Value}
    (sums : ∀ value members group, aggregates value members group →
      amount group = (members.map column).sum)
    (room : (rows.map key).dedup.length ≤ limit)
    (ranked : IsRanked key aggregates le limit rows answer) :
    (answer.map amount).sum = (rows.map column).sum := by
  obtain ⟨groups, grouped, top⟩ := ranked
  have few : groups.length ≤ limit := by
    rw [← List.Forall₂.length_eq grouped]
    exact room
  rw [((top.perm few).map amount).sum_eq, grouped.sum_eq sums]

end IsRanked

end Ranked

/-! ### Row numbers -/

section RowNumbers

variable {Row : Type u} {Part : Type v} [DecidableEq Part] {part : Row → Part}
  {le : Row → Row → Bool} {rows : List Row}

/-- `ROW_NUMBER() OVER (PARTITION BY part ORDER BY le)`: each row with its number. -/
def rowNumbers (part : Row → Part) (le : Row → Row → Bool) (rows : List Row) :
    List (Row × Nat) :=
  (rows.map part).dedup.flatMap fun value =>
    ((rows.filter fun row => part row = value).mergeSort le).zipIdx 1

/-- The numbers of a partition are those of its rows in their order. -/
theorem filter_rowNumbers (le : Row → Row → Bool) {value : Part} (known : value ∈ rows.map part) :
    (rowNumbers part le rows).filter (fun numbered => part numbered.1 = value) =
      ((rows.filter fun row => part row = value).mergeSort le).zipIdx 1 := by
  have inPartition (other : Part) : ∀ numbered ∈
      ((rows.filter fun row => part row = other).mergeSort le).zipIdx 1,
        part numbered.1 = other := by
    intro numbered member
    have sorted := List.fst_mem_of_mem_zipIdx member
    exact of_decide_eq_true (List.mem_filter.mp (List.mem_mergeSort.mp sorted)).2
  have others : ∀ parts : List Part, value ∉ parts → parts.flatMap (fun other =>
      (((rows.filter fun row => part row = other).mergeSort le).zipIdx 1).filter
        fun numbered => part numbered.1 = value) = [] := by
    intro parts absent
    refine List.flatMap_eq_nil_iff.mpr fun other member => ?_
    refine List.filter_eq_nil_iff.mpr fun numbered found same => absent ?_
    rwa [← of_decide_eq_true same, inPartition other numbered found]
  obtain ⟨before, after, split⟩ := List.append_of_mem (List.mem_dedup.mpr known)
  have distinct := List.nodup_dedup (rows.map part)
  rw [split, List.nodup_middle, List.nodup_cons, List.mem_append, not_or] at distinct
  have own : (((rows.filter fun row => part row = value).mergeSort le).zipIdx 1).filter
      (fun numbered => part numbered.1 = value) =
        ((rows.filter fun row => part row = value).mergeSort le).zipIdx 1 :=
    List.filter_eq_self.mpr fun numbered member =>
      decide_eq_true (inPartition value numbered member)
  rw [rowNumbers, List.filter_flatMap, split, List.flatMap_append, List.flatMap_cons,
    others before distinct.1.1, others after distinct.1.2, own, List.nil_append, List.append_nil]

/-- Number one of a partition is one row, that no other one of it comes before. -/
theorem filter_rowNumbers_one
    (transitive : ∀ first second third, le first second = true → le second third = true →
      le first third = true)
    (total : ∀ first second, (le first second || le second first) = true) {value : Part}
    (known : value ∈ rows.map part) :
    ∃ first ∈ rows, part first = value ∧
      (∀ other ∈ rows, part other = value → le first other = true) ∧
      ((rowNumbers part le rows).filter fun numbered => numbered.2 = 1).filter
        (fun numbered => part numbered.1 = value) = [(first, 1)] := by
  have sorted := List.pairwise_mergeSort transitive total (rows.filter fun row => part row = value)
  have numbers := filter_rowNumbers le known
  have members (row : Row) : row ∈ (rows.filter fun row => part row = value).mergeSort le ↔
      row ∈ rows ∧ part row = value := by
    rw [List.mem_mergeSort, List.mem_filter, decide_eq_true_iff]
  rw [List.filter_comm, numbers]
  cases ordered : (rows.filter fun row => part row = value).mergeSort le with
  | nil =>
      obtain ⟨row, member, same⟩ := List.mem_map.mp known
      have listed := (members row).mpr ⟨member, same⟩
      rw [ordered] at listed
      cases listed
  | cons first rest =>
      rw [ordered] at sorted members
      have own := (members first).mp (List.mem_cons_self ..)
      refine ⟨first, own.1, own.2, fun other member same => ?_, ?_⟩
      · rcases List.mem_cons.mp ((members other).mpr ⟨member, same⟩) with rfl | later
        · have reflexive := total other other
          rwa [Bool.or_self] at reflexive
        · exact (List.pairwise_cons.mp sorted).1 other later
      · rw [List.zipIdx_cons, List.filter_cons_of_pos (by simp)]
        refine congrArg _ (List.filter_eq_nil_iff.mpr fun numbered later isFirst => ?_)
        have behind := List.le_snd_of_mem_zipIdx later
        have one := of_decide_eq_true isFirst
        omega

end RowNumbers

end LlmObs.Foundation
