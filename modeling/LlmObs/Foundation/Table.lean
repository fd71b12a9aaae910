import Mathlib.Data.List.Nodup
import Mathlib.Data.List.Pairwise
import Mathlib.Data.List.Basic
import Mathlib.Data.List.Perm.Basic
import Mathlib.Algebra.BigOperators.Group.List.Basic
import Mathlib.Tactic.Ring

/-!
Owns relational tables under unique constraints. A table carries the proof that
no two of its rows clash, so a statement that would break a constraint has no
resulting table: it raises. Conflict-skipping inserts keep exactly the first new
row of each key; `firstNew` names those rows without running the insert.
-/

namespace LlmObs.Foundation

universe u v w

/-- The rows of a table, no earlier one clashing with a later one. -/
structure Table (Row : Type u) (clash : Row → Row → Prop) where
  rows : List Row
  unique : rows.Pairwise fun earlier later => ¬ clash earlier later

namespace Table

variable {Row : Type u} {clash : Row → Row → Prop}

theorem ext_rows {left right : Table Row clash} (same : left.rows = right.rows) :
    left = right := by
  cases left
  cases right
  cases same
  rfl

/-- The empty table. -/
def empty : Table Row clash := ⟨[], List.Pairwise.nil⟩

/-- With a symmetric constraint a clash identifies the stored row. -/
theorem eq_of_clash (symmetric : ∀ left right, clash left right → clash right left)
    {table : Table Row clash} {left right : Row} (leftStored : left ∈ table.rows)
    (rightStored : right ∈ table.rows) (clashes : clash left right) : left = right := by
  by_contra different
  have distinctSymmetric : Std.Symm fun first second : Row => ¬ clash first second :=
    ⟨fun first second distinct back => distinct (symmetric second first back)⟩
  exact table.unique.forall leftStored rightStored different clashes

/-- What an `UPDATE` of the rows must keep apart: every two different ones. -/
theorem pairwise_map_iff (symmetric : ∀ left right, clash left right → clash right left)
    (reflexive : ∀ row, clash row row) (table : Table Row clash) (assign : Row → Row) :
    (table.rows.map assign).Pairwise (fun earlier later => ¬ clash earlier later) ↔
      ∀ left ∈ table.rows, ∀ right ∈ table.rows, left ≠ right →
        ¬ clash (assign left) (assign right) := by
  rw [List.pairwise_map]
  constructor
  · intro pairwise left leftStored right rightStored different
    have distinctSymmetric : Std.Symm fun first second : Row =>
        ¬ clash (assign first) (assign second) :=
      ⟨fun first second distinct back => distinct (symmetric _ _ back)⟩
    exact pairwise.forall leftStored rightStored different
  · intro apart
    apply List.Pairwise.imp_of_mem (fun {left right} leftStored rightStored distinct => ?_)
      table.unique
    apply apart left leftStored right rightStored
    intro same
    exact distinct (same ▸ reflexive left)

/-- An `UPDATE` that changes no unique key. -/
def mapRows (table : Table Row clash) (assign : Row → Row)
    (keepsKeys : ∀ left right, clash (assign left) (assign right) → clash left right) :
    Table Row clash :=
  ⟨table.rows.map assign, by
    rw [List.pairwise_map]
    exact table.unique.imp fun distinct clashes => distinct (keepsKeys _ _ clashes)⟩

@[simp] theorem mapRows_rows (table : Table Row clash) (assign : Row → Row)
    (keepsKeys : ∀ left right, clash (assign left) (assign right) → clash left right) :
    (table.mapRows assign keepsKeys).rows = table.rows.map assign := rfl

/-- `DELETE .. WHERE`. -/
def deleteWhere (table : Table Row clash) (selected : Row → Bool) : Table Row clash :=
  ⟨table.rows.filter fun row => !selected row, table.unique.filter _⟩

theorem mem_deleteWhere {table : Table Row clash} {selected : Row → Bool} {row : Row} :
    row ∈ (table.deleteWhere selected).rows ↔ row ∈ table.rows ∧ selected row = false := by
  simp [deleteWhere]

variable [DecidableRel clash]

/-- The constraint check at the end of a statement; `none` is a unique
violation. -/
def ofRows? (rows : List Row) : Option (Table Row clash) :=
  if unique : rows.Pairwise fun earlier later => ¬ clash earlier later then
    some ⟨rows, unique⟩
  else none

/-- `INSERT` of one row. -/
def insert? (table : Table Row clash) (row : Row) : Option (Table Row clash) :=
  ofRows? (table.rows ++ [row])

/-- `UPDATE .. SET .. WHERE`. -/
def updateWhere? (table : Table Row clash) (selected : Row → Bool) (assign : Row → Row) :
    Option (Table Row clash) :=
  ofRows? (table.rows.map fun row => if selected row then assign row else row)

/-- `INSERT .. ON CONFLICT DO NOTHING` of one row. -/
def insertOrSkip (table : Table Row clash) (row : Row) : Table Row clash :=
  if conflict : ∃ stored ∈ table.rows, clash stored row then table
  else
    ⟨table.rows ++ [row], by
      rw [List.pairwise_append]
      refine ⟨table.unique, List.pairwise_singleton _ _, fun stored member new isNew => ?_⟩
      rw [List.mem_singleton.mp isNew]
      exact fun clashes => conflict ⟨stored, member, clashes⟩⟩

theorem ofRows?_rows {rows : List Row} {table : Table Row clash}
    (checked : ofRows? rows = some table) : table.rows = rows := by
  unfold ofRows? at checked
  split at checked
  · cases checked
    rfl
  · cases checked

theorem ofRows?_eq_none_iff {rows : List Row} :
    (ofRows? rows : Option (Table Row clash)) = none ↔
      ¬ rows.Pairwise fun earlier later => ¬ clash earlier later := by
  unfold ofRows?
  split <;> simp_all

theorem insert?_rows {table next : Table Row clash} {row : Row}
    (inserted : table.insert? row = some next) : next.rows = table.rows ++ [row] :=
  ofRows?_rows inserted

theorem insert?_eq_none_iff {table : Table Row clash} {row : Row} :
    table.insert? row = none ↔ ∃ stored ∈ table.rows, clash stored row := by
  rw [insert?, ofRows?_eq_none_iff, List.pairwise_append]
  simp [table.unique]

theorem updateWhere?_rows {table next : Table Row clash} {selected : Row → Bool}
    {assign : Row → Row} (updated : table.updateWhere? selected assign = some next) :
    next.rows = table.rows.map fun row => if selected row then assign row else row :=
  ofRows?_rows updated

theorem insertOrSkip_of_clash {table : Table Row clash} {row : Row}
    (conflict : ∃ stored ∈ table.rows, clash stored row) : table.insertOrSkip row = table := by
  simp only [insertOrSkip, conflict, ↓reduceDIte]

theorem insertOrSkip_rows_of_new {table : Table Row clash} {row : Row}
    (new : ¬ ∃ stored ∈ table.rows, clash stored row) :
    (table.insertOrSkip row).rows = table.rows ++ [row] := by
  simp only [insertOrSkip, new, ↓reduceDIte]

/-- `INSERT .. VALUES (..), (..) ON CONFLICT DO NOTHING RETURNING`: the table
after the statement and the rows it inserted, in order. -/
def insertAll (table : Table Row clash) : List Row → Table Row clash × List Row
  | [] => (table, [])
  | row :: rest =>
      if ∃ stored ∈ table.rows, clash stored row then insertAll table rest
      else
        let (final, inserted) := insertAll (table.insertOrSkip row) rest
        (final, row :: inserted)

theorem insertAll_rows (table : Table Row clash) (rows : List Row) :
    (table.insertAll rows).1.rows = table.rows ++ (table.insertAll rows).2 := by
  induction rows generalizing table with
  | nil => simp [insertAll]
  | cons row rest inductionHypothesis =>
      unfold insertAll
      split
      · exact inductionHypothesis table
      · rename_i new
        simp only [inductionHypothesis, insertOrSkip_rows_of_new new, List.append_assoc,
          List.singleton_append]

end Table

/-! ### The first new row of each key -/

section FirstNew

variable {Row : Type u} {Key : Type v} [DecidableEq Key] (key : Row → Key)

/-- The rows whose key is neither in `seen` nor the key of an earlier row. -/
def firstNew : List Key → List Row → List Row
  | _, [] => []
  | seen, row :: rest =>
      if key row ∈ seen then firstNew seen rest
      else row :: firstNew (key row :: seen) rest

variable {key}

theorem firstNew_cons_of_seen {seen : List Key} {row : Row} {rest : List Row}
    (known : key row ∈ seen) : firstNew key seen (row :: rest) = firstNew key seen rest := by
  simp [firstNew, known]

theorem firstNew_cons_of_new {seen : List Key} {row : Row} {rest : List Row}
    (new : key row ∉ seen) :
    firstNew key seen (row :: rest) = row :: firstNew key (key row :: seen) rest := by
  simp [firstNew, new]

theorem firstNew_sublist (seen : List Key) (rows : List Row) :
    (firstNew key seen rows).Sublist rows := by
  induction rows generalizing seen with
  | nil => exact List.Sublist.refl _
  | cons row rest inductionHypothesis =>
      by_cases known : key row ∈ seen
      · rw [firstNew_cons_of_seen known]
        exact (inductionHypothesis seen).cons _
      · rw [firstNew_cons_of_new known]
        exact (inductionHypothesis _).cons_cons _

/-- A key is new when some row has it and it was not seen before. -/
theorem mem_map_firstNew {seen : List Key} {rows : List Row} {value : Key} :
    value ∈ (firstNew key seen rows).map key ↔ value ∉ seen ∧ value ∈ rows.map key := by
  induction rows generalizing seen with
  | nil => simp [firstNew]
  | cons row rest inductionHypothesis =>
      by_cases known : key row ∈ seen
      · rw [firstNew_cons_of_seen known, inductionHypothesis, List.map_cons, List.mem_cons]
        constructor
        · exact fun ⟨unseen, later⟩ => ⟨unseen, Or.inr later⟩
        · rintro ⟨unseen, rfl | later⟩
          · exact absurd known unseen
          · exact ⟨unseen, later⟩
      · rw [firstNew_cons_of_new known, List.map_cons, List.mem_cons, inductionHypothesis,
          List.map_cons, List.mem_cons, List.mem_cons]
        constructor
        · rintro (rfl | ⟨unseen, later⟩)
          · exact ⟨known, Or.inl rfl⟩
          · exact ⟨fun seenBefore => unseen (Or.inr seenBefore), Or.inr later⟩
        · rintro ⟨unseen, rfl | later⟩
          · exact Or.inl rfl
          · by_cases same : value = key row
            · exact Or.inl same
            · exact Or.inr ⟨fun either => either.elim same unseen, later⟩

theorem not_mem_seen_of_mem_firstNew {seen : List Key} {rows : List Row} {row : Row}
    (member : row ∈ firstNew key seen rows) : key row ∉ seen :=
  (mem_map_firstNew.mp (List.mem_map_of_mem member)).1

/-- A new row is the first one with its key. -/
theorem find?_of_mem_firstNew {seen : List Key} {rows : List Row} {row : Row}
    (member : row ∈ firstNew key seen rows) :
    rows.find? (fun other => key other = key row) = some row := by
  induction rows generalizing seen with
  | nil => cases member
  | cons head rest inductionHypothesis =>
      by_cases known : key head ∈ seen
      · rw [firstNew_cons_of_seen known] at member
        have other : key head ≠ key row :=
          fun same => not_mem_seen_of_mem_firstNew member (same ▸ known)
        rw [List.find?_cons_of_neg (by simpa using other)]
        exact inductionHypothesis member
      · rw [firstNew_cons_of_new known] at member
        rcases List.mem_cons.mp member with rfl | later
        · simp
        · have other : key head ≠ key row :=
            fun same => not_mem_seen_of_mem_firstNew later (same ▸ List.mem_cons_self ..)
          rw [List.find?_cons_of_neg (by simpa using other)]
          exact inductionHypothesis later

theorem firstNew_nodup (seen : List Key) (rows : List Row) :
    ((firstNew key seen rows).map key).Nodup := by
  induction rows generalizing seen with
  | nil => exact List.nodup_nil
  | cons row rest inductionHypothesis =>
      by_cases known : key row ∈ seen
      · rw [firstNew_cons_of_seen known]
        exact inductionHypothesis seen
      · rw [firstNew_cons_of_new known, List.map_cons, List.nodup_cons]
        refine ⟨fun again => ?_, inductionHypothesis _⟩
        exact (mem_map_firstNew.mp again).1 (List.mem_cons_self ..)

/-- Only which keys of the rows were seen matters. -/
theorem firstNew_congr {seen seen' : List Key} {rows : List Row}
    (agree : ∀ row ∈ rows, key row ∈ seen ↔ key row ∈ seen') :
    firstNew key seen rows = firstNew key seen' rows := by
  induction rows generalizing seen seen' with
  | nil => rfl
  | cons row rest inductionHypothesis =>
      have headAgree := agree row (List.mem_cons_self ..)
      have restAgree : ∀ later ∈ rest, key later ∈ seen ↔ key later ∈ seen' :=
        fun later member => agree later (List.mem_cons_of_mem _ member)
      by_cases known : key row ∈ seen
      · rw [firstNew_cons_of_seen known, firstNew_cons_of_seen (headAgree.mp known)]
        exact inductionHypothesis restAgree
      · rw [firstNew_cons_of_new known,
          firstNew_cons_of_new fun other => known (headAgree.mpr other)]
        congr 1
        apply inductionHypothesis
        intro later member
        simp only [List.mem_cons, restAgree later member]

theorem firstNew_eq_nil_iff {seen : List Key} {rows : List Row} :
    firstNew key seen rows = [] ↔ ∀ row ∈ rows, key row ∈ seen := by
  constructor
  · intro none row member
    by_contra unseen
    have new : key row ∈ (firstNew key seen rows).map key :=
      mem_map_firstNew.mpr ⟨unseen, List.mem_map_of_mem member⟩
    simp [none] at new
  · intro allSeen
    rw [List.eq_nil_iff_forall_not_mem]
    intro row member
    exact not_mem_seen_of_mem_firstNew member
      (allSeen row ((firstNew_sublist seen rows).subset member))

theorem firstNew_map {Source : Type*} (make : Source → Row) (seen : List Key)
    (rows : List Source) :
    firstNew key seen (rows.map make) = (firstNew (key ∘ make) seen rows).map make := by
  induction rows generalizing seen with
  | nil => rfl
  | cons row rest inductionHypothesis =>
      by_cases known : key (make row) ∈ seen
      · rw [List.map_cons, firstNew_cons_of_seen known, inductionHypothesis,
          firstNew_cons_of_seen (show (key ∘ make) row ∈ seen from known)]
      · rw [List.map_cons, firstNew_cons_of_new known, inductionHypothesis,
          firstNew_cons_of_new (show (key ∘ make) row ∉ seen from known), List.map_cons,
          Function.comp_apply]

/-- The number of rows whose key is in `seen` or the key of an earlier row. -/
def repeats (key : Row → Key) : List Key → List Row → Nat
  | _, [] => 0
  | seen, row :: rest =>
      if key row ∈ seen then repeats key seen rest + 1 else repeats key (key row :: seen) rest

theorem length_firstNew_add_repeats (seen : List Key) (rows : List Row) :
    (firstNew key seen rows).length + repeats key seen rows = rows.length := by
  induction rows generalizing seen with
  | nil => rfl
  | cons row rest inductionHypothesis =>
      by_cases known : key row ∈ seen
      · simp only [firstNew, repeats, if_pos known, List.length_cons]
        have := inductionHypothesis seen
        omega
      · simp only [firstNew, repeats, if_neg known, List.length_cons]
        have := inductionHypothesis (key row :: seen)
        omega

/-- Nothing is left out exactly when all keys are new and distinct. -/
theorem firstNew_eq_self_iff {seen : List Key} {rows : List Row} :
    firstNew key seen rows = rows ↔
      (rows.map key).Nodup ∧ ∀ row ∈ rows, key row ∉ seen := by
  constructor
  · intro same
    refine ⟨?_, fun row member => ?_⟩
    · rw [← same]
      exact firstNew_nodup seen rows
    · exact not_mem_seen_of_mem_firstNew (same.symm ▸ member)
  · rintro ⟨distinct, unseen⟩
    induction rows generalizing seen with
    | nil => rfl
    | cons row rest inductionHypothesis =>
        rw [List.map_cons, List.nodup_cons] at distinct
        rw [firstNew_cons_of_new (unseen row (List.mem_cons_self ..))]
        congr 1
        refine inductionHypothesis distinct.2 fun later member => ?_
        rw [List.mem_cons, not_or]
        refine ⟨fun same => distinct.1 (same ▸ List.mem_map_of_mem member), ?_⟩
        exact unseen later (List.mem_cons_of_mem _ member)

/-- A table whose only constraint is a key inserts the first new row of each
key. -/
theorem insertAll_eq_firstNew
    (table : Table Row fun left right => key left = key right) (rows : List Row) :
    (table.insertAll rows).2 = firstNew key (table.rows.map key) rows := by
  induction rows generalizing table with
  | nil => rfl
  | cons row rest inductionHypothesis =>
      unfold Table.insertAll
      split
      · rename_i conflict
        obtain ⟨stored, member, same⟩ := conflict
        rw [inductionHypothesis, firstNew_cons_of_seen]
        exact same ▸ List.mem_map_of_mem member
      · rename_i new
        have unseen : key row ∉ table.rows.map key := by
          intro known
          obtain ⟨stored, member, same⟩ := List.mem_map.mp known
          exact new ⟨stored, member, same⟩
        rw [firstNew_cons_of_new unseen]
        simp only [inductionHypothesis, Table.insertOrSkip_rows_of_new new]
        congr 1
        apply firstNew_congr
        intro later _
        simp only [List.map_append, List.map_cons, List.map_nil, List.mem_append,
          List.mem_cons, List.not_mem_nil, or_false]
        exact or_comm

end FirstNew

/-! ### Sums over selected keys -/

section SumWhere

variable {Row : Type u} {Key : Type v} {Value : Type w} [AddCommMonoid Value]
  {key : Row → Key} {value : Row → Value} {selected : Key → Bool}

/-- The sum of a column over the rows whose key is selected. -/
def sumWhere (key : Row → Key) (value : Row → Value) (selected : Key → Bool)
    (rows : List Row) : Value :=
  ((rows.filter fun row => selected (key row)).map value).sum

@[simp] theorem sumWhere_nil : sumWhere key value selected [] = 0 := rfl

theorem sumWhere_cons (row : Row) (rest : List Row) :
    sumWhere key value selected (row :: rest) =
      (if selected (key row) then value row else 0) + sumWhere key value selected rest := by
  by_cases here : selected (key row) = true
  · simp [sumWhere, here]
  · simp [sumWhere, here]

theorem sumWhere_append (left right : List Row) :
    sumWhere key value selected (left ++ right) =
      sumWhere key value selected left + sumWhere key value selected right := by
  simp [sumWhere]

theorem sumWhere_perm {left right : List Row} (permuted : left.Perm right) :
    sumWhere key value selected left = sumWhere key value selected right :=
  ((permuted.filter _).map _).sum_eq

/-- The sum over rows that are made of others. -/
theorem sumWhere_map {Source : Type*} (make : Source → Row) (sources : List Source) :
    sumWhere key value selected (sources.map make) =
      sumWhere (fun source => key (make source)) (fun source => value (make source)) selected
        sources := by
  simp only [sumWhere, List.filter_map, List.map_map, Function.comp_def]

theorem sumWhere_congr {otherKey : Row → Key} {otherValue : Row → Value} {rows : List Row}
    (sameKey : ∀ row ∈ rows, key row = otherKey row)
    (sameValue : ∀ row ∈ rows, value row = otherValue row) :
    sumWhere key value selected rows = sumWhere otherKey otherValue selected rows := by
  induction rows with
  | nil => rfl
  | cons row rest inductionHypothesis =>
      rw [sumWhere_cons, sumWhere_cons, sameKey row (List.mem_cons_self ..),
        sameValue row (List.mem_cons_self ..),
        inductionHypothesis (fun later member => sameKey later (List.mem_cons_of_mem _ member))
          fun later member => sameValue later (List.mem_cons_of_mem _ member)]

/-- Where keys are distinct, an update that merges an amount into the row of one key
adds it once, if that row is there and selected. -/
theorem sumWhere_map_of_nodup [DecidableEq Key] (selected : Key → Bool) {assign : Row → Row}
    {amount : Value} (keepsKey : ∀ row, key (assign row) = key row)
    (adds : ∀ row, value (assign row) = value row + amount) (target : Key) {rows : List Row}
    (distinct : (rows.map key).Nodup) :
    sumWhere key value selected
        (rows.map fun row => if key row = target then assign row else row) =
      sumWhere key value selected rows +
        if target ∈ rows.map key ∧ selected target then amount else 0 := by
  induction rows with
  | nil => simp
  | cons row rest inductionHypothesis =>
      rw [List.map_cons, List.nodup_cons] at distinct
      rw [List.map_cons, sumWhere_cons, sumWhere_cons, inductionHypothesis distinct.2,
        List.map_cons]
      by_cases atTarget : key row = target
      · subst atTarget
        rw [if_pos rfl, keepsKey, adds]
        simp only [distinct.1, false_and, if_false, add_zero, List.mem_cons_self, true_and]
        by_cases here : selected (key row) = true
        · simp only [here, if_true]
          rw [add_right_comm]
        · simp [here]
      · have others : target ∈ key row :: rest.map key ↔ target ∈ rest.map key := by
          simp [Ne.symm atTarget]
        rw [if_neg atTarget, add_assoc]
        simp only [others]

/-- Where keys are distinct, a key selects the row that has it. -/
theorem filter_key_of_nodup [DecidableEq Key] {rows : List Row} (distinct : (rows.map key).Nodup)
    {row : Row} (member : row ∈ rows) :
    rows.filter (fun other => key other = key row) = [row] := by
  induction rows with
  | nil => cases member
  | cons first rest inductionHypothesis =>
      rw [List.map_cons, List.nodup_cons] at distinct
      rcases List.mem_cons.mp member with rfl | later
      · have nothing : rest.filter (fun other => key other = key row) = [] := by
          refine List.filter_eq_nil_iff.mpr fun other stored same => distinct.1 ?_
          exact of_decide_eq_true same ▸ List.mem_map_of_mem stored
        rw [List.filter_cons_of_pos (by simp), nothing]
      · rw [List.filter_cons_of_neg, inductionHypothesis distinct.2 later]
        exact fun same => distinct.1 (of_decide_eq_true same ▸ List.mem_map_of_mem later)

theorem sumWhere_add (first second : Row → Value) (selected : Key → Bool) (rows : List Row) :
    sumWhere key (fun row => first row + second row) selected rows =
      sumWhere key first selected rows + sumWhere key second selected rows := by
  induction rows with
  | nil => simp
  | cons row rest inductionHypothesis =>
      rw [sumWhere_cons, sumWhere_cons, sumWhere_cons, inductionHypothesis, add_add_add_comm]
      by_cases here : selected (key row) = true <;> simp [here]

/-- Where keys of groups are distinct, the group of a row's key takes the row once. -/
theorem sumWhere_groupOf {Group : Type*} [DecidableEq Key] {groupKey : Group → Key}
    (selected : Key → Bool) (row : Row) {groups : List Group}
    (distinct : (groups.map groupKey).Nodup) (taken : ∃ group ∈ groups, groupKey group = key row) :
    sumWhere groupKey (fun group => if key row = groupKey group then value row else 0) selected
        groups = if selected (key row) then value row else 0 := by
  induction groups with
  | nil =>
      obtain ⟨_, member, -⟩ := taken
      cases member
  | cons first rest inductionHypothesis =>
      rw [List.map_cons, List.nodup_cons] at distinct
      rw [sumWhere_cons]
      by_cases here : groupKey first = key row
      · have none' : sumWhere groupKey (fun group => if key row = groupKey group then value row
            else 0) selected rest = sumWhere groupKey (fun _ => (0 : Value)) selected rest := by
          refine sumWhere_congr (fun _ _ => rfl) fun group member => if_neg fun same => ?_
          exact distinct.1 (here.trans same ▸ List.mem_map_of_mem member)
        rw [none', here, if_pos rfl]
        simp [sumWhere]
      · have later : ∃ group ∈ rest, groupKey group = key row := by
          obtain ⟨group, member, same⟩ := taken
          rcases List.mem_cons.mp member with rfl | behind
          · exact absurd same here
          · exact ⟨group, behind, same⟩
        rw [if_neg (Ne.symm here), inductionHypothesis distinct.2 later, ite_self, zero_add]

/-- Groups that have each row once sum to what the rows do. -/
theorem sumWhere_groups {Group : Type*} [DecidableEq Key] {groupKey : Group → Key}
    (selected : Key → Bool) {groups : List Group}
    (distinct : (groups.map groupKey).Nodup) {rows : List Row}
    (covers : ∀ row ∈ rows, ∃ group ∈ groups, groupKey group = key row) :
    sumWhere groupKey
        (fun group => ((rows.filter fun row => key row = groupKey group).map value).sum) selected
        groups = sumWhere key value selected rows := by
  induction rows with
  | nil => simp [sumWhere]
  | cons row rest inductionHypothesis =>
      have split (group : Group) :
          (((row :: rest).filter fun row => key row = groupKey group).map value).sum =
            (if key row = groupKey group then value row else 0) +
              ((rest.filter fun row => key row = groupKey group).map value).sum := by
        by_cases here : key row = groupKey group <;> simp [here]
      rw [sumWhere_cons, ← inductionHypothesis fun later member =>
        covers later (List.mem_cons_of_mem _ member),
        ← sumWhere_groupOf selected row distinct (covers row (List.mem_cons_self ..)),
        ← sumWhere_add]
      exact sumWhere_congr (fun _ _ => rfl) fun group _ => split group

end SumWhere

/-! ### Sums by key -/

section KeyedSum

variable {Row : Type u} {Key : Type v} [DecidableEq Key] {key : Row → Key} {value : Row → Nat}

/-- The sum of a column over the rows with one key. -/
def keyedSum (key : Row → Key) (value : Row → Nat) (wanted : Key) (rows : List Row) : Nat :=
  ((rows.filter fun row => key row = wanted).map value).sum

theorem keyedSum_eq_sumWhere (key : Row → Key) (value : Row → Nat) (wanted : Key)
    (rows : List Row) :
    keyedSum key value wanted rows = sumWhere key value (fun found => found = wanted) rows := rfl

end KeyedSum

end LlmObs.Foundation
