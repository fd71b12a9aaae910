import Mathlib.Data.List.Perm.Subperm
import Mathlib.Data.List.Sort
import Mathlib.Data.Rat.Defs

/-!
Owns `ORDER BY .. LIMIT` as a relation between the rows of a query and its answer: rows that
the order does not tell apart stand in any order, and any of them may be the ones that the
limit leaves out.

Nothing here names a concrete query.
-/

namespace LlmObs.Foundation

universe u v

variable {Row : Type u} {Image : Type v} {le : Row → Row → Prop} {limit : Nat}
  {rows answer : List Row}

/-- `answer` is one that `ORDER BY` and `LIMIT limit` may return. -/
def IsTop (le : Row → Row → Prop) (limit : Nat) (rows answer : List Row) : Prop :=
  ∃ ordered : List Row, ordered.Perm rows ∧ ordered.Pairwise le ∧ answer = ordered.take limit

namespace IsTop

theorem length (top : IsTop le limit rows answer) : answer.length = min limit rows.length := by
  obtain ⟨ordered, order, _, rfl⟩ := top
  rw [List.length_take, order.length_eq]

theorem pairwise (top : IsTop le limit rows answer) : answer.Pairwise le := by
  obtain ⟨ordered, _, sorted, rfl⟩ := top
  exact sorted.take

theorem subperm (top : IsTop le limit rows answer) : answer.Subperm rows := by
  obtain ⟨ordered, order, _, rfl⟩ := top
  exact (List.take_sublist limit ordered).subperm.trans order.subperm

theorem mem (top : IsTop le limit rows answer) {row : Row} (member : row ∈ answer) : row ∈ rows :=
  top.subperm.subset member

theorem nodup (top : IsTop le limit rows answer) (unique : rows.Nodup) : answer.Nodup := by
  obtain ⟨ordered, order, _, rfl⟩ := top
  exact (order.nodup_iff.mpr unique).sublist (List.take_sublist limit ordered)

/-- The rows that are left out, none of which comes before one of the answer. -/
theorem exists_leftOut (top : IsTop le limit rows answer) :
    ∃ leftOut : List Row, (answer ++ leftOut).Perm rows ∧
      ∀ first ∈ answer, ∀ later ∈ leftOut, le first later := by
  obtain ⟨ordered, order, sorted, rfl⟩ := top
  refine ⟨ordered.drop limit, ?_, ?_⟩
  · rw [List.take_append_drop]
    exact order
  · rw [← List.take_append_drop limit ordered, List.pairwise_append] at sorted
    exact sorted.2.2

/-- A limit that is not reached leaves nothing out. -/
theorem perm (top : IsTop le limit rows answer) (few : rows.length ≤ limit) :
    answer.Perm rows := by
  obtain ⟨ordered, order, _, rfl⟩ := top
  rwa [List.take_of_length_le (order.length_eq.trans_le few)]

/-- A row that is left out comes after each row of the answer, and the limit is reached. -/
theorem le_of_notMem (top : IsTop le limit rows answer) {row : Row} (member : row ∈ rows)
    (leftOut : row ∉ answer) : answer.length = limit ∧ ∀ first ∈ answer, le first row := by
  obtain ⟨others, order, after⟩ := top.exists_leftOut
  have other : row ∈ others :=
    (List.mem_append.mp (order.mem_iff.mpr member)).resolve_left leftOut
  refine ⟨?_, fun first here => after first here row other⟩
  have positive := List.length_pos_of_mem other
  have total := order.length_eq
  rw [List.length_append] at total
  have length := top.length
  omega

end IsTop

/-! ### Orders of columns -/

/-- An executable order that compares all values; values that it does not tell apart may
differ. -/
structure Comparison (Value : Type u) where
  le : Value → Value → Bool
  trans : ∀ first second third, le first second = true → le second third = true →
    le first third = true
  total : ∀ first second, (le first second || le second first) = true

namespace Comparison

variable {Value : Type u} {Other : Type v}

/-- `ORDER BY .. DESC` -/
def Desc (order : Comparison Value) (first later : Value) : Prop := order.le later first = true

def nat : Comparison Nat where
  le first second := decide (first ≤ second)
  trans first second third one two :=
    decide_eq_true ((of_decide_eq_true one).trans (of_decide_eq_true two))
  total first second := by
    rw [Bool.or_eq_true, decide_eq_true_eq, decide_eq_true_eq]
    exact Nat.le_total first second

def int : Comparison Int where
  le first second := decide (first ≤ second)
  trans first second third one two :=
    decide_eq_true (Int.le_trans (of_decide_eq_true one) (of_decide_eq_true two))
  total first second := by
    rw [Bool.or_eq_true, decide_eq_true_eq, decide_eq_true_eq]
    exact Int.le_total first second

def rat : Comparison ℚ where
  le first second := decide (first ≤ second)
  trans first second third one two :=
    decide_eq_true (Rat.le_trans (of_decide_eq_true one) (of_decide_eq_true two))
  total first second := by
    rw [Bool.or_eq_true, decide_eq_true_eq, decide_eq_true_eq]
    exact Rat.le_total

/-- The order of a column. -/
def on (order : Comparison Value) (column : Other → Value) : Comparison Other where
  le first second := order.le (column first) (column second)
  trans first second third := order.trans (column first) (column second) (column third)
  total first second := order.total (column first) (column second)

/-- By the first value, and by the second where the first ones are not told apart. -/
def lex (order : Comparison Value) (next : Comparison Other) : Comparison (Value × Other) where
  le first second := order.le first.1 second.1 &&
    (!order.le second.1 first.1 || next.le first.2 second.2)
  trans first second third one two := by
    simp only [Bool.and_eq_true, Bool.or_eq_true, Bool.not_eq_true'] at one two ⊢
    refine ⟨order.trans _ _ _ one.1 two.1, ?_⟩
    by_cases back : order.le third.1 first.1 = true
    · right
      have backOne := order.trans _ _ _ two.1 back
      have backTwo := order.trans _ _ _ back one.1
      exact next.trans _ _ _ (one.2.resolve_left (by simp [backOne]))
        (two.2.resolve_left (by simp [backTwo]))
    · exact Or.inl (Bool.eq_false_iff.mpr back)
  total first second := by
    have one := order.total first.1 second.1
    have two := next.total first.2 second.2
    cases here : order.le first.1 second.1 <;> cases back : order.le second.1 first.1 <;>
      simp_all

theorem lex_fst {order : Comparison Value} {next : Comparison Other} {first second : Value × Other}
    (ordered : (order.lex next).le first second = true) : order.le first.1 second.1 = true :=
  (Bool.and_eq_true _ _ ▸ ordered).1

/-- `DESC`, which puts `NULL` first. -/
def nullsFirst (order : Comparison Value) : Comparison (Option Value) where
  le
    | _, none => true
    | none, some _ => false
    | some first, some second => order.le first second
  trans first second third one two := by
    cases first <;> cases second <;> cases third <;> simp_all
    exact order.trans _ _ _ one two
  total first second := by
    cases first <;> cases second <;> simp
    simpa using order.total _ _

/-- `DESC NULLS LAST` -/
def nullsLast (order : Comparison Value) : Comparison (Option Value) where
  le
    | none, _ => true
    | some _, none => false
    | some first, some second => order.le first second
  trans first second third one two := by
    cases first <;> cases second <;> cases third <;> simp_all
    exact order.trans _ _ _ one two
  total first second := by
    cases first <;> cases second <;> simp
    simpa using order.total _ _

/-- One answer of a descending order: rows that it does not tell apart stay as they were. -/
def top (order : Comparison Value) (limit : Nat) (rows : List Value) : List Value :=
  (rows.mergeSort fun first later => order.le later first).take limit

theorem isTop_top (order : Comparison Value) (limit : Nat) (rows : List Value) :
    IsTop order.Desc limit rows (order.top limit rows) := by
  refine ⟨_, List.mergeSort_perm rows _, ?_, rfl⟩
  have transitive : ∀ first second third, order.le second first = true →
      order.le third second = true → order.le third first = true :=
    fun first second third one two => order.trans third second first two one
  have total : ∀ first second, (order.le second first || order.le first second) = true :=
    fun first second => order.total second first
  exact List.pairwise_mergeSort transitive total rows

/-- Some rows have one that no other one comes before. -/
theorem exists_top_one (order : Comparison Value) {rows : List Value} (some' : rows ≠ []) :
    ∃ first ∈ rows, order.top 1 rows = [first] ∧ ∀ other ∈ rows, order.le other first = true := by
  have top := order.isTop_top 1 rows
  have positive := List.length_pos_of_ne_nil some'
  have one : (order.top 1 rows).length = 1 := by
    rw [top.length]
    omega
  obtain ⟨first, only⟩ := List.length_eq_one_iff.mp one
  refine ⟨first, top.mem (only ▸ List.mem_singleton_self first), only, fun other member => ?_⟩
  by_cases same : other = first
  · rw [same]
    have reflexive := order.total first first
    rwa [Bool.or_self] at reflexive
  · have leftOut : other ∉ order.top 1 rows := by
      rw [only, List.mem_singleton]
      exact same
    exact (top.le_of_notMem member leftOut).2 first (only ▸ List.mem_singleton_self first)

end Comparison

end LlmObs.Foundation
