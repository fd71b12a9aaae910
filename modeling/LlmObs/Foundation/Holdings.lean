import Mathlib.Data.List.Flatten
import Mathlib.Data.List.Perm.Basic
import Mathlib.Logic.Function.Basic

/-!
Owns the places that items can sit in: a queue with an optional bound, which
drops its oldest items on overflow, and numbered holders that are replaced one
at a time. Each law says where the items are afterwards.
-/

namespace LlmObs.Foundation

variable {α β : Type}

/-! ### Bounded queues -/

/-- `deque(maxlen=bound).append`. -/
def boundedAppend (bound : Option Nat) (items : List α) (item : α) : List α :=
  match bound with
  | none => items ++ [item]
  | some bound => (items ++ [item]).drop (items.length + 1 - bound)

/-- The items that `boundedAppend` pushes out. -/
def overflow (bound : Option Nat) (items : List α) (item : α) : List α :=
  match bound with
  | none => []
  | some bound => (items ++ [item]).take (items.length + 1 - bound)

theorem overflow_append_boundedAppend (bound : Option Nat) (items : List α) (item : α) :
    overflow bound items item ++ boundedAppend bound items item = items ++ [item] := by
  cases bound with
  | none => rfl
  | some bound => exact List.take_append_drop ..

theorem length_boundedAppend_le (bound : Nat) (items : List α) (item : α) :
    (boundedAppend (some bound) items item).length ≤ bound := by
  simp only [boundedAppend, List.length_drop, List.length_append, List.length_singleton]
  omega

theorem length_overflow (bound : Nat) (items : List α) (item : α) :
    (overflow (some bound) items item).length = items.length + 1 - bound := by
  simp only [overflow, List.length_take, List.length_append, List.length_singleton]
  omega

/-! ### Numbered holders -/

/-- An item is held by the new holder, or as before by another one. -/
theorem mem_update_iff {held : Nat → List α} {number other : Nat} {items : List α} {item : α} :
    item ∈ Function.update held number items other ↔
      other = number ∧ item ∈ items ∨ other ≠ number ∧ item ∈ held other := by
  by_cases same : other = number
  · subst same
    simp
  · simp [same]

theorem update_eq_some_iff {holders : Nat → Option α} {number other : Nat} {new found : α} :
    Function.update holders number (some new) other = some found ↔
      other = number ∧ new = found ∨ other ≠ number ∧ holders other = some found := by
  by_cases same : other = number
  · subst same
    simp
  · simp [same]

/-- Replacing one holder exchanges what it held for what the new one holds. -/
theorem flatMap_set_perm (holds : α → List β) {holders : List α} {index : Nat} {old : α}
    (found : holders[index]? = some old) (new : α) :
    ((holders.set index new).flatMap holds ++ holds old).Perm
      (holders.flatMap holds ++ holds new) := by
  induction holders generalizing index with
  | nil => simp at found
  | cons first rest inductionHypothesis =>
      cases index with
      | zero =>
          simp only [List.getElem?_cons_zero, Option.some.injEq] at found
          subst found
          simp only [List.set_cons_zero, List.flatMap_cons]
          have swapped : (holds new ++ (rest.flatMap holds ++ holds first)).Perm
              ((rest.flatMap holds ++ holds first) ++ holds new) := List.perm_append_comm
          have rotated : ((rest.flatMap holds ++ holds first) ++ holds new).Perm
              ((holds first ++ rest.flatMap holds) ++ holds new) :=
            List.perm_append_comm.append_right _
          simpa only [List.append_assoc] using swapped.trans rotated
      | succ index =>
          simp only [List.getElem?_cons_succ] at found
          simp only [List.set_cons_succ, List.flatMap_cons, List.append_assoc]
          exact (inductionHypothesis found).append_left _

end LlmObs.Foundation
