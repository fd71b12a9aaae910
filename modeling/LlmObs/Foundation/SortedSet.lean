import LlmObs.Foundation.Dict
import Mathlib.Data.List.Perm.Subperm

/-!
Owns sorted sets: members with a score each, the addition of a member, the removal of
a range of scores and the count of the members.
-/

namespace LlmObs.Foundation

universe u v

/-- Members with their scores. No member occurs twice. -/
structure SortedSet (Member : Type u) (Score : Type v) where
  entries : List (Member × Score)
  nodup : (entries.map Prod.fst).Nodup

namespace SortedSet

variable {Member : Type u} {Score : Type v}

def empty : SortedSet Member Score := ⟨[], List.nodup_nil⟩

/-- `ZADD key score member` -/
def zadd [DecidableEq Member] (member : Member) (score : Score) (set : SortedSet Member Score) :
    SortedSet Member Score where
  entries := Dict.set member score set.entries
  nodup := Dict.nodup_keys_set set.nodup

/-- `ZREMRANGEBYSCORE key min max`, both ends included. -/
def zremrangebyscore [LE Score] [DecidableLE Score] (min max : Score)
    (set : SortedSet Member Score) : SortedSet Member Score where
  entries := set.entries.filter fun entry => ¬ (min ≤ entry.2 ∧ entry.2 ≤ max)
  nodup := set.nodup.sublist (List.filter_sublist.map _)

/-- `ZCARD key` -/
def zcard (set : SortedSet Member Score) : Nat := set.entries.length

variable {set : SortedSet Member Score}

theorem mem_zremrangebyscore [LE Score] [DecidableLE Score] {min max : Score}
    {entry : Member × Score} : entry ∈ (set.zremrangebyscore min max).entries ↔
      entry ∈ set.entries ∧ ¬ (min ≤ entry.2 ∧ entry.2 ≤ max) := by
  simp only [zremrangebyscore, List.mem_filter, decide_eq_true_eq]

section Zadd

variable [DecidableEq Member] {member : Member} {score : Score}

theorem mem_zadd_self : (member, score) ∈ (set.zadd member score).entries :=
  Dict.mem_set_self ..

theorem mem_zadd_of_ne {entry : Member × Score} (before : entry ∈ set.entries)
    (other : entry.1 ≠ member) : entry ∈ (set.zadd member score).entries :=
  Dict.mem_set_of_ne before other

theorem mem_of_mem_zadd {entry : Member × Score} (after : entry ∈ (set.zadd member score).entries) :
    entry = (member, score) ∨ entry ∈ set.entries :=
  Dict.mem_of_mem_set after

/-- A member that is in the set already does not make it larger. -/
theorem zcard_zadd : (set.zadd member score).zcard =
    if member ∈ set.entries.map Prod.fst then set.zcard else set.zcard + 1 := by
  have keys := congrArg List.length (Dict.keys_set member score set.entries)
  rw [List.length_map] at keys
  unfold zcard
  rw [show (set.zadd member score).entries.length = _ from keys]
  split <;> simp

end Zadd

/-- Different members of the set are no more than the set has. -/
theorem length_le_zcard {members : List Member} (different : members.Nodup)
    (within : ∀ member ∈ members, member ∈ set.entries.map Prod.fst) :
    members.length ≤ set.zcard := by
  have fewer := (different.subperm within).length_le
  rwa [List.length_map] at fewer

/-- A set has no more members than a list that names them all. -/
theorem zcard_le_length {members : List Member}
    (named : ∀ entry ∈ set.entries, entry.1 ∈ members) : set.zcard ≤ members.length := by
  have fewer := (set.nodup.subperm fun _ listed => by
    obtain ⟨entry, member, rfl⟩ := List.mem_map.mp listed
    exact named entry member).length_le
  rwa [List.length_map] at fewer

end SortedSet

end LlmObs.Foundation
