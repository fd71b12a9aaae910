import Mathlib.Data.List.Nodup

/-!
Owns insertion-ordered dictionaries as lists of entries: the assignment of a key, and
what a sequence of assignments leaves. A key stands where it came first, with the value
that came last. A dictionary has no key twice.
-/

namespace LlmObs.Foundation

universe u v w

namespace Dict

variable {Key : Type u} {Value : Type v} {Other : Type w}

/-- The values changed under their keys. -/
def mapValues (change : Value → Other) (dict : List (Key × Value)) : List (Key × Other) :=
  dict.map fun entry => (entry.1, change entry.2)

theorem mapValues_eq_iff {left right : Value → Other} {dict : List (Key × Value)} :
    mapValues left dict = mapValues right dict ↔ ∀ entry ∈ dict, left entry.2 = right entry.2 := by
  simp [mapValues]

theorem lookup_mapValues [BEq Key] (change : Value → Other) (dict : List (Key × Value))
    (key : Key) : (mapValues change dict).lookup key = (dict.lookup key).map change := by
  induction dict with
  | nil => rfl
  | cons entry rest inductionHypothesis =>
      obtain ⟨stored, value⟩ := entry
      show ((stored, change value) :: mapValues change rest).lookup key = _
      rw [List.lookup_cons, List.lookup_cons]
      cases key == stored with
      | true => rfl
      | false => exact inductionHypothesis

/-- The first key that is found, with the values changed. -/
theorem findSome?_lookup_mapValues [BEq Key] (change : Value → Other)
    (dict : List (Key × Value)) (keys : List Key) :
    (keys.findSome? fun key => (mapValues change dict).lookup key) =
      (keys.findSome? fun key => dict.lookup key).map change := by
  simp only [lookup_mapValues, List.map_findSome?, Function.comp_def]

variable [DecidableEq Key]

/-- `dict[key] = value` -/
def set (key : Key) (value : Value) : List (Key × Value) → List (Key × Value)
  | [] => [(key, value)]
  | (stored, old) :: rest =>
      if stored = key then (stored, value) :: rest else (stored, old) :: set key value rest

/-- `{key: value for key, value in entries}` -/
def ofEntries (entries : List (Key × Value)) : List (Key × Value) :=
  entries.foldl (fun dict entry => set entry.1 entry.2 dict) []

theorem set_mapValues (change : Value → Other) (key : Key) (value : Value)
    (dict : List (Key × Value)) :
    set key (change value) (mapValues change dict) = mapValues change (set key value dict) := by
  induction dict with
  | nil => rfl
  | cons entry rest inductionHypothesis =>
      obtain ⟨stored, old⟩ := entry
      show set key (change value) ((stored, change old) :: mapValues change rest) = _
      rw [set, set]
      by_cases same : stored = key
      · rw [if_pos same, if_pos same]
        rfl
      · rw [if_neg same, if_neg same, inductionHypothesis]
        rfl

/-- It does not matter whether values are changed before they are assigned or after. -/
theorem ofEntries_mapValues (change : Value → Other) (entries : List (Key × Value)) :
    ofEntries (mapValues change entries) = mapValues change (ofEntries entries) := by
  have general : ∀ dict : List (Key × Value),
      (mapValues change entries).foldl (fun dict entry => set entry.1 entry.2 dict)
          (mapValues change dict) =
        mapValues change (entries.foldl (fun dict entry => set entry.1 entry.2 dict) dict) := by
    induction entries with
    | nil => exact fun _ => rfl
    | cons entry rest inductionHypothesis =>
        intro dict
        show (mapValues change rest).foldl _
          (set entry.1 (change entry.2) (mapValues change dict)) = _
        rw [set_mapValues, inductionHypothesis]
        rfl
  exact general []

theorem mem_of_mem_set {key : Key} {value : Value} {dict : List (Key × Value)}
    {entry : Key × Value} (member : entry ∈ set key value dict) :
    entry = (key, value) ∨ entry ∈ dict := by
  induction dict with
  | nil => exact Or.inl (List.mem_singleton.mp member)
  | cons head rest inductionHypothesis =>
      obtain ⟨stored, old⟩ := head
      rw [set] at member
      split at member
      · rename_i same
        rcases List.mem_cons.mp member with here | later
        · exact Or.inl (same ▸ here)
        · exact Or.inr (List.mem_cons_of_mem _ later)
      · rcases List.mem_cons.mp member with here | later
        · exact Or.inr (here ▸ List.mem_cons_self ..)
        · rcases inductionHypothesis later with assigned | kept
          · exact Or.inl assigned
          · exact Or.inr (List.mem_cons_of_mem _ kept)

/-- What is left was assigned. -/
theorem mem_of_mem_ofEntries {entries : List (Key × Value)} {entry : Key × Value}
    (member : entry ∈ ofEntries entries) : entry ∈ entries := by
  have general : ∀ (assigned dict : List (Key × Value)),
      entry ∈ assigned.foldl (fun dict entry => set entry.1 entry.2 dict) dict →
        entry ∈ assigned ∨ entry ∈ dict := by
    intro assigned
    induction assigned with
    | nil => exact fun _ kept => Or.inr kept
    | cons head rest inductionHypothesis =>
        intro dict left
        rcases inductionHypothesis _ left with later | kept
        · exact Or.inl (List.mem_cons_of_mem _ later)
        · rcases mem_of_mem_set kept with here | before
          · exact Or.inl (here ▸ List.mem_cons_self ..)
          · exact Or.inr before
  rcases general entries [] member with assigned | none
  · exact assigned
  · cases none

theorem mem_set_self (key : Key) (value : Value) (dict : List (Key × Value)) :
    (key, value) ∈ set key value dict := by
  induction dict with
  | nil => exact List.mem_singleton.mpr rfl
  | cons entry rest inductionHypothesis =>
      rw [set]
      split
      · rename_i same
        rw [same]
        exact List.mem_cons_self ..
      · exact List.mem_cons_of_mem _ inductionHypothesis

theorem mem_set_of_ne {key : Key} {value : Value} {dict : List (Key × Value)}
    {entry : Key × Value} (member : entry ∈ dict) (other : entry.1 ≠ key) :
    entry ∈ set key value dict := by
  induction dict with
  | nil => cases member
  | cons head rest inductionHypothesis =>
      rw [set]
      rcases List.mem_cons.mp member with rfl | later
      · rw [if_neg other]
        exact List.mem_cons_self ..
      · split
        · exact List.mem_cons_of_mem _ later
        · exact List.mem_cons_of_mem _ (inductionHypothesis later)

/-- An assignment keeps the keys, and adds the one that is missing. -/
theorem keys_set (key : Key) (value : Value) (dict : List (Key × Value)) :
    (set key value dict).map Prod.fst =
      if key ∈ dict.map Prod.fst then dict.map Prod.fst else dict.map Prod.fst ++ [key] := by
  induction dict with
  | nil => rfl
  | cons head rest inductionHypothesis =>
      rw [set]
      by_cases same : head.1 = key
      · simp [same]
      · have other : key ≠ head.1 := fun equal => same equal.symm
        rw [if_neg same, List.map_cons, inductionHypothesis]
        simp only [List.map_cons, List.mem_cons, other, false_or]
        split <;> rfl

theorem nodup_keys_set {key : Key} {value : Value} {dict : List (Key × Value)}
    (nodup : (dict.map Prod.fst).Nodup) : ((set key value dict).map Prod.fst).Nodup := by
  rw [keys_set]
  split
  · exact nodup
  · rename_i absent
    exact nodup.append (List.nodup_singleton key) (by simpa using absent)

theorem nodup_keys_ofEntries (entries : List (Key × Value)) :
    ((ofEntries entries).map Prod.fst).Nodup := by
  have general : ∀ dict : List (Key × Value), (dict.map Prod.fst).Nodup →
      ((entries.foldl (fun dict entry => set entry.1 entry.2 dict) dict).map Prod.fst).Nodup := by
    induction entries with
    | nil => exact fun _ nodup => nodup
    | cons entry rest inductionHypothesis =>
        exact fun dict nodup => inductionHypothesis _ (nodup_keys_set nodup)
  exact general [] List.nodup_nil

theorem mem_keys_ofEntries {entries : List (Key × Value)} {key : Key} :
    key ∈ (ofEntries entries).map Prod.fst ↔ key ∈ entries.map Prod.fst := by
  have general : ∀ dict : List (Key × Value),
      key ∈ (entries.foldl (fun dict entry => set entry.1 entry.2 dict) dict).map Prod.fst ↔
        key ∈ dict.map Prod.fst ∨ key ∈ entries.map Prod.fst := by
    induction entries with
    | nil => simp
    | cons entry rest inductionHypothesis =>
        intro dict
        rw [List.foldl_cons, inductionHypothesis, keys_set, List.map_cons, List.mem_cons]
        by_cases present : entry.1 ∈ dict.map Prod.fst
        · rw [if_pos present]
          have known : key = entry.1 → key ∈ dict.map Prod.fst := fun same => same ▸ present
          tauto
        · rw [if_neg present, List.mem_append, List.mem_singleton, or_assoc]
  rw [ofEntries, general []]
  simp

theorem set_of_notMem {key : Key} (value : Value) {dict : List (Key × Value)}
    (absent : key ∉ dict.map Prod.fst) : set key value dict = dict ++ [(key, value)] := by
  induction dict with
  | nil => rfl
  | cons head rest inductionHypothesis =>
      rw [List.map_cons, List.mem_cons, not_or] at absent
      rw [set, if_neg (fun same => absent.1 same.symm), inductionHypothesis absent.2,
        List.cons_append]

/-- Assignments of different keys leave what they say. -/
theorem ofEntries_of_nodup {entries : List (Key × Value)}
    (nodup : (entries.map Prod.fst).Nodup) : ofEntries entries = entries := by
  have general : ∀ (rest dict : List (Key × Value)), ((dict ++ rest).map Prod.fst).Nodup →
      rest.foldl (fun dict entry => set entry.1 entry.2 dict) dict = dict ++ rest := by
    intro rest
    induction rest with
    | nil => exact fun dict _ => (List.append_nil dict).symm
    | cons entry rest inductionHypothesis =>
        intro dict different
        have absent : entry.1 ∉ dict.map Prod.fst := by
          rw [List.map_append, List.map_cons] at different
          exact fun earlier =>
            (List.nodup_append.mp different).2.2 _ earlier _ (List.mem_cons_self ..) rfl
        rw [List.foldl_cons, set_of_notMem _ absent]
        rw [show dict ++ entry :: rest = (dict ++ [entry]) ++ rest by simp] at different ⊢
        exact inductionHypothesis _ different
  exact general entries [] nodup

end Dict

/-- A dictionary. No key occurs twice. -/
structure PyDict (Key : Type u) (Value : Type v) where
  entries : List (Key × Value)
  nodup : (entries.map Prod.fst).Nodup

namespace PyDict

variable {Key : Type u} {Value : Type v}

theorem eq_of_entries {left right : PyDict Key Value} (same : left.entries = right.entries) :
    left = right := by
  obtain ⟨entries, _⟩ := left
  cases same
  rfl

variable [DecidableEq Key]

/-- `{key: value for key, value in entries}` -/
def ofEntries (entries : List (Key × Value)) : PyDict Key Value :=
  ⟨Dict.ofEntries entries, Dict.nodup_keys_ofEntries entries⟩

/-- `dict.get(key)` -/
def get? (key : Key) (dict : PyDict Key Value) : Option Value := dict.entries.lookup key

/-- `dict[key] = value` -/
def set (key : Key) (value : Value) (dict : PyDict Key Value) : PyDict Key Value :=
  ⟨Dict.set key value dict.entries, Dict.nodup_keys_set dict.nodup⟩

theorem get?_eq_some {dict : PyDict Key Value} {key : Key} {value : Value} :
    dict.get? key = some value ↔ (key, value) ∈ dict.entries := by
  obtain ⟨entries, nodup⟩ := dict
  show entries.lookup key = some value ↔ (key, value) ∈ entries
  induction entries with
  | nil => simp
  | cons head rest inductionHypothesis =>
      obtain ⟨stored, old⟩ := head
      rw [List.map_cons, List.nodup_cons] at nodup
      rw [List.lookup_cons, List.mem_cons, Prod.mk.injEq]
      by_cases same : key = stored
      · have absent : (key, value) ∉ rest := fun member =>
          nodup.1 (List.mem_map.mpr ⟨_, member, same⟩)
        simp [same, eq_comm, same ▸ absent]
      · have other : (key == stored) = false := beq_eq_false_iff_ne.mpr same
        rw [other, inductionHypothesis nodup.2]
        simp [same]

@[simp] theorem get?_set_self (key : Key) (value : Value) (dict : PyDict Key Value) :
    (dict.set key value).get? key = some value :=
  get?_eq_some.mpr (Dict.mem_set_self key value dict.entries)

@[simp] theorem get?_set_of_ne {key other : Key} (value : Value) (dict : PyDict Key Value)
    (different : other ≠ key) : (dict.set key value).get? other = dict.get? other := by
  apply Option.ext
  intro found
  rw [get?_eq_some, get?_eq_some]
  constructor
  · intro member
    rcases Dict.mem_of_mem_set member with assigned | kept
    · exact absurd (congrArg Prod.fst assigned) different
    · exact kept
  · exact fun member => Dict.mem_set_of_ne member different

end PyDict

end LlmObs.Foundation
