import LlmObs.Backend.Services.Storage
import LlmObs.Foundation.JsonPath

/-!
Owns what redaction does to a document at each of its places: values under a redacted
key become the marker, every other node stays what it is, and redacting again changes
nothing.
-/

namespace LlmObs.Backend

open LlmObs.Foundation

section

variable {runtime : Runtime} {redactKeys : List String}

/-! ### Lists and objects -/

theorem redactItems_eq_map (items : List Json) :
    redactItems runtime redactKeys items = items.map (redactPayload runtime redactKeys) := by
  induction items with
  | nil => rw [redactItems, List.map_nil]
  | cons item rest inductionHypothesis =>
      rw [redactItems, inductionHypothesis, List.map_cons]

theorem redactEntries_keys (entries : List (String × Json)) :
    (redactEntries runtime redactKeys entries).map Prod.fst = entries.map Prod.fst := by
  induction entries with
  | nil => rw [redactEntries]
  | cons entry rest inductionHypothesis =>
      rw [redactEntries, List.map_cons, inductionHypothesis, List.map_cons]

theorem lookup_redactEntries (name : String) (entries : List (String × Json)) :
    (redactEntries runtime redactKeys entries).lookup name =
      (entries.lookup name).map fun item =>
        if runtime.lower name ∈ redactKeys then .str redactedValue
        else redactPayload runtime redactKeys item := by
  induction entries with
  | nil => simp [redactEntries]
  | cons entry rest inductionHypothesis =>
      obtain ⟨key, item⟩ := entry
      rw [redactEntries, List.lookup_cons, List.lookup_cons]
      by_cases here : name = key
      · subst here
        simp
      · have other : (name == key) = false := beq_eq_false_iff_ne.mpr here
        simp only [other, inductionHypothesis]

/-! ### One step below -/

/-- What stands under a key of a redacted document. -/
theorem child?_redactPayload_key (name : String) (value : Json) :
    (redactPayload runtime redactKeys value).child? (.key name) =
      (value.child? (.key name)).map fun item =>
        if runtime.lower name ∈ redactKeys then .str redactedValue
        else redactPayload runtime redactKeys item := by
  cases value with
  | obj entries => simp only [redactPayload, Json.child?, lookup_redactEntries]
  | arr items => simp only [redactPayload, Json.child?, Option.map_none]
  | null | bool _ | int _ | float _ | str _ =>
      simp only [redactPayload, Json.child?, Option.map_none]

theorem child?_redactPayload_index (position : Nat) (value : Json) :
    (redactPayload runtime redactKeys value).child? (.index position) =
      (value.child? (.index position)).map (redactPayload runtime redactKeys) := by
  cases value with
  | arr items => simp only [redactPayload, Json.child?, redactItems_eq_map, List.getElem?_map]
  | obj entries => simp only [redactPayload, Json.child?, Option.map_none]
  | null | bool _ | int _ | float _ | str _ =>
      simp only [redactPayload, Json.child?, Option.map_none]

/-- Redaction changes no scalar, no length and no key. -/
theorem node_redactPayload (value : Json) :
    (redactPayload runtime redactKeys value).node = value.node := by
  cases value with
  | arr items => simp only [redactPayload, Json.node, redactItems_eq_map, List.length_map]
  | obj entries => simp only [redactPayload, Json.node, redactEntries_keys]
  | null | bool _ | int _ | float _ | str _ => simp only [redactPayload, Json.node]

/-! ### Redacting again -/

mutual

theorem redactPayload_redactPayload : ∀ value : Json,
    redactPayload runtime redactKeys (redactPayload runtime redactKeys value) =
      redactPayload runtime redactKeys value
  | .arr items => by rw [redactPayload, redactPayload, redactItems_redactItems items]
  | .obj entries => by rw [redactPayload, redactPayload, redactEntries_redactEntries entries]
  | .null | .bool _ | .int _ | .float _ | .str _ => by simp only [redactPayload]

theorem redactItems_redactItems : ∀ items : List Json,
    redactItems runtime redactKeys (redactItems runtime redactKeys items) =
      redactItems runtime redactKeys items
  | [] => by simp only [redactItems]
  | item :: rest => by
      rw [redactItems, redactItems, redactPayload_redactPayload item,
        redactItems_redactItems rest]

theorem redactEntries_redactEntries : ∀ entries : List (String × Json),
    redactEntries runtime redactKeys (redactEntries runtime redactKeys entries) =
      redactEntries runtime redactKeys entries
  | [] => by simp only [redactEntries]
  | (key, item) :: rest => by
      rw [redactEntries, redactEntries, redactEntries_redactEntries rest]
      by_cases redacted : runtime.lower key ∈ redactKeys
      · simp only [if_pos redacted]
      · simp only [if_neg redacted, redactPayload_redactPayload item]

end

/-! ### Any depth -/

/-- What is inside a redacted document is redacted. -/
theorem redactPayload_of_at? {value found : Json} {path : Json.Path}
    (redacted : redactPayload runtime redactKeys value = value)
    (located : value.at? path = some found) : redactPayload runtime redactKeys found = found := by
  induction path generalizing value with
  | nil =>
      rw [Json.at?_nil, Option.some.injEq] at located
      exact located ▸ redacted
  | cons step rest inductionHypothesis =>
      rw [Json.at?_cons, Option.bind_eq_some_iff] at located
      obtain ⟨child, below, inChild⟩ := located
      refine inductionHypothesis ?_ inChild
      rw [← redacted] at below
      cases step with
      | key name =>
          rw [child?_redactPayload_key, Option.map_eq_some_iff] at below
          obtain ⟨item, -, rfl⟩ := below
          split
          · simp only [redactPayload]
          · exact redactPayload_redactPayload item
      | index position =>
          rw [child?_redactPayload_index, Option.map_eq_some_iff] at below
          obtain ⟨item, -, rfl⟩ := below
          exact redactPayload_redactPayload item

/-- Whatever stands under a redacted key, at any depth, is the marker. -/
theorem at?_redactPayload_of_mem {value found : Json} {path : Json.Path} {name : String}
    (redacted : runtime.lower name ∈ redactKeys)
    (located : (redactPayload runtime redactKeys value).at? (path ++ [.key name]) = some found) :
    found = .str redactedValue := by
  rw [Json.at?_append, Option.bind_eq_some_iff] at located
  obtain ⟨object, above, below⟩ := located
  rw [Json.at?_cons, Option.bind_eq_some_iff] at below
  obtain ⟨child, isChild, same⟩ := below
  rw [Json.at?_nil, Option.some.injEq] at same
  rw [← redactPayload_of_at? (redactPayload_redactPayload value) above,
    child?_redactPayload_key, Option.map_eq_some_iff] at isChild
  obtain ⟨item, -, marked⟩ := isChild
  rw [if_pos redacted] at marked
  rw [← same, ← marked]

/-- No key of the path is redacted. -/
def Unredacted (runtime : Runtime) (redactKeys : List String) (path : Json.Path) : Prop :=
  ∀ name, .key name ∈ path → runtime.lower name ∉ redactKeys

/-- At a place above which no key is redacted stands the redaction of what was there. -/
theorem at?_redactPayload_of_unredacted {value : Json} {path : Json.Path}
    (unredacted : Unredacted runtime redactKeys path) :
    (redactPayload runtime redactKeys value).at? path =
      (value.at? path).map (redactPayload runtime redactKeys) := by
  induction path generalizing value with
  | nil => simp
  | cons step rest inductionHypothesis =>
      have below : ∀ child : Json, (redactPayload runtime redactKeys child).at? rest =
          (child.at? rest).map (redactPayload runtime redactKeys) := fun child =>
        inductionHypothesis fun name member => unredacted name (List.mem_cons_of_mem _ member)
      have child : (redactPayload runtime redactKeys value).child? step =
          (value.child? step).map (redactPayload runtime redactKeys) := by
        cases step with
        | key name =>
            rw [child?_redactPayload_key]
            simp only [if_neg (unredacted name (List.mem_cons_self ..))]
        | index position => exact child?_redactPayload_index position value
      rw [Json.at?_cons, Json.at?_cons, child]
      cases value.child? step with
      | none => rfl
      | some item => exact below item

/-- Such a place keeps its scalar, its length or its keys. -/
theorem node_at?_redactPayload {value : Json} {path : Json.Path}
    (unredacted : Unredacted runtime redactKeys path) :
    ((redactPayload runtime redactKeys value).at? path).map Json.node =
      (value.at? path).map Json.node := by
  rw [at?_redactPayload_of_unredacted unredacted, Option.map_map]
  exact Option.map_congr fun found _ => node_redactPayload found

/-! ### Documents of a Python process -/

mutual

theorem redactPayload_uniqueKeys : ∀ value : Json,
    value.UniqueKeys → (redactPayload runtime redactKeys value).UniqueKeys
  | .arr items => by
      rw [redactPayload, Json.UniqueKeys, Json.UniqueKeys]
      exact redactItems_uniqueKeys items
  | .obj entries => by
      rw [redactPayload, Json.UniqueKeys, Json.UniqueKeys, redactEntries_keys]
      exact And.imp_right (redactEntries_uniqueKeys entries)
  | .null | .bool _ | .int _ | .float _ | .str _ => by simp only [redactPayload, imp_self]

theorem redactItems_uniqueKeys : ∀ items : List Json,
    Json.ItemsUniqueKeys items → Json.ItemsUniqueKeys (redactItems runtime redactKeys items)
  | [] => by simp only [redactItems, imp_self]
  | item :: rest => by
      rw [redactItems, Json.ItemsUniqueKeys, Json.ItemsUniqueKeys]
      exact And.imp (redactPayload_uniqueKeys item) (redactItems_uniqueKeys rest)

theorem redactEntries_uniqueKeys : ∀ entries : List (String × Json),
    Json.EntriesUniqueKeys entries →
      Json.EntriesUniqueKeys (redactEntries runtime redactKeys entries)
  | [] => by simp only [redactEntries, imp_self]
  | (key, item) :: rest => by
      rw [redactEntries, Json.EntriesUniqueKeys, Json.EntriesUniqueKeys]
      refine And.imp (fun unique => ?_) (redactEntries_uniqueKeys rest)
      split
      · simp only [Json.UniqueKeys]
      · exact redactPayload_uniqueKeys item unique

end

end

end LlmObs.Backend
