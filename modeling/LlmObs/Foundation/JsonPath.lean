import LlmObs.Foundation.Json
import Mathlib.Data.List.Basic

/-!
Owns the places inside a JSON document: paths of keys and list positions, the value at
a path, and what a node is apart from its children. A document is known by its nodes.
-/

namespace LlmObs.Foundation

namespace Json

/-! ### Paths -/

/-- One step below a value. -/
inductive Step where
  | key (name : String)
  | index (position : Nat)
deriving DecidableEq, Repr

abbrev Path := List Step

/-- The value one step below, if it is there. -/
def child? : Json → Step → Option Json
  | .arr items, .index position => items[position]?
  | .obj entries, .key name => entries.lookup name
  | _, _ => none

def at? : Json → Path → Option Json
  | value, [] => some value
  | value, step :: rest => (value.child? step).bind (·.at? rest)

@[simp] theorem at?_nil (value : Json) : value.at? [] = some value := by
  rw [at?]

theorem at?_cons (value : Json) (step : Step) (rest : Path) :
    value.at? (step :: rest) = (value.child? step).bind (·.at? rest) := by
  rw [at?]

theorem at?_append (value : Json) (path rest : Path) :
    value.at? (path ++ rest) = (value.at? path).bind (·.at? rest) := by
  induction path generalizing value with
  | nil => simp
  | cons step path inductionHypothesis =>
      rw [List.cons_append, at?_cons, at?_cons, Option.bind_assoc]
      exact Option.bind_congr fun child _ => inductionHypothesis child

/-! ### Nodes -/

/-- A value without what is below it: a scalar, the length of a list, or the keys of
an object in their order. -/
inductive Node where
  | scalar (value : Json)
  | list (length : Nat)
  | object (keys : List String)

def node : Json → Node
  | .arr items => .list items.length
  | .obj entries => .object (entries.map Prod.fst)
  | value => .scalar value

/-! ### Documents of a Python process -/

mutual

/-- Each object, at any depth, has every key once, as a `dict` does. -/
def UniqueKeys : Json → Prop
  | .arr items => ItemsUniqueKeys items
  | .obj entries => (entries.map Prod.fst).Nodup ∧ EntriesUniqueKeys entries
  | _ => True

def ItemsUniqueKeys : List Json → Prop
  | [] => True
  | item :: rest => item.UniqueKeys ∧ ItemsUniqueKeys rest

def EntriesUniqueKeys : List (String × Json) → Prop
  | [] => True
  | (_, value) :: rest => value.UniqueKeys ∧ EntriesUniqueKeys rest

end

end Json

end LlmObs.Foundation
