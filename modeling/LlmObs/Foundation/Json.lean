import Mathlib.Data.Rat.Defs

/-!
Owns JSON documents as Python holds them: integers apart from floats, objects as
key-ordered entries.
-/

namespace LlmObs.Foundation

inductive Json where
  | null
  | bool (value : Bool)
  | int (value : Int)
  | float (value : ℚ)
  | str (text : String)
  | arr (items : List Json)
  | obj (entries : List (String × Json))
deriving Repr

namespace Json

/-- `isinstance(value, str | int | float | bool)` or `value is None`. -/
def isScalar : Json → Bool
  | .arr _ => false
  | .obj _ => false
  | _ => true

/-- `bool(value)` -/
def isTruthy : Json → Bool
  | .null => false
  | .bool value => value
  | .int value => decide (value ≠ 0)
  | .float value => decide (value ≠ 0)
  | .str text => decide (text ≠ "")
  | .arr items => !items.isEmpty
  | .obj entries => !entries.isEmpty

end Json

end LlmObs.Foundation
