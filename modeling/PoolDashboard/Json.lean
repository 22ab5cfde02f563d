import Mathlib.Data.Rat.Defs

/-
Parsed JSON values, as `request.json()` and axios's `response.data` give them,
with the two JavaScript reads the dashboard applies to them: a member read
through optional chaining, and `Array.isArray`.
-/

namespace PoolDashboard

/-- A parsed JSON value.  Numbers are finite doubles, kept as rationals; an
object keeps its members in text order. -/
inductive Json where
  | null
  | bool (b : Bool)
  | num (n : ℚ)
  | str (s : String)
  | arr (elems : List Json)
  | obj (members : List (String × Json))
deriving Repr

/-- `value?.key` for the keys the dashboard reads, none of which names a
prototype property: an object's member (the last one, as `JSON.parse` keeps
it), and `undefined` (`none`) for every other value. -/
def Json.member? (key : String) : Json → Option Json
  | .obj members => (members.reverse.find? (·.1 = key)).map (·.2)
  | _ => none

/-- `Array.isArray(value)`, returning the elements. -/
def Json.asArray? : Json → Option (List Json)
  | .arr elems => some elems
  | _ => none

@[simp] theorem Json.asArray?_arr (elems : List Json) : (Json.arr elems).asArray? = some elems := rfl

@[simp] theorem Json.asArray?_obj (members : List (String × Json)) :
    (Json.obj members).asArray? = none := rfl

end PoolDashboard
