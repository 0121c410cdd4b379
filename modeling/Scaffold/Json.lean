/-
# Scaffold.Json -- structured values

The values that a request may be described by. Whole numbers and numbers written with a fraction
or an exponent are kept apart, because a reader may accept the one and refuse the other; the
latter are read as double-precision floats.
-/

import Scaffold.Text.Basic

namespace Scaffold

/-- A structured value. -/
inductive Json where
  | null
  | bool (b : Bool)
  /-- A number without fraction and exponent. -/
  | integer (n : Int)
  /-- A number with a fraction or an exponent. -/
  | real (x : Float)
  | text (s : Text)
  | array (items : List Json)
  /-- Members in the order in which they were written. -/
  | object (members : List (Text × Json))

namespace Json

/-- The member of a list of members with the given key; the last one where the key occurs more
than once. -/
def member? (key : Text) : List (Text × Json) → Option Json
  | [] => none
  | (k, v) :: members =>
    match member? key members with
    | some w => some w
    | none => if k = key then some v else none

/-- Whether a value counts as nothing: `null`, `false`, zero, and whatever is empty. -/
def isFalsy : Json → Bool
  | null => true
  | bool b => !b
  | integer n => n == 0
  | real x => x == 0
  | text s => s.isEmpty
  | array items => items.isEmpty
  | object members => members.isEmpty

end Json

end Scaffold
