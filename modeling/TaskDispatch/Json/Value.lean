import TaskDispatch.Number.ShortestDecimal
import TaskDispatch.Text.Quoted

/-!
# JSON values

The tree of a JSON text, and the short description of a value that messages about an unexpected
one use. A number is an integer only if it is written without point and exponent and fits 64 bits;
all others are doubles.
-/

namespace TaskDispatch

set_option autoImplicit false

/-- A JSON value. The members of an object stand in the order of the text. -/
inductive Json where
  | null
  | boolean (flag : Bool)
  | integer (number : Int)
  | double (number : Binary64)
  | text (content : String)
  | list (items : List Json)
  | object (members : List (String × Json))
  deriving Inhabited

namespace Json

/-- What a value that was not expected looks like. -/
inductive Found where
  | null
  | boolean (flag : Bool)
  | integer (number : Int)
  | double (number : Binary64)
  | text (content : String)
  | sequence
  | map
  deriving DecidableEq, Repr

namespace Found

def description : Found → String
  | .null => "null"
  | .boolean flag => "boolean `" ++ toString flag ++ "`"
  | .integer number => "integer `" ++ toString number ++ "`"
  | .double number => "floating point `" ++ number.toText ++ "`"
  | .text content => "string " ++ Text.quoted content
  | .sequence => "sequence"
  | .map => "map"

end Found

def found : Json → Found
  | .null => .null
  | .boolean flag => .boolean flag
  | .integer number => .integer number
  | .double number => .double number
  | .text content => .text content
  | .list _ => .sequence
  | .object _ => .map

/-- The members of an object by key: the last of several with one key, keys in ascending order. -/
def membersByKey (members : List (String × Json)) : List (String × Json) :=
  let distinct := members.foldl
    (fun kept member => kept.filter (fun other => other.1 != member.1) ++ [member]) []
  distinct.mergeSort fun left right => decide (left.1 ≤ right.1)

end Json

end TaskDispatch
