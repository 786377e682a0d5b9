import PortableShell.Number.Double

/-!
# Structured data

The values of the data format that the settings are kept in, and its texts are written in.

## Main definitions

* `Json`: a value.
* `Json.member?`: the value of a member of an object; of two members of one name the later counts.
* `Json.isEmptyValue`: the values that stand for nothing.
-/

namespace PortableShell

/-- A value.  Whole numbers and numbers with a point or a power of ten are told apart. -/
inductive Json where
  | null
  | bool (b : Bool)
  | integer (n : Int)
  | real (x : Double)
  | text (t : Text)
  | array (values : List Json)
  | object (members : List (Text × Json))

namespace Json

/-- The value of the last of the members with a name. -/
def member? (name : Text) : Json → Option Json
  | .object members => members.reverse.lookup name
  | _ => none

/-- Whether a value stands for nothing: no value, falsehood, zero, or a text, an array or an
object without contents. -/
def isEmptyValue : Json → Bool
  | .null => true
  | .bool b => ! b
  | .integer n => n == 0
  | .real (.finite _ m _) => m == 0
  | .real _ => false
  | .text t => t.isEmpty
  | .array values => values.isEmpty
  | .object members => members.isEmpty

end Json

end PortableShell
