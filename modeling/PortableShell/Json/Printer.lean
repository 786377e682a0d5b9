import PortableShell.Json
import PortableShell.Number.Double.Shortest

/-!
# Writing structured data

A value is written in ASCII with two more blanks of indentation for each level of nesting, and
every value inside another one on a line of its own.

## Main definitions

* `Json.quoted`: a string with its quotes.
* `Json.print`: the text of a value.
-/

namespace PortableShell.Json

/-- A code unit as four hexadecimal digits after `\u`. -/
def unitText (n : Nat) : Text :=
  ['\\', 'u'] ++ Text.hexDigits 4 n

/-- A character inside a string. -/
def charText (c : Char) : Text :=
  let n := c.toNat
  match c with
  | '"' => ['\\', '"']
  | '\\' => ['\\', '\\']
  | '\n' => ['\\', 'n']
  | '\r' => ['\\', 'r']
  | '\t' => ['\\', 't']
  | '\x08' => ['\\', 'b']
  | '\x0C' => ['\\', 'f']
  | c =>
    if 0x20 ≤ n ∧ n ≤ 0x7E then
      [c]
    else if n < 0x10000 then
      unitText n
    else
      unitText (0xD800 + (n - 0x10000) / 0x400) ++ unitText (0xDC00 + (n - 0x10000) % 0x400)

/-- A string with its quotes. -/
def quoted (t : Text) : Text :=
  ['"'] ++ t.flatMap charText ++ ['"']

/-- A number of double precision. -/
def realText : Double → Text
  | .nan => "NaN"
  | .infinite negative => (if negative then "-Infinity" else "Infinity")
  | x => x.text

/-- The start of a line at a level of nesting. -/
def newLine (depth : Nat) : Text :=
  '\n' :: List.replicate (2 * depth) ' '

/-- Items between brackets, each on a line of its own, a level deeper than the brackets. -/
def enclose (depth : Nat) (opening closing : Char) : List Text → Text
  | [] => [opening, closing]
  | items =>
    [opening] ++ newLine (depth + 1) ++ Text.join ([','] ++ newLine (depth + 1)) items ++
      newLine depth ++ [closing]

mutual

/-- The text of a value at a level of nesting. -/
def printAt (depth : Nat) : Json → Text
  | .null => "null"
  | .bool b => (if b then "true" else "false")
  | .integer n => Text.ofInt n
  | .real x => realText x
  | .text t => quoted t
  | .array values => enclose depth '[' ']' (printValues (depth + 1) values)
  | .object members => enclose depth '\x7b' '\x7d' (printMembers (depth + 1) members)

/-- The texts of the values of an array. -/
def printValues (depth : Nat) : List Json → List Text
  | [] => []
  | v :: vs => printAt depth v :: printValues depth vs

/-- The texts of the members of an object. -/
def printMembers (depth : Nat) : List (Text × Json) → List Text
  | [] => []
  | m :: ms => printMember depth m :: printMembers depth ms

/-- The text of one member of an object. -/
def printMember (depth : Nat) : Text × Json → Text
  | (name, v) => quoted name ++ [':', ' '] ++ printAt depth v

end

/-- The text of a value. -/
def print (v : Json) : Text :=
  printAt 0 v

end PortableShell.Json
