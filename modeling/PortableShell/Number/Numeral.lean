import PortableShell.Text.Blank
import PortableShell.Text.Digit

/-!
# Numerals

What the written forms of whole and of fractional numbers have in common: the blanks around them,
digits of any script, and low lines between digits.

## Main definitions

* `Numeral.core`: a numeral without the blanks around it.
* `Numeral.digits?`: the values of the digits of a run in which single low lines may stand between
  digits.
* `Numeral.value`: the number that decimal digits denote.
* `Numeral.maxDigits`: the greatest length of a whole number.
-/

namespace PortableShell.Numeral

/-- The blanks that may stand around a number.  The control characters that separate records are
blanks, but not around numbers. -/
def isMargin (c : Char) : Bool :=
  Text.isBlank c && ! (0x1C ≤ c.toNat && c.toNat ≤ 0x1F)

/-- A numeral without the blanks around it. -/
def core (t : Text) : Text :=
  Text.dropEndWhile isMargin (t.dropWhile isMargin)

/-- A sign in front of a numeral, and what follows it: whether it is a minus sign. -/
def sign : Text → Bool × Text
  | '-' :: t => (true, t)
  | '+' :: t => (false, t)
  | t => (false, t)

/-- The values of the digits of a run, in which single low lines may stand between digits. -/
def digits? : Text → Option (List Nat)
  | [] => none
  | [c] => (Text.digitValue? c).map ([·])
  | c :: '_' :: t => do
    let d ← Text.digitValue? c
    let ds ← digits? t
    return d :: ds
  | c :: t => do
    let d ← Text.digitValue? c
    let ds ← digits? t
    return d :: ds

/-- The number that decimal digits denote, the first being the most significant. -/
def value (ds : List Nat) : Nat :=
  ds.foldl (10 * · + ·) 0

/-- A whole number with more digits than this is refused. -/
def maxDigits : Nat := 4300

end PortableShell.Numeral
