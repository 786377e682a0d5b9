import PortableShell.Number.Double

/-!
# Reading fractional numbers

The written form of a number of double precision: a sign if wanted, then the name of an infinity
or of no number, or decimal digits with a point and a power of ten.

## Main definitions

* `Double.read?`: the number that a text denotes.
* `Double.ofParts?`: the number with given digits before and after the point and a given power
  of ten.
-/

namespace PortableShell.Double

/-- The text with every digit of any script written as one of `0` to `9`. -/
def plainDigits (t : Text) : Text :=
  t.map fun c => match Text.digitValue? c with
    | some d => Nat.digitChar d
    | none => c

/-- The text without its low lines, if each of them stands between two digits. -/
def dropLowLines? : Text → Option Text
  | [] => some []
  | '_' :: _ => none
  | [c] => some [c]
  | c :: '_' :: d :: t =>
    if Text.isAsciiDigit c && Text.isAsciiDigit d then
      (dropLowLines? (d :: t)).map (c :: ·)
    else
      none
  | c :: d :: t => (dropLowLines? (d :: t)).map (c :: ·)

/-- The values of ASCII digits. -/
def digitValues (t : Text) : List Nat :=
  t.map fun c => c.toNat - '0'.toNat

/-- The power of ten after a number: nothing, or the letter `e` of either case, a sign if wanted,
and at least one digit. -/
def power? : Text → Option Int
  | [] => some 0
  | c :: t =>
    if c = 'e' || c = 'E' then
      let (negative, run) := Numeral.sign t
      if ! run.isEmpty && run.all Text.isAsciiDigit then
        let n : Int := Numeral.value (digitValues run)
        some (if negative then -n else n)
      else
        none
    else
      none

/-- The number with the digits `whole` before the point and `part` after it, times a power of
ten. -/
def ofParts (negative : Bool) (whole part : Text) (power : Int) : Double :=
  ofDigits negative (digitValues (whole ++ part)) (power - part.length)

/-- The number that an unsigned text of ASCII digits, at most one point and a power of ten
denotes.  A digit has to stand before or after the point. -/
def ofPlain? (negative : Bool) (t : Text) : Option Double :=
  let whole := t.takeWhile Text.isAsciiDigit
  let rest := t.dropWhile Text.isAsciiDigit
  let (part, rest) := match rest with
    | '.' :: rest => (rest.takeWhile Text.isAsciiDigit, rest.dropWhile Text.isAsciiDigit)
    | rest => ([], rest)
  if whole.isEmpty && part.isEmpty then
    none
  else
    (power? rest).map (ofParts negative whole part)

/-- The number that a text denotes. -/
def read? (t : Text) : Option Double := do
  let plain ← dropLowLines? (plainDigits (Numeral.core t))
  let (negative, body) := Numeral.sign plain
  let name := body.map Char.toLower
  if name = "infinity".toList || name = "inf".toList then
    return .infinite negative
  else if name = "nan".toList then
    return .nan
  else
    ofPlain? negative body

end PortableShell.Double
