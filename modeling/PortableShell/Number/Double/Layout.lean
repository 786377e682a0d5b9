import PortableShell.Text.Basic

/-!
# Layout of decimal numbers

How the significant digits of a number are set out: with a point among them, or with one digit
before the point and a power of ten.

## Main definitions

* `Layout`: the decisions of a format.
* `Layout.full`, `Layout.brief`: the two formats in which numbers are printed.
* `Layout.write`: the text of significant digits at a given power of ten.
-/

namespace PortableShell

/-- The decisions of a number format. -/
structure Layout where
  /-- The least power of ten of the leading digit at which the number is written without one. -/
  positionalFrom : Int
  /-- The first greater power of ten at which the number is written with a power of ten. -/
  positionalBelow : Int
  /-- Whether a whole number written without a power of ten ends in `.0`. -/
  pointKept : Bool

namespace Layout

/-- All digits of a number are wanted: a power of ten stands from `10 ^ 16` on and below
`10 ^ -4`, and a whole number shows that it is not an integer by `.0`. -/
def full : Layout := ⟨-4, 16, true⟩

/-- Six digits of a number are wanted: a power of ten stands from `10 ^ 6` on and below
`10 ^ -4`, and a whole number is written as an integer. -/
def brief : Layout := ⟨-4, 6, false⟩

/-- A power of ten: the sign is always written, and at least two digits. -/
def power (x : Int) : Text :=
  let digits := Text.ofNat x.natAbs
  ['e', if x < 0 then '-' else '+'] ++ List.replicate (2 - digits.length) '0' ++ digits

/-- The text of the significant `digits`, the first of which counts `10 ^ x`. -/
def write (layout : Layout) (digits : Text) (x : Int) : Text :=
  if layout.positionalFrom ≤ x ∧ x < layout.positionalBelow then
    if x < 0 then
      "0." ++ List.replicate (-x - 1).toNat '0' ++ digits
    else
      let places := x.toNat + 1
      if digits.length ≤ places then
        digits ++ List.replicate (places - digits.length) '0' ++
          (if layout.pointKept then ['.', '0'] else [])
      else
        digits.take places ++ ['.'] ++ digits.drop places
  else
    digits.take 1 ++ (if digits.length ≤ 1 then [] else '.' :: digits.drop 1) ++ power x

end Layout

end PortableShell
