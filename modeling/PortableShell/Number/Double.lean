import PortableShell.Number.Numeral

/-!
# Numbers of double precision

A finite number of double precision is a whole number below `2 ^ 53` times a power of two.  Kept
in this form it can be compared, rounded to and written out in exact arithmetic.

## Main definitions

* `Double`: a finite number with its sign, an infinity, or no number at all.
* `Double.roundDiv`: a quotient rounded to the nearest whole number, a half to the even one.
* `Double.ofRatio`: the number of double precision that is nearest to a quotient.
* `Double.ofDigits`: the number of double precision that is nearest to a decimal one.
* `Double.isPositive`: whether a number is greater than zero.
-/

namespace PortableShell

/-- A number of double precision. -/
inductive Double where
  /-- No number. -/
  | nan
  /-- A number beyond all finite ones. -/
  | infinite (negative : Bool)
  /-- The number `significand * 2 ^ exponent`, with a sign that zero has too. -/
  | finite (negative : Bool) (significand : Nat) (exponent : Int)
  deriving DecidableEq, Repr

namespace Double

/-- The least exponent of two. -/
def minExponent : Int := -1074

/-- The greatest exponent of two. -/
def maxExponent : Int := 971

/-- The number of binary digits of a significand. -/
def precision : Nat := 53

/-- Two to the power `k`, or one if `k` is negative.  To scale a quotient by a power of either sign,
`twoTo k` goes into the numerator and `twoTo (-k)` into the denominator. -/
def twoTo (k : Int) : Nat :=
  Nat.pow 2 k.toNat

/-- Ten to the power `k`, or one if `k` is negative. -/
def tenTo (k : Int) : Nat :=
  Nat.pow 10 k.toNat

/-- The quotient rounded to the nearest whole number, a half to the even one of the two. -/
def roundDiv (num den : Nat) : Nat :=
  let q := num / den
  let r := num % den
  if 2 * r < den then q
  else if den < 2 * r then q + 1
  else q + q % 2

/-- The greatest `k` with `2 ^ k ≤ num / den`, for a positive quotient. -/
def log2Ratio (num den : Nat) : Int :=
  let k : Int := (num.log2 : Int) - den.log2
  if den * twoTo k ≤ num * twoTo (-k) then k else k - 1

/-- Zero with a sign. -/
def zero (negative : Bool) : Double :=
  .finite negative 0 minExponent

/-- The number nearest to `num / den`, of two equally near ones the one with the even significand.
A quotient that rounds to more than the greatest finite number becomes an infinity. -/
def ofRatio (negative : Bool) (num den : Nat) : Double :=
  if num = 0 then
    zero negative
  else
    let e := max (log2Ratio num den - (precision - 1 : Nat)) minExponent
    let m := roundDiv (num * twoTo (-e)) (den * twoTo e)
    let (m, e) := if m = twoTo precision then (twoTo (precision - 1), e + 1) else (m, e)
    if maxExponent < e then .infinite negative else .finite negative m e

/-- The number nearest to a whole number. -/
def ofInt (n : Int) : Double :=
  ofRatio (n < 0) n.natAbs 1

/-- The number nearest to the one with the decimal digits `ds` (most significant first) times
`10 ^ exponent`.  Where the leading digit alone decides for an infinity or for zero, the power of
ten is not computed. -/
def ofDigits (negative : Bool) (ds : List Nat) (exponent : Int) : Double :=
  let ds := ds.dropWhile (· == 0)
  let places := ds.length + exponent
  if ds.isEmpty then
    zero negative
  else if 310 < places then
    .infinite negative
  else if places < -330 then
    zero negative
  else
    ofRatio negative (Numeral.value ds * tenTo exponent) (tenTo (-exponent))

/-- Whether a number is greater than zero. -/
def isPositive : Double → Bool
  | .nan => false
  | .infinite negative => ! negative
  | .finite negative m _ => ! negative && m != 0

end Double

end PortableShell
