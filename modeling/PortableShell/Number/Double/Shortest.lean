import PortableShell.Number.Double
import PortableShell.Number.Double.Layout

/-!
# Writing fractional numbers

A number of double precision is written with the fewest digits that read back as it, or rounded
to six digits.  Both are found in exact arithmetic.

## Main definitions

* `Double.shortest`: the point nearest to a number on the coarsest decimal grid that has a point
  in the interval of numbers that round to it.
* `Double.rounded`: a number rounded to some significant digits.
* `Double.text`, `Double.briefText`: the written forms.
-/

namespace PortableShell.Double

/-- The quotient `x * 2 ^ e / 10 ^ p` as numerator and denominator. -/
def onGrid (x : Nat) (e p : Int) : Nat × Nat :=
  (x * twoTo e * tenTo (-p), twoTo (-e) * tenTo p)

/-- The point nearest to `m * 2 ^ e` on the grid of the multiples of `10 ^ p`, if one of its two
neighbours on the grid lies in the interval of the numbers that round to it.  The interval reaches
half-way to the next numbers of double precision, of which the smaller one is nearer at a power
of two, and holds its ends if `m` is even. -/
def gridPoint? (m : Nat) (e p : Int) : Option Nat :=
  let (value, den) := onGrid (4 * m) (e - 2) p
  let (high, _) := onGrid (4 * m + 2) (e - 2) p
  let below := if m = twoTo (precision - 1) ∧ minExponent < e then 1 else 2
  let (low, _) := onGrid (4 * m - below) (e - 2) p
  let inside (k : Nat) : Bool :=
    k != 0 && if m % 2 = 0 then low ≤ k * den && k * den ≤ high else low < k * den && k * den < high
  let k := value / den
  match inside k, inside (k + 1) with
  | true, true => some (roundDiv value den)
  | true, false => some k
  | false, true => some (k + 1)
  | false, false => none

/-- The digits that stand for `m * 2 ^ e`, and the power of ten that the last of them counts: the
coarsest grid is tried first. -/
def shortest (m : Nat) (e : Int) : Nat × Int :=
  ((List.range 634).findSome? fun (i : Nat) =>
    let p : Int := 309 - i
    (gridPoint? m e p).map (·, p)).getD (0, 0)

/-- The power of ten of the leading decimal digit of `m * 2 ^ e`. -/
def leadingPower (m : Nat) (e : Int) : Int :=
  ((List.range 634).findSome? fun (i : Nat) =>
    let p : Int := 309 - i
    let (value, den) := onGrid m e p
    if den ≤ value then some p else none).getD 0

/-- The number `m * 2 ^ e` rounded to `n` significant digits, a half to the even one, and the
power of ten that the last digit counts. -/
def rounded (n m : Nat) (e : Int) : Nat × Int :=
  let p := leadingPower m e - (n - 1 : Nat)
  let (value, den) := onGrid m e p
  (roundDiv value den, p)

/-- Significant digits set out in a layout: zeros at their end are dropped, since the power of ten
of the leading digit does not depend on them. -/
def digitsText (layout : Layout) (k : Nat) (p : Int) : Text :=
  let digits := Text.ofNat k
  let significant := match Text.dropEndWhile (· == '0') digits with
    | [] => ['0']
    | ds => ds
  layout.write significant (p + digits.length - 1)

/-- The written form in a layout, where `digits` gives the digits of a number and the power of ten
of the last of them. -/
def textIn (layout : Layout) (digits : Nat → Int → Nat × Int) : Double → Text
  | .nan => "nan"
  | .infinite negative => (if negative then "-inf" else "inf")
  | .finite negative m e =>
    let (k, p) := if m = 0 then (0, 0) else digits m e
    (if negative then ['-'] else []) ++ digitsText layout k p

/-- The written form with the fewest digits that read back as the number. -/
def text : Double → Text :=
  textIn .full shortest

/-- The written form with at most six significant digits. -/
def briefText : Double → Text :=
  textIn .brief (rounded 6)

end PortableShell.Double
