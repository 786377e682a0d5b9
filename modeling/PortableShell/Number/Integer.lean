import PortableShell.Number.Numeral

/-!
# Whole numbers

The written form of a whole number: a sign if wanted, and digits of any script.
-/

namespace PortableShell.Integer

/-- The whole number that a text denotes: blanks around it are skipped, a sign may stand in front
of its digits, and it may have at most `Numeral.maxDigits` of them. -/
def read? (t : Text) : Option Int := do
  let (negative, run) := Numeral.sign (Numeral.core t)
  let ds ← Numeral.digits? run
  if ds.length ≤ Numeral.maxDigits then
    return if negative then -(Numeral.value ds : Int) else Numeral.value ds
  else
    none

end PortableShell.Integer
