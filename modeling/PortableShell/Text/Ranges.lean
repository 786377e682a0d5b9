import PortableShell.Text.Basic

/-!
# Ranges of characters

A class of characters given by its ranges of code points.
-/

namespace PortableShell.Text

/-- Ranges of code points, both ends included. -/
abbrev Ranges := List (Nat × Nat)

/-- Whether one of the ranges holds the character. -/
def Ranges.holds (r : Ranges) (c : Char) : Bool :=
  r.any fun (first, last) => first ≤ c.toNat && c.toNat ≤ last

end PortableShell.Text
