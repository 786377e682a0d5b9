import PortableShell.Failure

/-!
# Permissions in three digits

A mode of three octal digits says what the owner, the group and all others may do.

## Main definitions

* `Permission`: what someone may do.
* `Permission.ofDigit`, `Permission.ofMode`: what a digit and what a mode allow.
* `Permission.ownerBits`: the bits that allow it to the owner.
-/

namespace PortableShell

/-- What someone may do. -/
structure Permission where
  read : Bool
  write : Bool
  execute : Bool
  deriving DecidableEq, Repr

namespace Permission

/-- What a digit allows. -/
def ofDigit (d : Nat) : Permission :=
  ⟨d.testBit 2, d.testBit 1, d.testBit 0⟩

/-- The bit that lets the owner read. -/
def readBit : Nat := 0o400

/-- The bit that lets the owner write. -/
def writeBit : Nat := 0o200

/-- The bit that lets the owner execute. -/
def executeBit : Nat := 0o100

/-- The bits that allow to the owner what a permission allows. -/
def ownerBits (p : Permission) : Nat :=
  (if p.read then readBit else 0) ||| (if p.write then writeBit else 0) |||
    (if p.execute then executeBit else 0)

/-- What the bits of a mode allow to the owner. -/
def ofOwnerBits (mode : Nat) : Permission :=
  ofDigit (mode / 0o100)

/-- The value of an octal digit. -/
def octalValue? (c : Char) : Option Nat :=
  if '0' ≤ c ∧ c ≤ '7' then some (c.toNat - '0'.toNat) else none

/-- The error of a mode that is not three octal digits. -/
def notNumeric : ShellError :=
  .unsupported "Windows only supports numeric permissions (e.g., 755)"

/-- What a mode of three octal digits allows to the owner, the group and all others.  A line feed
after the digits is looked at as a fourth digit, which it is not. -/
def ofMode (mode : Text) : Except Failure (Permission × Permission × Permission) :=
  let digits (a b c : Char) : Option (Permission × Permission × Permission) := do
    return (ofDigit (← octalValue? a), ofDigit (← octalValue? b), ofDigit (← octalValue? c))
  match mode with
  | [a, b, c] =>
    match digits a b c with
    | some found => .ok found
    | none => .error (.reported notNumeric)
  | [a, b, c, '\n'] =>
    match digits a b c with
    | some _ => .error (.notAnInteger ['\n'])
    | none => .error (.reported notNumeric)
  | _ => .error (.reported notNumeric)

/-- The bits that allow something to the owner allow just that. -/
theorem ofOwnerBits_ownerBits (p : Permission) : ofOwnerBits p.ownerBits = p := by
  obtain ⟨r, w, x⟩ := p
  cases r <;> cases w <;> cases x <;> decide

end Permission

end PortableShell
