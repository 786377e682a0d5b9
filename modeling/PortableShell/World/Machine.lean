import PortableShell.Invocation
import PortableShell.Permission
import PortableShell.World.Child
import PortableShell.World.FileSystem

/-!
# Machines

What the machine that commands run on can do, as far as machines differ in it: which texts can be
handed to it, how long it can wait for a process, and what it makes of the mode of a file.

## Main definitions

* `Machine`: what a machine can do.
* `Machine.refuses`, `Machine.canWait`: the texts that it does not take, and the time limits that
  it can wait for.
* `Machine.outcome`: what comes of a process on a machine.
-/

namespace PortableShell

/-- What a machine can do. -/
structure Machine where
  /-- Whether a null character may stand in a path, and in an argument of a process. -/
  takesNull : Bool := false
  /-- The longest time that a process can be waited for, in milliseconds, if there is a longest. -/
  longestWait : Option Nat := some 2147483647
  /-- The mode of a node once it was asked to be set. -/
  modeAfter : Node → Nat → Nat := fun _ mode => mode
  /-- What the user of the machine may do with a node. -/
  access : Node → Permission := fun n => .ofOwnerBits n.mode

namespace Machine

/-- Whether a text cannot be handed to the machine. -/
def refuses (m : Machine) (t : Text) : Bool :=
  ! m.takesNull && t.contains '\x00'

/-- Whether a process can be waited for under a time limit. -/
def canWait (m : Machine) (limit : TimeLimit) : Bool :=
  m.longestWait.all limit.isWithin

/-- What comes of a process of which `stored` would come if the machine takes all its texts and can
wait for it. -/
def outcome (m : Machine) (limit : TimeLimit) (i : Invocation) (stored : ChildOutcome) :
    ChildOutcome :=
  if (i.directory :: i.argv).any m.refuses then
    .broken false .nullCharacter
  else if stored.started && ! m.canWait limit then
    .broken true (.unfit limit.complaint)
  else
    stored

end Machine

end PortableShell
