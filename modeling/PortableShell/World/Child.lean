import PortableShell.Invocation
import PortableShell.Number.Double.Shortest
import PortableShell.SystemError

/-!
# Child processes

What can come of starting a process, and how long it may take.

## Main definitions

* `ChildOutcome`: what comes of starting a process.
* `Attempt`: a process that was to be started, and what came of it.
* `ChildResult`: the output and the exit code of a finished process.
* `TimeLimit`: how long a process may take, and `TimeLimit.isWithin`, whether that is at most so
  long.
-/

namespace PortableShell

/-- What comes of starting a process. -/
inductive ChildOutcome where
  /-- It runs to its end. -/
  | exits (output : Option Text) (code : Int)
  /-- It cannot be started, for a reason. -/
  | refused (reason : Text)
  /-- It does not finish in time and is stopped. -/
  | overran (output : Option Text)
  /-- Starting it, or waiting for it once it was begun, goes wrong in a way that is not foreseen. -/
  | broken (begun : Bool) (e : SystemError)
  deriving DecidableEq, Repr

/-- Whether a process was started at all. -/
def ChildOutcome.started : ChildOutcome → Bool
  | .refused _ => false
  | .broken begun _ => begun
  | _ => true

/-- A process that was to be started, and what came of it. -/
structure Attempt where
  invocation : Invocation
  outcome : ChildOutcome
  deriving DecidableEq, Repr

/-- The output and the exit code of a finished process. -/
structure ChildResult where
  output : Text
  code : Int
  deriving DecidableEq, Repr

/-- Whether a process finished without an error. -/
def ChildResult.ok (c : ChildResult) : Bool :=
  c.code == 0

/-- How long a process may take, in seconds. -/
inductive TimeLimit where
  | unlimited
  | whole (seconds : Int)
  | exact (seconds : Double)
  deriving DecidableEq, Repr

/-- The text of a time limit. -/
def TimeLimit.text : TimeLimit → Text
  | .unlimited => "None"
  | .whole seconds => Text.ofInt seconds
  | .exact seconds => seconds.text

/-- Whether a time limit is at most a number of milliseconds. -/
def TimeLimit.isWithin (milliseconds : Nat) : TimeLimit → Bool
  | .unlimited => true
  | .whole seconds => seconds * 1000 ≤ milliseconds
  | .exact .nan => false
  | .exact (.infinite negative) => negative
  | .exact (.finite negative m e) =>
    negative || m * Double.twoTo e * 1000 ≤ milliseconds * Double.twoTo (-e)

/-- What is said of a time limit that no process can be waited for. -/
def TimeLimit.complaint : TimeLimit → Text
  | .exact .nan => "cannot convert float NaN to integer"
  | .exact (.infinite _) => "cannot convert float infinity to integer"
  | _ => "timeout is too large"

end PortableShell
