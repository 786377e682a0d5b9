import PortableShell.Error
import PortableShell.SystemError
import PortableShell.Url

/-!
# Failures

Most of what goes wrong is an error that a command reports.  A few things go wrong without a
command expecting them; they end a command all the same.

## Main definitions

* `Failure`: anything that goes wrong, and `Failure.text`, its wording.
* `Failure.ofSystem`: an error of the operating system as a command reports it.
-/

namespace PortableShell

/-- Anything that goes wrong. -/
inductive Failure where
  /-- An error that a command reports. -/
  | reported (e : ShellError)
  /-- An error of the operating system that no command expects. -/
  | system (e : SystemError)
  /-- An address that cannot be taken to pieces. -/
  | badUrl (fault : Url.Fault)
  /-- A text that stands where a whole number should. -/
  | notAnInteger (t : Text)
  /-- A text that stands where the name of a platform should. -/
  | notAPlatform (t : Text)
  /-- A whole number beyond all numbers of double precision. -/
  | beyondDouble
  /-- A home directory that nobody knows. -/
  | homeless
  deriving DecidableEq, Repr

namespace Failure

/-- The wording of a failure. -/
def text : Failure → Text
  | .reported e => e.text
  | .system e => e.text
  | .badUrl fault => fault.message
  | .notAnInteger t => "invalid literal for int() with base 10: " ++ Text.literal t
  | .notAPlatform t => Text.literal t ++ " is not a valid Platform"
  | .beyondDouble => "int too large to convert to float"
  | .homeless => "Could not determine home directory."

/-- An error of the operating system as a command reports it.  That a call cannot be made at all no
command expects. -/
def ofSystem (report : SystemError → ShellError) : SystemError → Failure
  | .unfit complaint => .system (.unfit complaint)
  | e => .reported (report e)

theorem ofSystem_eq_reported {report : SystemError → ShellError} {e : SystemError} {e' : ShellError}
    (h : ofSystem report e = .reported e') : e' = report e := by
  cases e <;> cases h <;> rfl

end Failure

/-- The failure of a result that can only be an error that a command reports. -/
def ofReported {α : Type} (r : Except ShellError α) : Except Failure α :=
  r.mapError .reported

end PortableShell
