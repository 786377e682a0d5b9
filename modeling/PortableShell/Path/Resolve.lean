import PortableShell.Path.Basic
import PortableShell.Error

/-!
# What a path means in a session

A path that a user writes is read against the directory of the session and the home directory.

## Main definitions

* `Path.isAbsolute`: the paths that need no directory to be read against.
* `Path.above`: the directory above another one.
* `Path.resolve`: the path that a written path means.
-/

namespace PortableShell.Path

/-- Whether a path needs no directory to be read against: it starts with a slash, a backslash, or
one character and a colon. -/
def isAbsolute : Text → Bool
  | '/' :: _ => true
  | '\\' :: _ => true
  | _ :: ':' :: _ => true
  | _ => false

/-- The directory above `base`.  A root has none, and neither has a path of a single part. -/
def above (base : Text) : Except ShellError Text :=
  let lower := normalize base
  let upper := parent lower
  if upper.isEmpty || upper = lower then .error (.noParent base) else .ok upper

/-- The path that a written path means: nothing written means the home directory, `..` the
directory above `base`, an absolute path itself, and any other path one under `base`. -/
def resolve (path base home : Text) : Except ShellError Text :=
  if path = [] then
    .ok home
  else if path = up then
    above base
  else if isAbsolute path then
    .ok (normalize path)
  else
    .ok (normalize (join base path))

/-- The home directory is meant only where nothing is written. -/
theorem resolve_home_irrelevant {path : Text} (h : path ≠ []) (base home home' : Text) :
    resolve path base home = resolve path base home' := by
  simp [resolve, h]

end PortableShell.Path
