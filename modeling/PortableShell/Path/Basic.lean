import PortableShell.Text.Basic

/-!
# Paths

A path is a text whose parts are separated by slashes.  A backslash is a character like any other.

## Main definitions

* `Path.root`: the slashes that a path is rooted at, of which two are kept apart from one.
* `Path.normalize`: the shortest path with the same meaning: no empty part, no `.`, and no `..`
  after a part that it would undo.
* `Path.join`, `Path.parent`, `Path.name`, `Path.extension`: a path under another one, and the
  pieces of a path.
* `Path.plain`: a path without empty parts and `.`, where `..` is kept.

## Main statements

* `Path.normalize_nil`: the empty path means the directory one is in.
-/

namespace PortableShell.Path

/-- The part that means the same directory. -/
def here : Text := ['.']

/-- The part that means the directory above. -/
def up : Text := ['.', '.']

/-- The slashes that a path is rooted at.  Two slashes are a root of their own, three and more
mean the same as one, and a path without a slash in front is rooted nowhere. -/
def root : Text → Text
  | '/' :: '/' :: '/' :: _ => ['/']
  | '/' :: '/' :: _ => ['/', '/']
  | '/' :: _ => ['/']
  | _ => []

/-- One more part on top of the parts passed so far.  The directory above a root is the root, and
above a directory of which only `..` is known lies one more `..`. -/
def pass (rooted : Bool) (above : List Text) (part : Text) : List Text :=
  if part = [] ∨ part = here then
    above
  else if part = up then
    match above with
    | [] => if rooted then [] else [up]
    | top :: rest => if top = up then up :: above else rest
  else
    part :: above

/-- The parts of a path that count, outermost first. -/
def parts (p : Text) : List Text :=
  ((Text.splitAt '/' p).foldl (pass (! (root p).isEmpty)) []).reverse

/-- A text, or `.` in place of the empty one. -/
def orHere (t : Text) : Text :=
  if t.isEmpty then here else t

/-- The shortest path with the same meaning. -/
def normalize (p : Text) : Text :=
  orHere (root p ++ Text.join ['/'] (parts p))

/-- The path `p` as seen from the directory `base`. -/
def join (base p : Text) : Text :=
  if base = [] ∨ p.head? = some '/' then
    p
  else if base.getLast? = some '/' then
    base ++ p
  else
    base ++ ['/'] ++ p

/-- The path without its last part.  Slashes at the end go with it, unless nothing else is left. -/
def parent (p : Text) : Text :=
  let head := Text.throughLast '/' p
  if head.all (· == '/') then head else Text.dropEndWhile (· == '/') head

/-- The last part of a path, which is empty if the path ends in a slash. -/
def name (p : Text) : Text :=
  Text.afterLast '/' p

/-- The name's end from its last point on.  Points at the start of a name begin no extension. -/
def extension (p : Text) : Text :=
  let stem := (name p).dropWhile (· == '.')
  if stem.contains '.' then '.' :: Text.afterLast '.' stem else []

/-- A path without empty parts and `.`. -/
def plain (p : Text) : Text :=
  let kept := (Text.splitAt '/' p).filter fun part => part != [] && part != here
  orHere (root p ++ Text.join ['/'] kept)

/-- The plain path of a part in the directory `base`. -/
def child (base part : Text) : Text :=
  plain (join base part)

/-- A path made independent of the directory `base` that it is seen from. -/
def absolute (base p : Text) : Text :=
  normalize (join base p)

/-- The empty path means the directory one is in. -/
@[simp]
theorem normalize_nil : normalize [] = here := rfl

end PortableShell.Path
