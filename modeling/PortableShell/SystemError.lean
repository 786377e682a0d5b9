import PortableShell.Text.Literal

/-!
# Errors of the operating system

## Main definitions

* `SystemError`: an error of the operating system.
* `SystemError.text`, `SystemError.reason`: its wording, in full and as a reason for something else.
-/

namespace PortableShell

/-- The kinds of error that the operating system tells apart. -/
inductive SystemError.Code where
  | notFound
  | denied
  | notADirectory
  | isADirectory
  deriving DecidableEq, Repr

/-- The number of a kind of error. -/
def SystemError.Code.number : SystemError.Code → Nat
  | .notFound => 2
  | .denied => 13
  | .notADirectory => 20
  | .isADirectory => 21

/-- An error of the operating system. -/
inductive SystemError where
  /-- An error of a known kind, with its reason and the path that it is about. -/
  | coded (code : SystemError.Code) (reason path : Text)
  /-- An error of which there is only a text. -/
  | uncoded (text : Text)
  /-- An argument that a call cannot be made with at all, and what is said of it. -/
  | unfit (complaint : Text)
  deriving DecidableEq, Repr

namespace SystemError

/-- A path does not exist. -/
def missing (path : Text) : SystemError :=
  .coded .notFound "No such file or directory" path

/-- A file stands where a directory would have to be. -/
def blocked (path : Text) : SystemError :=
  .coded .notADirectory "Not a directory" path

/-- A directory stands where a file would have to be. -/
def occupied (path : Text) : SystemError :=
  .coded .isADirectory "Is a directory" path

/-- The error of a text with a null character where there may be none. -/
def nullCharacter : SystemError :=
  .unfit "embedded null byte"

/-- The wording of an error in full. -/
def text : SystemError → Text
  | .coded code reason path =>
    "[Errno " ++ Text.ofNat code.number ++ "] " ++ reason ++ ": " ++ Text.literal path
  | .uncoded text => text
  | .unfit complaint => complaint

/-- An error as the reason for something else: its own reason, or all its text if it has none. -/
def reason : SystemError → Text
  | .coded code reason path =>
    if reason.isEmpty then (SystemError.coded code reason path).text else reason
  | .uncoded text => text
  | .unfit complaint => complaint

end SystemError

end PortableShell
