import PortableShell.Failure

/-!
# Platforms

A command is translated for one of two platforms, which is found out from the host unless it is
given.

## Main definitions

* `Platform`: the platforms.
* `Platform.parse`: the platform of a name.
* `Host`: what is known of the host.
* `Host.platform`, `Platform.choose`: the platform of a host, and the one to translate for.
-/

namespace PortableShell

/-- The platforms that commands are translated for. -/
inductive Platform where
  | posix
  | windows
  deriving DecidableEq, Repr

/-- The name of a platform. -/
def Platform.name : Platform → Text
  | .posix => "posix"
  | .windows => "windows"

/-- The platform of a name. -/
def Platform.parse (t : Text) : Except Failure Platform :=
  match [Platform.posix, .windows].find? (·.name == t) with
  | some p => .ok p
  | none => .error (.notAPlatform t)

/-- What is known of the host. -/
structure Host where
  /-- The name of the operating system. -/
  system : Text
  /-- The name of its family. -/
  family : Text
  /-- The environment. -/
  environment : List (Text × Text)
  /-- Where the environment says that the user is at home. -/
  home : Text
  /-- The directory of the process. -/
  directory : Text
  deriving Repr

namespace Host

/-- The name of the operating system in lower case. -/
def systemName (h : Host) : Text :=
  Text.lower h.system

/-- Whether the family of the host is that of Windows. -/
def isWindowsFamily (h : Host) : Bool :=
  h.family == "nt".toList

/-- The platform of a host. -/
def platform (h : Host) : Platform :=
  if "windows".toList.isPrefixOf h.systemName || h.isWindowsFamily then .windows else .posix

/-- The value of a variable of the environment. -/
def valueOf? (h : Host) (name : Text) : Option Text :=
  h.environment.reverse.lookup name

end Host

/-- The platform to translate for: the one of the given name, or that of the host if no name is
given or the name is `auto`. -/
def Platform.choose (given : Option Text) (host : Host) : Except Failure Platform :=
  let name := given.getD []
  if name.isEmpty || name = "auto".toList then .ok host.platform else parse (Text.lower name)

end PortableShell
