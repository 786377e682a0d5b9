import PortableShell.Json.Printer
import PortableShell.Json.Reader
import PortableShell.Platform
import PortableShell.Text.Utf8
import PortableShell.World.Child

/-!
# Settings

What the user can set: the platform to translate for, the time limit of processes, the level of
diagnostics, and whether typed lines are kept.  A setting that cannot be understood counts as one
that was not made.

## Main definitions

* `Settings`: the settings, and their types `PlatformChoice` and `LogLevel`.
* `ConfigFile`: the file that the settings are kept in, and `ConfigFile.data`, what it says.
* `Settings.ofFile`, `Settings.override`, `Settings.load`: the settings that a file makes, those
  of the environment put over them, and both in one.
* `Settings.print`: the settings as they are kept in the file.
-/

namespace PortableShell

/-- The platform that is wished for. -/
inductive PlatformChoice where
  /-- The platform of the host. -/
  | auto
  | posix
  | windows
  deriving DecidableEq, Repr

namespace PlatformChoice

/-- The name of a choice. -/
def name : PlatformChoice → Text
  | .auto => "auto"
  | .posix => "posix"
  | .windows => "windows"

/-- The choice of a name. -/
def ofName? (t : Text) : Option PlatformChoice :=
  [PlatformChoice.auto, .posix, .windows].find? (·.name == t)

/-- The choice that a text makes, in letters of either case. -/
def ofText (t : Text) : PlatformChoice :=
  (ofName? (Text.lower t)).getD .auto

end PlatformChoice

/-- The levels of diagnostics, from the most talkative on. -/
inductive LogLevel where
  | trace
  | debug
  | info
  | success
  | warning
  | error
  | critical
  deriving DecidableEq, Repr

namespace LogLevel

/-- The name of a level. -/
def name : LogLevel → Text
  | .trace => "TRACE"
  | .debug => "DEBUG"
  | .info => "INFO"
  | .success => "SUCCESS"
  | .warning => "WARNING"
  | .error => "ERROR"
  | .critical => "CRITICAL"

/-- The level of a name in letters of either case. -/
def ofName? (t : Text) : Option LogLevel :=
  [LogLevel.trace, .debug, .info, .success, .warning, .error, .critical].find?
    (·.name == Text.upper t)

/-- The level that a text sets. -/
def ofText (t : Text) : LogLevel :=
  (ofName? t).getD .warning

end LogLevel

/-- The settings. -/
structure Settings where
  platform : PlatformChoice := .auto
  /-- How many seconds a process may take, if there is a limit. -/
  timeout : Option Double := none
  logLevel : LogLevel := .warning
  /-- Whether typed lines are kept from one session to the next. -/
  inputHistory : Bool := true
  deriving DecidableEq, Repr

/-- The file that the settings are kept in. -/
inductive ConfigFile where
  | missing
  | unreadable
  | contents (bytes : Utf8.Bytes)
  /-- A file of which it cannot be told whether it exists, or where it would be. -/
  | unreachable (e : Failure)
  deriving DecidableEq, Repr

/-- What a file says: its members, or none if it is no readable object. -/
def ConfigFile.data : ConfigFile → Json
  | .contents bytes =>
    match (Utf8.decode? bytes).bind Json.read? with
    | some (.object members) => .object members
    | _ => .object []
  | _ => .object []

namespace Settings

/-- A time limit, if it is one: it has to be greater than zero. -/
def limitOf (x : Double) : Option Double :=
  if x.isPositive then some x else none

/-- The time limit that a text sets. -/
def timeoutOfText (t : Text) : Option Double :=
  (Double.read? t).bind limitOf

/-- The time limit that a value sets.  A whole number beyond all numbers of double precision is
refused. -/
def timeoutOf : Json → Except Failure (Option Double)
  | .bool b => .ok (limitOf (Double.ofInt (if b then 1 else 0)))
  | .integer n =>
    match Double.ofInt n with
    | .infinite _ => .error .beyondDouble
    | x => .ok (limitOf x)
  | .real x => .ok (limitOf x)
  | .text t => .ok (timeoutOfText t)
  | _ => .ok none

/-- The choice of a platform that a value makes. -/
def platformOf : Json → PlatformChoice
  | .text t => .ofText t
  | _ => .auto

/-- The level that a value sets. -/
def logLevelOf : Json → LogLevel
  | .text t => .ofText t
  | _ => .warning

/-- The settings that the members of an object make. -/
def ofData (data : Json) : Except Failure Settings := do
  let timeout ← match data.member? "timeout_s" with
    | none => .ok none
    | some v => timeoutOf v
  return {
    platform := ((data.member? "platform").map platformOf).getD .auto
    timeout
    logLevel := ((data.member? "log_level").map logLevelOf).getD .warning
    inputHistory := ((data.member? "input_history").map (! ·.isEmptyValue)).getD true }

/-- The settings that a file makes. -/
def ofFile : ConfigFile → Except Failure Settings
  | .unreachable e => .error e
  | file => ofData file.data

/-- The settings with those of the environment put over them. -/
def override (s : Settings) (host : Host) : Settings where
  platform := ((host.valueOf? "SHELLBRIDGE_PLATFORM").map .ofText).getD s.platform
  timeout := ((host.valueOf? "SHELLBRIDGE_TIMEOUT").map timeoutOfText).getD s.timeout
  logLevel := ((host.valueOf? "SHELLBRIDGE_LOG_LEVEL").map .ofText).getD s.logLevel
  inputHistory := s.inputHistory

/-- The settings that a file and the environment make. -/
def load (file : ConfigFile) (host : Host) : Except Failure Settings :=
  return (← ofFile file).override host

/-- The time limit of processes. -/
def timeLimit (s : Settings) : TimeLimit :=
  match s.timeout with
  | none => .unlimited
  | some x => .exact x

/-- The settings as an object. -/
def toJson (s : Settings) : Json :=
  .object [
    ("platform", .text s.platform.name),
    ("timeout_s", match s.timeout with | none => .null | some x => .real x),
    ("log_level", .text s.logLevel.name),
    ("input_history", .bool s.inputHistory)]

/-- The settings as they are kept in the file. -/
def print (s : Settings) : Text :=
  s.toJson.print

end Settings

end PortableShell
