import PortableShell.Argument
import PortableShell.Session
import PortableShell.World

/-!
# Procedures

Most commands are carried out by a procedure.  A procedure first makes out from the argument text,
the session and the files what is to be done, and then does it: what is wrong with the arguments
shows before anything is done.

## Main definitions

* `Answer`: the text that a procedure ends with.
* `Site`: the session that a procedure runs in and the time limit of its processes.
* `Procedure`: the two parts of a procedure, and `Procedure.run`, one after the other.
* `Site.launch`, `Site.launchChecked`, `Site.launchOr`: running a native tool.
-/

namespace PortableShell

/-- The text that a procedure ends with. -/
structure Answer where
  message : Text
  /-- Whether each line is to be labelled for itself. -/
  classified : Bool
  deriving DecidableEq, Repr

/-- A text whose lines are to be labelled. -/
def Answer.listing (message : Text) : Answer := ⟨message, true⟩

/-- A text in the shell's own words. -/
def Answer.notice (message : Text) : Answer := ⟨message, false⟩

/-- Where a procedure runs. -/
structure Site where
  session : Session
  limit : TimeLimit

namespace Site

/-- The platform that commands are translated for. -/
def platform (s : Site) : Platform := s.session.platform

/-- The directory that the session is in. -/
def directory (s : Site) : Text := s.session.directory

/-- Runs a native tool in the directory of the session. -/
def launch (s : Site) (argv : List Text) : Action ChildResult :=
  World.start s.limit ⟨argv, s.directory⟩

/-- Runs a native tool, whose output counts only if it ends without an error; if it does not, the
failure is of the given kind and shows the output. -/
def launchOr (s : Site) (kind : ErrorKind) (failure : Text) (argv : List Text) : Action Text := do
  let result ← s.launch argv
  if result.ok then
    return result.output
  else
    throw (.reported ⟨kind, failure, some result.output⟩)

/-- Runs a native tool, which failed if it ends with an error. -/
def launchChecked (s : Site) (failure : Text) (argv : List Text) : Action Text :=
  s.launchOr .commandFailed failure argv

end Site

/-- How a command is carried out. -/
structure Procedure where
  /-- What is to be done. -/
  Input : Type
  /-- Makes out what is to be done. -/
  prepare : Session → FileSystem → Text → Except Failure Input
  /-- Does it. -/
  perform : Site → Input → Action Answer

/-- A procedure from the argument text to the answer. -/
def Procedure.run (p : Procedure) (s : Site) (raw : Text) : Action Answer := do
  let files ← World.currentFiles
  let input ← p.prepare s.session files raw
  p.perform s input

end PortableShell
