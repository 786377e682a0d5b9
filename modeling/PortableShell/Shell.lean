import PortableShell.Command.Manual
import PortableShell.Plan
import PortableShell.Reply

/-!
# The shell

A shell takes commands and answers each with a reply.  Whatever goes wrong shows in the reply.

## Main definitions

* `Shell`: a session, the time limit of its processes, and the world they act on.
* `Shell.submit`, `Shell.submitLine`: the reply to a command, and the shell after it.
-/

namespace PortableShell

/-- A session, the time limit of its processes, and the world they act on. -/
structure Shell where
  session : Session
  limit : TimeLimit
  world : World

namespace Shell

/-- Where the procedures of the shell run. -/
def site (s : Shell) : Site :=
  ⟨s.session, s.limit⟩

/-- Carries out an action on the world of the shell. -/
def act {α : Type} (s : Shell) (action : Action α) : Except Failure α × Shell :=
  let (result, world) := action.run s.world
  (result, { s with world })

/-- The command as it is echoed. -/
def echo (name raw : Text) : Text :=
  "$ " ++ Text.join [' '] ([name, raw].filter (· != []))

/-- The error of a process that ended with an exit code. -/
def exitFailure (result : ChildResult) : Failure :=
  .reported ⟨.commandFailed, "Command failed with exit code " ++ Text.ofInt result.code,
    some result.output⟩

/-- Carries out a command that the session does not answer itself, and makes the reply of its
answer. -/
def execute (s : Site) (c : Command) (raw commandLine : Text) : Action Reply := do
  match ← s.plan c raw with
  | .launch i =>
    let result ← World.start s.limit i
    if result.ok then
      return .classified commandLine result.output
    else
      throw (exitFailure result)
  | .answered a =>
    return if a.classified then .classified commandLine a.message else .plain commandLine a.message

/-- The reply to a command, or what went wrong, and the shell after it. -/
def dispatch (s : Shell) (c : Command) (raw commandLine : Text) : Except Failure Reply × Shell :=
  match c with
  | .cd =>
    match s.session.changeDirectory s.world.files (Text.without '"' raw) with
    | .ok session =>
      (.ok (.plain commandLine ("Changed directory to: " ++ session.directory)),
        { s with session })
    | .error e => (.error (.reported e), s)
  | .pwd => (.ok (.plain commandLine s.session.directory), s)
  | .history => (.ok (.plain commandLine s.session.historyText), s)
  | .clear => (.ok (.clearing commandLine), s)
  | .man => (.ok (.plain commandLine (Command.manual raw)), s)
  | c => s.act (execute s.site c raw commandLine)

/-- The reply to a command with its argument text, and the shell after it.  A command that exists
is recorded, whatever becomes of it. -/
def submit (s : Shell) (name raw : Text) : Reply × Shell :=
  let name := Text.trim name
  let raw := Text.trim raw
  let commandLine := echo name raw
  match Command.parse name with
  | .error e => (.failure commandLine e.text, s)
  | .ok c =>
    let s := { s with session := s.session.record c.name raw }
    match s.dispatch c raw commandLine with
    | (.ok reply, s) => (reply, s)
    | (.error e, s) => (.failure commandLine e.text, s)

/-- The reply to a line, whose first word is the command and whose rest is the argument text, and
the shell after it. -/
def submitLine (s : Shell) (line : Text) : Reply × Shell :=
  match Text.firstWord (Text.trim line) with
  | ([], _) => (.plain ['$'] [], s)
  | (name, raw) => s.submit name raw

end Shell

end PortableShell
