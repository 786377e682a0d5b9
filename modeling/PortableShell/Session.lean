import PortableShell.Path.Resolve
import PortableShell.Platform
import PortableShell.World.FileSystem

/-!
# Sessions

What a session remembers: the directory it is in, the platform that commands are translated for,
the home directory, and the commands given so far with a cursor among them.

## Main definitions

* `Session`: the state of a session, and `Session.start`, a new one.
* `Session.resolve`, `Session.existing`: the path that a written path means, and one at which
  there has to be something.
* `Session.changeDirectory`: another directory to be in.
* `Session.record`, `Session.previous`, `Session.next`: the commands given so far.
-/

namespace PortableShell

/-- A command as it was given. -/
structure Entry where
  name : Text
  arguments : Text
  deriving DecidableEq, Repr

/-- A command as one line. -/
def Entry.text (e : Entry) : Text :=
  if e.arguments.isEmpty then e.name else e.name ++ " " ++ e.arguments

/-- The state of a session. -/
structure Session where
  directory : Text
  platform : Platform
  home : Text
  /-- The commands given so far, the oldest first. -/
  history : List Entry := []
  /-- The place among them that was called up last, or the end. -/
  cursor : Nat := 0
  deriving DecidableEq, Repr

namespace Session

/-- A text that is given and not empty, or else another one, which may not be known. -/
def givenOr (given : Option Text) (other : Except Failure Text) : Except Failure Text :=
  match given with
  | some (c :: t) => .ok (c :: t)
  | _ => other

/-- A new session.  Where no directory is given it starts in that of the process, and where no
home is given it takes that of the user. -/
def start (platform : Platform) (home directory : Option Text) (host : Host)
    (homeDirectory : Except Failure Text) (files : FileSystem) : Except Failure Session := do
  let home := Path.absolute host.directory (← givenOr home homeDirectory)
  let directory := Path.absolute host.directory (← givenOr directory (.ok host.directory))
  if files.isDirectory directory then
    return { directory, platform, home }
  else
    throw (.reported (.noDirectory directory))

/-- The path that a written path means. -/
def resolve (s : Session) (path : Text) : Except ShellError Text :=
  Path.resolve path s.directory s.home

/-- The path that a written path means, if there is something at it, and else an error of the
given kind, in which `label` says what was not found. -/
def existing (s : Session) (files : FileSystem) (kind : ErrorKind) (label path : Text) :
    Except ShellError Text := do
  let resolved ← s.resolve path
  if files.contains resolved then
    return resolved
  else
    throw ⟨kind, label ++ ": " ++ path, none⟩

/-- The path of an existing file. -/
def existingFile (s : Session) (files : FileSystem) (path : Text) : Except ShellError Text :=
  s.existing files .missingFile "File not found" path

/-- The session in another directory, which has to exist. -/
def changeDirectory (s : Session) (files : FileSystem) (path : Text) :
    Except ShellError Session := do
  let target ← s.resolve path
  if files.isDirectory target then
    return { s with directory := target }
  else
    throw (.noDirectory target)

/-- The session after a command was given.  A question for the history is not kept; the cursor
goes to the end in any case. -/
def record (s : Session) (name arguments : Text) : Session :=
  if name = "history".toList then
    { s with cursor := s.history.length }
  else
    { s with
      history := s.history ++ [⟨name, arguments⟩]
      cursor := s.history.length + 1 }

/-- The commands given so far, each as one line. -/
def entries (s : Session) : List Text :=
  s.history.map Entry.text

/-- One step towards the oldest command, and the command there. -/
def previous (s : Session) : Option Entry × Session :=
  let cursor := s.cursor - 1
  if s.history.isEmpty then (none, s) else (s.history[cursor]?, { s with cursor })

/-- One step towards the newest command, and the command there.  The step past it goes to the end,
where there is none. -/
def next (s : Session) : Option Entry × Session :=
  if s.history.isEmpty then
    (none, s)
  else if s.cursor + 1 < s.history.length then
    (s.history[s.cursor + 1]?, { s with cursor := s.cursor + 1 })
  else
    (none, { s with cursor := s.history.length })

/-- The history as it is shown: a heading and a numbered row for each command. -/
def historyText (s : Session) : Text :=
  match s.entries with
  | [] => "No commands in history"
  | entries =>
    Text.join ['\n'] ("Command history:".toList ::
      entries.mapIdx fun i e => Text.padStart 3 (Text.ofNat (i + 1)) ++ ": " ++ e)

/-- Changing the directory leaves the rest of the session as it is. -/
theorem history_changeDirectory {s s' : Session} {files : FileSystem} {path : Text}
    (h : s.changeDirectory files path = .ok s') : s'.history = s.history := by
  simp only [changeDirectory, bind, Except.bind] at h
  split at h
  · simp at h
  · split at h
    · cases h; rfl
    · cases h

/-- What is recorded is no part of where the session is. -/
@[simp]
theorem directory_record (s : Session) (name arguments : Text) :
    (s.record name arguments).directory = s.directory := by
  rw [record]
  split <;> rfl

@[simp]
theorem platform_record (s : Session) (name arguments : Text) :
    (s.record name arguments).platform = s.platform := by
  rw [record]
  split <;> rfl

end Session

end PortableShell
