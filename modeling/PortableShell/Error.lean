import PortableShell.Text.Blank

/-!
# Errors that a command reports

Whatever a command cannot do it reports as an error of some kind, with a sentence for the reader
and, where a native tool was run, with what the tool printed.

## Main definitions

* `ErrorKind`: the kinds of error, and `ErrorKind.lineage`, the kinds that one belongs to.
* `ShellError`: an error, and `ShellError.text`, its wording.
-/

namespace PortableShell

/-- The kinds of error. -/
inductive ErrorKind where
  /-- Any error that a command reports. -/
  | general
  /-- A required argument was not given. -/
  | missingArgument
  /-- More arguments were given than the command takes. -/
  | tooManyArguments
  /-- An argument was given and cannot be understood. -/
  | invalidArgument
  /-- A path does not lead to something that can be used. -/
  | invalidPath
  /-- The file to be copied or moved does not exist. -/
  | sourceNotFound
  /-- A file to be used does not exist. -/
  | missingFile
  /-- The platform has no way to do what was asked. -/
  | unsupportedOperation
  /-- There is no command of that name. -/
  | unknownCommand
  /-- The native tool refused for lack of privilege. -/
  | permissionDenied
  /-- The native tool failed for any other reason. -/
  | commandFailed
  /-- The native tool did not finish in time. -/
  | commandTimeout
  deriving DecidableEq, Repr

namespace ErrorKind

/-- The kind between a special kind and the general one. -/
def between : ErrorKind → Option ErrorKind
  | .sourceNotFound | .missingFile => some .invalidPath
  | .commandTimeout => some .commandFailed
  | _ => none

/-- The kinds that an error of a kind belongs to, from the kind itself to the general one. -/
def lineage (k : ErrorKind) : List ErrorKind :=
  if k = .general then [.general] else k :: k.between.toList ++ [.general]

end ErrorKind

/-- An error that a command reports. -/
structure ShellError where
  kind : ErrorKind
  /-- The sentence for the reader. -/
  message : Text
  /-- What the native tool printed, if one was run. -/
  output : Option Text := none
  deriving DecidableEq, Repr

namespace ShellError

/-- A message with the output of the native tool, which is left out if nothing but blanks is in
it. -/
def wording (message : Text) (output : Option Text) : Text :=
  match output with
  | none => message
  | some o => if Text.isAllBlank o then message else message ++ "\nSystem message: " ++ Text.trim o

/-- The wording of an error. -/
def text (e : ShellError) : Text :=
  wording e.message e.output

/-- A required argument was not given. -/
def missing (command what : Text) : ShellError :=
  ⟨.missingArgument, command ++ " requires " ++ what, none⟩

/-- Of several required arguments not all were given. -/
def incomplete (command what : Text) : ShellError :=
  ⟨.missingArgument, command ++ " requires both " ++ what, none⟩

/-- More arguments were given than a command takes. -/
def tooMany (message : Text) : ShellError :=
  ⟨.tooManyArguments, message, none⟩

/-- An argument cannot be understood. -/
def invalid (message : Text) : ShellError :=
  ⟨.invalidArgument, message, none⟩

/-- A directory has no parent. -/
def noParent (base : Text) : ShellError :=
  ⟨.invalidPath, "Directory has no parent: " ++ base, none⟩

/-- A directory does not exist. -/
def noDirectory (path : Text) : ShellError :=
  ⟨.invalidPath, "Directory not found: " ++ path, none⟩

/-- The platform has no way to do what was asked. -/
def unsupported (message : Text) : ShellError :=
  ⟨.unsupportedOperation, message, none⟩

/-- There is no command of that name. -/
def unknown (name : Text) : ShellError :=
  ⟨.unknownCommand, "Unknown command: " ++ (if name.isEmpty then "(empty)".toList else name), none⟩

/-- Something failed that is not the failure of a finished tool. -/
def failed (message : Text) : ShellError :=
  ⟨.commandFailed, message, none⟩

end ShellError

end PortableShell
