import PortableShell.Text.Basic

/-!
# Native processes

A process to be started is given by its program, the arguments of that, and the directory it
starts in.

## Main definitions

* `Invocation`: a process to be started, and `Invocation.display`, its command line.
* `Invocation.viaCmd`, `Invocation.viaPowerShell`: the arguments that hand a command or a script to
  one of the command interpreters of Windows.
* `Invocation.scriptLiteral`: a text as a literal of a script.
-/

namespace PortableShell

/-- A process to be started. -/
structure Invocation where
  /-- The program and its arguments. -/
  argv : List Text
  directory : Text
  deriving DecidableEq, Repr

namespace Invocation

/-- The program to be started. -/
def program (i : Invocation) : Text :=
  i.argv.headD []

/-- The arguments that run a command of the command interpreter. -/
def viaCmd (command : List Text) : List Text :=
  "cmd.exe".toList :: "/c".toList :: command

/-- The arguments that run a script. -/
def viaPowerShell (script : Text) : List Text :=
  ["powershell", "-NoProfile", "-ExecutionPolicy", "Bypass", "-Command", script]

/-- A text as a literal of a script: between apostrophes, with its own apostrophes doubled. -/
def scriptLiteral (t : Text) : Text :=
  ['\x27'] ++ Text.double '\x27' t ++ ['\x27']

/-- Whether an argument has to stand in double quotes on a command line. -/
def needsQuotes (argument : Text) : Bool :=
  argument.isEmpty || argument.contains ' ' || argument.contains '\t'

/-- The characters of an argument on a command line after `pending` backslashes.  A double quote
gets a backslash of its own, and backslashes are doubled in front of a double quote, also of the
one that closes the argument if there is one. -/
def escapeFrom (closed : Bool) (pending : Nat) : Text → Text
  | [] => List.replicate (if closed then 2 * pending else pending) '\\'
  | '\\' :: t => escapeFrom closed (pending + 1) t
  | '"' :: t => List.replicate (2 * pending) '\\' ++ ['\\', '"'] ++ escapeFrom closed 0 t
  | c :: t => List.replicate pending '\\' ++ [c] ++ escapeFrom closed 0 t

/-- An argument on a command line. -/
def argumentText (argument : Text) : Text :=
  if needsQuotes argument then
    ['"'] ++ escapeFrom true 0 argument ++ ['"']
  else
    escapeFrom false 0 argument

/-- The command line of a process. -/
def display (i : Invocation) : Text :=
  Text.join [' '] (i.argv.map argumentText)

end Invocation

end PortableShell
