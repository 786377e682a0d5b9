import PortableShell.Category
import PortableShell.Failure

/-!
# Replies

What is shown for a command: the command itself, and then the lines of its answer, each with a
label.

## Main definitions

* `Reply`: what is shown for a command.
* `Reply.plain`, `Reply.classified`, `Reply.failure`, `Reply.clearing`: the kinds of reply.
-/

namespace PortableShell

/-- What is shown for a command. -/
structure Reply where
  /-- The command as it is echoed. -/
  commandLine : Text
  text : Text
  category : Category := .output
  lines : List Line := []
  /-- Whether the screen is to be cleared instead. -/
  clearsScreen : Bool := false
  deriving DecidableEq, Repr

namespace Reply

/-- Whether a command succeeded. -/
def ok (r : Reply) : Bool :=
  r.category != .error

/-- A text of which every line is ordinary output. -/
def plain (commandLine text : Text) : Reply :=
  { commandLine, text, lines := Line.plain text }

/-- A text whose lines are labelled one by one. -/
def classified (commandLine text : Text) : Reply :=
  { commandLine, text, lines := Line.classify text }

/-- A text that says what went wrong, in one piece however many lines it has. -/
def failure (commandLine wording : Text) : Reply :=
  let text := "Error: " ++ wording
  { commandLine, text, category := .error, lines := [⟨text, .error⟩] }

/-- No text, but a cleared screen. -/
def clearing (commandLine : Text) : Reply :=
  { commandLine, text := [], clearsScreen := true }

end Reply

end PortableShell
