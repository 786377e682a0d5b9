import PortableShell.Error

/-!
# Arguments

The text after a command's name is cut into arguments in one of three ways, and a list of
arguments can be put together to such a text again.

## Main definitions

* `Argument.tokens`: the arguments of a text, where a blank between double quotes separates
  nothing.
* `Argument.leading`: the first word of a text and all that follows it.
* `Argument.exactly`: the arguments of a text, if there are as many as wanted.
* `Argument.rebuild`: a text with the given arguments.
-/

namespace PortableShell.Argument

/-- The arguments of a text from a place on where `quoted` tells whether a double quote is open,
and `current` holds the characters of the argument begun, the nearest first.  A double quote only
opens and closes, and one that is never closed reaches to the end. -/
def tokensFrom (quoted : Bool) (current : Text) : Text → List Text
  | [] => if current.isEmpty then [] else [current.reverse]
  | c :: t =>
    if c = '"' then
      tokensFrom (! quoted) current t
    else if Text.isBlank c && ! quoted then
      if current.isEmpty then tokensFrom quoted [] t else current.reverse :: tokensFrom quoted [] t
    else
      tokensFrom quoted (c :: current) t

/-- The arguments of a text. -/
def tokens (raw : Text) : List Text :=
  tokensFrom false [] raw

/-- The first word of a text, and all that follows it without double quotes and without the blanks
around it.  Blanks inside are kept: what follows may be a path that has some. -/
def leading (raw : Text) : Text × Text :=
  let (head, rest) := Text.firstWord (Text.trim raw)
  (head, Text.trim (Text.without '"' rest))

/-- The arguments of a text, of which the command takes `count`, called `what`. -/
def exactly (raw command what : Text) (count : Nat) : Except ShellError (List Text) :=
  let found := tokens raw
  if found.length < count then
    .error (if found.isEmpty then .missing command what else .incomplete command what)
  else if count < found.length then
    .error (.tooMany (command ++ " takes " ++ what ++ ", got " ++ Text.ofNat found.length ++
      " arguments"))
  else
    .ok found

/-- The only argument of a text. -/
def single (raw command what : Text) : Except ShellError Text := do
  let found ← exactly raw command what 1
  return found.headD []

/-- One argument as part of a text: double quotes hold together what blanks would separate, and
show that there is an argument at all. -/
def guarded (argument : Text) : Text :=
  if argument.isEmpty || argument.any Text.isBlank then ['"'] ++ argument ++ ['"'] else argument

/-- A text with the given arguments. -/
def rebuild (arguments : List Text) : Text :=
  Text.join [' '] (arguments.map guarded)

/-- No argument is empty. -/
theorem nil_notMem_tokensFrom (quoted : Bool) (current t : Text) :
    [] ∉ tokensFrom quoted current t := by
  induction t generalizing quoted current with
  | nil => cases current <;> simp [tokensFrom]
  | cons c t ih =>
    rw [tokensFrom]
    split
    · exact ih _ _
    · split
      · cases current with
        | nil => simpa using ih _ _
        | cons d current => simpa using ih _ _
      · exact ih _ _

end PortableShell.Argument
