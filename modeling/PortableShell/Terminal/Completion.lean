import PortableShell.Command
import PortableShell.Text.Blank

/-!
# Completion of typed lines

The first word of a line is completed to a command, and every later one to a path.

## Main definitions

* `Completion`: what may take the place of the characters before the cursor.
* `Completion.offer`: what is offered for the text before the cursor.

## Main statements

* `Command.mem_alphabetical`: no command is missing from the alphabetical list.
* `Completion.offer_of_slash`, `Completion.offer_of_firstWord`, `Completion.offer_of_laterWord`:
  what is offered in each of the three cases.
-/

namespace PortableShell

/-- All commands by their names in alphabetical order, capital letters first. -/
def Command.alphabetical : List Command := [
  .accessRights, .addGroup, .addUser, .cat, .cd, .chgrp, .chmod, .chown, .clear, .cp, .du, .file,
  .find, .grep, .gzip, .head, .history, .less, .locate, .ls, .man, .mkdir, .mv, .ps, .pwd,
  .quotacheck, .rm, .rmdir, .touch, .wc, .wget]

/-- No command is missing from the alphabetical list. -/
theorem Command.mem_alphabetical (c : Command) : c ∈ Command.alphabetical := by
  cases c <;> decide

/-- A text that may take the place of the last characters before the cursor. -/
structure Completion where
  text : Text
  /-- How many characters it takes the place of. -/
  replaces : Nat
  deriving DecidableEq, Repr

/-- What is offered for the text before the cursor. -/
inductive Completion.Offer where
  /-- These texts. -/
  | words (completions : List Completion)
  /-- The paths that start like this. -/
  | paths (start : Text)
  deriving DecidableEq, Repr

namespace Completion

/-- What can be typed besides commands. -/
def frontEnd : List Text := ["/exit", "/quit", "/help", "/clear"]

/-- What is offered for the text before the cursor.  A slash in front may begin what can be typed
besides commands; a first word, where only a plain blank ends it, begins a command in letters of
either case; and else a path is begun by what follows the last blank and any double quotes. -/
def offer (before : Text) : Offer :=
  let word := Text.trimStart before
  if before.head? = some '/' ∧ ! before.contains ' ' then
    .words ((frontEnd.filter before.isPrefixOf).map (⟨·, before.length⟩))
  else if ! word.contains ' ' then
    let fits (c : Command) : Bool := (Text.lower word).isPrefixOf (Text.lower c.name)
    .words ((Command.alphabetical.filter fits).map fun c => ⟨c.name, word.length⟩)
  else
    .paths ((Text.afterLast ' ' before).dropWhile (· == '"'))

variable {before : Text}

/-- A slash in front may begin what can be typed besides commands. -/
theorem offer_of_slash (h : before.head? = some '/') (hspace : ' ' ∉ before) :
    offer before = .words ((frontEnd.filter before.isPrefixOf).map (⟨·, before.length⟩)) := by
  rw [offer, if_pos ⟨h, by simpa using hspace⟩]

/-- A first word begins a command. -/
theorem offer_of_firstWord (h : before.head? ≠ some '/') (hspace : ' ' ∉ Text.trimStart before) :
    offer before = .words ((Command.alphabetical.filter fun c =>
      (Text.lower (Text.trimStart before)).isPrefixOf (Text.lower c.name)).map
        fun c => ⟨c.name, (Text.trimStart before).length⟩) := by
  rw [offer, if_neg fun hslash => h hslash.1, if_pos (by simpa using hspace)]

/-- A later word begins a path. -/
theorem offer_of_laterWord (h : ' ' ∈ Text.trimStart before) :
    offer before = .paths ((Text.afterLast ' ' before).dropWhile (· == '"')) := by
  have hspace : ' ' ∈ before := (List.dropWhile_sublist _).mem h
  rw [offer, if_neg fun hslash => by simp [hspace] at hslash, if_neg (by simpa using h)]

end Completion

end PortableShell
