import PortableShell.Error
import PortableShell.Text.Case

/-!
# The commands

The fixed vocabulary of the shell.  A command has one name on all platforms, which is read without
regard to case.

## Main definitions

* `Command`: the commands.
* `Command.name`, `Command.all`: their names, and all of them in the order in which they are listed.
* `Command.parse`: the command of a name.
* `Command.isBuiltin`: the commands that the session answers itself.
-/

namespace PortableShell

/-- The commands. -/
inductive Command where
  | ls | pwd | mkdir | cd | man | touch | cp | mv | rm | rmdir | cat | less | head | grep | wc
  | chmod | chown | chgrp | addUser | addGroup | ps | quotacheck | du | gzip | file | find
  | locate | wget | accessRights | history | clear
  deriving DecidableEq, Repr

namespace Command

/-- The name of a command. -/
def name : Command → Text
  | .ls => "ls"
  | .pwd => "pwd"
  | .mkdir => "mkdir"
  | .cd => "cd"
  | .man => "man"
  | .touch => "touch"
  | .cp => "cp"
  | .mv => "mv"
  | .rm => "rm"
  | .rmdir => "rmdir"
  | .cat => "cat"
  | .less => "less"
  | .head => "head"
  | .grep => "grep"
  | .wc => "wc"
  | .chmod => "chmod"
  | .chown => "chown"
  | .chgrp => "chgrp"
  | .addUser => "addUser"
  | .addGroup => "addGroup"
  | .ps => "ps"
  | .quotacheck => "quotacheck"
  | .du => "du"
  | .gzip => "gzip"
  | .file => "file"
  | .find => "find"
  | .locate => "locate"
  | .wget => "wget"
  | .accessRights => "accessrights"
  | .history => "history"
  | .clear => "clear"

/-- All commands, in the order in which they are listed. -/
def all : List Command := [
  .ls, .pwd, .mkdir, .cd, .man, .touch, .cp, .mv, .rm, .rmdir, .cat, .less, .head, .grep, .wc,
  .chmod, .chown, .chgrp, .addUser, .addGroup, .ps, .quotacheck, .du, .gzip, .file, .find,
  .locate, .wget, .accessRights, .history, .clear]

/-- The command of a name, which may have blanks around it and letters of either case. -/
def parse (given : Text) : Except ShellError Command :=
  let wanted := Text.trim given
  match all.find? fun c => Text.lower c.name == Text.lower wanted with
  | some c => .ok c
  | none => .error (.unknown wanted)

/-- Whether the session answers a command itself, without any native tool. -/
def isBuiltin : Command → Bool
  | .cd | .pwd | .history | .clear | .man => true
  | _ => false

end Command

end PortableShell
