import PortableShell.Command
import PortableShell.Procedure.Access
import PortableShell.Procedure.Administration
import PortableShell.Procedure.Counting
import PortableShell.Procedure.Download
import PortableShell.Procedure.Reading
import PortableShell.Procedure.Search
import PortableShell.Procedure.SingleFile
import PortableShell.Procedure.Transfer

/-!
# How each command is carried out

A command is carried out by a procedure, or handed to the native shell as it is, perhaps under
another name.

## Main definitions

* `Command.procedure?`: the procedure for a command on a platform.
* `Command.nativeName`, `Command.handOver`: a command as the native shell knows it.
* `Plan`: what there is to do for a command, and `Site.plan`, how it is found.
-/

namespace PortableShell

namespace Command

/-- The procedure for a command on a platform, if it has one. -/
def procedure? (platform : Platform) : Command → Option Procedure
  | .cp => some (Transfer.procedure .copy)
  | .mv => some (Transfer.procedure .move)
  | .touch => match platform with
    | .posix => none
    | .windows => some Procedure.touch
  | .gzip => some Procedure.compress
  | .file => some Procedure.identify
  | .cat => some Procedure.concatenate
  | .less => some Procedure.page
  | .head => some Procedure.firstLines
  | .grep => some Procedure.matchLines
  | .wc => some Procedure.countContents
  | .chmod => some Procedure.changeMode
  | .chown => some Procedure.changeOwner
  | .chgrp => some Procedure.changeGroup
  | .accessRights => some Procedure.accessRights
  | .addUser => some (Account.procedure .user)
  | .addGroup => some (Account.procedure .group)
  | .ps => some Procedure.processes
  | .quotacheck => some Procedure.quotas
  | .du => some Procedure.diskUsage
  | .find => some Procedure.findFiles
  | .locate => some Procedure.locateFiles
  | .wget => some Download.procedure
  | _ => none

/-- The name of a command in the native shell. -/
def nativeName (platform : Platform) (c : Command) : Text :=
  match platform, c with
  | .windows, .ls => "dir"
  | .windows, .rm => "del"
  | _, c => c.name

/-- The process that runs a command in the native shell. -/
def handOver (platform : Platform) (directory : Text) (c : Command) (raw : Text) : Invocation :=
  let argv := c.nativeName platform :: Argument.tokens raw
  match platform with
  | .posix => ⟨argv, directory⟩
  | .windows => ⟨Invocation.viaCmd argv, directory⟩

end Command

/-- What there is to do for a command. -/
inductive Plan where
  /-- A process is to be run. -/
  | launch (i : Invocation)
  /-- All is done, and this is the answer. -/
  | answered (a : Answer)
  deriving DecidableEq, Repr

/-- Finds what there is to do for a command: a procedure is carried out at once, and what the
native shell is to run is left to be run.  The commands that the session answers have no plan. -/
def Site.plan (s : Site) (c : Command) (raw : Text) : Action Plan :=
  if c.isBuiltin then
    throw (.reported (.unsupported
      (c.name ++ " is handled by the session, not the native shell")))
  else
    match c.procedure? s.platform with
    | some p => return .answered (← p.run s raw)
    | none => return .launch (c.handOver s.platform s.directory raw)

end PortableShell
