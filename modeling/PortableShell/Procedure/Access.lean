import PortableShell.Permission
import PortableShell.Procedure
import PortableShell.Text.Case

/-!
# Modes, owners and access rights

Changing the mode, the owner or the group of a file, and showing who may do what with it.

## Main definitions

* `Procedure.changeMode`, `Procedure.changeOwner`, `Procedure.changeGroup`: the changes, each of
  which takes a value and a path that may have blanks in it.
* `Procedure.accessRights`: the access rights of a file or of the directory of the session.
-/

namespace PortableShell.Procedure

/-- A value to be set, and the file that it is set for, as it was written and with its path. -/
structure Setting where
  value : Text
  name : Text
  path : Text

/-- Makes out the value and the file, which has to exist. -/
def prepareSetting (command what : Text) (s : Session) (files : FileSystem) (raw : Text) :
    Except ShellError Setting := do
  if Text.isAllBlank raw then
    throw (.missing command (what ++ " and file arguments"))
  let (value, name) := Argument.leading raw
  if name.isEmpty then
    throw (.incomplete command (what ++ " and file arguments"))
  let path ← s.existingFile files name
  return { value, name, path }

/-- The phrases by which a tool says that it lacks a privilege. -/
def denials : List String := ["operation not permitted", "permission denied"]

/-- Whether a tool says that it lacks a privilege. -/
def saysDenied (output : Text) : Bool :=
  denials.any fun phrase => Text.hasInfix phrase (Text.lower output)

/-- Runs a tool that changes a file.  Whether it failed for lack of privilege is told by its
output. -/
def launchChange (s : Site) (failure : Text) (argv : List Text) : Action Unit := do
  let result ← s.launch argv
  if ! result.ok then
    let kind := if saysDenied result.output then .permissionDenied else .commandFailed
    throw (.reported ⟨kind, failure, some result.output⟩)

/-- What a mode is to be set to, and for which file. -/
inductive ModeChange where
  /-- The native tool is left to understand the mode. -/
  | byTool (setting : Setting)
  /-- What the owner is to be allowed is set directly. -/
  | direct (setting : Setting) (owner : Permission)

/-- Makes out the mode and the file.  Only where there is no native tool the mode has to be
understood. -/
def prepareMode (s : Session) (files : FileSystem) (raw : Text) : Except Failure ModeChange := do
  let setting ← ofReported (prepareSetting "chmod" "permissions" s files raw)
  match s.platform with
  | .posix => return .byTool setting
  | .windows =>
    let (owner, _, _) ← Permission.ofMode setting.value
    return .direct setting owner

/-- A truth value with a capital letter. -/
def truthText (b : Bool) : Text :=
  if b then "True" else "False"

/-- Changes the mode of a file. -/
def performMode (s : Site) : ModeChange → Action Answer
  | .byTool setting => do
    launchChange s "Failed to change permissions" ["chmod", setting.value, setting.path]
    return .notice ("Changed permissions for " ++ setting.name)
  | .direct setting owner => do
    (World.changeMode setting.path owner.ownerBits).adapt (.ofSystem fun e =>
      ⟨.permissionDenied, "Failed to change permissions: " ++ e.reason, none⟩)
    return .notice ("Set permissions for " ++ setting.name ++ " (read=" ++ truthText owner.read ++
      ", write=" ++ truthText owner.write ++ ", execute=" ++ truthText owner.execute ++ ")")

/-- Changes the mode of a file. -/
def changeMode : Procedure where
  Input := ModeChange
  prepare := prepareMode
  perform := performMode

/-- Changes the owner of a file.  On Windows ownership has to be taken before it can be handed
on. -/
def performOwner (s : Site) (setting : Setting) : Action Answer := do
  match s.platform with
  | .posix => launchChange s "Failed to change owner" ["chown", setting.value, setting.path]
  | .windows =>
    let _ ← s.launchOr .permissionDenied "Failed to take ownership (Admin required)"
      (Invocation.viaCmd ["takeown", "/f", setting.path])
    let _ ← s.launchOr .permissionDenied "Failed to change owner (Admin required)"
      (Invocation.viaCmd
        ["icacls", setting.path, "/setowner", setting.value, "/t", "/c", "/l", "/q"])
  return .notice ("Changed owner of " ++ setting.name ++ " to " ++ setting.value)

/-- Changes the owner of a file. -/
def changeOwner : Procedure where
  Input := Setting
  prepare s files raw := ofReported (prepareSetting "chown" "owner" s files raw)
  perform := performOwner

/-- Changes the group of a file.  On Windows a file has no group; the group is granted access. -/
def performGroup (s : Site) (setting : Setting) : Action Answer := do
  match s.platform with
  | .posix =>
    launchChange s "Failed to change group" ["chgrp", setting.value, setting.path]
    return .notice ("Changed group of " ++ setting.name ++ " to " ++ setting.value)
  | .windows =>
    let _ ← s.launchOr .permissionDenied "Failed to change group (Run as Administrator)"
      (Invocation.viaCmd
        ["icacls", setting.path, "/grant:r", setting.value ++ ":(R,W,Rc)", "/T", "/C", "/Q"])
    return .notice ("Modified permissions for group " ++ setting.value ++ " on " ++ setting.name)

/-- Changes the group of a file. -/
def changeGroup : Procedure where
  Input := Setting
  prepare s files raw := ofReported (prepareSetting "chgrp" "group" s files raw)
  perform := performGroup

/-- The path whose access rights are asked for, which is the directory of the session if none is
written. -/
def prepareRights (s : Session) (files : FileSystem) (raw : Text) : Except ShellError Text :=
  match Text.without '"' (Text.trim raw) with
  | [] => .ok s.directory
  | name => s.existing files .missingFile "File/directory not found" name

/-- The text without line feeds at its end. -/
def dropFinalNewlines (t : Text) : Text :=
  Text.dropEndWhile (· == '\n') t

/-- Rows as a text that ends in a line feed. -/
def rowsText (rows : List Text) : Text :=
  Text.join ['\n'] rows ++ ['\n']

/-- What heads the access rights of a path. -/
def rightsHeading (path : Text) : Text :=
  "Access rights for: " ++ path

/-- The access rights of a path as a native listing, with the access control list if there is a
tool that lists it. -/
def nativeRights (s : Site) (path : Text) : Action (List Text) := do
  let listing ← s.launchChecked "Failed to get access rights" ["ls", "-ld", path]
  let hasAclTool := (← get).hasAclTool
  if hasAclTool then
    let acl ← s.launch ["getfacl", path]
    if acl.ok then
      return [dropFinalNewlines listing, [], "ACL details:", dropFinalNewlines acl.output]
  return [dropFinalNewlines listing]

/-- A truth value in small letters. -/
def answerText (b : Bool) : Text :=
  if b then "true" else "false"

/-- Whether a node is hidden, by its attributes or by a point in front of its name. -/
def isHidden (path : Text) (n : Node) : Bool :=
  n.isMarkedHidden || (Path.name path).head? == some '.'

/-- The access rights of a path as far as they can be told without a tool, and what the tool
lists. -/
def describedRights (s : Site) (path : Text) : Action (List Text) := do
  let rights := (← get).rights path
  let n ← (World.inspect path).adapt .system
  let acl ← s.launch (Invocation.viaCmd ["icacls", path])
  let details := if acl.ok then
    ["Detailed permissions:".toList, dropFinalNewlines acl.output]
  else
    ["Could not retrieve detailed permissions (Admin required)".toList]
  return ["Readable: " ++ answerText rights.read, "Writable: " ++ answerText rights.write,
    "Executable: " ++ answerText rights.execute, "Hidden: " ++ answerText (isHidden path n),
    []] ++ details

/-- Shows the access rights of a path. -/
def performRights (s : Site) (path : Text) : Action Answer := do
  let rows ← match s.platform with
    | .posix => nativeRights s path
    | .windows => describedRights s path
  return .listing (rowsText (rightsHeading path :: rows))

/-- Shows the access rights of a file or of the directory of the session. -/
def accessRights : Procedure where
  Input := Text
  prepare s files raw := ofReported (prepareRights s files raw)
  perform := performRights

end PortableShell.Procedure
