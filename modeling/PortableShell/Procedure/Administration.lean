import PortableShell.Procedure
import PortableShell.Text.Digit

/-!
# Accounts, processes, quotas and disk usage

## Main definitions

* `Account`, `Account.procedure`: adding a user or a group.
* `Procedure.processes`: the running processes.
* `Procedure.quotas`: the quotas of the file systems.
* `Procedure.diskUsage`: how much room directories take.
-/

namespace PortableShell

/-- What an account is for. -/
inductive Account where
  | user
  | group
  deriving DecidableEq, Repr

namespace Account

/-- The name of the command that adds an account. -/
def command : Account → Text
  | .user => "addUser"
  | .group => "addGroup"

/-- What the name of an account is called. -/
def nameLabel : Account → Text
  | .user => "username"
  | .group => "groupname"

/-- What is added. -/
def label : Account → Text
  | .user => "user"
  | .group => "group"

/-- The only argument, which is the name of the account. -/
def prepare (a : Account) (raw : Text) : Except ShellError Text :=
  match Argument.tokens raw with
  | [] => .error (.missing a.command ("a " ++ a.nameLabel ++ " argument"))
  | [name] => .ok name
  | _ => .error (.tooMany (a.command ++ " takes a single " ++ a.nameLabel))

/-- The native command that adds an account.  It asks for no password, so that it fails where one
is needed. -/
def native (a : Account) (platform : Platform) (name : Text) : List Text :=
  match platform, a with
  | .posix, .user => ["sudo", "-n", "useradd", "-m", name]
  | .posix, .group => ["sudo", "-n", "groupadd", name]
  | .windows, .user => Invocation.viaCmd ["net", "user", name, "/add"]
  | .windows, .group => Invocation.viaCmd ["net", "localgroup", name, "/add"]

/-- What is needed to add an account. -/
def privilege : Platform → Text
  | .posix => "Need sudo"
  | .windows => "Admin required"

/-- Adds an account.  Any failure is taken for a lack of privilege. -/
def perform (a : Account) (s : Site) (name : Text) : Action Answer := do
  let _ ← s.launchOr .permissionDenied
    ("Failed to add " ++ a.label ++ " (" ++ privilege s.platform ++ ")")
    (a.native s.platform name)
  return .notice ("Added " ++ a.label ++ ": " ++ name)

/-- Adds an account. -/
def procedure (a : Account) : Procedure where
  Input := Text
  prepare _ _ raw := ofReported (a.prepare raw)
  perform := a.perform

end Account

namespace Procedure

/-- Lists the running processes. -/
def performProcesses (s : Site) (options : List Text) : Action Answer := do
  let output ← match s.platform with
    | .posix => s.launchChecked "ps failed" (["ps".toList, "aux".toList] ++ options)
    | .windows =>
      s.launchChecked "tasklist failed" (Invocation.viaCmd ("tasklist".toList :: options))
  return .listing output

/-- Lists the running processes. -/
def processes : Procedure where
  Input := List Text
  prepare _ _ raw := .ok (Argument.tokens raw)
  perform := performProcesses

/-- The sentence by which a tool says that a file system has no quotas. -/
def quotasUnsupported : Text := "This system does not support quotas"

/-- The answer to a question for quotas. -/
def quotaAnswer (result : ChildResult) (failure : Text) : Except Failure Answer :=
  if Text.hasInfix quotasUnsupported result.output then
    .ok (.notice "Quotas are not enabled on this system")
  else if result.ok then
    .ok (.listing result.output)
  else
    .error (.reported ⟨.commandFailed, failure, some result.output⟩)

/-- Whether an argument is a drive: a letter and a colon.  A line feed may follow. -/
def isDrive : Text → Bool
  | [c, ':'] => Text.isAsciiLetter c
  | [c, ':', '\n'] => Text.isAsciiLetter c
  | _ => false

/-- The native command that checks quotas: with the options given, or for the drive given if the
first argument is one. -/
def quotasArgv (platform : Platform) (tokens : List Text) : List Text :=
  match platform with
  | .posix =>
    ["sudo".toList, "-n".toList, "quotacheck".toList] ++
      if tokens.isEmpty then ["-avug".toList] else tokens
  | .windows =>
    Invocation.viaCmd (["fsutil".toList, "quota".toList, "query".toList] ++
      (tokens.take 1).filter isDrive)

/-- The error of a check of quotas that failed. -/
def quotasFailure : Platform → Text
  | .posix => "quotacheck failed (Need sudo)"
  | .windows => "Failed to check quotas"

/-- Checks quotas.  The tool of Windows may have nothing to say. -/
def performQuotas (s : Site) (tokens : List Text) : Action Answer := do
  let result ← s.launch (quotasArgv s.platform tokens)
  let answer ← quotaAnswer result (quotasFailure s.platform)
  if s.platform = .windows ∧ Text.isAllBlank answer.message then
    return .notice "No quota information available (quotas may be disabled)"
  else
    return answer

/-- Checks quotas. -/
def quotas : Procedure where
  Input := List Text
  prepare _ _ raw := .ok (Argument.tokens raw)
  perform := performQuotas

/-- What the disk usage is asked of. -/
inductive UsageRequest where
  /-- The native tool is left to find the targets. -/
  | targets (names : List Text)
  /-- One directory by its path. -/
  | folder (path : Text)

/-- Makes out what the disk usage is asked of: by default it is the directory of the session. -/
def prepareUsage (s : Session) (files : FileSystem) (raw : Text) :
    Except ShellError UsageRequest :=
  match s.platform, Argument.tokens raw with
  | .posix, [] => .ok (.targets [['.']])
  | .posix, names => .ok (.targets names)
  | .windows, [] => .ok (.folder s.directory)
  | .windows, name :: _ => do
    return .folder (← s.existing files .missingFile "Directory not found" name)

/-- What follows the directory in the script that adds up the sizes of the files below it. -/
def usageScriptEnd : Text :=
  " -Recurse -File | Measure-Object -Property Length -Sum | " ++
  "Select-Object @\x7bName='Size (MB)';Expression=\x7b[math]::Round($_.Sum / 1MB, 2)\x7d\x7d, " ++
  "@\x7bName='Size (GB)';Expression=\x7b[math]::Round($_.Sum / 1GB, 2)\x7d\x7d"

/-- The script that adds up the sizes of the files below a directory. -/
def usageScript (folder : Text) : Text :=
  "Get-ChildItem -LiteralPath " ++ Invocation.scriptLiteral folder ++ usageScriptEnd

/-- Shows the disk usage. -/
def performUsage (s : Site) (request : UsageRequest) : Action Answer := do
  let argv := match request with
    | .targets names => ["du".toList, "-h".toList] ++ names
    | .folder path => Invocation.viaPowerShell (usageScript path)
  let output ← s.launchChecked "du failed" argv
  return .listing output

/-- Shows the disk usage. -/
def diskUsage : Procedure where
  Input := UsageRequest
  prepare s files raw := ofReported (prepareUsage s files raw)
  perform := performUsage

end Procedure

end PortableShell
