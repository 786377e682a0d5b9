import PortableShell.Failure
import PortableShell.World.Http
import PortableShell.World.Machine

/-!
# The world that commands act on

The machine, the files, the processes that can be started, the documents that can be fetched, and
the faults of the operating system, with a record of the processes and documents that were asked
for.

## Main definitions

* `World`: the state of all that.
* `Action`: what a command does to the world, which may fail.
* `World.start`: starting a process and waiting for its end.
* `World.fault?`: the fault that the operating system has in store for a call.

A failed action keeps what it did to the world before it failed.
-/

namespace PortableShell

/-- The calls that the operating system may answer with a fault. -/
inductive SystemCall where
  | openFile
  | makeDirectories
  | changeMode
  | inspect
  | remove
  | createTemporary
  | writeFile
  | replace
  deriving DecidableEq, Repr

/-- A fault of the operating system: the reason it gives, or a text without a reason. -/
inductive SystemFault where
  | refusal (reason : Text)
  | other (text : Text)
  deriving DecidableEq, Repr

/-- The error that a fault shows as, for a call about a path. -/
def SystemFault.error (path : Text) : SystemFault → SystemError
  | .refusal reason => .coded .denied reason path
  | .other text => .uncoded text

/-- The faults that the operating system has in store.  Besides on the call and its path, a fault
may depend on what was achieved before by calls of the same kind: the number of files that were
opened, of directories that were made, or of bytes that were written. -/
abbrev Faults := SystemCall → (achieved : Nat) → (path : Text) → Option SystemFault

/-- The world that commands act on. -/
structure World where
  machine : Machine := {}
  files : FileSystem
  /-- What will come of the next processes to be started. -/
  children : List ChildOutcome := []
  /-- What a server does when a document is asked for. -/
  http : HttpAnswer := {}
  faults : Faults := fun _ _ _ => none
  /-- Whether the tool that lists access control lists is installed. -/
  hasAclTool : Bool := false
  /-- The processes that were to be started, in order. -/
  attempts : List Attempt := []
  /-- How many processes were started. -/
  startedCount : Nat := 0
  /-- The documents that were asked for, in order. -/
  requests : List HttpRequest := []

/-- What a command does to the world, ending in a value or in a failure of the type `ε`. -/
abbrev ActionOf (ε α : Type) := ExceptT ε (StateM World) α

/-- What a command does to the world. -/
abbrev Action (α : Type) := ActionOf Failure α

namespace World

/-- What is in store for the next process, which runs to its end in silence unless said
otherwise. -/
def nextOutcome (w : World) : ChildOutcome :=
  w.children.headD (.exits none 0)

/-- What comes of a process if it is the next one. -/
def outcomeOf (w : World) (limit : TimeLimit) (i : Invocation) : ChildOutcome :=
  w.machine.outcome limit i w.nextOutcome

/-- The world after a process was to be started.  It is counted only if it was. -/
def afterAttempt (w : World) (limit : TimeLimit) (i : Invocation) : World :=
  { w with
    children := w.children.tail
    attempts := w.attempts ++ [⟨i, w.outcomeOf limit i⟩]
    startedCount :=
      if (w.outcomeOf limit i).started then w.startedCount + 1 else w.startedCount }

/-- What an outcome means to who started the process: its completion, an error that says that it
could not be started or took too long, or what nobody foresaw. -/
def conclude (limit : TimeLimit) (i : Invocation) : ChildOutcome → Except Failure ChildResult
  | .exits output code => .ok ⟨output.getD [], code⟩
  | .refused reason => .error (.reported (.failed ("Cannot run " ++ i.program ++ ": " ++ reason)))
  | .overran output =>
    .error (.reported
      ⟨.commandTimeout, i.program ++ " timed out after " ++ limit.text ++ "s", output⟩)
  | .broken _ e => .error (.system e)

/-- Starting a process and waiting for its end. -/
def start (limit : TimeLimit) (i : Invocation) : Action ChildResult := do
  let w ← get
  set (w.afterAttempt limit i)
  conclude limit i (w.outcomeOf limit i)

/-- The fault that the operating system has in store for a call about a path. -/
def fault? (w : World) (call : SystemCall) (achieved : Nat) (path : Text) : Option SystemError :=
  (w.faults call achieved path).map (·.error path)

/-- A call that is handed some texts.  It cannot be made with a text that the machine refuses.  It
ends in the fault in store for it, and else does what it is to do, which may end in another
error. -/
def perform (call : SystemCall) (achieved : Nat) (path : Text) (handed : List Text)
    (act : FileSystem → Except SystemError FileSystem) : ActionOf SystemError Unit := do
  let w ← get
  if handed.any w.machine.refuses then
    throw .nullCharacter
  else
    match w.fault? call achieved path with
    | some e => throw e
    | none =>
      let files ← act w.files
      set { w with files }

/-- The files of the world. -/
def currentFiles {ε : Type} : ActionOf ε FileSystem :=
  return (← get).files

/-- The error of creating a file, if something keeps it from being created. -/
def checkParent (files : FileSystem) (path : Text) : Except SystemError Unit :=
  match files.obstacle? (Path.parent (FileSystem.key path)) with
  | none => .ok ()
  | some .missing => .error (.missing path)
  | some .blocked => .error (.blocked path)

/-- Creates a file without contents. -/
def createFile (path : Text) : ActionOf SystemError Unit :=
  perform .openFile 0 path [path] fun files => do
    checkParent files path
    return files.write path .newFile

/-- Creates a directory at a path `q` that is `path` or above it, of which `made` were created
already.  Its own parent is there. -/
def createDirectory (path : Text) (made : Nat) (q : Text) : ActionOf SystemError Unit :=
  perform .makeDirectories made path [q] fun files =>
    if (files.nearest? path).any (! ·.isDirectory) then
      .error (.blocked path)
    else
      .ok (files.write q .newDirectory)

/-- Creates the missing ones of the directories at or above a path, one after the other.  What was
created before a failure stays. -/
def createEach (path : Text) (made : Nat) : List Text → ActionOf SystemError Unit
  | [] => return ()
  | q :: rest => do
    let files ← currentFiles
    if files.contains q then
      createEach path made rest
    else
      createDirectory path made q
      createEach path (made + 1) rest

/-- Creates a directory and the missing ones above it, the topmost first. -/
def createDirectories (path : Text) : ActionOf SystemError Unit :=
  createEach path 0 (FileSystem.withAncestors path).reverse

/-- Sets the permission bits of a node that exists. -/
def changeMode (path : Text) (mode : Nat) : ActionOf SystemError Unit := do
  let machine := (← get).machine
  perform .changeMode 0 path [] fun files =>
    .ok (files.update path fun n => { n with mode := machine.modeAfter n mode })

/-- Removes a node that exists. -/
def removeFile (path : Text) : ActionOf SystemError Unit :=
  perform .remove 0 path [] fun files => .ok (files.erase path)

/-- Creates a file of one's own to collect a document in. -/
def createTemporary (path : Text) : ActionOf SystemError Unit :=
  perform .createTemporary 0 path [path] fun files => do
    checkParent files path
    return files.write path ⟨.file [], 0o600, none⟩

/-- Appends bytes to a file that exists. -/
def append (path : Text) (bytes : Utf8.Bytes) : ActionOf SystemError Unit := do
  let written := ((← get).files.bytes? path).getD []
  perform .writeFile written.length path [] fun files => .ok (files.extend path bytes)

/-- Moves a file to another path, in place of the file or of the link there.  A directory is not
replaced. -/
def replaceFile (source target : Text) : ActionOf SystemError Unit :=
  perform .replace 0 source [target] fun files =>
    if ! files.isReplaceable target then
      .error (.occupied source)
    else
      match files.node? source with
      | none => .error (.missing source)
      | some n => .ok ((files.erase source).write target n)

/-- The bytes of a file that exists, after as many others as `opened` were read. -/
def readFile (path : Text) (opened : Nat) : ActionOf SystemError Utf8.Bytes := do
  let w ← get
  match w.fault? .openFile opened path with
  | some e => throw e
  | none =>
    match w.files.bytes? path with
    | none => throw (.missing path)
    | some bytes => return bytes

/-- What the user may do with a path.  Nothing is allowed where there is nothing. -/
def rights (w : World) (path : Text) : Permission :=
  match w.files.node? path with
  | none => ⟨false, false, false⟩
  | some n => w.machine.access n

/-- The node of a path. -/
def inspect (path : Text) : ActionOf SystemError Node := do
  let w ← get
  match w.fault? .inspect 0 path with
  | some e => throw e
  | none =>
    match w.files.node? path with
    | none => throw (.missing path)
    | some n => return n

end World

end PortableShell
