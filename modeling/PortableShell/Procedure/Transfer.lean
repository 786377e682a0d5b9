import PortableShell.Procedure

/-!
# Copying and moving files

A destination written with a separator at its end is a directory, which is made if it is missing.

## Main definitions

* `Transfer`: copying or moving, and the native command for it.
* `Transfer.procedure`: the procedure for either.
-/

namespace PortableShell

/-- Copying or moving. -/
inductive Transfer where
  | copy
  | move
  deriving DecidableEq, Repr

namespace Transfer

/-- The name of the command. -/
def command : Transfer → Text
  | .copy => "cp"
  | .move => "mv"

/-- What is done. -/
def label : Transfer → Text
  | .copy => "Copy"
  | .move => "Move"

/-- What was done. -/
def past : Transfer → Text
  | .copy => "Copied"
  | .move => "Moved"

/-- The native command without its arguments. -/
def native (t : Transfer) : Platform → List Text
  | .posix => [t.command]
  | .windows => Invocation.viaCmd [match t with | .copy => "copy".toList | .move => "move".toList]

/-- What is to be copied or moved, and where to. -/
structure Input where
  /-- The source as it was written. -/
  source : Text
  /-- The destination as it was written. -/
  destination : Text
  sourcePath : Text
  destinationPath : Text
  /-- Whether the destination is a directory that is still to be made. -/
  makesDirectory : Bool

/-- Whether a destination is written as a directory. -/
def namesDirectory (destination : Text) : Bool :=
  destination.getLast? == some '/' || destination.getLast? == some '\\'

/-- Makes out the source, which has to exist, and the destination. -/
def prepare (t : Transfer) (s : Session) (files : FileSystem) (raw : Text) :
    Except ShellError Input := do
  let found ← Argument.exactly raw t.command "source and destination arguments" 2
  let source := found.headD []
  let destination := found.getLastD []
  let sourcePath ←
    s.existing files .sourceNotFound "Source file/directory does not exist" source
  let destinationPath ← s.resolve destination
  return { source, destination, sourcePath, destinationPath,
           makesDirectory := namesDirectory destination && ! files.contains destinationPath }

/-- The error of a destination that cannot be made a directory. -/
def cannotMake (destination : Text) (e : SystemError) : ShellError :=
  ⟨.invalidPath, "Cannot create destination directory: " ++ destination, some e.reason⟩

/-- The error of a native tool that failed. -/
def toolFailed (t : Transfer) (input : Input) (output : Text) : Failure :=
  .reported ⟨.commandFailed, t.label ++ " failed. Verify paths and permissions.\nSource: " ++
    input.source ++ "\nDestination: " ++ input.destination, some output⟩

/-- Runs the native tool that copies or moves. -/
def runTool (t : Transfer) (s : Site) (input : Input) : Action Answer := do
  let result ← s.launch (t.native s.platform ++ [input.sourcePath, input.destinationPath])
  if result.ok then
    return .notice (t.past ++ " successfully: " ++ input.source ++ " → " ++ input.destination)
  else
    throw (t.toolFailed input result.output)

/-- Makes the destination directory if need be, and copies or moves. -/
def perform (t : Transfer) (s : Site) (input : Input) : Action Answer := do
  if input.makesDirectory then
    (World.createDirectories input.destinationPath).adapt
      (.ofSystem (cannotMake input.destination))
  t.runTool s input

/-- The procedure for copying or moving. -/
def procedure (t : Transfer) : Procedure where
  Input := Input
  prepare s files raw := ofReported (t.prepare s files raw)
  perform := t.perform

end Transfer

end PortableShell
