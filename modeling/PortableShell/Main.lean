import PortableShell.Program

/-!
# The program at a terminal

Gathers what the program finds when it starts, runs it, and shows what it has to show.

What commands would change is rehearsed: they see the directory that the program is started in,
and the native processes that they ask for are shown and not started.  Lines are read to the end
of the input before the first of them is answered.

## Main definitions

* `Terminal.surroundings`: what the program finds.
* `Terminal.snapshot`: the files that commands see.
* `Terminal.present`: an event as it is written.
* `main`: the program.
-/

namespace PortableShell.Terminal

/-- The variables of the environment that matter. -/
def variableNames : List String :=
  ["APPDATA", "XDG_CONFIG_HOME", "XDG_DATA_HOME", "SHELLBRIDGE_PLATFORM", "SHELLBRIDGE_TIMEOUT",
    "SHELLBRIDGE_LOG_LEVEL"]

/-- A variable of the environment, or the empty text. -/
def variableOrEmpty (name : String) : IO String := do
  return (← IO.getEnv name).getD ""

/-- What is known of the host. -/
def host : IO Host := do
  let onWindows := (← variableOrEmpty "OS") == "Windows_NT"
  let found ← variableNames.filterMapM fun name => do
    return (← IO.getEnv name).map fun value => (name.toList, value.toList)
  return {
    system := if onWindows then "Windows" else "Linux"
    family := if onWindows then "nt" else "posix"
    environment := found
    home := ← variableOrEmpty "HOME"
    directory := (← IO.currentDir).toString }

/-- The file with the settings. -/
def configFile (path : String) : IO ConfigFile := do
  try
    return .contents (← IO.FS.readBinFile path).toList
  catch
    | .noFileOrDirectory .. => return .missing
    | _ => return .unreadable

/-- The directory that the program is started in, with what is right in it.  What cannot be read
is left out. -/
def snapshot : IO FileSystem := do
  let directory ← IO.currentDir
  let mut files := FileSystem.bare.makeDirectories directory.toString
  for entry in ← directory.readDir do
    let path := entry.path.toString
    try
      if ← entry.path.isDir then
        files := files.place path .newDirectory
      else
        let bytes := (← IO.FS.readBinFile entry.path).toList
        files := files.place path ⟨.file bytes, Node.fileMode, none⟩
    catch _ => pure ()
  return files

/-- All lines of the input. -/
partial def lines (input : IO.FS.Stream) : IO (List Text) := do
  let line ← input.getLine
  if line.isEmpty then
    return []
  return line.toList :: (← lines input)

/-- What the program finds when it is started with the given words. -/
def surroundings (words : List Text) : IO Surroundings := do
  let host ← host
  let files ← snapshot
  let typed := (← if Program.readsLines words then lines (← IO.getStdin) else pure []).map some
  match host.configPath with
  | .error e =>
    return { host, configPath := [], config := .unreachable e, world := { files }, typed }
  | .ok configPath =>
    let config ← configFile (String.ofList configPath)
    return { host, configPath, config, world := { files }, typed }

/-- An event as it is written.  Marks for colours are left to whoever reads them. -/
def present : Event → IO Unit
  | .markup t | .plain t | .styled t _ => IO.println (String.ofList t)
  | .panel body title => IO.println (String.ofList (title ++ "\n" ++ body))
  | .clear => IO.print "\x1b[2J\x1b[H"
  | .reading _ => pure ()
  | .prompt t => IO.print (String.ofList t)

/-- Keeps the settings. -/
def save (path : Text) (contents : Text) : IO Unit := do
  IO.FS.createDirAll (String.ofList (Path.parent path))
  IO.FS.writeFile (String.ofList path) (String.ofList contents)

/-- The exit code of an ending. -/
def exitCode : Ending → IO UInt32
  | .finished => return 0
  | .code n => return n.toUInt32
  | .failed e => do
    IO.eprintln (String.ofList e.text)
    return 1

end PortableShell.Terminal

/-- The program.  The command lines of the native processes that it would start come last. -/
def main (arguments : List String) : IO UInt32 := do
  let words := arguments.map String.toList
  let around ← PortableShell.Terminal.surroundings words
  let outcome := PortableShell.Program.run words around
  if let some contents := outcome.saved then
    PortableShell.Terminal.save around.configPath contents
  outcome.events.forM PortableShell.Terminal.present
  for attempt in outcome.world.attempts do
    IO.println (String.ofList attempt.invocation.display)
  PortableShell.Terminal.exitCode outcome.ending
