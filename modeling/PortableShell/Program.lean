import PortableShell.Number.Double.Shortest
import PortableShell.Options
import PortableShell.Settings.Location
import PortableShell.Shell

/-!
# The program

From the words of its command line to its end: the program keeps settings, carries out one
command, or reads commands line by line.

## Main definitions

* `Event`: what the program shows.
* `Surroundings`: what the program finds when it starts.
* `Program.interact`: reading commands line by line.
* `Program.readsLines`: whether the program reads lines at all.
* `Program.run`: the program, and `Outcome`, what it leaves behind.
-/

namespace PortableShell

/-- What the program shows. -/
inductive Event where
  /-- A text with marks for colours. -/
  | markup (t : Text)
  /-- A text as it is. -/
  | plain (t : Text)
  /-- A text in one style. -/
  | styled (t : Text) (style : Text)
  /-- A text in a frame with a title. -/
  | panel (body title : Text)
  /-- An empty screen. -/
  | clear
  /-- Lines begin to be read; whether they are kept for later sessions. -/
  | reading (kept : Bool)
  /-- A prompt for a line. -/
  | prompt (t : Text)
  deriving DecidableEq, Repr

/-- The style of lines with a label. -/
def Category.style : Category → Text
  | .command => "bold blue"
  | .output => []
  | .error => "bold red"
  | .directory => "green"

/-- How a reply is shown: the command, and the lines after it. -/
def Reply.events (r : Reply) : List Event :=
  .styled r.commandLine Category.command.style ::
    r.lines.map fun line => .styled line.text line.category.style

/-- What asks for a line. -/
def Platform.prompt (p : Platform) (directory : Text) : Text :=
  directory ++ match p with
    | .posix => "$ "
    | .windows => "> "

/-- What the program finds when it starts. -/
structure Surroundings where
  host : Host
  /-- The path of the file with the settings, as it is shown. -/
  configPath : Text
  config : ConfigFile
  world : World
  /-- What goes wrong as the directory of the file with the typed lines is made, if anything. -/
  historyFault : Option SystemError := none
  /-- The lines that are typed, where `none` is an interruption; after the last the input ends. -/
  typed : List (Option Text)

/-- How the program ends. -/
inductive Ending where
  /-- It has no more to do. -/
  | finished
  /-- It ends with an exit code. -/
  | code (n : Nat)
  /-- It breaks off. -/
  | failed (e : Failure)
  deriving DecidableEq, Repr

/-- What the program leaves behind. -/
structure Outcome where
  ending : Ending
  world : World
  /-- The levels of diagnostics that were set. -/
  levels : List LogLevel := []
  /-- The settings as they were kept, if they were. -/
  saved : Option Text := none
  /-- What the program showed. -/
  events : List Event := []

namespace Program

/-- The exit code of a stop before anything is done. -/
def stopCode : Options.Stop → Nat
  | .help => 0
  | .misuse => 2

/-- What is shown before the first line is read. -/
def banner (host : Host) (platform : Platform) : Event :=
  .panel ("[bold cyan]shellbridge[/bold cyan]\nOS: " ++ host.systemName ++ "  |  Commands: " ++
    platform.name ++
    "\n\nType [bold]/help[/bold] for the command list, [bold]/exit[/bold] to quit.") "shellbridge"

/-- What a typed line asks for. -/
inductive Request where
  | nothing
  | leave
  | help
  | clear
  | command (line : Text)
  deriving DecidableEq, Repr

/-- What a typed line asks for.  What can be typed besides commands may be in letters of either
case. -/
def Request.ofLine (line : Text) : Request :=
  let line := Text.trim line
  let lowered := Text.lower line
  if line.isEmpty then .nothing
  else if lowered = "/exit".toList ∨ lowered = "/quit".toList then .leave
  else if lowered = "/help".toList then .help
  else if lowered = "/clear".toList then .clear
  else .command line

/-- What is shown for a reply in a dialogue. -/
def dialogueEvents (r : Reply) : List Event :=
  if r.clearsScreen then [.clear] else r.events

/-- Reads commands line by line, up to a line that ends this, an interruption, or the end of the
input. -/
def interact (s : Shell) : List (Option Text) → List Event × Shell
  | some line :: rest =>
    let ask := Event.prompt (s.session.platform.prompt s.session.directory)
    match Request.ofLine line with
    | .nothing =>
      let (events, s) := interact s rest
      (ask :: events, s)
    | .leave => ([ask, .markup "[cyan]Bye.[/cyan]"], s)
    | .help =>
      let (events, s) := interact s rest
      (ask :: .panel Command.overview "/help" :: events, s)
    | .clear =>
      let (events, s) := interact s rest
      (ask :: .clear :: events, s)
    | .command line =>
      let (reply, s) := s.submitLine line
      let (events, s) := interact s rest
      (ask :: dialogueEvents reply ++ events, s)
  | _ =>
    ([.prompt (s.session.platform.prompt s.session.directory), .markup "\n[cyan]Bye.[/cyan]"], s)

/-- The time limit as it is shown. -/
def timeoutText (s : Settings) : Text :=
  match s.timeout with
  | none => "none"
  | some x => x.briefText ++ "s"

/-- Keeps the settings. -/
def keep (around : Surroundings) (s : Settings) : Outcome where
  ending := .code 0
  world := around.world
  saved := some s.print
  events := [
    .markup ("[green]Saved[/green] " ++ around.configPath),
    .plain ("platform=" ++ s.platform.name ++ "  timeout=" ++ timeoutText s ++ "  log_level=" ++
      s.logLevel.name)]

/-- A shell in the directory of the process. -/
def openShell (around : Surroundings) (s : Settings) : Except Failure Shell := do
  let host := around.host
  let platform ← Platform.choose (some s.platform.name) host
  let session ← Session.start platform none none host host.homeDirectory around.world.files
  return { session, limit := s.timeLimit, world := around.world }

/-- Makes the directory of the file with the typed lines, if they are to be kept. -/
def openHistory (around : Surroundings) (s : Settings) : Except Failure Unit := do
  if s.inputHistory then
    let _ ← around.host.historyPath
    match around.historyFault with
    | some e => throw (.system e)
    | none => return ()

/-- Carries out one command. -/
def once (shell : Shell) (command : Text) (arguments : List Text) : List Event × Ending × Shell :=
  let (reply, shell) := shell.submit command (Argument.rebuild arguments)
  (reply.events, .code (if reply.ok then 0 else 1), shell)

/-- Carries out a command, or reads commands line by line. -/
def serve (around : Surroundings) (s : Settings) (subcommand : Subcommand) : Outcome :=
  match openShell around s with
  | .error e => { ending := .failed e, world := around.world, levels := [s.logLevel] }
  | .ok shell =>
    match subcommand with
    | .run command arguments =>
      let (events, ending, shell) := once shell command arguments
      { ending, world := shell.world, levels := [s.logLevel], events }
    | _ =>
      let greeting := banner around.host shell.session.platform
      match openHistory around s with
      | .error e =>
        { ending := .failed e, world := shell.world, levels := [s.logLevel], events := [greeting] }
      | .ok _ =>
        let (events, shell') := interact shell around.typed
        { ending := .finished, world := shell'.world, levels := [s.logLevel],
          events := greeting :: .reading s.inputHistory :: events }

/-- Whether the program reads lines when it is started with the given words. -/
def readsLines (words : List Text) : Bool :=
  match Options.parse words with
  | .ok options => (options.subcommand matches .interactive)
  | .error _ => false

/-- The program. -/
def run (words : List Text) (around : Surroundings) : Outcome :=
  match Options.parse words with
  | .error stop => { ending := .code (stopCode stop), world := around.world }
  | .ok options =>
    match Settings.load around.config around.host with
    | .error e => { ending := .failed e, world := around.world }
    | .ok settings =>
      let settings := options.apply settings
      match options.subcommand with
      | .config => keep around settings
      | subcommand => serve around settings subcommand

end Program

end PortableShell
