import PortableShell.Number.Double.Reader
import PortableShell.Settings

/-!
# The command line of the shell

The words after the shell's name: options with their values, and a subcommand with words of its
own.  A long option may be cut short as long as one option only starts like it.

## Main definitions

* `Options`: what the words ask for.
* `Word.read`: what kind of word one is.
* `Options.parse`: what words ask for, or why nothing is to be done.

All words up to a `--` are looked at before any of them is acted on, those of a subcommand
included.
-/

namespace PortableShell

/-- What is to be done besides setting options. -/
inductive Subcommand where
  /-- Commands are to be read one by one. -/
  | interactive
  /-- One command is to be carried out. -/
  | run (command : Text) (arguments : List Text)
  /-- The settings are to be kept. -/
  | config
  deriving DecidableEq, Repr

/-- What words ask for. -/
structure Options where
  platform : Option PlatformChoice := none
  timeout : Option Double := none
  logLevel : Option LogLevel := none
  subcommand : Subcommand := .interactive
  deriving DecidableEq, Repr

/-- Why nothing is to be done. -/
inductive Options.Stop where
  /-- Help is asked for. -/
  | help
  /-- The words make no sense. -/
  | misuse
  deriving DecidableEq, Repr

/-- The options. -/
inductive Flag where
  | help
  | platform
  | timeout
  | logLevel
  deriving DecidableEq, Repr

namespace Flag

/-- The options that can be asked for everywhere, by their names. -/
def helpNames : List (Text × Flag) :=
  [("-h", .help), ("--help", .help)]

/-- All options by their names. -/
def names : List (Text × Flag) :=
  [("-h", .help), ("--help", .help), ("--platform", .platform), ("--timeout", .timeout),
    ("--log-level", .logLevel)]

end Flag

/-- The kinds of word. -/
inductive Word where
  /-- A word that stands for itself. -/
  | plain
  /-- The first `--`, after which all words stand for themselves. -/
  | divider
  /-- An option, perhaps with a value after an equals sign. -/
  | flag (f : Flag) (value : Option Text)
  /-- The short option for help with more letters after it. -/
  | cluster (letters : Text)
  /-- A word that looks like an option and is none. -/
  | unknown
  deriving DecidableEq, Repr

namespace Word

/-- Whether a text is a negative number: a minus sign, and digits of which a point may come before
the last ones.  A line feed may follow. -/
def isNegativeNumber : Text → Bool
  | '-' :: t =>
    let t := if t.getLast? = some '\n' then t.dropLast else t
    let whole := t.takeWhile Text.isDigit
    match t.dropWhile Text.isDigit with
    | [] => ! whole.isEmpty
    | '.' :: part => ! part.isEmpty && part.all Text.isDigit
    | _ => false
  | _ => false

/-- The options that a word with two dashes may be a short form of, with its value. -/
def abbreviated (table : List (Text × Flag)) (t : Text) : List Word :=
  let (start, value) := Text.breakAt (· == '=') t
  (table.filter fun (name, _) => start.isPrefixOf name).map fun (_, f) => .flag f value

/-- The readings of a word as an option or as the start of one. -/
def candidates (table : List (Text × Flag)) : Text → List Word
  | '-' :: '-' :: t => abbreviated table ('-' :: '-' :: t)
  | '-' :: c :: letters =>
    (table.filter fun (name, _) => name == ['-', c]).map fun _ => .cluster letters
  | _ => []

/-- A word that starts with a dash and is no option of the table: a short form of one, a number,
or a word with a blank in it, which stands for itself. -/
def readUnlisted (table : List (Text × Flag)) (t : Text) : Except Options.Stop Word :=
  match candidates table t with
  | [w] => .ok w
  | _ :: _ :: _ => .error .misuse
  | [] => .ok (if isNegativeNumber t || t.contains ' ' then .plain else .unknown)

/-- What kind of word a text is, where the table holds the options known. -/
def read (table : List (Text × Flag)) (t : Text) : Except Options.Stop Word :=
  if t.head? ≠ some '-' then
    .ok .plain
  else
    match table.lookup t with
    | some f => .ok (.flag f none)
    | none =>
      if t.length = 1 then
        .ok .plain
      else
        match Text.breakAt (· == '=') t with
        | (_, none) => readUnlisted table t
        | (name, some value) =>
          match table.lookup name with
          | some f => .ok (.flag f (some value))
          | none => readUnlisted table t

/-- What kinds of words texts are. -/
def readAll (table : List (Text × Flag)) : List Text → Except Options.Stop (List (Text × Word))
  | [] => .ok []
  | t :: ts =>
    if t = ['-', '-'] then
      .ok ((t, .divider) :: ts.map (·, .plain))
    else do
      let w ← read table t
      return (t, w) :: (← readAll table ts)

end Word

namespace Options

/-- What becomes of the short option for help with letters after it.  Each letter is an option of
its own; the first that is none ends the search, and a dash or an equals sign makes no sense. -/
def afterHelp : Text → Stop
  | [] => .help
  | c :: t =>
    if c = '-' then .misuse
    else if c = 'h' then
      if t.head? = some '=' then .misuse else afterHelp t
    else .help

/-- The options with one more set to a value. -/
def set (o : Options) (f : Flag) (value : Text) : Except Stop Options :=
  match f with
  | .help => .error .misuse
  | .platform => match PlatformChoice.ofName? value with
    | some p => .ok { o with platform := some p }
    | none => .error .misuse
  | .timeout => match Double.read? value with
    | some x => .ok { o with timeout := some x }
    | none => .error .misuse
  | .logLevel => match LogLevel.ofName? value with
    | some l => .ok { o with logLevel := some l }
    | none => .error .misuse

/-- The options after the words of the subcommand that keeps settings.  Words that it does not
know make no sense, which shows only at the end. -/
def config (o : Options) (stray : Bool) : List (Text × Word) → Except Stop Options
  | [] => if stray then .error .misuse else .ok { o with subcommand := .config }
  | (_, .divider) :: _ => .error .misuse
  | (_, .plain) :: rest => config o true rest
  | (_, .unknown) :: rest => config o true rest
  | (_, .cluster letters) :: _ => .error (afterHelp letters)
  | (_, .flag .help none) :: _ => .error .help
  | (_, .flag f (some value)) :: rest => do config (← o.set f value) stray rest
  | (_, .flag f none) :: (value, .plain) :: rest => do config (← o.set f value) stray rest
  | (_, .flag _ none) :: _ => .error .misuse

/-- The options with a command to be carried out. -/
def withCommand (o : Options) (stray : Bool) (command : Text) (arguments : List (Text × Word)) :
    Except Stop Options :=
  if stray then
    .error .misuse
  else
    .ok { o with subcommand := .run command (arguments.map (·.1)) }

/-- The options after the words of the subcommand that carries out a command.  The first word that
stands for itself is the command, and all words after it are its arguments, but for a divider
beside the command. -/
def run (o : Options) (stray : Bool) : List (Text × Word) → Except Stop Options
  | [] => .error .misuse
  | (_, .divider) :: (command, _) :: rest => o.withCommand stray command rest
  | [(_, .divider)] => .error .misuse
  | (command, .plain) :: (_, .divider) :: rest => o.withCommand stray command rest
  | (command, .plain) :: rest => o.withCommand stray command rest
  | (_, .unknown) :: rest => run o true rest
  | (_, .cluster letters) :: _ => .error (afterHelp letters)
  | (_, .flag .help none) :: _ => .error .help
  | (_, .flag _ _) :: _ => .error .misuse

/-- The options after a subcommand and its words. -/
def subcommandOf (o : Options) (stray : Bool) (name : Text) (words : List Text) :
    Except Stop Options := do
  let found ←
    if name = "run".toList then
      run o false (← Word.readAll Flag.helpNames words)
    else if name = "config".toList then
      config o false (← Word.readAll Flag.names words)
    else
      throw .misuse
  if stray then throw .misuse else return found

/-- The options after words in front of a subcommand. -/
def start (o : Options) (stray : Bool) : List (Text × Word) → Except Stop Options
  | [] => if stray then .error .misuse else .ok o
  | (_, .divider) :: _ => .error .misuse
  | (name, .plain) :: rest => subcommandOf o stray name (rest.map (·.1))
  | (_, .unknown) :: rest => start o true rest
  | (_, .cluster letters) :: _ => .error (afterHelp letters)
  | (_, .flag .help none) :: _ => .error .help
  | (_, .flag f (some value)) :: rest => do start (← o.set f value) stray rest
  | (_, .flag f none) :: (value, .plain) :: rest => do start (← o.set f value) stray rest
  | (_, .flag _ none) :: _ => .error .misuse

/-- What words ask for. -/
def parse (words : List Text) : Except Stop Options := do
  start {} false (← Word.readAll Flag.names words)

/-- The settings with the options put over them.  A time limit that is not greater than zero
means none. -/
def apply (o : Options) (s : Settings) : Settings :=
  { s with
    platform := o.platform.getD s.platform
    timeout := match o.timeout with
      | none => s.timeout
      | some x => Settings.limitOf x
    logLevel := o.logLevel.getD s.logLevel }

end Options

end PortableShell
