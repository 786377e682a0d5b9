import PortableShell.Program
import PortableShell.Proofs.OptionWords
import PortableShell.Proofs.Preparation
import PortableShell.Proofs.SavedSettings

/-!
# Where settings come from

Each setting has sources of its own: an option on the command line, a variable of the environment,
a member of the file, and a default.  The first of them that is there decides, also if it cannot be
understood, and no other source matters.  What the program keeps in the file is what it would have
used, so a variable that is set goes into the file with the options that were given.

## Main definitions

* `Settings.Field`: the settings one by one, and `Settings.value`, what one of them is set to.
* `Shell.GoesBy`: whether a shell is for the platform and the time limit that settings ask for.
* `Settings.Field.source`: the value that decides over a setting, and `Settings.Field.normal`, what
  it sets it to.

## Main statements

* `Settings.normal_source`: a setting is set by the first of its sources that is there.
* `Program.run_settings`: the settings that the program uses.
* `Program.run_config`: the settings that the program keeps.
-/

namespace PortableShell

namespace Settings

/-! ### The sources of a setting -/

/-- The settings one by one. -/
inductive Field where
  | platform
  | timeout
  | logLevel
  | inputHistory
  deriving DecidableEq, Repr

/-- What a setting is set to, as it is written. -/
def value (s : Settings) : Field → Json
  | .platform => .text s.platform.name
  | .timeout => s.timeout.elim .null .real
  | .logLevel => .text s.logLevel.name
  | .inputHistory => .bool s.inputHistory

namespace Field

/-- The name of a setting in the file. -/
def key : Field → Text
  | .platform => "platform"
  | .timeout => "timeout_s"
  | .logLevel => "log_level"
  | .inputHistory => "input_history"

/-- What a setting is without any source. -/
def default : Field → Json
  | .platform => .text "auto"
  | .timeout => .null
  | .logLevel => .text "WARNING"
  | .inputHistory => .bool true

/-- What an option sets a setting to. -/
def ofOptions? (o : Options) : Field → Option Json
  | .platform => o.platform.map (.text ·.name)
  | .timeout => o.timeout.map .real
  | .logLevel => o.logLevel.map (.text ·.name)
  | .inputHistory => none

/-- What a variable of the environment sets a setting to.  A variable that is there counts, whatever
its value. -/
def ofEnvironment? (host : Host) : Field → Option Json
  | .platform => (host.valueOf? "SHELLBRIDGE_PLATFORM").map .text
  | .timeout => (host.valueOf? "SHELLBRIDGE_TIMEOUT").map .text
  | .logLevel => (host.valueOf? "SHELLBRIDGE_LOG_LEVEL").map .text
  | .inputHistory => none

/-- What a file sets a setting to. -/
def ofFile? (file : ConfigFile) (f : Field) : Option Json :=
  file.data.member? f.key

/-- The value that decides over a setting: that of the first source that is there. -/
def source (f : Field) (o : Options) (host : Host) (file : ConfigFile) : Json :=
  match f.ofOptions? o, f.ofEnvironment? host, f.ofFile? file with
  | some v, _, _ => v
  | none, some v, _ => v
  | none, none, some v => v
  | none, none, none => f.default

/-- What a value sets a setting to.  One that cannot be understood sets it to its default. -/
def normal : Field → Json → Except Failure Json
  | .platform, v => .ok (.text (platformOf v).name)
  | .timeout, v => (timeoutOf v).map (·.elim .null .real)
  | .logLevel, v => .ok (.text (logLevelOf v).name)
  | .inputHistory, v => .ok (.bool (! v.isEmptyValue))

/-- Whether a setting is set by a source if that is there, and is left as it was if not. -/
def SetBy (f : Field) (source? : Option Json) (old new : Settings) : Prop :=
  match source? with
  | none => new.value f = old.value f
  | some v => f.normal v = .ok (new.value f)

end Field

variable {file : ConfigFile} {host : Host} {s : Settings} (f : Field)

/-- Each setting that a file makes is made by a member of its own. -/
theorem ofFile_eq_ok (h : ofFile file = .ok s) :
    s.platform = ((Field.platform.ofFile? file).map platformOf).getD .auto ∧
      (Field.timeout.ofFile? file).elim (.ok none) timeoutOf = .ok s.timeout ∧
      s.logLevel = ((Field.logLevel.ofFile? file).map logLevelOf).getD .warning ∧
      s.inputHistory = ((Field.inputHistory.ofFile? file).map (! ·.isEmptyValue)).getD true := by
  replace h := ofData_of_ofFile h
  rw [ofData] at h
  unfold Field.ofFile? Field.key
  cases hmember : file.data.member? "timeout_s" with
  | none =>
    rw [hmember] at h
    cases h
    exact ⟨rfl, rfl, rfl, rfl⟩
  | some v =>
    rw [hmember] at h
    obtain ⟨timeout, htimeout, hs⟩ := Result.bind_eq_ok.mp h
    cases hs
    exact ⟨rfl, htimeout, rfl, rfl⟩

theorem normal_ofFile (h : ofFile file = .ok s) :
    f.normal ((f.ofFile? file).getD f.default) = .ok (s.value f) := by
  obtain ⟨hplatform, htimeout, hlevel, hhistory⟩ := ofFile_eq_ok h
  cases f with
  | platform =>
    rw [Field.normal, value, hplatform]
    cases Field.platform.ofFile? file <;> rfl
  | timeout =>
    rw [Field.normal, value]
    cases hmember : Field.timeout.ofFile? file with
    | none =>
      rw [hmember] at htimeout
      rw [← Except.ok.inj htimeout]
      rfl
    | some v =>
      rw [hmember] at htimeout
      exact congrArg (Except.map _) htimeout
  | logLevel =>
    rw [Field.normal, value, hlevel]
    cases Field.logLevel.ofFile? file <;> rfl
  | inputHistory =>
    rw [Field.normal, value, hhistory]
    cases Field.inputHistory.ofFile? file <;> rfl

theorem setBy_override (s : Settings) (host : Host) :
    f.SetBy (f.ofEnvironment? host) s (s.override host) := by
  cases f with
  | platform =>
    rw [Field.SetBy.eq_def, Field.ofEnvironment?, value, value, override]
    cases host.valueOf? "SHELLBRIDGE_PLATFORM" <;> rfl
  | timeout =>
    rw [Field.SetBy.eq_def, Field.ofEnvironment?, value, value, override]
    cases host.valueOf? "SHELLBRIDGE_TIMEOUT" <;> rfl
  | logLevel =>
    rw [Field.SetBy.eq_def, Field.ofEnvironment?, value, value, override]
    cases host.valueOf? "SHELLBRIDGE_LOG_LEVEL" <;> rfl
  | inputHistory => rfl

theorem setBy_apply (o : Options) (s : Settings) :
    f.SetBy (f.ofOptions? o) s (o.apply s) := by
  cases f with
  | platform =>
    rw [Field.SetBy.eq_def, Field.ofOptions?, value, value, Options.apply]
    cases o.platform with
    | none => rfl
    | some p => exact congrArg (Except.ok ∘ Json.text ∘ PlatformChoice.name) p.ofText_name
  | timeout =>
    rw [Field.SetBy.eq_def, Field.ofOptions?, value, value, Options.apply]
    cases o.timeout <;> rfl
  | logLevel =>
    rw [Field.SetBy.eq_def, Field.ofOptions?, value, value, Options.apply]
    cases o.logLevel with
    | none => rfl
    | some l => exact congrArg (Except.ok ∘ Json.text ∘ LogLevel.name) l.ofText_name
  | inputHistory => rfl

/-- A setting is set by the first of its sources that is there. -/
theorem normal_source (h : load file host = .ok s) (o : Options) :
    f.normal (f.source o host file) = .ok ((o.apply s).value f) := by
  obtain ⟨old, hfile, rfl⟩ := load_eq_ok_iff.mp h
  have hfile := normal_ofFile f hfile
  have henvironment := setBy_override f old host
  have hoptions := setBy_apply f o (old.override host)
  rw [Field.source]
  cases hflag : f.ofOptions? o with
  | some v =>
    rw [hflag] at hoptions
    exact hoptions
  | none =>
    rw [hflag] at hoptions
    rw [hoptions]
    cases hvariable : f.ofEnvironment? host with
    | some v =>
      rw [hvariable] at henvironment
      exact henvironment
    | none =>
      rw [hvariable] at henvironment
      rw [henvironment, ← hfile]
      cases f.ofFile? file <;> rfl

/-- A setting whose sources are the same is the same, whatever the sources of the others are. -/
theorem value_congr {s' : Settings} {file' : ConfigFile} {host' : Host} {o o' : Options}
    (h : load file host = .ok s) (h' : load file' host' = .ok s')
    (hoptions : f.ofOptions? o' = f.ofOptions? o)
    (henvironment : f.ofEnvironment? host' = f.ofEnvironment? host)
    (hfile : f.ofFile? file' = f.ofFile? file) : (o'.apply s').value f = (o.apply s).value f := by
  have hsource : f.source o' host' file' = f.source o host file := by
    rw [Field.source, Field.source, hoptions, henvironment, hfile]
  have hnormal := normal_source f h' o'
  rw [hsource, normal_source f h o] at hnormal
  exact (Except.ok.inj hnormal).symm

/-- No number, or one that is not greater than zero, is no time limit. -/
theorem limitOf_eq_none {x : Double}
    (h : x = .nan ∨ x = .infinite true ∨ (∃ m e, x = .finite true m e) ∨
      ∃ negative e, x = .finite negative 0 e) : limitOf x = none := by
  obtain rfl | rfl | ⟨m, e, rfl⟩ | ⟨negative, e, rfl⟩ := h
  · rfl
  · rfl
  · rfl
  · cases negative <;> rfl

theorem IsValid.apply {o : Options} (hs : s.IsValid) (ho : ∀ x ∈ o.timeout, x.IsCanonical) :
    (o.apply s).IsValid := by
  intro x hx
  rw [Options.apply] at hx
  cases htimeout : o.timeout with
  | none =>
    rw [htimeout] at hx
    exact hs x hx
  | some y =>
    rw [htimeout] at hx
    exact isLimit_of_limitOf (ho y htimeout) hx

end Settings

/-! ### The shell that goes by settings -/

/-- What the name of a choice makes of a host: one of the platforms whatever the host, or that of
the host. -/
theorem Platform.choose_name_eq_ok {c : PlatformChoice} {host : Host} {p : Platform}
    (h : choose (some c.name) host = .ok p) :
    (c = .posix → p = .posix) ∧ (c = .windows → p = .windows) ∧
      (c = .auto → (p = .windows ↔
        "windows".toList <+: Text.lower host.system ∨ host.family = "nt".toList)) := by
  cases c with
  | auto =>
    obtain rfl : host.platform = p := Except.ok.inj h
    refine ⟨nofun, nofun, fun _ => ?_⟩
    have hwindows : ("windows".toList.isPrefixOf host.systemName || host.isWindowsFamily) = true ↔
        "windows".toList <+: Text.lower host.system ∨ host.family = "nt".toList := by
      rw [Bool.or_eq_true, List.isPrefixOf_iff_prefix, Host.isWindowsFamily, beq_iff_eq]
      rfl
    rw [← hwindows, Host.platform]
    split
    · next h => exact iff_of_true rfl h
    · next h => exact iff_of_false nofun h
  | posix =>
    cases h
    exact ⟨fun _ => rfl, nofun, nofun⟩
  | windows =>
    cases h
    exact ⟨nofun, fun _ => rfl, nofun⟩

/-- Whether a shell is for the platform that settings ask for, or for that of the host if they leave
it to the host, and has the time limit that they set, if they set one. -/
structure Shell.GoesBy (shell : Shell) (s : Settings) (host : Host) : Prop where
  posix : s.platform = .posix → shell.session.platform = .posix
  windows : s.platform = .windows → shell.session.platform = .windows
  auto : s.platform = .auto → (shell.session.platform = .windows ↔
    "windows".toList <+: Text.lower host.system ∨ host.family = "nt".toList)
  unlimited : s.timeout = none → shell.limit = .unlimited
  limited : ∀ x, s.timeout = some x → shell.limit = .exact x

namespace Program

open Settings (load)

variable {words : List Text} {around : Surroundings} {options : Options} {loaded : Settings}

/-! ### What the program does with settings -/

theorem run_eq (hparse : Options.parse words = .ok options)
    (hload : load around.config around.host = .ok loaded) :
    run words around =
      if options.subcommand = .config then keep around (options.apply loaded)
      else serve around (options.apply loaded) options.subcommand := by
  rw [run, hparse]
  dsimp only
  rw [hload]
  cases options.subcommand <;> rfl

theorem levels_serve (around : Surroundings) (s : Settings) (c : Subcommand) :
    (serve around s c).levels = [s.logLevel] := by
  rw [serve]
  cases openShell around s with
  | error e => rfl
  | ok shell => cases c <;> cases openHistory around s <;> rfl

theorem goesBy_openShell {s : Settings} {shell : Shell} (h : openShell around s = .ok shell) :
    shell.GoesBy s around.host := by
  obtain ⟨platform, hchoose, h⟩ := Result.bind_eq_ok.mp h
  obtain ⟨session, hstart, h⟩ := Result.bind_eq_ok.mp h
  cases h
  obtain ⟨hposix, hwindows, hauto⟩ := Platform.choose_name_eq_ok hchoose
  obtain ⟨-, -, -, hplatform⟩ := Session.new_of_start hstart
  refine ⟨?_, ?_, ?_, ?_, ?_⟩ <;> dsimp only
  · rwa [hplatform]
  · rwa [hplatform]
  · rwa [hplatform]
  · intro htimeout
    rw [Settings.timeLimit, htimeout]
  · intro x htimeout
    rw [Settings.timeLimit, htimeout]

/-- Each setting that the program uses is what one value sets it to, which is that of the option if
it was given, or else of the variable if it is there, or else of the member of the file, or else the
default.  Another start with the same sources of a setting uses the same for it, whatever becomes of
the other sources.  An option that asks for a time limit of zero or less, or of no number, asks for
none. -/
theorem run_settings (hparse : Options.parse words = .ok options)
    (hload : load around.config around.host = .ok loaded) :
    let used := options.apply loaded
    (run words around = if options.subcommand = .config then keep around used
      else serve around used options.subcommand) ∧
    (options.subcommand ≠ .config → (run words around).levels = [used.logLevel] ∧
      ∀ shell, openShell around used = .ok shell → shell.GoesBy used around.host) ∧
    (∀ f : Settings.Field,
      f.normal (f.source options around.host around.config) = .ok (used.value f)) ∧
    (∀ (f : Settings.Field) (options' : Options) (host' : Host) (file' : ConfigFile)
      (loaded' : Settings), load file' host' = .ok loaded' →
        f.ofOptions? options' = f.ofOptions? options →
        f.ofEnvironment? host' = f.ofEnvironment? around.host →
        f.ofFile? file' = f.ofFile? around.config →
        (options'.apply loaded').value f = used.value f) ∧
    ∀ x, options.timeout = some x →
      (x = .nan ∨ x = .infinite true ∨ (∃ m e, x = .finite true m e) ∨
        ∃ negative e, x = .finite negative 0 e) → used.timeout = none := by
  intro used
  have hrun := run_eq hparse hload
  refine ⟨hrun, fun hsubcommand => ?_, fun f => Settings.normal_source f hload options, ?_, ?_⟩
  · rw [hrun, if_neg hsubcommand]
    exact ⟨levels_serve _ _ _, fun shell => goesBy_openShell⟩
  · intro f options' host' file' loaded' hload' hoptions henvironment hfile
    exact Settings.value_congr f hload hload' hoptions henvironment hfile
  · intro x hx hnone
    have htimeout : (options.apply loaded).timeout = Settings.limitOf x := by
      rw [Options.apply, hx]
    exact htimeout.trans (Settings.limitOf_eq_none hnone)

/-- An empty variable decides over a member of the file, and an option that is no number over both
another variable and another member. -/
theorem run_settings_of_empty_variable :
    let words : List Text := ["--timeout", "nan", "run", "pwd"]
    let around : Surroundings := {
      host := ⟨"Linux", "posix", [("SHELLBRIDGE_PLATFORM", []), ("SHELLBRIDGE_TIMEOUT", "7")],
        "/home/me", "/"⟩
      configPath := "/cfg/config.json"
      config := .contents (Utf8.encode
        "\x7b\"platform\": \"windows\", \"timeout_s\": 5, \"log_level\": \"error\"\x7d")
      world := { files := .bare }
      typed := [] }
    let options : Options := { timeout := some .nan, subcommand := .run "pwd" [] }
    Options.parse words = .ok options ∧
      (∃ loaded, load around.config around.host = .ok loaded ∧ loaded.timeout.isSome = true ∧
        (options.apply loaded).timeout = none ∧ (options.apply loaded).platform = .auto) ∧
      (run words around).levels = [.error] := by
  intro words around options
  have hparse : Options.parse words = .ok options := by decide +kernel
  have hload : load around.config around.host =
      .ok ⟨.auto, some (.finite false (7 * 2 ^ 50) (-50)), .error, true⟩ := by
    decide +kernel
  obtain ⟨-, hserve, -, -, hnone⟩ := run_settings hparse hload
  have hsubcommand : options.subcommand ≠ .config := by decide
  exact ⟨hparse, ⟨_, hload, rfl, hnone .nan rfl (.inl rfl), rfl⟩, (hserve hsubcommand).1⟩

/-- Settings that are kept hold, besides what the options say, what the environment sets and, for
all else, what the file by itself has set before. -/
theorem run_config {old : Settings} {empty : Host} (hparse : Options.parse words = .ok options)
    (hconfig : options.subcommand = .config) (hempty : empty.environment = [])
    (hold : load around.config empty = .ok old) :
    ∃ text new, (run words around).saved = some text ∧
      load (.contents (Utf8.encode text)) empty = .ok new ∧
      ∀ f : Settings.Field, f.ofOptions? options = none →
        f.SetBy (f.ofEnvironment? around.host) old new := by
  have hkeeps (s : Settings) : s.override empty = s :=
    Settings.override_of_environment_eq_nil s hempty
  obtain ⟨made, hfile, hmade⟩ := Settings.load_eq_ok_iff.mp hold
  obtain rfl : made = old := (hkeeps made).symm.trans hmade
  have hload : load around.config around.host = .ok (made.override around.host) :=
    Settings.load_eq_ok_iff.mpr ⟨made, hfile, rfl⟩
  have hvalid := (Settings.isValid_of_load hload).apply (Options.isCanonical_of_parse hparse)
  have hrun := run_eq hparse hload
  rw [if_pos hconfig] at hrun
  refine ⟨_, options.apply (made.override around.host), congrArg Outcome.saved hrun, ?_, ?_⟩
  · exact Settings.load_eq_ok_iff.mpr ⟨_, Settings.ofFile_saved hvalid, hkeeps _⟩
  · intro f hflag
    have hoptions := Settings.setBy_apply f options (made.override around.host)
    have henvironment := Settings.setBy_override f made around.host
    rw [hflag] at hoptions
    rw [Settings.Field.SetBy.eq_def] at henvironment ⊢
    rwa [hoptions]

/-- A time limit is kept that was asked for, and a level that a variable sets, beside the platform
that the file has set before. -/
theorem run_config_of_fraction :
    let words : List Text := ["config", "--timeout", "2.5"]
    let around : Surroundings := {
      host := ⟨"Linux", "posix", [("SHELLBRIDGE_LOG_LEVEL", "debug")], "/home/me", "/"⟩
      configPath := "/cfg/config.json"
      config := .contents (Utf8.encode "\x7b\"platform\": \"windows\"\x7d")
      world := { files := .bare }
      typed := [] }
    let empty : Host := ⟨"Linux", "posix", [], "/home/me", "/"⟩
    let options : Options :=
      { timeout := some (.finite false (5 * 2 ^ 50) (-51)), subcommand := .config }
    Options.parse words = .ok options ∧ options.subcommand = .config ∧
      empty.environment = [] ∧ load around.config empty = .ok { platform := .windows } ∧
      ∃ text new, (run words around).saved = some text ∧
        load (.contents (Utf8.encode text)) empty = .ok new ∧
        new.value .platform = .text "windows" ∧ new.value .logLevel = .text "DEBUG" := by
  intro words around empty options
  have hparse : Options.parse words = .ok options := by decide +kernel
  have hold : load around.config empty = .ok { platform := .windows } := by decide +kernel
  obtain ⟨text, new, hsaved, hload, hfields⟩ := run_config hparse rfl rfl hold
  have hlevel : Settings.Field.logLevel.normal (.text "debug") = .ok (new.value .logLevel) :=
    hfields .logLevel rfl
  exact ⟨hparse, rfl, rfl, hold, text, new, hsaved, hload, hfields .platform rfl,
    (Except.ok.inj hlevel).symm⟩

/-- A platform that only a variable sets is kept, though no option asks for it and the file by
itself has set no other than the default. -/
theorem run_config_of_variable :
    let around : Surroundings := {
      host := ⟨"Linux", "posix", [("SHELLBRIDGE_PLATFORM", "windows")], "/home/me", "/"⟩
      configPath := "/cfg/config.json"
      config := .missing
      world := { files := .bare }
      typed := [] }
    let empty : Host := ⟨"Linux", "posix", [], "/home/me", "/"⟩
    ∃ options old text new, Options.parse ["config".toList] = .ok options ∧
      options.subcommand = .config ∧ load around.config empty = .ok old ∧
      (run ["config".toList] around).saved = some text ∧
      load (.contents (Utf8.encode text)) empty = .ok new ∧
      Settings.Field.platform.ofOptions? options = none ∧
      new.value .platform ≠ old.value .platform := by
  intro around empty
  have hkept : load (Settings.saved { platform := .windows }) empty =
      .ok { platform := .windows } := by decide +kernel
  refine ⟨{ subcommand := .config }, {}, Settings.print { platform := .windows },
    { platform := .windows }, by decide +kernel, rfl, rfl, by decide +kernel, hkept, rfl, ?_⟩
  intro h
  exact absurd (Json.text.inj h) (by decide)

end Program

end PortableShell
