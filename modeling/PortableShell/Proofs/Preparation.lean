import Mathlib.Data.List.Basic
import PortableShell.Plan
import PortableShell.Proofs.Action
import PortableShell.Proofs.Words

/-!
# What is made out of the arguments

Before a procedure does anything it makes out from the argument text what is to be done.  What that
is shows which arguments there were and which paths they mean.

## Main statements

* `Argument.exactly_eq_ok_iff`, `Argument.single_eq_ok_iff`: the arguments that a command takes.
* `Session.new_of_start`: what a session is like that was just started.
* `Session.existing_eq_ok_iff`: the path of something that has to exist.
* `Procedure.prepareSetting_eq_ok_iff`: a value to be set, and the file that it is set for.
* `Procedure.run_cases`: a procedure is over if nothing can be made out, and else does what it is
  to do.
* `Site.on_plan_of_prepare`: what a command ends in once it is made out what is to be done.
-/

namespace PortableShell

/-! ### Arguments and paths -/

namespace Argument

variable {raw command what : Text}

theorem exactly_eq_ok_iff {count : Nat} {found : List Text} :
    exactly raw command what count = .ok found ↔ tokens raw = found ∧ found.length = count := by
  rw [exactly]
  by_cases hfew : (tokens raw).length < count
  · simp only [if_pos hfew, reduceCtorEq, false_iff, not_and]
    rintro rfl
    omega
  · by_cases hmany : count < (tokens raw).length
    · simp only [if_neg hfew, if_pos hmany, reduceCtorEq, false_iff, not_and]
      rintro rfl
      omega
    · simp only [if_neg hfew, if_neg hmany, Except.ok.injEq, iff_self_and]
      rintro rfl
      omega

theorem single_eq_ok_iff {name : Text} :
    single raw command what = .ok name ↔ tokens raw = [name] := by
  rw [single, Result.bind_eq_ok]
  constructor
  · rintro ⟨found, hfound, hname⟩
    obtain ⟨htokens, hlength⟩ := exactly_eq_ok_iff.mp hfound
    obtain ⟨a, rfl⟩ := List.length_eq_one_iff.mp hlength
    cases hname
    exact htokens
  · intro htokens
    exact ⟨[name], exactly_eq_ok_iff.mpr ⟨htokens, rfl⟩, rfl⟩

end Argument

/-- A session starts for its platform in a directory that exists, before any command was given. -/
theorem Session.new_of_start {platform : Platform} {home directory : Option Text} {host : Host}
    {homeDirectory : Except Failure Text} {files : FileSystem} {s : Session}
    (h : start platform home directory host homeDirectory files = .ok s) :
    files.isDirectory s.directory = true ∧ s.history = [] ∧ s.cursor = 0 ∧
      s.platform = platform := by
  obtain ⟨_, -, h⟩ := Result.bind_eq_ok.mp h
  obtain ⟨_, -, h⟩ := Result.bind_eq_ok.mp h
  obtain ⟨hdirectory, rfl⟩ := Result.ite_eq_ok.mp h
  exact ⟨hdirectory, rfl, rfl, rfl⟩

theorem Session.existing_eq_ok_iff {s : Session} {files : FileSystem} {kind : ErrorKind}
    {label path resolved : Text} :
    s.existing files kind label path = .ok resolved ↔
      s.resolve path = .ok resolved ∧ files.contains resolved = true := by
  rw [existing, Result.bind_eq_ok]
  constructor
  · rintro ⟨found, hfound, h⟩
    obtain ⟨hcontains, rfl⟩ := Result.ite_eq_ok.mp h
    exact ⟨hfound, hcontains⟩
  · rintro ⟨hfound, hcontains⟩
    exact ⟨resolved, hfound, Result.ite_eq_ok.mpr ⟨hcontains, rfl⟩⟩

/-! ### Procedures -/

namespace Procedure

/-- A procedure is over if nothing can be made out, and else does what it is to do. -/
theorem run_cases (p : Procedure) (s : Site) (raw : Text) (w : World) :
    (∃ f, p.prepare s.session w.files raw = .error f ∧ (p.run s raw).on w = (.error f, w)) ∨
      ∃ input, p.prepare s.session w.files raw = .ok input ∧
        (p.run s raw).on w = (p.perform s input).on w := by
  rw [run, ActionOf.on_currentFiles_bind, ActionOf.on_bind, ActionOf.on_lift]
  cases p.prepare s.session w.files raw with
  | error f => exact .inl ⟨f, rfl, rfl⟩
  | ok input => exact .inr ⟨input, rfl, rfl⟩

/-- A value to be set is the first word, and what follows it is the file, which has to exist. -/
theorem prepareSetting_eq_ok_iff {command what : Text} {s : Session} {files : FileSystem}
    {raw : Text} {setting : Setting} :
    prepareSetting command what s files raw = .ok setting ↔
      Argument.leading raw = (setting.value, setting.name) ∧ setting.name ≠ [] ∧
        s.existingFile files setting.name = .ok setting.path := by
  rw [prepareSetting]
  by_cases hblank : Text.isAllBlank raw = true
  · have hleading : Argument.leading raw = ([], []) := by
      rw [Argument.leading, Text.trim_eq_nil_iff.mpr hblank]
      rfl
    rw [if_pos hblank, hleading]
    refine ⟨nofun, fun h => ?_⟩
    exact absurd (Prod.mk.inj h.1).2.symm h.2.1
  · rw [if_neg hblank]
    rcases hleading : Argument.leading raw with ⟨value, name⟩
    cases name with
    | nil =>
      refine ⟨nofun, fun h => ?_⟩
      exact absurd (Prod.mk.inj h.1).2.symm h.2.1
    | cons c name =>
      constructor
      · intro h
        obtain ⟨path, hpath, h⟩ := Result.bind_eq_ok.mp h
        cases h
        exact ⟨rfl, List.cons_ne_nil c name, hpath⟩
      · rintro ⟨h, -, hpath⟩
        obtain ⟨hvalue, hname⟩ := Prod.mk.inj h
        obtain ⟨value', name', path⟩ := setting
        subst hvalue hname
        exact Result.bind_eq_ok.mpr ⟨path, hpath, rfl⟩

theorem leading_of_prepareSetting {command what : Text} {s : Session} {files : FileSystem}
    {raw : Text} {setting : Setting} (h : prepareSetting command what s files raw = .ok setting) :
    setting.value = (Argument.leading raw).1 ∧
      s.resolve (Argument.leading raw).2 = .ok setting.path := by
  obtain ⟨hleading, -, hpath⟩ := prepareSetting_eq_ok_iff.mp h
  rw [hleading]
  exact ⟨rfl, (Session.existing_eq_ok_iff.mp hpath).1⟩

/-- What is made out of a mode where it has to be understood. -/
theorem prepareMode_eq_ok_iff {s : Session} {files : FileSystem} {raw : Text}
    {change : ModeChange} (hplatform : s.platform = .windows) :
    prepareMode s files raw = .ok change ↔ ∃ setting owner group others,
      prepareSetting "chmod" "permissions" s files raw = .ok setting ∧
      Permission.ofMode setting.value = .ok (owner, group, others) ∧
      change = .direct setting owner := by
  rw [prepareMode, hplatform, Result.bind_eq_ok]
  constructor
  · rintro ⟨setting, hsetting, h⟩
    obtain ⟨⟨owner, group, others⟩, hmode, h⟩ := Result.bind_eq_ok.mp h
    cases h
    exact ⟨setting, owner, group, others, Result.ofReported_eq_ok.mp hsetting, hmode, rfl⟩
  · rintro ⟨setting, owner, group, others, hsetting, hmode, rfl⟩
    exact ⟨setting, Result.ofReported_eq_ok.mpr hsetting, Result.bind_eq_ok.mpr ⟨_, hmode, rfl⟩⟩

/-- Only on Windows what the owner is to be allowed is made out. -/
theorem direct_of_prepareMode {s : Session} {files : FileSystem} {raw : Text} {setting : Setting}
    {owner : Permission} (h : prepareMode s files raw = .ok (.direct setting owner)) :
    s.platform = .windows ∧ s.resolve (Argument.leading raw).2 = .ok setting.path := by
  cases hplatform : s.platform with
  | posix =>
    obtain ⟨setting', -, h⟩ := Result.bind_eq_ok.mp h
    rw [hplatform] at h
    cases h
  | windows =>
    obtain ⟨_, _, _, _, hsetting, -, hchange⟩ := (prepareMode_eq_ok_iff hplatform).mp h
    cases hchange
    exact ⟨rfl, (leading_of_prepareSetting hsetting).2⟩

theorem tokens_of_prepareTouch {s : Session} {raw path : Text}
    (h : prepareTouch s raw = .ok path) :
    ∃ name, Argument.tokens raw = [name] ∧ s.resolve name = .ok path := by
  obtain ⟨name, hname, hpath⟩ := Result.bind_eq_ok.mp h
  exact ⟨name, Argument.single_eq_ok_iff.mp hname, hpath⟩

end Procedure

/-- A command that has a procedure is answered with what this does once it is made out what is to
be done. -/
theorem Site.on_plan_of_prepare {s : Site} {c : Command} {p : Procedure} {raw : Text} {w : World}
    {input : p.Input} (hc : c.isBuiltin = false) (hp : c.procedure? s.platform = some p)
    (h : p.prepare s.session w.files raw = .ok input) :
    (s.plan c raw).on w =
      (((p.perform s input).on w).1.map .answered, ((p.perform s input).on w).2) := by
  rw [plan, hc, if_neg Bool.false_ne_true, hp, ActionOf.on_bind_pure]
  rcases p.run_cases s raw w with ⟨f, hprepare, -⟩ | ⟨input', hprepare, hon⟩
  · rw [h] at hprepare
    cases hprepare
  · rw [h] at hprepare
    cases hprepare
    rw [hon]

/-- Both ways of copying and moving have a procedure on every platform. -/
theorem Command.exists_transfer {c : Command} (hc : c = .cp ∨ c = .mv) (platform : Platform) :
    c.isBuiltin = false ∧ ∃ t : Transfer, c.procedure? platform = some t.procedure := by
  rcases hc with rfl | rfl
  · exact ⟨rfl, .copy, rfl⟩
  · exact ⟨rfl, .move, rfl⟩

/-- What is copied or moved are two arguments, of which the second one is the destination.  A
directory is to be made exactly if the destination names one and there is nothing at its path. -/
theorem Transfer.tokens_of_prepare {t : Transfer} {s : Session} {files : FileSystem} {raw : Text}
    {input : Input} (h : t.prepare s files raw = .ok input) :
    Argument.tokens raw = [input.source, input.destination] ∧
      s.resolve input.destination = .ok input.destinationPath ∧
      input.makesDirectory =
        (namesDirectory input.destination && ! files.contains input.destinationPath) := by
  obtain ⟨found, hfound, h⟩ := Result.bind_eq_ok.mp h
  obtain ⟨htokens, hlength⟩ := Argument.exactly_eq_ok_iff.mp hfound
  obtain ⟨source, destination, rfl⟩ := List.length_eq_two.mp hlength
  obtain ⟨sourcePath, -, h⟩ := Result.bind_eq_ok.mp h
  obtain ⟨destinationPath, hdestination, h⟩ := Result.bind_eq_ok.mp h
  cases h
  exact ⟨htokens, hdestination, rfl⟩

end PortableShell
