import PortableShell.Program
import PortableShell.Proofs.Replies
import PortableShell.Proofs.Words

/-!
# Arguments on their way to a native program

Arguments without double quotes that are put together to a text are found again when the text is
cut, but for the empty ones.  So the arguments that the program is given for a command without a
procedure are those that the native program is started with.

## Main definitions

* `Command.IsHandedOver`: the commands that are left to the native shell.
* `Command.nativeStart`: what the arguments of such a command are put after.

## Main statements

* `Argument.tokens_rebuild`: the arguments of a text that was put together from arguments.
* `Shell.world_submit_of_isHandedOver`: a command that is handed over starts one process.
* `Program.attempts_once_of_isHandedOver`: the process that the program starts for such a command.
-/

namespace PortableShell

namespace Argument

variable {argument : Text} {arguments : List Text}

/-! ### Cutting what was put together -/

/-- At the end of a text the argument that was begun is over. -/
theorem tokensFrom_nil (quoted : Bool) (current : Text) :
    tokensFrom quoted current [] = [current.reverse].filter (· != []) := by
  cases current with
  | nil => rfl
  | cons c current => simp [tokensFrom]

/-- So it is at a blank outside of double quotes. -/
theorem tokensFrom_blank {b : Char} (hb : Text.isBlank b = true) (current t : Text) :
    tokensFrom false current (b :: t) = [current.reverse].filter (· != []) ++ tokens t := by
  rw [tokensFrom, if_neg (Text.ne_quote_of_isBlank hb), hb]
  cases current with
  | nil => simp [tokens]
  | cons c current => simp [tokens]

/-- Characters that mean nothing by themselves are added to the argument begun. -/
theorem tokensFrom_append_of_plain (h : ∀ c ∈ argument, c ≠ '"' ∧ Text.isBlank c = false)
    (current t : Text) :
    tokensFrom false current (argument ++ t) =
      tokensFrom false (argument.reverse ++ current) t := by
  induction argument generalizing current with
  | nil => rfl
  | cons c argument ih =>
    obtain ⟨hquote, hblank⟩ := h c List.mem_cons_self
    have hrest := ih (fun d hd => h d (List.mem_cons_of_mem c hd)) (c :: current)
    rw [List.cons_append, tokensFrom, if_neg hquote, hblank]
    simpa using hrest

/-- Between double quotes so is everything else. -/
theorem tokensFrom_append_of_quoted (h : '"' ∉ argument) (current t : Text) :
    tokensFrom true current (argument ++ t) = tokensFrom true (argument.reverse ++ current) t := by
  induction argument generalizing current with
  | nil => rfl
  | cons c argument ih =>
    rw [List.mem_cons, not_or] at h
    obtain ⟨hquote, hargument⟩ := h
    have hrest := ih hargument (c :: current)
    rw [List.cons_append, tokensFrom, if_neg (Ne.symm hquote)]
    simpa using hrest

/-- An argument is read as it is, whether it was put between double quotes or not. -/
theorem tokensFrom_append_guarded (h : '"' ∉ argument) (t : Text) :
    tokensFrom false [] (guarded argument ++ t) = tokensFrom false argument.reverse t := by
  rw [guarded]
  by_cases hguard : (argument.isEmpty || argument.any Text.isBlank) = true
  · have hinside := tokensFrom_append_of_quoted h [] ('"' :: t)
    rw [if_pos hguard]
    -- the first double quote opens and the last one closes
    simpa [tokensFrom] using hinside
  · have hblank : argument.any Text.isBlank = false := by
      rw [Bool.not_eq_true, Bool.or_eq_false_iff] at hguard
      exact hguard.2
    have hplain : ∀ c ∈ argument, c ≠ '"' ∧ Text.isBlank c = false := by
      intro c hc
      refine ⟨?_, by simpa using List.any_eq_false.mp hblank c hc⟩
      rintro rfl
      exact h hc
    rw [if_neg hguard, tokensFrom_append_of_plain hplain, List.append_nil]

theorem rebuild_cons_cons (a b : Text) (rest : List Text) :
    rebuild (a :: b :: rest) = guarded a ++ ' ' :: rebuild (b :: rest) := by
  simp [rebuild, Text.join]

/-- Arguments without double quotes are found again, but for the empty ones. -/
theorem tokens_rebuild (h : ∀ a ∈ arguments, '"' ∉ a) :
    tokens (rebuild arguments) = arguments.filter (· != []) := by
  induction arguments with
  | nil => rfl
  | cons a rest ih =>
    have ha : '"' ∉ a := h a List.mem_cons_self
    have hrest := ih fun b hb => h b (List.mem_cons_of_mem a hb)
    cases rest with
    | nil =>
      have hread := tokensFrom_append_guarded ha []
      rw [List.append_nil, tokensFrom_nil, List.reverse_reverse] at hread
      exact hread
    | cons b rest =>
      calc tokens (rebuild (a :: b :: rest))
          = tokensFrom false a.reverse (' ' :: rebuild (b :: rest)) := by
            rw [rebuild_cons_cons, tokens, tokensFrom_append_guarded ha]
        _ = [a].filter (· != []) ++ tokens (rebuild (b :: rest)) := by
            rw [tokensFrom_blank Text.isBlank_space, List.reverse_reverse]
        _ = (a :: b :: rest).filter (· != []) := by
            rw [hrest, ← List.filter_append, List.singleton_append]

/-! ### The ends of such a text -/

theorem guarded_ne_nil (argument : Text) : guarded argument ≠ [] := by
  rw [guarded]
  cases argument with
  | nil => simp
  | cons c argument => split <;> simp

/-- No blank stands at either end of an argument as part of a text. -/
theorem trim_guarded (argument : Text) : Text.trim (guarded argument) = guarded argument := by
  rw [Text.trim_eq_self_iff, guarded]
  by_cases hguard : (argument.isEmpty || argument.any Text.isBlank) = true
  · have hlast : (['"'] ++ argument ++ ['"']).getLast? = some '"' := List.getLast?_concat
    rw [if_pos hguard, hlast]
    simp
  · have hblank : ∀ c ∈ argument, Text.isBlank c = false := by
      rw [Bool.not_eq_true, Bool.or_eq_false_iff] at hguard
      simpa using hguard.2
    rw [if_neg hguard]
    exact ⟨fun c hc => hblank c (List.mem_of_mem_head? hc),
      fun c hc => hblank c (List.mem_of_mem_getLast? hc)⟩

theorem rebuild_cons_ne_nil (a : Text) (rest : List Text) : rebuild (a :: rest) ≠ [] := by
  cases rest with
  | nil => exact guarded_ne_nil a
  | cons b rest => simp [rebuild_cons_cons]

/-- Nor does one stand at either end of the text. -/
theorem trim_rebuild (arguments : List Text) :
    Text.trim (rebuild arguments) = rebuild arguments := by
  induction arguments with
  | nil => rfl
  | cons a rest ih =>
    cases rest with
    | nil => exact trim_guarded a
    | cons b rest =>
      have hends := Text.trim_append_append (t := [' ']) (trim_guarded a) (guarded_ne_nil a) ih
        (rebuild_cons_ne_nil b rest)
      simpa [rebuild_cons_cons] using hends

end Argument

/-! ### Commands without a procedure -/

namespace Command

/-- Whether a command is left to the native shell of a platform: the session does not answer it,
and there is no procedure for it. -/
def IsHandedOver (platform : Platform) (c : Command) : Prop :=
  c.isBuiltin = false ∧ c.procedure? platform = none

/-- What the arguments of a command that is handed over are put after: its name, or what has the
command interpreter run it under the name that it has there. -/
def nativeStart : Platform → Command → List Text
  | .posix, c => [c.name]
  | .windows, c => ["cmd.exe", "/c", c.nativeName .windows]

theorem handOver_eq_nativeStart (platform : Platform) (directory : Text) (c : Command)
    (raw : Text) :
    c.handOver platform directory raw =
      ⟨c.nativeStart platform ++ Argument.tokens raw, directory⟩ := by
  cases platform with
  | posix => cases c <;> rfl
  | windows => rfl

end Command

/-- Carrying out a command that is handed over starts one process, and does nothing else. -/
theorem Shell.on_execute_of_isHandedOver {s : Site} {c : Command}
    (hc : c.IsHandedOver s.platform) (raw commandLine : Text) (w : World) :
    ((execute s c raw commandLine).on w).2 =
      w.afterAttempt s.limit (c.handOver s.platform s.directory raw) := by
  obtain ⟨hbuiltin, hprocedure⟩ := hc
  rw [execute, Site.plan, hbuiltin, if_neg Bool.false_ne_true, hprocedure, pure_bind]
  have hstart := World.on_start s.limit (c.handOver s.platform s.directory raw) w
  cases hconclude : World.conclude s.limit (c.handOver s.platform s.directory raw)
      (w.outcomeOf s.limit (c.handOver s.platform s.directory raw)) with
  | error e =>
    rw [hconclude] at hstart
    rw [ActionOf.on_bind_of_error hstart]
  | ok result =>
    rw [hconclude] at hstart
    rw [ActionOf.on_bind_of_ok hstart]
    split <;> rfl

/-- A command that is handed over starts one process, and does nothing else. -/
theorem Shell.world_submit_of_isHandedOver {s : Shell} {name : Text} {c : Command}
    (hparse : Command.parse (Text.trim name) = .ok c) (hc : c.IsHandedOver s.session.platform)
    (raw : Text) :
    (s.submit name raw).2.world =
      s.world.afterAttempt s.limit
        (c.handOver s.session.platform s.session.directory (Text.trim raw)) := by
  have hplatform : (s.recorded c (Text.trim raw)).site.platform = s.session.platform :=
    Session.platform_record _ _ _
  have hdirectory : (s.recorded c (Text.trim raw)).site.directory = s.session.directory :=
    Session.directory_record _ _ _
  rw [submit_of_parse hparse, dispatch_of_isBuiltin_eq_false _ hc.1, ← hplatform, ← hdirectory]
  rw [← hplatform] at hc
  exact on_execute_of_isHandedOver hc _ _ s.world

/-! ### The program -/

/-- Arguments without double quotes are found again in the text that is made of them, but for the
empty ones.  So for a command that is handed over, the program starts exactly one process, with all
arguments that are not empty, in their order, in the directory of the session. -/
theorem Program.attempts_once_of_isHandedOver {arguments : List Text}
    (h : ∀ a ∈ arguments, '"' ∉ a) :
    Argument.tokens (Argument.rebuild arguments) = arguments.filter (· != []) ∧
    ∀ (s : Shell) (name : Text) (c : Command), Command.parse (Text.trim name) = .ok c →
      c.IsHandedOver s.session.platform →
      let i : Invocation :=
        ⟨c.nativeStart s.session.platform ++ arguments.filter (· != []), s.session.directory⟩
      (once s name arguments).2.2.world.attempts =
        s.world.attempts ++ [⟨i, s.world.outcomeOf s.limit i⟩] := by
  have htokens := Argument.tokens_rebuild h
  refine ⟨htokens, fun s name c hparse hc => ?_⟩
  have hworld := Shell.world_submit_of_isHandedOver hparse hc (Argument.rebuild arguments)
  rw [Argument.trim_rebuild, Command.handOver_eq_nativeStart, htokens] at hworld
  have hattempts := congrArg World.attempts hworld
  exact hattempts

/-- A name with a blank in it and a name that is empty, for a listing on Windows. -/
theorem Program.attempts_once_dir :
    let s : Shell := ⟨{ directory := "/", platform := .windows, home := "/me" }, .unlimited,
      { files := .bare }⟩
    (∀ a ∈ ["a b".toList, [], "c".toList], '"' ∉ a) ∧
      (once s "ls" ["a b", [], "c"]).2.2.world.attempts =
        [⟨⟨["cmd.exe", "/c", "dir", "a b", "c"], "/"⟩, .exits none 0⟩] := by
  intro s
  have hquote : ∀ a ∈ ["a b".toList, [], "c".toList], '"' ∉ a := by decide
  have hparse : Command.parse (Text.trim "ls") = .ok .ls := rfl
  have hattempts := (attempts_once_of_isHandedOver hquote).2 s "ls" .ls hparse ⟨rfl, rfl⟩
  refine ⟨hquote, ?_⟩
  rw [hattempts]
  rfl

end PortableShell
