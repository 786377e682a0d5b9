import PortableShell.Proofs.Directory
import PortableShell.Proofs.Words

/-!
# The history as a log

The history of a run holds the commands that were called for, in order and as they were called for,
whatever became of them.  An entry given back as a line is the same call again.

## Main definitions

* `Call.kept?`: what a call leaves in the history, and `Entry.ofCommand`, how it stands there.
* `Call.IsUnknown`: the calls whose name is that of no command.
* `Shell.after`: the shell after several calls, each of which meets a world of its own.

## Main statements

* `Command.parse_name`: every command is found under its name.
* `Shell.history_answer`: what one call does to the history.
* `Shell.submitLine_text`: an entry given back as a line is the same call again.
* `Shell.history_after_start`: what holds of the history of a run.
-/

namespace PortableShell

/-! ### Names of commands -/

namespace Command

/-- Every command is found under its name. -/
theorem parse_name (c : Command) : parse c.name = .ok c := by
  cases c <;> rfl

theorem name_injective : Function.Injective name := by
  intro c d h
  have hparse : (.ok c : Except ShellError Command) = .ok d := by
    rw [← parse_name c, ← parse_name d, h]
  exact Except.ok.inj hparse

theorem isBlank_of_mem_name (c : Command) : ∀ d ∈ c.name, Text.isBlank d = false := by
  have hall : (c.name.all fun d => ! Text.isBlank d) = true := by cases c <;> rfl
  simpa using hall

theorem name_ne_nil (c : Command) : c.name ≠ [] := by
  cases c <;> decide

theorem trim_name (c : Command) : Text.trim c.name = c.name :=
  Text.trim_of_word c.isBlank_of_mem_name

end Command

/-! ### What a call leaves behind -/

/-- A command with its argument text as it stands in the history. -/
def Entry.ofCommand (call : Command × Text) : Entry :=
  ⟨call.1.name, call.2⟩

namespace Call

/-- The command and the argument text that a call leaves in the history: those of every command but
of a question for the history itself. -/
def kept? (call : Call) : Option (Command × Text) :=
  call.words.bind fun found =>
    match Command.parse (Text.trim found.1) with
    | .error _ => none
    | .ok c => if c = .history then none else some (c, Text.trim found.2)

/-- Whether the name that is called is that of no command. -/
def IsUnknown (call : Call) : Prop :=
  ∃ name raw e, call.words = some (name, raw) ∧ Command.parse (Text.trim name) = .error e

/-- What is kept is no question for the history, and its argument text has no blanks at its
ends. -/
theorem of_kept?_eq_some {call : Call} {c : Command} {raw : Text}
    (h : call.kept? = some (c, raw)) : c ≠ .history ∧ Text.trim raw = raw := by
  obtain ⟨found, -, hfound⟩ := Option.bind_eq_some_iff.mp h
  cases hparse : Command.parse (Text.trim found.1) with
  | error e =>
    rw [hparse] at hfound
    cases hfound
  | ok d =>
    simp only [hparse] at hfound
    split at hfound
    · cases hfound
    · rename_i hne
      cases hfound
      exact ⟨hne, Text.trim_trim found.2⟩

end Call

namespace Session

/-- Every command is recorded but for a question for the history. -/
theorem history_record (s : Session) (c : Command) (raw : Text) :
    (s.record c.name raw).history =
      if c = .history then s.history else s.history ++ [.ofCommand (c, raw)] := by
  have hname : c.name = "history".toList ↔ c = .history :=
    Command.name_injective.eq_iff (b := Command.history)
  rw [record]
  by_cases hc : c = .history
  · rw [if_pos (hname.mpr hc), if_pos hc]
  · rw [if_neg (mt hname.mp hc), if_neg hc]
    rfl

end Session

namespace Shell

/-! ### One call -/

/-- Carrying out a command leaves the history as it is. -/
theorem history_dispatch (s : Shell) (c : Command) (raw commandLine : Text) :
    (s.dispatch c raw commandLine).2.session.history = s.session.history := by
  rcases dispatch_cases s c raw commandLine with
    ⟨session, -, hchange, hdispatch⟩ | ⟨hsession, -⟩
  · rw [hdispatch]
    exact Session.history_changeDirectory hchange
  · rw [hsession]

theorem history_submit_of_parse {name : Text} {c : Command}
    (h : Command.parse (Text.trim name) = .ok c) (s : Shell) (raw : Text) :
    (s.submit name raw).2.session.history = (s.session.record c.name (Text.trim raw)).history := by
  rw [submit_of_parse h, Prod.map_snd, id, history_dispatch]
  rfl

/-- A call whose name is that of no command changes nothing. -/
theorem answer_of_isUnknown {call : Call} (h : call.IsUnknown) (s : Shell) :
    (s.answer call).2 = s := by
  obtain ⟨name, raw, e, hwords, hparse⟩ := h
  simp only [answer_eq, hwords, submit_of_parse_error hparse]

/-- One call adds what it leaves behind to the history, and nothing else. -/
theorem history_answer (s : Shell) (call : Call) :
    (s.answer call).2.session.history =
      s.session.history ++ (call.kept?.map Entry.ofCommand).toList := by
  rw [answer_eq, Call.kept?]
  cases hwords : call.words with
  | none => simp
  | some found =>
    obtain ⟨name, raw⟩ := found
    rw [Option.bind_some]
    cases hparse : Command.parse (Text.trim name) with
    | error e =>
      have hsame : (s.submit name raw).2 = s := by rw [submit_of_parse_error hparse]
      simp [hsame]
    | ok c =>
      have hsubmit := history_submit_of_parse hparse s raw
      rw [Session.history_record] at hsubmit
      by_cases hc : c = .history
      · simpa [hc] using hsubmit
      · simpa [hc] using hsubmit

/-- An entry given back as a line is the call of the same command with the same argument text. -/
theorem submitLine_text (s : Shell) (c : Command) {raw : Text} (hraw : Text.trim raw = raw) :
    s.submitLine (Entry.ofCommand (c, raw)).text = s.submit c.name raw := by
  obtain ⟨first, rest, hname⟩ := List.exists_cons_of_ne_nil c.name_ne_nil
  have hwords : Text.firstWord (Text.trim (Entry.ofCommand (c, raw)).text) = (c.name, raw) := by
    rw [Entry.text, Entry.ofCommand]
    cases hempty : raw.isEmpty with
    | true =>
      obtain rfl := List.isEmpty_iff.mp hempty
      exact (congrArg _ c.trim_name).trans (Text.firstWord_eq_self c.isBlank_of_mem_name)
    | false =>
      have hne : raw ≠ [] := by simpa using hempty
      have htrim : Text.trim (c.name ++ [' '] ++ raw) = c.name ++ [' '] ++ raw :=
        Text.trim_append_append c.trim_name c.name_ne_nil hraw hne
      have hstart : Text.trimStart raw = raw :=
        Text.trimStart_eq_self_iff.mpr (Text.trim_eq_self_iff.mp hraw).1
      have hfirst := Text.firstWord_append c.isBlank_of_mem_name Text.isBlank_space raw
      rw [hstart] at hfirst
      rw [if_neg Bool.false_ne_true]
      change Text.firstWord (Text.trim (c.name ++ [' '] ++ raw)) = _
      rw [htrim, List.append_assoc]
      exact hfirst
  rw [submitLine, hwords, hname]

/-! ### Runs -/

/-- The shell after calls, each of which meets a world of its own. -/
def after (s : Shell) : List (World × Call) → Shell
  | [] => s
  | (w, call) :: rest => (({ s with world := w } : Shell).answer call).2.after rest

/-- The history of a run holds what its calls leave behind, in order. -/
theorem history_after (s : Shell) (calls : List (World × Call)) :
    (s.after calls).session.history =
      s.session.history ++ (calls.filterMap (·.2.kept?)).map Entry.ofCommand := by
  induction calls generalizing s with
  | nil => simp [after]
  | cons met rest ih =>
    obtain ⟨w, call⟩ := met
    have hstep := history_answer { s with world := w } call
    rw [after, ih, hstep, List.filterMap_cons]
    cases call.kept? with
    | none => simp
    | some kept => simp

/-- The history of a run that begins with a new session is the list of the commands that were
called for, each with its argument text without the blanks around it, whatever became of them.  A
call whose name is that of no command changes nothing at all.  An entry given back as a line, in
whatever shell, is recorded and carried out as the same command with the same argument text, and
adds the same entry again. -/
theorem history_after_start {platform : Platform} {home directory : Option Text} {host : Host}
    {homeDirectory : Except Failure Text} {files : FileSystem} {session : Session}
    (h : Session.start platform home directory host homeDirectory files = .ok session)
    (limit : TimeLimit) (w : World) (calls : List (World × Call)) :
    (after ⟨session, limit, w⟩ calls).session.history =
        (calls.filterMap (·.2.kept?)).map Entry.ofCommand ∧
      (∀ (s : Shell) (call : Call), call.IsUnknown → (s.answer call).2 = s) ∧
      ∀ c raw, (c, raw) ∈ calls.filterMap (·.2.kept?) → ∀ s : Shell,
        s.submitLine (Entry.ofCommand (c, raw)).text =
            Prod.map (Reply.ofResult (echo c.name raw)) id
              ((s.recorded c raw).dispatch c raw (echo c.name raw)) ∧
          (s.submitLine (Entry.ofCommand (c, raw)).text).2.session.history =
            s.session.history ++ [.ofCommand (c, raw)] := by
  obtain ⟨-, hempty, -⟩ := Session.new_of_start h
  have hafter := history_after ⟨session, limit, w⟩ calls
  rw [hempty, List.nil_append] at hafter
  refine ⟨hafter, fun s call hcall => answer_of_isUnknown hcall s, ?_⟩
  intro c raw hkept s
  obtain ⟨⟨w', call⟩, -, hcall⟩ := List.mem_filterMap.mp hkept
  obtain ⟨hne, hraw⟩ := Call.of_kept?_eq_some hcall
  have hparse : Command.parse (Text.trim c.name) = .ok c := by
    rw [c.trim_name, c.parse_name]
  have hsubmit : s.submit c.name raw = _ := submit_of_parse hparse
  have hhistory := history_submit_of_parse hparse s raw
  rw [c.trim_name, hraw] at hsubmit
  rw [hraw, Session.history_record, if_neg hne] at hhistory
  rw [submitLine_text s c hraw]
  exact ⟨hsubmit, hhistory⟩

/-- A run with a name in capitals, a failed command whose argument text goes over two lines, a name
of no command, and a question for the history. -/
theorem history_after_start_of_bare :
    let session : Session := { directory := "/", platform := .posix, home := "/me" }
    let w : World := { files := .bare }
    let calls : List (World × Call) := [(w, .command " LS " " -l "),
      (w, .line " cat a b\n c "), (w, .command "nope" "x"), (w, .line "history")]
    Session.start .posix (some "/me") (some "/") ⟨[], [], [], [], "/"⟩ (.ok []) .bare =
        .ok session ∧
      (after ⟨session, .unlimited, w⟩ calls).session.history =
        [⟨"ls", "-l"⟩, ⟨"cat", "a b\n c"⟩] := by
  intro session w calls
  have hstart : Session.start .posix (some "/me") (some "/") ⟨[], [], [], [], "/"⟩ (.ok []) .bare =
      .ok session := rfl
  have hkept : (calls.filterMap (·.2.kept?)).map Entry.ofCommand =
      [⟨"ls", "-l"⟩, ⟨"cat", "a b\n c"⟩] := rfl
  exact ⟨hstart, ((history_after_start hstart .unlimited w calls).1).trans hkept⟩

end Shell

end PortableShell
