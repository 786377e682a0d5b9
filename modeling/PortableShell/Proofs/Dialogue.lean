import PortableShell.Program
import PortableShell.Proofs.Directory
import PortableShell.Proofs.Words

/-!
# What a dialogue does

Reading commands line by line does what submitting the lines one after the other does: no line is
left out, none is submitted twice, and nothing else is done.  Lines that only the dialogue
understands are no commands, and one of them ends it, as an interruption does.

## Main definitions

* `Program.endsDialogue`, `Program.isAside`: the lines that only the dialogue understands.
* `Program.heard`: the lines up to the end of the dialogue, and `Program.commandLines`, those of
  them that are commands.
* `Shell.afterLines`: the shell after several lines.

## Main statements

* `Program.interact_command`, `Program.interact_aside`: what one line does.
* `Program.interact_spec`: what a dialogue leaves, and what it shows before each line.
-/

namespace PortableShell

/-! ### The platform of a session -/

theorem Session.platform_changeDirectory {s s' : Session} {files : FileSystem} {path : Text}
    (h : s.changeDirectory files path = .ok s') : s'.platform = s.platform := by
  obtain ⟨target, -, h⟩ := Result.bind_eq_ok.mp h
  obtain ⟨-, rfl⟩ := Result.ite_eq_ok.mp h
  rfl

namespace Shell

/-- No command changes the platform. -/
theorem platform_submit (s : Shell) (name raw : Text) :
    (s.submit name raw).2.session.platform = s.session.platform := by
  cases hparse : Command.parse (Text.trim name) with
  | error e => rw [submit_of_parse_error hparse]
  | ok c =>
    have hrecorded : (s.recorded c (Text.trim raw)).session.platform = s.session.platform :=
      Session.platform_record s.session c.name (Text.trim raw)
    rw [submit_of_parse hparse, Prod.map_snd, id, ← hrecorded]
    rcases dispatch_cases (s.recorded c (Text.trim raw)) c (Text.trim raw)
      (echo (Text.trim name) (Text.trim raw)) with ⟨session, -, hchange, hdispatch⟩ | ⟨hsession, -⟩
    · rw [hdispatch]
      exact Session.platform_changeDirectory hchange
    · rw [hsession]

theorem platform_submitLine (s : Shell) (line : Text) :
    (s.submitLine line).2.session.platform = s.session.platform := by
  have hanswer := answer_eq s (.line line)
  rw [answer] at hanswer
  rw [hanswer]
  cases (Call.line line).words with
  | none => rfl
  | some found => exact platform_submit s found.1 found.2

/-- Blanks around a line do not matter. -/
theorem submitLine_trim (s : Shell) (line : Text) :
    s.submitLine (Text.trim line) = s.submitLine line := by
  rw [submitLine, submitLine, Text.trim_trim]

/-- The shell after lines that are submitted one after the other. -/
def afterLines (s : Shell) (lines : List Text) : Shell :=
  lines.foldl (fun s line => (s.submitLine line).2) s

end Shell

/-- The text of a prompt. -/
def Event.prompt? : Event → Option Text
  | .prompt t => some t
  | _ => none

namespace Program

/-! ### Lines that only the dialogue understands -/

/-- Whether a line ends the dialogue. -/
def endsDialogue (line : Text) : Bool :=
  let lowered := Text.lower (Text.trim line)
  lowered == "/exit".toList || lowered == "/quit".toList

/-- Whether a line asks nothing of the shell: it is blank, or asks for help or for an empty
screen. -/
def isAside (line : Text) : Bool :=
  let lowered := Text.lower (Text.trim line)
  Text.isAllBlank line || lowered == "/help".toList || lowered == "/clear".toList

/-- The lines before the first interruption or the first line that ends the dialogue. -/
def heard (typed : List (Option Text)) : List Text :=
  (typed.takeWhile fun line => line.any (! endsDialogue ·)).filterMap id

/-- The lines that are commands. -/
def commandLines (lines : List Text) : List Text :=
  lines.filter (! isAside ·)

/-- A line either ends the dialogue, or asks nothing of the shell, or is a command. -/
theorem Request.ofLine_cases (line : Text) :
    (endsDialogue line = true ∧ ofLine line = .leave) ∨
    (endsDialogue line = false ∧ isAside line = true ∧
      (ofLine line = .nothing ∨ ofLine line = .help ∨ ofLine line = .clear)) ∨
    (endsDialogue line = false ∧ isAside line = false ∧
      ofLine line = .command (Text.trim line)) := by
  cases htrim : Text.trim line with
  | nil =>
    have hblank := Text.trim_eq_nil_iff.mp htrim
    refine .inr (.inl ⟨?_, ?_, .inl ?_⟩)
    · rw [endsDialogue, htrim]
      rfl
    · rw [isAside, hblank]
      rfl
    · rw [ofLine, htrim]
      rfl
  | cons c t =>
    have hblank : Text.isAllBlank line = false := by
      rw [Bool.eq_false_iff, ne_eq, ← Text.trim_eq_nil_iff, htrim]
      exact List.cons_ne_nil c t
    simp only [endsDialogue, isAside, ofLine, hblank, htrim, List.isEmpty_cons, Bool.false_or,
      Bool.or_eq_true, Bool.or_eq_false_iff, beq_iff_eq, beq_eq_false_iff_ne]
    generalize Text.lower (c :: t) = lowered
    by_cases hleave : lowered = "/exit".toList ∨ lowered = "/quit".toList
    · rw [if_neg Bool.false_ne_true, if_pos hleave]
      exact .inl ⟨hleave, rfl⟩
    · rw [if_neg Bool.false_ne_true, if_neg hleave]
      rw [not_or] at hleave
      by_cases hhelp : lowered = "/help".toList
      · rw [if_pos hhelp]
        exact .inr (.inl ⟨hleave, .inl hhelp, .inr (.inl rfl)⟩)
      · by_cases hclear : lowered = "/clear".toList
        · rw [if_neg hhelp, if_pos hclear]
          exact .inr (.inl ⟨hleave, .inr hclear, .inr (.inr rfl)⟩)
        · rw [if_neg hhelp, if_neg hclear]
          exact .inr (.inr ⟨hleave, ⟨hhelp, hclear⟩, rfl⟩)

/-! ### One line -/

/-- What asks for a line. -/
def ask (s : Shell) : Event :=
  .prompt (s.session.platform.prompt s.session.directory)

variable {line : Text}

theorem interact_leave (h : endsDialogue line = true) (s : Shell) (rest : List (Option Text)) :
    interact s (some line :: rest) = ([ask s, .markup "[cyan]Bye.[/cyan]"], s) := by
  rcases Request.ofLine_cases line with ⟨-, hline⟩ | ⟨hends, -⟩ | ⟨hends, -⟩
  · simp only [interact, hline, ask]
  · rw [h] at hends
    cases hends
  · rw [h] at hends
    cases hends

/-- A line that asks nothing of the shell leaves it as it was, and no prompt but its own is
shown. -/
theorem interact_aside (h : endsDialogue line = false) (haside : isAside line = true) (s : Shell)
    (rest : List (Option Text)) :
    ∃ shown, shown.filterMap Event.prompt? = [] ∧
      interact s (some line :: rest) =
        (ask s :: shown ++ (interact s rest).1, (interact s rest).2) := by
  rcases Request.ofLine_cases line with ⟨hends, -⟩ | ⟨-, -, hline⟩ | ⟨-, hcommand, -⟩
  · rw [h] at hends
    cases hends
  · rcases hline with hline | hline | hline
    · refine ⟨[], rfl, ?_⟩
      simp only [interact, hline, ask, List.cons_append, List.nil_append]
    · refine ⟨[.panel Command.overview "/help"], rfl, ?_⟩
      simp only [interact, hline, ask, List.cons_append, List.nil_append]
    · refine ⟨[.clear], rfl, ?_⟩
      simp only [interact, hline, ask, List.cons_append, List.nil_append]
  · rw [haside] at hcommand
    cases hcommand

/-- A command is submitted, and its reply is shown. -/
theorem interact_command (h : endsDialogue line = false) (haside : isAside line = false)
    (s : Shell) (rest : List (Option Text)) :
    interact s (some line :: rest) =
      (ask s :: dialogueEvents (s.submitLine line).1 ++ (interact (s.submitLine line).2 rest).1,
        (interact (s.submitLine line).2 rest).2) := by
  rcases Request.ofLine_cases line with ⟨hends, -⟩ | ⟨-, hcommand, -⟩ | ⟨-, -, hline⟩
  · rw [h] at hends
    cases hends
  · rw [haside] at hcommand
    cases hcommand
  · simp only [interact, hline, ask, Shell.submitLine_trim, List.cons_append]

/-- A reply is shown without a prompt. -/
theorem prompts_dialogueEvents (r : Reply) : (dialogueEvents r).filterMap Event.prompt? = [] := by
  rw [dialogueEvents]
  cases r.clearsScreen with
  | true => rfl
  | false =>
    rw [if_neg Bool.false_ne_true, Reply.events]
    simp [Event.prompt?]

/-! ### The whole dialogue -/

theorem heard_cons_of_endsDialogue (h : endsDialogue line = true) (rest : List (Option Text)) :
    heard (some line :: rest) = [] := by
  have hstop : ¬ (some line : Option Text).any (! endsDialogue ·) = true := by simp [h]
  rw [heard, List.takeWhile_cons_of_neg hstop]
  rfl

theorem heard_cons (h : endsDialogue line = false) (rest : List (Option Text)) :
    heard (some line :: rest) = line :: heard rest := by
  have hgo : (some line : Option Text).any (! endsDialogue ·) = true := by simp [h]
  rw [heard, List.takeWhile_cons_of_pos hgo]
  rfl

theorem commandLines_cons_of_isAside (h : isAside line = true) (lines : List Text) :
    commandLines (line :: lines) = commandLines lines :=
  List.filter_cons_of_neg (by simp [h])

theorem commandLines_cons (h : isAside line = false) (lines : List Text) :
    commandLines (line :: lines) = line :: commandLines lines :=
  List.filter_cons_of_pos (by simp [h])

/-- What asks for a line after the given lines. -/
def promptAfter (s : Shell) (earlier : List Text) : Text :=
  s.session.platform.prompt (s.afterLines (commandLines earlier)).session.directory

theorem promptAfter_cons_of_isAside (h : isAside line = true) (s : Shell) (earlier : List Text) :
    promptAfter s (line :: earlier) = promptAfter s earlier := by
  rw [promptAfter, promptAfter, commandLines_cons_of_isAside h]

theorem promptAfter_cons (h : isAside line = false) (s : Shell) (earlier : List Text) :
    promptAfter s (line :: earlier) = promptAfter (s.submitLine line).2 earlier := by
  rw [promptAfter, promptAfter, commandLines_cons h, Shell.platform_submitLine]
  rfl

/-- A dialogue leaves the shell that is left by submitting, one after the other, the lines before
the first interruption or the first line that ends it, but for those that ask nothing of the shell:
the session, the processes that were to be started, the documents that were asked for, and the files
are the same.  Before each of the lines, and before the end, it shows a prompt with the directory
that has been reached by then. -/
theorem interact_spec (s : Shell) (typed : List (Option Text)) :
    (interact s typed).2 = s.afterLines (commandLines (heard typed)) ∧
      (interact s typed).1.filterMap Event.prompt? = (heard typed).inits.map (promptAfter s) := by
  induction typed generalizing s with
  | nil => exact ⟨rfl, rfl⟩
  | cons line rest ih =>
    cases line with
    | none => exact ⟨rfl, rfl⟩
    | some line =>
      cases hends : endsDialogue line with
      | true =>
        rw [interact_leave hends, heard_cons_of_endsDialogue hends]
        exact ⟨rfl, rfl⟩
      | false =>
        rw [heard_cons hends, List.inits, List.map_cons, List.map_map]
        -- the prompt for the line itself comes first on both sides
        have hask : (ask s).prompt? = some (promptAfter s []) := rfl
        cases haside : isAside line with
        | true =>
          obtain ⟨shown, hshown, hinteract⟩ := interact_aside hends haside s rest
          obtain ⟨hshell, hprompts⟩ := ih s
          rw [hinteract, commandLines_cons_of_isAside haside]
          refine ⟨hshell, ?_⟩
          rw [List.cons_append, List.filterMap_cons_some hask, List.filterMap_append, hshown,
            List.nil_append, hprompts]
          congr 2
          funext earlier
          exact (promptAfter_cons_of_isAside haside s earlier).symm
        | false =>
          obtain ⟨hshell, hprompts⟩ := ih (s.submitLine line).2
          rw [interact_command hends haside, commandLines_cons haside]
          refine ⟨hshell, ?_⟩
          rw [List.cons_append, List.filterMap_cons_some hask, List.filterMap_append,
            prompts_dialogueEvents, List.nil_append, hprompts]
          congr 2
          funext earlier
          exact (promptAfter_cons haside s earlier).symm

end Program

end PortableShell
