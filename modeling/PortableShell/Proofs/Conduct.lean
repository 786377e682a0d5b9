import PortableShell.Procedure
import PortableShell.Proofs.Action

/-!
# Processes and the account given of them

A command that runs native tools gives an account of them: it ends in a value only if every
process passed, and its failure is about the last process that was to be started.  Which processes
pass is a parameter: the ones that ended without an error, and those that are tolerated.

## Main definitions

* `World.afterAll`, `World.attemptsOf`: the world after several processes were to be started one
  after the other, and what came of each of them.
* `World.stored`: what is in store for a process that comes after others.
* `Attempt.passes`: whether a process did what it was started for.
* `Accounts`: whether an ending is the right account of the processes behind it.
* `Site.Conducts`: the actions that do nothing but run processes in the directory of the session
  and give the right account of them.

## Main statements

* `World.attempts_afterAll`, `World.startedCount_afterAll`: what is written down of processes.
* `Site.Conducts.bind`, `Site.Conducts.launch_bind`: how such actions are put together.
* `Site.world_launch_bind`: a single process is all that happens if nothing else follows from it.
* `Site.on_launchOr`: what a tool ends in, by what comes of its process.
-/

namespace PortableShell

variable {α β : Type}

/-! ### Several processes -/

namespace World

variable (limit : TimeLimit)

/-- The world after processes were to be started one after the other. -/
def afterAll (w : World) (is : List Invocation) : World :=
  is.foldl (·.afterAttempt limit) w

/-- Processes that are to be started one after the other, each with what comes of it. -/
def attemptsOf (w : World) : List Invocation → List Attempt
  | [] => []
  | i :: is => ⟨i, w.outcomeOf limit i⟩ :: attemptsOf (w.afterAttempt limit i) is

theorem afterAll_append (w : World) (is js : List Invocation) :
    w.afterAll limit (is ++ js) = (w.afterAll limit is).afterAll limit js :=
  List.foldl_append

theorem attemptsOf_append (w : World) (is js : List Invocation) :
    w.attemptsOf limit (is ++ js) =
      w.attemptsOf limit is ++ (w.afterAll limit is).attemptsOf limit js := by
  induction is generalizing w with
  | nil => rfl
  | cons i is ih => exact congrArg _ (ih (w.afterAttempt limit i))

/-- What is in store for the process that is to be started after `k` others. -/
def stored (w : World) (k : Nat) : ChildOutcome :=
  w.children[k]?.getD (.exits none 0)

/-- What comes of a process that the machine takes the texts of and can wait for is what is in store
for it. -/
theorem outcomeOf_eq_nextOutcome {w : World} {argv : List Text} {directory : Text}
    (hwait : w.machine.canWait limit = true)
    (htakes : ∀ t ∈ directory :: argv, w.machine.refuses t = false) :
    w.outcomeOf limit ⟨argv, directory⟩ = w.nextOutcome := by
  have hrefuses : ¬ (directory :: argv).any w.machine.refuses = true := by
    simpa only [List.any_eq_true, not_exists, not_and, Bool.not_eq_true] using htakes
  rw [outcomeOf, Machine.outcome, if_neg hrefuses, hwait, Bool.not_true, Bool.and_false]
  rfl

/-- Every process is written down with what came of it. -/
theorem attempts_afterAll (w : World) (is : List Invocation) :
    (w.afterAll limit is).attempts = w.attempts ++ w.attemptsOf limit is := by
  induction is generalizing w with
  | nil => simp [afterAll, attemptsOf]
  | cons i is ih =>
    rw [show w.afterAll limit (i :: is) = (w.afterAttempt limit i).afterAll limit is from rfl, ih]
    simp [afterAttempt, attemptsOf]

/-- Running processes changes no file. -/
@[simp]
theorem files_afterAll (w : World) (is : List Invocation) :
    (w.afterAll limit is).files = w.files := by
  induction is generalizing w with
  | nil => rfl
  | cons i is ih => exact ih (w.afterAttempt limit i)

end World

/-! ### Which processes pass -/

/-- Whether a process did what it was started for: it was started, it ended in time, and it ended
without an error or in a way that is tolerated. -/
def Attempt.passes (tolerates : List Text → ChildResult → Bool) (a : Attempt) : Bool :=
  match a.outcome with
  | .exits output code =>
    let result : ChildResult := ⟨output.getD [], code⟩
    result.ok || tolerates a.invocation.argv result
  | _ => false

/-- What a process printed, if it was started at all and printed anything. -/
def ChildOutcome.printed : ChildOutcome → Option Text
  | .exits output _ => some (output.getD [])
  | .overran output => output
  | .refused _ | .broken _ _ => none

/-- The kinds of error that say that a command was not carried out for a reason that shows before
anything is done: an argument, a path, or the platform. -/
def ErrorKind.isRefusal (k : ErrorKind) : Bool :=
  k.lineage.any fun k => k matches
    .missingArgument | .tooManyArguments | .invalidArgument | .invalidPath | .unsupportedOperation

/-- Whether a failure is about a process: it shows what the process printed, and says that a tool
failed, or it is what nobody foresaw of the process. -/
def Failure.IsAbout (f : Failure) (a : Attempt) : Prop :=
  match a.outcome with
  | .broken _ e => f = .system e
  | outcome =>
    ∃ e : ShellError, f = .reported e ∧ e.output = outcome.printed ∧ e.kind.isRefusal = false

theorem Failure.IsAbout.isRefusal_eq_false {e : ShellError} {a : Attempt}
    (h : (Failure.reported e).IsAbout a) : e.kind.isRefusal = false := by
  rw [Failure.IsAbout] at h
  split at h
  · cases h
  · obtain ⟨_, heq, -, hkind⟩ := h
    cases heq
    exact hkind

theorem Failure.IsAbout.eq_of_broken {f : Failure} {a : Attempt} {begun : Bool} {e : SystemError}
    (h : f.IsAbout a) (hbroken : a.outcome = .broken begun e) : f = .system e := by
  rwa [Failure.IsAbout, hbroken] at h

/-- Whether an ending is the right account of the processes behind it: a value if all of them
pass, and otherwise a failure about the last one, which is the only one that does not. -/
def Accounts (tolerates : List Text → ChildResult → Bool) (made : List Attempt) :
    Except Failure α → Prop
  | .ok _ => ∀ a ∈ made, a.passes tolerates = true
  | .error f => ∃ earlier last, made = earlier ++ [last] ∧
      (∀ a ∈ earlier, a.passes tolerates = true) ∧ last.passes tolerates = false ∧ f.IsAbout last

/-- A failure about a process that does not pass accounts for that process alone. -/
theorem Accounts.singleton {tolerates : List Text → ChildResult → Bool} {a : Attempt} {f : Failure}
    (hpasses : a.passes tolerates = false) (habout : f.IsAbout a) :
    Accounts tolerates [a] (.error f : Except Failure α) :=
  ⟨[], a, rfl, by simp, hpasses, habout⟩

/-- What happens before and passes does not count against a later account. -/
theorem Accounts.append {tolerates : List Text → ChildResult → Bool} {earlier later : List Attempt}
    {r : Except Failure α} (h : Accounts tolerates later r)
    (hearlier : ∀ a ∈ earlier, a.passes tolerates = true) :
    Accounts tolerates (earlier ++ later) r := by
  cases r with
  | ok a => exact fun b hb => (List.mem_append.mp hb).elim (hearlier b) (h b)
  | error f =>
    obtain ⟨before, last, rfl, hbefore, hlast, habout⟩ := h
    refine ⟨earlier ++ before, last, by simp, ?_, hlast, habout⟩
    exact fun b hb => (List.mem_append.mp hb).elim (hearlier b) (hbefore b)

theorem Accounts.map {tolerates : List Text → ChildResult → Bool} {made : List Attempt}
    {r : Except Failure α} (h : Accounts tolerates made r) (f : α → β) :
    Accounts tolerates made (r.map f) := by
  cases r with
  | ok a => exact h
  | error e => exact h

namespace Site

/-! ### Conducting processes -/

/-- The processes with the given arguments, in the directory of the session. -/
def invocations (s : Site) (argvs : List (List Text)) : List Invocation :=
  argvs.map fun argv => ⟨argv, s.directory⟩

theorem invocations_append (s : Site) (argvs later : List (List Text)) :
    s.invocations (argvs ++ later) = s.invocations argvs ++ s.invocations later :=
  List.map_append

/-- Whether an action does nothing but run processes in the directory of the session, and gives
the right account of them. -/
def Conducts (s : Site) (tolerates : List Text → ChildResult → Bool) (act : Action α) : Prop :=
  ∀ w, ∃ argvs, (act.on w).2 = w.afterAll s.limit (s.invocations argvs) ∧
    Accounts tolerates (w.attemptsOf s.limit (s.invocations argvs)) (act.on w).1

namespace Conducts

variable {s : Site} {tolerates : List Text → ChildResult → Bool}

theorem pure (a : α) : s.Conducts tolerates (Pure.pure a) :=
  fun _ => ⟨[], rfl, fun _ h => nomatch h⟩

theorem bind {act : Action α} {next : α → Action β} (h : s.Conducts tolerates act)
    (hnext : ∀ a, s.Conducts tolerates (next a)) : s.Conducts tolerates (act >>= next) := by
  intro w
  obtain ⟨argvs, hafter, haccount⟩ := h w
  rcases hact : act.on w with ⟨_ | a, w'⟩
  · rw [ActionOf.on_bind_of_error hact]
    rw [hact] at hafter haccount
    exact ⟨argvs, hafter, haccount⟩
  · rw [ActionOf.on_bind_of_ok hact]
    rw [hact] at hafter haccount
    obtain rfl : w' = _ := hafter
    obtain ⟨later, hlater, haccount'⟩ := hnext a _
    refine ⟨argvs ++ later, ?_, ?_⟩
    · rw [hlater, invocations_append, World.afterAll_append]
    · rw [invocations_append, World.attemptsOf_append]
      exact haccount'.append haccount

theorem ite {c : Prop} [Decidable c] {act other : Action α} (h : s.Conducts tolerates act)
    (hother : s.Conducts tolerates other) : s.Conducts tolerates (if c then act else other) := by
  split
  · exact h
  · exact hother

theorem lift_bind {r : Except Failure α} {a : α} (h : r = .ok a) {next : α → Action β}
    (hnext : s.Conducts tolerates (next a)) : s.Conducts tolerates (liftM r >>= next) := by
  rw [h]
  exact hnext

theorem get_bind {next : World → Action α} (h : ∀ w, s.Conducts tolerates (next w)) :
    s.Conducts tolerates (get >>= next) :=
  fun w => h w w

theorem currentFiles_bind {next : FileSystem → Action α}
    (h : ∀ files, s.Conducts tolerates (next files)) :
    s.Conducts tolerates (World.currentFiles >>= next) :=
  fun w => h w.files w

/-- One process and what follows from its result: if the process passes, what follows conducts the
rest, and if not, it is a failure that shows the output. -/
theorem launch_bind {argv : List Text} {next : ChildResult → Action α}
    (hpass : ∀ r : ChildResult, (r.ok || tolerates argv r) = true →
      s.Conducts tolerates (next r))
    (hfail : ∀ r : ChildResult, (r.ok || tolerates argv r) = false →
      ∃ kind message, kind.isRefusal = false ∧
        ∀ w, (next r).on w = (.error (.reported ⟨kind, message, some r.output⟩), w)) :
    s.Conducts tolerates (s.launch argv >>= next) := by
  intro w
  let i : Invocation := ⟨argv, s.directory⟩
  have hstart : (s.launch argv).on w =
      (World.conclude s.limit i (w.outcomeOf s.limit i), w.afterAttempt s.limit i) :=
    World.on_start _ _ _
  have hmade : w.attemptsOf s.limit (s.invocations [argv]) = [⟨i, w.outcomeOf s.limit i⟩] := rfl
  cases houtcome : w.outcomeOf s.limit i with
  | exits output code =>
    let r : ChildResult := ⟨output.getD [], code⟩
    rw [houtcome] at hstart hmade
    rw [ActionOf.on_bind_of_ok hstart]
    cases hr : r.ok || tolerates argv r with
    | true =>
      obtain ⟨later, hlater, haccount⟩ := hpass r hr (w.afterAttempt s.limit i)
      have hpassed : ∀ a ∈ w.attemptsOf s.limit (s.invocations [argv]),
          a.passes tolerates = true := by
        rw [hmade]
        simpa [Attempt.passes] using hr
      exact ⟨argv :: later, hlater, haccount.append hpassed⟩
    | false =>
      obtain ⟨kind, message, hkind, hnext⟩ := hfail r hr
      rw [hnext]
      refine ⟨[argv], rfl, ?_⟩
      rw [hmade]
      exact .singleton hr ⟨_, rfl, rfl, hkind⟩
  | refused reason =>
    rw [houtcome] at hstart hmade
    rw [ActionOf.on_bind_of_error hstart]
    refine ⟨[argv], rfl, ?_⟩
    rw [hmade]
    exact .singleton rfl ⟨_, rfl, rfl, rfl⟩
  | overran output =>
    rw [houtcome] at hstart hmade
    rw [ActionOf.on_bind_of_error hstart]
    refine ⟨[argv], rfl, ?_⟩
    rw [hmade]
    exact .singleton rfl ⟨_, rfl, rfl, rfl⟩
  | broken begun e =>
    rw [houtcome] at hstart hmade
    rw [ActionOf.on_bind_of_error hstart]
    refine ⟨[argv], rfl, ?_⟩
    rw [hmade]
    exact .singleton rfl rfl

/-- A tool that may end with any exit code. -/
theorem launch {argv : List Text} (h : ∀ r, tolerates argv r = true) :
    s.Conducts tolerates (s.launch argv) := by
  rw [← bind_pure (s.launch argv)]
  exact launch_bind (fun _ _ => pure _) fun r hr => by simp [h] at hr

/-- A tool that counts only if it ends without an error. -/
theorem launch_ite {argv : List Text} {answer : ChildResult → α} {failure : ChildResult → Failure}
    (h : ∀ r, tolerates argv r = false)
    (hfailure : ∀ r, ∃ kind message, kind.isRefusal = false ∧
      failure r = .reported ⟨kind, message, some r.output⟩) :
    s.Conducts tolerates (do
      let r ← s.launch argv
      if r.ok then Pure.pure (answer r) else throw (failure r)) := by
  refine launch_bind (fun r hr => ?_) fun r hr => ?_
  · have hok : r.ok = true := by simpa [h] using hr
    rw [if_pos hok]
    exact pure _
  · have hok : ¬ r.ok = true := by simpa [h] using hr
    obtain ⟨kind, message, hkind, hreport⟩ := hfailure r
    refine ⟨kind, message, hkind, fun w => ?_⟩
    rw [if_neg hok, hreport, ActionOf.on_throw]

/-- A tool whose output counts only if it ends without an error. -/
theorem launchOr {kind : ErrorKind} {failure : Text} {argv : List Text}
    (hkind : kind.isRefusal = false) (h : ∀ r, tolerates argv r = false) :
    s.Conducts tolerates (s.launchOr kind failure argv) :=
  launch_ite h fun _ => ⟨kind, failure, hkind, rfl⟩

/-- A tool that failed if it ends with an error. -/
theorem launchChecked {failure : Text} {argv : List Text} (h : ∀ r, tolerates argv r = false) :
    s.Conducts tolerates (s.launchChecked failure argv) :=
  launchOr rfl h

end Conducts

/-- If what follows from the result of a process changes nothing, all that happens is that the
process was to be started. -/
theorem world_launch_bind {s : Site} {next : ChildResult → Action α}
    (hnext : ∀ r, (next r).Reads) (argv : List Text) (w : World) :
    ((s.launch argv >>= next : Action α).on w).2 =
      w.afterAttempt s.limit ⟨argv, s.directory⟩ := by
  let i : Invocation := ⟨argv, s.directory⟩
  have hstart : (s.launch argv).on w =
      (World.conclude s.limit i (w.outcomeOf s.limit i), w.afterAttempt s.limit i) :=
    World.on_start _ _ _
  rcases hresult : World.conclude s.limit i (w.outcomeOf s.limit i) with f | r <;>
    rw [hresult] at hstart
  · rw [ActionOf.on_bind_of_error hstart]
  · rw [ActionOf.on_bind_of_ok hstart, ← hnext r]

/-- If what follows from the result of a process is told from this result alone, it is told from
what comes of the process. -/
theorem on_launch_bind {s : Site} {next : ChildResult → Action α}
    {result : ChildResult → Except Failure α} (hnext : ∀ r w, (next r).on w = (result r, w))
    (argv : List Text) (w : World) :
    (s.launch argv >>= next : Action α).on w =
      (World.conclude s.limit ⟨argv, s.directory⟩ (w.outcomeOf s.limit ⟨argv, s.directory⟩) >>=
        result, w.afterAttempt s.limit ⟨argv, s.directory⟩) := by
  let i : Invocation := ⟨argv, s.directory⟩
  have hstart : (s.launch argv).on w =
      (World.conclude s.limit i (w.outcomeOf s.limit i), w.afterAttempt s.limit i) :=
    World.on_start _ _ _
  rw [ActionOf.on_bind, hstart]
  cases World.conclude s.limit i (w.outcomeOf s.limit i) with
  | error f => rfl
  | ok r => exact hnext r _

/-- What a tool whose output counts only if it ends without an error ends in. -/
theorem on_launchOr (s : Site) (kind : ErrorKind) (failure : Text) (argv : List Text) (w : World) :
    (s.launchOr kind failure argv).on w =
      (World.conclude s.limit ⟨argv, s.directory⟩ (w.outcomeOf s.limit ⟨argv, s.directory⟩) >>=
          fun r =>
            if r.ok then .ok r.output else .error (.reported ⟨kind, failure, some r.output⟩),
        w.afterAttempt s.limit ⟨argv, s.directory⟩) := by
  refine on_launch_bind (fun r w => ?_) argv w
  cases r.ok <;> rfl

end Site

end PortableShell
