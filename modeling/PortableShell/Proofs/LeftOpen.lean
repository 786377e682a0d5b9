import PortableShell.Proofs.Course

/-!
# Failures that are not reported

A command reports what goes wrong, but a call of the operating system that is handed a text which
cannot be a path, or a process that breaks, is no failure that anything here reports.

## Main definitions

* `Result.FailsAs`: the results that are a failure of some kind, and `Unforeseen`, those that are a
  failure which was not reported.
* `World.Breaks`: whether a process broke between two worlds.
* `ActionOf.LeavesOpen`: whether an action fails without a report exactly in some case, or if a
  process breaks.

## Main statements

* `World.unfit_perform_iff`: which calls cannot be made.
* `Machine.isBroken_outcome`: which processes break.
* `Site.Conducts.unforeseen_iff`: what only runs processes reports everything but that one broke.
* `Procedure.unforeseen_run_iff`: where the failures of a procedure come from.
-/

namespace PortableShell

variable {ε ε' α β : Type}

/-! ### Results that are a failure of some kind -/

namespace Result

/-- Whether a result is a failure of some kind. -/
def FailsAs (kind : ε → Bool) (r : Except ε α) : Prop :=
  ∃ e, r = .error e ∧ kind e = true

variable {kind : ε → Bool}

@[simp]
theorem not_failsAs_ok (a : α) : ¬ FailsAs kind (.ok a : Except ε α) := by
  rintro ⟨_, h, -⟩
  cases h

@[simp]
theorem failsAs_error_iff {e : ε} : FailsAs kind (.error e : Except ε α) ↔ kind e = true := by
  constructor
  · rintro ⟨_, h, he⟩
    cases h
    exact he
  · exact fun he => ⟨e, rfl, he⟩

@[simp]
theorem failsAs_map_iff {r : Except ε α} {f : α → β} :
    FailsAs kind (r.map f) ↔ FailsAs kind r := by
  cases r <;> simp [Except.map]

@[simp]
theorem failsAs_mapError_iff {f : ε → ε'} {kind : ε' → Bool} {r : Except ε α} :
    FailsAs kind (r.mapError f) ↔ FailsAs (fun e => kind (f e)) r := by
  cases r with
  | ok a => exact iff_of_false (not_failsAs_ok a) (not_failsAs_ok a)
  | error e =>
    have hafter : FailsAs (fun e => kind (f e)) (.error e : Except ε α) ↔ kind (f e) = true :=
      failsAs_error_iff
    exact failsAs_error_iff.trans hafter.symm

theorem failsAs_bind_iff {r : Except ε α} {next : α → Except ε β} :
    FailsAs kind (r >>= next) ↔ FailsAs kind r ∨ ∃ a, r = .ok a ∧ FailsAs kind (next a) := by
  cases r <;> simp [bind, Except.bind]

end Result

open Result (FailsAs)

/-- The second of two actions fails if the first one did not. -/
theorem ActionOf.failsAs_on_bind_iff {kind : ε → Bool} {act : ActionOf ε α}
    {next : α → ActionOf ε β} {w : World} :
    FailsAs kind (on (act >>= next : ActionOf ε β) w).1 ↔ FailsAs kind (act.on w).1 ∨
      ∃ a w', act.on w = (.ok a, w') ∧ FailsAs kind ((next a).on w').1 := by
  rw [on_bind]
  rcases act.on w with ⟨e | a, w'⟩
  · simp
  · constructor
    · exact fun h => .inr ⟨a, w', rfl, h⟩
    · rintro (h | ⟨_, _, hon, h⟩)
      · exact absurd h (Result.not_failsAs_ok a)
      · cases hon
        exact h

/-! ### Failures that no command expects -/

/-- Whether a failure is none that a command reports. -/
def Failure.isUnforeseen : Failure → Bool
  | .reported _ => false
  | _ => true

/-- Whether a result is a failure that was not reported. -/
def Unforeseen (r : Except Failure α) : Prop :=
  FailsAs Failure.isUnforeseen r

theorem not_unforeseen_ok (a : α) : ¬ Unforeseen (.ok a : Except Failure α) :=
  Result.not_failsAs_ok a

theorem not_unforeseen_reported (e : ShellError) :
    ¬ Unforeseen (.error (.reported e) : Except Failure α) :=
  fun h => Bool.false_ne_true (Result.failsAs_error_iff.mp h)

theorem unforeseen_error_iff {f : Failure} :
    Unforeseen (.error f : Except Failure α) ↔ f.isUnforeseen = true :=
  Result.failsAs_error_iff

theorem not_unforeseen_ofReported (r : Except ShellError α) : ¬ Unforeseen (ofReported r) := by
  cases r with
  | ok a => exact not_unforeseen_ok a
  | error e => exact not_unforeseen_reported e

theorem unforeseen_map_iff {r : Except Failure α} {f : α → β} :
    Unforeseen (r.map f) ↔ Unforeseen r :=
  Result.failsAs_map_iff

theorem unforeseen_bind_iff {r : Except Failure α} {next : α → Except Failure β} :
    Unforeseen (r >>= next) ↔ Unforeseen r ∨ ∃ a, r = .ok a ∧ Unforeseen (next a) :=
  Result.failsAs_bind_iff

/-! ### Calls that cannot be made -/

/-- Whether an error says that a call cannot be made at all. -/
def SystemError.isUnfit : SystemError → Bool
  | .unfit _ => true
  | _ => false

/-- Only that is not reported. -/
@[simp]
theorem Failure.isUnforeseen_ofSystem (report : SystemError → ShellError) (e : SystemError) :
    (ofSystem report e).isUnforeseen = e.isUnfit := by
  cases e <;> rfl

theorem unforeseen_adapt_iff {act : ActionOf SystemError α} {report : SystemError → ShellError}
    {w : World} :
    Unforeseen (ActionOf.on (act.adapt (Failure.ofSystem report) : Action α) w).1 ↔
      FailsAs SystemError.isUnfit (act.on w).1 := by
  rw [Unforeseen, ActionOf.on_adapt, Result.failsAs_mapError_iff]
  simp only [Failure.isUnforeseen_ofSystem]

namespace World

variable {w w' : World} {path : Text}

theorem isUnfit_of_fault {call : SystemCall} {achieved : Nat} {e : SystemError}
    (h : w.fault? call achieved path = some e) : e.isUnfit = false := by
  rw [fault?, Option.map_eq_some_iff] at h
  obtain ⟨fault, -, rfl⟩ := h
  cases fault <;> rfl

/-- A call cannot be made exactly if the machine refuses a text that it is handed. -/
theorem unfit_perform_iff {call : SystemCall} {achieved : Nat} {handed : List Text}
    {act : FileSystem → Except SystemError FileSystem}
    (hact : ∀ files e, act files = .error e → e.isUnfit = false) :
    FailsAs SystemError.isUnfit ((perform call achieved path handed act).on w).1 ↔
      handed.any w.machine.refuses = true := by
  rw [on_perform]
  by_cases hrefuses : handed.any w.machine.refuses = true
  · rw [if_pos hrefuses, Result.failsAs_error_iff]
    exact iff_of_true rfl hrefuses
  · rw [if_neg hrefuses]
    refine iff_of_false ?_ hrefuses
    split
    · rename_i hfault
      simp [isUnfit_of_fault hfault]
    · rename_i hfails
      simp [hact _ _ hfails]
    · exact Result.not_failsAs_ok _

theorem isUnfit_of_checkParent {files written : FileSystem} {e : SystemError}
    (h : (do checkParent files path; return written) = Except.error e) : e.isUnfit = false := by
  rw [checkParent] at h
  split at h <;> cases h <;> rfl

theorem unfit_createFile_iff :
    FailsAs SystemError.isUnfit ((createFile path).on w).1 ↔ w.machine.refuses path = true := by
  rw [createFile, unfit_perform_iff fun _ _ => isUnfit_of_checkParent, List.any_cons,
    List.any_nil, Bool.or_false]

theorem unfit_createTemporary_iff :
    FailsAs SystemError.isUnfit ((createTemporary path).on w).1 ↔
      w.machine.refuses path = true := by
  rw [createTemporary, unfit_perform_iff fun _ _ => isUnfit_of_checkParent, List.any_cons,
    List.any_nil, Bool.or_false]

theorem not_unfit_append (bytes : Utf8.Bytes) :
    ¬ FailsAs SystemError.isUnfit ((append path bytes).on w).1 := by
  rw [append, ActionOf.on_get_bind, unfit_perform_iff (fun _ _ h => by cases h)]
  exact Bool.false_ne_true

theorem not_unfit_changeMode (mode : Nat) :
    ¬ FailsAs SystemError.isUnfit ((changeMode path mode).on w).1 := by
  rw [changeMode, ActionOf.on_get_bind, unfit_perform_iff (fun _ _ h => by cases h)]
  exact Bool.false_ne_true

theorem unfit_replaceFile_iff {source target : Text} :
    FailsAs SystemError.isUnfit ((replaceFile source target).on w).1 ↔
      w.machine.refuses target = true := by
  rw [replaceFile, unfit_perform_iff, List.any_cons, List.any_nil, Bool.or_false]
  intro files e h
  split at h
  · cases h
    rfl
  · split at h <;> cases h
    rfl

end World

/-! ### Processes that break -/

/-- Whether starting a process, or waiting for it, goes wrong in a way that is not foreseen. -/
def ChildOutcome.isBroken : ChildOutcome → Bool
  | .broken _ _ => true
  | _ => false

theorem ChildOutcome.isBroken_iff {o : ChildOutcome} :
    o.isBroken = true ↔ ∃ begun e, o = .broken begun e := by
  cases o <;> simp [isBroken]

/-- A process breaks if the machine refuses one of its texts or, once it is started, cannot wait for
it, and if that is in store for it. -/
theorem Machine.isBroken_outcome (m : Machine) (limit : TimeLimit) (i : Invocation)
    (stored : ChildOutcome) :
    (m.outcome limit i stored).isBroken = ((i.directory :: i.argv).any m.refuses ||
      (stored.started && ! m.canWait limit) || stored.isBroken) := by
  rw [outcome]
  split
  · rename_i hrefuses
    rw [hrefuses]
    rfl
  · rename_i hrefuses
    rw [Bool.not_eq_true] at hrefuses
    rw [hrefuses, Bool.false_or]
    split
    · rename_i hwaits
      rw [hwaits]
      rfl
    · rename_i hwaits
      rw [Bool.not_eq_true] at hwaits
      rw [hwaits, Bool.false_or]

namespace World

variable {w w' : World}

/-- Whether a process that was to be started between two worlds broke. -/
def Breaks (w w' : World) : Prop :=
  ∃ made, w'.attempts = w.attempts ++ made ∧ ∃ a ∈ made, a.outcome.isBroken = true

theorem not_breaks_of_edits (h : w.EditedTo w') : ¬ w.Breaks w' := by
  rintro ⟨made, hmade, a, ha, -⟩
  rw [h.attempts_eq, List.self_eq_append_right] at hmade
  rw [hmade] at ha
  cases ha

/-- What starts no process may come before. -/
theorem breaks_congr {w₁ : World} (h : w.EditedTo w₁) : w.Breaks w' ↔ w₁.Breaks w' := by
  rw [Breaks, Breaks, h.attempts_eq]

end World

/-- What only runs processes reports everything but that one of them broke. -/
theorem Site.Conducts.unforeseen_iff {s : Site} {tolerates : List Text → ChildResult → Bool}
    {act : Action α} (h : s.Conducts tolerates act) (w : World) :
    Unforeseen (act.on w).1 ↔ w.Breaks (act.on w).2 := by
  obtain ⟨argvs, hafter, haccount⟩ := h w
  have hmade := w.attempts_afterAll s.limit (s.invocations argvs)
  rw [← hafter] at hmade
  constructor
  · rintro ⟨f, hf, hunforeseen⟩
    rw [hf] at haccount
    obtain ⟨earlier, last, hlast, -, -, habout⟩ := haccount
    refine ⟨_, hmade, last, by simp [hlast], ?_⟩
    rw [Failure.IsAbout] at habout
    split at habout
    · rename_i hbroken
      rw [hbroken]
      rfl
    · obtain ⟨e, rfl, -⟩ := habout
      cases hunforeseen
  · rintro ⟨made, hmade', a, ha, hbroken⟩
    obtain rfl := List.append_cancel_left (hmade'.symm.trans hmade)
    obtain ⟨begun, e, houtcome⟩ := ChildOutcome.isBroken_iff.mp hbroken
    have hfails : ¬ a.passes tolerates = true := by
      rw [Attempt.passes, houtcome]
      exact Bool.false_ne_true
    rcases hresult : (act.on w).1 with f | result <;> rw [hresult] at haccount
    · obtain ⟨earlier, last, hlast, hearlier, -, habout⟩ := haccount
      rw [hlast, List.mem_append, List.mem_singleton] at ha
      rcases ha with ha | rfl
      · exact absurd (hearlier a ha) hfails
      · rw [habout.eq_of_broken houtcome]
        exact ⟨_, rfl, rfl⟩
    · exact absurd (haccount a ha) hfails

/-! ### Putting actions together -/

/-- Whether an action ends in a failure that it does not report exactly if `P` holds or a process
breaks. -/
def ActionOf.LeavesOpen (act : Action α) (w : World) (P : Prop) : Prop :=
  Unforeseen (act.on w).1 ↔ P ∨ w.Breaks (act.on w).2

namespace ActionOf.LeavesOpen

variable {act : Action α} {w : World} {P : Prop}

theorem of_conducts {s : Site} {tolerates : List Text → ChildResult → Bool}
    (h : s.Conducts tolerates act) (hP : ¬ P) : act.LeavesOpen w P := by
  rw [LeavesOpen, h.unforeseen_iff, or_iff_right hP]

theorem of_edits (h : act.Edits) (hP : Unforeseen (act.on w).1 ↔ P) : act.LeavesOpen w P := by
  rw [LeavesOpen, hP, or_iff_left (World.not_breaks_of_edits (h w))]

theorem congr {Q : Prop} (h : act.LeavesOpen w P) (hP : P ↔ Q) : act.LeavesOpen w Q := by
  rwa [LeavesOpen, ← hP]

theorem bind_pure (h : act.LeavesOpen w P) (f : α → β) :
    LeavesOpen (act >>= fun a => pure (f a)) w P := by
  rwa [LeavesOpen, on_bind_pure, unforeseen_map_iff]

theorem get_bind {next : World → Action α} (h : (next w).LeavesOpen w P) :
    LeavesOpen (get >>= next) w P :=
  h

/-- What starts no process and leaves something open may come before what only runs processes. -/
theorem edits_bind_conducts {s : Site} {tolerates : List Text → ChildResult → Bool}
    {next : α → Action β} (h : act.Edits) (hP : Unforeseen (act.on w).1 ↔ P)
    (hnext : ∀ a, s.Conducts tolerates (next a)) : LeavesOpen (act >>= next) w P := by
  have hedits := h w
  rcases hon : act.on w with ⟨f | a, w'⟩ <;> rw [hon] at hP hedits
  · rw [LeavesOpen, on_bind_of_error hon, or_iff_left (World.not_breaks_of_edits hedits), ← hP,
      unforeseen_error_iff, unforeseen_error_iff]
  · have hclosed : ¬ P := fun hopen => not_unforeseen_ok a (hP.mpr hopen)
    rw [LeavesOpen, on_bind_of_ok hon, (hnext a).unforeseen_iff, or_iff_right hclosed,
      World.breaks_congr hedits]

end ActionOf.LeavesOpen

/-- A procedure leaves open what its first part leaves open, and if this makes out what is to be
done, what the second one does. -/
theorem Procedure.unforeseen_run_iff {p : Procedure} {s : Site} {raw : Text} {w : World}
    {P : p.Input → Prop}
    (h : ∀ input, p.prepare s.session w.files raw = .ok input →
      (p.perform s input).LeavesOpen w (P input)) :
    (p.run s raw).LeavesOpen w (Unforeseen (p.prepare s.session w.files raw) ∨
      ∃ input, p.prepare s.session w.files raw = .ok input ∧ P input) := by
  rw [ActionOf.LeavesOpen, Procedure.run, ActionOf.on_currentFiles_bind, ActionOf.on_bind,
    ActionOf.on_lift]
  cases hprepare : p.prepare s.session w.files raw with
  | ok input =>
    have hperform := h input hprepare
    rw [ActionOf.LeavesOpen] at hperform
    simp [hperform, not_unforeseen_ok]
  | error f =>
    have hsame : ¬ w.Breaks w := World.not_breaks_of_edits (refl w)
    simp [hsame, unforeseen_error_iff]

end PortableShell
