import PortableShell.Proofs.Conduct

/-!
# The course of a command

A command first does what it does itself, which is to change files and to ask for documents, and
only then runs native tools.  It never goes back from the second part to the first, and a refusal
comes before both.

## Main definitions

* `ActionOf.Edits`: the actions that start no process.
* `ActionOf.Refrains`: the actions that do nothing before a refusal.
* `Quiet`: the actions that do neither.
* `Site.Performs`: the actions that take the course described above.

## Main statements

* `ActionOf.Edits.bind_conducts`: what starts no process may come before what does nothing else.
* `Site.Performs.run`, `ActionOf.Refrains.run`: a procedure takes that course, and does nothing
  before a refusal, if its second part does.
-/

namespace PortableShell

variable {ε ε' α β : Type}

/-! ### Actions that start no process -/

/-- Whether a world is another one but for its files and the documents that were asked for. -/
def World.EditedTo (w w' : World) : Prop :=
  w' = { w with files := w'.files, requests := w'.requests }

instance : IsPreorder World World.EditedTo where
  refl _ := rfl
  trans w w' w'' h h' := by rw [World.EditedTo, h', h]

theorem World.EditedTo.attempts_eq {w w' : World} (h : w.EditedTo w') :
    w'.attempts = w.attempts := by
  rw [h]

theorem World.EditedTo.startedCount_eq {w w' : World} (h : w.EditedTo w') :
    w'.startedCount = w.startedCount := by
  rw [h]

theorem World.EditedTo.machine_eq {w w' : World} (h : w.EditedTo w') : w'.machine = w.machine := by
  rw [h]

theorem World.EditedTo.fault?_eq {w w' : World} (h : w.EditedTo w') (call : SystemCall)
    (achieved : Nat) (path : Text) :
    w'.fault? call achieved path = w.fault? call achieved path := by
  rw [h]
  rfl

/-- Whether an action starts no process. -/
abbrev ActionOf.Edits (act : ActionOf ε α) : Prop :=
  act.Within World.EditedTo

theorem World.edits_perform (call : SystemCall) (achieved : Nat) (path : Text) (handed : List Text)
    (act : FileSystem → Except SystemError FileSystem) :
    (perform call achieved path handed act).Edits :=
  .perform fun _ _ _ => rfl

theorem World.edits_createDirectories (path : Text) : (createDirectories path).Edits :=
  .createDirectories fun _ w _ _ _ => edits_perform _ _ _ _ _ w

theorem World.edits_append (path : Text) (bytes : Utf8.Bytes) : (append path bytes).Edits :=
  .append fun _ => rfl

/-! ### Actions that do nothing before a refusal -/

/-- Whether an action leaves the world as it was if it ends in a refusal. -/
def ActionOf.Refrains (act : Action α) : Prop :=
  ∀ w e, (act.on w).1 = .error (.reported e) → e.kind.isRefusal = true → (act.on w).2 = w

namespace ActionOf.Refrains

theorem of_reads {act : Action α} (h : act.Reads) : act.Refrains :=
  fun w _ _ _ => (h w).symm

theorem get_bind {next : World → Action α} (h : ∀ w, (next w).Refrains) :
    Refrains (get >>= next) :=
  fun w => h w w

theorem currentFiles_bind {next : FileSystem → Action α} (h : ∀ files, (next files).Refrains) :
    Refrains (World.currentFiles >>= next) :=
  fun w => h w.files w

theorem bind_pure {act : Action α} (h : act.Refrains) (f : α → β) :
    Refrains (act >>= fun a => pure (f a)) := by
  intro w e he hkind
  rw [on_bind_pure] at he ⊢
  exact h w e (Result.map_eq_error.mp he) hkind

/-- What only looks may come before such an action. -/
theorem reads_bind {act : Action α} {next : α → Action β} (h : act.Reads)
    (hnext : ∀ a, (next a).Refrains) : Refrains (act >>= next) := by
  intro w e he hkind
  have hsame := h w
  rcases hon : act.on w with ⟨f | a, w'⟩ <;> rw [hon] at hsame
  · rw [on_bind_of_error hon]
    exact hsame.symm
  · obtain rfl : w = w' := hsame
    rw [on_bind_of_ok hon] at he ⊢
    exact hnext a w e he hkind

/-- A procedure does nothing before a refusal if its second part does not. -/
theorem run {p : Procedure} {s : Site} {raw : Text} (h : ∀ input, (p.perform s input).Refrains) :
    (p.run s raw).Refrains :=
  .currentFiles_bind fun _ => .reads_bind (fun _ => rfl) h

end ActionOf.Refrains

/-- Whether an action starts no process and does nothing before a refusal. -/
structure Quiet (act : Action α) : Prop where
  edits : act.Edits
  refrains : act.Refrains

namespace Quiet

theorem of_reads {act : Action α} (h : act.Reads) : Quiet act :=
  ⟨.of_reads h, .of_reads h⟩

/-- A call that fails leaves the world as it was, whatever its failure is reported as. -/
theorem perform_adapt (call : SystemCall) (achieved : Nat) (path : Text) (handed : List Text)
    (act : FileSystem → Except SystemError FileSystem) (report : SystemError → Failure) :
    Quiet ((World.perform call achieved path handed act).adapt report) := by
  refine ⟨(World.edits_perform call achieved path handed act).adapt report, fun w e he _ => ?_⟩
  rw [ActionOf.on_adapt] at he ⊢
  rcases World.perform_cases call achieved path handed act w with ⟨_, h⟩ | ⟨_, _, h⟩
  · rw [h]
  · rw [h] at he
    cases he

theorem get_bind {next : World → Action α} (h : ∀ w, Quiet (next w)) : Quiet (get >>= next) :=
  ⟨.get_bind fun w => (h w).edits, .get_bind fun w => (h w).refrains⟩

theorem currentFiles_bind {next : FileSystem → Action α} (h : ∀ files, Quiet (next files)) :
    Quiet (World.currentFiles >>= next) :=
  ⟨.currentFiles_bind fun files => (h files).edits,
    .currentFiles_bind fun files => (h files).refrains⟩

theorem bind_pure {act : Action α} (h : Quiet act) (f : α → β) :
    Quiet (act >>= fun a => pure (f a)) :=
  ⟨h.edits.bind fun a => .pure (f a), h.refrains.bind_pure f⟩

end Quiet

namespace Site

/-! ### The course of a command -/

/-- Whether an action first starts no process and then does nothing but run processes, and gives
the right account of them if there are any. -/
def Performs (s : Site) (tolerates : List Text → ChildResult → Bool) (act : Action α) : Prop :=
  ∀ w, ∃ w₁ argvs, w.EditedTo w₁ ∧
    (act.on w).2 = w₁.afterAll s.limit (s.invocations argvs) ∧
    (argvs = [] ∨ Accounts tolerates (w₁.attemptsOf s.limit (s.invocations argvs)) (act.on w).1)

variable {s : Site} {tolerates : List Text → ChildResult → Bool}

/-- What conducts processes never ends in a refusal. -/
theorem Conducts.isRefusal_eq_false {act : Action α} (h : s.Conducts tolerates act) {w : World}
    {e : ShellError} (he : (act.on w).1 = .error (.reported e)) : e.kind.isRefusal = false := by
  obtain ⟨_, -, haccount⟩ := h w
  rw [he] at haccount
  obtain ⟨_, _, -, -, -, habout⟩ := haccount
  exact habout.isRefusal_eq_false

theorem Conducts.refrains {act : Action α} (h : s.Conducts tolerates act) : act.Refrains := by
  intro w e he hkind
  simp [h.isRefusal_eq_false he] at hkind

theorem Conducts.performs {act : Action α} (h : s.Conducts tolerates act) :
    s.Performs tolerates act := by
  intro w
  obtain ⟨argvs, hafter, haccount⟩ := h w
  exact ⟨w, argvs, refl w, hafter, .inr haccount⟩

end Site

/-- What starts no process takes the first part of the course only. -/
theorem ActionOf.Edits.performs {s : Site} {tolerates : List Text → ChildResult → Bool}
    {act : Action α} (h : act.Edits) : s.Performs tolerates act :=
  fun w => ⟨_, [], h w, rfl, .inl rfl⟩

namespace Site.Performs

variable {s : Site} {tolerates : List Text → ChildResult → Bool}

theorem get_bind {next : World → Action α} (h : ∀ w, s.Performs tolerates (next w)) :
    s.Performs tolerates (get >>= next) :=
  fun w => h w w

theorem currentFiles_bind {next : FileSystem → Action α}
    (h : ∀ files, s.Performs tolerates (next files)) :
    s.Performs tolerates (World.currentFiles >>= next) :=
  fun w => h w.files w

/-- A result that can be told without an action: if it is a failure, the action is over. -/
theorem lift_bind {r : Except Failure α} {next : α → Action β}
    (h : ∀ a, r = .ok a → s.Performs tolerates (next a)) :
    s.Performs tolerates (liftM r >>= next) := by
  cases r with
  | error f => exact (Quiet.of_reads (.throw f)).edits.performs
  | ok a => exact h a rfl

theorem bind_pure {act : Action α} (h : s.Performs tolerates act) (f : α → β) :
    s.Performs tolerates (act >>= fun a => pure (f a)) := by
  intro w
  obtain ⟨w₁, argvs, hedits, hafter, haccount⟩ := h w
  rw [ActionOf.on_bind_pure]
  exact ⟨w₁, argvs, hedits, hafter, haccount.imp_right fun h => h.map f⟩

/-- A procedure takes the course if its second part does: the first part only looks. -/
theorem run {p : Procedure} {raw : Text} (h : ∀ input, s.Performs tolerates (p.perform s input)) :
    s.Performs tolerates (p.run s raw) :=
  currentFiles_bind fun _ => lift_bind fun input _ => h input

end Site.Performs

end PortableShell
