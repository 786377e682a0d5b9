import Mathlib.Order.Defs.Unbundled
import PortableShell.World

/-!
# Running actions

An action starts on a world, ends in a value or in a failure, and leaves a world.  Each way of
putting actions together has one equation here, so that no later proof looks at how actions are
represented.

## Main definitions

* `ActionOf.on`: what an action ends in on a world, and the world that it leaves.
* `ActionOf.Within`: the actions that take every world to one in a given relation to it, and
  `ActionOf.Reads`, those that leave it as it was.
* `ActionOf.Yields`: the actions that end in nothing but values with a given property.

## Main statements

* `ActionOf.on_bind`: the second of two actions starts on the world that the first one left, and
  does not start at all if that one failed.
* `World.perform_cases`: a call that fails leaves the world as it was; `World.createFile_cases` and
  its like, the same of each call that does one thing to the files.
-/

namespace PortableShell

variable {ε ε' α β : Type}

/-! ### Results -/

namespace Result

theorem bind_eq_ok {r : Except ε α} {next : α → Except ε β} {b : β} :
    r >>= next = .ok b ↔ ∃ a, r = .ok a ∧ next a = .ok b := by
  cases r with
  | ok a => simp [bind, Except.bind]
  | error e => simp [bind, Except.bind]

/-- What follows a result matters only for the value that it is. -/
theorem bind_congr {r : Except ε α} {next next' : α → Except ε β}
    (h : ∀ a, r = .ok a → next a = next' a) : r >>= next = r >>= next' := by
  cases r with
  | ok a => exact h a rfl
  | error e => rfl

/-- Functions that agree on the members of a list may be exchanged. -/
theorem mapM_congr {f g : α → Except ε β} {as : List α} (h : ∀ a ∈ as, f a = g a) :
    as.mapM f = as.mapM g := by
  induction as with
  | nil => rfl
  | cons a as ih =>
    have hrest := ih fun b hb => h b (List.mem_cons_of_mem a hb)
    rw [List.mapM_cons, List.mapM_cons, h a List.mem_cons_self, hrest]

theorem ite_eq_ok {c : Prop} [Decidable c] {a b : α} {e : ε} :
    (if c then pure a else throw e : Except ε α) = .ok b ↔ c ∧ a = b := by
  by_cases hc : c
  · simp [hc, pure, Except.pure]
  · simp [hc, throw, throwThe, MonadExceptOf.throw]

theorem map_eq_error {r : Except ε α} {f : α → β} {e : ε} :
    r.map f = .error e ↔ r = .error e := by
  cases r with
  | ok a => simp [Except.map]
  | error e => simp [Except.map]

theorem isOk_map (r : Except ε α) (f : α → β) : (r.map f).isOk = r.isOk := by
  cases r with
  | ok a => rfl
  | error e => rfl

theorem ofReported_eq_ok {r : Except ShellError α} {a : α} : ofReported r = .ok a ↔ r = .ok a := by
  cases r with
  | ok b => rw [show ofReported (.ok b) = .ok b from rfl, Except.ok.injEq, Except.ok.injEq]
  | error e =>
    constructor
    · intro h
      cases h
    · intro h
      cases h

end Result

/-! ### Actions -/

/-- What an action ends in on a world, and the world that it leaves. -/
def ActionOf.on (act : ActionOf ε α) (w : World) : Except ε α × World :=
  act.run w

namespace ActionOf

@[simp]
theorem on_pure (a : α) (w : World) : (pure a : ActionOf ε α).on w = (.ok a, w) := rfl

@[simp]
theorem on_throw (e : ε) (w : World) : (throw e : ActionOf ε α).on w = (.error e, w) := rfl

/-- The second of two actions starts on the world that the first one left. -/
theorem on_bind (act : ActionOf ε α) (next : α → ActionOf ε β) (w : World) :
    (act >>= next : ActionOf ε β).on w =
      match act.on w with
      | (.ok a, w') => (next a).on w'
      | (.error e, w') => (.error e, w') := by
  simp only [on, ExceptT.run, bind, ExceptT.bind, ExceptT.mk, StateT.bind]
  rcases act w with ⟨_ | _, _⟩ <;> rfl

theorem on_bind_of_ok {act : ActionOf ε α} {w w' : World} {a : α} (h : act.on w = (.ok a, w'))
    (next : α → ActionOf ε β) : (act >>= next : ActionOf ε β).on w = (next a).on w' := by
  rw [on_bind, h]

theorem on_bind_of_error {act : ActionOf ε α} {w w' : World} {e : ε}
    (h : act.on w = (.error e, w')) (next : α → ActionOf ε β) :
    (act >>= next : ActionOf ε β).on w = (.error e, w') := by
  rw [on_bind, h]

/-- What only turns a value into another one leaves the world alone. -/
theorem on_bind_pure (act : ActionOf ε α) (f : α → β) (w : World) :
    (act >>= fun a => pure (f a) : ActionOf ε β).on w = ((act.on w).1.map f, (act.on w).2) := by
  rw [on_bind]
  rcases act.on w with ⟨_ | _, _⟩ <;> rfl

@[simp]
theorem on_get_bind (next : World → ActionOf ε β) (w : World) :
    (get >>= next : ActionOf ε β).on w = (next w).on w := rfl

@[simp]
theorem on_modify_bind (f : World → World) (next : Unit → ActionOf ε β) (w : World) :
    (modify f >>= next : ActionOf ε β).on w = (next ()).on (f w) := rfl

@[simp]
theorem on_currentFiles_bind (next : FileSystem → ActionOf ε β) (w : World) :
    (World.currentFiles >>= next : ActionOf ε β).on w = (next w.files).on w := rfl

@[simp]
theorem on_lift (r : Except ε α) (w : World) : (liftM r : ActionOf ε α).on w = (r, w) := rfl

@[simp]
theorem on_adapt (f : ε → ε') (act : ActionOf ε α) (w : World) :
    on (act.adapt f : ActionOf ε' α) w = ((act.on w).1.mapError f, (act.on w).2) := rfl

/-- What handles a failure starts on the world that the failed action left. -/
theorem on_tryCatch (act : ActionOf ε α) (handle : ε → ActionOf ε α) (w : World) :
    on (tryCatch act handle) w =
      match act.on w with
      | (.ok a, w') => (.ok a, w')
      | (.error e, w') => (handle e).on w' := by
  change (ExceptT.tryCatch act handle).run w = _
  simp only [on, ExceptT.run, ExceptT.tryCatch, ExceptT.mk, bind, StateT.bind]
  rcases act w with ⟨_ | _, _⟩ <;> rfl

end ActionOf

/-! ### Calls of the operating system -/

/-- What a call ends in.  A text that is refused comes before a fault in store, and that before what
the call is to do. -/
theorem World.on_perform (call : SystemCall) (achieved : Nat) (path : Text) (handed : List Text)
    (act : FileSystem → Except SystemError FileSystem) (w : World) :
    (World.perform call achieved path handed act).on w =
      if handed.any w.machine.refuses then
        (.error .nullCharacter, w)
      else
        match w.fault? call achieved path, act w.files with
        | some e, _ | none, .error e => (.error e, w)
        | none, .ok files => (.ok (), { w with files }) := by
  rw [World.perform, ActionOf.on_get_bind]
  split
  · rfl
  · cases w.fault? call achieved path with
    | some e => rfl
    | none =>
      cases h : act w.files with
      | error e => rfl
      | ok files => rfl

/-- A call either fails and leaves the world as it was, or changes the files as it is to do and
nothing else. -/
theorem World.perform_cases (call : SystemCall) (achieved : Nat) (path : Text) (handed : List Text)
    (act : FileSystem → Except SystemError FileSystem) (w : World) :
    (∃ e, (World.perform call achieved path handed act).on w = (.error e, w)) ∨
      ∃ files, act w.files = .ok files ∧
        (World.perform call achieved path handed act).on w = (.ok (), { w with files }) := by
  rw [World.on_perform]
  split
  · exact .inl ⟨_, rfl⟩
  · split
    · exact .inl ⟨_, rfl⟩
    · exact .inl ⟨_, rfl⟩
    · rename_i files _ hact
      exact .inr ⟨files, hact, rfl⟩

namespace World

/-- If it is known what a call does to the files unless it fails, there are two cases. -/
theorem perform_cases_of_forall {call : SystemCall} {achieved : Nat} {path : Text}
    {handed : List Text} {act : FileSystem → Except SystemError FileSystem} {w : World}
    {after : FileSystem} (hact : ∀ files, act w.files = .ok files → files = after) :
    (∃ e, (perform call achieved path handed act).on w = (.error e, w)) ∨
      (perform call achieved path handed act).on w = (.ok (), { w with files := after }) := by
  rcases perform_cases call achieved path handed act w with hfails | ⟨files, hfiles, hon⟩
  · exact .inl hfails
  · obtain rfl := hact files hfiles
    exact .inr hon

theorem eq_of_checkParent {files files' written : FileSystem} {path : Text}
    (h : (do checkParent files path; return written) = Except.ok files') : files' = written := by
  obtain ⟨_, -, h⟩ := Result.bind_eq_ok.mp h
  exact (Except.ok.inj h).symm

/-- Creating a file either fails and leaves the world as it was, or creates it and does nothing
else. -/
theorem createFile_cases (path : Text) (w : World) :
    (∃ e, (createFile path).on w = (.error e, w)) ∨
      (createFile path).on w = (.ok (), { w with files := w.files.write path .newFile }) :=
  perform_cases_of_forall fun _ => eq_of_checkParent

theorem createTemporary_cases (path : Text) (w : World) :
    (∃ e, (createTemporary path).on w = (.error e, w)) ∨
      (createTemporary path).on w =
        (.ok (), { w with files := w.files.write path ⟨.file [], 0o600, none⟩ }) :=
  perform_cases_of_forall fun _ => eq_of_checkParent

/-- Appending to a file either fails and leaves the world as it was, or appends the bytes and does
nothing else. -/
theorem append_cases (path : Text) (bytes : Utf8.Bytes) (w : World) :
    (∃ e, (append path bytes).on w = (.error e, w)) ∨
      (append path bytes).on w = (.ok (), { w with files := w.files.extend path bytes }) := by
  rw [append, ActionOf.on_get_bind]
  exact perform_cases_of_forall fun _ h => (Except.ok.inj h).symm

/-- Setting a mode either fails and leaves the world as it was, or sets it as the machine does and
does nothing else. -/
theorem changeMode_cases (path : Text) (mode : Nat) (w : World) :
    (∃ e, (changeMode path mode).on w = (.error e, w)) ∨
      (changeMode path mode).on w = (.ok (), { w with
        files := w.files.update path fun n =>
          { n with mode := w.machine.modeAfter n mode } }) := by
  rw [changeMode, ActionOf.on_get_bind]
  exact perform_cases_of_forall fun _ h => (Except.ok.inj h).symm

end World

namespace ActionOf

/-! ### What an action may do to a world -/

/-- Whether an action takes every world to one in the relation `R` to it. -/
def Within (R : World → World → Prop) (act : ActionOf ε α) : Prop :=
  ∀ w : World, R w (act.on w).2

/-- Whether an action leaves every world as it was. -/
abbrev Reads (act : ActionOf ε α) : Prop :=
  act.Within Eq

namespace Within

variable {R : World → World → Prop}

theorem mono {R' : World → World → Prop} {act : ActionOf ε α} (h : act.Within R)
    (hR : ∀ w w', R w w' → R' w w') : act.Within R' :=
  fun w => hR w _ (h w)

theorem adapt {act : ActionOf ε α} (f : ε → ε') (h : act.Within R) :
    Within R (act.adapt f : ActionOf ε' α) :=
  h

theorem ite {c : Prop} [Decidable c] {act other : ActionOf ε α} (h : act.Within R)
    (hother : other.Within R) : Within R (if c then act else other) := by
  split
  · exact h
  · exact hother

variable [IsPreorder World R]

/-- What changes nothing stays within every relation. -/
theorem of_reads {act : ActionOf ε α} (h : act.Reads) : act.Within R := by
  intro w
  rw [← h w]
  exact refl w

theorem pure (a : α) : Within R (Pure.pure a : ActionOf ε α) :=
  fun w => refl w

theorem throw (e : ε) : Within R (MonadExcept.throw e : ActionOf ε α) :=
  fun w => refl w

theorem bind {act : ActionOf ε α} {next : α → ActionOf ε β} (h : act.Within R)
    (hnext : ∀ a, (next a).Within R) : Within R (act >>= next : ActionOf ε β) := by
  intro w
  have hact := h w
  rcases hon : act.on w with ⟨_ | a, w'⟩ <;> rw [hon] at hact
  · rw [on_bind_of_error hon]
    exact hact
  · rw [on_bind_of_ok hon]
    exact Trans.trans hact (hnext a w')

theorem lift_bind {r : Except ε α} {next : α → ActionOf ε β} (hnext : ∀ a, (next a).Within R) :
    Within R (liftM r >>= next : ActionOf ε β) :=
  bind (fun w => refl w) hnext

theorem get_bind {next : World → ActionOf ε β} (hnext : ∀ w, (next w).Within R) :
    Within R (get >>= next : ActionOf ε β) :=
  bind (fun w => refl w) hnext

theorem currentFiles_bind {next : FileSystem → ActionOf ε β} (hnext : ∀ a, (next a).Within R) :
    Within R (World.currentFiles >>= next : ActionOf ε β) :=
  bind (fun w => refl w) hnext

theorem tryCatch {act : ActionOf ε α} {handle : ε → ActionOf ε α} (h : act.Within R)
    (hhandle : ∀ e, (handle e).Within R) : Within R (MonadExcept.tryCatch act handle) := by
  intro w
  have hact := h w
  rw [on_tryCatch]
  rcases hon : act.on w with ⟨e | _, w'⟩ <;> rw [hon] at hact
  · exact Trans.trans hact (hhandle e w')
  · exact hact

/-- A call stays within a relation if what it does to the files does. -/
theorem perform {call : SystemCall} {achieved : Nat} {path : Text} {handed : List Text}
    {act : FileSystem → Except SystemError FileSystem}
    (h : ∀ (w : World) (files : FileSystem), act w.files = .ok files → R w { w with files }) :
    (World.perform call achieved path handed act).Within R := by
  intro w
  rcases World.perform_cases call achieved path handed act w with
    ⟨e, hon⟩ | ⟨files, hact, hon⟩ <;> rw [hon]
  · exact refl w
  · exact h w files hact

/-- So do several calls that make directories if each of them does where one is missing. -/
theorem createDirectories {path : Text}
    (h : ∀ made w, ∀ q ∈ FileSystem.withAncestors path, w.files.contains q = false →
      R w ((World.createDirectory path made q).on w).2) :
    (World.createDirectories path).Within R := by
  have habove : ∀ q ∈ (FileSystem.withAncestors path).reverse, q ∈ FileSystem.withAncestors path :=
    fun q => List.mem_reverse.mp
  rw [World.createDirectories]
  generalize (FileSystem.withAncestors path).reverse = above at habove
  generalize 0 = made
  induction above generalizing made with
  | nil => exact .pure ()
  | cons q rest ih =>
    have hrest := ih fun q' hq' => habove q' (List.mem_cons_of_mem q hq')
    intro w
    rw [World.createEach, on_currentFiles_bind]
    cases hq : w.files.contains q with
    | true => exact hrest made w
    | false =>
      have hmade := h made w q (habove q List.mem_cons_self) hq
      rw [if_neg Bool.false_ne_true, on_bind]
      rcases hon : (World.createDirectory path made q).on w with ⟨_ | _, w'⟩ <;> rw [hon] at hmade
      · exact hmade
      · exact Trans.trans hmade (hrest (made + 1) w')

theorem append {path : Text} {bytes : Utf8.Bytes}
    (h : ∀ w : World, R w { w with files := w.files.extend path bytes }) :
    (World.append path bytes).Within R := by
  intro w
  rcases World.append_cases path bytes w with ⟨e, hon⟩ | hon <;> rw [hon]
  · exact refl w
  · exact h w

end Within

/-! ### What an action ends in -/

/-- Whether every value that an action ends in has a property. -/
def Yields (P : α → Prop) (act : ActionOf ε α) : Prop :=
  ∀ w a, (act.on w).1 = .ok a → P a

namespace Yields

variable {P : β → Prop}

theorem pure {b : β} (h : P b) : Yields P (Pure.pure b : ActionOf ε β) := by
  intro w a ha
  cases ha
  exact h

theorem throw (e : ε) : Yields P (MonadExcept.throw e : ActionOf ε β) :=
  fun _ _ h => nomatch h

/-- What comes last decides. -/
theorem bind {act : ActionOf ε α} {next : α → ActionOf ε β} (h : ∀ a, (next a).Yields P) :
    Yields P (act >>= next : ActionOf ε β) := by
  intro w b hb
  rcases hon : act.on w with ⟨_ | a, w'⟩
  · rw [on_bind_of_error hon] at hb
    cases hb
  · rw [on_bind_of_ok hon] at hb
    exact h a w' b hb

end Yields

end ActionOf

namespace World

/-- Starting a process takes the next outcome, and ends in what that means. -/
theorem on_start (limit : TimeLimit) (i : Invocation) (w : World) :
    (start limit i).on w =
      (conclude limit i (w.outcomeOf limit i), w.afterAttempt limit i) := rfl

/-- A file without a fault in store is read. -/
theorem on_readFile {path : Text} {opened : Nat} {bytes : Utf8.Bytes} {w : World}
    (hbytes : w.files.bytes? path = some bytes) (hfault : w.fault? .openFile opened path = none) :
    (readFile path opened).on w = (.ok bytes, w) := by
  rw [readFile, ActionOf.on_get_bind]
  simp only [hfault, hbytes]
  rfl

theorem reads_readFile (path : Text) (opened : Nat) : (readFile path opened).Reads := by
  intro w
  simp only [readFile, ActionOf.on_get_bind]
  split
  · rfl
  · split <;> rfl

theorem reads_inspect (path : Text) : (inspect path).Reads := by
  intro w
  simp only [inspect, ActionOf.on_get_bind]
  split
  · rfl
  · split <;> rfl

end World

end PortableShell
