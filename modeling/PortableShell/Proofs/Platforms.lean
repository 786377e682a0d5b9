import PortableShell.Proofs.Procedures

/-!
# The same arguments on both platforms

Most commands are carried out by other native tools on another platform, and take the same arguments
all the same: what is refused on one platform is refused on the other, with the same error.

## Main definitions

* `Session.onPlatform`, `Site.onPlatform`: the same session for another platform.
* `ActionOf.Refuses`: whether an action ends in a given refusal and leaves a given world.
* `Command.sharesArguments`: the commands that take the same arguments on both platforms.

## Main statements

* `Procedure.refuses_run_iff`: where a refusal can come from.
* `Command.refuses_perform_iff`: what a procedure refuses after it has begun is the same.
* `Site.plan_eq_refusal_iff`: what is refused on one platform is refused on the other.
-/

namespace PortableShell

variable {α β : Type}

/-! ### Refusals -/

namespace ActionOf

/-- Whether an action ends in a given refusal, the error of an argument, of a path, or of the
platform, and leaves a given world. -/
def Refuses (act : Action α) (w : World) (e : ShellError) (w' : World) : Prop :=
  act.on w = (.error (.reported e), w') ∧ e.kind.isRefusal = true

theorem not_refuses_pure (a : α) (w : World) (e : ShellError) (w' : World) :
    ¬ Refuses (pure a) w e w' := by
  rintro ⟨h, -⟩
  cases h

/-- What follows a first action does not matter if it never refuses anything. -/
theorem refuses_bind_iff {act : Action α} {next : α → Action β} {w w' : World} {e : ShellError}
    (hnext : ∀ a w, ¬ (next a).Refuses w e w') :
    (act >>= next).Refuses w e w' ↔ act.Refuses w e w' := by
  rcases hon : act.on w with ⟨f | a, w₁⟩
  · rw [Refuses, Refuses, on_bind_of_error hon, hon]
    simp only [Prod.mk.injEq, Except.error.injEq]
  · have hact : ¬ act.Refuses w e w' := by
      rintro ⟨h, -⟩
      rw [hon] at h
      cases h
    have hbind : ¬ (act >>= next).Refuses w e w' := by
      rw [Refuses, on_bind_of_ok hon]
      exact hnext a w₁
    exact iff_of_false hbind hact

end ActionOf

/-- What conducts processes never refuses anything. -/
theorem Site.Conducts.not_refuses {s : Site} {tolerates : List Text → ChildResult → Bool}
    {act : Action α} (h : s.Conducts tolerates act) (w : World) (e : ShellError) (w' : World) :
    ¬ act.Refuses w e w' := by
  rintro ⟨he, hkind⟩
  have hresult := h.isRefusal_eq_false (congrArg Prod.fst he)
  exact Bool.false_ne_true (hresult.symm.trans hkind)

/-- A procedure refuses something if one of its parts does. -/
theorem Procedure.refuses_run_iff {p : Procedure} {s : Site} {raw : Text} {w w' : World}
    {e : ShellError} :
    (p.run s raw).Refuses w e w' ↔
      (p.prepare s.session w.files raw = .error (.reported e) ∧ w' = w ∧ e.kind.isRefusal = true) ∨
      ∃ input, p.prepare s.session w.files raw = .ok input ∧
        (p.perform s input).Refuses w e w' := by
  rw [Procedure.run, ActionOf.Refuses, ActionOf.on_currentFiles_bind, ActionOf.on_bind,
    ActionOf.on_lift]
  cases p.prepare s.session w.files raw with
  | ok input => simp [ActionOf.Refuses]
  | error f =>
    simp only [Prod.mk.injEq, Except.error.injEq, reduceCtorEq, false_and, exists_false, or_false]
    rw [and_assoc, @eq_comm _ w w']

/-! ### Two platforms -/

/-- The same session for another platform. -/
def Session.onPlatform (s : Session) (platform : Platform) : Session :=
  { s with platform }

/-- Where procedures run for another platform. -/
def Site.onPlatform (s : Site) (platform : Platform) : Site :=
  { s with session := s.session.onPlatform platform }

/-- What copying and moving refuse after they have begun has nothing to do with the platform. -/
theorem Transfer.refuses_perform_iff (t : Transfer) (s s' : Site) (input : Input) (w : World)
    (e : ShellError) (w' : World) :
    (t.perform s input).Refuses w e w' ↔ (t.perform s' input).Refuses w e w' := by
  refine and_congr_left fun hkind => ?_
  rw [t.perform_eq_refusal_iff s input w w' hkind, t.perform_eq_refusal_iff s' input w w' hkind]

/-- Showing access rights refuses nothing. -/
theorem Procedure.not_refuses_performRights (s : Site) (path : Text) (w : World) (e : ShellError)
    (w' : World) : ¬ (performRights s path).Refuses w e w' := by
  have hanswer : ∀ rows w, ¬ ActionOf.Refuses
      (pure (Answer.listing (rowsText (rightsHeading path :: rows)))) w e w' :=
    fun _ w => ActionOf.not_refuses_pure _ w e w'
  rw [performRights]
  cases s.platform with
  | posix =>
    rw [ActionOf.refuses_bind_iff hanswer]
    exact (conducts_nativeRights s path).not_refuses w e w'
  | windows =>
    rw [ActionOf.refuses_bind_iff hanswer, describedRights, ActionOf.Refuses,
      ActionOf.on_get_bind, ActionOf.on_bind, ActionOf.on_adapt]
    rcases (World.inspect path).on w with ⟨_ | n, w₁⟩
    · rintro ⟨h, -⟩
      cases h
    · exact (conducts_details s path _).not_refuses w₁ e w'

namespace Command

variable {c : Command} {p : Procedure}

/-- Whether a command takes the same arguments on both platforms. -/
def sharesArguments : Command → Bool
  | .cp | .mv | .gzip | .file | .cat | .less | .head | .grep | .chown | .chgrp | .accessRights
  | .addUser | .addGroup | .find | .locate => true
  | _ => false

/-- Such a command is carried out by the same procedure on both platforms. -/
theorem exists_procedure_of_sharesArguments (hc : c.sharesArguments = true) :
    c.isBuiltin = false ∧ ∃ p, ∀ platform, c.procedure? platform = some p := by
  cases c <;> cases hc <;> exact ⟨rfl, _, fun _ => rfl⟩

/-- What is to be done is made out of the arguments without regard to the platform. -/
theorem prepare_onPlatform (hc : c.sharesArguments = true)
    (hp : ∀ platform, c.procedure? platform = some p) (s : Session) (platform : Platform)
    (files : FileSystem) (raw : Text) :
    p.prepare (s.onPlatform platform) files raw = p.prepare s files raw := by
  have hposix := hp .posix
  cases c <;> cases hc <;> cases hposix <;> rfl

/-- Once it is made out, nothing is refused on one platform that is not on the other. -/
theorem refuses_perform_iff (hc : c.sharesArguments = true)
    (hp : ∀ platform, c.procedure? platform = some p) (s s' : Site) (input : p.Input) (w : World)
    (e : ShellError) (w' : World) :
    (p.perform s input).Refuses w e w' ↔ (p.perform s' input).Refuses w e w' := by
  cases htools : c.runsToolsOnly with
  | true =>
    have hconducts (site : Site) := conducts_procedure htools (hp site.platform) input
    exact iff_of_false ((hconducts s).not_refuses w e w') ((hconducts s').not_refuses w e w')
  | false =>
    have hposix := hp .posix
    cases c <;> cases hc <;> cases htools <;> cases hposix
    case false.cp => exact Transfer.refuses_perform_iff .copy s s' input w e w'
    case false.mv => exact Transfer.refuses_perform_iff .move s s' input w e w'
    case false.accessRights =>
      have hrights := Procedure.not_refuses_performRights
      exact iff_of_false (hrights s input w e w') (hrights s' input w e w')

end Command

namespace Site

/-- Finding what there is to do refuses what the procedure refuses. -/
theorem refuses_plan_iff {s : Site} {c : Command} {p : Procedure} (hc : c.isBuiltin = false)
    (hp : c.procedure? s.platform = some p) (raw : Text) (w : World) (e : ShellError)
    (w' : World) : (s.plan c raw).Refuses w e w' ↔ (p.run s raw).Refuses w e w' := by
  rw [plan, hc, if_neg Bool.false_ne_true, hp]
  exact ActionOf.refuses_bind_iff fun _ w => ActionOf.not_refuses_pure _ w e w'

/-- What is refused on one platform, because of an argument or of a path, is refused on the other:
the error is the same in kind, message and output, and so is the world that is left. -/
theorem plan_eq_refusal_iff {c : Command} (hc : c.sharesArguments = true) (s : Site) (raw : Text)
    (w w' : World) (e : ShellError) (he : e.kind.isRefusal = true) :
    ((s.onPlatform .posix).plan c raw).on w = (.error (.reported e), w') ↔
      ((s.onPlatform .windows).plan c raw).on w = (.error (.reported e), w') := by
  obtain ⟨hbuiltin, p, hp⟩ := Command.exists_procedure_of_sharesArguments hc
  have hprepare (platform : Platform) :
      p.prepare (s.onPlatform platform).session w.files raw = p.prepare s.session w.files raw :=
    Command.prepare_onPlatform hc hp s.session platform w.files raw
  have hperform (input : p.Input) := Command.refuses_perform_iff hc hp (s.onPlatform .posix)
    (s.onPlatform .windows) input w e w'
  have hrefuses : ((s.onPlatform .posix).plan c raw).Refuses w e w' ↔
      ((s.onPlatform .windows).plan c raw).Refuses w e w' := by
    rw [refuses_plan_iff hbuiltin (hp _), refuses_plan_iff hbuiltin (hp _),
      Procedure.refuses_run_iff, Procedure.refuses_run_iff, hprepare, hprepare]
    simp only [hperform]
  exact ⟨fun h => (hrefuses.mp ⟨h, he⟩).1, fun h => (hrefuses.mpr ⟨h, he⟩).1⟩

/-- A copy to a directory that would have to be made below a file. -/
theorem plan_eq_refusal_below_file :
    let s : Site := ⟨{ directory := "/", platform := .posix, home := "/" }, .unlimited⟩
    let w : World := { files := .write .bare "/f" .newFile }
    let e : ShellError := ⟨.invalidPath, "Cannot create destination directory: f/d/",
      some "Not a directory"⟩
    Command.cp.sharesArguments = true ∧ e.kind.isRefusal = true ∧
      ((s.onPlatform .windows).plan .cp "f f/d/").on w = (.error (.reported e), w) := by
  exact ⟨rfl, rfl, (plan_eq_refusal_iff rfl _ _ _ _ _ rfl).mp rfl⟩

end Site

end PortableShell
