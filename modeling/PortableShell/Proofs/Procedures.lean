import PortableShell.Plan
import PortableShell.Proofs.Download
import PortableShell.Proofs.NewDirectories

/-!
# The course of each procedure

Every procedure first does what it does itself and then runs native tools, and it gives the right
account of them.  What is tolerated of a tool is said here once for each procedure.

## Main definitions

* `Command.tolerates`: what is tolerated of the tools that carry out a command.
* `Command.runsToolsOnly`: the commands that are carried out by native tools alone.

## Main statements

* `Command.performs_procedure`: the second part of every procedure takes the course of a command.
* `Command.refrains_procedure`: it does nothing before a refusal, unless it copies or moves.
* `Site.refrains_plan`: the same of finding what there is to do.
* `Site.keeps_plan`: no file is lost by that, unless it is a download.
-/

namespace PortableShell

variable {α : Type}

/-- The tool that lists the access control list of a path. -/
def Procedure.aclTool : Platform → List Text
  | .posix => ["getfacl"]
  | .windows => Invocation.viaCmd ["icacls"]

/-- Whether a result other than an exit code of zero is tolerated of a tool that carries out a
command: a search that selects no line or finds no file, file systems without quotas, and an
access control list that cannot be had. -/
def Command.tolerates (platform : Platform) : Command → List Text → ChildResult → Bool
  | .grep, _, r => r.code == 1 && Text.isAllBlank r.output
  | .find, _, r | .locate, _, r =>
    Text.isAllBlank r.output || Text.hasInfix "File Not Found" r.output
  | .quotacheck, _, r => Text.hasInfix "This system does not support quotas" r.output
  | .accessRights, argv, _ => (Procedure.aclTool platform).isPrefixOf argv
  | _, _, _ => false

open Site

/-! ### Procedures that run one tool or several -/

namespace Procedure

theorem conducts_performCompress (s : Site) (file : NamedFile) :
    s.Conducts (fun _ _ => false) (performCompress s file) := by
  rw [performCompress]
  cases s.platform with
  | posix => exact (Conducts.launchChecked fun _ => rfl).bind fun _ => .pure _
  | windows => exact (Conducts.launchChecked fun _ => rfl).bind fun _ => .pure _

theorem conducts_performIdentify (s : Site) (file : NamedFile) :
    s.Conducts (fun _ _ => false) (performIdentify s file) := by
  rw [performIdentify]
  cases s.platform with
  | posix => exact (Conducts.launchChecked fun _ => rfl).bind fun _ => .pure _
  | windows => exact .currentFiles_bind fun _ => .pure _

theorem conducts_showEach (s : Site) (files : List (Text × Text)) :
    s.Conducts (fun _ _ => false) (showEach s files) := by
  induction files with
  | nil => exact .pure _
  | cons file files ih =>
    exact (Conducts.launchChecked fun _ => rfl).bind fun _ => ih.bind fun _ => .pure _

theorem conducts_performConcatenate (s : Site) (files : List (Text × Text)) :
    s.Conducts (fun _ _ => false) (performConcatenate s files) := by
  rw [performConcatenate]
  cases s.platform with
  | posix => exact (Conducts.launchChecked fun _ => rfl).bind fun _ => .pure _
  | windows => exact (conducts_showEach s files).bind fun _ => .pure _

theorem conducts_performPage (s : Site) (path : Text) :
    s.Conducts (fun _ _ => false) (performPage s path) := by
  rw [performPage]
  cases s.platform with
  | posix => exact (Conducts.launchChecked fun _ => rfl).bind fun _ => .pure _
  | windows => exact (Conducts.launchChecked fun _ => rfl).bind fun _ => .pure _

theorem conducts_performFirstLines (s : Site) (input : Nat × Text) :
    s.Conducts (fun _ _ => false) (performFirstLines s input) :=
  (Conducts.launchChecked fun _ => rfl).bind fun _ => .pure _

theorem conducts_performProcesses (s : Site) (options : List Text) :
    s.Conducts (fun _ _ => false) (performProcesses s options) := by
  rw [performProcesses]
  cases s.platform with
  | posix => exact (Conducts.launchChecked fun _ => rfl).bind fun _ => .pure _
  | windows => exact (Conducts.launchChecked fun _ => rfl).bind fun _ => .pure _

theorem conducts_performUsage (s : Site) (request : UsageRequest) :
    s.Conducts (fun _ _ => false) (performUsage s request) :=
  (Conducts.launchChecked fun _ => rfl).bind fun _ => .pure _

theorem conducts_launchChange (s : Site) (failure : Text) (argv : List Text) :
    s.Conducts (fun _ _ => false) (launchChange s failure argv) := by
  refine .launch_bind (fun r hr => ?_) fun r hr => ?_
  · have hok : r.ok = true := by simpa using hr
    simp only [hok]
    exact .pure _
  · have hok : r.ok = false := by simpa using hr
    simp only [hok]
    refine ⟨_, failure, ?_, fun w => rfl⟩
    cases saysDenied r.output <;> rfl

theorem conducts_performOwner (s : Site) (setting : Setting) :
    s.Conducts (fun _ _ => false) (performOwner s setting) := by
  rw [performOwner]
  cases s.platform with
  | posix => exact (conducts_launchChange s _ _).bind fun _ => .pure _
  | windows =>
    exact (Conducts.launchOr rfl fun _ => rfl).bind fun _ =>
      (Conducts.launchOr rfl fun _ => rfl).bind fun _ => .pure _

theorem conducts_performGroup (s : Site) (setting : Setting) :
    s.Conducts (fun _ _ => false) (performGroup s setting) := by
  rw [performGroup]
  cases s.platform with
  | posix => exact (conducts_launchChange s _ _).bind fun _ => .pure _
  | windows => exact (Conducts.launchOr rfl fun _ => rfl).bind fun _ => .pure _

/-! ### Procedures that tolerate something -/

theorem conducts_performMatchLines (s : Site) (input : PatternFile) :
    s.Conducts (Command.grep.tolerates s.platform) (performMatchLines s input) := by
  refine .launch_bind (fun r hr => ?_) fun r hr => ?_
  · by_cases hnone : r.code = 1 ∧ Text.isAllBlank r.output
    · rw [if_pos hnone]
      exact .pure _
    · have hok : r.ok = true := by simpa [Command.tolerates, hnone] using hr
      rw [if_neg hnone, if_pos hok]
      exact .pure _
  · have hnone : ¬ (r.code = 1 ∧ Text.isAllBlank r.output) := by
      simpa [Command.tolerates] using (Bool.or_eq_false_iff.mp hr).2
    have hok : ¬ r.ok = true := by simp [(Bool.or_eq_false_iff.mp hr).1]
    rw [if_neg hnone, if_neg hok]
    exact ⟨.commandFailed, _, rfl, fun _ => rfl⟩

/-- A search that is judged by its output and then by its exit code. -/
theorem conducts_searchAnswer {s : Site} {tolerates : List Text → ChildResult → Bool}
    {argv : List Text} {nothing failure : Text}
    (h : ∀ r, tolerates argv r =
      (Text.isAllBlank r.output || Text.hasInfix foundNothing r.output)) :
    s.Conducts tolerates (do searchAnswer (← s.launch argv) nothing failure) := by
  refine .launch_bind (fun r hr => ?_) fun r hr => ?_
  · rw [h] at hr
    rw [searchAnswer]
    cases hnone : Text.isAllBlank r.output || Text.hasInfix foundNothing r.output with
    | true => exact .pure _
    | false =>
      have hok : r.ok = true := by simpa [hnone] using hr
      rw [if_pos hok]
      exact .pure _
  · rw [h, Bool.or_eq_false_iff] at hr
    rw [searchAnswer, hr.1, hr.2]
    exact ⟨.commandFailed, failure, rfl, fun _ => rfl⟩

theorem conducts_performFindFiles (s : Site) (pattern : Text) :
    s.Conducts (Command.find.tolerates s.platform) (performFindFiles s pattern) :=
  conducts_searchAnswer fun _ => rfl

theorem conducts_performLocateFiles (s : Site) (pattern : Text) :
    s.Conducts (Command.locate.tolerates s.platform) (performLocateFiles s pattern) :=
  conducts_searchAnswer fun _ => rfl

theorem conducts_performQuotas (s : Site) (tokens : List Text) :
    s.Conducts (Command.quotacheck.tolerates s.platform) (performQuotas s tokens) := by
  refine .launch_bind (fun r hr => ?_) fun r hr => ?_
  · change (r.ok || Text.hasInfix quotasUnsupported r.output) = true at hr
    have hanswer : ∃ answer, quotaAnswer r (quotasFailure s.platform) = .ok answer := by
      rw [quotaAnswer]
      cases hnone : Text.hasInfix quotasUnsupported r.output with
      | true => exact ⟨_, rfl⟩
      | false =>
        have hok : r.ok = true := by simpa [hnone] using hr
        rw [if_pos hok]
        exact ⟨_, rfl⟩
    obtain ⟨answer, hanswer⟩ := hanswer
    exact .lift_bind hanswer (.ite (.pure _) (.pure _))
  · change (r.ok || Text.hasInfix quotasUnsupported r.output) = false at hr
    rw [Bool.or_eq_false_iff] at hr
    rw [quotaAnswer, hr.1, hr.2]
    exact ⟨.commandFailed, _, rfl, fun _ => rfl⟩

theorem conducts_nativeRights (s : Site) (path : Text) :
    s.Conducts (Command.accessRights.tolerates .posix) (nativeRights s path) := by
  refine (Conducts.launchChecked fun _ => rfl).bind fun _ => .get_bind fun w => ?_
  refine .ite ((Conducts.launch fun _ => rfl).bind fun _ => .ite (.pure _) ?_) ?_
  · exact .pure _
  · exact .pure _

/-! ### Procedures that do something themselves -/

theorem quiet_performTouch (path : Text) : Quiet (performTouch path) := by
  refine .currentFiles_bind fun files => ?_
  split
  · exact .of_reads (.pure _)
  · exact (Quiet.perform_adapt _ _ _ _ _ _).bind_pure _

theorem quiet_changeMode (path : Text) (mode : Nat) (report : SystemError → Failure) :
    Quiet ((World.changeMode path mode).adapt report) := by
  -- what reports an error reports that of the call after the machine was looked at
  change Quiet (get >>= fun w => ExceptT.adapt report (World.perform .changeMode 0 path []
    fun files => .ok (files.update path fun n => { n with mode := w.machine.modeAfter n mode })))
  exact .get_bind fun _ => .perform_adapt _ _ _ _ _ _

/-- What is told of a node and by a tool. -/
theorem conducts_details (s : Site) (path : Text) {α : Type} (f : ChildResult → α) :
    s.Conducts (Command.accessRights.tolerates .windows)
      (do return f (← s.launch (Invocation.viaCmd ["icacls", path]))) :=
  (Conducts.launch fun _ => rfl).bind fun _ => .pure _

theorem reads_inspect_adapt (path : Text) :
    ActionOf.Reads ((World.inspect path).adapt Failure.system : Action Node) :=
  (World.reads_inspect path).adapt _

theorem reads_countFile (s : Session) (opened : Nat) (name : Text) :
    (countFile s opened name).Reads := by
  refine .lift_bind fun path => .currentFiles_bind fun files => ?_
  split
  · exact ((World.reads_readFile path opened).adapt _).bind fun _ => .pure _
  · exact .throw _

theorem reads_countFiles (s : Session) (opened : Nat) (names : List Text) :
    (countFiles s opened names).Reads := by
  induction names generalizing opened with
  | nil => exact .pure _
  | cons name names ih =>
    exact (reads_countFile s opened name).bind fun _ => (ih (opened + 1)).bind fun _ => .pure _

end Procedure

theorem Account.conducts_perform (a : Account) (s : Site) (name : Text) :
    s.Conducts (fun _ _ => false) (a.perform s name) :=
  (Conducts.launchOr rfl fun _ => rfl).bind fun _ => .pure _

theorem Transfer.conducts_runTool (t : Transfer) (s : Site) (input : Input) :
    s.Conducts (fun _ _ => false) (t.runTool s input) :=
  .launch_ite (fun _ => rfl) fun _ => ⟨.commandFailed, _, rfl, rfl⟩

/-- Copying and moving refuse nothing but a destination that cannot be made a directory. -/
theorem Transfer.perform_eq_refusal_iff (t : Transfer) (s : Site) (input : Input) (w w' : World)
    {e : ShellError} (hkind : e.kind.isRefusal = true) :
    (t.perform s input).on w = (.error (.reported e), w') ↔ input.makesDirectory = true ∧
      ∃ cause, (World.createDirectories input.destinationPath).on w = (.error cause, w') ∧
        Failure.ofSystem (cannotMake input.destination) cause = .reported e := by
  have htool (w₁ : World) : (t.runTool s input).on w₁ ≠ (.error (.reported e), w') := by
    intro h
    have hresult := (t.conducts_runTool s input).isRefusal_eq_false (congrArg Prod.fst h)
    exact Bool.false_ne_true (hresult.symm.trans hkind)
  rw [Transfer.perform]
  cases input.makesDirectory with
  | false => exact iff_of_false (htool w) fun h => nomatch h.1
  | true =>
    rw [if_pos rfl, ActionOf.on_bind, ActionOf.on_adapt, and_iff_right rfl]
    rcases (World.createDirectories input.destinationPath).on w with ⟨cause | _, w₁⟩
    · constructor
      · intro h
        obtain ⟨hcause, rfl⟩ := Prod.mk.inj h
        exact ⟨cause, rfl, Except.error.inj hcause⟩
      · rintro ⟨_, h, hcause⟩
        cases h
        exact Prod.ext (congrArg Except.error hcause) rfl
    · refine iff_of_false (htool w₁) ?_
      rintro ⟨_, h, -⟩
      cases h

/-! ### All procedures -/

namespace Command

variable {c : Command} {s : Site} {p : Procedure}

/-- Whether a command is carried out by native tools alone. -/
def runsToolsOnly : Command → Bool
  | .touch | .cp | .mv | .wc | .chmod | .accessRights | .wget => false
  | _ => true

/-- A command that is carried out by native tools alone gives the right account of them. -/
theorem conducts_procedure (hc : c.runsToolsOnly = true)
    (hp : c.procedure? s.platform = some p) (input : p.Input) :
    s.Conducts (c.tolerates s.platform) (p.perform s input) := by
  cases c <;> cases hc <;> cases hp
  case cat => exact Procedure.conducts_performConcatenate s input
  case less => exact Procedure.conducts_performPage s input
  case head => exact Procedure.conducts_performFirstLines s input
  case grep => exact Procedure.conducts_performMatchLines s input
  case chown => exact Procedure.conducts_performOwner s input
  case chgrp => exact Procedure.conducts_performGroup s input
  case addUser => exact Account.conducts_perform .user s input
  case addGroup => exact Account.conducts_perform .group s input
  case ps => exact Procedure.conducts_performProcesses s input
  case quotacheck => exact Procedure.conducts_performQuotas s input
  case du => exact Procedure.conducts_performUsage s input
  case gzip => exact Procedure.conducts_performCompress s input
  case file => exact Procedure.conducts_performIdentify s input
  case find => exact Procedure.conducts_performFindFiles s input
  case locate => exact Procedure.conducts_performLocateFiles s input

/-- On the platform on which `touch` has a procedure, it is the one that creates a file. -/
theorem eq_touch_of_procedure? {platform : Platform}
    (hp : touch.procedure? platform = some p) : p = Procedure.touch := by
  cases platform with
  | posix => cases hp
  | windows => exact (Option.some.inj hp).symm

end Command

/-- Running processes changes no file. -/
theorem Site.Conducts.sameFiles {s : Site} {tolerates : List Text → ChildResult → Bool}
    {act : Action α} (h : s.Conducts tolerates act) : act.Within World.SameFiles := by
  intro w
  obtain ⟨argvs, hafter, -⟩ := h w
  rw [hafter, World.SameFiles, World.files_afterAll]

theorem Site.Conducts.keeps {s : Site} {tolerates : List Text → ChildResult → Bool}
    {act : Action α} (h : s.Conducts tolerates act) : act.Within World.KeepsFiles :=
  h.sameFiles.mono fun _ _ => World.SameFiles.keeps

namespace Procedure

theorem keeps_performTouch (path : Text) : (performTouch path).Within World.KeepsFiles := by
  intro w
  rw [performTouch, ActionOf.on_currentFiles_bind]
  cases hcontains : w.files.contains path with
  | true => exact refl w
  | false =>
    have hcreate := World.keeps_createFile hcontains
    rw [if_neg Bool.false_ne_true, ActionOf.on_bind_pure, ActionOf.on_adapt]
    exact hcreate

theorem keeps_performMode (s : Site) (change : ModeChange) :
    (performMode s change).Within World.KeepsFiles := by
  cases change with
  | byTool setting => exact (conducts_launchChange s _ _).keeps.bind fun _ => .pure _
  | direct setting owner => exact ((World.keeps_changeMode _ _).adapt _).bind fun _ => .pure _

/-- Showing access rights touches no file. -/
theorem sameFiles_performRights (s : Site) (path : Text) :
    (performRights s path).Within World.SameFiles := by
  rw [performRights]
  cases s.platform with
  | posix => exact (conducts_nativeRights s path).sameFiles.bind fun _ => .pure _
  | windows =>
    refine ActionOf.Within.bind (.get_bind fun _ => ?_) fun _ => .pure _
    exact (ActionOf.Within.of_reads (reads_inspect_adapt path)).bind fun _ =>
      (conducts_details s path _).sameFiles

end Procedure

theorem Transfer.keeps_perform (t : Transfer) (s : Site) (input : Input) :
    (t.perform s input).Within World.KeepsFiles := by
  have htool := (t.conducts_runTool s input).keeps
  rw [Transfer.perform]
  split
  · exact ((World.keeps_createDirectories _).adapt _).bind fun _ => htool
  · exact htool

/-- Only a download may lose a node. -/
theorem Command.keeps_procedure {c : Command} {s : Site} {p : Procedure} (hc : c ≠ .wget)
    (hp : c.procedure? s.platform = some p) (input : p.Input) :
    (p.perform s input).Within World.KeepsFiles := by
  cases htools : c.runsToolsOnly with
  | true => exact (conducts_procedure htools hp input).keeps
  | false =>
    cases c <;> cases htools
    case false.wget => exact absurd rfl hc
    case false.cp => cases hp; exact Transfer.keeps_perform .copy s input
    case false.mv => cases hp; exact Transfer.keeps_perform .move s input
    case false.wc =>
      cases hp
      exact (ActionOf.Within.of_reads (Procedure.reads_countFiles _ _ _)).bind fun _ => .pure _
    case false.chmod => cases hp; exact Procedure.keeps_performMode s input
    case false.accessRights =>
      cases hp
      exact (Procedure.sameFiles_performRights s input).mono fun _ _ => World.SameFiles.keeps
    case false.touch =>
      obtain rfl := eq_touch_of_procedure? hp
      exact Procedure.keeps_performTouch input

/-- Finding what there is to do keeps all nodes and what they hold, unless it is a download. -/
theorem Site.keeps_plan (s : Site) {c : Command} (hc : c ≠ .wget) (raw : Text) :
    (s.plan c raw).Within World.KeepsFiles := by
  rw [Site.plan]
  cases c.isBuiltin with
  | true => exact .throw _
  | false =>
    cases hp : c.procedure? s.platform with
    | none => exact .pure _
    | some p =>
      have hrun : (p.run s raw).Within World.KeepsFiles :=
        .currentFiles_bind fun _ => .lift_bind fun input => Command.keeps_procedure hc hp input
      exact hrun.bind fun _ => .pure _

end PortableShell
