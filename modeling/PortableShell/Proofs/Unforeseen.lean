import PortableShell.Proofs.LeftOpen
import PortableShell.Proofs.Preparation
import PortableShell.Proofs.Procedures

/-!
# Failures that no command expects

A command reports what goes wrong, with a few gaps.  A download does not expect that an address
cannot be taken to pieces, counting does not expect that a file cannot be opened, and showing access
rights on Windows does not expect that a path cannot be looked at.  Nobody expects a null character
in a path, where a command makes or replaces something itself, nor what breaks a process.

## Main definitions

* `World.MeetsNull`, `Download.MeetsNull`: whether a null character is what ends the making of a
  directory, and a download.
* `Session.Opens`, `Session.MeetsFault`: whether a file that is counted can be opened.
* `Site.LeavesOpen`: the gaps.

## Main statements

* `Procedure.unforeseen_countFiles_iff`: counting ends so at the first file that cannot be opened.
* `Download.unfit_fetch_iff`: a download ends so where a null character is met.
* `Site.unforeseen_plan_iff`: a command ends in a failure that it does not report exactly in one of
  the gaps, or if a process broke.
-/

namespace PortableShell

variable {α β : Type}

open Result (FailsAs)

/-! ### What is made out of an argument text -/

/-- No blank is in the first word. -/
theorem Argument.isBlank_of_mem_leading {raw : Text} {c : Char} (h : c ∈ (leading raw).1) :
    Text.isBlank c = false := by
  have hword := List.all_eq_true.mp List.all_takeWhile c h
  simpa using hword

/-- Only a line feed after a mode is not reported. -/
theorem Permission.newline_mem_of_unforeseen {mode : Text} (h : Unforeseen (ofMode mode)) :
    '\n' ∈ mode := by
  rw [ofMode.eq_def] at h
  dsimp only at h
  split at h
  · split at h
    · exact absurd h (not_unforeseen_ok _)
    · exact absurd h (not_unforeseen_reported _)
  · simp
  · exact absurd h (not_unforeseen_reported _)

namespace Procedure

/-- A mode is the first word, so that no line feed is in it. -/
theorem not_unforeseen_prepareMode (s : Session) (files : FileSystem) (raw : Text) :
    ¬ Unforeseen (prepareMode s files raw) := by
  rw [prepareMode, unforeseen_bind_iff]
  rintro (h | ⟨setting, hsetting, h⟩)
  · exact not_unforeseen_ofReported _ h
  · cases hplatform : s.platform with
    | posix =>
      rw [hplatform] at h
      exact not_unforeseen_ok _ h
    | windows =>
      rw [hplatform, unforeseen_bind_iff] at h
      obtain hmode | ⟨_, -, h⟩ := h
      · have hfeed := Permission.newline_mem_of_unforeseen hmode
        rw [(leading_of_prepareSetting (Result.ofReported_eq_ok.mp hsetting)).1] at hfeed
        exact absurd (Argument.isBlank_of_mem_leading hfeed) (by decide)
      · exact not_unforeseen_ok _ h

end Procedure

/-! ### Copying and moving -/

theorem World.eq_nullCharacter_of_createDirectories {w w' : World} {path : Text} {e : SystemError}
    (h : (createDirectories path).on w = (.error e, w')) (he : e.isUnfit = true) :
    e = .nullCharacter := by
  have hstops {made : Nat} (hstops : w.StopsAt path made e) : e = .nullCharacter := by
    rcases hstops with hfault | hnull
    · exact absurd ((isUnfit_of_fault hfault).symm.trans he) (by decide)
    · exact hnull
  rcases createDirectories_error h with ⟨-, hstart | ⟨-, rfl⟩⟩ | ⟨made, -, hlater⟩
  · exact hstops hstart
  · cases he
  · exact hstops hlater

/-- Whether a null character keeps a directory from being made. -/
def World.MeetsNull (w : World) (path : Text) : Prop :=
  ∃ w', (createDirectories path).on w = (.error .nullCharacter, w')

theorem World.unfit_createDirectories_iff {w : World} {path : Text} :
    FailsAs SystemError.isUnfit ((createDirectories path).on w).1 ↔ w.MeetsNull path := by
  constructor
  · rintro ⟨e, he, hunfit⟩
    have hon : (createDirectories path).on w = (.error e, _) := Prod.ext he rfl
    obtain rfl := eq_nullCharacter_of_createDirectories hon hunfit
    exact ⟨_, hon⟩
  · rintro ⟨w', hon⟩
    rw [hon, Result.failsAs_error_iff]
    rfl

/-- Copying and moving leave open that a null character keeps the directory of the destination from
being made. -/
theorem Transfer.leavesOpen_perform (t : Transfer) (s : Site) (input : Input) (w : World) :
    (t.perform s input).LeavesOpen w
      (input.makesDirectory = true ∧ w.MeetsNull input.destinationPath) := by
  rw [Transfer.perform]
  cases input.makesDirectory with
  | true =>
    have hedits := (World.edits_createDirectories input.destinationPath).adapt
      (Failure.ofSystem (cannotMake input.destination))
    rw [if_pos rfl, ← World.unfit_createDirectories_iff, and_iff_right rfl]
    exact .edits_bind_conducts hedits unforeseen_adapt_iff fun _ => t.conducts_runTool s input
  | false => exact .of_conducts (t.conducts_runTool s input) fun h => Bool.false_ne_true h.1

/-- Whether a null character keeps the directory of a destination from being made that copying or
moving is to make. -/
def Transfer.MeetsNull (t : Transfer) (s : Session) (w : World) (raw : Text) : Prop :=
  ∃ input, t.prepare s w.files raw = .ok input ∧ input.makesDirectory = true ∧
    w.MeetsNull input.destinationPath

/-! ### Files that are created and modes that are set -/

namespace Procedure

/-- Creating a file leaves open that a null character is in its path. -/
theorem leavesOpen_performTouch (path : Text) (w : World) :
    (performTouch path).LeavesOpen w
      (w.files.contains path = false ∧ w.machine.refuses path = true) := by
  refine .of_edits (quiet_performTouch path).edits ?_
  rw [performTouch, ActionOf.on_currentFiles_bind]
  by_cases hcontains : w.files.contains path = true
  · rw [if_pos hcontains]
    exact iff_of_false (not_unforeseen_ok _) (by simp [hcontains])
  · rw [if_neg hcontains, ActionOf.on_bind_pure, unforeseen_map_iff, unforeseen_adapt_iff,
      World.unfit_createFile_iff]
    simp [hcontains]

/-- Setting a mode leaves nothing open. -/
theorem leavesOpen_performMode (s : Site) (change : ModeChange) (w : World) :
    (performMode s change).LeavesOpen w False := by
  cases change with
  | byTool setting => exact .bind_pure (.of_conducts (conducts_launchChange s _ _) id) _
  | direct setting owner =>
    refine .bind_pure (.of_edits (quiet_changeMode _ _ _).edits ?_) _
    rw [unforeseen_adapt_iff]
    exact iff_false_intro (World.not_unfit_changeMode _)

/-! ### Showing access rights -/

theorem unforeseen_inspect_iff {path : Text} {w : World} :
    Unforeseen (ActionOf.on ((World.inspect path).adapt Failure.system : Action Node) w).1 ↔
      (∃ e, w.fault? .inspect 0 path = some e) ∨ w.files.contains path = false := by
  rw [Unforeseen, ActionOf.on_adapt, Result.failsAs_mapError_iff, World.inspect,
    ActionOf.on_get_bind]
  cases w.fault? .inspect 0 path with
  | some e => exact iff_of_true ⟨e, rfl, rfl⟩ (.inl ⟨e, rfl⟩)
  | none =>
    rw [FileSystem.contains]
    cases w.files.node? path with
    | none => exact iff_of_true ⟨_, rfl, rfl⟩ (.inr rfl)
    | some n => simp

/-- Showing access rights on Windows leaves open that a path cannot be looked at. -/
theorem leavesOpen_performRights (s : Site) (path : Text) (w : World) :
    (performRights s path).LeavesOpen w (s.platform = .windows ∧
      ((∃ e, w.fault? .inspect 0 path = some e) ∨ w.files.contains path = false)) := by
  rw [performRights]
  cases s.platform with
  | posix =>
    refine .bind_pure (.of_conducts (conducts_nativeRights s path) ?_) _
    rintro ⟨h, -⟩
    cases h
  | windows =>
    have hedits := (Quiet.of_reads (reads_inspect_adapt path)).edits
    refine .bind_pure (.get_bind ?_) _
    rw [and_iff_right rfl]
    exact .edits_bind_conducts hedits unforeseen_inspect_iff fun _ => conducts_details s path _

end Procedure

/-! ### Counting -/

/-- Whether a name is the one of a file that is opened after as many others as `opened` without a
fault. -/
def Session.Opens (s : Session) (w : World) (opened : Nat) (name : Text) : Prop :=
  ∃ path, s.resolve name = .ok path ∧ w.files.isFile path = true ∧
    w.fault? .openFile opened path = none

/-- Whether a name is the one of a file that meets a fault when it is opened after as many others as
`opened`. -/
def Session.MeetsFault (s : Session) (w : World) (opened : Nat) (name : Text) : Prop :=
  ∃ path e, s.resolve name = .ok path ∧ w.files.isFile path = true ∧
    w.fault? .openFile opened path = some e

namespace Procedure

variable {s : Session} {w : World} {opened : Nat} {name : Text}

theorem on_readFile_of_fault {path : Text} {e : SystemError}
    (h : w.fault? .openFile opened path = some e) :
    (World.readFile path opened).on w = (.error e, w) := by
  rw [World.readFile, ActionOf.on_get_bind]
  simp only [h]
  rfl

/-- What counting one file can end in: what is no file is reported, a fault is not, and else the
file is counted. -/
theorem countFile_cases (s : Session) (opened : Nat) (name : Text) (w : World) :
    (∃ e, (countFile s opened name).on w = (.error (.reported e), w) ∧
        ¬ s.Opens w opened name ∧ ¬ s.MeetsFault w opened name) ∨
      (∃ e, (countFile s opened name).on w = (.error (.system e), w) ∧
        ¬ s.Opens w opened name ∧ s.MeetsFault w opened name) ∨
      ∃ count, (countFile s opened name).on w = (.ok count, w) ∧
        s.Opens w opened name ∧ ¬ s.MeetsFault w opened name := by
  rw [countFile, ActionOf.on_bind, ActionOf.on_lift, Session.Opens, Session.MeetsFault]
  cases s.resolve name with
  | error e => exact .inl ⟨e, rfl, by simp, by simp⟩
  | ok path =>
    simp only [ofReported, Except.mapError, ActionOf.on_currentFiles_bind]
    cases hfile : w.files.isFile path with
    | false => exact .inl ⟨_, rfl, by simp [hfile], by simp [hfile]⟩
    | true =>
      rw [if_pos rfl, ActionOf.on_bind_pure, ActionOf.on_adapt]
      cases hfault : w.fault? .openFile opened path with
      | some e =>
        rw [on_readFile_of_fault hfault]
        exact .inr (.inl ⟨e, rfl, by simp [hfault], path, e, rfl, hfile, hfault⟩)
      | none =>
        obtain ⟨bytes, hbytes⟩ := Option.isSome_iff_exists.mp hfile
        rw [World.on_readFile hbytes hfault]
        exact .inr (.inr ⟨_, rfl, ⟨path, rfl, hfile, hfault⟩, by simp [hfault]⟩)

/-- Counting does not report that a file cannot be opened, if all files before it can be, but
anything else. -/
theorem unforeseen_countFiles_iff {names : List Text} :
    Unforeseen ((countFiles s opened names).on w).1 ↔
      ∃ earlier name later, names = earlier ++ name :: later ∧
        (∀ k n, earlier[k]? = some n → s.Opens w (opened + k) n) ∧
        s.MeetsFault w (opened + earlier.length) name := by
  induction names generalizing opened with
  | nil => simp [countFiles, not_unforeseen_ok]
  | cons name names ih =>
    -- the first file is the one that meets a fault, or it is opened
    have hsplit : (∃ earlier n later, name :: names = earlier ++ n :: later ∧
          (∀ k m, earlier[k]? = some m → s.Opens w (opened + k) m) ∧
          s.MeetsFault w (opened + earlier.length) n) ↔
        s.MeetsFault w opened name ∨ s.Opens w opened name ∧
          Unforeseen ((countFiles s (opened + 1) names).on w).1 := by
      rw [ih]
      constructor
      · rintro ⟨_ | ⟨m, earlier⟩, n, later, hcons, hopens, hmeets⟩ <;> cases hcons
        · exact .inl hmeets
        · refine .inr ⟨hopens 0 _ rfl, earlier, n, later, rfl, fun k n' hk => ?_, ?_⟩
          · exact Nat.add_right_comm opened 1 k ▸ hopens (k + 1) n' hk
          · exact Nat.add_right_comm opened 1 _ ▸ hmeets
      · rintro (hmeets | ⟨hopen, earlier, n, later, rfl, hopens, hmeets⟩)
        · exact ⟨[], name, names, rfl, by simp, hmeets⟩
        · refine ⟨name :: earlier, n, later, rfl, fun k m hk => ?_, ?_⟩
          · cases k with
            | zero =>
              cases hk
              exact hopen
            | succ k => exact Nat.add_right_comm opened 1 k ▸ hopens k m hk
          · exact Nat.add_right_comm opened 1 _ ▸ hmeets
    rw [hsplit, countFiles]
    rcases countFile_cases s opened name w with
      ⟨e, hon, hnot, hsafe⟩ | ⟨e, hon, -, hmeets⟩ | ⟨count, hon, hopens, hsafe⟩
    · rw [ActionOf.on_bind_of_error hon]
      simp [not_unforeseen_reported, hnot, hsafe]
    · rw [ActionOf.on_bind_of_error hon]
      simp [unforeseen_error_iff, hmeets, Failure.isUnforeseen]
    · rw [ActionOf.on_bind_of_ok hon, ActionOf.on_bind_pure, unforeseen_map_iff]
      simp [hopens, hsafe]

/-- Counting leaves open that a file cannot be opened, if all files before it can be. -/
theorem leavesOpen_performCount (s : Site) (names : List Text) (w : World) :
    (countContents.perform s names).LeavesOpen w
      (∃ earlier name later, names = earlier ++ name :: later ∧
        (∀ k n, earlier[k]? = some n → s.session.Opens w k n) ∧
        s.session.MeetsFault w earlier.length name) := by
  refine .bind_pure (.of_edits (.of_reads (reads_countFiles s.session 0 names)) ?_) _
  rw [unforeseen_countFiles_iff]
  simp only [Nat.zero_add]

theorem tokens_of_prepareCount {raw : Text} {names : List Text}
    (h : prepareCount raw = .ok names) : Argument.tokens raw = names := by
  rw [prepareCount] at h
  split at h
  · cases h
  · exact Except.ok.inj h

theorem prepareCount_of_tokens {raw : Text} (h : Argument.tokens raw ≠ []) :
    prepareCount raw = .ok (Argument.tokens raw) := by
  rw [prepareCount]
  split
  · contradiction
  · rfl

end Procedure

/-! ### Downloads -/

theorem Download.unforeseen_parseAddress_iff {address : Text} :
    Unforeseen (parseAddress address) ↔ ∃ fault, Url.parse address = .error fault := by
  rw [parseAddress, unforeseen_bind_iff]
  cases Url.parse address with
  | error fault => exact ⟨fun _ => ⟨fault, rfl⟩, fun _ => .inl ⟨.badUrl fault, rfl, rfl⟩⟩
  | ok url =>
    refine ⟨?_, fun ⟨_, h⟩ => nomatch h⟩
    rintro (h | ⟨found, -, h⟩)
    · exact absurd h (not_unforeseen_ok url)
    · split at h
      · exact absurd h (not_unforeseen_ok found)
      · exact absurd h (not_unforeseen_reported _)

/-- A download does not report that the address cannot be taken to pieces, but anything else that
is wrong with the arguments. -/
theorem Download.unforeseen_prepare_iff {s : Session} {raw : Text} :
    Unforeseen (prepare s raw) ↔ ∃ address rest fault, Argument.tokens raw = address :: rest ∧
      rest.length ≤ 1 ∧ Url.parse address = .error fault := by
  have hprepare : Unforeseen (prepare s raw) ↔ Unforeseen (parse raw) := by
    rw [prepare, unforeseen_bind_iff]
    refine or_iff_left ?_
    rintro ⟨request, -, h⟩
    rw [unforeseen_bind_iff] at h
    exact h.elim (not_unforeseen_ofReported _) fun ⟨_, _, h⟩ => not_unforeseen_ok _ h
  have hrequest (address : Text) (output : Option Text) :
      Unforeseen (do return Request.mk address (← parseAddress address) output) ↔
        ∃ fault, Url.parse address = .error fault := by
    rw [unforeseen_bind_iff, unforeseen_parseAddress_iff]
    exact or_iff_left fun ⟨_, _, h⟩ => not_unforeseen_ok _ h
  rw [hprepare, parse]
  rcases Argument.tokens raw with _ | ⟨address, _ | ⟨output, _ | ⟨other, others⟩⟩⟩
  · refine ⟨fun h => absurd h (not_unforeseen_reported _), ?_⟩
    rintro ⟨_, _, _, h, -⟩
    cases h
  · refine (hrequest address none).trans
      ⟨fun ⟨fault, h⟩ => ⟨address, [], fault, rfl, by simp, h⟩, ?_⟩
    rintro ⟨_, _, fault, hcons, -, h⟩
    cases hcons
    exact ⟨fault, h⟩
  · refine (hrequest address output).trans
      ⟨fun ⟨fault, h⟩ => ⟨address, [output], fault, rfl, by simp, h⟩, ?_⟩
    rintro ⟨_, _, fault, hcons, -, h⟩
    cases hcons
    exact ⟨fault, h⟩
  · refine ⟨fun h => absurd h (not_unforeseen_reported _), ?_⟩
    rintro ⟨_, _, _, hcons, hlength, -⟩
    cases hcons
    simp at hlength

namespace Download

/-- Whether an interruption says that a call cannot be made at all. -/
def Interruption.isUnfit : Interruption → Bool
  | .http _ => false
  | .system e => e.isUnfit

theorem isUnforeseen_report (input : Input) (e : Interruption) :
    (report input e).isUnforeseen = e.isUnfit := by
  cases e with
  | http fault => rfl
  | system e => exact Failure.isUnforeseen_ofSystem _ e

theorem unfit_adapt_iff {act : ActionOf SystemError α} {w : World} :
    FailsAs Interruption.isUnfit
        (ActionOf.on (act.adapt Interruption.system : ActionOf Interruption α) w).1 ↔
      FailsAs SystemError.isUnfit (act.on w).1 := by
  rw [ActionOf.on_adapt, Result.failsAs_mapError_iff]
  rfl

theorem not_unfit_check (fault : Option HttpFault) (w : World) :
    ¬ FailsAs Interruption.isUnfit ((check fault).on w).1 := by
  cases fault with
  | none => exact Result.not_failsAs_ok ()
  | some fault => exact fun h => Bool.false_ne_true (Result.failsAs_error_iff.mp h)

theorem not_unfit_ask (address : Text) (w : World) :
    ¬ FailsAs Interruption.isUnfit ((ask address).on w).1 := by
  rw [ask, ActionOf.on_modify_bind, ActionOf.on_get_bind, ActionOf.failsAs_on_bind_iff]
  rintro (h | ⟨_, w', -, h⟩)
  · exact not_unfit_check _ _ h
  · rw [ActionOf.on_bind_pure, Result.failsAs_map_iff] at h
    exact not_unfit_check _ w' h

theorem not_unfit_appendAll (temporary : Text) (chunks : List Utf8.Bytes) (w : World) :
    ¬ FailsAs Interruption.isUnfit ((appendAll temporary chunks).on w).1 := by
  induction chunks generalizing w with
  | nil => exact Result.not_failsAs_ok ()
  | cons chunk chunks ih =>
    rw [appendAll, ActionOf.failsAs_on_bind_iff, unfit_adapt_iff]
    rintro (h | ⟨_, w', -, h⟩)
    · exact World.not_unfit_append chunk h
    · exact ih w' h

/-- Takes up the pieces of a document. -/
def gather (temporary : Text) (answer : HttpAnswer) : ActionOf Interruption Unit := do
  appendAll temporary answer.chunks
  check answer.bodyFault

theorem edits_gather (temporary : Text) (answer : HttpAnswer) : (gather temporary answer).Edits :=
  (within_appendAll (World.edits_append temporary) _).bind fun _ => .of_reads (reads_check _)

theorem not_unfit_gather (temporary : Text) (answer : HttpAnswer) (w : World) :
    ¬ FailsAs Interruption.isUnfit ((gather temporary answer).on w).1 := by
  rw [gather, ActionOf.failsAs_on_bind_iff]
  rintro (h | ⟨_, w', -, h⟩)
  · exact not_unfit_appendAll _ _ w h
  · exact not_unfit_check _ w' h

/-- Whether a null character keeps a document from being saved: one in the path of the file that it
is to be collected in, once the server has answered, or one in the path of the target, once it is
collected. -/
def MeetsNull (w : World) (address target : Text) : Prop :=
  (∃ answer w', (ask address).on w = (.ok answer, w')) ∧
      w.machine.refuses (temporaryFor target) = true ∨
    (∃ answer w' w'', (opening address target).on w = (.ok answer, w') ∧
        (gather (temporaryFor target) answer).on w' = (.ok (), w'')) ∧
      w.machine.refuses target = true

theorem unfit_opening_iff {address target : Text} {w : World} :
    FailsAs Interruption.isUnfit ((opening address target).on w).1 ↔
      (∃ answer w', (ask address).on w = (.ok answer, w')) ∧
        w.machine.refuses (temporaryFor target) = true := by
  rw [opening, ActionOf.failsAs_on_bind_iff, or_iff_right (not_unfit_ask address w),
    ← exists_and_right]
  refine exists_congr fun answer => ?_
  rw [← exists_and_right]
  refine exists_congr fun w' => and_congr_right fun hask => ?_
  have hmachine := ((edits_ask address) w).machine_eq
  rw [hask] at hmachine
  rw [ActionOf.on_bind_pure, Result.failsAs_map_iff, unfit_adapt_iff,
    World.unfit_createTemporary_iff, hmachine]

theorem unfit_collect_iff {temporary target : Text} {answer : HttpAnswer} {w : World} :
    FailsAs Interruption.isUnfit ((collect temporary target answer).on w).1 ↔
      (∃ w', (gather temporary answer).on w = (.ok (), w')) ∧ w.machine.refuses target = true := by
  have hcollect : collect temporary target answer = gather temporary answer >>= fun _ =>
      (World.replaceFile temporary target).adapt Interruption.system := by
    simp only [collect, gather, bind_assoc]
  rw [hcollect, ActionOf.failsAs_on_bind_iff, or_iff_right (not_unfit_gather temporary answer w),
    ← exists_and_right]
  constructor
  · rintro ⟨_, w', hgather, h⟩
    have hmachine := (edits_gather temporary answer w).machine_eq
    rw [hgather] at hmachine
    rw [unfit_adapt_iff, World.unfit_replaceFile_iff, hmachine] at h
    exact ⟨w', hgather, h⟩
  · rintro ⟨w', hgather, h⟩
    have hmachine := (edits_gather temporary answer w).machine_eq
    rw [hgather] at hmachine
    refine ⟨(), w', hgather, ?_⟩
    rwa [unfit_adapt_iff, World.unfit_replaceFile_iff, hmachine]

theorem unfit_fetch_iff {address target : Text} {w : World} :
    FailsAs Interruption.isUnfit ((fetch address target).on w).1 ↔ MeetsNull w address target := by
  have hedits := edits_opening address target w
  rw [MeetsNull, ← unfit_opening_iff]
  rcases fetch_cases address target w with ⟨e, w', hopening, hon⟩ | ⟨answer, w₁, hopening, hrest⟩
  · simp [hopening, hon]
  · have hcollect : FailsAs Interruption.isUnfit ((fetch address target).on w).1 ↔
        FailsAs Interruption.isUnfit
          ((collect (temporaryFor target) target answer).on w₁).1 := by
      rcases hrest with ⟨w₂, hcollect, hon⟩ | ⟨e, w₂, hcollect, hon⟩ <;> rw [hcollect, hon]
    rw [hopening] at hedits
    rw [hcollect, unfit_collect_iff, hedits.machine_eq, hopening]
    simp

/-- A download leaves open what a null character keeps from being saved. -/
theorem leavesOpen_perform (input : Input) (w : World) :
    (perform input).LeavesOpen w (MeetsNull w input.request.address input.path) := by
  refine .of_edits (quiet_perform input).edits ?_
  rw [on_perform, unforeseen_map_iff, Unforeseen, Result.failsAs_mapError_iff, ← unfit_fetch_iff]
  simp only [isUnforeseen_report]

end Download

/-! ### All commands -/

/-- The gaps: in what circumstances a command ends in a failure that it does not report, apart from
processes that break. -/
def Site.LeavesOpen (s : Site) (w : World) (raw : Text) : Command → Prop
  | .cp => Transfer.copy.MeetsNull s.session w raw
  | .mv => Transfer.move.MeetsNull s.session w raw
  | .touch => s.platform = .windows ∧ ∃ path, Procedure.prepareTouch s.session raw = .ok path ∧
      w.files.contains path = false ∧ w.machine.refuses path = true
  | .wc => ∃ earlier name later, Argument.tokens raw = earlier ++ name :: later ∧
      (∀ k n, earlier[k]? = some n → s.session.Opens w k n) ∧
      s.session.MeetsFault w earlier.length name
  | .accessRights => s.platform = .windows ∧
      ∃ path, Procedure.prepareRights s.session w.files raw = .ok path ∧
        ((∃ e, w.fault? .inspect 0 path = some e) ∨ w.files.contains path = false)
  | .wget => (∃ address rest fault, Argument.tokens raw = address :: rest ∧ rest.length ≤ 1 ∧
      Url.parse address = .error fault) ∨
      ∃ input, Download.prepare s.session raw = .ok input ∧
        Download.MeetsNull w input.request.address input.path
  | _ => False

namespace Command

variable {c : Command} {p : Procedure}

/-- All commands but one report whatever is wrong with their arguments. -/
theorem not_unforeseen_prepare {platform : Platform} (hc : c ≠ .wget)
    (hp : c.procedure? platform = some p) (s : Session) (files : FileSystem) (raw : Text) :
    ¬ Unforeseen (p.prepare s files raw) := by
  cases c <;> try cases hp
  case touch =>
    obtain rfl := eq_touch_of_procedure? hp
    exact not_unforeseen_ofReported _
  case wget => exact absurd rfl hc
  case chmod => exact Procedure.not_unforeseen_prepareMode s files raw
  case ps => exact not_unforeseen_ok _
  case quotacheck => exact not_unforeseen_ok _
  all_goals exact not_unforeseen_ofReported _

/-- What a procedure leaves open whose first part reports whatever is wrong with the arguments. -/
theorem leavesOpen_run_of_perform {s : Site} (hc : c ≠ .wget)
    (hp : c.procedure? s.platform = some p) {raw : Text} {w : World} {P : p.Input → Prop}
    (h : ∀ input, (p.perform s input).LeavesOpen w (P input)) :
    (p.run s raw).LeavesOpen w
      (∃ input, p.prepare s.session w.files raw = .ok input ∧ P input) :=
  (Procedure.unforeseen_run_iff fun input _ => h input).congr
    (or_iff_right (not_unforeseen_prepare hc hp s.session w.files raw))

theorem leavesOpen_transfer {s : Site} {raw : Text} {w : World} (t : Transfer) (hc : c ≠ .wget)
    (hp : c.procedure? s.platform = some t.procedure) :
    (t.procedure.run s raw).LeavesOpen w (t.MeetsNull s.session w raw) :=
  (leavesOpen_run_of_perform hc hp fun input => t.leavesOpen_perform s input w).congr
    (exists_congr fun _ => and_congr_left fun _ => Result.ofReported_eq_ok)

/-- What a procedure leaves open. -/
theorem leavesOpen_run {s : Site} (hp : c.procedure? s.platform = some p) (raw : Text)
    (w : World) : (p.run s raw).LeavesOpen w (s.LeavesOpen w raw c) := by
  cases htools : c.runsToolsOnly with
  | true =>
    have hc : c ≠ .wget := by
      rintro rfl
      cases htools
    refine (leavesOpen_run_of_perform hc hp fun input =>
      ActionOf.LeavesOpen.of_conducts (conducts_procedure htools hp input) id).congr
        (iff_of_false (fun ⟨_, _, h⟩ => h) ?_)
    cases c <;> first | exact id | cases htools
  | false =>
    cases c <;> cases htools
    case false.cp => cases hp; exact leavesOpen_transfer (c := .cp) .copy (by decide) rfl
    case false.mv => cases hp; exact leavesOpen_transfer (c := .mv) .move (by decide) rfl
    case false.touch =>
      obtain rfl := eq_touch_of_procedure? hp
      refine (leavesOpen_run_of_perform (by decide) hp fun path =>
        Procedure.leavesOpen_performTouch path w).congr ?_
      have hplatform : s.platform = .windows := by
        cases hplatform : s.platform with
        | posix =>
          rw [hplatform] at hp
          cases hp
        | windows => rfl
      rw [Site.LeavesOpen, and_iff_right hplatform]
      exact exists_congr fun path => and_congr_left fun _ => Result.ofReported_eq_ok
    case false.chmod =>
      cases hp
      refine (leavesOpen_run_of_perform (c := .chmod) (by decide) rfl fun change =>
        Procedure.leavesOpen_performMode s change w).congr ?_
      exact iff_of_false (fun ⟨_, _, h⟩ => h) id
    case false.wc =>
      cases hp
      refine (leavesOpen_run_of_perform (c := .wc) (by decide) rfl fun names =>
        Procedure.leavesOpen_performCount s names w).congr ?_
      rw [Site.LeavesOpen]
      constructor
      · rintro ⟨names, hnames, hopen⟩
        rwa [Procedure.tokens_of_prepareCount (Result.ofReported_eq_ok.mp hnames)]
      · intro hopen
        refine ⟨Argument.tokens raw, Result.ofReported_eq_ok.mpr ?_, hopen⟩
        obtain ⟨earlier, name, later, htokens, -⟩ := hopen
        exact Procedure.prepareCount_of_tokens (by simp [htokens])
    case false.accessRights =>
      cases hp
      refine (leavesOpen_run_of_perform (c := .accessRights) (by decide) rfl fun path =>
        Procedure.leavesOpen_performRights s path w).congr ?_
      rw [Site.LeavesOpen, ← exists_and_left]
      refine exists_congr fun path => ?_
      rw [and_left_comm]
      exact and_congr_right fun _ => and_congr_left fun _ => Result.ofReported_eq_ok
    case false.wget =>
      cases hp
      refine (Procedure.unforeseen_run_iff fun input _ =>
        Download.leavesOpen_perform input w).congr ?_
      exact or_congr_left Download.unforeseen_prepare_iff

end Command

/-- A command ends in a failure that it does not report exactly in one of the gaps, or if one of its
processes breaks. -/
theorem Site.unforeseen_plan_iff (s : Site) (c : Command) (raw : Text) (w : World) :
    Unforeseen ((s.plan c raw).on w).1 ↔
      s.LeavesOpen w raw c ∨ w.Breaks ((s.plan c raw).on w).2 := by
  have hsame : ¬ w.Breaks w := World.not_breaks_of_edits (refl w)
  rw [Site.plan]
  cases hbuiltin : c.isBuiltin with
  | true =>
    rw [if_pos rfl]
    refine iff_of_false (not_unforeseen_reported _) (not_or.mpr ⟨?_, hsame⟩)
    cases c <;> first | exact id | cases hbuiltin
  | false =>
    rw [if_neg Bool.false_ne_true]
    cases hp : c.procedure? s.platform with
    | none =>
      refine iff_of_false (not_unforeseen_ok _) (not_or.mpr ⟨fun hopen => ?_, hsame⟩)
      cases c <;> try first | exact hopen | cases hp
      -- `touch` has a procedure on Windows
      rw [hopen.1] at hp
      cases hp
    | some p => exact (Command.leavesOpen_run hp raw w).bind_pure _

end PortableShell
