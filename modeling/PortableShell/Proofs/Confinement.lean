import PortableShell.Proofs.Arguments
import PortableShell.Proofs.Directory
import PortableShell.Proofs.Preparation

/-!
# What commands do to the files

Native tools apart, few commands touch a file: copying and moving may make the directory of the
destination, on Windows a file may be created or its mode be changed, and a download saves a
document.  All other nodes stay as they are, whatever goes wrong.

## Main definitions

* `Command.Saves`, `Command.SetsMode`, `Command.Creates`: the paths at which a command replaces a
  file, changes a mode, or makes a new node.
* `Command.Confines`: whether the files after a command differ from those before at such paths only.
* `Command.NodeChange`: what may become of the node of a path.

## Main statements

* `Command.confines_run`: what a procedure does to the files.
* `Shell.confines_submit`: every command confines what it does to the files.
* `Shell.Reachable.answer_of_linkFree`: where there are no links, none are made in a run.
-/

namespace PortableShell

open FileSystem (key IsAtOrAbove)

/-! ### Where a command may touch a file -/

/-- Whether a path is that of the destination directory of a copied or moved file, or above it.
Only a destination that is written with a separator at its end is such a directory. -/
def Transfer.MakesDirectory (s : Session) (raw q : Text) : Prop :=
  ∃ source destination path, Argument.tokens raw = [source, destination] ∧
    namesDirectory destination = true ∧ s.resolve destination = .ok path ∧ IsAtOrAbove q path

namespace Command

/-- Whether a path is that of the document that a command saved: the target of a download that
succeeded. -/
def Saves (s : Session) (raw : Text) (ok : Bool) (q : Text) : Command → Prop
  | .wget => ok = true ∧ ∃ input, Download.prepare s raw = .ok input ∧ key q = key input.path
  | _ => False

/-- Whether a path is that of the file whose mode a command changed itself, which it does on Windows
only. -/
def SetsMode (s : Session) (raw : Text) (ok : Bool) (q : Text) : Command → Prop
  | .chmod => s.platform = .windows ∧ ok = true ∧
      ∃ path, s.resolve (Argument.leading raw).2 = .ok path ∧ key q = key path
  | _ => False

/-- Whether a command may have made a new node at a path: a missing directory of a destination, an
empty file on Windows, the document that was saved, or, if a download failed and the file that it
collected its document in could not be removed, that file. -/
def Creates (s : Session) (w : World) (raw : Text) (ok : Bool) (q : Text) (n : Node) :
    Command → Prop
  | .cp | .mv => n = .newDirectory ∧ Transfer.MakesDirectory s raw q
  | .touch => n = .newFile ∧ s.platform = .windows ∧ ok = true ∧
      ∃ name path, Argument.tokens raw = [name] ∧ s.resolve name = .ok path ∧ key q = key path
  | .wget => n.isDirectory = false ∧ ∃ input, Download.prepare s raw = .ok input ∧
      (ok = true ∧ key q = key input.path ∨
        ok = false ∧ key q = key (Download.temporaryFor input.path) ∧
          ∃ e, w.fault? .remove 0 (Download.temporaryFor input.path) = some e)
  | _ => False

/-- Whether the files after a command, which succeeded if `ok` holds, differ from those of the world
before it only where the command may touch them. -/
structure Confines (c : Command) (s : Session) (w : World) (raw : Text) (ok : Bool)
    (after : FileSystem) : Prop where
  /-- Every node is still there, and it is the same but for its mode, unless it is a file or a link
  in whose place a document was saved. -/
  kept : ∀ q n, w.files.node? q = some n →
    (∃ mode, after.node? q = some { n with mode }) ∨
      (c.Saves s raw ok q ∧ n.content ≠ .directory ∧ after.isFile q = true)
  /-- A mode changes only where it was to be changed, and with a document that was saved. -/
  mode_of_ne : ∀ q n n', w.files.node? q = some n → after.node? q = some n' → n'.mode ≠ n.mode →
    c.SetsMode s raw ok q ∨ c.Saves s raw ok q
  /-- There are no new nodes but those that the command may have made. -/
  created : ∀ q n, w.files.node? q = none → after.node? q = some n → c.Creates s w raw ok q n

variable {c : Command} {s : Session} {w : World} {raw : Text} {ok : Bool} {after : FileSystem}

theorem Saves.creates {q : Text} {n : Node} (h : c.Saves s raw ok q) (hn : n.isDirectory = false) :
    c.Creates s w raw ok q n := by
  cases c with
  | wget =>
    obtain ⟨hok, input, hinput, hq⟩ := h
    exact ⟨hn, input, hinput, .inl ⟨hok, hq⟩⟩
  | _ => exact h.elim

/-- What may become of the node of a path. -/
inductive NodeChange (c : Command) (s : Session) (w : World) (raw : Text) (ok : Bool)
    (after : FileSystem) (q : Text) : Prop where
  | same (h : after.node? q = w.files.node? q)
  | mode {n : Node} {mode : Nat} (hn : w.files.node? q = some n)
      (hafter : after.node? q = some { n with mode }) (hq : c.SetsMode s raw ok q)
  | made {n : Node} (hnone : w.files.node? q = none) (hafter : after.node? q = some n)
      (hq : c.Creates s w raw ok q n)
  | saved (hreplaceable : w.files.isReplaceable q = true) (hfile : after.isFile q = true)
      (hq : c.Saves s raw ok q)

/-- What a command does can be told one node at a time. -/
theorem Confines.of_nodeChange (h : ∀ q, c.NodeChange s w raw ok after q) :
    c.Confines s w raw ok after where
  kept q n hn := by
    cases h q with
    | same hsame => exact .inl ⟨n.mode, hsame.trans hn⟩
    | mode hn' hafter hq =>
      cases hn.symm.trans hn'
      exact .inl ⟨_, hafter⟩
    | made hnone hafter hq => cases hn.symm.trans hnone
    | saved hreplaceable hfile hq =>
      rw [FileSystem.isReplaceable, hn] at hreplaceable
      exact .inr ⟨hq, by simpa using hreplaceable, hfile⟩
  mode_of_ne q n n' hn hn' hmode := by
    cases h q with
    | same hsame =>
      cases hn'.symm.trans (hsame.trans hn)
      exact absurd rfl hmode
    | mode _ _ hq => exact .inl hq
    | made hnone hafter hq => cases hn.symm.trans hnone
    | saved _ _ hq => exact .inr hq
  created q n hnone hn := by
    cases h q with
    | same hsame => cases hn.symm.trans (hsame.trans hnone)
    | mode hn' hafter hq => cases hnone.symm.trans hn'
    | made _ hafter hq =>
      cases hn.symm.trans hafter
      exact hq
    | saved _ hfile hq =>
      obtain ⟨n', hn', hdirectory'⟩ := FileSystem.isFile_iff.mp hfile
      cases hn.symm.trans hn'
      exact hq.creates hdirectory'

theorem Confines.of_files_eq (h : after = w.files) : c.Confines s w raw ok after :=
  .of_nodeChange fun _ => .same (by rw [h])

/-- A new node is no link. -/
theorem Creates.isLink_eq_false {q : Text} {n : Node} (h : c.Creates s w raw ok q n) :
    n.isLink = false := by
  have hdirectory (hn : n.isDirectory = false) : n.isLink = false := by
    rcases n with ⟨_ | _ | _, _, _⟩ <;> first | rfl | cases hn
  cases c with
  | cp | mv | touch =>
    obtain ⟨rfl, -⟩ := h
    rfl
  | wget => exact hdirectory h.1
  | _ => exact h.elim

/-- So no command makes a link. -/
theorem Confines.isLink_eq_false (h : c.Confines s w raw ok after) {q : Text}
    (hq : w.files.isLink q = false) : after.isLink q = false := by
  rw [FileSystem.isLink] at hq ⊢
  cases hafter : after.node? q with
  | none => rfl
  | some n' =>
    rw [Option.any_some]
    cases hn : w.files.node? q with
    | none => exact (h.created q n' hn hafter).isLink_eq_false
    | some n =>
      rw [hn, Option.any_some] at hq
      rcases h.kept q n hn with ⟨mode, hsame⟩ | ⟨-, -, hfile⟩
      · cases hafter.symm.trans hsame
        exact hq
      · obtain ⟨n'', hn'', hdirectory⟩ := FileSystem.isFile_iff.mp hfile
        cases hafter.symm.trans hn''
        rcases n' with ⟨_ | _ | _, _, _⟩ <;> first | rfl | cases hdirectory

/-- What is recorded does not matter. -/
theorem Confines.of_record {name arguments : Text}
    (h : c.Confines (s.record name arguments) w raw ok after) : c.Confines s w raw ok after := by
  rw [Session.record] at h
  split at h <;> exact ⟨h.kept, h.mode_of_ne, h.created⟩

end Command

/-! ### Procedures -/

/-- A procedure whose second part touches no file touches none. -/
theorem Procedure.sameFiles_run {p : Procedure} {s : Site}
    (h : ∀ input, (p.perform s input).Within World.SameFiles) (raw : Text) :
    (p.run s raw).Within World.SameFiles :=
  .currentFiles_bind fun _ => .lift_bind fun input => h input

/-- Copying and moving make directories at and above the destination, and touch nothing else. -/
theorem Transfer.node?_perform (t : Transfer) (s : Site) (input : Input) (w : World) (q : Text) :
    ((t.perform s input).on w).2.files.node? q = w.files.node? q ∨
      input.makesDirectory = true ∧ IsAtOrAbove q input.destinationPath ∧
        w.files.node? q = none ∧
        ((t.perform s input).on w).2.files.node? q = some .newDirectory := by
  have htool := (t.conducts_runTool s input).sameFiles
  rw [Transfer.perform]
  by_cases hmakes : input.makesDirectory = true
  · rw [if_pos hmakes, World.files_on_bind fun _ => htool, ActionOf.on_adapt]
    have hgrown := World.grownTo_createDirectories input.destinationPath w
    rcases hgrown.files q with hsame | ⟨hnone, hmade, hq⟩
    · exact .inl hsame
    · exact .inr ⟨hmakes, hq, hnone, hmade⟩
  · rw [if_neg hmakes, htool]
    exact .inl rfl

/-- Creating a file creates it if nothing is there, and touches nothing else. -/
theorem Procedure.node?_performTouch (path : Text) (w : World) (q : Text) :
    ((performTouch path).on w).2.files.node? q = w.files.node? q ∨
      ((performTouch path).on w).1.isOk = true ∧ key q = key path ∧ w.files.node? q = none ∧
        ((performTouch path).on w).2.files.node? q = some .newFile := by
  rw [performTouch, ActionOf.on_currentFiles_bind]
  by_cases hcontains : w.files.contains path = true
  · rw [if_pos hcontains]
    exact .inl rfl
  · rw [if_neg hcontains, ActionOf.on_bind_pure, ActionOf.on_adapt]
    rcases World.createFile_cases path w with ⟨e, hon⟩ | hon <;> rw [hon]
    · exact .inl rfl
    · by_cases hq : key q = key path
      · refine .inr ⟨rfl, hq, ?_, ?_⟩
        · exact (FileSystem.node?_congr hq _).trans
            (FileSystem.node?_eq_none_of_not_contains hcontains)
        · exact (FileSystem.node?_congr hq _).trans (FileSystem.node?_write_self _ _ _)
      · exact .inl (FileSystem.node?_write_of_ne hq _ _)

/-- Only a mode that is set directly changes a node, and of this nothing but the mode. -/
theorem Procedure.node?_performMode (s : Site) (change : ModeChange) (w : World) (q : Text) :
    ((performMode s change).on w).2.files.node? q = w.files.node? q ∨
      ∃ setting owner, change = .direct setting owner ∧
        ((performMode s change).on w).1.isOk = true ∧ key q = key setting.path ∧
        ∃ n mode, w.files.node? q = some n ∧
          ((performMode s change).on w).2.files.node? q = some { n with mode } := by
  cases change with
  | byTool setting =>
    have htool : (performMode s (.byTool setting)).Within World.SameFiles :=
      (conducts_launchChange s _ _).sameFiles.bind fun _ => .pure _
    exact .inl (by rw [htool])
  | direct setting owner =>
    rw [performMode, ActionOf.on_bind_pure, ActionOf.on_adapt]
    rcases World.changeMode_cases setting.path owner.ownerBits w with ⟨e, hon⟩ | hon <;> rw [hon]
    · exact .inl rfl
    · rcases w.files.node?_update setting.path q _ with hsame | ⟨hq, n, hn, hafter⟩
      · exact .inl hsame
      · exact .inr ⟨setting, owner, rfl, rfl, hq, n, _, hn, hafter⟩

/-- A download saves its document at the target if it succeeds, and if not, it leaves nothing but
what it could not remove. -/
theorem Download.confines_perform {s : Session} {w : World} {raw : Text} {input : Input}
    (hprepare : prepare s raw = .ok input) (hfresh : Fresh s w raw) :
    Command.wget.Confines s w raw ((perform input).on w).1.isOk
      ((perform input).on w).2.files := by
  have hnew := fun answer => hfresh input answer hprepare
  rw [on_perform]
  rcases hfetch : (fetch input.request.address input.path).on w with ⟨e | _, w'⟩
  · refine .of_nodeChange fun q => ?_
    rcases node?_fetch_of_error hnew hfetch q with hsame | ⟨hq, hnone, hfile, hfault⟩
    · exact .same hsame
    · obtain ⟨n, hn, hdirectory⟩ := FileSystem.isFile_iff.mp hfile
      exact .made hnone hn ⟨hdirectory, input, hprepare, .inr ⟨rfl, hq, hfault⟩⟩
  · refine .of_nodeChange fun q => ?_
    rcases node?_fetch_of_ok hnew hfetch q with hsame | ⟨hq, hreplaceable, hfile⟩
    · exact .same hsame
    · exact .saved hreplaceable hfile ⟨rfl, input, hprepare, hq⟩

namespace Command

variable {c : Command} {s : Site} {p : Procedure} {raw : Text} {w : World}

/-- A procedure that cannot make out what is to be done touches no file. -/
theorem Confines.run (h : ∀ input, p.prepare s.session w.files raw = .ok input →
      c.Confines s.session w raw ((p.perform s input).on w).1.isOk
        ((p.perform s input).on w).2.files) :
    c.Confines s.session w raw ((p.run s raw).on w).1.isOk ((p.run s raw).on w).2.files := by
  rcases p.run_cases s raw w with ⟨f, -, hon⟩ | ⟨input, hprepare, hon⟩
  · rw [hon]
    exact .of_files_eq rfl
  · rw [hon]
    exact h input hprepare

theorem confines_transfer (t : Transfer) (hc : c = .cp ∨ c = .mv) :
    c.Confines s.session w raw ((t.procedure.run s raw).on w).1.isOk
      ((t.procedure.run s raw).on w).2.files := by
  refine .run fun input hprepare => .of_nodeChange fun q => ?_
  rcases t.node?_perform s input w q with hsame | ⟨hmakes, hq, hnone, hmade⟩
  · exact .same hsame
  · obtain ⟨htokens, hdestination, hnames⟩ :=
      Transfer.tokens_of_prepare (Result.ofReported_eq_ok.mp hprepare)
    rw [hmakes, Eq.comm, Bool.and_eq_true] at hnames
    have hdirectory : Transfer.MakesDirectory s.session raw q :=
      ⟨_, _, _, htokens, hnames.1, hdestination, hq⟩
    refine .made hnone hmade ?_
    rcases hc with rfl | rfl
    · exact ⟨rfl, hdirectory⟩
    · exact ⟨rfl, hdirectory⟩

theorem confines_touch (hplatform : s.platform = .windows) :
    touch.Confines s.session w raw ((Procedure.touch.run s raw).on w).1.isOk
      ((Procedure.touch.run s raw).on w).2.files := by
  refine .run fun path hprepare => .of_nodeChange fun q => ?_
  rcases Procedure.node?_performTouch path w q with hsame | ⟨hok, hq, hnone, hmade⟩
  · exact .same hsame
  · obtain ⟨name, htokens, hpath⟩ :=
      Procedure.tokens_of_prepareTouch (Result.ofReported_eq_ok.mp hprepare)
    exact .made hnone hmade ⟨rfl, hplatform, hok, name, path, htokens, hpath, hq⟩

theorem confines_chmod :
    chmod.Confines s.session w raw ((Procedure.changeMode.run s raw).on w).1.isOk
      ((Procedure.changeMode.run s raw).on w).2.files := by
  refine .run fun change hprepare => .of_nodeChange fun q => ?_
  rcases Procedure.node?_performMode s change w q with
    hsame | ⟨setting, owner, rfl, hok, hq, n, mode, hn, hafter⟩
  · exact .same hsame
  · obtain ⟨hplatform, hpath⟩ := Procedure.direct_of_prepareMode hprepare
    exact .mode hn hafter ⟨hplatform, hok, setting.path, hpath, hq⟩

/-- What a procedure does to the files. -/
theorem confines_run (hp : c.procedure? s.platform = some p)
    (hfresh : c = .wget → Download.Fresh s.session w raw) :
    c.Confines s.session w raw ((p.run s raw).on w).1.isOk ((p.run s raw).on w).2.files := by
  cases htools : c.runsToolsOnly with
  | true =>
    have hsame := Procedure.sameFiles_run fun input =>
      (conducts_procedure htools hp input).sameFiles
    exact .of_files_eq (hsame raw w)
  | false =>
    cases c <;> cases htools
    case false.cp => cases hp; exact confines_transfer .copy (.inl rfl)
    case false.mv => cases hp; exact confines_transfer .move (.inr rfl)
    case false.touch =>
      obtain rfl := eq_touch_of_procedure? hp
      cases hplatform : s.platform with
      | posix =>
        rw [hplatform] at hp
        cases hp
      | windows => exact confines_touch hplatform
    case false.chmod => cases hp; exact confines_chmod
    case false.wc =>
      cases hp
      have hsame := Procedure.sameFiles_run (p := .countContents) fun input =>
        (ActionOf.Within.of_reads (Procedure.reads_countFiles s.session 0 input)).bind
          fun _ => .pure _
      exact .of_files_eq (hsame raw w)
    case false.accessRights =>
      cases hp
      have hsame := Procedure.sameFiles_run (p := .accessRights) fun path =>
        Procedure.sameFiles_performRights s path
      exact .of_files_eq (hsame raw w)
    case false.wget =>
      cases hp
      exact .run fun input hprepare => Download.confines_perform hprepare (hfresh rfl)

end Command

namespace Shell

/-! ### Commands and their replies -/

/-- Carrying out a command confines what it does to the files. -/
theorem confines_execute {s : Site} {c : Command} {raw : Text} {w : World}
    (hc : c.isBuiltin = false) (hfresh : c = .wget → Download.Fresh s.session w raw)
    (commandLine : Text) :
    c.Confines s.session w raw ((execute s c raw commandLine).on w).1.isOk
      ((execute s c raw commandLine).on w).2.files := by
  cases hp : c.procedure? s.platform with
  | none =>
    rw [on_execute_of_isHandedOver ⟨hc, hp⟩]
    exact .of_files_eq rfl
  | some p =>
    rw [execute_of_procedure hc hp, ActionOf.on_bind_pure, Result.isOk_map]
    exact Command.confines_run hp hfresh

/-- A reply is no error if it is made of a result that is none. -/
theorem ok_ofResult {result : Except Failure Reply}
    (h : ∀ reply, result = .ok reply → reply.ok = true) (commandLine : Text) :
    (Reply.ofResult commandLine result).ok = result.isOk := by
  cases result with
  | ok reply => exact h reply rfl
  | error f => rfl

theorem confines_of_parse {s : Shell} {name raw : Text} {c : Command}
    (hparse : Command.parse (Text.trim name) = .ok c)
    (hfresh : c = .wget → Download.Fresh s.session s.world (Text.trim raw)) :
    c.Confines s.session s.world (Text.trim raw) (s.submit name raw).1.ok
      (s.submit name raw).2.world.files := by
  rw [submit_of_parse hparse, Prod.map_snd, id, Prod.map_fst]
  cases hc : c.isBuiltin with
  | true =>
    refine .of_files_eq ?_
    rw [world_dispatch_of_isBuiltin _ hc]
    rfl
  | false =>
    rw [dispatch_of_isBuiltin_eq_false _ hc]
    let site := (s.recorded c (Text.trim raw)).site
    let commandLine := echo (Text.trim name) (Text.trim raw)
    have hrecorded : c = .wget → Download.Fresh site.session s.world (Text.trim raw) := by
      rintro hwget input answer hprepare
      exact hfresh hwget input answer ((Download.prepare_record _ _ _ _).symm.trans hprepare)
    have hyields := yields_execute site c (Text.trim raw) commandLine s.world
    have hexecute := confines_execute hc hrecorded commandLine
    rw [← ok_ofResult hyields commandLine] at hexecute
    exact hexecute.of_record

/-- Whatever a command does to the files is confined: what is the name of no command changes no
file, and the files after a command differ from those before only where it may touch them. -/
theorem confines_submit (s : Shell) (name raw : Text)
    (hfresh : Command.parse (Text.trim name) = .ok .wget →
      Download.Fresh s.session s.world (Text.trim raw)) :
    (∀ e, Command.parse (Text.trim name) = .error e →
      (s.submit name raw).2.world.files = s.world.files) ∧
    ∀ c, Command.parse (Text.trim name) = .ok c →
      c.Confines s.session s.world (Text.trim raw) (s.submit name raw).1.ok
        (s.submit name raw).2.world.files := by
  refine ⟨fun e hparse => ?_, fun c hparse => ?_⟩
  · rw [submit_of_parse_error hparse]
  · refine confines_of_parse hparse ?_
    rintro rfl
    exact hfresh hparse

/-- A download that breaks off, where there is a file at its target, and the file that its document
is collected in cannot be removed. -/
theorem confines_submit_of_broken_off :
    let s : Shell := ⟨{ directory := "/", platform := .posix, home := "/me" }, .unlimited,
      { files := .write .bare "/a" ⟨.file [1], 0o600, none⟩
        http := { chunks := ["b"], bodyFault := some ⟨.timeout, "late"⟩ }
        faults := fun call _ _ => if call = .remove then some (.refusal "busy") else none }⟩
    Command.parse (Text.trim "wget") = .ok .wget ∧
      Download.Fresh s.session s.world (Text.trim "http://h/a") ∧
      Command.wget.Confines s.session s.world (Text.trim "http://h/a")
        (s.submit "wget" "http://h/a").1.ok (s.submit "wget" "http://h/a").2.world.files := by
  intro s
  have hparse : Command.parse (Text.trim "wget") = .ok .wget := rfl
  have hfresh : Download.Fresh s.session s.world (Text.trim "http://h/a") := by
    intro input answer hprepare _
    have hpath : Download.prepare s.session (Text.trim "http://h/a") =
        .ok ⟨⟨"http://h/a", ⟨"http", "h", "/a"⟩, none⟩, "/a"⟩ := rfl
    cases hpath.symm.trans hprepare
    rfl
  exact ⟨hparse, hfresh, (confines_submit s "wget" "http://h/a" fun _ => hfresh).2 .wget hparse⟩

/-! ### Runs without links -/

/-- Whether there is no symbolic link among the files. -/
def LinkFree (s : Shell) : Prop :=
  ∀ q, s.world.files.isLink q = false

theorem LinkFree.submit {s : Shell} (hs : s.LinkFree) (name raw : Text)
    (hfresh : Command.parse (Text.trim name) = .ok .wget →
      Download.Fresh s.session s.world (Text.trim raw)) : (s.submit name raw).2.LinkFree := by
  intro q
  cases hparse : Command.parse (Text.trim name) with
  | error e =>
    rw [submit_of_parse_error hparse]
    exact hs q
  | ok c =>
    refine (confines_of_parse hparse ?_).isLink_eq_false (hs q)
    rintro rfl
    exact hfresh hparse

/-- Where there is no link, a run goes on with every call that meets new files for its documents,
and there is no link afterwards. -/
theorem Reachable.answer_of_linkFree {s : Shell} (h : s.Reachable) (hs : s.LinkFree)
    (c : Circumstances) (call : Call) (hfresh : (s.under c).FreshFor call) :
    ((s.under c).answer call).2.Reachable ∧ ((s.under c).answer call).2.LinkFree := by
  refine ⟨h.answer c call hfresh fun _ _ _ _ input _ => hs input.path, ?_⟩
  rw [answer_eq]
  cases hwords : call.words with
  | none => exact hs
  | some found =>
    have hs : (s.under c).LinkFree := hs
    exact hs.submit found.1 found.2 (hfresh found.1 found.2 hwords)

end Shell

end PortableShell
