import PortableShell.Procedure.Download
import PortableShell.Proofs.Course
import PortableShell.Proofs.Files

/-!
# What a download does

A download starts no process, and as long as it has not succeeded the only node that it touches is
that of the file which it collects the document in.

## Main definitions

* `Download.Settles`: whether an ending fits the files that it comes with.
* `Download.LeavesFile`: whether an ending leaves the file that it should leave.
* `Download.Fresh`: whether the file that the document is collected in is a new one.
* `Download.SparesLinks`: whether a download takes the place of no symbolic link.

## Main statements

* `Download.quiet_perform`: a download starts no process and never ends in a refusal.
* `Download.settles_collect`: what becomes of the files as the document is collected.
* `Download.node?_fetch_of_ok`, `Download.node?_fetch_of_error`: what becomes of each node if the
  document is collected in a new file.
* `Download.isDirectory_run`: no directory is lost then.
-/

namespace PortableShell.Download

/-! ### The steps of a download -/

theorem reads_check (fault : Option HttpFault) : (check fault).Reads := by
  cases fault with
  | none => exact .pure _
  | some fault => exact .throw _

/-- The world after a document was asked for. -/
def asked (w : World) (address : Text) : World :=
  { w with requests := w.requests ++ [⟨address, true, timeout⟩] }

/-- Asking for a document does nothing else. -/
theorem on_ask_snd (address : Text) (w : World) : ((ask address).on w).2 = asked w address := by
  rw [ask, ActionOf.on_modify_bind, ActionOf.on_get_bind]
  have hreads : ActionOf.Reads (do
      check w.http.connectFault
      check w.http.statusFault
      return w.http : ActionOf Interruption HttpAnswer) :=
    (reads_check _).bind fun _ => (reads_check _).bind fun _ => .pure _
  exact (hreads (asked w address)).symm

theorem edits_ask (address : Text) : (ask address).Edits := by
  intro w
  rw [on_ask_snd]
  rfl

section Within

variable {R : World → World → Prop} [IsPreorder World R] {temporary target : Text}

/-- Collecting a document does nothing that appending to a file does not do, -/
theorem within_appendAll (h : ∀ bytes, (World.append temporary bytes).Within R)
    (chunks : List Utf8.Bytes) : (appendAll temporary chunks).Within R := by
  induction chunks with
  | nil => exact .pure _
  | cons chunk chunks ih => exact ((h chunk).adapt _).bind fun _ => ih

/-- and in the end moving it. -/
theorem within_collect (happend : ∀ bytes, (World.append temporary bytes).Within R)
    (hreplace : (World.replaceFile temporary target).Within R) (answer : HttpAnswer) :
    (collect temporary target answer).Within R :=
  (within_appendAll happend _).bind fun _ =>
    (ActionOf.Within.of_reads (reads_check _)).bind fun _ => hreplace.adapt _

end Within

theorem edits_collect (temporary target : Text) (answer : HttpAnswer) :
    (collect temporary target answer).Edits :=
  within_collect (World.edits_append _) (World.edits_perform _ _ _ _ _) answer

/-- Removing the file does nothing but that, whether it fails or not. -/
theorem within_discard {ε : Type} {R : World → World → Prop} {temporary : Text}
    (h : (World.removeFile temporary).Within R) : (discard temporary : ActionOf ε Unit).Within R :=
  h

theorem edits_fetch (address target : Text) : (fetch address target).Edits :=
  (edits_ask _).bind fun _ => ((World.edits_perform _ _ _ _ _).adapt _).bind fun _ =>
    (edits_collect _ _ _).tryCatch fun _ =>
      (within_discard (World.edits_perform _ _ _ _ _)).bind fun _ => .throw _

theorem on_perform (input : Input) (w : World) : (perform input).on w =
    ((((fetch input.request.address input.path).on w).1.mapError (report input)).map fun _ =>
          .notice ("Downloaded: " ++ input.request.address ++ " → " ++ Path.name input.path),
      ((fetch input.request.address input.path).on w).2) := by
  rw [perform, ActionOf.on_bind_pure, ActionOf.on_adapt]

/-- A download starts no process and never ends in a refusal. -/
theorem quiet_perform (input : Input) : Quiet (perform input) := by
  refine ⟨((edits_fetch _ _).adapt _).bind fun _ => .pure _, fun w e he hkind => ?_⟩
  rw [on_perform] at he
  cases hfetch : ((fetch input.request.address input.path).on w).1 with
  | ok _ =>
    rw [hfetch] at he
    cases he
  | error interruption =>
    rw [hfetch] at he
    have hreport := Except.error.inj he
    cases interruption with
    | http fault =>
      cases hreport
      cases hkind
    | system e =>
      rw [Failure.ofSystem_eq_reported hreport] at hkind
      cases hkind

/-! ### The files after a download -/

section Files

variable (temporary target : Text)

theorem agreesExcept_ask (address : Text) :
    (ask address).Within (World.AgreesExcept temporary) := by
  intro w
  rw [on_ask_snd]
  exact refl w.files

theorem agreesExcept_appendAll (chunks : List Utf8.Bytes) :
    (appendAll temporary chunks).Within (World.AgreesExcept temporary) :=
  within_appendAll (World.agreesExcept_append temporary) chunks

/-- Whether an ending fits the files that it comes with: a failure touches no node but that of the
file that the document is collected in, and a success puts this file in the place of the target,
which may be replaced. -/
def Settles (w : World) : Except Interruption Unit × World → Prop
  | (.error _, w') => w.AgreesExcept temporary w'
  | (.ok _, w') => ∃ files n, w.files.AgreesExcept temporary files ∧
      files.isReplaceable target = true ∧ w'.files = (files.erase temporary).write target n

variable {temporary target} {α : Type}

theorem Settles.of_agreesExcept {w w' : World} (h : w.AgreesExcept temporary w')
    {ending : Except Interruption Unit × World} (hending : Settles temporary target w' ending) :
    Settles temporary target w ending := by
  rcases ending with ⟨_ | _, w''⟩
  · exact trans_of (World.AgreesExcept temporary) h hending
  · obtain ⟨files, n, hfiles, htarget, hafter⟩ := hending
    exact ⟨files, n, trans_of (FileSystem.AgreesExcept temporary) h hfiles, htarget, hafter⟩

/-- What touches no other node may come before what settles a download. -/
theorem settles_bind {act : ActionOf Interruption α} {next : α → ActionOf Interruption Unit}
    (h : act.Within (World.AgreesExcept temporary))
    (hnext : ∀ a w, Settles temporary target w ((next a).on w)) (w : World) :
    Settles temporary target w (ActionOf.on (act >>= next) w) := by
  have hact := h w
  rcases hon : act.on w with ⟨_ | a, w'⟩ <;> rw [hon] at hact
  · rw [ActionOf.on_bind_of_error hon]
    exact hact
  · rw [ActionOf.on_bind_of_ok hon]
    exact .of_agreesExcept hact (hnext a w')

theorem settles_replaceFile (w : World) : Settles temporary target w
    (ActionOf.on ((World.replaceFile temporary target).adapt Interruption.system) w) := by
  rw [ActionOf.on_adapt]
  rcases World.on_replaceFile temporary target w with
    ⟨e, hon⟩ | ⟨n, files, htarget, -, rfl, hon⟩ <;> rw [hon]
  · exact refl_of (World.AgreesExcept temporary) w
  · exact ⟨w.files, n, refl_of (FileSystem.AgreesExcept temporary) w.files, htarget, rfl⟩

theorem settles_collect (answer : HttpAnswer) (w : World) :
    Settles temporary target w ((collect temporary target answer).on w) :=
  settles_bind (agreesExcept_appendAll _ _) (fun _ =>
    settles_bind (.of_reads (reads_check _)) fun _ => settles_replaceFile) w

end Files

/-! ### Before the file for the document exists -/

/-- What a download does until the file for the document exists. -/
def opening (address target : Text) : ActionOf Interruption HttpAnswer := do
  let answer ← ask address
  (World.createTemporary (temporaryFor target)).adapt .system
  return answer

theorem fetch_eq_opening (address target : Text) :
    fetch address target = (do
      let answer ← opening address target
      tryCatch (collect (temporaryFor target) target answer) fun e => do
        discard (temporaryFor target)
        throw e) := by
  simp only [fetch, opening, bind_assoc, pure_bind]

/-- A download that does not come to have a file for the document changes no file. -/
theorem files_opening_of_error {address target : Text} {w w' : World} {e : Interruption}
    (h : (opening address target).on w = (.error e, w')) : w'.files = w.files := by
  have hask : ((ask address).on w).2.files = w.files := by rw [on_ask_snd]; rfl
  rw [opening] at h
  rcases hon : (ask address).on w with ⟨_ | answer, w₁⟩ <;> rw [hon] at hask
  · rw [ActionOf.on_bind_of_error hon] at h
    cases h
    exact hask
  · rw [ActionOf.on_bind_of_ok hon, ActionOf.on_bind, ActionOf.on_adapt] at h
    rcases World.createTemporary_cases (temporaryFor target) w₁ with ⟨e', hcreate⟩ | hcreate <;>
      rw [hcreate] at h <;> cases h
    exact hask

/-- Whether the file that a download collects its document in is a new one: if it comes to be
created, there was nothing at its path. -/
def Fresh (s : Session) (w : World) (raw : Text) : Prop :=
  ∀ input answer, prepare s raw = .ok input →
    ((opening input.request.address input.path).on w).1 = .ok answer →
    w.files.contains (temporaryFor input.path) = false

/-! ### The file for the document -/

/-- Whether a world still has the file that another one has at a path. -/
def KeepsFile (path : Text) (w w' : World) : Prop :=
  w.files.isFile path = true → w'.files.isFile path = true

instance {path : Text} : IsPreorder World (KeepsFile path) where
  refl _ h := h
  trans _ _ _ h h' hw := h' (h hw)

theorem keepsFile_append (path : Text) (bytes : Utf8.Bytes) :
    (World.append path bytes).Within (KeepsFile path) := by
  refine .append fun w hw => FileSystem.isFile_update (fun n => ?_) hw
  rcases n with ⟨_ | bytes, _, _⟩ <;> rfl

section Ending

variable {temporary target : Text} {α : Type}

/-- Whether an ending leaves a file: a failure the one that the document is collected in, and a
success the target. -/
def LeavesFile (temporary target : Text) : Except Interruption Unit × World → Prop
  | (.error _, w) => w.files.isFile temporary = true
  | (.ok _, w) => w.files.isFile target = true

theorem leavesFile_bind {act : ActionOf Interruption α} {next : α → ActionOf Interruption Unit}
    (h : act.Within (KeepsFile temporary))
    (hnext : ∀ a w, w.files.isFile temporary = true →
      LeavesFile temporary target ((next a).on w)) {w : World}
    (hw : w.files.isFile temporary = true) :
    LeavesFile temporary target (ActionOf.on (act >>= next) w) := by
  have hact := h w hw
  rcases hon : act.on w with ⟨_ | a, w'⟩ <;> rw [hon] at hact
  · rw [ActionOf.on_bind_of_error hon]
    exact hact
  · rw [ActionOf.on_bind_of_ok hon]
    exact hnext a w' hact

theorem leavesFile_collect (answer : HttpAnswer) {w : World}
    (hw : w.files.isFile temporary = true) :
    LeavesFile temporary target ((collect temporary target answer).on w) := by
  refine leavesFile_bind (within_appendAll (keepsFile_append temporary) _) (fun _ w hw =>
    leavesFile_bind (.of_reads (reads_check _)) (fun _ w hw => ?_) hw) hw
  rw [ActionOf.on_adapt]
  rcases World.on_replaceFile temporary target w with
    ⟨e, hon⟩ | ⟨n, files, -, hn, rfl, hon⟩ <;> rw [hon]
  · exact hw
  · -- the file that is moved is the one that was there
    obtain ⟨n', hn', hdirectory⟩ := FileSystem.isFile_iff.mp hw
    cases hn.symm.trans hn'
    exact FileSystem.isFile_iff.mpr ⟨n, FileSystem.node?_write_self _ _ _, hdirectory⟩

end Ending

variable {address target : Text} {w w' : World}

theorem agreesExcept_opening (address target : Text) :
    (opening address target).Within (World.AgreesExcept (temporaryFor target)) :=
  (agreesExcept_ask _ _).bind fun _ =>
    ((World.agreesExcept_createTemporary _).adapt _).bind fun _ => .pure _

theorem edits_opening (address target : Text) : (opening address target).Edits :=
  (edits_ask _).bind fun _ => ((World.edits_perform _ _ _ _ _).adapt _).bind fun _ => .pure _

/-- The file for the document is created empty once the server has answered. -/
theorem files_opening_of_ok {answer : HttpAnswer}
    (h : (opening address target).on w = (.ok answer, w')) :
    ∃ w₁, (ask address).on w = (.ok answer, w₁) ∧
      w'.files = w₁.files.write (temporaryFor target) ⟨.file [], 0o600, none⟩ := by
  rw [opening] at h
  rcases hon : (ask address).on w with ⟨_ | answer', w₁⟩
  · rw [ActionOf.on_bind_of_error hon] at h
    cases h
  · rw [ActionOf.on_bind_of_ok hon, ActionOf.on_bind, ActionOf.on_adapt] at h
    rcases World.createTemporary_cases (temporaryFor target) w₁ with ⟨e, hcreate⟩ | hcreate <;>
      rw [hcreate] at h <;> cases h
    exact ⟨w₁, rfl, rfl⟩

/-- What a download collects its document in is a file. -/
theorem isFile_opening {answer : HttpAnswer}
    (h : (opening address target).on w = (.ok answer, w')) :
    w'.files.isFile (temporaryFor target) = true := by
  obtain ⟨w₁, -, hfiles⟩ := files_opening_of_ok h
  rw [hfiles]
  exact FileSystem.isFile_iff.mpr ⟨_, FileSystem.node?_write_self _ _ _, rfl⟩

/-! ### Nodes -/

/-- A download ends before the file for the document exists, or it ends as the document is
collected in that file, which is removed if it comes to a failure. -/
theorem fetch_cases (address target : Text) (w : World) :
    (∃ e w', (opening address target).on w = (.error e, w') ∧
      (fetch address target).on w = (.error e, w')) ∨
    ∃ answer w₁, (opening address target).on w = (.ok answer, w₁) ∧
      ((∃ w₂, (collect (temporaryFor target) target answer).on w₁ = (.ok (), w₂) ∧
        (fetch address target).on w = (.ok (), w₂)) ∨
      ∃ e w₂, (collect (temporaryFor target) target answer).on w₁ = (.error e, w₂) ∧
        (fetch address target).on w =
          (.error e, ((World.removeFile (temporaryFor target)).on w₂).2)) := by
  rw [fetch_eq_opening]
  rcases hopening : (opening address target).on w with ⟨e | answer, w₁⟩
  · rw [ActionOf.on_bind_of_error hopening]
    exact .inl ⟨e, w₁, rfl, rfl⟩
  · rw [ActionOf.on_bind_of_ok hopening, ActionOf.on_tryCatch]
    refine .inr ⟨answer, w₁, rfl, ?_⟩
    rcases hcollect : (collect (temporaryFor target) target answer).on w₁ with ⟨e | _, w₂⟩
    · exact .inr ⟨e, w₂, rfl, rfl⟩
    · exact .inl ⟨w₂, rfl, rfl⟩

/-- However the rest of a download ends, its ending fits the files that it leaves. -/
theorem settles_of_opening {answer : HttpAnswer}
    (h : (opening address target).on w = (.ok answer, w')) :
    Settles (temporaryFor target) target w
      ((collect (temporaryFor target) target answer).on w') := by
  have hagrees := agreesExcept_opening address target w
  rw [h] at hagrees
  exact .of_agreesExcept hagrees (settles_collect answer w')

/-- If the file for the document is a new one, nothing was at its path before. -/
theorem node?_temporaryFor_of_opening {answer : HttpAnswer}
    (hfresh : ∀ answer, ((opening address target).on w).1 = .ok answer →
      w.files.contains (temporaryFor target) = false)
    (h : (opening address target).on w = (.ok answer, w')) :
    w.files.node? (temporaryFor target) = none := by
  refine FileSystem.node?_eq_none_of_not_contains ?_
  rw [hfresh answer (by rw [h])]
  exact Bool.false_ne_true

/-- A download that succeeds puts a file in the place of one or of nothing, and leaves the other
nodes as they are. -/
theorem node?_fetch_of_ok
    (hfresh : ∀ answer, ((opening address target).on w).1 = .ok answer →
      w.files.contains (temporaryFor target) = false)
    (h : (fetch address target).on w = (.ok (), w')) (q : Text) :
    w'.files.node? q = w.files.node? q ∨
      FileSystem.key q = FileSystem.key target ∧ w.files.isReplaceable q = true ∧
        w'.files.isFile q = true := by
  rcases fetch_cases address target w with
    ⟨e, w₁, -, hon⟩ | ⟨answer, w₁, hopening, ⟨w₂, hcollect, hon⟩ | ⟨e, w₂, -, hon⟩⟩
  · cases h.symm.trans hon
  · cases h.symm.trans hon
    have hnone := node?_temporaryFor_of_opening hfresh hopening
    have hsettles := settles_of_opening hopening
    have hleaves : LeavesFile (temporaryFor target) target _ :=
      leavesFile_collect answer (isFile_opening hopening)
    rw [hcollect] at hsettles hleaves
    obtain ⟨files, n, hsame, htarget, hafter⟩ := hsettles
    by_cases hq : FileSystem.key q = FileSystem.key target
    · refine .inr ⟨hq, ?_, ?_⟩
      · by_cases htemporary : FileSystem.key q = FileSystem.key (temporaryFor target)
        · rw [FileSystem.isReplaceable, FileSystem.node?_congr htemporary, hnone]
          rfl
        · rw [← hsame.isReplaceable htemporary, FileSystem.isReplaceable_congr hq, htarget]
      · rwa [FileSystem.isFile_iff, FileSystem.node?_congr hq, ← FileSystem.isFile_iff]
    · refine .inl ?_
      rw [hafter, FileSystem.node?_write_of_ne hq]
      by_cases htemporary : FileSystem.key q = FileSystem.key (temporaryFor target)
      · rw [FileSystem.node?_congr htemporary, FileSystem.node?_erase_self,
          FileSystem.node?_congr htemporary, hnone]
      · rw [FileSystem.node?_erase_of_ne htemporary, hsame q htemporary]
  · cases h.symm.trans hon

/-- A download that fails leaves all nodes as they are, and the only one that it may leave besides
is that of the file for the document, if there is a fault in store for removing it. -/
theorem node?_fetch_of_error {e : Interruption}
    (hfresh : ∀ answer, ((opening address target).on w).1 = .ok answer →
      w.files.contains (temporaryFor target) = false)
    (h : (fetch address target).on w = (.error e, w')) (q : Text) :
    w'.files.node? q = w.files.node? q ∨
      FileSystem.key q = FileSystem.key (temporaryFor target) ∧ w.files.node? q = none ∧
        w'.files.isFile q = true ∧
          ∃ fault, w.fault? .remove 0 (temporaryFor target) = some fault := by
  rcases fetch_cases address target w with
    ⟨e, w₁, hopening, hon⟩ | ⟨answer, w₁, hopening, ⟨w₂, -, hon⟩ | ⟨e, w₂, hcollect, hon⟩⟩
  · cases h.symm.trans hon
    rw [files_opening_of_error hopening]
    exact .inl rfl
  · cases h.symm.trans hon
  · cases h.symm.trans hon
    have hnone := node?_temporaryFor_of_opening hfresh hopening
    have hsettles := settles_of_opening hopening
    have hleaves : LeavesFile (temporaryFor target) target _ :=
      leavesFile_collect answer (isFile_opening hopening)
    have hedits := ((edits_opening address target).bind fun answer =>
      edits_collect (temporaryFor target) target answer) w
    rw [ActionOf.on_bind_of_ok hopening] at hedits
    rw [hcollect] at hsettles hleaves hedits
    by_cases hq : FileSystem.key q = FileSystem.key (temporaryFor target)
    · rw [FileSystem.isFile_iff, FileSystem.node?_congr hq, FileSystem.node?_congr hq, hnone,
        ← FileSystem.isFile_iff]
      rcases World.on_removeFile (temporaryFor target) w₂ with ⟨fault, hfault, hremove⟩ | hremove
      · rw [hremove]
        exact .inr ⟨hq, rfl, hleaves, fault, (hedits.fault?_eq _ _ _).symm.trans hfault⟩
      · rw [hremove]
        exact .inl (FileSystem.node?_erase_self _ _)
    · have hremove := World.agreesExcept_removeFile (temporaryFor target) w₂
      exact .inl (trans_of (World.AgreesExcept (temporaryFor target)) hsettles hremove q hq)

/-! ### Directories -/

/-- Whether a download takes the place of no link. -/
def SparesLinks (s : Session) (w : World) (raw : Text) : Prop :=
  ∀ input, prepare s raw = .ok input → w.files.isLink input.path = false

/-- A download whose file for the document is a new one loses no directory, unless it takes the
place of a link. -/
theorem isDirectory_fetch {q : Text}
    (hfresh : ∀ answer, ((opening address target).on w).1 = .ok answer →
      w.files.contains (temporaryFor target) = false)
    (hlink : w.files.isLink target = false) (hq : w.files.isDirectory q = true) :
    ((fetch address target).on w).2.files.isDirectory q = true := by
  have hsame : ((fetch address target).on w).2.files.node? q = w.files.node? q := by
    rcases hfetch : (fetch address target).on w with ⟨e | _, w'⟩
    · refine (node?_fetch_of_error hfresh hfetch q).resolve_right ?_
      rintro ⟨-, hnone, -, -⟩
      rw [FileSystem.isDirectory, hnone] at hq
      exact Bool.false_ne_true hq
    · refine (node?_fetch_of_ok hfresh hfetch q).resolve_right ?_
      rintro ⟨hkey, hreplaceable, -⟩
      have hlinked := FileSystem.isLink_of_isReplaceable hq hreplaceable
      rw [FileSystem.isLink, FileSystem.node?_congr hkey, ← FileSystem.isLink, hlink] at hlinked
      exact Bool.false_ne_true hlinked
  rw [FileSystem.isDirectory, hsame]
  exact hq

theorem isDirectory_perform {input : Input} {w : World} {q : Text}
    (hfresh : ∀ answer, ((opening input.request.address input.path).on w).1 = .ok answer →
      w.files.contains (temporaryFor input.path) = false)
    (hlink : w.files.isLink input.path = false) (hq : w.files.isDirectory q = true) :
    ((perform input).on w).2.files.isDirectory q = true := by
  rw [on_perform]
  exact isDirectory_fetch hfresh hlink hq

theorem isDirectory_run {s : Site} {raw : Text} {w : World} {q : Text}
    (hfresh : Fresh s.session w raw) (hspares : SparesLinks s.session w raw)
    (hq : w.files.isDirectory q = true) :
    ((procedure.run s raw).on w).2.files.isDirectory q = true := by
  rw [Procedure.run, ActionOf.on_currentFiles_bind, ActionOf.on_bind, ActionOf.on_lift]
  cases hprepare : procedure.prepare s.session w.files raw with
  | error f => exact hq
  | ok input =>
    exact isDirectory_perform (fun answer => hfresh input answer hprepare)
      (hspares input hprepare) hq

end PortableShell.Download
