import PortableShell.Proofs.CanonicalPaths
import PortableShell.Proofs.Download
import PortableShell.Proofs.HomeDirectory

/-!
# The document that a download saves

A download that succeeds has saved the whole document at its target, and one that fails has left
all nodes as they were.  Where the target lies if no name was written for it depends on the name
that the address ends in.

## Main definitions

* `HttpAnswer.IsComplete`: the answers in which nothing went wrong.
* `Download.SavesWhole`, `Download.LeavesNothing`: what is left by a download that succeeds, and by
  one that fails.

## Main statements

* `Download.bytes?_collect`: the file that a document is collected in comes to hold it.
* `Download.requests_fetch`: a download asks for its document once.
* `Download.run_allOrNothing`: a download saves the whole document or leaves nothing.
* `Download.saves_beside_iff`: which documents are saved in the directory of the session.
-/

namespace PortableShell

open FileSystem (key)

/-! ### What is appended to a file -/

theorem FileSystem.bytes?_extend {fs : FileSystem} {p : Text} {old : Utf8.Bytes}
    (h : fs.bytes? p = some old) (bytes : Utf8.Bytes) :
    (fs.extend p bytes).bytes? p = some (old ++ bytes) := by
  obtain ⟨n, hn, hold⟩ := Option.bind_eq_some_iff.mp h
  rcases n with ⟨_ | held | _, mode, attributes⟩ <;> cases hold
  rw [extend, update, hn, bytes?, node?_write_self]
  rfl

namespace World

/-- Whether the same documents were asked for in two worlds. -/
def SameRequests (w w' : World) : Prop :=
  w'.requests = w.requests

instance : IsPreorder World SameRequests where
  refl _ := rfl
  trans _ _ _ h h' := h'.trans h

theorem sameRequests_perform (call : SystemCall) (achieved : Nat) (path : Text)
    (handed : List Text) (act : FileSystem → Except SystemError FileSystem) :
    (perform call achieved path handed act).Within SameRequests :=
  .perform fun _ _ _ => rfl

end World

/-- Whether nothing goes wrong with a document. -/
def HttpAnswer.IsComplete (answer : HttpAnswer) : Prop :=
  answer.connectFault = none ∧ answer.statusFault = none ∧ answer.bodyFault = none

namespace Download

variable {address temporary target : Text} {w w' : World} {answer : HttpAnswer}

/-! ### The course of a download that succeeds -/

theorem on_check_bind_eq_ok {fault : Option HttpFault} {α : Type}
    {next : Unit → ActionOf Interruption α} {a : α}
    (h : (check fault >>= next : ActionOf Interruption α).on w = (.ok a, w')) :
    fault = none ∧ (next ()).on w = (.ok a, w') := by
  cases fault with
  | none => exact ⟨rfl, h⟩
  | some fault => cases h

/-- What is answered is what the server does, if it does not fail before the document. -/
theorem ask_eq_ok (h : (ask address).on w = (.ok answer, w')) :
    answer = w.http ∧ answer.connectFault = none ∧ answer.statusFault = none := by
  rw [ask, ActionOf.on_modify_bind, ActionOf.on_get_bind] at h
  obtain ⟨hconnect, h⟩ := on_check_bind_eq_ok h
  obtain ⟨hstatus, h⟩ := on_check_bind_eq_ok h
  cases h
  exact ⟨rfl, hconnect, hstatus⟩

/-- The file for the document is empty when the document comes. -/
theorem opening_eq_ok (h : (opening address target).on w = (.ok answer, w')) :
    answer = w.http ∧ answer.connectFault = none ∧ answer.statusFault = none ∧
      w'.files.bytes? (temporaryFor target) = some [] := by
  obtain ⟨w₁, hask, hfiles⟩ := files_opening_of_ok h
  obtain ⟨hanswer, hconnect, hstatus⟩ := ask_eq_ok hask
  refine ⟨hanswer, hconnect, hstatus, ?_⟩
  rw [hfiles, FileSystem.bytes?, FileSystem.node?_write_self]
  rfl

theorem bytes?_appendAll {chunks : List Utf8.Bytes} {old : Utf8.Bytes}
    (hold : w.files.bytes? temporary = some old)
    (h : (appendAll temporary chunks).on w = (.ok (), w')) :
    w'.files.bytes? temporary = some (old ++ chunks.flatten) := by
  induction chunks generalizing w old with
  | nil =>
    cases h
    simpa using hold
  | cons chunk chunks ih =>
    rw [appendAll, ActionOf.on_bind, ActionOf.on_adapt] at h
    rcases World.append_cases temporary chunk w with ⟨e, hon⟩ | hon <;> rw [hon] at h
    · cases h
    · rw [ih (FileSystem.bytes?_extend hold chunk) h]
      simp

/-- The file that a document is collected in comes to hold it, and is the one at the target then. -/
theorem bytes?_collect (hempty : w.files.bytes? temporary = some [])
    (h : (collect temporary target answer).on w = (.ok (), w')) :
    answer.bodyFault = none ∧ w'.files.bytes? target = some answer.chunks.flatten := by
  rw [collect] at h
  rcases happend : (appendAll temporary answer.chunks).on w with ⟨_ | _, w₁⟩
  · rw [ActionOf.on_bind_of_error happend] at h
    cases h
  · rw [ActionOf.on_bind_of_ok happend] at h
    obtain ⟨hbody, h⟩ := on_check_bind_eq_ok h
    have hheld := bytes?_appendAll hempty happend
    rw [ActionOf.on_adapt] at h
    rcases World.on_replaceFile temporary target w₁ with
      ⟨e, hon⟩ | ⟨n, files, -, hn, rfl, hon⟩ <;> rw [hon] at h
    · cases h
    · cases h
      refine ⟨hbody, ?_⟩
      rw [FileSystem.bytes?, FileSystem.node?_write_self, ← hn]
      exact hheld

/-! ### The documents that are asked for -/

/-- A download asks for its document, once. -/
theorem requests_fetch (address target : Text) (w : World) :
    ((fetch address target).on w).2.requests = w.requests ++ [⟨address, true, timeout⟩] := by
  have hask : ((ask address).on w).2.requests = w.requests ++ [⟨address, true, timeout⟩] := by
    rw [on_ask_snd]
    rfl
  have hrest (answer : HttpAnswer) : ActionOf.Within World.SameRequests (do
      (World.createTemporary (temporaryFor target)).adapt Interruption.system
      tryCatch (collect (temporaryFor target) target answer) fun e => do
        discard (temporaryFor target)
        throw e) :=
    ((World.sameRequests_perform _ _ _ _ _).adapt _).bind fun _ =>
      (within_collect (fun _ => .append fun _ => rfl) (World.sameRequests_perform _ _ _ _ _)
        answer).tryCatch fun _ =>
          (within_discard (World.sameRequests_perform _ _ _ _ _)).bind fun _ => .throw _
  rw [fetch]
  rcases hon : (ask address).on w with ⟨_ | answer, w₁⟩ <;> rw [hon] at hask
  · rw [ActionOf.on_bind_of_error hon]
    exact hask
  · rw [ActionOf.on_bind_of_ok hon]
    exact (hrest answer w₁).trans hask

/-! ### What is left -/

/-- Whether a file system is another one but for the file at the target, which holds a document. -/
structure SavesWhole (target : Text) (document : Utf8.Bytes) (before after : FileSystem) :
    Prop where
  whole : after.bytes? target = some document
  rest : ∀ q, key q ≠ key target → after.node? q = before.node? q

/-- Whether the files of a world are as before but for the file that a document was collected in,
and this one is left only if it cannot be removed. -/
structure LeavesNothing (temporary : Text) (w : World) (after : FileSystem) : Prop where
  rest : ∀ q, key q ≠ key temporary → after.node? q = w.files.node? q
  removed : after.contains temporary = true → ∃ e, w.fault? .remove 0 temporary = some e

theorem savesWhole_fetch (hnew : w.files.contains (temporaryFor target) = false)
    (h : (fetch address target).on w = (.ok (), w')) :
    w.http.IsComplete ∧ SavesWhole target w.http.chunks.flatten w.files w'.files := by
  have hnodes := node?_fetch_of_ok (fun _ _ => hnew) h
  rcases fetch_cases address target w with
    ⟨e, w₁, -, hon⟩ | ⟨answer, w₁, hopening, ⟨w₂, hcollect, hon⟩ | ⟨e, w₂, -, hon⟩⟩
  · cases h.symm.trans hon
  · cases h.symm.trans hon
    obtain ⟨rfl, hconnect, hstatus, hempty⟩ := opening_eq_ok hopening
    obtain ⟨hbody, hwhole⟩ := bytes?_collect hempty hcollect
    exact ⟨⟨hconnect, hstatus, hbody⟩, hwhole,
      fun q hq => (hnodes q).resolve_right fun hsaved => hq hsaved.1⟩
  · cases h.symm.trans hon

theorem leavesNothing_fetch {e : Interruption}
    (hnew : w.files.contains (temporaryFor target) = false)
    (h : (fetch address target).on w = (.error e, w')) :
    LeavesNothing (temporaryFor target) w w'.files := by
  have hnodes := node?_fetch_of_error (fun _ _ => hnew) h
  refine ⟨fun q hq => (hnodes q).resolve_right fun hleft => hq hleft.1, fun hcontains => ?_⟩
  rcases hnodes (temporaryFor target) with hsame | ⟨-, -, -, hfault⟩
  · rw [FileSystem.contains, hsame] at hcontains
    exact absurd (hnew.symm.trans hcontains) Bool.false_ne_true
  · exact hfault

/-- A download for which the file to collect the document in is a new one either succeeds, and then
the whole document came and is what the file at the target holds, and no other node changed; or it
fails, and then all nodes are as before but for the file that the document was collected in, which
is gone unless it cannot be removed.  It asks for no more than one document, and starts no
process. -/
theorem run_allOrNothing {s : Site} {raw : Text}
    (hnew : ∀ input, prepare s.session raw = .ok input →
      w.files.contains (temporaryFor input.path) = false) :
    ((procedure.run s raw).on w).2.attempts = w.attempts ∧
      ((procedure.run s raw).on w).2.startedCount = w.startedCount ∧
      (((procedure.run s raw).on w).2.requests = w.requests ∨
        ∃ request, ((procedure.run s raw).on w).2.requests = w.requests ++ [request]) ∧
      ((∃ input answer, prepare s.session raw = .ok input ∧
          ((procedure.run s raw).on w).1 = .ok answer ∧ w.http.IsComplete ∧
          SavesWhole input.path w.http.chunks.flatten w.files
            ((procedure.run s raw).on w).2.files) ∨
        ∃ f, ((procedure.run s raw).on w).1 = .error f ∧
          (((procedure.run s raw).on w).2.files = w.files ∨
            ∃ input, prepare s.session raw = .ok input ∧
              LeavesNothing (temporaryFor input.path) w
                ((procedure.run s raw).on w).2.files)) := by
  rcases procedure.run_cases s raw w with ⟨f, -, hon⟩ | ⟨input, hprepare, hon⟩ <;> rw [hon]
  · exact ⟨rfl, rfl, .inl rfl, .inr ⟨f, rfl, .inl rfl⟩⟩
  · have hedits : World.EditedTo w ((perform input).on w).2 := (quiet_perform input).edits w
    refine ⟨hedits.attempts_eq, hedits.startedCount_eq, ?_⟩
    have hrequests := requests_fetch input.request.address input.path w
    have hperform : (procedure.perform s input).on w = _ := on_perform input w
    rw [hperform]
    refine ⟨.inr ⟨_, hrequests⟩, ?_⟩
    rcases hfetch : (fetch input.request.address input.path).on w with ⟨e | _, w'⟩
    · exact .inr ⟨_, rfl, .inr ⟨input, hprepare, leavesNothing_fetch (hnew input hprepare) hfetch⟩⟩
    · obtain ⟨hcomplete, hsaves⟩ := savesWhole_fetch (hnew input hprepare) hfetch
      exact .inl ⟨input, _, hprepare, rfl, hcomplete, hsaves⟩

/-- A download that breaks off leaves the file at its target as it was, and nothing beside it. -/
theorem run_allOrNothing_of_broken_off :
    let s : Site := ⟨{ directory := "/", platform := .posix, home := "/me" }, .unlimited⟩
    let w : World :=
      { files := .write .bare "/a" ⟨.file [1], 0o600, none⟩
        http := { chunks := [[0xFF], [2]], bodyFault := some ⟨.chunked, "broken"⟩ } }
    (∀ input, prepare s.session "http://h/a" = .ok input →
        w.files.contains (temporaryFor input.path) = false) ∧
      ((procedure.run s "http://h/a").on w).2.files.bytes? "/a" = some [1] ∧
      ((procedure.run s "http://h/a").on w).2.files.contains "/.wget-TMP" = false := by
  intro s w
  have hpath : prepare s.session "http://h/a" =
      .ok ⟨⟨"http://h/a", ⟨"http", "h", "/a"⟩, none⟩, "/a"⟩ := rfl
  have hnew : ∀ input, prepare s.session "http://h/a" = .ok input →
      w.files.contains (temporaryFor input.path) = false := by
    intro input hprepare
    cases hpath.symm.trans hprepare
    rfl
  refine ⟨hnew, ?_⟩
  rcases (run_allOrNothing hnew).2.2.2 with ⟨_, _, -, -, hcomplete, -⟩ | ⟨f, -, hfiles⟩
  · cases hcomplete.2.2
  · rcases hfiles with hsame | ⟨input, hprepare, hleaves⟩
    · rw [hsame]
      exact ⟨rfl, rfl⟩
    · cases hpath.symm.trans hprepare
      have htemporary : temporaryFor "/a" = "/.wget-TMP" := rfl
      have hkey : key "/a" ≠ key (temporaryFor "/a") := by decide
      refine ⟨?_, ?_⟩
      · rw [FileSystem.bytes?, hleaves.rest "/a" hkey]
        rfl
      · rw [← htemporary]
        refine Bool.eq_false_iff.mpr fun hcontains => ?_
        obtain ⟨e, hfault⟩ := hleaves.removed hcontains
        cases hfault

/-! ### Where a document is saved -/

theorem slash_notMem_fileName (u : Url) : '/' ∉ u.fileName := by
  rw [Url.fileName]
  split
  · decide
  · exact fun h => Text.notMem_afterLast '/' u.path (List.takeWhile_subset _ h)

/-- What is asked for by an address alone is saved under the name that the address ends in. -/
theorem target_of_address {raw address : Text} {request : Request}
    (hraw : Argument.tokens raw = [address]) (h : parse raw = .ok request) :
    request.target = request.url.fileName := by
  rw [parse, hraw] at h
  obtain ⟨url, -, h⟩ := Result.bind_eq_ok.mp h
  cases h
  rfl

/-- A document that is asked for by an address alone is to be saved in the directory of the
session, under the name that the address ends in, unless this name is `.` or `..` or is an absolute
path, such as one that starts with a drive. -/
theorem saves_beside_iff {s : Session} (hs : Path.IsCanonical s.directory) {raw address : Text}
    {request : Request} (hraw : Argument.tokens raw = [address]) (h : parse raw = .ok request) :
    (∃ input, prepare s raw = .ok input ∧ Path.parent input.path = s.directory ∧
        Path.name input.path = request.url.fileName) ↔
      request.url.fileName ≠ Path.here ∧ request.url.fileName ≠ Path.up ∧
        Path.isAbsolute request.url.fileName = false := by
  rw [← Path.resolve_beside_iff hs (fileName_ne_nil _) (slash_notMem_fileName _) s.home]
  have hprepare : prepare s raw =
      (ofReported (s.resolve request.url.fileName)).map fun path => ⟨request, path⟩ := by
    rw [prepare, h, ← target_of_address hraw h]
    rfl
  rw [hprepare, Session.resolve]
  cases hpath : Path.resolve request.url.fileName s.directory s.home with
  | error e =>
    constructor
    · rintro ⟨input, hinput, -⟩
      cases hinput
    · rintro ⟨path, hpath, -⟩
      cases hpath
  | ok path =>
    constructor
    · rintro ⟨input, hinput, hsaved⟩
      cases hinput
      exact ⟨path, rfl, hsaved⟩
    · rintro ⟨path, hpath, hsaved⟩
      cases hpath
      exact ⟨⟨request, path⟩, rfl, hsaved⟩

/-- A document whose name looks like a file on a drive is not saved in the directory of the
session. -/
theorem saves_beside_drive :
    let s : Session := { directory := "/work", platform := .posix, home := "/me" }
    Path.IsCanonical s.directory ∧ Argument.tokens "http://h/x:y" = ["http://h/x:y"] ∧
      parse "http://h/x:y" = .ok ⟨"http://h/x:y", ⟨"http", "h", "/x:y"⟩, none⟩ ∧
      ¬ ∃ input, prepare s "http://h/x:y" = .ok input ∧ Path.parent input.path = s.directory ∧
        Path.name input.path = "x:y" := by
  intro s
  have hs : Path.IsCanonical s.directory := ⟨rfl, rfl⟩
  have hraw : Argument.tokens "http://h/x:y" = ["http://h/x:y"] := rfl
  have hparse : parse "http://h/x:y" = .ok ⟨"http://h/x:y", ⟨"http", "h", "/x:y"⟩, none⟩ := rfl
  refine ⟨hs, hraw, hparse, fun hsaved => ?_⟩
  exact absurd ((saves_beside_iff hs hraw hparse).mp hsaved).2.2 (by decide)

end Download

end PortableShell
