import PortableShell.Proofs.CanonicalPaths
import PortableShell.Proofs.Preparation
import PortableShell.Proofs.Procedures

/-!
# Destinations written as directories

A destination that is written with a separator at its end names a directory.  If there is nothing
at its path, the directory is made before the native tool is started, and no tool is started if
that fails.  If there is something at its path, nothing is made, whether it is a directory or not.

## Main definitions

* `Transfer.tool`: the process that copies or moves.

## Main statements

* `FileSystem.key_key`: the key of a path is its own key.
* `World.isDirectory_of_createDirectories`: where directories were made, there is one.
* `Transfer.perform_cases`: the tool is started once the directory is there.
* `Site.isDirectory_destination_iff`: when the destination is a directory as the tool is started.
-/

namespace PortableShell

/-! ### Making directories -/

namespace FileSystem

variable {fs : FileSystem} {p : Text}

/-- The key of a rooted path is rooted at one slash. -/
theorem key_of_rooted (h : p.head? = some '/') :
    key p = ['/'] ++ Text.join ['/'] (Path.parts p) := by
  have hjoin := Path.head?_join_ne fun _ => Path.counts_of_rooted h
  rw [key, Path.normalize_of_rooted h]
  generalize Text.join ['/'] (Path.parts p) = t at hjoin
  rcases Path.isRoot_root h with hroot | hroot <;> rw [hroot]
  · cases t with
    | nil => rfl
    | cons c t =>
      have hc : c ≠ '/' := by simpa using hjoin
      simp [hc]
  · rfl

theorem key_of_not_rooted (h : p.head? ≠ some '/') : key p = Path.normalize p := by
  have hhead := Path.head?_normalize_ne h
  rw [key]
  split
  · rename_i t heq
    rw [heq] at hhead
    exact absurd rfl hhead
  · rfl

/-- The key of a path is its own key. -/
theorem key_key (p : Text) : key (key p) = key p := by
  by_cases h : p.head? = some '/'
  · have hrooted : (['/'] ++ Text.join ['/'] (Path.parts p)).head? = some '/' := rfl
    rw [key_of_rooted h, key_of_rooted hrooted,
      Path.parts_rooted (.inl rfl) fun _ => Path.counts_of_rooted h]
  · rw [key_of_not_rooted h, key_of_not_rooted (Path.head?_normalize_ne h),
      Path.normalize_normalize]

theorem key_ne_nil (p : Text) : key p ≠ [] := by
  by_cases h : p.head? = some '/'
  · rw [key_of_rooted h]
    exact List.cons_ne_nil _ _
  · rw [key_of_not_rooted h, Path.normalize, Path.orHere]
    split
    · decide
    · rename_i hne
      simpa using hne

theorem contains_congr {q : Text} (h : key q = key p) (fs : FileSystem) :
    fs.contains q = fs.contains p := by
  rw [contains, contains, node?_congr h]

/-- A path is among those at or above it. -/
theorem key_mem_withAncestors (p : Text) : key p ∈ withAncestors p := by
  obtain ⟨c, t, hkey⟩ := List.exists_cons_of_ne_nil (key_ne_nil p)
  rw [withAncestors, hkey, List.length_cons, chain]
  exact List.mem_cons_self

/-- What is there is a directory or a file. -/
theorem isFile_eq_not_isDirectory (h : fs.contains p = true) :
    fs.isFile p = ! fs.isDirectory p := by
  rw [contains] at h
  obtain ⟨⟨content, mode, attributes⟩, hn⟩ := Option.isSome_iff_exists.mp h
  rw [isFile, bytes?, isDirectory, hn]
  cases content <;> rfl

theorem isFile_of_not_contains (h : fs.contains p = false) : fs.isFile p = false := by
  rw [contains, Option.isSome_eq_false_iff, Option.isNone_iff_eq_none] at h
  rw [isFile, bytes?, h]
  rfl

end FileSystem

/-- Once directories were made, there is one at the path, if there was nothing there. -/
theorem World.isDirectory_of_createDirectories {w w' : World} {path : Text}
    (h : (createDirectories path).on w = (.ok (), w')) (hnone : w.files.contains path = false) :
    w'.files.isDirectory path = true := by
  have hgrown := grownTo_createDirectories path w
  have hmade := contains_of_createDirectories h (FileSystem.key_mem_withAncestors path)
  rw [h] at hgrown
  rw [FileSystem.contains_congr (FileSystem.key_key path)] at hmade
  exact hgrown.files.isDirectory hnone hmade

/-! ### Copying and moving -/

namespace Transfer

variable {t : Transfer} {s : Site} {input : Input}

/-- The process that copies or moves. -/
def tool (t : Transfer) (s : Site) (input : Input) : Invocation :=
  ⟨t.native s.platform ++ [input.sourcePath, input.destinationPath], s.directory⟩

theorem getLast?_argv_tool (t : Transfer) (s : Site) (input : Input) :
    (t.tool s input).argv.getLast? = some input.destinationPath := by
  simp [tool]

/-- The tool is started once the directory of the destination is there, if one is to be made and
there was nothing, and it is not started if that fails. -/
theorem perform_cases (t : Transfer) (s : Site) (input : Input) (w : World) :
    (∃ f w₁, (t.perform s input).on w = (.error f, w₁) ∧ w₁.attempts = w.attempts) ∨
      ∃ w₁ : World, w₁.attempts = w.attempts ∧
        ((t.perform s input).on w).2 = w₁.afterAttempt s.limit (t.tool s input) ∧
        (input.makesDirectory = false → w₁.files = w.files) ∧
        (input.makesDirectory = true → w.files.contains input.destinationPath = false →
          w₁.files.isDirectory input.destinationPath = true) := by
  have htool (w₁ : World) :
      ((t.runTool s input).on w₁).2 = w₁.afterAttempt s.limit (t.tool s input) :=
    s.world_launch_bind (fun _ => .ite (.pure _) (.throw _)) _ w₁
  rw [Transfer.perform]
  by_cases hmakes : input.makesDirectory = true
  · have hedits := World.edits_createDirectories input.destinationPath w
    rw [if_pos hmakes, ActionOf.on_bind, ActionOf.on_adapt]
    rcases hon : (World.createDirectories input.destinationPath).on w with ⟨e | _, w₁⟩ <;>
      rw [hon] at hedits
    · exact .inl ⟨_, w₁, rfl, hedits.attempts_eq⟩
    · refine .inr ⟨w₁, hedits.attempts_eq, htool w₁, fun h => ?_, fun _ hnone => ?_⟩
      · exact absurd (hmakes.symm.trans h) (by decide)
      · exact World.isDirectory_of_createDirectories hon hnone
  · rw [if_neg hmakes]
    exact .inr ⟨w, rfl, htool w, fun _ => rfl, fun h => absurd h hmakes⟩

end Transfer

/-- If a native tool is to be started to copy or move to a destination that is written as a
directory, then the path that it is given for the destination is that of a directory at this moment
exactly if it was not the path of a file before. -/
theorem Site.isDirectory_destination_iff {s : Site} {c : Command} (hc : c = .cp ∨ c = .mv)
    {raw destination : Text} (hsecond : (Argument.tokens raw)[1]? = some destination)
    (hnames : Transfer.namesDirectory destination = true) {w : World}
    (hattempt : ((s.plan c raw).on w).2.attempts ≠ w.attempts) :
    ∃ (w₁ : World) (i : Invocation) (path : Text),
      ((s.plan c raw).on w).2 = w₁.afterAttempt s.limit i ∧ w₁.attempts = w.attempts ∧
        s.session.resolve destination = .ok path ∧ i.argv.getLast? = some path ∧
        (w₁.files.isDirectory path = true ↔ w.files.isFile path = false) := by
  obtain ⟨hbuiltin, t, hprocedure⟩ := Command.exists_transfer hc s.platform
  have hplan : ((s.plan c raw).on w).2 = ((t.procedure.run s raw).on w).2 := by
    rw [plan, hbuiltin, if_neg Bool.false_ne_true, hprocedure, ActionOf.on_bind_pure]
  rw [hplan] at hattempt ⊢
  rcases t.procedure.run_cases s raw w with ⟨f, -, hon⟩ | ⟨input, hprepare, hon⟩
  · rw [hon] at hattempt
    exact absurd rfl hattempt
  · replace hprepare := Result.ofReported_eq_ok.mp hprepare
    obtain ⟨htokens, hresolve, hmakes⟩ := Transfer.tokens_of_prepare hprepare
    obtain rfl : input.destination = destination := by simpa [htokens] using hsecond
    rw [hnames, Bool.true_and] at hmakes
    rw [hon] at hattempt ⊢
    rcases t.perform_cases s input w with
      ⟨f, w₁, hon, hattempts⟩ | ⟨w₁, hattempts, hafter, hsame, hmade⟩
    · exact absurd ((congrArg (·.2.attempts) hon).trans hattempts) hattempt
    · refine ⟨w₁, _, _, hafter, hattempts, hresolve, t.getLast?_argv_tool s input, ?_⟩
      cases hcontains : w.files.contains input.destinationPath with
      | true =>
        rw [hcontains, Bool.not_true] at hmakes
        rw [hsame hmakes, FileSystem.isFile_eq_not_isDirectory hcontains, Bool.not_eq_false']
      | false =>
        rw [hcontains, Bool.not_false] at hmakes
        rw [hmade hmakes hcontains, FileSystem.isFile_of_not_contains hcontains]
        exact ⟨fun _ => rfl, fun _ => rfl⟩

/-- A file stands where the destination is to be a directory, and the tool is started all the
same. -/
theorem Site.isDirectory_destination_of_file :
    let s : Site := ⟨{ directory := "/", platform := .posix, home := "/" }, .unlimited⟩
    let w : World :=
      { files := ⟨[("/", .newDirectory), ("/a", .newFile), ("/b", .newFile)]⟩ }
    (Argument.tokens "a b/")[1]? = some "b/".toList ∧ Transfer.namesDirectory "b/" = true ∧
      ((s.plan .cp "a b/").on w).2.attempts ≠ w.attempts ∧
      ∃ (w₁ : World) (i : Invocation),
        ((s.plan .cp "a b/").on w).2 = w₁.afterAttempt s.limit i ∧
        i.argv.getLast? = some "/b".toList ∧ w₁.files.isDirectory "/b" = false := by
  intro s w
  have hsecond : (Argument.tokens "a b/")[1]? = some "b/".toList := by decide
  have hnames : Transfer.namesDirectory "b/" = true := rfl
  have hattempts : ((s.plan .cp "a b/").on w).2.attempts =
      [⟨⟨["cp", "/a", "/b"], "/"⟩, .exits none 0⟩] := by decide +kernel
  have hattempt : ((s.plan .cp "a b/").on w).2.attempts ≠ w.attempts := by
    rw [hattempts]
    exact List.cons_ne_nil _ _
  obtain ⟨w₁, i, path, hafter, -, hresolve, hlast, hiff⟩ :=
    isDirectory_destination_iff (.inl rfl) hsecond hnames hattempt
  obtain rfl : "/b".toList = path := Except.ok.inj hresolve
  have hfile : w.files.isFile "/b" = true := rfl
  refine ⟨hsecond, hnames, hattempt, w₁, i, hafter, hlast, ?_⟩
  rw [hfile] at hiff
  simpa using hiff

end PortableShell
