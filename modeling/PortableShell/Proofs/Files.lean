import PortableShell.Proofs.Action

/-!
# What becomes of the files

What the calls of the operating system do to the nodes of a file system: some of them only add
nodes or change modes, and each of the others touches the node of one path.

## Main definitions

* `FileSystem.Keeps`: whether no node is lost and none holds anything else than before.
* `FileSystem.AgreesExcept`: whether two file systems have the same nodes but for one path.
* `World.SameFiles`, `World.KeepsFiles`, `World.AgreesExcept`: the same of the files of two worlds.

## Main statements

* `World.keeps_createFile`: creating a file that is not there yet keeps all nodes.
-/

namespace PortableShell

namespace FileSystem

variable {fs fs' : FileSystem} {p q : Text}

/-! ### File systems that keep their nodes -/

/-- Whether no node is lost and none holds anything else than before.  Its mode may change. -/
def Keeps (fs fs' : FileSystem) : Prop :=
  ∀ q n, fs.node? q = some n → ∃ n', fs'.node? q = some n' ∧ n'.content = n.content

instance : IsPreorder FileSystem Keeps where
  refl _ _ n hn := ⟨n, hn, rfl⟩
  trans _ _ _ h h' q n hn := by
    obtain ⟨n', hn', hcontent⟩ := h q n hn
    obtain ⟨n'', hn'', hcontent'⟩ := h' q n' hn'
    exact ⟨n'', hn'', hcontent'.trans hcontent⟩

theorem Keeps.isDirectory (h : fs.Keeps fs') (hq : fs.isDirectory q = true) :
    fs'.isDirectory q = true := by
  rw [FileSystem.isDirectory, Option.any_eq_true] at hq ⊢
  obtain ⟨n, hn, hdirectory⟩ := hq
  obtain ⟨n', hn', hcontent⟩ := h q n hn
  refine ⟨n', hn', ?_⟩
  rwa [Node.isDirectory, hcontent]

/-- Paths with the same key have the same node. -/
theorem node?_congr (h : key q = key p) (fs : FileSystem) : fs.node? q = fs.node? p := by
  rw [node?, node?, h]

theorem isReplaceable_congr (h : key q = key p) (fs : FileSystem) :
    fs.isReplaceable q = fs.isReplaceable p := by
  rw [isReplaceable, isReplaceable, node?_congr h]

/-- What is a directory and may be replaced all the same is a link. -/
theorem isLink_of_isReplaceable (hdirectory : fs.isDirectory p = true)
    (hreplaceable : fs.isReplaceable p = true) : fs.isLink p = true := by
  rw [isDirectory, Option.any_eq_true] at hdirectory
  obtain ⟨⟨content, mode, attributes⟩, hn, hdirectory⟩ := hdirectory
  rw [isReplaceable, hn] at hreplaceable
  rw [isLink, hn]
  cases content with
  | directory => simp at hreplaceable
  | file bytes => cases hdirectory
  | link => rfl

theorem node?_eq_none_of_not_contains (h : ¬ fs.contains p = true) : fs.node? p = none := by
  simpa [contains] using h

theorem isFile_iff : fs.isFile p = true ↔ ∃ n, fs.node? p = some n ∧ n.isDirectory = false := by
  rw [isFile, bytes?]
  cases fs.node? p with
  | none => simp
  | some n =>
    rcases n with ⟨_ | bytes | _, _, _⟩ <;> simp [Node.bytes?, Node.isDirectory]

/-- A node is set without loss where there is none, or if it holds what was there. -/
theorem keeps_write {n : Node} (h : ∀ old, fs.node? p = some old → n.content = old.content) :
    fs.Keeps (fs.write p n) := by
  intro q old hold
  by_cases hq : key q = key p
  · rw [node?_congr hq] at hold ⊢
    exact ⟨n, node?_write_self fs p n, h old hold⟩
  · exact ⟨old, by rw [node?_write_of_ne hq, hold], rfl⟩

theorem keeps_write_of_not_contains (h : fs.contains p = false) (n : Node) :
    fs.Keeps (fs.write p n) := by
  refine keeps_write fun old hold => ?_
  simp [contains, hold] at h

theorem keeps_update {f : Node → Node} (h : ∀ n, (f n).content = n.content) :
    fs.Keeps (fs.update p f) := by
  rw [update]
  cases hp : fs.node? p with
  | none => exact refl fs
  | some n =>
    refine keeps_write fun old hold => ?_
    rw [hp] at hold
    cases hold
    exact h n

/-! ### File systems that differ at one path -/

/-- Whether two file systems have the same nodes but for that of one path. -/
def AgreesExcept (p : Text) (fs fs' : FileSystem) : Prop :=
  ∀ q, key q ≠ key p → fs'.node? q = fs.node? q

instance : IsPreorder FileSystem (AgreesExcept p) where
  refl _ _ _ := rfl
  trans _ _ _ h h' q hq := (h' q hq).trans (h q hq)

theorem AgreesExcept.isReplaceable (h : AgreesExcept p fs fs') (hq : key q ≠ key p) :
    fs'.isReplaceable q = fs.isReplaceable q := by
  rw [FileSystem.isReplaceable, FileSystem.isReplaceable, h q hq]

theorem agreesExcept_write (fs : FileSystem) (p : Text) (n : Node) :
    AgreesExcept p fs (fs.write p n) :=
  fun _ hq => node?_write_of_ne hq fs n

theorem agreesExcept_erase (fs : FileSystem) (p : Text) : AgreesExcept p fs (fs.erase p) :=
  fun _ hq => node?_erase_of_ne hq fs

theorem agreesExcept_update (fs : FileSystem) (p : Text) (f : Node → Node) :
    AgreesExcept p fs (fs.update p f) := by
  rw [update]
  cases fs.node? p with
  | none => exact refl fs
  | some n => exact agreesExcept_write fs p (f n)

theorem node?_update (fs : FileSystem) (p q : Text) (f : Node → Node) :
    (fs.update p f).node? q = fs.node? q ∨
      key q = key p ∧ ∃ n, fs.node? q = some n ∧ (fs.update p f).node? q = some (f n) := by
  rw [update]
  cases hp : fs.node? p with
  | none => exact .inl rfl
  | some n =>
    by_cases hq : key q = key p
    · rw [node?_congr hq, node?_congr hq, hp]
      exact .inr ⟨hq, n, rfl, node?_write_self fs p (f n)⟩
    · exact .inl (node?_write_of_ne hq fs (f n))

theorem isFile_update {f : Node → Node} (h : ∀ n, (f n).isDirectory = n.isDirectory)
    (hq : fs.isFile q = true) : (fs.update p f).isFile q = true := by
  obtain ⟨n, hn, hdirectory⟩ := isFile_iff.mp hq
  rw [isFile_iff]
  rcases node?_update fs p q f with hsame | ⟨-, n', hn', hafter⟩
  · exact ⟨n, hsame.trans hn, hdirectory⟩
  · cases hn.symm.trans hn'
    exact ⟨f n, hafter, (h n).trans hdirectory⟩

end FileSystem

namespace World

/-- Whether two worlds have the same files. -/
def SameFiles (w w' : World) : Prop :=
  w'.files = w.files

instance : IsPreorder World SameFiles where
  refl _ := rfl
  trans _ _ _ h h' := h'.trans h

/-- What follows a first action does not matter if it touches no file. -/
theorem files_on_bind {ε α β : Type} {act : ActionOf ε α} {next : α → ActionOf ε β}
    (h : ∀ a, (next a).Within SameFiles) (w : World) :
    (ActionOf.on (act >>= next) w).2.files = (act.on w).2.files := by
  rcases hon : act.on w with ⟨_ | a, w'⟩
  · rw [ActionOf.on_bind_of_error hon]
  · rw [ActionOf.on_bind_of_ok hon]
    exact h a w'

/-! ### Calls that keep the nodes -/

/-- Whether a world keeps all nodes of another one and what they hold. -/
def KeepsFiles (w w' : World) : Prop :=
  w.files.Keeps w'.files

instance : IsPreorder World KeepsFiles where
  refl w := refl w.files
  trans _ _ _ h h' := trans_of FileSystem.Keeps h h'

theorem SameFiles.keeps {w w' : World} (h : w.SameFiles w') : w.KeepsFiles w' := by
  rw [KeepsFiles, h]
  exact refl w.files

/-- Creating a file keeps all nodes if there is none at its path. -/
theorem keeps_createFile {path : Text} {w : World} (h : w.files.contains path = false) :
    w.KeepsFiles ((createFile path).on w).2 := by
  rcases createFile_cases path w with ⟨e, hon⟩ | hon <;> rw [hon]
  · exact refl w
  · exact FileSystem.keeps_write_of_not_contains h .newFile

theorem keeps_changeMode (path : Text) (mode : Nat) :
    (changeMode path mode).Within KeepsFiles := by
  intro w
  rcases changeMode_cases path mode w with ⟨e, hon⟩ | hon <;> rw [hon]
  · exact refl w
  · exact FileSystem.keeps_update fun _ => rfl

/-! ### Calls about one path -/

/-- Whether two worlds have the same nodes but for that of one path. -/
def AgreesExcept (path : Text) (w w' : World) : Prop :=
  w.files.AgreesExcept path w'.files

instance {path : Text} : IsPreorder World (AgreesExcept path) where
  refl w := refl w.files
  trans _ _ _ h h' := trans_of (FileSystem.AgreesExcept path) h h'

theorem agreesExcept_createTemporary (path : Text) :
    (createTemporary path).Within (AgreesExcept path) := by
  intro w
  rcases createTemporary_cases path w with ⟨e, hon⟩ | hon <;> rw [hon]
  · exact refl w
  · exact FileSystem.agreesExcept_write w.files path _

theorem agreesExcept_append (path : Text) (bytes : Utf8.Bytes) :
    (append path bytes).Within (AgreesExcept path) :=
  .append fun w => FileSystem.agreesExcept_update w.files path _

theorem agreesExcept_removeFile (path : Text) :
    (removeFile path).Within (AgreesExcept path) := by
  refine .perform fun w files hfiles => ?_
  cases hfiles
  exact FileSystem.agreesExcept_erase w.files path

/-- A node that is not removed is left because of a fault that was in store for that. -/
theorem on_removeFile (path : Text) (w : World) :
    (∃ e, w.fault? .remove 0 path = some e ∧ (removeFile path).on w = (.error e, w)) ∨
      (removeFile path).on w = (.ok (), { w with files := w.files.erase path }) := by
  rw [removeFile, perform, ActionOf.on_get_bind, List.any_nil, if_neg Bool.false_ne_true]
  cases w.fault? .remove 0 path with
  | none => exact .inr rfl
  | some e => exact .inl ⟨e, rfl, rfl⟩

/-- A file that is moved leaves all nodes as they are but for those of the two paths, and takes
the place of no directory. -/
theorem on_replaceFile (source target : Text) (w : World) :
    (∃ e, (replaceFile source target).on w = (.error e, w)) ∨
      ∃ n files, w.files.isReplaceable target = true ∧ w.files.node? source = some n ∧
        files = (w.files.erase source).write target n ∧
        (replaceFile source target).on w = (.ok (), { w with files }) := by
  rcases perform_cases .replace 0 source [target] _ w with ⟨e, hon⟩ | ⟨files, hfiles, hon⟩
  · exact .inl ⟨e, hon⟩
  · cases htarget : w.files.isReplaceable target with
    | false =>
      rw [htarget] at hfiles
      cases hfiles
    | true =>
      rw [htarget] at hfiles
      cases hsource : w.files.node? source with
      | none =>
        rw [hsource] at hfiles
        cases hfiles
      | some n =>
        rw [hsource] at hfiles
        cases hfiles
        exact .inr ⟨n, _, rfl, rfl, rfl, hon⟩

end World

end PortableShell
