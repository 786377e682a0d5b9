import Mathlib.Logic.Function.Iterate
import PortableShell.Proofs.Files

/-!
# Making directories

The directories at and above a path are made one after the other, the topmost first.  What is made
before a failure stays.  Such a failure has a fault or a null character behind it: a file that
stands in the way keeps the first directory from being made.

## Main definitions

* `FileSystem.IsAtOrAbove`: whether a path is another one or above it.
* `FileSystem.GrownTo`, `World.GrownTo`: whether there are only new directories at or above a path.
* `World.StopsAt`: whether a fault, or a null character, stops the making of directories after so
  many were made.

## Main statements

* `World.grownTo_createDirectories`: making directories makes new ones at and above the path, and
  changes nothing else.
* `World.createDirectories_error`: if it fails, nothing was changed, or something stopped it later.
* `World.contains_of_createDirectories`: if it does not, there is something at every path above.
-/

namespace PortableShell

namespace FileSystem

variable {fs fs' : FileSystem} {p q : Text}

/-! ### The paths above a path -/

/-- Whether a path is another one or above it.  The empty path is above none. -/
def IsAtOrAbove (q p : Text) : Prop :=
  ∃ k, Path.parent^[k] (key p) ≠ [] ∧ key q = key (Path.parent^[k] (key p))

theorem exists_iterate_of_mem_chain {fuel : Nat} {p a : Text} (h : a ∈ chain fuel p) :
    a ≠ [] ∧ ∃ k, a = Path.parent^[k] p := by
  induction fuel generalizing p with
  | zero => cases h
  | succ fuel ih =>
    rw [chain] at h
    by_cases hempty : p.isEmpty = true
    · rw [if_pos hempty] at h
      cases h
    · rw [if_neg hempty] at h
      rcases List.mem_cons.mp h with rfl | habove
      · exact ⟨by simpa using hempty, 0, rfl⟩
      · by_cases htop : Path.parent p = p
        · rw [if_pos htop] at habove
          cases habove
        · rw [if_neg htop] at habove
          obtain ⟨hne, k, hk⟩ := ih habove
          exact ⟨hne, k + 1, hk⟩

theorem isAtOrAbove_of_mem {a : Text} (h : a ∈ withAncestors p) (hq : key q = key a) :
    IsAtOrAbove q p := by
  obtain ⟨hne, k, rfl⟩ := exists_iterate_of_mem_chain h
  exact ⟨k, hne, hq⟩

/-! ### New directories -/

/-- Whether a file system is another one but for new directories at or above a path. -/
def GrownTo (p : Text) (fs fs' : FileSystem) : Prop :=
  ∀ q, fs'.node? q = fs.node? q ∨
    fs.node? q = none ∧ fs'.node? q = some .newDirectory ∧ IsAtOrAbove q p

instance : IsPreorder FileSystem (GrownTo p) where
  refl _ _ := .inl rfl
  trans fs fs' fs'' h h' q := by
    rcases h q, h' q with ⟨hsame | ⟨hnone, hmade, hq⟩, hsame' | ⟨hnone', hmade', hq'⟩⟩
    · exact .inl (hsame'.trans hsame)
    · exact .inr ⟨hsame.symm.trans hnone', hmade', hq'⟩
    · exact .inr ⟨hnone, hsame'.trans hmade, hq⟩
    · cases hmade.symm.trans hnone'

theorem GrownTo.keeps (h : GrownTo p fs fs') : fs.Keeps fs' := by
  intro q n hn
  rcases h q with hsame | ⟨hnone, -, -⟩
  · exact ⟨n, hsame.trans hn, rfl⟩
  · cases hn.symm.trans hnone

theorem GrownTo.contains (h : GrownTo p fs fs') (hq : fs.contains q = true) :
    fs'.contains q = true := by
  obtain ⟨n, hn⟩ := Option.isSome_iff_exists.mp hq
  obtain ⟨n', hn', -⟩ := h.keeps q n hn
  exact Option.isSome_iff_exists.mpr ⟨n', hn'⟩

/-- Where there was nothing and is something, there is a directory. -/
theorem GrownTo.isDirectory (h : GrownTo p fs fs') (hq : fs.contains q = false)
    (hq' : fs'.contains q = true) : fs'.isDirectory q = true := by
  rcases h q with hsame | ⟨-, hmade, -⟩
  · rw [FileSystem.contains, hsame, ← FileSystem.contains, hq] at hq'
    cases hq'
  · rw [FileSystem.isDirectory, hmade]
    rfl

theorem grownTo_write {a : Text} (ha : a ∈ withAncestors p) (hnone : fs.contains a = false) :
    GrownTo p fs (fs.write a .newDirectory) := by
  intro q
  by_cases hq : key q = key a
  · refine .inr ⟨?_, ?_, isAtOrAbove_of_mem ha hq⟩
    · exact (node?_congr hq fs).trans (node?_eq_none_of_not_contains (by simp [hnone]))
    · exact (node?_congr hq _).trans (node?_write_self fs a _)
  · exact .inl (node?_write_of_ne hq fs _)

/-! ### Files that stand in the way -/

/-- Whether a file stands where a directory would have to be made, or above. -/
def IsBlocked (fs : FileSystem) (p : Text) : Prop :=
  (fs.nearest? p).any (! ·.isDirectory) = true

/-- A new directory is no such file. -/
theorem isBlocked_of_write {a : Text} (h : (fs.write a .newDirectory).IsBlocked p) :
    fs.IsBlocked p := by
  rw [IsBlocked, Option.any_eq_true] at h ⊢
  obtain ⟨n, hn, hfile⟩ := h
  refine ⟨n, ?_, hfile⟩
  obtain ⟨nearer, q, further, hchain, hq, hnearer⟩ := List.findSome?_eq_some_iff.mp hn
  have hgrown {b : Text} : (fs.write a .newDirectory).node? b = none → fs.node? b = none := by
    by_cases hb : key b = key a
    · rw [node?_congr hb, node?_write_self]
      exact fun h => nomatch h
    · rw [node?_write_of_ne hb]
      exact id
  refine List.findSome?_eq_some_iff.mpr ⟨nearer, q, further, hchain, ?_, fun b hb => ?_⟩
  · by_cases ha : key q = key a
    · rw [node?_congr ha, node?_write_self] at hq
      cases hq
      cases hfile
    · rwa [node?_write_of_ne ha] at hq
  · exact hgrown (hnearer b hb)

end FileSystem

namespace World

variable {path : Text} {w w' : World} {e : SystemError}

/-! ### Making one directory -/

/-- Whether a world is another one but for new directories at or above a path. -/
structure GrownTo (path : Text) (w w' : World) : Prop where
  eq : w' = { w with files := w'.files }
  files : w.files.GrownTo path w'.files

instance : IsPreorder World (GrownTo path) where
  refl w := ⟨rfl, refl w.files⟩
  trans w w' w'' h h' := by
    refine ⟨?_, trans_of (FileSystem.GrownTo path) h.files h'.files⟩
    rw [h'.eq, h.eq]

/-- Whether the making of directories cannot go on after so many were made, with an error: there is
a fault in store for that, or a path has a null character. -/
def StopsAt (w : World) (path : Text) (made : Nat) (e : SystemError) : Prop :=
  w.fault? .makeDirectories made path = some e ∨ e = .nullCharacter

/-- A directory is made, or it is not, and nothing is changed then. -/
theorem createDirectory_cases (path : Text) (made : Nat) (q : Text) (w : World) :
    (∃ e, (w.StopsAt path made e ∨ w.files.IsBlocked path ∧ e = .blocked path) ∧
        (createDirectory path made q).on w = (.error e, w)) ∨
      ¬ w.files.IsBlocked path ∧ (createDirectory path made q).on w =
        (.ok (), { w with files := w.files.write q .newDirectory }) := by
  rw [createDirectory, on_perform]
  split
  · exact .inl ⟨_, .inl (.inr rfl), rfl⟩
  · cases hfault : w.fault? .makeDirectories made path with
    | some e => exact .inl ⟨e, .inl (.inl hfault), rfl⟩
    | none =>
      by_cases hblocked : (w.files.nearest? path).any (! ·.isDirectory) = true
      · rw [if_pos hblocked]
        exact .inl ⟨_, .inr ⟨hblocked, rfl⟩, rfl⟩
      · rw [if_neg hblocked]
        exact .inr ⟨hblocked, rfl⟩

theorem grownTo_createDirectory {q : Text} {made : Nat}
    (hq : q ∈ FileSystem.withAncestors path) (hnone : w.files.contains q = false) :
    w.GrownTo path ((createDirectory path made q).on w).2 := by
  rcases createDirectory_cases path made q w with ⟨e, -, hon⟩ | ⟨-, hon⟩ <;> rw [hon]
  · exact refl_of (GrownTo path) w
  · exact ⟨rfl, FileSystem.grownTo_write hq hnone⟩

/-! ### Making all that are missing -/

/-- Making directories makes new ones at and above a path, also if it fails half way. -/
theorem grownTo_createDirectories (path : Text) : (createDirectories path).Within (GrownTo path) :=
  .createDirectories fun _ _ _ => grownTo_createDirectory

theorem keeps_createDirectories (path : Text) : (createDirectories path).Within KeepsFiles :=
  (grownTo_createDirectories path).mono fun _ _ h => h.files.keeps

/-- If the making of directories fails at the first one that is missing, nothing was changed; if it
fails at a later one, there was no file in the way, so that something else stopped it. -/
theorem createEach_error {made : Nat} {qs : List Text}
    (h : (createEach path made qs).on w = (.error e, w')) :
    w' = w ∧ (w.StopsAt path made e ∨ w.files.IsBlocked path ∧ e = .blocked path) ∨
      ∃ k, made < k ∧ w.StopsAt path k e := by
  induction qs generalizing made w with
  | nil => cases h
  | cons q rest ih =>
    rw [createEach, ActionOf.on_currentFiles_bind] at h
    cases hq : w.files.contains q with
    | true =>
      rw [hq, if_pos rfl] at h
      exact ih h
    | false =>
      rw [hq, if_neg Bool.false_ne_true] at h
      rcases createDirectory_cases path made q w with ⟨e', hcause, hon⟩ | ⟨hclear, hon⟩
      · rw [ActionOf.on_bind_of_error hon] at h
        cases h
        exact .inl ⟨rfl, hcause⟩
      · rw [ActionOf.on_bind_of_ok hon] at h
        rcases ih h with ⟨-, hstops | ⟨hblocked, -⟩⟩ | ⟨k, hk, hstops⟩
        · exact .inr ⟨made + 1, by omega, hstops⟩
        · exact absurd (FileSystem.isBlocked_of_write hblocked) hclear
        · exact .inr ⟨k, by omega, hstops⟩

/-- If the making of directories fails, then nothing was changed, or it was stopped after some were
made. -/
theorem createDirectories_error (h : (createDirectories path).on w = (.error e, w')) :
    w' = w ∧ (w.StopsAt path 0 e ∨ w.files.IsBlocked path ∧ e = .blocked path) ∨
      ∃ made, 0 < made ∧ w.StopsAt path made e :=
  createEach_error h

theorem contains_of_createEach {made : Nat} {qs : List Text}
    (hqs : ∀ q ∈ qs, q ∈ FileSystem.withAncestors path)
    (h : (createEach path made qs).on w = (.ok (), w')) :
    (∀ q, w.files.contains q = true → w'.files.contains q = true) ∧
      ∀ q ∈ qs, w'.files.contains q = true := by
  induction qs generalizing made w with
  | nil =>
    cases h
    exact ⟨fun _ => id, fun _ hq => nomatch hq⟩
  | cons q rest ih =>
    have hrest := fun b hb => hqs b (List.mem_cons_of_mem q hb)
    rw [createEach, ActionOf.on_currentFiles_bind] at h
    cases hq : w.files.contains q with
    | true =>
      rw [hq, if_pos rfl] at h
      obtain ⟨hkeeps, hmade⟩ := ih hrest h
      exact ⟨hkeeps, List.forall_mem_cons.mpr ⟨hkeeps q hq, hmade⟩⟩
    | false =>
      rw [hq, if_neg Bool.false_ne_true] at h
      rcases createDirectory_cases path made q w with ⟨e', -, hon⟩ | ⟨-, hon⟩
      · rw [ActionOf.on_bind_of_error hon] at h
        cases h
      · rw [ActionOf.on_bind_of_ok hon] at h
        obtain ⟨hkeeps, hmade⟩ := ih hrest h
        have hgrown := FileSystem.grownTo_write (hqs q List.mem_cons_self) hq
        refine ⟨fun b hb => hkeeps b (hgrown.contains hb), List.forall_mem_cons.mpr ⟨?_, hmade⟩⟩
        refine hkeeps q ?_
        rw [FileSystem.contains, FileSystem.node?_write_self]
        rfl

/-- Once directories were made, there is something at the path and at every path above it. -/
theorem contains_of_createDirectories (h : (createDirectories path).on w = (.ok (), w')) {q : Text}
    (hq : q ∈ FileSystem.withAncestors path) : w'.files.contains q = true :=
  (contains_of_createEach (fun _ => List.mem_reverse.mp) h).2 q (List.mem_reverse.mpr hq)

end World

end PortableShell
