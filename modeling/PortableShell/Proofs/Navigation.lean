import PortableShell.Proofs.CanonicalPaths

/-!
# Going from directory to directory

A path that is not absolute leads from a directory in its shortest form to another one: each of its
parts takes one step down, one step up, or none.  Two paths that are followed one after the other
lead to where the path leads that is put together from them with a slash.

## Main definitions

* `Path.follow`: the parts of the directory that a path leads to, from those of the directory that
  it starts in.

## Main statements

* `Path.follow_append`: a path is followed part by part.
* `Path.resolve_eq_follow`: a written path that is not absolute is followed from the directory.
* `Path.resolve_resolve`: two written paths that are not absolute, one after the other.
-/

namespace PortableShell.Path

variable {p q base home part : Text} {kept : List Text}

/-! ### Following a path -/

/-- The parts of the directory that a path leads to from the one with the parts `kept`. -/
def follow (kept : List Text) (p : Text) : List Text :=
  ((Text.splitAt '/' p).foldl (pass true) kept.reverse).reverse

/-- What stands after a slash is followed from where the text before it leads to. -/
theorem follow_append (kept : List Text) (p q : Text) :
    follow kept (p ++ '/' :: q) = follow (follow kept p) q := by
  rw [follow, follow, follow, Text.splitAt_append, List.foldl_append, List.reverse_reverse]

theorem counts_of_mem_follow (hkept : ∀ q ∈ kept, Counts true q) (h : part ∈ follow kept p) :
    Counts true part :=
  counts_of_mem_foldl (fun q hq => hkept q (List.mem_reverse.mp hq))
    (fun _ => Text.notMem_of_mem_splitAt) part (List.mem_reverse.mp h)

/-- Above a root is the root itself. -/
theorem follow_nil_up : follow [] up = [] := rfl

/-- Above any other directory is the one without its last part. -/
theorem follow_concat_up {last : Text} (hlast : last ≠ up) (kept : List Text) :
    follow (kept ++ [last]) up = kept := by
  have hsplit : Text.splitAt '/' up = [up] := rfl
  rw [follow, hsplit, List.foldl_cons, List.foldl_nil, List.reverse_concat, pass_up_cons,
    if_neg hlast, List.reverse_reverse]

/-! ### Seen from a directory -/

/-- A directory in its shortest form, and a path that is seen from it, together have the root of
the directory and the parts that the path leads to. -/
theorem root_join_and_parts_join (h : IsCanonical base) (hp : p.head? ≠ some '/') :
    root (join base p) = root base ∧ parts (join base p) = follow (parts base) p := by
  have hroot := isRoot_root h.rooted
  have hcounts : ∀ q ∈ parts base, Counts true q := fun q => counts_of_rooted h.rooted
  have hbase := h.eq
  by_cases hparts : parts base = []
  · rw [hparts, Text.join, List.append_nil] at hbase
    have hjoin : join base p = root base ++ p := by
      rw [← hbase]
      exact join_of_isRoot (hbase ▸ hroot) hp
    have hrooted : root (root base ++ p) = root base := root_append hroot hp
    rw [hjoin, hrooted, parts, hrooted, isEmpty_root hroot, Bool.not_false,
      foldl_splitAt_root_append hroot, hparts, follow]
    exact ⟨rfl, rfl⟩
  · have hhead : (Text.join ['/'] (parts base) ++ '/' :: p).head? ≠ some '/' := by
      obtain ⟨t, c, hconcat, -⟩ := exists_join_eq_concat hparts hcounts
      rw [List.head?_append_of_ne_nil _ (by simp [hconcat])]
      exact head?_join_ne hcounts
    have hrooted : root (base ++ '/' :: p) = root base := by
      rw [hbase, List.append_assoc, root_append hroot hhead, ← hbase]
    have habove : (parts base).reverse = (Text.splitAt '/' base).foldl (pass true) [] := by
      rw [parts, isEmpty_root hroot, List.reverse_reverse, Bool.not_false]
    rw [join_of_parts_ne_nil h hparts hp, hrooted, parts, hrooted, isEmpty_root hroot,
      Bool.not_false, Text.splitAt_append, List.foldl_append, ← habove, follow]
    exact ⟨rfl, rfl⟩

theorem isCanonical_rooted {r : Text} (hr : IsRoot r) (hkept : ∀ q ∈ kept, Counts true q) :
    IsCanonical (r ++ Text.join ['/'] kept) where
  rooted := by
    rw [List.head?_append, hr.head?]
    rfl
  normalize_eq := normalize_rooted hr hkept

/-! ### Written paths -/

theorem head?_ne_of_isAbsolute_eq_false (h : isAbsolute p = false) : p.head? ≠ some '/' := by
  intro hhead
  rw [isAbsolute_of_head? hhead] at h
  cases h

/-- A written path that is not absolute is followed from the directory.  Only above a root there is
nothing to be found by `..` alone. -/
theorem resolve_eq_follow (h : IsCanonical base) (hp : p ≠ []) (habsolute : isAbsolute p = false)
    (hup : ¬ (p = up ∧ IsRoot base)) (home : Text) :
    resolve p base home = .ok (root base ++ Text.join ['/'] (follow (parts base) p)) := by
  by_cases hp' : p = up
  · subst hp'
    rcases h.isRoot_or with hroot | ⟨kept, last, hparts⟩
    · exact absurd ⟨rfl, hroot⟩ hup
    · have hlast : Counts true last := counts_of_rooted h.rooted (by simp [hparts])
      rw [hparts, follow_concat_up (hlast.ne_up rfl)]
      exact above_of_parts_eq h hparts
  · have hhead := head?_ne_of_isAbsolute_eq_false habsolute
    obtain ⟨hroot, hparts⟩ := root_join_and_parts_join h hhead
    rw [resolve, if_neg hp, if_neg hp', habsolute, if_neg Bool.false_ne_true,
      normalize_of_rooted (head?_join h.rooted p), hroot, hparts]

/-- Going to where one path leads and from there to where another one leads is going to where the
path leads that has a slash between them.  Only the directory above a root is none to go to by `..`
alone, while the path with the slash leads to the root itself. -/
theorem resolve_resolve {r : Text} (h : IsCanonical base) (hp : p ≠ [])
    (hpabsolute : isAbsolute p = false) (hq : q ≠ []) (hqabsolute : isAbsolute q = false)
    (hr : resolve p base home = .ok r) :
    (q = up ∧ IsRoot r →
      resolve q r home = .error (.noParent r) ∧ resolve (p ++ '/' :: q) base home = .ok r) ∧
    (¬ (q = up ∧ IsRoot r) → resolve q r home = resolve (p ++ '/' :: q) base home) := by
  have hroot := isRoot_root h.rooted
  have hkept : ∀ part ∈ follow (parts base) p, Counts true part := fun part =>
    counts_of_mem_follow fun _ => counts_of_rooted h.rooted
  have hup : ¬ (p = up ∧ IsRoot base) := by
    rintro ⟨rfl, hbase⟩
    cases (above_of_isRoot hbase).symm.trans hr
  obtain rfl : root base ++ Text.join ['/'] (follow (parts base) p) = r :=
    Except.ok.inj ((resolve_eq_follow h hp hpabsolute hup home).symm.trans hr)
  have hparts := parts_rooted hroot hkept
  have hboth : resolve (p ++ '/' :: q) base home =
      .ok (root base ++ Text.join ['/'] (follow (follow (parts base) p) q)) := by
    rw [← follow_append]
    refine resolve_eq_follow h (by simp) ?_ ?_ home
    · rw [isAbsolute_append hp, hpabsolute]
    · rintro ⟨heq, -⟩
      -- a text with a slash in it is no `..`
      have hslash : '/' ∈ up := heq ▸ List.mem_append_right p List.mem_cons_self
      exact absurd hslash (by decide)
  constructor
  · rintro ⟨rfl, hrootr⟩
    refine ⟨above_of_isRoot hrootr, ?_⟩
    have hempty : follow (parts base) p = [] := hparts.symm.trans (parts_root hrootr)
    rw [hboth, hempty, follow_nil_up]
  · intro hupr
    rw [hboth, resolve_eq_follow (isCanonical_rooted hroot hkept) hq hqabsolute hupr, hparts,
      root_append hroot (head?_join_ne hkept)]

/-- A way that leads up to a root of two slashes and down again, and then up once more. -/
theorem resolve_resolve_below_double_root :
    IsCanonical "//work" ∧ resolve ".././x/" "//work" "/me" = .ok "//x" ∧
      resolve ".." "//x" "/me" = resolve ".././x//.." "//work" "/me" := by
  have hbase : IsCanonical "//work" := ⟨rfl, rfl⟩
  have hr : resolve ".././x/" "//work" "/me" = .ok "//x" := rfl
  have hroot : ¬ (up = up ∧ IsRoot "//x") := by
    rintro ⟨-, h | h⟩ <;> cases h
  exact ⟨hbase, hr, (resolve_resolve hbase (by decide) rfl (by decide) rfl hr).2 hroot⟩

end PortableShell.Path
