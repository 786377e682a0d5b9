import PortableShell.Path.Resolve
import PortableShell.Proofs.Pieces

/-!
# Paths in their shortest form

The shortest form of a rooted path is its root and the parts that count, and what stands above it
is the same without the last of them.  From this follows what a written path means in a directory
that is given in its shortest form.

## Main definitions

* `Path.Counts`: the texts that can be parts of a path that count.
* `Path.IsRoot`, `Path.IsCanonical`: the roots, and the rooted paths in their shortest form.
* `Path.LosesAnchor`: the absolute paths whose shortest form is not absolute.

## Main statements

* `Path.counts_of_mem_parts`: the parts of a path that count.
* `Path.parent_rooted`, `Path.name_rooted`: a path without its last part, and this part.
* `Path.normalize_rooted`: a root and parts that count are in their shortest form together.
* `Path.normalize_normalize`: the shortest form of a path is its own shortest form.
* `Path.resolve_beside_iff`: when a text means what has this name in the directory.
* `Path.isAbsolute_resolve_iff`: when a written path means none, and when what it means is absolute.
-/

namespace PortableShell.Path

variable {p q base part : Text} {kept above pieces : List Text} {rooted : Bool}

/-! ### Parts -/

/-- Whether a text can be a part of a path that counts: it is not empty, no `.`, without slashes,
and no `..` if the path is rooted. -/
structure Counts (rooted : Bool) (part : Text) : Prop where
  ne_nil : part ≠ []
  ne_here : part ≠ here
  ne_up : rooted = true → part ≠ up
  slash_notMem : '/' ∉ part

theorem pass_of_skipped (h : part = [] ∨ part = here) : pass rooted above part = above := by
  unfold pass
  rw [if_pos h]

theorem pass_up_nil : pass rooted [] up = if rooted then [] else [up] := rfl

theorem pass_up_cons {top : Text} :
    pass rooted (top :: above) up = if top = up then up :: top :: above else above := rfl

/-- A part that does not undo another one is added to those passed so far. -/
theorem pass_eq_cons (hnil : part ≠ []) (hhere : part ≠ here) (hup : part ≠ up) :
    pass rooted above part = part :: above := by
  have hskipped : ¬ (part = [] ∨ part = here) := not_or.mpr ⟨hnil, hhere⟩
  unfold pass
  rw [if_neg hskipped, if_neg hup]

theorem counts_of_mem_pass (habove : ∀ q ∈ above, Counts rooted q) (hpart : '/' ∉ part)
    (h : q ∈ pass rooted above part) : Counts rooted q := by
  by_cases hskipped : part = [] ∨ part = here
  · rw [pass_of_skipped hskipped] at h
    exact habove q h
  · obtain ⟨hnil, hhere⟩ := not_or.mp hskipped
    by_cases hup : part = up
    · subst hup
      cases above with
      | nil =>
        rw [pass_up_nil] at h
        cases rooted with
        | true => cases h
        | false =>
          obtain rfl := List.mem_singleton.mp h
          exact ⟨hnil, hhere, nofun, hpart⟩
      | cons top above =>
        rw [pass_up_cons] at h
        by_cases htop : top = up
        · rw [if_pos htop] at h
          rcases List.mem_cons.mp h with rfl | h
          · exact htop ▸ habove top List.mem_cons_self
          · exact habove q h
        · rw [if_neg htop] at h
          exact habove q (List.mem_cons_of_mem top h)
    · rw [pass_eq_cons hnil hhere hup] at h
      rcases List.mem_cons.mp h with rfl | h
      · exact ⟨hnil, hhere, fun _ => hup, hpart⟩
      · exact habove q h

theorem counts_of_mem_foldl (habove : ∀ q ∈ above, Counts rooted q)
    (hpieces : ∀ piece ∈ pieces, '/' ∉ piece) :
    ∀ q ∈ pieces.foldl (pass rooted) above, Counts rooted q := by
  induction pieces generalizing above with
  | nil => exact habove
  | cons piece pieces ih =>
    exact ih (fun _ => counts_of_mem_pass habove (hpieces piece List.mem_cons_self))
      fun other hother => hpieces other (List.mem_cons_of_mem _ hother)

/-- The parts that count are such that can count. -/
theorem counts_of_mem_parts (h : part ∈ parts p) : Counts (! (root p).isEmpty) part :=
  counts_of_mem_foldl (fun _ hq => absurd hq List.not_mem_nil)
    (fun _ => Text.notMem_of_mem_splitAt) part (List.mem_reverse.mp h)

/-! ### Roots -/

/-- Whether a path is a root. -/
def IsRoot (p : Text) : Prop :=
  p = ['/'] ∨ p = ['/', '/']

theorem root_eq_nil (h : p.head? ≠ some '/') : root p = [] := by
  fun_cases root p <;> first | rfl | exact absurd rfl h

theorem isRoot_root (h : p.head? = some '/') : IsRoot (root p) := by
  fun_cases root p with
  | case1 => exact .inl rfl
  | case2 => exact .inr rfl
  | case3 => exact .inl rfl
  | case4 _ _ _ hne =>
    obtain ⟨t, rfl⟩ := List.head?_eq_some_iff.mp h
    exact absurd rfl (hne t)

theorem IsRoot.head? {r : Text} (h : IsRoot r) : r.head? = some '/' := by
  rcases h with rfl | rfl <;> rfl

theorem parts_root {r : Text} (h : IsRoot r) : parts r = [] := by
  rcases h with rfl | rfl <;> rfl

/-- The shortest form of a rooted path is its root and the parts that count. -/
theorem normalize_of_rooted (h : p.head? = some '/') :
    normalize p = root p ++ Text.join ['/'] (parts p) := by
  rw [normalize, orHere]
  rcases isRoot_root h with hroot | hroot <;> rw [hroot] <;> rfl

theorem orHere_of_ne_nil (h : p ≠ []) : orHere p = p := by
  rw [orHere, if_neg (by simpa using h)]

theorem counts_of_rooted (h : p.head? = some '/') (hpart : part ∈ parts p) : Counts true part := by
  have hcounts := counts_of_mem_parts hpart
  rcases isRoot_root h with hroot | hroot <;> rw [hroot] at hcounts <;> exact hcounts

theorem head?_normalize (h : p.head? = some '/') : (normalize p).head? = some '/' := by
  rw [normalize_of_rooted h, List.head?_append, (isRoot_root h).head?]
  rfl

theorem isAbsolute_of_head? (h : p.head? = some '/') : isAbsolute p = true := by
  obtain ⟨t, rfl⟩ := List.head?_eq_some_iff.mp h
  rfl

/-! ### Above a path -/

/-- Parts that count end in a character that is no slash. -/
theorem exists_join_eq_concat (hne : kept ≠ []) (h : ∀ q ∈ kept, Counts rooted q) :
    ∃ t c, Text.join ['/'] kept = t ++ [c] ∧ c ≠ '/' := by
  obtain ⟨before, last, rfl⟩ := (List.eq_nil_or_concat' kept).resolve_left hne
  have hlast := h last (by simp)
  obtain ⟨t, c, rfl⟩ := (List.eq_nil_or_concat' last).resolve_left hlast.ne_nil
  have hc : c ≠ '/' := by
    rintro rfl
    exact hlast.slash_notMem (by simp)
  by_cases hbefore : before = []
  · exact ⟨t, c, by rw [hbefore]; rfl, hc⟩
  · exact ⟨Text.join ['/'] before ++ ['/'] ++ t, c, by
      rw [Text.join_concat hbefore, ← List.append_assoc], hc⟩

/-- What stands before the last part of a rooted path ends in a slash. -/
theorem exists_rooted_eq {r : Text} (hr : IsRoot r) (kept : List Text) (last : Text) :
    ∃ t, r ++ Text.join ['/'] (kept ++ [last]) = t ++ '/' :: last ∧
      (kept = [] → t ++ ['/'] = r) ∧ (kept ≠ [] → t = r ++ Text.join ['/'] kept) := by
  by_cases hkept : kept = []
  · subst hkept
    rcases hr with rfl | rfl
    · exact ⟨[], rfl, fun _ => rfl, fun h => absurd rfl h⟩
    · exact ⟨['/'], rfl, fun _ => rfl, fun h => absurd rfl h⟩
  · refine ⟨r ++ Text.join ['/'] kept, ?_, fun h => absurd h hkept, fun _ => rfl⟩
    rw [Text.join_concat hkept]
    simp

/-- The name of a rooted path is the last part that counts. -/
theorem name_rooted {r last : Text} (hr : IsRoot r) (hlast : '/' ∉ last) :
    name (r ++ Text.join ['/'] (kept ++ [last])) = last := by
  obtain ⟨t, heq, -, -⟩ := exists_rooted_eq hr kept last
  rw [name, heq, Text.afterLast_append hlast]

/-- Above a rooted path is the same path without the last part that counts. -/
theorem parent_rooted {r last : Text} (hr : IsRoot r) (hkept : ∀ q ∈ kept, Counts rooted q)
    (hlast : '/' ∉ last) :
    parent (r ++ Text.join ['/'] (kept ++ [last])) = r ++ Text.join ['/'] kept := by
  obtain ⟨t, heq, hnil, hcons⟩ := exists_rooted_eq hr kept last
  rw [parent, heq, Text.throughLast_append hlast]
  by_cases hne : kept = []
  · rw [hnil hne, hne]
    rcases hr with rfl | rfl <;> rfl
  · obtain ⟨u, c, hjoin, hc⟩ := exists_join_eq_concat hne hkept
    have hall : (r ++ (u ++ [c]) ++ ['/']).all (· == '/') = false := by simp [hc]
    have hdrop : Text.dropEndWhile (· == '/') (r ++ (u ++ [c]) ++ ['/']) = r ++ (u ++ [c]) := by
      simp [Text.dropEndWhile, hc]
    rw [hcons hne, hjoin, hall, hdrop, if_neg Bool.false_ne_true]

/-- The name of a rooted path that consists of parts that count is one of those, or empty. -/
theorem name_eq_nil_or_counts {r : Text} (hr : IsRoot r) (hkept : ∀ q ∈ kept, Counts true q) :
    name (r ++ Text.join ['/'] kept) = [] ∨ Counts true (name (r ++ Text.join ['/'] kept)) := by
  rcases List.eq_nil_or_concat' kept with rfl | ⟨before, last, rfl⟩
  · rcases hr with rfl | rfl <;> exact .inl rfl
  · have hlast := hkept last (by simp)
    rw [name_rooted hr hlast.slash_notMem]
    exact .inr hlast

/-! ### Paths that are in their shortest form -/

theorem foldl_pass (hkept : ∀ q ∈ kept, Counts true q) :
    kept.foldl (pass true) above = kept.reverse ++ above := by
  induction kept generalizing above with
  | nil => rfl
  | cons q kept ih =>
    have hq := hkept q List.mem_cons_self
    rw [List.foldl_cons, pass_eq_cons hq.ne_nil hq.ne_here (hq.ne_up rfl),
      ih fun other hother => hkept other (List.mem_cons_of_mem q hother)]
    simp

theorem root_append {r t : Text} (hr : IsRoot r) (ht : t.head? ≠ some '/') : root (r ++ t) = r := by
  cases t with
  | nil => rcases hr with rfl | rfl <;> rfl
  | cons c t =>
    have hc : c ≠ '/' := by simpa using ht
    rcases hr with rfl | rfl <;> simp [root, hc]

/-- No slash follows the root in front of parts that count. -/
theorem head?_join_ne (hkept : ∀ q ∈ kept, Counts rooted q) :
    (Text.join ['/'] kept).head? ≠ some '/' := by
  cases kept with
  | nil => simp [Text.join]
  | cons q kept =>
    have hq := hkept q List.mem_cons_self
    obtain ⟨c, t, rfl⟩ := List.exists_cons_of_ne_nil hq.ne_nil
    have hc : c ≠ '/' := by
      rintro rfl
      exact hq.slash_notMem List.mem_cons_self
    cases kept with
    | nil => simpa [Text.join] using hc
    | cons next kept => simpa [Text.join] using hc

/-- A slash in front adds no part. -/
theorem foldl_splitAt_slash_cons (t : Text) :
    (Text.splitAt '/' ('/' :: t)).foldl (pass rooted) above =
      (Text.splitAt '/' t).foldl (pass rooted) above := by
  have hsplit := Text.splitAt_append '/' [] t
  rw [List.nil_append] at hsplit
  rw [hsplit, List.foldl_append]
  rfl

/-- Nor does a root. -/
theorem foldl_splitAt_root_append {r : Text} (hr : IsRoot r) (t : Text) :
    (Text.splitAt '/' (r ++ t)).foldl (pass rooted) above =
      (Text.splitAt '/' t).foldl (pass rooted) above := by
  rcases hr with rfl | rfl
  · exact foldl_splitAt_slash_cons t
  · exact (foldl_splitAt_slash_cons ('/' :: t)).trans (foldl_splitAt_slash_cons t)

theorem isEmpty_root {r : Text} (hr : IsRoot r) : r.isEmpty = false := by
  rcases hr with rfl | rfl <;> rfl

/-- The parts of a root followed by parts that count are these. -/
theorem parts_rooted {r : Text} (hr : IsRoot r) (hkept : ∀ q ∈ kept, Counts true q) :
    parts (r ++ Text.join ['/'] kept) = kept := by
  have hjoin : (Text.splitAt '/' (Text.join ['/'] kept)).foldl (pass true) [] = kept.reverse := by
    by_cases hne : kept = []
    · subst hne
      rfl
    · rw [Text.splitAt_join hne fun q hq => (hkept q hq).slash_notMem, foldl_pass hkept,
        List.append_nil]
  rw [parts, root_append hr (head?_join_ne hkept), isEmpty_root hr, Bool.not_false,
    foldl_splitAt_root_append hr, hjoin, List.reverse_reverse]

/-- So they are in their shortest form together. -/
theorem normalize_rooted {r : Text} (hr : IsRoot r) (hkept : ∀ q ∈ kept, Counts true q) :
    normalize (r ++ Text.join ['/'] kept) = r ++ Text.join ['/'] kept := by
  have hrooted : (r ++ Text.join ['/'] kept).head? = some '/' := by
    rw [List.head?_append, hr.head?]
    rfl
  rw [normalize_of_rooted hrooted, root_append hr (head?_join_ne hkept), parts_rooted hr hkept]

/-- One more part leaves parts that are passed again as they are, if those before were such. -/
theorem foldl_pass_reverse_pass (hcounts : ∀ q ∈ above, Counts rooted q)
    (h : above.reverse.foldl (pass rooted) [] = above) (part : Text) :
    (pass rooted above part).reverse.foldl (pass rooted) [] = pass rooted above part := by
  have hcons {top : Text} {above : List Text}
      (hadd : pass rooted (above.reverse.foldl (pass rooted) []) top = top :: above) :
      (top :: above).reverse.foldl (pass rooted) [] = top :: above := by
    rw [List.reverse_cons, List.foldl_append]
    exact hadd
  by_cases hskipped : part = [] ∨ part = here
  · rw [pass_of_skipped hskipped, h]
  · obtain ⟨hnil, hhere⟩ := not_or.mp hskipped
    by_cases hup : part = up
    · subst hup
      cases above with
      | nil => cases rooted <;> rfl
      | cons top above =>
        rw [pass_up_cons]
        by_cases htop : top = up
        · rw [if_pos htop]
          refine hcons ?_
          rw [h, pass_up_cons, if_pos htop]
        · have htopCounts := hcounts top List.mem_cons_self
          rw [if_neg htop]
          -- the part that is undone was the last one to be added
          rw [List.reverse_cons, List.foldl_append, List.foldl_cons, List.foldl_nil,
            pass_eq_cons htopCounts.ne_nil htopCounts.ne_here htop] at h
          exact (List.cons.inj h).2
    · rw [pass_eq_cons hnil hhere hup]
      refine hcons ?_
      rw [h, pass_eq_cons hnil hhere hup]

theorem foldl_pass_reverse_foldl (hcounts : ∀ q ∈ above, Counts rooted q)
    (h : above.reverse.foldl (pass rooted) [] = above) (hpieces : ∀ piece ∈ pieces, '/' ∉ piece) :
    (pieces.foldl (pass rooted) above).reverse.foldl (pass rooted) [] =
      pieces.foldl (pass rooted) above := by
  induction pieces generalizing above with
  | nil => exact h
  | cons piece pieces ih =>
    exact ih (fun _ => counts_of_mem_pass hcounts (hpieces piece List.mem_cons_self))
      (foldl_pass_reverse_pass hcounts h piece)
      fun other hother => hpieces other (List.mem_cons_of_mem _ hother)

/-- The parts that count are left as they are if they are passed again. -/
theorem foldl_pass_parts (p : Text) :
    (parts p).foldl (pass (! (root p).isEmpty)) [] = (parts p).reverse := by
  rw [parts, List.reverse_reverse]
  exact foldl_pass_reverse_foldl (by simp) rfl fun _ => Text.notMem_of_mem_splitAt

theorem head?_normalize_ne (h : p.head? ≠ some '/') : (normalize p).head? ≠ some '/' := by
  rw [normalize, root_eq_nil h, List.nil_append, orHere]
  split
  · decide
  · exact head?_join_ne fun _ => counts_of_mem_parts

/-- The shortest form of a path is its own shortest form. -/
theorem normalize_normalize (p : Text) : normalize (normalize p) = normalize p := by
  by_cases hrooted : p.head? = some '/'
  · rw [normalize_of_rooted hrooted]
    exact normalize_rooted (isRoot_root hrooted) fun _ => counts_of_rooted hrooted
  · have hroot : (! (root p).isEmpty) = false := by rw [root_eq_nil hrooted]; rfl
    by_cases hparts : parts p = []
    · have hhere : normalize p = here := by rw [normalize, root_eq_nil hrooted, hparts]; rfl
      rw [hhere]
      rfl
    · obtain ⟨t, c, hconcat, -⟩ := exists_join_eq_concat hparts fun _ => counts_of_mem_parts
      have hnormalize : normalize p = Text.join ['/'] (parts p) := by
        rw [normalize, root_eq_nil hrooted, List.nil_append]
        exact orHere_of_ne_nil (by simp [hconcat])
      have hhead := head?_normalize_ne hrooted
      have hagain : parts (normalize p) = parts p := by
        have hpassed := foldl_pass_parts p
        rw [hroot] at hpassed
        rw [parts, root_eq_nil hhead, hnormalize, Text.splitAt_join hparts fun _ hq =>
          (counts_of_mem_parts hq).slash_notMem]
        exact (congrArg List.reverse hpassed).trans (List.reverse_reverse _)
      rw [normalize, root_eq_nil hhead, List.nil_append, hagain, ← hnormalize]
      exact orHere_of_ne_nil (by simp [hnormalize, hconcat])

/-- Whether a path is rooted and in its shortest form. -/
structure IsCanonical (p : Text) : Prop where
  rooted : p.head? = some '/'
  normalize_eq : normalize p = p

namespace IsCanonical

theorem eq (h : IsCanonical p) : p = root p ++ Text.join ['/'] (parts p) :=
  h.normalize_eq.symm.trans (normalize_of_rooted h.rooted)

/-- Either it is a root, or there is a last part. -/
theorem isRoot_or (h : IsCanonical p) :
    IsRoot p ∨ ∃ kept last, parts p = kept ++ [last] := by
  rcases List.eq_nil_or_concat' (parts p) with hnil | hconcat
  · refine .inl ?_
    have heq := h.eq
    rw [hnil, Text.join, List.append_nil] at heq
    rw [heq]
    exact isRoot_root h.rooted
  · exact .inr hconcat

end IsCanonical

/-! ### The directory above -/

theorem above_of_isRoot (h : IsRoot base) : Path.above base = .error (.noParent base) := by
  rcases h with rfl | rfl <;> rfl

/-- Above a directory that is no root is the same path without its last part. -/
theorem above_of_parts_eq {last : Text} (h : IsCanonical base)
    (hparts : parts base = kept ++ [last]) :
    Path.above base = .ok (root base ++ Text.join ['/'] kept) := by
  have hcounts : ∀ q ∈ kept ++ [last], Counts true q := fun q hq =>
    counts_of_rooted h.rooted (by rwa [hparts])
  have hlast := hcounts last (by simp)
  have hroot := isRoot_root h.rooted
  have hbase := h.eq
  rw [hparts] at hbase
  have hkept : ∀ q ∈ kept, Counts true q := fun q hq => hcounts q (List.mem_append_left _ hq)
  have hparent := parent_rooted hroot hkept hlast.slash_notMem
  rw [← hbase] at hparent
  have hempty : (root base ++ Text.join ['/'] kept).isEmpty = false := by
    rcases hroot with hroot | hroot <;> rw [hroot] <;> rfl
  have hne : root base ++ Text.join ['/'] kept ≠ base := by
    intro heq
    have hjoin := List.append_cancel_left (heq.trans hbase)
    by_cases hne : kept = []
    · subst hne
      exact hlast.ne_nil hjoin.symm
    · rw [Text.join_concat hne] at hjoin
      have hlength := congrArg List.length hjoin
      simp at hlength
  rw [Path.above, h.normalize_eq, hparent, hempty]
  simp [hne]

/-! ### What is absolute -/

theorem isAbsolute_cons_cons (c d : Char) (t : Text) :
    isAbsolute (c :: d :: t) = (c == '/' || c == '\\' || d == ':') := by
  by_cases hslash : c = '/'
  · subst hslash
    rfl
  · by_cases hbackslash : c = '\\'
    · subst hbackslash
      rfl
    · by_cases hcolon : d = ':'
      · subst hcolon
        simp [isAbsolute]
      · simp [isAbsolute, hslash, hbackslash, hcolon]

theorem isAbsolute_singleton (c : Char) : isAbsolute [c] = (c == '/' || c == '\\') := by
  by_cases hslash : c = '/'
  · subst hslash
    rfl
  · by_cases hbackslash : c = '\\'
    · subst hbackslash
      rfl
    · simp [isAbsolute, hslash, hbackslash]

/-- Whether a path is absolute shows in its first part. -/
theorem isAbsolute_append (hnil : q ≠ []) (t : Text) :
    isAbsolute (q ++ '/' :: t) = isAbsolute q := by
  match q with
  | [] => exact absurd rfl hnil
  | [c] =>
    rw [List.singleton_append, isAbsolute_cons_cons, isAbsolute_singleton]
    simp
  | c :: d :: q =>
    rw [List.cons_append, List.cons_append, isAbsolute_cons_cons, isAbsolute_cons_cons]

/-- The shortest form of a path without a root is absolute if the first of its parts that count
is. -/
theorem isAbsolute_normalize (h : p.head? ≠ some '/') :
    isAbsolute (normalize p) = (parts p).head?.any isAbsolute := by
  rw [normalize, root_eq_nil h, List.nil_append]
  cases hparts : parts p with
  | nil => rfl
  | cons q rest =>
    have hnil : q ≠ [] := (counts_of_mem_parts (p := p) (by simp [hparts])).ne_nil
    cases rest with
    | nil => rw [Text.join, orHere_of_ne_nil hnil]; simp
    | cons next rest =>
      have hjoin : Text.join ['/'] (q :: next :: rest) =
          q ++ '/' :: Text.join ['/'] (next :: rest) := by
        simp [Text.join]
      rw [hjoin, orHere_of_ne_nil (by simp), isAbsolute_append hnil]
      simp

/-! ### A path under a directory -/

theorem head?_join (h : base.head? = some '/') (p : Text) : (join base p).head? = some '/' := by
  obtain ⟨t, rfl⟩ := List.head?_eq_some_iff.mp h
  rw [join]
  by_cases hp : '/' :: t = [] ∨ p.head? = some '/'
  · rw [if_pos hp]
    exact hp.resolve_left (List.cons_ne_nil _ _)
  · rw [if_neg hp]
    split <;> rfl

theorem join_of_isRoot {r : Text} (hr : IsRoot r) (hp : p.head? ≠ some '/') :
    join r p = r ++ p := by
  rcases hr with rfl | rfl <;> simp [join, hp]

/-- Below a directory that is no root a path is separated from it by a slash. -/
theorem join_of_parts_ne_nil (h : IsCanonical base) (hparts : parts base ≠ [])
    (hp : p.head? ≠ some '/') : join base p = base ++ '/' :: p := by
  have hjoined : ¬ (base = [] ∨ p.head? = some '/') := by
    rintro (hnil | hhead)
    · have hrooted := h.rooted
      rw [hnil] at hrooted
      cases hrooted
    · exact hp hhead
  obtain ⟨t, c, hconcat, hc⟩ :=
    exists_join_eq_concat hparts fun _ hpart => counts_of_rooted h.rooted hpart
  have hlast : base.getLast? ≠ some '/' := by
    rw [h.eq, hconcat, ← List.append_assoc, List.getLast?_concat]
    simpa using hc
  rw [join, if_neg hjoined, if_neg hlast, List.append_assoc]
  rfl

/-- A part that counts, seen from a directory, is one more part of the path of that. -/
theorem join_of_counts (h : IsCanonical base) (hq : Counts true q) :
    join base q = root base ++ Text.join ['/'] (parts base ++ [q]) := by
  have hhead : q.head? ≠ some '/' := fun hhead =>
    hq.slash_notMem (List.mem_of_mem_head? hhead)
  have hbase := h.eq
  by_cases hparts : parts base = []
  · rw [hparts, Text.join, List.append_nil] at hbase
    have hroot : IsRoot base := hbase ▸ isRoot_root h.rooted
    rw [join_of_isRoot hroot hhead, hparts, ← hbase]
    rfl
  · rw [join_of_parts_ne_nil h hparts hhead, Text.join_concat hparts, ← List.append_assoc,
      ← List.append_assoc, ← hbase, List.append_assoc]
    rfl

/-- A part that counts and is not absolute means a path directly under the directory. -/
theorem resolve_of_counts (h : IsCanonical base) (hq : Counts true q)
    (habsolute : isAbsolute q = false) (home : Text) :
    resolve q base home = .ok (root base ++ Text.join ['/'] (parts base ++ [q])) := by
  have hcounts : ∀ part ∈ parts base ++ [q], Counts true part := by
    intro part hpart
    rcases List.mem_append.mp hpart with hpart | hpart
    · exact counts_of_rooted h.rooted hpart
    · rwa [List.mem_singleton.mp hpart]
  rw [resolve, if_neg hq.ne_nil, if_neg (hq.ne_up rfl), habsolute, if_neg Bool.false_ne_true,
    join_of_counts h hq, normalize_rooted (isRoot_root h.rooted) hcounts]

theorem name_normalize (h : p.head? = some '/') :
    name (normalize p) = [] ∨ Counts true (name (normalize p)) := by
  rw [normalize_of_rooted h]
  exact name_eq_nil_or_counts (isRoot_root h) fun _ hpart => counts_of_rooted h hpart

/-- A text without slashes that is absolute is a path of its own, with nothing above it. -/
theorem normalize_of_notMem (hslash : '/' ∉ q) (hnil : q ≠ []) (hhere : q ≠ here) (hup : q ≠ up) :
    normalize q = q := by
  have hhead : q.head? ≠ some '/' := fun h => hslash (List.mem_of_mem_head? h)
  have hparts : parts q = [q] := by
    rw [parts, Text.splitAt_of_notMem hslash, List.foldl_cons, pass_eq_cons hnil hhere hup]
    rfl
  rw [normalize, root_eq_nil hhead, hparts]
  exact orHere_of_ne_nil hnil

theorem parent_of_notMem (hslash : '/' ∉ q) : parent q = [] := by
  rw [parent, Text.throughLast_of_notMem hslash]
  rfl

/-- A text without slashes means what has this name in the directory, unless it is `.`, `..` or
absolute. -/
theorem resolve_beside_iff (h : IsCanonical base) (hnil : q ≠ []) (hslash : '/' ∉ q) (home : Text) :
    (∃ r, resolve q base home = .ok r ∧ parent r = base ∧ name r = q) ↔
      q ≠ here ∧ q ≠ up ∧ isAbsolute q = false := by
  constructor
  · rintro ⟨r, hresolve, hparent, hname⟩
    refine ⟨?_, ?_, ?_⟩
    · rintro rfl
      cases hresolve
      rcases name_normalize (head?_join h.rooted here) with hempty | hcounts
      · rw [hname] at hempty
        cases hempty
      · exact hcounts.ne_here hname
    · rintro rfl
      rcases h.isRoot_or with hroot | ⟨kept, last, hparts⟩
      · cases (above_of_isRoot hroot).symm.trans hresolve
      · cases (above_of_parts_eq h hparts).symm.trans hresolve
        have hkept : ∀ part ∈ kept, Counts true part := fun part hpart =>
          counts_of_rooted h.rooted (by rw [hparts]; exact List.mem_append_left _ hpart)
        rcases name_eq_nil_or_counts (isRoot_root h.rooted) hkept with hempty | hcounts
        · rw [hname] at hempty
          cases hempty
        · exact hcounts.ne_up rfl hname
    · by_contra habsolute
      rw [Bool.not_eq_false] at habsolute
      have hhere : q ≠ here := by
        rintro rfl
        cases habsolute
      have hup : q ≠ up := by
        rintro rfl
        cases habsolute
      rw [resolve, if_neg hnil, if_neg hup, if_pos habsolute,
        normalize_of_notMem hslash hnil hhere hup] at hresolve
      obtain rfl := Except.ok.inj hresolve
      have hrooted := h.rooted
      rw [← hparent, parent_of_notMem hslash] at hrooted
      cases hrooted
  · rintro ⟨hhere, hup, habsolute⟩
    have hq : Counts true q := ⟨hnil, hhere, fun _ => hup, hslash⟩
    have hroot := isRoot_root h.rooted
    refine ⟨_, resolve_of_counts h hq habsolute home, ?_, name_rooted hroot hslash⟩
    rw [parent_rooted hroot (fun _ hpart => counts_of_rooted h.rooted hpart) hslash, ← h.eq]

/-! ### What a written path means -/

/-- Whether an absolute path loses what makes it so in its shortest form: it starts with a
backslash, or with one character and a colon, and the first of its parts that count is not
absolute, since a `..` undoes the part that it starts with. -/
def LosesAnchor (p : Text) : Prop :=
  isAbsolute p = true ∧ p.head? ≠ some '/' ∧ ∀ part ∈ (parts p).head?, isAbsolute part = false

/-- What a written path means is rooted, unless the written path is absolute and not rooted itself;
then it is the shortest form of that. -/
theorem resolve_cases {home : Text} (path : Text) (hbase : IsCanonical base)
    (hhome : home.head? = some '/') :
    (path = up ∧ IsRoot base ∧ resolve path base home = .error (.noParent base)) ∨
      ¬ (path = up ∧ IsRoot base) ∧ ∃ r, resolve path base home = .ok r ∧
        (r.head? = some '/' ∧ (isAbsolute path = true → path.head? = some '/') ∨
          isAbsolute path = true ∧ path.head? ≠ some '/' ∧ r = normalize path) := by
  by_cases hnil : path = []
  · subst hnil
    exact .inr ⟨fun h => List.cons_ne_nil _ _ h.1.symm, home, rfl,
      .inl ⟨hhome, fun h => absurd h Bool.false_ne_true⟩⟩
  · by_cases hup : path = up
    · subst hup
      rcases hbase.isRoot_or with hroot | ⟨kept, last, hparts⟩
      · exact .inl ⟨rfl, hroot, above_of_isRoot hroot⟩
      · have hroot : ¬ IsRoot base := by
          intro hroot
          simp [parts_root hroot] at hparts
        have hhead : (root base ++ Text.join ['/'] kept).head? = some '/' := by
          rw [List.head?_append, (isRoot_root hbase.rooted).head?]
          rfl
        exact .inr ⟨fun h => hroot h.2, _, above_of_parts_eq hbase hparts,
          .inl ⟨hhead, fun h => absurd h Bool.false_ne_true⟩⟩
    · have hresolve : resolve path base home =
          .ok (if isAbsolute path then normalize path else normalize (join base path)) := by
        rw [resolve, if_neg hnil, if_neg hup]
        split <;> rfl
      refine .inr ⟨fun h => hup h.1, _, hresolve, ?_⟩
      cases habsolute : isAbsolute path with
      | false =>
        exact .inl ⟨head?_normalize (head?_join hbase.rooted path),
          fun h => absurd h Bool.false_ne_true⟩
      | true =>
        by_cases hhead : path.head? = some '/'
        · exact .inl ⟨head?_normalize hhead, fun _ => hhead⟩
        · exact .inr ⟨rfl, hhead, rfl⟩

/-- Seen from a directory in its shortest form, a written path means none only if it is `..` and
the directory is a root, and what it means is absolute unless the written path is absolute itself
and loses what makes it so. -/
theorem isAbsolute_resolve_iff {path home : Text} (hbase : IsCanonical base)
    (hhome : IsCanonical home) :
    (∀ e, resolve path base home = .error e ↔ path = up ∧ IsRoot base ∧ e = .noParent base) ∧
      ∀ r, resolve path base home = .ok r → (isAbsolute r = false ↔ LosesAnchor path) := by
  rcases resolve_cases path hbase hhome.rooted with
    ⟨hup, hroot, herror⟩ | ⟨hne, r, hok, hr⟩
  · rw [herror]
    refine ⟨fun e => ⟨fun h => ⟨hup, hroot, (Except.error.inj h).symm⟩, ?_⟩, nofun⟩
    rintro ⟨-, -, rfl⟩
    rfl
  · rw [hok]
    refine ⟨fun e => ⟨nofun, fun h => absurd ⟨h.1, h.2.1⟩ hne⟩, fun r' h => ?_⟩
    obtain rfl := Except.ok.inj h
    rcases hr with ⟨hhead, hpath⟩ | ⟨habsolute, hhead, rfl⟩
    · rw [isAbsolute_of_head? hhead]
      exact ⟨nofun, fun h => absurd (hpath h.1) h.2.1⟩
    · rw [isAbsolute_normalize hhead]
      cases hfirst : (parts path).head? with
      | none => simp [LosesAnchor, habsolute, hhead, hfirst]
      | some part => simp [LosesAnchor, habsolute, hhead, hfirst]

/-- A drive that is undone leaves a path that is not absolute. -/
theorem isAbsolute_resolve_of_undone_drive :
    IsCanonical "/work" ∧ IsCanonical "/home/me" ∧
      resolve "C:/../x" "/work" "/home/me" = .ok "x" ∧ LosesAnchor "C:/../x" := by
  have hbase : IsCanonical "/work" := ⟨rfl, rfl⟩
  have hhome : IsCanonical "/home/me" := ⟨rfl, rfl⟩
  have hresolve : resolve "C:/../x" "/work" "/home/me" = .ok "x" := rfl
  exact ⟨hbase, hhome, hresolve, ((isAbsolute_resolve_iff hbase hhome).2 _ hresolve).mp rfl⟩

end PortableShell.Path
