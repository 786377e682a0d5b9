import PortableShell.Proofs.Pieces
import PortableShell.Proofs.Preparation

/-!
# The counts of several files

Files are counted one after the other, and the counts are added.  If every file but the last one
ends with a line feed, or is empty, these sums are the counts of all the files as one text: no line,
no word and no end of a line goes on from one file to the next.

## Main definitions

* `Text.EndsLine`: whether a line that follows a text is a line of its own.
* `TextCount.total`: the sums of the counts of texts.
* `Session.ReadsAs`: whether a name is the one of a file with a text that can be read.

## Main statements

* `TextCount.ofText_append`, `TextCount.ofText_flatten`: the counts of texts that follow one
  another.
* `Procedure.countTable_eq_flatMap`: the table of counts, row by row.
* `Procedure.on_countFiles`: the counts of files that can be read.
* `Site.plan_wc`: what `wc` is answered with.
-/

namespace PortableShell

/-! ### Counting what follows a line feed -/

/-- Whether a text is empty or ends with a line feed. -/
def Text.EndsLine (t : Text) : Prop :=
  t = [] ∨ t.getLast? = some '\n'

theorem Text.words_append_of_isBlank {c : Char} (hc : isBlank c = true) (s t : Text) :
    words (s ++ c :: t) = words s ++ words t := by
  simp only [words, cut_eq_splitOnP, List.splitOnP_append_cons s t hc, List.filter_append]

namespace TextCount

variable {c : Char} {piece : Text} {rest : List Text} {s t : Text}

theorem pieces_newline (t : Text) : pieces ('\n' :: t) = [] :: pieces t := by
  simp [pieces]

theorem pieces_return (h : t.head? ≠ some '\n') : pieces ('\r' :: t) = [] :: pieces t := by
  cases t <;> simp_all [pieces]

theorem pieces_of_plain (hreturn : c ≠ '\r') (hfeed : c ≠ '\n')
    (h : pieces t = piece :: rest) : pieces (c :: t) = (c :: piece) :: rest := by
  simp [pieces, hreturn, hfeed, h]

/-- What follows a line feed is cut into pieces for itself.  The line feed may belong to a carriage
return before it, which then ends the same line. -/
theorem pieces_append_newline (s : Text) :
    ∃ first others, ∀ t, pieces (s ++ '\n' :: t) = first :: (others ++ pieces t) := by
  fun_induction pieces s with
  | case1 => exact ⟨[], [], pieces_newline⟩
  | case2 s ih =>
    obtain ⟨first, others, h⟩ := ih
    exact ⟨[], first :: others, fun t => congrArg _ (h t)⟩
  | case3 c s hpair hend ih =>
    obtain ⟨first, others, h⟩ := ih
    obtain rfl | rfl := hend
    · cases s with
      | nil => exact ⟨[], [], fun _ => rfl⟩
      | cons d s =>
        have hhead (t : Text) : (d :: s ++ '\n' :: t).head? ≠ some '\n' := by
          simpa using hpair s
        exact ⟨[], first :: others, fun t => (pieces_return (hhead t)).trans (congrArg _ (h t))⟩
    · exact ⟨[], first :: others, fun t => (pieces_newline _).trans (congrArg _ (h t))⟩
  | case4 c s _ hplain _ ih
  | case5 c s _ hplain _ _ _ ih =>
    obtain ⟨first, others, h⟩ := ih
    obtain ⟨hreturn, hfeed⟩ := not_or.mp hplain
    exact ⟨c :: first, others, fun t => pieces_of_plain hreturn hfeed (h t)⟩

theorem pieces_ne_nil (t : Text) : pieces t ≠ [] := by
  fun_induction pieces t <;> exact List.cons_ne_nil _ _

theorem lineCount_append_newline (s t : Text) :
    lineCount (s ++ '\n' :: t) = lineCount (s ++ ['\n']) + lineCount t := by
  obtain ⟨first, others, h⟩ := pieces_append_newline s
  have hcount (t : Text) : lineCount (s ++ '\n' :: t) = others.length + 1 + lineCount t := by
    have hlast : (first :: others ++ pieces t).getLast? = (pieces t).getLast? :=
      List.getLast?_append_of_ne_nil _ (pieces_ne_nil t)
    have hlength := List.length_pos_iff.mpr (pieces_ne_nil t)
    rw [lineCount, lineCount, h t, ← List.cons_append, hlast, List.length_append, List.length_cons]
    split
    · omega
    · rfl
  rw [hcount t, hcount [], lineCount_nil, Nat.add_zero]

/-- If a line is ended, the counts of what follows are added. -/
theorem ofText_append (hs : s.EndsLine) (t : Text) : ofText (s ++ t) = ofText s + ofText t := by
  obtain rfl | hlast := hs
  · simp [ofText, Text.words, Text.cut]
  · obtain ⟨s, rfl⟩ := List.getLast?_eq_some_iff.mp hlast
    have hblank : Text.isBlank '\n' = true := rfl
    have hwords := Text.words_append_of_isBlank hblank s
    have hnone : Text.words [] = [] := rfl
    rw [List.append_assoc, List.singleton_append]
    simp only [ofText, add_def, lineCount_append_newline s t, hwords, hnone, List.length_append,
      List.length_cons, List.length_nil, Nat.add_zero]
    rw [Nat.add_right_comm, Nat.add_assoc]

/-- The sums of the counts of texts. -/
def total : List Text → TextCount
  | [] => 0
  | t :: texts => ofText t + total texts

theorem add_zero (n : TextCount) : n + 0 = n :=
  rfl

theorem zero_add (n : TextCount) : 0 + n = n := by
  have hzero : (0 : TextCount) = ⟨0, 0, 0⟩ := rfl
  rw [hzero, add_def]
  simp only [Nat.zero_add]

/-- If every text but the last one ends its line, the counts of the texts add up to the counts of
all of them as one. -/
theorem ofText_flatten {texts : List Text} (h : ∀ t ∈ texts.dropLast, t.EndsLine) :
    ofText texts.flatten = total texts := by
  induction texts with
  | nil => rfl
  | cons t texts ih =>
    cases texts with
    | nil => rw [List.flatten_singleton, total, total, add_zero]
    | cons next texts =>
      rw [List.dropLast_cons_cons] at h
      have hnext := ih fun u hu => h u (List.mem_cons_of_mem t hu)
      rw [List.flatten_cons, ofText_append (h t List.mem_cons_self), hnext, ← total]

/-- Counts that are added one after the other, as `wc` adds them, come to these sums. -/
theorem foldl_add_ofText (n : TextCount) (files : List (Text × Text)) :
    files.foldl (fun sum f => sum + ofText f.2) n = n + total (files.map Prod.snd) := by
  induction files generalizing n with
  | nil => rfl
  | cons file files ih =>
    rw [List.foldl_cons, ih, List.map_cons, total]
    simp only [add_def, Nat.add_assoc]

end TextCount

/-! ### Counting files -/

/-- Whether a name is the one of a file that can be read after as many others as `opened`, with
these bytes as a text. -/
def Session.ReadsAs (s : Session) (w : World) (opened : Nat) (name text : Text) : Prop :=
  ∃ path bytes, s.resolve name = .ok path ∧ w.files.bytes? path = some bytes ∧
    w.fault? .openFile opened path = none ∧ Utf8.decode bytes = text

namespace Procedure

variable {s : Session} {w : World} {opened : Nat} {files : List (Text × Text)}

theorem on_countFile {name text : Text} (h : s.ReadsAs w opened name text) :
    (countFile s opened name).on w = (.ok (.ofText text), w) := by
  obtain ⟨path, bytes, hpath, hbytes, hfault, rfl⟩ := h
  have hfile : w.files.isFile path = true := by rw [FileSystem.isFile, hbytes]; rfl
  rw [countFile, hpath, ActionOf.on_bind, ActionOf.on_lift]
  simp only [ofReported, Except.mapError, ActionOf.on_currentFiles_bind]
  rw [if_pos hfile, ActionOf.on_bind_pure, ActionOf.on_adapt,
    World.on_readFile hbytes hfault]
  rfl

/-- Files that can all be read are all counted, in their order. -/
theorem on_countFiles
    (h : ∀ k f, files[k]? = some f → s.ReadsAs w (opened + k) f.1 f.2) :
    (countFiles s opened (files.map Prod.fst)).on w =
      (.ok (files.map fun f => (f.1, .ofText f.2)), w) := by
  induction files generalizing opened with
  | nil => rfl
  | cons file files ih =>
    have hfile := on_countFile (h 0 file rfl)
    have hothers := ih fun k f hf => Nat.add_right_comm opened 1 k ▸ h (k + 1) f hf
    rw [Nat.add_zero] at hfile
    rw [List.map_cons, countFiles, ActionOf.on_bind_of_ok hfile, ActionOf.on_bind_pure, hothers]
    rfl

/-- The rows of the table that `wc` shows: one for each file, and one for the sums if there are
several. -/
def countRows (files : List (Text × Text)) : List Text :=
  (files.map fun f => (TextCount.ofText f.2).row f.1) ++
    if 1 < files.length then [(TextCount.total (files.map Prod.snd)).row "total"] else []

theorem countTable_eq_flatMap (hne : files ≠ []) :
    countTable (files.map fun f => (f.1, .ofText f.2)) =
      (countRows files).flatMap (· ++ ['\n']) := by
  have hrows : countRows files ≠ [] := by
    rw [countRows, ← List.length_pos_iff, List.length_append, List.length_map]
    exact Nat.add_pos_left (List.length_pos_iff.mpr hne) _
  rw [← Text.join_append_self hrows, countTable, List.foldl_map, TextCount.foldl_add_ofText,
    TextCount.zero_add, countRows, List.map_map, List.length_map]
  rfl

end Procedure

/-- If an argument text names files that can all be read, `wc` shows their counts in this order, and
the sums of the counts if there are several.  If every file but the last one is empty or ends with a
line feed, the sums are the counts of all the files as one text. -/
theorem Site.plan_wc {s : Site} {raw : Text} {files : List (Text × Text)} {w : World}
    (hne : files ≠ []) (htokens : Argument.tokens raw = files.map Prod.fst)
    (hread : ∀ k f, files[k]? = some f → s.session.ReadsAs w k f.1 f.2) :
    (s.plan .wc raw).on w =
        (.ok (.answered (.listing ((Procedure.countRows files).flatMap (· ++ ['\n'])))), w) ∧
      ((∀ f ∈ files.dropLast, f.2.EndsLine) →
        TextCount.total (files.map Prod.snd) = TextCount.ofText (files.flatMap Prod.snd)) := by
  have hprepare : Procedure.countContents.prepare s.session w.files raw =
      .ok (files.map Prod.fst) := by
    refine Result.ofReported_eq_ok.mpr ?_
    rw [Procedure.prepareCount, htokens]
    cases files with
    | nil => exact absurd rfl hne
    | cons file files => rfl
  have hperform : (Procedure.countContents.perform s (files.map Prod.fst)).on w =
      (.ok (.listing ((Procedure.countRows files).flatMap (· ++ ['\n']))), w) := by
    have hcount : Procedure.countContents.perform s (files.map Prod.fst) =
        (Procedure.countFiles s.session 0 (files.map Prod.fst) >>= fun counts =>
          pure (.listing (Procedure.countTable counts))) := rfl
    have hcounts := Procedure.on_countFiles fun k f hf => (Nat.zero_add k).symm ▸ hread k f hf
    rw [hcount, ActionOf.on_bind_pure, hcounts,
      ← Procedure.countTable_eq_flatMap hne]
    rfl
  constructor
  · rw [on_plan_of_prepare rfl rfl hprepare, hperform]
    rfl
  · intro hends
    rw [List.flatMap_def, TextCount.ofText_flatten]
    intro t ht
    rw [← List.map_dropLast] at ht
    obtain ⟨f, hf, rfl⟩ := List.mem_map.mp ht
    exact hends f hf

/-- One file is named twice, and another one holds a byte that stands for no character. -/
theorem Site.plan_wc_of_repeated_name :
    let s : Site := ⟨{ directory := "/", platform := .posix, home := "/" }, .unlimited⟩
    let w : World :=
      { files := ⟨[("/", .newDirectory),
          ("/a", ⟨.file (Utf8.encode "x y\r\n"), Node.fileMode, none⟩),
          ("/b", ⟨.file [0xFF], Node.fileMode, none⟩)]⟩ }
    let files : List (Text × Text) := [("a", "x y\r\n"), ("a", "x y\r\n"), ("b", "\uFFFD")]
    files ≠ [] ∧ Argument.tokens "a a b" = files.map Prod.fst ∧
      (∀ k f, files[k]? = some f → s.session.ReadsAs w k f.1 f.2) ∧
      (∀ f ∈ files.dropLast, f.2.EndsLine) ∧
      (s.plan .wc "a a b").on w = (.ok (.answered (.listing
        ("      1       2       5 a\n      1       2       5 a\n      1       1       1 b\n" ++
          "      3       5      11 total\n"))), w) ∧
      TextCount.ofText (files.flatMap Prod.snd) = ⟨3, 5, 11⟩ := by
  intro s w files
  have hread : ∀ k f, files[k]? = some f → s.session.ReadsAs w k f.1 f.2 := by
    intro k f hf
    match k with
    | 0 | 1 =>
      cases hf
      exact ⟨"/a", _, rfl, rfl, rfl, rfl⟩
    | 2 =>
      cases hf
      exact ⟨"/b", _, rfl, rfl, rfl, rfl⟩
    | k + 3 => cases hf
  have hends : ∀ f ∈ files.dropLast, f.2.EndsLine := by
    simp [files, Text.EndsLine]
  have htokens : Argument.tokens "a a b" = files.map Prod.fst := rfl
  have hne : files ≠ [] := List.cons_ne_nil _ _
  obtain ⟨hon, hsums⟩ := plan_wc hne htokens hread
  have htable : (Procedure.countRows files).flatMap (· ++ ['\n']) =
      "      1       2       5 a\n      1       2       5 a\n      1       1       1 b\n".toList ++
        "      3       5      11 total\n" := by
    decide +kernel
  rw [htable] at hon
  exact ⟨hne, htokens, hread, hends, hon, (hsums hends).symm⟩

end PortableShell
