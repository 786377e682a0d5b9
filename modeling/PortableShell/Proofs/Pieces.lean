import Mathlib.Data.List.DropRight
import PortableShell.Text.Basic

/-!
# Pieces of a text

A text is cut into pieces at the occurrences of a character, which then is in none of them, and it
is cut in two at the last one.

## Main statements

* `Text.cut_eq_splitOnP`: a text is cut as any list is.
* `Text.splitAt_append`, `Text.splitAt_of_notMem`, `Text.notMem_of_mem_splitAt`: the pieces.
* `Text.splitAt_join`: pieces that were put together are found again.
* `Text.afterLast_append`, `Text.throughLast_append`: the two parts at the last occurrence.
* `Text.hasInfix_iff`: whether one text occurs inside another.
-/

namespace PortableShell.Text

variable {sep : Char} {s t piece : Text} {pieces : List Text}

/-! ### Cutting -/

theorem cut_eq_splitOnP (p : Char → Bool) (t : Text) : cut p t = t.splitOnP p := by
  induction t with
  | nil => rfl
  | cons c t ih =>
    rw [cut, List.splitOnP_cons_eq_if_modifyHead, ih]
    cases hpieces : t.splitOnP p with
    | nil => exact absurd hpieces (List.splitOnP_ne_nil p t)
    | cons piece pieces => rfl

theorem splitAt_eq_splitOn (sep : Char) (t : Text) : splitAt sep t = t.splitOn sep :=
  cut_eq_splitOnP _ t

theorem splitAt_append (sep : Char) (s t : Text) :
    splitAt sep (s ++ sep :: t) = splitAt sep s ++ splitAt sep t := by
  simp only [splitAt_eq_splitOn, List.splitOn_append_cons_self]

theorem splitAt_of_notMem (h : sep ∉ t) : splitAt sep t = [t] := by
  rw [splitAt_eq_splitOn, List.splitOn_eq_singleton h]

/-- No piece holds a character that the text is cut at. -/
theorem eq_false_of_mem_cut {p : Char → Bool} {c : Char} (h : piece ∈ cut p t) (hc : c ∈ piece) :
    p c = false := by
  induction t generalizing piece with
  | nil =>
    obtain rfl := List.mem_singleton.mp h
    cases hc
  | cons d t ih =>
    rw [cut] at h
    by_cases hd : p d = true
    · rw [if_pos hd] at h
      rcases List.mem_cons.mp h with rfl | h
      · cases hc
      · exact ih h hc
    · rw [if_neg hd] at h
      cases hcut : cut p t with
      | nil =>
        rw [hcut] at h
        obtain rfl := List.mem_singleton.mp h
        obtain rfl := List.mem_singleton.mp hc
        simpa using hd
      | cons first rest =>
        rw [hcut] at h ih
        rcases List.mem_cons.mp h with rfl | h
        · rcases List.mem_cons.mp hc with rfl | hc
          · simpa using hd
          · exact ih List.mem_cons_self hc
        · exact ih (List.mem_cons_of_mem _ h) hc

theorem notMem_of_mem_splitAt (h : piece ∈ splitAt sep t) : sep ∉ piece := by
  intro hsep
  simpa using eq_false_of_mem_cut h hsep

/-! ### Putting together -/

theorem join_eq_intercalate (sep : Text) (pieces : List Text) :
    join sep pieces = sep.intercalate pieces := by
  induction pieces with
  | nil => rfl
  | cons piece pieces ih =>
    cases pieces with
    | nil => rw [join, List.intercalate_singleton]
    | cons next pieces =>
      rw [List.intercalate_cons_cons, ← ih]
      rfl

/-- Pieces that do not hold the character between them are found again. -/
theorem splitAt_join (hne : pieces ≠ []) (h : ∀ piece ∈ pieces, sep ∉ piece) :
    splitAt sep (join [sep] pieces) = pieces := by
  rw [splitAt_eq_splitOn, join_eq_intercalate, List.splitOn_intercalate sep h hne]

theorem join_concat (h : pieces ≠ []) (sep piece : Text) :
    join sep (pieces ++ [piece]) = join sep pieces ++ sep ++ piece := by
  induction pieces with
  | nil => exact absurd rfl h
  | cons first rest ih =>
    cases rest with
    | nil => rfl
    | cons next rest =>
      have hrest := ih (List.cons_ne_nil next rest)
      rw [List.cons_append] at hrest ⊢
      simp only [join, List.cons_append, hrest, List.append_assoc]

theorem join_append_self (h : pieces ≠ []) (sep : Text) :
    join sep pieces ++ sep = pieces.flatMap (· ++ sep) := by
  induction pieces with
  | nil => exact absurd rfl h
  | cons first rest ih =>
    cases rest with
    | nil => exact (List.append_nil _).symm
    | cons next rest =>
      have hrest := ih (List.cons_ne_nil next rest)
      simp only [join, List.append_assoc, List.flatMap_cons] at hrest ⊢
      rw [hrest]

/-! ### Looking for a part -/

theorem hasInfix_iff {part : Text} : hasInfix part t = true ↔ part <:+: t := by
  induction t with
  | nil => rw [hasInfix, List.isEmpty_iff, List.infix_nil]
  | cons c t ih =>
    rw [hasInfix, Bool.or_eq_true, List.isPrefixOf_iff_prefix, ih, List.infix_cons_iff]

/-! ### Leaving out a character -/

theorem without_append (c : Char) (s t : Text) : without c (s ++ t) = without c s ++ without c t :=
  List.filter_append s t

theorem without_eq_self {c : Char} (h : c ∉ t) : without c t = t := by
  rw [without, List.filter_eq_self]
  intro d hd
  rw [bne_iff_ne]
  rintro rfl
  exact h hd

/-- If a character occurs in front only, leaving it out is leaving out what stands in front. -/
theorem without_eq_dropWhile {c : Char} (h : c ∉ t.dropWhile (· == c)) :
    without c t = t.dropWhile (· == c) := by
  have hfront : without c (t.takeWhile (· == c)) = [] := by
    rw [without, List.filter_eq_nil_iff]
    intro d hd
    simpa using List.mem_takeWhile_imp hd
  rw [← without_eq_self h]
  conv_lhs => rw [← List.takeWhile_append_dropWhile (p := (· == c)) (l := t), without_append,
    hfront, List.nil_append]

/-! ### The last occurrence -/

/-- A text is cut in two at the last occurrence of a character. -/
theorem exists_eq_append_of_mem (h : sep ∈ t) : ∃ s u, t = s ++ sep :: u ∧ sep ∉ u := by
  obtain ⟨u, s, hreverse, hu⟩ := List.eq_append_cons_of_mem (List.mem_reverse.mpr h)
  refine ⟨s.reverse, u.reverse, ?_, by simpa using hu⟩
  rw [← List.reverse_reverse t, hreverse]
  simp

theorem afterLast_append (h : sep ∉ t) (s : Text) : afterLast sep (s ++ sep :: t) = t := by
  have hall : ∀ c ∈ t.reverse, (c != sep) = true := by
    intro c hc
    rw [bne_iff_ne]
    rintro rfl
    exact h (List.mem_reverse.mp hc)
  rw [afterLast, List.reverse_append, List.reverse_cons, List.append_assoc,
    List.takeWhile_append_of_pos hall]
  simp

theorem throughLast_append (h : sep ∉ t) (s : Text) :
    throughLast sep (s ++ sep :: t) = s ++ [sep] := by
  have hwhole := throughLast_append_afterLast sep (s ++ sep :: t)
  rw [afterLast_append h] at hwhole
  exact List.append_cancel_right (hwhole.trans (List.append_cons s sep t))

theorem throughLast_of_notMem (h : sep ∉ t) : throughLast sep t = [] := by
  rw [throughLast, List.reverse_eq_nil_iff, List.dropWhile_eq_nil_iff]
  intro c hc
  rw [bne_iff_ne]
  rintro rfl
  exact h (List.mem_reverse.mp hc)

theorem notMem_afterLast (sep : Char) (t : Text) : sep ∉ afterLast sep t := by
  intro h
  simpa using List.mem_takeWhile_imp (List.mem_reverse.mp h)

end PortableShell.Text
