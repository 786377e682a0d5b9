import Mathlib.Data.List.DropRight
import Mathlib.Data.List.TakeWhile
import PortableShell.Text.Blank

/-!
# Texts without blanks at their ends

Trimming leaves a text alone exactly if no blank stands at either end of it, and such texts are what
a first word and the rest after it are put together from.

## Main statements

* `Text.trim_eq_self_iff`: which texts are left alone.
* `Text.trim_append_append`: two such texts, with anything between them, are one.
* `Text.firstWord_append`, `Text.firstWord_eq_self`: the first word of a text that starts with one.
-/

namespace PortableShell.Text

variable {s t u : Text}

/-! ### Trimming -/

theorem trimStart_eq_self_iff : trimStart t = t ↔ ∀ c ∈ t.head?, isBlank c = false := by
  rw [trimStart]
  cases t with
  | nil => simp
  | cons c t =>
    cases hc : isBlank c with
    | true =>
      have hne : t.dropWhile isBlank ≠ c :: t := by
        intro h
        have hshort : (t.dropWhile isBlank).length ≤ t.length := List.length_dropWhile_le isBlank t
        rw [h, List.length_cons] at hshort
        omega
      simp [hne, hc]
    | false => simp [hc]

theorem trimEnd_eq_self_iff : trimEnd t = t ↔ ∀ c ∈ t.getLast?, isBlank c = false := by
  have hreverse : trimEnd t = t ↔ trimStart t.reverse = t.reverse := by
    rw [trimEnd, dropEndWhile, List.reverse_eq_iff, trimStart]
  rw [hreverse, trimStart_eq_self_iff, List.head?_reverse]

/-- No blank is left at the start. -/
theorem trimStart_trimStart (t : Text) : trimStart (trimStart t) = trimStart t :=
  List.dropWhile_idempotent isBlank t

/-- No blank is left at the end. -/
theorem trimEnd_trimEnd (t : Text) : trimEnd (trimEnd t) = trimEnd t :=
  List.rdropWhile_idempotent isBlank t

/-- What is cut off at the end is not what a text starts with. -/
theorem head?_trimEnd (h : trimEnd t ≠ []) : (trimEnd t).head? = t.head? := by
  have hstart : trimEnd t <+: t := List.rdropWhile_prefix isBlank t
  obtain ⟨rest, hrest⟩ := hstart
  cases htrim : trimEnd t with
  | nil => exact absurd htrim h
  | cons c u =>
    rw [htrim] at hrest
    rw [← hrest]
    rfl

/-- Trimming leaves a text alone exactly if no blank stands at either end of it. -/
theorem trim_eq_self_iff :
    trim t = t ↔ (∀ c ∈ t.head?, isBlank c = false) ∧ ∀ c ∈ t.getLast?, isBlank c = false := by
  rw [← trimStart_eq_self_iff, ← trimEnd_eq_self_iff, trim]
  constructor
  · intro h
    have hlength : (trimEnd (trimStart t)).length = t.length := by rw [h]
    have hend : (trimEnd (trimStart t)).length ≤ (trimStart t).length :=
      (List.rdropWhile_prefix isBlank (trimStart t)).length_le
    -- nothing can be lost at the end once something is lost at the start
    have hstart : trimStart t = t :=
      (List.dropWhile_suffix isBlank).eq_of_length_le (by rw [← hlength]; exact hend)
    rw [hstart] at h
    exact ⟨hstart, h⟩
  · rintro ⟨hstart, hend⟩
    rw [hstart, hend]

theorem trim_of_word (h : ∀ c ∈ t, isBlank c = false) : trim t = t :=
  trim_eq_self_iff.mpr ⟨fun c hc => h c (List.mem_of_mem_head? hc),
    fun c hc => h c (List.mem_of_mem_getLast? hc)⟩

@[simp]
theorem trim_trim (t : Text) : trim (trim t) = trim t := by
  rw [trim_eq_self_iff, ← trimStart_eq_self_iff, ← trimEnd_eq_self_iff]
  constructor
  · rw [trimStart_eq_self_iff]
    intro c hc
    have hne : trimEnd (trimStart t) ≠ [] := by
      rintro hnil
      rw [trim, hnil] at hc
      cases hc
    rw [trim, head?_trimEnd hne] at hc
    exact trimStart_eq_self_iff.mp (trimStart_trimStart t) c hc
  · exact trimEnd_trimEnd (trimStart t)

/-- Nothing is left of a text exactly if it holds nothing but blanks. -/
theorem trim_eq_nil_iff : trim t = [] ↔ isAllBlank t = true := by
  rw [isAllBlank, List.all_eq_true, trim, trimEnd, dropEndWhile, List.reverse_eq_nil_iff,
    List.dropWhile_eq_nil_iff]
  simp only [List.mem_reverse, trimStart]
  constructor
  · intro h
    by_contra hblank
    -- the first character that is no blank would be left
    push Not at hblank
    obtain ⟨c, hc, hcblank⟩ := hblank
    have hne : t.dropWhile isBlank ≠ [] := by
      intro hnil
      exact hcblank (List.dropWhile_eq_nil_iff.mp hnil c hc)
    have hhead := List.head_dropWhile_not isBlank hne
    have hmem := h _ (List.head_mem hne)
    rw [hmem] at hhead
    cases hhead
  · intro h c hc
    exact h c ((List.dropWhile_sublist isBlank).mem hc)

/-- Two texts without blanks at their ends, with anything between them, are such a text. -/
theorem trim_append_append (hs : trim s = s) (hne : s ≠ []) (hu : trim u = u) (hne' : u ≠ []) :
    trim (s ++ t ++ u) = s ++ t ++ u := by
  rw [trim_eq_self_iff] at hs hu ⊢
  have hhead : (s ++ t ++ u).head? = s.head? := by
    rw [List.append_assoc, List.head?_append_of_ne_nil s hne]
  have hlast : (s ++ t ++ u).getLast? = u.getLast? :=
    List.getLast?_append_of_ne_nil (s ++ t) hne'
  rw [hhead, hlast]
  exact ⟨hs.1, hu.2⟩

/-! ### First words -/

/-- The first word ends at the first blank. -/
theorem firstWord_append {w : Text} {b : Char} (hw : ∀ c ∈ w, isBlank c = false)
    (hb : isBlank b = true) (t : Text) : firstWord (w ++ b :: t) = (w, trimStart t) := by
  have hword : ∀ c ∈ w, (! isBlank c) = true := fun c hc => by simp [hw c hc]
  have htake : (w ++ b :: t).takeWhile (! isBlank ·) = w := by
    rw [List.takeWhile_append_of_pos hword, List.takeWhile_cons_of_neg (by simp [hb]),
      List.append_nil]
  have hdrop : (w ++ b :: t).dropWhile (! isBlank ·) = b :: t := by
    rw [List.dropWhile_append_of_pos hword, List.dropWhile_cons_of_neg (by simp [hb])]
  have hblank : trimStart (b :: t) = trimStart t := List.dropWhile_cons_of_pos hb
  rw [firstWord, htake, hdrop, hblank]

/-- A text without a blank is its own first word. -/
theorem firstWord_eq_self {w : Text} (hw : ∀ c ∈ w, isBlank c = false) :
    firstWord w = (w, []) := by
  have hword : ∀ c ∈ w, (! isBlank c) = true := fun c hc => by simp [hw c hc]
  have hdrop : w.dropWhile (! isBlank ·) = [] := List.dropWhile_eq_nil_iff.mpr hword
  rw [firstWord, List.takeWhile_eq_self_iff.mpr hword, hdrop]
  rfl

end PortableShell.Text
