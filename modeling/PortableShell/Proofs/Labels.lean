import PortableShell.Category
import PortableShell.Proofs.LetterCase
import PortableShell.Proofs.Pieces

/-!
# Labels line by line

Labels are given to each line for itself, so the labels of two texts with a line feed between them
are those of the one and then those of the other.  Lines of blanks have none, and with them it does
not matter whether a carriage return and a line feed end one line or two.

## Main definitions

* `Text.SameContent`: whether two lists of lines differ in nothing but blank lines after the first.
* `Text.dropPairedReturns`: a text without the carriage returns in front of line feeds.

## Main statements

* `Line.classify_eq`: the labels are those of the pieces between the characters that end lines.
* `Category.ofLine_eq_error_iff`: which lines are labelled as the report of an error.
* `Line.classify_spec`: labels are given line by line.
-/

namespace PortableShell

namespace Text

variable {c : Char} {t : Text} {ls ls' : List Text}

/-- The text without the carriage returns that have a line feed right after them. -/
def dropPairedReturns : Text → Text
  | [] => []
  | '\r' :: '\n' :: t => '\n' :: dropPairedReturns t
  | c :: t => c :: dropPairedReturns t

/-! ### Lines that are not blank -/

/-- Whether two lists of lines begin with the same line, where a missing one counts as empty, and
are the same after it but for blank lines. -/
structure SameContent (ls ls' : List Text) : Prop where
  first : ls.headD [] = ls'.headD []
  rest : ls.tail.filter (! isAllBlank ·) = ls'.tail.filter (! isAllBlank ·)

theorem filter_tail (ls : List Text) :
    ls.filter (! isAllBlank ·) =
      [ls.headD []].filter (! isAllBlank ·) ++ ls.tail.filter (! isAllBlank ·) := by
  cases ls with
  | nil => rfl
  | cons line ls => exact List.filter_append [line] ls

namespace SameContent

theorem refl (ls : List Text) : SameContent ls ls :=
  ⟨rfl, rfl⟩

theorem filter_eq (h : SameContent ls ls') :
    ls.filter (! isAllBlank ·) = ls'.filter (! isAllBlank ·) := by
  rw [filter_tail, h.first, h.rest, ← filter_tail]

/-- An end of a line puts an empty line in front. -/
theorem cons_nil (h : SameContent ls ls') : SameContent ([] :: ls) ([] :: ls') :=
  ⟨rfl, h.filter_eq⟩

/-- Any other character goes into the first line. -/
theorem grow (h : SameContent ls ls') (c : Char) :
    SameContent ((c :: ls.headD []) :: ls.tail) ((c :: ls'.headD []) :: ls'.tail) :=
  ⟨congrArg (c :: ·) h.first, h.rest⟩

/-- One empty line more makes no difference. -/
theorem cons_nil_cons_nil (h : SameContent ls ls') : SameContent ([] :: ls) ([] :: [] :: ls') :=
  ⟨rfl, h.filter_eq⟩

end SameContent

/-- Cutting at the characters of a class, character by character. -/
theorem splitOnP_cons_eq (p : Char → Bool) (c : Char) (t : Text) :
    (c :: t).splitOnP p =
      if p c then [] :: t.splitOnP p
      else (c :: (t.splitOnP p).headD []) :: (t.splitOnP p).tail := by
  rw [List.splitOnP_cons_eq_if_modifyHead]
  obtain ⟨piece, pieces, hpieces⟩ := List.exists_cons_of_ne_nil (List.splitOnP_ne_nil p t)
  rw [hpieces]
  rfl

/-- The lines are the pieces between the characters that end lines, but for empty ones. -/
theorem sameContent_lines (t : Text) : SameContent (lines t) (t.splitOnP endsLine) := by
  fun_induction lines t with
  | case1 => exact ⟨rfl, rfl⟩
  | case2 t ih =>
    rw [splitOnP_cons_eq, splitOnP_cons_eq]
    exact ih.cons_nil_cons_nil
  | case3 c t _ hc ih =>
    rw [splitOnP_cons_eq, if_pos hc]
    exact ih.cons_nil
  | case4 c t _ hc hnil ih =>
    rw [splitOnP_cons_eq, if_neg hc]
    simpa [hnil] using ih.grow c
  | case5 c t _ hc line rest hlines ih =>
    rw [splitOnP_cons_eq, if_neg hc]
    simpa [hlines] using ih.grow c

theorem sameContent_dropPairedReturns (t : Text) :
    SameContent (t.dropPairedReturns.splitOnP endsLine) (t.splitOnP endsLine) := by
  fun_induction dropPairedReturns t with
  | case1 => exact .refl _
  | case2 t ih =>
    rw [splitOnP_cons_eq, splitOnP_cons_eq, splitOnP_cons_eq]
    exact ih.cons_nil_cons_nil
  | case3 c t _ ih =>
    rw [splitOnP_cons_eq, splitOnP_cons_eq]
    split
    · exact ih.cons_nil
    · exact ih.grow c

end Text

namespace Category

/-- Output is not labelled as the echo of a command. -/
theorem ofLine_cases (t : Text) :
    ofLine t = .output ∨ ofLine t = .error ∨ ofLine t = .directory := by
  rw [ofLine]
  split
  · exact .inl rfl
  · split
    · exact .inr (.inl rfl)
    · split
      · exact .inr (.inr rfl)
      · exact .inl rfl

theorem speaksOfError_iff (t : Text) :
    speaksOfError t = true ↔ Text.HoldsWord "error" t ∨ Text.HoldsWord "fail" t := by
  have herror : Text.IsPlainWord "error" := ⟨by decide, List.all_eq_true.mp rfl, by decide⟩
  have hfail : Text.IsPlainWord "fail" := ⟨by decide, List.all_eq_true.mp rfl, by decide⟩
  rw [← Text.infix_lower_iff herror, ← Text.infix_lower_iff hfail]
  simp [speaksOfError, errorWords, Text.hasInfix_iff]

/-- A line is labelled as the report of an error exactly if it begins neither with a count nor with
a file mode, and holds one of the two words in letters of either case. -/
theorem ofLine_eq_error_iff (t : Text) :
    ofLine t = .error ↔ startsWithCount t = false ∧ startsWithMode t = false ∧
      (Text.HoldsWord "error" t ∨ Text.HoldsWord "fail" t) := by
  rw [← speaksOfError_iff, ofLine]
  cases startsWithCount t <;> cases startsWithMode t <;> cases speaksOfError t <;>
    cases startsWithDrive t <;> simp

/-- The form of a capital `İ` has a dot above after its `i`, which keeps the letters apart. -/
example : ofLine "FAİL" = .output := by decide +kernel

end Category

namespace Line

open Text (isAllBlank endsLine)

/-- The labels are those of the pieces between the characters that end lines. -/
theorem classify_eq (t : Text) : classify t =
    ((t.splitOnP endsLine).filter (! isAllBlank ·)).map fun line => ⟨line, .ofLine line⟩ := by
  rw [classify, (Text.sameContent_lines t).filter_eq]

theorem classify_append {c : Char} (hc : endsLine c = true) (s t : Text) :
    classify (s ++ c :: t) = classify s ++ classify t := by
  rw [classify_eq, classify_eq, classify_eq, List.splitOnP_append_cons s t hc, List.filter_append,
    List.map_append]

theorem classify_of_line {t : Text} (ht : ∀ c ∈ t, endsLine c = false) :
    classify t = if isAllBlank t then [] else [⟨t, .ofLine t⟩] := by
  rw [classify_eq, List.splitOnP_eq_singleton ht]
  cases hblank : isAllBlank t <;> simp [hblank]

theorem classify_dropPairedReturns (t : Text) : classify t.dropPairedReturns = classify t := by
  rw [classify_eq, classify_eq, (Text.sameContent_dropPairedReturns t).filter_eq]

/-- Labels are given line by line.  Those of two texts with a line feed between them are those of
the one and then those of the other.  A line has none if it is blank, and one if it is not, as
output, as the report of an error or as a directory; and as the report of an error only if it holds
`error` or `fail` in letters of ASCII of either case.  It does not matter whether lines end with a
carriage return and a line feed or with the line feed alone. -/
theorem classify_spec :
    (∀ s t, classify (s ++ '\n' :: t) = classify s ++ classify t) ∧
      (∀ t, (∀ c ∈ t, endsLine c = false) →
        (isAllBlank t = true → classify t = []) ∧
        (isAllBlank t = false → ∃ category, classify t = [⟨t, category⟩] ∧
          (category = .output ∨ category = .error ∨ category = .directory) ∧
          (category = .error → Text.HoldsWord "error" t ∨ Text.HoldsWord "fail" t))) ∧
      ∀ t, classify t.dropPairedReturns = classify t := by
  refine ⟨classify_append rfl, fun t ht => ?_, classify_dropPairedReturns⟩
  have hclassify := classify_of_line ht
  constructor
  · intro hblank
    rw [hclassify, if_pos hblank]
  · intro hblank
    refine ⟨.ofLine t, ?_, Category.ofLine_cases t, ?_⟩
    · rw [hclassify, hblank]
      rfl
    · exact fun herror => ((Category.ofLine_eq_error_iff t).mp herror).2.2

/-- A line with one of the words in letters of both cases, after a capital `İ`. -/
theorem classify_spec_of_mixed_case :
    let t : Text := "İ/O FAiLure"
    (∀ c ∈ t, endsLine c = false) ∧ isAllBlank t = false ∧ classify t = [⟨t, .error⟩] ∧
      (Text.HoldsWord "error" t ∨ Text.HoldsWord "fail" t) := by
  intro t
  have hall : t.all (! endsLine ·) = true := rfl
  have hline : ∀ c ∈ t, endsLine c = false := by simpa using hall
  have hblank : isAllBlank t = false := by decide
  have hclassify : classify t = [⟨t, .error⟩] := by decide +kernel
  obtain ⟨category, hcategory, -, hwords⟩ := (classify_spec.2.1 t hline).2 hblank
  rw [hclassify] at hcategory
  cases hcategory
  exact ⟨hline, hblank, hclassify, hwords rfl⟩

end Line

end PortableShell
