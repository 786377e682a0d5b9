import PortableShell.Proofs.TextTotals

/-!
# Ends of lines

A line ends with a line feed, with a carriage return, or with the one right after the other.  A text
that is read from left to right is made of such ends and of the characters between them.  Its lines
are as many as the ends, and one more if something stands after the last of them, so they stay as
many if every line is made to end in the same way.

## Main definitions

* `LineEnd`: the ways in which a line ends.
* `Mark`, `Text.marks`: a text read from left to right.
* `Text.endCount`, `Text.withEnds`: the number of its ends of lines, and the text with each of them
  written in the same way.

## Main statements

* `Text.flatMap_text_marks`: reading loses nothing.
* `Text.marks_withEnds`: what is read if every line is made to end in the same way.
* `TextCount.lineCount_eq_endCount`: the number of lines.
-/

namespace PortableShell

/-- The ways in which a line ends. -/
inductive LineEnd where
  | lineFeed
  | carriageReturn
  /-- A carriage return and a line feed right after it. -/
  | both

/-- How an end of a line is written. -/
def LineEnd.text : LineEnd → Text
  | .lineFeed => ['\n']
  | .carriageReturn => ['\r']
  | .both => ['\r', '\n']

/-- What a text is made of: characters within lines, and ends of lines. -/
inductive Mark where
  | inside (c : Char)
  | ending (e : LineEnd)

namespace Mark

/-- Whether a line ends here. -/
def isEnding : Mark → Bool
  | .inside _ => false
  | .ending _ => true

/-- How a mark is written. -/
def text : Mark → Text
  | .inside c => [c]
  | .ending e => e.text

/-- The mark with another end of a line in the place of its own. -/
def withEnd (e : LineEnd) : Mark → Mark
  | .inside c => .inside c
  | .ending _ => .ending e

theorem isEnding_withEnd (e : LineEnd) (m : Mark) : (m.withEnd e).isEnding = m.isEnding := by
  cases m <;> rfl

end Mark

namespace Text

variable {c : Char} {t : Text} {ms : List Mark}

/-- A text read from left to right: a carriage return and a line feed right after it are one end of
a line, and any other carriage return or line feed is one by itself. -/
def marks : Text → List Mark
  | [] => []
  | '\r' :: '\n' :: t => .ending .both :: marks t
  | '\r' :: t => .ending .carriageReturn :: marks t
  | '\n' :: t => .ending .lineFeed :: marks t
  | c :: t => .inside c :: marks t

/-- The number of ends of lines in a text. -/
def endCount (t : Text) : Nat :=
  t.marks.countP Mark.isEnding

/-- The text with every end of a line written in the same way. -/
def withEnds (e : LineEnd) (t : Text) : Text :=
  t.marks.flatMap fun m => (m.withEnd e).text

/-- Whether a text is not empty and its last character ends no line. -/
def endsWithin (t : Text) : Bool :=
  t.getLast?.any fun c => c != '\r' && c != '\n'

/-! ### Reading -/

theorem marks_of_plain (hreturn : c ≠ '\r') (hfeed : c ≠ '\n') (t : Text) :
    marks (c :: t) = .inside c :: marks t := by
  rw [marks]
  · exact fun _ h => absurd h hreturn
  · exact hreturn
  · exact hfeed

theorem marks_return (h : t.head? ≠ some '\n') :
    marks ('\r' :: t) = .ending .carriageReturn :: marks t := by
  cases t <;> simp_all [marks]

/-- Nothing is lost. -/
theorem flatMap_text_marks (t : Text) : t.marks.flatMap Mark.text = t := by
  fun_induction marks t <;> simp_all [Mark.text, LineEnd.text]

/-- No end of a line is left among the characters within lines. -/
theorem plain_of_inside_mem_marks (h : .inside c ∈ t.marks) : c ≠ '\r' ∧ c ≠ '\n' := by
  fun_induction marks t with
  | case1 => cases h
  | case2 t ih | case3 t _ ih | case4 t ih => exact ih (by simpa using h)
  | case5 d t hpair hreturn hfeed ih =>
    obtain hhead | htail := List.mem_cons.mp h
    · obtain rfl := Mark.inside.inj hhead
      exact ⟨hreturn, hfeed⟩
    · exact ih htail

/-- The last character ends no line exactly if what is read last is no end of a line. -/
theorem endsWithin_eq (t : Text) :
    t.endsWithin = t.marks.getLast?.any fun m => ! m.isEnding := by
  have htext := flatMap_text_marks t
  rcases List.eq_nil_or_concat t.marks with hnil | ⟨ms, m, hmarks⟩
  · rw [hnil] at htext ⊢
    rw [← htext]
    rfl
  · rw [hmarks, List.concat_eq_append] at htext ⊢
    rw [List.flatMap_append, List.flatMap_singleton] at htext
    rw [List.getLast?_concat, ← htext, endsWithin]
    cases m with
    | inside c =>
      have hplain : c ≠ '\r' ∧ c ≠ '\n' := plain_of_inside_mem_marks (t := t) (by simp [hmarks])
      simp [Mark.text, Mark.isEnding, hplain]
    | ending e => cases e <;> simp [Mark.text, LineEnd.text, Mark.isEnding]

/-! ### Writing every end in the same way -/

/-- No line feed comes first if every line is made to end with a carriage return. -/
theorem head?_flatMap_ne (hplain : ∀ c, .inside c ∈ ms → c ≠ '\r' ∧ c ≠ '\n') :
    (ms.flatMap fun m => (m.withEnd .carriageReturn).text).head? ≠ some '\n' := by
  cases ms with
  | nil => simp
  | cons m ms =>
    cases m with
    | inside c => simpa [Mark.withEnd, Mark.text] using (hplain c List.mem_cons_self).2
    | ending e => simp [Mark.withEnd, Mark.text, LineEnd.text]

theorem marks_flatMap (e : LineEnd) (hplain : ∀ c, .inside c ∈ ms → c ≠ '\r' ∧ c ≠ '\n') :
    marks (ms.flatMap fun m => (m.withEnd e).text) = ms.map (Mark.withEnd e) := by
  induction ms with
  | nil => rfl
  | cons m ms ih =>
    have hrest : ∀ c, .inside c ∈ ms → c ≠ '\r' ∧ c ≠ '\n' :=
      fun c hc => hplain c (List.mem_cons_of_mem m hc)
    rw [List.flatMap_cons, List.map_cons, ← ih hrest]
    cases m with
    | inside c =>
      obtain ⟨hreturn, hfeed⟩ := hplain c List.mem_cons_self
      exact marks_of_plain hreturn hfeed _
    | ending _ =>
      cases e with
      | lineFeed => rfl
      | carriageReturn => exact marks_return (head?_flatMap_ne hrest)
      | both => rfl

/-- If every line is made to end in the same way, the same lines are read. -/
theorem marks_withEnds (e : LineEnd) (t : Text) :
    (t.withEnds e).marks = t.marks.map (Mark.withEnd e) :=
  marks_flatMap e fun _ => plain_of_inside_mem_marks

theorem endCount_withEnds (e : LineEnd) (t : Text) : (t.withEnds e).endCount = t.endCount := by
  rw [endCount, marks_withEnds, List.countP_map, endCount]
  exact List.countP_congr fun m _ => by rw [Function.comp_apply, Mark.isEnding_withEnd]

theorem endsWithin_withEnds (e : LineEnd) (t : Text) :
    (t.withEnds e).endsWithin = t.endsWithin := by
  rw [endsWithin_eq, endsWithin_eq, marks_withEnds, List.getLast?_map, Option.any_map]
  simp only [Mark.isEnding_withEnd]

end Text

/-! ### Counting -/

namespace TextCount

open Text (marks)

/-- There is one piece more than there are ends of lines. -/
theorem length_pieces (t : Text) : (pieces t).length = t.marks.countP Mark.isEnding + 1 := by
  fun_induction marks t with
  | case1 => rfl
  | case2 t ih =>
    have hpieces : pieces ('\r' :: '\n' :: t) = [] :: pieces t := rfl
    rw [hpieces, List.length_cons, ih, List.countP_cons_of_pos rfl]
  | case3 t hpair ih =>
    rw [pieces_return (by simpa [List.head?_eq_some_iff] using hpair), List.length_cons, ih,
      List.countP_cons_of_pos rfl]
  | case4 t ih => rw [pieces_newline, List.length_cons, ih, List.countP_cons_of_pos rfl]
  | case5 c t hpair hreturn hfeed ih =>
    obtain ⟨piece, rest, hpieces⟩ := List.exists_cons_of_ne_nil (pieces_ne_nil t)
    rw [pieces_of_plain hreturn hfeed hpieces, List.length_cons,
      List.countP_cons_of_neg Bool.false_ne_true, ← ih, hpieces, List.length_cons]

/-- An end of a line in front does not matter to what is read last. -/
theorem forall_getLast?_ending_iff {e : LineEnd} {ms : List Mark} :
    (∀ m ∈ (Mark.ending e :: ms).getLast?, m.isEnding = true) ↔
      ∀ m ∈ ms.getLast?, m.isEnding = true := by
  cases ms with
  | nil => simp [Mark.isEnding]
  | cons m ms => rw [List.getLast?_cons_cons]

/-- Where no line ends, what is read last is a character within a line. -/
theorem not_forall_getLast? {ms : List Mark} (hne : ms ≠ [])
    (hnone : ms.countP Mark.isEnding = 0) : ¬ ∀ m ∈ ms.getLast?, m.isEnding = true := by
  intro h
  have hlast := h _ (List.getLast?_eq_some_getLast hne)
  exact List.countP_eq_zero.mp hnone _ (List.getLast_mem hne) hlast

/-- The last piece is empty exactly if nothing stands after the last end of a line. -/
theorem getLast?_pieces (t : Text) :
    (pieces t).getLast? = some [] ↔ ∀ m ∈ t.marks.getLast?, m.isEnding = true := by
  fun_induction marks t with
  | case1 => simp [pieces]
  | case2 t ih =>
    have hpieces : pieces ('\r' :: '\n' :: t) = [] :: pieces t := rfl
    rw [hpieces, List.getLast?_cons_of_ne_nil (pieces_ne_nil t), ih, forall_getLast?_ending_iff]
  | case3 t hpair ih =>
    rw [pieces_return (by simpa [List.head?_eq_some_iff] using hpair),
      List.getLast?_cons_of_ne_nil (pieces_ne_nil t), ih, forall_getLast?_ending_iff]
  | case4 t ih =>
    rw [pieces_newline, List.getLast?_cons_of_ne_nil (pieces_ne_nil t), ih,
      forall_getLast?_ending_iff]
  | case5 c t hpair hreturn hfeed ih =>
    obtain ⟨piece, rest, hpieces⟩ := List.exists_cons_of_ne_nil (pieces_ne_nil t)
    have hlength := length_pieces t
    rw [pieces_of_plain hreturn hfeed hpieces]
    rw [hpieces] at ih hlength
    -- the character is the last piece, or part of a piece before the last one
    cases rest with
    | nil =>
      have hnone : (Mark.inside c :: marks t).countP Mark.isEnding = 0 := by
        rw [List.countP_cons_of_neg Bool.false_ne_true]
        exact (Nat.succ.inj hlength).symm
      exact iff_of_false (by simp) (not_forall_getLast? (List.cons_ne_nil _ _) hnone)
    | cons next rest =>
      rw [List.getLast?_cons_cons] at ih ⊢
      rw [ih]
      cases hmarks : marks t with
      | nil =>
        rw [hmarks] at hlength
        cases hlength
      | cons m ms => rw [List.getLast?_cons_cons]

/-- The number of lines of a text is the number of its ends of lines, and one more if the text is
not empty and its last character ends no line.  It stays the same if all the ends of lines are
written in the same way, whichever of the three that is. -/
theorem lineCount_eq_endCount (t : Text) :
    lineCount t = t.endCount + (if t.endsWithin then 1 else 0) ∧
      ∀ e, lineCount (t.withEnds e) = lineCount t := by
  have hcount (t : Text) : lineCount t = t.endCount + (if t.endsWithin then 1 else 0) := by
    have hlast : (pieces t).getLast? = some [] ↔ t.endsWithin = false := by
      rw [getLast?_pieces, Text.endsWithin_eq, Option.any_eq_false]
      simp
    rw [lineCount, length_pieces]
    cases hwithin : t.endsWithin with
    | true =>
      rw [if_neg (by simp [hlast, hwithin]), if_pos rfl]
      rfl
    | false =>
      rw [if_pos (hlast.mpr hwithin), if_neg Bool.false_ne_true]
      rfl
  refine ⟨hcount t, fun e => ?_⟩
  rw [hcount, hcount, Text.endCount_withEnds, Text.endsWithin_withEnds]

/-- Of a carriage return and two line feeds in a row the first two characters end one line. -/
example : lineCount "a\r\n\n\rb".toList = 4 := rfl

end TextCount

end PortableShell
