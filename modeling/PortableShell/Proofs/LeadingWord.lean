import PortableShell.Proofs.Arguments
import PortableShell.Proofs.Pieces
import PortableShell.Proofs.Preparation

/-!
# A value and a path as two arguments

A change of mode, owner or group takes the first word as the value to be set and all that follows
it as the path, which may have blanks in it.  Double quotes hold nothing together there.  So a value
and a path that were put together from two arguments are found again only if there is no blank in
the value and none at the ends of the path.

## Main statements

* `Argument.leading_rebuild_of_word`, `Argument.leading_rebuild_of_blank`: what is found of two
  arguments, by whether there is a blank in the first one.
* `Argument.leading_rebuild_iff`: when the two arguments are found again.
-/

namespace PortableShell

/-! ### Blanks at the ends -/

namespace Text

variable {b : Char} {t : Text}

theorem trim_cons_of_isBlank (hb : isBlank b = true) (t : Text) : trim (b :: t) = trim t := by
  rw [trim, trim, trimStart, List.dropWhile_cons_of_pos hb, trimStart]

/-- Blanks at the start do not matter if the text is trimmed once the double quotes are out. -/
theorem trim_without_trimStart (t : Text) :
    trim (without '"' (trimStart t)) = trim (without '"' t) := by
  induction t with
  | nil => rfl
  | cons c t ih =>
    rw [trimStart, List.dropWhile_cons]
    by_cases hc : isBlank c = true
    · have hkept : without '"' (c :: t) = c :: without '"' t :=
        List.filter_cons_of_pos (by simpa using ne_quote_of_isBlank hc)
      rw [if_pos hc, hkept, trim_cons_of_isBlank hc]
      exact ih
    · rw [if_neg hc]

/-- What is trimmed neither starts nor ends with a blank, so trimming it changes nothing. -/
theorem trimStart_of_trim_eq (h : trim t = t) : trimStart t = t :=
  trimStart_eq_self_iff.mpr (trim_eq_self_iff.mp h).1

end Text

/-! ### Two arguments -/

namespace Argument

variable {value name : Text}

theorem without_guarded (h : '"' ∉ name) : Text.without '"' (guarded name) = name := by
  rw [guarded]
  split
  · rw [Text.without_append, Text.without_append, Text.without_eq_self h]
    simp [Text.without]
  · exact Text.without_eq_self h

theorem guarded_of_word (hne : value ≠ []) (hword : ∀ c ∈ value, Text.isBlank c = false) :
    guarded value = value := by
  have hplain : (value.isEmpty || value.any Text.isBlank) = false := by
    simpa [hne] using hword
  rw [guarded, hplain, if_neg Bool.false_ne_true]

/-- A value without a blank is found again, and of the path all but the blanks at its ends. -/
theorem leading_rebuild_of_word (hne : value ≠ [])
    (hword : ∀ c ∈ value, Text.isBlank c = false) (hname : '"' ∉ name) :
    leading (rebuild [value, name]) = (value, Text.trim name) := by
  have hraw : rebuild [value, name] = value ++ ' ' :: guarded name := by
    rw [rebuild_cons_cons, guarded_of_word hne hword]
    rfl
  have hrest : Text.trimStart (guarded name) = guarded name :=
    Text.trimStart_of_trim_eq (trim_guarded name)
  rw [leading, trim_rebuild, hraw, Text.firstWord_append hword Text.isBlank_space, hrest]
  exact congrArg (fun t => (value, Text.trim t)) (without_guarded hname)

/-- Of a value with a blank only what stands before the first one is taken as the value, behind a
double quote, and the rest of it is taken as the start of the path. -/
theorem leading_rebuild_of_blank {word rest : Text} {b : Char}
    (hword : ∀ c ∈ word, Text.isBlank c = false) (hb : Text.isBlank b = true)
    (hrest : '"' ∉ rest) (hname : '"' ∉ name) :
    leading (rebuild [word ++ b :: rest, name]) =
      ('"' :: word, Text.trim (rest ++ ' ' :: name)) := by
  have hguarded : guarded (word ++ b :: rest) = '"' :: (word ++ b :: rest) ++ ['"'] := by
    rw [guarded, if_pos (by simp [hb])]
    rfl
  have hraw : rebuild [word ++ b :: rest, name] =
      '"' :: word ++ b :: (rest ++ '"' :: ' ' :: guarded name) := by
    rw [rebuild_cons_cons, hguarded]
    simp [rebuild, Text.join]
  have hfirst : ∀ c ∈ '"' :: word, Text.isBlank c = false := by
    intro c hc
    rcases List.mem_cons.mp hc with rfl | hc
    · exact Text.isBlank_quote
    · exact hword c hc
  have hpath : Text.without '"' (rest ++ '"' :: ' ' :: guarded name) = rest ++ ' ' :: name := by
    have hclose : Text.without '"' ('"' :: ' ' :: guarded name) = ' ' :: name := by
      have hsplit := Text.without_append '"' ['"', ' '] (guarded name)
      rw [without_guarded hname] at hsplit
      exact hsplit
    rw [Text.without_append, Text.without_eq_self hrest, hclose]
  rw [leading, trim_rebuild, hraw, Text.firstWord_append hfirst hb]
  exact congrArg (fun t => ('"' :: word, t))
    ((Text.trim_without_trimStart _).trans (congrArg Text.trim hpath))

/-- Every text either has no blank, or a first one. -/
theorem exists_word_of_blank {c : Char} (hc : c ∈ value) (hblank : Text.isBlank c = true) :
    ∃ word b rest, value = word ++ b :: rest ∧ (∀ d ∈ word, Text.isBlank d = false) ∧
      Text.isBlank b = true := by
  induction value with
  | nil => cases hc
  | cons d value ih =>
    by_cases hd : Text.isBlank d = true
    · exact ⟨[], d, value, rfl, nofun, hd⟩
    · have hmem : c ∈ value := (List.mem_cons.mp hc).resolve_left fun heq => hd (heq ▸ hblank)
      obtain ⟨word, b, rest, rfl, hword, hb⟩ := ih hmem
      refine ⟨d :: word, b, rest, rfl, fun e he => ?_, hb⟩
      rcases List.mem_cons.mp he with rfl | he
      · simpa using hd
      · exact hword e he

theorem leading_rebuild_eq_iff (hvalue : value ≠ []) (hvalueQuote : '"' ∉ value)
    (hnameQuote : '"' ∉ name) :
    leading (rebuild [value, name]) = (value, name) ↔
      (∀ c ∈ value, Text.isBlank c = false) ∧ Text.trim name = name := by
  by_cases hword : ∀ c ∈ value, Text.isBlank c = false
  · rw [leading_rebuild_of_word hvalue hword hnameQuote, Prod.mk.injEq]
    exact ⟨fun h => ⟨hword, h.2⟩, fun h => ⟨rfl, h.2⟩⟩
  · refine ⟨fun h => ?_, fun h => absurd h.1 hword⟩
    push Not at hword
    obtain ⟨c, hc, hblank⟩ := hword
    obtain ⟨word, b, rest, rfl, hword, hb⟩ := exists_word_of_blank hc (by simpa using hblank)
    have hrest : '"' ∉ rest := fun hmem => hvalueQuote (by simp [hmem])
    rw [leading_rebuild_of_blank hword hb hrest hnameQuote, Prod.mk.injEq] at h
    -- the value that is found starts with a double quote
    exact absurd (h.1 ▸ List.mem_cons_self) hvalueQuote

/-- A value without double quotes and a path without double quotes are found again exactly if there
is no blank in the value and none at the ends of the path, and a change is made of this value and
this path exactly if so and the path is that of an existing file. -/
theorem leading_rebuild_iff (hvalue : value ≠ []) (hname : name ≠ []) (hvalueQuote : '"' ∉ value)
    (hnameQuote : '"' ∉ name) :
    (leading (rebuild [value, name]) = (value, name) ↔
      (∀ c ∈ value, Text.isBlank c = false) ∧ Text.trim name = name) ∧
    ∀ (command what : Text) (s : Session) (files : FileSystem) (path : Text),
      Procedure.prepareSetting command what s files (Text.trim (rebuild [value, name])) =
          .ok ⟨value, name, path⟩ ↔
        ((∀ c ∈ value, Text.isBlank c = false) ∧ Text.trim name = name) ∧
          s.existingFile files name = .ok path := by
  have hleading := leading_rebuild_eq_iff hvalue hvalueQuote hnameQuote
  refine ⟨hleading, fun command what s files path => ?_⟩
  rw [trim_rebuild, Procedure.prepareSetting_eq_ok_iff, hleading]
  exact and_congr_right fun _ => and_iff_right hname

/-- A path with a blank at its start is taken for another one. -/
theorem leading_rebuild_of_outer_blank :
    "600".toList ≠ [] ∧ " x".toList ≠ [] ∧ '"' ∉ "600".toList ∧ '"' ∉ " x".toList ∧
      leading (rebuild ["600", " x"]) ≠ ("600".toList, " x".toList) ∧
      leading (rebuild ["600", " x"]) = ("600".toList, "x".toList) := by
  have hvalue : "600".toList ≠ [] := by decide
  have hname : " x".toList ≠ [] := by decide
  have hvalueQuote : '"' ∉ "600".toList := by decide
  have hnameQuote : '"' ∉ " x".toList := by decide
  have hiff := (leading_rebuild_iff hvalue hname hvalueQuote hnameQuote).1
  refine ⟨hvalue, hname, hvalueQuote, hnameQuote, fun h => ?_, rfl⟩
  exact absurd (hiff.mp h).2 (by decide)

end Argument

end PortableShell
