import Mathlib.Algebra.Group.Nat.Even
import PortableShell.Proofs.Arguments
import PortableShell.Proofs.Pieces

/-!
# Cutting at the blanks outside double quotes

A place of a text is outside double quotes if an even number of them stands before it.  The
arguments of a text are its pieces between the blanks at such places, without the double quotes in
them, and without the pieces in which nothing else is.

## Main definitions

* `Argument.isUnquoted`: the places of a text that are outside double quotes.
* `Argument.pieces`: the pieces of a text between the blanks at such places.

## Main statements

* `Argument.tokensFrom_eq`: what is cut off from a place on where an argument was begun.
* `Argument.tokens_eq_filter_pieces`: the arguments of a text by its pieces.
* `Argument.tokens_eq_pieces`: the arguments of a text, and that each other character is in one.
-/

namespace PortableShell

/-- What is cut at some members of a list keeps all the others, in their order. -/
theorem flatten_splitOnP {α : Type} (p : α → Bool) (l : List α) :
    (l.splitOnP p).flatten = l.filter (! p ·) := by
  induction l with
  | nil => rfl
  | cons a l ih =>
    obtain ⟨first, rest, hsplit⟩ := List.exists_cons_of_ne_nil (List.splitOnP_ne_nil p l)
    rw [List.splitOnP_cons_eq_if_modifyHead, List.filter_cons, ← ih]
    by_cases ha : p a = true
    · simp [ha]
    · simp [ha, hsplit]

namespace Argument

variable {current : Text} {c : Char}

/-! ### The declared meaning -/

/-- Whether a place of a text is outside double quotes: an even number of them stands before it. -/
def isUnquoted (raw : Text) (place : Nat) : Bool :=
  decide (Even ((raw.take place).count '"'))

/-- Whether a character at a place of a text separates arguments. -/
def separates (raw : Text) (m : Char × Nat) : Bool :=
  Text.isBlank m.1 && isUnquoted raw m.2

/-- The pieces of characters with their places between those that separate arguments. -/
def cutPlaces (raw : Text) (ms : List (Char × Nat)) : List Text :=
  (ms.splitOnP (separates raw)).map (·.map Prod.fst)

/-- The pieces of a text between the blanks outside double quotes. -/
def pieces (raw : Text) : List Text :=
  cutPlaces raw raw.zipIdx

/-! ### From one place to the next -/

theorem isUnquoted_append (before t : Text) :
    isUnquoted (before ++ t) before.length = decide (Even (before.count '"')) := by
  rw [isUnquoted, List.take_left]

theorem cutPlaces_cons (raw : Text) (m : Char × Nat) (ms : List (Char × Nat)) :
    cutPlaces raw (m :: ms) = if separates raw m then [] :: cutPlaces raw ms
      else (cutPlaces raw ms).modifyHead (m.1 :: ·) := by
  obtain ⟨first, rest, hsplit⟩ :=
    List.exists_cons_of_ne_nil (List.splitOnP_ne_nil (separates raw) ms)
  rw [cutPlaces, cutPlaces, List.splitOnP_cons_eq_if_modifyHead, hsplit]
  by_cases hm : separates raw m = true
  · simp [hm]
  · simp [hm]

/-- A double quote ends what was outside double quotes and begins it again. -/
theorem even_count_concat_quote (before : Text) :
    decide (Even ((before ++ ['"']).count '"')) = ! decide (Even (before.count '"')) := by
  rw [List.count_append, List.count_singleton_self, decide_eq_decide.mpr Nat.even_add_one,
    decide_not]

theorem even_count_concat (hc : c ≠ '"') (before : Text) :
    decide (Even ((before ++ [c]).count '"')) = decide (Even (before.count '"')) := by
  rw [List.count_append, List.count_singleton, if_neg (by simpa using hc), Nat.add_zero]

/-- From a place on where an argument was begun, the rest of its piece is added to it, and the
pieces after that are arguments of their own. -/
theorem tokensFrom_eq (before : Text) (hcurrent : '"' ∉ current) (t : Text) :
    tokensFrom (! decide (Even (before.count '"'))) current t =
      (((cutPlaces (before ++ t) (t.zipIdx before.length)).modifyHead (current.reverse ++ ·)).map
        (Text.without '"')).filter (· != []) := by
  induction t generalizing before current with
  | nil =>
    have hreverse : '"' ∉ current.reverse := by simpa using hcurrent
    rw [tokensFrom_nil, List.zipIdx_nil]
    simp [cutPlaces, Text.without_eq_self hreverse]
  | cons c t ih =>
    have hplace : separates (before ++ c :: t) (c, before.length) =
        (Text.isBlank c && decide (Even (before.count '"'))) := by
      rw [separates, isUnquoted_append]
    have hrest (current : Text) (h : '"' ∉ current) := ih (before ++ [c]) h
    rw [List.append_assoc, List.singleton_append, List.length_append, List.length_singleton]
      at hrest
    rw [List.zipIdx_cons, cutPlaces_cons, hplace]
    generalize cutPlaces (before ++ c :: t) (t.zipIdx (before.length + 1)) = cut at hrest ⊢
    by_cases hquote : c = '"'
    · subst hquote
      rw [even_count_concat_quote] at hrest
      rw [tokensFrom, if_pos rfl, hrest current hcurrent, Text.isBlank_quote, Bool.false_and]
      -- the double quote in the piece is one of those that are left out
      cases cut with
      | nil => rfl
      | cons first rest => simp [Text.without]
    · rw [even_count_concat hquote] at hrest
      by_cases hbreak : (Text.isBlank c && decide (Even (before.count '"'))) = true
      · obtain ⟨hblank, heven⟩ := Bool.and_eq_true_iff.mp hbreak
        have hreverse : '"' ∉ current.reverse := by simpa using hcurrent
        have htokens : tokens t = (cut.map (Text.without '"')).filter (· != []) := by
          have hnew := hrest [] List.not_mem_nil
          rw [heven, Bool.not_true] at hnew
          rw [tokens, hnew]
          cases cut <;> rfl
        have hpieces : (([] :: cut).modifyHead (current.reverse ++ ·)).map (Text.without '"') =
            [current.reverse] ++ cut.map (Text.without '"') := by
          simp [Text.without_eq_self hreverse]
        rw [if_pos hbreak, hpieces, List.filter_append, ← htokens, heven, Bool.not_true,
          tokensFrom_blank hblank]
      · have hadded : '"' ∉ c :: current := by
          rw [List.mem_cons, not_or]
          exact ⟨Ne.symm hquote, hcurrent⟩
        rw [tokensFrom, if_neg hquote, Bool.not_not, if_neg hbreak, if_neg hbreak,
          hrest (c :: current) hadded]
        cases cut with
        | nil => rfl
        | cons first rest => simp

/-! ### Whole texts -/

/-- The arguments of a text are its pieces without double quotes, but for those that are empty
then. -/
theorem tokens_eq_filter_pieces (raw : Text) :
    tokens raw = ((pieces raw).map (Text.without '"')).filter (· != []) := by
  have hfrom := tokensFrom_eq [] (List.not_mem_nil (a := '"')) raw
  rw [tokens, pieces]
  cases hcut : cutPlaces raw raw.zipIdx with
  | nil => simpa [hcut] using hfrom
  | cons first rest => simpa [hcut] using hfrom

/-- The arguments of a text are its pieces between the blanks outside double quotes, without double
quotes and without those that are empty then.  So every character that is neither a double quote
nor such a blank is in an argument, and they are all in their order. -/
theorem tokens_eq_pieces (raw : Text) :
    tokens raw = ((pieces raw).map (Text.without '"')).filter (· != []) ∧
      (tokens raw).flatten =
        (raw.zipIdx.filter fun m => ! separates raw m && m.1 != '"').map Prod.fst := by
  refine ⟨tokens_eq_filter_pieces raw, ?_⟩
  have hpieces : (pieces raw).flatten =
      (raw.zipIdx.filter fun m => ! separates raw m).map Prod.fst := by
    rw [pieces, cutPlaces, ← List.map_flatten, flatten_splitOnP]
  calc (tokens raw).flatten
      = ((pieces raw).map (Text.without '"')).flatten := by
        have hne : (fun piece : Text => piece != []) = fun piece => ! piece.isEmpty := by
          funext piece
          cases piece <;> rfl
        rw [tokens_eq_filter_pieces, hne, List.flatten_filter_not_isEmpty]
    _ = Text.without '"' (pieces raw).flatten := List.filter_flatten.symm
    _ = (raw.zipIdx.filter fun m => ! separates raw m && m.1 != '"').map Prod.fst := by
        rw [hpieces, Text.without, List.filter_map, List.filter_filter]
        simp only [Function.comp_def, Bool.and_comm]

/-- A double quote that opens in a word and is never closed holds the rest together. -/
example : tokens "a\t\"b \"\" c\"d \"e f" = ["a".toList, "b  cd".toList, "e f".toList] := by
  decide

end Argument

end PortableShell
