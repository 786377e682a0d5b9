import PortableShell.Proofs.Tokens
import PortableShell.Terminal.Completion

/-!
# The argument that is being typed

A later word of a line is completed from what follows the last plain blank and any double quotes.
Where arguments are cut, blanks between double quotes separate nothing, other blanks do, and double
quotes may stand anywhere.  So what is completed is the last argument so far only if that was begun
right behind the last plain blank, with its double quotes in front.

## Main statements

* `Argument.exists_last_piece`: the piece that a text ends in.
* `Argument.exists_last_token`: the argument that a text ends in.
* `Completion.offer_paths_eq_last_token_iff`: when this argument is what is completed.
-/

namespace PortableShell

/-! ### The last piece -/

/-- The last of the pieces that a list is cut into is all that follows the last cut. -/
theorem getLast?_splitOnP_append {α : Type} {p : α → Bool} {front last : List α}
    (hfront : ∀ a ∈ front.getLast?, p a = true) (hlast : ∀ a ∈ last, p a = false) :
    ((front ++ last).splitOnP p).getLast? = some last := by
  rcases List.eq_nil_or_concat' front with rfl | ⟨init, a, rfl⟩
  · rw [List.nil_append, List.splitOnP_eq_singleton hlast, List.getLast?_singleton]
  · have ha : p a = true := hfront a List.getLast?_concat
    rw [List.append_assoc, List.singleton_append, List.splitOnP_append_cons _ _ ha,
      List.splitOnP_eq_singleton hlast, List.getLast?_concat]

/-- What is left once the end of a list is dropped does not end in a member to be dropped. -/
theorem eq_false_of_mem_getLast?_rdropWhile {α : Type} {p : α → Bool} {l : List α} {a : α}
    (h : a ∈ (l.rdropWhile p).getLast?) : p a = false := by
  obtain ⟨init, hinit⟩ := List.getLast?_eq_some_iff.mp h
  have hne : l.rdropWhile p ≠ [] := by simp [hinit]
  have hlast := List.rdropWhile_last_not p l hne
  simpa [hinit] using hlast

namespace Argument

/-- The piece that a text ends in follows a blank, if anything is in front of it, and it is empty
only if a blank that separates arguments ends the text. -/
theorem exists_last_piece (raw : Text) :
    ∃ front piece, raw = front ++ piece ∧ (pieces raw).getLast? = some piece ∧
      (∀ b ∈ front.getLast?, Text.isBlank b = true) ∧
      (piece = [] → ∀ m ∈ raw.zipIdx.getLast?, separates raw m = true) := by
  let front := raw.zipIdx.rdropWhile (! separates raw ·)
  let last := raw.zipIdx.rtakeWhile (! separates raw ·)
  have hsplit : front ++ last = raw.zipIdx := List.rdropWhile_append_rtakeWhile
  have hfront : ∀ m ∈ front.getLast?, separates raw m = true := fun m hm => by
    simpa using eq_false_of_mem_getLast?_rdropWhile hm
  have hlast : ∀ m ∈ last, separates raw m = false := fun m hm => by
    simpa using List.mem_rtakeWhile_imp hm
  refine ⟨front.map Prod.fst, last.map Prod.fst, ?_, ?_, ?_, ?_⟩
  · rw [← List.map_append, hsplit, List.zipIdx_map_fst]
  · rw [pieces, cutPlaces, ← hsplit, List.getLast?_map, getLast?_splitOnP_append hfront hlast]
    rfl
  · intro b hb
    rw [List.getLast?_map] at hb
    obtain ⟨m, hm, rfl⟩ := Option.map_eq_some_iff.mp hb
    exact (Bool.and_eq_true_iff.mp (hfront m hm)).1
  · intro hnil
    rw [← hsplit, List.map_eq_nil_iff.mp hnil, List.append_nil]
    exact hfront

/-- If neither a double quote nor a blank that separates arguments ends a text, its last argument is
the piece that it ends in, without double quotes. -/
theorem exists_last_token {raw init : Text} {c : Char} (hraw : raw = init ++ [c])
    (hquote : c ≠ '"') (hend : separates raw (c, init.length) = false) :
    ∃ front piece, raw = front ++ piece ∧ (∀ b ∈ front.getLast?, Text.isBlank b = true) ∧
      (pieces raw).getLast? = some piece ∧
      (tokens raw).getLast? = some (Text.without '"' piece) := by
  obtain ⟨front, piece, hsplit, hlast, hfront, hempty⟩ := exists_last_piece raw
  have hplace : raw.zipIdx.getLast? = some (c, init.length) := by
    rw [hraw, List.zipIdx_append, Nat.zero_add]
    exact List.getLast?_concat
  have hne : piece ≠ [] := by
    intro hnil
    have hseparates := hempty hnil _ hplace
    rw [hend] at hseparates
    cases hseparates
  have hmem : c ∈ Text.without '"' piece := by
    have hc : raw.getLast? = some c := by rw [hraw, List.getLast?_concat]
    rw [hsplit, List.getLast?_append_of_ne_nil front hne] at hc
    exact List.mem_filter.mpr ⟨List.mem_of_getLast? hc, by simpa using hquote⟩
  obtain ⟨earlier, hpieces⟩ := List.getLast?_eq_some_iff.mp hlast
  refine ⟨front, piece, hsplit, hfront, hlast, ?_⟩
  rw [tokens_eq_filter_pieces, hpieces, List.map_append, List.filter_append, List.map_singleton,
    List.filter_cons_of_pos (by simpa using List.ne_nil_of_mem hmem), List.filter_nil,
    List.getLast?_concat]

end Argument

namespace Completion

open Argument

/-! ### What is completed -/

/-- From a character on that is no double quote everything is left. -/
theorem length_lt_length_dropWhile {init piece : Text} {b : Char} (hb : b ≠ '"') :
    piece.length < ((init ++ [b] ++ piece).dropWhile (· == '"')).length := by
  have hleft : (init ++ [b]).dropWhile (· == '"') ≠ [] := by
    intro hnil
    exact hb (beq_iff_eq.mp (List.dropWhile_eq_nil_iff.mp hnil b (by simp)))
  have hpos : 0 < ((init ++ [b]).dropWhile (· == '"')).length := List.length_pos_iff.mpr hleft
  rw [List.dropWhile_append, if_neg (by simpa using hleft), List.length_append]
  omega

/-- Of what follows the last plain blank only double quotes in front are left out, so if what is
left is what the last piece is without its double quotes, the last piece follows that blank. -/
theorem eq_word_of_dropWhile_eq {s word front piece : Text}
    (hsplit : s ++ ' ' :: word = front ++ piece) (hnot : ' ' ∉ word)
    (hfront : ∀ b ∈ front.getLast?, Text.isBlank b = true)
    (heq : word.dropWhile (· == '"') = Text.without '"' piece) : piece = word := by
  have hplain : ' ' ∉ piece := by
    intro hmem
    have hleft : ' ' ∈ Text.without '"' piece := List.mem_filter.mpr ⟨hmem, by decide⟩
    rw [← heq] at hleft
    exact hnot ((List.dropWhile_sublist _).mem hleft)
  rcases List.append_eq_append_iff.mp hsplit with ⟨rest, rfl, hrest⟩ | ⟨rest, -, rfl⟩
  · rcases List.cons_eq_append_iff.mp hrest with ⟨-, rfl⟩ | ⟨behind, rfl, rfl⟩
    · exact absurd List.mem_cons_self hplain
    rcases List.eq_nil_or_concat' behind with rfl | ⟨init, b, rfl⟩
    · rfl
    -- a blank of another kind would not be left out
    have hb : Text.isBlank b = true :=
      hfront b (List.getLast?_eq_some_iff.mpr ⟨s ++ ' ' :: init, by simp⟩)
    have hlong : piece.length < ((init ++ [b] ++ piece).dropWhile (· == '"')).length :=
      length_lt_length_dropWhile (Text.ne_quote_of_isBlank hb)
    have hshort : (Text.without '"' piece).length ≤ piece.length := List.length_filter_le _ _
    rw [heq] at hlong
    omega
  · exact absurd (by simp) hplain

/-- If a text has a blank after its first word, and neither a double quote nor a blank that
separates arguments ends it, a path is completed, and what is completed is the last argument exactly
if this is begun right behind the last plain blank and has no double quote but in front.  So what is
completed is never an argument that has a plain blank in it. -/
theorem offer_paths_eq_last_token_iff {before init : Text} {c : Char}
    (hbefore : before = init ++ [c]) (hspace : ' ' ∈ Text.trimStart before) (hquote : c ≠ '"')
    (hend : separates before (c, init.length) = false) :
    ∃ begun last, offer before = .paths begun ∧ (tokens before).getLast? = some last ∧
      (begun = last ↔
        (pieces before).getLast? = some (Text.afterLast ' ' before) ∧ '"' ∉ begun) ∧
      (' ' ∈ last → begun ≠ last) := by
  obtain ⟨s, word, hword, hnot⟩ :=
    Text.exists_eq_append_of_mem ((List.dropWhile_sublist _).mem hspace)
  obtain ⟨front, piece, hsplit, hfront, hpiece, htoken⟩ := exists_last_token hbefore hquote hend
  have hafter : Text.afterLast ' ' before = word := by rw [hword, Text.afterLast_append hnot]
  have hplain : ' ' ∉ word.dropWhile (· == '"') := mt (List.dropWhile_sublist _).mem hnot
  refine ⟨_, _, offer_of_laterWord hspace, htoken, ?_, ?_⟩
  · rw [hafter, hpiece, Option.some.injEq]
    constructor
    · intro heq
      have hquotes : '"' ∉ word.dropWhile (· == '"') := by simp [heq, Text.without]
      exact ⟨eq_word_of_dropWhile_eq (hword.symm.trans hsplit) hnot hfront heq, hquotes⟩
    · rintro ⟨rfl, hquotes⟩
      exact (Text.without_eq_dropWhile hquotes).symm
  · intro hlast heq
    rw [hafter] at heq
    exact hplain (heq ▸ hlast)

/-- Of a path in double quotes only what follows a blank in it is completed. -/
theorem offer_of_quoted_path :
    let before : Text := "cat \"my fi"
    before = "cat \"my f".toList ++ ['i'] ∧ ' ' ∈ Text.trimStart before ∧
      separates before ('i', "cat \"my f".toList.length) = false ∧
      offer before = .paths "fi" ∧ (tokens before).getLast? = some "my fi".toList ∧
      (pieces before).getLast? ≠ some (Text.afterLast ' ' before) := by
  intro before
  have hbefore : before = "cat \"my f".toList ++ ['i'] := rfl
  have hspace : ' ' ∈ Text.trimStart before := by decide
  have hend : separates before ('i', "cat \"my f".toList.length) = false := by decide
  have hoffer : offer before = .paths "fi" := by decide
  have htokens : (tokens before).getLast? = some "my fi".toList := by decide
  obtain ⟨begun, last, hbegun, hlast, hiff, hne⟩ :=
    offer_paths_eq_last_token_iff hbefore hspace (by decide) hend
  obtain rfl := Offer.paths.inj (hoffer.symm.trans hbegun)
  obtain rfl := Option.some.inj (htokens.symm.trans hlast)
  refine ⟨hbefore, hspace, hend, hoffer, htokens, fun hpiece => ?_⟩
  exact hne (by decide) (hiff.mpr ⟨hpiece, by decide⟩)

/-- Double quotes in front that are closed again, and a tab between such that are not. -/
example : offer "cat \"\"x" = .paths "x" ∧ tokens "cat \"\"x" = ["cat".toList, "x".toList] ∧
    offer "cat \"a\tb" = .paths "a\tb" ∧ tokens "cat \"a\tb" = ["cat".toList, "a\tb".toList] := by
  decide

end Completion

end PortableShell
