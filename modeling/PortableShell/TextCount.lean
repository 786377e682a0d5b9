import PortableShell.Text.Blank

/-!
# Counting text

The lines, words and characters of a text.

## Main definitions

* `TextCount`: the three counts, which are added one by one.
* `TextCount.pieces`: the pieces of a text between the ends of its lines.
* `TextCount.lines`: the number of lines, however they end.
* `TextCount.ofText`, `TextCount.row`: the counts of a text, and the row that shows them.
-/

namespace PortableShell

/-- The numbers of lines, words and characters of a text. -/
structure TextCount where
  lines : Nat
  words : Nat
  chars : Nat
  deriving DecidableEq, Repr

namespace TextCount

/-- The counts of nothing. -/
instance : Zero TextCount := ⟨⟨0, 0, 0⟩⟩

/-- Counts are added one by one. -/
instance : Add TextCount :=
  ⟨fun a b => ⟨a.lines + b.lines, a.words + b.words, a.chars + b.chars⟩⟩

/-- The pieces of a text between the ends of its lines: a carriage return, a line feed, or the
one followed by the other. -/
def pieces : Text → List Text
  | [] => [[]]
  | '\r' :: '\n' :: t => [] :: pieces t
  | c :: t =>
    if c = '\r' ∨ c = '\n' then
      [] :: pieces t
    else
      match pieces t with
      | [] => [[c]]
      | piece :: rest => (c :: piece) :: rest

/-- The number of lines of a text.  What stands after the last end of a line is one more line,
unless nothing stands there. -/
def lineCount (t : Text) : Nat :=
  let found := pieces t
  if found.getLast? = some [] then found.length - 1 else found.length

/-- The counts of a text. -/
def ofText (t : Text) : TextCount :=
  ⟨lineCount t, (Text.words t).length, t.length⟩

/-- The row that shows counts and what they are the counts of. -/
def row (n : TextCount) (label : Text) : Text :=
  let column (k : Nat) : Text := Text.padStart 7 (Text.ofNat k) ++ " "
  column n.lines ++ column n.words ++ column n.chars ++ label

/-- The counts of two things are the sums of their counts. -/
@[simp]
theorem add_def (a b : TextCount) :
    a + b = ⟨a.lines + b.lines, a.words + b.words, a.chars + b.chars⟩ := rfl

/-- An empty text has no lines. -/
@[simp]
theorem lineCount_nil : lineCount [] = 0 := rfl

end TextCount

end PortableShell
