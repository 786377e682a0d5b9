import PortableShell.Text.Ranges

/-!
# Blanks, words and lines

Which characters separate words, which end a line, and how a text falls into words and lines.

## Main definitions

* `Text.isBlank`: the characters that separate words.
* `Text.trim`, `Text.words`, `Text.firstWord`: a text without its outer blanks, its words, and
  its first word with the rest.
* `Text.endsLine`, `Text.lines`: the characters that end a line, and the lines of a text.
-/

namespace PortableShell.Text

/-- The characters that separate words: the separators of spaces, lines and paragraphs, and the
control characters that act as one of them. -/
def blanks : Ranges := [
  (0x0009, 0x000D), (0x001C, 0x0020), (0x0085, 0x0085), (0x00A0, 0x00A0), (0x1680, 0x1680),
  (0x2000, 0x200A), (0x2028, 0x2029), (0x202F, 0x202F), (0x205F, 0x205F), (0x3000, 0x3000)]

/-- Whether a character separates words. -/
def isBlank (c : Char) : Bool :=
  blanks.holds c

/-- The text without blanks at its start. -/
def trimStart (t : Text) : Text :=
  t.dropWhile isBlank

/-- The text without blanks at its end. -/
def trimEnd (t : Text) : Text :=
  dropEndWhile isBlank t

/-- The text without blanks at either end. -/
def trim (t : Text) : Text :=
  trimEnd (trimStart t)

/-- Whether nothing but blanks is in the text. -/
def isAllBlank (t : Text) : Bool :=
  t.all isBlank

/-- The words of a text: its longest runs of characters that are no blanks. -/
def words (t : Text) : List Text :=
  (cut isBlank t).filter (· != [])

/-- The first word of a text that does not start with a blank, and what follows the blanks
after it. -/
def firstWord (t : Text) : Text × Text :=
  (t.takeWhile (! isBlank ·), trimStart (t.dropWhile (! isBlank ·)))

/-- The characters that end a line.  A carriage return and a line feed after it end one line. -/
def lineEnds : Ranges := [
  (0x000A, 0x000D), (0x001C, 0x001E), (0x0085, 0x0085), (0x2028, 0x2029)]

/-- Whether a character ends a line. -/
def endsLine (c : Char) : Bool :=
  lineEnds.holds c

/-- The lines of a text without the characters that end them.  What follows the last such
character is a line only if it is not empty. -/
def lines : Text → List Text
  | [] => []
  | '\r' :: '\n' :: t => [] :: lines t
  | c :: t =>
    if endsLine c then
      [] :: lines t
    else
      match lines t with
      | [] => [[c]]
      | line :: rest => (c :: line) :: rest

@[simp]
theorem isBlank_space : isBlank ' ' = true := by decide

/-- A double quote separates no words. -/
@[simp]
theorem isBlank_quote : isBlank '"' = false := by decide

theorem ne_quote_of_isBlank {c : Char} (h : isBlank c = true) : c ≠ '"' := by
  rintro rfl
  rw [isBlank_quote] at h
  cases h

end PortableShell.Text
