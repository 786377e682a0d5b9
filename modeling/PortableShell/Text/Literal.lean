import PortableShell.Text.Digit
import PortableShell.Text.PrintableTable

/-!
# Texts as literals

A text in an error message is shown as a literal between quotes, so that its blanks and its
control characters can be seen.
-/

namespace PortableShell.Text

/-- The quote that a literal of `t` stands in: an apostrophe, unless the text has one and has no
double quote. -/
def literalQuote (t : Text) : Char :=
  if t.contains '\x27' && ! t.contains '"' then '"' else '\x27'

/-- A character in a literal: the quote and the backslash get a backslash, the common control
characters their letter, and all others that cannot be printed their code point in as few of two,
four or eight hexadecimal digits as hold it. -/
def literalChar (quote c : Char) : Text :=
  if c = quote || c = '\\' then
    ['\\', c]
  else if c = '\t' then
    ['\\', 't']
  else if c = '\n' then
    ['\\', 'n']
  else if c = '\r' then
    ['\\', 'r']
  else if ! unprintable.holds c then
    [c]
  else if c.toNat ≤ 0xFF then
    ['\\', 'x'] ++ hexDigits 2 c.toNat
  else if c.toNat ≤ 0xFFFF then
    ['\\', 'u'] ++ hexDigits 4 c.toNat
  else
    ['\\', 'U'] ++ hexDigits 8 c.toNat

/-- The text as a literal. -/
def literal (t : Text) : Text :=
  let quote := literalQuote t
  [quote] ++ t.flatMap (literalChar quote) ++ [quote]

end PortableShell.Text
