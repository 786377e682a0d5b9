/-!
# Text

A text is a list of characters: every rule of the shell is about characters, their classes and
their order, and none about how they are stored.

## Main definitions

* `Text`: a list of characters; a string literal may stand for one.
* `Text.cut`: the pieces between the characters of a class.
* `Text.join`: pieces put together with a separator between them.
* `Text.hasInfix`: whether one text occurs inside another.
-/

namespace PortableShell

/-- A text, character by character. -/
abbrev Text := List Char

/-- A string stands for its characters. -/
instance : Coe String Text := ⟨String.toList⟩

namespace Text

/-- Whether `part` occurs in a text as a run of neighbouring characters. -/
def hasInfix (part : Text) : Text → Bool
  | [] => part.isEmpty
  | c :: t => part.isPrefixOf (c :: t) || hasInfix part t

/-- The pieces of a text between the characters of the class `p`, empty pieces included: a text
with `n` such characters has `n + 1` pieces. -/
def cut (p : Char → Bool) : Text → List Text
  | [] => [[]]
  | c :: t =>
    if p c then
      [] :: cut p t
    else
      match cut p t with
      | [] => [[c]]
      | piece :: pieces => (c :: piece) :: pieces

/-- The pieces of a text between the occurrences of one character. -/
def splitAt (sep : Char) (t : Text) : List Text :=
  cut (· == sep) t

/-- The pieces put together, with `sep` between neighbours. -/
def join (sep : Text) : List Text → Text
  | [] => []
  | [t] => t
  | t :: ts => t ++ sep ++ join sep ts

/-- The text without any occurrence of `c`. -/
def without (c : Char) (t : Text) : Text :=
  t.filter (· != c)

/-- The text with every occurrence of `c` written twice. -/
def double (c : Char) (t : Text) : Text :=
  t.flatMap fun d => if d = c then [d, d] else [d]

/-- The text before the first character of the class `p`, and the text after it if there is one. -/
def breakAt (p : Char → Bool) (t : Text) : Text × Option Text :=
  match t.dropWhile (! p ·) with
  | [] => (t, none)
  | _ :: rest => (t.takeWhile (! p ·), some rest)

/-- The text after the last `c`, which is the whole text if `c` does not occur. -/
def afterLast (c : Char) (t : Text) : Text :=
  (t.reverse.takeWhile (· != c)).reverse

/-- The text up to and including the last `c`, which is empty if `c` does not occur. -/
def throughLast (c : Char) (t : Text) : Text :=
  (t.reverse.dropWhile (· != c)).reverse

/-- The text without the characters of the class `p` at its end. -/
def dropEndWhile (p : Char → Bool) (t : Text) : Text :=
  (t.reverse.dropWhile p).reverse

/-- The text with blanks before it up to the width `n`. -/
def padStart (n : Nat) (t : Text) : Text :=
  List.replicate (n - t.length) ' ' ++ t

/-- The text with blanks after it up to the width `n`. -/
def padEnd (n : Nat) (t : Text) : Text :=
  t ++ List.replicate (n - t.length) ' '

/-- A natural number in decimal digits. -/
def ofNat (n : Nat) : Text :=
  Nat.toDigits 10 n

/-- An integer in decimal digits, with a minus sign if it is negative. -/
def ofInt : Int → Text
  | .ofNat n => ofNat n
  | .negSucc n => '-' :: ofNat (n + 1)

/-- Text in two parts is cut back into them at the last `c`. -/
theorem throughLast_append_afterLast (c : Char) (t : Text) :
    throughLast c t ++ afterLast c t = t := by
  rw [throughLast, afterLast, ← List.reverse_append, List.takeWhile_append_dropWhile,
    List.reverse_reverse]

end Text

end PortableShell
