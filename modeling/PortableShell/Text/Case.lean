import PortableShell.Text.CaseTable

/-!
# Lower and upper case

The lower and the upper case form of a text in any script.  Both work character by character,
with one exception: a capital sigma at the end of a word has a lower case form of its own.  A
character may have a form of several characters.

## Main definitions

* `Text.lower`, `Text.upper`: the two forms of a text.
-/

namespace PortableShell.Text

/-- The form of a code point that the runs give, and the code point itself if they give none. -/
def shiftIn (runs : List CaseRun) (n : Nat) : Nat :=
  (runs.findSome? (·.shifted? n)).getD n

/-- Whether a capital sigma after `before` (nearest character first) and in front of `after` ends
a word: on the left stands a character that has a case and on the right none, where characters
that take part in neither are looked through. -/
def endsWord (before after : Text) : Bool :=
  let leftCased := match before.dropWhile caseIgnorable.holds with
    | [] => false
    | c :: _ => cased.holds c
  let rightCased := match after.dropWhile caseIgnorable.holds with
    | [] => false
    | c :: _ => cased.holds c
  leftCased && ! rightCased

/-- The lower case form of one character, which for a capital sigma depends on its neighbours. -/
def lowerChar (before : Text) (c : Char) (after : Text) : Text :=
  if c.toNat < 128 then
    [c.toLower]
  else if c = 'Σ' then
    [if endsWord before after then 'ς' else 'σ']
  else if c = 'İ' then
    ['i', '\u0307']
  else
    [Char.ofNat (shiftIn lowerRuns c.toNat)]

/-- The lower case form of what follows `before`, whose nearest character comes first. -/
def lowerAfter (before : Text) : Text → Text
  | [] => []
  | c :: t => lowerChar before c t ++ lowerAfter (c :: before) t

/-- The lower case form of a text. -/
def lower (t : Text) : Text :=
  lowerAfter [] t

/-- The upper case form of one character. -/
def upperChar (c : Char) : Text :=
  if c.toNat < 128 then
    [c.toUpper]
  else
    match upperExpansions.lookup c.toNat with
    | some points => points.map Char.ofNat
    | none => [Char.ofNat (shiftIn upperRuns c.toNat)]

/-- The upper case form of a text. -/
def upper (t : Text) : Text :=
  t.flatMap upperChar

end PortableShell.Text
