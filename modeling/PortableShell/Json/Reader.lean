import PortableShell.Json
import PortableShell.Number.Double.Reader

/-!
# Reading structured data

A text is read as one value with blanks around it; what is not such a text is refused.  Besides
finite numbers the format knows both infinities and `NaN`.

## Main definitions

* `Json.read?`: the value of a text.
* `Json.readString?`, `Json.readNumber?`: the two kinds of value that are more than a fixed word.

A text starts with no byte order mark, a string holds no control characters, and a whole number
has at most `Numeral.maxDigits` digits.
-/

namespace PortableShell.Json

/-- The characters that may stand between the parts of a text. -/
def isSpace (c : Char) : Bool :=
  c == ' ' || c == '\t' || c == '\n' || c == '\r'

/-- The text without the blanks at its start. -/
def skipSpace (t : Text) : Text :=
  t.dropWhile isSpace

/-- The code unit that four hexadecimal digits denote, and the text after them. -/
def unit? : Text → Option (Nat × Text)
  | a :: b :: c :: d :: t => do
    let a ← Text.hexValue? a
    let b ← Text.hexValue? b
    let c ← Text.hexValue? c
    let d ← Text.hexValue? d
    return (((a * 16 + b) * 16 + c) * 16 + d, t)
  | _ => none

/-- Whether a code unit is the first half of a character. -/
def isFirstHalf (n : Nat) : Bool :=
  0xD800 ≤ n && n < 0xDC00

/-- Whether a code unit is the second half of a character. -/
def isSecondHalf (n : Nat) : Bool :=
  0xDC00 ≤ n && n < 0xE000

/-- The character of a code unit that stands alone.  A half without its partner is no character,
and the replacement character stands for it. -/
def charOfUnit (n : Nat) : Char :=
  if isFirstHalf n || isSecondHalf n then '\uFFFD' else Char.ofNat n

/-- The character after `\u`, and the text after it: one code unit or two that belong together. -/
def codePoint? (t : Text) : Option (Char × Text) := do
  let (n, rest) ← unit? t
  if isFirstHalf n then
    match rest with
    | '\\' :: 'u' :: after =>
      let (k, after) ← unit? after
      if isSecondHalf k then
        return (Char.ofNat (0x10000 + (n - 0xD800) * 0x400 + (k - 0xDC00)), after)
      else
        return (charOfUnit n, rest)
    | _ => return (charOfUnit n, rest)
  else
    return (charOfUnit n, rest)

/-- The character that a letter after a backslash stands for. -/
def escape? : Char → Option Char
  | '"' => some '"'
  | '\\' => some '\\'
  | '/' => some '/'
  | 'b' => some '\x08'
  | 'f' => some '\x0C'
  | 'n' => some '\n'
  | 'r' => some '\r'
  | 't' => some '\t'
  | _ => none

/-- The contents of a string up to its closing quote, and the text after it.  Every step takes at
least one character, so `fuel` need not exceed the length of the text. -/
def readString? : (fuel : Nat) → Text → Option (Text × Text)
  | 0, _ => none
  | _, [] => none
  | _, '"' :: t => some ([], t)
  | fuel + 1, '\\' :: 'u' :: t => do
    let (c, t) ← codePoint? t
    let (s, t) ← readString? fuel t
    return (c :: s, t)
  | fuel + 1, '\\' :: c :: t => do
    let c ← escape? c
    let (s, t) ← readString? fuel t
    return (c :: s, t)
  | _, ['\\'] => none
  | fuel + 1, c :: t =>
    if c.toNat < 0x20 then
      none
    else do
      let (s, t) ← readString? fuel t
      return (c :: s, t)

/-- The digits at the start of a text, and what follows them. -/
def takeDigits (t : Text) : List Nat × Text :=
  (Double.digitValues (t.takeWhile Text.isAsciiDigit), t.dropWhile Text.isAsciiDigit)

/-- The digits after a point, and what follows them, if a point and a digit come first. -/
def fraction? : Text → Option (List Nat × Text)
  | '.' :: t =>
    match takeDigits t with
    | ([], _) => none
    | (ds, rest) => some (ds, rest)
  | _ => none

/-- The power of ten after a letter `e`, and what follows it, if a letter, perhaps a sign, and a
digit come first. -/
def exponent? : Text → Option (Int × Text)
  | c :: t =>
    if c = 'e' || c = 'E' then
      let (negative, t) := Numeral.sign t
      match takeDigits t with
      | ([], _) => none
      | (ds, rest) =>
        let n : Int := Numeral.value ds
        some (if negative then -n else n, rest)
    else
      none
  | [] => none

/-- The number with the given digits before and after the point and the given power of ten, a
whole number if neither a point nor a power was written. -/
def number? (negative : Bool) (whole : List Nat) (part : Option (List Nat)) (power : Option Int) :
    Option Json :=
  match part, power with
  | none, none =>
    if whole.length ≤ Numeral.maxDigits then
      let n : Int := Numeral.value whole
      some (.integer (if negative then -n else n))
    else
      none
  | part, power =>
    let after := part.getD []
    some (.real (Double.ofDigits negative (whole ++ after) (power.getD 0 - after.length)))

/-- What a reader finds at the start of a text, and what follows it, which is the whole text if
there is nothing to be found. -/
def optional {α : Type} (read : Text → Option (α × Text)) (t : Text) : Option α × Text :=
  match read t with
  | some (x, t) => (some x, t)
  | none => (none, t)

/-- The digits before a point, and what follows them.  A whole part that starts with zero is
zero. -/
def wholePart? : Text → Option (List Nat × Text)
  | '0' :: t => some ([0], t)
  | t => match takeDigits t with
    | ([], _) => none
    | (ds, rest) => some (ds, rest)

/-- The number after its sign, and what follows it. -/
def unsigned? (negative : Bool) (t : Text) : Option (Json × Text) := do
  let (whole, t) ← wholePart? t
  let (part, t) := optional fraction? t
  let (power, t) := optional exponent? t
  return (← number? negative whole part power, t)

/-- The number at the start of a text, and what follows it. -/
def readNumber? : Text → Option (Json × Text)
  | '-' :: t => unsigned? true t
  | t => unsigned? false t

/-- The values that are fixed words. -/
def fixedWords : List (String × Json) := [
  ("null", .null), ("true", .bool true), ("false", .bool false), ("NaN", .real .nan),
  ("Infinity", .real (.infinite false)), ("-Infinity", .real (.infinite true))]

/-- The fixed word at the start of a text, and what follows it. -/
def readWord? (t : Text) : Option (Json × Text) :=
  fixedWords.findSome? fun (word, value) =>
    if word.toList.isPrefixOf t then some (value, t.drop word.length) else none

mutual

/-- The value at the start of a text, and what follows it.  Every step takes at least one
character, so `fuel` need not exceed the length of the text. -/
def readValue? : (fuel : Nat) → Text → Option (Json × Text)
  | 0, _ => none
  | _ + 1, '"' :: t => do
    let (s, t) ← readString? (t.length + 1) t
    return (.text s, t)
  | fuel + 1, '[' :: t => do
    let (values, t) ← match skipSpace t with
      | ']' :: t => some ([], t)
      | t => readValues? fuel t
    return (.array values, t)
  | fuel + 1, '\x7b' :: t => do
    let (members, t) ← match skipSpace t with
      | '\x7d' :: t => some ([], t)
      | t => readMembers? fuel t
    return (.object members, t)
  | _, t => (readWord? t).or (readNumber? t)

/-- The values of an array up to its closing bracket, of which there is at least one. -/
def readValues? : (fuel : Nat) → Text → Option (List Json × Text)
  | 0, _ => none
  | fuel + 1, t => do
    let (value, t) ← readValue? fuel t
    match skipSpace t with
    | ']' :: t => return ([value], t)
    | ',' :: t =>
      let (values, t) ← readValues? fuel (skipSpace t)
      return (value :: values, t)
    | _ => none

/-- The members of an object up to its closing brace, of which there is at least one. -/
def readMembers? : (fuel : Nat) → Text → Option (List (Text × Json) × Text)
  | fuel + 1, '"' :: t => do
    let (name, t) ← readString? (t.length + 1) t
    match skipSpace t with
    | ':' :: t =>
      let (value, t) ← readValue? fuel (skipSpace t)
      match skipSpace t with
      | '\x7d' :: t => return ([(name, value)], t)
      | ',' :: t =>
        let (members, t) ← readMembers? fuel (skipSpace t)
        return ((name, value) :: members, t)
      | _ => none
    | _ => none
  | _, _ => none

end

/-- The value of a text. -/
def read? (t : Text) : Option Json := do
  let (value, rest) ← readValue? (t.length + 1) (skipSpace t)
  if (skipSpace rest).isEmpty then
    return value
  else
    none

end PortableShell.Json
