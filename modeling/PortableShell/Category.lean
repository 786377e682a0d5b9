import PortableShell.Text.Case
import PortableShell.Text.Blank
import PortableShell.Text.Digit

/-!
# Labels for lines of output

Every line that is shown has a label, which decides its colour and nothing else.

## Main definitions

* `Category`: the labels.
* `Line`: a line with its label.
* `Category.ofLine`: the label of a line that a native tool printed.
* `Line.classify`: the lines of an output that hold more than blanks, each with its label.
-/

namespace PortableShell

/-- The labels of lines. -/
inductive Category where
  /-- An echoed command. -/
  | command
  /-- Ordinary output. -/
  | output
  /-- The report of an error. -/
  | error
  /-- The name of a directory. -/
  | directory
  deriving DecidableEq, Repr

/-- A line with its label. -/
structure Line where
  text : Text
  category : Category
  deriving DecidableEq, Repr

namespace Category

/-- Whether a line starts with a count: the word `total` or a digit.  Listings that begin with a
date are among these. -/
def startsWithCount : Text → Bool
  | [] => false
  | c :: t => "total".toList.isPrefixOf (c :: t) || Text.isDigit c

/-- The letters and the dash of a file mode. -/
def isModeChar (c : Char) : Bool :=
  c == 'd' || c == 'r' || c == 'w' || c == 'x' || c == '-'

/-- Whether a line starts like one of a file listing: a file mode, blanks and a digit. -/
def startsWithMode (t : Text) : Bool :=
  let afterMode := t.dropWhile isModeChar
  let afterBlanks := afterMode.dropWhile Text.isBlank
  afterMode.length < t.length && afterBlanks.length < afterMode.length &&
    match afterBlanks with
    | [] => false
    | c :: _ => Text.isDigit c

/-- The words that mark a line as the report of an error, in either case. -/
def errorWords : List String := ["error", "fail"]

/-- Whether a line speaks of an error. -/
def speaksOfError (t : Text) : Bool :=
  errorWords.any fun word => Text.hasInfix word (Text.lower t)

/-- Whether a line starts with a drive and a separator. -/
def startsWithDrive : Text → Bool
  | c :: ':' :: s :: _ => Text.isAsciiLetter c && (s == '\\' || s == '/')
  | _ => false

/-- The label of a line that a native tool printed. -/
def ofLine (t : Text) : Category :=
  if startsWithCount t || startsWithMode t then
    .output
  else if speaksOfError t then
    .error
  else if startsWithDrive t then
    .directory
  else
    .output

end Category

namespace Line

/-- The lines of an output that hold more than blanks, each with its label. -/
def classify (output : Text) : List Line :=
  ((Text.lines output).filter (! Text.isAllBlank ·)).map fun t => ⟨t, .ofLine t⟩

/-- The lines of a text, all with one label. -/
def plain (t : Text) : List Line :=
  (Text.lines t).map (⟨·, .output⟩)

end Line

end PortableShell
