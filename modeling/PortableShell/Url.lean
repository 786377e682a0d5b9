import PortableShell.Url.Host
import PortableShell.Text.Case
import PortableShell.Text.Literal

/-!
# Addresses of documents

An address is cut into its scheme, the authority that serves the document, and the path under
which it does.

## Main definitions

* `Url`: the pieces of an address.
* `Url.Fault`: what can be wrong with an authority, and `Url.Fault.message`, its wording.
* `Url.parse`: the pieces of a text.
* `Url.fileName`: the name that a document is saved under.
-/

namespace PortableShell

/-- The pieces of an address that matter for fetching a document. -/
structure Url where
  scheme : Text
  authority : Text
  path : Text
  deriving DecidableEq, Repr

namespace Url

/-- What can be wrong with an authority. -/
inductive Fault where
  /-- It has a bracket of one kind and none of the other. -/
  | unpairedBracket
  /-- What stands in brackets starts like an address of a later version and is none. -/
  | badFuture
  /-- What stands in brackets is no address. -/
  | notAnAddress (host : Text)
  /-- What stands in brackets is an address of the fourth version. -/
  | fourthInBrackets
  /-- A character in it has a compatible form that would end the authority or divide it. -/
  | disguised (authority : Text)
  deriving DecidableEq, Repr

/-- The wording of a fault. -/
def Fault.message : Fault → Text
  | .unpairedBracket => "Invalid IPv6 URL"
  | .badFuture => "IPvFuture address is invalid"
  | .notAnAddress host => Text.literal host ++ " does not appear to be an IPv4 or IPv6 address"
  | .fourthInBrackets => "An IPv4 address cannot be in brackets"
  | .disguised authority =>
    "netloc '" ++ authority ++ "' contains invalid characters under NFKC normalization"

/-- The characters whose compatible form holds one of `/`, `?`, `#`, `@` and `:`. -/
def disguises : List Char := [
  '\u2047', '\u2048', '\u2049', '\u2100', '\u2101', '\u2105', '\u2106', '\u2A74', '\uFE13',
  '\uFE16', '\uFE55', '\uFE56', '\uFE5F', '\uFE6B', '\uFF03', '\uFF0F', '\uFF1A', '\uFF1F',
  '\uFF20']

/-- The text as it is read: control characters and blanks in front of it are skipped, and tabs and
line ends are dropped wherever they stand. -/
def tidy (t : Text) : Text :=
  (t.dropWhile (· ≤ ' ')).filter fun c => c != '\t' && c != '\r' && c != '\n'

/-- The characters of a scheme. -/
def isSchemeChar (c : Char) : Bool :=
  Text.isAsciiLetter c || Text.isAsciiDigit c || c == '+' || c == '-' || c == '.'

/-- The scheme in lower case and what follows it.  A scheme starts with a letter and ends at the
first colon. -/
def splitScheme (t : Text) : Text × Text :=
  match Text.breakAt (· == ':') t with
  | (scheme, some rest) =>
    if (scheme.head?.any Text.isAsciiLetter) && scheme.all isSchemeChar then
      (Text.lower scheme, rest)
    else
      ([], t)
  | (_, none) => ([], t)

/-- The characters that end an authority. -/
def endsAuthority (c : Char) : Bool :=
  c == '/' || c == '?' || c == '#'

/-- The authority after two slashes, and what follows it. -/
def splitAuthority : Text → Text × Text
  | '/' :: '/' :: t => (t.takeWhile (! endsAuthority ·), t.dropWhile (! endsAuthority ·))
  | t => ([], t)

/-- What stands between the first opening bracket and the next closing one. -/
def bracketed (authority : Text) : Text :=
  ((authority.dropWhile (· != '[')).drop 1).takeWhile (· != ']')

/-- Whether what stands in brackets is an address that may stand there. -/
def checkBracketed (host : Text) : Except Fault Unit :=
  if host.head? = some 'v' then
    if isFuture host then .ok () else .error .badFuture
  else if isFourth host then
    .error .fourthInBrackets
  else if isSixth host then
    .ok ()
  else
    .error (.notAnAddress host)

/-- Whether the brackets of an authority are in order. -/
def checkBrackets (authority : Text) : Except Fault Unit :=
  match authority.contains '[', authority.contains ']' with
  | true, true => checkBracketed (bracketed authority)
  | false, false => .ok ()
  | _, _ => .error .unpairedBracket

/-- The pieces of a text.  What follows the path, a query or a fragment, is left out. -/
def parse (t : Text) : Except Fault Url := do
  let (scheme, rest) := splitScheme (tidy t)
  let (authority, rest) := splitAuthority rest
  checkBrackets authority
  if authority.any disguises.contains then
    throw (.disguised authority)
  return ⟨scheme, authority, rest.takeWhile fun c => c != '?' && c != '#'⟩

/-- The name that a document is saved under: the last segment of its path without what a
semicolon sets off, or a fixed name if that is empty. -/
def fileName (u : Url) : Text :=
  let segment := (Text.afterLast '/' u.path).takeWhile (· != ';')
  if segment.isEmpty then "index.html" else segment

end Url

end PortableShell
