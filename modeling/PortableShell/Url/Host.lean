import PortableShell.Text.Digit

/-!
# Addresses in brackets

A host in brackets is an internet address of the sixth version or of a later one.

## Main definitions

* `Url.isFourth`, `Url.isSixth`: the addresses of the fourth and of the sixth version.
* `Url.isFuture`: the addresses of later versions.
-/

namespace PortableShell.Url

/-- Whether a text is one of the four numbers of an address of the fourth version: up to 255,
without a zero in front. -/
def isOctet (t : Text) : Bool :=
  ! t.isEmpty && t.all Text.isAsciiDigit && t.length ≤ 3 && (t == ['0'] || t.head? != some '0') &&
    t.foldl (fun n c => 10 * n + (c.toNat - '0'.toNat)) 0 ≤ 255

/-- Whether a text is an address of the fourth version. -/
def isFourth (t : Text) : Bool :=
  let octets := Text.splitAt '.' t
  octets.length == 4 && octets.all isOctet

/-- Whether a text is one of the eight numbers of an address of the sixth version. -/
def isGroup (t : Text) : Bool :=
  ! t.isEmpty && t.length ≤ 4 && t.all fun c => (Text.hexValue? c).isSome

/-- The groups of an address, where an address of the fourth version in the last place counts as
two groups; none if what stands there looks like one and is none. -/
def groups? (t : Text) : Option (List Text) :=
  let groups := Text.splitAt ':' t
  let last := groups.getLastD []
  if last.contains '.' then
    if isFourth last then some (groups.dropLast ++ [['0'], ['0']]) else none
  else
    some groups

/-- Whether groups, of which one inside is empty, leave out at least one group there: the empty
one may be at the start or at the end only if a second empty one stands at the very end. -/
def isAbbreviated (groups : List Text) (skipped : Nat) : Bool :=
  let before := groups.take skipped
  let after := groups.drop (skipped + 1)
  let before := if before.head? = some [] then before.drop 1 else before
  let after := if after.getLast? = some [] then after.dropLast else after
  (groups.head? != some [] || before.isEmpty) && (groups.getLast? != some [] || after.isEmpty) &&
    before.length + after.length < 8 && before.all isGroup && after.all isGroup

/-- Whether a text without a zone is an address of the sixth version. -/
def isUnzonedSixth (t : Text) : Bool :=
  match groups? t with
  | none => false
  | some groups =>
    let inside := (groups.drop 1).dropLast
    3 ≤ (Text.splitAt ':' t).length && groups.length ≤ 9 &&
      match inside.count [] with
      | 0 => groups.length == 8 && groups.all isGroup
      | 1 => isAbbreviated groups (inside.takeWhile (· != [])).length.succ
      | _ => false

/-- Whether a text is an address of the sixth version, perhaps with a zone after a percent sign. -/
def isSixth (t : Text) : Bool :=
  ! t.contains '/' &&
    match Text.breakAt (· == '%') t with
    | (address, none) => isUnzonedSixth address
    | (address, some zone) => ! zone.isEmpty && ! zone.contains '%' && isUnzonedSixth address

/-- Whether a text that starts with `v` is an address of a later version: its number in base
sixteen, a point, and more. -/
def isFuture : Text → Bool
  | 'v' :: t =>
    let number := t.takeWhile fun c => (Text.hexValue? c).isSome
    let rest := t.dropWhile fun c => (Text.hexValue? c).isSome
    ! number.isEmpty && 2 ≤ rest.length && rest.head? == some '.'
  | _ => false

end PortableShell.Url
