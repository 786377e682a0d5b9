import PortableShell.Text.Basic

/-!
# Text as bytes

The encoding of characters in one to four bytes, and two readings of bytes: one replaces what is
no encoded character, the other refuses it.

## Main definitions

* `Utf8.encode`: the bytes of a text.
* `Utf8.decode`: the text of the bytes, with a replacement character for each faulty stretch.
* `Utf8.decode?`: the text of bytes that hold no fault.

A faulty stretch is as long as it can be while it is the start of an encoded character, and one
byte if it is not even that; it counts as one character.
-/

namespace PortableShell.Utf8

/-- A byte string. -/
abbrev Bytes := List UInt8

/-- The bytes of one character. -/
def encodeChar (c : Char) : Bytes :=
  let n := c.toNat
  if n < 0x80 then
    [n.toUInt8]
  else if n < 0x800 then
    [(0xC0 + n / 0x40).toUInt8, (0x80 + n % 0x40).toUInt8]
  else if n < 0x10000 then
    [(0xE0 + n / 0x1000).toUInt8, (0x80 + n / 0x40 % 0x40).toUInt8, (0x80 + n % 0x40).toUInt8]
  else
    [(0xF0 + n / 0x40000).toUInt8, (0x80 + n / 0x1000 % 0x40).toUInt8,
      (0x80 + n / 0x40 % 0x40).toUInt8, (0x80 + n % 0x40).toUInt8]

/-- The bytes of a text. -/
def encode (t : Text) : Bytes :=
  t.flatMap encodeChar

/-- A text stands for its bytes. -/
instance : Coe Text Bytes := ⟨encode⟩

/-- Pieces of text stand for the bytes of each. -/
instance : Coe (List Text) (List Bytes) := ⟨List.map encode⟩

/-- A character of which some bytes have been read. -/
structure Partial where
  /-- How many bytes are still to come. -/
  missing : Nat
  /-- The bits of the bytes read so far. -/
  bits : Nat
  /-- The least and the greatest byte that may come next. -/
  low : Nat
  high : Nat

/-- What the first byte of a character says about it: the character itself, its start, or
nothing. -/
def start (b : Nat) : Option (Char ⊕ Partial) :=
  if b < 0x80 then some (.inl (Char.ofNat b))
  else if b < 0xC2 then none
  else if b < 0xE0 then some (.inr ⟨1, b - 0xC0, 0x80, 0xBF⟩)
  else if b = 0xE0 then some (.inr ⟨2, 0, 0xA0, 0xBF⟩)
  else if b = 0xED then some (.inr ⟨2, 0xD, 0x80, 0x9F⟩)
  else if b < 0xF0 then some (.inr ⟨2, b - 0xE0, 0x80, 0xBF⟩)
  else if b = 0xF0 then some (.inr ⟨3, 0, 0x90, 0xBF⟩)
  else if b < 0xF4 then some (.inr ⟨3, b - 0xF0, 0x80, 0xBF⟩)
  else if b = 0xF4 then some (.inr ⟨3, 4, 0x80, 0x8F⟩)
  else none

mutual

/-- The characters of the bytes, from the start of a character on; `none` stands for a fault. -/
def scan : Bytes → List (Option Char)
  | [] => []
  | b :: bs =>
    match start b.toNat with
    | none => none :: scan bs
    | some (.inl c) => some c :: scan bs
    | some (.inr p) => scanRest p bs

/-- The characters of the bytes after the start `p` of a character. -/
def scanRest (p : Partial) : Bytes → List (Option Char)
  | [] => [none]
  | b :: bs =>
    let n := b.toNat
    if p.low ≤ n ∧ n ≤ p.high then
      let bits := p.bits * 0x40 + (n - 0x80)
      if p.missing ≤ 1 then
        some (Char.ofNat bits) :: scan bs
      else
        scanRest ⟨p.missing - 1, bits, 0x80, 0xBF⟩ bs
    else
      none ::
        match start n with
        | none => none :: scan bs
        | some (.inl c) => some c :: scan bs
        | some (.inr q) => scanRest q bs

end

/-- The text of the bytes, with a replacement character for each fault. -/
def decode (bs : Bytes) : Text :=
  (scan bs).map (·.getD '\uFFFD')

/-- The text of the bytes, if they hold no fault. -/
def decode? (bs : Bytes) : Option Text :=
  (scan bs).mapM id

end PortableShell.Utf8
