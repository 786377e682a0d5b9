import Mathlib.Tactic.Common
import PortableShell.Text.Utf8

/-!
# Encoded texts are read back

A character is encoded in one to four bytes, and these are read as that character and nothing else.

## Main statements

* `Utf8.start_two`, `Utf8.start_three`, `Utf8.start_four`: what the first byte says, and which
  second bytes it admits.
* `Utf8.scan_encodeChar`: the bytes of a character are read as that character.
* `Utf8.decode?_encode`: the bytes of a text are read as that text.
-/

namespace PortableShell.Utf8

/-! ### Bytes -/

theorem toNat_toUInt8 {n : ℕ} (hn : n < 256) : n.toUInt8.toNat = n :=
  UInt8.toNat_ofNat_of_lt' hn

variable {n bits low high : ℕ} {bs : Bytes}

/-- The last byte of a character. -/
theorem scanRest_last (hn : n < 256) (hrange : low ≤ n ∧ n ≤ high) :
    scanRest ⟨1, bits, low, high⟩ (n.toUInt8 :: bs) =
      some (Char.ofNat (bits * 0x40 + (n - 0x80))) :: scan bs := by
  rw [scanRest, toNat_toUInt8 hn]
  simp only [if_pos hrange, if_pos (Nat.le_refl 1)]

/-- A byte of a character that is not the last one. -/
theorem scanRest_more {k : ℕ} (hn : n < 256) (hrange : low ≤ n ∧ n ≤ high) :
    scanRest ⟨k + 2, bits, low, high⟩ (n.toUInt8 :: bs) =
      scanRest ⟨k + 1, bits * 0x40 + (n - 0x80), 0x80, 0xBF⟩ bs := by
  rw [scanRest, toNat_toUInt8 hn]
  have hmore : ¬ k + 2 ≤ 1 := by omega
  simp only [if_pos hrange, if_neg hmore]
  rfl

/-- The first byte of a character of several bytes. -/
theorem scan_start {p : Partial} (hn : n < 256) (h : start n = some (.inr p)) :
    scan (n.toUInt8 :: bs) = scanRest p bs := by
  rw [scan, toNat_toUInt8 hn, h]

/-- How a character of two bytes starts. -/
theorem start_two (n : ℕ) (hlow : 0x80 ≤ n) (hhigh : n < 0x800) :
    start (0xC0 + n / 0x40) = some (.inr ⟨1, n / 0x40, 0x80, 0xBF⟩) := by
  rw [start, if_neg (by omega), if_neg (by omega), if_pos (by omega), Nat.add_sub_cancel_left]

/-- How a character of three bytes starts, where its second byte tells it from the shorter ones and
from the halves of characters. -/
theorem start_three (n : ℕ) (hlow : 0x800 ≤ n) (hhigh : n < 0x10000)
    (hhalf : n < 0xD800 ∨ 0xDFFF < n) :
    ∃ low high, start (0xE0 + n / 0x1000) = some (.inr ⟨2, n / 0x1000, low, high⟩) ∧
      low ≤ 0x80 + n / 0x40 % 0x40 ∧ 0x80 + n / 0x40 % 0x40 ≤ high := by
  rw [start, if_neg (by omega), if_neg (by omega), if_neg (by omega)]
  by_cases hfirst : 0xE0 + n / 0x1000 = 0xE0
  · have hzero : n / 0x1000 = 0 := by omega
    rw [if_pos hfirst, hzero]
    exact ⟨_, _, rfl, by omega, by omega⟩
  · rw [if_neg hfirst]
    by_cases hlast : 0xE0 + n / 0x1000 = 0xED
    · have hbits : n / 0x1000 = 0xD := by omega
      rw [if_pos hlast, hbits]
      exact ⟨_, _, rfl, by omega, by omega⟩
    · rw [if_neg hlast, if_pos (by omega), Nat.add_sub_cancel_left]
      exact ⟨_, _, rfl, by omega, by omega⟩

theorem start_four (n : ℕ) (hlow : 0x10000 ≤ n) (hhigh : n < 0x110000) :
    ∃ low high, start (0xF0 + n / 0x40000) = some (.inr ⟨3, n / 0x40000, low, high⟩) ∧
      low ≤ 0x80 + n / 0x1000 % 0x40 ∧ 0x80 + n / 0x1000 % 0x40 ≤ high := by
  rw [start, if_neg (by omega), if_neg (by omega), if_neg (by omega), if_neg (by omega),
    if_neg (by omega), if_neg (by omega)]
  by_cases hfirst : 0xF0 + n / 0x40000 = 0xF0
  · have hzero : n / 0x40000 = 0 := by omega
    rw [if_pos hfirst, hzero]
    exact ⟨_, _, rfl, by omega, by omega⟩
  · rw [if_neg hfirst]
    by_cases hmiddle : 0xF0 + n / 0x40000 < 0xF4
    · rw [if_pos hmiddle, Nat.add_sub_cancel_left]
      exact ⟨_, _, rfl, by omega, by omega⟩
    · have hbits : n / 0x40000 = 4 := by omega
      rw [if_neg hmiddle, if_pos (by omega), hbits]
      exact ⟨_, _, rfl, by omega, by omega⟩

/-- The bytes of a character are read as that character. -/
theorem scan_encodeChar (c : Char) (bs : Bytes) :
    scan (encodeChar c ++ bs) = some c :: scan bs := by
  have hvalid : c.toNat < 0xD800 ∨ 0xDFFF < c.toNat ∧ c.toNat < 0x110000 := c.valid
  simp only [encodeChar]
  split
  · next hone =>
    rw [List.singleton_append, scan, toNat_toUInt8 (by omega), start, if_pos hone, Char.ofNat_toNat]
  · split
    · next htwo =>
      have hbits : c.toNat / 0x40 * 0x40 + (0x80 + c.toNat % 0x40 - 0x80) = c.toNat := by omega
      rw [List.cons_append, List.singleton_append,
        scan_start (by omega) (start_two c.toNat (by omega) htwo),
        scanRest_last (by omega) ⟨by omega, by omega⟩, hbits, Char.ofNat_toNat]
    · split
      · next hthree =>
        obtain ⟨low, high, hstart, hrange⟩ := start_three c.toNat (by omega) hthree (by omega)
        have hbits : (c.toNat / 0x1000 * 0x40 + (0x80 + c.toNat / 0x40 % 0x40 - 0x80)) * 0x40 +
            (0x80 + c.toNat % 0x40 - 0x80) = c.toNat := by omega
        rw [List.cons_append, List.cons_append, List.singleton_append,
          scan_start (by omega) hstart, scanRest_more (by omega) hrange,
          scanRest_last (by omega) ⟨by omega, by omega⟩, hbits, Char.ofNat_toNat]
      · obtain ⟨low, high, hstart, hrange⟩ := start_four c.toNat (by omega) (by omega)
        have hbits : ((c.toNat / 0x40000 * 0x40 + (0x80 + c.toNat / 0x1000 % 0x40 - 0x80)) * 0x40 +
            (0x80 + c.toNat / 0x40 % 0x40 - 0x80)) * 0x40 + (0x80 + c.toNat % 0x40 - 0x80) =
              c.toNat := by omega
        rw [List.cons_append, List.cons_append, List.cons_append, List.singleton_append,
          scan_start (by omega) hstart, scanRest_more (by omega) hrange,
          scanRest_more (by omega) ⟨by omega, by omega⟩,
          scanRest_last (by omega) ⟨by omega, by omega⟩, hbits, Char.ofNat_toNat]

/-- The bytes of a text hold its characters and no fault. -/
theorem scan_encode (t : Text) : scan (encode t) = t.map some := by
  induction t with
  | nil => rw [encode, List.flatMap_nil, scan, List.map_nil]
  | cons c t ih => rw [encode, List.flatMap_cons, scan_encodeChar, ← encode, ih, List.map_cons]

/-- The bytes of a text are read as that text. -/
theorem decode?_encode (t : Text) : decode? (encode t) = some t := by
  rw [decode?, scan_encode]
  induction t with
  | nil => rfl
  | cons c t ih =>
    rw [List.map_cons, List.mapM_cons, ih]
    rfl

end PortableShell.Utf8
