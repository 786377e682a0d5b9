import Mathlib.Tactic.NormNum
import PortableShell.Json.Printer
import PortableShell.Json.Reader

/-!
# Strings in structured data

A character is written as itself, as a letter after a backslash, or as one or two code units; each
of these is read as the character.

## Main statements

* `Json.codePoint?_single`, `Json.codePoint?_pair`: what code units are read as.
* `Json.readString?_charText`: a written character is read as itself.
* `Json.readString?_flatMap`: a written string is read as the text that it was written for.
-/

namespace PortableShell

namespace Json

/-! ### Strings -/

theorem hexValue?_digitChar {d : ℕ} (hd : d < 16) : Text.hexValue? (Nat.digitChar d) = some d := by
  decide +revert

theorem unitText_append (n : ℕ) (t : Text) :
    unitText n ++ t = '\\' :: 'u' :: (Text.hexDigits 4 n ++ t) :=
  rfl

theorem unit?_hexDigits {n : ℕ} (hn : n < 0x10000) (t : Text) :
    unit? (Text.hexDigits 4 n ++ t) = some (n, t) := by
  have hdigits : Text.hexDigits 4 n = [Nat.digitChar (n / 16 / 16 / 16 % 16),
      Nat.digitChar (n / 16 / 16 % 16), Nat.digitChar (n / 16 % 16), Nat.digitChar (n % 16)] := rfl
  have hvalue (k : ℕ) : Text.hexValue? (Nat.digitChar (k % 16)) = some (k % 16) :=
    hexValue?_digitChar (Nat.mod_lt k (by norm_num))
  rw [hdigits]
  simp only [List.cons_append, List.nil_append, unit?, hvalue, Option.bind_eq_bind,
    Option.bind_some]
  congr 2
  omega

/-- No character has the number of a half. -/
theorem not_half (c : Char) : c.toNat < 0xD800 ∨ 0xDFFF < c.toNat ∧ c.toNat < 0x110000 :=
  c.valid

/-- A character of sixteen bits is read as itself. -/
theorem codePoint?_single {c : Char} (hc : c.toNat < 0x10000) (t : Text) :
    codePoint? (Text.hexDigits 4 c.toNat ++ t) = some (c, t) := by
  have hvalid := not_half c
  have hfirst : isFirstHalf c.toNat = false := by
    simp only [isFirstHalf, Bool.and_eq_false_iff, decide_eq_false_iff_not]
    omega
  have hsecond : isSecondHalf c.toNat = false := by
    simp only [isSecondHalf, Bool.and_eq_false_iff, decide_eq_false_iff_not]
    omega
  simp only [codePoint?, unit?_hexDigits hc, Option.bind_eq_bind, Option.bind_some, hfirst,
    Bool.false_eq_true, if_false, charOfUnit, hsecond, Bool.or_self, Char.ofNat_toNat]
  rfl

theorem codePoint?_of_halves {t after rest : Text} {n k : ℕ}
    (hfirst : unit? t = some (n, '\\' :: 'u' :: after)) (hn : isFirstHalf n = true)
    (hsecond : unit? after = some (k, rest)) (hk : isSecondHalf k = true) :
    codePoint? t = some (Char.ofNat (0x10000 + (n - 0xD800) * 0x400 + (k - 0xDC00)), rest) := by
  simp only [codePoint?, hfirst, Option.bind_eq_bind, Option.bind_some, hn, if_true, hsecond, hk]
  rfl

/-- A character of more than sixteen bits is read from its two halves. -/
theorem codePoint?_pair {c : Char} (hc : 0x10000 ≤ c.toNat) (t : Text) :
    codePoint? (Text.hexDigits 4 (0xD800 + (c.toNat - 0x10000) / 0x400) ++
      (unitText (0xDC00 + (c.toNat - 0x10000) % 0x400) ++ t)) = some (c, t) := by
  have hvalid := not_half c
  obtain ⟨n, hn⟩ : ∃ n, n = c.toNat - 0x10000 := ⟨_, rfl⟩
  have hfirst : isFirstHalf (0xD800 + n / 0x400) = true := by
    simp only [isFirstHalf, Bool.and_eq_true, decide_eq_true_eq]
    omega
  have hsecond : isSecondHalf (0xDC00 + n % 0x400) = true := by
    simp only [isSecondHalf, Bool.and_eq_true, decide_eq_true_eq]
    omega
  have hchar : 0x10000 + (0xD800 + n / 0x400 - 0xD800) * 0x400 + (0xDC00 + n % 0x400 - 0xDC00) =
      c.toNat := by omega
  rw [← hn]
  have hread := codePoint?_of_halves (unit?_hexDigits (by omega) _) hfirst
    (unit?_hexDigits (by omega) t) hsecond
  rwa [hchar, Char.ofNat_toNat] at hread

section

variable (fuel : ℕ) (t : Text)

theorem readString?_escape {e c : Char} (he : e ≠ 'u') (h : escape? e = some c) :
    readString? (fuel + 1) ('\\' :: e :: t) =
      (readString? fuel t).map fun (s, rest) => (c :: s, rest) := by
  rw [readString?, h]
  · simp only [Option.bind_eq_bind, Option.bind_some]
    cases readString? fuel t with
    | none => rfl
    | some found => rfl
  · exact he

theorem readString?_plain {c : Char} (hquote : c ≠ '"') (hslash : c ≠ '\\') (hc : 0x20 ≤ c.toNat) :
    readString? (fuel + 1) (c :: t) =
      (readString? fuel t).map fun (s, rest) => (c :: s, rest) := by
  rw [readString?, if_neg (by omega)]
  · cases readString? fuel t with
    | none => rfl
    | some found => rfl
  · exact hquote
  · exact fun _ h => absurd h hslash
  · exact fun _ _ h => absurd h hslash
  · exact fun h => absurd h hslash

theorem readString?_codePoint {c : Char} {u : Text} (h : codePoint? u = some (c, t)) :
    readString? (fuel + 1) ('\\' :: 'u' :: u) =
      (readString? fuel t).map fun (s, rest) => (c :: s, rest) := by
  rw [readString?, h]
  simp only [Option.bind_eq_bind, Option.bind_some]
  cases readString? fuel t with
  | none => rfl
  | some found => rfl

/-- A character that is written in a string is read as itself. -/
theorem readString?_charText (c : Char) :
    readString? (fuel + 1) (charText c ++ t) =
      (readString? fuel t).map fun (s, rest) => (c :: s, rest) := by
  rw [charText.eq_def]
  dsimp only
  split
  · exact readString?_escape fuel t (by decide) rfl
  · exact readString?_escape fuel t (by decide) rfl
  · exact readString?_escape fuel t (by decide) rfl
  · exact readString?_escape fuel t (by decide) rfl
  · exact readString?_escape fuel t (by decide) rfl
  · exact readString?_escape fuel t (by decide) rfl
  · exact readString?_escape fuel t (by decide) rfl
  · next hquote hslash _ _ _ _ _ =>
    split
    · next hplain =>
      exact readString?_plain fuel t hquote hslash hplain.1
    · split
      · next hsmall =>
        rw [unitText_append]
        exact readString?_codePoint fuel t (codePoint?_single hsmall t)
      · next hlarge =>
        rw [List.append_assoc, unitText_append]
        exact readString?_codePoint fuel t (codePoint?_pair (Nat.le_of_not_lt hlarge) t)

end

/-- A string is read as the text that it was written for. -/
theorem readString?_flatMap (t rest : Text) {fuel : ℕ} (hfuel : t.length < fuel) :
    readString? fuel (t.flatMap charText ++ '"' :: rest) = some (t, rest) := by
  induction t generalizing fuel with
  | nil =>
    cases fuel with
    | zero => cases hfuel
    | succ fuel => rfl
  | cons c t ih =>
    cases fuel with
    | zero => cases hfuel
    | succ fuel =>
      have hrest := ih (Nat.lt_of_succ_lt_succ hfuel)
      rw [List.flatMap_cons, List.append_assoc, readString?_charText, hrest]
      rfl

theorem length_le_length_flatMap (t : Text) : t.length ≤ (t.flatMap charText).length := by
  induction t with
  | nil => exact Nat.le_refl _
  | cons c t ih =>
    have hc : charText c ≠ [] := by
      rw [charText.eq_def]
      dsimp only
      split <;> try exact List.cons_ne_nil _ _
      split
      · exact List.cons_ne_nil _ _
      · split <;> exact List.cons_ne_nil _ _
    have hpos := List.length_pos_iff.mpr hc
    rw [List.flatMap_cons, List.length_append, List.length_cons]
    omega

/-- The rest of a text is long enough for a string at its start. -/
theorem readString?_length (t rest : Text) :
    readString? ((t.flatMap charText ++ '"' :: rest).length + 1)
      (t.flatMap charText ++ '"' :: rest) = some (t, rest) := by
  apply readString?_flatMap
  have hlength := length_le_length_flatMap t
  rw [List.length_append]
  omega

end Json

end PortableShell
