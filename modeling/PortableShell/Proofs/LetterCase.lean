import Mathlib.Data.List.Infix
import PortableShell.Text.Case

/-!
# Words in letters of either case

The lower case form of a text may hold small letters that stand for no letter of ASCII: the one of
the Kelvin sign is a `k`, and the one of a capital `İ` is an `i` with a dot above after it.  All
others keep clear of them, so a word that neither of the two can be part of is in the lower case
form of a text exactly if it is in the text in letters of either case.

## Main definitions

* `Text.IsPlainWord`: the words of small letters that neither of the two can be part of.
* `Text.HoldsWord`: whether a word is in a text in letters of either case.

## Main statements

* `Text.lowerChar_cases`: the lower case form of one character.
* `Text.infix_lower_iff`: which texts have a plain word in their lower case form.
-/

namespace PortableShell.Text

/-- Whether a character is a small letter of ASCII other than `k`, which is the form of the Kelvin
sign too. -/
def isPlainLetter (c : Char) : Bool :=
  'a' ≤ c && c ≤ 'z' && c != 'k'

/-- Whether a word is made of such letters and does not end with `i`, which the form of a capital
`İ` starts with. -/
structure IsPlainWord (w : Text) : Prop where
  ne_nil : w ≠ []
  letters : ∀ c ∈ w, isPlainLetter c = true
  last : w.getLast? ≠ some 'i'

/-- Whether a word is in a text, where each of its letters may be a small or a capital one of
ASCII. -/
def HoldsWord (w t : Text) : Prop :=
  ∃ part, part <:+: t ∧ part.map Char.toLower = w

/-! ### The form of one character -/

/-- What is known of the lower case forms of all characters beyond ASCII. -/
theorem lowerRuns_form : ∀ r ∈ lowerRuns, r.last < 128 ∨ 128 ≤ r.first + r.shift ∨
    r.first = r.last ∧ r.first + r.shift = 'k'.toNat := by
  decide +kernel

/-- No character beyond ASCII has a small letter as its form but a `k`. -/
theorem shiftIn_lowerRuns {n : Nat} (hn : 128 ≤ n) :
    128 ≤ shiftIn lowerRuns n ∨ shiftIn lowerRuns n = 'k'.toNat := by
  rw [shiftIn]
  cases hform : lowerRuns.findSome? (·.shifted? n) with
  | none => exact .inl hn
  | some m =>
    obtain ⟨r, hr, hm⟩ := List.exists_of_findSome?_eq_some hform
    rw [CaseRun.shifted?] at hm
    split at hm
    · next hmem =>
      cases hm
      have := lowerRuns_form r hr
      simp only [Option.getD_some]
      omega
    · cases hm

theorem isPlainLetter_iff {c : Char} :
    isPlainLetter c = true ↔ (97 ≤ c.toNat ∧ c.toNat ≤ 122) ∧ c ≠ 'k' := by
  simp [isPlainLetter, Char.le_def, UInt32.le_iff_toNat_le]

theorem isPlainLetter_ofNat {n : Nat} (hn : 128 ≤ n ∨ n = 'k'.toNat) :
    isPlainLetter (Char.ofNat n) = false := by
  rw [← Bool.not_eq_true, isPlainLetter_iff]
  rintro ⟨⟨hlow, hhigh⟩, hne⟩
  by_cases hvalid : n.isValidChar
  · have hval : (Char.ofNat n).toNat = n := by
      rw [Char.ofNat, dif_pos hvalid]
      rfl
    rcases hn with hn | rfl
    · omega
    · exact hne rfl
  · rw [Char.ofNat, dif_neg hvalid] at hlow
    cases hlow

theorem toLower_of_le {c : Char} (h : 128 ≤ c.toNat) : c.toLower = c := by
  refine dif_neg fun hcapital => ?_
  have : c.toNat ≤ 90 := UInt32.le_iff_toNat_le.mp hcapital.2
  omega

/-- The lower case form of a character is the small letter for a letter of ASCII, an `i` with a dot
above after it, or one character that is no plain letter. -/
theorem lowerChar_cases (before : Text) (c : Char) (after : Text) :
    (c.toNat < 128 ∧ lowerChar before c after = [c.toLower]) ∨
      lowerChar before c after = ['i', '\u0307'] ∨
      ∃ d, lowerChar before c after = [d] ∧ isPlainLetter d = false := by
  rw [lowerChar]
  split
  · next hascii => exact .inl ⟨hascii, rfl⟩
  · next hbeyond =>
    refine .inr ?_
    split
    · refine .inr ⟨_, rfl, ?_⟩
      split <;> decide
    · split
      · exact .inl rfl
      · exact .inr ⟨_, rfl, isPlainLetter_ofNat (shiftIn_lowerRuns (Nat.not_lt.mp hbeyond))⟩

/-! ### Words in a text -/

/-- A plain word that the lower case form starts with is one that the text starts with.  Here the
word may be empty, as what is left of a word is in the end. -/
theorem exists_prefix_of_lowerAfter {w before t : Text}
    (hletters : ∀ c ∈ w, isPlainLetter c = true) (hlast : w.getLast? ≠ some 'i')
    (h : w <+: lowerAfter before t) : ∃ part, part <+: t ∧ part.map Char.toLower = w := by
  induction t generalizing w before with
  | nil => exact ⟨[], List.nil_prefix, (List.prefix_nil.mp h).symm⟩
  | cons c t ih =>
    cases w with
    | nil => exact ⟨[], List.nil_prefix, rfl⟩
    | cons d w =>
      have hd := hletters d List.mem_cons_self
      have hw : ∀ c ∈ w, isPlainLetter c = true :=
        fun c hc => hletters c (List.mem_cons_of_mem d hc)
      rw [lowerAfter] at h
      obtain ⟨-, hform⟩ | hform | ⟨other, hform, hother⟩ := lowerChar_cases before c t
      · rw [hform, List.singleton_append, List.cons_prefix_cons] at h
        obtain ⟨rfl, hrest⟩ := h
        have hlast' : w.getLast? ≠ some 'i' := by
          cases w with
          | nil => simp
          | cons e w => rwa [List.getLast?_cons_cons] at hlast
        obtain ⟨part, hpart, hmap⟩ := ih hw hlast' hrest
        exact ⟨c :: part, List.cons_prefix_cons.mpr ⟨rfl, hpart⟩, congrArg _ hmap⟩
      · rw [hform, List.cons_append, List.cons_prefix_cons] at h
        obtain ⟨rfl, hrest⟩ := h
        -- the word would end here, or go on with the dot
        cases w with
        | nil => exact absurd rfl hlast
        | cons e w =>
          obtain rfl := (List.cons_prefix_cons.mp hrest).1
          exact absurd (hw _ List.mem_cons_self) (by decide)
      · rw [hform, List.singleton_append, List.cons_prefix_cons] at h
        rw [h.1, hother] at hd
        cases hd

/-- A plain word does not start within the form of a character. -/
theorem IsPlainWord.not_prefix {w t : Text} (hw : IsPlainWord w) {d : Char}
    (hd : isPlainLetter d = false) : ¬ w <+: d :: t := by
  intro h
  cases w with
  | nil => exact hw.ne_nil rfl
  | cons e w =>
    obtain rfl := (List.cons_prefix_cons.mp h).1
    rw [hw.letters e List.mem_cons_self] at hd
    cases hd

theorem IsPlainWord.holdsWord_of_infix {w before t : Text} (hw : IsPlainWord w)
    (h : w <:+: lowerAfter before t) : HoldsWord w t := by
  induction t generalizing before with
  | nil => exact absurd (List.infix_nil.mp h) hw.ne_nil
  | cons c t ih =>
    have hstart : w <+: lowerAfter before (c :: t) → HoldsWord w (c :: t) := fun hprefix =>
      have ⟨part, hpart, hmap⟩ := exists_prefix_of_lowerAfter hw.letters hw.last hprefix
      ⟨part, hpart.isInfix, hmap⟩
    have hlater : w <:+: lowerAfter (c :: before) t → HoldsWord w (c :: t) := fun hinfix =>
      have ⟨part, hpart, hmap⟩ := ih hinfix
      ⟨part, List.infix_cons hpart, hmap⟩
    have hsingle {d : Char} (hform : lowerChar before c t = [d]) : HoldsWord w (c :: t) := by
      rw [lowerAfter, hform, List.singleton_append] at h hstart
      exact (List.infix_cons_iff.mp h).elim hstart hlater
    obtain ⟨-, hform⟩ | hform | ⟨d, hform, -⟩ := lowerChar_cases before c t
    · exact hsingle hform
    · rw [lowerAfter, hform] at h hstart
      obtain hprefix | hinfix := List.infix_cons_iff.mp h
      · exact hstart hprefix
      · obtain hprefix | hinfix := List.infix_cons_iff.mp hinfix
        · exact absurd hprefix (hw.not_prefix (by decide))
        · exact hlater hinfix
    · exact hsingle hform

/-- The form of letters of ASCII, whatever comes before and after them. -/
theorem lowerAfter_append_of_ascii {part : Text} (h : ∀ c ∈ part, c.toNat < 128)
    (before t : Text) : lowerAfter before (part ++ t) =
      part.map Char.toLower ++ lowerAfter (part.reverse ++ before) t := by
  induction part generalizing before with
  | nil => rfl
  | cons c part ih =>
    have hc := h c List.mem_cons_self
    rw [List.cons_append, lowerAfter, ih fun d hd => h d (List.mem_cons_of_mem c hd), lowerChar,
      if_pos hc, List.reverse_cons, List.append_assoc]
    rfl

theorem infix_lowerAfter_append {w : Text} (s : Text) {t : Text}
    (h : ∀ before, w <:+: lowerAfter before t) (before : Text) :
    w <:+: lowerAfter before (s ++ t) := by
  induction s generalizing before with
  | nil => exact h before
  | cons c s ih => exact (ih (c :: before)).trans (List.suffix_append _ _).isInfix

/-- A plain word is in the lower case form of a text exactly if the text holds it in letters of
either case. -/
theorem infix_lower_iff {w : Text} (hw : IsPlainWord w) (t : Text) :
    w <:+: lower t ↔ HoldsWord w t := by
  refine ⟨hw.holdsWord_of_infix, ?_⟩
  rintro ⟨part, ⟨s, u, rfl⟩, rfl⟩
  have hascii : ∀ c ∈ part, c.toNat < 128 := by
    intro c hc
    have hletter := (isPlainLetter_iff.mp (hw.letters _ (List.mem_map_of_mem hc))).1.2
    by_contra hbeyond
    rw [toLower_of_le (Nat.not_lt.mp hbeyond)] at hletter
    omega
  rw [lower, List.append_assoc]
  refine infix_lowerAfter_append s (fun before => ?_) []
  rw [lowerAfter_append_of_ascii hascii]
  exact (List.prefix_append _ _).isInfix

end PortableShell.Text
