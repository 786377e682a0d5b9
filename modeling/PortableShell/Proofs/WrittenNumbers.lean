import Mathlib.Data.List.TakeWhile
import PortableShell.Number.Double.Reader
import PortableShell.Proofs.Decimals

/-!
# Written numbers

A number is written as digits, with a point and more digits or not, and with a power of ten or not.
What the layout that keeps all digits writes has such parts, and they have the value of the digits.

## Main definitions

* `WrittenNumber`: the parts of a number, and that they are well formed.
* `WrittenNumber.StandsFor`: whether a fraction has the value of given digits.
* `Text.EndsNumber`: whether a text does not go on with what may belong to a number before it.

## Main statements

* `Double.value_digitValues_ofNat`, `Double.head?_ofNat_ne`: the digits of a whole number.
* `WrittenNumber.exists_write`: what the full layout writes.
* `WrittenNumber.exists_digitsText`: the same for the digits of a number with a power of ten.
* `Double.exists_text_eq_signed`: a canonical number is written with digits that are read as it.
-/

namespace PortableShell

open Text (isAsciiDigit)

/-! ### Digits -/

theorem Text.isAsciiDigit_of_mem_ofNat {n : ℕ} {c : Char} (h : c ∈ Text.ofNat n) :
    isAsciiDigit c = true :=
  Nat.isDigit_of_mem_toDigits (by norm_num) (le_refl _) h

theorem Text.ofNat_ne_nil (n : ℕ) : Text.ofNat n ≠ [] :=
  Nat.toDigits_ne_nil

namespace Double

open Numeral (value)

theorem digitValues_append (s t : Text) :
    digitValues (s ++ t) = digitValues s ++ digitValues t :=
  List.map_append

theorem length_digitValues (t : Text) : (digitValues t).length = t.length :=
  List.length_map _

theorem lt_ten_of_mem_digitValues {t : Text} (h : ∀ c ∈ t, isAsciiDigit c = true) :
    ∀ d ∈ digitValues t, d < 10 := by
  intro d hd
  obtain ⟨c, hc, rfl⟩ := List.mem_map.mp hd
  have hdigit := h c hc
  rw [isAsciiDigit, Bool.and_eq_true, decide_eq_true_eq, decide_eq_true_eq] at hdigit
  have hupper : c.toNat ≤ '9'.toNat := UInt32.le_iff_toNat_le.mp hdigit.2
  have hnine : '9'.toNat = 57 := rfl
  have hzero : '0'.toNat = 48 := rfl
  omega

/-- The digits of a whole number denote it. -/
theorem value_digitValues_ofNat (n : ℕ) : value (digitValues (Text.ofNat n)) = n := by
  rw [value, digitValues, List.foldl_map]
  exact Nat.ofDigitChars_toDigits (by norm_num) (le_refl _)

theorem digitValues_replicate_zero (n : ℕ) :
    digitValues (List.replicate n '0') = List.replicate n 0 :=
  List.map_replicate

theorem isDigit_of_mem_zeros {n : ℕ} {c : Char} (h : c ∈ List.replicate n '0') :
    isAsciiDigit c = true := by
  rw [List.eq_of_mem_replicate h]
  rfl

theorem value_append_zeros (t : Text) (n : ℕ) :
    value (digitValues (t ++ List.replicate n '0')) = value (digitValues t) * 10 ^ n := by
  rw [digitValues_append, digitValues_replicate_zero, Numeral.value_append,
    Numeral.value_replicate_zero, Nat.add_zero, List.length_replicate]

theorem value_zeros_append (t : Text) (n : ℕ) :
    value (digitValues (List.replicate n '0' ++ t)) = value (digitValues t) := by
  rw [digitValues_append, digitValues_replicate_zero, Numeral.value_append,
    Numeral.value_replicate_zero, Nat.zero_mul, Nat.zero_add]

/-- No zero stands in front of the digits of another number. -/
theorem head?_ofNat_ne {n : ℕ} (hn : n ≠ 0) : (Text.ofNat n).head? ≠ some '0' := by
  induction n using Nat.strong_induction_on with
  | _ n ih =>
    rw [Text.ofNat, Nat.toDigits_eq_if (by norm_num)]
    split
    · simpa using hn
    · next hge =>
      have hquot := ih (n / 10) (Nat.div_lt_self (by omega) (by norm_num)) (by omega)
      rwa [List.head?_append_of_ne_nil _ Nat.toDigits_ne_nil]

end Double

/-! ### Written numbers -/

/-- A number as it is written without its sign. -/
structure WrittenNumber where
  /-- The digits before the point, of which zero may come first only alone. -/
  whole : Text
  /-- The digits after the point, if there is one. -/
  part : Option Text
  /-- The power of ten, if one is written. -/
  power : Option Int
  whole_ne_nil : whole ≠ []
  isDigit_whole : ∀ c ∈ whole, isAsciiDigit c = true
  eq_of_head : whole.head? = some '0' → whole = ['0']
  part_ne_nil : part ≠ some []
  isDigit_part : ∀ ds ∈ part, ∀ c ∈ ds, isAsciiDigit c = true

namespace WrittenNumber

open Double (digitValues)
open Numeral (value)

/-- The text of a number. -/
def text (w : WrittenNumber) : Text :=
  w.whole ++ (w.part.elim [] ('.' :: ·) ++ w.power.elim [] Layout.power)

/-- The text of a number after its sign. -/
def signed (negative : Bool) (w : WrittenNumber) : Text :=
  (if negative then ['-'] else []) ++ w.text

/-- The text of a number starts with a digit. -/
theorem exists_cons_text (w : WrittenNumber) :
    ∃ c t, w.text = c :: t ∧ isAsciiDigit c = true := by
  cases hwhole : w.whole with
  | nil => exact absurd hwhole w.whole_ne_nil
  | cons c t =>
    refine ⟨c, t ++ (w.part.elim [] ('.' :: ·) ++ w.power.elim [] Layout.power), ?_,
      w.isDigit_whole c (by rw [hwhole]; exact List.mem_cons_self)⟩
    rw [text, hwhole, List.cons_append]

/-- The digits of a number before and after the point. -/
def digits (w : WrittenNumber) : Text :=
  w.whole ++ w.part.getD []

theorem isDigit_digits (w : WrittenNumber) : ∀ c ∈ w.digits, isAsciiDigit c = true := by
  intro c hc
  rcases List.mem_append.mp hc with h | h
  · exact w.isDigit_whole c h
  · cases hpart : w.part with
    | none =>
      rw [hpart] at h
      cases h
    | some ds =>
      rw [hpart] at h
      exact w.isDigit_part ds hpart c h

/-- The power of ten that the last digit counts. -/
def lastPower (w : WrittenNumber) : Int :=
  w.power.getD 0 - (w.part.getD []).length

/-- Whether a number is written as a fraction. -/
def isReal (w : WrittenNumber) : Bool :=
  w.part.isSome || w.power.isSome

/-- A whole number in decimal digits. -/
def ofNat (n : ℕ) : WrittenNumber where
  whole := Text.ofNat n
  part := none
  power := none
  whole_ne_nil := Text.ofNat_ne_nil n
  isDigit_whole _ := Text.isAsciiDigit_of_mem_ofNat
  eq_of_head hhead := by
    by_cases hn : n = 0
    · subst hn
      rfl
    · exact absurd hhead (Double.head?_ofNat_ne hn)
  part_ne_nil := nofun
  isDigit_part := nofun

/-! ### Digits set out in a layout -/

variable {digits : Text} {x : Int}

/-- Whether a fraction is written that has the value of given digits, the first of which counts
`10 ^ x`. -/
structure StandsFor (w : WrittenNumber) (digits : Text) (x : Int) : Prop where
  isReal : w.isReal = true
  value_eq : (value (digitValues w.digits) : ℚ) * 10 ^ w.lastPower =
    value (digitValues digits) * 10 ^ (x + 1 - digits.length)

theorem exists_pointed (whole part : Text) (k : ℕ) (hwhole : whole ≠ []) (hpart : part ≠ [])
    (hdigit : ∀ c ∈ whole ++ part, isAsciiDigit c = true)
    (hhead : whole.head? = some '0' → whole = ['0'])
    (hvalue : value (digitValues (whole ++ part)) = value (digitValues digits) * 10 ^ k)
    (hplaces : (k : Int) - part.length = x + 1 - digits.length) :
    ∃ w : WrittenNumber, w.StandsFor digits x ∧ w.text = whole ++ '.' :: part := by
  refine ⟨⟨whole, some part, none, hwhole, fun c hc => hdigit c (List.mem_append_left _ hc), hhead,
    by simpa using hpart, ?_⟩, ⟨rfl, ?_⟩, ?_⟩
  · intro ds hds c hc
    obtain rfl : part = ds := Option.some.inj hds
    exact hdigit c (List.mem_append_right _ hc)
  · simp only [WrittenNumber.digits, lastPower, Option.getD_some, Option.getD_none]
    rw [hvalue, ← hplaces, Nat.cast_mul, Nat.cast_pow, mul_assoc, ← zpow_natCast, Nat.cast_ofNat,
      ← zpow_add₀ (by norm_num)]
    congr 2
    ring
  · simp only [text, Option.elim_some, Option.elim_none, List.append_nil]

/-- One digit stands before the point, and a power of ten after the others. -/
theorem exists_scaled (hne : digits ≠ []) (hdigit : ∀ c ∈ digits, isAsciiDigit c = true) (x : Int) :
    ∃ w : WrittenNumber, w.StandsFor digits x ∧ w.text =
      digits.take 1 ++ (if digits.length ≤ 1 then [] else '.' :: digits.drop 1) ++
        Layout.power x := by
  cases digits with
  | nil => exact absurd rfl hne
  | cons d ds =>
    have hwhole : ∀ c ∈ [d], isAsciiDigit c = true := by
      simpa using hdigit d List.mem_cons_self
    have hzero : [d].head? = some '0' → [d] = ['0'] := by simp
    cases ds with
    | nil =>
      refine ⟨⟨[d], none, some x, List.cons_ne_nil _ _, hwhole, hzero, nofun, nofun⟩,
        ⟨rfl, ?_⟩, rfl⟩
      simp [WrittenNumber.digits, lastPower]
    | cons d' ds =>
      refine ⟨⟨[d], some (d' :: ds), some x, List.cons_ne_nil _ _, hwhole, hzero, nofun, ?_⟩,
        ⟨rfl, ?_⟩, ?_⟩
      · intro es hes c hc
        obtain rfl : d' :: ds = es := Option.some.inj hes
        exact hdigit c (List.mem_cons_of_mem d hc)
      · simp only [WrittenNumber.digits, lastPower, Option.getD_some, List.singleton_append,
          List.length_cons]
        congr 2
        push_cast
        ring
      · simp [text]

/-- Zeros stand after the point of a fraction below one. -/
theorem exists_below_one (hne : digits ≠ []) (hdigit : ∀ c ∈ digits, isAsciiDigit c = true)
    (hx : x < 0) :
    ∃ w : WrittenNumber, w.StandsFor digits x ∧
      w.text = ['0', '.'] ++ List.replicate (-x - 1).toNat '0' ++ digits := by
  have hzeros : ['0'] ++ (List.replicate (-x - 1).toNat '0' ++ digits) =
      List.replicate ((-x - 1).toNat + 1) '0' ++ digits := rfl
  refine exists_pointed ['0'] (List.replicate (-x - 1).toNat '0' ++ digits) 0
    (List.cons_ne_nil _ _) (List.append_ne_nil_of_right_ne_nil _ hne) ?_ (fun _ => rfl) ?_ ?_
  · rw [hzeros]
    exact List.forall_mem_append.mpr ⟨fun _ => Double.isDigit_of_mem_zeros, hdigit⟩
  · rw [hzeros, Double.value_zeros_append, pow_zero, Nat.mul_one]
  · rw [List.length_append, List.length_replicate]
    push_cast
    omega

/-- Zeros fill up a whole number. -/
theorem exists_whole (hne : digits ≠ []) (hdigit : ∀ c ∈ digits, isAsciiDigit c = true)
    (hhead : digits.head? = some '0' → digits = ['0'] ∧ x = 0) (hx : 0 ≤ x)
    (hfew : digits.length ≤ x.toNat + 1) :
    ∃ w : WrittenNumber, w.StandsFor digits x ∧
      w.text = digits ++ List.replicate (x.toNat + 1 - digits.length) '0' ++ ['.', '0'] := by
  have hzeros : digits ++ List.replicate (x.toNat + 1 - digits.length) '0' ++ ['0'] =
      digits ++ List.replicate (x.toNat + 1 - digits.length + 1) '0' := by
    rw [List.append_assoc, ← List.replicate_succ']
  refine exists_pointed (digits ++ List.replicate (x.toNat + 1 - digits.length) '0') ['0']
    (x.toNat + 1 - digits.length + 1) (List.append_ne_nil_of_left_ne_nil hne _)
    (List.cons_ne_nil _ _) ?_ ?_ ?_ ?_
  · rw [hzeros]
    exact List.forall_mem_append.mpr ⟨hdigit, fun _ => Double.isDigit_of_mem_zeros⟩
  · intro hzero
    rw [List.head?_append_of_ne_nil _ hne] at hzero
    obtain ⟨rfl, rfl⟩ := hhead hzero
    rfl
  · rw [hzeros, Double.value_append_zeros]
  · rw [List.length_singleton]
    omega

/-- The point stands among the digits. -/
theorem exists_among (hne : digits ≠ []) (hdigit : ∀ c ∈ digits, isAsciiDigit c = true)
    (hhead : digits.head? = some '0' → digits = ['0'] ∧ x = 0) (hx : 0 ≤ x)
    (hmany : ¬ digits.length ≤ x.toNat + 1) :
    ∃ w : WrittenNumber, w.StandsFor digits x ∧
      w.text = digits.take (x.toNat + 1) ++ ['.'] ++ digits.drop (x.toNat + 1) := by
  have hparts : digits.take (x.toNat + 1) ++ digits.drop (x.toNat + 1) = digits :=
    List.take_append_drop _ _
  simp only [List.append_assoc, List.singleton_append]
  refine exists_pointed (digits.take (x.toNat + 1)) (digits.drop (x.toNat + 1)) 0
    (by simpa using hne) (by simpa using hmany) (by rwa [hparts]) ?_
    (by rw [hparts, pow_zero, Nat.mul_one]) ?_
  · intro hzero
    rw [List.head?_take, if_neg (Nat.succ_ne_zero _)] at hzero
    obtain ⟨rfl, -⟩ := hhead hzero
    exact absurd (by simp) hmany
  · rw [List.length_drop]
    omega

/-- What the full layout writes is a fraction with the value of the digits. -/
theorem exists_write (digits : Text) (x : Int) (hne : digits ≠ [])
    (hdigit : ∀ c ∈ digits, isAsciiDigit c = true)
    (hhead : digits.head? = some '0' → digits = ['0'] ∧ x = 0) :
    ∃ w : WrittenNumber, w.StandsFor digits x ∧ w.text = Layout.full.write digits x := by
  rw [Layout.write]
  split
  · split
    · next hx => exact exists_below_one hne hdigit hx
    · next hx =>
      dsimp only
      split
      · next hfew => exact exists_whole hne hdigit hhead (Int.not_lt.mp hx) hfew
      · next hmany => exact exists_among hne hdigit hhead (Int.not_lt.mp hx) hmany
  · exact exists_scaled hne hdigit x

/-- Zeros at the end are dropped, and only they. -/
theorem exists_dropEndWhile_append (t : Text) :
    ∃ n, t = Text.dropEndWhile (· == '0') t ++ List.replicate n '0' := by
  have hzeros : t.reverse.takeWhile (· == '0') =
      List.replicate (t.reverse.takeWhile (· == '0')).length '0' :=
    List.eq_replicate_of_mem fun c hc => by simpa using List.mem_takeWhile_imp hc
  refine ⟨(t.reverse.takeWhile (· == '0')).length, ?_⟩
  rw [← List.reverse_replicate, ← hzeros, Text.dropEndWhile, ← List.reverse_append,
    List.takeWhile_append_dropWhile, List.reverse_reverse]

/-- The digits of a number with a power of ten, without the zeros at their end. -/
theorem exists_digitsText (k : ℕ) (p : Int) (hzero : k = 0 → p = 0) :
    ∃ w : WrittenNumber, w.isReal = true ∧ w.text = Double.digitsText .full k p ∧
      (value (digitValues w.digits) : ℚ) * 10 ^ w.lastPower = k * 10 ^ p := by
  by_cases hk : k = 0
  · subst hk
    obtain rfl := hzero rfl
    obtain ⟨w, hw, htext⟩ := exists_write ['0'] 0 (by simp) (by simp [isAsciiDigit])
      (fun _ => ⟨rfl, rfl⟩)
    refine ⟨w, hw.isReal, htext, ?_⟩
    rw [hw.value_eq]
    simp [digitValues, value]
  · obtain ⟨n, hn⟩ := exists_dropEndWhile_append (Text.ofNat k)
    have hhead := Double.head?_ofNat_ne hk
    have hvalue := Double.value_digitValues_ofNat k
    have hdigit : ∀ c ∈ Text.ofNat k, isAsciiDigit c = true := fun c =>
      Text.isAsciiDigit_of_mem_ofNat
    rw [Double.digitsText]
    generalize Text.ofNat k = ds at *
    generalize Text.dropEndWhile (· == '0') ds = significant at *
    subst hn
    rw [Double.value_append_zeros] at hvalue
    have hne : significant ≠ [] := by
      intro h
      subst h
      cases n with
      | zero => exact hk hvalue.symm
      | succ n => exact hhead rfl
    obtain ⟨w, hw, htext⟩ := exists_write significant
      (p + (significant ++ List.replicate n '0').length - 1) hne
      (fun c hc => hdigit c (List.mem_append_left _ hc))
      (fun h => absurd (by rwa [List.head?_append_of_ne_nil _ hne]) hhead)
    refine ⟨w, hw.isReal, ?_, ?_⟩
    · rw [htext]
      cases significant with
      | nil => exact absurd rfl hne
      | cons c t => rfl
    · have hplaces : p + (significant ++ List.replicate n '0').length - 1 + 1 - significant.length =
          n + p := by
        rw [List.length_append, List.length_replicate]
        push_cast
        ring
      rw [hw.value_eq, ← hvalue, hplaces, zpow_add₀ (by norm_num), zpow_natCast]
      push_cast
      ring

end WrittenNumber

open WrittenNumber (signed)

/-- A whole number is written as its sign and its digits. -/
theorem Text.ofInt_eq_signed (n : Int) :
    Text.ofInt n = signed (n < 0) (WrittenNumber.ofNat n.natAbs) := by
  cases n with
  | ofNat k =>
    have hpos : ¬ Int.ofNat k < 0 := by simp
    rw [decide_eq_false hpos]
    simp [signed, WrittenNumber.text, WrittenNumber.ofNat, Text.ofInt]
  | negSucc k =>
    rw [decide_eq_true (Int.negSucc_lt_zero k)]
    simp [signed, WrittenNumber.text, WrittenNumber.ofNat, Text.ofInt]

/-- A canonical number is written as a fraction whose digits are read as it. -/
theorem Double.exists_text_eq_signed {negative : Bool} {m : ℕ} {e : Int}
    (hcanonical : IsCanonical (.finite negative m e)) :
    ∃ w : WrittenNumber, w.isReal = true ∧ (finite negative m e).text = signed negative w ∧
      ofDigits negative (digitValues w.digits) w.lastPower = .finite negative m e := by
  obtain ⟨k, p, hfound, hzero, hread⟩ := exists_digits_eq hcanonical
  obtain ⟨w, hreal, htext, hvalue⟩ := WrittenNumber.exists_digitsText k p hzero
  refine ⟨w, hreal, ?_, hread _ _ (lt_ten_of_mem_digitValues w.isDigit_digits) hvalue⟩
  rw [text, textIn, hfound, signed, htext]

/-- Whether a text does not go on with what may belong to a number before it. -/
def Text.EndsNumber (t : Text) : Prop :=
  ∀ c ∈ t.head?, isAsciiDigit c = false ∧ c ≠ '.' ∧ c ≠ 'e' ∧ c ≠ 'E'

end PortableShell
