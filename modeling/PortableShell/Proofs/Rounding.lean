import Mathlib.Data.Int.Log
import Mathlib.Algebra.Order.Field.Power
import Mathlib.Data.Rat.Floor
import Mathlib.Tactic.FieldSimp
import Mathlib.Tactic.Linarith
import Mathlib.Tactic.NormNum
import Mathlib.Tactic.Positivity
import Mathlib.Tactic.Ring
import PortableShell.Number.Double

/-!
# Rounding to double precision

A quotient is counted in units of a power of two, rounded to a whole number of them, and carried
into the next unit where it became too large.  Both steps are described by the rational numbers that
they are about: which ones are rounded to a number, and which ones overflow.

## Main definitions

* `Double.IsNearest`: whether a quotient is rounded to a whole number.
* `Double.IsCanonical`: whether a number is written in the one form that rounding gives it.
* `Double.RoundsTo`: whether a quotient lies in the interval of those that are rounded to a number.

## Main statements

* `Double.isNearest_roundDiv`, `Double.log2Ratio_eq_log`: what the two steps compute.
* `Double.isCanonical_ofRatio`: rounding gives canonical numbers.
* `Double.ofRatio_eq_finite`: the quotients in the interval of a canonical number are rounded to it.
* `Double.ofRatio_eq_infinite_iff`, `Double.ofInt_eq_infinite_iff`: which quotients and which whole
  numbers are rounded to an infinity.
-/

namespace PortableShell.Double

/-! ### Powers of either sign -/

/-- A power whose exponent is cut off at zero, over the same power of the opposite exponent. -/
theorem pow_toNat_div (b : ℕ) (hb : b ≠ 0) (k : Int) :
    ((b ^ k.toNat : ℕ) : ℚ) / (b ^ (-k).toNat : ℕ) = (b : ℚ) ^ k := by
  have hne : (b : ℚ) ≠ 0 := Nat.cast_ne_zero.mpr hb
  rcases le_total 0 k with h | h
  · have hzero : (-k).toNat = 0 := Int.toNat_eq_zero.mpr (by omega)
    rw [hzero, pow_zero, Nat.cast_one, div_one, Nat.cast_pow, ← zpow_natCast, Int.toNat_of_nonneg h]
  · have hzero : k.toNat = 0 := Int.toNat_eq_zero.mpr h
    rw [hzero, pow_zero, Nat.cast_one, Nat.cast_pow, ← zpow_natCast,
      Int.toNat_of_nonneg (by omega), zpow_neg, one_div, inv_inv]

theorem twoTo_div_twoTo (k : Int) : (twoTo k : ℚ) / twoTo (-k) = 2 ^ k :=
  pow_toNat_div 2 two_ne_zero k

theorem tenTo_div_tenTo (k : Int) : (tenTo k : ℚ) / tenTo (-k) = 10 ^ k :=
  pow_toNat_div 10 (by norm_num) k

theorem twoTo_pos (k : Int) : 0 < twoTo k :=
  Nat.pow_pos two_pos

theorem tenTo_pos (k : Int) : 0 < tenTo k :=
  Nat.pow_pos (by norm_num)

/-! ### Nearest whole numbers -/

/-- Whether a quotient is rounded to a whole number: they are at most one half apart, and the
number is even if they are just that. -/
structure IsNearest (q : ℚ) (k : ℕ) : Prop where
  ge_sub : (k : ℚ) - 1 / 2 ≤ q
  le_add : q ≤ k + 1 / 2
  of_odd : k % 2 = 1 → (k : ℚ) - 1 / 2 < q ∧ q < k + 1 / 2

theorem IsNearest.le {q : ℚ} {j k : ℕ} (hj : IsNearest q j) (hk : IsNearest q k) : j ≤ k := by
  by_contra hlt
  have hle : (k : ℚ) + 1 ≤ j := by exact_mod_cast Nat.lt_of_not_le hlt
  have hupper := hk.le_add
  have hlower := hj.ge_sub
  -- the two are one apart with the quotient in the middle, but one of them is odd
  have hsucc : (j : ℚ) = k + 1 := by linarith
  have hj' : j = k + 1 := by exact_mod_cast hsucc
  rcases Nat.mod_two_eq_zero_or_one k with heven | hodd
  · have := (hj.of_odd (by omega)).1
    linarith
  · have := (hk.of_odd hodd).2
    linarith

theorem IsNearest.unique {q : ℚ} {j k : ℕ} (hj : IsNearest q j) (hk : IsNearest q k) : j = k :=
  le_antisymm (hj.le hk) (hk.le hj)

/-- Rounding a quotient finds the whole number that it is rounded to. -/
theorem isNearest_roundDiv (num : ℕ) {den : ℕ} (hden : 0 < den) :
    IsNearest (num / den) (roundDiv num den) := by
  have hpos : (0 : ℚ) < den := by exact_mod_cast hden
  have hsum : (num : ℚ) = den * (num / den : ℕ) + (num % den : ℕ) := by
    exact_mod_cast (Nat.div_add_mod num den).symm
  have hquot : (num : ℚ) / den = (num / den : ℕ) + (num % den : ℕ) / den := by
    rw [hsum]
    field_simp
  have hnonneg : (0 : ℚ) ≤ (num % den : ℕ) / den := by positivity
  have hlt : ((num % den : ℕ) : ℚ) / den < 1 := by
    rw [div_lt_one hpos]
    exact_mod_cast Nat.mod_lt num hden
  rw [hquot, roundDiv]
  generalize num / den = k
  have hsucc : ((k + 1 : ℕ) : ℚ) = k + 1 := Nat.cast_succ k
  by_cases hless : 2 * (num % den) < den
  · have hhalf : ((num % den : ℕ) : ℚ) / den < 1 / 2 := by
      rw [div_lt_iff₀ hpos]
      have : (2 * (num % den : ℕ) : ℚ) < den := by exact_mod_cast hless
      linarith
    rw [if_pos hless]
    constructor
    · linarith
    · linarith
    · intro _
      constructor <;> linarith
  · rw [if_neg hless]
    by_cases hmore : den < 2 * (num % den)
    · have hhalf : 1 / 2 < ((num % den : ℕ) : ℚ) / den := by
        rw [lt_div_iff₀ hpos]
        have : (den : ℚ) < 2 * (num % den : ℕ) := by exact_mod_cast hmore
        linarith
      rw [if_pos hmore]
      constructor
      · linarith
      · linarith
      · intro _
        constructor <;> linarith
    · have hhalf : ((num % den : ℕ) : ℚ) / den = 1 / 2 := by
        rw [div_eq_iff hpos.ne']
        have hdouble : 2 * (num % den) = den := by omega
        have : (2 * (num % den : ℕ) : ℚ) = den := by exact_mod_cast hdouble
        linarith
      rw [if_neg hmore, hhalf]
      -- the even one of the two neighbours
      rcases Nat.mod_two_eq_zero_or_one k with heven | hodd
      · rw [heven, add_zero]
        exact ⟨by linarith, by linarith, fun h => by omega⟩
      · rw [hodd]
        exact ⟨by linarith, by linarith, fun h => by omega⟩

/-! ### The exponent of a quotient -/

variable {num den : ℕ}

/-- The greatest power of two below a quotient is the whole part of its logarithm. -/
theorem log2Ratio_eq_log (hnum : 0 < num) (hden : 0 < den) :
    log2Ratio num den = Int.log 2 (num / den : ℚ) := by
  have hpos : (0 : ℚ) < den := by exact_mod_cast hden
  have hquot : (0 : ℚ) < num / den := by positivity
  have hle (k : Int) : (2 : ℚ) ^ k ≤ num / den ↔ k ≤ Int.log 2 (num / den : ℚ) :=
    Int.zpow_le_iff_le_log one_lt_two hquot
  have htest (k : Int) : den * twoTo k ≤ num * twoTo (-k) ↔ k ≤ Int.log 2 (num / den : ℚ) := by
    have htwo : (0 : ℚ) < twoTo (-k) := by exact_mod_cast twoTo_pos (-k)
    rw [← hle, ← twoTo_div_twoTo, div_le_div_iff₀ htwo hpos, mul_comm den, ← Nat.cast_le (α := ℚ)]
    push_cast
    rfl
  have hnum_ge : (2 : ℚ) ^ num.log2 ≤ num := by exact_mod_cast Nat.log2_self_le hnum.ne'
  have hnum_lt : (num : ℚ) < 2 ^ (num.log2 + 1) := by exact_mod_cast Nat.lt_log2_self (n := num)
  have hden_ge : (2 : ℚ) ^ den.log2 ≤ den := by exact_mod_cast Nat.log2_self_le hden.ne'
  have hden_lt : (den : ℚ) < 2 ^ (den.log2 + 1) := by exact_mod_cast Nat.lt_log2_self (n := den)
  have hlow : (num.log2 : Int) - den.log2 - 1 ≤ Int.log 2 (num / den : ℚ) := by
    rw [← hle, le_div_iff₀ hpos]
    calc (2 : ℚ) ^ ((num.log2 : Int) - den.log2 - 1) * den
        ≤ 2 ^ ((num.log2 : Int) - den.log2 - 1) * 2 ^ (den.log2 + 1) := by gcongr
      _ = 2 ^ num.log2 := by
        rw [← zpow_natCast, ← zpow_natCast, ← zpow_add₀ two_ne_zero]
        congr 1
        push_cast
        ring
      _ ≤ num := hnum_ge
  have hhigh : ¬ (num.log2 : Int) - den.log2 + 1 ≤ Int.log 2 (num / den : ℚ) := by
    rw [← hle, not_le, div_lt_iff₀ hpos]
    calc (num : ℚ) < 2 ^ (num.log2 + 1) := hnum_lt
      _ = 2 ^ ((num.log2 : Int) - den.log2 + 1) * 2 ^ den.log2 := by
        rw [← zpow_natCast, ← zpow_natCast, ← zpow_add₀ two_ne_zero]
        congr 1
        push_cast
        ring
      _ ≤ 2 ^ ((num.log2 : Int) - den.log2 + 1) * den := by gcongr
  rw [log2Ratio]
  by_cases hk : (num.log2 : Int) - den.log2 ≤ Int.log 2 (num / den : ℚ)
  · rw [if_pos ((htest _).mpr hk)]
    omega
  · rw [if_neg (mt (htest _).mp hk)]
    omega

/-! ### Rounding in two steps -/

/-- The exponent of the unit in which a quotient is counted before it is rounded. -/
def unitExponent (q : ℚ) : Int :=
  max (Int.log 2 q - 52) minExponent

/-- A rounded significand with its exponent.  If it has become too large it is a power of two. -/
def carried (negative : Bool) (m : ℕ) (e : Int) : Double :=
  let (m, e) := if m = twoTo precision then (twoTo (precision - 1), e + 1) else (m, e)
  if maxExponent < e then .infinite negative else .finite negative m e

theorem ofRatio_eq_carried (hnum : 0 < num) (hden : 0 < den) (negative : Bool) :
    ofRatio negative num den =
      carried negative (roundDiv (num * twoTo (-unitExponent (num / den)))
        (den * twoTo (unitExponent (num / den)))) (unitExponent (num / den)) := by
  rw [ofRatio, if_neg hnum.ne', log2Ratio_eq_log hnum hden]
  rfl

theorem isNearest_scaled (num : ℕ) (hden : 0 < den) (e : Int) :
    IsNearest (num / den / 2 ^ e) (roundDiv (num * twoTo (-e)) (den * twoTo e)) := by
  have hnearest := isNearest_roundDiv (num * twoTo (-e)) (Nat.mul_pos hden (twoTo_pos e))
  have hquot : ((num * twoTo (-e) : ℕ) : ℚ) / (den * twoTo e : ℕ) = num / den / 2 ^ e := by
    have hneg : (twoTo (-e) : ℚ) ≠ 0 := by exact_mod_cast (twoTo_pos (-e)).ne'
    rw [← twoTo_div_twoTo]
    push_cast
    field_simp
  rwa [hquot] at hnearest

theorem twoTo_precision : twoTo precision = 2 ^ 53 := rfl

theorem twoTo_precision_sub_one : twoTo (precision - 1) = 2 ^ 52 := rfl

theorem carried_of_lt {m : ℕ} {e : Int} (hm : m < 2 ^ 53) (negative : Bool) :
    carried negative m e =
      if maxExponent < e then .infinite negative else .finite negative m e := by
  have hne : m ≠ twoTo precision := by
    rw [twoTo_precision]
    exact hm.ne
  simp only [carried, if_neg hne]

theorem carried_two_pow (negative : Bool) (e : Int) :
    carried negative (2 ^ 53) e =
      if maxExponent < e + 1 then .infinite negative else .finite negative (2 ^ 52) (e + 1) := by
  simp only [carried, twoTo_precision, twoTo_precision_sub_one, if_true]

/-! ### The exponent of the unit -/

section Unit

variable {q : ℚ} {e : Int}

theorem two_pow_mul_zpow (n : ℕ) (e : Int) : (2 : ℚ) ^ n * 2 ^ e = 2 ^ (n + e) := by
  rw [zpow_add₀ two_ne_zero, zpow_natCast]

theorem minExponent_le_unitExponent (q : ℚ) : minExponent ≤ unitExponent q :=
  le_max_right _ _

/-- A quotient is less than `2 ^ 53` units. -/
theorem lt_unit (hq : 0 < q) : q < 2 ^ 53 * 2 ^ unitExponent q := by
  rw [two_pow_mul_zpow, Nat.cast_ofNat]
  have hlog : Int.log 2 q < 53 + unitExponent q := by
    have := le_max_left (Int.log 2 q - 52) minExponent
    rw [← unitExponent] at this
    omega
  exact (Int.lt_zpow_iff_log_lt one_lt_two hq).mpr hlog

/-- If the unit is not the least one, a quotient is at least `2 ^ 52` units. -/
theorem unit_le (hq : 0 < q) (h : minExponent < unitExponent q) :
    2 ^ 52 * 2 ^ unitExponent q ≤ q := by
  rw [two_pow_mul_zpow, Nat.cast_ofNat]
  have hlog : 52 + unitExponent q ≤ Int.log 2 q := by
    rw [unitExponent] at h ⊢
    omega
  exact (Int.zpow_le_iff_le_log one_lt_two hq).mpr hlog

/-- These bounds tell the exponent of the unit. -/
theorem unitExponent_eq (hq : 0 < q) (hmin : minExponent ≤ e) (hlt : q < 2 ^ 53 * 2 ^ e)
    (hge : minExponent < e → 2 ^ 52 * 2 ^ e ≤ q) : unitExponent q = e := by
  rw [two_pow_mul_zpow, Nat.cast_ofNat] at hlt hge
  have hupper : Int.log 2 q < 53 + e := (Int.lt_zpow_iff_log_lt one_lt_two hq).mp hlt
  rw [unitExponent]
  rcases hmin.eq_or_lt with heq | hlt
  · omega
  · have hlower : 52 + e ≤ Int.log 2 q := (Int.zpow_le_iff_le_log one_lt_two hq).mp (hge hlt)
    omega

end Unit

/-! ### Canonical numbers -/

/-- Whether a number is written in the one form that rounding gives it: the significand is below
`2 ^ 53`, and the exponent is as small as that allows. -/
def IsCanonical : Double → Prop
  | .finite _ m e => m < 2 ^ 53 ∧ minExponent ≤ e ∧ e ≤ maxExponent ∧ (minExponent < e → 2 ^ 52 ≤ m)
  | _ => True

/-- Rounding gives canonical numbers. -/
theorem isCanonical_ofRatio (hden : 0 < den) (negative : Bool) :
    (ofRatio negative num den).IsCanonical := by
  rcases Nat.eq_zero_or_pos num with rfl | hnum
  · rw [ofRatio, if_pos rfl]
    exact ⟨by norm_num, le_refl _, by decide, fun h => absurd h (lt_irrefl _)⟩
  have hq : (0 : ℚ) < num / den := by positivity
  rw [ofRatio_eq_carried hnum hden]
  have hmin := minExponent_le_unitExponent (num / den : ℚ)
  have hlt := lt_unit hq
  have hge := unit_le hq
  have hnearest := isNearest_scaled num hden (unitExponent (num / den))
  generalize unitExponent (num / den : ℚ) = e at *
  generalize roundDiv _ _ = m at *
  have hpow : (0 : ℚ) < 2 ^ e := by positivity
  have hscaled : (num / den / 2 ^ e : ℚ) < 2 ^ 53 := (div_lt_iff₀ hpow).mpr hlt
  have hupper : m ≤ 2 ^ 53 := by
    have hlower := hnearest.ge_sub
    have : (m : ℚ) < 2 ^ 53 + 1 := by linarith
    exact Nat.lt_succ_iff.mp (by exact_mod_cast this)
  rcases hupper.eq_or_lt with rfl | hm
  · rw [carried_two_pow]
    split
    · trivial
    · exact ⟨by norm_num, by omega, by omega, fun _ => le_refl _⟩
  · rw [carried_of_lt hm]
    split
    · trivial
    · refine ⟨hm, hmin, by omega, fun hlt => ?_⟩
      have hscaled : (2 ^ 52 : ℚ) ≤ num / den / 2 ^ e := (le_div_iff₀ hpow).mpr (hge hlt)
      have hupper := hnearest.le_add
      have : (2 ^ 52 : ℚ) < m + 1 := by linarith
      exact Nat.lt_succ_iff.mp (by exact_mod_cast this)

/-! ### Rounding intervals -/

/-- How far below a number, in its unit, quotients are still rounded to it: half a unit, and half as
much at a power of two, below which the unit is half as large. -/
def gapBelow (m : ℕ) (e : Int) : ℚ :=
  if m = 2 ^ 52 ∧ minExponent < e then 1 / 4 else 1 / 2

/-- Whether a quotient lies in the interval that is rounded to `m * 2 ^ e`.  The ends of the
interval belong to it if `m` is even. -/
structure RoundsTo (q : ℚ) (m : ℕ) (e : Int) : Prop where
  ge_sub : (m - gapBelow m e) * 2 ^ e ≤ q
  le_add : q ≤ (m + 1 / 2) * 2 ^ e
  of_odd : m % 2 = 1 → (m - gapBelow m e) * 2 ^ e < q ∧ q < (m + 1 / 2) * 2 ^ e

theorem gapBelow_le (m : ℕ) (e : Int) : gapBelow m e ≤ 1 / 2 := by
  rw [gapBelow]
  split <;> norm_num

namespace RoundsTo

variable {q : ℚ} {m : ℕ} {e : Int}

theorem pos (hm : 0 < m) (h : RoundsTo q m e) : 0 < q := by
  have hgap := gapBelow_le m e
  have hm' : (1 : ℚ) ≤ m := by exact_mod_cast hm
  have hpow : (0 : ℚ) < 2 ^ e := by positivity
  have : 0 < (m - gapBelow m e) * 2 ^ e := mul_pos (by linarith) hpow
  exact this.trans_le h.ge_sub

theorem isNearest (h : RoundsTo q m e) : IsNearest (q / 2 ^ e) m := by
  have hpow : (0 : ℚ) < 2 ^ e := by positivity
  have hgap := gapBelow_le m e
  have hge := (le_div_iff₀ hpow).mpr h.ge_sub
  refine ⟨by linarith, (div_le_iff₀ hpow).mpr h.le_add, fun hodd => ?_⟩
  obtain ⟨hgt, hlt⟩ := h.of_odd hodd
  have hgt' := (lt_div_iff₀ hpow).mpr hgt
  exact ⟨by linarith, (div_lt_iff₀ hpow).mpr hlt⟩

/-- What lies below `2 ^ 52` units is rounded to no greater number of them. -/
theorem eq_two_pow (hm : 2 ^ 52 ≤ m) (h : RoundsTo q m e) (hbelow : q < 2 ^ 52 * 2 ^ e) :
    m = 2 ^ 52 := by
  by_contra hne
  have hpow : (0 : ℚ) < 2 ^ e := by positivity
  have hm' : (2 ^ 52 : ℚ) + 1 ≤ m := by exact_mod_cast Nat.lt_of_le_of_ne hm (Ne.symm hne)
  have hgap := gapBelow_le m e
  have hlow : (2 ^ 52 : ℚ) ≤ m - gapBelow m e := by linarith
  have hfar := mul_le_mul_of_nonneg_right hlow hpow.le
  linarith [h.ge_sub]

/-- Just below a power of two, quotients are counted in half the unit. -/
theorem isNearest_half (h : RoundsTo q (2 ^ 52) e) (he : minExponent < e)
    (hbelow : q < 2 ^ 52 * 2 ^ e) :
    2 ^ 52 * 2 ^ (e - 1) ≤ q ∧ q < 2 ^ 53 * 2 ^ (e - 1) ∧
      IsNearest (q / 2 ^ (e - 1)) (2 ^ 53) := by
  have hdouble : (2 : ℚ) ^ e = 2 * 2 ^ (e - 1) := by
    rw [zpow_sub_one₀ two_ne_zero]
    ring
  have hpow : (0 : ℚ) < 2 ^ (e - 1) := by positivity
  have hlower := h.ge_sub
  rw [gapBelow, if_pos ⟨rfl, he⟩, hdouble] at hlower
  rw [hdouble] at hbelow
  push_cast at hlower
  refine ⟨by linarith, by linarith, ?_, ?_, fun hodd => by norm_num at hodd⟩
  · rw [le_div_iff₀ hpow]
    push_cast
    linarith
  · rw [div_le_iff₀ hpow]
    push_cast
    linarith

end RoundsTo

/-- The numbers in the interval are rounded to it. -/
theorem ofRatio_eq_finite {m : ℕ} {e : Int} {negative : Bool} (hden : 0 < den) (hm : 0 < m)
    (hcanonical : IsCanonical (.finite negative m e)) (h : RoundsTo (num / den) m e) :
    ofRatio negative num den = .finite negative m e := by
  obtain ⟨hlt, hmin, hmax, hge⟩ := hcanonical
  have hq := h.pos hm
  have hnum : 0 < num := by
    rcases Nat.eq_zero_or_pos num with rfl | hnum
    · simp at hq
    · exact hnum
  have hpow : (0 : ℚ) < 2 ^ e := by positivity
  have hupper : (num / den : ℚ) < 2 ^ 53 * 2 ^ e := by
    have hm' : (m : ℚ) + 1 ≤ 2 ^ 53 := by exact_mod_cast hlt
    exact h.le_add.trans_lt (mul_lt_mul_of_pos_right (by linarith) hpow)
  rw [ofRatio_eq_carried hnum hden]
  by_cases hnormal : minExponent < e → 2 ^ 52 * 2 ^ e ≤ (num / den : ℚ)
  · -- the quotient is counted in the unit of the number
    have hunit := unitExponent_eq hq hmin hupper hnormal
    have hround := (isNearest_scaled num hden e).unique h.isNearest
    rw [hunit, hround, carried_of_lt hlt, if_neg (not_lt.mpr hmax)]
  · -- it lies below a power of two, and is counted in half the unit
    push Not at hnormal
    obtain ⟨he, hbelow⟩ := hnormal
    obtain rfl := h.eq_two_pow (hge he) hbelow
    obtain ⟨hlower, hupper, hnearest⟩ := h.isNearest_half he hbelow
    have hunit := unitExponent_eq hq (by omega) hupper fun _ => hlower
    have hround := (isNearest_scaled num hden (e - 1)).unique hnearest
    rw [hunit, hround, carried_two_pow, sub_add_cancel, if_neg (not_lt.mpr hmax)]

/-! ### Overflow -/

theorem carried_of_gt {e : Int} (he : maxExponent < e) (negative : Bool) (m : ℕ) :
    carried negative m e = .infinite negative := by
  by_cases hm : m = twoTo precision
  · simp only [carried, if_pos hm]
    rw [if_pos (by omega)]
  · simp only [carried, if_neg hm, if_pos he]

/-- A quotient is rounded to an infinity exactly from half a unit above the greatest finite number
on. -/
theorem ofRatio_eq_infinite_iff (hden : 0 < den) {negative : Bool} :
    ofRatio negative num den = .infinite negative ↔
      (2 ^ 53 - 1 / 2) * 2 ^ maxExponent ≤ (num / den : ℚ) := by
  have hpow : (0 : ℚ) < 2 ^ maxExponent := by positivity
  rcases Nat.eq_zero_or_pos num with rfl | hnum
  · have hneg : ¬ (2 ^ 53 - 1 / 2) * 2 ^ maxExponent ≤ ((0 : ℕ) / den : ℚ) := by
      rw [Nat.cast_zero, zero_div, not_le]
      exact mul_pos (by norm_num) hpow
    rw [ofRatio, if_pos rfl, zero]
    exact iff_of_false (fun h => nomatch h) hneg
  have hq : (0 : ℚ) < num / den := by positivity
  rw [ofRatio_eq_carried hnum hden]
  constructor
  · intro h
    have hnearest := isNearest_scaled num hden (unitExponent (num / den))
    have hlt := lt_unit hq
    have hge := unit_le hq
    generalize unitExponent (num / den : ℚ) = e at *
    generalize roundDiv _ _ = m at *
    have hpow' : (0 : ℚ) < 2 ^ e := by positivity
    by_cases he : maxExponent < e
    · have hmono : (2 : ℚ) ^ (maxExponent + 1) ≤ 2 ^ e := zpow_le_zpow_right₀ one_le_two he
      rw [zpow_add_one₀ two_ne_zero] at hmono
      have hbelow := hge (lt_trans (by decide) he)
      linarith
    · have hm : m = 2 ^ 53 := by
        by_contra hne
        rw [carried, twoTo_precision] at h
        simp only [if_neg hne, if_neg he] at h
        cases h
      subst hm
      rw [carried_two_pow] at h
      have he' : e = maxExponent := by
        by_contra hne
        rw [if_neg (by omega)] at h
        cases h
      subst he'
      have hlower := (le_div_iff₀ hpow).mp hnearest.ge_sub
      push_cast at hlower
      exact hlower
  · intro h
    by_cases hlt : (num / den : ℚ) < 2 ^ 53 * 2 ^ maxExponent
    · have hunit : unitExponent (num / den) = maxExponent :=
        unitExponent_eq hq (by decide) hlt fun _ => by linarith
      have hround : IsNearest (num / den / 2 ^ maxExponent) (2 ^ 53) := by
        refine ⟨?_, ?_, fun hodd => by norm_num at hodd⟩
        · rw [le_div_iff₀ hpow]
          push_cast
          linarith
        · rw [div_le_iff₀ hpow]
          push_cast
          linarith
      rw [hunit, (isNearest_scaled num hden maxExponent).unique hround, carried_two_pow]
      rfl
    · have hunit : maxExponent < unitExponent (num / den) := by
        by_contra hle
        have hmono : (2 : ℚ) ^ unitExponent (num / den) ≤ 2 ^ maxExponent :=
          zpow_le_zpow_right₀ one_le_two (not_lt.mp hle)
        linarith [lt_unit hq]
      exact carried_of_gt hunit negative _

/-- A number has the sign of the quotient that is rounded to it. -/
theorem eq_of_ofRatio_eq_infinite {negative b : Bool} {num den : ℕ}
    (h : ofRatio negative num den = .infinite b) : b = negative := by
  rw [ofRatio] at h
  split at h
  · cases h
  · dsimp only at h
    split at h
    all_goals
      split at h
      · exact (infinite.inj h).symm
      · cases h

/-- The whole numbers beyond double precision. -/
theorem ofInt_eq_infinite_iff {n : Int} {b : Bool} :
    ofInt n = .infinite b ↔ b = decide (n < 0) ∧ (2 ^ 54 - 1) * 2 ^ 970 ≤ n.natAbs := by
  have hthreshold : (2 ^ 53 - 1 / 2) * 2 ^ maxExponent ≤ (n.natAbs / (1 : ℕ) : ℚ) ↔
      (2 ^ 54 - 1) * 2 ^ 970 ≤ n.natAbs := by
    have hpow : (2 : ℚ) ^ maxExponent = 2 * (2 ^ 970 : ℕ) := by
      rw [Nat.cast_pow, Nat.cast_ofNat, ← pow_succ']
      rfl
    rw [hpow]
    generalize 2 ^ 970 = k
    have hscale : (2 ^ 53 - 1 / 2 : ℚ) * (2 * k) = ((2 ^ 54 - 1) * k : ℕ) := by
      norm_num
      ring
    rw [hscale, Nat.cast_one, div_one, Nat.cast_le]
  rw [← hthreshold, ← ofRatio_eq_infinite_iff one_pos]
  constructor
  · intro h
    obtain rfl := eq_of_ofRatio_eq_infinite h
    exact ⟨rfl, h⟩
  · rintro ⟨rfl, h⟩
    exact h

end PortableShell.Double
