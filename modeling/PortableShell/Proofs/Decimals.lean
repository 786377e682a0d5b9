import PortableShell.Number.Double.Reader
import PortableShell.Number.Double.Shortest
import PortableShell.Proofs.Rounding

/-!
# Decimal numbers of double precision

Digits are read as the nearest number of double precision.  A number is written with the digits of
a point of a decimal grid that lies in the interval of the numbers rounded to it, so that they are
read as the number again.

## Main statements

* `Numeral.value_append`, `Numeral.value_lt`, `Numeral.le_value_cons`: the number that digits
  denote.
* `Double.isCanonical_of_read?`: what is read is canonical.
* `Double.ofDigits_eq_finite`: the digits of a number in the interval of a canonical one are read as
  that one.
* `Double.isInside_iff`: what it means that a point of a grid is inside.
* `Double.exists_shortest_eq`, `Double.exists_digits_eq`: every canonical number has digits that are
  read as it.
-/

namespace PortableShell

namespace Numeral

variable {ds : List Nat}

/-! ### What digits denote -/

theorem foldl_eq (n : Nat) (ds : List Nat) :
    ds.foldl (10 * · + ·) n = n * 10 ^ ds.length + value ds := by
  induction ds generalizing n with
  | nil => simp [value]
  | cons d ds ih =>
    rw [value, List.foldl_cons, List.foldl_cons, ih, ih (10 * 0 + d), List.length_cons, pow_succ]
    ring

theorem value_cons (d : Nat) (ds : List Nat) :
    value (d :: ds) = d * 10 ^ ds.length + value ds := by
  rw [value, List.foldl_cons, foldl_eq]
  simp

theorem value_append (ds es : List Nat) :
    value (ds ++ es) = value ds * 10 ^ es.length + value es := by
  rw [value, List.foldl_append, foldl_eq]
  rfl

theorem value_replicate_zero (n : Nat) : value (List.replicate n 0) = 0 := by
  induction n with
  | zero => rfl
  | succ n ih => rw [List.replicate_succ, value_cons, ih, Nat.zero_mul]

/-- Zeros in front of other digits do not count. -/
theorem value_dropWhile_zero (ds : List Nat) : value (ds.dropWhile (· == 0)) = value ds := by
  induction ds with
  | nil => rfl
  | cons d ds ih =>
    by_cases hd : d = 0
    · subst hd
      rw [List.dropWhile_cons_of_pos rfl, ih, value_cons, Nat.zero_mul, Nat.zero_add]
    · rw [List.dropWhile_cons_of_neg (by simpa using hd)]

theorem value_lt (h : ∀ d ∈ ds, d < 10) : value ds < 10 ^ ds.length := by
  induction ds with
  | nil => exact Nat.one_pos
  | cons d ds ih =>
    have hd : d + 1 ≤ 10 := h d List.mem_cons_self
    have hds := ih fun c hc => h c (List.mem_cons_of_mem d hc)
    calc value (d :: ds) = d * 10 ^ ds.length + value ds := value_cons d ds
      _ < (d + 1) * 10 ^ ds.length := by rw [Nat.succ_mul]; omega
      _ ≤ 10 * 10 ^ ds.length := Nat.mul_le_mul_right _ hd
      _ = 10 ^ (d :: ds).length := by rw [List.length_cons, pow_succ, Nat.mul_comm]

theorem le_value_cons {d : Nat} (hd : d ≠ 0) (ds : List Nat) :
    10 ^ ds.length ≤ value (d :: ds) := by
  rw [value_cons]
  have : 1 * 10 ^ ds.length ≤ d * 10 ^ ds.length :=
    Nat.mul_le_mul_right _ (Nat.pos_of_ne_zero hd)
  omega

end Numeral

namespace Double

open Numeral (value)

/-! ### Reading digits -/

variable {ds : List Nat} {y : Int} {negative : Bool} {m : ℕ} {e : Int}

theorem isCanonical_zero (negative : Bool) : (zero negative).IsCanonical :=
  ⟨by norm_num, le_refl _, by decide, fun h => absurd h (lt_irrefl _)⟩

/-- Digits are read as canonical numbers, also where their size alone decides. -/
theorem isCanonical_ofDigits (negative : Bool) (ds : List Nat) (y : Int) :
    (ofDigits negative ds y).IsCanonical := by
  rw [ofDigits]
  split
  · exact isCanonical_zero negative
  split
  · trivial
  split
  · exact isCanonical_zero negative
  · exact isCanonical_ofRatio (tenTo_pos _) negative

theorem isCanonical_ofInt (n : Int) : (ofInt n).IsCanonical :=
  isCanonical_ofRatio one_pos _

theorem isCanonical_of_ofPlain? {negative : Bool} {t : Text} {x : Double}
    (h : ofPlain? negative t = some x) : x.IsCanonical := by
  have hparts (parts : Text × Text)
      (h : (if (t.takeWhile Text.isAsciiDigit).isEmpty && parts.1.isEmpty then none
        else (power? parts.2).map (ofParts negative (t.takeWhile Text.isAsciiDigit) parts.1)) =
          some x) : x.IsCanonical := by
    split at h
    · cases h
    · obtain ⟨power, -, rfl⟩ := Option.map_eq_some_iff.mp h
      exact isCanonical_ofDigits _ _ _
  exact hparts _ h

/-- A text that denotes a number denotes a canonical one. -/
theorem isCanonical_of_read? {t : Text} {x : Double} (h : read? t = some x) :
    x.IsCanonical := by
  obtain ⟨plain, -, h⟩ := Option.bind_eq_some_iff.mp h
  dsimp only at h
  split at h
  · cases h
    trivial
  · split at h
    · cases h
      trivial
    · exact isCanonical_of_ofPlain? h

theorem ne_zero_of_dropWhile {d : ℕ} {es : List ℕ} (h : ds.dropWhile (· == 0) = d :: es) :
    d ≠ 0 := by
  have hhead := List.head?_dropWhile_not (· == 0) ds
  rw [h] at hhead
  simpa using hhead

/-- Digits without a value are zero. -/
theorem ofDigits_of_value_eq_zero (h : value ds = 0) : ofDigits negative ds y = zero negative := by
  rw [← Numeral.value_dropWhile_zero] at h
  rw [ofDigits]
  cases hdrop : ds.dropWhile (· == 0) with
  | nil => rfl
  | cons d es =>
    have hd := ne_zero_of_dropWhile hdrop
    have hle := Numeral.le_value_cons hd es
    have hpos : 0 < 10 ^ es.length := Nat.pow_pos (by norm_num)
    rw [hdrop] at h
    omega

/-- The greatest finite number is less than `10 ^ 310`. -/
theorem RoundsTo.lt_tenTo {q : ℚ} (hcanonical : IsCanonical (.finite negative m e))
    (h : RoundsTo q m e) : q < 10 ^ (310 : Int) := by
  obtain ⟨hlt, -, hmax, -⟩ := hcanonical
  have hm : (m : ℚ) + 1 ≤ 2 ^ 53 := by exact_mod_cast hlt
  have hpow : (0 : ℚ) < 2 ^ e := by positivity
  calc q ≤ (m + 1 / 2) * 2 ^ e := h.le_add
    _ < 2 ^ 53 * 2 ^ e := mul_lt_mul_of_pos_right (by linarith) hpow
    _ = 2 ^ (53 + e) := two_pow_mul_zpow 53 e
    _ ≤ 2 ^ (1024 : Int) := zpow_le_zpow_right₀ one_le_two (by rw [maxExponent] at hmax; omega)
    _ ≤ 10 ^ (310 : Int) := by
      have hpowers : 2 ^ 1024 ≤ 10 ^ 310 := by decide +kernel
      exact_mod_cast hpowers

/-- Half the least positive number is greater than `10 ^ (-324)`. -/
theorem tenTo_le_twoTo : (10 : ℚ) ^ (-324 : Int) ≤ 1 / 2 * 2 ^ minExponent := by
  have hpowers : 2 ^ 1075 ≤ 10 ^ 324 := by decide +kernel
  have hcast : (2 : ℚ) ^ (1075 : Int) ≤ 10 ^ (324 : Int) := by exact_mod_cast hpowers
  calc (10 : ℚ) ^ (-324 : Int) = (10 ^ (324 : Int))⁻¹ := zpow_neg 10 324
    _ ≤ (2 ^ (1075 : Int))⁻¹ := inv_anti₀ (by positivity) hcast
    _ = 2 ^ (-1 + -1074 : Int) := (zpow_neg 2 1075).symm
    _ = 1 / 2 * 2 ^ minExponent := by
      rw [zpow_add₀ two_ne_zero, zpow_neg_one, one_div]
      rfl

theorem RoundsTo.tenTo_le {q : ℚ} (hm : 0 < m) (hcanonical : IsCanonical (.finite negative m e))
    (h : RoundsTo q m e) : 10 ^ (-324 : Int) ≤ q := by
  obtain ⟨-, hmin, -⟩ := hcanonical
  have hgap := gapBelow_le m e
  have hm' : (1 : ℚ) ≤ m := by exact_mod_cast hm
  calc (10 : ℚ) ^ (-324 : Int) ≤ 1 / 2 * 2 ^ minExponent := tenTo_le_twoTo
    _ ≤ 1 / 2 * 2 ^ e := by gcongr; exact one_le_two
    _ ≤ (m - gapBelow m e) * 2 ^ e := by gcongr; linarith
    _ ≤ q := h.ge_sub

/-- The digits of a number in the interval of a canonical one are read as that one. -/
theorem ofDigits_eq_finite (hds : ∀ d ∈ ds, d < 10) (hm : 0 < m)
    (hcanonical : IsCanonical (.finite negative m e)) (h : RoundsTo (value ds * 10 ^ y) m e) :
    ofDigits negative ds y = .finite negative m e := by
  have hpos := h.pos hm
  have hupper := h.lt_tenTo hcanonical
  have hlower := h.tenTo_le hm hcanonical
  rw [← Numeral.value_dropWhile_zero] at h hpos hupper hlower
  rw [ofDigits]
  cases hdrop : ds.dropWhile (· == 0) with
  | nil =>
    rw [hdrop] at hpos
    simp [value] at hpos
  | cons d es =>
    rw [hdrop] at h hpos hupper hlower
    have hmem : ∀ c ∈ d :: es, c < 10 := fun c hc =>
      hds c ((List.dropWhile_suffix (· == 0)).subset (hdrop ▸ hc))
    have hten : (0 : ℚ) < 10 ^ y := by positivity
    -- the place of the leading digit tells the size of the number
    have hlow : (10 : ℚ) ^ (es.length + y) ≤ value (d :: es) * 10 ^ y := by
      rw [zpow_add₀ (by norm_num), zpow_natCast]
      gcongr
      exact_mod_cast Numeral.le_value_cons (ne_zero_of_dropWhile hdrop) es
    have hhigh : (value (d :: es) * 10 ^ y : ℚ) < 10 ^ ((d :: es).length + y) := by
      rw [zpow_add₀ (by norm_num), zpow_natCast]
      gcongr
      exact_mod_cast Numeral.value_lt hmem
    have hplaces : es.length + y < 310 :=
      (zpow_lt_zpow_iff_right₀ (by norm_num)).mp (hlow.trans_lt hupper)
    have hplaces' : -324 < (d :: es).length + y :=
      (zpow_lt_zpow_iff_right₀ (by norm_num)).mp (hlower.trans_lt hhigh)
    have hmany : ¬ 310 < ((d :: es).length : Int) + y := by
      rw [List.length_cons]
      omega
    have hfew : ¬ ((d :: es).length : Int) + y < -330 := by omega
    simp only [List.isEmpty_cons, Bool.false_eq_true, if_false, if_neg hmany, if_neg hfew]
    apply ofRatio_eq_finite (tenTo_pos _) hm hcanonical
    rwa [Nat.cast_mul, mul_div_assoc, tenTo_div_tenTo]

/-! ### The digits that stand for a number -/

/-- Whether a point of a decimal grid lies in the interval of a number. -/
def isInside (m : ℕ) (e p : Int) (k : ℕ) : Bool :=
  let below := if m = twoTo (precision - 1) ∧ minExponent < e then 1 else 2
  let low := (onGrid (4 * m - below) (e - 2) p).1
  let high := (onGrid (4 * m + 2) (e - 2) p).1
  let den := (onGrid (4 * m) (e - 2) p).2
  k != 0 && if m % 2 = 0 then low ≤ k * den && k * den ≤ high else low < k * den && k * den < high

theorem gridPoint?_eq (m : ℕ) (e p : Int) :
    gridPoint? m e p =
      let value := (onGrid (4 * m) (e - 2) p).1
      let den := (onGrid (4 * m) (e - 2) p).2
      match isInside m e p (value / den), isInside m e p (value / den + 1) with
      | true, true => some (roundDiv value den)
      | true, false => some (value / den)
      | false, true => some (value / den + 1)
      | false, false => none := rfl

variable {p : Int} {k : ℕ}

theorem onGrid_snd_pos (x : ℕ) (e p : Int) : 0 < (onGrid x e p).2 :=
  Nat.mul_pos (twoTo_pos _) (tenTo_pos _)

theorem onGrid_div (x : ℕ) (e p : Int) :
    ((onGrid x e p).1 : ℚ) / (onGrid x e p).2 = x * 2 ^ e / 10 ^ p := by
  have htwo : (twoTo (-e) : ℚ) ≠ 0 := by exact_mod_cast (twoTo_pos (-e)).ne'
  have hten : (tenTo p : ℚ) ≠ 0 := by exact_mod_cast (tenTo_pos p).ne'
  have hten' : (tenTo (-p) : ℚ) ≠ 0 := by exact_mod_cast (tenTo_pos (-p)).ne'
  rw [← twoTo_div_twoTo, ← tenTo_div_tenTo, onGrid]
  push_cast
  field_simp

/-- A number is compared with a point of the grid. -/
theorem onGrid_le_iff (x x' : ℕ) :
    (onGrid x e p).1 ≤ k * (onGrid x' e p).2 ↔ (x * 2 ^ e : ℚ) ≤ k * 10 ^ p := by
  have hden : (0 : ℚ) < (onGrid x e p).2 := by exact_mod_cast onGrid_snd_pos x e p
  have hten : (0 : ℚ) < 10 ^ p := by positivity
  rw [← div_le_iff₀ hten, ← onGrid_div, div_le_iff₀ hden]
  exact_mod_cast Iff.rfl

theorem le_onGrid_iff (x x' : ℕ) :
    k * (onGrid x' e p).2 ≤ (onGrid x e p).1 ↔ (k * 10 ^ p : ℚ) ≤ x * 2 ^ e := by
  have hden : (0 : ℚ) < (onGrid x e p).2 := by exact_mod_cast onGrid_snd_pos x e p
  have hten : (0 : ℚ) < 10 ^ p := by positivity
  rw [← le_div_iff₀ hten, ← onGrid_div, le_div_iff₀ hden]
  exact_mod_cast Iff.rfl

theorem onGrid_lt_iff (x x' : ℕ) :
    (onGrid x e p).1 < k * (onGrid x' e p).2 ↔ (x * 2 ^ e : ℚ) < k * 10 ^ p := by
  rw [← not_le, le_onGrid_iff, not_le]

theorem lt_onGrid_iff (x x' : ℕ) :
    k * (onGrid x' e p).2 < (onGrid x e p).1 ↔ (k * 10 ^ p : ℚ) < x * 2 ^ e := by
  rw [← not_le, onGrid_le_iff, not_le]

/-- The ends of the interval are counted in quarters of a unit. -/
theorem quarter_mul (x : ℚ) (e : Int) : x * 2 ^ (e - 2) = x / 4 * 2 ^ e := by
  rw [zpow_sub₀ two_ne_zero]
  norm_num
  ring

theorem low_eq (hm : 0 < m) (e : Int) :
    ((4 * m - if m = twoTo (precision - 1) ∧ minExponent < e then 1 else 2 : ℕ) : ℚ) * 2 ^ (e - 2) =
      (m - gapBelow m e) * 2 ^ e := by
  rw [quarter_mul, gapBelow, twoTo_precision_sub_one]
  split
  · rw [Nat.cast_sub (by omega)]
    push_cast
    ring
  · rw [Nat.cast_sub (by omega)]
    push_cast
    ring

theorem high_eq (m : ℕ) (e : Int) :
    ((4 * m + 2 : ℕ) : ℚ) * 2 ^ (e - 2) = (m + 1 / 2) * 2 ^ e := by
  rw [quarter_mul]
  push_cast
  ring

theorem isInside_iff (hm : 0 < m) :
    isInside m e p k = true ↔ 0 < k ∧ RoundsTo (k * 10 ^ p) m e := by
  rw [isInside, Bool.and_eq_true, bne_iff_ne, ← Nat.pos_iff_ne_zero]
  apply and_congr_right
  intro _
  rcases Nat.mod_two_eq_zero_or_one m with heven | hodd
  · rw [if_pos heven, Bool.and_eq_true, decide_eq_true_eq, decide_eq_true_eq, onGrid_le_iff,
      le_onGrid_iff, low_eq hm, high_eq]
    exact ⟨fun ⟨hlow, hhigh⟩ => ⟨hlow, hhigh, fun hodd => by omega⟩, fun h => ⟨h.ge_sub, h.le_add⟩⟩
  · rw [if_neg (by omega), Bool.and_eq_true, decide_eq_true_eq, decide_eq_true_eq, onGrid_lt_iff,
      lt_onGrid_iff, low_eq hm, high_eq]
    exact ⟨fun ⟨hlow, hhigh⟩ => ⟨hlow.le, hhigh.le, fun _ => ⟨hlow, hhigh⟩⟩, fun h => h.of_odd hodd⟩

theorem roundDiv_eq_or (num den : ℕ) :
    roundDiv num den = num / den ∨ roundDiv num den = num / den + 1 := by
  rw [roundDiv]
  split
  · exact .inl rfl
  · split
    · exact .inr rfl
    · rcases Nat.mod_two_eq_zero_or_one (num / den) with h | h
      · exact .inl (by rw [h, Nat.add_zero])
      · exact .inr (by rw [h])

/-- A point that is found lies in the interval. -/
theorem roundsTo_of_gridPoint? (hm : 0 < m) (h : gridPoint? m e p = some k) :
    0 < k ∧ RoundsTo (k * 10 ^ p) m e := by
  rw [← isInside_iff hm]
  rw [gridPoint?_eq] at h
  generalize (onGrid (4 * m) (e - 2) p).1 = value at h
  generalize (onGrid (4 * m) (e - 2) p).2 = den at h
  dsimp only at h
  split at h
  · next hlow hhigh =>
    cases h
    rcases roundDiv_eq_or value den with heq | heq
    · rwa [heq]
    · rwa [heq]
  · next hlow _ =>
    cases h
    exact hlow
  · next _ hhigh =>
    cases h
    exact hhigh
  · cases h

/-- The finest grid is finer than the intervals of all numbers. -/
theorem tenTo_le_gapBelow (hmin : minExponent ≤ e) (m : ℕ) :
    (10 : ℚ) ^ (-324 : Int) ≤ gapBelow m e * 2 ^ e := by
  apply tenTo_le_twoTo.trans
  rw [gapBelow]
  split
  · next h =>
    have hsucc : (2 : ℚ) ^ (minExponent + 1) ≤ 2 ^ e := zpow_le_zpow_right₀ one_le_two h.2
    rw [zpow_add_one₀ two_ne_zero] at hsucc
    linarith
  · gcongr
    exact one_le_two

/-- A grid that is finer than the lower half of the interval of a number has a point in it. -/
theorem gridPoint?_ne_none (hm : 0 < m) (hfine : (10 : ℚ) ^ p ≤ gapBelow m e * 2 ^ e) :
    gridPoint? m e p ≠ none := by
  rw [gridPoint?_eq]
  dsimp only
  have hden := onGrid_snd_pos (4 * m) (e - 2) p
  have hfloor := Nat.div_mul_le_self (onGrid (4 * m) (e - 2) p).1
    (onGrid (4 * m) (e - 2) p).2
  have hceil := Nat.lt_div_mul_add (a := (onGrid (4 * m) (e - 2) p).1) hden
  rw [← Nat.succ_mul] at hceil
  generalize (onGrid (4 * m) (e - 2) p).1 / (onGrid (4 * m) (e - 2) p).2 = k at *
  rw [le_onGrid_iff, quarter_mul] at hfloor
  rw [onGrid_lt_iff, quarter_mul] at hceil
  push_cast at hfloor hceil
  rw [mul_div_cancel_left₀ _ (by norm_num)] at hfloor hceil
  -- the point just below the number
  have hinside : isInside m e p k = true := by
    have hhalf := gapBelow_le m e
    have hm' : (1 : ℚ) ≤ m := by exact_mod_cast hm
    have hpow : (0 : ℚ) < 2 ^ e := by positivity
    have hlow : (m - gapBelow m e) * 2 ^ e < k * 10 ^ p := by linarith
    have hhigh : (k * 10 ^ p : ℚ) < (m + 1 / 2) * 2 ^ e := by linarith
    have hk : 0 < k := by
      have hpos : (0 : ℚ) < (m - gapBelow m e) * 2 ^ e := mul_pos (by linarith) hpow
      by_contra hzero
      rw [Nat.eq_zero_of_not_pos hzero, Nat.cast_zero, zero_mul] at hlow
      linarith
    exact (isInside_iff hm).mpr ⟨hk, hlow.le, hhigh.le, fun _ => ⟨hlow, hhigh⟩⟩
  rw [hinside]
  split
  · simp
  · simp
  · contradiction
  · contradiction

/-- The digits that are found lie in the interval of the number. -/
theorem exists_shortest_eq (hm : 0 < m) (hcanonical : IsCanonical (.finite negative m e)) :
    ∃ k p, shortest m e = (k, p) ∧ 0 < k ∧ RoundsTo (k * 10 ^ p) m e := by
  rw [shortest]
  cases hfound : (List.range 634).findSome? fun (i : ℕ) =>
    (gridPoint? m e (309 - i)).map (·, (309 - i : Int)) with
  | none =>
    have hlast := List.findSome?_eq_none_iff.mp hfound 633 (List.mem_range.mpr (by omega))
    rw [Option.map_eq_none_iff] at hlast
    exact absurd hlast (gridPoint?_ne_none hm (tenTo_le_gapBelow hcanonical.2.1 m))
  | some found =>
    obtain ⟨i, -, hi⟩ := List.exists_of_findSome?_eq_some hfound
    obtain ⟨k, hk, rfl⟩ := Option.map_eq_some_iff.mp hi
    exact ⟨k, 309 - i, rfl, roundsTo_of_gridPoint? hm hk⟩

/-- The digits that are written for a canonical number, and every other spelling of their value, are
read as that number. -/
theorem exists_digits_eq (hcanonical : IsCanonical (.finite negative m e)) :
    ∃ k p, (if m = 0 then (0, 0) else shortest m e) = (k, p) ∧ (k = 0 → p = 0) ∧
      ∀ ds y, (∀ d ∈ ds, d < 10) → (value ds : ℚ) * 10 ^ y = k * 10 ^ p →
        ofDigits negative ds y = .finite negative m e := by
  by_cases hm : m = 0
  · refine ⟨0, 0, if_pos hm, fun _ => rfl, fun ds y _ hvalue => ?_⟩
    have hds : value ds = 0 := by
      have hten : (10 : ℚ) ^ y ≠ 0 := by positivity
      simpa [hten] using hvalue
    have he : e = minExponent := by
      obtain ⟨-, hmin, -, hnormal⟩ := hcanonical
      by_contra hne
      have := hnormal (lt_of_le_of_ne hmin (Ne.symm hne))
      omega
    rw [ofDigits_of_value_eq_zero hds, hm, he, zero]
  · have hpos := Nat.pos_of_ne_zero hm
    obtain ⟨k, p, hfound, hk, hround⟩ := exists_shortest_eq hpos hcanonical
    refine ⟨k, p, by rw [if_neg hm, hfound], fun h => absurd h hk.ne', fun ds y hds hvalue => ?_⟩
    rw [← hvalue] at hround
    exact ofDigits_eq_finite hds hpos hcanonical hround

end Double

end PortableShell
