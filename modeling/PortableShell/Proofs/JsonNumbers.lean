import PortableShell.Json.Printer
import PortableShell.Json.Reader
import PortableShell.Proofs.WrittenNumbers

/-!
# Numbers in structured data

A number is read part by part: its sign, the digits before the point, those after it, and the power
of ten.  So whole numbers and canonical numbers of double precision are read back as they were
written.

## Main statements

* `Json.readNumber?_signed`: a written number is read as what its parts make.
* `Json.readNumber?_ofInt`, `Json.readNumber?_text`: whole numbers and fractions are read back.
-/

namespace PortableShell

open Text (isAsciiDigit)

namespace Json

open Double (digitValues)
open Numeral (value)
open WrittenNumber (signed)

variable {rest : Text}

/-! ### Reading a number part by part -/

theorem takeDigits_append {ds : Text} (hds : ∀ c ∈ ds, isAsciiDigit c = true)
    (hrest : ∀ c ∈ rest.head?, isAsciiDigit c = false) :
    takeDigits (ds ++ rest) = (digitValues ds, rest) := by
  have htake : rest.takeWhile isAsciiDigit = [] := by
    cases rest with
    | nil => rfl
    | cons c t => exact List.takeWhile_cons_of_neg (by simp [hrest c rfl])
  have hdrop : rest.dropWhile isAsciiDigit = rest := by
    cases rest with
    | nil => rfl
    | cons c t => exact List.dropWhile_cons_of_neg (by simp [hrest c rfl])
  rw [takeDigits, List.takeWhile_append_of_pos hds, List.dropWhile_append_of_pos hds, htake, hdrop,
    List.append_nil]

theorem wholePart?_append (w : WrittenNumber) (hrest : ∀ c ∈ rest.head?, isAsciiDigit c = false) :
    wholePart? (w.whole ++ rest) = some (digitValues w.whole, rest) := by
  by_cases hhead : w.whole.head? = some '0'
  · rw [w.eq_of_head hhead]
    rfl
  · have hfound := takeDigits_append w.isDigit_whole hrest
    cases hwhole : w.whole with
    | nil => exact absurd hwhole w.whole_ne_nil
    | cons c t =>
      rw [hwhole] at hhead hfound
      have hc : c ≠ '0' := by simpa using hhead
      simp only [List.cons_append] at hfound ⊢
      rw [wholePart?.eq_def]
      split
      · next heq => exact absurd (List.cons.inj heq).1 hc
      · rw [hfound]
        rfl

theorem optional_fraction? {part : Option Text} (hne : part ≠ some [])
    (hdigit : ∀ ds ∈ part, ∀ c ∈ ds, isAsciiDigit c = true)
    (hrest : ∀ c ∈ rest.head?, isAsciiDigit c = false ∧ c ≠ '.') :
    optional fraction? (part.elim [] ('.' :: ·) ++ rest) = (part.map digitValues, rest) := by
  cases part with
  | none =>
    have hnone : fraction? rest = none := by
      rw [fraction?.eq_def]
      split
      · exact absurd rfl (hrest '.' rfl).2
      · rfl
    simp only [Option.elim_none, List.nil_append, optional, hnone, Option.map_none]
  | some ds =>
    have hfound := takeDigits_append (hdigit ds rfl) fun c hc => (hrest c hc).1
    cases ds with
    | nil => exact absurd rfl hne
    | cons c t =>
      simp only [Option.elim_some, List.cons_append] at hfound ⊢
      rw [optional, fraction?, hfound]
      rfl

theorem exponent?_power (x : Int) (hrest : ∀ c ∈ rest.head?, isAsciiDigit c = false) :
    exponent? (Layout.power x ++ rest) = some (x, rest) := by
  obtain ⟨n, htext⟩ : ∃ n, Layout.power x = 'e' :: (if x < 0 then '-' else '+') ::
      (List.replicate n '0' ++ Text.ofNat x.natAbs) := ⟨_, rfl⟩
  have hdigit : ∀ c ∈ List.replicate n '0' ++ Text.ofNat x.natAbs, isAsciiDigit c = true :=
    List.forall_mem_append.mpr
      ⟨fun _ => Double.isDigit_of_mem_zeros, fun _ => Text.isAsciiDigit_of_mem_ofNat⟩
  have hvalue : value (digitValues (List.replicate n '0' ++ Text.ofNat x.natAbs)) = x.natAbs := by
    rw [Double.value_zeros_append, Double.value_digitValues_ofNat]
  have hne : List.replicate n '0' ++ Text.ofNat x.natAbs ≠ [] :=
    List.append_ne_nil_of_right_ne_nil _ (Text.ofNat_ne_nil _)
  rw [htext, List.cons_append, List.cons_append]
  generalize List.replicate n '0' ++ Text.ofNat x.natAbs = ds at *
  have hsign : Numeral.sign ((if x < 0 then '-' else '+') :: (ds ++ rest)) =
      (decide (x < 0), ds ++ rest) := by
    split
    · next hx => rw [decide_eq_true hx]; rfl
    · next hx => rw [decide_eq_false hx]; rfl
  have hfound := takeDigits_append hdigit hrest
  cases ds with
  | nil => exact absurd rfl hne
  | cons c t =>
    rw [exponent?, if_pos (by decide), hsign]
    simp only [hfound, digitValues, List.map_cons] at hvalue ⊢
    rw [hvalue]
    by_cases hx : x < 0
    · rw [decide_eq_true hx, if_pos rfl]
      congr 2
      omega
    · rw [decide_eq_false hx, if_neg Bool.false_ne_true]
      congr 2
      omega

theorem optional_exponent? (power : Option Int) (hrest : rest.EndsNumber) :
    optional exponent? (power.elim [] Layout.power ++ rest) = (power, rest) := by
  cases power with
  | none =>
    have hnone : exponent? rest = none := by
      match rest with
      | [] => rfl
      | c :: t =>
        obtain ⟨-, -, he, hE⟩ := hrest c rfl
        rw [exponent?, if_neg (by simp [he, hE])]
    simp only [Option.elim_none, List.nil_append, optional, hnone]
  | some x =>
    have hfound := exponent?_power x fun c hc => (hrest c hc).1
    simp only [Option.elim_some, optional, hfound]

/-- A written number is read as the number that its parts make. -/
theorem unsigned?_text (negative : Bool) (w : WrittenNumber) (hrest : rest.EndsNumber) :
    unsigned? negative (w.text ++ rest) =
      (number? negative (digitValues w.whole) (w.part.map digitValues) w.power).map (·, rest) := by
  have hpower : ∀ c ∈ (w.power.elim [] Layout.power ++ rest).head?,
      isAsciiDigit c = false ∧ c ≠ '.' := by
    cases w.power with
    | none => exact fun c hc => ⟨(hrest c hc).1, (hrest c hc).2.1⟩
    | some x =>
      intro c hc
      obtain rfl : 'e' = c := by simpa [Layout.power] using hc
      exact ⟨rfl, by decide⟩
  have hpart : ∀ c ∈ (w.part.elim [] ('.' :: ·) ++ (w.power.elim [] Layout.power ++ rest)).head?,
      isAsciiDigit c = false := by
    cases w.part with
    | none => exact fun c hc => (hpower c hc).1
    | some ds =>
      intro c hc
      obtain rfl : '.' = c := by simpa using hc
      rfl
  rw [WrittenNumber.text, List.append_assoc, List.append_assoc, unsigned?,
    wholePart?_append w hpart]
  simp only [Option.bind_eq_bind, Option.bind_some,
    optional_fraction? w.part_ne_nil w.isDigit_part hpower, optional_exponent? w.power hrest]
  cases number? negative (digitValues w.whole) (w.part.map digitValues) w.power with
  | none => rfl
  | some v => rfl

theorem readNumber?_signed (negative : Bool) (w : WrittenNumber) (hrest : rest.EndsNumber) :
    readNumber? (signed negative w ++ rest) =
      (number? negative (digitValues w.whole) (w.part.map digitValues) w.power).map (·, rest) := by
  rw [← unsigned?_text negative w hrest]
  cases negative with
  | true => rfl
  | false =>
    rw [signed, if_neg Bool.false_ne_true, List.nil_append, readNumber?.eq_def]
    split
    · next t heq =>
      obtain ⟨c, u, htext, hdigit⟩ := w.exists_cons_text
      rw [htext] at heq
      obtain rfl : c = '-' := (List.cons.inj heq).1
      cases hdigit
    · rfl

/-! ### Whole numbers and fractions -/

/-- A whole number is read as itself if it is not too long. -/
theorem readNumber?_ofInt (n : Int) (hlength : (Text.ofNat n.natAbs).length ≤ Numeral.maxDigits)
    (hrest : rest.EndsNumber) : readNumber? (Text.ofInt n ++ rest) = some (.integer n, rest) := by
  have hvalue : (if decide (n < 0) then -(n.natAbs : Int) else n.natAbs) = n := by
    by_cases hn : n < 0
    · rw [decide_eq_true hn, if_pos rfl]
      omega
    · rw [decide_eq_false hn, if_neg Bool.false_ne_true]
      omega
  rw [Text.ofInt_eq_signed, readNumber?_signed _ _ hrest]
  simp only [WrittenNumber.ofNat, Option.map_none, number?, Double.length_digitValues,
    if_pos hlength, Double.value_digitValues_ofNat, hvalue, Option.map_some]

/-- The number that the parts of a fraction make. -/
theorem number?_of_isReal (negative : Bool) {w : WrittenNumber} (hreal : w.isReal = true) :
    number? negative (digitValues w.whole) (w.part.map digitValues) w.power =
      some (.real (Double.ofDigits negative (digitValues w.digits) w.lastPower)) := by
  have hpart : (w.part.map digitValues).getD [] = digitValues (w.part.getD []) := by
    cases w.part <;> rfl
  have hnumber : number? negative (digitValues w.whole) (w.part.map digitValues) w.power =
      some (.real (Double.ofDigits negative
        (digitValues w.whole ++ (w.part.map digitValues).getD [])
        (w.power.getD 0 - ((w.part.map digitValues).getD []).length))) := by
    rw [number?.eq_def]
    split
    · next hnone hpower =>
      rw [WrittenNumber.isReal, hpower, Option.map_eq_none_iff.mp hnone] at hreal
      cases hreal
    · rfl
  rw [hnumber, hpart, ← Double.digitValues_append, Double.length_digitValues]
  rfl

/-- A canonical number is read as itself. -/
theorem readNumber?_text {negative : Bool} {m : ℕ} {e : Int}
    (hcanonical : Double.IsCanonical (.finite negative m e)) (hrest : rest.EndsNumber) :
    readNumber? ((Double.finite negative m e).text ++ rest) =
      some (.real (.finite negative m e), rest) := by
  obtain ⟨w, hreal, htext, hread⟩ := Double.exists_text_eq_signed hcanonical
  rw [htext, readNumber?_signed _ _ hrest, number?_of_isReal negative hreal, hread, Option.map_some]

end Json

end PortableShell
