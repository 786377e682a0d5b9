import PortableShell.Proofs.JsonNumbers
import PortableShell.Proofs.JsonStrings

/-!
# Structured data is read back as it was written

In a value that is read from a text, whole numbers are not too long and numbers of double precision
are canonical.  The text that is written for such a value is read as that value, however deep it is
nested.

## Main definitions

* `Json.IsReadable`: whether a value can be read from a text.
* `Json.ReadsBack`: whether the text of a value is read as that value, wherever it stands.

## Main statements

* `Json.read?_print`: what is written is read back.
* `Json.isReadable_of_read?`: what is read from a text can be read from a text.
-/

namespace PortableShell

namespace Json

/-! ### Values that texts have -/

/-- Whether a value can be read from a text: its whole numbers are not too long, and its numbers of
double precision are canonical. -/
inductive IsReadable : Json → Prop where
  | null : IsReadable .null
  | bool (b : Bool) : IsReadable (.bool b)
  | integer {n : Int} (h : (Text.ofNat n.natAbs).length ≤ Numeral.maxDigits) :
    IsReadable (.integer n)
  | real {x : Double} (h : x.IsCanonical) : IsReadable (.real x)
  | text (t : Text) : IsReadable (.text t)
  | array {values : List Json} (h : ∀ v ∈ values, IsReadable v) : IsReadable (.array values)
  | object {members : List (Text × Json)} (h : ∀ m ∈ members, IsReadable m.2) :
    IsReadable (.object members)

/-! ### Reading what is written -/

theorem skipSpace_newLine (depth : ℕ) (t : Text) :
    skipSpace (newLine depth ++ t) = skipSpace t := by
  have hspace : ∀ c ∈ newLine depth, isSpace c = true := by
    intro c hc
    rcases List.mem_cons.mp hc with rfl | h
    · rfl
    · rw [List.eq_of_mem_replicate h]
      rfl
  exact List.dropWhile_append_of_pos hspace

theorem skipSpace_cons {c : Char} (hc : isSpace c = false) (t : Text) :
    skipSpace (c :: t) = c :: t :=
  List.dropWhile_cons_of_neg (by simp [hc])

theorem skipSpace_comma (t : Text) : skipSpace (',' :: t) = ',' :: t :=
  skipSpace_cons rfl t

theorem skipSpace_colon (t : Text) : skipSpace (':' :: t) = ':' :: t :=
  skipSpace_cons rfl t

theorem skipSpace_blank (t : Text) : skipSpace (' ' :: t) = skipSpace t :=
  rfl

theorem skipSpace_quote (t : Text) : skipSpace ('"' :: t) = '"' :: t :=
  skipSpace_cons rfl t

/-- A number is no fixed word. -/
theorem readWord?_signed (negative : Bool) (w : WrittenNumber) (rest : Text) :
    readWord? (WrittenNumber.signed negative w ++ rest) = none := by
  obtain ⟨c, t, htext, hdigit⟩ := w.exists_cons_text
  have hne (d : Char) (hd : Text.isAsciiDigit d = false) : d ≠ c := by
    rintro rfl
    rw [hd] at hdigit
    cases hdigit
  have hwords : ∀ word ∈ fixedWords,
      word.1.toList.isPrefixOf (WrittenNumber.signed negative w ++ rest) = false := by
    rw [WrittenNumber.signed, htext]
    cases negative with
    | false =>
      simp [fixedWords, List.isPrefixOf, hne 'n' rfl, hne 't' rfl, hne 'f' rfl, hne 'N' rfl,
        hne 'I' rfl, hne '-' rfl]
    | true => simp [fixedWords, List.isPrefixOf, hne 'I' rfl]
  rw [readWord?, List.findSome?_eq_none_iff]
  rintro ⟨word, value⟩ hword
  exact if_neg (Bool.eq_false_iff.mp (hwords (word, value) hword))

/-- What is no string, no array and no object is a fixed word or a number. -/
theorem readValue?_of_head (fuel : ℕ) {c : Char} (hc : c ≠ '"' ∧ c ≠ '[' ∧ c ≠ '\x7b') (t : Text) :
    readValue? (fuel + 1) (c :: t) = (readWord? (c :: t)).or (readNumber? (c :: t)) := by
  rw [readValue?]
  · exact Nat.succ_ne_zero fuel
  · exact fun _ _ _ h => hc.1 (List.cons.inj h).1
  · exact fun _ _ _ h => hc.2.1 (List.cons.inj h).1
  · exact fun _ _ _ h => hc.2.2 (List.cons.inj h).1

/-- The text of a number starts with a sign or a digit. -/
theorem exists_cons_signed (negative : Bool) (w : WrittenNumber) :
    ∃ c t, WrittenNumber.signed negative w = c :: t ∧ (c ≠ '"' ∧ c ≠ '[' ∧ c ≠ '\x7b') ∧
      isSpace c = false ∧ c ≠ ']' := by
  obtain ⟨c, t, htext, hdigit⟩ := w.exists_cons_text
  have hne (d : Char) (hd : Text.isAsciiDigit d = false) : c ≠ d := by
    rintro rfl
    rw [hd] at hdigit
    cases hdigit
  rw [WrittenNumber.signed, htext]
  cases negative with
  | true => exact ⟨'-', c :: t, rfl, by decide, by decide⟩
  | false =>
    refine ⟨c, t, rfl, ⟨hne '"' rfl, hne '[' rfl, hne '\x7b' rfl⟩, ?_, hne ']' rfl⟩
    simp [isSpace, hne ' ' rfl, hne '\t' rfl, hne '\n' rfl, hne '\r' rfl]

/-- A number is read as what the reader of numbers finds. -/
theorem readValue?_signed (fuel : ℕ) (negative : Bool) (w : WrittenNumber) (rest : Text) :
    readValue? (fuel + 1) (WrittenNumber.signed negative w ++ rest) =
      readNumber? (WrittenNumber.signed negative w ++ rest) := by
  have hword := readWord?_signed negative w rest
  obtain ⟨c, t, htext, hc⟩ := exists_cons_signed negative w
  rw [htext, List.cons_append] at hword ⊢
  rw [readValue?_of_head fuel hc.1, hword, Option.none_or]

/-- Whether the text of a value at a level of nesting is read as that value. -/
def ReadsBack (v : Json) : Prop :=
  ∀ (depth fuel : ℕ) (rest : Text), (printAt depth v).length < fuel → rest.EndsNumber →
    readValue? fuel (printAt depth v ++ rest) = some (v, rest)

section

variable {v : Json} {depth fuel : ℕ} {rest : Text}

/-- The text of a value starts with a character that is neither a blank nor a closing bracket. -/
theorem exists_cons_printAt (hv : v.IsReadable) (depth : ℕ) :
    ∃ c t, printAt depth v = c :: t ∧ isSpace c = false ∧ c ≠ ']' := by
  cases hv with
  | null => exact ⟨'n', _, rfl, by decide⟩
  | bool b =>
    cases b with
    | true => exact ⟨'t', _, rfl, by decide⟩
    | false => exact ⟨'f', _, rfl, by decide⟩
  | @integer n hn =>
    obtain ⟨c, t, htext, -, hc⟩ := exists_cons_signed (n < 0) (WrittenNumber.ofNat n.natAbs)
    exact ⟨c, t, by rw [printAt, Text.ofInt_eq_signed, htext], hc⟩
  | @real x hx =>
    rw [printAt]
    cases x with
    | nan => exact ⟨'N', _, rfl, by decide⟩
    | infinite negative =>
      cases negative with
      | true => exact ⟨'-', _, rfl, by decide⟩
      | false => exact ⟨'I', _, rfl, by decide⟩
    | finite negative m e =>
      obtain ⟨w, -, htext, -⟩ := Double.exists_text_eq_signed hx
      obtain ⟨c, t, hsigned, -, hc⟩ := exists_cons_signed negative w
      exact ⟨c, t, by rw [← hsigned, ← htext]; rfl, hc⟩
  | text t => exact ⟨'"', _, rfl, by decide⟩
  | @array vs hvs =>
    rw [printAt]
    cases vs with
    | nil => exact ⟨'[', _, rfl, by decide⟩
    | cons v vs => exact ⟨'[', _, rfl, by decide⟩
  | @object ms hms =>
    rw [printAt]
    cases ms with
    | nil => exact ⟨'\x7b', _, rfl, by decide⟩
    | cons m ms => exact ⟨'\x7b', _, rfl, by decide⟩

theorem readsBack_integer {n : Int} (hn : (Text.ofNat n.natAbs).length ≤ Numeral.maxDigits) :
    ReadsBack (.integer n) := by
  intro depth fuel rest hfuel hrest
  obtain ⟨fuel, rfl⟩ := Nat.exists_eq_add_one_of_ne_zero (Nat.ne_zero_of_lt hfuel)
  have hread := readNumber?_ofInt n hn hrest
  rw [printAt]
  rw [Text.ofInt_eq_signed] at hread ⊢
  rw [readValue?_signed, hread]

theorem readsBack_real {x : Double} (hx : x.IsCanonical) : ReadsBack (.real x) := by
  intro depth fuel rest hfuel hrest
  obtain ⟨fuel, rfl⟩ := Nat.exists_eq_add_one_of_ne_zero (Nat.ne_zero_of_lt hfuel)
  rw [printAt]
  cases x with
  | nan => rfl
  | infinite negative => cases negative <;> rfl
  | finite negative m e =>
    have hread := readNumber?_text hx hrest
    obtain ⟨w, -, htext, -⟩ := Double.exists_text_eq_signed hx
    rw [realText]
    · rw [htext] at hread ⊢
      rw [readValue?_signed, hread]
    · exact nofun
    · exact nofun

theorem readsBack_text (t : Text) : ReadsBack (.text t) := by
  intro depth fuel rest hfuel hrest
  obtain ⟨fuel, rfl⟩ := Nat.exists_eq_add_one_of_ne_zero (Nat.ne_zero_of_lt hfuel)
  have hcons : printAt depth (.text t) ++ rest = '"' :: (t.flatMap charText ++ '"' :: rest) := by
    rw [printAt, quoted]
    simp
  rw [hcons, readValue?, readString?_length]
  rfl

theorem endsNumber_cons {c : Char} (hc : Text.isAsciiDigit c = false ∧ c ≠ '.' ∧ c ≠ 'e' ∧ c ≠ 'E')
    (t : Text) : Text.EndsNumber (c :: t) := by
  intro d hd
  obtain rfl : c = d := by simpa using hd
  exact hc

theorem endsNumber_comma (t : Text) : Text.EndsNumber (',' :: t) :=
  endsNumber_cons (by decide) t

theorem endsNumber_newLine (depth : ℕ) (t : Text) : (newLine depth ++ t).EndsNumber :=
  endsNumber_cons (by decide) _

theorem length_newLine_pos (depth : ℕ) : 0 < (newLine depth).length :=
  Nat.succ_pos _

theorem join_cons_cons (separator t t' : Text) (ts : List Text) :
    Text.join separator (t :: t' :: ts) = t ++ (separator ++ Text.join separator (t' :: ts)) := by
  rw [Text.join, List.append_assoc]
  exact List.cons_ne_nil _ _

theorem join_cons (separator : Text) (c : Char) (t : Text) (ts : List Text) :
    ∃ u, Text.join separator ((c :: t) :: ts) = c :: u := by
  cases ts with
  | nil => exact ⟨t, rfl⟩
  | cons t' ts => exact ⟨_, join_cons_cons separator (c :: t) t' ts⟩

/-- The texts of values start with a character that is neither a blank nor a closing bracket. -/
theorem exists_cons_join {v : Json} (hv : v.IsReadable) (depth : ℕ) (vs : List Json)
    (separator : Text) :
    ∃ c u, Text.join separator (printValues depth (v :: vs)) = c :: u ∧ isSpace c = false ∧
      c ≠ ']' := by
  obtain ⟨c, t, htext, hc⟩ := exists_cons_printAt hv depth
  obtain ⟨u, hu⟩ := join_cons separator c t (printValues depth vs)
  exact ⟨c, u, by rw [printValues, htext, hu], hc⟩

/-- The values of an array are read one after the other. -/
theorem readValues?_join (depth outer fuel : ℕ) (rest : Text) {vs : List Json} (hne : vs ≠ [])
    (hread : ∀ v ∈ vs, v.IsReadable ∧ ReadsBack v)
    (hfuel : (Text.join (',' :: newLine depth) (printValues depth vs)).length + 1 < fuel) :
    readValues? fuel (Text.join (',' :: newLine depth) (printValues depth vs) ++
      (newLine outer ++ ']' :: rest)) = some (vs, rest) := by
  induction vs generalizing fuel with
  | nil => exact absurd rfl hne
  | cons v vs ih =>
    obtain ⟨fuel, rfl⟩ := Nat.exists_eq_add_one_of_ne_zero (Nat.ne_zero_of_lt hfuel)
    obtain ⟨-, hv⟩ := hread v List.mem_cons_self
    cases vs with
    | nil =>
      rw [printValues, printValues, Text.join] at hfuel ⊢
      rw [readValues?, hv depth fuel _ (by omega) (endsNumber_newLine outer _)]
      simp only [Option.bind_eq_bind, Option.bind_some, skipSpace_newLine]
      rfl
    | cons v' vs =>
      have hread' : ∀ v ∈ v' :: vs, v.IsReadable ∧ ReadsBack v := fun u hu =>
        hread u (List.mem_cons_of_mem v hu)
      rw [printValues, printValues, join_cons_cons, ← printValues] at hfuel ⊢
      rw [List.length_append, List.length_append, List.length_cons] at hfuel
      rw [List.append_assoc, List.append_assoc, List.cons_append, readValues?,
        hv depth fuel _ (by omega) (endsNumber_comma _)]
      have hvalues := ih fuel (List.cons_ne_nil _ _) hread' (by omega)
      obtain ⟨c, u, hjoin, hc, -⟩ := exists_cons_join (hread' v' List.mem_cons_self).1 depth vs
        (',' :: newLine depth)
      rw [hjoin, List.cons_append] at hvalues ⊢
      simp only [Option.bind_eq_bind, Option.bind_some, skipSpace_comma, skipSpace_newLine,
        skipSpace_cons hc, hvalues]
      rfl

theorem readsBack_array {vs : List Json} (hread : ∀ v ∈ vs, v.IsReadable ∧ ReadsBack v) :
    ReadsBack (.array vs) := by
  intro depth fuel rest hfuel hrest
  obtain ⟨fuel, rfl⟩ := Nat.exists_eq_add_one_of_ne_zero (Nat.ne_zero_of_lt hfuel)
  rw [printAt] at hfuel ⊢
  cases vs with
  | nil => rfl
  | cons v vs =>
    have htext : enclose depth '[' ']' (printValues (depth + 1) (v :: vs)) ++ rest =
        '[' :: (newLine (depth + 1) ++ (Text.join (',' :: newLine (depth + 1))
          (printValues (depth + 1) (v :: vs)) ++ (newLine depth ++ ']' :: rest))) := by
      rw [printValues, enclose]
      · simp
      · exact List.cons_ne_nil _ _
    have hlength := congrArg List.length htext
    simp only [List.length_append, List.length_cons] at hlength
    have hnewLine := length_newLine_pos depth
    have hvalues := readValues?_join (depth + 1) depth fuel rest (List.cons_ne_nil v vs) hread
      (by omega)
    obtain ⟨c, u, hjoin, hc, hbracket⟩ := exists_cons_join (hread v List.mem_cons_self).1
      (depth + 1) vs (',' :: newLine (depth + 1))
    rw [htext, readValue?, skipSpace_newLine]
    rw [hjoin, List.cons_append] at hvalues ⊢
    rw [skipSpace_cons hc]
    split
    · next heq => exact absurd (List.cons.inj heq).1 hbracket
    · rw [hvalues]
      rfl

theorem printMember_append (depth : ℕ) (m : Text × Json) (rest : Text) :
    printMember depth m ++ rest =
      '"' :: (m.1.flatMap charText ++ '"' :: ':' :: ' ' :: (printAt depth m.2 ++ rest)) := by
  obtain ⟨name, v⟩ := m
  simp [printMember, quoted]

theorem exists_cons_join_members (depth : ℕ) (m : Text × Json) (ms : List (Text × Json))
    (separator : Text) :
    ∃ u, Text.join separator (printMembers depth (m :: ms)) = '"' :: u := by
  obtain ⟨u, hu⟩ := join_cons separator '"'
    (m.1.flatMap charText ++ '"' :: ':' :: ' ' :: (printAt depth m.2 ++ []))
    (printMembers depth ms)
  refine ⟨u, ?_⟩
  rw [printMembers, ← List.append_nil (printMember depth m), printMember_append, hu]

/-- The members of an object are read one after the other. -/
theorem readMembers?_join (depth outer fuel : ℕ) (rest : Text) {ms : List (Text × Json)}
    (hne : ms ≠ []) (hread : ∀ m ∈ ms, m.2.IsReadable ∧ ReadsBack m.2)
    (hfuel : (Text.join (',' :: newLine depth) (printMembers depth ms)).length + 1 < fuel) :
    readMembers? fuel (Text.join (',' :: newLine depth) (printMembers depth ms) ++
      (newLine outer ++ '\x7d' :: rest)) = some (ms, rest) := by
  induction ms generalizing fuel with
  | nil => exact absurd rfl hne
  | cons m ms ih =>
    obtain ⟨fuel, rfl⟩ := Nat.exists_eq_add_one_of_ne_zero (Nat.ne_zero_of_lt hfuel)
    obtain ⟨hm, hv⟩ := hread m List.mem_cons_self
    have hlength := congrArg List.length (printMember_append depth m [])
    simp only [List.length_append, List.length_cons, List.length_nil] at hlength
    obtain ⟨c, t, htext, hc, -⟩ := exists_cons_printAt hm depth
    cases ms with
    | nil =>
      rw [printMembers, printMembers, Text.join] at hfuel ⊢
      have hvalue := hv depth fuel _ (by omega) (endsNumber_newLine outer ('\x7d' :: rest))
      rw [printMember_append, readMembers?, readString?_length]
      rw [htext, List.cons_append] at hvalue ⊢
      simp only [Option.bind_eq_bind, Option.bind_some, skipSpace_colon, skipSpace_blank,
        skipSpace_cons hc, hvalue, skipSpace_newLine]
      rfl
    | cons m' ms =>
      have hread' : ∀ n ∈ m' :: ms, n.2.IsReadable ∧ ReadsBack n.2 := fun n hn =>
        hread n (List.mem_cons_of_mem m hn)
      rw [printMembers, printMembers, join_cons_cons, ← printMembers] at hfuel ⊢
      rw [List.length_append, List.length_append, List.length_cons] at hfuel
      rw [List.append_assoc, List.append_assoc, List.cons_append, printMember_append, readMembers?,
        readString?_length]
      have hmembers := ih fuel (List.cons_ne_nil _ _) hread' (by omega)
      have hvalue (u : Text) := hv depth fuel (',' :: u) (by omega) (endsNumber_comma u)
      obtain ⟨u, hjoin⟩ := exists_cons_join_members depth m' ms (',' :: newLine depth)
      rw [hjoin, List.cons_append] at hmembers ⊢
      simp only [htext, List.cons_append] at hvalue ⊢
      simp only [Option.bind_eq_bind, Option.bind_some, skipSpace_colon, skipSpace_blank,
        skipSpace_cons hc, hvalue, skipSpace_comma, skipSpace_newLine, skipSpace_quote, hmembers]
      rfl

theorem readsBack_object {ms : List (Text × Json)}
    (hread : ∀ m ∈ ms, m.2.IsReadable ∧ ReadsBack m.2) : ReadsBack (.object ms) := by
  intro depth fuel rest hfuel hrest
  obtain ⟨fuel, rfl⟩ := Nat.exists_eq_add_one_of_ne_zero (Nat.ne_zero_of_lt hfuel)
  rw [printAt] at hfuel ⊢
  cases ms with
  | nil => rfl
  | cons m ms =>
    have htext : enclose depth '\x7b' '\x7d' (printMembers (depth + 1) (m :: ms)) ++ rest =
        '\x7b' :: (newLine (depth + 1) ++ (Text.join (',' :: newLine (depth + 1))
          (printMembers (depth + 1) (m :: ms)) ++ (newLine depth ++ '\x7d' :: rest))) := by
      rw [printMembers, enclose]
      · simp
      · exact List.cons_ne_nil _ _
    have hlength := congrArg List.length htext
    simp only [List.length_append, List.length_cons] at hlength
    have hnewLine := length_newLine_pos depth
    have hmembers := readMembers?_join (depth + 1) depth fuel rest (List.cons_ne_nil m ms) hread
      (by omega)
    obtain ⟨u, hjoin⟩ := exists_cons_join_members (depth + 1) m ms (',' :: newLine (depth + 1))
    rw [htext, readValue?, skipSpace_newLine]
    rw [hjoin, List.cons_append] at hmembers ⊢
    rw [skipSpace_quote]
    split
    · next heq => exact absurd (List.cons.inj heq).1 (by decide)
    · rw [hmembers]
      rfl

/-- The text of a value that can be read is read as that value. -/
theorem IsReadable.readsBack (hv : v.IsReadable) : ReadsBack v := by
  induction hv with
  | null =>
    intro depth fuel rest hfuel hrest
    obtain ⟨fuel, rfl⟩ := Nat.exists_eq_add_one_of_ne_zero (Nat.ne_zero_of_lt hfuel)
    rfl
  | bool b =>
    intro depth fuel rest hfuel hrest
    obtain ⟨fuel, rfl⟩ := Nat.exists_eq_add_one_of_ne_zero (Nat.ne_zero_of_lt hfuel)
    cases b <;> rfl
  | integer hn => exact readsBack_integer hn
  | real hx => exact readsBack_real hx
  | text t => exact readsBack_text t
  | array hvs ih => exact readsBack_array fun v hv => ⟨hvs v hv, ih v hv⟩
  | object hms ih => exact readsBack_object fun m hm => ⟨hms m hm, ih m hm⟩

/-- **What is written is read back.**  The text of a value that can be read is read as that value
and nothing else. -/
theorem read?_print (hv : v.IsReadable) : read? v.print = some v := by
  obtain ⟨c, t, htext, hc, -⟩ := exists_cons_printAt hv 0
  have hread := hv.readsBack 0 (v.print.length + 1) [] (Nat.lt_succ_self _) (fun c hc => nomatch hc)
  rw [List.append_nil] at hread
  have hskip : skipSpace v.print = printAt 0 v := by
    rw [print, htext]
    exact skipSpace_cons hc t
  rw [read?, hskip, hread]
  rfl

/-! ### What is read can be written -/

theorem isReadable_of_number? {negative : Bool} {whole : List ℕ} {part : Option (List ℕ)}
    {power : Option Int} (hwhole : ∀ d ∈ whole, d < 10)
    (h : number? negative whole part power = some v) : v.IsReadable := by
  rw [number?.eq_def] at h
  split at h
  · split at h
    · next hlength =>
      cases h
      apply IsReadable.integer
      have habs : (if negative then -(Numeral.value whole : Int) else Numeral.value whole).natAbs =
          Numeral.value whole := by
        cases negative <;> simp
      rw [habs, Text.ofNat, Nat.length_toDigits_le_iff (by norm_num) (by decide)]
      exact (Numeral.value_lt hwhole).trans_le (Nat.pow_le_pow_right (by norm_num) hlength)
    · cases h
  · cases h
    exact .real (Double.isCanonical_ofDigits _ _ _)

theorem lt_ten_of_takeDigits {t : Text} {ds : List ℕ} (h : takeDigits t = (ds, rest)) :
    ∀ d ∈ ds, d < 10 := by
  cases h
  exact Double.lt_ten_of_mem_digitValues fun c hc => List.mem_takeWhile_imp hc

theorem lt_ten_of_wholePart? {t : Text} {ds : List ℕ} (h : wholePart? t = some (ds, rest)) :
    ∀ d ∈ ds, d < 10 := by
  rw [wholePart?.eq_def] at h
  split at h
  · cases h
    simp
  · split at h
    · cases h
    · next heq =>
      cases h
      exact lt_ten_of_takeDigits heq

theorem isReadable_of_unsigned? {negative : Bool} {t : Text}
    (h : unsigned? negative t = some (v, rest)) : v.IsReadable := by
  rw [unsigned?, Option.bind_eq_bind, Option.bind_eq_some_iff] at h
  obtain ⟨⟨whole, t'⟩, hwhole, h⟩ := h
  obtain ⟨v', hnumber, hv⟩ := Option.bind_eq_some_iff.mp h
  cases hv
  exact isReadable_of_number? (lt_ten_of_wholePart? hwhole) hnumber

theorem isReadable_of_readNumber? {t : Text} (h : readNumber? t = some (v, rest)) :
    v.IsReadable := by
  rw [readNumber?.eq_def] at h
  split at h
  · exact isReadable_of_unsigned? h
  · exact isReadable_of_unsigned? h

theorem isReadable_of_readWord? {t : Text} (h : readWord? t = some (v, rest)) : v.IsReadable := by
  obtain ⟨⟨word, value⟩, hmem, hword⟩ := List.exists_of_findSome?_eq_some h
  have hreadable : ∀ entry ∈ fixedWords, entry.2.IsReadable := by
    intro entry hentry
    simp only [fixedWords, List.mem_cons, List.not_mem_nil, or_false] at hentry
    rcases hentry with rfl | rfl | rfl | rfl | rfl | rfl
    · exact .null
    · exact .bool true
    · exact .bool false
    · exact .real trivial
    · exact .real trivial
    · exact .real trivial
  dsimp only at hword
  split at hword
  · cases hword
    exact hreadable _ hmem
  · cases hword

/-- One more level of nesting. -/
theorem isReadable_of_readValue? {t : Text}
    (hvalues : ∀ t vs rest, readValues? fuel t = some (vs, rest) → ∀ v ∈ vs, v.IsReadable)
    (hmembers : ∀ t ms rest, readMembers? fuel t = some (ms, rest) → ∀ m ∈ ms, m.2.IsReadable)
    (h : readValue? (fuel + 1) t = some (v, rest)) : v.IsReadable := by
  rw [readValue?.eq_def] at h
  split at h
  · contradiction
  · obtain ⟨⟨s, t'⟩, -, hv⟩ := Option.bind_eq_some_iff.mp h
    cases hv
    exact .text s
  · next heq =>
    cases heq
    split at h
    · cases h
      exact .array (by simp)
    · obtain ⟨⟨vs, t'⟩, hfound, hv⟩ := Option.bind_eq_some_iff.mp h
      cases hv
      exact .array (hvalues _ _ _ hfound)
  · next heq =>
    cases heq
    split at h
    · cases h
      exact .object (by simp)
    · obtain ⟨⟨ms, t'⟩, hfound, hv⟩ := Option.bind_eq_some_iff.mp h
      cases hv
      exact .object (hmembers _ _ _ hfound)
  · rcases Option.or_eq_some_iff.mp h with hword | ⟨-, hnumber⟩
    · exact isReadable_of_readWord? hword
    · exact isReadable_of_readNumber? hnumber

theorem isReadable_of_readValues? {t : Text} {vs : List Json}
    (hvalue : ∀ t v rest, readValue? fuel t = some (v, rest) → v.IsReadable)
    (hvalues : ∀ t vs rest, readValues? fuel t = some (vs, rest) → ∀ v ∈ vs, v.IsReadable)
    (h : readValues? (fuel + 1) t = some (vs, rest)) : ∀ v ∈ vs, v.IsReadable := by
  rw [readValues?] at h
  obtain ⟨⟨v, t'⟩, hv, h⟩ := Option.bind_eq_some_iff.mp h
  dsimp only at h
  split at h
  · cases h
    simpa using hvalue _ _ _ hv
  · obtain ⟨⟨vs', t'⟩, hvs, h⟩ := Option.bind_eq_some_iff.mp h
    cases h
    intro u hu
    rcases List.mem_cons.mp hu with rfl | hmem
    · exact hvalue _ _ _ hv
    · exact hvalues _ _ _ hvs u hmem
  · cases h

theorem isReadable_of_readMembers? {t : Text} {ms : List (Text × Json)}
    (hvalue : ∀ t v rest, readValue? fuel t = some (v, rest) → v.IsReadable)
    (hmembers : ∀ t ms rest, readMembers? fuel t = some (ms, rest) → ∀ m ∈ ms, m.2.IsReadable)
    (h : readMembers? (fuel + 1) t = some (ms, rest)) : ∀ m ∈ ms, m.2.IsReadable := by
  rw [readMembers?.eq_def] at h
  split at h
  · next heq =>
    cases heq
    obtain ⟨⟨name, t'⟩, -, h⟩ := Option.bind_eq_some_iff.mp h
    dsimp only at h
    split at h
    · obtain ⟨⟨v, t'⟩, hv, h⟩ := Option.bind_eq_some_iff.mp h
      dsimp only at h
      split at h
      · cases h
        simpa using hvalue _ _ _ hv
      · obtain ⟨⟨ms', t'⟩, hms, h⟩ := Option.bind_eq_some_iff.mp h
        cases h
        intro m hm
        rcases List.mem_cons.mp hm with rfl | hmem
        · exact hvalue _ _ _ hv
        · exact hmembers _ _ _ hms m hmem
      · cases h
    · cases h
  · cases h

/-- The three readers of nested values give what can be read, by induction on the nesting. -/
theorem isReadable_of_readers (fuel : ℕ) :
    (∀ t v rest, readValue? fuel t = some (v, rest) → v.IsReadable) ∧
      (∀ t vs rest, readValues? fuel t = some (vs, rest) → ∀ v ∈ vs, v.IsReadable) ∧
      ∀ t ms rest, readMembers? fuel t = some (ms, rest) → ∀ m ∈ ms, m.2.IsReadable := by
  induction fuel with
  | zero =>
    refine ⟨fun t v rest h => ?_, fun t vs rest h => ?_, fun t ms rest h => ?_⟩
    · rw [readValue?] at h
      cases h
    · rw [readValues?] at h
      cases h
    · rw [readMembers?] at h
      · cases h
      · exact nofun
  | succ fuel ih =>
    obtain ⟨hvalue, hvalues, hmembers⟩ := ih
    exact ⟨fun t v rest h => isReadable_of_readValue? hvalues hmembers h,
      fun t vs rest h => isReadable_of_readValues? hvalue hvalues h,
      fun t ms rest h => isReadable_of_readMembers? hvalue hmembers h⟩

/-- What is read from a text can be read from a text. -/
theorem isReadable_of_read? {t : Text} (h : read? t = some v) : v.IsReadable := by
  obtain ⟨⟨v', rest'⟩, hread, h⟩ := Option.bind_eq_some_iff.mp h
  dsimp only at h
  split at h
  · cases h
    exact (isReadable_of_readers _).1 _ _ _ hread
  · cases h

/-- The members of a value that can be read can be read. -/
theorem isReadable_of_member? {data : Json} {name : Text} (hdata : data.IsReadable)
    (h : data.member? name = some v) : v.IsReadable := by
  rw [member?.eq_def] at h
  split at h
  · next members =>
    cases hdata with
    | object hmembers =>
      obtain ⟨before, after, hsplit, -⟩ := List.lookup_eq_some_iff.mp h
      have hmem : (name, v) ∈ members.reverse := by
        rw [hsplit]
        exact List.mem_append_right _ List.mem_cons_self
      exact hmembers (name, v) (List.mem_reverse.mp hmem)
  · cases h

end

end Json

end PortableShell
