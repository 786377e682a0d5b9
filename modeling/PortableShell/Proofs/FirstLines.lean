import PortableShell.Proofs.Conduct
import PortableShell.Proofs.Preparation
import PortableShell.Proofs.WrittenNumbers

/-!
# How many lines are shown

The first lines of a file are asked for by the file alone, or by `-n`, a number and the file.  The
number may be written with digits of any script, a sign, low lines and blanks, but the tool is given
it in decimal digits without a zero in front.  A number that can be read has no more digits than one
that can be written.

## Main definitions

* `Integer.write?`: a whole number in decimal digits, if it can be written.
* `Text.IsDecimal`: whether a text is the shortest decimal form of a number.
* `HeadRequest.Fits`: what an argument text asks for.
* `Procedure.firstLinesArgv`: the tool with the number as it is written.

## Main statements

* `Integer.write?_of_read?`: what can be read can be written.
* `HeadRequest.parse_eq_ok_iff`, `HeadRequest.kind_of_parse_eq_error`: what is understood, and the
  kinds of error if it is not.
* `Site.plan_head_spec`: both, and what `head` runs.
-/

namespace PortableShell

/-! ### Numbers that are read and written -/

theorem Numeral.lt_ten_of_digits? {t : Text} {ds : List Nat} (h : digits? t = some ds) :
    ∀ d ∈ ds, d < 10 := by
  fun_induction digits? t generalizing ds with
  | case1 => cases h
  | case2 c =>
    obtain ⟨d, hd, rfl⟩ := Option.map_eq_some_iff.mp h
    simpa using Text.digitValue?_lt_ten hd
  | case3 c t ih | case4 c t _ _ ih =>
    obtain ⟨d, hd, h⟩ := Option.bind_eq_some_iff.mp h
    obtain ⟨es, hes, h⟩ := Option.bind_eq_some_iff.mp h
    obtain rfl := Option.some.inj h
    exact List.forall_mem_cons.mpr ⟨Text.digitValue?_lt_ten hd, ih hes⟩

namespace Integer

variable {t : Text} {n : Nat}

/-- A whole number in decimal digits.  If it has more of them than may be read, it cannot be written
either. -/
def write? (n : Nat) : Option Text :=
  if (Text.ofNat n).length ≤ Numeral.maxDigits then some (Text.ofNat n) else none

/-- A number that was read has no more digits than it may have. -/
theorem length_ofNat_le_of_read? (h : read? t = some (n : Int)) :
    (Text.ofNat n).length ≤ Numeral.maxDigits := by
  rw [read?] at h
  generalize Numeral.sign (Numeral.core t) = signed at h
  obtain ⟨negative, run⟩ := signed
  obtain ⟨ds, hds, h⟩ := Option.bind_eq_some_iff.mp h
  by_cases hlength : ds.length ≤ Numeral.maxDigits
  · rw [if_pos hlength] at h
    have hsigned : (if negative then -(Numeral.value ds : Int) else Numeral.value ds) = n :=
      Option.some.inj h
    have hvalue : Numeral.value ds = n := by
      split at hsigned <;> omega
    rw [Text.ofNat, Nat.length_toDigits_le_iff (by norm_num) (by decide), ← hvalue]
    exact (Numeral.value_lt (Numeral.lt_ten_of_digits? hds)).trans_le
      (Nat.pow_le_pow_right (by norm_num) hlength)
  · rw [if_neg hlength] at h
    cases h

/-- What can be read can be written. -/
theorem write?_of_read? (h : read? t = some (n : Int)) : write? n = some (Text.ofNat n) :=
  if_pos (length_ofNat_le_of_read? h)

end Integer

/-- Whether a text is the shortest decimal form of a number: digits from `0` to `9` that denote it,
of which zero comes first only alone. -/
structure Text.IsDecimal (t : Text) (n : Nat) : Prop where
  ne_nil : t ≠ []
  isAsciiDigit : ∀ c ∈ t, Text.isAsciiDigit c = true
  eq_of_head? : t.head? = some '0' → t = ['0']
  value : Numeral.value (Double.digitValues t) = n

theorem Text.isDecimal_ofNat (n : Nat) : (Text.ofNat n).IsDecimal n where
  ne_nil := Text.ofNat_ne_nil n
  isAsciiDigit _ := Text.isAsciiDigit_of_mem_ofNat
  eq_of_head? hhead := by
    by_cases hn : n = 0
    · rw [hn]
      rfl
    · exact absurd hhead (Double.head?_ofNat_ne hn)
  value := Double.value_digitValues_ofNat n

/-! ### What is asked for -/

namespace HeadRequest

variable {raw : Text} {request : HeadRequest}

/-- What an argument text asks for: ten lines of the file that is its only argument, or as many as
the number between `-n` and the file says. -/
inductive Fits (raw : Text) : HeadRequest → Prop
  | file {name : Text} (h : Argument.tokens raw = [name]) (hname : name ≠ ['-', 'n']) :
      Fits raw ⟨10, name⟩
  | counted {given name : Text} {count : Nat} (h : Argument.tokens raw = [['-', 'n'], given, name])
      (hcount : Integer.read? given = some (count : Int)) : Fits raw ⟨count, name⟩

theorem parse_of_option {given : Text} {names : List Text}
    (h : Argument.tokens raw = ['-', 'n'] :: given :: names) :
    parse raw = parseCount given >>= fun count => onlyFile count names := by
  rw [parse, h]
  exact if_pos rfl

theorem parse_of_file {first : Text} {names : List Text}
    (h : Argument.tokens raw = first :: names) (hfirst : first ≠ ['-', 'n']) :
    parse raw = onlyFile defaultCount (first :: names) := by
  rw [parse, h]
  exact if_neg hfirst

theorem parseCount_eq_ok_iff {given : Text} {count : Nat} :
    parseCount given = .ok count ↔ Integer.read? given = some (count : Int) := by
  rw [parseCount]
  rcases Integer.read? given with _ | ⟨n | n⟩
  · simp
  · simp
  · simp

theorem onlyFile_eq_ok_iff {count : Nat} {names : List Text} :
    onlyFile count names = .ok request ↔ ∃ name, names = [name] ∧ request = ⟨count, name⟩ := by
  rcases names with _ | ⟨name, _ | ⟨other, names⟩⟩ <;> simp [onlyFile, eq_comm]

/-- The kinds of error of arguments that are not understood: something is missing, too much, or
invalid. -/
def refusals : List ErrorKind :=
  [.missingArgument, .tooManyArguments, .invalidArgument]

theorem kind_of_parseCount_eq_error {given : Text} {e : ShellError}
    (h : parseCount given = .error e) : e.kind ∈ refusals := by
  have hbad : (badCount given).kind = .invalidArgument := rfl
  rw [parseCount] at h
  split at h <;> cases h
  rw [hbad]
  decide

theorem kind_of_onlyFile_eq_error {count : Nat} {names : List Text} {e : ShellError}
    (h : onlyFile count names = .error e) : e.kind ∈ refusals := by
  rcases names with _ | ⟨name, _ | ⟨other, names⟩⟩ <;> cases h <;> decide

/-- An argument text without a file, one with a number, or one without. -/
theorem parse_cases (raw : Text) :
    (∃ e, parse raw = .error e ∧ e.kind ∈ refusals) ∨
      (∃ given names, Argument.tokens raw = ['-', 'n'] :: given :: names ∧
        parse raw = parseCount given >>= fun count => onlyFile count names) ∨
      ∃ first names, Argument.tokens raw = first :: names ∧ first ≠ ['-', 'n'] ∧
        parse raw = onlyFile defaultCount (first :: names) := by
  rcases htokens : Argument.tokens raw with _ | ⟨first, names⟩
  · rw [parse, htokens]
    exact .inl ⟨_, rfl, by decide⟩
  · by_cases hfirst : first = ['-', 'n']
    · subst hfirst
      rcases names with _ | ⟨given, names⟩
      · rw [parse, htokens]
        exact .inl ⟨_, rfl, by decide⟩
      · exact .inr (.inl ⟨given, names, rfl, parse_of_option htokens⟩)
    · exact .inr (.inr ⟨first, names, rfl, hfirst, parse_of_file htokens hfirst⟩)

theorem parse_eq_ok_iff : parse raw = .ok request ↔ Fits raw request := by
  constructor
  · intro h
    rcases parse_cases raw with
      ⟨e, hparse, -⟩ | ⟨given, names, htokens, hparse⟩ | ⟨first, names, htokens, hfirst, hparse⟩
    · rw [hparse] at h
      cases h
    · rw [hparse] at h
      obtain ⟨count, hcount, h⟩ := Result.bind_eq_ok.mp h
      obtain ⟨name, rfl, rfl⟩ := onlyFile_eq_ok_iff.mp h
      exact .counted htokens (parseCount_eq_ok_iff.mp hcount)
    · rw [hparse] at h
      obtain ⟨name, hnames, rfl⟩ := onlyFile_eq_ok_iff.mp h
      obtain ⟨rfl, rfl⟩ := List.cons.inj hnames
      exact .file htokens hfirst
  · rintro (⟨htokens, hname⟩ | ⟨htokens, hcount⟩)
    · rw [parse_of_file htokens hname]
      rfl
    · rw [parse_of_option htokens, parseCount_eq_ok_iff.mpr hcount]
      rfl

/-- What is not understood is refused with an error of one of these kinds. -/
theorem kind_of_parse_eq_error {e : ShellError} (h : parse raw = .error e) :
    e.kind ∈ refusals := by
  rcases parse_cases raw with ⟨e', hparse, hkind⟩ | ⟨given, names, -, hparse⟩ |
    ⟨first, names, -, -, hparse⟩ <;> rw [hparse] at h
  · cases h
    exact hkind
  · cases hcount : parseCount given with
    | ok count =>
      rw [hcount] at h
      exact kind_of_onlyFile_eq_error h
    | error e' =>
      rw [hcount] at h
      cases h
      exact kind_of_parseCount_eq_error hcount
  · exact kind_of_onlyFile_eq_error h

/-- A number of lines that is asked for can be written. -/
theorem Fits.write?_count (h : Fits raw request) :
    Integer.write? request.count = some (Text.ofNat request.count) := by
  cases h with
  | file =>
    have hten : Integer.write? 10 = some (Text.ofNat 10) := if_pos (by decide)
    exact hten
  | counted _ hcount => exact Integer.write?_of_read? hcount

end HeadRequest

/-! ### What is run -/

/-- The tool that shows the first lines of a file, with their number as it is written. -/
def Procedure.firstLinesArgv (platform : Platform) (digits path : Text) : List Text :=
  match platform with
  | .posix => ["head", "-n", digits, path]
  | .windows => Invocation.viaPowerShell
      ("Get-Content -LiteralPath " ++ Invocation.scriptLiteral path ++ " -Head " ++ digits)

theorem Procedure.prepareFirstLines_eq_ok {s : Session} {files : FileSystem} {raw path : Text}
    {request : HeadRequest} (h : HeadRequest.parse raw = .ok request)
    (hpath : s.existingFile files request.file = .ok path) :
    prepareFirstLines s files raw = .ok (request.count, path) :=
  Result.bind_eq_ok.mpr ⟨request, h, Result.bind_eq_ok.mpr ⟨path, hpath, rfl⟩⟩

/-- An argument text is understood exactly if it is a file that is not `-n`, or `-n`, a number that
is not negative, and a file; every other one is refused as something missing, too much, or invalid.
If it is understood and the file exists, `head` runs a single process, which is given the number in
its shortest decimal form, and every such number can be written. -/
theorem Site.plan_head_spec (raw : Text) :
    (∀ request, HeadRequest.parse raw = .ok request ↔ HeadRequest.Fits raw request) ∧
      (∀ e, HeadRequest.parse raw = .error e → e.kind ∈ HeadRequest.refusals) ∧
      ∀ (s : Site) (w : World) (request : HeadRequest) (path : Text),
        HeadRequest.parse raw = .ok request →
        s.session.existingFile w.files request.file = .ok path →
          ∃ digits, Integer.write? request.count = some digits ∧
            digits.IsDecimal request.count ∧
            ((s.plan .head raw).on w).2 =
              w.afterAttempt s.limit
                ⟨Procedure.firstLinesArgv s.platform digits path, s.directory⟩ := by
  refine ⟨fun request => HeadRequest.parse_eq_ok_iff, fun e => HeadRequest.kind_of_parse_eq_error,
    fun s w request path hparse hpath => ?_⟩
  have hprepare : Procedure.firstLines.prepare s.session w.files raw = .ok (request.count, path) :=
    Result.ofReported_eq_ok.mpr (Procedure.prepareFirstLines_eq_ok hparse hpath)
  have hperform : Procedure.firstLines.perform s (request.count, path) =
      Procedure.performFirstLines s (request.count, path) := rfl
  have hwrite := (HeadRequest.parse_eq_ok_iff.mp hparse).write?_count
  refine ⟨Text.ofNat request.count, hwrite, Text.isDecimal_ofNat _, ?_⟩
  rw [on_plan_of_prepare rfl rfl hprepare, hperform, Procedure.performFirstLines,
    ActionOf.on_bind_pure, launchChecked, on_launchOr]
  cases s.platform <;> rfl

/-- A number in other digits, with a sign, low lines and a zero in front. -/
theorem Site.plan_head_of_other_digits :
    let s : Site := ⟨{ directory := "/", platform := .posix, home := "/" }, .unlimited⟩
    let w : World := { files := ⟨[("/", .newDirectory), ("/a", .newFile)]⟩ }
    HeadRequest.parse "-n +0_١_2 a" = .ok ⟨12, "a"⟩ ∧
      s.session.existingFile w.files "a" = .ok "/a" ∧
      HeadRequest.Fits "-n +0_١_2 a" ⟨12, "a"⟩ ∧
      ((s.plan .head "-n +0_١_2 a").on w).2 =
        w.afterAttempt s.limit ⟨["head", "-n", "12", "/a"], "/"⟩ ∧
      HeadRequest.parse "-n ٣__2 a" = .error (HeadRequest.badCount "٣__2") ∧
      (HeadRequest.badCount "٣__2").kind ∈ HeadRequest.refusals := by
  intro s w
  have hparse : HeadRequest.parse "-n +0_١_2 a" = .ok ⟨12, "a"⟩ := by decide +kernel
  have hpath : s.session.existingFile w.files "a" = .ok "/a" := rfl
  have hbad : HeadRequest.parse "-n ٣__2 a" = .error (HeadRequest.badCount "٣__2") := by
    decide +kernel
  obtain ⟨hfits, -, hplan⟩ := plan_head_spec "-n +0_١_2 a"
  obtain ⟨-, hkind, -⟩ := plan_head_spec "-n ٣__2 a"
  obtain ⟨digits, hdigits, -, hworld⟩ := hplan s w _ _ hparse hpath
  obtain rfl : "12".toList = digits := Option.some.inj hdigits
  exact ⟨hparse, hpath, (hfits _).mp hparse, hworld, hbad, hkind _ hbad⟩

end PortableShell
