import PortableShell.Proofs.Conduct
import PortableShell.Proofs.Preparation

/-!
# Paths in scripts

A script names a path by a literal between apostrophes, in which the apostrophes of the path are
doubled.  The interpreter of scripts takes the typographic forms of the apostrophe for apostrophes
too, also inside such a literal, and these are not doubled.  So a path is read as it is exactly if
it holds none of them.

## Main definitions

* `Invocation.typographicQuotes`, `Invocation.isLiteralQuote`: the characters that end a literal.
* `Invocation.readLiteral?`: what a literal denotes, and the script after it.
* `Invocation.NamesPath`: whether a script names a path between two fixed parts of it.

## Main statements

* `Invocation.readBody?_double`: what a doubled text without typographic quotes is read as.
* `Invocation.length_of_readBody?`: how much of a script is read for what it denotes.
* `Site.namesPath_script_iff`: which paths the scripts that are run name.
-/

namespace PortableShell

namespace Invocation

/-! ### Reading a literal -/

/-- The typographic forms of the apostrophe: the single quotation marks to the left and to the
right, low, and reversed. -/
def typographicQuotes : List Char :=
  ['\u2018', '\u2019', '\u201A', '\u201B']

/-- Whether a character is an apostrophe to the interpreter of scripts. -/
def isLiteralQuote (c : Char) : Bool :=
  c == '\x27' || typographicQuotes.contains c

/-- What a literal denotes that was opened before, and the script after it.  Of two quotes in a row
the second one is denoted, and a quote that stands alone ends the literal. -/
def readBody? : Text → Option (Text × Text)
  | [] => none
  | c :: t =>
    if isLiteralQuote c then
      match t with
      | [] => some ([], [])
      | d :: t =>
        if isLiteralQuote d then
          (readBody? t).map fun (denoted, rest) => (d :: denoted, rest)
        else
          some ([], d :: t)
    else
      (readBody? t).map fun (denoted, rest) => (c :: denoted, rest)

/-- What the literal denotes that a script starts with, and the script after it. -/
def readLiteral? : Text → Option (Text × Text)
  | '\x27' :: t => readBody? t
  | _ => none

/-- Whether a script is `before`, a literal that denotes `path`, and `after`. -/
def NamesPath (script before path after : Text) : Prop :=
  ∃ literal, script = before ++ literal ∧ readLiteral? literal = some (path, after)

variable {c d : Char} {t path rest : Text}

theorem readBody?_of_plain (hc : isLiteralQuote c = false) (t : Text) :
    readBody? (c :: t) = (readBody? t).map fun (denoted, rest) => (c :: denoted, rest) := by
  cases t <;> simp [readBody?, hc]

theorem readBody?_of_pair (hc : isLiteralQuote c = true) (hd : isLiteralQuote d = true)
    (t : Text) :
    readBody? (c :: d :: t) = (readBody? t).map fun (denoted, rest) => (d :: denoted, rest) := by
  simp [readBody?, hc, hd]

/-- A quote that no other one follows ends the literal. -/
theorem readBody?_of_end (hc : isLiteralQuote c = true)
    (hrest : ∀ d ∈ rest.head?, isLiteralQuote d = false) :
    readBody? (c :: rest) = some ([], rest) := by
  cases rest with
  | nil => simp [readBody?, hc]
  | cons d rest => simp [readBody?, hc, hrest d rfl]

/-- A literal is read up to the quote that ends it, and each quote that it denotes stands there
twice. -/
theorem length_of_readBody? {denoted : Text} (h : readBody? t = some (denoted, rest)) :
    t.length = denoted.length + denoted.countP isLiteralQuote + 1 + rest.length := by
  fun_induction readBody? t generalizing denoted with
  | case1 => simp at h
  | case2 c hc =>
    obtain ⟨rfl, rfl⟩ := Prod.mk.inj (Option.some.inj h)
    simp
  | case3 c hc d t hd ih =>
    obtain ⟨⟨inner, _⟩, hread, heq⟩ := Option.map_eq_some_iff.mp h
    obtain ⟨rfl, rfl⟩ := Prod.mk.inj heq
    have hlength := ih hread
    simp only [List.length_cons, List.countP_cons_of_pos hd]
    omega
  | case4 c hc d t hd =>
    obtain ⟨rfl, rfl⟩ := Prod.mk.inj (Option.some.inj h)
    simp only [List.length_cons, List.length_nil, List.countP_nil]
    omega
  | case5 c t hc ih =>
    obtain ⟨⟨inner, _⟩, hread, heq⟩ := Option.map_eq_some_iff.mp h
    obtain ⟨rfl, rfl⟩ := Prod.mk.inj heq
    have hlength := ih hread
    simp only [List.length_cons, List.countP_cons_of_neg hc]
    omega

/-! ### Writing a literal -/

theorem double_cons (c d : Char) (t : Text) :
    Text.double c (d :: t) = (if d = c then [d, d] else [d]) ++ Text.double c t := by
  simp only [Text.double, List.flatMap_cons]

theorem length_double (c : Char) (t : Text) : (Text.double c t).length = t.length + t.count c := by
  induction t with
  | nil => rfl
  | cons d t ih =>
    rw [double_cons, List.length_append, ih]
    by_cases hd : d = c
    · subst hd
      rw [if_pos rfl, List.count_cons_self]
      simp only [List.length_cons, List.length_nil]
      omega
    · rw [if_neg hd, List.count_cons_of_ne hd]
      simp only [List.length_cons, List.length_nil]
      omega

/-- A quote is an apostrophe or one of its typographic forms, and never both. -/
theorem countP_isLiteralQuote (t : Text) :
    t.countP isLiteralQuote = t.count '\x27' + t.countP typographicQuotes.contains := by
  induction t with
  | nil => rfl
  | cons c t ih =>
    by_cases hc : c = '\x27'
    · subst hc
      have hquote : isLiteralQuote '\x27' = true := rfl
      have hform : ¬ typographicQuotes.contains '\x27' = true := by decide
      rw [List.countP_cons_of_pos hquote, List.countP_cons_of_neg hform, List.count_cons_self, ih]
      omega
    · have hquote : isLiteralQuote c = typographicQuotes.contains c := by
        simp [isLiteralQuote, hc]
      rw [List.countP_cons, List.countP_cons, List.count_cons_of_ne hc, hquote, ih]
      omega

/-- A text in which apostrophes are doubled is read as it was, if there is no other quote in it. -/
theorem readBody?_double (hpath : ∀ c ∈ typographicQuotes, c ∉ path)
    (hrest : ∀ c ∈ rest.head?, isLiteralQuote c = false) :
    readBody? (Text.double '\x27' path ++ '\x27' :: rest) = some (path, rest) := by
  have hquote : isLiteralQuote '\x27' = true := rfl
  induction path with
  | nil => exact readBody?_of_end hquote hrest
  | cons c path ih =>
    have hread := ih fun d hd hmem => hpath d hd (List.mem_cons_of_mem c hmem)
    rw [double_cons]
    by_cases hc : c = '\x27'
    · rw [if_pos hc, hc, List.append_assoc, List.cons_append, List.singleton_append,
        readBody?_of_pair hquote hquote, hread]
      rfl
    · have hplain : isLiteralQuote c = false := by
        have hnot : c ∉ typographicQuotes := fun hmem => hpath c hmem List.mem_cons_self
        simp [isLiteralQuote, hc, hnot]
      rw [if_neg hc, List.append_assoc, List.singleton_append, readBody?_of_plain hplain, hread]
      rfl

/-- A path is read as it is exactly if there is no typographic quote in it. -/
theorem readLiteral?_scriptLiteral_iff (hrest : ∀ c ∈ rest.head?, isLiteralQuote c = false) :
    readLiteral? (scriptLiteral path ++ rest) = some (path, rest) ↔
      ∀ c ∈ typographicQuotes, c ∉ path := by
  have hliteral : readLiteral? (scriptLiteral path ++ rest) =
      readBody? (Text.double '\x27' path ++ '\x27' :: rest) := by
    simp [scriptLiteral, readLiteral?]
  rw [hliteral]
  refine ⟨fun h => ?_, fun hpath => readBody?_double hpath hrest⟩
  -- as many quotes are denoted as there are doubled, so all that are denoted are apostrophes
  have hread := length_of_readBody? h
  rw [List.length_append, length_double, List.length_cons, countP_isLiteralQuote] at hread
  have hnone : path.countP typographicQuotes.contains = 0 := by omega
  intro c hc hmem
  have hnot := List.countP_eq_zero.mp hnone c hmem
  exact hnot (List.contains_iff_mem.mpr hc)

/-- What follows a typographic quote in a path is read as script. -/
example : readLiteral? (scriptLiteral "/a’; b" ++ " -Head 10".toList) =
    some ("/a".toList, "; b' -Head 10".toList) := by
  decide +kernel

theorem namesPath_append_iff {before : Text}
    (hrest : ∀ c ∈ rest.head?, isLiteralQuote c = false) :
    NamesPath (before ++ scriptLiteral path ++ rest) before path rest ↔
      ∀ c ∈ typographicQuotes, c ∉ path := by
  rw [← readLiteral?_scriptLiteral_iff hrest]
  constructor
  · rintro ⟨literal, heq, hread⟩
    rw [List.append_assoc] at heq
    rwa [List.append_cancel_left heq]
  · exact fun hread => ⟨_, List.append_assoc before _ _, hread⟩

end Invocation

/-! ### The scripts of the procedures -/

open Invocation

/-- The script that shows the first lines of a file, and the one that adds up the sizes of the files
below a directory, name a path between their own fixed parts exactly if there is no typographic
quote in it.  On Windows these scripts are what `head` and `du` run, each in a single process. -/
theorem Site.namesPath_script_iff {s : Site} (hs : s.platform = .windows) (path : Text)
    (count : Nat) :
    (NamesPath (Procedure.firstLinesScript count path) "Get-Content -LiteralPath " path
        (" -Head " ++ Text.ofNat count) ↔ ∀ c ∈ typographicQuotes, c ∉ path) ∧
      (NamesPath (Procedure.usageScript path) "Get-ChildItem -LiteralPath " path
        Procedure.usageScriptEnd ↔ ∀ c ∈ typographicQuotes, c ∉ path) ∧
      ∀ raw w,
        (Procedure.prepareFirstLines s.session w.files raw = .ok (count, path) →
          ((s.plan .head raw).on w).2 = w.afterAttempt s.limit
            ⟨viaPowerShell (Procedure.firstLinesScript count path), s.directory⟩) ∧
        (Procedure.prepareUsage s.session w.files raw = .ok (.folder path) →
          ((s.plan .du raw).on w).2 = w.afterAttempt s.limit
            ⟨viaPowerShell (Procedure.usageScript path), s.directory⟩) := by
  have hlinesScript : Procedure.firstLinesScript count path = "Get-Content -LiteralPath ".toList ++
      scriptLiteral path ++ (" -Head ".toList ++ Text.ofNat count) :=
    List.append_assoc _ _ _
  have husageScript : Procedure.usageScript path = "Get-ChildItem -LiteralPath ".toList ++
      scriptLiteral path ++ Procedure.usageScriptEnd :=
    rfl
  -- both literals are followed by a space
  have hspace : ∀ c ∈ (some ' ' : Option Char), isLiteralQuote c = false := by
    rintro c ⟨⟩
    rfl
  refine ⟨?_, ?_, fun raw w => ⟨fun h => ?_, fun h => ?_⟩⟩
  · rw [hlinesScript]
    exact namesPath_append_iff hspace
  · rw [husageScript]
    exact namesPath_append_iff hspace
  · have hprepare : Procedure.firstLines.prepare s.session w.files raw = .ok (count, path) :=
      Result.ofReported_eq_ok.mpr h
    have hperform : Procedure.firstLines.perform s (count, path) =
        Procedure.performFirstLines s (count, path) := rfl
    rw [on_plan_of_prepare rfl rfl hprepare, hperform, Procedure.performFirstLines, hs,
      ActionOf.on_bind_pure, launchChecked, on_launchOr]
  · have hprepare : Procedure.diskUsage.prepare s.session w.files raw = .ok (.folder path) :=
      Result.ofReported_eq_ok.mpr h
    have hperform : Procedure.diskUsage.perform s (.folder path) =
        Procedure.performUsage s (.folder path) := rfl
    rw [on_plan_of_prepare rfl rfl hprepare, hperform, Procedure.performUsage,
      ActionOf.on_bind_pure, launchChecked, on_launchOr]

/-- A file with a typographic quote in its name is not named by the script that is run for it. -/
theorem Site.namesPath_script_of_quoted_name :
    let s : Site := ⟨{ directory := "/", platform := .windows, home := "/" }, .unlimited⟩
    let w : World := { files := ⟨[("/", .newDirectory), ("/it’s", .newFile)]⟩ }
    s.platform = .windows ∧
      Procedure.prepareFirstLines s.session w.files "it’s" = .ok (10, "/it’s") ∧
      Procedure.prepareUsage s.session w.files "it’s" = .ok (.folder "/it’s") ∧
      ((s.plan .head "it’s").on w).2 =
        w.afterAttempt s.limit ⟨viaPowerShell (Procedure.firstLinesScript 10 "/it’s"), "/"⟩ ∧
      ¬ NamesPath (Procedure.firstLinesScript 10 "/it’s") "Get-Content -LiteralPath " "/it’s"
        " -Head 10" ∧
      ((s.plan .du "it’s").on w).2 =
        w.afterAttempt s.limit ⟨viaPowerShell (Procedure.usageScript "/it’s"), "/"⟩ ∧
      ¬ NamesPath (Procedure.usageScript "/it’s") "Get-ChildItem -LiteralPath " "/it’s"
        Procedure.usageScriptEnd := by
  intro s w
  have hlines : Procedure.prepareFirstLines s.session w.files "it’s" = .ok (10, "/it’s") := by
    decide +kernel
  have husage : Procedure.prepareUsage s.session w.files "it’s" = .ok (.folder "/it’s") := by
    have htokens : Argument.tokens "it’s" = ["it’s".toList] := by decide +kernel
    have hpath : s.session.existing w.files .missingFile "Directory not found" "it’s" =
        .ok "/it’s" := by
      decide +kernel
    rw [Procedure.prepareUsage, htokens]
    simp only [s, hpath]
    rfl
  obtain ⟨hhead, hdu, hplan⟩ := namesPath_script_iff (s := s) rfl "/it’s" 10
  obtain ⟨hplanHead, hplanDu⟩ := hplan "it’s" w
  have hquoted : ¬ ∀ c ∈ typographicQuotes, c ∉ "/it’s".toList :=
    fun h => h '\u2019' (by simp [typographicQuotes]) (by simp)
  exact ⟨rfl, hlines, husage, hplanHead hlines, fun h => hquoted (hhead.mp h), hplanDu husage,
    fun h => hquoted (hdu.mp h)⟩

end PortableShell
