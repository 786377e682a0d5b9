import Mathlib.Algebra.Group.Nat.Even
import PortableShell.Proofs.Arguments

/-!
# What the command interpreter reads

On Windows a command without a procedure is handed to the command interpreter as one line, in which
a double quote opens or closes.  The interpreter takes some characters as its own operators if they
stand outside double quotes.  An argument stands between double quotes only if there is a space or
a tab in it, so from any other argument the operators are read as such.

## Main definitions

* `Invocation.bare`: what stands outside the double quotes of a command line.
* `Invocation.operators`: the characters that the interpreter reads as its own.

## Main statements

* `Argument.quote_notMem_tokens`: an argument of a text holds no double quote.
* `Invocation.bare_display`: what of each argument stands outside double quotes.
* `Site.operator_mem_bare_display_iff`: which operators of an argument text do.
-/

namespace PortableShell

/-! ### Arguments -/

/-- No argument holds a double quote. -/
theorem Argument.quote_notMem_of_mem_tokensFrom {quoted : Bool} {current t argument : Text}
    (hcurrent : '"' ∉ current) (h : argument ∈ tokensFrom quoted current t) : '"' ∉ argument := by
  induction t generalizing quoted current with
  | nil =>
    rw [tokensFrom_nil] at h
    obtain rfl := List.mem_singleton.mp (List.mem_of_mem_filter h)
    simpa using hcurrent
  | cons c t ih =>
    rw [tokensFrom] at h
    by_cases hc : c = '"'
    · rw [if_pos hc] at h
      exact ih hcurrent h
    · rw [if_neg hc] at h
      by_cases hbreak : (Text.isBlank c && ! quoted) = true
      · rw [if_pos hbreak] at h
        by_cases hempty : current.isEmpty = true
        · rw [if_pos hempty] at h
          exact ih List.not_mem_nil h
        · rw [if_neg hempty] at h
          rcases List.mem_cons.mp h with rfl | h
          · simpa using hcurrent
          · exact ih List.not_mem_nil h
      · rw [if_neg hbreak] at h
        refine ih ?_ h
        rw [List.mem_cons, not_or]
        exact ⟨Ne.symm hc, hcurrent⟩

theorem Argument.quote_notMem_tokens {raw argument : Text} (h : argument ∈ tokens raw) :
    '"' ∉ argument :=
  quote_notMem_of_mem_tokensFrom List.not_mem_nil h

namespace Invocation

/-! ### Outside double quotes -/

/-- What stands outside the double quotes of a command line from a place on where `quoted` tells
whether one is open. -/
def bareFrom (quoted : Bool) : Text → Text
  | [] => []
  | c :: t =>
    if c = '"' then
      bareFrom (! quoted) t
    else if quoted then
      bareFrom quoted t
    else
      c :: bareFrom quoted t

/-- What stands outside the double quotes of a command line. -/
def bare (line : Text) : Text :=
  bareFrom false line

/-- The characters that the command interpreter reads as its own where they stand outside double
quotes: they separate commands, connect them, redirect what they read and print, and take the
meaning of the next character. -/
def operators : List Char :=
  ['&', '|', '<', '>', '^']

variable {argument : Text} {arguments : List Text}

theorem bareFrom_append (h : '"' ∉ argument) (quoted : Bool) (t : Text) :
    bareFrom quoted (argument ++ t) = (if quoted then [] else argument) ++ bareFrom quoted t := by
  induction argument with
  | nil => cases quoted <;> rfl
  | cons c argument ih =>
    rw [List.mem_cons, not_or] at h
    obtain ⟨hc, hargument⟩ := h
    rw [List.cons_append, bareFrom, if_neg (Ne.symm hc), ih hargument]
    cases quoted <;> rfl

/-! ### One argument -/

/-- An argument without double quotes is written as it is, but that backslashes at its end may be
followed by as many again if a double quote comes next. -/
theorem escapeFrom_eq (closed : Bool) (pending : Nat) (h : '"' ∉ argument) :
    ∃ added, escapeFrom closed pending argument =
      List.replicate pending '\\' ++ argument ++ List.replicate added '\\' ∧
      (closed = false → added = 0) := by
  fun_induction escapeFrom closed pending argument with
  | case1 pending =>
    cases closed with
    | false => exact ⟨0, by simp, fun _ => rfl⟩
    | true => exact ⟨pending, by simp [Nat.two_mul], nofun⟩
  | case2 pending t ih =>
    obtain ⟨added, heq, hadded⟩ := ih (fun ht => h (List.mem_cons_of_mem _ ht))
    refine ⟨added, ?_, hadded⟩
    rw [heq, List.replicate_succ']
    simp
  | case3 => exact absurd List.mem_cons_self h
  | case4 pending c t _ _ ih =>
    obtain ⟨added, heq, hadded⟩ := ih (fun ht => h (List.mem_cons_of_mem _ ht))
    refine ⟨added, ?_, hadded⟩
    rw [heq]
    simp

/-- What of an argument stands outside double quotes: all of it or nothing. -/
def bareArgument (argument : Text) : Text :=
  if needsQuotes argument then [] else argument

theorem mem_bareArgument_iff {x : Char} :
    x ∈ bareArgument argument ↔ x ∈ argument ∧ ' ' ∉ argument ∧ '\t' ∉ argument := by
  rw [bareArgument, needsQuotes]
  cases argument with
  | nil => simp
  | cons c t =>
    by_cases hspace : ' ' ∈ c :: t
    · simp [hspace]
    · by_cases htab : '\t' ∈ c :: t
      · simp [hspace, htab]
      · simp [hspace, htab]

theorem bareFrom_argumentText_append (h : '"' ∉ argument) (t : Text) :
    bareFrom false (argumentText argument ++ t) = bareArgument argument ++ bareFrom false t := by
  rw [argumentText, bareArgument]
  by_cases hquotes : needsQuotes argument = true
  · obtain ⟨added, heq, -⟩ := escapeFrom_eq true 0 h
    have hinside : '"' ∉ argument ++ List.replicate added '\\' := by
      rw [List.mem_append, not_or]
      exact ⟨h, by simp⟩
    have hread := bareFrom_append hinside true ('"' :: t)
    rw [if_pos hquotes, if_pos hquotes, heq]
    -- the first double quote opens and the last one closes
    simpa [bareFrom] using hread
  · obtain ⟨added, heq, hadded⟩ := escapeFrom_eq false 0 h
    obtain rfl := hadded rfl
    rw [if_neg hquotes, if_neg hquotes, heq]
    simpa using bareFrom_append h false t

/-- Every double quote that opens has one that closes. -/
theorem even_count_argumentText (h : '"' ∉ argument) :
    Even ((argumentText argument).count '"') := by
  rw [argumentText]
  by_cases hquotes : needsQuotes argument = true
  · obtain ⟨added, heq, -⟩ := escapeFrom_eq true 0 h
    have hcount : (['"'] ++ escapeFrom true 0 argument ++ ['"']).count '"' = 2 := by
      rw [heq]
      simp [List.count_replicate, List.count_eq_zero_of_not_mem h]
    rw [if_pos hquotes, hcount]
    exact ⟨1, rfl⟩
  · obtain ⟨added, heq, hadded⟩ := escapeFrom_eq false 0 h
    obtain rfl := hadded rfl
    have hcount : (escapeFrom false 0 argument).count '"' = 0 := by
      rw [heq]
      simp [List.count_eq_zero_of_not_mem h]
    rw [if_neg hquotes, hcount]
    exact ⟨0, rfl⟩

/-! ### Command lines -/

/-- Of a command line whose arguments hold no double quotes, those arguments stand outside double
quotes that need none. -/
theorem bare_display {directory : Text} (h : ∀ a ∈ arguments, '"' ∉ a) :
    bare (display ⟨arguments, directory⟩) = Text.join [' '] (arguments.map bareArgument) := by
  rw [bare, display]
  induction arguments with
  | nil => rfl
  | cons a rest ih =>
    have ha : '"' ∉ a := h a List.mem_cons_self
    have hrest := ih fun b hb => h b (List.mem_cons_of_mem a hb)
    cases rest with
    | nil =>
      have hlast := bareFrom_argumentText_append ha []
      simpa [Text.join, bareFrom] using hlast
    | cons b rest =>
      have hmore := bareFrom_argumentText_append ha
        (' ' :: Text.join [' '] ((b :: rest).map argumentText))
      rw [bareFrom, if_neg (by decide), if_neg Bool.false_ne_true, hrest] at hmore
      simpa [Text.join] using hmore

theorem even_count_display {directory : Text} (h : ∀ a ∈ arguments, '"' ∉ a) :
    Even ((display ⟨arguments, directory⟩).count '"') := by
  rw [display]
  induction arguments with
  | nil => exact ⟨0, rfl⟩
  | cons a rest ih =>
    have ha := even_count_argumentText (h a List.mem_cons_self)
    have hrest := ih fun b hb => h b (List.mem_cons_of_mem a hb)
    cases rest with
    | nil => exact ha
    | cons b rest => simpa [Text.join, List.count_append] using ha.add hrest

/-- A character that separates no arguments is in the line if it is in one of them. -/
theorem mem_join_iff {c : Char} (hc : c ≠ ' ') :
    c ∈ Text.join [' '] arguments ↔ ∃ a ∈ arguments, c ∈ a := by
  induction arguments with
  | nil => simp [Text.join]
  | cons a rest ih =>
    cases rest with
    | nil => simp [Text.join]
    | cons b rest => simpa [Text.join, hc] using or_congr_right ih

end Invocation

/-! ### Commands that are handed over -/

/-- What the arguments of a command are put after holds neither double quotes nor operators. -/
theorem Command.notMem_nativeStart_windows (c : Command) {a : Text}
    (h : a ∈ c.nativeStart .windows) : '"' ∉ a ∧ ∀ x ∈ Invocation.operators, x ∉ a := by
  have hall : (c.nativeStart .windows).all (fun a => a.all fun x =>
      ! ('"' :: Invocation.operators).contains x) = true := by
    cases c <;> rfl
  have ha : ∀ x ∈ a, x ∉ '"' :: Invocation.operators := by
    simpa using List.all_eq_true.mp hall a h
  exact ⟨fun hquote => ha _ hquote List.mem_cons_self,
    fun x hx hxa => ha x hxa (List.mem_cons_of_mem _ hx)⟩

/-- For a command that is handed over on Windows, the double quotes of its command line come in
pairs, and an operator of the command interpreter stands outside of them exactly if it comes from
an argument in which there is neither a space nor a tab. -/
theorem Site.operator_mem_bare_display_iff {s : Site} (hs : s.platform = .windows) {c : Command}
    (hc : c.IsHandedOver .windows) (raw : Text) (w : World) :
    ∃ i, (s.plan c raw).on w = (.ok (.launch i), w) ∧
      Even (i.display.count '"') ∧
      ∀ x ∈ Invocation.operators,
        x ∈ Invocation.bare i.display ↔
          ∃ a ∈ Argument.tokens raw, x ∈ a ∧ ' ' ∉ a ∧ '\t' ∉ a := by
  have hplan : (s.plan c raw).on w =
      (.ok (.launch ⟨c.nativeStart .windows ++ Argument.tokens raw, s.directory⟩), w) := by
    rw [plan, hc.1, if_neg Bool.false_ne_true, hs, hc.2, Command.handOver_eq_nativeStart]
    rfl
  have hquote : ∀ a ∈ c.nativeStart .windows ++ Argument.tokens raw, '"' ∉ a := by
    intro a ha
    rcases List.mem_append.mp ha with ha | ha
    · exact (c.notMem_nativeStart_windows ha).1
    · exact Argument.quote_notMem_tokens ha
  refine ⟨_, hplan, Invocation.even_count_display hquote, fun x hx => ?_⟩
  have hspace : x ≠ ' ' := by
    rintro rfl
    exact absurd hx (by decide)
  have hstart : ∀ a ∈ c.nativeStart .windows, x ∉ Invocation.bareArgument a := fun a ha hxa =>
    (c.notMem_nativeStart_windows ha).2 x hx (Invocation.mem_bareArgument_iff.mp hxa).1
  rw [Invocation.bare_display hquote, Invocation.mem_join_iff hspace]
  simp only [List.mem_map, List.mem_append, ← Invocation.mem_bareArgument_iff]
  constructor
  · rintro ⟨_, ⟨a, ha | ha, rfl⟩, hxa⟩
    · exact absurd hxa (hstart a ha)
    · exact ⟨a, ha, hxa⟩
  · rintro ⟨a, ha, hxa⟩
    exact ⟨_, ⟨a, .inr ha, rfl⟩, hxa⟩

/-- Of two arguments with operators in them, one with a space and one without, the second one is
open to the command interpreter. -/
theorem Site.operator_mem_bare_display_dir :
    let s : Site := ⟨{ directory := "/", platform := .windows, home := "/" }, .unlimited⟩
    let w : World := { files := .bare }
    s.platform = .windows ∧ Command.ls.IsHandedOver .windows ∧
      ∃ i, (s.plan .ls "\"a | b\" c&d").on w = (.ok (.launch i), w) ∧
        '|' ∉ Invocation.bare i.display ∧ '&' ∈ Invocation.bare i.display := by
  intro s w
  have hc : Command.ls.IsHandedOver .windows := ⟨rfl, rfl⟩
  obtain ⟨i, hplan, -, hbare⟩ :=
    operator_mem_bare_display_iff (s := s) rfl hc "\"a | b\" c&d" w
  have htokens : Argument.tokens "\"a | b\" c&d" = ["a | b".toList, "c&d".toList] := by decide
  refine ⟨rfl, hc, i, hplan, ?_, ?_⟩
  · rw [hbare '|' (by decide), htokens]
    decide
  · rw [hbare '&' (by decide), htokens]
    decide

end PortableShell
