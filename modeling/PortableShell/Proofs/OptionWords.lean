import PortableShell.Options
import PortableShell.Proofs.Action
import PortableShell.Proofs.Decimals

/-!
# What the words of a command line ask for

Words are read from left to right, and each option among them changes what was asked for so far.  So
a property of what is asked for holds in the end if it holds without any options and no option takes
it away, whichever way the words of a subcommand are read.

## Main definitions

* `Options.Kept`: the properties that no option and no subcommand takes away.

## Main statements

* `Options.set_cases`: what one option does.
* `Options.Kept.parse`: such a property holds of what words ask for.
* `Options.isCanonical_of_parse`: the time limit that words ask for is in canonical form.
-/

namespace PortableShell.Options

/-- Whether a property of options is kept when one more is set, and for any subcommand. -/
structure Kept (P : Options → Prop) : Prop where
  set : ∀ {o o' : Options} {f : Flag} {t : Text}, P o → o.set f t = .ok o' → P o'
  withSubcommand : ∀ {o : Options} (s : Subcommand), P o → P { o with subcommand := s }

namespace Kept

variable {P : Options → Prop} {o o' : Options} {stray : Bool}

theorem config {words : List (Text × Word)} (h : Kept P) (ho : P o)
    (hread : o.config stray words = .ok o') : P o' := by
  fun_induction Options.config o stray words with
  | case1 => cases hread
  | case2 =>
    cases hread
    exact h.withSubcommand _ ho
  -- a word that makes no sense, which shows at the end
  | case4 _ _ _ _ ih | case5 _ _ _ _ ih => exact ih ho hread
  -- an option and its value, as one word or as two
  | case8 _ _ _ _ _ _ ih | case9 _ _ _ _ _ _ _ ih =>
    obtain ⟨next, hset, hread⟩ := Result.bind_eq_ok.mp hread
    exact ih next (h.set ho hset) hread
  | case3 | case6 | case7 | case10 => cases hread

theorem withCommand {command : Text} {arguments : List (Text × Word)} (h : Kept P) (ho : P o)
    (hread : o.withCommand stray command arguments = .ok o') : P o' := by
  rw [Options.withCommand] at hread
  split at hread
  · cases hread
  · cases hread
    exact h.withSubcommand _ ho

theorem run {words : List (Text × Word)} (h : Kept P) (ho : P o)
    (hread : o.run stray words = .ok o') : P o' := by
  fun_induction Options.run o stray words with
  -- the command, with a divider before it, after it or not at all
  | case2 | case4 | case5 => exact h.withCommand ho hread
  | case6 _ _ _ ih => exact ih hread
  | case1 | case3 | case7 | case8 | case9 => cases hread

theorem subcommandOf {name : Text} {words : List Text} (h : Kept P) (ho : P o)
    (hread : o.subcommandOf stray name words = .ok o') : P o' := by
  have hend {found : Options} (hfound : P found)
      (hread : (if stray then throw .misuse else pure found : Except Stop Options) = .ok o') :
      P o' := by
    split at hread
    · cases hread
    · cases hread
      exact hfound
  rw [Options.subcommandOf] at hread
  split at hread
  · obtain ⟨read, -, hread⟩ := Result.bind_eq_ok.mp hread
    obtain ⟨found, hfound, hread⟩ := Result.bind_eq_ok.mp hread
    exact hend (h.run ho hfound) hread
  · split at hread
    · obtain ⟨read, -, hread⟩ := Result.bind_eq_ok.mp hread
      obtain ⟨found, hfound, hread⟩ := Result.bind_eq_ok.mp hread
      exact hend (h.config ho hfound) hread
    · cases hread

theorem start {words : List (Text × Word)} (h : Kept P) (ho : P o)
    (hread : o.start stray words = .ok o') : P o' := by
  fun_induction Options.start o stray words with
  | case1 => cases hread
  | case2 =>
    cases hread
    exact ho
  | case4 => exact h.subcommandOf ho hread
  | case5 _ _ _ _ ih => exact ih ho hread
  | case8 _ _ _ _ _ _ ih | case9 _ _ _ _ _ _ _ ih =>
    obtain ⟨next, hset, hread⟩ := Result.bind_eq_ok.mp hread
    exact ih next (h.set ho hset) hread
  | case3 | case6 | case7 | case10 => cases hread

/-- What holds without any options, and is kept by every one of them, holds of what words ask
for. -/
theorem parse {words : List Text} (h : Kept P) (hnone : P {})
    (hread : Options.parse words = .ok o) : P o := by
  obtain ⟨read, -, hread⟩ := Result.bind_eq_ok.mp hread
  exact h.start hnone hread

end Kept

/-- An option with a value sets one thing, to what the value says. -/
theorem set_cases {o o' : Options} {f : Flag} {t : Text} (h : o.set f t = .ok o') :
    (∃ p, PlatformChoice.ofName? t = some p ∧ o' = { o with platform := some p }) ∨
      (∃ x, Double.read? t = some x ∧ o' = { o with timeout := some x }) ∨
      ∃ l, LogLevel.ofName? t = some l ∧ o' = { o with logLevel := some l } := by
  rw [Options.set.eq_def] at h
  split at h
  · cases h
  · split at h
    · next p hp => exact .inl ⟨p, hp, (Except.ok.inj h).symm⟩
    · cases h
  · split at h
    · next x hx => exact .inr (.inl ⟨x, hx, (Except.ok.inj h).symm⟩)
    · cases h
  · split at h
    · next l hl => exact .inr (.inr ⟨l, hl, (Except.ok.inj h).symm⟩)
    · cases h

/-- A number that words ask for as a time limit is in canonical form. -/
theorem isCanonical_of_parse {words : List Text} {o : Options} (h : parse words = .ok o) :
    ∀ x ∈ o.timeout, x.IsCanonical := by
  have hkept : Kept fun o => ∀ x ∈ o.timeout, x.IsCanonical := by
    refine ⟨fun ho hset => ?_, fun _ ho => ho⟩
    obtain ⟨p, -, rfl⟩ | ⟨x, hx, rfl⟩ | ⟨l, -, rfl⟩ := set_cases hset
    · exact ho
    · intro y hy
      cases hy
      exact Double.isCanonical_of_read? hx
    · exact ho
  exact hkept.parse nofun h

end PortableShell.Options
