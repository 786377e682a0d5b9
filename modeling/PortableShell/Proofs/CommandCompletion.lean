import PortableShell.Proofs.Dialogue
import PortableShell.Proofs.History
import PortableShell.Proofs.LetterCase
import PortableShell.Terminal.Completion

/-!
# Completing the first word

A completion takes the place of the word that was typed, whatever the letters of that word have as
their lower case forms, and leaves the blanks in front of it.  What comes of it is a line that the
shell takes for the command that was offered.

## Main definitions

* `Text.Begins`: whether a word is what a name starts with, in letters of either case.
* `Completion.applyTo`: the text before the cursor once a completion is accepted.
* `Command.IsCalledBy`: the lines that call for a command without arguments.

## Main statements

* `Text.prefix_lower_iff`: which names start with a word in letters of either case.
* `Command.pairwise_alphabetical`: the alphabetical list is in order.
* `Completion.of_mem_words`: what each completion takes the place of.
* `Completion.offer_words_spec`: what is offered, and what comes of accepting it.
-/

namespace PortableShell

namespace Text

/-! ### Names that start with a word -/

/-- Whether a name starts with a word in letters of either case: with as many characters as the word
has, which have the same lower case form. -/
def Begins (word name : Text) : Prop :=
  ∃ start, start <+: name ∧ start.length = word.length ∧ lower start = lower word

variable {before t word name : Text}

theorem toNat_toLower_lt {c : Char} (h : c.toNat < 128) : c.toLower.toNat < 128 := by
  have hall : ∀ n < 128, (Char.ofNat n).toLower.toNat < 128 := by decide +kernel
  simpa using hall c.toNat h

theorem lower_of_ascii (h : ∀ c ∈ t, c.toNat < 128) : lower t = t.map Char.toLower := by
  simpa [lower, lowerAfter] using lowerAfter_append_of_ascii h [] []

/-- The one form of several characters has one that is not of ASCII. -/
theorem length_lowerAfter_of_ascii (h : ∀ d ∈ lowerAfter before t, d.toNat < 128) :
    (lowerAfter before t).length = t.length := by
  induction t generalizing before with
  | nil => rfl
  | cons c t ih =>
    rw [lowerAfter] at h ⊢
    have hrest := ih fun d hd => h d (List.mem_append_right _ hd)
    rw [List.length_append, hrest, List.length_cons, Nat.add_comm]
    obtain ⟨-, hform⟩ | hform | ⟨d, hform, -⟩ := lowerChar_cases before c t
    · rw [hform, List.length_singleton]
    · exact absurd (h '\u0307' (by simp [hform])) (by decide)
    · rw [hform, List.length_singleton]

/-- For a name of ASCII letters the lower case form of a word is what that of the name starts with
exactly if the word is what the name starts with, in letters of either case. -/
theorem prefix_lower_iff (hname : ∀ c ∈ name, c.toNat < 128) :
    lower word <+: lower name ↔ Begins word name := by
  have hlower : lower name = name.map Char.toLower := lower_of_ascii hname
  constructor
  · intro h
    have hascii : ∀ d ∈ lower word, d.toNat < 128 := by
      intro d hd
      have hmem := h.subset hd
      rw [hlower] at hmem
      obtain ⟨c, hc, rfl⟩ := List.mem_map.mp hmem
      exact toNat_toLower_lt (hname c hc)
    have hlength : (lower word).length = word.length := length_lowerAfter_of_ascii hascii
    have hle : word.length ≤ name.length := by
      simpa [hlower, hlength] using h.length_le
    refine ⟨name.take word.length, List.take_prefix _ _, List.length_take_of_le hle, ?_⟩
    rw [lower_of_ascii fun c hc => hname c (List.mem_of_mem_take hc), List.map_take, ← hlower,
      ← hlength]
    exact (List.prefix_iff_eq_take.mp h).symm
  · rintro ⟨start, ⟨rest, rfl⟩, -, hstart⟩
    have hascii : ∀ c ∈ start, c.toNat < 128 := fun c hc => hname c (List.mem_append_left _ hc)
    rw [← hstart, hlower, lower_of_ascii hascii, List.map_append]
    exact List.prefix_append _ _

end Text

namespace Command

/-! ### The commands and their names -/

theorem toNat_lt_of_mem_name (c : Command) : ∀ d ∈ c.name, d.toNat < 128 := by
  have hall : (c.name.all (·.toNat < 128)) = true := by cases c <;> rfl
  simpa using hall

/-- The alphabetical list is in order. -/
theorem pairwise_alphabetical : (alphabetical.map name).Pairwise (· < ·) := by
  decide +kernel

/-- Whether a line calls for a command without arguments: in every shell the command is recorded and
carried out with an empty argument text. -/
def IsCalledBy (c : Command) (line : Text) : Prop :=
  ∀ s : Shell, s.submitLine line = Prod.map (Reply.ofResult (Shell.echo c.name [])) id
    ((s.recorded c []).dispatch c [] (Shell.echo c.name []))

/-- The name of a command calls for it, also behind blanks. -/
theorem isCalledBy_append {blanks : Text} (h : ∀ b ∈ blanks, Text.isBlank b = true) (c : Command) :
    c.IsCalledBy (blanks ++ c.name) := by
  intro s
  have htrim : Text.trim (blanks ++ c.name) = c.name := by
    rw [Text.trim, Text.trimStart, List.dropWhile_append_of_pos h]
    exact c.trim_name
  have hparse : parse (Text.trim c.name) = .ok c := by rw [c.trim_name, c.parse_name]
  have hsubmit : s.submit c.name [] = _ := Shell.submit_of_parse hparse
  have hnone : Text.trim [] = [] := rfl
  have hline : s.submitLine c.name = s.submit c.name [] := Shell.submitLine_text s c hnone
  rw [c.trim_name] at hsubmit
  rw [← Shell.submitLine_trim, htrim, hline]
  exact hsubmit

end Command

namespace Completion

/-! ### Accepting a completion -/

/-- The text before the cursor once a completion has taken the place of its last characters. -/
def applyTo (before : Text) (k : Completion) : Text :=
  before.take (before.length - k.replaces) ++ k.text

theorem applyTo_append {k : Completion} {word : Text} (h : k.replaces = word.length)
    (front : Text) : k.applyTo (front ++ word) = front ++ k.text := by
  simp [applyTo, h]

/-- Each completion takes the place of all that follows the blanks in front. -/
theorem of_mem_words {before : Text} {offered : List Completion} {k : Completion}
    (h : offer before = .words offered) (hk : k ∈ offered) :
    k.replaces = (Text.trimStart before).length ∧
      (k.text ∈ frontEnd ∨ ∃ c : Command, k.text = c.name) := by
  by_cases hspace : ' ' ∈ Text.trimStart before
  · rw [offer_of_laterWord hspace] at h
    cases h
  by_cases hslash : before.head? = some '/'
  · have hplain : Text.isBlank '/' = false := by decide
    have hwhole : Text.trimStart before = before := by
      rw [Text.trimStart_eq_self_iff, hslash]
      rintro _ ⟨⟩
      exact hplain
    rw [hwhole] at hspace ⊢
    rw [offer_of_slash hslash hspace] at h
    cases h
    obtain ⟨t, ht, rfl⟩ := List.mem_map.mp hk
    exact ⟨rfl, .inl (List.mem_of_mem_filter ht)⟩
  · rw [offer_of_firstWord hslash hspace] at h
    cases h
    obtain ⟨c, -, rfl⟩ := List.mem_map.mp hk
    exact ⟨rfl, .inr ⟨c, rfl⟩⟩

/-- Where no path is completed, what is offered does not reach beyond the start of the text, and
accepting it leaves the blanks in front, with what can be typed besides commands behind them or with
a command, for which the line then calls without arguments.  For a first word without a slash in
front, the names of commands that are offered are those that start with the word in letters of
either case, each once and in alphabetical order. -/
theorem offer_words_spec (before : Text) :
    (∀ offered, offer before = .words offered → ∀ k ∈ offered,
      k.replaces ≤ before.length ∧
      k.applyTo before = before.takeWhile Text.isBlank ++ k.text ∧
      (k.text ∈ frontEnd ∨ ∃ c : Command, k.text = c.name ∧ c.IsCalledBy (k.applyTo before))) ∧
    (' ' ∉ Text.trimStart before → before.head? ≠ some '/' → ∃ offered,
      offer before = .words offered ∧ (offered.map text).Pairwise (· < ·) ∧
      ∀ name, name ∈ offered.map text ↔
        ∃ c : Command, c.name = name ∧ Text.Begins (Text.trimStart before) name) := by
  constructor
  · intro offered hoffer k hk
    obtain ⟨hreplaces, htext⟩ := of_mem_words hoffer hk
    have happly : k.applyTo before = before.takeWhile Text.isBlank ++ k.text := by
      have hsplit : before.takeWhile Text.isBlank ++ Text.trimStart before = before :=
        List.takeWhile_append_dropWhile
      conv_lhs => rw [← hsplit, applyTo_append hreplaces]
    refine ⟨hreplaces ▸ List.length_dropWhile_le _ _, happly, htext.imp_right ?_⟩
    rintro ⟨c, hc⟩
    rw [happly, hc]
    exact ⟨c, rfl, c.isCalledBy_append fun b hb => List.mem_takeWhile_imp hb⟩
  · intro hspace hslash
    refine ⟨_, offer_of_firstWord hslash hspace, ?_, fun name => ?_⟩
    · rw [List.map_map]
      exact Command.pairwise_alphabetical.sublist (List.filter_sublist.map _)
    · simp only [List.map_map, List.mem_map, List.mem_filter, Function.comp_apply,
        List.isPrefixOf_iff_prefix]
      constructor
      · rintro ⟨c, ⟨-, hc⟩, rfl⟩
        exact ⟨c, rfl, (Text.prefix_lower_iff c.toNat_lt_of_mem_name).mp hc⟩
      · rintro ⟨c, rfl, hc⟩
        exact ⟨c, ⟨c.mem_alphabetical,
          (Text.prefix_lower_iff c.toNat_lt_of_mem_name).mpr hc⟩, rfl⟩

/-- The Kelvin sign has a `k` as its form. -/
theorem offer_words_of_kelvin_sign :
    let before : Text := "\tm\u212a"
    ' ' ∉ Text.trimStart before ∧ before.head? ≠ some '/' ∧
      offer before = .words [⟨"mkdir", 2⟩] ∧
      applyTo before ⟨"mkdir", 2⟩ = "\tmkdir" ∧ Text.Begins "m\u212a" "mkdir" := by
  intro before
  have hspace : ' ' ∉ Text.trimStart before := by decide
  have hslash : before.head? ≠ some '/' := by decide
  have hoffer : offer before = .words [⟨"mkdir", 2⟩] := by decide +kernel
  obtain ⟨hsound, hcomplete⟩ := offer_words_spec before
  obtain ⟨-, happly, -⟩ := hsound _ hoffer ⟨"mkdir", 2⟩ List.mem_cons_self
  obtain ⟨offered, hoffered, -, hnames⟩ := hcomplete hspace hslash
  obtain rfl := Offer.words.inj (hoffer.symm.trans hoffered)
  obtain ⟨-, -, hbegins⟩ := (hnames "mkdir").mp List.mem_cons_self
  exact ⟨hspace, hslash, hoffer, happly, hbegins⟩

end Completion

end PortableShell
