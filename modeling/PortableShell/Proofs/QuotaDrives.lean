import PortableShell.Proofs.Conduct
import PortableShell.Proofs.Preparation

/-!
# The drive that quotas are asked for

On Windows a check of quotas starts one process, and of what the user wrote at most the first
argument is handed to it: a letter and a colon, behind which a line feed is let through too.

## Main definitions

* `Procedure.NamesDrive`: the texts that name a drive.
* `Procedure.quotaQuery`: the tool of Windows that is asked.

## Main statements

* `Procedure.isDrive_iff`: what is taken for a drive.
* `Site.attempts_plan_quotacheck`: the process that a check of quotas starts.
-/

namespace PortableShell

namespace Procedure

/-- Whether a text names a drive: it is a letter of ASCII and a colon. -/
def NamesDrive (t : Text) : Prop :=
  ∃ letter, Text.isAsciiLetter letter = true ∧ t = [letter, ':']

/-- The tool of Windows that is asked for quotas. -/
def quotaQuery : List Text :=
  ["cmd.exe", "/c", "fsutil", "quota", "query"]

/-- What is taken for a drive is the name of one, or such a name with a line feed behind it. -/
theorem isDrive_iff {t : Text} :
    isDrive t = true ↔ NamesDrive t ∨ ∃ drive, NamesDrive drive ∧ t = drive ++ ['\n'] := by
  constructor
  · intro h
    rw [isDrive.eq_def] at h
    split at h
    · next letter => exact .inl ⟨letter, h, rfl⟩
    · next letter => exact .inr ⟨[letter, ':'], ⟨letter, h, rfl⟩, rfl⟩
    · cases h
  · rintro (⟨letter, h, rfl⟩ | ⟨-, ⟨letter, h, rfl⟩, rfl⟩)
    · exact h
    · exact h

theorem NamesDrive.not_concat {drive : Text} (h : NamesDrive drive) (c : Char) :
    ¬ NamesDrive (drive ++ [c]) := by
  obtain ⟨letter, -, rfl⟩ := h
  rintro ⟨other, -, heq⟩
  simp at heq

theorem quotasArgv_windows (tokens : List Text) :
    quotasArgv .windows tokens = quotaQuery ++ (tokens.head?.filter isDrive).toList := by
  rw [quotasArgv, List.take_one, Option.toList_filter]
  rfl

/-- A check of quotas is a single process, whatever the answer is made of. -/
theorem world_performQuotas (s : Site) (tokens : List Text) (w : World) :
    ((performQuotas s tokens).on w).2 =
      w.afterAttempt s.limit ⟨quotasArgv s.platform tokens, s.directory⟩ :=
  Site.world_launch_bind (fun _ => .lift_bind fun _ => .ite (.pure _) (.pure _)) _ w

end Procedure

namespace Site

open Procedure

/-- On Windows a check of quotas attempts exactly one process, which is handed the first argument if
that names a drive, or names one but for a line feed behind it, and which is handed nothing else.
So what it is handed names a drive unless the first argument has such a line feed. -/
theorem attempts_plan_quotacheck {s : Site} (hs : s.platform = .windows) (raw : Text) (w : World) :
    ∃ (forwarded : Option Text) (i : Invocation),
      i = ⟨quotaQuery ++ forwarded.toList, s.directory⟩ ∧
      ((s.plan .quotacheck raw).on w).2.attempts = w.attempts ++ [⟨i, w.outcomeOf s.limit i⟩] ∧
      (∀ t, forwarded = some t ↔ (Argument.tokens raw).head? = some t ∧
        (NamesDrive t ∨ ∃ drive, NamesDrive drive ∧ t = drive ++ ['\n'])) ∧
      ((∀ t, forwarded = some t → NamesDrive t) ↔
        ∀ drive, NamesDrive drive → (Argument.tokens raw).head? ≠ some (drive ++ ['\n'])) := by
  have hplan : ((s.plan .quotacheck raw).on w).2 =
      w.afterAttempt s.limit ⟨quotasArgv s.platform (Argument.tokens raw), s.directory⟩ := by
    rw [on_plan_of_prepare (p := quotas) rfl rfl rfl]
    exact world_performQuotas s _ w
  have hforwarded (t : Text) : (Argument.tokens raw).head?.filter isDrive = some t ↔
      (Argument.tokens raw).head? = some t ∧
        (NamesDrive t ∨ ∃ drive, NamesDrive drive ∧ t = drive ++ ['\n']) := by
    rw [Option.filter_eq_some_iff, isDrive_iff]
  refine ⟨(Argument.tokens raw).head?.filter isDrive, _, rfl, ?_, hforwarded, ?_⟩
  · rw [hplan, hs, quotasArgv_windows]
    rfl
  constructor
  · intro h drive hdrive hfirst
    exact hdrive.not_concat '\n' (h _ ((hforwarded _).mpr ⟨hfirst, .inr ⟨drive, hdrive, rfl⟩⟩))
  · intro h t ht
    obtain ⟨hfirst, hname | ⟨drive, hdrive, rfl⟩⟩ := (hforwarded t).mp ht
    · exact hname
    · exact absurd hfirst (h drive hdrive)

/-- A line feed between double quotes gets through behind a drive. -/
theorem attempts_plan_quotacheck_of_line_feed :
    let s : Site := ⟨{ directory := "/", platform := .windows, home := "/" }, .unlimited⟩
    let w : World := { files := .bare }
    s.platform = .windows ∧ ¬ NamesDrive "C:\n" ∧
      ((s.plan .quotacheck "\"C:\n\" D:").on w).2.attempts =
        [⟨⟨["cmd.exe", "/c", "fsutil", "quota", "query", "C:\n"], "/"⟩, .exits none 0⟩] := by
  intro s w
  have hdrive : NamesDrive "C:" := ⟨'C', rfl, rfl⟩
  obtain ⟨forwarded, i, rfl, hattempts, hforwarded, -⟩ :=
    attempts_plan_quotacheck (s := s) rfl "\"C:\n\" D:" w
  have hfeed : forwarded = some "C:\n".toList :=
    (hforwarded _).mpr ⟨rfl, .inr ⟨"C:", hdrive, rfl⟩⟩
  rw [hfeed] at hattempts
  exact ⟨rfl, hdrive.not_concat '\n', hattempts⟩

end Site

end PortableShell
