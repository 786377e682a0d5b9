import Mathlib.Data.List.Infix
import PortableShell.Proofs.Conduct
import PortableShell.Proofs.Pieces
import PortableShell.Proofs.Preparation

/-!
# The results of a search

The tool that searches for files tells by its output whether it found any, and this output is looked
at before its exit code.  What is printed is the answer, unless it is blank or the sentence
`File Not Found` occurs in it, be it in the name of a file.

## Main definitions

* `Site.searchArgv`, `Site.searchNotice`: the tool of a search, and what is said if there are no
  results.

## Main statements

* `Procedure.on_search`: what a search is answered with if its tool ends without an error.
* `Site.plan_search`: what `find` and `locate` are answered with.
-/

namespace PortableShell

namespace Procedure

theorem preparePattern_of_ne_nil {raw : Text} (h : Text.without '"' (Text.trim raw) ≠ [])
    (command : Text) : preparePattern command raw = .ok (Text.without '"' (Text.trim raw)) := by
  rw [preparePattern]
  split
  · contradiction
  · rfl

/-- A search is a single process, and its answer is told from what this printed. -/
theorem on_search {s : Site} {w : World} {output : Text} (argv : List Text)
    (houtcome : w.outcomeOf s.limit ⟨argv, s.directory⟩ = .exits (some output) 0)
    (hblank : Text.isAllBlank output = false) (nothing failure : Text) :
    (s.launch argv >>= fun result => liftM (searchAnswer result nothing failure) :
        Action Answer).on w =
      (.ok (if foundNothing <:+: output then .notice nothing else .listing output),
        w.afterAttempt s.limit ⟨argv, s.directory⟩) := by
  have hanswer : searchAnswer ⟨output, 0⟩ nothing failure =
      .ok (if foundNothing <:+: output then .notice nothing else .listing output) := by
    rw [searchAnswer, hblank, Bool.false_or]
    simp only [Text.hasInfix_iff]
    split <;> rfl
  rw [Site.on_launch_bind (fun r => ActionOf.on_lift (searchAnswer r nothing failure)), houtcome,
    ← hanswer]
  rfl

end Procedure

namespace Site

/-- The tool that searches for files: below the directory of the session, or anywhere. -/
def searchArgv (s : Site) (pattern : Text) : Command → List Text
  | .find => Procedure.findFilesArgv s.platform pattern
  | _ => Procedure.locateFilesArgv s.platform pattern

/-- What is said if a search has no results. -/
def searchNotice (s : Site) (pattern : Text) : Command → Text
  | .find => "No files matching '" ++ pattern ++ "' found in " ++ s.directory
  | _ => "No files matching '" ++ pattern ++ "' found"

/-- If the tool of a search ends without an error and prints something, what it printed is the
answer as it is, whatever it is, except for the sentence `File Not Found`: if that occurs in it, the
answer is the notice that there are no files that match the pattern.  The machine has to be able to
wait for the tool, and to take its texts. -/
theorem plan_search {s : Site} {c : Command} (hc : c = .find ∨ c = .locate)
    {raw pattern output : Text} {w : World} (hpattern : Text.without '"' (Text.trim raw) = pattern)
    (hne : pattern ≠ []) (houtcome : w.nextOutcome = .exits (some output) 0)
    (hblank : Text.isAllBlank output = false) (hwait : w.machine.canWait s.limit = true)
    (htakes : ∀ t ∈ s.directory :: s.searchArgv pattern c, w.machine.refuses t = false) :
    (s.plan c raw).on w =
      (.ok (.answered (if "File Not Found".toList <:+: output
          then .notice (s.searchNotice pattern c) else .listing output)),
        w.afterAttempt s.limit ⟨s.searchArgv pattern c, s.directory⟩) := by
  subst hpattern
  replace houtcome := (World.outcomeOf_eq_nextOutcome s.limit hwait htakes).trans houtcome
  rcases hc with rfl | rfl
  · have hprepare : Procedure.findFiles.prepare s.session w.files raw =
        .ok (Text.without '"' (Text.trim raw)) :=
      Result.ofReported_eq_ok.mpr (Procedure.preparePattern_of_ne_nil hne _)
    have hsearch := Procedure.on_search (Procedure.findFilesArgv s.platform _) houtcome hblank
    rw [on_plan_of_prepare rfl rfl hprepare]
    simp only [Procedure.findFiles, Procedure.performFindFiles, hsearch]
    rfl
  · have hprepare : Procedure.locateFiles.prepare s.session w.files raw =
        .ok (Text.without '"' (Text.trim raw)) :=
      Result.ofReported_eq_ok.mpr (Procedure.preparePattern_of_ne_nil hne _)
    have hsearch := Procedure.on_search (Procedure.locateFilesArgv s.platform _) houtcome hblank
    rw [on_plan_of_prepare rfl rfl hprepare]
    simp only [Procedure.locateFiles, Procedure.performLocateFiles, hsearch]
    rfl

/-- A name in other letters is no sentence, and is shown. -/
theorem plan_search_of_name :
    let s : Site := ⟨{ directory := "/", platform := .posix, home := "/" }, .whole 30⟩
    let output : Text := "./file not found.txt\n./b.txt\n"
    let w : World :=
      { files := ⟨[("/", .newDirectory)]⟩, children := [.exits (some output) 0] }
    Text.without '"' (Text.trim " .\"txt\"") = ".txt" ∧ ".txt".toList ≠ [] ∧
      w.nextOutcome = .exits (some output) 0 ∧ Text.isAllBlank output = false ∧
      w.machine.canWait s.limit = true ∧
      (∀ t ∈ s.directory :: s.searchArgv ".txt" .find, w.machine.refuses t = false) ∧
      (s.plan .find " .\"txt\"").on w =
        (.ok (.answered (.listing output)),
          w.afterAttempt s.limit ⟨["find", ".", "-name", "*.txt*"], "/"⟩) := by
  intro s output w
  have hpattern : Text.without '"' (Text.trim " .\"txt\"") = ".txt" := by decide
  have hblank : Text.isAllBlank output = false := by decide
  have hnot : ¬ "File Not Found".toList <:+: output :=
    mt Text.hasInfix_iff.mpr (by decide)
  have htakes : ∀ t ∈ s.directory :: s.searchArgv ".txt" .find, w.machine.refuses t = false := by
    decide
  have hplan := plan_search (s := s) (w := w) (.inl rfl) hpattern (by decide) rfl hblank rfl htakes
  rw [if_neg hnot] at hplan
  exact ⟨hpattern, by decide, rfl, hblank, rfl, htakes, hplan⟩

/-- If the sentence is the name of a file that was found, the results are not shown. -/
theorem plan_find_of_sentence_as_name :
    let s : Site := ⟨{ directory := "/", platform := .posix, home := "/" }, .unlimited⟩
    let output : Text := "./File Not Found.txt\n./b.txt\n"
    let w : World :=
      { files := ⟨[("/", .newDirectory)]⟩, children := [.exits (some output) 0] }
    Text.isAllBlank output = false ∧
      ((s.plan .find "txt").on w).1 =
        .ok (.answered (.notice "No files matching 'txt' found in /")) ∧
      ((s.plan .find "txt").on w).1 ≠ .ok (.answered (.listing output)) := by
  intro s output w
  have hplan : ((s.plan .find "txt").on w).1 =
      .ok (.answered (.notice "No files matching 'txt' found in /")) := rfl
  refine ⟨by decide, hplan, ?_⟩
  rw [hplan]
  intro h
  have hclassified := congrArg Answer.classified (Plan.answered.inj (Except.ok.inj h))
  exact Bool.false_ne_true hclassified

end Site

end PortableShell
