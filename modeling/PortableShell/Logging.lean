import PortableShell.Text.Case

/-!
# Diagnostics

Diagnostics go to one place at one level.  Setting the level that is set already changes nothing.

## Main definitions

* `Logging`: the level that is set.
* `Logging.configure`, `Logging.configureAll`: setting a level, or several one after the other, and
  what has to be done for it.
* `Logging.places`: where diagnostics go after that.

## Main statements

* `Logging.places_configureAll`: in the end diagnostics go to one place, at the last level.
-/

namespace PortableShell

/-- What has to be done to set a level. -/
inductive LoggingStep where
  /-- All places that diagnostics go to are given up. -/
  | removeAll
  /-- Diagnostics go to a place at a level. -/
  | add (level : Text)
  deriving DecidableEq, Repr

/-- The level that is set, if one is. -/
structure Logging where
  level : Option Text := none
  deriving DecidableEq, Repr

/-- Sets a level, in letters of either case. -/
def Logging.configure (l : Logging) (level : Text) : List LoggingStep × Logging :=
  let level := Text.upper level
  if l.level = some level then ([], l) else ([.removeAll, .add level], ⟨some level⟩)

/-- What has to be done to set levels one after the other. -/
def Logging.configureAll (l : Logging) : List Text → List LoggingStep × Logging
  | [] => ([], l)
  | level :: levels =>
    let (steps, l) := l.configure level
    let (later, l) := l.configureAll levels
    (steps ++ later, l)

namespace Logging

variable (l : Logging)

/-- Where diagnostics go after some steps. -/
def places (before : List Text) (steps : List LoggingStep) : List Text :=
  steps.foldl (fun found step => match step with
    | .removeAll => []
    | .add level => found ++ [level]) before

theorem level_configure (level : Text) : (l.configure level).2.level = some (Text.upper level) := by
  rw [configure]
  split
  · assumption
  · rfl

/-- If diagnostics go to the place of the level that is set, they go on to do so. -/
theorem places_configure {before : List Text} (h : ∀ level, l.level = some level → before = [level])
    (level : Text) : places before (l.configure level).1 = [Text.upper level] := by
  rw [configure]
  split
  · next hsame => exact h _ hsame
  · rfl

/-- However many levels are set one after the other, diagnostics go to one place in the end, at the
last of them. -/
theorem places_configureAll {before : List Text}
    (h : ∀ level, l.level = some level → before = [level]) (levels : List Text) (last : Text) :
    places before (l.configureAll (levels ++ [last])).1 = [Text.upper last] := by
  induction levels generalizing l before with
  | nil =>
    have hlast := l.places_configure h last
    simpa [configureAll] using hlast
  | cons level levels ih =>
    have hlevel := l.places_configure h level
    have hrest : places [Text.upper level]
        ((l.configure level).2.configureAll (levels ++ [last])).1 = [Text.upper last] := by
      refine ih (l.configure level).2 fun other hother => ?_
      rw [level_configure] at hother
      rw [Option.some.inj hother]
    rw [places] at hlevel hrest ⊢
    rw [List.cons_append, configureAll, List.foldl_append, hlevel, hrest]

end Logging

end PortableShell
