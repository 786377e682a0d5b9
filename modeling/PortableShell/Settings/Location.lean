import PortableShell.Path.Basic
import PortableShell.Platform

/-!
# Where files of the user are kept

## Main definitions

* `Host.homeDirectory`: the home directory of the user.
* `Host.configPath`, `Host.historyPath`: the files that hold the settings and the typed lines.

## Main statements

* `Host.historyPath_eq_error_iff`: either both files have a place or neither has.
-/

namespace PortableShell.Host

/-- The home directory of the user, which is the root if the environment names none.  A name that
begins with a tilde is that of a user whom nobody knows. -/
def homeDirectory (h : Host) : Except Failure Text :=
  match Text.dropEndWhile (· == '/') h.home with
  | [] => .ok ['/']
  | '~' :: _ => .error .homeless
  | home => .ok (Path.plain home)

/-- The directory of a purpose: that which the environment names, or else one below the home
directory.  On Windows there is one directory for all purposes, and a name without characters
counts as none; elsewhere the home directory has to be known in any case. -/
def purposeDirectory (h : Host) (name : Text) (below : List Text) : Except Failure Text :=
  if h.isWindowsFamily then
    match h.valueOf? "APPDATA" with
    | some (c :: t) => .ok (c :: t)
    | _ => h.homeDirectory
  else do
    let home ← h.homeDirectory
    return (h.valueOf? name).getD (below.foldl Path.child home)

/-- The file that holds the settings. -/
def configPath (h : Host) : Except Failure Text := do
  return ["shellbridge".toList, "config.json".toList].foldl Path.child
    (← h.purposeDirectory "XDG_CONFIG_HOME" [".config"])

/-- The file that holds the typed lines. -/
def historyPath (h : Host) : Except Failure Text := do
  return ["shellbridge".toList, "history".toList].foldl Path.child
    (← h.purposeDirectory "XDG_DATA_HOME" [".local", "share"])

variable {h : Host} {name : Text} {below : List Text} {e : Failure}

/-- A purpose has no directory only if nobody knows the home directory and, on Windows, nothing else
is named. -/
theorem purposeDirectory_eq_error_iff :
    h.purposeDirectory name below = .error e ↔ h.homeDirectory = .error e ∧
      (h.isWindowsFamily = true → (h.valueOf? "APPDATA").getD [] = []) := by
  rw [purposeDirectory]
  cases h.isWindowsFamily with
  | true => rcases h.valueOf? "APPDATA" with _ | _ | ⟨c, t⟩ <;> simp
  | false => cases h.homeDirectory <;> simp [bind, Except.bind, pure, Except.pure]

/-- A file of a purpose has no place only if the purpose has no directory. -/
theorem place_eq_error_iff (names : List Text) :
    (do return names.foldl Path.child (← h.purposeDirectory name below) : Except Failure Text) =
      .error e ↔ h.purposeDirectory name below = .error e := by
  cases h.purposeDirectory name below <;> simp [bind, Except.bind, pure, Except.pure]

/-- Either both files have a place or neither has. -/
theorem historyPath_eq_error_iff : h.historyPath = .error e ↔ h.configPath = .error e := by
  rw [historyPath, configPath, place_eq_error_iff, place_eq_error_iff,
    purposeDirectory_eq_error_iff, purposeDirectory_eq_error_iff]

end PortableShell.Host
