import PortableShell.Proofs.Action
import PortableShell.Proofs.Encoding
import PortableShell.Proofs.JsonRoundTrip
import PortableShell.Settings

/-!
# Settings that are loaded and saved

Whatever a file holds, and whatever the environment says, a setting that cannot be understood counts
as one that was not made.  What is refused is a whole number for a time limit that is beyond double
precision, and a file of which it cannot be told whether it is there.  Settings that are loaded can
be saved, and are loaded again as they were.

## Main definitions

* `Json.IsBeyondDouble`: whether a value is a whole number beyond double precision.
* `Settings.IsLimit`, `Settings.IsValid`: whether a number is a time limit, and whether settings
  have no other.
* `Settings.saved`: the file that holds the settings once they are saved.

## Main statements

* `Settings.load_cases`: which files are refused, and what settings the others make.
* `Settings.load_saved`: settings that are saved are loaded as they were.
-/

namespace PortableShell

/-- Whether a value is a whole number that is at least half-way from the greatest number of double
precision to the next power of two. -/
def Json.IsBeyondDouble (v : Json) : Prop :=
  ∃ n : Int, v = .integer n ∧ (2 ^ 54 - 1) * 2 ^ 970 ≤ n.natAbs

/-- What a file says can be read from a text. -/
theorem ConfigFile.isReadable_data (file : ConfigFile) : file.data.IsReadable := by
  rw [ConfigFile.data.eq_def]
  split
  · split
    · next bytes members h =>
      obtain ⟨t, -, hread⟩ := Option.bind_eq_some_iff.mp h
      exact Json.isReadable_of_read? hread
    · exact .object (by simp)
  · exact .object (by simp)

/-- The name of a choice is understood as that choice. -/
theorem PlatformChoice.ofText_name (c : PlatformChoice) : ofText c.name = c := by
  cases c <;> rfl

/-- The name of a level is understood as that level. -/
theorem LogLevel.ofText_name (l : LogLevel) : ofText l.name = l := by
  cases l <;> rfl

theorem PlatformChoice.name_mem (c : PlatformChoice) :
    c.name ∈ ["auto".toList, "posix".toList, "windows".toList] := by
  cases c <;> decide

theorem LogLevel.name_mem (l : LogLevel) :
    l.name ∈ ["TRACE".toList, "DEBUG".toList, "INFO".toList, "SUCCESS".toList, "WARNING".toList,
      "ERROR".toList, "CRITICAL".toList] := by
  cases l <;> decide

namespace Settings

variable {file : ConfigFile} {host : Host} {s : Settings}

/-! ### Time limits -/

/-- Whether a number is a time limit: it is greater than zero, and in canonical form. -/
structure IsLimit (x : Double) : Prop where
  isPositive : x.isPositive = true
  isCanonical : x.IsCanonical

/-- A time limit is an infinity or a finite number, and neither zero nor negative. -/
theorem IsLimit.eq_or {x : Double} (h : IsLimit x) :
    x = .infinite false ∨ ∃ m e, x = .finite false m e ∧ 0 < m := by
  have hpos := h.isPositive
  cases x with
  | nan => cases hpos
  | infinite negative =>
    cases negative with
    | true => cases hpos
    | false => exact .inl rfl
  | finite negative m e =>
    cases negative with
    | true => cases hpos
    | false =>
      have hm : m ≠ 0 := by simpa [Double.isPositive] using hpos
      exact .inr ⟨m, e, rfl, Nat.pos_of_ne_zero hm⟩

theorem limitOf_of_isLimit {x : Double} (h : IsLimit x) : limitOf x = some x :=
  if_pos h.isPositive

theorem isLimit_of_limitOf {x y : Double} (hx : x.IsCanonical) (h : limitOf x = some y) :
    IsLimit y := by
  rw [limitOf] at h
  split at h
  · next hpos =>
    cases h
    exact ⟨hpos, hx⟩
  · cases h

theorem isLimit_of_timeoutOfText {t : Text} {x : Double} (h : timeoutOfText t = some x) :
    IsLimit x := by
  obtain ⟨y, hy, hx⟩ := Option.bind_eq_some_iff.mp h
  exact isLimit_of_limitOf (Double.isCanonical_of_read? hy) hx

theorem isLimit_of_timeoutOf {v : Json} {x : Double} (hv : v.IsReadable)
    (h : timeoutOf v = .ok (some x)) : IsLimit x := by
  rw [timeoutOf.eq_def] at h
  split at h
  · exact isLimit_of_limitOf (Double.isCanonical_ofInt _) (Except.ok.inj h)
  · next n =>
    have hn := Double.isCanonical_ofInt n
    split at h
    · cases h
    · exact isLimit_of_limitOf hn (Except.ok.inj h)
  · cases hv with
    | real hx => exact isLimit_of_limitOf hx (Except.ok.inj h)
  · exact isLimit_of_timeoutOfText (Except.ok.inj h)
  · cases h

/-- A value sets a time limit or none, unless it is a whole number beyond double precision. -/
theorem timeoutOf_cases (v : Json) :
    v.IsBeyondDouble ∧ timeoutOf v = .error .beyondDouble ∨
      ¬ v.IsBeyondDouble ∧ ∃ limit, timeoutOf v = .ok limit := by
  have hother (h : ∀ n, v ≠ .integer n) : ¬ v.IsBeyondDouble := fun ⟨n, hn, _⟩ => h n hn
  cases v with
  | integer n =>
    rw [timeoutOf]
    split
    · next b hn => exact .inl ⟨⟨n, rfl, (Double.ofInt_eq_infinite_iff.mp hn).2⟩, rfl⟩
    · next hfinite =>
      refine .inr ⟨?_, _, rfl⟩
      rintro ⟨k, hk, hlarge⟩
      cases hk
      exact hfinite _ (Double.ofInt_eq_infinite_iff.mpr ⟨rfl, hlarge⟩)
  | null => exact .inr ⟨hother nofun, _, rfl⟩
  | bool b => exact .inr ⟨hother nofun, _, rfl⟩
  | real x => exact .inr ⟨hother nofun, _, rfl⟩
  | text t => exact .inr ⟨hother nofun, _, rfl⟩
  | array values => exact .inr ⟨hother nofun, _, rfl⟩
  | object members => exact .inr ⟨hother nofun, _, rfl⟩

/-! ### Settings that are loaded -/

/-- Whether settings have no time limit but a number that is one. -/
def IsValid (s : Settings) : Prop :=
  ∀ x ∈ s.timeout, IsLimit x

/-- The settings that a file makes are those that its members make. -/
theorem ofFile_eq_ofData (h : ∀ e, file ≠ .unreachable e) : ofFile file = ofData file.data := by
  cases file with
  | unreachable e => exact absurd rfl (h e)
  | missing => rfl
  | unreadable => rfl
  | contents bytes => rfl

theorem ofData_of_ofFile (h : ofFile file = .ok s) : ofData file.data = .ok s := by
  rwa [← ofFile_eq_ofData]
  rintro e rfl
  cases h

theorem isValid_of_ofData {data : Json} (hdata : data.IsReadable) (h : ofData data = .ok s) :
    s.IsValid := by
  intro x hx
  rw [ofData] at h
  cases hmember : data.member? "timeout_s" with
  | none =>
    rw [hmember] at h
    cases h
    cases hx
  | some v =>
    rw [hmember] at h
    obtain ⟨timeout, htimeout, hs⟩ := Result.bind_eq_ok.mp h
    cases hs
    obtain rfl : timeout = some x := hx
    exact isLimit_of_timeoutOf (Json.isReadable_of_member? hdata hmember) htimeout

theorem IsValid.override (hs : s.IsValid) (host : Host) : (s.override host).IsValid := by
  intro x hx
  cases hvalue : host.valueOf? "SHELLBRIDGE_TIMEOUT" with
  | none =>
    rw [Settings.override, hvalue] at hx
    exact hs x hx
  | some t =>
    rw [Settings.override, hvalue] at hx
    exact isLimit_of_timeoutOfText hx

theorem load_eq_ok_iff :
    load file host = .ok s ↔ ∃ made, ofFile file = .ok made ∧ made.override host = s := by
  rw [load, Result.bind_eq_ok]
  exact exists_congr fun made => and_congr_right fun _ => ⟨Except.ok.inj, congrArg Except.ok⟩

theorem isValid_of_load (h : load file host = .ok s) : s.IsValid := by
  obtain ⟨made, hfile, rfl⟩ := load_eq_ok_iff.mp h
  exact (isValid_of_ofData file.isReadable_data (ofData_of_ofFile hfile)).override host

/-- An object makes settings unless its time limit is a whole number beyond double precision. -/
theorem ofData_cases (data : Json) :
    (∃ v, data.member? "timeout_s" = some v ∧ v.IsBeyondDouble) ∧
        ofData data = .error .beyondDouble ∨
      (¬ ∃ v, data.member? "timeout_s" = some v ∧ v.IsBeyondDouble) ∧ ∃ s, ofData data = .ok s := by
  rw [ofData]
  cases hmember : data.member? "timeout_s" with
  | none => exact .inr ⟨nofun, _, rfl⟩
  | some v =>
    obtain ⟨hv, herror⟩ | ⟨hv, limit, hok⟩ := timeoutOf_cases v
    · refine .inl ⟨⟨v, rfl, hv⟩, ?_⟩
      dsimp only
      rw [herror]
      rfl
    · refine .inr ⟨fun ⟨u, hu, hbeyond⟩ => hv (Option.some.inj hu ▸ hbeyond), ?_⟩
      dsimp only
      rw [hok]
      exact ⟨_, rfl⟩

/-- **Loading settings fails only for two kinds of file.**  A file is refused exactly if it cannot
be told whether it is there, or if the time limit in it is a whole number beyond double precision.
In every other case the settings have one of the three platforms and one of the seven levels, and a
time limit is greater than zero. -/
theorem load_cases (file : ConfigFile) (host : Host) :
    (∃ e, file = .unreachable e ∧ load file host = .error e) ∨
      (∃ v, file.data.member? "timeout_s" = some v ∧ v.IsBeyondDouble) ∧
        load file host = .error .beyondDouble ∨
      (∀ e, file ≠ .unreachable e) ∧
        (¬ ∃ v, file.data.member? "timeout_s" = some v ∧ v.IsBeyondDouble) ∧
        ∃ s, load file host = .ok s ∧
          s.platform.name ∈ ["auto".toList, "posix".toList, "windows".toList] ∧
          s.logLevel.name ∈ ["TRACE".toList, "DEBUG".toList, "INFO".toList, "SUCCESS".toList,
            "WARNING".toList, "ERROR".toList, "CRITICAL".toList] ∧
          (s.timeout = none ∨ s.timeout = some (.infinite false) ∨
            ∃ m e, s.timeout = some (.finite false m e) ∧ 0 < m) := by
  by_cases hfile : ∃ e, file = .unreachable e
  · obtain ⟨e, rfl⟩ := hfile
    exact .inl ⟨e, rfl, rfl⟩
  · rw [not_exists] at hfile
    have hofFile := ofFile_eq_ofData hfile
    obtain ⟨hv, herror⟩ | ⟨hv, s, hok⟩ := ofData_cases file.data
    · refine .inr (.inl ⟨hv, ?_⟩)
      rw [load, hofFile, herror]
      rfl
    · have hload : load file host = .ok (s.override host) := by
        rw [load, hofFile, hok]
        rfl
      refine .inr (.inr ⟨hfile, hv, s.override host, hload, PlatformChoice.name_mem _,
        LogLevel.name_mem _, ?_⟩)
      cases hlimit : (s.override host).timeout with
      | none => exact .inl rfl
      | some x =>
        obtain rfl | ⟨m, e, rfl, hm⟩ := (isValid_of_load hload x hlimit).eq_or
        · exact .inr (.inl rfl)
        · exact .inr (.inr ⟨m, e, rfl, hm⟩)

/-! ### The environment -/

/-- Putting an environment over settings twice changes nothing the second time. -/
theorem override_override (s : Settings) (host : Host) :
    (s.override host).override host = s.override host := by
  have hkept {α : Type} (o : Option α) (a : α) : o.getD (o.getD a) = o.getD a := by
    cases o <;> rfl
  simp only [override, hkept]

theorem override_of_environment_eq_nil (s : Settings) (h : host.environment = []) :
    s.override host = s := by
  have hvalue (name : Text) : host.valueOf? name = none := by
    rw [Host.valueOf?, h]
    rfl
  simp only [override, hvalue, Option.map_none, Option.getD_none]

theorem override_congr (s : Settings) {host' : Host} (h : host'.environment = host.environment) :
    s.override host' = s.override host := by
  have hvalue (name : Text) : host'.valueOf? name = host.valueOf? name := by
    rw [Host.valueOf?, Host.valueOf?, h]
  simp only [override, hvalue]

/-! ### Settings that are saved -/

/-- The file that holds the settings once they are saved. -/
def saved (s : Settings) : ConfigFile :=
  .contents (Utf8.encode s.print)

theorem isReadable_toJson (hs : s.IsValid) : s.toJson.IsReadable := by
  refine .object fun m hm => ?_
  simp only [List.mem_cons, List.not_mem_nil, or_false] at hm
  rcases hm with rfl | rfl | rfl | rfl
  · exact .text _
  · cases hlimit : s.timeout with
    | none => exact .null
    | some x => exact .real (hs x hlimit).isCanonical
  · exact .text _
  · exact .bool _

/-- The saved file says what was written. -/
theorem data_saved (hs : s.IsValid) : s.saved.data = s.toJson := by
  have hread := Json.read?_print (isReadable_toJson hs)
  rw [saved, ConfigFile.data, Utf8.decode?_encode, Option.bind_some, print, hread]
  rfl

/-- The three readings of members undo the writing. -/
theorem ofData_toJson (hs : s.IsValid) : ofData s.toJson = .ok s := by
  have hplatform : s.toJson.member? "platform" = some (.text s.platform.name) := rfl
  have hlevel : s.toJson.member? "log_level" = some (.text s.logLevel.name) := rfl
  have hhistory : s.toJson.member? "input_history" = some (.bool s.inputHistory) := rfl
  obtain ⟨value, htimeout, hlimit⟩ : ∃ value, s.toJson.member? "timeout_s" = some value ∧
      timeoutOf value = .ok s.timeout := by
    refine ⟨_, rfl, ?_⟩
    cases hlimit : s.timeout with
    | none => rfl
    | some x => exact congrArg Except.ok (limitOf_of_isLimit (hs x hlimit))
  have hkept : (! (Json.bool s.inputHistory).isEmptyValue) = s.inputHistory := by
    rw [Json.isEmptyValue, Bool.not_not]
  rw [ofData, hplatform, hlevel, hhistory, htimeout]
  simp only [hlimit, Option.map_some, Option.getD_some, platformOf, logLevelOf,
    PlatformChoice.ofText_name, LogLevel.ofText_name, hkept]
  rfl

theorem ofFile_saved (hs : s.IsValid) : ofFile s.saved = .ok s := by
  have hfile : ∀ e, s.saved ≠ .unreachable e := by
    intro e h
    cases h
  rw [ofFile_eq_ofData hfile, data_saved hs, ofData_toJson hs]

/-- **Saving undoes nothing.**  Whatever settings a file and an environment make, they are the same
after they have been saved and loaded again, under an empty environment and under the same one. -/
theorem load_saved {host' : Host} (h : load file host = .ok s)
    (hhost : host'.environment = [] ∨ host'.environment = host.environment) :
    load s.saved host' = .ok s := by
  have hvalid := isValid_of_load h
  obtain ⟨s', -, hs⟩ := Result.bind_eq_ok.mp h
  rw [load, ofFile_saved hvalid]
  rcases hhost with hempty | hsame
  · exact congrArg Except.ok (override_of_environment_eq_nil s hempty)
  · cases hs
    exact congrArg Except.ok ((override_congr _ hsame).trans (override_override s' host))

/-- A fraction in the file and a platform in the environment are kept. -/
theorem load_saved_of_fraction :
    load (.contents (Utf8.encode "\x7b\"timeout_s\": 2.5\x7d"))
        ⟨"Linux", "posix", [("SHELLBRIDGE_PLATFORM", "Windows")], "/home/me", "/work"⟩ =
          .ok ⟨.windows, some (.finite false (5 * 2 ^ 50) (-51)), .warning, true⟩ ∧
      load (saved ⟨.windows, some (.finite false (5 * 2 ^ 50) (-51)), .warning, true⟩)
        ⟨"Linux", "posix", [], "/home/me", "/work"⟩ =
          .ok ⟨.windows, some (.finite false (5 * 2 ^ 50) (-51)), .warning, true⟩ := by
  have h : load (.contents (Utf8.encode "\x7b\"timeout_s\": 2.5\x7d"))
      ⟨"Linux", "posix", [("SHELLBRIDGE_PLATFORM", "Windows")], "/home/me", "/work"⟩ =
        .ok ⟨.windows, some (.finite false (5 * 2 ^ 50) (-51)), .warning, true⟩ := by
    decide +kernel
  exact ⟨h, load_saved h (.inl rfl)⟩

end Settings

end PortableShell
