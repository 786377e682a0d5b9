import PortableShell.Proofs.Preparation

/-!
# Calling up earlier commands

The cursor of a session walks among the commands given so far, one place at a time, and stops at
either end.  It never leaves them but for the place right behind the newest, and only recording a
command changes what it walks among.

## Main definitions

* `Session.Step`, `Session.step`: what may be done with a session, and what comes of it.
* `Session.walk`: a session after several steps.
* `Session.InRange`: whether the cursor is at a command or right behind the newest.

## Main statements

* `Session.InRange.step`: no step leads out of the range.
* `Session.InRange.previous_eq`, `Session.InRange.next_eq`: one step with the cursor.
* `Session.walk_spec`: what holds of a session after any steps.
-/

namespace PortableShell.Session

/-- What may be done with a session. -/
inductive Step where
  | record (name arguments : Text)
  | previous
  | next
  /-- To change the directory, among the files that there are then. -/
  | enter (files : FileSystem) (path : Text)

/-- The entry that a step adds to the history.  A question for the history is not kept. -/
def Step.added? : Step → Option Entry
  | .record name arguments => if name = "history".toList then none else some ⟨name, arguments⟩
  | _ => none

/-- What a step calls up, and the session after it.  A change of directory that is refused leaves
the session as it is. -/
def step (s : Session) : Step → Option Entry × Session
  | .record name arguments => (none, s.record name arguments)
  | .previous => s.previous
  | .next => s.next
  | .enter files path => (none, (s.changeDirectory files path).toOption.getD s)

/-- The session after several steps. -/
def walk (s : Session) (steps : List Step) : Session :=
  steps.foldl (fun s move => (s.step move).2) s

/-- Whether the cursor is at one of the commands given so far, or right behind the newest. -/
def InRange (s : Session) : Prop :=
  s.cursor ≤ s.history.length

variable {s : Session}

/-! ### One step -/

theorem record_eq (s : Session) (name arguments : Text) :
    (s.record name arguments).history =
        s.history ++ (Step.record name arguments).added?.toList ∧
      (s.record name arguments).cursor = (s.record name arguments).history.length := by
  rw [record, Step.added?]
  split
  · exact ⟨(List.append_nil _).symm, rfl⟩
  · exact ⟨rfl, by simp⟩

theorem previous_of_eq_nil (h : s.history = []) : s.previous = (none, s) := by
  rw [previous, if_pos (List.isEmpty_iff.mpr h)]

theorem next_of_eq_nil (h : s.history = []) : s.next = (none, s) := by
  rw [next, if_pos (List.isEmpty_iff.mpr h)]

theorem history_previous (s : Session) : s.previous.2.history = s.history := by
  rw [previous]
  split <;> rfl

theorem history_next (s : Session) : s.next.2.history = s.history := by
  rw [next]
  split
  · rfl
  · split <;> rfl

theorem cursor_changeDirectory {s' : Session} {files : FileSystem} {path : Text}
    (h : s.changeDirectory files path = .ok s') : s'.cursor = s.cursor := by
  obtain ⟨target, -, h⟩ := Result.bind_eq_ok.mp h
  obtain ⟨-, rfl⟩ := Result.ite_eq_ok.mp h
  rfl

theorem step_enter (s : Session) (files : FileSystem) (path : Text) :
    (s.step (.enter files path)).2.history = s.history ∧
      (s.step (.enter files path)).2.cursor = s.cursor := by
  rw [step]
  cases h : s.changeDirectory files path with
  | error e => exact ⟨rfl, rfl⟩
  | ok s' => exact ⟨history_changeDirectory h, cursor_changeDirectory h⟩

/-- The history changes by what a step records, and by nothing else. -/
theorem history_step (s : Session) (move : Step) :
    (s.step move).2.history = s.history ++ move.added?.toList := by
  cases move with
  | record name arguments => exact (record_eq s name arguments).1
  | previous => exact (history_previous s).trans (List.append_nil _).symm
  | next => exact (history_next s).trans (List.append_nil _).symm
  | enter files path => exact (step_enter s files path).1.trans (List.append_nil _).symm

namespace InRange

/-- The step towards the oldest command stops there, and there always is a command. -/
theorem previous_eq (h : s.InRange) (hne : s.history ≠ []) :
    ∃ e, s.history[s.cursor - 1]? = some e ∧
      s.previous = (some e, { s with cursor := s.cursor - 1 }) := by
  have hpos := List.length_pos_iff.mpr hne
  rw [InRange] at h
  have hlt : s.cursor - 1 < s.history.length := by omega
  refine ⟨s.history[s.cursor - 1], List.getElem?_eq_getElem hlt, ?_⟩
  rw [previous, if_neg (by simpa using hne), List.getElem?_eq_getElem hlt]

/-- The step towards the newest command goes on to the place behind it and stops there. -/
theorem next_eq (h : s.InRange) (hne : s.history ≠ []) :
    s.next = (s.history[min (s.cursor + 1) s.history.length]?,
      { s with cursor := min (s.cursor + 1) s.history.length }) := by
  rw [InRange] at h
  rw [next, if_neg (by simpa using hne)]
  split
  · next hlt => rw [Nat.min_eq_left (Nat.le_of_lt hlt)]
  · next hge =>
    have hmin : min (s.cursor + 1) s.history.length = s.history.length := by omega
    rw [hmin, List.getElem?_eq_none (Nat.le_refl _)]

/-- Nothing is called up exactly if the step ends behind the newest command. -/
theorem next_eq_none_iff (h : s.InRange) (hne : s.history ≠ []) :
    s.next.1 = none ↔ s.next.2.cursor = s.history.length := by
  rw [h.next_eq hne, List.getElem?_eq_none_iff]
  dsimp only
  omega

/-- No step leads out of the range. -/
theorem step (h : s.InRange) (move : Step) : (s.step move).2.InRange := by
  cases move with
  | record name arguments => exact Nat.le_of_eq (record_eq s name arguments).2
  | previous =>
    rw [Session.step]
    by_cases hnil : s.history = []
    · rwa [previous_of_eq_nil hnil]
    · obtain ⟨e, -, hprevious⟩ := h.previous_eq hnil
      rw [hprevious]
      exact Nat.le_trans (Nat.sub_le s.cursor 1) h
  | next =>
    rw [Session.step]
    by_cases hnil : s.history = []
    · rwa [next_of_eq_nil hnil]
    · rw [h.next_eq hnil]
      exact Nat.min_le_right _ _
  | enter files path =>
    obtain ⟨hhistory, hcursor⟩ := step_enter s files path
    rwa [InRange, hhistory, hcursor]

/-- The step towards the newest command undoes the one towards the oldest, unless that did not
move. -/
theorem next_previous (h : s.InRange) (hcursor : s.cursor ≠ 0) : s.previous.2.next.2 = s := by
  rw [InRange] at h
  have hne : s.history ≠ [] := List.ne_nil_of_length_pos (by omega)
  have hprevious : s.previous.2.InRange := step h .previous
  obtain ⟨e, -, heq⟩ := previous_eq h hne
  rw [heq] at hprevious ⊢
  have hback : min (s.cursor - 1 + 1) s.history.length = s.cursor := by omega
  rw [hprevious.next_eq hne, hback]

end InRange

/-! ### Any number of steps -/

theorem InRange.walk (h : s.InRange) (steps : List Step) : (s.walk steps).InRange := by
  induction steps generalizing s with
  | nil => exact h
  | cons move steps ih => exact ih (h.step move)

theorem history_walk (s : Session) (steps : List Step) :
    (s.walk steps).history = s.history ++ steps.filterMap Step.added? := by
  induction steps generalizing s with
  | nil => exact (List.append_nil _).symm
  | cons move steps ih =>
    have hwalk : s.walk (move :: steps) = (s.step move).2.walk steps := rfl
    rw [hwalk, ih, history_step, List.filterMap_cons, List.append_assoc]
    cases move.added? <;> rfl

/-- Whatever is done with a session after its start, its cursor is at one of the entries of the
history or behind the newest, and the history holds what was recorded, in order.  Recording puts the
cursor behind the newest entry, even if nothing is kept.  In an empty history nothing is called up
and nothing changes.  In any other a step towards the oldest entry calls up the entry one place
before the cursor, or the oldest again, and goes there; a step towards the newest goes one place on
and calls up the entry there, unless it ends behind the newest.  The second step undoes the first
unless that began at the oldest entry. -/
theorem walk_spec {platform : Platform} {home directory : Option Text} {host : Host}
    {homeDirectory : Except Failure Text} {files : FileSystem} {new : Session}
    (h : start platform home directory host homeDirectory files = .ok new) (steps : List Step) :
    let s := new.walk steps
    s.cursor ≤ s.history.length ∧
      s.history = steps.filterMap Step.added? ∧
      (∀ name arguments, (s.record name arguments).cursor =
        (s.record name arguments).history.length) ∧
      (s.history = [] → s.previous = (none, s) ∧ s.next = (none, s)) ∧
      (s.history ≠ [] →
        (∃ e, s.history[s.cursor - 1]? = some e ∧
          s.previous = (some e, { s with cursor := s.cursor - 1 })) ∧
        s.next = (s.history[min (s.cursor + 1) s.history.length]?,
          { s with cursor := min (s.cursor + 1) s.history.length }) ∧
        (s.next.1 = none ↔ s.next.2.cursor = s.history.length)) ∧
      (s.cursor ≠ 0 → s.previous.2.next.2 = s) := by
  intro s
  obtain ⟨-, hempty, hcursor, -⟩ := new_of_start h
  have hnew : new.InRange := by
    rw [InRange, hcursor]
    exact Nat.zero_le _
  have hs : s.InRange := hnew.walk steps
  have hhistory := history_walk new steps
  rw [hempty, List.nil_append] at hhistory
  refine ⟨hs, hhistory, fun name arguments => (record_eq s name arguments).2, ?_, ?_, ?_⟩
  · exact fun hnil => ⟨previous_of_eq_nil hnil, next_of_eq_nil hnil⟩
  · exact fun hne => ⟨hs.previous_eq hne, hs.next_eq hne, hs.next_eq_none_iff hne⟩
  · exact hs.next_previous

/-- Two commands are given and called up from the newest on; a question for the history puts the
cursor back to the end. -/
theorem walk_spec_of_two_commands :
    let new : Session := { directory := "/", platform := .posix, home := "/me" }
    let ls : Entry := ⟨"ls", "-l"⟩
    let pwd : Entry := ⟨"pwd", []⟩
    let steps : List Step := [.previous, .record ls.name ls.arguments, .record pwd.name [],
      .previous, .previous, .previous, .record "history" [], .previous]
    start .posix (some "/me") (some "/") ⟨[], [], [], [], "/"⟩ (.ok []) .bare = .ok new ∧
      (new.walk steps).history = [ls, pwd] ∧ (new.walk steps).previous.1 = some ls ∧
      (new.walk steps).previous.2.next.2 = new.walk steps := by
  intro new ls pwd steps
  have hstart : start .posix (some "/me") (some "/") ⟨[], [], [], [], "/"⟩ (.ok []) .bare =
      .ok new := rfl
  obtain ⟨-, hhistory, -, -, hsteps, hback⟩ := walk_spec hstart steps
  have hkept : steps.filterMap Step.added? = [ls, pwd] := rfl
  have hcursor : (new.walk steps).cursor = 1 := rfl
  rw [hkept] at hhistory
  obtain ⟨⟨e, he, hprevious⟩, -⟩ := hsteps (by rw [hhistory]; exact List.cons_ne_nil _ _)
  rw [hhistory, hcursor] at he
  cases he
  rw [hprevious]
  refine ⟨hstart, hhistory, rfl, ?_⟩
  rw [← hprevious]
  exact hback (by rw [hcursor]; decide)

end PortableShell.Session
