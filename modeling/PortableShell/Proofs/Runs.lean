import PortableShell.Proofs.Replies

/-!
# Runs of a shell

A shell that was started answers one call after another.  Before each call everything in the world
may change that a call meets, except the files, which change by nothing but the calls.

## Main definitions

* `Circumstances`: what a call meets: the processes, the server, and the faults in store.
* `Call`: a command with its argument text, or a line, and `Shell.answer`, the reply to it.
* `Shell.Reachable`: the shells that come about in a run.

## Main statements

* `Shell.answer_eq`: a call is either without a word or a command with an argument text.
-/

namespace PortableShell

/-- What a call meets: what will come of the processes that it starts, what a server does, and the
faults of the operating system. -/
structure Circumstances where
  children : List ChildOutcome := []
  http : HttpAnswer := {}
  faults : Faults := fun _ _ _ => none
  hasAclTool : Bool := false

/-- A call: a command with its argument text, or a line that holds both. -/
inductive Call where
  | command (name raw : Text)
  | line (typed : Text)

namespace Call

/-- The command and the argument text of a call, unless it is a line without a word. -/
def words : Call → Option (Text × Text)
  | .command name raw => some (name, raw)
  | .line typed =>
    match Text.firstWord (Text.trim typed) with
    | ([], _) => none
    | found => some found

end Call

namespace Shell

/-- The shell in the given circumstances.  The files are the same. -/
def under (s : Shell) (c : Circumstances) : Shell :=
  { s with world := { s.world with
      children := c.children, http := c.http, faults := c.faults, hasAclTool := c.hasAclTool } }

/-- The reply to a call, and the shell after it. -/
def answer (s : Shell) : Call → Reply × Shell
  | .command name raw => s.submit name raw
  | .line typed => s.submitLine typed

/-- A call is either without a word, and then nothing happens, or a command with an argument
text. -/
theorem answer_eq (s : Shell) (call : Call) :
    s.answer call =
      match call.words with
      | none => (.plain ['$'] [], s)
      | some (name, raw) => s.submit name raw := by
  cases call with
  | command name raw => rfl
  | line typed =>
    rw [answer, submitLine, Call.words]
    rcases Text.firstWord (Text.trim typed) with ⟨_ | ⟨c, name⟩, raw⟩
    · rfl
    · rfl

/-- Whether a download that is called for would collect its document in a new file. -/
def FreshFor (s : Shell) (call : Call) : Prop :=
  ∀ name raw, call.words = some (name, raw) → Command.parse (Text.trim name) = .ok .wget →
    Download.Fresh s.session s.world (Text.trim raw)

/-- Whether a download that is called for would not take the place of a symbolic link.  There may
be a directory behind the link, and the session may be in it. -/
def SparesLinksFor (s : Shell) (call : Call) : Prop :=
  ∀ name raw, call.words = some (name, raw) → Command.parse (Text.trim name) = .ok .wget →
    Download.SparesLinks s.session s.world (Text.trim raw)

/-- The shells that come about in a run: one that was just started, and one that has answered a
call in whatever circumstances.  Downloads collect their documents in new files, and take the place
of no link. -/
inductive Reachable : Shell → Prop where
  | start {platform : Platform} {home directory : Option Text} {host : Host}
      {homeDirectory : Except Failure Text} {session : Session} {limit : TimeLimit} {world : World}
      (h : Session.start platform home directory host homeDirectory world.files = .ok session) :
      Reachable ⟨session, limit, world⟩
  | answer {s : Shell} (h : s.Reachable) (c : Circumstances) (call : Call)
      (hfresh : (s.under c).FreshFor call) (hspares : (s.under c).SparesLinksFor call) :
      Reachable ((s.under c).answer call).2

end Shell

end PortableShell
