import PortableShell.Proofs.Preparation
import PortableShell.Proofs.Replies

/-!
# Where the home directory matters

A path with nothing in it means the home directory.  No argument is such a path: the arguments of a
text are not empty, what follows a first word is asked for only if it is not empty, and a document
always has a name.  So the home directory matters to nothing but to a `cd` without a path.

## Main definitions

* `Session.withHome`, `Site.withHome`, `Shell.withHome`: the same with another home directory.
* `Command.AsksForHome`: the commands that ask for the home directory.

## Main statements

* `Command.prepare_withHome`: what is to be done is made out without the home directory.
* `Site.plan_withHome`: so is what there is to do for any command.
* `Shell.submit_withHome`: shells that differ in the home directory alone answer a command alike.
-/

namespace PortableShell

/-! ### Another home directory -/

/-- The same session with another home directory. -/
def Session.withHome (s : Session) (home : Text) : Session :=
  { s with home }

/-- Where procedures run, with another home directory. -/
def Site.withHome (s : Site) (home : Text) : Site :=
  { s with session := s.session.withHome home }

/-- The same shell with another home directory. -/
def Shell.withHome (s : Shell) (home : Text) : Shell :=
  { s with session := s.session.withHome home }

/-! ### Paths -/

theorem Argument.ne_nil_of_mem_tokens {a raw : Text} (h : a ∈ tokens raw) : a ≠ [] := by
  rintro rfl
  exact nil_notMem_tokensFrom false [] raw h

namespace Session

variable {path : Text} {home : Text}

/-- A path with something in it means the same wherever the home directory is. -/
theorem resolve_withHome (h : path ≠ []) (s : Session) :
    (s.withHome home).resolve path = s.resolve path :=
  Path.resolve_home_irrelevant h s.directory home s.home

theorem existing_withHome (h : path ≠ []) (s : Session) (files : FileSystem) (kind : ErrorKind)
    (label : Text) :
    (s.withHome home).existing files kind label path = s.existing files kind label path := by
  rw [existing, existing, resolve_withHome h]

theorem existingFile_withHome (h : path ≠ []) (s : Session) (files : FileSystem) :
    (s.withHome home).existingFile files path = s.existingFile files path :=
  existing_withHome h s files _ _

/-- A session changes to the same directory, and keeps its home directory. -/
theorem changeDirectory_withHome (h : path ≠ []) (s : Session) (files : FileSystem) :
    (s.withHome home).changeDirectory files path =
      (s.changeDirectory files path).map (·.withHome home) := by
  rw [changeDirectory, changeDirectory, resolve_withHome h]
  cases s.resolve path with
  | error e => rfl
  | ok target =>
    change (if files.isDirectory target then _ else _) = Except.map _ (if _ then _ else _)
    cases files.isDirectory target <;> rfl

theorem record_withHome (s : Session) (name arguments : Text) :
    (s.withHome home).record name arguments = (s.record name arguments).withHome home := by
  rw [record, record]
  split <;> rfl

end Session

/-! ### What is made out of the arguments -/

section Preparation

variable (s : Session) (home : Text) (files : FileSystem) (raw : Text)

theorem Transfer.prepare_withHome (t : Transfer) :
    t.prepare (s.withHome home) files raw = t.prepare s files raw := by
  refine Result.bind_congr fun found hfound => ?_
  obtain ⟨htokens, hlength⟩ := Argument.exactly_eq_ok_iff.mp hfound
  obtain ⟨source, destination, rfl⟩ := List.length_eq_two.mp hlength
  have hsource : source ≠ [] := Argument.ne_nil_of_mem_tokens (by rw [htokens]; simp)
  have hdestination : destination ≠ [] := Argument.ne_nil_of_mem_tokens (by rw [htokens]; simp)
  simp only [List.headD_cons, List.getLastD_cons, List.getLastD_nil,
    Session.existing_withHome hsource, Session.resolve_withHome hdestination]

namespace Procedure

theorem prepareFile_withHome (command : Text) :
    prepareFile command (s.withHome home) files raw = prepareFile command s files raw := by
  refine Result.bind_congr fun name hname => ?_
  have hne : name ≠ [] :=
    Argument.ne_nil_of_mem_tokens (by rw [Argument.single_eq_ok_iff.mp hname]; simp)
  rw [Session.existingFile_withHome hne]

theorem prepareTouch_withHome : prepareTouch (s.withHome home) raw = prepareTouch s raw := by
  refine Result.bind_congr fun name hname => ?_
  have hne : name ≠ [] :=
    Argument.ne_nil_of_mem_tokens (by rw [Argument.single_eq_ok_iff.mp hname]; simp)
  rw [Session.resolve_withHome hne]

theorem prepareFiles_withHome (command : Text) :
    prepareFiles command (s.withHome home) files raw = prepareFiles command s files raw := by
  have heach : ∀ a ∈ Argument.tokens raw,
      (s.withHome home).existingFile files a = s.existingFile files a :=
    fun a ha => Session.existingFile_withHome (Argument.ne_nil_of_mem_tokens ha) s files
  rw [prepareFiles, prepareFiles]
  cases htokens : Argument.tokens raw with
  | nil => rfl
  | cons first rest =>
    rw [htokens] at heach
    exact Result.mapM_congr fun a ha => by rw [heach a ha]

theorem preparePage_withHome :
    preparePage (s.withHome home) files raw = preparePage s files raw := by
  rw [preparePage, preparePage]
  split
  · rfl
  · rename_i name htokens
    exact Session.existingFile_withHome
      (Argument.ne_nil_of_mem_tokens (by rw [htokens]; simp)) s files
  · rfl

end Procedure

/-- The file whose first lines are asked for is one of the arguments. -/
theorem HeadRequest.file_mem_of_onlyFile {count : Nat} {names : List Text} {request : HeadRequest}
    (h : onlyFile count names = .ok request) : request.file ∈ names := by
  rcases names with _ | ⟨file, _ | ⟨other, names⟩⟩
  · cases h
  · cases h
    exact List.mem_singleton_self file
  · cases h

theorem HeadRequest.file_mem_tokens {raw : Text} {request : HeadRequest}
    (h : parse raw = .ok request) : request.file ∈ Argument.tokens raw := by
  rw [parse] at h
  cases htokens : Argument.tokens raw with
  | nil =>
    rw [htokens] at h
    cases h
  | cons first rest =>
    simp only [htokens] at h
    by_cases hfirst : first = ['-', 'n']
    · rw [if_pos hfirst] at h
      cases rest with
      | nil => cases h
      | cons given rest =>
        obtain ⟨count, -, h⟩ := Result.bind_eq_ok.mp h
        exact List.mem_cons_of_mem _ (List.mem_cons_of_mem _ (file_mem_of_onlyFile h))
    · rw [if_neg hfirst] at h
      exact file_mem_of_onlyFile h

namespace Procedure

theorem prepareFirstLines_withHome :
    prepareFirstLines (s.withHome home) files raw = prepareFirstLines s files raw := by
  refine Result.bind_congr fun request hrequest => ?_
  have hne : request.file ≠ [] :=
    Argument.ne_nil_of_mem_tokens (HeadRequest.file_mem_tokens hrequest)
  rw [Session.existingFile_withHome hne]

theorem prepareMatchLines_withHome :
    prepareMatchLines (s.withHome home) files raw = prepareMatchLines s files raw := by
  rw [prepareMatchLines, prepareMatchLines]
  cases Text.isAllBlank raw with
  | true => rfl
  | false =>
    refine Result.bind_congr fun found hfound => ?_
    obtain ⟨htokens, hlength⟩ := Argument.exactly_eq_ok_iff.mp hfound
    obtain ⟨pattern, name, rfl⟩ := List.length_eq_two.mp hlength
    have hname : name ≠ [] := Argument.ne_nil_of_mem_tokens (by rw [htokens]; simp)
    simp only [List.getLastD_cons, List.getLastD_nil, Session.existingFile_withHome hname]

theorem prepareSetting_withHome (command what : Text) :
    prepareSetting command what (s.withHome home) files raw =
      prepareSetting command what s files raw := by
  rw [prepareSetting, prepareSetting]
  cases Text.isAllBlank raw with
  | true => rfl
  | false =>
    cases hname : (Argument.leading raw).2 with
    | nil => simp only [hname]; rfl
    | cons c t =>
      simp only [hname, Session.existingFile_withHome (List.cons_ne_nil c t)]

theorem prepareMode_withHome :
    prepareMode (s.withHome home) files raw = prepareMode s files raw := by
  rw [prepareMode, prepareSetting_withHome]
  rfl

theorem prepareRights_withHome :
    prepareRights (s.withHome home) files raw = prepareRights s files raw := by
  rw [prepareRights, prepareRights]
  split
  · rfl
  · rename_i hname
    exact Session.existing_withHome hname s files _ _

theorem prepareUsage_withHome :
    prepareUsage (s.withHome home) files raw = prepareUsage s files raw := by
  have hplatform : (s.withHome home).platform = s.platform := rfl
  rw [prepareUsage, prepareUsage, hplatform]
  cases htokens : Argument.tokens raw with
  | nil => cases s.platform <;> rfl
  | cons name rest =>
    have hne : name ≠ [] := Argument.ne_nil_of_mem_tokens (by rw [htokens]; simp)
    cases s.platform with
    | posix => rfl
    | windows => simp only [Session.existing_withHome hne]

theorem showEach_withHome (s : Site) (home : Text) (files : List (Text × Text)) :
    showEach (s.withHome home) files = showEach s files := by
  induction files with
  | nil => rfl
  | cons file files ih =>
    rw [showEach, showEach, ih]
    rfl

theorem performConcatenate_withHome (s : Site) (home : Text) (files : List (Text × Text)) :
    performConcatenate (s.withHome home) files = performConcatenate s files := by
  have hplatform : (s.withHome home).platform = s.platform := rfl
  rw [performConcatenate, performConcatenate, hplatform, showEach_withHome]
  rfl

theorem ne_nil_of_prepareCount {raw : Text} {names : List Text}
    (h : prepareCount raw = .ok names) : ∀ name ∈ names, name ≠ [] := by
  intro name hname
  rw [prepareCount] at h
  split at h
  · cases h
  · cases h
    exact Argument.ne_nil_of_mem_tokens hname

theorem countFile_withHome {name : Text} (h : name ≠ []) (opened : Nat) :
    countFile (s.withHome home) opened name = countFile s opened name := by
  rw [countFile, countFile, Session.resolve_withHome h]

theorem countFiles_withHome {names : List Text} (h : ∀ name ∈ names, name ≠ []) (opened : Nat) :
    countFiles (s.withHome home) opened names = countFiles s opened names := by
  induction names generalizing opened with
  | nil => rfl
  | cons name names ih =>
    have hrest := ih (fun other hother => h other (List.mem_cons_of_mem name hother)) (opened + 1)
    rw [countFiles, countFiles, countFile_withHome s home (h name List.mem_cons_self), hrest]

end Procedure

namespace Download

/-- A document always has a name. -/
theorem fileName_ne_nil (u : Url) : u.fileName ≠ [] := by
  rw [Url.fileName]
  split
  · simp
  · rename_i hsegment
    simpa using hsegment

theorem target_ne_nil {raw : Text} {request : Request} (h : parse raw = .ok request) :
    request.target ≠ [] := by
  rw [parse] at h
  split at h
  · cases h
  · obtain ⟨url, -, h⟩ := Result.bind_eq_ok.mp h
    cases h
    exact fileName_ne_nil url
  · rename_i address output htokens
    obtain ⟨url, -, h⟩ := Result.bind_eq_ok.mp h
    cases h
    have hmem : output ∈ Argument.tokens raw := by simp [htokens]
    exact Argument.ne_nil_of_mem_tokens hmem
  · cases h

theorem prepare_withHome : prepare (s.withHome home) raw = prepare s raw := by
  refine Result.bind_congr fun request hrequest => ?_
  rw [Session.resolve_withHome (target_ne_nil hrequest)]

end Download

end Preparation

/-! ### Procedures -/

namespace Command

variable {c : Command} {p : Procedure} {platform : Platform}

/-- What is to be done is made out of the arguments without the home directory. -/
theorem prepare_withHome (hp : c.procedure? platform = some p) (s : Session) (home : Text)
    (files : FileSystem) (raw : Text) :
    p.prepare (s.withHome home) files raw = p.prepare s files raw := by
  have hreported {α : Type} {r r' : Except ShellError α} (h : r = r') :
      ofReported r = ofReported r' := congrArg ofReported h
  cases c
  case cp => cases hp; exact hreported (Transfer.prepare_withHome s home files raw .copy)
  case mv => cases hp; exact hreported (Transfer.prepare_withHome s home files raw .move)
  case touch =>
    obtain rfl := eq_touch_of_procedure? hp
    exact hreported (Procedure.prepareTouch_withHome s home raw)
  case gzip => cases hp; exact hreported (Procedure.prepareFile_withHome s home files raw _)
  case file => cases hp; exact hreported (Procedure.prepareFile_withHome s home files raw _)
  case cat => cases hp; exact hreported (Procedure.prepareFiles_withHome s home files raw _)
  case less => cases hp; exact hreported (Procedure.preparePage_withHome s home files raw)
  case head => cases hp; exact hreported (Procedure.prepareFirstLines_withHome s home files raw)
  case grep => cases hp; exact hreported (Procedure.prepareMatchLines_withHome s home files raw)
  case chmod => cases hp; exact Procedure.prepareMode_withHome s home files raw
  case chown => cases hp; exact hreported (Procedure.prepareSetting_withHome s home files raw _ _)
  case chgrp => cases hp; exact hreported (Procedure.prepareSetting_withHome s home files raw _ _)
  case du => cases hp; exact hreported (Procedure.prepareUsage_withHome s home files raw)
  case accessRights => cases hp; exact hreported (Procedure.prepareRights_withHome s home files raw)
  case wget => cases hp; exact Download.prepare_withHome s home raw
  all_goals cases hp <;> rfl

/-- What is done is done without the home directory, too.  Only the counting of contents finds out
what paths mean while it is under way, and those are the arguments. -/
theorem perform_withHome (hp : c.procedure? platform = some p) {s : Site} {files : FileSystem}
    {raw : Text} {input : p.Input} (hinput : p.prepare s.session files raw = .ok input)
    (home : Text) : p.perform (s.withHome home) input = p.perform s input := by
  cases c
  case touch =>
    obtain rfl := eq_touch_of_procedure? hp
    rfl
  case cat => cases hp; exact Procedure.performConcatenate_withHome s home input
  case wc =>
    cases hp
    have hnames := Procedure.ne_nil_of_prepareCount (Result.ofReported_eq_ok.mp hinput)
    have hcount := Procedure.countFiles_withHome s.session home hnames 0
    exact congrArg (· >>= fun counts => pure (Answer.listing (Procedure.countTable counts))) hcount
  all_goals cases hp <;> rfl

/-- So what carries out a command does the same wherever the home directory is. -/
theorem run_withHome (hp : c.procedure? platform = some p) (s : Site) (home raw : Text) :
    p.run (s.withHome home) raw = p.run s raw := by
  rw [Procedure.run, Procedure.run]
  refine bind_congr fun files => ?_
  have hprepare : p.prepare (s.withHome home).session files raw = p.prepare s.session files raw :=
    prepare_withHome hp s.session home files raw
  rw [hprepare]
  cases hinput : p.prepare s.session files raw with
  | error f => rfl
  | ok input => exact perform_withHome hp hinput home

end Command

/-! ### Commands -/

/-- What there is to do for a command does not depend on the home directory. -/
theorem Site.plan_withHome (s : Site) (home : Text) (c : Command) (raw : Text) :
    (s.withHome home).plan c raw = s.plan c raw := by
  have hplatform : (s.withHome home).platform = s.platform := rfl
  rw [Site.plan, Site.plan, hplatform]
  cases hp : c.procedure? s.platform with
  | none => rfl
  | some p => simp only [Command.run_withHome hp]

namespace Shell

theorem execute_withHome (s : Site) (home : Text) (c : Command) (raw commandLine : Text) :
    execute (s.withHome home) c raw commandLine = execute s c raw commandLine := by
  rw [execute, execute, Site.plan_withHome]
  rfl

theorem recorded_withHome (s : Shell) (home : Text) (c : Command) (raw : Text) :
    (s.withHome home).recorded c raw = (s.recorded c raw).withHome home :=
  congrArg (fun session => ({ s with session } : Shell)) (s.session.record_withHome c.name raw)

/-- Shells that differ in the home directory alone do the same, unless a `cd` asks for it. -/
theorem dispatch_withHome {c : Command} {raw : Text} (h : c = .cd → Text.without '"' raw ≠ [])
    (s : Shell) (home commandLine : Text) :
    (s.withHome home).dispatch c raw commandLine =
      Prod.map id (·.withHome home) (s.dispatch c raw commandLine) := by
  cases hc : c.isBuiltin with
  | false =>
    rw [dispatch_of_isBuiltin_eq_false _ hc, dispatch_of_isBuiltin_eq_false _ hc]
    exact congrArg (s.withHome home).act (execute_withHome s.site home c raw commandLine)
  | true =>
    cases c <;> cases hc
    case true.cd.refl =>
      have hsession : (s.withHome home).session = s.session.withHome home := rfl
      have hworld : (s.withHome home).world = s.world := rfl
      simp only [dispatch, hsession, hworld, Session.changeDirectory_withHome (h rfl)]
      cases s.session.changeDirectory s.world.files (Text.without '"' raw) <;> rfl
    all_goals rfl

/-- Whether a command asks for the home directory: a `cd` whose argument text is empty once its
double quotes are taken away. -/
def AsksForHome (name raw : Text) : Prop :=
  Command.parse (Text.trim name) = .ok .cd ∧ Text.without '"' (Text.trim raw) = []

/-- Shells that differ in the home directory alone answer every command alike, and do the same to
the world: the same processes are to be started, the same documents are asked for, and the same
files are left.  After it they still differ in the home directory alone.  The one exception is a
`cd` whose argument text is empty. -/
theorem submit_withHome {name raw : Text} (h : ¬ AsksForHome name raw) (s : Shell) (home : Text) :
    ((s.withHome home).submit name raw).1 = (s.submit name raw).1 ∧
      ((s.withHome home).submit name raw).2 = (s.submit name raw).2.withHome home := by
  cases hparse : Command.parse (Text.trim name) with
  | error e =>
    rw [submit_of_parse_error hparse, submit_of_parse_error hparse]
    exact ⟨rfl, rfl⟩
  | ok c =>
    have hcd : c = .cd → Text.without '"' (Text.trim raw) ≠ [] := by
      rintro rfl hempty
      exact h ⟨hparse, hempty⟩
    rw [submit_of_parse hparse, submit_of_parse hparse, recorded_withHome, dispatch_withHome hcd]
    exact ⟨rfl, rfl⟩

/-- A `cd` to a directory whose name is a blank does not ask for the home directory. -/
theorem submit_withHome_of_quoted_blank :
    let s : Shell := ⟨{ directory := "/", platform := .posix, home := "/me" }, .unlimited,
      { files := .bare }⟩
    ¬ AsksForHome "cd" "\" \"" ∧
      ((s.withHome "/you").submit "cd" "\" \"").1.text = "Error: Directory not found: / " := by
  intro s
  have hblank : ¬ AsksForHome "cd" "\" \"" := by
    rintro ⟨-, hempty⟩
    cases hempty
  have hreply : (s.submit "cd" "\" \"").1.text = "Error: Directory not found: / " := rfl
  have hsame := (submit_withHome hblank s "/you").1
  rw [hsame]
  exact ⟨hblank, hreply⟩

end Shell

end PortableShell
