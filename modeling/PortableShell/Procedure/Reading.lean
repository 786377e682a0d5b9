import PortableShell.Procedure
import PortableShell.Number.Integer

/-!
# Showing the contents of files

## Main definitions

* `Procedure.concatenate`, `Procedure.page`: whole files, and one file.
* `HeadRequest.parse`: how many lines of which file are asked for.
* `Procedure.firstLines`: the first lines of a file.
-/

namespace PortableShell

namespace Procedure

/-- The files of an argument text, each as it was written and with its path.  All of them have to
exist. -/
def prepareFiles (command : Text) (s : Session) (files : FileSystem) (raw : Text) :
    Except ShellError (List (Text × Text)) :=
  match Argument.tokens raw with
  | [] => .error (.missing command "at least one file argument")
  | tokens => tokens.mapM fun t => do return (t, ← s.existingFile files t)

/-- Shows files one after the other, each by a process of its own, up to the first that cannot be
shown. -/
def showEach (s : Site) : List (Text × Text) → Action Text
  | [] => return []
  | (name, path) :: rest => do
    let output ← s.launchChecked ("Failed to read file: " ++ name)
      (Invocation.viaCmd ["type", path])
    let others ← showEach s rest
    return output ++ others

/-- Shows files one after the other. -/
def performConcatenate (s : Site) (files : List (Text × Text)) : Action Answer := do
  match s.platform with
  | .posix =>
    let output ← s.launchChecked "Failed to read files" ("cat".toList :: files.map (·.2))
    return .listing output
  | .windows =>
    let output ← showEach s files
    return .listing output

/-- Shows files one after the other. -/
def concatenate : Procedure where
  Input := List (Text × Text)
  prepare s files raw := ofReported (prepareFiles "cat" s files raw)
  perform := performConcatenate

/-- The only file of an argument text. -/
def preparePage (s : Session) (files : FileSystem) (raw : Text) : Except ShellError Text :=
  match Argument.tokens raw with
  | [] => .error (.missing "less" "a file argument")
  | [name] => s.existingFile files name
  | _ => .error (.tooMany "less only supports one file at a time")

/-- Shows a file with the tool that pages.  Where it has no terminal to page on it shows all. -/
def performPage (s : Site) (path : Text) : Action Answer := do
  let output ← match s.platform with
    | .posix => s.launchChecked "less failed" ["less", path]
    | .windows => s.launchChecked "more failed" (Invocation.viaCmd ["more", path])
  return .listing output

/-- Shows one file. -/
def page : Procedure where
  Input := Text
  prepare s files raw := ofReported (preparePage s files raw)
  perform := performPage

end Procedure

/-- The first lines of a file that are asked for. -/
structure HeadRequest where
  count : Nat
  file : Text
  deriving DecidableEq, Repr

namespace HeadRequest

/-- How many lines are shown if no number is given. -/
def defaultCount : Nat := 10

/-- The error of a text that gives no number of lines. -/
def badCount (given : Text) : ShellError :=
  .invalid ("Invalid line count: " ++ given)

/-- The number of lines that a text gives. -/
def parseCount (given : Text) : Except ShellError Nat :=
  match Integer.read? given with
  | some (.ofNat n) => .ok n
  | _ => .error (badCount given)

/-- The only file among the arguments that are left. -/
def onlyFile (count : Nat) : List Text → Except ShellError HeadRequest
  | [] => .error (.missing "head" "a file argument")
  | [file] => .ok ⟨count, file⟩
  | _ => .error (.tooMany "head only supports one file at a time")

/-- What an argument text asks for: `-n` and a number if wanted, and a file. -/
def parse (raw : Text) : Except ShellError HeadRequest :=
  match Argument.tokens raw with
  | [] => .error (.missing "head" "a file argument")
  | first :: rest =>
    if first = ['-', 'n'] then
      match rest with
      | [] => .error (.invalid "head -n requires a line count")
      | given :: rest => do
        let count ← parseCount given
        onlyFile count rest
    else
      onlyFile defaultCount (first :: rest)

end HeadRequest

namespace Procedure

/-- Makes out how many lines of which existing file are to be shown. -/
def prepareFirstLines (s : Session) (files : FileSystem) (raw : Text) :
    Except ShellError (Nat × Text) := do
  let request ← HeadRequest.parse raw
  let path ← s.existingFile files request.file
  return (request.count, path)

/-- The script that shows the first lines of a file. -/
def firstLinesScript (count : Nat) (path : Text) : Text :=
  "Get-Content -LiteralPath " ++ Invocation.scriptLiteral path ++ " -Head " ++ Text.ofNat count

/-- Shows the first lines of a file. -/
def performFirstLines (s : Site) (input : Nat × Text) : Action Answer := do
  let (count, path) := input
  let argv := match s.platform with
    | .posix => ["head", "-n", Text.ofNat count, path]
    | .windows => Invocation.viaPowerShell (firstLinesScript count path)
  let output ← s.launchChecked "head failed" argv
  return .listing output

/-- Shows the first lines of a file. -/
def firstLines : Procedure where
  Input := Nat × Text
  prepare s files raw := ofReported (prepareFirstLines s files raw)
  perform := performFirstLines

end Procedure

end PortableShell
