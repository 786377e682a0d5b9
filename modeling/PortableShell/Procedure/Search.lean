import PortableShell.Procedure

/-!
# Searching

Lines of a file that match a pattern, and files whose name holds one.

## Main definitions

* `Procedure.matchLines`: the lines of a file that match a pattern.
* `Procedure.findFiles`, `Procedure.locateFiles`: the files below the directory of the session,
  and all files.
-/

namespace PortableShell.Procedure

/-- A pattern and a file as they were written, and the path of the file. -/
structure PatternFile where
  pattern : Text
  name : Text
  path : Text

/-- Makes out the pattern and the file, which has to exist. -/
def prepareMatchLines (s : Session) (files : FileSystem) (raw : Text) :
    Except ShellError PatternFile := do
  if Text.isAllBlank raw then
    throw (.missing "grep" "a pattern and file argument")
  let found ← Argument.exactly raw "grep" "pattern and file arguments" 2
  let pattern := found.headD []
  let name := found.getLastD []
  let path ← s.existingFile files name
  return { pattern, name, path }

/-- The native command that searches a file. -/
def matchLinesArgv (platform : Platform) (input : PatternFile) : List Text :=
  match platform with
  | .posix => ["grep", "-n", "--", input.pattern, input.path]
  | .windows => Invocation.viaCmd ["findstr", "/n", input.pattern, input.path]

/-- Searches a file.  An exit code of one without output means that no line matches, which is no
error. -/
def performMatchLines (s : Site) (input : PatternFile) : Action Answer := do
  let result ← s.launch (matchLinesArgv s.platform input)
  if result.code = 1 ∧ Text.isAllBlank result.output then
    return .notice ("No lines matching '" ++ input.pattern ++ "' in " ++ input.name)
  else if result.ok then
    return .listing result.output
  else
    throw (.reported ⟨.commandFailed, "grep failed with exit code " ++ Text.ofInt result.code,
      some result.output⟩)

/-- Searches a file for lines that match a pattern. -/
def matchLines : Procedure where
  Input := PatternFile
  prepare s files raw := ofReported (prepareMatchLines s files raw)
  perform := performMatchLines

/-- The pattern that an argument text gives, blanks inside it included. -/
def preparePattern (command raw : Text) : Except ShellError Text :=
  match Text.without '"' (Text.trim raw) with
  | [] => .error (.missing command "a search pattern")
  | pattern => .ok pattern

/-- What the tool of one platform prints if it found nothing. -/
def foundNothing : Text := "File Not Found"

/-- The answer to a search.  A tool that found nothing may end with an error, so its output is
looked at first. -/
def searchAnswer (result : ChildResult) (nothing failure : Text) : Except Failure Answer :=
  if Text.isAllBlank result.output || Text.hasInfix foundNothing result.output then
    .ok (.notice nothing)
  else if result.ok then
    .ok (.listing result.output)
  else
    .error (.reported ⟨.commandFailed, failure, some result.output⟩)

/-- The pattern that matches every name which holds `pattern`. -/
def anywhere (pattern : Text) : Text :=
  ['*'] ++ pattern ++ ['*']

/-- The native command that finds files below the directory it runs in. -/
def findFilesArgv (platform : Platform) (pattern : Text) : List Text :=
  match platform with
  | .posix => ["find", ".", "-name", anywhere pattern]
  | .windows => Invocation.viaCmd ["dir", "/s/b", anywhere pattern]

/-- Finds files below the directory of the session. -/
def performFindFiles (s : Site) (pattern : Text) : Action Answer := do
  let result ← s.launch (findFilesArgv s.platform pattern)
  searchAnswer result ("No files matching '" ++ pattern ++ "' found in " ++ s.directory)
    "find failed"

/-- Finds files below the directory of the session. -/
def findFiles : Procedure where
  Input := Text
  prepare _ _ raw := ofReported (preparePattern "find" raw)
  perform := performFindFiles

/-- The native command that finds files anywhere.  Where there is no index of them the whole tree
is listed and filtered. -/
def locateFilesArgv (platform : Platform) (pattern : Text) : List Text :=
  match platform with
  | .posix => ["locate", pattern]
  | .windows => Invocation.viaCmd ["dir", "/s/b", "*", "|", "findstr", "/i", pattern]

/-- Finds files anywhere. -/
def performLocateFiles (s : Site) (pattern : Text) : Action Answer := do
  let result ← s.launch (locateFilesArgv s.platform pattern)
  searchAnswer result ("No files matching '" ++ pattern ++ "' found") "locate failed"

/-- Finds files anywhere. -/
def locateFiles : Procedure where
  Input := Text
  prepare _ _ raw := ofReported (preparePattern "locate" raw)
  perform := performLocateFiles

end PortableShell.Procedure
