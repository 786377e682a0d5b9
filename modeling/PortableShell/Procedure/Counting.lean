import PortableShell.Procedure
import PortableShell.TextCount

/-!
# Counting the contents of files

## Main definitions

* `Procedure.countFiles`: the counts of files, up to the first that is none.
* `Procedure.countTable`: the rows of the counts, with their total if there are several files.
* `Procedure.countContents`: the procedure.
-/

namespace PortableShell.Procedure

/-- The arguments, of which there is at least one. -/
def prepareCount (raw : Text) : Except ShellError (List Text) :=
  match Argument.tokens raw with
  | [] => .error (.missing "wc" "at least one file argument")
  | tokens => .ok tokens

/-- The counts of one file, after as many others as `opened` were read. -/
def countFile (s : Session) (opened : Nat) (name : Text) : Action TextCount := do
  let path ← ofReported (s.resolve name)
  let files ← World.currentFiles
  if files.isFile path then
    let bytes ← (World.readFile path opened).adapt .system
    return .ofText (Utf8.decode bytes)
  else
    throw (.reported ⟨.missingFile, "File not found: " ++ name, none⟩)

/-- The counts of files, each with the file as it was written. -/
def countFiles (s : Session) (opened : Nat) : List Text → Action (List (Text × TextCount))
  | [] => return []
  | name :: names => do
    let count ← countFile s opened name
    let others ← countFiles s (opened + 1) names
    return (name, count) :: others

/-- A row for each of the counts, and one for their total if there are several. -/
def countTable (counts : List (Text × TextCount)) : Text :=
  let total := counts.foldl (fun sum (_, count) => sum + count) 0
  let rows := counts.map fun (name, count) => count.row name
  Text.join ['\n'] (rows ++ if counts.length > 1 then [total.row "total"] else []) ++ ['\n']

/-- Counts the contents of files. -/
def countContents : Procedure where
  Input := List Text
  prepare _ _ raw := ofReported (prepareCount raw)
  perform s names := do return .listing (countTable (← countFiles s.session 0 names))

end PortableShell.Procedure
