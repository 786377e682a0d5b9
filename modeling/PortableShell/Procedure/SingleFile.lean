import PortableShell.Procedure
import PortableShell.Text.Case

/-!
# Procedures for one file

Creating an empty file, compressing a file, and telling what kind of file it is.

## Main definitions

* `Procedure.touch`, `Procedure.compress`, `Procedure.identify`: the procedures.
* `FileKind.ofName`: the kind of a file by its extension.
-/

namespace PortableShell

namespace Procedure

/-- A file as it was written, and its path. -/
structure NamedFile where
  name : Text
  path : Text

/-- The only argument, which names an existing file. -/
def prepareFile (command : Text) (s : Session) (files : FileSystem) (raw : Text) :
    Except ShellError NamedFile := do
  let name ← Argument.single raw command "a file argument"
  let path ← s.existingFile files name
  return ⟨name, path⟩

/-- Makes out which file is to be created. -/
def prepareTouch (s : Session) (raw : Text) : Except ShellError Text := do
  let name ← Argument.single raw "touch" "a filename argument"
  s.resolve name

/-- Creates a file unless there is something at its path already. -/
def performTouch (path : Text) : Action Answer := do
  let files ← World.currentFiles
  if files.contains path then
    return .notice ("File already exists: " ++ path)
  else
    (World.createFile path).adapt (.ofSystem fun e =>
      .failed ("Error creating file: " ++ e.reason))
    return .notice ("Created empty file: " ++ path)

/-- Creates an empty file, for a platform that has no tool for it. -/
def touch : Procedure where
  Input := Text
  prepare s _ raw := ofReported (prepareTouch s raw)
  perform _ := performTouch

/-- Compresses a file.  On Windows it keeps its name. -/
def performCompress (s : Site) (file : NamedFile) : Action Answer := do
  match s.platform with
  | .posix =>
    let _ ← s.launchChecked "gzip failed" ["gzip", file.path]
    return .notice ("Compressed: " ++ file.name ++ ".gz")
  | .windows =>
    let _ ← s.launchChecked "Compression failed" (Invocation.viaCmd ["compact", "/C", file.path])
    return .notice ("Compressed: " ++ file.name)

/-- Compresses a file. -/
def compress : Procedure where
  Input := NamedFile
  prepare s files raw := ofReported (prepareFile "gzip" s files raw)
  perform := performCompress

end Procedure

namespace FileKind

/-- The kinds of file with their extensions. -/
def extensions : List (String × List String) := [
  ("executable", [".exe", ".com", ".bat", ".cmd", ".ps1", ".msi"]),
  ("text", [".txt", ".md", ".log", ".csv", ".ini", ".cfg"]),
  ("image", [".jpg", ".jpeg", ".png", ".gif", ".bmp", ".ico"]),
  ("archive", [".zip", ".gz", ".7z", ".rar", ".tar"]),
  ("document", [".pdf", ".doc", ".docx", ".xls", ".xlsx"]),
  ("library", [".dll", ".sys"])]

/-- The kind of a file by its extension, in which letters may be of either case. -/
def ofName (path : Text) : Text :=
  let found := Text.lower (Path.extension path)
  match extensions.find? fun (_, known) => known.any (·.toList == found) with
  | some (kind, _) => kind
  | none => "unknown"

end FileKind

namespace Procedure

/-- Tells the kind of a file: what the native tool says, or what its name says where there is no
such tool. -/
def performIdentify (s : Site) (file : NamedFile) : Action Answer := do
  match s.platform with
  | .posix =>
    let output ← s.launchChecked "file failed" ["file", file.path]
    return .listing output
  | .windows =>
    let files ← World.currentFiles
    let kind : Text :=
      if files.isDirectory file.path then "directory" else FileKind.ofName file.path
    return .notice (file.name ++ ": " ++ kind)

/-- Tells the kind of a file. -/
def identify : Procedure where
  Input := NamedFile
  prepare s files raw := ofReported (prepareFile "file" s files raw)
  perform := performIdentify

end Procedure

end PortableShell
