import PortableShell.Command
import PortableShell.Text.Blank

/-!
# The manual

What a command takes and does, in a few words.

## Main definitions

* `Command.hint`: the arguments and the purpose of a command.
* `Command.usage`: the manual entry of a command.
* `Command.manual`: the answer to a question for a manual entry.
* `Command.overview`: the list of all commands with their hints.
-/

namespace PortableShell.Command

/-- The arguments and the purpose of a command. -/
def hint : Command → Text
  | .ls => "[directory] (lists directory contents)"
  | .pwd => "(prints working directory)"
  | .mkdir => "directory_name (creates a directory)"
  | .cd => "directory_path (changes directory)"
  | .man => "command (shows usage for command)"
  | .touch => "file_name (creates empty file)"
  | .cp => "source_file target_file (copies file)"
  | .mv => "source target (moves/renames file)"
  | .rm => "file_name (removes file)"
  | .rmdir => "directory_name (removes empty directory)"
  | .cat => "file_name... (displays file content)"
  | .less => "file_name (views file content page by page)"
  | .head => "[-n lines] file_name (shows first lines of file)"
  | .grep => "pattern file_name (searches for pattern in file)"
  | .wc => "file_name... (counts lines, words, characters)"
  | .chmod =>
    "permissions file (change file permissions)\n" ++
    "Examples:\n" ++
    "  chmod 755 script.sh\n" ++
    "  chmod +x executable\n" ++
    "Permissions: 4=read, 2=write, 1=execute"
  | .chown =>
    "owner[:group] file (change file owner)\n" ++
    "Examples:\n" ++
    "  chown user file.txt\n" ++
    "  chown user:group file.txt\n" ++
    "Note: Requires admin/sudo on most systems"
  | .chgrp =>
    "group file (change file group)\n" ++
    "Examples:\n" ++
    "  chgrp developers app.jar\n" ++
    "Note: Requires admin/sudo on most systems"
  | .addUser => "username (adds a new user - requires admin)"
  | .addGroup => "groupname (adds a new group - requires admin)"
  | .ps => "(displays running processes)"
  | .quotacheck => "[drive:] (check filesystem quotas)"
  | .du => "[directory] (shows disk usage)"
  | .gzip => "file_name (compresses file)"
  | .file => "file_name (determines file type)"
  | .find => "pattern (finds files whose name contains pattern)"
  | .locate => "pattern (finds files in database)"
  | .wget => "URL [output_file] (downloads file from internet)"
  | .accessRights => "file_or_directory (displays access rights)"
  | .history => "(shows command history)"
  | .clear => "(clears the output screen)"

/-- The manual entry of a command. -/
def usage (c : Command) : Text :=
  c.name ++ " " ++ c.hint

/-- The answer to a question for the manual entry of `wanted`. -/
def manual (wanted : Text) : Text :=
  let wanted := Text.trim wanted
  if wanted.isEmpty then
    "What manual page do you want? Usage: man command"
  else
    match parse wanted with
    | .ok c => c.usage
    | .error _ => "No manual entry for " ++ wanted

/-- A command's row in the overview: its name in colour and the first line of its hint. -/
def overviewRow (c : Command) : Text :=
  "  [cyan]" ++ Text.padEnd 13 c.name ++ "[/cyan] " ++ (Text.lines c.hint).headD []

/-- What can be typed besides commands. -/
def shellOverview : Text :=
  "\n[bold]Shell[/bold]\n" ++
  "  /exit, /quit    Exit shellbridge\n" ++
  "  /help           Show this help\n" ++
  "  /clear          Clear the screen\n\n" ++
  "[bold]Tips[/bold]\n" ++
  "  Up/Down arrows  Navigate input history\n" ++
  "  Tab             Auto-complete commands/paths\n" ++
  "  Ctrl+R          Search history\n" ++
  "  Ctrl+D          Exit"

/-- All commands with their hints, and what can be typed besides them. -/
def overview : Text :=
  Text.join ['\n'] ("[bold]Commands[/bold]\n".toList :: all.map overviewRow ++ [shellOverview])

end PortableShell.Command
