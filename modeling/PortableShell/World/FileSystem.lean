import PortableShell.Path.Basic
import PortableShell.Text.Utf8

/-!
# File systems

A file system holds directories and files under paths in their shortest form.  Its operations
here never fail for a reason of the operating system's own; such faults are laid over them in
`PortableShell.World`.

## Main definitions

* `Node`: a directory, a file or a symbolic link to a directory, with its mode.
* `FileSystem`: nodes under paths, and `FileSystem.node?`, the node of a path.
* `FileSystem.write`, `FileSystem.erase`: one node set or removed.
* `FileSystem.place`: a node set with the directories above it.
* `FileSystem.obstacle?`: why no file can be created in a directory.

## Main statements

* `FileSystem.node?_write_self`, `FileSystem.node?_write_of_ne`, `FileSystem.node?_erase_self`,
  `FileSystem.node?_erase_of_ne`: setting and removing a node changes that node and no other.
-/

namespace PortableShell

open Utf8 (Bytes)

/-- What a node holds. -/
inductive Content where
  | directory
  | file (bytes : Bytes)
  /-- A symbolic link that leads to a directory. -/
  | link
  deriving DecidableEq, Repr

/-- A directory, a file, or a symbolic link to a directory. -/
structure Node where
  content : Content
  /-- The permission bits. -/
  mode : Nat
  /-- The attributes of file systems that know such. -/
  attributes : Option Nat := none
  deriving DecidableEq, Repr

namespace Node

/-- The permission bits of a new directory. -/
def directoryMode : Nat := 0o755

/-- The permission bits of a new file. -/
def fileMode : Nat := 0o644

/-- A new directory. -/
def newDirectory : Node := ⟨.directory, directoryMode, none⟩

/-- A new file without contents. -/
def newFile : Node := ⟨.file [], fileMode, none⟩

/-- Whether a node is a directory or leads to one. -/
def isDirectory (n : Node) : Bool :=
  n.content matches .directory | .link

/-- Whether a node is a symbolic link. -/
def isLink (n : Node) : Bool :=
  n.content matches .link

/-- The bytes of a file. -/
def bytes? (n : Node) : Option Bytes :=
  match n.content with
  | .file bytes => some bytes
  | _ => none

/-- Whether the attributes hide a node. -/
def isMarkedHidden (n : Node) : Bool :=
  (n.attributes.getD 0).testBit 1

end Node

/-- Nodes under the keys of their paths. -/
structure FileSystem where
  nodes : List (Text × Node)
  deriving DecidableEq, Repr

namespace FileSystem

/-- The key of a path: its shortest form, where two slashes in front count as one. -/
def key (p : Text) : Text :=
  match Path.normalize p with
  | '/' :: '/' :: t => '/' :: t
  | t => t

/-- The node of a path. -/
def node? (fs : FileSystem) (p : Text) : Option Node :=
  fs.nodes.lookup (key p)

/-- Whether there is a node under a path. -/
def contains (fs : FileSystem) (p : Text) : Bool :=
  (fs.node? p).isSome

/-- Whether a directory is under a path, or a link that leads to one. -/
def isDirectory (fs : FileSystem) (p : Text) : Bool :=
  (fs.node? p).any Node.isDirectory

/-- Whether a symbolic link is under a path. -/
def isLink (fs : FileSystem) (p : Text) : Bool :=
  (fs.node? p).any Node.isLink

/-- Whether a file may take the place of what is under a path: it may take that of a link, but not
that of a directory. -/
def isReplaceable (fs : FileSystem) (p : Text) : Bool :=
  (fs.node? p).all (·.content != .directory)

/-- The bytes of the file under a path. -/
def bytes? (fs : FileSystem) (p : Text) : Option Bytes :=
  (fs.node? p).bind Node.bytes?

/-- Whether a file is under a path. -/
def isFile (fs : FileSystem) (p : Text) : Bool :=
  (fs.bytes? p).isSome

/-- Nodes with the one under the key `k` set to `n`. -/
def setNode (k : Text) (n : Node) : List (Text × Node) → List (Text × Node)
  | [] => [(k, n)]
  | (k', n') :: rest => if k' = k then (k, n) :: rest else (k', n') :: setNode k n rest

/-- The file system with the node of a path set. -/
def write (fs : FileSystem) (p : Text) (n : Node) : FileSystem :=
  ⟨setNode (key p) n fs.nodes⟩

/-- The file system without the node of a path. -/
def erase (fs : FileSystem) (p : Text) : FileSystem :=
  ⟨fs.nodes.filter fun m => m.1 != key p⟩

/-- The file system with the node of a path changed, if there is one. -/
def update (fs : FileSystem) (p : Text) (f : Node → Node) : FileSystem :=
  match fs.node? p with
  | none => fs
  | some n => fs.write p (f n)

/-- The file system with bytes appended to the file of a path, if there is one. -/
def extend (fs : FileSystem) (p : Text) (bytes : Bytes) : FileSystem :=
  fs.update p fun n =>
    match n.content with
    | .file old => { n with content := .file (old ++ bytes) }
    | _ => n

/-- A path and the paths above it, the nearest first; the empty path is above none. -/
def chain : (fuel : Nat) → Text → List Text
  | 0, _ => []
  | fuel + 1, p =>
    if p.isEmpty then
      []
    else
      let upper := Path.parent p
      p :: if upper = p then [] else chain fuel upper

/-- A path and the paths above it.  Each is shorter than the one before. -/
def withAncestors (p : Text) : List Text :=
  chain (key p).length (key p)

/-- The nearest node at or above a path. -/
def nearest? (fs : FileSystem) (p : Text) : Option Node :=
  (withAncestors p).findSome? fs.node?

/-- What keeps a file from being created in a directory. -/
inductive Obstacle where
  /-- The directory does not exist. -/
  | missing
  /-- A file stands in its place or above it. -/
  | blocked

/-- Why no file can be created in a directory.  The empty path needs no node. -/
def obstacle? (fs : FileSystem) (directory : Text) : Option Obstacle :=
  if directory.isEmpty || fs.isDirectory directory then
    none
  else
    match fs.nearest? directory with
    | none => some .missing
    | some n => some (if n.isDirectory then .missing else .blocked)

/-- The file system with a directory under a path and under each path above it that has no node. -/
def makeDirectories (fs : FileSystem) (p : Text) : FileSystem :=
  (withAncestors p).reverse.foldl
    (fun fs q => if fs.contains q then fs else fs.write q .newDirectory) fs

/-- The file system with a node set and the missing directories above it made. -/
def place (fs : FileSystem) (p : Text) (n : Node) : FileSystem :=
  (fs.makeDirectories (Path.parent (key p))).write p n

/-- A file system with nothing but its root. -/
def bare : FileSystem :=
  ⟨[(['/'], .newDirectory)]⟩

/-- Setting a node sets it. -/
theorem lookup_setNode_self (k : Text) (n : Node) (l : List (Text × Node)) :
    (setNode k n l).lookup k = some n := by
  induction l with
  | nil => simp [setNode]
  | cons m l ih =>
    obtain ⟨k', n'⟩ := m
    by_cases h : k' = k
    · simp [setNode, h]
    · simp [setNode, h, List.lookup_cons, beq_eq_false_iff_ne.2 (Ne.symm h), ih]

/-- Setting a node leaves the others as they are. -/
theorem lookup_setNode_of_ne {k k' : Text} (h : k' ≠ k) (n : Node) (l : List (Text × Node)) :
    (setNode k n l).lookup k' = l.lookup k' := by
  induction l with
  | nil => simp [setNode, List.lookup_cons, beq_eq_false_iff_ne.2 h]
  | cons m l ih =>
    obtain ⟨k'', n''⟩ := m
    by_cases hk : k'' = k
    · subst hk
      simp [setNode, List.lookup_cons, beq_eq_false_iff_ne.2 h]
    · by_cases hk' : k' = k''
      · simp [setNode, hk, hk']
      · simp [setNode, hk, List.lookup_cons, beq_eq_false_iff_ne.2 hk', ih]

/-- Setting a node sets it. -/
theorem node?_write_self (fs : FileSystem) (p : Text) (n : Node) :
    (fs.write p n).node? p = some n :=
  lookup_setNode_self _ _ _

/-- Setting a node leaves the others as they are. -/
theorem node?_write_of_ne {p q : Text} (h : key q ≠ key p) (fs : FileSystem) (n : Node) :
    (fs.write p n).node? q = fs.node? q :=
  lookup_setNode_of_ne h _ _

/-- Removing a node removes it. -/
theorem node?_erase_self (fs : FileSystem) (p : Text) : (fs.erase p).node? p = none := by
  simp only [node?, erase]
  induction fs.nodes with
  | nil => rfl
  | cons m l ih =>
    by_cases h : m.1 = key p
    · simpa [List.filter_cons, h] using ih
    · simpa [List.filter_cons, h, Ne.symm h] using ih

/-- Removing a node leaves the others as they are. -/
theorem node?_erase_of_ne {p q : Text} (h : key q ≠ key p) (fs : FileSystem) :
    (fs.erase p).node? q = fs.node? q := by
  simp only [node?, erase]
  induction fs.nodes with
  | nil => rfl
  | cons m l ih =>
    obtain ⟨k, n⟩ := m
    by_cases hk : k = key p
    · subst hk
      simpa [List.filter_cons, List.lookup_cons, beq_eq_false_iff_ne.2 h] using ih
    · by_cases hq : key q = k
      · simp [hk, hq]
      · simpa [List.filter_cons, hk, List.lookup_cons, beq_eq_false_iff_ne.2 hq] using ih

end FileSystem

end PortableShell
