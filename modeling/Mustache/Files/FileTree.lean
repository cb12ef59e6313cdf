import Mustache.Fault
import Mustache.Files.Path

/-!
**Files.**

A file tree holds files and directories, each under the names that lead there. They lead there from
the working directory, or from the root if that is the first of them; two points at their start lead
out of the working directory.

* `FileTree.locate`: what a path leads to, part by part.
* `FileTree.readText`, `FileTree.readStream`: the text of a file, read at once or piece by piece.
* `FileTree.save`: a text written to a file.
-/

namespace Mustache

/-- Files with their contents, and directories, each under the names that lead there. -/
structure FileTree where
  files : List (List String × List UInt8)
  directories : List (List String)

/-- What a path leads to: a file, a directory, or a name not used in a directory. -/
inductive Place where
  | file (names : List String) (content : List UInt8)
  | directory (names : List String)
  | vacant (names : List String)

namespace FileTree

/-- A tree without files. -/
def empty : FileTree := ⟨[], []⟩

/-- The directories that names lead through. -/
def ancestors (names : List String) : List (List String) :=
  (List.range names.length).map names.take

/-- Whether names lead to where every tree has a directory: the root, the working directory, or one
that it is in. -/
def isOutermost (names : List String) : Bool :=
  match names with
  | [root] => root == "/" || root == "//" || root == ".."
  | names => names.all (· == "..")

/-- Whether names lead to a directory. -/
def isDirectory (tree : FileTree) (names : List String) : Bool :=
  isOutermost names || tree.directories.contains names

/-- The names that lead to the directory that a directory is in. -/
def outside (names : List String) : List String :=
  if names.all (· == "..") then names ++ [".."]
  else if isOutermost names then names
  else names.dropLast

/-- The names that lead to where a part leads from a directory. -/
def inside (names : List String) (part : String) : List String :=
  if part = ".." then outside names else names ++ [part]

/-- What names lead to. -/
def at? (tree : FileTree) (names : List String) : Place :=
  match tree.files.lookup names with
  | some content => .file names content
  | none => if tree.isDirectory names then .directory names else .vacant names

/-- The largest number of bytes in the name of a file. -/
def nameLimit : Nat := 255

/-- The largest number of bytes in a path. -/
def pathLimit : Nat := 4095

/-- What further parts lead to from a directory. Every part but the last has to lead to a directory,
and no part that is looked for there may be too long. -/
def follow (tree : FileTree) (names : List String) : List String → Except Fault (Option Place)
  | [] => .ok (some (tree.at? names))
  | part :: rest =>
    if nameLimit < part.utf8ByteSize then .error .nameTooLong
    else if rest.isEmpty then .ok (some (tree.at? (inside names part)))
    else if tree.isDirectory (inside names part) then tree.follow (inside names part) rest
    else .ok none

/-- The names that a path starts from. -/
def origin (path : Path) : List String := if path.isAbsolute then [path.root] else []

/-- Whether a path holds the character zero, which no name of a file has. -/
def holdsZero (path : Path) : Bool := path.text.toList.contains '\x00'

/-- **What a path leads to**, if all but its last part leads to a directory. A path may be too
long. -/
def locate (tree : FileTree) (path : Path) : Except Fault (Option Place) :=
  if holdsZero path then .ok none
  else if pathLimit < path.text.utf8ByteSize then .error .nameTooLong
  else tree.follow (origin path) path.parts

/-- Whether a path leads to a file. -/
def isFile (tree : FileTree) (path : Path) : Except Fault Bool :=
  (tree.locate path).map fun place => match place with
    | some (.file _ _) => true
    | _ => false

/-- Whether there is a file under some names. -/
def holds (tree : FileTree) (names : List String) : Bool :=
  tree.files.any fun file => file.1 == names

/-- The text of some bytes, with line feeds for all line ends. -/
def textOfBytes (content : List UInt8) : Except Fault String :=
  match Text.Utf8.decode content with
  | .ok text => .ok (String.ofList (Text.unifyNewlines text.toList))
  | .error fault => .error (.malformedText fault)

/-- The content of a file. -/
def content (tree : FileTree) (path : Path) : Except Fault (List UInt8) :=
  match tree.locate path with
  | .error fault => .error fault
  | .ok (some (.file _ content)) => .ok content
  | .ok (some (.directory _)) => .error .isDirectory
  | .ok _ => .error .fileNotFound

/-- **The text of a file**, with line feeds for all line ends. -/
def readText (tree : FileTree) (path : Path) : Except Fault String :=
  (tree.content path).bind textOfBytes

/-- The text of a file that is read piece by piece, with line feeds for all line ends. -/
def readStream (tree : FileTree) (path : Path) : Except Fault String :=
  (tree.content path).bind fun content =>
    match Text.Utf8.decodeStream content with
    | .ok text => .ok (String.ofList (Text.unifyNewlines text.toList))
    | .error fault => .error (.malformedText fault)

/-- A file with a content, in place of one that was there. -/
def put (names : List String) (content : List UInt8) :
    List (List String × List UInt8) → List (List String × List UInt8)
  | [] => [(names, content)]
  | (known, old) :: rest =>
    if known = names then (names, content) :: rest else (known, old) :: put names content rest

/-- The tree with a file, and with the directories that lead to it. -/
def withFile (tree : FileTree) (names : List String) (content : List UInt8) : FileTree where
  files := put names content tree.files
  directories := tree.directories ++
    (ancestors names).filter fun directory => !tree.directories.contains directory

/-- The tree without a file. -/
def withoutFile (tree : FileTree) (names : List String) : FileTree :=
  { tree with files := tree.files.filter fun file => file.1 != names }

/-- The names that the parts of a path lead to. -/
def namesOf (path : Path) : List String := path.parts.foldl inside (origin path)

/-- A tree with files under the texts of their paths. -/
def ofFiles (files : List (String × List UInt8)) : FileTree :=
  files.foldl (fun tree file => tree.withFile (namesOf (Path.ofText file.1)) file.2) empty

/-- Whether a path leads through a file as if it were a directory. -/
def leadsThroughFile (tree : FileTree) (path : Path) : Bool :=
  (ancestors path.parts).any fun names =>
    match tree.locate ⟨path.root, names⟩ with
    | .ok (some (.file _ _)) => true
    | _ => false

/-- **A text written to a file**; the directory has to be there. -/
def save (tree : FileTree) (path : Path) (text : String) : Except Fault FileTree :=
  if holdsZero path then .error .zeroInName
  else
    match tree.locate path with
    | .error fault => .error fault
    | .ok (some (.file names _)) => .ok (tree.withFile names (Text.Utf8.encode text))
    | .ok (some (.vacant names)) => .ok (tree.withFile names (Text.Utf8.encode text))
    | .ok (some (.directory _)) => .error .isDirectory
    | .ok none => .error (if tree.leadsThroughFile path then .notDirectory else .fileNotFound)

end FileTree

end Mustache
