import Mustache.Text.Lines

/-!
**Paths.**

A path is a root, which may be empty, and its parts. Empty parts and single points are left out;
two points are kept, since only a file system can tell what they lead to.

* `Path.ofText`, `Path.text`: reading and writing.
* `Path.join`: a path as seen from another one.
* `Path.parent`, `Path.suffix`: where a path leads from, and the ending of its name.
-/

namespace Mustache

/-- A path: a root of up to two slashes, and parts. -/
structure Path where
  root : String
  parts : List String
  deriving DecidableEq, Repr

namespace Path

/-- The root of a path that starts with so many slashes: exactly two are kept. -/
def rootOf (slashes : Nat) : String :=
  if slashes = 0 then "" else if slashes = 2 then "//" else "/"

/-- **The path a text denotes.** -/
def ofText (text : String) : Path where
  root := rootOf (text.toList.takeWhile (· == '/')).length
  parts := ((Text.splitOn '/' text.toList).map String.ofList).filter fun part =>
    part != "" && part != "."

/-- The text of a path; the empty path is a point. -/
def text (path : Path) : String :=
  let written := path.root ++ "/".intercalate path.parts
  if written.isEmpty then "." else written

/-- A path with a root. -/
def isAbsolute (path : Path) : Bool := path.root != ""

/-- **A path as seen from another one**; a path with a root stays as it is. -/
def join (base path : Path) : Path :=
  if path.isAbsolute then path else ⟨base.root, base.parts ++ path.parts⟩

/-- The path without its last part. -/
def parent (path : Path) : Path := ⟨path.root, path.parts.dropLast⟩

/-- The last part. -/
def name (path : Path) : String := path.parts.getLast?.getD ""

/-- The ending of a name from its last point on; a point at either end of the name begins none. -/
def suffix (path : Path) : String :=
  let reversed := path.name.toList.reverse
  let ending := reversed.takeWhile (· != '.')
  let stem := reversed.drop (ending.length + 1)
  if ending.isEmpty || stem.isEmpty then "" else String.ofList ('.' :: ending.reverse)

end Path

end Mustache
