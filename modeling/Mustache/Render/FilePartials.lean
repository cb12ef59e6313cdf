import Mustache.Files.FileTree
import Mustache.Render.Partials

/-!
**Partials in files.**

A partial may be given as a text; any other one is the text of a file in a directory, under its name
with an extension. What was found for a name once is kept, so a file that changes later does not
change the partial, and neither does one that comes into being.

* `FilePartials`: where partials are, and what was found so far.
* `FilePartials.find`: the partial of a name, and what is kept of it.
-/

namespace Mustache

/-- A directory, if there is one, an extension, and the partials that were given or found so far. -/
structure FilePartials where
  directory : Option Path := none
  extension : String := ".mustache"
  known : List (String × Option String) := []

namespace FilePartials

/-- The file of a partial, if there is a directory. -/
def file? (partials : FilePartials) (name : String) : Option Path :=
  partials.directory.map fun directory => directory.join (.ofText (name ++ partials.extension))

/-- The partials with one more name that was looked up. -/
def keep (partials : FilePartials) (name : String) (found : Option String) : FilePartials :=
  { partials with known := (name, found) :: partials.known }

/-- What the files hold for a name; a missing file is noted. -/
def lookUp (partials : FilePartials) (tree : FileTree) (name : String) :
    Except Fault (Option String) × List Note :=
  match partials.file? name with
  | none => (.ok none, [])
  | some path =>
    match tree.isFile path with
    | .error fault => (.error fault, [])
    | .ok true => ((tree.readText path).map some, [])
    | .ok false => (.ok none, [.partialFileMissing path.text])

/-- **The partial of a name**: what is known, or else what the files hold. A file that cannot be
read leaves nothing known. -/
def find (tree : FileTree) (name : String) (partials : FilePartials) :
    PartialReply FilePartials :=
  match partials.known.lookup name with
  | some found => ⟨.ok found, [], partials⟩
  | none =>
    match partials.lookUp tree name with
    | (.ok found, notes) => ⟨.ok found, notes, partials.keep name found⟩
    | (.error fault, notes) => ⟨.error fault, notes, partials⟩

/-- Where a rendering finds partials whose state stands beside that of its host. -/
def lookupIn {σ : Type} (tree : FileTree) : Partials (σ × FilePartials) :=
  .lookup fun name (state, partials) =>
    let reply := find tree name partials
    ⟨reply.text, reply.notes, (state, reply.state)⟩

end FilePartials

end Mustache
