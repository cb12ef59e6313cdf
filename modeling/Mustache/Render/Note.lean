import Mustache.Text.Quoted

/-!
**Notes.**

A rendering keeps notes of what it does, for whoever looks for the cause of its result.

* `Note`: what can be noted.
* `Note.message`: the text of a note.
-/

namespace Mustache

/-- A note about one step of a rendering. -/
inductive Note where
  | parsed (size nodes : Nat)
  | found (size : Nat)
  | partialMissing (name : String)
  | partialFileMissing (path : String)
  | cleared (entries : Nat)
  deriving DecidableEq, Repr

/-- The text of a note. -/
def Note.message : Note → String
  | parsed size nodes =>
    "Parsed template (" ++ toString size ++ " chars) -> " ++ toString nodes ++ " tokens"
  | found size => "Template cache hit (" ++ toString size ++ " chars)"
  | partialMissing name => "Partial " ++ Text.quoted name ++ " not found"
  | partialFileMissing path => "Partial file not found: " ++ path
  | cleared entries => "Clearing template cache (" ++ toString entries ++ " entries)"

end Mustache
