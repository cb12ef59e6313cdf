import Mustache.View.Catalogue
import Mustache.View.Host

/-!
**Functions by recipe.**

A host whose functions are described by data: each handle names a recipe, and the only state is how
often each counter was called. Its values have the attributes of the catalogue.

* `Recipe`: what a function does.
* `Recipe.host`: the host of a table of recipes.
-/

namespace Mustache

/-- What a function does. -/
inductive Recipe where
  /-- Answers a value. -/
  | constant (value : Value)
  /-- Answers how often it was called. -/
  | counter
  /-- Raises a fault with these words. -/
  | raise (words : String)
  /-- Answers the view. -/
  | view
  /-- Answers the entry of the view under a key. -/
  | entry (key : String)
  /-- Answers the texts of some entries of the view, put together. -/
  | joined (keys : List String) (separator : String)
  /-- Answers the raw body. -/
  | body
  /-- Answers the length of the raw body. -/
  | bodyLength
  /-- Answers the rendered body. -/
  | rendered
  /-- Answers the rendered body between two texts. -/
  | wrapped (opening closing : String)
  /-- Answers a text of its own, rendered. -/
  | renderedText (text : String)
  /-- Answers the body rendered, and the result rendered again. -/
  | renderedTwice
  /-- Answers the raw body, a bar, and the rendered body. -/
  | both
  /-- Answers the body rendered after replacing a text in it. -/
  | replaced (old new : String)
  deriving Inhabited

/-- How often the counter of each handle was called. -/
abbrev Counts := List (Nat × Nat)

namespace Recipe

/-- How often a counter was called. -/
def countOf (counts : Counts) (handle : Nat) : Nat := (counts.lookup handle).getD 0

/-- One more call of a counter. -/
def countUp (counts : Counts) (handle : Nat) : Counts :=
  (handle, countOf counts handle + 1) :: counts.filter fun entry => entry.1 != handle

/-- The entry of a view under a text key. Texts, bytes and lists cannot be asked for a text key, and
nor can anything that is no mapping. -/
def entryOf (view : Value) (key : String) : Except Fault Value :=
  match view.opened with
  | .mapping entries =>
    match Value.valueUnder? key entries with
    | some value => .ok value
    | none => .error .keyMissing
  | _ => .error .wrongType

/-- The texts of some entries of a view. -/
def entryTexts (view : Value) : List String → Except Fault (List String)
  | [] => .ok []
  | key :: rest =>
    match (entryOf view key).bind Value.written, entryTexts view rest with
    | .error fault, _ => .error fault
    | .ok _, .error fault => .error fault
    | .ok text, .ok texts => .ok (text :: texts)

/-- What a function answers to values. -/
def call (recipe : Recipe) (handle : Nat) (values : List Value) (counts : Counts) :
    Except Fault Value × Counts :=
  match recipe, values with
  | constant value, _ => (.ok value, counts)
  | counter, _ =>
    let after := countUp counts handle
    (.ok (.ofInt (countOf after handle)), after)
  | raise words, _ => (.error (.user words), counts)
  | view, [own] => (.ok own, counts)
  | entry key, [own] => (entryOf own key, counts)
  | joined keys separator, [own] =>
    ((entryTexts own keys).map fun texts => .text (separator.intercalate texts), counts)
  | _, _ => (.error .wrongType, counts)

/-- A text with every occurrence of another one replaced, from left to right; an empty text occurs
before every character and at the end. -/
def replaceAll (old new text : List Char) : List Char :=
  if old.isEmpty then new ++ text.flatMap (· :: new)
  else go text.length text
where
  /-- The replacement in what remains of the text, in at most so many steps. -/
  go : Nat → List Char → List Char
    | 0, remaining => remaining
    | _, [] => []
    | steps + 1, char :: rest =>
      if old.isPrefixOf (char :: rest) then new ++ go steps ((char :: rest).drop old.length)
      else char :: go steps rest

/-- What a function does with a raw body and a render callback. -/
def expand (recipe : Recipe) (handle : Nat) (text : String) (counts : Counts) : Script Counts :=
  let answerText := fun (result : String) (after : Counts) => Script.answer (.text result) after
  match recipe with
  | constant value => .answer value counts
  | counter =>
    let after := countUp counts handle
    .answer (.ofInt (countOf after handle)) after
  | raise words => .fail (.user words) counts
  | body => .answer (.text text) counts
  | bodyLength => .answer (.ofInt text.length) counts
  | rendered => .rendering text counts answerText
  | wrapped opening closing =>
    .rendering text counts fun result after => answerText (opening ++ result ++ closing) after
  | renderedText own => .rendering own counts answerText
  | renderedTwice =>
    .rendering text counts fun result after => .rendering result after answerText
  | both => .rendering text counts fun result after => answerText (text ++ "|" ++ result) after
  | replaced old new =>
    let changed := String.ofList (replaceAll old.toList new.toList text.toList)
    .rendering changed counts answerText
  | view | entry _ | joined _ _ => .fail .wrongType counts

/-- **The host of a table of recipes.** -/
def host (table : Array Recipe) : Host Counts where
  access := Catalogue.access
  invoke receiver name counts := (Catalogue.answer receiver name, counts)
  call function values counts := (table.getD function.handle default).call function.handle values
    counts
  expand function text counts := (table.getD function.handle default).expand function.handle text
    counts

end Recipe

end Mustache
