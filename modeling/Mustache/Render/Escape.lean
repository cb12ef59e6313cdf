import Mustache.Fault

/-!
**Escaping.**

What a variable writes goes through an escape. The standard one turns the eight characters that
matter in HTML into entities; a host may bring its own, which may answer something that is no text.

* `Escape.entity`, `Escape.html`: the entity of a character, and the standard escape of a text.
* `Escape.apply`: what any escape answers for a text.
* `Escape.named?`: a few escapes by name.
-/

namespace Mustache

/-- What an escape answers. -/
inductive Escaped where
  | text (content : String)
  | nothing
  /-- Something that cannot be written. -/
  | notText
  deriving DecidableEq, Repr

/-- An escape: the standard one, or one of the host under a name. -/
inductive Escape where
  | standard
  | custom (name : String) (answer : String → Except Fault Escaped)

namespace Escape

/-- A character as it is written in HTML. -/
def entity (char : Char) : List Char :=
  match char with
  | '&' => ['&', 'a', 'm', 'p', ';']
  | '<' => ['&', 'l', 't', ';']
  | '>' => ['&', 'g', 't', ';']
  | '"' => ['&', 'q', 'u', 'o', 't', ';']
  | '\'' => ['&', '#', '3', '9', ';']
  | '/' => ['&', '#', 'x', '2', 'F', ';']
  | '\x60' => ['&', '#', 'x', '6', '0', ';']
  | '=' => ['&', '#', 'x', '3', 'D', ';']
  | _ => [char]

/-- **The standard escape of a text**: eight characters become entities. -/
def html (text : String) : String := String.ofList (text.toList.flatMap entity)

/-- **What an escape answers for a text.** -/
def apply (escape : Escape) (text : String) : Except Fault Escaped :=
  match escape with
  | standard => .ok (.text (html text))
  | custom _ answer => answer text

/-- The name of an escape. -/
def name : Escape → String
  | standard => "html"
  | custom name _ => name

/-- An escape of the host that always answers a text. -/
def ofFunction (name : String) (escape : String → String) : Escape :=
  custom name fun text => .ok (.text (escape text))

/-- The escape that leaves a text as it is. -/
def none : Escape := ofFunction "none" id

/-- Escapes by name: the standard one, a copy of it, none at all, one in brackets, two whose answers
are no texts, and one that fails. -/
def named? (name : String) : Option Escape :=
  match name with
  | "html" => some standard
  | "html_copy" => some (ofFunction name html)
  | "none" => some none
  | "brackets" => some (ofFunction name fun text => "[" ++ text ++ "]")
  | "len" => some (custom name fun _ => .ok .notText)
  | "null" => some (custom name fun _ => .ok .nothing)
  | "raise" => some (custom name fun text => .error (.user ("escape " ++ text)))
  | _ => Option.none

end Escape

end Mustache
