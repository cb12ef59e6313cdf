import Mustache.Fault
import Mustache.Text.Blank

/-!
**Refusals.**

A command may be refused: a file that it names is not there, or what it reads is faulty. A refusal
is reported on one line. Faults that are nobody's to mend break the run instead.

* `Refusal`: why a command makes no text.
* `Refusal.report`: its report, or the fault that breaks the run.
-/

namespace Mustache

/-- Why a command makes no text. -/
inductive Refusal where
  | fault (fault : Fault)
  | badPartial (words : String)
  | partialNotFound (path : String)
  | templateNotFound (path : String)
  deriving DecidableEq, Repr

/-- Whether a fault lies in what a command reads. -/
def Fault.isReported : Fault → Bool
  | .syntaxFault _ | .templateType _ | .rawBodyMissing | .load _ | .badNumeral _ | .badTime _
  | .noCharacter | .tooManyDigits | .malformedText _ | .zeroInName => true
  | _ => false

/-- Whether the report of a fault goes on with the details of a reader, which are left out together
with the end of the line. -/
def Fault.isCut : Fault → Bool
  | .load (.invalidYaml _) | .load (.invalidSettings _ _) | .load (.unreadableView _ _) => true
  | _ => false

namespace Refusal

/-- A report on a line of its own. -/
def line (words : String) : String := Text.stripEnd words ++ "\n"

/-- **The report of a refusal**, or the fault that breaks the run. -/
def report : Refusal → Except Fault String
  | fault cause =>
    match cause.isReported, cause.message? with
    | true, some words => .ok (if cause.isCut then words else line words)
    | _, _ => .error cause
  | badPartial words =>
    .ok (line ("Invalid partial format '" ++ words ++ "'. Expected 'NAME=FILE'"))
  | partialNotFound path => .ok (line ("Partial file not found: " ++ path))
  | templateNotFound path => .ok (line ("Template file not found: " ++ path))

end Refusal

end Mustache
