/-!
**Complaints about settings.**

Settings that do not fit are refused with one complaint for each place that does not fit.

* `Settings.Complaint`: a place in the settings and what is wrong there.
* `Settings.Complaint.sorted`: complaints in the order in which they are listed.
-/

namespace Mustache.Settings

/-- What is wrong at a place of the settings. -/
inductive Problem where
  | missing
  | tooLong
  | notPair
  | notText
  | malformedText
  | emptyDelimiter
  | notChoice
  | notPath
  | notBoolean
  | unreadableBoolean
  | unknownKey
  | unnamedKey
  | notMapping
  deriving DecidableEq, Repr

/-- The code by which a problem is reported. -/
def Problem.code : Problem → String
  | missing => "missing"
  | tooLong => "too_long"
  | notPair => "tuple_type"
  | notText => "string_type"
  | malformedText => "string_unicode"
  | emptyDelimiter => "value_error"
  | notChoice => "literal_error"
  | notPath => "path_type"
  | notBoolean => "bool_type"
  | unreadableBoolean => "bool_parsing"
  | unknownKey => "extra_forbidden"
  | unnamedKey => "invalid_key"
  | notMapping => "model_type"

/-- A problem and its place: the keys and indexes that lead to it, joined by points. -/
structure Complaint where
  location : String
  problem : Problem
  deriving DecidableEq, Repr

/-- Complaints are listed by place, and at one place by code. -/
def Complaint.before (first second : Complaint) : Bool :=
  first.location < second.location ||
    (first.location == second.location && !(second.problem.code < first.problem.code))

/-- Complaints in the order in which they are listed. -/
def Complaint.sorted (complaints : List Complaint) : List Complaint :=
  complaints.mergeSort Complaint.before

/-- The heading of a list of complaints. -/
def complaintHeading (complaints : List Complaint) : String :=
  toString complaints.length ++
    (if complaints.length = 1 then " validation error" else " validation errors") ++
    " for RenderSettings"

end Mustache.Settings
