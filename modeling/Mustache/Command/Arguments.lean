import Mustache.Text.Digit

/-!
**Arguments of a command.**

An argument is an operand or an option. An option starts with a dash; a long one may be cut short as
long as it stays clear which one is meant, and has its value behind an equals sign or in the next
argument. A short one may have its value or further short ones right behind it. Behind two dashes
all arguments are operands.

* `OptionForm`: the forms of an option.
* `Argument.ofText`, `Argument.classify`: what arguments are, taken by themselves.
* `Argument.cluster?`: the options that are written as one.
* `Arguments.read`: the options and operands among arguments.
-/

namespace Mustache.Command

/-- What an option is about. -/
inductive Topic where
  | help
  | version
  | tags
  | config
  | verbose
  | view
  | partialFile
  | partialsDir
  | partialExtension
  | noEscape
  | output
  | tree
  deriving DecidableEq, Repr

/-- An option: its topic, its names, and whether a value belongs to it. -/
structure OptionForm where
  topic : Topic
  names : List String
  takesValue : Bool
  deriving DecidableEq, Repr

/-- Why the reading of arguments ends early: help, help for a command or the version is asked for,
or the arguments are misused. -/
inductive Stop where
  | help
  | commandHelp
  | version
  | misuse
  deriving DecidableEq, Repr

/-- An argument, taken by itself. -/
inductive Argument where
  | operand (text : String)
  /-- Two dashes, and the operands behind them. -/
  | separator (rest : List String)
  /-- An option, whether it is short, and what is attached to it. -/
  | option (form : OptionForm) (isShort : Bool) (attached : Option (List Char))
  /-- An option that is none of those there are. -/
  | unknown
  /-- An option cut too short. -/
  | ambiguous
  deriving DecidableEq, Repr

namespace Argument

/-! ### One argument -/

/-- The form with a name. -/
def formNamed? (forms : List OptionForm) (name : String) : Option OptionForm :=
  forms.find? fun form => form.names.contains name

/-- A name with a single dash. -/
def isShortName : List Char → Bool
  | '-' :: '-' :: _ => false
  | _ => true

/-- A text up to its first equals sign, and what follows the sign, if there is one. -/
def splitAtEquals (text : List Char) : List Char × Option (List Char) :=
  let (name, rest) := text.span (· != '=')
  (name, rest.tail?)

/-- Whether a text is a negative number with or without a point. -/
def isNegativeNumber : List Char → Bool
  | '-' :: rest =>
    let isDecimal := fun (char : Char) => (Text.decimalValue? char).isSome
    match rest.span isDecimal with
    | (whole, []) => !whole.isEmpty
    | (_, '.' :: fraction) => !fraction.isEmpty && fraction.all isDecimal
    | _ => false
  | _ => false

/-- An argument that starts with a dash but is no option there is. -/
def ofStranger (text : List Char) : Argument :=
  if isNegativeNumber text || text.contains ' ' then operand (String.ofList text) else unknown

/-- The forms with a name that starts with some characters. -/
def formsStarting (forms : List OptionForm) (start : List Char) : List OptionForm :=
  forms.filter fun form => form.names.any fun name => start.isPrefixOf name.toList

/-- An argument that starts with a dash and is not just the name of an option. -/
def ofDashed (forms : List OptionForm) (text : List Char) : Argument :=
  let (name, value) := splitAtEquals text
  match formNamed? forms (String.ofList name), value with
  | some form, some value => option form (isShortName name) (some value)
  | _, _ =>
    if isShortName text then
      match formNamed? forms (String.ofList (text.take 2)) with
      | some form => option form true (some (text.drop 2))
      | none => ofStranger text
    else
      match formsStarting forms name with
      | [] => ofStranger text
      | [form] => option form false value
      | _ => ambiguous

/-- **What an argument is, taken by itself**; it is not two dashes. -/
def ofText (forms : List OptionForm) (text : String) : Argument :=
  match text.toList with
  | '-' :: rest =>
    match formNamed? forms text with
    | some form => option form (isShortName ('-' :: rest)) none
    | none => if rest.isEmpty then operand text else ofDashed forms ('-' :: rest)
  | _ => operand text

/-- **What some arguments are, taken by themselves.** -/
def classify (forms : List OptionForm) : List String → List Argument
  | [] => []
  | text :: rest =>
    if text = "--" then [separator rest] else ofText forms text :: classify forms rest

/-! ### Options written as one -/

/-- Options that are written as one: the topics of those in front, which take no values, and the
last one with the value attached to it, if there is one. -/
structure Cluster where
  switches : List Topic
  last : OptionForm
  attached : Option String

/-- What an option stands for with characters attached to it: they are its value, or further short
options. None if they can be neither. -/
def clusterAttached? (forms : List OptionForm) (isShort : Bool) (form : OptionForm) :
    List Char → Option Cluster
  | [] => if form.takesValue then some ⟨[], form, some ""⟩ else none
  | letter :: rest =>
    if form.takesValue then some ⟨[], form, some (String.ofList (letter :: rest))⟩
    else if !isShort then none
    else
      match formNamed? forms (String.ofList ['-', letter]) with
      | none => none
      | some next =>
        if rest.isEmpty then some ⟨[form.topic], next, none⟩
        else
          (clusterAttached? forms true next rest).map fun cluster =>
            { cluster with switches := form.topic :: cluster.switches }

/-- **The options that an option stands for** with what is attached to it, if anything is. -/
def cluster? (forms : List OptionForm) (form : OptionForm) (isShort : Bool)
    (attached : Option (List Char)) : Option Cluster :=
  match attached with
  | some chars => clusterAttached? forms isShort form chars
  | none => some ⟨[], form, none⟩

end Argument

/-! ### All arguments -/

/-- The options that were given with their values, in order, the operands, and whether something was
not understood. A value may be stated to be none. -/
structure Arguments where
  given : List (Topic × Option String) := []
  operands : List String := []
  isStrange : Bool := false
  deriving DecidableEq, Repr

namespace Arguments

/-- One more option with a value; two dashes state that there is none. -/
def give (arguments : Arguments) (topic : Topic) (value : String) : Arguments :=
  let stated := if value = "--" then none else some value
  { arguments with given := arguments.given ++ [(topic, stated)] }

/-- One more option without a value. Some end the reading. -/
def switch (arguments : Arguments) (topic : Topic) : Except Stop Arguments :=
  match topic with
  | .help => .error .help
  | .version => .error .version
  | topic => .ok (arguments.give topic "")

/-- More options without values, one after another. -/
def switchAll (arguments : Arguments) : List Topic → Except Stop Arguments
  | [] => .ok arguments
  | topic :: rest =>
    match arguments.switch topic with
    | .ok more => switchAll more rest
    | .error stop => .error stop

/-- The operands behind two dashes, which may follow an operand only at once. -/
def separate (arguments : Arguments) (isBehindOperand : Bool) (rest : List String) : Arguments :=
  { arguments with
    operands := arguments.operands ++ rest
    isStrange := arguments.isStrange || !(isBehindOperand || arguments.operands.isEmpty) }

/-- **The options and operands among arguments**, read on from those before. An option without an
attached value takes the next argument, which has to look like an operand. -/
def readFrom (forms : List OptionForm) (arguments : Arguments) (isBehindOperand : Bool) :
    List Argument → Except Stop Arguments
  | [] => .ok arguments
  | .operand value :: rest =>
    readFrom forms { arguments with operands := arguments.operands ++ [value] } true rest
  | .separator texts :: _ => .ok (arguments.separate isBehindOperand texts)
  | .unknown :: rest => readFrom forms { arguments with isStrange := true } false rest
  | .ambiguous :: _ => .error .misuse
  | .option form isShort attached :: rest =>
    match Argument.cluster? forms form isShort attached with
    | none => .error .misuse
    | some ⟨switches, last, value⟩ =>
      let switched := arguments.switchAll switches
      if !last.takesValue then
        match switched.bind fun more => more.switch last.topic with
        | .ok more => readFrom forms more false rest
        | .error stop => .error stop
      else
        match value, rest with
        | some value, rest =>
          match switched with
          | .ok more => readFrom forms (more.give last.topic value) false rest
          | .error stop => .error stop
        | none, .operand value :: others =>
          match switched with
          | .ok more => readFrom forms (more.give last.topic value) false others
          | .error stop => .error stop
        | none, _ => .error .misuse

/-- **The options and operands among arguments.** An option cut too short spoils them all. -/
def read (forms : List OptionForm) (texts : List String) : Except Stop Arguments :=
  let classified := Argument.classify forms texts
  if classified.contains .ambiguous then .error .misuse else readFrom forms {} false classified

/-- The last value given under a topic. An empty one counts as none. -/
def value? (arguments : Arguments) (topic : Topic) : Option String :=
  match arguments.given.reverse.lookup topic with
  | some (some value) => if value.isEmpty then none else some value
  | _ => none

/-- All values given under a topic; where none is stated, empty brackets. -/
def values (arguments : Arguments) (topic : Topic) : List String :=
  (arguments.given.filter fun entry => entry.1 == topic).map fun entry => entry.2.getD "[]"

/-- Whether an option was given. -/
def has (arguments : Arguments) (topic : Topic) : Bool :=
  arguments.given.any fun entry => entry.1 == topic

end Arguments

end Mustache.Command
