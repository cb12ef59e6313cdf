import Mustache.Command.Arguments

/-!
**Commands.**

There are two commands: one renders a template, one shows how a template is parsed. What a command
is to do is told by its arguments.

* `Command`: a command with its options.
* `Command.ofArguments`: the command that arguments tell.
-/

namespace Mustache

namespace Command

/-- What both commands are given: a template, delimiters, a settings file, and whether notes are
shown. -/
structure SourceOptions where
  template : String
  tags : Option String
  config : Option String
  verbose : Bool
  deriving DecidableEq, Repr

/-- What rendering is given besides: a file of view data, partials in files, a directory and an
extension for other ones, whether nothing is escaped, and a file for the output. -/
structure RenderOptions where
  view : Option String
  partialFiles : List String
  partialsDir : Option String
  partialExtension : Option String
  noEscape : Bool
  output : Option String
  deriving DecidableEq, Repr

end Command

/-- A command with its options. -/
inductive Command where
  | render (source : Command.SourceOptions) (options : Command.RenderOptions)
  | parse (source : Command.SourceOptions) (asTree : Bool)
  deriving DecidableEq, Repr

namespace Command

/-! ### The options there are -/

/-- The option that asks for help. -/
def helpForm : OptionForm := ⟨.help, ["-h", "--help"], false⟩

/-- The options before a command. -/
def outerForms : List OptionForm := [helpForm, ⟨.version, ["-v", "--version"], false⟩]

/-- The options of both commands. -/
def sourceForms : List OptionForm :=
  [helpForm, ⟨.tags, ["--tags"], true⟩, ⟨.config, ["--config"], true⟩,
    ⟨.verbose, ["--verbose"], false⟩]

/-- The options of rendering. -/
def renderForms : List OptionForm :=
  sourceForms ++
    [⟨.view, ["--view"], true⟩, ⟨.partialFile, ["--partial"], true⟩,
      ⟨.partialsDir, ["--partials-dir"], true⟩, ⟨.partialExtension, ["--partial-ext"], true⟩,
      ⟨.noEscape, ["--no-escape"], false⟩, ⟨.output, ["-o", "--output"], true⟩]

/-- The options of parsing. -/
def parseForms : List OptionForm := sourceForms ++ [⟨.tree, ["--tree"], false⟩]

/-! ### Reading -/

/-- Why the arguments of a command are not read: help is that for the command. -/
def stopOf : Stop → Stop
  | .help => .commandHelp
  | stop => stop

/-- The arguments of a command, which take one operand. -/
def readSource (forms : List OptionForm) (rest : List String) :
    Except Stop (SourceOptions × Arguments) :=
  match Arguments.read forms rest with
  | .error stop => .error (stopOf stop)
  | .ok arguments =>
    match arguments.operands, arguments.isStrange with
    | [template], false =>
      .ok (⟨template, arguments.value? .tags, arguments.value? .config, arguments.has .verbose⟩,
        arguments)
    | _, _ => .error .misuse

/-- The options of rendering among arguments. -/
def renderOptions (arguments : Arguments) : RenderOptions where
  view := arguments.value? .view
  partialFiles := arguments.values .partialFile
  partialsDir := arguments.value? .partialsDir
  partialExtension := arguments.value? .partialExtension
  noEscape := arguments.has .noEscape
  output := arguments.value? .output

/-- The command of a name with its arguments. -/
def ofName (name : String) (rest : List String) : Except Stop Command :=
  match name with
  | "render" =>
    (readSource renderForms rest).map fun (source, arguments) =>
      render source (renderOptions arguments)
  | "parse" =>
    (readSource parseForms rest).map fun (source, arguments) =>
      parse source (arguments.has .tree)
  | _ => .error .misuse

/-- Why an option before a command ends the reading. -/
def stopAt (form : OptionForm) (isShort : Bool) (attached : Option (List Char)) : Stop :=
  match Argument.cluster? outerForms form isShort attached with
  | none => .misuse
  | some ⟨switches, last, _⟩ =>
    match ({} : Arguments).switchAll (switches ++ [last.topic]) with
    | .error stop => stop
    | .ok _ => .misuse

/-- The command that arguments tell, if each of them is clear by itself. Behind something that is
not understood help and the version may still be asked for. -/
def ofClear (isStrange : Bool) : List String → Except Stop Command
  | [] => .error .misuse
  | text :: rest =>
    if text = "--" then .error .misuse
    else
      match Argument.ofText outerForms text with
      | .operand name =>
        match ofName name rest with
        | .ok command => if isStrange then .error .misuse else .ok command
        | .error stop => .error stop
      | .option form isShort attached => .error (stopAt form isShort attached)
      | .unknown => ofClear true rest
      | .separator _ | .ambiguous => .error .misuse

/-- **The command that arguments tell**, or why there is none. An option cut too short spoils them
all, wherever it stands. -/
def ofArguments (texts : List String) : Except Stop Command :=
  if (Argument.classify outerForms texts).contains .ambiguous then .error .misuse
  else ofClear false texts

end Command

end Mustache
