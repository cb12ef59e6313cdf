import Mustache.Command.Options
import Mustache.Command.Refusal
import Mustache.Json.Printer
import Mustache.Render.Engine
import Mustache.Render.FilePartials
import Mustache.Settings.Load
import Mustache.Template.Outline
import Mustache.Template.Record
import Mustache.View.Load

/-!
**Running a command.**

A command reads files, standard input and two settings of the environment; how YAML is read and
what attributes view data have is given to it. It makes a text, which goes to standard output or to
a file, and keeps notes, which are shown if they are asked for.

* `World`: what a command can see.
* `Command.perform`: the text a command makes, or what refuses it, and its notes.
* `Command.run`: arguments run as a command.
-/

namespace Mustache

/-- What the readings of settings and of view data left behind. -/
structure Leavings (ρ : Type) where
  settings : ρ
  views : ρ

/-- What a command can see: files, standard input, the environment, how YAML is read and what this
left behind, and how the values of view data are read. -/
structure World (ρ : Type) where
  files : FileTree
  input : List UInt8
  environment : List (String × String)
  yaml : Yaml.Reader ρ
  left : Leavings ρ
  host : Host Unit

/-- What comes of a command: a text or a refusal, the notes in order, and what readings of YAML
leave behind. -/
structure Performance (ρ : Type) where
  text : Except Refusal String
  notes : List Note
  left : Leavings ρ

/-- What comes of a run. -/
inductive Outcome where
  /-- The arguments tell no command. -/
  | stopped (stop : Command.Stop)
  /-- The run came to its end: its exit code, what it wrote, and the files afterwards. -/
  | ended (code : Nat) (output diagnostics : String) (files : FileTree)
  /-- A fault broke the run. -/
  | broken (fault : Fault) (files : FileTree)

namespace Command

variable {ρ : Type}

/-- What both commands are given. -/
def source : Command → SourceOptions
  | render source _ => source
  | parse source _ => source

/-! ### What a command reads -/

/-- The name that stands for standard input. -/
def standardInput : String := "-"

/-- A step of reading, which may be refused; what readings of YAML leave behind stays. -/
abbrev Reading (ρ α : Type) := ExceptT Refusal (StateM (Leavings ρ)) α

/-- A result whose fault is a refusal. -/
def refused {α : Type} (result : Except Fault α) : Reading ρ α := fun left =>
  (result.mapError .fault, left)

/-- The text of a file; a refusal if there is none. -/
def readFile (world : World ρ) (path : Path) (missing : String → Refusal) : Reading ρ String := do
  if ← refused (world.files.isFile path) then refused (world.files.readText path)
  else throw (missing path.text)

/-- The text of a template. -/
def readTemplate (world : World ρ) (name : String) : Reading ρ String :=
  if name = standardInput then refused (FileTree.textOfBytes world.input)
  else readFile world (.ofText name) .templateNotFound

/-- The name and the file that words for a partial tell: both sides of the first equals sign. -/
def partialParts? (words : String) : Option (String × Path) :=
  let (name, rest) := words.toList.span (· != '=')
  rest.tail?.map fun file =>
    (Text.strip (String.ofList name), .ofText (Text.strip (String.ofList file)))

/-- The partial that words tell. -/
def readPartial (world : World ρ) (words : String) : Reading ρ (String × String) :=
  match partialParts? words with
  | none => throw (.badPartial words)
  | some (name, path) => do return (name, ← readFile world path .partialNotFound)

/-- The partials that words tell, the last one first. -/
def readPartials (world : World ρ) (given : List (String × Option String)) :
    List String → Reading ρ (List (String × Option String))
  | [] => return given
  | words :: rest => do
    let (name, text) ← readPartial world words
    readPartials world ((name, some text) :: given) rest

/-- The settings of a file. -/
def loadSettings (world : World ρ) (name : String) : Reading ρ RenderSettings := fun left =>
  let (settings, after) :=
    RenderSettings.load world.yaml left.settings world.files (.ofText name)
  (settings.mapError .fault, { left with settings := after })

/-- The view data of a file. -/
def loadView (world : World ρ) (name : String) : Reading ρ Value := fun left =>
  let (view, after) := ViewData.load world.yaml left.views world.files (.ofText name)
  (view.mapError .fault, { left with views := after })

/-- The settings of a command: those of its settings file, with the delimiters it is given. -/
def readSettings (world : World ρ) (source : SourceOptions) : Reading ρ RenderSettings := do
  let settings ← match source.config with
    | some name => loadSettings world name
    | none => pure {}
  match source.tags with
  | none => return settings
  | some words =>
    match Delimiters.read (.text words) none 0 with
    | .ok delimiters => return { settings with tags := delimiters }
    | .error fault => throw (.fault (.syntaxFault fault))

/-- Settings with what rendering is given besides. -/
def adjust (options : RenderOptions) (settings : RenderSettings) : RenderSettings where
  tags := settings.tags
  escaped := settings.escaped && !options.noEscape
  partialsDir := (options.partialsDir.map Path.ofText).or settings.partialsDir
  partialExtension := options.partialExtension.getD settings.partialExtension
  cache := settings.cache

/-- The view data of a rendering; none given is an empty mapping. -/
def readView (world : World ρ) (options : RenderOptions) : Reading ρ Value :=
  match options.view with
  | some name => loadView world name
  | none => return .mapping []

/-- The cache that the environment asks for. -/
def cacheOf (world : World ρ) : TemplateCache :=
  Cache.empty (Cache.enabledBy none (world.environment.lookup "STACHE_CACHE"))

/-! ### What a command makes -/

/-- What comes of a template that is rendered or parsed: a text and the notes, the latest first. -/
abbrev Made := Except Fault String × List Note

/-- What comes of a command that makes something of what it reads. -/
def performed (world : World ρ) (make : Reading ρ Made) : Performance ρ :=
  match make.run world.left with
  | (.error refusal, left) => ⟨.error refusal, [], left⟩
  | (.ok (text, notes), left) => ⟨text.mapError .fault, notes.reverse, left⟩

/-- A template rendered. The delimiters and settings are looked at first, then the view data, then
the partials, then the template. -/
def makeRendering (world : World ρ) (source : SourceOptions) (options : RenderOptions) :
    Reading ρ Made := do
  let settings := adjust options (← readSettings world source)
  let view ← readView world options
  let known ← readPartials world [] options.partialFiles
  let template ← readTemplate world source.template
  let partials : FilePartials := ⟨settings.partialsDir, settings.partialExtension, known⟩
  let cache := if settings.cache then some (cacheOf world) else none
  let engine : Engine (Unit × FilePartials) := Engine.new ((), partials) cache
  let (text, after) := engine.render world.host.beside (.text template) ⟨view, []⟩
    (FilePartials.lookupIn world.files) (.ready settings.config)
  return (text, after.session.notes)

/-- A parsed template as a text: its outline, or its tokens in JSON. -/
def showTokens (asTree : Bool) (tokens : List Token) : String :=
  (if asTree then Token.outline tokens 0 else Json.print (.list (Token.records tokens))) ++ "\n"

/-- A template parsed. -/
def makeOutline (world : World ρ) (source : SourceOptions) (asTree : Bool) : Reading ρ Made := do
  let settings ← readSettings world source
  let template ← readTemplate world source.template
  let engine : Engine Unit := Engine.new () (some (cacheOf world))
  let (parsed, after) := engine.parse template settings.tags.toValue
  return (parsed.map fun tree => showTokens asTree tree.tokens, after.session.notes)

/-- **What comes of a command.** -/
def perform (world : World ρ) : Command → Performance ρ
  | render source options => performed world (makeRendering world source options)
  | parse source asTree => performed world (makeOutline world source asTree)

/-- The files that a command asks for: those that it names, and those of partials that were not
there. -/
def filesAskedFor (world : World ρ) (command : Command) : List Path :=
  let template := if command.source.template = standardInput then [] else [command.source.template]
  let named := match command with
    | render _ options =>
      options.view.toList.map Path.ofText ++
        (options.partialFiles.filterMap partialParts?).map Prod.snd
    | parse _ _ => []
  let config := command.source.config.toList.map Path.ofText
  let missing := (command.perform world).notes.filterMap fun note =>
    match note with
    | .partialFileMissing path => some (Path.ofText path)
    | _ => none
  template.map Path.ofText ++ config ++ named ++ missing

/-! ### What is written -/

/-- The file that a command writes to, if it does not write to standard output. -/
def destination? : Command → Option Path
  | render _ options => options.output.map Path.ofText
  | parse _ _ => none

/-- Whether the notes of a command are shown: if it is told so, or the environment says so. -/
def showsNotes (world : World ρ) (command : Command) : Bool :=
  command.source.verbose || (world.environment.lookup "STACHE_DEBUG").any (!·.isEmpty)

/-- The notes of a command as they are shown, one on each line. -/
def noteLines (world : World ρ) (command : Command) (notes : List Note) : String :=
  if showsNotes world command then
    String.join (notes.map fun note => "[DEBUG] " ++ note.message ++ "\n")
  else ""

/-- The end of a run whose command was refused. -/
def refusedRun (files : FileTree) (lines : String) (refusal : Refusal) : Outcome :=
  match refusal.report with
  | .ok report => .ended 2 "" (lines ++ report) files
  | .error fault => .broken fault files

/-- The end of a run whose command made a text. -/
def writtenRun (files : FileTree) (lines text : String) : Option Path → Outcome
  | none => .ended 0 text lines files
  | some path =>
    match files.save path text with
    | .ok after => .ended 0 "" lines after
    | .error fault => refusedRun files lines (.fault fault)

/-- What comes of a run of a command, and what readings of YAML leave behind. -/
def finish (world : World ρ) (command : Command) : Outcome × Leavings ρ :=
  let performance := command.perform world
  let lines := noteLines world command performance.notes
  let outcome := match performance.text with
    | .error refusal => refusedRun world.files lines refusal
    | .ok text => writtenRun world.files lines text command.destination?
  (outcome, performance.left)

/-- **What comes of arguments that are run as a command**, and what readings of YAML leave behind.
The help for a command cannot be put together. -/
def run (world : World ρ) (arguments : List String) : Outcome × Leavings ρ :=
  match ofArguments arguments with
  | .ok command => command.finish world
  | .error .commandHelp => (.broken .brokenHelp world.files, world.left)
  | .error stop => (.stopped stop, world.left)

end Command

end Mustache
