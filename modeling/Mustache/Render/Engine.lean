import Mustache.Render.Renderer

/-!
**The engine.**

An engine keeps default delimiters, a default escape and a session. What one call is given does not
change the defaults.

* `Engine.parse`, `Engine.render`: a template parsed or rendered with the defaults.
* `Engine.parseDirectly`, `Engine.renderDirectly`: the same without the defaults.
* `Engine.renderTokens`: a tree rendered.
-/

namespace Mustache

/-- Default delimiters, a default escape, and a session. -/
structure Engine (σ : Type) where
  tags : Value
  escape : Option Escape
  session : Session σ

/-- The cache of parsed templates. -/
abbrev TemplateCache := Cache (String × Delimiters) Tree

namespace Engine

variable {σ : Type}

/-- A new engine with a state of the host and a cache, or without a cache. -/
def new (host : σ) (cache : Option TemplateCache) : Engine σ where
  tags := .list [.text Delimiters.standard.opening, .text Delimiters.standard.closing]
  escape := some .standard
  session := { host := host, cache := cache }

/-- A step in the session of an engine. -/
def run {α : Type} (engine : Engine σ) (step : Action σ α) : Except Fault α × Engine σ :=
  let (result, session) := step engine.session
  (result, { engine with session := session })

/-- The delimiters a parse is given, or the standard ones if it is given no value. -/
def givenDelimiters (tags : Value) : Except Fault Delimiters :=
  match tags with
  | .null => .ok .standard
  | tags =>
    match Delimiters.read tags none 0 with
    | .ok delimiters => .ok delimiters
    | .error fault => .error (.syntaxFault fault)

/-- A template parsed without the defaults. -/
def parseDirectly (engine : Engine σ) (template : String) (tags : Value) :
    Except Fault Tree × Engine σ :=
  engine.run do
    let delimiters ← Action.ofExcept (givenDelimiters tags)
    Action.parse delimiters template

/-- **A template parsed**, with the default delimiters unless others are given. -/
def parse (engine : Engine σ) (template : String) (tags : Value) : Except Fault Tree × Engine σ :=
  match tags with
  | .null => engine.parseDirectly template engine.tags
  | tags => engine.parseDirectly template tags

/-- What stays the same in a rendering with a configuration. -/
def setting (host : Host σ) (partials : Partials σ) (config : RenderConfig) : Setting σ where
  host := host
  partials := partials
  tags := config.resolvedTags
  escape := config.resolvedEscape

/-- A step in a frame that has looked nothing up yet. -/
def fresh {α : Type} (step : Action σ α) : Action σ α := Action.inNewFrame step

/-- A template rendered without the defaults. -/
def renderDirectly (engine : Engine σ) (host : Host σ) (template : String) (views : Views)
    (partials : Partials σ) (config : ConfigSource) : Except Fault String × Engine σ :=
  engine.run do
    let config ← Action.ofExcept (RenderConfig.coerce config)
    fresh (Render.renderText (setting host partials config) Render.depthLimit views template)

/-- A tree rendered; raw bodies are cut out of a template, if one is given. -/
def renderTokens (engine : Engine σ) (host : Host σ) (tokens : List Token) (views : Views)
    (partials : Partials σ) (template : Option String) (config : ConfigSource) :
    Except Fault String × Engine σ :=
  engine.run do
    let config ← Action.ofExcept (RenderConfig.coerce config)
    let setting := setting host partials config
    let again := Render.renderText setting Render.depthLimit
    let expansion := Render.renderExpansion setting
    fresh (Render.renderLevel expansion setting again template views tokens)

/-- The name of a value's type in a complaint about a template. -/
def templateTypeName : Value → String
  | .items .list _ => "array"
  | .items .tuple _ => "array"
  | other => other.typeName

/-- **A template rendered**, with the defaults where nothing else is given. -/
def render (engine : Engine σ) (host : Host σ) (template : Value) (views : Views)
    (partials : Partials σ) (config : ConfigSource) : Except Fault String × Engine σ :=
  match template with
  | .text text =>
    match RenderConfig.coerce config with
    | .error fault => (.error fault, engine)
    | .ok given =>
      match given.withDefaults engine.tags engine.escape with
      | .error fault => (.error fault, engine)
      | .ok config => engine.renderDirectly host text views partials (.ready config)
  | other => (.error (.templateType (templateTypeName other)), engine)

/-- The engine with an empty cache, if it has one. -/
def clearCache (engine : Engine σ) : Engine σ :=
  let session := engine.session
  let noted := match session.cache with
    | some cache => if cache.entries.isEmpty then session.notes
      else .cleared cache.size :: session.notes
    | none => session.notes
  { engine with session := { session with cache := session.cache.map Cache.clear, notes := noted } }

/-- The engine with another cache, or without one. -/
def withCache (engine : Engine σ) (cache : Option TemplateCache) : Engine σ :=
  { engine with session := { engine.session with cache := cache } }

/-- The number of cached templates, if there is a cache. -/
def cached (engine : Engine σ) : Option Nat := engine.session.cache.map Cache.size

/-- Whether a template is cached for some delimiters, if there is a cache. -/
def hasCached (engine : Engine σ) (template : String) (delimiters : Delimiters) : Option Bool :=
  engine.session.cache.map fun cache => cache.contains (template, delimiters)

end Engine

end Mustache
