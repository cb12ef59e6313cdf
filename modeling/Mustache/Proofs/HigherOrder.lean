import Mustache.Proofs.ReachedEngines
import Mustache.Proofs.RecordedRendering
import Mustache.Proofs.SectionBody
import Mustache.View.Recipe

/-!
**What the functions of sections are given, and what becomes of their answers.**

Raw bodies are cut out of a text by the places that a tree holds. That they are the bodies of their
sections rests on one thing that the whole rendering keeps up: the tree that is being rendered is
that of the very text that goes with it, be it the template, a partial that was indented or the text
of a callback, and be the tree taken from the cache or not.

* `IsRawBody`: the raw body of a section of a text.
* `isRawBody_of_parse`: the places in a tree cut out raw bodies.
* `Render.Event`, `Event.Good`: what is written down of the sections whose values are functions, by
  the rendering and by the host that runs the functions.
* `Render.recordedExpansion`, `Engine.renderRecorded`: a rendering with such a record.
* `Engine.renderDirectly_rawBodies`: **the main statement.**
-/

namespace Mustache

variable {σ : Type}

/-! ### Raw bodies -/

/-- **The raw body of a section**: among the characters of a text it stands between the tag of the
section and the closing tag of the same name, with balanced tokens between the two. -/
def IsRawBody (delimiters : Delimiters) (text : String) (span : Span) (body : String) : Prop :=
  ∃ tokens before inner closing after passed behind,
    tokenize delimiters text = .ok tokens ∧
    tokens = before ++ .block false span [] Token.openStop :: (inner ++ .close closing :: after) ∧
    Token.Balanced inner ∧ closing.value = span.value ∧
    text.toList = passed ++ (body.toList ++ behind) ∧
    span.stop = passed.length ∧ closing.start = span.stop + body.toList.length

/-- **The places in the tree of a text cut out raw bodies.** -/
theorem isRawBody_of_parse {delimiters : Delimiters} {text : String}
    {tree siblings body : List Token} {span : Span} {stop : Int}
    (parsed : parse delimiters text = .ok tree) (level : Token.Level tree siblings)
    (member : .block false span body stop ∈ siblings) :
    IsRawBody delimiters text span (rawBody text span.stop stop) := by
  obtain ⟨tokens, read, rfl⟩ := parse_eq_ok_iff.mp parsed
  have bare := Token.bare_squash_keep (Token.bare_of_tokenize read)
  obtain ⟨_, _, closing, _, split, balanced, _, named, rfl⟩ :=
    level.section_mem (Token.nests_of_tokenize read) bare member
  -- the section is one of the tokens that were read, before any were stripped or put together
  have tags := (Token.filter_squash (Token.keep (Token.strippedIndexes tokens) tokens)).trans
    (Token.filter_keep tokens)
  obtain ⟨before, inner, after, whole, between⟩ :=
    Token.exists_section_of_filter tags split rfl balanced
  obtain ⟨passed, raw, behind, cut, first, last⟩ := exists_raw_of_tokenize read whole
  rw [rawBody_eq cut first last]
  refine ⟨tokens, before, inner, closing, after, passed, behind, read, whole, between, named, ?_,
    first, ?_⟩
  · rw [String.toList_ofList]
    exact cut
  · rw [String.toList_ofList]
    exact last

namespace Render

open Mustache.Action

/-! ### What is written down -/

/-- What is written down in a rendering of the sections whose values are functions. -/
inductive Event where
  /-- There is no text to cut a raw body out of. -/
  | bodyMissing (span : Span)
  /-- A section of a text is come upon, with its value. -/
  | entered (text : String) (span : Span) (value : Value)
  /-- The host runs a function that it is given a body for. -/
  | called (function : HostFunction) (body : String)
  /-- The function of a section has answered, and this is what the section comes to. -/
  | answered (span : Span) (answer : Value) (piece : Piece)

namespace Event

/-- The body of a call. -/
def body? : Event → Option String
  | called _ body => some body
  | _ => none

/-- **What is good to be written down** behind other events: a section of the text that is being
rendered; behind it, a call of its function with its raw body; and an answer that is written as it
is. -/
def Good (tags : TagChoice) (before : List Event) : Event → Prop
  | bodyMissing _ => False
  | entered text span _ =>
    ∃ delimiters body, tags.resolve = .ok delimiters ∧ IsRawBody delimiters text span body
  | called function body =>
    ∃ earlier text span value delimiters, before = earlier ++ [entered text span value] ∧
      bodyFunction? value = some function ∧ tags.resolve = .ok delimiters ∧
      IsRawBody delimiters text span body
  | answered _ answer piece =>
    answer = .null ∧ piece = .nothing ∨
      answer ≠ .null ∧ ∃ content, answer.outputText = .ok content ∧ piece = .text content

end Event

/-- The answer of the function of a section; before it is run, the section is written down. -/
def recordedExpand (setting : Setting σ) (again : String → Action (σ × List Event) String)
    (text : String) (span : Span) (value : Value) (body : String) :
    Action (σ × List Event) Value := do
  record (.entered text span value)
  expand (setting.recording .called) again value body

/-- The expansion of a function that writes down what it does; the calls are written down by the
host. -/
def recordedExpansion (setting : Setting σ) : Expansion (σ × List Event) :=
  fun again template views span stop value =>
    match template with
    | none => do
      record (.bodyMissing span)
      throw .rawBodyMissing
    | some text => do
      let answer ← recordedExpand setting (again views) text span value
        (rawBody text span.stop stop)
      let piece ← renderAnswer answer
      record (.answered span answer piece)
      pure piece

/-- What is watched in a rendering: that everything that is written down is good, and that a raw
body is missing only if the host says so. -/
def bodyWatch (setting : Setting σ) : Watch Event where
  good := Event.Good setting.tags
  allowed fault := fault = .rawBodyMissing → setting.Raises fault

variable {setting : Setting σ}

theorem usual_bodyWatch (fault : Fault) (other : fault ≠ .rawBodyMissing) :
    (bodyWatch setting).allowed fault := fun same => absurd same other

theorem raised_bodyWatch (fault : Fault) (raised : setting.Raises fault) :
    (bodyWatch setting).allowed fault := fun _ => raised

/-- **One call**: the function of a section is run with the raw body of the section. -/
theorem tracks_recordedExpand {again : String → Action (σ × List Event) String}
    {plainAgain : String → Action σ String}
    (renders : ∀ text, Tracks (bodyWatch setting) Free (again text) (plainAgain text))
    {text body : String} {span : Span} {delimiters : Delimiters}
    (resolved : setting.tags.resolve = .ok delimiters) (raw : IsRawBody delimiters text span body)
    (value : Value) :
    Tracks (bodyWatch setting) Free (recordedExpand setting again text span value body)
      (expand setting plainAgain value body) := by
  have entered : ∀ events, (bodyWatch setting).Trail events →
      (bodyWatch setting).good events (.entered text span value) :=
    fun _ _ => ⟨delimiters, body, resolved, raw⟩
  refine tracks_record_readHost entered fun host events trail => ?_
  refine tracks_expandFrom usual_bodyWatch raised_bodyWatch renders trail ?_ host
  exact fun function called => ⟨events, text, span, value, delimiters, rfl, called, resolved, raw⟩

/-- **One section whose value is a function**, in the tree of the text that goes with it. -/
theorem tracks_recordedExpansion {again : Views → String → Action (σ × List Event) String}
    {plainAgain : Views → String → Action σ String}
    (renders : ∀ views text, Tracks (bodyWatch setting) Free (again views text)
      (plainAgain views text))
    {text : String} {span : Span} {stop : Int} {delimiters : Delimiters}
    (resolved : setting.tags.resolve = .ok delimiters)
    (raw : IsRawBody delimiters text span (rawBody text span.stop stop)) (views : Views)
    (value : Value) :
    Tracks (bodyWatch setting) Free
      (recordedExpansion setting again (some text) views span stop value)
      (renderExpansion setting plainAgain (some text) views span stop value) := by
  refine tracks_bind (tracks_recordedExpand (renders views) resolved raw value) fun answer _ => ?_
  rw [← bind_pure (renderAnswer answer : Action σ Piece)]
  refine tracks_bind (tracks_renderAnswer usual_bodyWatch answer)
    fun piece written => ?_
  exact tracks_record (fun _ _ => written) (tracks_pure trivial)

/-- **A whole rendering**: wherever a function is called, the tree is that of the text. -/
theorem tracks_recorded (setting : Setting σ) (depth : Nat) (views : Views) (text : String) :
    Tracks (bodyWatch setting) Free
      (renderTextBy (recordedExpansion setting) (setting.recording .called) depth views text)
      (renderText setting depth views text) := by
  refine tracks_renderTextBy usual_bodyWatch raised_bodyWatch ?_ depth views text
  intro again plainAgain renders delimiters text tree resolved parsed siblings span body stop level
    member views value
  exact tracks_recordedExpansion renders resolved (isRawBody_of_parse parsed level member) views
    value

end Render

/-! ### Engines -/

namespace Engine

open Render

variable {engine : Engine σ}

/-- An engine with a record beside the state of the host. -/
def recording {ε : Type} (engine : Engine σ) (events : List ε) : Engine (σ × List ε) :=
  ⟨engine.tags, engine.escape, engine.session.recording events⟩

/-- **A step of an engine with a record**, beside the same step without one. -/
theorem run_recording {ε α : Type} {watch : Watch ε} {holds : α → Prop}
    {recorded : Action (σ × List ε) α} {plain : Action σ α}
    (tracks : Action.Tracks watch holds recorded plain) (sound : engine.session.CacheSound) :
    ∃ events, (engine.recording []).run recorded =
        ((engine.run plain).1, (engine.run plain).2.recording events) ∧
      watch.Trail events ∧
      ∀ fault, (engine.run plain).1 = .error fault → watch.allowed fault := by
  obtain ⟨same, kept, condition⟩ := tracks (engine.session.recording []) ⟨sound, watch.trail_nil⟩
  change plain.outcome engine.session = _ at same
  have run : engine.run plain = ((recorded.outcome (engine.session.recording [])).1,
      ⟨engine.tags, engine.escape, (recorded.outcome (engine.session.recording [])).2.plain⟩) :=
    congrArg (fun reached => (reached.1, (⟨engine.tags, engine.escape, reached.2⟩ : Engine σ))) same
  rw [run]
  refine ⟨_, rfl, kept.events, fun fault failed => ?_⟩
  rw [failed] at condition
  exact condition

/-- A template rendered without the defaults, with a record of what its functions are given and of
what becomes of their answers. -/
def renderRecorded (engine : Engine σ) (host : Host σ) (template : String) (views : Views)
    (partials : Partials σ) (config : ConfigSource) :
    Except Fault String × Engine (σ × List Event) :=
  (engine.recording []).run do
    let config ← Action.ofExcept (RenderConfig.coerce config)
    let setting := setting host partials config
    fresh (renderTextBy (recordedExpansion setting) (setting.recording .called) depthLimit views
      template)

/-- A section within a section, one within a list, and a partial on a line of its own. -/
def functionTemplate : String :=
  "\x7b\x7b#s\x7d\x7da\x7b\x7b#t\x7d\x7d &\x7b\x7bu\x7d\x7d\x7b\x7b/t\x7d\x7d\x7b\x7b/s\x7d\x7d" ++
    "\x7b\x7b#l\x7d\x7d\x7b\x7b#t\x7d\x7d\x7b\x7b.\x7d\x7d\x7b\x7b/t\x7d\x7d\x7b\x7b/l\x7d\x7d\n" ++
    "  \x7b\x7b>p\x7d\x7d\n"

/-- A function that has its body rendered, one that answers it, and a list. -/
def functionView : Value :=
  .mapping [(.text "s", .sectionLambda ⟨0, ⟨"Fn", "wrap"⟩, 2⟩),
    (.text "t", .sectionLambda ⟨1, ⟨"Fn", "text"⟩, 2⟩), (.text "l", .list [.null, .null])]

/-- The raw bodies in the order of the calls: the second call is made from the first one, and the
last one is made in the partial, whose lines are indented. -/
def functionBodies : List String :=
  ["a\x7b\x7b#t\x7d\x7d &\x7b\x7bu\x7d\x7d\x7b\x7b/t\x7d\x7d", " &\x7b\x7bu\x7d\x7d",
    "\x7b\x7b.\x7d\x7d", "\x7b\x7b.\x7d\x7d", "c\n  d"]

end Engine

end Mustache
