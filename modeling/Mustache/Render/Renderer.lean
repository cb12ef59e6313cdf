import Mustache.Render.Config
import Mustache.Render.Partials
import Mustache.Render.Session

/-!
**Rendering.**

A tree is rendered with a stack of views: variables are looked up and escaped, sections are
rendered for the values they name, functions expand the raw bodies of their sections, and partials
are included.

* `rawBody`: the text of the template between the tags of a section.
* `renderExpansion`: a section whose value is a function.
* `renderToken`, `renderPieces`, `renderLevel`: the rendering of a tree.
* `renderText`: a template parsed and rendered with the views at hand; this is what partials and
  render callbacks come back to. How names are found is a parameter below it.
-/

namespace Mustache

/-- The views a name is looked up in: that of the frame at hand, and the outer ones, nearest
first. -/
structure Views where
  view : Value
  outer : List Value

/-- The views with one more on top. -/
def Views.push (views : Views) (view : Value) : Views := ⟨view, views.view :: views.outer⟩

/-- What stays the same throughout a rendering. -/
structure Setting (σ : Type) where
  host : Host σ
  partials : Partials σ
  tags : TagChoice
  escape : Escape

/-- The way in which frames find names in a rendering. -/
def Setting.search {σ : Type} (setting : Setting σ) : Frame.Search :=
  Frame.lookup setting.host.access

/-- What a token contributes to the output. -/
inductive Piece where
  | text (content : String)
  | nothing
  /-- Something that cannot be written. -/
  | notText
  deriving DecidableEq, Repr

namespace Piece

/-- The text of some pieces, if all of them can be written. -/
def join? : List Piece → Option String
  | [] => some ""
  | text content :: rest => (join? rest).map (content ++ ·)
  | nothing :: rest => join? rest
  | notText :: _ => none

/-- What an escape answers, as a piece. -/
def ofEscaped : Escaped → Piece
  | .text content => text content
  | .nothing => nothing
  | .notText => notText

end Piece

/-- The place in a text of so many characters that an offset stands for: one below zero counts from
the end, and stops at the start. -/
def placeOf (length : Nat) (offset : Int) : Nat :=
  if offset < 0 then (offset + length).toNat else offset.toNat

/-- **The text of the template between the tags of a section**; nothing if they are not in order. -/
def rawBody (template : String) (start stop : Int) : String :=
  let text := template.toList
  String.ofList ((text.take (placeOf text.length stop)).drop (placeOf text.length start))

namespace Render

variable {σ : Type}

/-! ### Values -/

/-- The value of a name in the frame at hand, which finds raw values in a given way. -/
def lookupBy (search : Frame.Search) (setting : Setting σ) (views : Views) (name : String) :
    Action σ Value := do
  let raw ← Action.ofStep fun session =>
    let (result, memo) := search views.view views.outer session.memo name
    (result, { session with memo := memo })
  Action.withHost (Frame.settle setting.host views.view raw)

/-- The value of a name in the frame at hand. -/
def lookup (setting : Setting σ) : Views → String → Action σ Value :=
  lookupBy setting.search setting

/-- The text of a value. -/
def textOf (value : Value) : Action σ String :=
  match value.outputText with
  | .ok content => pure content
  | .error fault => throw fault

/-- **A variable.** Nothing is written for no value. Numbers are not put through the standard
escape. -/
def renderVariable (setting : Setting σ) (escaped : Bool) (value : Value) : Action σ Piece :=
  if value.isNothing then pure .nothing
  else do
    let content ← textOf value
    if !escaped then pure (.text content)
    else
      match setting.escape with
      | .standard =>
        pure (.text (if value.isNumber then content else Escape.html content))
      | escape => Piece.ofEscaped <$> Action.ofExcept (escape.apply content)

/-! ### Functions of sections -/

/-- The run of a function, where rendering a text is a given step. -/
def runScript (render : String → Action σ String) : Script σ → Action σ Value
  | .answer value state => Action.withHost fun _ => (.ok value, state)
  | .fail fault state => Action.withHost fun _ => (.error fault, state)
  | .render text state resume => do
    Action.withHost fun _ => (.ok (), state)
    let result ← Action.attempt (render text)
    let after ← Action.withHost fun host => (.ok host, host)
    runScript render (resume result after)

/-- The function of a section that takes a raw body: of the values that can be called, only
functions and higher-order sections do. -/
def bodyFunction? : Value → Option HostFunction
  | .sectionLambda function => some function
  | .function function => some function
  | _ => none

/-- The answer of a function of a section to a raw body, from a state of the host. -/
def expandFrom (setting : Setting σ) (render : String → Action σ String) (value : Value)
    (body : String) (state : σ) : Action σ Value :=
  match bodyFunction? value with
  | some function => runScript render (setting.host.begin function body state)
  | none => throw .wrongType

/-- The answer of a function of a section to a raw body. -/
def expand (setting : Setting σ) (render : String → Action σ String) (value : Value)
    (body : String) : Action σ Value :=
  (Action.withHost fun host => (.ok host, host)) >>= expandFrom setting render value body

/-- The answer of a function of a section is written as it is; nothing is written for no value. -/
def renderAnswer (answer : Value) : Action σ Piece :=
  match answer with
  | .null => pure .nothing
  | answer => Piece.text <$> textOf answer

/-- What a section comes to whose value is a function: with a step that renders a text again, the
template that is being rendered, if it is at hand, the views, the tag of the section, the place
where its closing tag starts, and the function. -/
abbrev Expansion (σ : Type) :=
  (Views → String → Action σ String) → Option String → Views → Span → Int → Value → Action σ Piece

/-- **A section whose value is a function**: it is given the raw body, and what it answers is
written. -/
def renderExpansion (setting : Setting σ) : Expansion σ :=
  fun again template views span stop value =>
    match template with
    | none => throw .rawBodyMissing
    | some text => do
      let answer ← expand setting (again views) value (rawBody text span.stop stop)
      renderAnswer answer

/-! ### Partials -/

/-- The text of a partial; none if it is not found, which is noted. -/
def findPartial (setting : Setting σ) (name : String) : Action σ (Option String) := do
  let found ← match setting.partials with
    | .absent => pure none
    | .table entries =>
      match ← Action.ofExcept (Partials.inTable? entries setting.tags.closing name) with
      | some (.text content) => pure (some content)
      | some .null => pure none
      | some value => if value.isTruthy then throw .wrongType else pure (some "")
      | none => pure none
    | .lookup ask => Action.ofStep fun session =>
      let reply := ask name session.host
      (reply.text,
        { session with host := reply.state, notes := reply.notes.reverse ++ session.notes })
  if found.isNone then Action.note (.partialMissing name)
  pure found

/-- Whether there are any partials to look for. -/
def hasPartials (setting : Setting σ) : Bool :=
  match setting.partials with
  | .absent => false
  | .table entries => !entries.isEmpty
  | .lookup _ => true

/-- **A partial**, indented like its tag if that is the first tag of its line. -/
def renderPartial (setting : Setting σ) (render : String → Action σ String) (name : String)
    (host : HostLine) : Action σ Piece :=
  if hasPartials setting then do
    match ← findPartial setting name with
    | none => pure .nothing
    | some text =>
      let indented :=
        if host.tagIndex = 0 ∧ host.indentation ≠ "" then
          indentPartial text host.indentation host.hasNonBlank
        else text
      Piece.text <$> render indented
  else pure .nothing

/-! ### Trees -/

/-- The text of some pieces, or the fault that one of them cannot be written. -/
def joinPieces (pieces : List Piece) : Action σ String :=
  match Piece.join? pieces with
  | some content => pure content
  | none => throw .wrongType

mutual

/-- What a token contributes, where names are found in a given way. A text is rendered again by a
given step, and another one expands the sections whose values are functions. -/
def renderToken (search : Frame.Search) (setting : Setting σ)
    (again : Views → String → Action σ String)
    (expansion : Views → Span → Int → Value → Action σ Piece) (views : Views) :
    Token → Action σ Piece
  | .text span => pure (.text span.value)
  | .interpolation escaped span => do
    let value ← lookupBy search setting views span.value
    renderVariable setting escaped value
  | .block true span body _ => do
    let value ← lookupBy search setting views span.value
    if value.isTruthy then pure .nothing
    else
      let pieces ← renderPieces search setting again expansion views body
      Piece.text <$> joinPieces pieces
  | .block false span body stop => do
    let value ← lookupBy search setting views span.value
    if !value.isTruthy then pure .nothing
    else
      match value.kind with
      | .list => do
        let parts ← (value.listItems?.getD []).mapM fun item => Action.inNewFrame do
          let pieces ← renderPieces search setting again expansion (views.push item) body
          joinPieces pieces
        pure (.text (String.join parts))
      | .sectionLambda | .accessor =>
        expansion views span stop value
      | .object | .string | .number => Action.inNewFrame do
        let pieces ← renderPieces search setting again expansion (views.push value) body
        Piece.text <$> joinPieces pieces
      | .boolean | .null | .missing => do
        let pieces ← renderPieces search setting again expansion views body
        Piece.text <$> joinPieces pieces
  | .partialTag span host => renderPartial setting (again views) span.value host
  | .close _ => pure .nothing
  | .comment _ => pure .nothing
  | .delimiters _ => pure .nothing

/-- What some tokens contribute, in their order. -/
def renderPieces (search : Frame.Search) (setting : Setting σ)
    (again : Views → String → Action σ String)
    (expansion : Views → Span → Int → Value → Action σ Piece) (views : Views) :
    List Token → Action σ (List Piece)
  | [] => pure []
  | token :: rest => do
    let piece ← renderToken search setting again expansion views token
    let pieces ← renderPieces search setting again expansion views rest
    pure (piece :: pieces)

end

/-- The text of some tokens, where names are found in a given way; the raw bodies of sections are
cut out of the template, if there is one. -/
def renderLevelWith (search : Frame.Search) (expansion : Expansion σ) (setting : Setting σ)
    (again : Views → String → Action σ String) (template : Option String) (views : Views)
    (tokens : List Token) : Action σ String := do
  let pieces ← renderPieces search setting again (expansion again template) views tokens
  joinPieces pieces

/-- The text of some tokens. -/
def renderLevel (expansion : Expansion σ) (setting : Setting σ) :
    (Views → String → Action σ String) → Option String → Views → List Token → Action σ String :=
  renderLevelWith setting.search expansion setting

/-! ### Templates -/

/-- The delimiters of a rendering, or the fault that they are no pair. -/
def delimiters (setting : Setting σ) : Action σ Delimiters :=
  match setting.tags.resolve with
  | .ok delimiters => pure delimiters
  | .error fault => throw (.syntaxFault fault)

/-- A template parsed and rendered with some way to find names and some expansion of functions,
where partials and callbacks may be nested so deep. -/
def renderTextWith (search : Frame.Search) (expansion : Expansion σ) (setting : Setting σ) :
    Nat → Views → String → Action σ String
  | 0, _, _ => throw .tooDeep
  | depth + 1, views, text => do
    let delimiters ← delimiters setting
    let tree ← Action.parse delimiters text
    renderLevelWith search expansion setting (renderTextWith search expansion setting depth)
      (some text) views tree.tokens

/-- A template parsed and rendered with some expansion of functions. -/
def renderTextBy (expansion : Expansion σ) (setting : Setting σ) :
    Nat → Views → String → Action σ String :=
  renderTextWith setting.search expansion setting

/-- **A template parsed and rendered.** -/
def renderText (setting : Setting σ) : Nat → Views → String → Action σ String :=
  renderTextBy (renderExpansion setting) setting

/-- How deep partials and callbacks may be nested. -/
def depthLimit : Nat := 1000

end Render

end Mustache
