import Mustache.Proofs.Remembering
import Mustache.Proofs.RenderedBody
import Mustache.Proofs.UnmentionedData

/-!
**A function that has its sections rendered, in a whole template.**

A template may name a function in some sections only, and the function may do nothing but have the
raw bodies of these rendered. The same template is then rendered as if the value of the name were
true, as long as each of these sections stands by itself: the delimiters in force are those that the
template began with, and its body is all kept when it is parsed as a template of its own.

* `Token.StandsAlone`, `NamesSections`: such sections, and templates that mention a name in them
  only; `MentionsBeside`: the other keys.
* `Value.Binds`: two mappings that differ in the value of the name.
* `Frame.find_bound`: what the name stands for in chains that end in the two mappings.
* `Twin`: frames and sessions of the two renderings.
* `relates_tree_twin`: trees that do not mention the name.
* `relates_section_twin`: **a section of the name.**
* `Engine.renderDirectly_sections`: **the main statement.**
-/

namespace Mustache

/-! ### What is mentioned -/

/-- **A section that stands by itself**: its raw body, parsed with the delimiters that the template
began with, is all kept. The body does not mention the name of the section. -/
structure Token.StandsAlone (delimiters : Delimiters) (template : String) (span : Span)
    (body : List Token) (stop : Int) : Prop where
  force : ∀ tokens before after, tokenize delimiters template = .ok tokens →
    tokens = before ++ .block false span [] Token.openStop :: after →
    delimiters.after? before = some delimiters
  unbroken : '\n' ∉ (rawBody template span.stop stop).toList
  inked : ∃ node ∈ Token.preorder body, node.isSolid = true
  apart : ∀ node ∈ Token.preorder body, ∀ name rest, node.name? = some name →
    ¬ Steps name (span.value :: rest)

/-- **A template that mentions a name in sections only**, each of which stands by itself. No tag
names the whole view. -/
structure NamesSections (delimiters : Delimiters) (template name : String) : Prop where
  point : ∀ tree node, parse delimiters template = .ok tree → node ∈ Token.preorder tree →
    node.name? ≠ some "."
  sections : ∀ tree siblings node asked rest, parse delimiters template = .ok tree →
    Token.Level tree siblings → node ∈ siblings → node.name? = some asked →
    Steps asked (name :: rest) →
    ∃ span body stop, node = .block false span body stop ∧ span.value = name ∧
      Token.StandsAlone delimiters template span body stop

/-- A key that a template mentions beside a name. -/
def MentionsBeside (delimiters : Delimiters) (template name key : String) : Prop :=
  Mentions delimiters template key ∧ key ≠ name

/-- **Two mappings that differ in the value of a name**: in one of them it is true, in the other one
it is a function. They agree on some other keys, under which there are no functions. -/
structure Value.Binds {σ : Type} (host : Host σ) (keys : String → Prop) (name : String)
    (function : HostFunction) (view beside : Value) : Prop where
  agree : AgreeOn host keys view beside
  single : ¬ Dotted name
  settled : view.mappingValue? name = some (.bool true)
  bound : beside.mappingValue? name = some (.sectionLambda function)

variable {σ : Type} {keys : String → Prop} {name : String} {function : HostFunction}
  {view beside : Value}

open Value

/-- **What the name stands for in chains that end in two such mappings**: what is on top of them may
have something for it, and otherwise it has the two values. -/
theorem Frame.find_bound {host : Host σ} (binds : Binds host keys name function view beside)
    {inner : List Value} (whole : ∀ own ∈ inner, host.Reaches (view.HeldUnder keys) own) :
    (find host.access name (inner ++ [view]) = find host.access name (inner ++ [beside]) ∧
        ∀ value, find host.access name (inner ++ [view]) = .ok value →
          host.Reaches (view.HeldUnder keys) value) ∨
      find host.access name (inner ++ [view]) = .ok (.bool true) ∧
        find host.access name (inner ++ [beside]) = .ok (.sectionLambda function) := by
  induction inner with
  | nil =>
    obtain ⟨entries, opened⟩ := binds.agree.mapping
    obtain ⟨others, openedAlso⟩ := binds.agree.other
    obtain ⟨has, get⟩ := property_of_mapping host.access name opened
    obtain ⟨hasAlso, getAlso⟩ := property_of_mapping host.access name openedAlso
    rw [binds.settled] at has get
    rw [binds.bound] at hasAlso getAlso
    refine .inr ⟨?_, ?_⟩
    · simp only [List.nil_append, find, resolve_plain binds.single, ownProperty, has, get]
      rfl
    · simp only [List.nil_append, find, resolve_plain binds.single, ownProperty, hasAlso, getAlso]
      rfl
  | cons own rest hypothesis =>
    obtain ⟨here, later⟩ := List.forall_mem_cons.mp whole
    simp only [List.cons_append, find]
    cases resolved : own.resolve host.access name with
    | error fault =>
      refine .inl ⟨rfl, fun other same => ?_⟩
      cases same
    | ok found =>
      cases found with
      | none => exact hypothesis later
      | some value =>
        refine .inl ⟨rfl, fun other same => ?_⟩
        cases same
        exact (Host.Reaches.closes host _).hits here (resolve_hits.mp resolved)

namespace Render

open Mustache.Action

/-! ### Sessions -/

/-- **Frames and sessions of the two renderings.** The two mappings are the views of the roots, what
was put on top of them comes of some values, and each side remembers what it would find. -/
structure Twin (host : Host σ) (held : Value → Prop) (view beside : Value) (views others : Views)
    (session other : Session σ) : Prop where
  inner : ∃ inner, (∀ own ∈ inner, host.Reaches held own) ∧
    views.view :: views.outer = inner ++ [view] ∧ others.view :: others.outer = inner ++ [beside]
  sessions : session.Beside other
  memo : session.memo.Faithful host.access views
  memory : other.memo.Faithful host.access others

theorem framed_twin (host : Host σ) (held : Value → Prop) :
    Framed (host.Reaches held) (Twin host held view beside) where
  push here twin := by
    obtain ⟨inner, whole, chain, beyond⟩ := twin.inner
    exact {
      inner := ⟨_ :: inner, List.forall_mem_cons.mpr ⟨here, whole⟩, congrArg (_ :: ·) chain,
        congrArg (_ :: ·) beyond⟩
      sessions := ⟨twin.sessions.host, twin.sessions.sound, twin.sessions.otherSound⟩
      memo := Memo.faithful_nil _ _
      memory := Memo.faithful_nil _ _ }
  pop before after := {
    inner := before.inner
    sessions := ⟨after.sessions.host, after.sessions.sound, after.sessions.otherSound⟩
    memo := before.memo
    memory := before.memory }
  items here := (Host.Reaches.closes host held).items here

/-- **A template is parsed to the same tree** on both sides. -/
theorem twin_parses (host : Host σ) (held : Value → Prop) (views others : Views) :
    ParsesAlike (Twin host held view beside views others) (fun _ => True)
      fun delimiters template tokens => parse delimiters template = .ok tokens := by
  intro delimiters template session other twin
  obtain ⟨same, after⟩ := beside_parse delimiters template twin.sessions
  obtain ⟨_, condition⟩ := parse_outcome delimiters template twin.sessions.sound
  obtain ⟨_, memo⟩ := outcome_parse_frame delimiters template session
  obtain ⟨_, memory⟩ := outcome_parse_frame delimiters template other
  refine ⟨?_, twin.inner, after, memo ▸ twin.memo, memory ▸ twin.memory⟩
  generalize ((Action.parse delimiters template).outcome session).1 = result at same condition
  generalize ((Action.parse delimiters template).outcome other).1 = image at same
  cases same with
  | ok tokens => exact .ok ⟨tokens, condition⟩
  | error may => exact .error may

variable {setting : Setting σ}

/-- **A name is looked up on both sides** by what is found along the views, and by what becomes of
that. -/
theorem relates_lookup_twin {held : Value → Prop} {raws answers : Value → Value → Prop}
    {views others : Views} {asked : String} (other : asked ≠ ".")
    (found : SameOutcome (fun _ => True) raws
      (Frame.find setting.host.access asked (views.view :: views.outer))
      (Frame.find setting.host.access asked (others.view :: others.outer)))
    (settles : ∀ raw image, raws raw image → ∀ state,
      SameOutcome (fun _ => True) answers (Frame.settle setting.host views.view raw state).1
          (Frame.settle setting.host others.view image state).1 ∧
        (Frame.settle setting.host views.view raw state).2 =
          (Frame.settle setting.host others.view image state).2) :
    Relates (Twin setting.host held view beside views others) (fun _ => True) answers
      (lookup setting views asked) (lookup setting others asked) := by
  intro session image twin
  obtain ⟨here, kept⟩ := Frame.lookup_eq_searchAfresh twin.memo asked
  obtain ⟨there, keptAlso⟩ := Frame.lookup_eq_searchAfresh twin.memory asked
  unfold Frame.searchAfresh at here there
  simp only [if_neg other] at here there
  rw [← here, ← there] at found
  unfold lookup Setting.search
  rw [outcome_lookupBy, outcome_lookupBy]
  generalize Frame.lookup setting.host.access views.view views.outer session.memo asked = left
    at found kept
  generalize Frame.lookup setting.host.access others.view others.outer image.memo asked = right
    at found keptAlso
  obtain ⟨result, memo⟩ := left
  obtain ⟨result', memory⟩ := right
  cases found with
  | error may => exact ⟨.error may, twin.inner,
      ⟨twin.sessions.host, twin.sessions.sound, twin.sessions.otherSound⟩, kept, keptAlso⟩
  | ok raw =>
    obtain ⟨same, after⟩ := settles _ _ raw session.host
    rw [twin.sessions.host] at same after
    simp only [twin.sessions.host]
    exact ⟨same, twin.inner, ⟨after, twin.sessions.sound, twin.sessions.otherSound⟩, kept,
      keptAlso⟩

/-- The same is found, and it comes of some values. -/
theorem sameOutcome_of_reached {host : Host σ} {held : Value → Prop}
    {result image : Except Fault Value} (same : result = image)
    (reached : ∀ value, result = .ok value → host.Reaches held value) :
    SameOutcome (fun _ => True) (fun value image => value = image ∧ host.Reaches held value) result
      image := by
  subst same
  cases result with
  | error fault => exact .error trivial
  | ok value => exact .ok ⟨rfl, reached value rfl⟩

section Trees

variable (agree : AgreeOn setting.host keys view beside)

include agree

/-- **A name that asks for the keys** stands for the same on both sides. -/
theorem relates_asked_twin {asked : String} (asks : Asks keys asked) (views others : Views) :
    Relates (Twin setting.host (view.HeldUnder keys) view beside views others) (fun _ => True)
      (fun value image => value = image ∧ setting.host.Reaches (view.HeldUnder keys) value)
      (lookup setting views asked) (lookup setting others asked) := by
  intro session other twin
  obtain ⟨inner, whole, chain, beyond⟩ := twin.inner
  obtain ⟨same, reached⟩ := Frame.find_apart agree asks.2 whole
  rw [← chain, ← beyond] at same
  rw [← chain] at reached
  exact relates_lookup_twin asks.1 (sameOutcome_of_reached same reached)
    (settles_of_reached agree.functionless) session other twin

/-- **Trees that are alike**, without partials, whose names ask for the keys. -/
theorem relates_tree_twin (absent : hasPartials setting = false)
    {again anew : Views → String → Action σ String} {text another : String}
    {body images : List Token}
    (alike : Token.AllAlike (fun token image => token.span.value = image.span.value ∧
      ∀ asked, token.name? = some asked → Asks keys asked) body images) (views others : Views) :
    Relates (Twin setting.host (view.HeldUnder keys) view beside views others) (fun _ => True) Eq
      (renderPieces setting.search setting again (renderExpansion setting again (some text)) views
        body)
      (renderPieces setting.search setting anew (renderExpansion setting anew (some another)) others
        images) := by
  refine relates_renderPieces ?_ ?_ ?_ alike views others
  · rintro escaped span place ⟨same, asks⟩ views others
    change span.value = place.value at same
    refine relates_interpolation (fun _ _ => trivial) (setting.alike_refl fun _ => trivial) escaped
      ?_ fun value image
        (both : value = image ∧ setting.host.Reaches (view.HeldUnder keys) value) => both.1
    rw [← same]
    exact relates_asked_twin agree (asks _ rfl) views others
  · rintro inverted span body stop place inner limit ⟨same, asks⟩ bodies views others
    change span.value = place.value at same
    refine relates_blockOf (framed_twin setting.host _) trivial ?_ bodies fun _ value here _ =>
      relates_renderExpansion_of_not trivial (agree.functionless value here)
    rw [← same]
    exact relates_asked_twin agree (asks _ rfl) views others
  · intro span host place line _ views others
    unfold renderToken renderPartial
    rw [absent]
    exact relates_pure rfl

end Trees

/-! ### Sections of the name -/

variable {delimiters : Delimiters} {template : String} {tree siblings body : List Token}
  {span : Span} {stop : Int}

/-- **A section that stands by itself** has a tree as a template of its own that is like its body:
the tags have the same contents, and something holds of all of them. -/
theorem exists_images {good : Token → Prop}
    (alone : Token.StandsAlone delimiters template span body stop)
    (parsed : parse delimiters template = .ok tree) (level : Token.Level tree siblings)
    (member : .block false span body stop ∈ siblings)
    (here : ∀ others token, Token.Level body others → token ∈ others → good token) :
    ∃ images, parse delimiters (rawBody template span.stop stop) = .ok images ∧
      Token.AllAlike (fun token image => token.span.value = image.span.value ∧ good token) body
        images := by
  obtain ⟨tokens, read, rfl⟩ := parse_eq_ok_iff.mp parsed
  obtain ⟨images, bodyParsed, alike⟩ := parse_rawBody read level member
    (fun before after => alone.force tokens before after read) alone.unbroken alone.inked
  refine ⟨images, bodyParsed, ?_⟩
  have whole := alike.of_level here .root fun _ inside => inside
  exact whole.mono fun _ _ ⟨same, holds⟩ => ⟨same.1, holds⟩

/-- **A section of the name, where its value is true,** comes to what the function makes of it. -/
theorem relates_body_twin (binds : Binds setting.host keys name function view beside)
    (renders : RendersBody setting.host function) (absent : hasPartials setting = false)
    (resolved : setting.tags.resolve = .ok delimiters)
    {images : List Token} (parsed : parse delimiters (rawBody template span.stop stop) = .ok images)
    (alike : Token.AllAlike (fun token image => token.span.value = image.span.value ∧
      ∀ asked, token.name? = some asked → Asks keys asked) body images)
    (depth : Nat) (views others : Views) :
    Relates (Twin setting.host (view.HeldUnder keys) view beside views others) (fun _ => True) Eq
      (do let pieces ← renderPieces setting.search setting (renderText setting (depth + 1))
            (renderExpansion setting (renderText setting (depth + 1)) (some template)) views body
          Piece.text <$> joinPieces pieces)
      (renderExpansion setting (renderText setting (depth + 1)) (some template) others span stop
        (.sectionLambda function)) := by
  have again : Relates (Twin setting.host (view.HeldUnder keys) view beside views others)
      (fun _ => True) Eq
      (renderPieces setting.search setting (renderText setting (depth + 1))
        (renderExpansion setting (renderText setting (depth + 1)) (some template)) views body >>=
          joinPieces)
      (renderText setting (depth + 1) others (rawBody template span.stop stop)) := by
    intro session other twin
    obtain ⟨after, memory, host, sound, outcome⟩ :=
      outcome_renderText_of_parse resolved twin.sessions.otherSound parsed depth others
    rw [outcome]
    refine relates_body (relates_tree_twin binds.agree absent alike views others) trivial session
      after ⟨twin.inner, ?_, twin.memo, memory ▸ twin.memory⟩
    exact ⟨twin.sessions.host.trans host.symm, twin.sessions.sound, sound⟩
  intro session other twin
  rw [outcome_rendered renders, ← map_bind]
  exact relates_map again (fun _ _ same => congrArg Piece.text same) session other twin

/-- **A section of the name** comes to the same on both sides. -/
theorem relates_section_twin (binds : Binds setting.host keys name function view beside)
    (point : name ≠ ".") (renders : RendersBody setting.host function)
    (absent : hasPartials setting = false) (resolved : setting.tags.resolve = .ok delimiters)
    (alone : Token.StandsAlone delimiters template span body stop)
    (parsed : parse delimiters template = .ok tree) (level : Token.Level tree siblings)
    (member : .block false span body stop ∈ siblings) (named : span.value = name)
    (asks : ∀ others token, Token.Level body others → token ∈ others →
      ∀ asked, token.name? = some asked → Asks keys asked)
    (depth : Nat) (views others : Views) :
    Relates (Twin setting.host (view.HeldUnder keys) view beside views others) (fun _ => True) Eq
      (renderToken setting.search setting (renderText setting (depth + 1))
        (renderExpansion setting (renderText setting (depth + 1)) (some template)) views
        (.block false span body stop))
      (renderToken setting.search setting (renderText setting (depth + 1))
        (renderExpansion setting (renderText setting (depth + 1)) (some template)) others
        (.block false span body stop)) := by
  obtain ⟨images, bodyParsed, alike⟩ := exists_images alone parsed level member asks
  have itself : Token.AllAlike (fun token image => token.span.value = image.span.value ∧
      ∀ asked, token.name? = some asked → Asks keys asked) body body :=
    Token.allAlike_of_level (fun _ _ level member => ⟨rfl, asks _ _ level member⟩) body .root
      fun _ inside => inside
  intro session other twin
  obtain ⟨inner, whole, chain, beyond⟩ := twin.inner
  have bound := Frame.find_bound binds whole
  rw [← chain, ← beyond, ← named] at bound
  rcases bound with ⟨same, reached⟩ | ⟨here, there⟩
  · -- what is on top of the mappings has something for the name
    have looked : Relates (Twin setting.host (view.HeldUnder keys) view beside views others)
        (fun _ => True)
        (fun value image => value = image ∧ setting.host.Reaches (view.HeldUnder keys) value)
        (lookup setting views span.value) (lookup setting others span.value) :=
      relates_lookup_twin (named ▸ point) (sameOutcome_of_reached same reached)
        (settles_of_reached binds.agree.functionless)
    refine relates_blockOf (framed_twin setting.host _) trivial looked (fun views others => ?_)
      (fun _ value here _ => ?_) session other twin
    · exact relates_tree_twin binds.agree absent itself views others
    · exact relates_renderExpansion_of_not trivial (binds.agree.functionless value here)
  · have found : SameOutcome (fun _ => True)
        (fun value image => value = .bool true ∧ image = .sectionLambda function)
        (Frame.find setting.host.access span.value (views.view :: views.outer))
        (Frame.find setting.host.access span.value (others.view :: others.outer)) := by
      rw [here, there]
      exact .ok ⟨rfl, rfl⟩
    have looked : Relates (Twin setting.host (view.HeldUnder keys) view beside views others)
        (fun _ => True) (fun value image => value = .bool true ∧ image = .sectionLambda function)
        (lookup setting views span.value) (lookup setting others span.value) := by
      refine relates_lookup_twin (named ▸ point) found ?_
      rintro _ _ ⟨rfl, rfl⟩ state
      exact ⟨.ok ⟨rfl, rfl⟩, rfl⟩
    unfold renderToken
    refine relates_bind looked ?_ session other twin
    rintro _ _ ⟨rfl, rfl⟩
    exact relates_body_twin binds renders absent resolved bodyParsed alike depth views others

/-! ### Whole templates -/

/-- A node that does not mention the name asks for other keys. -/
theorem asks_of_not_steps (names : NamesSections delimiters template name)
    (parsed : parse delimiters template = .ok tree) (level : Token.Level tree siblings)
    {node : Token} (member : node ∈ siblings) {asked : String} (own : node.name? = some asked)
    (apart : ∀ rest, ¬ Steps asked (name :: rest)) :
    Asks (MentionsBeside delimiters template name) asked := by
  have shown : node.bare.name? = some asked := node.bare_name?.trans own
  have inside := level.bare_mem_preorder member
  refine ⟨fun same => names.point tree _ parsed inside (same ▸ shown), fun key rest steps =>
    ⟨⟨tree, _, asked, rest, parsed, inside, shown, steps⟩, ?_⟩⟩
  rintro rfl
  exact apart rest steps

/-- **What a node asks for** in a template that names a function in sections only: other keys, or it
is one of these sections, and the nodes in its body ask for other keys. -/
theorem asks_or_section (names : NamesSections delimiters template name)
    (parsed : parse delimiters template = .ok tree) (level : Token.Level tree siblings)
    {node : Token} (member : node ∈ siblings) {asked : String} (own : node.name? = some asked) :
    Asks (MentionsBeside delimiters template name) asked ∨
      ∃ span body stop, node = .block false span body stop ∧ span.value = name ∧
        Token.StandsAlone delimiters template span body stop ∧
        ∀ others token, Token.Level body others → token ∈ others →
          ∀ inner, token.name? = some inner →
            Asks (MentionsBeside delimiters template name) inner := by
  by_cases found : ∃ rest, Steps asked (name :: rest)
  · obtain ⟨rest, steps⟩ := found
    obtain ⟨span, body, stop, rfl, named, alone⟩ :=
      names.sections tree siblings node asked rest parsed level member own steps
    refine .inr ⟨span, body, stop, rfl, named, alone, fun others token inner inside asked own => ?_⟩
    have deeper : Token.Level tree others := (Token.Level.body level member).trans inner
    refine asks_of_not_steps names parsed deeper inside own fun rest => ?_
    have shown : token.bare.name? = some asked := token.bare_name?.trans own
    exact named ▸ alone.apart _ (inner.bare_mem_preorder inside) asked rest shown
  · have apart : ∀ rest, ¬ Steps asked (name :: rest) := fun rest steps => found ⟨rest, steps⟩
    exact .inl (asks_of_not_steps names parsed level member own apart)

/-- **A template that names the function in sections only**, with the one mapping and the other. -/
theorem relates_renderText_twin (resolved : setting.tags.resolve = .ok delimiters)
    (absent : hasPartials setting = false) (names : NamesSections delimiters template name)
    (renders : RendersBody setting.host function)
    (binds : Binds setting.host (MentionsBeside delimiters template name) name function view beside)
    (depth : Nat) (views others : Views) :
    Relates (Twin setting.host (view.HeldUnder (MentionsBeside delimiters template name)) view
        beside views others) (fun _ => True) Eq
      (renderText setting (depth + 2) views template)
      (renderText setting (depth + 2) others template) := by
  rw [renderText_succ resolved, renderText_succ resolved]
  refine relates_bind (twin_parses setting.host _ views others delimiters template)
    fun tree image ⟨same, parsed⟩ => ?_
  rw [← same]
  have themselves : Token.AllAlike (fun token image => token = image ∧
      ∃ siblings, Token.Level tree.tokens siblings ∧ token ∈ siblings) tree.tokens tree.tokens :=
    Token.allAlike_of_level (fun siblings token level member => ⟨rfl, siblings, level, member⟩)
      tree.tokens .root fun _ inside => inside
  refine relates_body (relates_renderPieces ?_ ?_ ?_ themselves views others) trivial
  · rintro escaped span _ ⟨⟨⟩, siblings, level, member⟩ views others
    rcases asks_or_section names parsed level member rfl with asks | ⟨_, _, _, other, _⟩
    · exact relates_interpolation (fun _ _ => trivial) (setting.alike_refl fun _ => trivial) escaped
        (relates_asked_twin binds.agree asks views others) fun _ _ => And.left
    · cases other
  · rintro inverted span body stop _ _ _ ⟨⟨⟩, siblings, level, member⟩ bodies views others
    rcases asks_or_section names parsed level member rfl with
      asks | ⟨_, _, _, ⟨⟩, named, alone, inner⟩
    · exact relates_blockOf (framed_twin setting.host _) trivial
        (relates_asked_twin binds.agree asks views others) bodies fun _ value here _ =>
          relates_renderExpansion_of_not trivial (binds.agree.functionless value here)
    · have point : name ≠ "." := by
        rintro rfl
        exact names.point _ _ parsed (level.bare_mem_preorder member) (congrArg some named)
      exact relates_section_twin binds point renders absent resolved alone parsed level member named
        inner depth views others
  · rintro span host _ _ ⟨⟨⟩, _⟩ views others
    unfold renderToken renderPartial
    rw [absent]
    exact relates_pure rfl

end Render

namespace Engine

open Mustache.Action Mustache.Render

/-- **A function that has its sections rendered** makes of a template what it is when the value of
its name is true. The template, rendered without partials, mentions the function in sections that
stand by themselves, and nowhere else; two mappings differ in the value of its name, and nothing
that comes of what is under the other keys that the template mentions is a function. An engine in
use renders the template with the one or the other to the same, or to the same fault, and the
engines that are left differ in their caches only. -/
theorem renderDirectly_sections {engine : Engine σ} (reached : engine.Reached) {host : Host σ}
    (renders : RendersBody host function) (partials : Partials σ) (config : ConfigSource)
    (template name : String)
    (absent : ∀ given, RenderConfig.coerce config = .ok given →
      hasPartials (setting host partials given) = false)
    (names : ∀ given delimiters, RenderConfig.coerce config = .ok given →
      given.resolvedTags.resolve = .ok delimiters → NamesSections delimiters template name)
    (binds : ∀ given delimiters, RenderConfig.coerce config = .ok given →
      given.resolvedTags.resolve = .ok delimiters →
      Binds host (MentionsBeside delimiters template name) name function view beside) :
    (engine.renderDirectly host template ⟨view, []⟩ partials config).1 =
        (engine.renderDirectly host template ⟨beside, []⟩ partials config).1 ∧
      (engine.renderDirectly host template ⟨view, []⟩ partials config).2.Beside
        (engine.renderDirectly host template ⟨beside, []⟩ partials config).2 := by
  have sound := cacheSound_of_reached reached
  cases coerced : RenderConfig.coerce config with
  | error fault =>
    unfold renderDirectly
    rw [coerced]
    exact ⟨rfl, beside_refl sound⟩
  | ok given =>
    rw [renderDirectly_eq engine host template _ partials coerced,
      renderDirectly_eq engine host template _ partials coerced]
    cases resolved : given.resolvedTags.resolve with
    | error fault =>
      have tags : (setting host partials given).tags.resolve = .error fault := resolved
      unfold depthLimit
      rw [renderText_unresolved tags, renderText_unresolved tags]
      exact ⟨rfl, rfl, rfl, rfl, sound, sound⟩
    | ok delimiters =>
      have start : Twin host (view.HeldUnder (MentionsBeside delimiters template name)) view beside
          ⟨view, []⟩ ⟨beside, []⟩ { engine.session with memo := [] }
          { engine.session with memo := [] } :=
        ⟨⟨[], nofun, rfl, rfl⟩, ⟨rfl, sound, sound⟩, Memo.faithful_nil _ _, Memo.faithful_nil _ _⟩
      have tags : (setting host partials given).tags.resolve = .ok delimiters := resolved
      obtain ⟨same, after⟩ := relates_renderText_twin tags (absent given coerced)
        (names given delimiters coerced resolved) renders (binds given delimiters coerced resolved)
        998 _ _ _ _ start
      exact ⟨same.eq, rfl, rfl, after.sessions.host, after.sessions.sound,
        after.sessions.otherSound⟩

/-- Whether a tree is one section, whose body is not blank and asks for some keys only. -/
def isSectionAsking (span : Span) (stop : Int) (keys : List String) : List Token → Bool
  | [.block false place body limit] =>
    place = span && limit = stop && (Token.preorder body).any Token.isSolid &&
      (Token.preorder body).all (Token.asksOnly keys)
  | _ => false

theorem exists_of_isSectionAsking {span : Span} {stop : Int} {keys : List String}
    {tree : List Token} (checked : isSectionAsking span stop keys tree = true) :
    ∃ body, tree = [.block false span body stop] ∧
      (∃ node ∈ Token.preorder body, node.isSolid = true) ∧
      ∀ node ∈ Token.preorder body, node.asksOnly keys = true := by
  unfold isSectionAsking at checked
  split at checked
  · rename_i place body limit
    simp only [Bool.and_eq_true, decide_eq_true_eq] at checked
    obtain ⟨⟨⟨rfl, rfl⟩, inked⟩, asks⟩ := checked
    exact ⟨body, rfl, List.any_eq_true.mp inked, List.all_eq_true.mp asks⟩
  · cases checked

/-- The section of the template behind two changes of the delimiters stands by itself. -/
theorem namesSections_restored : NamesSections .standard restoredTemplate "f" ∧
    ∀ key, Mentions .standard restoredTemplate key → key ∈ ["f", "x"] := by
  have checked : (Mustache.parse .standard restoredTemplate).toOption.all
      (fun tree => (Token.preorder tree).all (Token.asksOnly ["f", "x"])) = true := by
    decide +kernel
  have one : (Mustache.parse .standard restoredTemplate).toOption.any
      (isSectionAsking ⟨"f", 22, 28⟩ 35 ["x"]) = true := by
    decide +kernel
  have forced : (tokenize .standard restoredTemplate).toOption.all (fun tokens =>
      (List.range tokens.length).all fun place =>
        (tokens[place]?.map Token.kind ≠ some .plainSection ∨
          Delimiters.standard.after? (tokens.take place) = some .standard : Bool)) = true := by
    decide +kernel
  obtain ⟨contained, mentioned⟩ := selfContained_of_asksOnly checked
  refine ⟨⟨contained.point, fun tree siblings node asked rest parsed level member own steps => ?_⟩,
    mentioned⟩
  rw [parsed] at one
  obtain ⟨body, rfl, inked, asks⟩ := exists_of_isSectionAsking one
  have apart : ∀ node ∈ Token.preorder body, ∀ name rest, node.name? = some name →
      ¬ Steps name ("f" :: rest) := by
    intro node inside name rest shown steps
    have asked := (Token.steps_of_asksOnly (asks node inside) shown).2 "f" rest steps
    simp at asked
  rcases level.of_section with rfl | inner
  · cases List.mem_singleton.mp member
    refine ⟨_, _, _, rfl, rfl, ?_, by decide +kernel, inked, apart⟩
    rintro tokens before after read rfl
    rw [read] at forced
    have here := List.all_eq_true.mp forced before.length (by simp)
    simpa [Token.kind] using here
  · exact absurd steps
      (apart _ (inner.bare_mem_preorder member) asked rest (node.bare_name?.trans own))

theorem renderDirectly_sections_restored :
    let engine : Engine Counts := new [] (some (.empty true))
    let host := Recipe.host #[.rendered]
    let function : HostFunction := ⟨0, ⟨"Fn", "render"⟩, 2⟩
    let rendered := fun value =>
      (engine.renderDirectly host restoredTemplate ⟨changedView value, []⟩ .absent (.ready {})).1
    rendered (.bool true) = rendered (.sectionLambda function) ∧
      (rendered (.sectionLambda function)).toOption = some "1 a" := by
  intro engine host function rendered
  have reached : engine.Reached := .new [] (some true)
  have renders : RendersBody host function := fun _ _ => rfl
  obtain ⟨names, mentioned⟩ := namesSections_restored
  have only : ∀ key, MentionsBeside .standard restoredTemplate "f" key → key = "x" :=
    fun key ⟨asked, other⟩ => by simpa [other] using mentioned key asked
  have binds : Binds host (MentionsBeside .standard restoredTemplate "f") "f"
      function (changedView (.bool true)) (changedView (.sectionLambda function)) := by
    have agree : AgreeOn host (MentionsBeside .standard restoredTemplate "f")
        (changedView (.bool true)) (changedView (.sectionLambda function)) := by
      refine ⟨⟨_, rfl⟩, ⟨_, rfl⟩, fun key asked => ?_, functionless_of_throughout _ ?_⟩
      · rw [only key asked]
        rfl
      · rintro held ⟨key, asked, found⟩
        rw [only key asked] at found
        cases found
        rfl
    have single : ¬ Dotted "f" := by
      rw [← isPath_iff]
      decide +kernel
    exact ⟨agree, single, rfl, rfl⟩
  refine ⟨(renderDirectly_sections reached renders .absent (.ready {}) restoredTemplate "f"
    ?_ ?_ ?_).1, by decide +kernel⟩
  · intro given coerced
    cases coerced
    rfl
  · intro given delimiters coerced resolved
    cases coerced
    cases resolved
    exact names
  · intro given delimiters coerced resolved
    cases coerced
    cases resolved
    exact binds

end Engine

end Mustache
