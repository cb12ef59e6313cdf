import Mustache.Proofs.CatalogueValues
import Mustache.Proofs.EnsuredSteps
import Mustache.Proofs.ReachedEngines

/-!
**Data that a template does not mention.**

A template without partials mentions some keys: the first steps of the names in its tags. Two
mappings may differ under all other keys. They render the template to the same, or to the same
fault, provided that nothing that comes of what is under the keys that are mentioned is a function:
what is put on top of them comes from under those keys, and each name that falls back to them asks
for one.

* `Token.name?`, `Mentions`: the keys that a template mentions.
* `Value.AgreeOn`: mappings that agree on some keys, under which there are no functions.
* `functionless_of_throughout`: data without functions.
* `AgreeOn.resolve`, `Frame.find_apart`: **a name**, in such mappings and in chains over them.
* `Apart`: frames and sessions that differ in such mappings only.
* `relates_lookup_apart`, `relates_tree_apart`, `relates_renderText_apart`: names, trees and
  templates.
* `Engine.renderDirectly_unmentioned`: **the main statement.**
-/

namespace Mustache

/-! ### What is mentioned -/

/-- The name in a tag of a variable, a section or a partial. -/
def Token.name? : Token → Option String
  | interpolation _ span | block _ span _ _ | partialTag span _ => some span.value
  | text _ | close _ | comment _ | delimiters _ => none

@[simp] theorem Token.bare_name? (token : Token) : token.bare.name? = token.name? := by
  cases token <;> rfl

/-- **A key that a template mentions**: the first step of the name in one of its tags. -/
def Mentions (delimiters : Delimiters) (template key : String) : Prop :=
  ∃ tree node name rest, parse delimiters template = .ok tree ∧ node ∈ Token.preorder tree ∧
    node.name? = some name ∧ Steps name (key :: rest)

/-- **A template that stands by itself**: no partial is included, and no tag names the
whole view. -/
structure SelfContained (delimiters : Delimiters) (template : String) : Prop where
  partials : ∀ tree span host, parse delimiters template = .ok tree →
    .partialTag span host ∉ Token.preorder tree
  point : ∀ tree node, parse delimiters template = .ok tree → node ∈ Token.preorder tree →
    node.name? ≠ some "."

/-- Whether a node includes nothing, and its name does not name the whole view and has one of some
keys for its first step. -/
def Token.asksOnly (keys : List String) : Token → Bool
  | partialTag _ _ => false
  | node => node.name?.all fun name => name != "." &&
      (if Value.isPath name.toList then Value.segments name.toList else [name]).head?.all
        keys.contains

/-- The name of a node that has been checked. -/
theorem Token.steps_of_asksOnly {keys : List String} {node : Token} {name : String}
    (asks : node.asksOnly keys = true) (own : node.name? = some name) :
    name ≠ "." ∧ ∀ key rest, Steps name (key :: rest) → key ∈ keys := by
  cases node with
  | interpolation escaped span | block inverted span body stop =>
    cases own
    obtain ⟨other, first⟩ := Bool.and_eq_true_iff.mp asks
    refine ⟨bne_iff_ne.mp other, fun key rest steps => ?_⟩
    rw [← Value.steps_iff.mp steps] at first
    exact List.contains_iff_mem.mp first
  | partialTag _ _ => cases asks
  | _ => cases own

/-- **A template whose nodes have been checked** stands by itself and mentions nothing else. -/
theorem selfContained_of_asksOnly {delimiters : Delimiters} {template : String} {keys : List String}
    (checked : (parse delimiters template).toOption.all
      (fun tree => (Token.preorder tree).all (Token.asksOnly keys)) = true) :
    SelfContained delimiters template ∧ ∀ key, Mentions delimiters template key → key ∈ keys := by
  have all : ∀ tree node, parse delimiters template = .ok tree → node ∈ Token.preorder tree →
      node.asksOnly keys = true := by
    intro tree node parsed member
    rw [parsed] at checked
    exact List.all_eq_true.mp checked node member
  refine ⟨⟨fun tree span host parsed member => ?_, fun tree node parsed member own => ?_⟩, ?_⟩
  · cases all tree _ parsed member
  · exact (Token.steps_of_asksOnly (all tree node parsed member) own).1 rfl
  · rintro key ⟨tree, node, name, rest, parsed, member, own, steps⟩
    exact (Token.steps_of_asksOnly (all tree node parsed member) own).2 key rest steps

namespace Value

/-- Nothing that can be called. -/
def isInert (value : Value) : Bool := !value.isCallable

theorem isInert_lenient : Lenient isInert where
  plain {value} plain := by
    cases value with
    | function _ | accessor _ | sectionLambda _ | method _ _ => cases plain
    | _ => rfl
  accessor := nofun
  sectionLambda := nofun
  knot := id

/-- **Data without functions**, with the attributes of the catalogue. -/
theorem functionless_of_throughout (table : Array Recipe) {start : Value → Prop}
    (whole : ∀ value, start value → value.throughout isInert = true) :
    (Recipe.host table).Functionless start := by
  have closes := isInert_lenient.closed.closes (isInert_lenient.keeps table)
  intro value reached
  cases Host.Reaches.least closes (fun _ first => Obtained.whole (whole _ first)) reached with
  | method name _ => rfl
  | whole here =>
    have own := throughout_own here
    cases value with
    | function _ | accessor _ | sectionLambda _ => cases own
    | _ => rfl

/-- What a mapping holds under some keys. -/
def HeldUnder (view : Value) (keys : String → Prop) (held : Value) : Prop :=
  ∃ key, keys key ∧ view.mappingValue? key = some held

/-- **Mappings that agree on some keys**, and nothing that comes of what is under these keys is a
function. -/
structure AgreeOn {σ : Type} (host : Host σ) (keys : String → Prop) (view beside : Value) :
    Prop where
  mapping : ∃ entries, view.opened = .mapping entries
  other : ∃ entries, beside.opened = .mapping entries
  same : ∀ key, keys key → view.mappingValue? key = beside.mappingValue? key
  functionless : host.Functionless (view.HeldUnder keys)

/-- Every name has a first step. -/
theorem exists_first_step (name : String) : ∃ key rest, Steps name (key :: rest) := by
  by_cases dotted : Dotted name
  · obtain ⟨some, _⟩ := Text.splitOn_eq_iff.mp (rfl : Text.splitOn '.' name.toList = _)
    obtain ⟨first, rest, cut⟩ := List.exists_cons_of_ne_nil some
    refine ⟨String.ofList first, rest.map String.ofList, (steps_dotted dotted).mpr ?_⟩
    rw [segments, cut, List.map_cons]
  · exact ⟨name, [], .whole dotted⟩

variable {σ : Type} {host : Host σ} {keys : String → Prop} {view beside : Value}
  (agree : AgreeOn host keys view beside)

include agree

/-- **A name that asks for such a key** has the same in both mappings, and it comes of what is under
the keys. -/
theorem AgreeOn.resolve {name : String}
    (asks : ∀ key rest, Steps name (key :: rest) → keys key) :
    view.resolve host.access name = beside.resolve host.access name ∧
      ∀ value, view.resolve host.access name = .ok (some value) →
        host.Reaches (view.HeldUnder keys) value := by
  have closes := Host.Reaches.closes host (view.HeldUnder keys)
  obtain ⟨key, rest, steps⟩ := exists_first_step name
  have asked := asks key rest steps
  obtain ⟨entries, opened⟩ := agree.mapping
  obtain ⟨others, openedAlso⟩ := agree.other
  obtain ⟨has, get⟩ := property_of_mapping host.access key opened
  obtain ⟨hasAlso, getAlso⟩ := property_of_mapping host.access key openedAlso
  rw [← agree.same key asked] at hasAlso getAlso
  have held : host.Reaches (view.HeldUnder keys) ((view.mappingValue? key).getD null) := by
    cases found : view.mappingValue? key with
    | none => exact .null
    | some held => exact .start ⟨key, asked, found⟩
  by_cases dotted : Dotted name
  · rw [resolve_first dotted steps, resolve_first dotted steps, get, getAlso]
    exact ⟨rfl, fun _ walked => closes.walk held walked⟩
  · obtain ⟨_, rfl, _⟩ := @only_step name key [] rest steps dotted
    rw [resolve_plain dotted, resolve_plain dotted, ownProperty, ownProperty, has, hasAlso, get,
      getAlso]
    refine ⟨rfl, fun value found => ?_⟩
    unfold ifHit at found
    split at found
    · cases found
    · cases found
    · rename_i reading
      cases reading
      split at found
      · cases found
        exact held
      · cases found

end Value

open Value

/-- **A name in chains that end in such mappings.** -/
theorem Frame.find_apart {σ : Type} {host : Host σ} {keys : String → Prop} {view beside : Value}
    (agree : AgreeOn host keys view beside) {name : String}
    (asks : ∀ key rest, Steps name (key :: rest) → keys key) {inner : List Value}
    (whole : ∀ own ∈ inner, host.Reaches (view.HeldUnder keys) own) :
    find host.access name (inner ++ [view]) = find host.access name (inner ++ [beside]) ∧
      ∀ value, find host.access name (inner ++ [view]) = .ok value →
        host.Reaches (view.HeldUnder keys) value := by
  induction inner with
  | nil =>
    obtain ⟨same, reached⟩ := agree.resolve asks
    simp only [List.nil_append, find]
    rw [← same]
    refine ⟨rfl, fun value found => ?_⟩
    split at found
    · cases found
    · rename_i resolved
      cases found
      exact reached value resolved
    · cases found
      exact .missing
  | cons own rest hypothesis =>
    obtain ⟨here, later⟩ := List.forall_mem_cons.mp whole
    obtain ⟨same, reached⟩ := hypothesis later
    simp only [List.cons_append, find]
    rw [← same]
    refine ⟨rfl, fun value found => ?_⟩
    split at found
    · cases found
    · rename_i resolved
      cases found
      exact (Host.Reaches.closes host _).hits here (resolve_hits.mp resolved)
    · exact reached value found

/-! ### Renderings -/

namespace Render

open Mustache.Action

variable {σ : Type} {keys : String → Prop} {view beside : Value}

/-- **Frames and sessions that differ in the two mappings only**, which are the views of the roots.
What was put on top of them, and what is remembered, comes of some values. -/
structure Apart (host : Host σ) (held : Value → Prop) (view beside : Value) (views others : Views)
    (session other : Session σ) : Prop where
  inner : ∃ inner, (∀ own ∈ inner, host.Reaches held own) ∧
    views.view :: views.outer = inner ++ [view] ∧ others.view :: others.outer = inner ++ [beside]
  same : session = other
  cache : session.CacheSound
  memo : ∀ entry ∈ session.memo, host.Reaches held entry.2

theorem framed_apart (host : Host σ) (held : Value → Prop) :
    Framed (host.Reaches held) (Apart host held view beside) where
  push here apart := by
    obtain ⟨inner, whole, chain, beyond⟩ := apart.inner
    exact {
      inner := ⟨_ :: inner, List.forall_mem_cons.mpr ⟨here, whole⟩, congrArg (_ :: ·) chain,
        congrArg (_ :: ·) beyond⟩
      same := by rw [apart.same]
      cache := apart.cache
      memo := nofun }
  pop before after := {
    inner := before.inner
    same := by rw [before.same, after.same]
    cache := after.cache
    memo := before.memo }
  items here := (Host.Reaches.closes host held).items here

/-- What is found alike and is no function becomes the same. -/
theorem settles_of_reached {host : Host σ} {held : Value → Prop}
    (functionless : host.Functionless held) {views others : Views} :
    ∀ raw image, raw = image ∧ host.Reaches held raw → ∀ state,
      SameOutcome (fun _ => True) (fun value image => value = image ∧ host.Reaches held value)
          (Frame.settle host views.view raw state).1 (Frame.settle host others.view image state).1 ∧
        (Frame.settle host views.view raw state).2 =
          (Frame.settle host others.view image state).2 := by
  rintro raw _ ⟨rfl, reached⟩ state
  obtain ⟨settles, whole⟩ :=
    Frame.settle_of_functionless functionless reached views.view others.view state
  rw [← settles]
  refine ⟨?_, rfl⟩
  cases settled : (Frame.settle host views.view raw state).1 with
  | error fault => exact .error trivial
  | ok value => exact .ok ⟨rfl, whole value settled⟩

variable {setting : Setting σ} (agree : AgreeOn setting.host keys view beside)

/-- A name is asked for in such a way that it leads to keys. -/
def Asks (keys : String → Prop) (name : String) : Prop :=
  name ≠ "." ∧ ∀ key rest, Steps name (key :: rest) → keys key

include agree

/-- **A name is found alike**, and remembered alike. -/
theorem lookup_apart {views others : Views} {session other : Session σ}
    (apart : Apart setting.host (view.HeldUnder keys) view beside views others session other)
    {name : String} (asks : Asks keys name) :
    setting.search views.view views.outer session.memo name =
        setting.search others.view others.outer session.memo name ∧
      (∀ value, (setting.search views.view views.outer session.memo name).1 = .ok value →
        setting.host.Reaches (view.HeldUnder keys) value) ∧
      ∀ entry ∈ (setting.search views.view views.outer session.memo name).2,
        setting.host.Reaches (view.HeldUnder keys) entry.2 := by
  obtain ⟨inner, whole, chain, beyond⟩ := apart.inner
  obtain ⟨same, reached⟩ := Frame.find_apart agree asks.2 whole
  unfold Setting.search Frame.lookup
  rw [if_neg asks.1, if_neg asks.1, chain, beyond, ← same]
  refine ⟨rfl, ?_⟩
  cases remembered : session.memo.lookup name with
  | some value =>
    refine ⟨fun other found => ?_, apart.memo⟩
    cases found
    obtain ⟨before, after, cut, _⟩ := List.lookup_eq_some_iff.mp remembered
    exact apart.memo (name, value) (by rw [cut]; simp)
  | none =>
    cases searched : Frame.find setting.host.access name (inner ++ [view]) with
    | error fault => exact ⟨nofun, apart.memo⟩
    | ok value =>
      have found := reached value searched
      refine ⟨fun other same => ?_, List.forall_mem_cons.mpr ⟨found, apart.memo⟩⟩
      cases same
      exact found

/-- **A name stands for the same**, which comes of what is under the keys. -/
theorem relates_lookup_apart {views others : Views} {name : String} (asks : Asks keys name) :
    Relates (Apart setting.host (view.HeldUnder keys) view beside views others) (fun _ => True)
      (fun value image => value = image ∧ setting.host.Reaches (view.HeldUnder keys) value)
      (lookup setting views name) (lookup setting others name) := by
  intro session other apart
  obtain ⟨alike, reached, known⟩ := lookup_apart agree apart asks
  obtain ⟨inner, rfl, sound, _⟩ := apart
  unfold lookup
  rw [outcome_lookupBy, outcome_lookupBy, ← alike]
  generalize setting.search views.view views.outer session.memo name = found at reached known
  obtain ⟨fault | raw, memo⟩ := found
  · exact ⟨.error trivial, inner, rfl, sound, known⟩
  · obtain ⟨same, after⟩ := settles_of_reached agree.functionless raw raw ⟨rfl, reached raw rfl⟩
      session.host
    refine ⟨same, inner, ?_, sound, known⟩
    simp only [after]

/-- **A tree without partials**, whose names ask for the keys. -/
theorem relates_tree_apart {again anew : Views → String → Action σ String} {text : String}
    {tree : List Token}
    (asks : ∀ node ∈ Token.preorder tree, ∀ name, node.name? = some name → Asks keys name)
    (partials : ∀ span host, .partialTag span host ∉ Token.preorder tree) (views others : Views) :
    Relates (Apart setting.host (view.HeldUnder keys) view beside views others) (fun _ => True) Eq
      (renderPieces setting.search setting again (renderExpansion setting again (some text)) views
        tree)
      (renderPieces setting.search setting anew (renderExpansion setting anew (some text)) others
        tree) := by
  have themselves : Token.AllAlike (fun token image => token = image ∧
      token.bare ∈ Token.preorder tree) tree tree :=
    Token.allAlike_of_level (fun _ _ level member => ⟨rfl, level.bare_mem_preorder member⟩) tree
      .root fun _ inside => inside
  refine relates_renderPieces ?_ ?_ ?_ themselves views others
  · rintro escaped span _ ⟨⟨⟩, member⟩ views others
    exact relates_interpolation (fun _ _ => trivial) (setting.alike_refl fun _ => trivial) escaped
      (relates_lookup_apart agree (asks _ member _ rfl)) fun _ _ => And.left
  · rintro inverted span body stop _ _ _ ⟨⟨⟩, member⟩ bodies views others
    refine relates_blockOf (framed_apart setting.host _) trivial
      (relates_lookup_apart agree (asks _ member _ rfl)) bodies fun _ value here _ => ?_
    exact relates_renderExpansion_of_not trivial (agree.functionless value here)
  · rintro span host _ _ ⟨⟨⟩, member⟩ _ _
    exact absurd member (partials span host)

omit agree in
/-- **A template that stands by itself**, and the mappings agree on what it mentions. -/
theorem relates_renderText_apart {delimiters : Delimiters} {template : String}
    (resolved : setting.tags.resolve = .ok delimiters)
    (contained : SelfContained delimiters template)
    (agree : AgreeOn setting.host (Mentions delimiters template) view beside) (depth : Nat)
    (views others : Views) :
    Relates (Apart setting.host (view.HeldUnder (Mentions delimiters template)) view beside views
        others) (fun _ => True) Eq
      (renderText setting depth views template) (renderText setting depth others template) := by
  cases depth with
  | zero => exact relates_throw trivial
  | succ depth =>
    rw [renderText_succ resolved, renderText_succ resolved]
    have parses : Ensures (fun session : Session σ => session.CacheSound ∧ ∀ entry ∈ session.memo,
          setting.host.Reaches (view.HeldUnder (Mentions delimiters template)) entry.2)
        (fun tree => parse delimiters template = .ok tree.tokens)
        (Action.parse delimiters template) :=
      ensures_parse (fun _ kept => kept.1) (fun _ _ kept sound same => ⟨sound, same ▸ kept.2⟩)
        delimiters template
    refine relates_bind (relates_of_ensures
      (fun _ _ apart => ⟨apart.same, apart.cache, apart.memo⟩)
      (fun _ _ _ apart kept => ⟨apart.inner, rfl, kept.1, kept.2⟩) parses) fun tree _ same => ?_
    obtain ⟨rfl, parsed⟩ := same
    refine relates_body (relates_tree_apart agree ?_
      (fun span host => contained.partials _ span host parsed) views others) trivial
    exact fun node member name own =>
      ⟨fun same => contained.point _ node parsed member (same ▸ own), fun key rest steps =>
        ⟨_, node, name, rest, parsed, member, own, steps⟩⟩

end Render

namespace Engine

open Mustache.Action Mustache.Render

variable {σ : Type}

/-- **What a template does not mention makes no difference.** A template stands by itself under the
delimiters of a configuration, and two mappings agree on the keys that it mentions; nothing that
comes of what is under these keys is a function, whatever the attributes and methods of the values
are. An engine in use renders it with the one or the other to the same, or to the same fault,
whatever the escape is, and the same engine is left. -/
theorem renderDirectly_unmentioned {engine : Engine σ} (reached : engine.Reached) (host : Host σ)
    (partials : Partials σ) (config : ConfigSource) {template : String} {view beside : Value}
    (contained : ∀ given delimiters, RenderConfig.coerce config = .ok given →
      given.resolvedTags.resolve = .ok delimiters → SelfContained delimiters template)
    (agree : ∀ given delimiters, RenderConfig.coerce config = .ok given →
      given.resolvedTags.resolve = .ok delimiters →
      AgreeOn host (Mentions delimiters template) view beside) :
    engine.renderDirectly host template ⟨view, []⟩ partials config =
      engine.renderDirectly host template ⟨beside, []⟩ partials config := by
  cases coerced : RenderConfig.coerce config with
  | error fault =>
    unfold renderDirectly
    rw [coerced]
    rfl
  | ok given =>
    rw [renderDirectly_eq engine host template _ partials coerced,
      renderDirectly_eq engine host template _ partials coerced]
    cases resolved : given.resolvedTags.resolve with
    | error fault =>
      have tags : (setting host partials given).tags.resolve = .error fault := resolved
      unfold depthLimit
      rw [renderText_unresolved tags, renderText_unresolved tags]
    | ok delimiters =>
      have start : Apart host (view.HeldUnder (Mentions delimiters template)) view beside
          ⟨view, []⟩ ⟨beside, []⟩ { engine.session with memo := [] }
          { engine.session with memo := [] } :=
        ⟨⟨[], nofun, rfl, rfl⟩, rfl, cacheSound_of_reached reached, nofun⟩
      have tags : (setting host partials given).tags.resolve = .ok delimiters := resolved
      obtain ⟨same, after⟩ := relates_renderText_apart tags
        (contained given delimiters coerced resolved) (agree given delimiters coerced resolved)
        depthLimit _ _ _ _ start
      simp only [same.eq, after.same]

/-- A section with a name from within, a method of a text of the root, and an inverted section with
a path. -/
def mentioningTemplate : String :=
  "\x7b\x7b#a\x7d\x7d\x7b\x7bb.c\x7d\x7d\x7b\x7bx.upper\x7d\x7d\x7b\x7b/a\x7d\x7d" ++
    "\x7b\x7b^z\x7d\x7d\x7b\x7ba.b.c\x7d\x7d\x7b\x7b/z\x7d\x7d"

/-- What the template mentions and there is. -/
def mentionedEntries : List (Value × Value) :=
  [(.text "a", .mapping [(.text "b", .mapping [(.text "c", .ofInt 1)])]), (.text "x", .text "t")]

theorem renderDirectly_unmentioned_secret :
    let engine : Engine Counts := new [] (some (.empty true))
    let host := Recipe.host #[.counter]
    let secret : Value := .accessor ⟨0, ⟨"Fn", "count"⟩, 1⟩
    let view : Value := .mapping (mentionedEntries ++ [(.text "secret", secret)])
    let beside : Value := .mapping ((.text "c", .text "no") :: mentionedEntries)
    engine.Reached ∧ SelfContained .standard mentioningTemplate ∧
      AgreeOn host (Mentions .standard mentioningTemplate) view beside ∧
      (engine.renderDirectly host mentioningTemplate ⟨view, []⟩ .absent (.ready {})).1.toOption =
        some "1T1" ∧
      (engine.renderDirectly host mentioningTemplate ⟨beside, []⟩ .absent (.ready {})).1.toOption =
        some "1T1" := by
  intro engine host secret view beside
  have reached : engine.Reached := .new [] (some true)
  have checked : (Mustache.parse .standard mentioningTemplate).toOption.all
      (fun tree => (Token.preorder tree).all (Token.asksOnly ["a", "b", "x", "z"])) = true := by
    decide +kernel
  obtain ⟨contained, mentioned⟩ := selfContained_of_asksOnly checked
  have agree : AgreeOn host (Mentions .standard mentioningTemplate) view beside := by
    refine ⟨⟨_, rfl⟩, ⟨_, rfl⟩, fun key asked => ?_, functionless_of_throughout #[.counter] ?_⟩
    · have same : ∀ key ∈ ["a", "b", "x", "z"],
          view.mappingValue? key = beside.mappingValue? key := by
        simp only [List.forall_mem_cons]
        exact ⟨rfl, rfl, rfl, rfl, nofun⟩
      exact same key (mentioned key asked)
    · rintro held ⟨key, asked, found⟩
      have inert : ∀ key ∈ ["a", "b", "x", "z"], ∀ held ∈ view.mappingValue? key,
          held.throughout isInert = true := by decide
      exact inert key (mentioned key asked) held found
  have same : engine.renderDirectly host mentioningTemplate ⟨view, []⟩ .absent (.ready {}) =
      engine.renderDirectly host mentioningTemplate ⟨beside, []⟩ .absent (.ready {}) := by
    refine renderDirectly_unmentioned reached host .absent (.ready {}) ?_ ?_
    · intro given delimiters coerced resolved
      cases coerced
      cases resolved
      exact contained
    · intro given delimiters coerced resolved
      cases coerced
      cases resolved
      exact agree
  have output : (engine.renderDirectly host mentioningTemplate ⟨view, []⟩ .absent
      (.ready {})).1.toOption = some "1T1" := by
    decide +kernel
  exact ⟨reached, contained, agree, output, same ▸ output⟩

end Engine

end Mustache
