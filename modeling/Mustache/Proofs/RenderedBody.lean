import Mustache.Proofs.BodyTree
import Mustache.Proofs.CachesSideBySide
import Mustache.View.Recipe

/-!
**A function that has its body rendered.**

A function of a section may do nothing but have its raw body rendered and answer what comes of it.
The text is then parsed with the delimiters of the rendering, not with those in force at the
section. Where these are the same, the section comes to what it comes to when its value is true: the
raw body, parsed once more, renders as the tokens in the tree of the template do.

* `agree_alikeOn`, `agree_alike`: trees that are alike come to the same.
* `agree_renderText_of_level`: a template comes to what its tree comes to.
* `RendersBody`, `outcome_rendered`: what such a function comes to.
* `agree_rawBody`: a template whose tree is like the body of a section.
* `renderExpansion_rendered`: **the main statement.**
* `rendered_otherwise`: behind a change of the delimiters it is not so.
-/

namespace Mustache

variable {σ : Type}

namespace Render

open Mustache.Action

variable {setting : Setting σ}

/-- **Trees that are alike come to the same**, each with the text that it was made of, provided that
their partials do. -/
theorem agree_alikeOn {text other : String} {pair : Token → Token → Prop} {depth : Nat}
    (tags : ∀ token image, pair token image → Token.SameTag text other token image)
    (partials : ∀ span host place line, pair (.partialTag span host) (.partialTag place line) →
      ∀ views beside, cachePairing.Agree (fun _ => True) views beside
        (renderPartial setting (renderText setting depth views) span.value host)
        (renderPartial setting (renderText setting depth beside) place.value line))
    {body tree : List Token} (alike : Token.AllAlike pair body tree) (views beside : Views) :
    cachePairing.Agree (fun _ => True) views beside
      (renderPieces setting.search setting (renderText setting depth)
        (renderExpansion setting (renderText setting depth) (some text)) views body)
      (renderPieces setting.search setting (renderText setting depth)
        (renderExpansion setting (renderText setting depth) (some other)) beside tree) := by
  refine relates_renderPieces ?_ ?_ ?_ alike views beside
  · intro escaped span place here views beside
    have same : span.value = place.value := (tags _ _ here).1
    refine relates_interpolation (fun _ _ => trivial) (setting.alike_refl fun _ => trivial) escaped
      ?_ fun _ _ => id
    rw [← same]
    exact agree_lookup_beside views beside span.value
  · intro inverted span body stop place inner limit here bodies views beside
    obtain ⟨same, raw⟩ := tags _ _ here
    change span.value = place.value at same
    refine relates_block trivial ?_ bodies fun _ value => ?_
    · rw [← same]
      exact agree_lookup_beside views beside span.value
    · refine relates_renderExpansion (cachePairing_coupling views beside) (fun _ _ => trivial)
        (agree_renderText_beside depth views beside) (fun function body host _ same => ?_) value raw
      subst same
      exact Script.alike_refl (fun _ => trivial) _
  · intro span host place line here views beside
    unfold renderToken
    exact partials span host place line here views beside

/-- Trees that are alike come to the same without partials. -/
theorem agree_alike {text other : String} {body tree : List Token}
    (alike : Token.AllAlike (Token.SameTag text other) body tree)
    (absent : hasPartials setting = false) (depth : Nat) (views beside : Views) :
    cachePairing.Agree (fun _ => True) views beside
      (renderPieces setting.search setting (renderText setting depth)
        (renderExpansion setting (renderText setting depth) (some text)) views body)
      (renderPieces setting.search setting (renderText setting depth)
        (renderExpansion setting (renderText setting depth) (some other)) beside tree) := by
  refine agree_alikeOn (fun _ _ => id) (fun span host place line _ views beside => ?_) alike views
    beside
  unfold renderPartial
  rw [absent]
  exact relates_pure rfl

/-- The run of a function that has its body rendered and answers what comes of it. -/
def RendersBody (host : Host σ) (function : HostFunction) : Prop :=
  ∀ body state, host.begin function body state =
    .rendering body state fun result after => .answer (.text result) after

/-- The run of such a function comes to its text rendered. -/
theorem outcome_runScript_rendering (render : String → Action σ String) (text : String)
    (session : Session σ) :
    (runScript render (.rendering text session.host fun result after =>
        .answer (.text result) after)).outcome session =
      (Value.text <$> render text).outcome session := by
  have started : ((Action.withHost fun _ => (.ok (), session.host) : Action σ Unit)).outcome
      session = (.ok (), session) := rfl
  have attempted : (Action.attempt (render text)).outcome session =
      (.ok ((render text).outcome session).1, ((render text).outcome session).2) := rfl
  unfold Script.rendering runScript
  rw [outcome_bind, started, ← bind_pure_comp, outcome_bind]
  simp only
  rw [outcome_bind, attempted]
  rcases (render text).outcome session with ⟨fault | content, after⟩
  · rfl
  · rfl

/-- **Such a function comes to its raw body rendered.** -/
theorem outcome_rendered {function : HostFunction} (renders : RendersBody setting.host function)
    (again : Views → String → Action σ String) (template : String) (views : Views) (span : Span)
    (stop : Int) (session : Session σ) :
    (renderExpansion setting again (some template) views span stop
        (.sectionLambda function)).outcome session =
      (Piece.text <$> again views (rawBody template span.stop stop)).outcome session := by
  have asked : (expand setting (again views) (.sectionLambda function)
      (rawBody template span.stop stop)).outcome session =
        (Value.text <$> again views (rawBody template span.stop stop)).outcome session := by
    rw [← outcome_runScript_rendering, ← renders]
    rfl
  unfold renderExpansion
  simp only
  rw [outcome_bind, asked, ← bind_pure_comp, outcome_bind, ← bind_pure_comp, outcome_bind]
  rcases (again views (rawBody template span.stop stop)).outcome session with
    ⟨fault | content, after⟩
  · rfl
  · rfl

/-- **What comes to the same as the tree of a template** comes to the same as the template. -/
theorem agree_renderText_of_level {delimiters : Delimiters} {text : String} {tree : List Token}
    (resolved : setting.tags.resolve = .ok delimiters) (parsed : parse delimiters text = .ok tree)
    {step : Action σ String} {depth : Nat} {views beside : Views}
    (level : cachePairing.Agree (fun _ => True) views beside step
      (renderLevel (renderExpansion setting) setting (renderText setting depth) (some text) beside
        tree)) :
    cachePairing.Agree (fun _ => True) views beside step
      (renderText setting (depth + 1) beside text) := by
  rintro session other ⟨same, memo, together⟩
  obtain ⟨after, remembered, host, kept, outcome⟩ :=
    outcome_renderText_of_parse resolved together.otherSound parsed depth beside
  rw [outcome]
  exact level session after
    ⟨same, memo.trans remembered.symm, together.host.trans host.symm, together.sound, kept⟩

/-- A section whose value is true comes to what a template comes to that has a tree like that of its
body. -/
theorem agree_rawBody {delimiters : Delimiters} {text template : String}
    {body tree : List Token} (resolved : setting.tags.resolve = .ok delimiters)
    (absent : hasPartials setting = false) (parsed : parse delimiters text = .ok tree)
    (alike : Token.AllAlike (Token.SameTag template text) body tree) (depth : Nat)
    (views beside : Views) :
    cachePairing.Agree (fun _ => True) views beside
      (renderLevel (renderExpansion setting) setting (renderText setting depth) (some template)
        views body)
      (renderText setting (depth + 1) beside text) :=
  agree_renderText_of_level resolved parsed
    (relates_body (agree_alike alike absent depth views beside) trivial)

/-- **A function that has its body rendered comes to what its section comes to when its value is
true**, if the delimiters in force at the section are those of the rendering, there are no partials,
and the body holds no line feed, but a variable or text that is not blank. It takes one level more,
for the text that is rendered within. -/
theorem renderExpansion_rendered {delimiters : Delimiters} {template : String}
    {tree siblings body : List Token} {span : Span} {stop : Int} {function : HostFunction}
    (parsed : parse delimiters template = .ok tree) (level : Token.Level tree siblings)
    (member : .block false span body stop ∈ siblings)
    (force : ∀ tokens before after, tokenize delimiters template = .ok tokens →
      tokens = before ++ .block false span [] Token.openStop :: after →
      delimiters.after? before = some delimiters)
    (unbroken : '\n' ∉ (rawBody template span.stop stop).toList)
    (inked : ∃ node ∈ Token.preorder body, node.isSolid = true)
    (resolved : setting.tags.resolve = .ok delimiters) (absent : hasPartials setting = false)
    (renders : RendersBody setting.host function) (depth : Nat) (views : Views) :
    cachePairing.Agree (fun _ => True) views views
      (Piece.text <$> renderLevel (renderExpansion setting) setting (renderText setting depth)
        (some template) views body)
      (renderExpansion setting (renderText setting (depth + 1)) (some template) views span stop
        (.sectionLambda function)) := by
  obtain ⟨tokens, read, rfl⟩ := parse_eq_ok_iff.mp parsed
  obtain ⟨images, bodyParsed, alike⟩ :=
    parse_rawBody read level member (fun before after => force tokens before after read) unbroken
      inked
  have agree : cachePairing.Agree (fun _ => True) views views
      (Piece.text <$> renderLevel (renderExpansion setting) setting (renderText setting depth)
        (some template) views body)
      (Piece.text <$> renderText setting (depth + 1) views (rawBody template span.stop stop)) :=
    relates_map (agree_rawBody resolved absent bodyParsed alike depth views views)
      fun _ _ same => congrArg _ same
  intro session other together
  rw [outcome_rendered renders]
  exact agree session other together

/-- A section behind two changes of the delimiters, the second of which takes the first back. -/
def restoredTemplate : String :=
  "\x7b\x7b=<% %>=\x7d\x7d<%=\x7b\x7b \x7d\x7d=%>" ++
    "\x7b\x7b#f\x7d\x7d\x7b\x7bx\x7d\x7d a\x7b\x7b/f\x7d\x7d"

/-- What is set for a function that has its body rendered. -/
def renderedSetting : Setting Counts :=
  { host := Recipe.host #[.rendered], partials := .absent, tags := .checked .standard,
    escape := .standard }

/-- The only node of a tree, if that is a section: its tag, where its closing tag starts, and
whether its body holds a variable or text that is not blank. -/
def loneSection? : List Token → Option (Span × Int × Bool)
  | [.block false span body stop] => some (span, stop, (Token.preorder body).any Token.isSolid)
  | _ => none

theorem renderExpansion_rendered_restored :
    let function : HostFunction := ⟨0, ⟨"Fn", "render"⟩, 2⟩
    let views : Views := ⟨.mapping [(.text "x", .text "1")], []⟩
    let expanded := renderExpansion renderedSetting (renderText renderedSetting 2)
      (some restoredTemplate) views ⟨"f", 22, 28⟩ 35 (.sectionLambda function)
    ∃ body, parse .standard restoredTemplate = .ok [.block false ⟨"f", 22, 28⟩ body 35] ∧
      cachePairing.Agree (fun _ => True) views views
        (Piece.text <$> renderLevel (renderExpansion renderedSetting) renderedSetting
          (renderText renderedSetting 1) (some restoredTemplate) views body) expanded ∧
      (expanded.outcome { host := [] }).1.toOption = some (.text "1 a") := by
  intro function views expanded
  have sorts : (parse .standard restoredTemplate).toOption.map loneSection? =
      some (some (⟨"f", 22, 28⟩, 35, true)) := by decide +kernel
  obtain ⟨tree, parsed, found⟩ := exists_ok_of_toOption_map sorts
  have forced : (tokenize .standard restoredTemplate).toOption.map (fun tokens =>
      (List.range tokens.length).all fun place =>
        (tokens[place]?.map Token.kind ≠ some .plainSection ∨
          Delimiters.standard.after? (tokens.take place) = some .standard : Bool)) =
      some true := by decide +kernel
  have rendered : (expanded.outcome { host := [] }).1.toOption = some (.text "1 a") := by
    decide +kernel
  unfold loneSection? at found
  split at found
  · rename_i span body stop
    obtain ⟨rfl, rfl, inked⟩ : span = ⟨"f", 22, 28⟩ ∧ stop = 35 ∧
        (Token.preorder body).any Token.isSolid = true := by simpa using found
    refine ⟨body, parsed, ?_, rendered⟩
    refine renderExpansion_rendered parsed .root List.mem_cons_self ?_ (by decide +kernel)
      (List.any_eq_true.mp inked) rfl rfl (fun _ _ => rfl) 1 views
    rintro tokens before after read rfl
    rw [read] at forced
    have here := List.all_eq_true.mp (Option.some.inj forced) before.length (by simp)
    simpa [Token.kind] using here
  · cases found

/-- A section behind a change of the delimiters. -/
def changedTemplate : String := "\x7b\x7b=<% %>=\x7d\x7d<%#f%><%x%>a<%/f%>"

/-- A view with a variable and the value of the section. -/
def changedView (value : Value) : Value := .mapping [(.text "x", .text "1"), (.text "f", value)]

/-- **Behind a change of the delimiters** the raw body is parsed with those of the rendering, so
that its tags are not seen. -/
theorem rendered_otherwise :
    let rendered := fun value => ((renderText renderedSetting 2 ⟨changedView value, []⟩
      changedTemplate).outcome { host := [] }).1.toOption
    rendered (.bool true) = some "1a" ∧
      rendered (.sectionLambda ⟨0, ⟨"Fn", "render"⟩, 2⟩) = some "<%x%>a" := by
  decide +kernel

end Render

end Mustache
