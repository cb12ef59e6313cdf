import Mustache.Proofs.CatalogueValues
import Mustache.Proofs.OneLineTexts
import Mustache.Proofs.RenderingsSideBySide

/-!
**Views of texts of one line.**

Wherever the rendering of a tree comes with such views, the name of a section comes to no function,
and for what the name of a variable comes to, a text of one line is written. It is so, whatever the
tree is, with data of which no text of a scalar, no name of a clock, of an attribute or of a class
and no shown key holds a line feed, if their attributes are those of the catalogue. Texts under
which values are stored need not be of one line, as they are quoted wherever they are shown.

* `Host.Visits`: where a rendering may come.
* `Host.OneLine`: such views, for a tree.
* `Value.isOneLine`: a test that all values of such data pass **throughout**.
* `isOneLine_closed`, `isOneLine_fits`, `isOneLine_answer`: it passes on to whatever comes of a
  value.
* `oneLine_shown`, `oneLine_knotShown`: values inside other ones.
* `oneLine_outputText`: what a variable writes.
* `oneLine_of_throughout`: **data of texts of one line.**
-/

namespace Mustache

open Text

/-- **Where a rendering may come**: to the tree with the views at the start, and from a level of the
tree to the bodies of its sections, in the frame of the section or with what it opens put on
top. -/
inductive Host.Visits {σ : Type} (host : Host σ) (tree : List Token) (start : Views) :
    List Token → Views → Prop
  | root : Visits host tree start tree start
  | stay {siblings body : List Token} {views : Views} {inverted : Bool} {span : Span} {stop : Int}
      {value : Value} : Visits host tree start siblings views →
      .block inverted span body stop ∈ siblings →
      Frame.Finds host views.view views.outer span.value value → Render.Stays inverted value →
      Visits host tree start body views
  | push {siblings body : List Token} {views : Views} {span : Span} {stop : Int}
      {value own : Value} : Visits host tree start siblings views →
      .block false span body stop ∈ siblings →
      Frame.Finds host views.view views.outer span.value value → Render.Opens value own →
      Visits host tree start body (views.push own)

/-- **Views of texts of one line**, for a tree: wherever its rendering may come, no section comes to
a function, and what a variable comes to is written as a text of one line. -/
structure Host.OneLine {σ : Type} (host : Host σ) (tree : List Token) (start : Views) : Prop where
  functionless {siblings body : List Token} {views : Views} {span : Span} {stop : Int}
    {value : Value} : host.Visits tree start siblings views →
    .block false span body stop ∈ siblings →
    Frame.Finds host views.view views.outer span.value value → value.isFunction = false
  written {siblings : List Token} {views : Views} {escaped : Bool} {span : Span} {value : Value}
    {content : String} : host.Visits tree start siblings views →
    .interpolation escaped span ∈ siblings →
    Frame.Finds host views.view views.outer span.value value → value.outputText = .ok content →
    Text.OneLine content

/-- Wherever a rendering may come, the views come of those at the start. -/
theorem Host.Visits.reaches {σ : Type} {host : Host σ} {tree siblings : List Token}
    {start views : Views} (functionless : host.Functionless (· ∈ start.view :: start.outer))
    (visits : host.Visits tree start siblings views) :
    ∀ own ∈ views.view :: views.outer, host.Reaches (· ∈ start.view :: start.outer) own := by
  induction visits with
  | root => exact fun _ => .start
  | stay _ _ _ _ hypothesis => exact hypothesis
  | push _ _ finds opens hypothesis =>
    have found := finds.reaches functionless hypothesis
    refine List.forall_mem_cons.mpr ⟨?_, hypothesis⟩
    cases opens with
    | itself _ _ => exact found
    | item _ _ member => exact (Host.Reaches.closes host _).items found _ member

namespace Value

/-- **What tells such data apart**: nothing can be called; the text of a scalar, the name of a clock
and the names of attributes and of classes are of one line; and so is what keys of mappings are
shown by. Bytes that encode no text have none. -/
def isOneLine : Value → Bool
  | int _ (some own) => decide (OneLine own.text)
  | text content => decide (OneLine content)
  | bytes content => (Utf8.decode content).toOption.all fun text => decide (OneLine text)
  | items (.row _ typeName) _ => decide (OneLine typeName)
  | mapping entries => (entries.map Prod.fst).all fun key => decide (OneLine key.shown)
  | object attributes => attributes.all fun entry => decide (OneLine entry.1)
  | thing own => decide (OneLine own.guise.text) && decide (OneLine own.shown)
  | moment time => time.zone.all fun clock => decide (OneLine clock.name)
  | zone clock => decide (OneLine clock.name)
  | function _ | accessor _ | sectionLambda _ | method _ _ => false
  | _ => true

theorem isOneLine_bytes_iff {content : List UInt8} :
    (bytes content).isOneLine = true ↔ ∀ text, Utf8.decode content = .ok text → OneLine text := by
  show (Utf8.decode content).toOption.all (fun text => decide (OneLine text)) = true ↔ _
  cases Utf8.decode content with
  | error fault => exact ⟨fun _ => nofun, fun _ => rfl⟩
  | ok text =>
    refine ⟨fun one other same => ?_, fun one => decide_eq_true (one text rfl)⟩
    cases same
    exact of_decide_eq_true one

theorem isOneLine_moment_iff {time : Moment} :
    (moment time).isOneLine = true ↔ ∀ clock, time.zone = some clock → OneLine clock.name := by
  show time.zone.all (fun clock => decide (OneLine clock.name)) = true ↔ _
  cases time.zone with
  | none => exact ⟨fun _ => nofun, fun _ => rfl⟩
  | some clock =>
    refine ⟨fun one other same => ?_, fun one => decide_eq_true (one clock rfl)⟩
    cases same
    exact of_decide_eq_true one

theorem isFunction_eq_false {value : Value} (one : value.isOneLine = true) :
    value.isFunction = false := by
  cases value with
  | function _ | accessor _ | sectionLambda _ => cases one
  | _ => rfl

/-! ### What methods answer -/

section Answered

variable {value : Value} {name : String}

theorem isOneLine_text {content : String} (one : OneLine content) :
    (text content).throughout isOneLine = true := decide_eq_true one

theorem isOneLine_answerOfText {content : String} (one : OneLine content)
    (answered : Catalogue.answerOfText content name = .ok value) :
    value.throughout isOneLine = true := by
  unfold Catalogue.answerOfText at answered
  split at answered
  case h_1 => cases answered; exact isOneLine_text one.upper
  case h_2 => cases answered; exact isOneLine_text one.lower
  case h_3 => cases answered; exact isOneLine_text one.title
  case h_4 => cases answered; exact isOneLine_text one.swapCase
  case h_5 => cases answered; exact isOneLine_text one.strip
  case h_6 =>
    cases answered
    refine Bool.and_eq_true_iff.mpr ⟨rfl, allThroughout_iff.mpr fun word member => ?_⟩
    obtain ⟨word, among, rfl⟩ := List.mem_map.mp member
    exact isOneLine_text (one.words word among)
  case h_7 => cases answered; rfl
  case h_8 => cases answered; exact isOneLine_bytes_iff.mpr fun _ => one.decode_encode
  case h_9 => cases answered

theorem isOneLine_answerOfBytes {content : List UInt8}
    (one : ∀ text, Utf8.decode content = .ok text → OneLine text)
    (answered : Catalogue.answerOfBytes content name = .ok value) :
    value.throughout isOneLine = true := by
  unfold Catalogue.answerOfBytes at answered
  split at answered
  case h_1 =>
    cases answered
    refine isOneLine_bytes_iff.mpr fun text decoded => ?_
    rw [Utf8.decode_upper] at decoded
    cases before : Utf8.decode content with
    | error fault =>
      rw [before] at decoded
      cases decoded
    | ok other =>
      rw [before] at decoded
      cases decoded
      exact (one other before).upper
  case h_2 => cases answered; exact isOneLine_text (oneLine_byteDigits content)
  case h_3 =>
    split at answered
    · rename_i text decoded
      cases answered
      exact isOneLine_text (one text decoded)
    · cases answered
  case h_4 => cases answered

theorem isOneLine_answerOfDay {receiver : Value} {date : Date} {text words : String}
    (whole : receiver.throughout isOneLine = true) (first : OneLine text) (second : OneLine words)
    (answered : Catalogue.answerOfDay receiver date text words name = .ok value) :
    value.throughout isOneLine = true := by
  unfold Catalogue.answerOfDay at answered
  split at answered
  case h_1 => cases answered; exact isOneLine_text first
  case h_2 => cases answered; exact isOneLine_text second
  case h_6 => cases answered; exact whole
  case h_7 => cases answered
  all_goals
    cases answered
    rfl

theorem isOneLine_answerOfMoment {time : Moment}
    (whole : (moment time).throughout isOneLine = true)
    (answered : Catalogue.answerOfMoment time name = .ok value) :
    value.throughout isOneLine = true := by
  unfold Catalogue.answerOfMoment at answered
  split at answered
  · cases answered
    rfl
  · cases answered
    cases named : time.zone with
    | none => rfl
    | some clock => exact isOneLine_text (isOneLine_moment_iff.mp whole clock named)
  · cases answered
    rfl
  · exact isOneLine_answerOfDay whole (time.oneLine_text (by decide)) time.oneLine_words answered

/-- **What a method answers** is of one line as well. -/
theorem isOneLine_answer {receiver : Value} (whole : receiver.throughout isOneLine = true)
    (answered : Catalogue.answer receiver name = .ok value) :
    value.throughout isOneLine = true := by
  unfold Catalogue.answer at answered
  split at answered
  case h_1 => exact isOneLine_answerOfText (of_decide_eq_true whole) answered
  case h_2 => exact isOneLine_answerOfBytes (isOneLine_bytes_iff.mp whole) answered
  case h_3 =>
    unfold Catalogue.answerOfInt at answered
    split at answered <;> cases answered <;> rfl
  case h_4 =>
    unfold Catalogue.answerOfFloat at answered
    split at answered <;> cases answered
    · rfl
    · exact isOneLine_text (oneLine_of_numeric (Binary64.numeric_hexText _))
  case h_5 =>
    exact isOneLine_answerOfDay whole (Date.oneLine_text _) (Date.oneLine_words _ (by decide))
      answered
  case h_6 => exact isOneLine_answerOfMoment whole answered
  case h_7 => cases answered

end Answered

/-- **The test is closed.** -/
theorem isOneLine_closed : Closed isOneLine where
  null := rfl
  missing := rfl
  number _ := rfl
  items {form _ _} formed := by
    cases form with
    | row _ _ => exact formed
    | _ => rfl
  entries {entries others} whole same := by
    show (others.map Prod.fst).all (fun key => decide (OneLine key.shown)) = true
    rw [same]
    exact whole
  accessor := nofun
  sectionLambda := nofun
  knot := id

theorem isOneLine_fits : Catalogue.Fits isOneLine where
  bare {value} bare := by
    cases value with
    | int _ shown => cases shown <;> first | rfl | cases bare
    | moment time =>
      refine isOneLine_moment_iff.mpr fun clock named => ?_
      rw [Option.isNone_iff_eq_none.mp bare] at named
      cases named
    | _ => first | rfl | cases bare
  clock whole named := decide_eq_true (isOneLine_moment_iff.mp whole _ named)

/-! ### Shown values -/

/-- One of a knot whose brackets and parts are of one line. -/
def KnotBody.IsOneLine (body : KnotBody) : Prop :=
  OneLine body.opening ∧ OneLine body.closing ∧ ∀ part ∈ body.parts, OneLine part.label ∧
    ∀ content, part.content = .inl content → OneLine content

/-- **One of a knot**, written out or hinted at. -/
theorem oneLine_knotShown {bodies : List KnotBody} (each : ∀ body ∈ bodies, body.IsOneLine)
    (depth : Nat) (around : List Nat) (place : Nat) :
    OneLine (knotShown bodies depth around place) := by
  induction depth generalizing around place with
  | zero => exact allOf_empty
  | succ depth hypothesis =>
    unfold knotShown
    split
    · exact allOf_empty
    · rename_i body found
      obtain ⟨opening, closing, parts⟩ := each body (List.mem_of_getElem? found)
      have points : OneLine "..." := by decide
      refine allOf_ite ((opening.append points).append closing) ?_
      refine oneLine_bracketed opening closing fun text member => ?_
      obtain ⟨part, inside, rfl⟩ := List.mem_map.mp member
      obtain ⟨label, own⟩ := parts part inside
      refine label.append ?_
      cases content : part.content with
      | inl form => exact own form content
      | inr other => exact hypothesis (place :: around) other

theorem oneLine_partShown {value : Value} {form content : String} (one : OneLine form)
    (own : partShown value form = .inl content) : OneLine content := by
  unfold partShown at own
  split at own
  · cases own
  · cases own
    exact one

mutual

/-- **A value inside another one** is shown on one line. -/
theorem oneLine_shown : (value : Value) → value.throughout isOneLine = true → OneLine value.shown
  | null, _ => by decide
  | missing, _ => by decide
  | bool flag, _ => allOf_ite (by decide) (by decide)
  | int number _, _ => oneLine_int number
  | float number, _ => oneLine_of_numeric number.numeric_text
  | text content, _ => oneLine_quoted content
  | bytes content, _ => by
    have mark : OneLine "b" := by decide
    exact mark.append (oneLine_quotedBytes content)
  | buffer content, _ => by
    have opening : OneLine "bytearray(b" := by decide
    exact (opening.append (oneLine_quotedBytes content)).append (by decide)
  | items form values, whole => by
    obtain ⟨formed, inside⟩ := Bool.and_eq_true_iff.mp whole
    have each := oneLine_shownItems values inside
    cases form with
    | list => exact oneLine_bracketed (by decide) (by decide) each
    | row _ _ =>
      have opening := (of_decide_eq_true formed).append (by decide : OneLine "([")
      exact oneLine_bracketed opening (by decide) each
    | tuple =>
      match values, each with
      | [], _ => decide
      | [value], each =>
        have opening : OneLine "(" := by decide
        exact (opening.append (each _ List.mem_cons_self)).append (by decide)
      | _ :: _ :: _, each => exact oneLine_bracketed (by decide) (by decide) each
  | range start stop step, _ => oneLine_rangeShown start stop step
  | mapping entries, whole => by
    obtain ⟨keys, inside⟩ := Bool.and_eq_true_iff.mp whole
    exact oneLine_bracketed (by decide) (by decide) (oneLine_shownEntries entries keys inside)
  | object attributes, whole => by
    obtain ⟨names, inside⟩ := Bool.and_eq_true_iff.mp whole
    exact oneLine_bracketed (by decide) (by decide)
      (oneLine_shownAttributes attributes names inside)
  | thing own, whole => of_decide_eq_true (Bool.and_eq_true_iff.mp whole).2
  | date day, _ => oneLine_dateShown day
  | moment time, _ => oneLine_momentShown time
  | zone clock, _ => oneLine_zoneShown clock
  | knot bodies place, whole =>
    oneLine_knotShown (oneLine_shownBodies bodies (Bool.and_eq_true_iff.mp whole).2) _ _ _
  | back _, _ => by
    have points : OneLine "..." := by decide
    exact points
  | function _, whole | accessor _, whole | sectionLambda _, whole | method _ _, whole => by
    cases whole

theorem oneLine_shownItems : (values : List Value) → allThroughout isOneLine values = true →
    ∀ part ∈ shownItems values, OneLine part
  | [], _ => nofun
  | value :: rest, whole => by
    obtain ⟨here, later⟩ := Bool.and_eq_true_iff.mp whole
    exact List.forall_mem_cons.mpr ⟨oneLine_shown value here, oneLine_shownItems rest later⟩

theorem oneLine_shownEntries : (entries : List (Value × Value)) →
    (mapping entries).isOneLine = true → entriesThroughout isOneLine entries = true →
    ∀ part ∈ shownEntries entries, OneLine part
  | [], _, _ => nofun
  | (key, value) :: rest, keys, whole => by
    obtain ⟨key, others⟩ := Bool.and_eq_true_iff.mp keys
    obtain ⟨here, later⟩ := Bool.and_eq_true_iff.mp whole
    have own := (of_decide_eq_true key).append (by decide : OneLine ": ")
    exact List.forall_mem_cons.mpr
      ⟨own.append (oneLine_shown value here), oneLine_shownEntries rest others later⟩

theorem oneLine_shownAttributes : (attributes : List (String × Value)) →
    (object attributes).isOneLine = true → attributesThroughout isOneLine attributes = true →
    ∀ part ∈ shownAttributes attributes, OneLine part
  | [], _, _ => nofun
  | (name, value) :: rest, names, whole => by
    obtain ⟨name, others⟩ := Bool.and_eq_true_iff.mp names
    obtain ⟨here, later⟩ := Bool.and_eq_true_iff.mp whole
    have own := (of_decide_eq_true name).append (by decide : OneLine "=")
    exact List.forall_mem_cons.mpr
      ⟨own.append (oneLine_shown value here), oneLine_shownAttributes rest others later⟩

theorem oneLine_shownBodies : (bodies : List Value) → allThroughout isOneLine bodies = true →
    ∀ body ∈ shownBodies bodies, KnotBody.IsOneLine body
  | [], _ => nofun
  | body :: rest, whole => by
    obtain ⟨here, later⟩ := Bool.and_eq_true_iff.mp whole
    have others := oneLine_shownBodies rest later
    cases body with
    | items form values =>
      have brackets : OneLine "[" ∧ OneLine "]" := by decide
      have parts := oneLine_shownKnotItems values (Bool.and_eq_true_iff.mp here).2
      exact List.forall_mem_cons.mpr ⟨⟨brackets.1, brackets.2, parts⟩, others⟩
    | mapping entries =>
      have brackets : OneLine "\x7b" ∧ OneLine "\x7d" := by decide
      obtain ⟨keys, inside⟩ := Bool.and_eq_true_iff.mp here
      have parts := oneLine_shownKnotEntries entries keys inside
      exact List.forall_mem_cons.mpr ⟨⟨brackets.1, brackets.2, parts⟩, others⟩
    | _ => exact List.forall_mem_cons.mpr ⟨⟨allOf_empty, allOf_empty, nofun⟩, others⟩

theorem oneLine_shownKnotItems : (values : List Value) → allThroughout isOneLine values = true →
    ∀ part ∈ shownKnotItems values, OneLine part.label ∧
      ∀ content, part.content = .inl content → OneLine content
  | [], _ => nofun
  | value :: rest, whole => by
    obtain ⟨here, later⟩ := Bool.and_eq_true_iff.mp whole
    refine List.forall_mem_cons.mpr ⟨⟨allOf_empty, fun content own => ?_⟩,
      oneLine_shownKnotItems rest later⟩
    exact oneLine_partShown (oneLine_shown value here) own

theorem oneLine_shownKnotEntries : (entries : List (Value × Value)) →
    (mapping entries).isOneLine = true → entriesThroughout isOneLine entries = true →
    ∀ part ∈ shownKnotEntries entries, OneLine part.label ∧
      ∀ content, part.content = .inl content → OneLine content
  | [], _, _ => nofun
  | (key, value) :: rest, keys, whole => by
    obtain ⟨key, others⟩ := Bool.and_eq_true_iff.mp keys
    obtain ⟨here, later⟩ := Bool.and_eq_true_iff.mp whole
    refine List.forall_mem_cons.mpr
      ⟨⟨(of_decide_eq_true key).append (by decide), fun content own => ?_⟩,
        oneLine_shownKnotEntries rest others later⟩
    exact oneLine_partShown (oneLine_shown value here) own

end

/-- What a variable writes is the form of the value on its own, or the text that bytes encode. -/
theorem eq_displayed {value : Value} {content : String} (written : value.outputText = .ok content) :
    content = value.displayed ∨
      ∃ encoded, value = bytes encoded ∧ Utf8.decode encoded = .ok content := by
  have usual : ∀ {value : Value}, (if value.isWritable then .ok value.displayed else
      .error .tooManyDigits : Except Fault String) = .ok content → content = value.displayed := by
    intro value written
    split at written
    · exact (Except.ok.inj written).symm
    · cases written
  cases value with
  | bytes encoded =>
    refine .inr ⟨encoded, rfl, ?_⟩
    have mapped : (Utf8.decode encoded).mapError Fault.malformedText = .ok content := written
    cases decoded : Utf8.decode encoded with
    | error fault =>
      rw [decoded] at mapped
      cases mapped
    | ok text =>
      rw [decoded] at mapped
      cases mapped
      rfl
  | int number shown =>
    cases shown with
    | some own => exact .inl (Except.ok.inj written).symm
    | none => exact .inl (usual written)
  | _ => exact .inl (usual written)

/-- **What a variable writes** for a value of such a view is a text of one line. -/
theorem oneLine_outputText {value : Value} {content : String}
    (whole : value.throughout isOneLine = true) (written : value.outputText = .ok content) :
    OneLine content := by
  have own := throughout_own whole
  rcases eq_displayed written with rfl | ⟨encoded, rfl, decoded⟩
  · cases value with
    | text content => exact of_decide_eq_true own
    | int number shown =>
      cases shown with
      | some guise => exact of_decide_eq_true own
      | none => exact oneLine_int number
    | thing own => exact of_decide_eq_true (Bool.and_eq_true_iff.mp whole).1
    | date day => exact day.oneLine_text
    | moment time => exact time.oneLine_text (by decide)
    | zone clock => exact of_decide_eq_true own
    | _ => exact oneLine_shown _ whole
  · exact isOneLine_bytes_iff.mp own content decoded

/-- **Data of texts of one line**, with the attributes of the catalogue. -/
theorem oneLine_of_throughout (table : Array Recipe) {start : Views}
    (whole : ∀ view ∈ start.view :: start.outer, view.throughout isOneLine = true)
    (tree : List Token) : (Recipe.host table).OneLine tree start := by
  have keeps := isOneLine_fits.keeps isOneLine_answer table
  have obtained : ∀ {value}, (Recipe.host table).Reaches (· ∈ start.view :: start.outer) value →
      Obtained isOneLine value :=
    Host.Reaches.least (isOneLine_closed.closes keeps) fun view first => .whole (whole view first)
  have functionless : (Recipe.host table).Functionless (· ∈ start.view :: start.outer) := by
    intro value reached
    cases obtained reached with
    | method name _ => rfl
    | whole here => exact isFunction_eq_false (throughout_own here)
  refine ⟨fun visits _ finds => ?_, fun visits _ finds written => ?_⟩
  · exact functionless _ (finds.reaches functionless (visits.reaches functionless))
  · cases obtained (finds.reaches functionless (visits.reaches functionless)) with
    | whole here => exact oneLine_outputText here written
    | @method receiver name here =>
      cases written
      have opening : OneLine "<method of " := by decide
      exact (opening.append (oneLine_shown receiver here)).append (by decide)

end Value

end Mustache
