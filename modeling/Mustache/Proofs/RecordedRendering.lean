import Mustache.Proofs.Recording
import Mustache.Proofs.RenderingsSideBySide

/-!
**A rendering with a record beside it.**

A whole rendering does the same with a record as without one: the functions of the host, the escape
and the partials leave the record alone, and so does the walk over a tree, whatever is written down
where the functions of sections are called.

* `Setting.recording`: a setting with a record.
* `Setting.Raises`: the faults that the host of a rendering raises itself.
* `Setting.alike_recording`, `Script.alike_beside`: a setting and the run of a function with a
  record beside those without one.
* `Render.recordPairing`: sessions with a record beside those without one, with the same views.
* `tracks_expandFrom`, `tracks_renderAnswer`: the function of a section, and what becomes of its
  answer.
* `tracks_renderTextBy`: **a whole rendering**, with partials and callbacks.
-/

namespace Mustache

variable {σ ε α : Type}

/-! ### A setting with a record -/

/-- Partials that are found as before, the record being left alone. -/
def Partials.recording (ε : Type) : Partials σ → Partials (σ × List ε)
  | absent => absent
  | table entries => table entries
  | lookup ask => lookup fun name host =>
    let reply := ask name host.1
    ⟨reply.text, reply.notes, reply.state, host.2⟩

/-- A host with a record beside its state, in which it notes the runs of the functions of sections
and what they are given. -/
def Host.noting (tell : HostFunction → String → ε) (host : Host σ) : Host (σ × List ε) where
  access := host.access
  invoke := host.beside.invoke
  call := host.beside.call
  expand function body := fun (state, events) =>
    (host.expand function body state).beside (events ++ [tell function body])

/-- A setting whose host has a record beside its state. -/
def Setting.recording (tell : HostFunction → String → ε) (setting : Setting σ) :
    Setting (σ × List ε) where
  host := setting.host.noting tell
  partials := setting.partials.recording ε
  tags := setting.tags
  escape := setting.escape

theorem Host.apply_noting (tell : HostFunction → String → ε) (host : Host σ)
    (function : HostFunction) (values : List Value) (state : σ) (events : List ε) :
    (host.noting tell).apply function values (state, events) =
      ((host.apply function values state).1, (host.apply function values state).2, events) := by
  unfold Host.apply
  split
  · rfl
  · rfl

/-- Methods are not noted. -/
theorem Host.send_noting (tell : HostFunction → String → ε) (host : Host σ) (receiver : Value)
    (name : String) (state : σ) (events : List ε) :
    (host.noting tell).send receiver name (state, events) =
      ((host.send receiver name state).1, (host.send receiver name state).2, events) := by
  cases receiver <;> rfl

/-- A run that is noted, if there is one. -/
theorem Host.begin_noting (tell : HostFunction → String → ε) (host : Host σ)
    (function : HostFunction) (body : String) (state : σ) (events : List ε) :
    (host.noting tell).begin function body (state, events) =
      (host.begin function body state).beside
        (if function.takes 2 then events ++ [tell function body] else events) := by
  unfold Host.begin
  split
  · rfl
  · rfl

/-! ### Faults of the host -/

/-- The run of a function may end with a fault of its own: one that none of its renderings failed
with. -/
inductive Script.Raises (fault : Fault) : Script σ → Prop
  | fail (state : σ) : Raises fault (.fail fault state)
  | render {text : String} {result : Except Fault String} {state after : σ}
      {resume : Except Fault String → σ → Script σ} :
      result ≠ .error fault → Raises fault (resume result after) →
      Raises fault (.render text state resume)

/-- **A fault that the host of a rendering raises itself**, in an attribute, an item, a method or a
function of a view, in an escape of its own or when it is asked for a partial. -/
inductive Setting.Raises (setting : Setting σ) (fault : Fault) : Prop
  | read : setting.host.access.Raises fault → Raises setting fault
  | invoke {receiver : Value} {name : String} {state : σ} :
      (setting.host.invoke receiver name state).1 = .error fault → Raises setting fault
  | call {function : HostFunction} {values : List Value} {state : σ} :
      (setting.host.call function values state).1 = .error fault → Raises setting fault
  | expand {function : HostFunction} {body : String} {state : σ} :
      (setting.host.expand function body state).Raises fault → Raises setting fault
  | escape {name text : String} {answer : String → Except Fault Escaped} :
      setting.escape = .custom name answer → answer text = .error fault → Raises setting fault
  | find {ask : String → σ → PartialReply σ} {name : String} {state : σ} :
      setting.partials = .lookup ask → (ask name state).text = .error fault → Raises setting fault

/-! ### With a record and without one -/

section Recording

variable {watch : Watch ε} {setting : Setting σ} {tell : HostFunction → String → ε}

/-- The run of a function with a record that was kept so far, which it leaves alone. -/
theorem Script.alike_beside {script : Script σ}
    (may : ∀ fault, script.Raises fault → watch.allowed fault) {events : List ε}
    (trail : watch.Trail events) :
    (script.beside events).Alike watch.hosts watch.allowed script := by
  induction script generalizing events with
  | answer value state => exact .answer ⟨rfl, trail⟩
  | fail fault state => exact .fail ⟨rfl, trail⟩ (may fault (.fail state))
  | render text state resume hypothesis =>
    refine .render ⟨rfl, trail⟩ ?_
    rintro result ⟨_, later⟩ host known ⟨rfl, kept⟩
    refine hypothesis result host (fun fault ends => ?_) kept
    by_cases passed : result = .error fault
    · exact known fault passed
    · exact may fault (.render passed ends)

variable (usual : ∀ fault, fault ≠ .rawBodyMissing → watch.allowed fault)
  (raised : ∀ fault, setting.Raises fault → watch.allowed fault)

include usual raised

theorem allowed_apply (function : HostFunction) (values : List Value) (state : σ) :
    ∀ fault, (setting.host.apply function values state).1 = .error fault → watch.allowed fault := by
  unfold Host.apply
  split
  · exact fun fault failed => raised fault (.call failed)
  · exact Render.allowed_of_ne usual nofun

theorem allowed_send (receiver : Value) (name : String) (state : σ) :
    ∀ fault, (setting.host.send receiver name state).1 = .error fault → watch.allowed fault := by
  unfold Host.send
  split
  · exact Render.allowed_of_ne usual nofun
  · exact fun fault failed => raised fault (.invoke failed)

theorem allowed_begin {function : HostFunction} {body : String} {state : σ} {fault : Fault}
    (ends : (setting.host.begin function body state).Raises fault) : watch.allowed fault := by
  unfold Host.begin at ends
  split at ends
  · exact raised fault (.expand ends)
  · cases ends
    exact usual .wrongType nofun

/-- **A setting with a record** beside the same setting without one. -/
theorem Setting.alike_recording :
    (setting.recording tell).Alike watch.hosts watch.allowed setting where
  access := rfl
  reads raises := raised _ (.read raises)
  send receiver name := by
    rintro ⟨_, events⟩ state ⟨rfl, trail⟩
    show Action.SameOutcome watch.allowed Eq
        ((setting.host.noting tell).send receiver name (state, events)).1 _ ∧ _
    rw [Setting.recording, Host.send_noting]
    exact ⟨Action.sameOutcome_refl (allowed_send usual raised receiver name state), rfl, trail⟩
  call function values := by
    rintro ⟨_, events⟩ state ⟨rfl, trail⟩
    show Action.SameOutcome watch.allowed Eq
        ((setting.host.noting tell).apply function values (state, events)).1 _ ∧ _
    rw [Setting.recording, Host.apply_noting]
    exact ⟨Action.sameOutcome_refl (allowed_apply usual raised function values state), rfl, trail⟩
  partials := by
    have find : ∀ ask name state fault, setting.partials = .lookup ask →
        (ask name state).text = .error fault → watch.allowed fault :=
      fun ask name state fault asks failed => raised fault (.find asks failed)
    obtain ⟨host, partials, tags, escape⟩ := setting
    cases partials with
    | absent => exact .absent
    | table entries => exact .table entries
    | lookup ask =>
      refine .lookup ?_
      rintro name ⟨_, events⟩ state ⟨rfl, trail⟩
      exact ⟨Action.sameOutcome_refl fun fault => find ask name state fault rfl, rfl, rfl, trail⟩
  tags := rfl
  escape := rfl
  escapes own failed := raised _ (.escape own failed)

end Recording

namespace Render

open Mustache.Action

/-- Sound sessions with a record beside the same sessions without one, in the same frame. -/
def recordPairing (σ : Type) (watch : Watch ε) : Pairing (σ × List ε) σ where
  related views beside session other := views = beside ∧ watch.related session other
  push view := by
    rintro ⟨rfl, rfl, sound⟩
    exact ⟨rfl, rfl, sound.cache, sound.events⟩
  pop := by
    rintro _ _ session _ after _ _ ⟨rfl, rfl, _⟩ ⟨_, rfl, kept⟩
    exact ⟨rfl, rfl, kept.cache, kept.events⟩

theorem recordPairing_coupling (watch : Watch ε) (views beside : Views) :
    Session.Coupling (watch.hosts (σ := σ)) ((recordPairing σ watch).related views beside) where
  states := fun ⟨_, together⟩ => watch.coupling.states together
  withHost := fun here ⟨same, together⟩ => ⟨same, watch.coupling.withHost here together⟩
  withNotes := fun notes ⟨same, together⟩ => ⟨same, watch.coupling.withNotes notes together⟩

variable {watch : Watch ε} {recorded : Action (σ × List ε) α} {plain : Action σ α}

/-- A step with a record, beside the same step in the same frame. -/
theorem agree_of_tracks {views beside : Views}
    (tracks : views = beside → Tracks watch Free recorded plain) :
    (recordPairing σ watch).Agree watch.allowed views beside recorded plain := by
  rintro session other ⟨same, together⟩
  obtain ⟨outcome, after⟩ := tracks_free_iff.mp (tracks same) session other together
  exact ⟨outcome, same, after⟩

theorem tracks_of_agree {views : Views}
    (agree : (recordPairing σ watch).Agree watch.allowed views views recorded plain) :
    Tracks watch Free recorded plain := by
  refine tracks_free_iff.mpr fun session other together => ?_
  obtain ⟨outcome, _, after⟩ := agree session other ⟨rfl, together⟩
  exact ⟨outcome, after⟩

variable {setting : Setting σ} {tell : HostFunction → String → ε}
  (usual : ∀ fault, fault ≠ .rawBodyMissing → watch.allowed fault)
  (raised : ∀ fault, setting.Raises fault → watch.allowed fault)

include usual in
/-- **What becomes of an answer**: nothing is written for no value, and the text of any other. -/
theorem tracks_renderAnswer (answer : Value) :
    Tracks (σ := σ) watch
      (fun piece => answer = .null ∧ piece = .nothing ∨
        answer ≠ .null ∧ ∃ content, answer.outputText = .ok content ∧ piece = .text content)
      (renderAnswer answer) (renderAnswer answer) := by
  have written : answer ≠ .null → Tracks (σ := σ) watch
      (fun piece => answer = .null ∧ piece = .nothing ∨
        answer ≠ .null ∧ ∃ content, answer.outputText = .ok content ∧ piece = .text content)
      (Piece.text <$> textOf answer) (Piece.text <$> textOf answer) := by
    intro some
    have may := allowed_of_ne usual answer.outputText_ne
    unfold textOf
    cases text : answer.outputText with
    | ok content => exact tracks_pure (Or.inr ⟨some, content, text ▸ rfl, rfl⟩)
    | error fault => exact tracks_iff.mpr (relates_throw (may fault text))
  cases answer with
  | null => exact tracks_pure (Or.inl ⟨rfl, rfl⟩)
  | _ => exact written nofun

include usual raised

/-- A function of a section that is run from a state of the host, with a record that was kept so
far. -/
theorem tracks_expandFrom {again : String → Action (σ × List ε) String}
    {plainAgain : String → Action σ String}
    (renders : ∀ text, Tracks watch Free (again text) (plainAgain text)) {value : Value}
    {body : String} {events : List ε} (trail : watch.Trail events)
    (here : ∀ function, bodyFunction? value = some function →
      watch.good events (tell function body)) (host : σ) :
    Tracks watch Free (expandFrom (setting.recording tell) again value body (host, events))
      (expandFrom setting plainAgain value body host) := by
  refine tracks_free_iff.mpr (relates_expandFrom watch.coupling usual
    (fun text => tracks_free_iff.mp (renders text)) fun function called => ?_)
  have noted : watch.Trail
      (if function.takes 2 then events ++ [tell function body] else events) := by
    split
    · exact trail.concat (here function called)
    · exact trail
  rw [Setting.recording, Host.begin_noting]
  exact Script.alike_beside (fun fault ends => allowed_begin usual raised ends) noted

/-- **A whole rendering**, with partials and callbacks, provided that each expansion keeps the
record where a function of a section is called in the tree of the text that is being rendered. -/
theorem tracks_renderTextBy {expansion : Expansion (σ × List ε)} {plainExpansion : Expansion σ}
    (expands : ∀ again plainAgain,
      (∀ views text, Tracks watch Free (again views text) (plainAgain views text)) →
      ∀ delimiters text tree, setting.tags.resolve = .ok delimiters →
        parse delimiters text = .ok tree → ∀ siblings span body stop, Token.Level tree siblings →
        .block false span body stop ∈ siblings → ∀ views value,
          Tracks watch Free (expansion again (some text) views span stop value)
            (plainExpansion plainAgain (some text) views span stop value))
    (depth : Nat) (views : Views) (text : String) :
    Tracks watch Free (renderTextBy expansion (setting.recording tell) depth views text)
      (renderTextBy plainExpansion setting depth views text) := by
  have alike : (setting.recording tell).Alike watch.hosts watch.allowed setting :=
    Setting.alike_recording usual raised
  have looks : ∀ views beside name, (recordPairing σ watch).Agree watch.allowed views beside
      (lookup (setting.recording tell) views name) (lookup setting beside name) := by
    refine fun views beside name => agree_of_tracks fun same => ?_
    subst same
    refine tracks_free_iff.mpr (relates_lookup watch.coupling usual alike ?_ ?_ views name)
    · rintro session _ ⟨rfl, _⟩
      rfl
    · rintro session _ memo ⟨rfl, sound⟩
      exact ⟨rfl, sound.cache, sound.events⟩
  have parses : ∀ views beside, ParsesAlike ((recordPairing σ watch).related views beside)
      watch.allowed fun delimiters template tree => parse delimiters template = .ok tree := by
    rintro views beside delimiters template session other ⟨same, together⟩
    obtain ⟨outcome, after⟩ :=
      Watch.parsesAlike (fun _ => usual _ nofun) delimiters template session other together
    exact ⟨outcome, same, after⟩
  refine tracks_of_agree (relates_renderTextWith (recordPairing_coupling watch) usual alike looks
    parses ?_ depth views views text)
  intro again plainAgain renders delimiters text tree resolved parsed siblings span body stop level
    member views beside value
  refine agree_of_tracks fun same => ?_
  subst same
  exact expands again plainAgain (fun views text => tracks_of_agree (renders views views text))
    delimiters text tree resolved parsed siblings span body stop level member views value

end Render

end Mustache
