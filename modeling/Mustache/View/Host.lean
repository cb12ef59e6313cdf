import Mustache.View.Access

/-!
**The host of a view.**

The functions in a view belong to a host, which has a state of its own, and so do the attributes and
the methods of its values. A function of a higher-order section may render texts while it runs, so
its run is a script: it stops with an answer, or asks for a text to be rendered and goes on with
what comes of that.

* `Script`: the run of such a function.
* `Host`: how the values of a view are read, and what its functions do.
* `Host.apply`, `Host.begin`: a call with the right number of arguments, or a fault.
* `Host.send`: a method called without arguments.
* `Host.beside`: a host with a second state beside its own.
-/

namespace Mustache

/-- The run of a function that may render texts, with the state of the host at each stop. A
rendering that fails does not end the run, which may deal with the fault. -/
inductive Script (σ : Type) where
  | answer (value : Value) (state : σ)
  | fail (fault : Fault) (state : σ)
  | render (text : String) (state : σ) (resume : Except Fault String → σ → Script σ)

/-- A text is rendered, and a fault of that ends the run. -/
def Script.rendering {σ : Type} (text : String) (state : σ) (resume : String → σ → Script σ) :
    Script σ :=
  .render text state fun result after =>
    match result with
    | .ok content => resume content after
    | .error fault => .fail fault after

/-- A run whose host has a second state beside its own, which it leaves alone. -/
def Script.beside {σ τ : Type} (other : τ) : Script σ → Script (σ × τ)
  | answer value state => answer value (state, other)
  | fail fault state => fail fault (state, other)
  | render text state resume =>
    render text (state, other) fun result (after, others) => (resume result after).beside others

/-- How the values of a view are read, and what its functions do. -/
structure Host (σ : Type) where
  access : Access
  /-- A method of a value called without arguments. -/
  invoke : Value → String → σ → Except Fault Value × σ
  /-- A call with values. -/
  call : HostFunction → List Value → σ → Except Fault Value × σ
  /-- A call with the raw body of a section and a render callback. -/
  expand : HostFunction → String → σ → Script σ

namespace Host

variable {σ : Type}

/-- A call with values, whose number has to fit. -/
def apply (host : Host σ) (function : HostFunction) (values : List Value) (state : σ) :
    Except Fault Value × σ :=
  if function.takes values.length then host.call function values state
  else (.error .wrongType, state)

/-- A call with a raw body and a render callback, which are two arguments. -/
def begin (host : Host σ) (function : HostFunction) (body : String) (state : σ) : Script σ :=
  if function.takes 2 then host.expand function body state
  else .fail .wrongType state

/-- A method called without arguments. The one that resolves an accessor takes an argument. -/
def send (host : Host σ) (receiver : Value) (name : String) (state : σ) : Except Fault Value × σ :=
  match receiver with
  | .accessor _ => (.error .wrongType, state)
  | receiver => host.invoke receiver name state

/-- A host with a second state beside its own, which it leaves alone. -/
def beside {τ : Type} (host : Host σ) : Host (σ × τ) where
  access := host.access
  invoke receiver name := fun (state, other) =>
    let (result, after) := host.invoke receiver name state
    (result, after, other)
  call function values := fun (state, other) =>
    let (result, after) := host.call function values state
    (result, after, other)
  expand function body := fun (state, other) => (host.expand function body state).beside other

/-- The host of views without functions or attributes. -/
def idle : Host Unit where
  access := .ofTable fun _ _ => none
  invoke _ _ state := (.error .wrongType, state)
  call _ _ state := (.error .wrongType, state)
  expand _ _ state := .fail .wrongType state

end Host

end Mustache
