import Mustache.Render.Cache
import Mustache.Render.Note
import Mustache.Template.Parse
import Mustache.View.Frame

/-!
**Sessions.**

A session is what changes while templates are rendered: the state of the host, the memory of the
frame at hand, the cache of parsed templates and the notes. A step that fails leaves the session as
it stands then.

* `Tree`: a parsed template, told apart from other trees by a stamp.
* `Session`, `Action`: a session, and steps in one.
* `Action.parse`: a template parsed through the cache.
-/

namespace Mustache

/-- A parsed template. Trees parsed at different times have different stamps. -/
structure Tree where
  tokens : List Token
  stamp : Nat

/-- What changes while templates are rendered; the latest note comes first. -/
structure Session (σ : Type) where
  host : σ
  memo : Memo := []
  cache : Option (Cache (String × Delimiters) Tree) := none
  parsed : Nat := 0
  notes : List Note := []

/-- A step in a session. -/
abbrev Action (σ α : Type) := ExceptT Fault (StateM (Session σ)) α

namespace Action

variable {σ α : Type}

/-- A step made of what it does to a session. -/
def ofStep (step : Session σ → Except Fault α × Session σ) : Action σ α := step

/-- A step that answers what is known, or fails. -/
def ofExcept (result : Except Fault α) : Action σ α := ofStep fun session => (result, session)

/-- A step that uses the state of the host. -/
def withHost (step : σ → Except Fault α × σ) : Action σ α :=
  ofStep fun session =>
    let (result, host) := step session.host
    (result, { session with host := host })

/-- A step whose fault is dealt with by what comes behind it. -/
def attempt (step : Action σ α) : Action σ (Except Fault α) :=
  ofStep fun session =>
    let (result, after) := step session
    (.ok result, after)

/-- A note is kept. -/
def note (entry : Note) : Action σ Unit :=
  ofStep fun session => (.ok (), { session with notes := entry :: session.notes })

/-- A step in a new frame, which starts without memory; afterwards the memory is what it was. -/
def inNewFrame (step : Action σ α) : Action σ α :=
  ofStep fun session =>
    let (result, after) := step { session with memo := [] }
    (result, { after with memo := session.memo })

/-- A tree made in a session, and stored in its cache. -/
def build (key : String × Delimiters) (tokens : List Token) (session : Session σ) :
    Tree × Session σ :=
  let tree : Tree := ⟨tokens, session.parsed⟩
  let noted := if key.1.isEmpty then session.notes
    else .parsed key.1.length tokens.length :: session.notes
  (tree, { session with
    parsed := session.parsed + 1
    notes := noted
    cache := session.cache.map fun cache => cache.insert key tree })

/-- **A template parsed through the cache**: a template that was parsed before with the same
delimiters is not parsed again, and one that has a fault is not stored. -/
def parse (delimiters : Delimiters) (template : String) : Action σ Tree :=
  ofStep fun session =>
    let key := (template, delimiters)
    match session.cache.bind fun cache => cache.get? key with
    | some tree => (.ok tree, { session with notes := .found template.length :: session.notes })
    | none =>
      match Mustache.parse delimiters template with
      | .error fault => (.error (.syntaxFault fault), session)
      | .ok tokens =>
        let (tree, after) := build key tokens session
        (.ok tree, after)

end Action

end Mustache
