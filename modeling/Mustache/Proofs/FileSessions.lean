import Mustache.Proofs.Reading
import Mustache.Render.FilePartials

/-!
**Partials in files that change.**

Partials are looked up and files change, in any order. A partial that was given is always the same;
any other one is what the files held for its name when it was first looked up without a fault, and
from then on the files are not asked for it. What is looked up under other names does not matter.

* `FilePartials.Holds`: what the files hold for a name.
* `FileSession.Event`, `FileSession.run`: what can happen to files and partials.
* `FileSession.firstFound?`: what the first look-up of a name found.
* `known_find`, `known_run`: **what is known of a name** after a look-up, and after a run.
* `Alike.run`: look-ups of other names may be left out.
* `reply_run`: **the main statement.**
-/

namespace Mustache

namespace FilePartials

/-- **What the files hold for a name**: nothing where there is no directory or no such file, and
else the text of the file. -/
inductive Holds (partials : FilePartials) (tree : FileTree) (name : String) : Option String → Prop
  | noDirectory : partials.directory = none → Holds partials tree name none
  | noFile (path : Path) :
      partials.file? name = some path → tree.isFile path = .ok false → Holds partials tree name none
  | file (path : Path) (text : String) :
      partials.file? name = some path → tree.isFile path = .ok true →
      tree.readText path = .ok text → Holds partials tree name (some text)

variable {partials : FilePartials} {tree : FileTree} {name : String}

/-! ### One look-up -/

theorem lookUp_eq_ok_iff {found : Option String} :
    (partials.lookUp tree name).1 = .ok found ↔ partials.Holds tree name found := by
  unfold lookUp
  constructor
  · intro read
    split at read
    · rename_i nowhere
      cases read
      exact .noDirectory (Option.map_eq_none_iff.mp nowhere)
    · rename_i path place
      split at read
      · cases read
      · rename_i isFile
        cases text : tree.readText path with
        | ok content =>
          rw [text] at read
          cases read
          exact .file path content place isFile text
        | error fault =>
          rw [text] at read
          cases read
      · rename_i isFile
        cases read
        exact .noFile path place isFile
  · intro holds
    cases holds with
    | noDirectory nowhere =>
      rw [show partials.file? name = none from Option.map_eq_none_iff.mpr nowhere]
    | noFile path place isFile =>
      rw [place]
      simp only
      rw [isFile]
    | file path text place isFile content =>
      rw [place]
      simp only
      rw [isFile]
      simp only
      rw [content]
      rfl

/-- The files are asked in the same way where directory and extension are the same. -/
theorem lookUp_congr {other : FilePartials} (directory : partials.directory = other.directory)
    (extension : partials.extension = other.extension) :
    partials.lookUp tree name = other.lookUp tree name := by
  unfold lookUp file?
  rw [directory, extension]

/-- **What is known is answered**, whatever the files are: they are not asked. -/
theorem find_known {found : Option String} (known : partials.known.lookup name = some found)
    (tree : FileTree) : find tree name partials = ⟨.ok found, [], partials⟩ := by
  unfold find
  rw [known]

section Unknown

variable (unknown : partials.known.lookup name = none)

include unknown

/-- What is not known is what the files hold, and is known then. -/
theorem find_unknown {found : Option String} (held : (partials.lookUp tree name).1 = .ok found) :
    find tree name partials =
      ⟨.ok found, (partials.lookUp tree name).2, partials.keep name found⟩ := by
  unfold find
  rw [unknown, ← Prod.eta (partials.lookUp tree name), held]

theorem find_failed {fault : Fault} (failed : (partials.lookUp tree name).1 = .error fault) :
    find tree name partials = ⟨.error fault, (partials.lookUp tree name).2, partials⟩ := by
  unfold find
  rw [unknown, ← Prod.eta (partials.lookUp tree name), failed]

end Unknown

/-- **A look-up that failed has left nothing behind.** -/
theorem state_of_error {fault : Fault} (failed : (find tree name partials).text = .error fault) :
    (find tree name partials).state = partials := by
  unfold find at failed ⊢
  split
  · rfl
  · split
    · rename_i unknown _ found notes held
      rw [unknown, held] at failed
      cases failed
    · rfl

/-- A look-up changes neither the directory nor the extension. -/
theorem find_source (tree : FileTree) (name : String) (partials : FilePartials) :
    (find tree name partials).state.directory = partials.directory ∧
      (find tree name partials).state.extension = partials.extension := by
  unfold find
  split
  · exact ⟨rfl, rfl⟩
  · split
    · exact ⟨rfl, rfl⟩
    · exact ⟨rfl, rfl⟩

/-- **What is known of a name after a look-up**: what was known before, or else what the files held,
if it was this name that was looked up. -/
theorem known_find (tree : FileTree) (asked name : String) (partials : FilePartials) :
    (find tree asked partials).state.known.lookup name =
      (partials.known.lookup name).or
        (if asked = name then (partials.lookUp tree name).1.toOption else none) := by
  cases known : partials.known.lookup asked with
  | some found =>
    rw [find_known known]
    by_cases same : asked = name
    · rw [← same, known]
      rfl
    · rw [if_neg same, Option.or_none]
  | none =>
    cases held : (partials.lookUp tree asked).1 with
    | ok found =>
      rw [find_unknown known held]
      by_cases same : asked = name
      · subst same
        rw [if_pos rfl, known, held, keep, List.lookup_cons_self]
        rfl
      · rw [if_neg same, Option.or_none, keep, List.lookup_cons, beq_false_of_ne (Ne.symm same)]
    | error fault =>
      rw [find_failed known held]
      by_cases same : asked = name
      · subst same
        rw [if_pos rfl, known, held]
        rfl
      · rw [if_neg same, Option.or_none]

end FilePartials

/-- Files as they stand, and partials with what was found in the files so far. -/
structure FileSession where
  tree : FileTree
  partials : FilePartials

namespace FileSession

/-! ### Runs -/

/-- What can happen: the files become other ones, or a partial is looked up. -/
inductive Event where
  | change (tree : FileTree)
  | ask (name : String)

/-- What a look-up answers. -/
def reply (session : FileSession) (name : String) : PartialReply FilePartials :=
  FilePartials.find session.tree name session.partials

/-- One event. -/
def step (session : FileSession) : Event → FileSession
  | .change tree => { session with tree := tree }
  | .ask name => { session with partials := (session.reply name).state }

/-- Events one after the other. -/
def run (session : FileSession) (events : List Event) : FileSession := events.foldl step session

/-- What an event finds in the files for a name, if it is a look-up of that name. -/
def found? (name : String) (session : FileSession) : Event → Option (Option String)
  | .change _ => none
  | .ask asked =>
    if asked = name then (session.partials.lookUp session.tree name).1.toOption else none

/-- **What the first look-up of a name found**, of those that did not fail. -/
def firstFound? (name : String) : FileSession → List Event → Option (Option String)
  | _, [] => none
  | session, event :: rest =>
    (session.found? name event).or (firstFound? name (session.step event) rest)

/-- Whether an event matters to a name: the look-up of another one does not. -/
def Event.concerns (name : String) : Event → Bool
  | change _ => true
  | ask asked => asked == name

/-! ### What is known after a run -/

/-- No event changes the directory or the extension. -/
theorem run_source (session : FileSession) (events : List Event) :
    (session.run events).partials.directory = session.partials.directory ∧
      (session.run events).partials.extension = session.partials.extension := by
  induction events generalizing session with
  | nil => exact ⟨rfl, rfl⟩
  | cons event rest hypothesis =>
    obtain ⟨directory, extension⟩ := hypothesis (session.step event)
    cases event with
    | change tree => exact ⟨directory, extension⟩
    | ask name =>
      obtain ⟨sameDirectory, sameExtension⟩ :=
        FilePartials.find_source session.tree name session.partials
      exact ⟨directory.trans sameDirectory, extension.trans sameExtension⟩

theorem known_step (name : String) (session : FileSession) (event : Event) :
    (session.step event).partials.known.lookup name =
      (session.partials.known.lookup name).or (session.found? name event) := by
  cases event with
  | change tree => exact (Option.or_none).symm
  | ask asked => exact FilePartials.known_find session.tree asked name session.partials

/-- **What is known of a name after a run**: what was known before it, or else what the first
look-up of the name found. -/
theorem known_run (name : String) (session : FileSession) (events : List Event) :
    (session.run events).partials.known.lookup name =
      (session.partials.known.lookup name).or (firstFound? name session events) := by
  induction events generalizing session with
  | nil => exact (Option.or_none).symm
  | cons event rest hypothesis =>
    rw [run, List.foldl_cons]
    show ((session.step event).run rest).partials.known.lookup name = _
    rw [hypothesis, known_step, Option.or_assoc, firstFound?]

/-! ### Look-ups of other names -/

/-- Sessions that answer a name alike: with the same files, asked in the same way, and with the same
known of the name. -/
structure Alike (name : String) (first second : FileSession) : Prop where
  tree : first.tree = second.tree
  directory : first.partials.directory = second.partials.directory
  extension : first.partials.extension = second.partials.extension
  known : first.partials.known.lookup name = second.partials.known.lookup name

namespace Alike

variable {name : String} {first second : FileSession} (alike : Alike name first second)

include alike

theorem lookUp : first.partials.lookUp first.tree name =
    second.partials.lookUp second.tree name := by
  rw [alike.tree]
  exact FilePartials.lookUp_congr alike.directory alike.extension

theorem reply : (first.reply name).text = (second.reply name).text ∧
    (first.reply name).notes = (second.reply name).notes := by
  unfold FileSession.reply FilePartials.find
  rw [alike.known, alike.lookUp]
  split
  · exact ⟨rfl, rfl⟩
  · split
    · exact ⟨rfl, rfl⟩
    · exact ⟨rfl, rfl⟩

/-- An event that matters to the name keeps sessions alike. -/
theorem step {event : Event} (concerns : event.concerns name = true) :
    Alike name (first.step event) (second.step event) := by
  have known : (first.step event).partials.known.lookup name =
      (second.step event).partials.known.lookup name := by
    rw [known_step, known_step, alike.known]
    cases event with
    | change tree => rfl
    | ask asked => rw [found?, found?, alike.lookUp]
  cases event with
  | change tree => exact ⟨rfl, alike.directory, alike.extension, known⟩
  | ask asked =>
    obtain ⟨left, before⟩ := FilePartials.find_source first.tree asked first.partials
    obtain ⟨right, behind⟩ := FilePartials.find_source second.tree asked second.partials
    exact ⟨alike.tree, left.trans (alike.directory.trans right.symm),
      before.trans (alike.extension.trans behind.symm), known⟩

/-- The look-up of another name keeps sessions alike, in one of them alone. -/
theorem pass {event : Event} (other : event.concerns name = false) :
    Alike name (first.step event) second := by
  cases event with
  | change tree => cases other
  | ask asked =>
    obtain ⟨directory, extension⟩ := FilePartials.find_source first.tree asked first.partials
    have apart : asked ≠ name := ne_of_beq_false other
    refine ⟨alike.tree, directory.trans alike.directory, extension.trans alike.extension, ?_⟩
    rw [known_step, found?, if_neg apart, Option.or_none]
    exact alike.known

/-- **Look-ups of other names may be left out.** -/
theorem run (events : List Event) :
    Alike name (first.run events) (second.run (events.filter (Event.concerns name))) := by
  induction events generalizing first second with
  | nil => exact alike
  | cons event rest hypothesis =>
    cases concerns : event.concerns name with
    | true =>
      rw [List.filter_cons_of_pos concerns]
      exact hypothesis (alike.step concerns)
    | false =>
      rw [List.filter_cons_of_neg (by rw [concerns]; exact Bool.false_ne_true)]
      exact hypothesis (alike.pass concerns)

end Alike

/-! ### The answers of a run -/

/-- **A partial stays what it was when it was first found**, whatever happened before a look-up. One
that was given is answered as it was given. Any other one is what the first look-up of its name that
did not fail found; in both cases the answer is the same for all files, which are not read, and
nothing changes. If there was no such look-up, it is what the files hold as they stand. A look-up
that fails leaves nothing behind, and what was looked up under other names does not matter. -/
theorem reply_run (start : FileSession) (events : List Event) (name : String) :
    (∀ given, start.partials.known.lookup name = some given → ∀ tree,
      FilePartials.find tree name (start.run events).partials =
        ⟨.ok given, [], (start.run events).partials⟩) ∧
    (start.partials.known.lookup name = none →
      (∀ found, firstFound? name start events = some found → ∀ tree,
        FilePartials.find tree name (start.run events).partials =
          ⟨.ok found, [], (start.run events).partials⟩) ∧
      (firstFound? name start events = none → ∀ found,
        ((start.run events).reply name).text = .ok found ↔
          start.partials.Holds (start.run events).tree name found)) ∧
    (∀ fault, ((start.run events).reply name).text = .error fault →
      ((start.run events).reply name).state = (start.run events).partials) ∧
    ((start.run events).reply name).text =
      ((start.run (events.filter (Event.concerns name))).reply name).text ∧
    ((start.run events).reply name).notes =
      ((start.run (events.filter (Event.concerns name))).reply name).notes := by
  have known := known_run name start events
  have alone : Alike name (start.run events)
      (start.run (events.filter (Event.concerns name))) :=
    Alike.run ⟨rfl, rfl, rfl, rfl⟩ events
  refine ⟨?_, fun absent => ⟨?_, ?_⟩, fun _ => FilePartials.state_of_error, alone.reply⟩
  · intro given override tree
    rw [override, Option.some_or] at known
    exact FilePartials.find_known known tree
  · intro found first tree
    rw [absent, Option.none_or, first] at known
    exact FilePartials.find_known known tree
  · intro never found
    rw [absent, Option.none_or, never] at known
    obtain ⟨directory, extension⟩ := start.run_source events
    rw [← FilePartials.lookUp_eq_ok_iff, ← FilePartials.lookUp_congr directory extension]
    cases held : ((start.run events).partials.lookUp (start.run events).tree name).1 with
    | ok content => rw [reply, FilePartials.find_unknown known held]
    | error fault => rw [reply, FilePartials.find_failed known held]

/-- Partials in the working directory, where one partial is given and the file of another one holds
a byte that encodes nothing. -/
def brokenSession : FileSession where
  tree := .ofFiles [("p.mustache", [0xFF])]
  partials := { directory := some (.ofText "."), known := [("given", some "own")] }

/-- The broken file is mended between two look-ups, another partial is looked up, and all files
are deleted. -/
def mendedEvents : List Event :=
  [.ask "p", .change (.ofFiles [("p.mustache", [0x78])]), .ask "p", .ask "q", .change .empty]

theorem reply_run_mended :
    (brokenSession.partials.known.lookup "given" = some (some "own") ∧
      ((brokenSession.run mendedEvents).reply "given").text = .ok (some "own")) ∧
    (brokenSession.partials.known.lookup "p" = none ∧
      firstFound? "p" brokenSession mendedEvents = some (some "x") ∧
      ((brokenSession.run mendedEvents).reply "p").text = .ok (some "x")) ∧
    (firstFound? "p" brokenSession (mendedEvents.take 2) = none ∧
      ((brokenSession.run (mendedEvents.take 2)).reply "p").text = .ok (some "x")) ∧
    ∃ fault, ((brokenSession.run []).reply "p").text = .error fault ∧
      ((brokenSession.run []).reply "p").state = brokenSession.partials := by
  have given : brokenSession.partials.known.lookup "given" = some (some "own") := by decide
  have absent : brokenSession.partials.known.lookup "p" = none := by decide
  have first : firstFound? "p" brokenSession mendedEvents = some (some "x") := by decide +kernel
  have never : firstFound? "p" brokenSession (mendedEvents.take 2) = none := by decide +kernel
  have failed : ((brokenSession.run []).reply "p").text.toOption = none := by decide +kernel
  have place : brokenSession.partials.file? "p" = some ⟨"", ["p.mustache"]⟩ := by decide +kernel
  have isFile : (brokenSession.run (mendedEvents.take 2)).tree.isFile ⟨"", ["p.mustache"]⟩ =
      .ok true := by rfl
  have text : (brokenSession.run (mendedEvents.take 2)).tree.readText ⟨"", ["p.mustache"]⟩ =
      .ok "x" := by
    have held : ((brokenSession.run (mendedEvents.take 2)).tree.readText
        ⟨"", ["p.mustache"]⟩).toOption.map id = some "x" := by decide +kernel
    obtain ⟨_, content, rfl⟩ := exists_ok_of_toOption_map held
    exact content
  obtain ⟨override, _, _⟩ := reply_run brokenSession mendedEvents "given"
  obtain ⟨_, remembered, _⟩ := reply_run brokenSession mendedEvents "p"
  obtain ⟨_, mended, _⟩ := reply_run brokenSession (mendedEvents.take 2) "p"
  obtain ⟨_, _, unchanged, _⟩ := reply_run brokenSession [] "p"
  refine ⟨⟨given, ?_⟩, ⟨absent, first, ?_⟩, ⟨never, ?_⟩, ?_⟩
  · rw [reply, override _ given]
  · rw [reply, (remembered absent).1 _ first]
  · exact ((mended absent).2 never _).mpr (.file _ _ place isFile text)
  · cases outcome : ((brokenSession.run []).reply "p").text with
    | ok found =>
      rw [outcome] at failed
      cases failed
    | error fault => exact ⟨fault, rfl, unchanged fault outcome⟩

end FileSession

end Mustache
