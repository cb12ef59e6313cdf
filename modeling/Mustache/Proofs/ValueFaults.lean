import Mustache.Proofs.NameResolution
import Mustache.Render.Config
import Mustache.Render.Partials

/-!
**What values fail with.**

A missing raw body is a fault of a rendering. No value reports it when it is looked up or written,
unless one of its attributes or items does, and no setting does when it is read.

* `Access.Raises`: the faults that attributes and items report.
* `Frame.raises_or_of_lookup`: looking a name up.
* `Value.outputText_ne`: writing.
* `RenderConfig.coerce_ne`, `RenderConfig.withDefaults_ne`: reading a configuration.
-/

namespace Mustache

/-- **A fault that the reading of an attribute or an item may report.** -/
inductive Access.Raises (access : Access) (fault : Fault) : Prop
  | attribute {value : Value} {name : String} :
      access.attribute? value name = .error fault → Raises access fault
  | item {handle index : Nat} :
      access.itemFault? handle index = some fault → Raises access fault

theorem map_ne_error {α β : Type} {result : Except Fault α} {fault : Fault} (image : α → β)
    (other : result ≠ .error fault) : result.map image ≠ .error fault := by
  cases result with
  | ok value => exact nofun
  | error found => exact fun same => other (congrArg Except.error (Except.error.inj same))

/-! ### Looking a name up -/

variable {access : Access}

/-- An attribute that cannot be read is one of the host's. -/
theorem Access.raises_of_read {value : Value} {name : String} {fault : Fault}
    (failed : access.read value name = .error fault) : access.Raises fault := by
  unfold read at failed
  cases value with
  | object _ | accessor _ | sectionLambda _ => cases failed
  | null | missing | items _ _ | range _ _ _ | mapping _ | knot _ _ | back _ => cases failed
  | _ => exact .attribute failed

/-- An item that is not given is one of the host's. -/
theorem Access.raises_of_refusal {value : Value} {index : Nat} {fault : Fault}
    (refused : access.refusal? value index = some fault) : access.Raises fault := by
  unfold refusal? at refused
  split at refused
  · exact .item refused
  · cases refused

theorem Value.listIndex?_ne (length : Nat) (name : String) :
    listIndex? length name ≠ .error .rawBodyMissing := by
  unfold listIndex?
  simp only
  split
  · exact nofun
  · split
    · exact nofun
    · split
      · exact nofun
      · split <;> exact nofun

theorem Value.Balks.raises_or {value : Value} {name : String} {fault : Fault}
    (balks : value.Balks access name fault) :
    access.Raises fault ∨ fault ≠ .rawBodyMissing := by
  cases balks with
  | index _ failed =>
    refine .inr fun same => ?_
    subst same
    exact listIndex?_ne _ _ failed
  | item _ _ refused => exact .inl (Access.raises_of_refusal refused)
  | «attribute» _ failed => exact .inl (Access.raises_of_read failed)

/-- **A name that is looked up fails with what the host reports**, or with another fault than that
of a missing raw body. -/
theorem Frame.raises_or_of_lookup {view : Value} {outer : List Value} {memo : Memo} {name : String}
    {fault : Fault} (failed : (lookup access view outer memo name).1 = .error fault) :
    access.Raises fault ∨ fault ≠ .rawBodyMissing := by
  unfold lookup at failed
  split at failed
  · cases failed
  · split at failed
    · cases failed
    · split at failed
      · rename_i found
        cases failed
        obtain ⟨nearest, _, before, segment, after, reached, _, _, balks⟩ :=
          find_eq_error_iff.mp found
        exact balks.raises_or
      · cases failed

/-! ### Writing -/

theorem Value.outputText_ne (value : Value) : value.outputText ≠ .error .rawBodyMissing := by
  unfold outputText
  split
  · rename_i content
    cases Text.Utf8.decode content with
    | ok text => exact nofun
    | error fault => exact nofun
  · unfold written
    split
    · exact nofun
    · split <;> exact nofun

/-! ### Settings -/

theorem TagChoice.closing_ne (choice : TagChoice) : choice.closing ≠ .error .rawBodyMissing := by
  unfold closing
  split
  · exact nofun
  · split <;> exact nofun

theorem Partials.inTable?_ne (entries : List (String × Value)) (choice : TagChoice)
    (name : String) : inTable? entries choice.closing name ≠ .error .rawBodyMissing := by
  unfold inTable?
  split
  · exact nofun
  · exact map_ne_error _ choice.closing_ne

namespace RenderConfig

theorem ofTags_ne (tags : Value) (escape : Option Escape) :
    ofTags tags escape ≠ .error .rawBodyMissing := by
  unfold ofTags
  split <;> exact nofun

theorem ofEntries_ne (tags : Value) (escape : Option Escape) :
    ofEntries tags escape ≠ .error .rawBodyMissing := by
  unfold ofEntries
  split
  · exact nofun
  · exact ofTags_ne _ _

theorem coerce_ne (config : ConfigSource) : coerce config ≠ .error .rawBodyMissing := by
  unfold coerce
  split
  · exact nofun
  · exact ofEntries_ne _ _
  · simp only
    split
    · exact nofun
    · exact ofEntries_ne _ _
    all_goals first
      | exact ofTags_ne _ _
      | exact nofun

theorem withDefaults_ne (config : RenderConfig) (tags : Value) (escape : Option Escape) :
    config.withDefaults tags escape ≠ .error .rawBodyMissing := by
  unfold withDefaults
  simp only
  split
  · exact nofun
  · exact ofTags_ne _ _

end RenderConfig

end Mustache
