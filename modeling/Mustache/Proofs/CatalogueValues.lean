import Mustache.Proofs.Throughout
import Mustache.View.Recipe

/-!
**The catalogue keeps to tests.**

The attributes that the catalogue has of a value are numbers, days and moments, the clock of a
moment, and methods of the value; and most of its methods answer plain values. So it keeps to each
test that plain values pass.

* `Value.isBare`: the values that attributes are made of.
* `Catalogue.Fits`: a test that they pass.
* `attribute?_obtained`: **an attribute.**
* `Fits.keeps`: a host of recipes keeps to such a test, if its answers pass it.
* `answer_throughout`, `Value.Lenient.keeps`: **to a lenient one in any case.**
-/

namespace Mustache

open Value (Obtained Lenient)

/-- Bare values: no value, truth values, numbers shown by their digits, days, and moments without a
clock. -/
def Value.isBare : Value → Bool
  | null | bool _ | int _ none | float _ | date _ => true
  | moment time => time.zone.isNone
  | _ => false

namespace Catalogue

variable {test : Value → Bool}

/-- **A test that fits the catalogue**: all bare values pass it, and with a moment its clock. -/
structure Fits (test : Value → Bool) : Prop where
  bare {value : Value} : value.isBare = true → test value = true
  clock {time : Moment} {clock : Zone} : test (.moment time) = true → time.zone = some clock →
    test (.zone clock) = true

/-! ### Attributes -/

theorem methodAmong?_obtained {names : List String} {value part : Value} {name : String}
    (whole : value.throughout test = true) (found : methodAmong? names value name = some part) :
    Obtained test part := by
  unfold methodAmong? at found
  split at found
  · cases found
    exact .method name whole
  · cases found

section Fits

variable (fits : Fits test)

include fits

theorem intAttribute?_obtained {number : Int} {name : String} {part : Value}
    (found : intAttribute? number name = some part) : Obtained test part := by
  have whole : (Value.ofInt number).throughout test = true := fits.bare rfl
  unfold intAttribute? at found
  split at found
  case h_5 => exact methodAmong?_obtained whole found
  all_goals
    cases found
    exact .whole (fits.bare rfl)

theorem floatAttribute?_obtained {number : Binary64} {name : String} {part : Value}
    (found : floatAttribute? number name = some part) : Obtained test part := by
  have whole : (Value.float number).throughout test = true := fits.bare rfl
  unfold floatAttribute? at found
  split at found
  case h_3 => exact methodAmong?_obtained whole found
  all_goals
    cases found
    exact .whole (fits.bare rfl)

theorem dayAttribute?_obtained {value first last part : Value} {date : Date} {name : String}
    (whole : value.throughout test = true) (start : first.throughout test = true)
    (finish : last.throughout test = true)
    (found : dayAttribute? value first last date name = some part) : Obtained test part := by
  unfold dayAttribute? at found
  split at found
  case h_4 =>
    cases found
    exact .whole start
  case h_5 =>
    cases found
    exact .whole finish
  case h_6 => exact methodAmong?_obtained whole found
  all_goals
    cases found
    exact .whole (fits.bare rfl)

theorem momentAttribute?_obtained {moment : Moment} {name : String} {part : Value}
    (whole : (Value.moment moment).throughout test = true)
    (found : momentAttribute? moment name = some part) : Obtained test part := by
  have first : (Value.moment Moment.first).throughout test = true := fits.bare rfl
  have last : (Value.moment Moment.last).throughout test = true := fits.bare rfl
  unfold momentAttribute? at found
  split at found
  case h_6 =>
    cases found
    cases own : moment.zone with
    | none => exact .whole (fits.bare rfl)
    | some clock => exact .whole (fits.clock whole own)
  case h_7 =>
    cases own : methodAmong? momentMethods (.moment moment) _ with
    | some method =>
      rw [own] at found
      cases found
      exact methodAmong?_obtained whole own
    | none =>
      rw [own] at found
      exact dayAttribute?_obtained fits whole first last found
  all_goals
    cases found
    exact .whole (fits.bare rfl)

/-- **An attribute.** -/
theorem attribute?_obtained {value part : Value} {name : String} (obtained : Obtained test value)
    (found : attribute? value name = some part) : Obtained test part := by
  cases obtained with
  | method own _ => cases found
  | whole whole =>
    cases value with
    | text _ | bytes _ | zone _ => exact methodAmong?_obtained whole found
    | bool flag => exact intAttribute?_obtained fits found
    | int number _ => exact intAttribute?_obtained fits found
    | float number => exact floatAttribute?_obtained fits found
    | date day =>
      have days : ∀ day, (Value.date day).throughout test = true := fun _ => fits.bare rfl
      exact dayAttribute?_obtained fits whole (days _) (days _) found
    | moment time => exact momentAttribute?_obtained fits whole found
    | _ => cases found

/-- **A host of recipes keeps to a test** that fits the catalogue, if the answers pass it. -/
theorem Fits.keeps (answers : ∀ {receiver value : Value} {name : String},
      receiver.throughout test = true → answer receiver name = .ok value →
      value.throughout test = true) (table : Array Recipe) : (Recipe.host table).Keeps test where
  read obtained _ found := attribute?_obtained fits obtained (Except.ok.inj found)
  answer := answers

end Fits

/-! ### Answers -/

section Lenient

variable (lenient : Lenient test)

include lenient

theorem answerOfText_throughout {content name : String} {value : Value}
    (answered : answerOfText content name = .ok value) : value.throughout test = true := by
  unfold answerOfText at answered
  split at answered
  case h_6 =>
    cases answered
    refine Bool.and_eq_true_iff.mpr
      ⟨lenient.plain rfl, Value.allThroughout_iff.mpr fun word member => ?_⟩
    obtain ⟨_, _, rfl⟩ := List.mem_map.mp member
    exact lenient.plain rfl
  all_goals
    cases answered
    try exact lenient.plain rfl

theorem answerOfBytes_throughout {content : List UInt8} {name : String} {value : Value}
    (answered : answerOfBytes content name = .ok value) : value.throughout test = true := by
  unfold answerOfBytes at answered
  split at answered
  case h_3 =>
    split at answered
    · cases answered
      exact lenient.plain rfl
    · cases answered
  all_goals
    cases answered
    try exact lenient.plain rfl

theorem answerOfDay_throughout {own value : Value} {date : Date} {text words name : String}
    (whole : own.throughout test = true)
    (answered : answerOfDay own date text words name = .ok value) :
    value.throughout test = true := by
  unfold answerOfDay at answered
  split at answered
  case h_6 =>
    cases answered
    exact whole
  all_goals
    cases answered
    try exact lenient.plain rfl

theorem answerOfMoment_throughout {moment : Moment} {name : String} {value : Value}
    (answered : answerOfMoment moment name = .ok value) : value.throughout test = true := by
  have whole : (Value.moment moment).throughout test = true := lenient.plain rfl
  unfold answerOfMoment at answered
  split at answered
  case h_2 =>
    cases answered
    cases moment.zone <;> exact lenient.plain rfl
  case h_4 => exact answerOfDay_throughout lenient whole answered
  all_goals
    cases answered
    exact lenient.plain rfl

/-- **What a method answers.** -/
theorem answer_throughout {receiver value : Value} {name : String}
    (whole : receiver.throughout test = true) (answered : answer receiver name = .ok value) :
    value.throughout test = true := by
  unfold answer at answered
  split at answered
  case h_1 => exact answerOfText_throughout lenient answered
  case h_2 => exact answerOfBytes_throughout lenient answered
  case h_3 =>
    unfold answerOfInt at answered
    split at answered <;> cases answered <;> exact lenient.plain rfl
  case h_4 =>
    unfold answerOfFloat at answered
    split at answered <;> cases answered <;> exact lenient.plain rfl
  case h_5 => exact answerOfDay_throughout lenient whole answered
  case h_6 => exact answerOfMoment_throughout lenient answered
  case h_7 => cases answered

end Lenient

end Catalogue

namespace Value.Lenient

variable {test : Value → Bool} (lenient : Lenient test)

include lenient

theorem fits : Catalogue.Fits test where
  bare {value} bare := by
    refine lenient.plain ?_
    cases value with
    | int _ shown => cases shown <;> first | rfl | cases bare
    | _ => first | rfl | cases bare
  clock _ _ := lenient.plain rfl

/-- **A host of recipes keeps to a lenient test.** -/
theorem keeps (table : Array Recipe) : (Recipe.host table).Keeps test :=
  lenient.fits.keeps (Catalogue.answer_throughout lenient) table

end Value.Lenient

end Mustache
