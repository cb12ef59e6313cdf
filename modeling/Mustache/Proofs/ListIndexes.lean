import Mathlib.Data.List.TakeWhile
import Mathlib.Data.Nat.Digits.Defs
import Mustache.Proofs.NameResolution
import Mustache.View.Catalogue

/-!
**Indexes of lists.**

A list is asked for an item by a text of decimal digits. Signs that are digits and yet not decimal,
such as superscripts, pass for digits first and make no number then: a list that is asked by one
fails, where it should have no such item. It fails as well with more digits than are read, and if it
is too long to be measured.

* `Denotes`: the number that a name denotes.
* `Illegible`: the names that a list of a length fails with.
* `Value.Fails`, `Value.Hides`, `Value.Withholds`: a list that fails with a name, an attribute that
  cannot be read, and an item that is not given.
* `Value.Stumbles`: some segment of a name comes upon one of these.
* `Value.item_or_nothing`: a list that does not fail gives **the item of the number, or nothing**.
* `Frame.property_reads`: **the main statement**, on properties and on names in a chain of views.
-/

namespace Mustache

/-! ### Numbers -/

namespace Text

theorem readDecimalFrom?_eq_some {value number : Nat} {text : List Char} :
    readDecimalFrom? value text = some number ↔
      ∃ digits : List Nat, text.map decimalValue? = digits.map some ∧
        number = Nat.ofDigits 10 (digits.reverse ++ [value]) := by
  induction text generalizing value with
  | nil =>
    rw [readDecimalFrom?]
    constructor
    · intro read
      cases read
      exact ⟨[], rfl, Nat.ofDigits_singleton.symm⟩
    · rintro ⟨digits, values, rfl⟩
      rw [List.map_eq_nil_iff.mp values.symm]
      exact congrArg some Nat.ofDigits_singleton.symm
  | cons char rest hypothesis =>
    -- the digit at the start joins the value that is read on from
    have joins : ∀ (digits : List Nat) (digit : Nat),
        Nat.ofDigits 10 (digits.reverse ++ [value * 10 + digit]) =
          Nat.ofDigits 10 ((digit :: digits).reverse ++ [value]) := by
      intro digits digit
      rw [List.reverse_cons, List.append_assoc, Nat.ofDigits_append, Nat.ofDigits_append,
        Nat.ofDigits_singleton, List.singleton_append, Nat.ofDigits_cons, Nat.ofDigits_singleton,
        Nat.mul_comm value, Nat.add_comm digit]
    rw [readDecimalFrom?]
    cases decimal : decimalValue? char with
    | none =>
      refine ⟨nofun, ?_⟩
      rintro ⟨digits, values, _⟩
      rw [List.map_cons, decimal] at values
      cases digits <;> cases values
    | some digit =>
      simp only
      rw [hypothesis]
      constructor
      · rintro ⟨digits, values, rfl⟩
        refine ⟨digit :: digits, ?_, joins digits digit⟩
        rw [List.map_cons, List.map_cons, decimal, values]
      · rintro ⟨digits, values, rfl⟩
        rw [List.map_cons, decimal] at values
        cases digits with
        | nil => cases values
        | cons first digits =>
          obtain ⟨same, others⟩ := List.cons.inj values
          cases same
          exact ⟨digits, others, (joins digits digit).symm⟩

end Text

/-- **The number that a name denotes**: its decimal digits, of any script, and not without any;
leading zeros are allowed. -/
def Denotes (name : String) (number : Nat) : Prop :=
  ∃ digits : List Nat, digits ≠ [] ∧ name.toList.map Text.decimalValue? = digits.map some ∧
    number = Nat.ofDigits 10 digits.reverse

theorem readDecimal?_iff {name : String} {number : Nat} :
    Text.readDecimal? name.toList = some number ↔ Denotes name number := by
  have plain : ∀ digits : List Nat,
      Nat.ofDigits 10 (digits.reverse ++ [0]) = Nat.ofDigits 10 digits.reverse := by
    intro digits
    rw [Nat.ofDigits_append, Nat.ofDigits_singleton, Nat.mul_zero, Nat.add_zero]
  unfold Denotes
  cases name.toList with
  | nil =>
    refine ⟨nofun, ?_⟩
    rintro ⟨digits, some, values, _⟩
    exact absurd (List.map_eq_nil_iff.mp values.symm) some
  | cons char rest =>
    rw [Text.readDecimal?, Text.readDecimalFrom?_eq_some]
    · constructor
      · rintro ⟨digits, values, rfl⟩
        refine ⟨digits, ?_, values, plain digits⟩
        rintro rfl
        cases values
      · rintro ⟨digits, _, values, rfl⟩
        exact ⟨digits, values, (plain digits).symm⟩
    · exact nofun

/-- What denotes a number is decimal throughout. -/
theorem Denotes.decimal {name : String} {number : Nat} (denotes : Denotes name number) :
    ∀ char ∈ name.toList, (Text.decimalValue? char).isSome = true := by
  obtain ⟨digits, _, values, _⟩ := denotes
  intro char member
  have among := List.mem_map_of_mem (f := Text.decimalValue?) member
  rw [values] at among
  obtain ⟨digit, _, same⟩ := List.mem_map.mp among
  exact Option.isSome_iff_exists.mpr ⟨digit, same.symm⟩

theorem allDigits_iff {name : String} :
    Text.allDigits name.toList = true ↔
      name ≠ "" ∧ ∀ char ∈ name.toList, Text.isDigit char = true := by
  rw [Text.allDigits, Bool.and_eq_true, Bool.not_eq_true', List.isEmpty_eq_false_iff, ne_eq,
    String.toList_eq_nil_iff, List.all_eq_true]

theorem Denotes.allDigits {name : String} {number : Nat} (denotes : Denotes name number) :
    Text.allDigits name.toList = true := by
  refine allDigits_iff.mpr ⟨?_, fun char member => ?_⟩
  · rintro rfl
    obtain ⟨digits, some, values, _⟩ := denotes
    exact some (List.map_eq_nil_iff.mp values.symm)
  · rw [Text.isDigit, denotes.decimal char member, Bool.true_or]

theorem Denotes.unique {name : String} {number other : Nat} (denotes : Denotes name number)
    (again : Denotes name other) : number = other :=
  Option.some.inj ((readDecimal?_iff.mpr denotes).symm.trans (readDecimal?_iff.mpr again))

/-! ### Lists -/

namespace Value

/-- **A name that a list of a length fails with**: all of it are digits, and yet it denotes no
number, or has more digits than are read, or the list is longer than can be measured. -/
def Illegible (length : Nat) (name : String) : Prop :=
  name ≠ "" ∧ (∀ char ∈ name.toList, Text.isDigit char = true) ∧
    ((∀ number, ¬ Denotes name number) ∨ NumeralFault.digitLimit < name.toList.length ∨
      lengthLimit < length)

/-- The index of a name that denotes a number. -/
theorem listIndex?_of_denotes {length number : Nat} {name : String}
    (denotes : Denotes name number) :
    listIndex? length name =
      if NumeralFault.digitLimit < name.toList.length then
        .error (.badNumeral (.tooLong name.toList.length))
      else if lengthLimit < length then .error .beyondBounds
      else .ok (if number < length then some number else none) := by
  have whole : (name.toList.takeWhile fun char => (Text.decimalValue? char).isSome) =
      name.toList := List.takeWhile_eq_self_iff.mpr denotes.decimal
  unfold listIndex?
  simp only
  rw [whole, readDecimal?_iff.mpr denotes, denotes.allDigits]
  rfl

/-- A list fails with all names that are illegible. -/
theorem listIndex?_of_illegible {length : Nat} {name : String}
    (illegible : Illegible length name) : ∃ fault, listIndex? length name = .error fault := by
  obtain ⟨some, digits, cause⟩ := illegible
  by_cases denoted : ∃ number, Denotes name number
  · obtain ⟨number, denotes⟩ := denoted
    rw [listIndex?_of_denotes denotes]
    split
    · exact ⟨_, rfl⟩
    · rename_i short
      rcases cause with nothing | long | vast
      · exact absurd denotes (nothing number)
      · exact absurd long short
      · rw [if_pos vast]
        exact ⟨_, rfl⟩
  · have unread : Text.readDecimal? name.toList = none := by
      cases read : Text.readDecimal? name.toList with
      | none => rfl
      | some number => exact absurd ⟨number, readDecimal?_iff.mp read⟩ denoted
    unfold listIndex?
    simp only
    rw [allDigits_iff.mpr ⟨some, digits⟩, unread]
    split
    · rename_i no
      cases no
    · split <;> exact ⟨_, rfl⟩

/-- A list that does not fail has the index that a name denotes, if it is below the length. -/
theorem listIndex?_of_legible {length : Nat} {name : String}
    (legible : ¬ Illegible length name) :
    (∃ index, Denotes name index ∧ index < length ∧
        listIndex? length name = .ok (some index)) ∨
      (∀ index, Denotes name index → length ≤ index) ∧ listIndex? length name = .ok none := by
  by_cases denoted : ∃ number, Denotes name number
  · obtain ⟨number, denotes⟩ := denoted
    have digits := allDigits_iff.mp (denotes.allDigits)
    have short : ¬ NumeralFault.digitLimit < name.toList.length :=
      fun long => legible ⟨digits.1, digits.2, .inr (.inl long)⟩
    have measured : ¬ lengthLimit < length :=
      fun vast => legible ⟨digits.1, digits.2, .inr (.inr vast)⟩
    rw [listIndex?_of_denotes denotes, if_neg short, if_neg measured]
    by_cases inside : number < length
    · rw [if_pos inside]
      exact .inl ⟨number, denotes, inside, rfl⟩
    · rw [if_neg inside]
      refine .inr ⟨fun index again => ?_, rfl⟩
      rw [again.unique denotes]
      exact Nat.le_of_not_lt inside
  · have nothing : ∀ number, ¬ Denotes name number := fun number is => denoted ⟨number, is⟩
    refine .inr ⟨fun index denotes => absurd denotes (nothing index), ?_⟩
    have other : Text.allDigits name.toList = false := by
      refine Bool.eq_false_iff.mpr fun all => ?_
      obtain ⟨some, digits⟩ := allDigits_iff.mp all
      exact legible ⟨some, digits, .inl nothing⟩
    unfold listIndex?
    simp only
    rw [other]
    rfl

theorem listIndex?_fails {length : Nat} {name : String} :
    (∃ fault, listIndex? length name = .error fault) ↔ Illegible length name := by
  refine ⟨?_, listIndex?_of_illegible⟩
  rintro ⟨fault, failed⟩
  by_contra legible
  rcases listIndex?_of_legible legible with ⟨_, _, _, fine⟩ | ⟨_, fine⟩ <;>
    cases failed.symm.trans fine

/-! ### Properties -/

variable {access : Access}

/-- **A value that fails with a name**: a list of which it is not known what the name denotes. -/
def Fails (value : Value) (name : String) : Prop :=
  ∃ length, value.listLength? = some length ∧ Illegible length name

/-- **An attribute that cannot be read**, although its name is public. -/
def Hides (access : Access) (value : Value) (name : String) : Prop :=
  isPublic name = true ∧ ∃ fault, access.read value.opened name = .error fault

/-- **An item that is not given**, although there is one of the number that a name denotes. -/
def Withholds (access : Access) (value : Value) (name : String) : Prop :=
  ∃ length index fault, value.listLength? = some length ∧
    listIndex? length name = .ok (some index) ∧ access.refusal? value.opened index = some fault

theorem balks_iff {value : Value} {name : String} :
    (∃ fault, value.Balks access name fault) ↔
      value.Fails name ∨ value.Hides access name ∨ value.Withholds access name := by
  constructor
  · rintro ⟨fault, balks⟩
    cases balks with
    | index measured failed => exact .inl ⟨_, measured, listIndex?_fails.mp ⟨fault, failed⟩⟩
    | item measured denoted refused =>
      exact .inr (.inr ⟨_, _, fault, measured, denoted, refused⟩)
    | «attribute» shown failed => exact .inr (.inl ⟨shown, fault, failed⟩)
  · rintro (⟨length, measured, illegible⟩ | ⟨shown, fault, failed⟩ |
      ⟨length, index, fault, measured, denoted, refused⟩)
    · obtain ⟨fault, failed⟩ := listIndex?_of_illegible illegible
      exact ⟨fault, .index measured failed⟩
    · exact ⟨fault, .attribute shown failed⟩
    · exact ⟨fault, .item measured denoted refused⟩

theorem getProperty_fails {value : Value} {name : String} :
    (∃ fault, value.getProperty access name = .error fault) ↔
      value.Fails name ∨ value.Hides access name ∨ value.Withholds access name := by
  rw [← balks_iff]
  constructor
  · rintro ⟨fault, failed⟩
    rcases balks_or_get access value name with balks | ⟨got, fine⟩
    · exact balks
    · cases fine.symm.trans failed
  · rintro ⟨fault, balks⟩
    exact ⟨fault, balks.spec.1⟩

theorem hasProperty_fails {value : Value} {name : String} :
    (∃ fault, value.hasProperty access name = .error fault) ↔
      value.Fails name ∨ value.isPrimitive = false ∧ value.Hides access name := by
  constructor
  · rintro ⟨fault, failed⟩
    rcases property_cases access value name with
      ⟨held, holds⟩ | ⟨shown, shows⟩ | ⟨cause, balks⟩ | ⟨has, _⟩
    · cases holds.spec.1.symm.trans failed
    · cases shows.spec.1.symm.trans failed
    · cases balks with
      | index measured unread => exact .inl ⟨_, measured, listIndex?_fails.mp ⟨cause, unread⟩⟩
      | item measured denoted _ =>
        rw [(property_of_list access name measured).1, denoted] at failed
        cases failed
      | «attribute» shown unread =>
        obtain ⟨unmapped, unlisted⟩ := unmapped_of_read (by rw [unread]; nofun)
        refine .inr ⟨Bool.eq_false_iff.mpr fun scalar => ?_, shown, cause, unread⟩
        rw [(property_of_other access name unmapped unlisted).1, scalar] at failed
        cases failed
    · cases has.symm.trans failed
  · rintro (⟨length, measured, illegible⟩ | ⟨structured, shown, fault, failed⟩)
    · obtain ⟨fault, failed⟩ := listIndex?_of_illegible illegible
      rw [(property_of_list access name measured).1, failed]
      exact ⟨fault, rfl⟩
    · obtain ⟨unmapped, unlisted⟩ := unmapped_of_read (by rw [failed]; nofun)
      rw [(property_of_other access name unmapped unlisted).1, structured, shown, failed]
      exact ⟨fault, rfl⟩

/-- **A list that does not fail gives the item of the number that a name denotes, or nothing.** -/
theorem item_or_nothing {value : Value} {length : Nat} {name : String}
    (measured : value.listLength? = some length) (legible : ¬ Illegible length name) :
    (∃ index item, Denotes name index ∧ index < length ∧ value.listItem? index = some item ∧
        value.hasProperty access name = .ok true ∧
        (access.refusal? value.opened index = none → value.getProperty access name = .ok item)) ∨
      (∀ index, Denotes name index → length ≤ index) ∧
        value.hasProperty access name = .ok false ∧ value.getProperty access name = .ok null := by
  obtain ⟨has, get⟩ := property_of_list access name measured
  rcases listIndex?_of_legible legible with ⟨index, denotes, inside, found⟩ | ⟨beyond, nothing⟩
  · obtain ⟨item, here⟩ := exists_listItem measured inside
    refine .inl ⟨index, item, denotes, inside, here, ?_, fun given => ?_⟩
    · rw [has, found]
      rfl
    · have holds : value.Holds access name item := .item measured found given here
      exact holds.spec.2
  · rw [has, get, itemNamed, nothing]
    exact .inr ⟨beyond, rfl, rfl⟩

/-- **A view stumbles over a name**: some steps come through, up to a list that fails with the next
one, or a value that hides or withholds what it stands for. -/
def Stumbles (access : Access) (view : Value) (name : String) : Prop :=
  ∃ before segment after reached, Steps name (before ++ segment :: after) ∧
    view.Leads access before reached ∧
    (reached.Fails segment ∨ reached.Hides access segment ∨ reached.Withholds access segment)

theorem raises_iff {view : Value} {name : String} :
    (∃ fault, view.Raises access name fault) ↔ view.Stumbles access name := by
  constructor
  · rintro ⟨fault, before, segment, after, reached, steps, leads, balks⟩
    exact ⟨before, segment, after, reached, steps, leads, balks_iff.mp ⟨fault, balks⟩⟩
  · rintro ⟨before, segment, after, reached, steps, leads, fails⟩
    obtain ⟨fault, balks⟩ := balks_iff.mpr fails
    exact ⟨fault, before, segment, after, reached, steps, leads, balks⟩

end Value

namespace Frame

/-! ### Names in a chain of views -/

variable {access : Access}

/-- A name is looked for unless it is the point or remembered; the search fails where the nearest
view that does not miss the name stumbles over it. -/
theorem lookup_fails {view : Value} {outer : List Value} {memo : Memo} {name : String} :
    (∃ fault, (lookup access view outer memo name).1 = .error fault) ↔
      name ≠ "." ∧ memo.lookup name = none ∧
        ∃ nearest, Nearest access name (view :: outer) nearest ∧ nearest.Stumbles access name := by
  by_cases point : name = "."
  · unfold lookup
    rw [if_pos point]
    exact ⟨nofun, fun all => absurd point all.1⟩
  · cases known : memo.lookup name with
    | some value =>
      unfold lookup
      rw [if_neg point, known]
      exact ⟨nofun, nofun⟩
    | none =>
      rw [lookup_fresh point known]
      constructor
      · rintro ⟨fault, failed⟩
        obtain ⟨nearest, near, raises⟩ := find_eq_error_iff.mp failed
        exact ⟨point, rfl, nearest, near, Value.raises_iff.mp ⟨fault, raises⟩⟩
      · rintro ⟨_, _, nearest, near, stumbles⟩
        obtain ⟨fault, raises⟩ := Value.raises_iff.mpr stumbles
        exact ⟨fault, find_raises near raises⟩

/-- **Properties are read without fail, but for lists with an illegible name**, as far as the host
can read attributes and items. Whether a value has a property can be told unless the value is a list
that fails with the name, or the attribute of a value that is no scalar is hidden; and what it is,
unless the list fails, or the attribute is hidden or the item withheld. Any other list has the item
of the number that the name denotes, if this is below the length, and nothing otherwise. A name
fails in a chain of views where the nearest one that does not miss it stumbles over one of its
segments, and is missing where no view stumbles and none has it. -/
theorem property_reads (access : Access) (value : Value) (name : String) :
    ((∃ fault, value.hasProperty access name = .error fault) ↔
        value.Fails name ∨ value.isPrimitive = false ∧ value.Hides access name) ∧
      ((∃ fault, value.getProperty access name = .error fault) ↔
        value.Fails name ∨ value.Hides access name ∨ value.Withholds access name) ∧
      (∀ length, value.listLength? = some length → ¬ Value.Illegible length name →
        (∃ index item, Denotes name index ∧ index < length ∧ value.listItem? index = some item ∧
            value.hasProperty access name = .ok true ∧
            (access.refusal? value.opened index = none →
              value.getProperty access name = .ok item)) ∨
          (∀ index, Denotes name index → length ≤ index) ∧
            value.hasProperty access name = .ok false ∧
            value.getProperty access name = .ok .null) ∧
      ∀ (outer : List Value) (memo : Memo),
        ((∃ fault, (lookup access value outer memo name).1 = .error fault) ↔
            name ≠ "." ∧ memo.lookup name = none ∧
              ∃ nearest, Nearest access name (value :: outer) nearest ∧
                nearest.Stumbles access name) ∧
          (name ≠ "." → memo.lookup name = none →
            (∀ view ∈ value :: outer, ¬ view.Stumbles access name ∧
              ∀ found, ¬ view.Hits access name found) →
            (lookup access value outer memo name).1 = .ok .missing) := by
  refine ⟨Value.hasProperty_fails, Value.getProperty_fails,
    fun length measured legible => Value.item_or_nothing measured legible,
    fun outer memo => ⟨lookup_fails, fun other fresh nowhere => ?_⟩⟩
  rw [lookup_fresh other fresh]
  refine find_missing fun view member => ⟨(nowhere view member).2, fun fault raises => ?_⟩
  exact (nowhere view member).1 (Value.raises_iff.mp ⟨fault, raises⟩)

/-- A digit of another script denotes the first item, and a superscript fails. -/
theorem property_reads_scripts :
    let value := Value.list [.ofInt 1]
    Denotes "٠" 0 ∧ value.getProperty Catalogue.access "٠" = .ok (.ofInt 1) ∧ value.Fails "²" ∧
      ∃ fault, value.hasProperty Catalogue.access "²" = .error fault := by
  intro value
  have denotes : Denotes "٠" 0 := readDecimal?_iff.mp (by decide +kernel)
  have legible : ¬ Value.Illegible 1 "٠" := by
    rintro ⟨_, _, nothing | long | vast⟩
    · exact nothing 0 denotes
    · exact absurd long (by decide +kernel)
    · exact absurd vast (by decide +kernel)
  obtain ⟨_, _, items, _⟩ := property_reads Catalogue.access value "٠"
  rcases items 1 rfl legible with ⟨index, item, same, _, here, _, got⟩ | ⟨beyond, _⟩
  · rw [same.unique denotes] at here
    cases here
    have fails : ∃ fault, value.hasProperty Catalogue.access "²" = .error fault := ⟨_, rfl⟩
    rcases (property_reads Catalogue.access value "²").1.mp fails with illegible | ⟨_, _, _, hidden⟩
    · exact ⟨denotes, got rfl, illegible, fails⟩
    · cases hidden
  · exact absurd (beyond 0 denotes) (by decide)

/-- **It does not hold that every property can be read**, even if all attributes and items can: a
superscript is a digit and yet no number. -/
theorem not_property_reads_superscript :
    ¬ ∀ (value : Value) (name : String),
      (∃ has, value.hasProperty Catalogue.access name = .ok has) ∧
        ∃ got, value.getProperty Catalogue.access name = .ok got := by
  intro always
  obtain ⟨⟨has, read⟩, _⟩ := always (.list [.ofInt 1]) "²"
  have fails : ∃ fault, (Value.list [.ofInt 1]).hasProperty Catalogue.access "²" = .error fault :=
    ⟨_, rfl⟩
  obtain ⟨fault, failed⟩ := fails
  cases read.symm.trans failed

end Frame

end Mustache
