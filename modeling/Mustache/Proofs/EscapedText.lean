import Mathlib.Data.List.Basic
import Mustache.Proofs.TextCharacters
import Mustache.Render.Escape
import Mustache.View.Display

/-!
**What the standard escape makes of a text.**

Eight characters are written as entities. An entity holds none of them but the ampersand that it
starts with, so of an escaped text no tag, no attribute and no other entity can come about. The text
of a number holds none of the eight, which is why it need not be escaped.

* `Escape.markup`, `Escape.special`: the eight characters, without and with the ampersand.
* `Escape.Unmarked`, `Escape.Entities`: texts without markup, and texts whose ampersands all start
  entities.
* `Escape.Carried`: what is carried from escaped texts to all that is put together from them.
* `Escape.Literal`: texts that are their own escape.
* `literal_of_numeric`: **the texts of numbers.**
* `Value.isOrdinary`, `Value.literal_outputText`: what is written for the numbers of a view.
-/

namespace Mustache

namespace Escape

/-- The characters that begin or end tags and attributes. -/
def markup : List Char := ['<', '>', '"', '\'', '/', '\x60', '=']

/-- **The characters that are escaped**: those of markup, and the ampersand that starts an
entity. -/
def special : List Char := '&' :: markup

/-- A text without the characters of markup. -/
def Unmarked (text : String) : Prop := ∀ char ∈ text.toList, char ∉ markup

/-- **A text whose ampersands all start entities.** -/
def Entities (text : String) : Prop :=
  ∀ before after, text.toList = before ++ '&' :: after →
    ∃ char ∈ special, entity char <+: '&' :: after

/-- A text with nothing to escape. -/
def Literal (text : String) : Prop := ∀ char ∈ text.toList, char ∉ special

/-! ### Entities -/

/-- The characters that are not escaped are written as they are. -/
theorem entity_eq {char : Char} (plain : char ∉ special) : entity char = [char] := by
  unfold entity
  split
  all_goals first | rfl | exact absurd (by decide) plain

/-- **An escaped character holds no markup**, and no ampersand but the one that it starts with. -/
theorem entity_cases (char : Char) :
    char ∉ special ∧ entity char = [char] ∨
      char ∈ special ∧ ∃ rest, entity char = '&' :: rest ∧ ∀ other ∈ rest, other ∉ special := by
  by_cases plain : char ∈ special
  · refine .inr ⟨plain, ?_⟩
    have all : (special.all fun char => (entity char).head? == some '&' &&
        (entity char).tail.all fun other => !special.contains other) = true := by decide
    obtain ⟨first, others⟩ := Bool.and_eq_true_iff.mp (List.all_eq_true.mp all char plain)
    refine ⟨_, List.eq_cons_of_mem_head? (eq_of_beq first), fun other member => ?_⟩
    simpa using List.all_eq_true.mp others other member
  · exact .inl ⟨plain, entity_eq plain⟩

theorem markup_subset {char : Char} (plain : char ∉ special) : char ∉ markup := fun member =>
  plain (List.mem_cons_of_mem _ member)

/-! ### Escaped texts -/

/-- **What is carried over**: what holds of the empty text and of all escaped texts, and of texts
put together if it holds of each. -/
structure Carried (good : String → Prop) : Prop where
  empty : good ""
  append {first second : String} : good first → good second → good (first ++ second)
  html (text : String) : good (html text)

/-- **Escaped texts hold no markup.** -/
theorem carried_unmarked : Carried Unmarked where
  empty := nofun
  append left right char member := by
    rw [String.toList_append] at member
    exact (List.mem_append.mp member).elim (left char) (right char)
  html text char member := by
    unfold html at member
    rw [String.toList_ofList] at member
    obtain ⟨own, _, inside⟩ := List.mem_flatMap.mp member
    rcases entity_cases own with ⟨plain, same⟩ | ⟨_, rest, same, others⟩
    · rw [same] at inside
      rw [List.mem_singleton.mp inside]
      exact markup_subset plain
    · rw [same] at inside
      rcases List.mem_cons.mp inside with rfl | later
      · decide
      · exact markup_subset (others char later)

theorem Entities.append {first second : String} (left : Entities first) (right : Entities second) :
    Entities (first ++ second) := by
  intro before after split
  rw [String.toList_append] at split
  rcases List.append_eq_append_iff.mp split with
    ⟨middle, rfl, behind⟩ | ⟨middle, whole, behind⟩
  · exact right middle after behind
  · cases middle with
    | nil =>
      rw [List.nil_append] at behind
      exact right [] after behind.symm
    | cons char middle =>
      obtain ⟨rfl, rfl⟩ := List.cons.inj behind
      obtain ⟨char, member, begins⟩ := left before middle whole
      exact ⟨char, member, begins.trans (List.prefix_append _ _)⟩

/-- A text without ampersands. -/
theorem entities_of_not_mem {text : String} (absent : '&' ∉ text.toList) : Entities text := by
  intro before after split
  exact absurd (by rw [split]; simp) absent

/-- **The ampersands of escaped texts start entities.** -/
theorem carried_entities : Carried Entities where
  empty := entities_of_not_mem nofun
  append := Entities.append
  html text := by
    have one : ∀ char, Entities (String.ofList (entity char)) := by
      intro char
      rcases entity_cases char with ⟨plain, same⟩ | ⟨member, rest, same, others⟩
      · refine entities_of_not_mem fun inside => ?_
        rw [same, String.toList_ofList, List.mem_singleton] at inside
        rw [← inside] at plain
        exact plain List.mem_cons_self
      · intro before after split
        rw [String.toList_ofList, same] at split
        cases before with
        | nil => exact ⟨char, member, by rw [same, split]; exact List.prefix_rfl⟩
        | cons first before =>
          obtain ⟨_, rfl⟩ := List.cons.inj split
          exact absurd List.mem_cons_self (others '&' (by simp))
    unfold html
    induction text.toList with
    | nil => exact entities_of_not_mem nofun
    | cons char rest hypothesis =>
      rw [List.flatMap_cons, String.ofList_append]
      exact (one char).append hypothesis

/-! ### Texts that are their own escape -/

instance (text : String) : Decidable (Literal text) :=
  inferInstanceAs (Decidable (Text.AllOf (· ∉ special) text))

/-- **A text with nothing to escape is its own escape.** -/
theorem html_eq {text : String} (literal : Literal text) : html text = text := by
  have same : text.toList.flatMap entity = text.toList.flatMap fun char => [char] :=
    List.flatMap_congr fun char member => entity_eq (literal char member)
  unfold html
  rw [same, List.flatMap_singleton', String.ofList_toList]

/-- The characters that numbers are written with are not escaped. -/
theorem not_mem_of_isNumeric {char : Char} (numeric : Text.isNumeric char = true) :
    char ∉ special := by
  intro member
  have none : (special.all fun char => !Text.isNumeric char) = true := by decide
  have other := List.all_eq_true.mp none char member
  rw [numeric] at other
  cases other

/-- **The text of a number has nothing to escape.** -/
theorem literal_of_numeric {text : String} (numeric : Text.Numeric text) : Literal text :=
  numeric.mono fun _ => not_mem_of_isNumeric

end Escape

namespace Value

/-! ### Numbers of a view -/

/-- Anything but a number with a text of its own; of the objects of the host, those that count as
ordinary. -/
def isOrdinary (things : Thing → Bool) : Value → Bool
  | int _ (some _) => false
  | thing own => things own
  | _ => true

/-- One of a knot that is a number is shown by nothing. -/
theorem shownBodies_number {bodies : List Value} {place : Nat} {body : Value}
    (here : bodies[place]? = some body)
    (number : (∃ own shown, body = int own shown) ∨ ∃ own, body = float own) :
    (shownBodies bodies)[place]? = some ⟨"", "", []⟩ := by
  induction bodies generalizing place with
  | nil => cases here
  | cons first rest hypothesis =>
    cases place with
    | zero =>
      cases here
      rcases number with ⟨own, shown, rfl⟩ | ⟨own, rfl⟩
      · rfl
      · rfl
    | succ place =>
      have later := hypothesis here
      cases first <;> exact later

/-- **A number has nothing to escape**, unless it has a text of its own. -/
theorem literal_outputText {things : Thing → Bool} {value : Value} {content : String}
    (ordinary : value.isOrdinary things = true) (number : value.isNumber = true)
    (written : value.outputText = .ok content) :
    Escape.Literal content := by
  have kind := eq_of_beq number
  cases value with
  | int own shown =>
    cases shown with
    | some _ => cases ordinary
    | none =>
      unfold outputText Value.written at written
      simp only at written
      split at written
      · cases written
        exact Escape.literal_of_numeric (Text.numeric_int own)
      · cases written
  | float own =>
    unfold outputText Value.written at written
    simp only at written
    split at written
    · cases written
      exact Escape.literal_of_numeric own.numeric_text
    · cases written
  | knot bodies place =>
    have body : ∃ body, bodies[place]? = some body ∧
        ((∃ own shown, body = int own shown) ∨ ∃ own, body = float own) := by
      unfold Value.kind opened at kind
      simp only [List.getD_eq_getElem?_getD] at kind
      cases found : bodies[place]? with
      | none =>
        rw [found] at kind
        cases kind
      | some body =>
        rw [found, Option.getD_some] at kind
        cases body with
        | int own shown => exact ⟨_, rfl, .inl ⟨own, shown, rfl⟩⟩
        | float own => exact ⟨_, rfl, .inr ⟨own, rfl⟩⟩
        | _ => cases kind
    obtain ⟨body, here, numeric⟩ := body
    unfold outputText Value.written at written
    simp only at written
    split at written
    · cases written
      have nothing : displayed (knot bodies place) = "" := by
        show knotShown (shownBodies bodies) (bodies.length + 1) [] place = ""
        rw [knotShown, shownBodies_number here numeric]
        rfl
      rw [nothing]
      exact nofun
    · cases written
  | _ => cases kind

end Value

end Mustache
