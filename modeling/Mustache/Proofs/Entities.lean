import Mustache.Proofs.EscapedText

/-!
**Entities are read back.**

A reader goes through a text from left to right, takes each of the eight entities for the character
that it stands for, and every other character for itself. The name of no entity begins with that of
another one, so what the standard escape has written is read back as it was, whatever comes behind
it.

* `Escape.entityNames`: the eight characters and the names of their entities.
* `Escape.unescape`: **the reader.**
* `entityAt?_append`, `readBack_entity`: an entity is read as the character it stands for.
* `html_lossless`: **the main statement.**
-/

namespace Mustache.Escape

/-- **The characters that are escaped, with the names of their entities**: what stands behind the
ampersand. -/
def entityNames : List (Char × List Char) := [
  ('&', ['a', 'm', 'p', ';']),
  ('<', ['l', 't', ';']),
  ('>', ['g', 't', ';']),
  ('"', ['q', 'u', 'o', 't', ';']),
  ('\'', ['#', '3', '9', ';']),
  ('/', ['#', 'x', '2', 'F', ';']),
  ('\x60', ['#', 'x', '6', '0', ';']),
  ('=', ['#', 'x', '3', 'D', ';'])]

/-- The character whose entity a text starts with, and the name of the entity. -/
def entityAt? : List Char → Option (Char × List Char)
  | '&' :: rest => entityNames.find? fun entry => entry.2.isPrefixOf rest
  | _ => Option.none

/-- A text with every entity read as its character, from left to right. -/
def readBack : List Char → List Char
  | [] => []
  | char :: rest =>
    match entityAt? (char :: rest) with
    | some (own, name) => own :: readBack (rest.drop name.length)
    | Option.none => char :: readBack rest
termination_by text => text.length
decreasing_by
  · simp only [List.length_drop, List.length_cons]
    omega
  · simp

/-- **A text with every entity read as the character that it stands for**, from left to right. -/
def unescape (text : String) : String := String.ofList (readBack text.toList)

/-! ### Names of entities -/

/-- Each of the characters is written as an ampersand and the name of its entity. -/
theorem entity_of_mem {char : Char} {name : List Char} (member : (char, name) ∈ entityNames) :
    entity char = '&' :: name := by
  have all : (entityNames.all fun entry => entity entry.1 == '&' :: entry.2) = true := by decide
  exact eq_of_beq (List.all_eq_true.mp all _ member)

/-- The characters that are escaped are those that have an entity. -/
theorem exists_name {char : Char} (member : char ∈ special) :
    ∃ name, (char, name) ∈ entityNames := by
  have all : (special.all fun char => entityNames.any fun entry => entry.1 == char) = true := by
    decide
  obtain ⟨⟨own, name⟩, inside, same⟩ := List.any_eq_true.mp (List.all_eq_true.mp all _ member)
  cases eq_of_beq same
  exact ⟨name, inside⟩

/-- **An entity is told from what it begins with**: no other one begins a text that it begins. -/
theorem entityAt?_append {char : Char} {name : List Char} (member : (char, name) ∈ entityNames)
    (following : List Char) : entityAt? ('&' :: (name ++ following)) = some (char, name) := by
  simp only [entityNames, List.mem_cons, Prod.mk.injEq, List.not_mem_nil, or_false] at member
  rcases member with ⟨rfl, rfl⟩ | ⟨rfl, rfl⟩ | ⟨rfl, rfl⟩ | ⟨rfl, rfl⟩ | ⟨rfl, rfl⟩ | ⟨rfl, rfl⟩ |
    ⟨rfl, rfl⟩ | ⟨rfl, rfl⟩ <;> rfl

theorem entityAt?_plain {char : Char} (plain : char ≠ '&') (rest : List Char) :
    entityAt? (char :: rest) = Option.none := by
  unfold entityAt?
  split
  · rename_i same
    exact absurd (List.cons.inj same).1 plain
  · rfl

/-! ### Reading back -/

@[simp] theorem readBack_nil : readBack [] = [] := by
  rw [readBack]

/-- A character without an entity is read as itself. -/
theorem readBack_plain {char : Char} (plain : char ≠ '&') (rest : List Char) :
    readBack (char :: rest) = char :: readBack rest := by
  rw [readBack, entityAt?_plain plain]

/-- **An entity is read as its character**, whatever comes behind it. -/
theorem readBack_name {char : Char} {name : List Char} (member : (char, name) ∈ entityNames)
    (following : List Char) :
    readBack ('&' :: (name ++ following)) = char :: readBack following := by
  rw [readBack, entityAt?_append member]
  simp

/-- **What a character is written as is read as that character.** -/
theorem readBack_entity (char : Char) (following : List Char) :
    readBack (entity char ++ following) = char :: readBack following := by
  by_cases plain : char ∈ special
  · obtain ⟨name, member⟩ := exists_name plain
    rw [entity_of_mem member, List.cons_append, readBack_name member]
  · rw [entity_eq plain, List.singleton_append, readBack_plain]
    rintro rfl
    exact plain List.mem_cons_self

theorem readBack_flatMap (text following : List Char) :
    readBack (text.flatMap entity ++ following) = text ++ readBack following := by
  induction text with
  | nil => rfl
  | cons char rest hypothesis =>
    rw [List.flatMap_cons, List.append_assoc, readBack_entity, hypothesis, List.cons_append]

/-! ### Escaped texts -/

theorem html_append (first second : String) :
    html (first ++ second) = html first ++ html second := by
  unfold html
  rw [String.toList_append, List.flatMap_append, String.ofList_append]

/-- **An escaped text is read back as it was**, and so is what comes behind it. -/
theorem unescape_html_append (text following : String) :
    unescape (html text ++ following) = text ++ unescape following := by
  unfold unescape html
  rw [String.toList_append, String.toList_ofList, readBack_flatMap, String.ofList_append,
    String.ofList_toList]

theorem unescape_html (text : String) : unescape (html text) = text := by
  have alone := unescape_html_append text ""
  rwa [String.append_empty, show unescape "" = "" from by simp [unescape],
    String.append_empty] at alone

/-- A character is written with one ampersand if it is escaped, and else with none. -/
theorem count_entity (char : Char) :
    (entity char).count '&' = if char ∈ special then 1 else 0 := by
  rcases entity_cases char with ⟨plain, same⟩ | ⟨member, rest, same, others⟩
  · rw [same, if_neg plain, List.count_singleton, if_neg]
    rw [beq_iff_eq]
    rintro rfl
    exact plain List.mem_cons_self
  · rw [same, if_pos member, List.count_cons_self,
      List.count_eq_zero.mpr fun inside => others '&' inside List.mem_cons_self]

/-- **Nothing is escaped twice**: an escaped text holds one ampersand for each character that was
escaped. -/
theorem count_html (text : String) :
    (html text).toList.count '&' = text.toList.countP fun char => special.contains char := by
  unfold html
  rw [String.toList_ofList]
  induction text.toList with
  | nil => rfl
  | cons char rest hypothesis =>
    rw [List.flatMap_cons, List.count_append, hypothesis, count_entity, List.countP_cons,
      Nat.add_comm]
    simp only [List.contains_iff_mem]

/-- **The standard escape loses nothing.** It writes texts one after the other as they are written
together. What it writes holds no markup, and each ampersand in it begins one of the eight
entities, one for each character that was escaped. Read from left to right, an escaped text is the
text that was escaped, whatever comes behind it, so that no two texts are written alike. -/
theorem html_lossless :
    (∀ first second, html (first ++ second) = html first ++ html second) ∧
    (∀ text, Unmarked (html text) ∧
      (∀ before after, (html text).toList = before ++ '&' :: after →
        ∃ char name, (char, name) ∈ entityNames ∧ name <+: after) ∧
      (html text).toList.count '&' = text.toList.countP fun char => special.contains char) ∧
    (∀ text following, unescape (html text ++ following) = text ++ unescape following) ∧
    (∀ text, unescape (html text) = text) ∧ Function.Injective html := by
  refine ⟨html_append, fun text => ⟨carried_unmarked.html text, ?_, count_html text⟩,
    unescape_html_append, unescape_html, Function.LeftInverse.injective unescape_html⟩
  intro before after split
  obtain ⟨char, member, begins⟩ := carried_entities.html text before after split
  obtain ⟨name, inside⟩ := exists_name member
  rw [entity_of_mem inside] at begins
  exact ⟨char, name, inside, (List.cons_prefix_cons.mp begins).2⟩

/-- A text that looks like an entity is escaped once, and read back once, before a text that goes on
like an entity. -/
theorem html_lossless_nested :
    (html "&lt;").toList = [] ++ '&' :: "amp;lt;".toList ∧
      (∃ char name, (char, name) ∈ entityNames ∧ name <+: "amp;lt;".toList) ∧
      unescape (html "&lt" ++ "; &gt;") = "&lt; >" := by
  obtain ⟨_, written, read, _⟩ := html_lossless
  have escaped : (html "&lt;").toList = [] ++ '&' :: "amp;lt;".toList := by decide +kernel
  have behind : html "; >" = "; &gt;" := by decide +kernel
  refine ⟨escaped, (written "&lt;").2.1 [] _ escaped, ?_⟩
  rw [read, ← behind, unescape_html]
  rfl

end Mustache.Escape
