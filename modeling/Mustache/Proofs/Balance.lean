import Mustache.Template.Balance

/-!
**Balanced sections as a grammar.**

Tokens are balanced if they are made of tokens that neither open nor close a section and of sections
whose closing tag has exactly the name of the section. This is what the stack of open sections
checks.

* `Token.Balanced`: the grammar.
* `openAfter_append`: the stack is carried from one part of the tokens to the next.
* `Balanced.openAfter_append`: balanced tokens leave the stack as it is.
* `Token.Closes`: the grammar of what remains when some sections are open.
* `balanced_iff`: tokens are balanced if and only if the stack is empty after them.
-/

namespace Mustache.Token

/-- A token that opens or closes a section. -/
def isSectionMark : Token → Bool
  | block _ _ _ _ => true
  | close _ => true
  | _ => false

/-- **Balanced tokens**: each section is closed by a tag of its own name, innermost first. -/
inductive Balanced : List Token → Prop
  | nil : Balanced []
  | leaf {token : Token} {rest : List Token} :
      token.isSectionMark = false → Balanced rest → Balanced (token :: rest)
  | section {inverted : Bool} {span closing : Span} {body inner rest : List Token}
      {bodyStop : Int} :
      closing.value = span.value → Balanced inner → Balanced rest →
      Balanced (block inverted span body bodyStop :: (inner ++ close closing :: rest))

/-! ### The stack of open sections -/

variable {opened : List Span}

theorem openAfter_leaf {token : Token} (leaf : token.isSectionMark = false) (rest : List Token) :
    openAfter opened (token :: rest) = openAfter opened rest := by
  cases token with
  | block _ _ _ _ => cases leaf
  | close _ => cases leaf
  | text _ => rfl
  | interpolation _ _ => rfl
  | partialTag _ _ => rfl
  | comment _ => rfl
  | delimiters _ => rfl

theorem openAfter_close {innermost closing : Span} {outer : List Span}
    (same : closing.value = innermost.value) (rest : List Token) :
    openAfter (innermost :: outer) (close closing :: rest) = openAfter outer rest := by
  rw [openAfter, if_pos same.symm]

/-- **The stack is carried from one part of the tokens to the next.** -/
theorem openAfter_append (first second : List Token) :
    openAfter opened (first ++ second) =
      openAfter opened first >>= fun left => openAfter left second := by
  induction first generalizing opened with
  | nil => rfl
  | cons token rest hypothesis =>
    by_cases mark : token.isSectionMark = true
    · cases token with
      | block inverted span body bodyStop => exact hypothesis
      | close closing =>
        cases opened with
        | nil => rfl
        | cons innermost outer =>
          rw [List.cons_append]
          by_cases same : innermost.value = closing.value
          · rw [openAfter_close same.symm, openAfter_close same.symm]
            exact hypothesis
          · rw [openAfter, openAfter, if_neg same, if_neg same]
            rfl
      | _ => cases mark
    · have leaf : token.isSectionMark = false := Bool.eq_false_iff.mpr mark
      rw [List.cons_append, openAfter_leaf leaf, openAfter_leaf leaf]
      exact hypothesis

/-- Only the section marks are looked at. -/
theorem openAfter_filter {keep : Token → Bool}
    (marks : ∀ token, token.isSectionMark = true → keep token = true) (tokens : List Token) :
    openAfter opened (tokens.filter keep) = openAfter opened tokens := by
  induction tokens generalizing opened with
  | nil => rfl
  | cons token rest hypothesis =>
    by_cases kept : keep token = true
    · rw [List.filter_cons_of_pos kept, ← List.singleton_append, openAfter_append,
        ← List.singleton_append (l := rest), openAfter_append]
      congr 1
      exact funext fun left => hypothesis
    · have leaf : token.isSectionMark = false :=
        Bool.eq_false_iff.mpr fun mark => kept (marks token mark)
      rw [List.filter_cons_of_neg kept, openAfter_leaf leaf, hypothesis]

/-! ### The grammar and the stack -/

/-- **Balanced tokens leave the stack as it is.** -/
theorem Balanced.openAfter_append {tokens : List Token} (balanced : Balanced tokens)
    (later : List Token) : openAfter opened (tokens ++ later) = openAfter opened later := by
  induction balanced generalizing opened later with
  | nil => rfl
  | leaf leaf _ hypothesis => rw [List.cons_append, openAfter_leaf leaf, hypothesis]
  | @«section» inverted span closing body inner rest bodyStop same _ _ inside behind =>
    calc openAfter opened
          (block inverted span body bodyStop :: (inner ++ close closing :: rest) ++ later)
        = openAfter (span :: opened) (inner ++ (close closing :: (rest ++ later))) := by
          rw [List.cons_append, List.append_assoc, List.cons_append]
          rfl
      _ = openAfter opened (rest ++ later) := by rw [inside, openAfter_close same]
      _ = openAfter opened later := behind later

theorem Balanced.append {first second : List Token} (left : Balanced first)
    (right : Balanced second) : Balanced (first ++ second) := by
  induction left with
  | nil => exact right
  | leaf leaf _ hypothesis => exact .leaf leaf hypothesis
  | «section» same inside _ _ hypothesis =>
    rw [List.cons_append, List.append_assoc, List.cons_append]
    exact .section same inside hypothesis

/-- **Tokens that close what is open**: a balanced stretch, the tag that closes the innermost open
section, and so on outwards. -/
def Closes : List Span → List Token → Prop
  | [], tokens => Balanced tokens
  | innermost :: outer, tokens => ∃ inner closing rest, tokens = inner ++ close closing :: rest ∧
      Balanced inner ∧ closing.value = innermost.value ∧ Closes outer rest

theorem Closes.prepend {first tokens : List Token} (balanced : Balanced first)
    (closes : Closes opened tokens) : Closes opened (first ++ tokens) := by
  cases opened with
  | nil => exact balanced.append closes
  | cons innermost outer =>
    obtain ⟨inner, closing, rest, rfl, inside, same, left⟩ := closes
    exact ⟨first ++ inner, closing, rest, (List.append_assoc _ _ _).symm, balanced.append inside,
      same, left⟩

/-- **Tokens that empty the stack close what is open.** -/
theorem closes_of_openAfter {tokens : List Token} (emptied : openAfter opened tokens = .ok []) :
    Closes opened tokens := by
  induction tokens generalizing opened with
  | nil =>
    cases emptied
    exact .nil
  | cons token rest hypothesis =>
    by_cases mark : token.isSectionMark = true
    · cases token with
      | block inverted span body bodyStop =>
        obtain ⟨inner, closing, behind, rfl, inside, same, left⟩ :=
          @hypothesis (span :: opened) emptied
        have whole : block inverted span body bodyStop :: (inner ++ close closing :: behind) =
            block inverted span body bodyStop :: (inner ++ [close closing]) ++ behind := by
          simp
        rw [whole]
        exact left.prepend (.section same inside .nil)
      | close closing =>
        cases opened with
        | nil => cases emptied
        | cons innermost outer =>
          by_cases same : innermost.value = closing.value
          · rw [openAfter_close same.symm] at emptied
            exact ⟨[], closing, rest, rfl, .nil, same.symm, hypothesis emptied⟩
          · rw [openAfter, if_neg same] at emptied
            cases emptied
      | _ => cases mark
    · have leaf : token.isSectionMark = false := Bool.eq_false_iff.mpr mark
      rw [openAfter_leaf leaf] at emptied
      exact (hypothesis emptied).prepend (.leaf leaf .nil)

/-- **Tokens are balanced if and only if the stack is empty after them.** -/
theorem balanced_iff (tokens : List Token) : Balanced tokens ↔ openAfter [] tokens = .ok [] := by
  constructor
  · intro balanced
    have emptied : openAfter [] (tokens ++ []) = _ := balanced.openAfter_append []
    rwa [List.append_nil] at emptied
  · exact closes_of_openAfter

instance : DecidablePred Balanced := fun tokens =>
  match emptied : openAfter [] tokens with
  | .ok [] => isTrue ((balanced_iff tokens).mpr emptied)
  | .ok (_ :: _) => isFalse fun balanced => by
    rw [(balanced_iff tokens).mp balanced] at emptied
    cases emptied
  | .error _ => isFalse fun balanced => by
    rw [(balanced_iff tokens).mp balanced] at emptied
    cases emptied

end Mustache.Token
