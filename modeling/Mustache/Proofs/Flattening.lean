import Mustache.Proofs.Balance
import Mustache.Template.Nest

/-!
**A tree and the list of its tags.**

Written out as a list, a tree has for each section its tag, its body and its closing tag. Making a
tree of such a list, with comments and delimiter tags anywhere in it, gives the tree back. Of any
other list too the nodes are the tokens that leave one, in their order; only a closing tag that
exceeds the sections before it is a fault, and a section that is never closed keeps the end that it
came with.

* `Token.forest_induction`: induction on the nodes of a tree.
* `Token.Step`, `step?`, `flatten`: what nesting goes by, and the steps of a tree.
* `nestWithin_flatten`, `nest?_of_steps`: the stack makes the tree of its steps.
* `closer?`: the closing tag of a section; `nestWithin_eq_none_iff`: the one that closes nothing.
* `heads_of_nestWithin`: the nodes of the tree, with what is still open around them.
* `nest?_flattened`: **the main statement.**
-/

namespace Mustache.Token

/-- A section, inverted or not. -/
def isBlock : Token → Bool
  | block _ _ _ _ => true
  | _ => false

/-- A tag that closes a section. -/
def isClose : Token → Bool
  | close _ => true
  | _ => false

/-- A token that leaves no node: it ends a section, or it is a comment or a delimiter tag. -/
def isSilent : Token → Bool
  | close _ => true
  | comment _ => true
  | delimiters _ => true
  | _ => false

/-- **Induction on the nodes of a tree**: a section comes after its body. -/
@[elab_as_elim]
theorem forest_induction {motive : List Token → Prop} (nil : motive [])
    (leaf : ∀ token rest, token.isBlock = false → motive rest → motive (token :: rest))
    (block : ∀ inverted span body bodyStop rest, motive body → motive rest →
      motive (block inverted span body bodyStop :: rest)) : ∀ forest, motive forest
  | [] => nil
  | token :: rest => by
    have behind := forest_induction nil leaf block rest
    cases token with
    | block inverted span body bodyStop =>
      exact block inverted span body bodyStop rest (forest_induction nil leaf block body) behind
    | _ => exact leaf _ rest rfl behind

/-! ### The steps of a tree -/

/-- What nesting goes by: the tag of a section, where its closing tag starts, and every other token
that leaves a node. -/
inductive Step where
  | enter (inverted : Bool) (span : Span)
  | leave (start : Int)
  | leaf (token : Token)

/-- **What nesting goes by in a token**; nothing in a comment or a delimiter tag. -/
def step? : Token → Option Step
  | block inverted span _ _ => some (.enter inverted span)
  | close span => some (.leave span.start)
  | comment _ => none
  | delimiters _ => none
  | token => some (.leaf token)

mutual

/-- The tag of a section, its body, and its closing tag where the body ends. -/
def steps : Token → List Step
  | block inverted span body bodyStop => .enter inverted span :: (flatten body ++ [.leave bodyStop])
  | token => [.leaf token]

/-- **A tree as a list.** -/
def flatten : List Token → List Step
  | [] => []
  | token :: rest => steps token ++ flatten rest

end

theorem flatten_leaf {token : Token} (leaf : token.isBlock = false) (rest : List Token) :
    flatten (token :: rest) = .leaf token :: flatten rest := by
  cases token with
  | block _ _ _ _ => cases leaf
  | _ => simp [flatten, steps]

theorem flatten_block (inverted : Bool) (span : Span) (body : List Token) (bodyStop : Int)
    (rest : List Token) : flatten (block inverted span body bodyStop :: rest) =
      .enter inverted span :: (flatten body ++ .leave bodyStop :: flatten rest) := by
  simp [flatten, steps]

section Steps

variable {token : Token}

theorem step?_eq_enter {inverted : Bool} {span : Span}
    (step : token.step? = some (.enter inverted span)) :
    ∃ body bodyStop, token = block inverted span body bodyStop := by
  cases token with
  | block _ _ body bodyStop =>
    cases step
    exact ⟨body, bodyStop, rfl⟩
  | _ => cases step

theorem step?_eq_leave {start : Int} (step : token.step? = some (.leave start)) :
    ∃ span, token = close span ∧ span.start = start := by
  cases token with
  | close span =>
    cases step
    exact ⟨span, rfl, rfl⟩
  | _ => cases step

/-- A token that is neither silent nor a section is a step as it is. -/
theorem step?_leaf (leaf : token.isBlock = false) (heard : token.isSilent = false) :
    token.step? = some (.leaf token) := by
  cases token with
  | block _ _ _ _ => cases leaf
  | close _ => cases heard
  | comment _ => cases heard
  | delimiters _ => cases heard
  | _ => rfl

variable (opened : List OpenBlock) (current rest : List Token)

@[simp] theorem nestWithin_nil :
    nestWithin opened current [] = some (finishAll opened current) := by
  cases opened <;> rfl

@[simp] theorem nestWithin_block (inverted : Bool) (span : Span) (body : List Token)
    (bodyStop : Int) : nestWithin opened current (block inverted span body bodyStop :: rest) =
      nestWithin (⟨current, inverted, span, bodyStop⟩ :: opened) [] rest := by
  cases opened <;> rfl

/-- A comment or a delimiter tag is passed over. -/
theorem nestWithin_silent (silent : token.step? = none) :
    nestWithin opened current (token :: rest) = nestWithin opened current rest := by
  cases token with
  | comment _ => cases opened <;> rfl
  | delimiters _ => cases opened <;> rfl
  | _ => cases silent

/-- A token without a body is collected as it is. -/
theorem nestWithin_leaf {node : Token} (leaf : token.step? = some (.leaf node)) :
    nestWithin opened current (token :: rest) = nestWithin opened (node :: current) rest := by
  cases token with
  | text _ => cases leaf; cases opened <;> rfl
  | interpolation _ _ => cases leaf; cases opened <;> rfl
  | partialTag _ _ => cases leaf; cases opened <;> rfl
  | _ => cases leaf

end Steps

/-- Comments and delimiter tags are passed over. -/
theorem nestWithin_skip {skipped : List Token} (silent : ∀ token ∈ skipped, token.step? = none)
    (opened : List OpenBlock) (current rest : List Token) :
    nestWithin opened current (skipped ++ rest) = nestWithin opened current rest := by
  induction skipped with
  | nil => rfl
  | cons token more hypothesis =>
    rw [List.forall_mem_cons] at silent
    rw [List.cons_append, nestWithin_silent _ _ _ silent.1, hypothesis silent.2]

/-- **The stack makes the tree of its steps**, whatever is open around them. -/
theorem nestWithin_flatten {tree flat : List Token} (steps : flat.filterMap step? = flatten tree)
    (opened : List OpenBlock) (current later : List Token) :
    nestWithin opened current (flat ++ later) =
      nestWithin opened (tree.reverse ++ current) later := by
  induction tree using forest_induction generalizing flat opened current later with
  | nil => exact nestWithin_skip (List.filterMap_eq_nil_iff.mp steps) opened current later
  | leaf node rest leaf hypothesis =>
    rw [flatten_leaf leaf] at steps
    obtain ⟨skipped, token, _, rfl, silent, here, more⟩ := List.filterMap_eq_cons_iff.mp steps
    rw [List.append_assoc, nestWithin_skip silent, List.cons_append, nestWithin_leaf _ _ _ here,
      hypothesis more]
    simp
  | block inverted span body bodyStop rest inside behind =>
    rw [flatten_block] at steps
    obtain ⟨skipped, token, _, rfl, silent, enter, more⟩ := List.filterMap_eq_cons_iff.mp steps
    obtain ⟨old, oldStop, rfl⟩ := step?_eq_enter enter
    obtain ⟨inner, _, rfl, within, outer⟩ := List.filterMap_eq_append_iff.mp more
    obtain ⟨passed, token, after, rfl, quiet, leave, last⟩ := List.filterMap_eq_cons_iff.mp outer
    obtain ⟨closing, rfl, rfl⟩ := step?_eq_leave leave
    simp only [List.append_assoc, List.cons_append]
    rw [nestWithin_skip silent, nestWithin_block, inside within, nestWithin_skip quiet, nestWithin,
      behind last]
    simp [OpenBlock.finish]

/-- **Tokens that have the steps of a tree have that tree.** -/
theorem nest?_of_steps {tree flat : List Token} (steps : flat.filterMap step? = flatten tree) :
    nest? flat = some tree := by
  have made := nestWithin_flatten steps [] [] []
  rw [List.append_nil, List.append_nil] at made
  rw [nest?, made, nestWithin_nil, finishAll, List.reverse_reverse]

/-! ### Closing tags -/

/-- **The closing tag of a section**, among the tokens behind the tag of the section; as many
sections are open within it as the depth says. -/
def closer? : Nat → List Token → Option Span
  | _, [] => none
  | depth, block _ _ _ _ :: rest => closer? (depth + 1) rest
  | 0, close span :: _ => some span
  | depth + 1, close _ :: rest => closer? depth rest
  | depth, _ :: rest => closer? depth rest

@[simp] theorem closer?_nil (depth : Nat) : closer? depth [] = none := by
  cases depth <;> rfl

@[simp] theorem closer?_block (depth : Nat) (inverted : Bool) (span : Span) (body : List Token)
    (bodyStop : Int) (rest : List Token) :
    closer? depth (block inverted span body bodyStop :: rest) = closer? (depth + 1) rest := by
  cases depth <;> rfl

theorem closer?_leaf {token : Token} (leaf : token.isSectionMark = false) (depth : Nat)
    (rest : List Token) : closer? depth (token :: rest) = closer? depth rest := by
  cases token with
  | block _ _ _ _ => cases leaf
  | close _ => cases leaf
  | _ => cases depth <;> rfl

section Counts

variable (rest : List Token)

@[simp] theorem blocks_block (inverted : Bool) (span : Span) (body : List Token) (bodyStop : Int) :
    (block inverted span body bodyStop :: rest).countP isBlock = rest.countP isBlock + 1 :=
  List.countP_cons_of_pos rfl

@[simp] theorem closes_block (inverted : Bool) (span : Span) (body : List Token) (bodyStop : Int) :
    (block inverted span body bodyStop :: rest).countP isClose = rest.countP isClose :=
  List.countP_cons_of_neg Bool.false_ne_true

@[simp] theorem blocks_close (span : Span) :
    (close span :: rest).countP isBlock = rest.countP isBlock :=
  List.countP_cons_of_neg Bool.false_ne_true

@[simp] theorem closes_close (span : Span) :
    (close span :: rest).countP isClose = rest.countP isClose + 1 := List.countP_cons_of_pos rfl

variable {token : Token} (leaf : token.isSectionMark = false)

include leaf

theorem blocks_leaf : (token :: rest).countP isBlock = rest.countP isBlock := by
  cases token with
  | block _ _ _ _ => cases leaf
  | _ => exact List.countP_cons_of_neg Bool.false_ne_true

theorem closes_leaf : (token :: rest).countP isClose = rest.countP isClose := by
  cases token with
  | close _ => cases leaf
  | _ => exact List.countP_cons_of_neg Bool.false_ne_true

end Counts

/-- The first parts of a list that is not empty. -/
theorem forall_prefix_cons {rest : List Token} {holds : List Token → Prop} {token : Token} :
    (∀ part, part <+: token :: rest → holds part) ↔
      holds [] ∧ ∀ part, part <+: rest → holds (token :: part) := by
  constructor
  · intro all
    exact ⟨all [] List.nil_prefix,
      fun part front => all _ (List.cons_prefix_cons.mpr ⟨rfl, front⟩)⟩
  · rintro ⟨empty, longer⟩ part front
    rcases List.prefix_cons_iff.mp front with rfl | ⟨more, rfl, within⟩
    · exact empty
    · exact longer more within

/-- **A section is never closed** if nowhere behind it there have been more closing tags than
sections. -/
theorem closer?_eq_none_iff {depth : Nat} {tokens : List Token} :
    closer? depth tokens = none ↔
      ∀ part, part <+: tokens → part.countP isClose ≤ part.countP isBlock + depth := by
  induction tokens generalizing depth with
  | nil => simp
  | cons token rest hypothesis =>
    have empty : ([] : List Token).countP isClose ≤ ([] : List Token).countP isBlock + depth :=
      Nat.zero_le _
    rw [forall_prefix_cons, and_iff_right empty]
    by_cases mark : token.isSectionMark = true
    · cases token with
      | block inverted span body bodyStop =>
        simp only [closer?_block, hypothesis, closes_block, blocks_block, Nat.add_right_comm,
          Nat.add_assoc]
      | close span =>
        cases depth with
        | zero =>
          simp only [closer?, reduceCtorEq, false_iff]
          intro most
          have none := most [] List.nil_prefix
          rw [closes_close, blocks_close] at none
          exact absurd none (Nat.not_succ_le_zero _)
        | succ depth =>
          simp only [closer?, hypothesis, closes_close, blocks_close, ← Nat.add_assoc,
            Nat.add_le_add_iff_right]
      | _ => cases mark
    · have leaf : token.isSectionMark = false := Bool.eq_false_iff.mpr mark
      simp only [closer?_leaf leaf, hypothesis, closes_leaf _ leaf, blocks_leaf _ leaf]

/-- The closing tag of a section, and what stands before it. -/
theorem exists_of_closer? {depth : Nat} {tokens : List Token} {closing : Span}
    (found : closer? depth tokens = some closing) :
    ∃ inner later, tokens = inner ++ close closing :: later ∧ closer? depth inner = none ∧
      inner.countP isClose = inner.countP isBlock + depth := by
  induction tokens generalizing depth with
  | nil => simp at found
  | cons token rest hypothesis =>
    by_cases mark : token.isSectionMark = true
    · cases token with
      | block inverted span body bodyStop =>
        rw [closer?_block] at found
        obtain ⟨inner, later, rfl, unended, count⟩ := hypothesis found
        refine ⟨block inverted span body bodyStop :: inner, later, rfl, ?_, ?_⟩
        · rwa [closer?_block]
        · rw [closes_block, blocks_block]
          omega
      | close span =>
        cases depth with
        | zero =>
          cases found
          exact ⟨[], rest, rfl, rfl, rfl⟩
        | succ depth =>
          obtain ⟨inner, later, rfl, unended, count⟩ := hypothesis found
          refine ⟨close span :: inner, later, rfl, unended, ?_⟩
          rw [closes_close, blocks_close]
          omega
      | _ => cases mark
    · have leaf : token.isSectionMark = false := Bool.eq_false_iff.mpr mark
      rw [closer?_leaf leaf] at found
      obtain ⟨inner, later, rfl, unended, count⟩ := hypothesis found
      refine ⟨token :: inner, later, rfl, ?_, ?_⟩
      · rwa [closer?_leaf leaf]
      · rwa [closes_leaf _ leaf, blocks_leaf _ leaf]

/-- A closing tag behind tokens that close all that is open but the section itself. -/
theorem closer?_append_close {depth : Nat} {inner : List Token}
    (unended : closer? depth inner = none)
    (count : inner.countP isClose = inner.countP isBlock + depth) (closing : Span)
    (later : List Token) : closer? depth (inner ++ close closing :: later) = some closing := by
  induction inner generalizing depth with
  | nil =>
    have level : depth = 0 := by simpa using count.symm
    rw [level]
    rfl
  | cons token rest hypothesis =>
    by_cases mark : token.isSectionMark = true
    · cases token with
      | block inverted span body bodyStop =>
        rw [closer?_block] at unended
        rw [closes_block, blocks_block] at count
        rw [List.cons_append, closer?_block]
        exact hypothesis unended (by omega)
      | close span =>
        cases depth with
        | zero => cases unended
        | succ depth =>
          rw [closes_close, blocks_close] at count
          exact hypothesis unended (by omega)
      | _ => cases mark
    · have leaf : token.isSectionMark = false := Bool.eq_false_iff.mpr mark
      rw [closer?_leaf leaf] at unended
      rw [closes_leaf _ leaf, blocks_leaf _ leaf] at count
      rw [List.cons_append, closer?_leaf leaf]
      exact hypothesis unended count

/-- **A section is closed** by the first tag before which there are as many closing tags as
sections. -/
theorem closer?_eq_some_iff {depth : Nat} {tokens : List Token} {closing : Span} :
    closer? depth tokens = some closing ↔
      ∃ inner later, tokens = inner ++ close closing :: later ∧ closer? depth inner = none ∧
        inner.countP isClose = inner.countP isBlock + depth := by
  constructor
  · exact exists_of_closer?
  · rintro ⟨inner, later, rfl, unended, count⟩
    exact closer?_append_close unended count closing later

/-- **A closing tag closes nothing** if it exceeds the sections that are open. -/
theorem nestWithin_eq_none_iff {opened : List OpenBlock} {current tokens : List Token} :
    nestWithin opened current tokens = none ↔ closer? opened.length tokens ≠ none := by
  induction tokens generalizing opened current with
  | nil => simp
  | cons token rest hypothesis =>
    cases token with
    | block inverted span body bodyStop =>
      rw [nestWithin_block, hypothesis, closer?_block, List.length_cons]
    | close span =>
      cases opened with
      | nil => simp [nestWithin, closer?]
      | cons innermost outer =>
        rw [nestWithin, hypothesis]
        rfl
    | comment span => rw [nestWithin_silent _ _ _ rfl, hypothesis, closer?_leaf rfl]
    | delimiters span => rw [nestWithin_silent _ _ _ rfl, hypothesis, closer?_leaf rfl]
    | _ => rw [nestWithin_leaf _ _ _ rfl, hypothesis, closer?_leaf rfl]

/-! ### The nodes of a tree -/

mutual

/-- A token without its body, then those of the body. -/
def headsOf : Token → List Token
  | block inverted span body bodyStop => block inverted span [] bodyStop :: heads body
  | token => [token]

/-- **The nodes of a tree** in the order of its source, each without its body but with the end of
it. -/
def heads : List Token → List Token
  | [] => []
  | token :: rest => headsOf token ++ heads rest

end

/-- **The tokens that leave a node**, each section with the start of its closing tag, or with the
end that it came with if it is never closed. -/
def ended : List Token → List Token
  | [] => []
  | block inverted span _ bodyStop :: rest =>
    block inverted span [] (((closer? 0 rest).map Span.start).getD bodyStop) :: ended rest
  | token :: rest => if token.isSilent then ended rest else token :: ended rest

/-- The nodes around some tokens: for each open block what stands before it, and the block with the
end that the tokens give it. -/
def surroundings : List OpenBlock → Nat → List Token → List Token
  | [], _, _ => []
  | opened :: outer, depth, tokens =>
    surroundings outer (depth + 1) tokens ++ heads opened.earlier.reverse ++
      [block opened.inverted opened.span []
        (((closer? depth tokens).map Span.start).getD opened.bodyStop)]

@[simp] theorem heads_append (first second : List Token) :
    heads (first ++ second) = heads first ++ heads second := by
  induction first with
  | nil => simp [heads]
  | cons token rest hypothesis => simp [heads, hypothesis]

/-- Tokens that close the same at each depth give what is open the same ends. -/
theorem surroundings_congr {first second : List Token} {depth other : Nat}
    (same : ∀ more, closer? (depth + more) first = closer? (other + more) second)
    (opened : List OpenBlock) :
    surroundings opened depth first = surroundings opened other second := by
  induction opened generalizing depth other with
  | nil => rfl
  | cons innermost outer hypothesis =>
    have here := same 0
    have further : ∀ more,
        closer? (depth + 1 + more) first = closer? (other + 1 + more) second := by
      intro more
      have deeper := same (1 + more)
      rwa [← Nat.add_assoc, ← Nat.add_assoc] at deeper
    rw [Nat.add_zero, Nat.add_zero] at here
    rw [surroundings, surroundings, here, hypothesis further]

theorem surroundings_leaf {token : Token} (leaf : token.isSectionMark = false)
    (opened : List OpenBlock) (depth : Nat) (rest : List Token) :
    surroundings opened depth (token :: rest) = surroundings opened depth rest :=
  surroundings_congr (fun _ => closer?_leaf leaf _ rest) opened

/-- The nodes when no tokens are left. -/
theorem heads_finishAll (opened : List OpenBlock) (current : List Token) (depth : Nat) :
    heads (finishAll opened current) = surroundings opened depth [] ++ heads current.reverse := by
  induction opened generalizing current depth with
  | nil => rfl
  | cons innermost outer hypothesis =>
    rw [finishAll, hypothesis _ (depth + 1), surroundings]
    simp [OpenBlock.finish, heads, headsOf]

/-- **The nodes of the tree that is made** are those around the tokens, those collected so far, and
the tokens. -/
theorem heads_of_nestWithin {opened : List OpenBlock} {current tokens tree : List Token}
    (made : nestWithin opened current tokens = some tree) :
    heads tree = surroundings opened 0 tokens ++ heads current.reverse ++ ended tokens := by
  induction tokens generalizing opened current with
  | nil =>
    rw [nestWithin_nil] at made
    cases made
    rw [heads_finishAll opened current 0]
    simp [ended]
  | cons token rest hypothesis =>
    cases token with
    | block inverted span body bodyStop =>
      rw [nestWithin_block] at made
      have around : surroundings opened 0 (block inverted span body bodyStop :: rest) =
          surroundings opened 1 rest :=
        surroundings_congr (fun more => by rw [closer?_block, Nat.add_right_comm]) opened
      rw [hypothesis made, around]
      simp [surroundings, ended, heads]
    | close span =>
      cases opened with
      | nil => cases made
      | cons innermost outer =>
        have around : surroundings outer 1 (close span :: rest) = surroundings outer 0 rest :=
          surroundings_congr (fun more => by rw [Nat.add_comm, Nat.zero_add]; rfl) outer
        rw [nestWithin] at made
        rw [hypothesis made, surroundings, around]
        simp [OpenBlock.finish, closer?, ended, isSilent, heads, headsOf]
    | comment span =>
      rw [nestWithin_silent _ _ _ rfl] at made
      rw [hypothesis made, surroundings_leaf rfl]
      simp [ended, isSilent]
    | delimiters span =>
      rw [nestWithin_silent _ _ _ rfl] at made
      rw [hypothesis made, surroundings_leaf rfl]
      simp [ended, isSilent]
    | _ =>
      rw [nestWithin_leaf _ _ _ rfl] at made
      rw [hypothesis made, surroundings_leaf rfl]
      simp [ended, isSilent, heads, headsOf]

/-! ### Trees written out -/

mutual

/-- A token, and behind the tag of a section its body and a closing tag that starts at the end of
it. -/
def unnestOne : Token → List Token
  | block inverted span body bodyStop =>
    block inverted span body bodyStop :: (unnest body ++ [close ⟨span.value, bodyStop, bodyStop⟩])
  | token => [token]

/-- **A tree written out as tokens.** -/
def unnest : List Token → List Token
  | [] => []
  | token :: rest => unnestOne token ++ unnest rest

end

/-- Written out, a tree has its steps, if each of its nodes is one that tokens leave. -/
theorem filterMap_unnest {tree : List Token} (heard : ∀ node ∈ heads tree, node.isSilent = false) :
    (unnest tree).filterMap step? = flatten tree := by
  induction tree using forest_induction with
  | nil => simp [unnest, flatten]
  | leaf token rest leaf hypothesis =>
    have headed : heads (token :: rest) = token :: heads rest := by
      cases token with
      | block _ _ _ _ => cases leaf
      | _ => simp [heads, headsOf]
    rw [headed, List.forall_mem_cons] at heard
    have written : unnest (token :: rest) = token :: unnest rest := by
      cases token with
      | block _ _ _ _ => cases leaf
      | _ => simp [unnest, unnestOne]
    rw [written, flatten_leaf leaf, List.filterMap_cons_some (step?_leaf leaf heard.1),
      hypothesis heard.2]
  | block inverted span body bodyStop rest inside behind =>
    have headed : heads (block inverted span body bodyStop :: rest) =
        block inverted span [] bodyStop :: (heads body ++ heads rest) := by
      simp [heads, headsOf]
    rw [headed, List.forall_mem_cons, List.forall_mem_append] at heard
    rw [flatten_block, ← inside heard.2.1, ← behind heard.2.2]
    simp [unnest, unnestOne, step?]

/-- **Making a tree undoes writing it out.** A list whose steps are those of a tree has that tree,
whatever comments and delimiter tags are in it, and every tree of nodes that tokens leave can be
written out. A list of any kind has no tree if and only if some first part of it has more closing
tags than sections. Otherwise the nodes of its tree are its tokens other than closing tags, comments
and delimiter tags, each once and in their order, and a section ends where its closing tag starts,
which is the first one behind it before which as many sections are closed as are opened; it keeps
the end that it came with just if behind it there never are more closing tags than sections. -/
theorem nest?_flattened :
    (∀ tree flat, flat.filterMap step? = flatten tree → nest? flat = some tree) ∧
      (∀ tree, (∀ node ∈ heads tree, node.isSilent = false) →
        (unnest tree).filterMap step? = flatten tree) ∧
      (∀ tokens, nest? tokens = none ↔
        ∃ part, part <+: tokens ∧ part.countP isBlock < part.countP isClose) ∧
      (∀ tokens tree, nest? tokens = some tree → heads tree = ended tokens) ∧
      ∀ rest,
        (closer? 0 rest = none ↔
          ∀ part, part <+: rest → part.countP isClose ≤ part.countP isBlock) ∧
        ∀ closing, closer? 0 rest = some closing ↔
          ∃ inner later, rest = inner ++ close closing :: later ∧ closer? 0 inner = none ∧
            inner.countP isClose = inner.countP isBlock := by
  refine ⟨fun tree flat => nest?_of_steps, fun tree => filterMap_unnest, fun tokens => ?_,
    fun tokens tree made => ?_,
    fun rest => ⟨closer?_eq_none_iff, fun closing => closer?_eq_some_iff⟩⟩
  · rw [nest?, nestWithin_eq_none_iff, List.length_nil, Ne, closer?_eq_none_iff]
    simp only [Nat.add_zero, Classical.not_forall, Nat.not_le, exists_prop]
  · rw [heads_of_nestWithin made]
    simp [surroundings, heads]

/-- A section with a variable and an inverted section in it. -/
def nestedTree : List Token :=
  [text ⟨"a", 0, 1⟩,
    block false ⟨"x", 1, 7⟩ [interpolation true ⟨"v", 7, 12⟩, block true ⟨"y", 12, 18⟩ [] 18] 24,
    partialTag ⟨"p", 30, 36⟩ {}]

/-- Its tokens, with a comment and a delimiter tag, and with closing tags of other names. -/
def flatTokens : List Token :=
  [comment ⟨"c", 0, 0⟩, text ⟨"a", 0, 1⟩, block false ⟨"x", 1, 7⟩ [] openStop,
    interpolation true ⟨"v", 7, 12⟩, block true ⟨"y", 12, 18⟩ [] openStop,
    delimiters ⟨"< >", 18, 18⟩, close ⟨"z", 18, 24⟩, close ⟨"x", 24, 30⟩,
    partialTag ⟨"p", 30, 36⟩ {}]

/-- A section that is never closed, with one in it that is. -/
def unclosedTokens : List Token :=
  [block false ⟨"x", 0, 6⟩ [] 99, block true ⟨"y", 6, 12⟩ [] 99, text ⟨"a", 12, 13⟩,
    close ⟨"y", 13, 19⟩]

theorem nest?_flattened_nested :
    flatTokens.filterMap step? = flatten nestedTree ∧ nest? flatTokens = some nestedTree ∧
      (unnest nestedTree).filterMap step? = flatten nestedTree ∧
      nest? (unclosedTokens ++ [close ⟨"x", 19, 25⟩, close ⟨"x", 25, 31⟩]) = none ∧
      ∃ tree, nest? unclosedTokens = some tree ∧
        heads tree = [block false ⟨"x", 0, 6⟩ [] 99, block true ⟨"y", 6, 12⟩ [] 13,
          text ⟨"a", 12, 13⟩] := by
  obtain ⟨made, written, failed, nodes, _⟩ := nest?_flattened
  have steps : flatTokens.filterMap step? = flatten nestedTree := rfl
  refine ⟨steps, made _ _ steps, written _ ?_, (failed _).mpr ?_, _, rfl,
    (nodes unclosedTokens _ rfl).trans rfl⟩
  · simp [nestedTree, heads, headsOf, isSilent]
  · exact ⟨_, List.prefix_rfl, by decide +kernel⟩

end Mustache.Token
