import Mustache.Proofs.Flattening

/-!
**The tree of balanced tokens.**

A tree is made with a stack of open blocks. Of balanced tokens it has one node for each token that
is neither a comment nor a delimiter tag and does not end a section; the body of a section is the
tree of the tokens between its two tags, and it is kept with the section where the closing tag
starts.

* `Token.Nests`: the tree of balanced tokens, section by section.
* `nest?_eq_some`: the stack makes that tree.
* `Token.Level`: the lists of siblings in a tree.
* `Token.preorder`: the nodes of a tree in the order of its source.
* `Nests.preorder_eq`, `Level.nests`, `Level.section_mem`: where the nodes come from.
* `Level.bare_mem_preorder`: the tokens of a tree are among its nodes.
-/

namespace Mustache.Token

/-- **The tree of balanced tokens**: a section takes the tree of the tokens up to its closing tag as
its body. -/
inductive Nests : List Token → List Token → Prop
  | nil : Nests [] []
  | silent {token : Token} {rest forest : List Token} :
      token.isSectionMark = false → token.isSilent = true → Nests rest forest →
      Nests (token :: rest) forest
  | leaf {token : Token} {rest forest : List Token} :
      token.isSectionMark = false → token.isSilent = false → Nests rest forest →
      Nests (token :: rest) (token :: forest)
  | section {inverted : Bool} {span closing : Span} {old inner body rest forest : List Token}
      {bodyStop : Int} :
      closing.value = span.value → Balanced inner → Nests inner body → Nests rest forest →
      Nests (block inverted span old bodyStop :: (inner ++ close closing :: rest))
        (block inverted span body closing.start :: forest)

/-- Balanced tokens have a tree. -/
theorem Balanced.exists_nests {tokens : List Token} (balanced : Balanced tokens) :
    ∃ forest, Nests tokens forest := by
  induction balanced with
  | nil => exact ⟨[], .nil⟩
  | @leaf token rest leaf _ hypothesis =>
    obtain ⟨forest, nests⟩ := hypothesis
    by_cases silent : token.isSilent = true
    · exact ⟨forest, .silent leaf silent nests⟩
    · exact ⟨token :: forest, .leaf leaf (Bool.eq_false_iff.mpr silent) nests⟩
  | «section» same inside _ within behind =>
    obtain ⟨body, nests⟩ := within
    obtain ⟨forest, later⟩ := behind
    exact ⟨_, .section same inside nests later⟩

/-- Tokens that are neither section marks nor silent are a tree. -/
theorem nests_leaves {tokens : List Token}
    (leaves : ∀ token ∈ tokens, token.isSectionMark = false ∧ token.isSilent = false) :
    Nests tokens tokens := by
  induction tokens with
  | nil => exact .nil
  | cons token rest hypothesis =>
    obtain ⟨⟨leaf, heard⟩, later⟩ := List.forall_mem_cons.mp leaves
    exact .leaf leaf heard (hypothesis later)

/-- The tree of balanced tokens has their steps. -/
theorem Nests.filterMap_step? {flat forest : List Token} (nests : Nests flat forest) :
    flat.filterMap step? = flatten forest := by
  induction nests with
  | nil => simp [flatten]
  | @silent token _ _ leaf silent _ hypothesis =>
    have none : token.step? = none := by
      cases token with
      | comment _ => rfl
      | delimiters _ => rfl
      | close _ => cases leaf
      | _ => cases silent
    rw [List.filterMap_cons_none none, hypothesis]
  | @leaf token _ _ leaf heard _ hypothesis =>
    have plain : token.isBlock = false := by
      cases token with
      | block _ _ _ _ => cases leaf
      | _ => rfl
    rw [flatten_leaf plain, List.filterMap_cons_some (step?_leaf plain heard), hypothesis]
  | «section» _ _ _ _ inside behind =>
    rw [flatten_block, ← inside, ← behind]
    simp [step?]

/-- **The tree of balanced tokens is the one that is made.** -/
theorem nest?_eq_some {flat forest : List Token} (nests : Nests flat forest) :
    nest? flat = some forest := nest?_of_steps nests.filterMap_step?

/-! ### The nodes of a tree -/

/-- **The lists of siblings in a tree**: the tree itself, and the body of each section. -/
inductive Level (tree : List Token) : List Token → Prop
  | root : Level tree tree
  | body {inverted : Bool} {span : Span} {siblings body : List Token} {bodyStop : Int} :
      Level tree siblings → block inverted span body bodyStop ∈ siblings → Level tree body

/-- A token without a body. -/
def bare : Token → Token
  | block inverted span _ _ => block inverted span [] openStop
  | token => token

mutual

/-- A token without its body, then the nodes of the body. -/
def nodes : Token → List Token
  | block inverted span body _ => block inverted span [] openStop :: preorder body
  | token => [token]

/-- **The nodes of a tree in the order of its source**, each without its body. -/
def preorder : List Token → List Token
  | [] => []
  | token :: rest => nodes token ++ preorder rest

end

theorem bare_of_leaf {token : Token} (leaf : token.isSectionMark = false) : token.bare = token := by
  cases token with
  | block _ _ _ _ => cases leaf
  | _ => rfl

theorem nodes_of_leaf {token : Token} (leaf : token.isSectionMark = false) :
    token.nodes = [token] := by
  cases token with
  | block _ _ _ _ => cases leaf
  | _ => simp [nodes]

@[simp] theorem bare_span (token : Token) : token.bare.span = token.span := by
  cases token <;> rfl

namespace Nests

variable {flat forest : List Token}

/-- **The nodes of a tree are the tokens** that leave one. -/
theorem preorder_eq (nests : Nests flat forest) :
    preorder forest = (flat.filter fun token => !token.isSilent).map bare := by
  induction nests with
  | nil => rw [preorder, List.filter_nil, List.map_nil]
  | silent _ silent _ hypothesis =>
    rw [List.filter_cons_of_neg (by simp [silent]), hypothesis]
  | leaf leaf heard _ hypothesis =>
    rw [List.filter_cons_of_pos (by simp [heard]), List.map_cons, preorder, hypothesis,
      nodes_of_leaf leaf, bare_of_leaf leaf]
    rfl
  | «section» _ _ _ _ inside behind =>
    rw [preorder, nodes, List.filter_cons_of_pos rfl, List.filter_append,
      List.filter_cons_of_neg (by simp [isSilent]), List.map_cons, List.map_append, inside, behind]
    rfl

/-- The nodes of one level come in the order of the tokens. -/
theorem map_span_sublist (nests : Nests flat forest) :
    (forest.map span).Sublist (flat.map span) := by
  induction nests with
  | nil => exact .slnil
  | silent _ _ _ hypothesis => exact hypothesis.cons _
  | leaf _ _ _ hypothesis => exact hypothesis.cons_cons _
  | «section» _ _ _ _ _ behind =>
    rw [List.map_cons, List.map_cons, List.map_append, List.map_cons]
    exact ((behind.cons _).trans (List.sublist_append_right _ _)).cons_cons _

/-- A node leaves a node. -/
theorem isSilent_eq_false (nests : Nests flat forest) :
    ∀ token ∈ forest, token.isSilent = false := by
  induction nests with
  | nil => exact fun token member => by cases member
  | silent _ _ _ hypothesis => exact hypothesis
  | leaf _ heard _ hypothesis =>
    intro token member
    rcases List.mem_cons.mp member with rfl | inside
    · exact heard
    · exact hypothesis token inside
  | «section» _ _ _ _ _ behind =>
    intro token member
    rcases List.mem_cons.mp member with rfl | inside
    · rfl
    · exact behind token inside

/-- A node without a body is one of the tokens. -/
theorem mem_of_leaf (nests : Nests flat forest) :
    ∀ token ∈ forest, token.isSectionMark = false → token ∈ flat := by
  induction nests with
  | nil => exact fun token member => by cases member
  | silent _ _ _ hypothesis =>
    exact fun token member leaf => List.mem_cons_of_mem _ (hypothesis token member leaf)
  | leaf _ _ _ hypothesis =>
    intro token member leaf
    rcases List.mem_cons.mp member with rfl | inside
    · exact List.mem_cons_self
    · exact List.mem_cons_of_mem _ (hypothesis token inside leaf)
  | «section» _ _ _ _ _ behind =>
    intro token member leaf
    rcases List.mem_cons.mp member with rfl | inside
    · cases leaf
    · exact List.mem_cons_of_mem _ (List.mem_append_right _
        (List.mem_cons_of_mem _ (behind token inside leaf)))

/-- **A section is made of its two tags** and of what stands between them. -/
theorem section_mem (nests : Nests flat forest) {inverted : Bool} {span : Span}
    {body : List Token} {bodyStop : Int} (member : block inverted span body bodyStop ∈ forest) :
    ∃ before old oldStop inner closing after,
      flat = before ++ block inverted span old oldStop :: (inner ++ close closing :: after) ∧
        closing.value = span.value ∧ closing.start = bodyStop ∧ Balanced inner ∧
        Nests inner body := by
  induction nests with
  | nil => cases member
  | @silent token rest forest _ _ _ hypothesis =>
    obtain ⟨before, old, oldStop, inner, closing, after, rfl, found⟩ := hypothesis member
    exact ⟨token :: before, old, oldStop, inner, closing, after, rfl, found⟩
  | @leaf token rest forest leaf _ _ hypothesis =>
    rcases List.mem_cons.mp member with rfl | inside
    · cases leaf
    · obtain ⟨before, old, oldStop, inner, closing, after, rfl, found⟩ := hypothesis inside
      exact ⟨token :: before, old, oldStop, inner, closing, after, rfl, found⟩
  | @«section» sort mark closing old inner _ rest _ oldStop same balanced nests _ _ behind =>
    rcases List.mem_cons.mp member with here | inside
    · cases here
      exact ⟨[], old, oldStop, inner, closing, rest, rfl, same, rfl, balanced, nests⟩
    · obtain ⟨before, later, laterStop, between, last, after, rfl, found⟩ := behind inside
      refine ⟨block sort mark old oldStop :: (inner ++ close closing :: before), later, laterStop,
        between, last, after, ?_, found⟩
      simp only [List.append_assoc, List.cons_append]

end Nests

/-- The nodes of a tree are those of its tokens. -/
theorem mem_preorder {tree : List Token} {node : Token} :
    node ∈ preorder tree ↔ ∃ token ∈ tree, node ∈ token.nodes := by
  induction tree with
  | nil => exact ⟨nofun, nofun⟩
  | cons token rest hypothesis =>
    rw [preorder, List.mem_append, hypothesis]
    simp only [List.mem_cons, exists_eq_or_imp]

/-- **The nodes of a level** are nodes of the tree. -/
theorem Level.mem_preorder {tree siblings : List Token} (level : Level tree siblings)
    {node : Token} (member : node ∈ preorder siblings) : node ∈ preorder tree := by
  induction level with
  | root => exact member
  | body _ inside hypothesis =>
    refine hypothesis (Token.mem_preorder.mpr ⟨_, inside, ?_⟩)
    rw [nodes]
    exact List.mem_cons_of_mem _ member

/-- The levels of a body are levels of the tree. -/
theorem Level.trans {tree middle siblings : List Token} (outer : Level tree middle)
    (inner : Level middle siblings) : Level tree siblings := by
  induction inner with
  | root => exact outer
  | body _ inside hypothesis => exact hypothesis.body inside

/-- The levels of a tree that is one section are the tree and those of its body. -/
theorem Level.of_section {inverted : Bool} {span : Span} {body siblings : List Token}
    {bodyStop : Int} (level : Level [block inverted span body bodyStop] siblings) :
    siblings = [block inverted span body bodyStop] ∨ Level body siblings := by
  induction level with
  | root => exact .inl rfl
  | body _ inside hypothesis =>
    rcases hypothesis with rfl | inner
    · cases List.mem_singleton.mp inside
      exact .inr .root
    · exact .inr (inner.body inside)

/-- A token of a tree is one of its nodes, without its body. -/
theorem Level.bare_mem_preorder {tree siblings : List Token} (level : Level tree siblings)
    {token : Token} (member : token ∈ siblings) : token.bare ∈ preorder tree := by
  refine level.mem_preorder (Token.mem_preorder.mpr ⟨token, member, ?_⟩)
  cases token with
  | block inverted span body stop =>
    rw [nodes]
    exact List.mem_cons_self
  | _ => exact List.mem_cons_self

/-- **Each level of a tree** is the tree of some successive tokens. -/
theorem Level.nests {flat tree siblings : List Token} (level : Level tree siblings)
    (nests : Nests flat tree) : ∃ inner, inner <:+: flat ∧ Nests inner siblings := by
  induction level with
  | root => exact ⟨flat, List.infix_rfl, nests⟩
  | @body inverted span _ _ _ _ member hypothesis =>
    obtain ⟨outer, part, within⟩ := hypothesis
    obtain ⟨before, old, oldStop, inner, closing, after, rfl, _, _, _, inside⟩ :=
      within.section_mem member
    refine ⟨inner, List.IsInfix.trans ⟨before ++ [block inverted span old oldStop],
      close closing :: after, ?_⟩ part, inside⟩
    simp only [List.append_assoc, List.cons_append, List.nil_append]

/-- **Each section of a tree** is made of its two tags and of what stands between them. -/
theorem Level.section_mem {flat tree siblings body : List Token} {inverted : Bool} {span : Span}
    {bodyStop : Int} (level : Level tree siblings) (nests : Nests flat tree)
    (bodiless : ∀ token ∈ flat, token.bare = token)
    (member : block inverted span body bodyStop ∈ siblings) :
    ∃ before inner closing after,
      flat = before ++ block inverted span [] openStop :: (inner ++ close closing :: after) ∧
        Balanced inner ∧ Nests inner body ∧ closing.value = span.value ∧
        closing.start = bodyStop := by
  obtain ⟨outer, ⟨left, right, rfl⟩, within⟩ := level.nests nests
  obtain ⟨before, old, oldStop, inner, closing, after, rfl, value, start, balanced, inside⟩ :=
    within.section_mem member
  cases bodiless (block inverted span old oldStop) (by simp)
  refine ⟨left ++ before, inner, closing, after ++ right, ?_, balanced, inside, value, start⟩
  simp only [List.append_assoc, List.cons_append]

end Mustache.Token
