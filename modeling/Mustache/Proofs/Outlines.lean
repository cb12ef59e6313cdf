import Mustache.Proofs.Lines
import Mustache.Proofs.Nesting
import Mustache.Proofs.OneLineTexts
import Mustache.Proofs.QuotedTexts
import Mustache.Template.Outline

/-!
**What an outline tells of a tree.**

Each node of a tree has one line, in the order of the source. A line tells the sort of its node, its
content and its offsets, whatever the content is, and by its margin how deep the node is. Where no
margin is cut off, this is all of the tree but where bodies end and what partial tags carry.

* `Token.children`, `Token.tree_induction`: the nodes in a node, and induction by them.
* `Token.Row`, `Token.rows`: the nodes of a tree as they are listed, with their depths.
* `Row.line`, `Line.text`: the line of a row, and how it is written.
* `lines_outline`: **the lines of an outline.**
* `Line.text_injective`: a line tells all it shows.
* `Token.outlined`: a tree without what no line shows.
* `rows_append_inj`: **a tree from its rows.**
* `outline_tells`: **the main statement.**
-/

namespace Mustache.Token

/-! ### Nodes and the nodes in them -/

/-- The nodes in a node: the body of a section. -/
def children : Token → List Token
  | block _ _ body _ => body
  | _ => []

/-- A node with other nodes in it, if it is a section. -/
def holding (body : List Token) : Token → Token
  | block inverted span _ bodyStop => block inverted span body bodyStop
  | token => token

/-- **Induction on the nodes of a tree**: each comes after the nodes in it. -/
@[elab_as_elim]
theorem tree_induction {motive : List Token → Prop} (nil : motive [])
    (cons : ∀ token rest, motive token.children → motive rest → motive (token :: rest))
    (tree : List Token) : motive tree := by
  induction tree using forest_induction with
  | nil => exact nil
  | leaf token rest leaf hypothesis =>
    have childless : token.children = [] := by
      cases token with
      | block _ _ _ _ => cases leaf
      | _ => rfl
    exact cons token rest (childless ▸ nil) hypothesis
  | block inverted span body bodyStop rest inside behind =>
    exact cons (block inverted span body bodyStop) rest inside behind

theorem preorder_cons (token : Token) (rest : List Token) :
    preorder (token :: rest) = token.bare :: (preorder token.children ++ preorder rest) := by
  cases token <;> simp [preorder, nodes, bare, children]

/-! ### Rows -/

/-- A node as it is listed: how deep it is, its sort, and its content and place. -/
structure Row where
  depth : Nat
  kind : Kind
  span : Span
  deriving DecidableEq, Repr

/-- The row of a node at a depth. -/
def row (depth : Nat) (token : Token) : Row := ⟨depth, token.kind, token.span⟩

mutual

/-- The row of a token, then those of its body. -/
def rowsOf (depth : Nat) : Token → List Row
  | block inverted span body bodyStop =>
    row depth (block inverted span body bodyStop) :: rows (depth + 1) body
  | token => [row depth token]

/-- **The rows of a tree** whose nodes stand at a depth. -/
def rows (depth : Nat) : List Token → List Row
  | [] => []
  | token :: rest => rowsOf depth token ++ rows depth rest

end

theorem rows_cons (depth : Nat) (token : Token) (rest : List Token) :
    rows depth (token :: rest) =
      row depth token :: (rows (depth + 1) token.children ++ rows depth rest) := by
  cases token <;> simp [rows, rowsOf, children]

/-- There is one row for each node, in the order of the nodes. -/
theorem map_rows (depth : Nat) (tree : List Token) :
    (rows depth tree).map (fun row => (row.kind, row.span)) =
      (preorder tree).map fun node => (node.kind, node.span) := by
  induction tree using tree_induction generalizing depth with
  | nil => simp [rows, preorder]
  | cons token rest inside behind =>
    have own : token.bare.kind = token.kind := by
      cases token with
      | block inverted _ _ _ => cases inverted <;> rfl
      | _ => rfl
    rw [rows_cons, preorder_cons, List.map_cons, List.map_cons, List.map_append, List.map_append,
      inside, behind, own, bare_span]
    rfl

/-! ### The lines of an outline -/

/-- What a line of an outline shows of a row, its margin counted in levels. -/
structure Line where
  margin : Nat
  kind : Kind
  span : Span
  deriving DecidableEq, Repr

/-- The line of a row in the outline from a level on. What would stand left of the edge stands at
the edge. -/
def Row.line (level : Int) (row : Row) : Line := ⟨(level + row.depth).toNat, row.kind, row.span⟩

/-- **How a line is written**: two spaces for each level of its margin, the sort, the content in
quotes, and the offsets. -/
def Line.text (line : Line) : List Char :=
  List.replicate (2 * line.margin) ' ' ++
    (line.kind.label ++ " " ++ Text.quoted line.span.value ++
      " [" ++ toString line.span.start ++ ":" ++ toString line.span.stop ++ "]").toList

theorem outlineTokens_cons (level : Int) (token : Token) (rest : List Token) :
    outlineTokens level (token :: rest) = outlineLine level token ::
      (outlineTokens (level + 1) token.children ++ outlineTokens level rest) := by
  cases token <;> simp [outlineTokens, outlineToken, children]

theorem outlineLine_eq (level : Int) (depth : Nat) (token : Token) :
    (outlineLine (level + depth) token).toList = ((row depth token).line level).text := by
  simp [outlineLine, row, Row.line, Line.text]

theorem outlineTokens_eq (level : Int) (depth : Nat) (tree : List Token) :
    (outlineTokens (level + depth) tree).map String.toList =
      (rows depth tree).map fun row => (row.line level).text := by
  induction tree using tree_induction generalizing depth with
  | nil => simp [outlineTokens, rows]
  | cons token rest inside behind =>
    have further : level + depth + 1 = level + (depth + 1 : Nat) := by omega
    rw [outlineTokens_cons, rows_cons, List.map_cons, List.map_cons, List.map_append,
      List.map_append, outlineLine_eq, further, inside, behind]

theorem toList_outline (tree : List Token) (level : Int) :
    (outline tree level).toList =
      Text.joinLines ((rows 0 tree).map fun row => (row.line level).text) := by
  rw [outline, String.toList_intercalate, ← outlineTokens_eq level 0 tree]
  simp [Text.joinLines]

theorem Line.newline_notMem_text (line : Line) : '\n' ∉ line.text := by
  have label : Text.OneLine line.kind.label := by
    cases line.kind <;> decide
  have shown : Text.OneLine (line.kind.label ++ " " ++ Text.quoted line.span.value ++ " [" ++
      toString line.span.start ++ ":" ++ toString line.span.stop ++ "]") :=
    ((((((label.append (by decide)).append (Text.oneLine_quoted _)).append (by decide)).append
      (Text.oneLine_int _)).append (by decide)).append (Text.oneLine_int _)).append (by decide)
  rw [text, List.mem_append]
  exact not_or_intro (fun member => absurd (List.eq_of_mem_replicate member) (by decide))
    (Text.oneLine_iff.mp shown)

/-- **The lines of an outline** are those of the nodes. -/
theorem lines_outline {tree : List Token} (nonempty : tree ≠ []) (level : Int) :
    Text.splitLines (outline tree level).toList =
      (rows 0 tree).map fun row => (row.line level).text := by
  rw [toList_outline]
  refine Text.splitLines_joinLines ?_ fun text member => ?_
  · obtain ⟨token, rest, rfl⟩ := List.exists_cons_of_ne_nil nonempty
    rw [rows_cons]
    exact List.cons_ne_nil _ _
  · obtain ⟨row, _, rfl⟩ := List.mem_map.mp member
    exact (row.line level).newline_notMem_text

/-! ### What a line tells -/

theorem Kind.blank_notMem_label (kind : Kind) : ' ' ∉ kind.label.toList := by
  cases kind <;> decide

theorem Kind.label_injective {first second : Kind} (same : first.label = second.label) :
    first = second := by
  cases first <;> cases second <;> first | rfl | exact absurd same (by decide)

/-- The margin of a line ends where its label starts. -/
theorem Kind.margin_inj {first second : Kind} {count other : Nat} {left right : List Char}
    (same : List.replicate count ' ' ++ (first.label.toList ++ left) =
      List.replicate other ' ' ++ (second.label.toList ++ right)) :
    count = other ∧ first.label.toList ++ left = second.label.toList ++ right := by
  have spaces : ∀ count, ∀ char ∈ List.replicate count ' ', (char == ' ') = true :=
    fun count char member => beq_of_eq (List.eq_of_mem_replicate member)
  have starts : ∀ (kind : Kind) (rest : List Char),
      (kind.label.toList ++ rest).dropWhile (· == ' ') = kind.label.toList ++ rest := by
    intro kind rest
    cases kind <;> rfl
  have shown := congrArg (List.dropWhile (· == ' ')) same
  rw [List.dropWhile_append_of_pos (spaces _), List.dropWhile_append_of_pos (spaces _), starts,
    starts] at shown
  rw [shown] at same
  have margins := congrArg List.length (List.append_cancel_right same)
  rw [List.length_replicate, List.length_replicate] at margins
  exact ⟨margins, shown⟩

theorem notMem_int {mark : Char} (other : Text.isNumeric mark = false) (number : Int) :
    mark ∉ (toString number).toList := fun member =>
  Bool.eq_false_iff.mp other (Text.numeric_int number mark member)

namespace Line

/-- The parts of a line: each of them ends at the mark behind it, and what stands in quotes ends
by itself. -/
theorem text_eq (line : Line) :
    line.text = List.replicate (2 * line.margin) ' ' ++ (line.kind.label.toList ++ ' ' ::
      (Text.quotedList line.span.value.toList ++ ' ' :: '[' ::
        ((toString line.span.start).toList ++
          ':' :: ((toString line.span.stop).toList ++ [']'])))) := by
  simp [text, Text.quoted]

theorem text_ne_nil (line : Line) : line.text ≠ [] := by
  simp [text_eq]

/-- **A line tells all it shows**, whatever stands in quotes. -/
theorem text_injective {first second : Line} (same : first.text = second.text) :
    first = second := by
  rw [text_eq, text_eq] at same
  obtain ⟨margin, shown⟩ := Kind.margin_inj same
  obtain ⟨label, quoted⟩ := Text.append_mark_inj (Kind.blank_notMem_label _)
    (Kind.blank_notMem_label _) shown
  obtain ⟨value, offsets⟩ := Text.quotedList_append_inj quoted
  obtain ⟨start, behind⟩ := Text.append_mark_inj (notMem_int (by decide) _)
    (notMem_int (by decide) _) (List.cons.inj (List.cons.inj offsets).2).2
  have stop := List.append_cancel_right behind
  calc first
    _ = ⟨first.margin, first.kind, first.span.value, first.span.start, first.span.stop⟩ := rfl
    _ = ⟨second.margin, second.kind, second.span.value, second.span.start, second.span.stop⟩ := by
      rw [Nat.eq_of_mul_eq_mul_left (by decide) margin,
        Kind.label_injective (String.toList_inj.mp label), String.toList_inj.mp value,
        Text.toString_int_injective (String.toList_inj.mp start),
        Text.toString_int_injective (String.toList_inj.mp stop)]

end Line

/-! ### A tree from its rows -/

mutual

/-- A token without what no line shows: where bodies end, and what the line of a partial tag held
before it. -/
def outlinedOne : Token → Token
  | block inverted span body _ => block inverted span (outlined body) openStop
  | partialTag span _ => partialTag span {}
  | token => token

/-- **A tree without what no line shows.** -/
def outlined : List Token → List Token
  | [] => []
  | token :: rest => outlinedOne token :: outlined rest

end

/-- What is kept of a token is its sort, its content and its place, and what is kept of the nodes
in it. -/
theorem outlined_cons (token : Token) (rest : List Token) :
    outlined (token :: rest) =
      (ofKind token.kind token.span).holding (outlined token.children) :: outlined rest := by
  cases token with
  | interpolation escaped _ =>
    cases escaped <;> simp [outlined, outlinedOne, ofKind, kind, span, holding]
  | block inverted _ _ _ =>
    cases inverted <;> simp [outlined, outlinedOne, ofKind, kind, span, holding, children]
  | _ => simp [outlined, outlinedOne, ofKind, kind, span, holding]

/-- No line shows what is left out. -/
theorem rows_outlined (depth : Nat) (tree : List Token) :
    rows depth (outlined tree) = rows depth tree := by
  induction tree using tree_induction generalizing depth with
  | nil => rw [outlined]
  | cons token rest inside behind =>
    have kept : row depth (outlinedOne token) = row depth token := by
      cases token with
      | block inverted _ _ _ => cases inverted <;> simp [outlinedOne, row, kind, span]
      | _ => simp [outlinedOne, row, kind, span]
    have held : (outlinedOne token).children = outlined token.children := by
      cases token <;> simp [outlinedOne, outlined, children]
    rw [outlined, rows_cons, rows_cons, kept, held, inside, behind]

/-- Rows behind a tree: the first of them, if there is one, is not as deep as the tree is. -/
def Shallow (depth : Nat) (later : List Row) : Prop := ∀ row ∈ later.head?, row.depth < depth

theorem Shallow.ne_cons {depth : Nat} {later : List Row} (shallow : Shallow depth later)
    (token : Token) (more : List Row) : later ≠ row depth token :: more := by
  rintro rfl
  exact Nat.lt_irrefl _ (shallow _ rfl)

/-- Behind the nodes in a node come its siblings, which are less deep. -/
theorem Shallow.siblings {depth : Nat} {later : List Row} (shallow : Shallow depth later)
    (rest : List Token) : Shallow (depth + 1) (rows depth rest ++ later) := by
  cases rest with
  | nil => exact fun row member => Nat.lt_succ_of_lt (shallow row member)
  | cons token more =>
    intro row member
    rw [rows_cons] at member
    cases member
    exact Nat.lt_succ_self depth

/-- **A tree from its rows**, whatever less deep rows stand behind them. -/
theorem rows_append_inj {first second : List Token} {depth : Nat} {left right : List Row}
    (shallow : Shallow depth left) (other : Shallow depth right)
    (same : rows depth first ++ left = rows depth second ++ right) :
    outlined first = outlined second ∧ left = right := by
  induction first using tree_induction generalizing second depth left right with
  | nil =>
    cases second with
    | nil => exact ⟨rfl, same⟩
    | cons token rest =>
      rw [rows_cons] at same
      exact absurd same (shallow.ne_cons token _)
  | cons token rest inside behind =>
    rw [rows_cons, List.cons_append, List.append_assoc] at same
    cases second with
    | nil => exact absurd same.symm (other.ne_cons token _)
    | cons next more =>
      rw [rows_cons, List.cons_append, List.append_assoc] at same
      -- the body ends where the next sibling stands, or else what is behind the whole tree
      obtain ⟨own, lower⟩ := List.cons.inj same
      obtain ⟨_, kinds, spans⟩ := Row.mk.inj own
      obtain ⟨bodies, level⟩ := inside (shallow.siblings rest) (other.siblings more) lower
      obtain ⟨siblings, later⟩ := behind shallow other level
      exact ⟨by rw [outlined_cons, outlined_cons, kinds, spans, bodies, siblings], later⟩

/-! ### What an outline tells -/

/-- Where no margin is cut off, a line tells the depth. -/
theorem Row.line_injective {level : Int} (inside : 0 ≤ level) {first second : Row}
    (same : first.line level = second.line level) : first = second := by
  obtain ⟨margin, kind, span⟩ := Line.mk.inj same
  have depth : first.depth = second.depth := by omega
  calc first
    _ = ⟨first.depth, first.kind, first.span⟩ := rfl
    _ = ⟨second.depth, second.kind, second.span⟩ := by rw [depth, kind, span]

theorem outline_ne_empty {tree : List Token} (nonempty : tree ≠ []) (level : Int) :
    outline tree level ≠ outline [] level := by
  intro same
  have lines := lines_outline nonempty level
  rw [same, toList_outline] at lines
  have blank : [] ∈ (rows 0 tree).map fun row => (row.line level).text :=
    lines ▸ List.mem_singleton_self []
  obtain ⟨row, _, empty⟩ := List.mem_map.mp blank
  exact (row.line level).text_ne_nil empty

/-- **Outlines are the same just if their lines are.** -/
theorem outline_eq_iff {first second : List Token} {level : Int} :
    outline first level = outline second level ↔
      (rows 0 first).map (Row.line level) = (rows 0 second).map (Row.line level) := by
  have texts : ∀ tree, ((rows 0 tree).map fun row => (row.line level).text) =
      ((rows 0 tree).map (Row.line level)).map Line.text := fun tree => by
    rw [List.map_map]
    rfl
  constructor
  · intro same
    refine (List.map_inj_right fun _ _ => Line.text_injective).mp ?_
    rw [← texts, ← texts]
    -- a tree without nodes has an outline without lines, which is cut into one empty line
    rcases eq_or_ne first [] with rfl | some
    · rcases eq_or_ne second [] with rfl | other
      · rfl
      · exact absurd same.symm (outline_ne_empty other level)
    · rcases eq_or_ne second [] with rfl | other
      · exact absurd same (outline_ne_empty some level)
      · rw [← lines_outline some level, ← lines_outline other level, same]
  · intro same
    rw [← String.toList_inj, toList_outline, toList_outline, texts, texts, same]

/-- Trees have the same rows just if they are the same but for what no line shows. -/
theorem rows_eq_iff {first second : List Token} :
    rows 0 first = rows 0 second ↔ outlined first = outlined second := by
  constructor
  · intro same
    have nothing : Shallow 0 [] := nofun
    exact (rows_append_inj nothing nothing (by rw [same])).1
  · intro same
    rw [← rows_outlined, same, rows_outlined]

/-- **What an outline tells.** The outline of a tree that is not empty has one line for each node,
in the order of the source; its margin is two spaces for each level, and it shows the sort, the
content and the offsets, whatever the content is. Two outlines from the same level on are the same
just if their lines show the same. If the level is not left of the edge, this is so just if the
trees are the same but for the ends of bodies and for what partial tags carry. -/
theorem outline_tells :
    (∀ tree level, tree ≠ [] → Text.splitLines (outline tree level).toList =
      (rows 0 tree).map fun row => (row.line level).text) ∧
    (∀ tree, (rows 0 tree).map (fun row => (row.kind, row.span)) =
      (preorder tree).map fun node => (node.kind, node.span)) ∧
    (∀ first second level, outline first level = outline second level ↔
      (rows 0 first).map (Row.line level) = (rows 0 second).map (Row.line level)) ∧
    ∀ first second level, 0 ≤ level →
      (outline first level = outline second level ↔ outlined first = outlined second) := by
  refine ⟨fun tree level nonempty => lines_outline nonempty level, map_rows 0,
    fun first second level => outline_eq_iff, fun first second level inside => ?_⟩
  rw [outline_eq_iff, List.map_inj_right fun _ _ => Row.line_injective inside, rows_eq_iff]

/-- A section whose name holds a line feed and quote marks, with a text in it that looks like the
end of a line and the start of another one. -/
def quotedTree : List Token :=
  [block false ⟨"a\n'b\"", 0, 9⟩ [text ⟨"' [1:2]\n  NAME", 9, 23⟩] 23, partialTag ⟨"p", 32, 38⟩ {}]

/-- A section with a variable in it. -/
def nameInside : List Token :=
  [block false ⟨"a", 0, 6⟩ [interpolation true ⟨"b", 12, 17⟩] 17]

/-- A section with nothing in it, and the same variable behind it. -/
def nameBehind : List Token :=
  [block false ⟨"a", 0, 6⟩ [] 6, interpolation true ⟨"b", 12, 17⟩]

theorem outline_tells_quoted :
    (quotedTree ≠ [] ∧ Text.splitLines (outline quotedTree 0).toList =
      ["SECTION 'a\\n\\'b\"' [0:9]".toList, "  TEXT \"' [1:2]\\n  NAME\" [9:23]".toList,
        "PARTIAL 'p' [32:38]".toList]) ∧
    (0 : Int) ≤ 0 ∧ outline nameInside 0 ≠ outline nameBehind 0 := by
  obtain ⟨lines, _, _, tells⟩ := outline_tells
  refine ⟨⟨by simp [quotedTree], ?_⟩, Int.le_refl 0, fun same => ?_⟩
  · rw [lines quotedTree 0 (by simp [quotedTree])]
    decide +kernel
  · have trees := (tells nameInside nameBehind 0 (Int.le_refl 0)).mp same
    cases congrArg List.length trees

/-- Left of the edge, an outline does not tell what is in a section and what is behind it. -/
theorem not_outline_tells_left :
    ¬ ∀ (first second : List Token) (level : Int), first ≠ [] → second ≠ [] →
      outline first level = outline second level → outlined first = outlined second := by
  intro tells
  have same : outline nameInside (-1) = outline nameBehind (-1) := by
    rw [outline_eq_iff]
    decide +kernel
  have trees := tells nameInside nameBehind (-1) (by simp [nameInside]) (by simp [nameBehind]) same
  cases congrArg List.length trees

end Mustache.Token
