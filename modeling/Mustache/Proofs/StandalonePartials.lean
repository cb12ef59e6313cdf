import Mustache.Proofs.IndentedTemplates
import Mustache.Proofs.StandaloneBlocks

/-!
**Partials that stand alone on their lines.**

A partial tag may stand alone on its line, with spaces and tabs before it. The blanks and the line
feed of the line are stripped, and the blanks before the tag come back before each line of the
partial. So the line comes to the indented partial, and nothing else is left of it.

* `PartialLine`: such a line as it is written.
* `PartialLine.parse_text`: its tree, which is the tag with the blanks before it.
* `PartialLine.exists_indented`: such a line in an indented text.
* `Render.Gives`, `Render.ComesAround`: partials that give a text, and a template that comes to two
  others with a step between them.
* `outcome_standalone`: **the main statement.**
* `not_standalone_broken`: a partial with a line feed in its name.
-/

namespace Mustache

variable {σ : Type}

open Lexer

/-! ### Lines with a partial tag -/

namespace Indentation

/-- An indentation as what stands at one end of a line. -/
def margin (indentation : Indentation) : Margin :=
  ⟨indentation.val, indentation.blank, indentation.newline_not_mem⟩

/-- A space. -/
def space : Indentation := ⟨[' '], fun _ member => .inl (List.mem_singleton.mp member)⟩

/-- A tab. -/
def tab : Indentation := ⟨['\t'], fun _ member => .inr (List.mem_singleton.mp member)⟩

end Indentation

/-- **A partial tag alone on its line**: its name, the blanks in it, and what stands before and
behind it on the line. -/
structure PartialLine where
  name : List Char
  gaps : Gaps
  indentation : Indentation
  after : Margin

namespace PartialLine

variable (line : PartialLine)

/-- The tag. -/
def tag : Item := .tag .partialTag line.gaps line.name

/-- The line with its line feed. -/
def items : List Item := Item.alone line.indentation.margin line.tag line.after true

/-- **The template of the line.** -/
def text (delimiters : Delimiters) : String :=
  String.ofList (Item.printAll delimiters line.items)

/-- The tag ends where its closing delimiter is printed. -/
def Legible (delimiters : Delimiters) : Prop := line.tag.Legible delimiters []

instance (delimiters : Delimiters) : Decidable (line.Legible delimiters) := by
  unfold Legible
  infer_instance

/-- The line as the tag sees it. -/
def host : HostLine := { indentation := String.ofList line.indentation.val }

variable {line} {delimiters : Delimiters}

theorem lex_text (unbroken : delimiters.Unbroken) (legible : line.Legible delimiters) :
    lex delimiters 0 (line.text delimiters).toList =
      ⟨Item.tokensOf delimiters 0 line.items, none, delimiters⟩ := by
  unfold text
  rw [String.toList_ofList]
  exact lex_printAll unbroken.inkFirst_closing (Item.legibleAll_alone unbroken _ _ legible true)

theorem balanced_items (line : PartialLine) (delimiters : Delimiters) :
    Token.Balanced (Item.tokensOf delimiters 0 line.items) := by
  obtain ⟨span, _, lone⟩ := Item.loneTag_alone line.indentation.margin line.after .partialTag
    line.gaps line.name true 0
  exact lone.balanced_leaf rfl

/-- The line is a template of its own. -/
theorem wholeLines_text (unbroken : delimiters.Unbroken) (legible : line.Legible delimiters) :
    WholeLines delimiters (line.text delimiters) := by
  have lexed := lex_text unbroken legible
  refine ⟨_, Reading.ofTemplate_eq_ok_iff.mpr (Reading.ofText_eq_ok_iff.mpr ⟨?_, ?_, rfl⟩), ?_, ?_⟩
  · rw [lexed]
  · rw [lexed]
    exact line.balanced_items delimiters
  · show (lex delimiters 0 (line.text delimiters).toList).delimiters = delimiters
    rw [lexed]
  · rw [Reading.after_tokens, lexed]
    refine Token.newline_of_getLast?_eq (Token.getLast?_annotate {} _) ?_
    obtain ⟨last, here, newline⟩ : ∃ token ∈ (Item.tokensOf delimiters 0 line.items).getLast?,
        token.isNewline = true := Item.newline_alone _ _ _ 0
    intro token member
    rw [Option.mem_unique member here]
    exact newline

/-- **The tokens of the line**: the tag, with the blanks before it, among blanks. -/
theorem exists_loneTag (line : PartialLine) (delimiters : Delimiters) :
    ∃ span, span.value = String.ofList line.name ∧
      Token.LoneTag (.partialTag span line.host)
        (Token.annotate {} (Item.tokensOf delimiters 0 line.items)) := by
  obtain ⟨span, first, second, value, same⟩ := @Item.tokensOf_alone delimiters
    line.indentation.margin line.after .partialTag line.gaps line.name true 0
  have host : (textTokens 0 line.indentation.margin.val).foldl HostLine.after {} = line.host := by
    rw [HostLine.foldl_blank line.indentation.margin.property.1
      line.indentation.margin.property.2, String.empty_append]
    rfl
  refine ⟨span, value, ?_⟩
  unfold items tag
  rw [same, Token.annotate_append, Token.annotate_append, Token.annotate_append,
    Token.annotate_texts, Token.annotate_texts, Token.annotate_texts, host]
  exact Item.loneTag_margins line.indentation.margin line.after true rfl 0 first second

/-- **The tree of the line** is the tag, with the blanks before it. -/
theorem parse_text (unbroken : delimiters.Unbroken) (legible : line.Legible delimiters) :
    ∃ span, span.value = String.ofList line.name ∧
      parse delimiters (line.text delimiters) = .ok [.partialTag span line.host] := by
  obtain ⟨span, value, lone⟩ := line.exists_loneTag delimiters
  have lexed := lex_text unbroken legible
  have read : tokenize delimiters (line.text delimiters) =
      .ok (Token.annotate {} (Item.tokensOf delimiters 0 line.items)) := by
    rw [tokenize_eq_ok_iff, lexed]
    exact ⟨rfl, line.balanced_items delimiters, rfl⟩
  have tree := Token.nests_of_tokenize read
  rw [lone.keep rfl] at tree
  refine ⟨span, value, parse_eq_ok_iff.mpr ⟨_, read, ?_⟩⟩
  exact (tree.eq (.leaf rfl rfl .nil)).symm

/-! ### Such lines in an indented text -/

theorem toList_text (line : PartialLine) (delimiters : Delimiters) :
    (line.text delimiters).toList =
      line.indentation.val ++ (delimiters.opening.toList ++ (line.gaps.beforeSigil.val ++
        ('>' :: (line.gaps.afterSigil.val ++ (line.name ++ (line.gaps.afterContent.val ++
          (delimiters.closing.toList ++ (line.after.val ++ ['\n'])))))))) := by
  unfold text items Item.alone tag
  simp [Item.printAll, Item.print, Item.next, Item.inside, TagSort.sigil, Indentation.margin,
    lineEnd]

/-- **Such a line in an indented text** is one whose tag has the indentation before it. -/
theorem exists_indented (unbroken : delimiters.Unbroken) (indentation : Indentation)
    (legible : line.Legible delimiters) (single : '\n' ∉ line.name) :
    ∃ wide : PartialLine, wide.name = line.name ∧
      wide.indentation = indentation ++ line.indentation ∧
      wide.Legible delimiters ∧
      Text.indent indentation.val (line.text delimiters).toList =
        (wide.text delimiters).toList := by
  have opening : Text.Unbroken delimiters.opening.toList := unbroken.opening
  have closing : Text.Unbroken delimiters.closing.toList := unbroken.closing
  obtain ⟨first, last, absent, _⟩ := legible
  -- the blanks within the tag, whose line feeds may be followed by the indentation
  have gap : ∀ blanks : Blanks, ∀ rest, ∃ wide : Blanks, (wide.val = [] ↔ blanks.val = []) ∧
      Text.spread indentation.val (blanks.val ++ rest) =
        wide.val ++ Text.spread indentation.val rest := fun blanks rest => by
    obtain ⟨wide, white, empty, same⟩ :=
      Text.spread_blank indentation.blank blanks.property rest
    exact ⟨⟨wide, white⟩, empty, same⟩
  obtain ⟨beforeSigil, _, sameBefore⟩ := gap line.gaps.beforeSigil _
  obtain ⟨afterSigil, _, sameAfter⟩ := gap line.gaps.afterSigil _
  obtain ⟨afterContent, empty, sameContent⟩ := gap line.gaps.afterContent _
  have ahead : '\n' ∉ line.indentation.val ++ delimiters.opening.toList := fun member =>
    (List.mem_append.mp member).elim line.indentation.newline_not_mem opening.newline_not_mem
  have some : line.indentation.val ++ delimiters.opening.toList ≠ [] :=
    List.append_ne_nil_of_right_ne_nil _ delimiters.opening_toList_ne
  refine ⟨⟨line.name, ⟨beforeSigil, afterSigil, afterContent⟩,
    indentation ++ line.indentation, line.after⟩, rfl, rfl, ⟨first, last, ?_, nofun⟩, ?_⟩
  · exact closing.absent_gap afterContent.property empty absent
  · rw [toList_text, ← List.append_assoc line.indentation.val, Text.indent_line ahead some,
      sameBefore, Text.spread_cons (by decide), sameAfter, Text.spread_line single, sameContent,
      Text.spread_line closing.newline_not_mem, Text.spread_line line.after.property.2,
      Text.spread_newline, toList_text]
    show _ = (indentation.val ++ line.indentation.val) ++ _
    simp only [List.append_assoc]
    rfl

/-- **A text around such a line**, indented. -/
theorem indent_around {wide : PartialLine} {above below : String} (indentation : Indentation)
    (whole : WholeLines delimiters above)
    (same : Text.indent indentation.val (line.text delimiters).toList =
      (wide.text delimiters).toList) :
    indentation.indent (above ++ line.text delimiters ++ below) =
      indentation.indent above ++ wide.text delimiters ++ indentation.indent below := by
  obtain ⟨reading, read, _, ended⟩ := whole
  have fed : ∀ char ∈ (line.text delimiters).toList.getLast?, char = '\n' := by
    unfold text items
    rw [String.toList_ofList, Item.getLast?_alone]
    rintro char member
    cases member
    rfl
  apply String.toList_inj.mp
  simp only [String.toList_append, indentation.toList_indent, List.append_assoc]
  rw [Text.indent_append (Reading.getLast?_newline read ended), Text.indent_append fed, same]

end PartialLine

namespace Render

open Mustache.Action

variable {setting : Setting σ} {views : Views}

/-! ### One template behind another -/

/-- **Two runs that end alike**: with the same result, and with sessions that differ in their caches
only. -/
def EndAlike (views : Views) (first second : Except Fault String × Session σ) : Prop :=
  first.1 = second.1 ∧ cachePairing.related views views first.2 second.2

theorem EndAlike.symm {first second : Except Fault String × Session σ}
    (alike : EndAlike views first second) : EndAlike views second first := by
  obtain ⟨same, _, memo, host, sound, otherSound⟩ := alike
  exact ⟨same.symm, rfl, memo.symm, host.symm, otherSound, sound⟩

theorem EndAlike.trans {first second third : Except Fault String × Session σ}
    (alike : EndAlike views first second) (further : EndAlike views second third) :
    EndAlike views first third := by
  obtain ⟨same, _, memo, host, sound, _⟩ := alike
  obtain ⟨equal, _, remembered, state, _, otherSound⟩ := further
  exact ⟨same.trans equal, rfl, memo.trans remembered, host.trans state, sound, otherSound⟩

/-- A session beside itself. -/
theorem related_self {session : Session σ} (sound : session.CacheSound) :
    cachePairing.related views views session session := ⟨rfl, rfl, rfl, sound, sound⟩

theorem endAlike_of_agree {step other : Action σ String}
    (agree : cachePairing.Agree (fun _ => True) views views step other) {session beside : Session σ}
    (together : cachePairing.related views views session beside) :
    EndAlike views (step.outcome session) (other.outcome beside) := by
  obtain ⟨same, after⟩ := agree session beside together
  exact ⟨same.eq, after⟩

/-- What ends like a template from each session agrees with it. -/
theorem agree_of_endAlike {step : Action σ String} {depth : Nat} {text : String}
    (alike : ∀ session : Session σ, session.CacheSound → EndAlike views (step.outcome session)
      ((renderText setting depth views text).outcome session)) :
    cachePairing.Agree (fun _ => True) views views step (renderText setting depth views text) := by
  intro session beside together
  have moved := endAlike_of_agree (@agree_renderText_beside σ setting depth views views text)
    together
  obtain ⟨same, after⟩ := (alike session together.2.2.sound).trans moved
  rw [same]
  exact ⟨sameOutcome_refl fun _ _ => trivial, after⟩

variable {delimiters : Delimiters} {first second : String} {front later : List Token}

theorem parse_empty (delimiters : Delimiters) : parse delimiters "" = .ok [] := by
  refine parse_eq_ok_iff.mpr ⟨[], tokenize_eq_ok_iff.mpr ?_, rfl⟩
  rw [String.toList_empty, lex_nil]
  exact ⟨rfl, .nil, rfl⟩

/-- A template behind whole lines has a tree. -/
theorem exists_parse_append (unbroken : delimiters.Unbroken) (whole : WholeLines delimiters first)
    (found : parse delimiters second = .ok later) :
    ∃ tree, parse delimiters (first ++ second) = .ok tree := by
  obtain ⟨reading, read, restored, ended⟩ := whole
  rcases Reading.empty_or_newline read ended with rfl | newline
  · rw [String.empty_append]
    exact ⟨later, found⟩
  · obtain ⟨_, _, _, tree, _, joined, _⟩ := parse_joined unbroken read newline restored found
    exact ⟨tree, joined⟩

/-- The empty template comes to nothing. -/
theorem agree_empty (resolved : setting.tags.resolve = .ok delimiters) (depth : Nat) :
    cachePairing.Agree (fun _ => True) views views (pure "")
      (renderText setting (depth + 1) views "") := by
  have empty := agree_template resolved (parse_empty delimiters) depth views
  have nothing : (piecesOf setting depth views "" [] >>= joinPieces) = pure "" := by
    unfold piecesOf
    rw [renderPieces, pure_bind]
    rfl
  rwa [nothing] at empty

/-- **Whole lines before another template** come to the same as on their own, and so does the other
one behind them, unless what their pieces come to cannot be written, which is found at the very
end. -/
theorem endAlike_or_unwritten (unbroken : delimiters.Unbroken)
    (resolved : setting.tags.resolve = .ok delimiters) (whole : WholeLines delimiters first)
    (parsed : parse delimiters first = .ok front) (found : parse delimiters second = .ok later)
    (depth : Nat) {session : Session σ} (sound : session.CacheSound) :
    EndAlike views ((renderText setting (depth + 1) views (first ++ second)).outcome session)
        ((renderInTurn setting (depth + 1) views first second).outcome session) ∨
      ∃ pieces after,
        (piecesOf setting depth views first front).outcome session = (.ok pieces, after) ∧
          Piece.join? pieces = none ∧ ∃ fault,
            ((renderText setting (depth + 1) views (first ++ second)).outcome session).1 =
              .error fault := by
  obtain ⟨reading, read, restored, ended⟩ := whole
  rcases Reading.empty_or_newline read ended with rfl | newline
  · have inTurn : cachePairing.Agree (fun _ => True) views views
        (do let text ← pure ""
            let other ← renderText setting (depth + 1) views second
            pure (text ++ other))
        (renderInTurn setting (depth + 1) views "" second) := by
      refine relates_bind (agree_empty resolved depth) fun text _ same => ?_
      subst same
      refine relates_bind (agree_renderText_beside (depth + 1) views views second)
        fun other _ same => ?_
      subst same
      exact relates_pure rfl
    simp only [pure_bind, String.empty_append, bind_pure] at inTurn
    rw [String.empty_append]
    exact .inl (endAlike_of_agree inTurn (related_self sound))
  · obtain ⟨same, early, behind, tree, again, joined, seam, left, right⟩ :=
      parse_joined unbroken read newline restored found
    obtain rfl : front = same := Except.ok.inj (parsed.symm.trans again)
    have together := endAlike_of_agree (agree_joined resolved joined seam left right depth views)
      (related_self sound)
    have inTurn := endAlike_of_agree (agree_inTurn resolved parsed found depth views)
      (related_self sound)
    rcases outcome_pieces (piecesOf setting depth views first front)
        (piecesOf setting depth views second later) session with
      same | ⟨pieces, after, reached, unwritten, fault, failed, _⟩
    · rw [same] at together
      exact .inl (together.symm.trans inTurn)
    · exact .inr ⟨pieces, after, reached, unwritten, fault, together.1.symm.trans failed⟩

/-! ### The line of a partial -/

/-- **The partials give a text for a name**, whatever the session is like. -/
def Gives (setting : Setting σ) (name content : String) : Prop :=
  ∀ session, ((findPartial setting name).outcome session).1 = .ok (some content)

/-- A partial that is looked for, and a text that is rendered in its place. -/
def renderGiven (setting : Setting σ) (depth : Nat) (views : Views) (name text : String) :
    Action σ String := do
  let _ ← findPartial setting name
  renderText setting depth views text

section Line

variable {name content : String} {session : Session σ}
  (found : ((findPartial setting name).outcome session).1 = .ok (some content))

include found

theorem hasPartials_of_found : hasPartials setting = true := by
  unfold findPartial at found
  unfold hasPartials
  cases kind : setting.partials with
  | absent =>
    rw [kind] at found
    cases found
  | table entries =>
    cases entries with
    | nil =>
      rw [kind] at found
      unfold Partials.inTable? at found
      cases closing : setting.tags.closing with
      | error fault =>
        simp only [closing] at found
        cases found
      | ok closing =>
        simp only [closing] at found
        cases found
    | cons entry rest => rfl
  | lookup ask => rfl

/-- **A partial tag at the start of its line** comes to the partial with the blanks before it. -/
theorem outcome_renderPartial (render : String → Action σ String) (indentation : Indentation) :
    (renderPartial setting render name
        { indentation := String.ofList indentation.val }).outcome session =
      (findPartial setting name >>= fun _ =>
        Piece.text <$> render (indentation.indent content)).outcome session := by
  have same : (if (0 : Int) = 0 ∧ String.ofList indentation.val ≠ "" then
      indentation.indent content else content) =
        indentation.indent content := by
    by_cases empty : String.ofList indentation.val = ""
    · rw [if_neg fun both => both.2 empty]
      apply String.toList_inj.mp
      rw [indentation.toList_indent, String.ofList_eq_empty_iff.mp empty, Text.indent_nil]
    · rw [if_pos ⟨rfl, empty⟩]
  unfold renderPartial
  rw [if_pos (hasPartials_of_found found), outcome_bind, outcome_bind]
  rcases reached : (findPartial setting name).outcome session with ⟨fault | other, after⟩
  · rfl
  · rw [reached] at found
    obtain rfl : other = some content := Except.ok.inj found
    show (Piece.text <$> render (if (0 : Int) = 0 ∧ String.ofList indentation.val ≠ "" then
      indentation.indent content else content)).outcome after = _
    rw [same]

end Line

section Around

variable {line : PartialLine} {content : String} (unbroken : delimiters.Unbroken)
  (resolved : setting.tags.resolve = .ok delimiters) (legible : line.Legible delimiters)
  (gives : Gives setting (String.ofList line.name) content)

include unbroken resolved legible gives

/-- **The line of a partial** comes to the partial with the blanks before its tag. -/
theorem agree_line (depth : Nat) :
    cachePairing.Agree (fun _ => True) views views
      (renderGiven setting depth views (String.ofList line.name) (line.indentation.indent content))
      (renderText setting (depth + 1) views (line.text delimiters)) := by
  obtain ⟨span, value, parsed⟩ := line.parse_text unbroken legible
  have level := agree_template resolved parsed depth views
  rw [piecesOf_single] at level
  unfold renderToken at level
  rw [value] at level
  intro session beside together
  have asked : (renderPartial setting (renderText setting depth views) (String.ofList line.name)
      line.host).outcome session = _ :=
    outcome_renderPartial (gives session) _ line.indentation
  have same : (do let piece ← renderPartial setting (renderText setting depth views)
                      (String.ofList line.name) line.host
                  joinPieces [piece]).outcome session =
      (renderGiven setting depth views (String.ofList line.name)
        (line.indentation.indent content)).outcome session := by
    rw [outcome_bind, asked, ← outcome_bind]
    unfold renderGiven
    simp only [bind_assoc, bind_map_left, joinPieces_text, bind_pure]
  rw [← same]
  exact level session beside together

/-- **The line of a partial before a template** comes to the partial, and then the template to what
it comes to on its own. -/
theorem agree_line_append (views : Views) (found : parse delimiters second = .ok later)
    (depth : Nat) :
    cachePairing.Agree (fun _ => True) views views
      (do let text ← renderGiven setting depth views (String.ofList line.name)
            (line.indentation.indent content)
          let behind ← renderText setting (depth + 1) views second
          pure (text ++ behind))
      (renderText setting (depth + 1) views (line.text delimiters ++ second)) := by
  have inTurn : cachePairing.Agree (fun _ => True) views views
      (do let text ← renderGiven setting depth views (String.ofList line.name)
            (line.indentation.indent content)
          let behind ← renderText setting (depth + 1) views second
          pure (text ++ behind))
      (renderInTurn setting (depth + 1) views (line.text delimiters) second) := by
    refine relates_bind (agree_line unbroken resolved legible gives depth) fun text _ same => ?_
    subst same
    refine relates_bind (agree_renderText_beside (depth + 1) views views second)
      fun behind _ same => ?_
    subst same
    exact relates_pure rfl
  obtain ⟨span, _, parsed⟩ := line.parse_text unbroken legible
  refine agree_of_endAlike fun session sound => ?_
  refine (endAlike_of_agree inTurn (related_self sound)).trans (EndAlike.symm ?_)
  rcases endAlike_or_unwritten unbroken resolved (PartialLine.wholeLines_text unbroken legible)
    parsed found depth sound with alike | ⟨pieces, after, reached, unwritten, _⟩
  · exact alike
  · -- a partial always comes to a text or to nothing
    have written : Ensures (fun _ => True) (fun pieces => Piece.join? pieces ≠ none)
        (piecesOf setting depth views (line.text delimiters) [.partialTag span line.host]) := by
      unfold piecesOf
      rw [renderPieces_cons]
      unfold renderToken
      refine ensures_bind (ensures_renderPartial _ span.value line.host) fun piece here => ?_
      rw [renderPieces, pure_bind]
      exact ensures_pure (join?_ne_none (List.forall_mem_singleton.mpr here))
    exact absurd unwritten ((written session trivial).2 pieces (congrArg Prod.fst reached))

end Around

/-- **A template, a step and another template in turn.** -/
def renderAround (setting : Setting σ) (depth : Nat) (views : Views) (first : String)
    (inside : Action σ String) (second : String) : Action σ String := do
  let before ← renderText setting depth views first
  let text ← inside
  let behind ← renderText setting depth views second
  pure (before ++ text ++ behind)

/-- **A template that comes to two others with a step between them**: from each session whose cache
is sound it comes to what these come to in turn, and leaves the same memory and the same state of
the host. Only if some answers of the escape cannot be written, and that is so in the first of the
two, both may fail with different faults, as this is found at the very end. -/
def ComesAround (setting : Setting σ) (depth : Nat) (views : Views) (whole first : String)
    (inside : Action σ String) (second : String) : Prop :=
  ∀ session : Session σ, session.CacheSound →
    let rendered := (renderText setting depth views whole).outcome session
    let inTurn := (renderAround setting depth views first inside second).outcome session
    (rendered.1 = inTurn.1 ∧ rendered.2.host = inTurn.2.host ∧
      rendered.2.memo = inTurn.2.memo) ∨
    ¬ setting.escape.Textual ∧
      ((renderText setting depth views first).outcome session).1 = .error .wrongType ∧
      ∃ fault, rendered.1 = .error fault

/-- Where all answers of the escape can be written, both come to the same. -/
theorem ComesAround.outcome_eq {depth : Nat} {whole : String} {inside : Action σ String}
    (around : ComesAround setting depth views whole first inside second)
    (textual : setting.escape.Textual) {session : Session σ} (sound : session.CacheSound) :
    ((renderText setting depth views whole).outcome session).1 =
      ((renderAround setting depth views first inside second).outcome session).1 := by
  rcases around session sound with ⟨same, _⟩ | ⟨unwritten, _⟩
  · exact same
  · exact absurd textual unwritten

/-- **A partial alone on its line** between whole lines and another template. -/
theorem comesAround_line {line : PartialLine} {content : String} (unbroken : delimiters.Unbroken)
    (resolved : setting.tags.resolve = .ok delimiters) (legible : line.Legible delimiters)
    (gives : Gives setting (String.ofList line.name) content)
    (whole : WholeLines delimiters first) (found : ∃ tree, parse delimiters second = .ok tree)
    (depth : Nat) (views : Views) :
    ComesAround setting (depth + 1) views (first ++ line.text delimiters ++ second) first
      (renderGiven setting depth views (String.ofList line.name) (line.indentation.indent content))
      second := by
  obtain ⟨later, found⟩ := found
  obtain ⟨front, parsed⟩ := whole.exists_parse
  obtain ⟨rest, parsedRest⟩ :=
    exists_parse_append unbroken (PartialLine.wholeLines_text unbroken legible) found
  rw [String.append_assoc]
  have around : cachePairing.Agree (fun _ => True) views views
      (renderAround setting (depth + 1) views first
        (renderGiven setting depth views (String.ofList line.name)
          (line.indentation.indent content)) second)
      (renderInTurn setting (depth + 1) views first (line.text delimiters ++ second)) := by
    refine relates_bind (agree_renderText_beside (depth + 1) views views first)
      fun before _ same => ?_
    subst same
    have later := relates_map (agree_line_append unbroken resolved legible gives views found depth)
      fun _ _ same => congrArg (before ++ ·) same
    simpa only [← bind_pure_comp, bind_assoc, pure_bind, String.append_assoc] using later
  intro session sound rendered inTurn
  rcases endAlike_or_unwritten unbroken resolved whole parsed parsedRest depth sound with
    alike | ⟨pieces, after, reached, unwritten, failed⟩
  · obtain ⟨same, _, memo, host, _⟩ :=
      alike.trans (endAlike_of_agree around (related_self sound)).symm
    exact .inl ⟨same, host, memo⟩
  · refine .inr ⟨fun textual => ?_, ?_, failed⟩
    · have written := ensures_written textual (renderText setting depth) (some first) views front
      exact (written session trivial).2 pieces (congrArg Prod.fst reached) unwritten
    · have alone := endAlike_of_agree (agree_template resolved parsed depth views)
        (related_self sound)
      rw [outcome_bind, reached] at alone
      simp only [outcome_joinPieces, unwritten] at alone
      exact alone.1.symm

/-! ### Partials within partials -/

/-- The partials that an indented text asks for have the blanks of both lines before them. -/
def Accumulates (setting : Setting σ) (indentation : Indentation) (tree image : List Token) :
    Prop :=
  ∀ (name : String) (inner : Indentation) (text : String),
    (name, { indentation := String.ofList inner.val }) ∈ Token.partials (Token.preorder tree) →
    '\n' ∉ name.toList → Gives setting name text →
    ∃ host, (name, host) ∈ Token.partials (Token.preorder image) ∧
      ∀ (render : String → Action σ String) (session : Session σ),
        (renderPartial setting render name host).outcome session =
          (findPartial setting name >>= fun _ =>
            Piece.text <$> render ((indentation ++ inner).indent text)).outcome session

theorem accumulates_of_partials {indentation : Indentation} {tree image : List Token}
    (same : Token.partials (Token.preorder image) =
      (Token.partials (Token.preorder tree)).map fun tag =>
        (Text.widen indentation.val tag.1, tag.2.indent indentation.val)) :
    Accumulates setting indentation tree image := by
  intro name inner text member single gives
  refine ⟨{ indentation := String.ofList (indentation ++ inner).val }, ?_,
    fun render session => outcome_renderPartial (gives session) render (indentation ++ inner)⟩
  rw [same]
  refine List.mem_map.mpr ⟨_, member, Prod.ext ?_ ?_⟩
  · exact Text.widen_line single
  · show HostLine.mk _ _ _ = _
    rw [← String.ofList_append]
    rfl

/-- **A partial alone on its line is its indented text**: between whole lines and another template
it comes to the partial with the blanks of the line before it, and to nothing else. So the blanks
add up: a partial alone on a line of the partial comes to its text with the blanks of both lines
before it, between the indented lines above and below; and a partial tag anywhere in the tree, under
whatever delimiters, has the blanks of both lines. -/
theorem outcome_standalone {line : PartialLine} {content : String} (unbroken : delimiters.Unbroken)
    (resolved : setting.tags.resolve = .ok delimiters) (legible : line.Legible delimiters)
    (gives : Gives setting (String.ofList line.name) content)
    (whole : WholeLines delimiters first) (found : ∃ tree, parse delimiters second = .ok tree)
    (depth : Nat) (views : Views) :
    let indented := line.indentation.indent content
    ComesAround setting (depth + 1) views (first ++ line.text delimiters ++ second) first
      (renderGiven setting depth views (String.ofList line.name) indented) second ∧
    (∀ (inner : PartialLine) (above below text : String), inner.Legible delimiters →
      '\n' ∉ inner.name → Gives setting (String.ofList inner.name) text →
      WholeLines delimiters above → (∃ tree, parse delimiters below = .ok tree) →
      content = above ++ inner.text delimiters ++ below → ∀ (depth : Nat) (views : Views),
        ComesAround setting (depth + 1) views indented (line.indentation.indent above)
          (renderGiven setting depth views (String.ofList inner.name)
            ((line.indentation ++ inner.indentation).indent text))
          (line.indentation.indent below)) ∧
    ∀ tree, parse delimiters content = .ok tree → ∃ image,
      parse delimiters indented = .ok image ∧
        Accumulates setting line.indentation tree image := by
  refine ⟨comesAround_line unbroken resolved legible gives whole found depth views, ?_, ?_⟩
  · rintro inner above below text innerLegible single innerGives aboveWhole ⟨tree, parsed⟩ rfl
      depth views
    obtain ⟨wide, name, indentation, wideLegible, same⟩ :=
      inner.exists_indented unbroken line.indentation innerLegible single
    obtain ⟨image, parsedBelow, _⟩ := parse_indent unbroken line.indentation parsed
    rw [← name] at innerGives
    rw [PartialLine.indent_around line.indentation aboveWhole same, ← name, ← indentation]
    exact comesAround_line unbroken resolved wideLegible innerGives
      (aboveWhole.indent unbroken line.indentation) ⟨image, parsedBelow⟩ depth views
  · intro tree parsed
    obtain ⟨image, parsedImage, same⟩ := parse_indent unbroken line.indentation parsed
    exact ⟨image, parsedImage, accumulates_of_partials same⟩

/-- A table gives the texts in it that are not empty. -/
theorem gives_table {entries : List (String × Value)} {name content : String}
    (kept : setting.partials = .table entries) (found : entries.lookup name = some (.text content))
    (nonempty : content ≠ "") : Gives setting name content := by
  have truthy : (Value.text content).isTruthy = true := by
    simpa [Value.isTruthy, Value.opened] using nonempty
  have taken : Partials.inTable? entries setting.tags.closing name =
      .ok (some (.text content)) := by
    rw [Partials.inTable?, found, Option.filter_some, if_pos truthy]
  intro session
  unfold findPartial
  rw [kept]
  simp only [taken]
  rfl

/-- A partial with a partial on a line of its own, and an empty line. -/
def outerText : String := "a\n \x7b\x7b> p\x7d\x7d \n\n.\n"

/-- A partial with a variable, on a line. -/
def innerText : String := "<\x7b\x7bx\x7d\x7d>\n"

/-- What is set for these partials. -/
def nestedSetting : Setting Counts :=
  { renderedSetting with partials := .table [("o", .text outerText), ("p", .text innerText)] }

/-- The line of the one, with a tab before its tag and a space behind it. -/
def outerLine : PartialLine :=
  { name := ['o'], gaps := ⟨⟨[], Text.blank_nil⟩, ⟨[' '], Text.blank_space⟩, ⟨[], Text.blank_nil⟩⟩
    indentation := Indentation.tab
    after := Indentation.space.margin }

/-- The line of the other one, with a space before its tag. -/
def innerLine : PartialLine :=
  { outerLine with name := ['p'], indentation := Indentation.space }

theorem outcome_standalone_nested :
    let views : Views := ⟨.mapping [(.text "x", .text "&")], []⟩
    let rendered := fun step : Action Counts String => (step.outcome { host := [] }).1
    let indented := outerLine.indentation.indent outerText
    let twice := (outerLine.indentation ++ innerLine.indentation).indent innerText
    rendered (renderText nestedSetting 3 views ("t\n" ++ outerLine.text .standard ++ "z")) =
        rendered (renderAround nestedSetting 3 views "t\n"
          (renderGiven nestedSetting 2 views "o" indented) "z") ∧
      rendered (renderText nestedSetting 2 views indented) =
        rendered (renderAround nestedSetting 2 views "\ta\n"
          (renderGiven nestedSetting 1 views "p" twice) "\n\t.\n") ∧
      (∃ tree image, parse .standard outerText = .ok tree ∧ parse .standard indented = .ok image ∧
        Accumulates nestedSetting outerLine.indentation tree image) ∧
      (rendered (renderText nestedSetting 3 views
        ("t\n" ++ outerLine.text .standard ++ "z"))).toOption =
          some "t\n\ta\n\t <&amp;>\n\n\t.\nz" := by
  intro views rendered indented twice
  have named : Delimiters.ofText? "\x7b\x7b \x7d\x7d" = some .standard := by decide +kernel
  have parses : ∀ text ∈ ["z", "\n.\n", outerText],
      ((parse .standard text).toOption.map fun _ => true) = some true := by decide +kernel
  have found : ∀ text ∈ ["z", "\n.\n", outerText], ∃ tree, parse .standard text = .ok tree :=
    fun text member =>
      have ⟨tree, parsed, _⟩ := exists_ok_of_toOption_map (parses text member)
      ⟨tree, parsed⟩
  have whole : WholeLines .standard "t\n" ∧ WholeLines .standard "a\n" := by decide +kernel
  have legible : outerLine.Legible .standard ∧ innerLine.Legible .standard := by decide +kernel
  have outerGives : Gives nestedSetting "o" outerText := gives_table rfl rfl (by decide)
  have innerGives : Gives nestedSetting "p" innerText := gives_table rfl rfl (by decide)
  have split : outerText = "a\n" ++ innerLine.text .standard ++ "\n.\n" := by decide +kernel
  have sound : ({ host := [] } : Session Counts).CacheSound := nofun
  have written : nestedSetting.escape.Textual := fun _ => nofun
  obtain ⟨around, nested, further⟩ := outcome_standalone (Delimiters.unbroken_of_ofText? named)
    (show nestedSetting.tags.resolve = .ok .standard from rfl) legible.1 outerGives whole.1
    (found "z" (by decide)) 2 views
  obtain ⟨tree, parsed⟩ := found outerText (by decide)
  obtain ⟨image, parsedImage, again⟩ := further tree parsed
  refine ⟨around.outcome_eq written sound, ?_, ⟨tree, image, parsed, parsedImage, again⟩,
    by decide +kernel⟩
  · have lines : outerLine.indentation.indent "a\n" = "\ta\n" ∧
        outerLine.indentation.indent "\n.\n" = "\n\t.\n" := by decide +kernel
    have both := nested innerLine "a\n" "\n.\n" innerText legible.2 (by decide) innerGives whole.2
      (found "\n.\n" (by decide)) split 1 views
    rw [lines.1, lines.2] at both
    exact both.outcome_eq written sound

/-- A line with a partial tag that has a line feed in its name. -/
def brokenLine : PartialLine := { innerLine with name := ['a', '\n', 'b'] }

/-- A partial with nothing but this line. -/
def brokenText : String := " \x7b\x7b> a\nb\x7d\x7d \n"

/-- What is set for these partials. -/
def brokenSetting : Setting Counts :=
  { renderedSetting with
    partials := .table [("o", .text brokenText), ("a\nb", .text "x\n")] }

/-- **A line feed in the name of a partial**: indented, the name holds the blanks as well, and there
is no such partial. -/
theorem not_standalone_broken :
    let views : Views := ⟨.mapping [], []⟩
    let indented := outerLine.indentation.indent brokenText
    let twice := (outerLine.indentation ++ brokenLine.indentation).indent "x\n"
    let rendered := fun text =>
      ((renderText brokenSetting 3 views text).outcome { host := [] }).1.toOption
    (outerLine.Legible .standard ∧ brokenLine.Legible .standard ∧ WholeLines .standard "" ∧
        brokenText = brokenLine.text .standard ∧
        Gives brokenSetting "o" brokenText ∧ Gives brokenSetting "a\nb" "x\n") ∧
      rendered (outerLine.text .standard) = some "" ∧ rendered twice = some "\t x\n" ∧
      ¬ ComesAround brokenSetting 3 views indented ""
        (renderGiven brokenSetting 2 views "a\nb" twice) "" := by
  intro views indented twice rendered
  have unlike : ((renderText brokenSetting 3 views indented).outcome { host := [] }).1.toOption ≠
      ((renderAround brokenSetting 3 views "" (renderGiven brokenSetting 2 views "a\nb" twice)
        "").outcome { host := [] }).1.toOption := by decide +kernel
  refine ⟨⟨by decide +kernel, by decide +kernel, by decide +kernel, by decide +kernel,
    gives_table rfl rfl (by decide), gives_table rfl rfl (by decide)⟩, by decide +kernel,
    by decide +kernel, fun around => ?_⟩
  have textual : brokenSetting.escape.Textual := fun _ => nofun
  have sound : ({ host := [] } : Session Counts).CacheSound := nofun
  exact unlike (congrArg Except.toOption (around.outcome_eq textual sound))

end Render

end Mustache
