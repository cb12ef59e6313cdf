import Mathlib.Data.List.DropRight
import Mustache.Proofs.Joining

/-!
**What a partial tag knows of its line.**

A partial tag carries three things of the line it stands on: the indentation that its text is given,
the number of tags before it, and whether there is anything before it that is not blank. Plain text
comes in runs between tags, and a run may end one line and begin the next; yet what is carried is
always told by the tokens since the last line feed, whatever came before them.

* `Token.lineBefore`: the tokens since the last line feed.
* `Token.Indents`: a text token, and the character it stands as in an indentation.
* `HostLine.Describes`: what it means that a line is described.
* `HostLine.describes_after`: **one more token** on a line.
* `HostLine.describes_foldl`: **all tokens** up to a place.
* `tokenize_describes`: **the main statement**, on the partial tags of a template.
-/

namespace Mustache

namespace Token

/-- The tokens of the line that is not yet ended: those since the last line feed. -/
def lineBefore (tokens : List Token) : List Token :=
  tokens.rtakeWhile fun token => !token.isNewline

/-- A text token of one character, and the character it stands as in an indentation: a blank as
itself, anything else as a space. -/
inductive Indents : Token → Char → Prop
  | blank {span : Span} {char : Char} : span.value = String.singleton char →
      Text.isBlank char = true → Indents (text span) char
  | other {span : Span} {char : Char} : span.value = String.singleton char →
      Text.isBlank char = false → Indents (text span) ' '

/-- A text token of one character that is not blank. -/
def Inked (token : Token) : Prop :=
  ∃ span char, token = text span ∧ span.value = String.singleton char ∧ Text.isBlank char = false

/-- What a partial tag carries of its line. -/
def host? : Token → Option HostLine
  | partialTag _ host => some host
  | _ => none

/-- Each text token holds one character. -/
def Single (tokens : List Token) : Prop :=
  ∀ span, text span ∈ tokens → ∃ char, span.value = String.singleton char

theorem lineBefore_newline {token : Token} (newline : token.isNewline = true)
    (tokens : List Token) : lineBefore (tokens ++ [token]) = [] :=
  List.rtakeWhile_concat_neg _ _ _ (by rw [newline]; exact Bool.false_ne_true)

theorem lineBefore_within {token : Token} (within : token.isNewline = false)
    (tokens : List Token) : lineBefore (tokens ++ [token]) = lineBefore tokens ++ [token] :=
  List.rtakeWhile_concat_pos _ _ _ (by rw [within]; rfl)

theorem isNewline_eq_false {span : Span} {char : Char} (holds : span.value = String.singleton char)
    (within : (text span).isNewline = false) : char ≠ '\n' := by
  rintro rfl
  rw [isNewline, holds] at within
  cases within

end Token

namespace HostLine

/-- **What it means that a line is described** as the host of a partial tag. -/
structure Describes (host : HostLine) (line : List Token) : Prop where
  /-- One character for each text token: blanks are kept, all others stand as spaces. -/
  indentation : List.Forall₂ Token.Indents (line.filter Token.isText) host.indentation.toList
  /-- The tags are counted. -/
  tagIndex : host.tagIndex = (line.filter fun token => !token.isText).length
  /-- Tags do not count as ink. -/
  hasNonBlank : host.hasNonBlank = true ↔ ∃ token ∈ line, token.Inked

/-! ### One more token -/

theorem describes_nil : Describes {} [] where
  indentation := .nil
  tagIndex := rfl
  hasNonBlank := ⟨nofun, nofun⟩

/-- A tag is counted, and nothing else. -/
theorem describes_tag {host : HostLine} {line : List Token} {token : Token}
    (describes : host.Describes line) (tag : token.isText = false) :
    (host.after token).Describes (line ++ [token]) := by
  have counted : host.after token = { host with tagIndex := host.tagIndex + 1 } := by
    cases token with
    | text span => cases tag
    | _ => rfl
  have quiet : ¬ token.Inked := by
    rintro ⟨span, char, rfl, _⟩
    cases tag
  rw [counted]
  constructor
  · rw [List.filter_append, List.filter_singleton, tag, Bool.cond_false, List.append_nil]
    exact describes.indentation
  · rw [List.filter_append, List.filter_singleton, tag, Bool.not_false, Bool.cond_true,
      List.length_append, List.length_singleton]
    exact congrArg (· + 1) describes.tagIndex
  · refine describes.hasNonBlank.trans ⟨?_, ?_⟩
    · rintro ⟨ink, member, inked⟩
      exact ⟨ink, List.mem_append_left _ member, inked⟩
    · rintro ⟨ink, member, inked⟩
      rcases List.mem_append.mp member with earlier | last
      · exact ⟨ink, earlier, inked⟩
      · rw [List.mem_singleton.mp last] at inked
        exact absurd inked quiet

/-- A character that ends no line joins the indentation, and is ink unless it is blank. -/
theorem describes_char {host : HostLine} {line : List Token} {span : Span} {char : Char}
    (describes : host.Describes line) (holds : span.value = String.singleton char)
    (plain : char ≠ '\n') : (host.after (.text span)).Describes (line ++ [.text span]) := by
  have joined : host.after (.text span) = host.afterChar char := by
    show span.value.toList.foldl HostLine.afterChar host = _
    rw [holds, String.toList_singleton]
    rfl
  rw [joined, afterChar, if_neg plain]
  constructor
  · have last : Token.Indents (.text span) (if Text.isBlank char then char else ' ') := by
      cases white : Text.isBlank char with
      | true => exact .blank holds white
      | false => exact .other holds white
    rw [List.filter_append, String.toList_push]
    exact List.rel_append describes.indentation (.cons last .nil)
  · rw [List.filter_append]
    exact describes.tagIndex.trans (congrArg (fun tags : List Token => (tags.length : Int))
      (List.append_nil _).symm)
  · show (host.hasNonBlank || !Text.isBlank char) = true ↔ _
    rw [Bool.or_eq_true, describes.hasNonBlank, Bool.not_eq_true']
    constructor
    · rintro (⟨ink, member, inked⟩ | black)
      · exact ⟨ink, List.mem_append_left _ member, inked⟩
      · exact ⟨.text span, List.mem_append_right _ (List.mem_singleton_self _),
          span, char, rfl, holds, black⟩
    · rintro ⟨ink, member, inked⟩
      rcases List.mem_append.mp member with earlier | last
      · exact .inl ⟨ink, earlier, inked⟩
      · rw [List.mem_singleton.mp last] at inked
        obtain ⟨_, own, same, held, black⟩ := inked
        cases same
        have own_eq : own = char := by
          have both := congrArg String.toList (held.symm.trans holds)
          rw [String.toList_singleton, String.toList_singleton] at both
          exact List.singleton_inj.mp both
        exact .inr (own_eq ▸ black)

/-- **One more token** on a line: a line feed begins a new line, and any other token joins it. -/
theorem describes_after {host : HostLine} {tokens : List Token} {token : Token}
    (describes : host.Describes (Token.lineBefore tokens)) (single : Token.Single [token]) :
    (host.after token).Describes (Token.lineBefore (tokens ++ [token])) := by
  cases newline : token.isNewline with
  | true =>
    rw [after_newline newline, Token.lineBefore_newline newline]
    exact describes_nil
  | false =>
    rw [Token.lineBefore_within newline]
    cases text : token.isText with
    | false => exact describes_tag describes text
    | true =>
      cases token with
      | text span =>
        obtain ⟨char, holds⟩ := single span (List.mem_singleton_self _)
        exact describes_char describes holds (Token.isNewline_eq_false holds newline)
      | _ => cases text

/-! ### All tokens -/

/-- **All tokens up to a place** describe the line that is not yet ended there. -/
theorem describes_foldl {tokens : List Token} (single : Token.Single tokens) :
    (tokens.foldl HostLine.after {}).Describes (Token.lineBefore tokens) := by
  induction tokens using List.reverseRecOn with
  | nil => exact describes_nil
  | append_singleton tokens token hypothesis =>
    have earlier : Token.Single tokens :=
      fun span member => single span (List.mem_append_left _ member)
    have last : Token.Single [token] :=
      fun span member => single span (List.mem_append_right _ member)
    rw [List.foldl_append]
    exact describes_after (hypothesis earlier) last

theorem after_onLine (host line : HostLine) (token : Token) :
    host.after (token.onLine line) = host.after token := by
  cases token <;> rfl

theorem foldl_annotate (host line : HostLine) (tokens : List Token) :
    (Token.annotate line tokens).foldl HostLine.after host = tokens.foldl HostLine.after host := by
  induction tokens generalizing host line with
  | nil => rfl
  | cons token rest hypothesis =>
    rw [Token.annotate, List.foldl_cons, List.foldl_cons, after_onLine, hypothesis]

end HostLine

namespace Token

/-- A partial tag among annotated tokens carries what the tokens before it make of the line. -/
theorem host_of_annotate {line host : HostLine} {tokens before after : List Token} {span : Span}
    (same : annotate line tokens = before ++ partialTag span host :: after) :
    host = before.foldl HostLine.after line := by
  obtain ⟨passed, rest, rfl, rfl, here⟩ := annotate_eq_append same
  rw [HostLine.foldl_annotate]
  cases rest with
  | nil => cases here
  | cons token rest =>
    obtain ⟨standing, _⟩ := List.cons.inj here
    cases token with
    | partialTag own other =>
      cases standing
      rfl
    | _ => cases standing

theorem Covers.single {delimiters : Delimiters} {offset : Int} {text : List Char}
    {tokens : List Token} (covers : Covers delimiters offset text tokens) : Single tokens := by
  induction covers with
  | nil _ _ => exact nofun
  | @text _ _ char _ _ _ _ hypothesis =>
    intro span member
    rcases List.mem_cons.mp member with here | later
    · cases here
      exact ⟨char, rfl⟩
    · exact hypothesis span later
  | tag tag _ _ _ _ hypothesis =>
    intro span member
    rcases List.mem_cons.mp member with here | later
    · subst here
      exact (tag.kind_ne_text rfl).elim
    · exact hypothesis span later

end Token

/-! ### Templates -/

/-- **A partial tag carries its line.** In a template that can be read, each partial tag carries the
indentation, the count of tags and the ink of the tokens since the last line feed before it, or of
all tokens before it if there is no line feed. -/
theorem tokenize_describes {delimiters : Delimiters} {template : String}
    {tokens before after : List Token} {span : Span} {host : HostLine}
    (read : tokenize delimiters template = .ok tokens)
    (place : tokens = before ++ .partialTag span host :: after) :
    host.Describes (Token.lineBefore before) := by
  have single : Token.Single before := by
    intro text member
    refine (Token.covers_tokenize read).single text ?_
    rw [place]
    exact List.mem_append_left _ member
  obtain ⟨_, _, rfl⟩ := tokenize_eq_ok_iff.mp read
  rw [Token.host_of_annotate place]
  exact HostLine.describes_foldl single

/-- A line feed, then a tab, a variable and a letter before a partial tag. -/
def hostTemplate : String := "a\n\t\x7b\x7bx\x7d\x7db\x7b\x7b> p\x7d\x7d"

theorem tokenize_describes_sample :
    ∃ tokens before after span, tokenize .standard hostTemplate = .ok tokens ∧
      tokens = before ++ .partialTag span ⟨"\t ", 1, true⟩ :: after ∧
      HostLine.Describes ⟨"\t ", 1, true⟩ (Token.lineBefore before) := by
  have hosts : (tokenize .standard hostTemplate).toOption.map (List.filterMap Token.host?) =
      some [⟨"\t ", 1, true⟩] := by
    decide +kernel
  obtain ⟨tokens, read, same⟩ := exists_ok_of_toOption_map hosts
  have found : (⟨"\t ", 1, true⟩ : HostLine) ∈ tokens.filterMap Token.host? := by
    rw [same]
    exact List.mem_singleton_self _
  obtain ⟨token, member, carries⟩ := List.mem_filterMap.mp found
  obtain ⟨before, after, place⟩ := List.append_of_mem member
  cases token with
  | partialTag span host =>
    cases carries
    exact ⟨tokens, before, after, span, read, place, tokenize_describes read place⟩
  | _ => cases carries

end Mustache
