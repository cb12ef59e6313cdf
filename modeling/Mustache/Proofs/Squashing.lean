import Mathlib.Data.List.SplitBy
import Mustache.Proofs.Coverage
import Mustache.Template.Squash

/-!
**Adjacent texts as one text.**

Tokens fall into runs: a run is as many adjacent texts as there are, or any other token by itself.
When adjacent texts are put together, each run of texts becomes one text. If the texts of a run
touch in the template, then that text is again what the template holds at its place.

* `Token.squashOnto`, `squash_eq_foldr`: tokens put together **from the last one on.**
* `Token.runs`, `Token.joinRun`: the runs, and what becomes of each.
* `squash_eq`: what becomes of all of them.
* `Token.Placed`: tokens in the order of a template, where adjacent texts touch.
* `Placed.squash`: the order and the texts are kept.
-/

namespace Mustache

namespace Token

/-- Two texts. -/
def bothTexts (first second : Token) : Bool := first.isText && second.isText

/-- **The runs of some tokens**: maximal stretches of texts, and all other tokens by themselves. -/
def runs (tokens : List Token) : List (List Token) := tokens.splitBy bothTexts

/-- A run of texts as one text, from the start of the first to the end of the last; any other run as
it is. -/
def joinRun (run : List Token) : List Token :=
  match run.head?, run.getLast? with
  | some (text first), some (text last) =>
    [text ⟨String.join (run.map fun token => token.span.value), first.start, last.stop⟩]
  | _, _ => run

/-! ### From the last one on -/

/-- A token put before squashed tokens. -/
def squashOnto (token : Token) (rest : List Token) : List Token :=
  match token, rest with
  | text first, text second :: more => text (joinSpans first second) :: more
  | token, rest => token :: rest

/-- **A token is put before others** as it is unless two texts meet, which become one. -/
theorem squashOnto_cases (token : Token) (rest : List Token) :
    (squashOnto token rest = token :: rest ∧
      (token.isText = true → ∀ next ∈ rest.head?, next.isText = false)) ∨
    ∃ first second more, token = text first ∧ rest = text second :: more ∧
      squashOnto token rest = text (joinSpans first second) :: more := by
  cases token with
  | text first =>
    cases rest with
    | nil => exact Or.inl ⟨rfl, fun _ next member => by cases member⟩
    | cons next more =>
      cases next with
      | text second => exact Or.inr ⟨first, second, more, rfl, rfl, rfl⟩
      | _ => exact Or.inl ⟨rfl, fun _ other member => by cases member; rfl⟩
  | _ => exact Or.inl ⟨rfl, fun text => by cases text⟩

theorem squashOnto_eq_cons {token : Token} {rest : List Token}
    (apart : token.isText = true → ∀ next ∈ rest.head?, next.isText = false) :
    squashOnto token rest = token :: rest := by
  rcases squashOnto_cases token rest with ⟨same, _⟩ | ⟨first, second, more, rfl, rfl, _⟩
  · exact same
  · cases apart rfl (text second) rfl

theorem joinSpans_assoc (first second third : Span) :
    joinSpans first (joinSpans second third) = joinSpans (joinSpans first second) third := by
  unfold joinSpans
  rw [String.append_assoc]

/-- A text before another one, which is put before others, is put together with it first. -/
theorem squashOnto_squashOnto (first second : Span) (rest : List Token) :
    squashOnto (text first) (squashOnto (text second) rest) =
      squashOnto (text (joinSpans first second)) rest := by
  cases rest with
  | nil => rfl
  | cons next more =>
    cases next with
    | text third =>
      exact congrArg (fun joined => text joined :: more) (joinSpans_assoc first second third)
    | _ => rfl

/-- What is put before others comes first, unless two texts meet. -/
theorem squashOnto_squashOnto_of_apart {token next : Token} (rest : List Token)
    (apart : bothTexts token next = false) :
    squashOnto token (squashOnto next rest) = token :: squashOnto next rest := by
  refine squashOnto_eq_cons fun sort other member => ?_
  have plain : next.isText = false := by
    unfold bothTexts at apart
    rwa [sort, Bool.true_and] at apart
  rw [squashOnto_eq_cons fun own => by rw [plain] at own; cases own] at member
  cases member
  exact plain

/-- Two texts are put together, and any other two tokens stay what they are. -/
theorem bothTexts_cases (last token : Token) :
    (∃ own next, last = text own ∧ token = text next) ∨
      bothTexts last token = false ∧
        ∀ earlier, squashBehind (last :: earlier) token = token :: last :: earlier := by
  cases last with
  | text own =>
    cases token with
    | text next => exact .inl ⟨own, next, rfl, rfl⟩
    | _ => exact .inr ⟨rfl, fun _ => rfl⟩
  | _ => exact .inr ⟨rfl, fun _ => rfl⟩

/-- The loop over the tokens that are left, once there is a last one: it comes before what is left
of them. -/
theorem foldl_squashBehind (last : Token) (earlier tokens : List Token) :
    (tokens.foldl squashBehind (last :: earlier)).reverse =
      earlier.reverse ++ squashOnto last (tokens.foldr squashOnto []) := by
  induction tokens generalizing last earlier with
  | nil =>
    rw [List.foldl_nil, List.reverse_cons, List.foldr_nil,
      squashOnto_eq_cons fun _ _ member => by cases member]
  | cons token rest hypothesis =>
    rw [List.foldl_cons, List.foldr_cons]
    rcases bothTexts_cases last token with ⟨own, next, rfl, rfl⟩ | ⟨apart, stays⟩
    · rw [squashOnto_squashOnto]
      exact hypothesis (text (joinSpans own next)) earlier
    · rw [stays, hypothesis, squashOnto_squashOnto_of_apart _ apart, List.reverse_cons,
        List.append_assoc, List.singleton_append]

/-- **The loop over the tokens puts them together as from the last one on.** -/
theorem squash_eq_foldr (tokens : List Token) : squash tokens = tokens.foldr squashOnto [] := by
  cases tokens with
  | nil => rfl
  | cons token rest => exact foldl_squashBehind token [] rest

theorem squash_cons (token : Token) (rest : List Token) :
    squash (token :: rest) = squashOnto token (squash rest) := by
  rw [squash_eq_foldr, squash_eq_foldr, List.foldr_cons]

/-! ### Run by run -/

/-- The first of some tokens keeps its sort and where it starts. -/
theorem head?_squash {tokens : List Token} {token : Token}
    (member : token ∈ (squash tokens).head?) :
    ∃ other ∈ tokens.head?, token.isText = other.isText ∧ token.span.start = other.span.start := by
  cases tokens with
  | nil => cases member
  | cons first rest =>
    refine ⟨first, rfl, ?_⟩
    rw [squash_cons] at member
    rcases squashOnto_cases first (squash rest) with ⟨same, _⟩ | ⟨_, _, _, rfl, _, same⟩
    · rw [same] at member
      cases member
      exact ⟨rfl, rfl⟩
    · rw [same] at member
      cases member
      exact ⟨rfl, rfl⟩

theorem squash_ne_nil (token : Token) (rest : List Token) : squash (token :: rest) ≠ [] := by
  rw [squash_cons]
  rcases squashOnto_cases token (squash rest) with ⟨same, _⟩ | ⟨_, _, _, _, _, same⟩
  · rw [same]
    exact List.cons_ne_nil _ _
  · rw [same]
    exact List.cons_ne_nil _ _

/-- Only the first of the others is looked at. -/
theorem squashOnto_cons_append (token next : Token) (more behind : List Token) :
    squashOnto token (next :: more ++ behind) = squashOnto token (next :: more) ++ behind := by
  cases token with
  | text _ => cases next <;> rfl
  | _ => rfl

/-- **Texts that do not meet** are put together apart from each other. -/
theorem squash_append {first second : List Token}
    (apart : ∀ last ∈ first.getLast?, last.isText = true → ∀ next ∈ second.head?,
      next.isText = false) :
    squash (first ++ second) = squash first ++ squash second := by
  induction first with
  | nil => rfl
  | cons token rest hypothesis =>
    rw [List.cons_append, squash_cons, squash_cons]
    cases rest with
    | nil =>
      have free : token.isText = true → ∀ next ∈ (squash second).head?, next.isText = false := by
        intro text next member
        obtain ⟨other, first, same, _⟩ := head?_squash member
        rw [same]
        exact apart token rfl text other first
      rw [List.nil_append, squashOnto_eq_cons free, squashOnto_eq_cons fun _ next member => by
        cases member]
      rfl
    | cons next more =>
      rw [hypothesis fun last member => apart last (by rwa [List.getLast?_cons_cons])]
      obtain ⟨head, tail, same⟩ := List.exists_cons_of_ne_nil (squash_ne_nil next more)
      rw [same, squashOnto_cons_append]

/-- **Adjacent texts become one text.** -/
theorem squash_texts {first last : Span} {rest : List Token}
    (texts : ∀ token ∈ rest, token.isText = true)
    (final : (text first :: rest).getLast? = some (text last)) :
    squash (text first :: rest) =
      [text ⟨String.join ((text first :: rest).map fun token => token.span.value), first.start,
        last.stop⟩] := by
  induction rest generalizing first with
  | nil =>
    cases final
    rw [List.map_singleton, String.join_cons, String.join_nil, String.append_empty]
    rfl
  | cons next more hypothesis =>
    cases next with
    | text second =>
      have later := @hypothesis second
        (fun token member => texts token (List.mem_cons_of_mem _ member))
        (by rwa [List.getLast?_cons_cons] at final)
      rw [squash_cons, later]
      simp only [List.map_cons, String.join_cons]
      rfl
    | _ => cases texts _ List.mem_cons_self

/-- **Texts put together** hold what they hold apart. -/
theorem exists_spans_of_squash {tokens : List Token}
    (texts : ∀ token ∈ tokens, token.isText = true) :
    ∃ spans : List Span, squash tokens = spans.map text ∧
      String.join (spans.map Span.value) =
        String.join (tokens.map fun token => token.span.value) := by
  cases tokens with
  | nil => exact ⟨[], rfl, rfl⟩
  | cons token rest =>
    obtain ⟨here, later⟩ := List.forall_mem_cons.mp texts
    obtain ⟨last, final⟩ : ∃ last, (token :: rest).getLast? = some last :=
      ⟨_, List.getLast?_cons⟩
    have ended := texts last (List.mem_of_getLast? final)
    cases token with
    | text first =>
      cases last with
      | text last => exact ⟨[_], squash_texts later final, by simp [String.join_cons]⟩
      | _ => cases ended
    | _ => cases here

/-- All tokens of a run are texts if the first one is. -/
theorem isText_of_isChain {token : Token} {rest : List Token}
    (chain : (token :: rest).IsChain fun first second => bothTexts first second) :
    ∀ other ∈ rest, other.isText = true := by
  induction rest generalizing token with
  | nil => exact fun other member => by cases member
  | cons next more hypothesis =>
    obtain ⟨here, later⟩ := List.isChain_cons_cons.mp chain
    intro other member
    rcases List.mem_cons.mp member with rfl | inside
    · exact (Bool.and_eq_true_iff.mp here).2
    · exact hypothesis later other inside

/-- **One run.** -/
theorem squash_run {run : List Token}
    (chain : run.IsChain fun first second => bothTexts first second) :
    squash run = joinRun run := by
  cases run with
  | nil => rfl
  | cons token rest =>
    cases token with
    | text first =>
      have texts := isText_of_isChain chain
      match final : (text first :: rest).getLast? with
      | none => cases List.getLast?_eq_none_iff.mp final
      | some last =>
        rcases List.mem_cons.mp (List.mem_of_getLast? final) with rfl | inside
        · rw [squash_texts texts final]
          unfold joinRun
          rw [final]
          rfl
        · cases last with
          | text last =>
            rw [squash_texts texts final]
            unfold joinRun
            rw [final]
            rfl
          | _ => cases texts _ inside
    | _ =>
      cases rest with
      | nil => rfl
      | cons next more => cases (List.isChain_cons_cons.mp chain).1

/-- **Putting adjacent texts together joins each run.** -/
theorem squash_eq (tokens : List Token) : squash tokens = (runs tokens).flatMap joinRun := by
  suffices whole : ∀ parts : List (List Token), [] ∉ parts →
      (∀ run ∈ parts, run.IsChain fun first second => bothTexts first second) →
      (parts.IsChain fun run next => ∃ here there,
        bothTexts (run.getLast here) (next.head there) = false) →
      squash parts.flatten = parts.flatMap joinRun by
    have parts := whole (runs tokens) (List.nil_notMem_splitBy _ _)
      (fun run member => List.isChain_of_mem_splitBy member) (List.isChain_getLast_head_splitBy _ _)
    rwa [runs, List.flatten_splitBy] at parts
  intro parts nonempty chains apart
  induction parts with
  | nil => rfl
  | cons run rest hypothesis =>
    have later := hypothesis (fun member => nonempty (List.mem_cons_of_mem _ member))
      (fun other member => chains other (List.mem_cons_of_mem _ member)) apart.tail
    rw [List.flatten_cons, List.flatMap_cons, squash_append, later,
      squash_run (chains run List.mem_cons_self)]
    intro last final text next member
    cases rest with
    | nil => cases member
    | cons other more =>
      obtain ⟨here, there, miss⟩ := (List.isChain_cons_cons.mp apart).1
      rw [List.flatten_cons, List.head?_append_of_ne_nil _ there] at member
      rw [List.getLast_of_mem_getLast? final, List.head_of_mem_head? member] at miss
      unfold bothTexts at miss
      rwa [text, Bool.true_and] at miss

end Token

/-! ### The order of the template -/

/-- What two spans cover one after the other is covered by the span from the first to the second. -/
theorem Span.slice_joinSpans {first second : Span} {template : List Char}
    (touch : second.start = first.stop) (start : 0 ≤ first.start) (order : first.start ≤ first.stop)
    (forward : second.start ≤ second.stop) (stop : second.stop ≤ template.length) :
    (Token.joinSpans first second).slice template =
      first.slice template ++ second.slice template := by
  have low : first.start.toNat ≤ first.stop.toNat := by omega
  have high : first.stop.toNat ≤ second.stop.toNat := by omega
  have inside : first.start.toNat ≤ (template.take first.stop.toNat).length := by
    rw [List.length_take]
    omega
  have cut : template.take second.stop.toNat = template.take first.stop.toNat ++
      (template.take second.stop.toNat).drop first.stop.toNat := by
    conv_lhs => rw [← List.take_append_drop first.stop.toNat (template.take second.stop.toNat)]
    rw [List.take_take, Nat.min_eq_left high]
  unfold slice Token.joinSpans
  rw [touch, cut, List.drop_append_of_le_length inside, ← cut]

namespace Token

/-- **Tokens in the order of a template**: they lie apart from each other, adjacent texts touch, and
each text is what the template holds at its place. -/
structure Placed (template : List Char) (tokens : List Token) : Prop where
  ordered : tokens.Pairwise fun first second => first.span.stop ≤ second.span.start
  touching : tokens.IsChain fun first second =>
    bothTexts first second = true → second.span.start = first.span.stop
  bounds : ∀ token ∈ tokens, 0 ≤ token.span.start ∧ token.span.start < token.span.stop ∧
    token.span.stop ≤ template.length
  text : ∀ span, text span ∈ tokens → span.value.toList = span.slice template

namespace Placed

variable {template : List Char} {token : Token} {tokens rest : List Token}

theorem tail (placed : Placed template (token :: rest)) : Placed template rest where
  ordered := (List.pairwise_cons.mp placed.ordered).2
  touching := placed.touching.tail
  bounds := fun other member => placed.bounds other (List.mem_cons_of_mem _ member)
  text := fun span member => placed.text span (List.mem_cons_of_mem _ member)

/-- Two texts that touch are one text. -/
theorem joined {first second : Span} {more : List Token}
    (placed : Placed template (.text first :: .text second :: more)) :
    Placed template (.text (joinSpans first second) :: more) := by
  have touch : second.start = first.stop := (List.isChain_cons_cons.mp placed.touching).1 rfl
  obtain ⟨start, order, _⟩ := placed.bounds (.text first) List.mem_cons_self
  obtain ⟨_, forward, stop⟩ := placed.bounds (.text second)
    (List.mem_cons_of_mem _ List.mem_cons_self)
  have later := placed.tail
  change 0 ≤ first.start at start
  change first.start < first.stop at order
  change second.start < second.stop at forward
  change second.stop ≤ template.length at stop
  refine { ordered := ?_, touching := ?_, bounds := ?_, text := ?_ }
  · exact List.pairwise_cons.mpr (List.pairwise_cons.mp later.ordered)
  · exact List.isChain_cons.mpr (List.isChain_cons.mp later.touching)
  · intro other member
    rcases List.mem_cons.mp member with rfl | inside
    · exact ⟨start, show first.start < second.stop by omega, stop⟩
    · exact later.bounds other (List.mem_cons_of_mem _ inside)
  · intro span member
    rcases List.mem_cons.mp member with same | inside
    · cases same
      rw [Span.slice_joinSpans touch start (by omega) (by omega) stop,
        ← placed.text first List.mem_cons_self,
        ← later.text second List.mem_cons_self]
      exact String.toList_append
    · exact later.text span (List.mem_cons_of_mem _ inside)

/-- What stands between two tokens lies between their places. -/
theorem between {before inner after : List Token} {first last : Token}
    (placed : Placed template (before ++ first :: (inner ++ last :: after))) :
    first.span.stop ≤ last.span.start ∧ last.span.start ≤ template.length ∧
      ∀ token ∈ inner, first.span.stop ≤ token.span.start ∧
        token.span.stop ≤ last.span.start := by
  obtain ⟨behind, later⟩ := List.pairwise_cons.mp (List.pairwise_append.mp placed.ordered).2.1
  obtain ⟨_, _, apart⟩ := List.pairwise_append.mp later
  obtain ⟨_, forward, stop⟩ := placed.bounds last (by simp)
  refine ⟨behind last (by simp), Int.le_trans (Int.le_of_lt forward) stop, fun token member => ?_⟩
  exact ⟨behind token (List.mem_append_left _ member), apart token member last List.mem_cons_self⟩

theorem squashOnto (placed : Placed template (token :: rest)) :
    Placed template (token.squashOnto rest) := by
  rcases squashOnto_cases token rest with ⟨same, _⟩ | ⟨first, second, more, rfl, rfl, same⟩
  · rw [same]
    exact placed
  · rw [same]
    exact placed.joined

end Placed

/-- Each text that comes about starts where one of the tokens does. -/
theorem exists_start_of_mem_squash {tokens : List Token} :
    ∀ token ∈ squash tokens, ∃ other ∈ tokens, other.span.start = token.span.start := by
  induction tokens with
  | nil => exact fun token member => by cases member
  | cons first rest hypothesis =>
    intro token member
    have later : ∀ token ∈ squash rest, ∃ other ∈ first :: rest,
        other.span.start = token.span.start := by
      intro token inside
      obtain ⟨other, found, start⟩ := hypothesis token inside
      exact ⟨other, List.mem_cons_of_mem _ found, start⟩
    rw [squash_cons] at member
    rcases squashOnto_cases first (squash rest) with ⟨same, _⟩ | ⟨_, _, _, rfl, split, same⟩
    · rw [same] at member
      rcases List.mem_cons.mp member with rfl | inside
      · exact ⟨token, List.mem_cons_self, rfl⟩
      · exact later token inside
    · rw [same] at member
      rcases List.mem_cons.mp member with rfl | inside
      · exact ⟨_, List.mem_cons_self, rfl⟩
      · exact later token (by rw [split]; exact List.mem_cons_of_mem _ inside)

/-- **The order and the texts are kept** when adjacent texts are put together. -/
theorem Placed.squash {template : List Char} {tokens : List Token}
    (placed : Placed template tokens) : Placed template (squash tokens) := by
  induction tokens with
  | nil => exact placed
  | cons token rest hypothesis =>
    have later := hypothesis placed.tail
    obtain ⟨before, _⟩ := List.pairwise_cons.mp placed.ordered
    rw [squash_cons]
    -- the token stands apart from what the others have become, since each starts where one did
    refine Placed.squashOnto { ordered := ?_, touching := ?_, bounds := ?_, text := ?_ }
    · refine List.pairwise_cons.mpr ⟨fun other member => ?_, later.ordered⟩
      obtain ⟨origin, found, start⟩ := exists_start_of_mem_squash other member
      rw [← start]
      exact before origin found
    · refine List.isChain_cons.mpr ⟨fun other member texts => ?_, later.touching⟩
      obtain ⟨origin, found, same, start⟩ := head?_squash member
      rw [start]
      refine (List.isChain_cons.mp placed.touching).1 origin found ?_
      rwa [bothTexts, same] at texts
    · intro other member
      rcases List.mem_cons.mp member with rfl | inside
      · exact placed.bounds other List.mem_cons_self
      · exact later.bounds other inside
    · intro span member
      rcases List.mem_cons.mp member with same | inside
      · exact placed.text span (by rw [same]; exact List.mem_cons_self)
      · exact later.text span inside

/-- Putting texts together leaves all other tokens as they are. -/
theorem filter_squash (tokens : List Token) :
    (squash tokens).filter (fun token => !token.isText) =
      tokens.filter fun token => !token.isText := by
  induction tokens with
  | nil => rfl
  | cons token rest hypothesis =>
    rw [squash_cons]
    rcases squashOnto_cases token (squash rest) with ⟨same, _⟩ | ⟨_, _, _, rfl, split, same⟩
    · rw [same, List.filter_cons, List.filter_cons, hypothesis]
    · rw [split] at hypothesis
      rw [List.filter_cons_of_neg Bool.false_ne_true] at hypothesis
      rw [same, List.filter_cons_of_neg Bool.false_ne_true,
        List.filter_cons_of_neg Bool.false_ne_true, hypothesis]

end Token

end Mustache
