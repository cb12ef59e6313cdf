import Mustache.View.Catalogue

/-!
**Bytes and the texts they encode.**

Only the bytes of ASCII make characters of ASCII, and each of them makes its own character. So bytes
in upper case encode the text in upper case, and are no UTF-8 where the bytes themselves are none;
and a line feed in a text comes from its own byte, and goes to it.

* `Utf8.le_codePoint`: what more than one byte encodes is beyond ASCII.
* `Utf8.decode_upper`: **bytes in upper case.**
* `Utf8.mem_of_decode`, `Utf8.mem_of_mem_encode`: **line feeds.**
-/

namespace Mustache.Text.Utf8

variable {lead byte low high : UInt8} {need : Nat} {bytes rest : List UInt8}

/-! ### Lead bytes and continuation bytes -/

theorem le_of_continuations? (found : continuations? lead = some (need, low, high)) :
    0x80 ≤ low := by
  unfold continuations? at found
  grind

theorem lt_of_continuations? (found : continuations? lead = some (0, low, high)) :
    lead < 0x80 := by
  unfold continuations? at found
  grind

/-- The first continuation byte. -/
theorem continuationRun_succ (whole : continuationRun (need + 1) low high rest = need + 1) :
    ∃ byte others, rest = byte :: others ∧ low ≤ byte ∧ byte ≤ high ∧
      continuationRun need 0x80 0xBF others = need := by
  cases rest with
  | nil => cases whole
  | cons byte rest =>
    unfold continuationRun at whole
    split at whole
    · rename_i inside
      exact ⟨byte, rest, rfl, inside.1, inside.2, Nat.succ.inj whole⟩
    · cases whole

/-- The bytes of a run are all there, and they are continuation bytes. -/
theorem of_continuationRun (start : 0x80 ≤ low)
    (whole : continuationRun need low high rest = need) :
    (rest.take need).length = need ∧ ∀ byte ∈ rest.take need, 0x80 ≤ byte := by
  induction need generalizing low high rest with
  | zero => exact ⟨rfl, nofun⟩
  | succ need hypothesis =>
    obtain ⟨byte, others, rfl, least, _, later⟩ := continuationRun_succ whole
    obtain ⟨length, each⟩ := hypothesis (by decide) later
    rw [List.take_succ_cons, List.length_cons, length, List.forall_mem_cons]
    exact ⟨rfl, UInt8.le_trans start least, each⟩

/-- The code point of more bytes is no less. -/
theorem le_foldl (code : Nat) (tail : List UInt8) :
    code ≤ tail.foldl (fun code byte => code * 64 + byte.toNat % 64) code := by
  induction tail generalizing code with
  | nil => exact Nat.le_refl code
  | cons byte rest hypothesis =>
    have step : code ≤ code * 64 + byte.toNat % 64 := by omega
    exact Nat.le_trans step (hypothesis _)

/-- The lead bytes of more than one byte; the least of them ask for a greater first continuation
byte. -/
theorem several_of_continuations? (found : continuations? lead = some (need + 1, low, high)) :
    need = 0 ∧ 194 ≤ lead.toNat ∧ lead.toNat < 224 ∨
      need = 1 ∧ (lead.toNat = 224 ∧ 160 ≤ low.toNat ∧ high.toNat ≤ 191 ∨
        224 < lead.toNat ∧ lead.toNat < 240) ∨
      need = 2 ∧ (lead.toNat = 240 ∧ 144 ≤ low.toNat ∧ high.toNat ≤ 191 ∨
        240 < lead.toNat ∧ lead.toNat < 248) := by
  unfold continuations? at found
  simp only [UInt8.lt_iff_toNat_lt, ← UInt8.toNat_inj, UInt8.reduceToNat] at found
  repeat' split at found
  all_goals simp only [Option.some.injEq, Prod.mk.injEq, reduceCtorEq, false_and] at found
  all_goals
    obtain ⟨count, rfl, rfl⟩ := found
    simp only [UInt8.reduceToNat]
    omega

/-- **What more than one byte encodes is beyond ASCII.** -/
theorem le_codePoint (found : continuations? lead = some (need + 1, low, high))
    (whole : continuationRun (need + 1) low high rest = need + 1) :
    0x80 ≤ codePoint lead (rest.take (need + 1)) := by
  obtain ⟨count, _⟩ := of_continuationRun (le_of_continuations? found) whole
  obtain ⟨byte, others, rfl, least, most, later⟩ := continuationRun_succ whole
  have leads := several_of_continuations? found
  have least : low.toNat ≤ byte.toNat := least
  have most : byte.toNat ≤ high.toNat := most
  unfold codePoint
  simp only [count, Nat.succ_ne_zero, if_false]
  rw [List.take_succ_cons, List.foldl_cons]
  rcases leads with ⟨rfl, leads⟩ | ⟨rfl, leads⟩ | ⟨rfl, leads⟩
  · refine Nat.le_trans ?_ (le_foldl _ _)
    show 128 ≤ lead.toNat % 32 * 64 + byte.toNat % 64
    omega
  · obtain ⟨next, others, rfl, _, _, _⟩ := continuationRun_succ later
    rw [List.take_succ_cons, List.foldl_cons]
    refine Nat.le_trans ?_ (le_foldl _ _)
    show 128 ≤ (lead.toNat % 16 * 64 + byte.toNat % 64) * 64 + next.toNat % 64
    omega
  · obtain ⟨next, others, rfl, _, _, _⟩ := continuationRun_succ later
    rw [List.take_succ_cons, List.foldl_cons]
    refine Nat.le_trans ?_ (le_foldl _ _)
    show 128 ≤ (lead.toNat % 8 * 64 + byte.toNat % 64) * 64 + next.toNat % 64
    omega

/-! ### Characters -/

/-- A character beyond ASCII; code points that there are not stand for the character zero. -/
theorem ofNat_beyond {code : Nat} (beyond : 0x80 ≤ code) :
    0x80 ≤ (Char.ofNat code).toNat ∨ (Char.ofNat code).toNat = 0 := by
  by_cases valid : code.isValidChar
  · have own : Char.ofNat code = Char.ofNatAux code valid := dif_pos valid
    rw [own]
    exact .inl beyond
  · have zero : Char.ofNat code = Char.ofNat 0 := dif_neg valid
    rw [zero]
    exact .inr rfl

/-- Characters beyond ASCII have no upper case. -/
theorem toUpper_ofNat {code : Nat} (beyond : 0x80 ≤ code) :
    (Char.ofNat code).toUpper = Char.ofNat code := by
  refine dif_neg fun letter => ?_
  have low : 97 ≤ (Char.ofNat code).toNat := letter.1
  have high : (Char.ofNat code).toNat ≤ 122 := letter.2
  have outside := ofNat_beyond beyond
  omega

/-- A character of ASCII in upper case. -/
theorem ofNat_upperByte (plain : lead < 0x80) :
    Char.ofNat (Catalogue.upperByte lead).toNat = (Char.ofNat lead.toNat).toUpper := by
  have all : ∀ number < 128, Char.ofNat (Catalogue.upperByte (UInt8.ofNat number)).toNat =
      (Char.ofNat number).toUpper := by decide
  have same := all lead.toNat plain
  rwa [UInt8.ofNat_toNat] at same

/-! ### Upper case -/

theorem upperByte_eq (beyond : 0x80 ≤ byte) : Catalogue.upperByte byte = byte := by
  unfold Catalogue.upperByte
  grind

theorem continuations?_ascii (plain : lead < 0x80) :
    continuations? lead = some (0, 0x80, 0xBF) := if_pos plain

theorem upperByte_of_continuations? (other : continuations? lead ≠ some (0, 0x80, 0xBF)) :
    Catalogue.upperByte lead = lead :=
  upperByte_eq (UInt8.not_lt.mp fun plain => other (continuations?_ascii plain))

theorem continuations?_upper (lead : UInt8) :
    continuations? (Catalogue.upperByte lead) = continuations? lead := by
  by_cases plain : lead < 0x80
  · have still : Catalogue.upperByte lead < 0x80 := by
      unfold Catalogue.upperByte
      grind
    rw [continuations?_ascii plain, continuations?_ascii still]
  · rw [upperByte_eq (UInt8.not_lt.mp plain)]

theorem continuationRun_upper (start : 0x80 ≤ low) (bytes : List UInt8) :
    continuationRun need low high (bytes.map Catalogue.upperByte) =
      continuationRun need low high bytes := by
  induction bytes generalizing need low high with
  | nil => cases need <;> rfl
  | cons byte rest hypothesis =>
    cases need with
    | zero => rfl
    | succ need =>
      have inside : low ≤ Catalogue.upperByte byte ∧ Catalogue.upperByte byte ≤ high ↔
          low ≤ byte ∧ byte ≤ high := by
        unfold Catalogue.upperByte
        grind
      rw [List.map_cons]
      unfold continuationRun
      simp only [inside, hypothesis (show (0x80 : UInt8) ≤ 0x80 by decide)]

/-- The character of some bytes in upper case. -/
theorem ofNat_codePoint_upper (found : continuations? lead = some (need, low, high))
    (whole : continuationRun need low high rest = need) :
    Char.ofNat (codePoint (Catalogue.upperByte lead) ((rest.take need).map Catalogue.upperByte)) =
      (Char.ofNat (codePoint lead (rest.take need))).toUpper := by
  cases need with
  | zero => exact ofNat_upperByte (lt_of_continuations? found)
  | succ need =>
    obtain ⟨_, beyond⟩ := of_continuationRun (le_of_continuations? found) whole
    have tail : (rest.take (need + 1)).map Catalogue.upperByte = rest.take (need + 1) :=
      (List.map_congr_left fun byte member => upperByte_eq (beyond byte member)).trans
        (List.map_id' _)
    have several : continuations? lead ≠ some (0, 0x80, 0xBF) := by
      rw [found]
      exact fun same => by cases same
    rw [tail, upperByte_of_continuations? several, toUpper_ofNat (le_codePoint found whole)]

/-- **Bytes in upper case**, from an offset on. -/
theorem decodeFrom_upper (offset : Nat) (bytes : List UInt8) :
    decodeFrom offset (bytes.map Catalogue.upperByte) =
      (decodeFrom offset bytes).map (List.map Char.toUpper) := by
  -- of the bytes that a fault tells of, none is a letter
  have own : ∀ {lead need low high rest}, continuations? lead = some (need, low, high) →
      continuationRun need low high rest ≠ need → Catalogue.upperByte lead = lead := by
    intro lead need low high rest found other
    refine upperByte_of_continuations? fun ascii => other ?_
    rw [found] at ascii
    cases ascii
    unfold continuationRun
    rfl
  fun_induction decodeFrom offset bytes with
  | case1 =>
    rw [List.map_nil, decodeFrom]
    rfl
  | case2 offset lead rest unfit =>
    have other : continuations? lead ≠ some (0, 0x80, 0xBF) := by
      rw [unfit]
      nofun
    have same : Catalogue.upperByte lead = lead := upperByte_of_continuations? other
    rw [List.map_cons, decodeFrom, same, unfit]
    rfl
  | case3 offset lead rest need low high found run whole more decoded hypothesis =>
    have start := le_of_continuations? found
    rw [decoded] at hypothesis
    rw [List.map_cons, decodeFrom, continuations?_upper, found]
    simp only [continuationRun_upper start]
    rw [if_pos whole, ← List.map_drop, hypothesis, ← List.map_take]
    simp only [Except.map, List.map_cons, ofNat_codePoint_upper found whole]
  | case4 offset lead rest need low high found run whole fault failed hypothesis =>
    have start := le_of_continuations? found
    rw [failed] at hypothesis
    rw [List.map_cons, decodeFrom, continuations?_upper, found]
    simp only [continuationRun_upper start]
    rw [if_pos whole, ← List.map_drop, hypothesis]
    rfl
  | case5 offset lead rest need low high found run other ended =>
    have start := le_of_continuations? found
    rw [List.map_cons, decodeFrom, continuations?_upper, found]
    simp only [continuationRun_upper start, List.length_map]
    rw [if_neg other, if_pos ended, own found other]
    rfl
  | case6 offset lead rest need low high found run other more =>
    have start := le_of_continuations? found
    rw [List.map_cons, decodeFrom, continuations?_upper, found]
    simp only [continuationRun_upper start, List.length_map]
    rw [if_neg other, if_neg more, own found other]
    rfl

/-- **Bytes in upper case encode the text in upper case**; where they are no UTF-8, the bytes
themselves are none. -/
theorem decode_upper (bytes : List UInt8) :
    decode (bytes.map Catalogue.upperByte) = (decode bytes).map Text.upper := by
  unfold decode
  rw [decodeFrom_upper]
  cases decodeFrom 0 bytes with
  | error fault => rfl
  | ok text =>
    unfold Text.upper
    simp only [Except.map, String.toList_ofList]

/-! ### Line feeds -/

/-- The character of some bytes is a line feed only if they are its own byte. -/
theorem ofNat_codePoint_newline (found : continuations? lead = some (need, low, high))
    (whole : continuationRun need low high rest = need)
    (newline : Char.ofNat (codePoint lead (rest.take need)) = '\n') : lead = 10 := by
  cases need with
  | zero =>
    have plain : lead.toNat < 0x80 := lt_of_continuations? found
    have all : ∀ number < 128, Char.ofNat number = '\n' → number = 10 := by decide
    exact UInt8.toNat_inj.mp (all lead.toNat plain newline)
  | succ need =>
    have beyond := ofNat_beyond (le_codePoint found whole)
    rw [newline] at beyond
    exact absurd beyond (by decide)

theorem mem_of_decodeFrom (offset : Nat) (bytes : List UInt8) :
    ∀ text, decodeFrom offset bytes = .ok text → '\n' ∈ text → 10 ∈ bytes := by
  fun_induction decodeFrom offset bytes with
  | case1 =>
    rintro _ ⟨⟩ member
    cases member
  | case3 offset lead rest need low high found run whole more inside hypothesis =>
    rintro _ ⟨⟩ member
    rcases List.mem_cons.mp member with here | later
    · rw [ofNat_codePoint_newline found whole here.symm]
      exact List.mem_cons_self
    · exact List.mem_cons_of_mem _ (List.mem_of_mem_drop (hypothesis more inside later))
  | _ => rintro _ ⟨⟩

/-- **A line feed in a text comes from its own byte.** -/
theorem mem_of_decode {text : String} (decoded : decode bytes = .ok text)
    (member : '\n' ∈ text.toList) : 10 ∈ bytes := by
  unfold decode at decoded
  cases found : decodeFrom 0 bytes with
  | error fault =>
    rw [found] at decoded
    cases decoded
  | ok chars =>
    rw [found] at decoded
    cases decoded
    rw [String.toList_ofList] at member
    exact mem_of_decodeFrom 0 bytes chars found member

theorem toList_loop (bytes : ByteArray) (place : Nat) (before : List UInt8) :
    ByteArray.toList.loop bytes place before = before.reverse ++ bytes.data.toList.drop place := by
  induction place, before using ByteArray.toList.loop.induct bytes with
  | case1 place before inside hypothesis =>
    have bound : place < bytes.data.toList.length := inside
    have here : bytes.get! place = bytes.data.toList[place] := getElem!_pos bytes.data place inside
    rw [ByteArray.toList.loop, if_pos inside, hypothesis, List.drop_eq_getElem_cons bound, here,
      List.reverse_cons, List.append_assoc, List.singleton_append]
  | case2 place before outside =>
    have bound : bytes.data.toList.length ≤ place := Nat.not_lt.mp outside
    rw [ByteArray.toList.loop, if_neg outside, List.drop_eq_nil_of_le bound, List.append_nil]

/-- The bytes of a text, character by character. -/
theorem encode_eq (text : String) : encode text = text.toList.flatMap String.utf8EncodeChar := by
  have loop := toList_loop text.toByteArray 0 []
  rw [List.reverse_nil, List.nil_append, List.drop_zero] at loop
  show ByteArray.toList.loop text.toByteArray 0 [] = _
  rw [loop, ← String.utf8Encode_toList, List.utf8Encode, List.toList_data_toByteArray]

/-- The byte of a line feed is in the bytes of no other character. -/
theorem eq_of_mem_utf8EncodeChar {char : Char} (member : 10 ∈ String.utf8EncodeChar char) :
    char = '\n' := by
  have beyond : ∀ number, 128 ≤ number → number < 256 → (10 : UInt8) ≠ UInt8.ofNat number := by
    intro number least bound same
    have equal := congrArg UInt8.toNat same
    rw [UInt8.toNat_ofNat_of_lt' bound] at equal
    exact absurd (equal ▸ least) (by decide)
  unfold String.utf8EncodeChar at member
  simp only at member
  split at member
  · rename_i ascii
    have equal := congrArg UInt8.toNat (List.mem_singleton.mp member)
    rw [UInt8.toNat_ofNat_of_lt' (show char.val.toNat < 256 by omega)] at equal
    exact Char.ext (UInt32.toNat_inj.mp equal.symm)
  · exfalso
    repeat' split at member
    all_goals
      simp only [List.mem_cons, List.not_mem_nil, or_false] at member
      repeat' (rcases member with here | member)
      all_goals
        first
          | exact absurd here (beyond _ (by omega) (by omega))
          | exact absurd member (beyond _ (by omega) (by omega))

/-- **A line feed in bytes that encode a text is in the text.** -/
theorem mem_of_mem_encode {text : String} (member : 10 ∈ encode text) : '\n' ∈ text.toList := by
  rw [encode_eq] at member
  obtain ⟨char, inside, here⟩ := List.mem_flatMap.mp member
  rwa [eq_of_mem_utf8EncodeChar here] at inside

end Mustache.Text.Utf8
