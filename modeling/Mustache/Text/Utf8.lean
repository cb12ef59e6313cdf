/-!
**UTF-8.**

A character is a lead byte and up to three continuation bytes; the lead byte fixes their number and
the range of the first of them, so that no character has two forms and no surrogate has one.

* `encode`: the bytes of a text.
* `decode`: the text of some bytes, or the first place where they are no UTF-8.
* `decodeStream`: the same for bytes that come piece by piece.
* `Malformed.message`: what is wrong there.
-/

namespace Mustache.Text.Utf8

/-- Why bytes are no UTF-8. -/
inductive Reason where
  /-- No character starts with this byte. -/
  | start
  /-- A continuation byte is missing although more bytes follow. -/
  | continuation
  /-- The bytes end within a character. -/
  | truncated
  deriving DecidableEq, Repr

/-- A stretch of bytes that is no UTF-8, and its first byte. -/
structure Malformed where
  reason : Reason
  start : Nat
  stop : Nat
  byte : UInt8
  deriving DecidableEq, Repr

/-- The number of continuation bytes after a lead byte, and the range of the first of them. -/
def continuations? (lead : UInt8) : Option (Nat × UInt8 × UInt8) :=
  if lead < 0x80 then some (0, 0x80, 0xBF)
  else if lead < 0xC2 then none
  else if lead < 0xE0 then some (1, 0x80, 0xBF)
  else if lead = 0xE0 then some (2, 0xA0, 0xBF)
  else if lead = 0xED then some (2, 0x80, 0x9F)
  else if lead < 0xF0 then some (2, 0x80, 0xBF)
  else if lead = 0xF0 then some (3, 0x90, 0xBF)
  else if lead < 0xF4 then some (3, 0x80, 0xBF)
  else if lead = 0xF4 then some (3, 0x80, 0x8F)
  else none

/-- How many of the `need` next bytes are continuation bytes, the first one within a range. -/
def continuationRun : Nat → UInt8 → UInt8 → List UInt8 → Nat
  | 0, _, _, _ => 0
  | _ + 1, _, _, [] => 0
  | need + 1, low, high, byte :: rest =>
    if low ≤ byte ∧ byte ≤ high then continuationRun need 0x80 0xBF rest + 1 else 0

/-- The code point of a lead byte and its continuation bytes. -/
def codePoint (lead : UInt8) (tail : List UInt8) : Nat :=
  let size := tail.length
  let head := if size = 0 then lead.toNat else lead.toNat % Nat.pow 2 (6 - size)
  tail.foldl (fun code byte => code * 64 + byte.toNat % 64) head

/-- The characters of some bytes that start at an offset. -/
def decodeFrom (offset : Nat) : List UInt8 → Except Malformed (List Char)
  | [] => .ok []
  | lead :: rest =>
    match continuations? lead with
    | none => .error ⟨.start, offset, offset + 1, lead⟩
    | some (need, low, high) =>
      let run := continuationRun need low high rest
      if run = need then
        match decodeFrom (offset + 1 + need) (rest.drop need) with
        | .ok more => .ok (Char.ofNat (codePoint lead (rest.take need)) :: more)
        | .error fault => .error fault
      else if rest.length = run then .error ⟨.truncated, offset, offset + 1 + run, lead⟩
      else .error ⟨.continuation, offset, offset + 1 + run, lead⟩
termination_by bytes => bytes.length
decreasing_by
  rw [List.length_drop, List.length_cons]
  omega

/-- **The text of some bytes**, or the first stretch of them that is no UTF-8. -/
def decode (bytes : List UInt8) : Except Malformed String :=
  (decodeFrom 0 bytes).map String.ofList

/-- The number of bytes that come at a time from a stream. -/
def pieceSize : Nat := 8192

/-- The characters of bytes that come in at most so many pieces, behind bytes that begin a character
in the piece before. Offsets count from those bytes on. -/
def decodePieces : Nat → (carried bytes : List UInt8) → Except Malformed (List Char)
  | 0, carried, bytes => decodeFrom 0 (carried ++ bytes)
  | pieces + 1, carried, bytes =>
    if bytes.isEmpty then decodeFrom 0 carried
    else
      let data := carried ++ bytes.take pieceSize
      let goOn (chars : List Char) (carried : List UInt8) :=
        (decodePieces pieces carried (bytes.drop pieceSize)).map (chars ++ ·)
      match decodeFrom 0 data with
      | .ok chars => goOn chars []
      | .error fault =>
        if fault.reason = .truncated then
          match decodeFrom 0 (data.take fault.start) with
          | .ok chars => goOn chars (data.drop fault.start)
          | .error fault => .error fault
        else .error fault

/-- **The text of bytes that come piece by piece**, or the first stretch of them that is no UTF-8,
counted from the start of its piece. -/
def decodeStream (bytes : List UInt8) : Except Malformed String :=
  (decodePieces (bytes.length / pieceSize + 2) [] bytes).map String.ofList

/-- The bytes of a text. -/
def encode (text : String) : List UInt8 := text.toUTF8.toList

/-- The words for a reason. -/
def Reason.message : Reason → String
  | .start => "invalid start byte"
  | .continuation => "invalid continuation byte"
  | .truncated => "unexpected end of data"

/-- A byte as two hexadecimal digits. -/
def byteDigits (byte : UInt8) : String :=
  let digit := fun (value : Nat) =>
    if value < 10 then Char.ofNat (48 + value) else Char.ofNat (87 + value)
  String.ofList [digit (byte.toNat / 16), digit (byte.toNat % 16)]

/-- The words for a stretch of bytes that is no UTF-8: a single byte is shown, a longer stretch is
given by its first and last offset. -/
def Malformed.message (fault : Malformed) : String :=
  let what :=
    if fault.stop = fault.start + 1 then
      "byte 0x" ++ byteDigits fault.byte ++ " in position " ++ toString fault.start
    else
      "bytes in position " ++ toString fault.start ++ "-" ++ toString (fault.stop - 1)
  "'utf-8' codec can't decode " ++ what ++ ": " ++ fault.reason.message

end Mustache.Text.Utf8
