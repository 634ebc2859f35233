import DesignTokens.Text

/-!
# UTF-8

Strict UTF-8: no surrogates and no overlong forms. A refusal to decode names the
bytes at fault, which are the longest prefix of a well-formed sequence that
stands there; a refusal to encode names the first run of lone surrogates.
-/

namespace DesignTokens.Utf8

/-- The one to four bytes of a code point. Only text without surrogates is
encoded, so the three bytes of a surrogate are never seen. -/
def encodePoint (point : CodePoint) : Bytes :=
  let number := point.val
  if number < 0x80 then [UInt8.ofNat number]
  else if number < 0x800 then
    [UInt8.ofNat (0xC0 + number / 0x40), UInt8.ofNat (0x80 + number % 0x40)]
  else if number < 0x10000 then
    [UInt8.ofNat (0xE0 + number / 0x1000), UInt8.ofNat (0x80 + number / 0x40 % 0x40),
      UInt8.ofNat (0x80 + number % 0x40)]
  else
    [UInt8.ofNat (0xF0 + number / 0x40000), UInt8.ofNat (0x80 + number / 0x1000 % 0x40),
      UInt8.ofNat (0x80 + number / 0x40 % 0x40), UInt8.ofNat (0x80 + number % 0x40)]

/-- A run of code points without encoding: the positions of its first and last
member, and the first member itself. -/
structure EncodeFault where
  first : Nat
  last : Nat
  point : CodePoint
  deriving DecidableEq, Repr

/-- The wording of a refusal to encode. -/
def EncodeFault.message (fault : EncodeFault) : Text :=
  if fault.first = fault.last then
    text "'utf-8' codec can't encode character '\\u" ++ Text.hexadecimal 4 fault.point.val ++
      text "' in position " ++ Text.decimal fault.first ++ text ": surrogates not allowed"
  else
    text "'utf-8' codec can't encode characters in position " ++ Text.decimal fault.first ++
      text "-" ++ Text.decimal fault.last ++ text ": surrogates not allowed"

/-- The first surrogate that a test does not let pass, with the surrogates that
follow it without a gap; positions count from the given one. -/
def firstRefused (passes : CodePoint -> Bool) (position : Nat) : Text -> Option EncodeFault
  | [] => none
  | point :: rest =>
      if point.isSurrogate && !passes point then
        some ⟨position, position + (rest.takeWhile CodePoint.isSurrogate).length, point⟩
      else firstRefused passes (position + 1) rest

/-- The first run of surrogates in a text. -/
def encodeFault? (content : Text) : Option EncodeFault :=
  firstRefused (fun _ => false) 0 content

/-- The bytes of a text, or its first run of surrogates. -/
def encode (content : Text) : Except EncodeFault Bytes :=
  match encodeFault? content with
  | some fault => .error fault
  | none => .ok (content.flatMap encodePoint)

/-- The surrogates that stand for a raw byte in the name of a file. -/
def isRawByte (point : CodePoint) : Bool :=
  0xDC80 <= point.val && point.val <= 0xDCFF

/-- The bytes of a file name, in which certain surrogates stand for raw bytes. -/
def encodeName (name : Text) : Except EncodeFault Bytes :=
  match firstRefused isRawByte 0 name with
  | some fault => .error fault
  | none =>
      .ok (name.flatMap fun point =>
        if isRawByte point then [UInt8.ofNat (point.val - 0xDC00)] else encodePoint point)

/-- Why a sequence of bytes is not UTF-8. -/
inductive DecodeReason where
  | startByte
  | continuationByte
  | endOfData
  deriving DecidableEq, Repr

/-- The bytes at fault: the positions of the first and the last, and the first. -/
structure DecodeFault where
  first : Nat
  last : Nat
  byte : UInt8
  reason : DecodeReason
  deriving DecidableEq, Repr

/-- The wording of a reason. -/
def DecodeReason.message : DecodeReason -> Text
  | .startByte => text "invalid start byte"
  | .continuationByte => text "invalid continuation byte"
  | .endOfData => text "unexpected end of data"

/-- The wording of a refusal to decode. -/
def DecodeFault.message (fault : DecodeFault) : Text :=
  if fault.first = fault.last then
    text "'utf-8' codec can't decode byte 0x" ++ Text.hexadecimal 2 fault.byte.toNat ++
      text " in position " ++ Text.decimal fault.first ++ text ": " ++ fault.reason.message
  else
    text "'utf-8' codec can't decode bytes in position " ++ Text.decimal fault.first ++
      text "-" ++ Text.decimal fault.last ++ text ": " ++ fault.reason.message

/-- A sequence that is not complete: where it starts, its first byte, the bounds
of the next byte, how many bytes it still lacks, and the value read so far. -/
structure Pending where
  first : Nat
  leading : UInt8
  low : UInt8
  high : UInt8
  owed : Nat
  value : Nat
  deriving DecidableEq, Repr

/-- What a byte between two sequences begins. -/
inductive Opening where
  | ascii (point : CodePoint)
  | sequence (pending : Pending)
  | refused
  deriving DecidableEq, Repr

/-- The bounds on the second byte exclude overlong forms, surrogates and numbers
beyond the last code point. -/
def opening (position : Nat) (byte : UInt8) : Opening :=
  let number := byte.toNat
  if number < 0x80 then .ascii (Fin.ofNat 0x110000 number)
  else if number < 0xC2 then .refused
  else if number < 0xE0 then .sequence ⟨position, byte, 0x80, 0xBF, 1, number - 0xC0⟩
  else if number = 0xE0 then .sequence ⟨position, byte, 0xA0, 0xBF, 2, 0⟩
  else if number = 0xED then .sequence ⟨position, byte, 0x80, 0x9F, 2, 0xD⟩
  else if number < 0xF0 then .sequence ⟨position, byte, 0x80, 0xBF, 2, number - 0xE0⟩
  else if number = 0xF0 then .sequence ⟨position, byte, 0x90, 0xBF, 3, 0⟩
  else if number < 0xF4 then .sequence ⟨position, byte, 0x80, 0xBF, 3, number - 0xF0⟩
  else if number = 0xF4 then .sequence ⟨position, byte, 0x80, 0x8F, 3, 4⟩
  else .refused

/-- Decodes from a position, where a sequence may be pending. -/
def decodeFrom (position : Nat) : Option Pending -> Bytes -> Except DecodeFault Text
  | none, [] => .ok []
  | some pending, [] =>
      .error ⟨pending.first, position - 1, pending.leading, .endOfData⟩
  | none, byte :: rest =>
      match opening position byte with
      | .ascii point => (decodeFrom (position + 1) none rest).map (point :: ·)
      | .sequence pending => decodeFrom (position + 1) (some pending) rest
      | .refused => .error ⟨position, position, byte, .startByte⟩
  | some pending, byte :: rest =>
      if pending.low <= byte && byte <= pending.high then
        let value := pending.value * 0x40 + (byte.toNat - 0x80)
        if pending.owed = 1 then
          (decodeFrom (position + 1) none rest).map (Fin.ofNat 0x110000 value :: ·)
        else
          decodeFrom (position + 1)
            (some ⟨pending.first, pending.leading, 0x80, 0xBF, pending.owed - 1, value⟩) rest
      else .error ⟨pending.first, position - 1, pending.leading, .continuationByte⟩

/-- The text of a sequence of bytes, or the first bytes at fault. -/
def decode (content : Bytes) : Except DecodeFault Text :=
  decodeFrom 0 none content

end DesignTokens.Utf8
