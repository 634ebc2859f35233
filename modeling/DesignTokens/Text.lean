/-!
# Text

Text is a list of Unicode code points. Lone surrogates are admitted, because an
escape in a JSON document can spell one; they have no encoding, and whether a
text is free of them is a question each user of a text asks for itself.
-/

namespace DesignTokens

/-- A Unicode code point, the surrogates included. -/
abbrev CodePoint := Fin 0x110000

/-- There are code points for numerals to stand for. -/
instance CodePoint.neZero : @NeZero Nat Zero.ofOfNat0 0x110000 := Nat.instNeZeroSucc

/-- Text of any code points, lone surrogates included. -/
abbrev Text := List CodePoint

/-- The contents of a file. -/
abbrev Bytes := List UInt8

namespace CodePoint

/-- The code point of a character. -/
def ofChar (character : Char) : CodePoint :=
  Fin.ofNat 0x110000 character.toNat

instance : Coe Char CodePoint := ⟨ofChar⟩

/-- The code points that open a surrogate pair. -/
def isHighSurrogate (point : CodePoint) : Bool :=
  0xD800 <= point.val && point.val <= 0xDBFF

/-- The code points that close a surrogate pair. -/
def isLowSurrogate (point : CodePoint) : Bool :=
  0xDC00 <= point.val && point.val <= 0xDFFF

/-- The code points that stand for no character. -/
def isSurrogate (point : CodePoint) : Bool :=
  0xD800 <= point.val && point.val <= 0xDFFF

/-- The ten ASCII digits; no other digit of Unicode counts. -/
def isDigit (point : CodePoint) : Bool :=
  0x30 <= point.val && point.val <= 0x39

/-- The number that an ASCII digit stands for. -/
def digitValue (point : CodePoint) : Nat :=
  point.val - 0x30

/-- The number that a hexadecimal digit of either case stands for. -/
def hexadecimalValue? (point : CodePoint) : Option Nat :=
  if point.isDigit then some point.digitValue
  else if 0x41 <= point.val && point.val <= 0x46 then some (point.val - 0x37)
  else if 0x61 <= point.val && point.val <= 0x66 then some (point.val - 0x57)
  else none

end CodePoint

/-- The text of a string. -/
def text (literal : String) : Text :=
  literal.toList.map CodePoint.ofChar

namespace Text

/-- The decimal digits of a natural number, without leading zeros. -/
def decimal (number : Nat) : Text :=
  (Nat.toDigits 10 number).map CodePoint.ofChar

/-- The lower-case hexadecimal digits of a natural number, filled with leading
zeros to a least width. -/
def hexadecimal (width number : Nat) : Text :=
  ((Nat.toDigits 16 number).map CodePoint.ofChar).leftpad width '0'

/-- The order of texts by their code points, in which a text comes before those that
go on after it. -/
def noLater : Text -> Text -> Bool
  | [], _ => true
  | _ :: _, [] => false
  | first :: rest, other :: others =>
      if first = other then noLater rest others else first.val < other.val

/-- Text that holds no surrogate: exactly the text that UTF-8 can carry. -/
def isScalar (content : Text) : Bool :=
  content.all fun point => !point.isSurrogate

/-- The text with an escape sequence in the place of every surrogate. -/
def escapeSurrogates (content : Text) : Text :=
  content.flatMap fun point =>
    if point.isSurrogate then text "\\u" ++ hexadecimal 4 point.val else [point]

/-- Every line ending, be it a carriage return with or without a line feed,
becomes one line feed. -/
def unifyNewlines : Text -> Text
  | [] => []
  | point :: rest =>
      if point = '\r' then
        match rest with
        | [] => [CodePoint.ofChar '\n']
        | next :: others =>
            if next = '\n' then '\n' :: unifyNewlines others
            else '\n' :: unifyNewlines (next :: others)
      else point :: unifyNewlines rest

/-- The text without the longest run of a code point at its end. -/
def dropTrailing (mark : CodePoint) (content : Text) : Text :=
  (content.reverse.dropWhile (fun point => point == mark)).reverse

/-- The pieces of a text between the occurrences of a mark: one more than there
are marks, some of them possibly empty. -/
def splitAt (mark : CodePoint) : Text -> List Text
  | [] => [[]]
  | point :: rest =>
      if point = mark then [] :: splitAt mark rest
      else
        match splitAt mark rest with
        | [] => [[point]]
        | piece :: pieces => (point :: piece) :: pieces

end Text

end DesignTokens
