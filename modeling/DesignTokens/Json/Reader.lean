import DesignTokens.Json

/-!
# Reading JSON

The reader accepts one document with blanks around it. It is lenient in two
points, the words `NaN`, `Infinity` and `-Infinity` and lone surrogates spelled
by escapes, and strict in all others. When an object repeats a name, the name
keeps its first place and takes its last value. Reading stops at the first
position where the text cannot go on, and the refusal names what is wrong there.
-/

namespace DesignTokens

/-- What is wrong with the text at the position where reading stops. -/
inductive JsonFault where
  | byteOrderMark
  | expectingValue
  | expectingName
  | expectingColon
  | expectingComma
  | unterminatedString
  | controlCharacter
  | invalidEscape
  | invalidUnicodeEscape
  | extraData
  deriving DecidableEq, Repr

/-- The wording of a fault. -/
def JsonFault.message : JsonFault -> Text
  | .byteOrderMark => text "Unexpected UTF-8 BOM (decode using utf-8-sig)"
  | .expectingValue => text "Expecting value"
  | .expectingName => text "Expecting property name enclosed in double quotes"
  | .expectingColon => text "Expecting ':' delimiter"
  | .expectingComma => text "Expecting ',' delimiter"
  | .unterminatedString => text "Unterminated string starting at"
  | .controlCharacter => text "Invalid control character at"
  | .invalidEscape => text "Invalid \\escape"
  | .invalidUnicodeEscape => text "Invalid \\uXXXX escape"
  | .extraData => text "Extra data"

/-- Why a text was not read: it is not JSON, or it holds an integer with more
digits than the reader converts. -/
inductive JsonRefusal where
  | malformed (fault : JsonFault)
  | integerTooLong (digits : Nat)
  deriving DecidableEq, Repr

namespace JsonReader

/-- What reading yields. A step that reads a part of the text yields its value
together with the text after it. -/
abbrev Reading := Except JsonRefusal

/-- Reading stops at a fault. -/
def refuse {Value : Type} (fault : JsonFault) : Reading Value :=
  .error (.malformed fault)

/-- The longest integer that is converted has this many digits. -/
def digitLimit : Nat := 4300

/-- The four code points that may stand between two parts of a document. -/
def isBlank (point : CodePoint) : Bool :=
  point = ' ' || point = '\t' || point = '\n' || point = '\r'

/-- The text after its leading blanks. -/
def skipBlanks (content : Text) : Text :=
  content.dropWhile isBlank

/-- The text after a mark that has to stand at its start. -/
def expect (mark : CodePoint) (fault : JsonFault) : Text -> Reading Text
  | [] => refuse fault
  | point :: rest => if point = mark then .ok rest else refuse fault

/-- The code point that a one-letter escape stands for. -/
def shortEscape? (letter : CodePoint) : Option CodePoint :=
  if letter = '"' || letter = '\\' || letter = '/' then some letter
  else if letter = 'b' then some 0x08
  else if letter = 'f' then some 0x0C
  else if letter = 'n' then some 0x0A
  else if letter = 'r' then some 0x0D
  else if letter = 't' then some 0x09
  else none

/-- The number that four hexadecimal digits spell. -/
def fourDigits? (first second third fourth : CodePoint) : Option Nat := do
  let high <- first.hexadecimalValue?
  let upper <- second.hexadecimalValue?
  let lower <- third.hexadecimalValue?
  let low <- fourth.hexadecimalValue?
  some (high * 0x1000 + upper * 0x100 + lower * 0x10 + low)

/-- The code point of a surrogate pair. -/
def joinSurrogates (high low : CodePoint) : CodePoint :=
  Fin.ofNat 0x110000 (0x10000 + (high.val - 0xD800) * 0x400 + (low.val - 0xDC00))

/-- Puts a text in front of the text that a step yields. -/
def prepend (start : Text) (step : Reading (Text × Text)) : Reading (Text × Text) :=
  step.map fun result => (start ++ result.1, result.2)

/-- Reads a string after its opening mark. A high surrogate that an escape has
spelled is held back, since an escape for a low one may follow and join it. -/
def stringBody (held : Option CodePoint) : Text -> Reading (Text × Text)
  | [] => refuse .unterminatedString
  | point :: rest =>
      if point = '"' then .ok (held.toList, rest)
      else if point = '\\' then
        match rest with
        | [] => refuse .unterminatedString
        | letter :: rest =>
            if letter = 'u' then
              match rest with
              | first :: second :: third :: fourth :: next :: others =>
                  match fourDigits? first second third fourth with
                  | none => refuse .invalidUnicodeEscape
                  | some number =>
                      let spelled : CodePoint := Fin.ofNat 0x110000 number
                      match held with
                      | some high =>
                          if spelled.isLowSurrogate then
                            prepend [joinSurrogates high spelled]
                              (stringBody none (next :: others))
                          else if spelled.isHighSurrogate then
                            prepend [high] (stringBody (some spelled) (next :: others))
                          else prepend [high, spelled] (stringBody none (next :: others))
                      | none =>
                          if spelled.isHighSurrogate then
                            stringBody (some spelled) (next :: others)
                          else prepend [spelled] (stringBody none (next :: others))
              | _ => refuse .invalidUnicodeEscape
            else
              match shortEscape? letter with
              | some escaped => prepend (held.toList ++ [escaped]) (stringBody none rest)
              | none => refuse .invalidEscape
      else if point.val <= 0x1F then refuse .controlCharacter
      else prepend (held.toList ++ [point]) (stringBody none rest)

/-- The number that a row of decimal digits spells. -/
def digitsValue (digits : Text) : Nat :=
  digits.foldl (fun value digit => value * 10 + digit.digitValue) 0

/-- The digits after a decimal point, which need at least one. -/
def fraction (content : Text) : Option Text × Text :=
  match content with
  | [] => (none, [])
  | point :: rest =>
      let digits := rest.takeWhile CodePoint.isDigit
      if point = '.' && !digits.isEmpty then (some digits, rest.dropWhile CodePoint.isDigit)
      else (none, point :: rest)

/-- The sign and the rest of a text that may begin with a plus or a minus. -/
def sign (content : Text) : Bool × Text :=
  match content with
  | [] => (false, [])
  | point :: rest =>
      if point = '-' then (true, rest)
      else if point = '+' then (false, rest)
      else (false, point :: rest)

/-- The power of ten after the letter `e`, which needs at least one digit. -/
def power (content : Text) : Option Int × Text :=
  match content with
  | [] => (none, [])
  | letter :: rest =>
      let (negative, unsigned) := sign rest
      let digits := unsigned.takeWhile CodePoint.isDigit
      if (letter = 'e' || letter = 'E') && !digits.isEmpty then
        let value : Int := digitsValue digits
        (some (if negative then -value else value), unsigned.dropWhile CodePoint.isDigit)
      else (none, letter :: rest)

/-- The digits before a decimal point: a zero alone, or a row that does not begin
with one. -/
def whole (content : Text) : Text × Text :=
  match content with
  | [] => ([], [])
  | digit :: rest =>
      if digit = '0' then ([digit], rest)
      else (content.takeWhile CodePoint.isDigit, content.dropWhile CodePoint.isDigit)

/-- The number spelled by digits with an optional fraction and power of ten. -/
def numberOf (negative : Bool) (digits : Text) (decimals : Option Text) (exponent : Option Int) :
    Reading JsonNumber :=
  match decimals, exponent with
  | none, none =>
      if digitLimit < digits.length then .error (.integerTooLong digits.length)
      else
        let value : Int := digitsValue digits
        .ok (.integer (if negative then -value else value))
  | _, _ =>
      let value : Int := digitsValue (digits ++ decimals.getD [])
      .ok (.decimal (if negative then -value else value)
        (exponent.getD 0 - (decimals.getD []).length))

/-- Reads a number. -/
def number (content : Text) : Reading (JsonNumber × Text) := do
  let (negative, unsigned) :=
    match content with
    | point :: rest => if point = '-' then (true, rest) else (false, content)
    | [] => (false, [])
  let (digits, afterDigits) := whole unsigned
  if digits.isEmpty then refuse .expectingValue
  else
    let (decimals, afterDecimals) := fraction afterDigits
    let (exponent, rest) := power afterDecimals
    let value <- numberOf negative digits decimals exponent
    .ok (value, rest)

/-- The words that stand for a document. -/
def words : List (Text × Json) := [
  (text "null", .null), (text "true", .boolean true), (text "false", .boolean false),
  (text "NaN", .number .notANumber), (text "Infinity", .number (.infinite false)),
  (text "-Infinity", .number (.infinite true))]

/-- Reads a word or a number. -/
def scalar (content : Text) : Reading (Json × Text) :=
  match words.find? fun word => word.1.isPrefixOf content with
  | some word => .ok (word.2, content.drop word.1.length)
  | none => (number content).map fun result => (.number result.1, result.2)

/-- Whether a text goes on with a mark. -/
def startsWith (mark : CodePoint) (content : Text) : Bool :=
  content.head? == some mark

mutual

/-- Reads a document that starts right at the text. The first argument bounds the
depth of the calls; one more than the length of the text is always enough. -/
def value : Nat -> Text -> Reading (Json × Text)
  | 0, _ => refuse .expectingValue
  | bound + 1, content =>
      match content with
      | [] => refuse .expectingValue
      | point :: rest =>
          if point = '"' then (stringBody none rest).map fun result => (.string result.1, result.2)
          else if point = '{' then
            let inner := skipBlanks rest
            if startsWith '}' inner then .ok (.object [], inner.tail)
            else members bound [] inner
          else if point = '[' then
            let inner := skipBlanks rest
            if startsWith ']' inner then .ok (.array [], inner.tail)
            else items bound [] inner
          else scalar (point :: rest)

/-- Reads the members of an object from a name on, after the members read so far. -/
def members : Nat -> List (Text × Json) -> Text -> Reading (Json × Text)
  | 0, _, _ => refuse .expectingValue
  | bound + 1, earlier, content => do
      let afterMark <- expect '"' .expectingName content
      let (name, afterName) <- stringBody none afterMark
      let afterColon <- expect ':' .expectingColon (skipBlanks afterName)
      let (document, afterValue) <- value bound (skipBlanks afterColon)
      let all := putEntry name document earlier
      let next := skipBlanks afterValue
      if startsWith '}' next then .ok (.object all, next.tail)
      else
        let rest <- expect ',' .expectingComma next
        members bound all (skipBlanks rest)

/-- Reads the items of an array from an item on, after the items read so far. -/
def items : Nat -> List Json -> Text -> Reading (Json × Text)
  | 0, _, _ => refuse .expectingValue
  | bound + 1, earlier, content => do
      let (document, afterValue) <- value bound content
      let all := earlier ++ [document]
      let next := skipBlanks afterValue
      if startsWith ']' next then .ok (.array all, next.tail)
      else
        let rest <- expect ',' .expectingComma next
        items bound all (skipBlanks rest)

end

end JsonReader

/-- The document that a text spells. -/
def Json.read (content : Text) : Except JsonRefusal Json := do
  if JsonReader.startsWith 0xFEFF content then JsonReader.refuse .byteOrderMark
  else
    let (document, rest) <- JsonReader.value (content.length + 1) (JsonReader.skipBlanks content)
    if (JsonReader.skipBlanks rest).isEmpty then .ok document
    else JsonReader.refuse .extraData

end DesignTokens
