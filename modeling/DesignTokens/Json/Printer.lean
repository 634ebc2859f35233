import DesignTokens.Json

/-!
# Printing JSON

Documents are printed over several lines, two spaces deeper at each level, one
member or item a line; an empty object or array stays on its line. Strings keep
every code point that JSON does not force to be escaped.
-/

namespace DesignTokens.Json

/-- The spelling of one code point inside a string. -/
def stringPoint (point : CodePoint) : Text :=
  if point = '"' || point = '\\' then ['\\', point]
  else if point = '\n' then text "\\n"
  else if point = '\r' then text "\\r"
  else if point = '\t' then text "\\t"
  else if point.val = 0x08 then text "\\b"
  else if point.val = 0x0C then text "\\f"
  else if point.val < 0x20 then text "\\u" ++ Text.hexadecimal 4 point.val
  else [point]

/-- The spelling of a string, its marks included. -/
def stringSpelling (content : Text) : Text :=
  text "\"" ++ content.flatMap stringPoint ++ text "\""

/-- The spelling of an integer. -/
def integerSpelling (value : Int) : Text :=
  if value < 0 then text "-" ++ Text.decimal value.natAbs else Text.decimal value.natAbs

/-- The spelling of a number. -/
def numberSpelling : JsonNumber -> Text
  | .integer value => integerSpelling value
  | .decimal coefficient exponent =>
      integerSpelling coefficient ++ text "e" ++ integerSpelling exponent
  | .notANumber => text "NaN"
  | .infinite negative => if negative then text "-Infinity" else text "Infinity"

/-- A new line at a depth. -/
def breakLine (depth : Nat) : Text :=
  text "\n" ++ List.replicate (2 * depth) (CodePoint.ofChar ' ')

mutual

/-- A document whose lines after the first stand at a depth. -/
def printAt (depth : Nat) : Json -> Text
  | .null => text "null"
  | .boolean value => if value then text "true" else text "false"
  | .number value => numberSpelling value
  | .string value => stringSpelling value
  | .array [] => text "[]"
  | .array (item :: others) =>
      text "[" ++ printItems (depth + 1) (item :: others) ++ breakLine depth ++ text "]"
  | .object [] => text "\x7b\x7d"
  | .object (entry :: others) =>
      text "\x7b" ++ printMembers (depth + 1) (entry :: others) ++ breakLine depth ++ text "\x7d"

/-- The items of an array, each on a line of its own. -/
def printItems (depth : Nat) : List Json -> Text
  | [] => []
  | [item] => breakLine depth ++ printAt depth item
  | item :: next :: others =>
      breakLine depth ++ printAt depth item ++ text "," ++ printItems depth (next :: others)

/-- The members of an object, each on a line of its own. -/
def printMembers (depth : Nat) : List (Text × Json) -> Text
  | [] => []
  | [(name, document)] =>
      breakLine depth ++ stringSpelling name ++ text ": " ++ printAt depth document
  | (name, document) :: next :: others =>
      breakLine depth ++ stringSpelling name ++ text ": " ++ printAt depth document ++
        text "," ++ printMembers depth (next :: others)

end

/-- The lines of a document, without a line ending after the last. -/
def print (document : Json) : Text :=
  printAt 0 document

end DesignTokens.Json
