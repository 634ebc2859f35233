import DesignTokens.Text.Printable

/-!
# Quoted text

Quoted text shows a text on one line between quotation marks. Single marks are
used unless the text holds a single mark and no double one. The mark in use, the
backslash and everything that is not printable are escaped.
-/

namespace DesignTokens.Text

/-- The mark that quotes a text. -/
def quotationMark (content : Text) : CodePoint :=
  if content.contains (CodePoint.ofChar '\'') && !content.contains (CodePoint.ofChar '"') then '"'
  else '\''

/-- The written form of one code point between marks of the given kind. -/
def quotedPoint (mark point : CodePoint) : Text :=
  if point = mark || point = '\\' then ['\\', point]
  else if point = '\t' then text "\\t"
  else if point = '\n' then text "\\n"
  else if point = '\r' then text "\\r"
  else if isPrintable point then [point]
  else if point.val < 0x100 then text "\\x" ++ hexadecimal 2 point.val
  else if point.val < 0x10000 then text "\\u" ++ hexadecimal 4 point.val
  else text "\\U" ++ hexadecimal 8 point.val

/-- The text between its quotation marks. -/
def quoted (content : Text) : Text :=
  let mark := quotationMark content
  mark :: content.flatMap (quotedPoint mark) ++ [mark]

end DesignTokens.Text
