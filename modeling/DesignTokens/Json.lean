import DesignTokens.Dictionary
import DesignTokens.Text

/-!
# JSON documents

A document keeps the order of the members of its objects. A number keeps as much
of its spelling as decides which number it is; the only question asked of one is
whether it is zero, where fractions and exponents are rounded to double precision.
-/

namespace DesignTokens

/-- A JSON number: an integer, a coefficient with a power of ten, or one of the
three values that have no decimal form. -/
inductive JsonNumber where
  | integer (value : Int)
  | decimal (coefficient exponent : Int)
  | notANumber
  | infinite (negative : Bool)
  deriving DecidableEq, Repr

namespace JsonNumber

/-- Whether a positive coefficient with a negative power of ten rounds to zero:
it does up to and including half of the least double, which is `2 ^ -1075`. A
power beyond the number of binary digits of both decides without being computed. -/
def underflows (coefficient power : Nat) : Bool :=
  coefficient.log2 + 1076 < power || coefficient * Nat.pow 2 1075 <= Nat.pow 10 power

/-- A number that counts as zero, whatever its spelling. -/
def isZero : JsonNumber -> Bool
  | .integer value => value = 0
  | .decimal coefficient exponent =>
      coefficient = 0 || (exponent < 0 && underflows coefficient.natAbs exponent.natAbs)
  | .notANumber => false
  | .infinite _ => false

end JsonNumber

/-- A JSON document. -/
inductive Json where
  | null
  | boolean (value : Bool)
  | number (value : JsonNumber)
  | string (value : Text)
  | array (items : List Json)
  | object (members : List (Text × Json))
  deriving Inhabited

namespace Json

/-- The value of the first member with a name. -/
def member? (name : Text) (members : List (Text × Json)) : Option Json :=
  (members.find? fun entry => entry.1 == name).map Prod.snd

/-- The documents that count as nothing: null, false, zero, and whatever is empty. -/
def isFalsy : Json -> Bool
  | .null => true
  | .boolean value => !value
  | .number value => value.isZero
  | .string value => value.isEmpty
  | .array items => items.isEmpty
  | .object members => members.isEmpty

end Json

end DesignTokens
