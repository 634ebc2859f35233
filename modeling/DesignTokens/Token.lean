import DesignTokens.Category

/-!
# Design tokens

A token is a value, and a named token also has a name and a slug under which
WordPress offers it. Names, slugs and the scope of a config are labels.
-/

namespace DesignTokens

/-- Text with at least one code point and without surrogates. -/
structure Label where
  content : Text
  nonempty : content ≠ []
  scalar : content.isScalar = true
  deriving DecidableEq

/-- Labels with the same text are equal. -/
@[ext]
theorem Label.ext {first second : Label} (same : first.content = second.content) :
    first = second := by
  cases first
  cases second
  simp only at same
  subst same
  rfl

/-- A design token. -/
inductive Token where
  | named (value : Text) (name slug : Label)
  | unnamed (value : Text)
  deriving DecidableEq

namespace Token

/-- The value of a token. -/
def value : Token -> Text
  | named value _ _ => value
  | unnamed value => value

/-- Whether WordPress gets to see a token. -/
def isNamed : Token -> Bool
  | named .. => true
  | unnamed _ => false

/-- The value of a token where presets count: a named token of a category with
presets reads its preset first and falls back to its own value. -/
def presetValue (category : Category) : Token -> Text
  | unnamed value => value
  | named value _ slug =>
      match category.presetPath? with
      | some path => text "var(" ++ path ++ text "--" ++ slug.content ++ text ", " ++ value ++ text ")"
      | none => value

end Token

/-- The name of the custom property that holds a token. -/
def propertyName (scope : Text) (category : Category) (key : Text) : Text :=
  text "--" ++ scope ++ text "-" ++ category.segment ++ text "-" ++ key

end DesignTokens
