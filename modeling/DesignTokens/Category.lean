import DesignTokens.Text

/-!
# Token categories

The ten kinds of design token, the segment that each contributes to the names of
custom properties, and where each goes in a WordPress theme: four become presets
of the editor, five become custom settings, and stacking order is left out.
-/

namespace DesignTokens

/-- The kinds of design token. -/
inductive Category where
  | color
  | spacing
  | fontFamily
  | fontSize
  | fontWeight
  | lineHeight
  | radius
  | shadow
  | transition
  | zIndex
  deriving DecidableEq, Repr

namespace Category

/-- Every category, in the order in which messages list them. -/
def all : List Category :=
  [color, spacing, fontFamily, fontSize, fontWeight, lineHeight, radius, shadow, transition,
    zIndex]

/-- The name of a category in a config. -/
def name : Category -> Text
  | color => text "color"
  | spacing => text "spacing"
  | fontFamily => text "fontFamily"
  | fontSize => text "fontSize"
  | fontWeight => text "fontWeight"
  | lineHeight => text "lineHeight"
  | radius => text "radius"
  | shadow => text "shadow"
  | transition => text "transition"
  | zIndex => text "zIndex"

/-- The category with a name. -/
def ofName? (name : Text) : Option Category :=
  all.find? fun category => category.name == name

/-- The list of all categories leaves none out. -/
theorem mem_all (category : Category) : category ∈ all := by
  cases category <;> decide

/-- A category is found by its name. -/
@[simp]
theorem ofName?_name (category : Category) : ofName? category.name = some category := by
  cases category <;> decide

/-- The part of a custom property's name that tells its category. -/
def segment : Category -> Text
  | color => text "color"
  | spacing => text "spacing"
  | fontFamily => text "font-family"
  | fontSize => text "font-size"
  | fontWeight => text "font-weight"
  | lineHeight => text "line-height"
  | radius => text "radius"
  | shadow => text "shadow"
  | transition => text "transition"
  | zIndex => text "z"

/-- What the names of the preset variables of a category begin with, for the
categories that WordPress has presets for. -/
def presetPath? : Category -> Option Text
  | color => some (text "--wp--preset--color")
  | spacing => some (text "--wp--preset--spacing")
  | fontFamily => some (text "--wp--preset--font-family")
  | fontSize => some (text "--wp--preset--font-size")
  | _ => none

/-- The categories of the custom settings, in the order in which they are written. -/
def customSettings : List Category :=
  [fontWeight, lineHeight, radius, shadow, transition]

end Category

end DesignTokens
