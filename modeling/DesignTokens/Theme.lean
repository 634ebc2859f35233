import DesignTokens.Config
import DesignTokens.Json.Printer

/-!
# Theme settings

The settings of a WordPress theme that a config amounts to. Named tokens of the
categories with presets become presets, all tokens of five other categories become
custom settings, and nothing that would be empty is written.
-/

namespace DesignTokens

/-- A value that the editor offers under a name. -/
structure Preset where
  slug : Text
  value : Text
  name : Text
  deriving DecidableEq, Repr

namespace Preset

/-- The preset of a named token. -/
def ofToken? : Token -> Option Preset
  | .named value name slug => some ⟨slug.content, value, name.content⟩
  | .unnamed _ => none

/-- The entry of a preset; how its value is called depends on the category. -/
def document (valueName : Text) (preset : Preset) : Json :=
  .object [(text "slug", .string preset.slug), (valueName, .string preset.value),
    (text "name", .string preset.name)]

end Preset

namespace Config

/-- The presets of a category. -/
def presets (config : Config) (category : Category) : List Preset :=
  (config.group category).entries.filterMap fun entry => Preset.ofToken? entry.2

/-- The values of a category by their keys. -/
def customValues (config : Config) (category : Category) : List (Text × Json) :=
  (config.group category).entries.map fun entry => (entry.1, .string entry.2.value)

end Config

namespace Theme

/-- Where the schema of theme files is published. -/
def schemaAddress : Text := text "https://schemas.wp.org/trunk/theme.json"

/-- The version of the format. -/
def formatVersion : Nat := 3

/-- A member with a list, left out when the list is empty. -/
def listMember (name : Text) (items : List Json) : List (Text × Json) :=
  if items.isEmpty then [] else [(name, .array items)]

/-- A member with an object, left out when the object is empty. -/
def objectMember (name : Text) (members : List (Text × Json)) : List (Text × Json) :=
  if members.isEmpty then [] else [(name, .object members)]

/-- The member with the presets of a category. -/
def presetMember (config : Config) (name valueName : Text) (category : Category) :
    List (Text × Json) :=
  listMember name ((config.presets category).map (Preset.document valueName))

/-- The sections of the settings. -/
def sections (config : Config) : List (Text × Json) :=
  objectMember (text "color")
      (presetMember config (text "palette") (text "color") .color) ++
    objectMember (text "spacing")
      (presetMember config (text "spacingSizes") (text "size") .spacing) ++
    objectMember (text "typography")
      (presetMember config (text "fontFamilies") (text "fontFamily") .fontFamily ++
        presetMember config (text "fontSizes") (text "size") .fontSize) ++
    objectMember (text "custom")
      (Category.customSettings.flatMap fun category =>
        objectMember category.name (config.customValues category))

/-- The whole theme file as a document. -/
def document (config : Config) : Json :=
  .object [(text "$schema", .string schemaAddress),
    (text "version", .number (.integer formatVersion)),
    (text "settings", .object (sections config))]

/-- The theme file. -/
def content (config : Config) : Text :=
  (document config).print ++ text "\n"

end Theme

end DesignTokens
