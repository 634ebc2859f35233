import DesignTokens.Proofs.Json.Members
import DesignTokens.Theme

/-!
# Looking up the sections of a theme

The sections of a theme and the groups of its custom settings are rows of members
under a name, written where they are not empty. What is found under the name of a
row is the row, or nothing where it was left out; so the look-ups by name determine
every list of presets and every group of custom settings.
-/

namespace DesignTokens.Theme

open Json

/-- What is written for items that are left out when there are none. -/
def optional {Item : Type} (wrap : List Item -> Json) (items : List Item) : Option Json :=
  if items.isEmpty then none else some (wrap items)

/-- What is written determines the items, also where nothing is written. -/
theorem optional_injective {Item : Type} {wrap : List Item -> Json}
    (injective : Function.Injective wrap) : Function.Injective (optional wrap) := by
  intro first second same
  cases first with
  | nil =>
      cases second with
      | nil => rfl
      | cons item others => simp [optional] at same
  | cons item others =>
      cases second with
      | nil => simp [optional] at same
      | cons next rest => exact injective (by simpa [optional] using same)

/-- An object that was left out has as little under a name as one without members. -/
theorem bind_field?_optional (name : Text) (members : List (Text × Json)) :
    (optional .object members).bind (field? name) = member? name members := by
  cases members <;> rfl

/-- A list that may be left out has no other name than its own. -/
theorem keys_listMember (name : Text) (items : List Json) :
    ((listMember name items).map Prod.fst).Sublist [name] := by
  unfold listMember
  split <;> simp

/-- A list that may be left out is a member with its own name. -/
theorem name_of_mem_listMember {name asked : Text} {items : List Json} {value : Json}
    (member : (asked, value) ∈ listMember name items) : asked = name := by
  have key := (keys_listMember name items).subset (List.mem_map.mpr ⟨_, member, rfl⟩)
  exact List.mem_singleton.mp key

/-- A list is found under its own name only. -/
theorem member?_listMember (asked name : Text) (items : List Json) :
    member? asked (listMember name items) =
      if name = asked then optional .array items else none := by
  unfold listMember optional
  by_cases none : items.isEmpty <;> by_cases same : name = asked <;> simp [member?, none, same]

/-- Rows of members as they are written: each as an object under its name, except
those without members. -/
def written (rows : List (Text × List (Text × Json))) : List (Text × Json) :=
  rows.flatMap fun row => objectMember row.1 row.2

/-- What is written is the object of a row. -/
theorem mem_written {rows : List (Text × List (Text × Json))} {name : Text} {value : Json}
    (member : (name, value) ∈ written rows) :
    ∃ members, (name, members) ∈ rows ∧ value = .object members := by
  obtain ⟨row, listed, inside⟩ := List.mem_flatMap.mp member
  unfold objectMember at inside
  split at inside
  · cases inside
  · cases List.mem_singleton.mp inside
    exact ⟨row.2, listed, rfl⟩

/-- What is written keeps the order of the rows. -/
theorem keys_written (rows : List (Text × List (Text × Json))) :
    ((written rows).map Prod.fst).Sublist (rows.map Prod.fst) := by
  induction rows with
  | nil => exact .slnil
  | cons row others ih =>
      have first : ((objectMember row.1 row.2).map Prod.fst).Sublist [row.1] := by
        unfold objectMember
        split <;> simp
      rw [written, List.flatMap_cons, List.map_append, List.map_cons]
      exact first.append ih

/-- Among rows with distinct names each is found under its own. -/
theorem member?_written {rows : List (Text × List (Text × Json))}
    (distinct : (rows.map Prod.fst).Nodup) {name : Text} {members : List (Text × Json)}
    (listed : (name, members) ∈ rows) :
    member? name (written rows) = optional .object members := by
  induction rows with
  | nil => cases listed
  | cons row others ih =>
      simp only [List.map_cons, List.nodup_cons] at distinct
      rw [written, List.flatMap_cons, member?_append]
      rcases List.mem_cons.mp listed with rfl | later
      · have absent : member? name (others.flatMap fun row => objectMember row.1 row.2) = none :=
          member?_eq_none fun member => distinct.1 ((keys_written others).subset member)
        rw [absent, Option.or_none]
        unfold objectMember optional
        split <;> simp [member?]
      · have other : ¬ row.1 = name := fun same =>
          distinct.1 (same ▸ List.mem_map.mpr ⟨(name, members), later, rfl⟩)
        have absent : member? name (objectMember row.1 row.2) = none := by
          unfold objectMember
          split <;> simp [member?, other]
        rw [absent, Option.none_or]
        exact ih distinct.2 later

/-- The groups of the custom settings by the names of their categories. -/
def customRows (config : Config) : List (Text × List (Text × Json)) :=
  Category.customSettings.map fun category => (category.name, config.customValues category)

/-- The sections of the settings by their names. -/
def sectionRows (config : Config) : List (Text × List (Text × Json)) :=
  [(text "color", presetMember config (text "palette") (text "color") .color),
    (text "spacing", presetMember config (text "spacingSizes") (text "size") .spacing),
    (text "typography",
      presetMember config (text "fontFamilies") (text "fontFamily") .fontFamily ++
        presetMember config (text "fontSizes") (text "size") .fontSize),
    (text "custom", written (customRows config))]

/-- The settings are the sections that are not empty. -/
theorem sections_eq_written (config : Config) : sections config = written (sectionRows config) := by
  simp [sections, written, sectionRows, customRows, List.flatMap_map]

/-- The groups of the custom settings have distinct names. -/
theorem nodup_customRows (config : Config) : ((customRows config).map Prod.fst).Nodup := by
  have five : (Category.customSettings.map Category.name).Nodup := by decide
  rw [customRows, List.map_map]
  exact five

/-- The sections have distinct names. -/
theorem nodup_sectionRows (config : Config) : ((sectionRows config).map Prod.fst).Nodup := by
  have four : [text "color", text "spacing", text "typography", text "custom"].Nodup := by decide
  exact four

/-- A section is found under its name in the settings. -/
theorem member?_sections {config : Config} {name : Text} {members : List (Text × Json)}
    (listed : (name, members) ∈ sectionRows config) :
    member? name (sections config) = optional .object members := by
  rw [sections_eq_written]
  exact member?_written (nodup_sectionRows config) listed

/-- The values of a category are found under its name among the custom settings. -/
theorem member?_customs (config : Config) {category : Category}
    (listed : category ∈ Category.customSettings) :
    member? category.name (written (customRows config)) =
      optional .object (config.customValues category) :=
  member?_written (nodup_customRows config) (List.mem_map.mpr ⟨category, listed, rfl⟩)

/-- Where the settings list the presets of a category and how they call a value there. -/
structure Slot where
  sectionName : Text
  listName : Text
  valueName : Text

/-- The slots of the categories with presets. -/
def slot? : Category -> Option Slot
  | .color => some ⟨text "color", text "palette", text "color"⟩
  | .spacing => some ⟨text "spacing", text "spacingSizes", text "size"⟩
  | .fontFamily => some ⟨text "typography", text "fontFamilies", text "fontFamily"⟩
  | .fontSize => some ⟨text "typography", text "fontSizes", text "size"⟩
  | _ => none

/-- What stands in a slot, if it is there. -/
def Slot.find? (slot : Slot) (settings : Json) : Option Json :=
  (settings.field? slot.sectionName).bind (field? slot.listName)

/-- A slot is filled with the presets of its category, or left out when there are none. -/
theorem find?_slot {category : Category} {slot : Slot} (slotted : slot? category = some slot)
    (config : Config) :
    slot.find? (.object (sections config)) =
      optional .array ((config.presets category).map (Preset.document slot.valueName)) := by
  have apart : ¬ text "fontSizes" = text "fontFamilies" := by decide
  have other : ¬ text "fontFamilies" = text "fontSizes" := by decide
  have typography : member? (text "typography") (sections config) =
      optional .object (presetMember config (text "fontFamilies") (text "fontFamily") .fontFamily ++
        presetMember config (text "fontSizes") (text "size") .fontSize) :=
    member?_sections (.tail _ (.tail _ (.head _)))
  cases category <;> cases slotted <;> simp only [Slot.find?, field?_object]
  case color =>
    rw [member?_sections (.head _), bind_field?_optional, presetMember, member?_listMember,
      if_pos rfl]
  case spacing =>
    rw [member?_sections (.tail _ (.head _)), bind_field?_optional, presetMember,
      member?_listMember, if_pos rfl]
  case fontFamily =>
    rw [typography, bind_field?_optional, member?_append, presetMember, presetMember,
      member?_listMember, member?_listMember, if_pos rfl, if_neg apart, Option.or_none]
  case fontSize =>
    rw [typography, bind_field?_optional, member?_append, presetMember, presetMember,
      member?_listMember, member?_listMember, if_pos rfl, if_neg other, Option.none_or]

end DesignTokens.Theme
