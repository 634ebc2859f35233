import DesignTokens.Proofs.Json.RoundTrip
import DesignTokens.Proofs.Theme.Sections
import Mathlib.Data.List.Nodup

/-!
# Reading theme files back

The theme file of a config is read as the document that it was printed from.
All that this needs beyond the round trip of documents is that no object in a
theme document repeats a name; for the custom settings that holds because the
keys of a category are distinct.
-/

namespace DesignTokens.Theme

open Json JsonReader

/-- Written rows are well-formed when no row repeats a name and all members are. -/
theorem wellFormed_written {rows : List (Text × List (Text × Json))}
    (distinct : ∀ row ∈ rows, (row.2.map Prod.fst).Nodup)
    (each : ∀ row ∈ rows, ∀ entry ∈ row.2, entry.2.WellFormed converts) :
    ∀ entry ∈ written rows, entry.2.WellFormed converts := by
  rintro ⟨name, value⟩ member
  obtain ⟨members, listed, rfl⟩ := mem_written member
  exact .object (distinct _ listed) (each _ listed)

/-- The entry of a preset repeats no name, since its value goes by another name than
its slug and its name. -/
theorem wellFormed_preset {valueName : Text} (notSlug : text "slug" ≠ valueName)
    (notName : valueName ≠ text "name") (preset : Preset) :
    (preset.document valueName).WellFormed converts := by
  refine .object ?_ ?_
  · have others : text "slug" ≠ text "name" := by decide
    simp [notSlug, notName, others]
  · intro entry member
    simp only [List.mem_cons, List.not_mem_nil, or_false] at member
    rcases member with rfl | rfl | rfl <;> exact .string _

/-- The list of the presets of a category is well-formed. -/
theorem wellFormed_presetMember (config : Config) (name : Text) {valueName : Text}
    (category : Category) (notSlug : text "slug" ≠ valueName) (notName : valueName ≠ text "name") :
    ∀ entry ∈ presetMember config name valueName category, entry.2.WellFormed converts := by
  intro entry member
  unfold presetMember listMember at member
  split at member
  · cases member
  · rw [List.mem_singleton.mp member]
    refine .array fun item listed => ?_
    obtain ⟨preset, -, rfl⟩ := List.mem_map.mp listed
    exact wellFormed_preset notSlug notName preset

/-- No category repeats a name among its custom settings: its keys are distinct. -/
theorem nodup_customValues (config : Config) (category : Category) :
    ((config.customValues category).map Prod.fst).Nodup := by
  have same : (config.customValues category).map Prod.fst =
      (config.group category).entries.map Prod.fst := by
    simp [Config.customValues, Function.comp_def]
  rw [same]
  exact (config.group category).distinct

/-- The custom settings are well-formed. -/
theorem wellFormed_customs (config : Config) :
    ∀ entry ∈ written (customRows config), entry.2.WellFormed converts := by
  refine wellFormed_written ?_ ?_
  · intro row listed
    obtain ⟨category, -, rfl⟩ := List.mem_map.mp listed
    exact nodup_customValues config category
  · intro row listed entry member
    obtain ⟨category, -, rfl⟩ := List.mem_map.mp listed
    obtain ⟨token, -, rfl⟩ := List.mem_map.mp member
    exact .string token.2.value

/-- No section repeats a name. -/
theorem nodup_of_mem_sectionRows {config : Config} {row : Text × List (Text × Json)}
    (listed : row ∈ sectionRows config) : (row.2.map Prod.fst).Nodup := by
  simp only [sectionRows, List.mem_cons, List.not_mem_nil, or_false] at listed
  rcases listed with rfl | rfl | rfl | rfl
  · exact (List.nodup_singleton _).sublist (keys_listMember _ _)
  · exact (List.nodup_singleton _).sublist (keys_listMember _ _)
  · have two : ([text "fontFamilies"] ++ [text "fontSizes"]).Nodup := by decide
    rw [List.map_append]
    exact two.sublist ((keys_listMember _ _).append (keys_listMember _ _))
  · exact (nodup_customRows config).sublist (keys_written _)

/-- The sections of the settings are well-formed. -/
theorem wellFormed_sections (config : Config) :
    ∀ entry ∈ sections config, entry.2.WellFormed converts := by
  rw [sections_eq_written]
  refine wellFormed_written (fun row => nodup_of_mem_sectionRows) ?_
  intro row listed entry member
  simp only [sectionRows, List.mem_cons, List.not_mem_nil, or_false] at listed
  rcases listed with rfl | rfl | rfl | rfl
  · exact wellFormed_presetMember config _ _ (by decide) (by decide) entry member
  · exact wellFormed_presetMember config _ _ (by decide) (by decide) entry member
  · rcases List.mem_append.mp member with families | sizes
    · exact wellFormed_presetMember config _ _ (by decide) (by decide) entry families
    · exact wellFormed_presetMember config _ _ (by decide) (by decide) entry sizes
  · exact wellFormed_customs config entry member

/-- A theme document repeats no name, and its only number is the version of the format. -/
theorem wellFormed_document (config : Config) : (document config).WellFormed converts := by
  have three : [text "$schema", text "version", text "settings"].Nodup := by decide
  refine .object three ?_
  intro entry member
  simp only [List.mem_cons, List.not_mem_nil, or_false] at member
  rcases member with rfl | rfl | rfl
  · exact .string _
  · have short : formatVersion < 10 ^ 1 := by decide
    have within : formatVersion < 10 ^ digitLimit :=
      Nat.lt_of_lt_of_le short (Nat.pow_le_pow_right (by decide) (by decide))
    exact .number within
  · have distinct : ((sections config).map Prod.fst).Nodup := by
      rw [sections_eq_written]
      exact (nodup_sectionRows config).sublist (keys_written _)
    exact .object distinct (wellFormed_sections config)

/-- The line ending of a theme file is a blank. -/
theorem isBlank_of_mem_newline : ∀ point ∈ text "\n", isBlank point = true := by
  intro point member
  rw [List.mem_singleton.mp member]
  rfl

/-- The theme file of a config is read as the document that it was printed from. -/
theorem read_content (config : Config) : Json.read (content config) = .ok (document config) :=
  Json.read_print (wellFormed_document config) isBlank_of_mem_newline

end DesignTokens.Theme
