import DesignTokens.Json

/-!
# Members of objects

Look-ups by name, and the documents in which no object repeats a name. Those are
the documents that the reader yields; in others a member may be out of reach.
-/

namespace DesignTokens.Json

/-- A document in which no object repeats a name and every number passes a test. -/
inductive WellFormed (passes : JsonNumber -> Prop) : Json -> Prop where
  | null : WellFormed passes .null
  | boolean (value : Bool) : WellFormed passes (.boolean value)
  | number {value : JsonNumber} (passing : passes value) : WellFormed passes (.number value)
  | string (value : Text) : WellFormed passes (.string value)
  | array {items : List Json} (each : ∀ item ∈ items, WellFormed passes item) :
      WellFormed passes (.array items)
  | object {members : List (Text × Json)} (distinct : (members.map Prod.fst).Nodup)
      (each : ∀ entry ∈ members, WellFormed passes entry.2) : WellFormed passes (.object members)

/-- The members of an object; other documents have none. -/
def members : Json -> List (Text × Json)
  | .object members => members
  | _ => []

/-- What an object has under a name. -/
def field? (name : Text) (document : Json) : Option Json :=
  member? name document.members

/-- What an object has under a name is the first member with that name. -/
@[simp]
theorem field?_object (name : Text) (members : List (Text × Json)) :
    field? name (.object members) = member? name members := rfl

/-- In joined members the first ones are looked at first. -/
theorem member?_append (name : Text) (first second : List (Text × Json)) :
    member? name (first ++ second) = (member? name first).or (member? name second) := by
  rw [member?, member?, member?, List.find?_append]
  cases first.find? fun entry => entry.1 == name <;> rfl

/-- Nothing is found under a name that no member has. -/
theorem member?_eq_none {name : Text} {members : List (Text × Json)}
    (absent : name ∉ members.map Prod.fst) : member? name members = none := by
  rw [member?, Option.map_eq_none_iff, List.find?_eq_none]
  intro entry member same
  exact absent (List.mem_map.mpr ⟨entry, member, by simpa using same⟩)

/-- What is found under a name is a member with that name. -/
theorem mem_of_member? {name : Text} {members : List (Text × Json)} {value : Json}
    (found : member? name members = some value) : (name, value) ∈ members := by
  obtain ⟨entry, present, rfl⟩ := Option.map_eq_some_iff.mp found
  have same : entry.1 = name := by simpa using List.find?_some present
  exact same ▸ List.mem_of_find?_eq_some present

/-- The names of the members of a well-formed document are distinct. -/
theorem WellFormed.nodup_members {passes : JsonNumber -> Prop} {document : Json}
    (wellFormed : document.WellFormed passes) : (document.members.map Prod.fst).Nodup := by
  cases wellFormed with
  | object distinct each => exact distinct
  | null | boolean | number | string | array => exact .nil

/-- The members of a well-formed document are well-formed. -/
theorem WellFormed.of_mem_members {passes : JsonNumber -> Prop} {document : Json}
    (wellFormed : document.WellFormed passes) {entry : Text × Json}
    (member : entry ∈ document.members) : entry.2.WellFormed passes := by
  cases wellFormed with
  | object distinct each => exact each entry member
  | null | boolean | number | string | array => cases member

end DesignTokens.Json
