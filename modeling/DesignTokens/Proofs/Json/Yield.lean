import DesignTokens.Json.Reader
import DesignTokens.Proofs.Json.Members
import DesignTokens.Proofs.Results

/-!
# What the reader yields

Whatever text a document is read from, no object in it repeats a name: a name that
is read again keeps its place and takes the later value.
-/

namespace DesignTokens

namespace JsonReader

/-- Words and numbers are well-formed. -/
theorem wellFormed_of_scalar {content rest : Text} {document : Json}
    (yielded : scalar content = .ok (document, rest)) : document.WellFormed fun _ => True := by
  rw [scalar] at yielded
  split at yielded
  next word found =>
    cases yielded
    have listed := List.mem_of_find?_eq_some found
    simp only [words, List.mem_cons, List.not_mem_nil, or_false] at listed
    rcases listed with rfl | rfl | rfl | rfl | rfl | rfl
    · exact .null
    · exact .boolean true
    · exact .boolean false
    all_goals exact .number trivial
  next =>
    obtain ⟨result, -, same⟩ := eq_ok_of_map yielded
    cases same
    exact .number trivial

/-- With any bound, what the reader yields is well-formed, when what was read before is. -/
structure YieldsWellFormed (bound : Nat) : Prop where
  value : ∀ {content rest : Text} {document : Json},
    value bound content = .ok (document, rest) → document.WellFormed fun _ => True
  members : ∀ {earlier : List (Text × Json)} {content rest : Text} {document : Json},
    (Json.object earlier).WellFormed (fun _ => True) →
    members bound earlier content = .ok (document, rest) → document.WellFormed fun _ => True
  items : ∀ {earlier : List Json} {content rest : Text} {document : Json},
    (Json.array earlier).WellFormed (fun _ => True) →
    items bound earlier content = .ok (document, rest) → document.WellFormed fun _ => True

/-- Putting a well-formed member in keeps an object well-formed. -/
theorem wellFormed_putEntry {passes : JsonNumber -> Prop} {earlier : List (Text × Json)}
    {name : Text} {document : Json} (wellFormed : (Json.object earlier).WellFormed passes)
    (new : document.WellFormed passes) :
    (Json.object (putEntry name document earlier)).WellFormed passes := by
  refine .object (nodup_keys_putEntry name document wellFormed.nodup_members) fun entry member => ?_
  rcases mem_of_mem_putEntry member with rfl | before
  · exact new
  · exact wellFormed.of_mem_members before

/-- The members of an object are read one after the other into a well-formed one. -/
theorem members_yield {bound : Nat} (yields : YieldsWellFormed bound)
    {earlier : List (Text × Json)} {content rest : Text} {document : Json}
    (wellFormed : (Json.object earlier).WellFormed fun _ => True)
    (yielded : members (bound + 1) earlier content = .ok (document, rest)) :
    document.WellFormed fun _ => True := by
  rw [members] at yielded
  obtain ⟨afterMark, -, yielded⟩ := eq_ok_of_bind yielded
  obtain ⟨⟨name, afterName⟩, -, yielded⟩ := eq_ok_of_bind yielded
  obtain ⟨afterColon, -, yielded⟩ := eq_ok_of_bind yielded
  obtain ⟨⟨new, afterValue⟩, read, yielded⟩ := eq_ok_of_bind yielded
  have grown : (Json.object (putEntry name new earlier)).WellFormed fun _ => True :=
    wellFormed_putEntry wellFormed (yields.value read)
  dsimp only at yielded
  split at yielded
  · cases yielded
    exact grown
  · obtain ⟨afterComma, -, yielded⟩ := eq_ok_of_bind yielded
    exact yields.members grown yielded

/-- The items of an array are read one after the other into a well-formed one. -/
theorem items_yield {bound : Nat} (yields : YieldsWellFormed bound) {earlier : List Json}
    {content rest : Text} {document : Json}
    (wellFormed : (Json.array earlier).WellFormed fun _ => True)
    (yielded : items (bound + 1) earlier content = .ok (document, rest)) :
    document.WellFormed fun _ => True := by
  rw [items] at yielded
  obtain ⟨⟨new, afterValue⟩, read, yielded⟩ := eq_ok_of_bind yielded
  have grown : (Json.array (earlier ++ [new])).WellFormed fun _ => True := by
    refine .array fun item member => ?_
    cases wellFormed with
    | array each =>
        rcases List.mem_append.mp member with before | last
        · exact each item before
        · exact List.mem_singleton.mp last ▸ yields.value read
  dsimp only at yielded
  split at yielded
  · cases yielded
    exact grown
  · obtain ⟨afterComma, -, yielded⟩ := eq_ok_of_bind yielded
    exact yields.items grown yielded

/-- A value is read into a well-formed document. -/
theorem value_yield {bound : Nat} (yields : YieldsWellFormed bound) {content rest : Text}
    {document : Json} (yielded : value (bound + 1) content = .ok (document, rest)) :
    document.WellFormed fun _ => True := by
  rw [value.eq_def] at yielded
  dsimp only at yielded
  split at yielded
  · cases yielded
  · split at yielded
    · obtain ⟨⟨spelled, after⟩, -, same⟩ := eq_ok_of_map yielded
      cases same
      exact .string spelled
    split at yielded
    · have none : (Json.object []).WellFormed fun _ => True := .object (by simp) (by simp)
      split at yielded
      · cases yielded
        exact none
      · exact yields.members none yielded
    split at yielded
    · have none : (Json.array []).WellFormed fun _ => True := .array (by simp)
      split at yielded
      · cases yielded
        exact none
      · exact yields.items none yielded
    · exact wellFormed_of_scalar yielded

/-- What the reader yields is well-formed with any bound. -/
theorem yieldsWellFormed (bound : Nat) : YieldsWellFormed bound := by
  induction bound with
  | zero => exact ⟨nofun, nofun, nofun⟩
  | succ bound ih => exact ⟨value_yield ih, members_yield ih, items_yield ih⟩

end JsonReader

/-- No object of a document that the reader yields repeats a name. -/
theorem Json.wellFormed_of_read {content : Text} {document : Json}
    (yielded : Json.read content = .ok document) : document.WellFormed fun _ => True := by
  rw [Json.read] at yielded
  split at yielded
  · cases yielded
  · obtain ⟨⟨inner, rest⟩, read, yielded⟩ := eq_ok_of_bind yielded
    dsimp only at yielded
    split at yielded
    · cases yielded
      exact (JsonReader.yieldsWellFormed _).value read
    · cases yielded

end DesignTokens
