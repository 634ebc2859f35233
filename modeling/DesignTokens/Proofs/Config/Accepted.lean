import DesignTokens.Proofs.Config.Acceptance
import DesignTokens.Proofs.Results

/-!
# Accepted documents

What an accepted document has to look like, and what the config has of it, one step of the check
after the other. Nothing else is asked of the document, so that its objects may repeat names and a
name that is not taken up may hold surrogates.
-/

namespace DesignTokens

/-- Two results are there together exactly when both are. -/
theorem both_eq_ok_iff {First Second : Type} {first : Built First} {second : Built Second}
    {pair : First × Second} :
    both first second = .ok pair ↔ first = .ok pair.1 ∧ second = .ok pair.2 := by
  cases first <;> cases second <;> simp [both, Prod.ext_iff]

/-- A check on a field yields what is checked. -/
theorem checkField_eq_ok_iff {Value : Type} {which : FieldName} {result : Except FieldCause Value}
    {value : Value} : checkField which result = .ok value ↔ result = .ok value :=
  mapError_eq_ok_iff

/-- Only objects have something under a name. -/
theorem Json.exists_object_of_field? {document value : Json} {name : Text}
    (found : document.field? name = some value) : ∃ members, document = .object members := by
  cases document with
  | object members => exact ⟨members, rfl⟩
  | null | boolean | number | string | array => cases found

/-- A text makes the label that holds it, if there is one. -/
theorem Label.ofText_eq_ok_iff {content : Text} {label : Label} :
    Label.ofText content = .ok label ↔ content = label.content := by
  constructor
  · intro made
    unfold Label.ofText at made
    split at made
    · split at made
      · exact congrArg Label.content (Except.ok.inj made)
      · cases made
    · cases made
  · rintro rfl
    exact Config.ofText_eq label.scalar label.nonempty

/-- The text of a field that has to be there is a string. -/
theorem requiredText_eq_ok_iff {field : Option Json} {content : Text} :
    requiredText field = .ok content ↔ field = some (.string content) := by
  cases field with
  | none => simp [requiredText]
  | some value => cases value <;> simp [requiredText]

/-- The label of a field that has to be there is a string with its text. -/
theorem requiredLabel_eq_ok_iff {field : Option Json} {label : Label} :
    requiredLabel field = .ok label ↔ field = some (.string label.content) := by
  constructor
  · intro made
    obtain ⟨content, spelled, made⟩ := eq_ok_of_bind made
    exact Label.ofText_eq_ok_iff.mp made ▸ requiredText_eq_ok_iff.mp spelled
  · rintro rfl
    exact Label.ofText_eq_ok_iff.mpr rfl

namespace TokenFields

variable {fields : TokenFields} {token : Token}

/-- A named token is built of a value, a name and a slug, if no other kind is insisted on. -/
theorem named_eq_ok_iff :
    fields.named = .ok token ↔
      checkKind .named fields.kind = .ok () ∧
        ∃ value name slug, fields.value = some (.string value) ∧
          fields.name = some (.string name.content) ∧ fields.slug = some (.string slug.content) ∧
          token = .named value name slug := by
  simp only [named, map_eq_ok_iff, both_eq_ok_iff, checkField_eq_ok_iff, requiredText_eq_ok_iff,
    requiredLabel_eq_ok_iff]
  constructor
  · rintro ⟨⟨⟨⟩, value, name, slug⟩, ⟨kind, valued, named, slugged⟩, rfl⟩
    exact ⟨kind, value, name, slug, valued, named, slugged, rfl⟩
  · rintro ⟨kind, value, name, slug, valued, named, slugged, rfl⟩
    exact ⟨((), value, name, slug), ⟨kind, valued, named, slugged⟩, rfl⟩

/-- An unnamed token is built of a value, if no other kind is insisted on. -/
theorem unnamed_eq_ok_iff :
    fields.unnamed = .ok token ↔
      checkKind .unnamed fields.kind = .ok () ∧
        ∃ value, fields.value = some (.string value) ∧ token = .unnamed value := by
  simp only [unnamed, map_eq_ok_iff, both_eq_ok_iff, checkField_eq_ok_iff, requiredText_eq_ok_iff]
  constructor
  · rintro ⟨⟨⟨⟩, value⟩, ⟨kind, valued⟩, rfl⟩
    exact ⟨kind, value, valued, rfl⟩
  · rintro ⟨kind, value, valued, rfl⟩
    exact ⟨((), value), ⟨kind, valued⟩, rfl⟩

end TokenFields

namespace Config

/-- A value, a name and a slug are made a named token of labels with the two texts. -/
theorem namedToken_eq_ok_iff {value name slug : Text} {token : Token} :
    namedToken value name slug = .ok token ↔
      ∃ nameLabel slugLabel : Label, name = nameLabel.content ∧ slug = slugLabel.content ∧
        token = .named value nameLabel slugLabel := by
  rw [namedToken, mapError_eq_ok_iff, TokenFields.named_eq_ok_iff]
  simp [checkKind]

/-- An accepted name and slug count as something and are the labels of a named token, or one of
them counts as nothing and the token is unnamed. -/
theorem checkNames_eq_ok {place : TokenPlace} {value : Text} {name slug : Json} {token : Token}
    (accepted : checkNames place value name slug = .ok token) :
    (name.isFalsy || slug.isFalsy) = true ∧ token = .unnamed value ∨
      (name.isFalsy || slug.isFalsy) = false ∧
        ∃ nameLabel slugLabel : Label, name = .string nameLabel.content ∧
          slug = .string slugLabel.content ∧ token = .named value nameLabel slugLabel := by
  unfold checkNames at accepted
  split at accepted
  next falsy => exact .inl ⟨falsy, (Except.ok.inj accepted).symm⟩
  next counts =>
    refine .inr ⟨by simpa using counts, ?_⟩
    split at accepted
    · split at accepted
      · obtain ⟨nameLabel, slugLabel, rfl, rfl, rfl⟩ := namedToken_eq_ok_iff.mp accepted
        exact ⟨nameLabel, slugLabel, rfl, rfl, rfl⟩
      · cases accepted
    · cases accepted

/-- An accepted token is what its entry says. -/
theorem mirrors_of_checkToken {place : TokenPlace} {entry : Json} {token : Token}
    (accepted : checkToken place entry = .ok token) : token.Mirrors entry := by
  unfold checkToken at accepted
  split at accepted
  next members =>
    have named : isNamedEntry (.object members) =
        (Json.isGiven (Json.member? (text "name") members) &&
          Json.isGiven (Json.member? (text "slug") members)) := rfl
    split at accepted
    · cases accepted
    next value valued =>
    split at accepted
    · cases accepted
    next counts =>
    split at accepted
    next content =>
      have nonempty := nonempty_of_not_isFalsy (eq_false_of_ne_true counts)
      split at accepted
      next noName noSlug =>
        obtain rfl := Except.ok.inj accepted
        exact ⟨valued, nonempty, by simp [named, noName, Json.isGiven, Token.value]⟩
      · cases accepted
      · cases accepted
      next name slug hasName hasSlug =>
        have both : isNamedEntry (.object members) = !(name.isFalsy || slug.isFalsy) := by
          simp [named, hasName, hasSlug, Json.isGiven]
        rcases checkNames_eq_ok accepted with
          ⟨falsy, rfl⟩ | ⟨given, nameLabel, slugLabel, rfl, rfl, rfl⟩
        · exact ⟨valued, nonempty, by simp [both, falsy, Token.value]⟩
        · refine ⟨valued, nonempty, ?_⟩
          rw [both, given]
          exact ⟨nameLabel, slugLabel, rfl, hasName, hasSlug⟩
    · cases accepted
  · cases accepted

/-- The tokens of a category are accepted exactly when each of its entries is. -/
theorem checkGroup_eq_ok_iff {category : Text} {document : Json} {group : TokenGroup} :
    checkGroup category document = .ok group ↔
      ∃ members tokens, document = .object members ∧ group = .ofList tokens ∧
        List.Forall₂ (fun entry token => token.1 = entry.1 ∧
          checkToken ⟨category, entry.1⟩ entry.2 = .ok token.2) members tokens := by
  constructor
  · intro accepted
    unfold checkGroup at accepted
    split at accepted
    next members =>
      obtain ⟨tokens, each, accepted⟩ := eq_ok_of_bind accepted
      exact ⟨members, tokens, rfl, (Except.ok.inj accepted).symm,
        (mapM_eq_ok_iff_forall₂ fun _ _ => keyed_eq_ok_iff).mp each⟩
    · cases accepted
  · rintro ⟨members, tokens, rfl, rfl, each⟩
    rw [checkGroup, (mapM_eq_ok_iff_forall₂ fun _ _ => keyed_eq_ok_iff).mpr each, ok_bind]

/-- The tokens are accepted exactly when each member names a category and is accepted as its
tokens. -/
theorem checkTokens_eq_ok_iff {members : List (Text × Json)}
    {tokens : Dictionary Category TokenGroup} :
    checkTokens members = .ok tokens ↔
      ∃ groups, tokens = .ofList groups ∧
        List.Forall₂ (fun member group => group.1.name = member.1 ∧
          checkGroup member.1 member.2 = .ok group.2) members groups := by
  rw [checkTokens, bind_eq_ok_iff]
  refine exists_congr fun groups => and_comm.trans (and_congr ?_ ?_)
  · exact ⟨fun yielded => (Except.ok.inj yielded).symm, fun same => same ▸ rfl⟩
  refine mapM_eq_ok_iff_forall₂ fun member group => ?_
  rw [← ofName?_eq_some_iff]
  cases Category.ofName? member.1 with
  | none => simp [violate]
  | some category => rw [Option.some.injEq, eq_comm (a := category)]; exact keyed_eq_ok_iff

/-- A prefix is accepted exactly when it is a string with something in it. -/
theorem checkPrefix_eq_ok_iff {field : Option Json} {scope : Text} :
    checkPrefix field = .ok scope ↔ field = some (.string scope) ∧ scope ≠ [] := by
  constructor
  · intro accepted
    unfold checkPrefix at accepted
    split at accepted
    · split at accepted
      · cases accepted
      next present =>
        obtain rfl := Except.ok.inj accepted
        exact ⟨rfl, by simpa using present⟩
    · cases accepted
  · rintro ⟨rfl, present⟩
    simp [checkPrefix, present]

/-- Tokens are accepted exactly when they are an object. -/
theorem checkTokensMember_eq_ok_iff {field : Option Json} {members : List (Text × Json)} :
    checkTokensMember field = .ok members ↔ field = some (.object members) := by
  constructor
  · intro accepted
    unfold checkTokensMember at accepted
    split at accepted
    · rw [Except.ok.inj accepted]
    · cases accepted
  · rintro rfl
    rfl

/-- What an accepted document says of each part of a config. -/
structure Accepts (document : Json) (config : Config) : Prop where
  scope : document.field? (text "prefix") = some (.string config.scope.content)
  tokens : ∃ members, document.field? (text "tokens") = some (.object members) ∧
    checkTokens members = .ok config.tokens
  tokensPath : checkPath defaultTokensPath .tokensPathNotText
    (document.field? (text "tokensPath")) = .ok config.tokensPath
  outDir : checkPath defaultOutDir .outDirNotText
    (document.field? (text "outDir")) = .ok config.outDir

/-- A document is accepted exactly when each of its parts is. -/
theorem check_eq_ok_iff {document : Json} {config : Config} :
    check document = .ok config ↔ Accepts document config := by
  constructor
  · intro accepted
    unfold check at accepted
    split at accepted
    next members =>
      obtain ⟨scope, prefixed, accepted⟩ := eq_ok_of_bind accepted
      obtain ⟨inner, listed, accepted⟩ := eq_ok_of_bind accepted
      obtain ⟨tokens, checked, accepted⟩ := eq_ok_of_bind accepted
      obtain ⟨tokensPath, first, accepted⟩ := eq_ok_of_bind accepted
      obtain ⟨outDir, second, accepted⟩ := eq_ok_of_bind accepted
      obtain ⟨label, labelled, accepted⟩ := eq_ok_of_bind accepted
      obtain rfl := Except.ok.inj accepted
      obtain rfl : scope = label.content :=
        Label.ofText_eq_ok_iff.mp (checkField_eq_ok_iff.mp (mapError_eq_ok_iff.mp labelled))
      exact ⟨(checkPrefix_eq_ok_iff.mp prefixed).1,
        ⟨inner, checkTokensMember_eq_ok_iff.mp listed, checked⟩, first, second⟩
    · cases accepted
  · rintro ⟨scope, ⟨inner, listed, checked⟩, first, second⟩
    obtain ⟨members, rfl⟩ := Json.exists_object_of_field? scope
    have prefixed := checkPrefix_eq_ok_iff.mpr ⟨scope, config.scope.nonempty⟩
    have labelled : (checkField .scope (Label.ofText config.scope.content)).mapError
        Rejection.fields = .ok config.scope :=
      mapError_eq_ok_iff.mpr (checkField_eq_ok_iff.mpr (Label.ofText_eq_ok_iff.mpr rfl))
    simp only [Json.field?_object] at prefixed listed first second
    simp only [check, prefixed, checkTokensMember_eq_ok_iff.mpr listed, checked, first, second,
      labelled, ok_bind]

end Config

end DesignTokens
