import DesignTokens.Proofs.Config.Accepted

/-!
# Building accepted documents from their fields

Checking a document and building a config from its fields tell named tokens from unnamed ones in
ways of their own: the check asks which of name and slug are there and count as something, and the
fields ask for two labels and do without them if they are refused. Whatever document is accepted,
and insists on no kind of token, its fields build the same config.
-/

namespace DesignTokens

/-- The results of a list are there together exactly when each of them is. -/
theorem everyOne_eq_ok_iff {Value : Type} {results : List (Built Value)} {values : List Value} :
    everyOne results = .ok values ↔
      List.Forall₂ (fun result value => result = .ok value) results values := by
  induction results generalizing values with
  | nil =>
      rw [List.forall₂_nil_left_iff]
      exact ⟨fun none => (Except.ok.inj none).symm, fun none => none ▸ rfl⟩
  | cons result others ih =>
      rw [everyOne, map_eq_ok_iff]
      simp only [both_eq_ok_iff, ih]
      constructor
      · rintro ⟨⟨value, rest⟩, ⟨here, there⟩, rfl⟩
        exact .cons here there
      · rintro (_ | ⟨here, there⟩)
        exact ⟨(_, _), ⟨here, there⟩, rfl⟩

/-- Seen from further out, a result is there as before. -/
theorem within_eq_ok_iff {Value : Type} {step : FieldStep} {result : Built Value} {value : Value} :
    FieldFault.within step result = .ok value ↔ result = .ok value :=
  mapError_eq_ok_iff

/-- The text of a label counts as something. -/
theorem Label.isGiven (label : Label) : Json.isGiven (some (.string label.content)) = true := by
  simp [Json.isGiven, Json.isFalsy, label.nonempty]

namespace Token

variable {members : List (Text × Json)} {entry : Json} {token : Token}

/-- A token is a named one if the fields of its document build one. -/
theorem ofAny_of_named (named : (TokenFields.ofMembers members).named = .ok token) :
    ofAny (.object members) = .ok token := by
  have tried : FieldFault.within (.tried .named) (ofDocument .named (.object members)) =
      .ok token := within_eq_ok_iff.mpr named
  rw [ofAny, tried]

/-- A token is an unnamed one if the fields of its document build that and no named one. -/
theorem ofAny_of_unnamed (refused : ∀ other, (TokenFields.ofMembers members).named ≠ .ok other)
    (unnamed : (TokenFields.ofMembers members).unnamed = .ok token) :
    ofAny (.object members) = .ok token := by
  have tried : FieldFault.within (.tried .unnamed) (ofDocument .unnamed (.object members)) =
      .ok token := within_eq_ok_iff.mpr unnamed
  unfold ofAny
  split
  next other made => exact absurd (within_eq_ok_iff.mp made) (refused other)
  · rw [tried]

/-- A token is built from an entry that it mirrors, if the entry insists on no kind. -/
theorem Mirrors.ofAny (mirrors : token.Mirrors entry)
    (kindless : entry.field? (text "kind") = none) : Token.ofAny entry = .ok token := by
  obtain ⟨members, rfl⟩ := Json.exists_object_of_field? mirrors.value
  have kind (which : TokenKind) :
      checkKind which (TokenFields.ofMembers members).kind = .ok () := by
    rw [show (TokenFields.ofMembers members).kind = none from kindless]
    rfl
  have names := mirrors.names
  split at names
  · obtain ⟨name, slug, same, named, slugged⟩ := names
    exact ofAny_of_named (TokenFields.named_eq_ok_iff.mpr
      ⟨kind _, token.value, name, slug, mirrors.value, named, slugged, same⟩)
  next unnamed =>
    refine ofAny_of_unnamed (fun other made => unnamed ?_) (TokenFields.unnamed_eq_ok_iff.mpr
      ⟨kind _, token.value, mirrors.value, names⟩)
    -- A name and a slug that are labels count as something.
    obtain ⟨-, _, name, slug, -, named, slugged, -⟩ := TokenFields.named_eq_ok_iff.mp made
    have both : Json.field? (text "name") (.object members) = some (.string name.content) ∧
        Json.field? (text "slug") (.object members) = some (.string slug.content) :=
      ⟨named, slugged⟩
    rw [Config.isNamedEntry, both.1, both.2, name.isGiven, slug.isGiven]
    rfl

end Token

namespace Config

/-- The tokens of an accepted category are built from its document, if no entry insists on a
kind. -/
theorem ofDocument_of_checkGroup {category : Text} {document : Json} {group : TokenGroup}
    (accepted : checkGroup category document = .ok group)
    (kindless : ∀ entry ∈ document.members, entry.2.field? (text "kind") = none) :
    TokenGroup.ofDocument document = .ok group := by
  obtain ⟨members, tokens, rfl, rfl, each⟩ := checkGroup_eq_ok_iff.mp accepted
  refine map_eq_ok_iff.mpr ⟨tokens, everyOne_eq_ok_iff.mpr ?_, rfl⟩
  rw [List.forall₂_map_left_iff]
  refine ((List.forall₂_and_left _ _).mpr ⟨kindless, each⟩).imp fun entry token both => ?_
  obtain ⟨noKind, key, checked⟩ := both
  exact map_eq_ok_iff.mpr ⟨token.2,
    within_eq_ok_iff.mpr ((mirrors_of_checkToken checked).ofAny noKind), Prod.ext key.symm rfl⟩

/-- A category is found by its name. -/
theorem categoryKey_name (category : Category) : categoryKey category.name = .ok category := by
  cases category <;> decide

/-- Accepted tokens are built from their document, if no entry insists on a kind. -/
theorem tokensOfDocument_of_checkTokens {members : List (Text × Json)}
    {tokens : Dictionary Category TokenGroup} (accepted : checkTokens members = .ok tokens)
    (kindless : ∀ member ∈ members, ∀ entry ∈ member.2.members,
      entry.2.field? (text "kind") = none) :
    tokensOfDocument (.object members) = .ok tokens := by
  obtain ⟨groups, rfl, each⟩ := checkTokens_eq_ok_iff.mp accepted
  refine map_eq_ok_iff.mpr ⟨groups, everyOne_eq_ok_iff.mpr ?_, rfl⟩
  rw [List.forall₂_map_left_iff]
  refine ((List.forall₂_and_left _ _).mpr ⟨kindless, each⟩).imp fun member group both => ?_
  obtain ⟨noKind, named, checked⟩ := both
  refine within_eq_ok_iff.mpr (both_eq_ok_iff.mpr ⟨mapError_eq_ok_iff.mpr ?_,
    ofDocument_of_checkGroup checked noKind⟩)
  rw [← named]
  exact categoryKey_name group.1

/-- A field that may be left out, where null counts as leaving it out. -/
def notNull : Option Json -> Option Json
  | some .null => none
  | field => field

/-- An accepted path is built from its field, where null counts as leaving it out. -/
theorem optionalText_of_checkPath {default path : Text} {violation : Violation}
    {field : Option Json} (accepted : checkPath default violation field = .ok path) :
    optionalText default (notNull field) = .ok path := by
  unfold checkPath at accepted
  split at accepted
  · exact congrArg Except.ok (Except.ok.inj accepted)
  · exact congrArg Except.ok (Except.ok.inj accepted)
  · exact congrArg Except.ok (Except.ok.inj accepted)
  · cases accepted

end Config

/-- A config is built of its parts, each from its field. -/
theorem ConfigFields.build_eq_ok {fields : ConfigFields} {config : Config} {tokens : Json}
    (listed : fields.tokens = some tokens)
    (scope : fields.scope = some (.string config.scope.content))
    (tokensPath : optionalText Config.defaultTokensPath fields.tokensPath = .ok config.tokensPath)
    (outDir : optionalText Config.defaultOutDir fields.outDir = .ok config.outDir)
    (built : tokensOfDocument tokens = .ok config.tokens) : fields.build = .ok config := by
  refine map_eq_ok_iff.mpr
    ⟨(config.scope, config.tokensPath, config.outDir, config.tokens), ?_, rfl⟩
  simp only [both_eq_ok_iff, checkField_eq_ok_iff, within_eq_ok_iff, requiredLabel_eq_ok_iff,
    listed]
  exact ⟨scope, tokensPath, outDir, built⟩

/-- The fields of a config document: its prefix and its tokens as they are, and its paths where
they are not null. -/
def ConfigFields.ofDocument (document : Json) : ConfigFields where
  scope := document.field? (text "prefix")
  tokensPath := Config.notNull (document.field? (text "tokensPath"))
  outDir := Config.notNull (document.field? (text "outDir"))
  tokens := document.field? (text "tokens")

namespace Config

/-- No entry of a token has a member by which it could insist on a kind. -/
def Kindless (document : Json) : Prop :=
  ∀ member ∈ tokenMembers document, ∀ entry ∈ member.2.members,
    text "kind" ∉ entry.2.members.map Prod.fst

/-- Whatever document is accepted, its fields build the same config, if no entry of a token has a
member by which it could insist on a kind. -/
theorem build_of_check {document : Json} {config : Config}
    (accepted : check document = .ok config) (kindless : Kindless document) :
    (ConfigFields.ofDocument document).build = .ok config := by
  have accepts := check_eq_ok_iff.mp accepted
  obtain ⟨members, listed, checked⟩ := accepts.tokens
  have inner : tokenMembers document = members := by simp [tokenMembers, listed, Json.members]
  refine ConfigFields.build_eq_ok listed accepts.scope
    (optionalText_of_checkPath accepts.tokensPath) (optionalText_of_checkPath accepts.outDir)
    (tokensOfDocument_of_checkTokens checked fun member within entry among => ?_)
  exact Json.member?_eq_none (kindless member (inner ▸ within) entry among)

/-- A document whose entries have names and slugs of many kinds, of which only the last two are
labels. -/
def mixedEntries : Json :=
  .object [
    (text "prefix", .string (text "stb")),
    (text "tokensPath", .null),
    (text "tokens", .object [
      (text "zIndex", .object []),
      (text "color", .object [
        (text "null", .object [(text "value", .string (text "0")), (text "name", .null),
          (text "slug", .boolean true)]),
        (text "blank", .object [(text "slug", .string []), (text "name", .string [0xD800]),
          (text "value", .string (text "red"))]),
        (text "zero", .object [(text "value", .string (text "blue")),
          (text "name", .number (.decimal 0 5)), (text "slug", .array [])]),
        (text "plain", .object [(text "value", .string (text "green")), (text "extra", .null)]),
        (text "both", .object [(text "value", .string (text "grey")),
          (text "name", .string (text "Grey")), (text "slug", .string (text "grey"))])])])]

/-- It is accepted, and its fields build the same config, with one named token. -/
theorem build_mixedEntries :
    ∃ config, check mixedEntries = .ok config ∧ Kindless mixedEntries ∧
      (ConfigFields.ofDocument mixedEntries).build = .ok config ∧
      config.tokens.keys = [.zIndex, .color] ∧
      ((config.group .color).entries.map fun entry => entry.2.isNamed) =
        [false, false, false, false, true] := by
  obtain ⟨config, accepted, keys, named⟩ : ∃ config, check mixedEntries = .ok config ∧
      config.tokens.keys = [.zIndex, .color] ∧
      ((config.group .color).entries.map fun entry => entry.2.isNamed) =
        [false, false, false, false, true] := ⟨_, rfl, by decide +kernel, by decide +kernel⟩
  have kindless : Kindless mixedEntries := by
    unfold Kindless
    decide
  exact ⟨config, accepted, kindless, build_of_check accepted kindless, keys, named⟩

end Config

end DesignTokens
