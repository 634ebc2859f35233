import DesignTokens.Artifact
import DesignTokens.Proofs.Config.Accepted

/-!
# The normal form of a document

A config has a document that says nothing but the config: its prefix, both paths, and the tokens
with a value, or with a value, a name and a slug. Checking that document yields the config again
exactly when no token has an empty value. The config of an accepted document has none, so that one
check brings every document into a form in which further checks change nothing.
-/

namespace DesignTokens

/-- Categories with the same name are the same. -/
theorem Category.name_injective : Function.Injective Category.name := by
  intro first second same
  have found := congrArg Category.ofName? same
  rwa [Category.ofName?_name, Category.ofName?_name, Option.some.injEq] at found

/-- The document of a token, with a name and a slug if the token is a named one. -/
def Token.toDocument : Token -> Json
  | .unnamed value => .object [(text "value", .string value)]
  | .named value name slug => .object [(text "value", .string value),
      (text "name", .string name.content), (text "slug", .string slug.content)]

/-- The document of the tokens of a category. -/
def TokenGroup.toDocument (group : TokenGroup) : Json :=
  .object (group.entries.map fun entry => (entry.1, entry.2.toDocument))

namespace Config

/-- The document of a config. -/
def toDocument (config : Config) : Json :=
  .object [(text "prefix", .string config.scope.content),
    (text "tokensPath", .string config.tokensPath),
    (text "outDir", .string config.outDir),
    (text "tokens", .object
      (config.tokens.entries.map fun entry => (entry.1.name, TokenGroup.toDocument entry.2)))]

/-- No token has an empty value. -/
def Valued (config : Config) : Prop :=
  ∀ group ∈ config.tokens.entries, ∀ entry ∈ group.2.entries, entry.2.value ≠ []

/-- The document of a token with a value is accepted as that token. -/
theorem checkToken_toDocument (place : TokenPlace) {token : Token} (present : token.value ≠ []) :
    checkToken place token.toDocument = .ok token := by
  have counts : (Json.string token.value).isFalsy = false := by simp [Json.isFalsy, present]
  cases token with
  | unnamed value =>
      rw [Token.toDocument, checkToken_of_value place rfl counts]
      rfl
  | named value name slug =>
      rw [Token.toDocument, checkToken_of_value place rfl counts]
      exact checkNames_named place value name.scalar name.nonempty slug.scalar slug.nonempty

/-- The document of the tokens of a category is accepted as those tokens, if each has a value. -/
theorem checkGroup_toDocument (category : Text) {group : TokenGroup}
    (present : ∀ entry ∈ group.entries, entry.2.value ≠ []) :
    checkGroup category (TokenGroup.toDocument group) = .ok group := by
  refine checkGroup_eq_ok_iff.mpr ⟨_, _, rfl, (Dictionary.ofList_entries group).symm, ?_⟩
  rw [List.forall₂_map_left_iff, List.forall₂_same]
  exact fun entry member => ⟨rfl, checkToken_toDocument _ (present entry member)⟩

/-- The documents of the tokens of all categories are accepted as those tokens, if each has a
value. -/
theorem checkTokens_toDocument {tokens : Dictionary Category TokenGroup}
    (present : ∀ group ∈ tokens.entries, ∀ entry ∈ group.2.entries, entry.2.value ≠ []) :
    checkTokens (tokens.entries.map fun entry => (entry.1.name, TokenGroup.toDocument entry.2)) =
      .ok tokens := by
  refine checkTokens_eq_ok_iff.mpr ⟨_, (Dictionary.ofList_entries tokens).symm, ?_⟩
  rw [List.forall₂_map_left_iff, List.forall₂_same]
  exact fun group member => ⟨rfl, checkGroup_toDocument _ (present group member)⟩

/-- The document of a config whose tokens have values is accepted as that config. -/
theorem check_toDocument {config : Config} (valued : config.Valued) :
    check config.toDocument = .ok config :=
  check_eq_ok_iff.mpr ⟨rfl, ⟨_, rfl, checkTokens_toDocument valued⟩, rfl, rfl⟩

/-- The tokens of an accepted category have values. -/
theorem value_of_checkGroup {category : Text} {document : Json} {group : TokenGroup}
    (accepted : checkGroup category document = .ok group) :
    ∀ entry ∈ group.entries, entry.2.value ≠ [] := by
  obtain ⟨members, tokens, -, rfl, each⟩ := checkGroup_eq_ok_iff.mp accepted
  intro entry member
  exact forall_of_forall₂ (fun _ _ checked => (mirrors_of_checkToken checked.2).nonempty) each entry
    (Dictionary.mem_of_mem_ofList member)

/-- The tokens of an accepted document have values. -/
theorem valued_of_check {document : Json} {config : Config}
    (accepted : check document = .ok config) : config.Valued := by
  obtain ⟨members, -, checked⟩ := (check_eq_ok_iff.mp accepted).tokens
  obtain ⟨groups, same, each⟩ := checkTokens_eq_ok_iff.mp checked
  rw [Valued, same]
  intro group member
  exact forall_of_forall₂ (fun _ _ checked => value_of_checkGroup checked.2) each group
    (Dictionary.mem_of_mem_ofList member)

/-- The document of a token repeats no name. -/
theorem wellFormed_token (token : Token) : token.toDocument.WellFormed fun _ => True := by
  cases token with
  | unnamed value =>
      refine .object (show [text "value"].Nodup by decide) ?_
      simp only [List.forall_mem_cons]
      exact ⟨.string _, nofun⟩
  | named value name slug =>
      refine .object (show [text "value", text "name", text "slug"].Nodup by decide) ?_
      simp only [List.forall_mem_cons]
      exact ⟨.string _, .string _, .string _, nofun⟩

/-- The document of the tokens of a category repeats no name. -/
theorem wellFormed_group (group : TokenGroup) :
    (TokenGroup.toDocument group).WellFormed fun _ => True := by
  refine .object ?_ (List.forall_mem_map.mpr fun entry _ => wellFormed_token entry.2)
  rw [List.map_map]
  exact group.distinct

/-- The document of a config repeats no name. -/
theorem wellFormed_toDocument (config : Config) :
    config.toDocument.WellFormed fun _ => True := by
  have tokens : (Json.object (config.tokens.entries.map fun entry =>
      (entry.1.name, TokenGroup.toDocument entry.2))).WellFormed fun _ => True := by
    refine .object ?_ (List.forall_mem_map.mpr fun entry _ => wellFormed_group entry.2)
    have names := config.tokens.distinct.map Category.name_injective
    rwa [List.map_map] at names ⊢
  refine .object (show [text "prefix", text "tokensPath", text "outDir", text "tokens"].Nodup
    by decide) ?_
  simp only [List.forall_mem_cons]
  exact ⟨.string _, .string _, .string _, tokens, nofun⟩

/-- What a config is rendered to, given the integration snippet: where each artifact goes, and its
text. -/
def files (snippet : Text) (config : Config) : List (Text × Text) :=
  Artifact.all.map fun artifact => (artifact.outputPath config, artifact.content config snippet)

/-- The document of a config is accepted as that config exactly when no token has an empty value.
The config of an accepted document has none, so that its own document is accepted as the same
config, and the same files come of the two documents. -/
theorem check_normal_form :
    (∀ config : Config, (config.toDocument.WellFormed fun _ => True) ∧
      (check config.toDocument = .ok config ↔ config.Valued)) ∧
    ∀ (document : Json) (config : Config), check document = .ok config →
      check config.toDocument = .ok config ∧
      ∀ snippet, (check document).map (files snippet) = .ok (config.files snippet) ∧
        (check config.toDocument).map (files snippet) = .ok (config.files snippet) := by
  refine ⟨fun config => ⟨wellFormed_toDocument config, valued_of_check, check_toDocument⟩, ?_⟩
  intro document config accepted
  have again := check_toDocument (valued_of_check accepted)
  refine ⟨again, fun snippet => ⟨?_, ?_⟩⟩
  · rw [accepted]
    rfl
  · rw [again]
    rfl

/-- A document with its members out of order, a path that is null, a slug that counts as nothing,
and members that say nothing. -/
def untidy : Json :=
  .object [
    (text "tokens", .object [
      (text "zIndex", .object []),
      (text "color", .object [
        (text "blank", .object [(text "slug", .array []), (text "value", .string (text "red")),
          (text "name", .boolean true)]),
        (text "both", .object [(text "slug", .string (text "grey")), (text "extra", .null),
          (text "name", .string (text "Grey")), (text "value", .string (text "#888"))])])]),
    (text "outDir", .null),
    (text "extra", .array [.null]),
    (text "prefix", .string (text "stb"))]

/-- The normal form of that document. -/
def tidy : Json :=
  .object [
    (text "prefix", .string (text "stb")),
    (text "tokensPath", .string defaultTokensPath),
    (text "outDir", .string defaultOutDir),
    (text "tokens", .object [
      (text "zIndex", .object []),
      (text "color", .object [
        (text "blank", .object [(text "value", .string (text "red"))]),
        (text "both", .object [(text "value", .string (text "#888")),
          (text "name", .string (text "Grey")), (text "slug", .string (text "grey"))])])])]

/-- Both are accepted as one config, and the same comes of them. -/
theorem check_untidy :
    ∃ config, check untidy = .ok config ∧ config.toDocument = tidy ∧ config.Valued ∧
      check tidy = .ok config ∧
      ∀ snippet, (check untidy).map (files snippet) = .ok (config.files snippet) ∧
        (check tidy).map (files snippet) = .ok (config.files snippet) := by
  obtain ⟨config, accepted, form⟩ : ∃ config, check untidy = .ok config ∧
      config.toDocument = tidy := ⟨_, rfl, rfl⟩
  obtain ⟨all, each⟩ := check_normal_form
  obtain ⟨again, same⟩ := each untidy config accepted
  have valued := (all config).2.mp again
  rw [form] at again same
  exact ⟨config, accepted, form, valued, again, same⟩

end Config

end DesignTokens
