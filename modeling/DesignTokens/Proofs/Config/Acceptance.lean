import DesignTokens.Proofs.Config.Checks
import Mathlib.Data.List.Nodup

/-!
# What checking a config document yields

Every step of checking a document follows the checks of its part of the document:
it yields what that part says when they all pass, and stops at the first that fails
otherwise. Joined in the order of the document, the steps follow all checks.
-/

namespace DesignTokens

/-- A token is what an entry says: it has the value of the entry, which is not empty,
and the name and the slug of an entry with both; it is unnamed otherwise. -/
structure Token.Mirrors (token : Token) (entry : Json) : Prop where
  value : entry.field? (text "value") = some (.string token.value)
  nonempty : token.value ≠ []
  names : if Config.isNamedEntry entry then
      ∃ name slug, token = .named token.value name slug ∧
        entry.field? (text "name") = some (.string name.content) ∧
        entry.field? (text "slug") = some (.string slug.content)
    else token = .unnamed token.value

namespace Config

/-- A token has the key of an entry and is what the entry says. -/
def MirrorsEntry (token : Text × Token) (entry : Text × Json) : Prop :=
  token.1 = entry.1 ∧ token.2.Mirrors entry.2

/-- The tokens of a category are what a member says, in its order. -/
def MirrorsGroup (group : Category × TokenGroup) (member : Text × Json) : Prop :=
  group.1.name = member.1 ∧ List.Forall₂ MirrorsEntry group.2.entries member.2.members

/-- A path is what a document says, or the default where it says nothing. -/
def MirrorsPath (name default path : Text) (document : Json) : Prop :=
  match document.field? name with
  | some (.string content) => path = content
  | _ => path = default

/-- A config is what a document says, with the categories and the tokens of each in
the order of the document. -/
structure Mirrors (config : Config) (document : Json) : Prop where
  scope : document.field? (text "prefix") = some (.string config.scope.content)
  tokens : List.Forall₂ MirrorsGroup config.tokens.entries (tokenMembers document)
  tokensPath : MirrorsPath (text "tokensPath") defaultTokensPath config.tokensPath document
  outDir : MirrorsPath (text "outDir") defaultOutDir config.outDir document

/-- The name and the slug of an entry hold no lone surrogate. -/
def ScalarNames (entry : Json) : Prop :=
  ∀ field ∈ [text "name", text "slug"], ∀ content,
    entry.field? field = some (.string content) → content.isScalar = true

/-- A text that follows the rules for labels is the label with that text. -/
theorem ofText_eq {content : Text} (scalar : content.isScalar = true) (present : content ≠ []) :
    Label.ofText content = .ok ⟨content, present, scalar⟩ := by
  simp [Label.ofText, scalar, present]

/-- A name and a slug that follow the rules for labels make a named token. -/
theorem namedToken_eq (value : Text) {name slug : Text} (nameScalar : name.isScalar = true)
    (namePresent : name ≠ []) (slugScalar : slug.isScalar = true) (slugPresent : slug ≠ []) :
    namedToken value name slug =
      .ok (.named value ⟨name, namePresent, nameScalar⟩ ⟨slug, slugPresent, slugScalar⟩) := by
  have nameLabel : requiredLabel (some (.string name)) = .ok ⟨name, namePresent, nameScalar⟩ :=
    ofText_eq nameScalar namePresent
  have slugLabel : requiredLabel (some (.string slug)) = .ok ⟨slug, slugPresent, slugScalar⟩ :=
    ofText_eq slugScalar slugPresent
  simp only [namedToken, TokenFields.named, nameLabel, slugLabel]
  rfl

/-- A document is a string when it holds some text. -/
theorem isString_iff {document : Json} :
    document.isString = true ↔ ∃ content, document = .string content := by
  cases document <;> simp [Json.isString]

/-- A document is an object when it holds some members. -/
theorem isObject_iff {document : Json} :
    document.isObject = true ↔ ∃ members, document = .object members := by
  cases document <;> simp [Json.isObject]

/-- A document that counts is there and counts as something. -/
theorem isGiven_iff {document : Option Json} :
    Json.isGiven document = true ↔ ∃ value, document = some value ∧ value.isFalsy = false := by
  cases document <;> simp [Json.isGiven]

/-- Strings that count are not empty. -/
theorem nonempty_of_not_isFalsy {content : Text} (counts : (Json.string content).isFalsy = false) :
    content ≠ [] := by
  rintro rfl
  cases counts

/-- A name that counts has to be a string. -/
theorem checkNames_nameNotText (place : TokenPlace) (value : Text) {name slug : Json}
    (nameCounts : name.isFalsy = false) (slugCounts : slug.isFalsy = false)
    (noText : name.isString = false) :
    checkNames place value name slug = violate (.nameNotText place) := by
  cases name with
  | string => cases noText
  | null | boolean | number | array | object => simp [checkNames, nameCounts, slugCounts]

/-- A slug that counts has to be a string, behind a name that is one. -/
theorem checkNames_slugNotText (place : TokenPlace) (value name : Text) {slug : Json}
    (nameCounts : (Json.string name).isFalsy = false) (slugCounts : slug.isFalsy = false)
    (noText : slug.isString = false) :
    checkNames place value (.string name) slug = violate (.slugNotText place) := by
  cases slug with
  | string => cases noText
  | null | boolean | number | array | object => simp [checkNames, nameCounts, slugCounts]

/-- A name and a slug that are strings with something in them make a named token. -/
theorem checkNames_named (place : TokenPlace) (value : Text) {name slug : Text}
    (nameScalar : name.isScalar = true) (namePresent : name ≠ [])
    (slugScalar : slug.isScalar = true) (slugPresent : slug ≠ []) :
    checkNames place value (.string name) (.string slug) =
      .ok (.named value ⟨name, namePresent, nameScalar⟩ ⟨slug, slugPresent, slugScalar⟩) := by
  rw [← namedToken_eq value nameScalar namePresent slugScalar slugPresent]
  simp [checkNames, Json.isFalsy, namePresent, slugPresent]

/-- A name or a slug that counts as nothing makes an unnamed token. -/
theorem checkNames_unnamed (place : TokenPlace) (value : Text) {name slug : Json}
    (falsy : (name.isFalsy || slug.isFalsy) = true) :
    checkNames place value name slug = .ok (.unnamed value) := by
  simp [checkNames, falsy]

/-- A name and a slug that are both there follow the last two checks of an entry. -/
theorem follows_checkNames (place : TokenPlace) {value : Text} {entry name slug : Json}
    (scalar : ScalarNames entry) (valued : entry.field? (text "value") = some (.string value))
    (present : value ≠ []) (named : entry.field? (text "name") = some name)
    (slugged : entry.field? (text "slug") = some slug) :
    Follows
      [⟨.nameNotText place, .invalidField, marked (place.label ++ text ".name"),
          !isNamedEntry entry || (some name).any Json.isString⟩,
        ⟨.slugNotText place, .invalidField, marked (place.label ++ text ".slug"),
          !isNamedEntry entry || (some slug).any Json.isString⟩]
      (checkNames place value name slug) fun token => token.Mirrors entry := by
  have both : isNamedEntry entry = (!name.isFalsy && !slug.isFalsy) := by
    simp [isNamedEntry, Json.isGiven, named, slugged]
  cases counts : isNamedEntry entry with
  | true =>
      obtain ⟨nameCounts, slugCounts⟩ : name.isFalsy = false ∧ slug.isFalsy = false := by
        simpa [counts] using both.symm
      refine .cons (fun noText => checkNames_nameNotText place value nameCounts slugCounts noText)
        fun nameIsText => ?_
      obtain ⟨name, rfl⟩ := isString_iff.mp nameIsText
      refine .cons (fun noText =>
        checkNames_slugNotText place value name nameCounts slugCounts noText) fun slugIsText => ?_
      obtain ⟨slug, rfl⟩ := isString_iff.mp slugIsText
      rw [checkNames_named place value (scalar _ (by simp) name named)
        (nonempty_of_not_isFalsy nameCounts) (scalar _ (by simp) slug slugged)
        (nonempty_of_not_isFalsy slugCounts)]
      refine .nil ⟨valued, present, ?_⟩
      rw [if_pos counts]
      exact ⟨_, _, rfl, named, slugged⟩
  | false =>
      have falsy : (name.isFalsy || slug.isFalsy) = true := by
        rw [counts] at both
        simpa [Bool.not_and] using congrArg (!·) both.symm
      rw [checkNames_unnamed place value falsy]
      refine .pass rfl (.pass rfl (.nil ⟨valued, present, ?_⟩))
      simp [counts, Token.value]

/-- Behind a value that is a string, the name and the slug of an entry decide. -/
theorem checkToken_of_value (place : TokenPlace) {members : List (Text × Json)} {content : Text}
    (valued : Json.member? (text "value") members = some (.string content))
    (counts : (Json.string content).isFalsy = false) :
    checkToken place (.object members) =
      match Json.member? (text "name") members, Json.member? (text "slug") members with
      | none, none => .ok (.unnamed content)
      | some _, none => violate (.slugMissing place)
      | none, some _ => violate (.nameMissing place)
      | some name, some slug => checkNames place content name slug := by
  simp only [checkToken, valued, counts]
  rfl

/-- The token of an entry follows the checks of the entry. -/
theorem follows_checkToken (place : TokenPlace) {entry : Json} (scalar : ScalarNames entry) :
    Follows (entryChecks place entry) (checkToken place entry)
      fun token => token.Mirrors entry := by
  refine .cons (fun noObject => ?_) fun isObject => ?_
  · cases entry with
    | object => cases noObject
    | null | boolean | number | string | array => rfl
  obtain ⟨members, rfl⟩ := isObject_iff.mp isObject
  refine .cons (fun missing => ?_) fun given => ?_
  · cases found : Json.member? (text "value") members with
    | none => simp [checkToken, found]
    | some value =>
        have falsy : value.isFalsy = true := by simpa [Json.isGiven, found] using missing
        simp [checkToken, found, falsy]
  obtain ⟨value, valued, counts⟩ := isGiven_iff.mp given
  rw [Json.field?_object] at valued
  refine .cons (fun noText => ?_) fun isText => ?_
  · have other : value.isString = false := by simpa [valued] using noText
    cases value with
    | string => cases other
    | null | boolean | number | array | object => simp [checkToken, valued, counts]
  obtain ⟨content, rfl⟩ := isString_iff.mp (by simpa [valued] using isText)
  have present := nonempty_of_not_isFalsy counts
  rw [checkToken_of_value place valued counts]
  simp only [Json.field?_object]
  cases named : Json.member? (text "name") members with
  | none =>
      have unnamed : isNamedEntry (.object members) = false := by
        simp [isNamedEntry, Json.isGiven, named]
      cases slugged : Json.member? (text "slug") members with
      | none =>
          refine .pass rfl (.pass rfl ?_)
          rw [unnamed]
          refine .pass rfl (.pass rfl (.nil ⟨valued, present, ?_⟩))
          simp [unnamed, Token.value]
      | some slug => exact .pass rfl (.stop rfl rfl)
  | some name =>
      cases slugged : Json.member? (text "slug") members with
      | none => exact .stop rfl rfl
      | some slug =>
          refine .pass rfl (.pass rfl ?_)
          exact follows_checkNames place scalar valued present named slugged

/-- A category is found by a name exactly when it has that name. -/
theorem ofName?_eq_some_iff {name : Text} {category : Category} :
    Category.ofName? name = some category ↔ category.name = name := by
  constructor
  · intro found
    simpa using List.find?_some found
  · rintro rfl
    exact Category.ofName?_name category

/-- Lists that agree item by item under two views agree as a whole. -/
theorem map_eq_of_forall₂ {First Second Key : Type} {view : First -> Key} {other : Second -> Key}
    {firsts : List First} {seconds : List Second}
    (each : List.Forall₂ (fun first second => view first = other second) firsts seconds) :
    firsts.map view = seconds.map other := by
  rw [← List.forall₂_eq_eq_eq, List.forall₂_map_left_iff, List.forall₂_map_right_iff]
  exact each

/-- The tokens of a category follow the checks of its entries. -/
theorem follows_checkGroup (category : Text) {members : List (Text × Json)}
    (distinct : (members.map Prod.fst).Nodup)
    (scalar : ∀ entry ∈ members, ScalarNames entry.2) :
    Follows (members.flatMap fun entry => entryChecks ⟨category, entry.1⟩ entry.2)
      (checkGroup category (.object members))
      fun group => List.Forall₂ MirrorsEntry group.entries members := by
  have each : Follows (members.flatMap fun entry => entryChecks ⟨category, entry.1⟩ entry.2)
      (members.mapM fun entry => do
        let token <- checkToken ⟨category, entry.1⟩ entry.2
        .ok (entry.1, token))
      fun tokens => List.Forall₂ MirrorsEntry tokens members := by
    refine .mapM fun entry member => ?_
    exact (follows_checkToken ⟨category, entry.1⟩ (scalar entry member)).map
      fun token mirrors => ⟨rfl, mirrors⟩
  refine each.map fun tokens mirror => ?_
  have keys : tokens.map Prod.fst = members.map Prod.fst :=
    map_eq_of_forall₂ (mirror.imp fun _ _ both => both.1)
  rw [Dictionary.entries_ofList (keys ▸ distinct)]
  exact mirror

/-- A member of the tokens follows the checks of its category. -/
theorem follows_member {member : Text × Json} (distinct : (member.2.members.map Prod.fst).Nodup)
    (scalar : ∀ entry ∈ member.2.members, ScalarNames entry.2) :
    Follows (groupChecks member)
      (match Category.ofName? member.1 with
      | none => violate (.unknownCategory member.1)
      | some category => do
          let group <- checkGroup member.1 member.2
          .ok (category, group))
      fun group => MirrorsGroup group member := by
  obtain ⟨name, content⟩ := member
  refine .cons (fun unknown => ?_) fun known => ?_
  · cases found : Category.ofName? name with
    | none => rfl
    | some category =>
        have named := ofName?_eq_some_iff.mp found
        simp [← named, Category.mem_all] at unknown
  have listed : name ∈ Category.all.map Category.name := by simpa using known
  obtain ⟨category, -, rfl⟩ := List.mem_map.mp listed
  rw [Category.ofName?_name]
  refine .cons (fun noObject => ?_) fun isObject => ?_
  · cases content with
    | object => cases noObject
    | null | boolean | number | string | array => rfl
  obtain ⟨members, rfl⟩ := isObject_iff.mp isObject
  exact (follows_checkGroup category.name distinct scalar).map fun group mirror => ⟨rfl, mirror⟩

/-- The tokens of all categories follow the checks of the categories. -/
theorem follows_checkTokens {members : List (Text × Json)}
    (distinct : (members.map Prod.fst).Nodup)
    (inner : ∀ member ∈ members, (member.2.members.map Prod.fst).Nodup)
    (scalar : ∀ member ∈ members, ∀ entry ∈ member.2.members, ScalarNames entry.2) :
    Follows (members.flatMap groupChecks) (checkTokens members) fun tokens =>
      List.Forall₂ MirrorsGroup tokens.entries members := by
  refine Follows.map (.mapM fun member listed =>
    follows_member (inner member listed) (scalar member listed)) fun groups mirror => ?_
  have names : groups.map (fun group => group.1.name) = members.map Prod.fst :=
    map_eq_of_forall₂ (mirror.imp fun _ _ both => both.1)
  have separate : (groups.map Prod.fst).Nodup := by
    refine List.Nodup.of_map Category.name ?_
    rw [List.map_map]
    exact names ▸ distinct
  rw [Dictionary.entries_ofList separate]
  exact mirror

/-- The prefix follows its check. -/
theorem follows_checkPrefix (document : Json) :
    Follows
      [⟨.prefixMissing, .missingPrefix, marked (text "prefix"),
        match document.field? (text "prefix") with
        | some (.string content) => !content.isEmpty
        | _ => false⟩]
      (checkPrefix (document.field? (text "prefix")))
      fun scope => document.field? (text "prefix") = some (.string scope) ∧ scope ≠ [] := by
  cases found : document.field? (text "prefix") with
  | none => exact .stop rfl rfl
  | some value =>
      cases value with
      | null | boolean | number | array | object => exact .stop rfl rfl
      | string content =>
          cases content with
          | nil => exact .stop rfl rfl
          | cons point others => exact .pass rfl (.nil ⟨rfl, by simp⟩)

/-- The members of the tokens follow the check that there are some. -/
theorem follows_checkTokensMember (document : Json) :
    Follows
      [⟨.tokensMissing, .invalidTokens, marked (text "tokens"),
        (document.field? (text "tokens")).any Json.isObject⟩]
      (checkTokensMember (document.field? (text "tokens")))
      fun members => document.field? (text "tokens") = some (.object members) := by
  cases found : document.field? (text "tokens") with
  | none => exact .stop rfl rfl
  | some value =>
      cases value with
      | null | boolean | number | string | array => exact .stop rfl rfl
      | object members => exact .pass rfl (.nil rfl)

/-- A path follows its check. -/
theorem follows_checkPath (name default : Text) (violation : Violation) (document : Json) :
    Follows [pathCheck name violation document]
      (checkPath default violation (document.field? name))
      fun path => MirrorsPath name default path document := by
  unfold pathCheck MirrorsPath
  cases found : document.field? name with
  | none => exact .pass rfl (.nil rfl)
  | some value =>
      cases value with
      | boolean | number | array | object => exact .stop rfl rfl
      | null => exact .pass rfl (.nil rfl)
      | string content => exact .pass rfl (.nil rfl)

/-- The labels that a document asks for hold no lone surrogate: its prefix, and the
names and slugs of its tokens. -/
structure ScalarLabels (document : Json) : Prop where
  scope : ∀ content, document.field? (text "prefix") = some (.string content) →
    content.isScalar = true
  names : ∀ member ∈ tokenMembers document, ∀ entry ∈ member.2.members, ScalarNames entry.2

/-- Checking a document follows its checks. -/
theorem follows_check {document : Json} (distinct : document.WellFormed fun _ => True)
    (scalar : ScalarLabels document) :
    Follows (checks document) (check document) fun config => config.Mirrors document := by
  refine .cons (fun noObject => ?_) fun isObject => ?_
  · cases document with
    | object => cases noObject
    | null | boolean | number | string | array => rfl
  obtain ⟨members, rfl⟩ := isObject_iff.mp isObject
  -- The steps stand in the order of the checks, so each takes its own off the list.
  refine (follows_checkPrefix (.object members)).bind fun scope prefixed => ?_
  refine (follows_checkTokensMember (.object members)).bind fun tokenList listed => ?_
  have tokensAre : tokenMembers (.object members) = tokenList := by
    simp [tokenMembers, listed, Json.members]
  have tokensDistinct : (Json.object tokenList).WellFormed fun _ => True :=
    distinct.of_mem_members (Json.mem_of_member? listed)
  have names : ∀ member ∈ tokenList, ∀ entry ∈ member.2.members, ScalarNames entry.2 :=
    tokensAre ▸ scalar.names
  rw [tokensAre]
  refine (follows_checkTokens tokensDistinct.nodup_members
    (fun member present => (tokensDistinct.of_mem_members present).nodup_members)
    names).bind fun tokens tokensMirror => ?_
  refine (follows_checkPath (text "tokensPath") defaultTokensPath .tokensPathNotText
    (.object members)).bind fun tokensPath tokensPathMirrors => ?_
  -- No check is left for the label: what it asks for is known of the prefix by now.
  have labelled : (checkField .scope (Label.ofText scope)).mapError Rejection.fields =
      .ok ⟨scope, prefixed.2, scalar.scope scope prefixed.1⟩ := by
    rw [ofText_eq (scalar.scope scope prefixed.1) prefixed.2]
    rfl
  rw [labelled]
  exact (follows_checkPath (text "outDir") defaultOutDir .outDirNotText (.object members)).map
    fun outDir outDirMirrors =>
      ⟨prefixed.1, tokensAre.symm ▸ tokensMirror, tokensPathMirrors, outDirMirrors⟩

/-- Checking a document yields the config that it describes when all checks pass.
Otherwise it stops at the first check that fails, with the kind and the label of that
check in what it reports. -/
theorem check_reports_first_failure {document : Json}
    (distinct : document.WellFormed fun _ => True) (scalar : ScalarLabels document) :
    match firstFailure (checks document) with
    | none => ∃ config, check document = .ok config ∧ config.Mirrors document
    | some failed =>
        check document = .error (.violation failed.violation) ∧
          failed.violation.kind = failed.kind ∧ failed.label <:+: failed.violation.message := by
  have follows := follows_check distinct scalar
  unfold Follows at follows
  cases found : firstFailure (checks document) with
  | none => simpa only [found] using follows
  | some failed =>
      simp only [found] at follows
      exact ⟨follows, checks_report document failed (List.mem_of_find?_eq_some found)⟩

/-- A document whose token `color.link` has a zero for its value, and whose output
directory is a zero as well. -/
def twoFaults : Json :=
  .object [
    (text "outDir", .number (.integer 0)),
    (text "prefix", .string (text "stb")),
    (text "tokens", .object [
      (text "color", .object [
        (text "link", .object [(text "value", .number (.integer 0))])])])]

/-- The token is checked before the output directory, though it stands behind it. -/
theorem check_twoFaults :
    (twoFaults.WellFormed fun _ => True) ∧ ScalarLabels twoFaults ∧
      check twoFaults = .error (.violation (.valueMissing ⟨text "color", text "link"⟩)) := by
  have zero : (Json.number (.integer 0)).WellFormed fun _ => True := .number trivial
  have single {name : Text} {inner : Json} (wellFormed : inner.WellFormed fun _ => True) :
      (Json.object [(name, inner)]).WellFormed fun _ => True := .object (by simp) (by simpa)
  have distinct : twoFaults.WellFormed fun _ => True := by
    refine .object (by decide) ?_
    simp only [List.forall_mem_cons]
    exact ⟨zero, .string _, single (single (single zero)), nofun⟩
  have scalar : ScalarLabels twoFaults := by
    constructor
    · intro content found
      have scope : twoFaults.field? (text "prefix") = some (.string (text "stb")) := rfl
      rw [scope] at found
      cases found
      decide
    · have listed : tokenMembers twoFaults = [(text "color", .object [
          (text "link", .object [(text "value", .number (.integer 0))])])] := rfl
      rw [listed]
      simp only [List.forall_mem_cons, Json.members]
      refine ⟨⟨?_, nofun⟩, nofun⟩
      simp only [ScalarNames, List.forall_mem_cons]
      exact ⟨nofun, nofun, nofun⟩
  have first : firstFailure (checks twoFaults) =
      some ⟨.valueMissing ⟨text "color", text "link"⟩, .invalidValue,
        marked (text "color.link"), false⟩ := by rfl
  have outcome := check_reports_first_failure distinct scalar
  simp only [first] at outcome
  exact ⟨distinct, scalar, outcome.1⟩

end Config

end DesignTokens
