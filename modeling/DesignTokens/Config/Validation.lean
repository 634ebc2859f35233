import DesignTokens.Config.Fields

/-!
# Checking a config document

A document is checked in a fixed order: it is an object, its prefix, that it has
tokens, each category with its tokens in the order of the document, and the two
paths last. The first violation is the one that is reported.
-/

namespace DesignTokens

/-- The kinds of violation. -/
inductive ViolationKind where
  | missingPrefix
  | invalidTokens
  | unknownCategory
  | invalidValue
  | nameSlugMismatch
  | invalidField
  deriving DecidableEq, Repr

namespace ViolationKind

/-- Every kind of violation. -/
def all : List ViolationKind :=
  [missingPrefix, invalidTokens, unknownCategory, invalidValue, nameSlugMismatch, invalidField]

/-- The name of a kind of violation. -/
def name : ViolationKind -> Text
  | missingPrefix => text "missing_prefix"
  | invalidTokens => text "invalid_tokens"
  | unknownCategory => text "unknown_category"
  | invalidValue => text "invalid_value"
  | nameSlugMismatch => text "name_slug_mismatch"
  | invalidField => text "invalid_field"

/-- The kind of violation with a name. -/
def ofName? (name : Text) : Option ViolationKind :=
  all.find? fun kind => kind.name == name

end ViolationKind

/-- Where a token stands in a document. -/
structure TokenPlace where
  category : Text
  key : Text
  deriving DecidableEq, Repr

/-- The category and the key with a point between them. -/
def TokenPlace.label (place : TokenPlace) : Text :=
  place.category ++ text "." ++ place.key

/-- How a document can break the rules for configs. -/
inductive Violation where
  | notAnObject
  | prefixMissing
  | tokensMissing
  | unknownCategory (name : Text)
  | groupNotAnObject (category : Text)
  | tokenNotAnObject (place : TokenPlace)
  | valueMissing (place : TokenPlace)
  | valueNotText (place : TokenPlace)
  | slugMissing (place : TokenPlace)
  | nameMissing (place : TokenPlace)
  | nameNotText (place : TokenPlace)
  | slugNotText (place : TokenPlace)
  | tokensPathNotText
  | outDirNotText
  deriving DecidableEq, Repr

namespace Violation

/-- The kind of a violation. -/
def kind : Violation -> ViolationKind
  | notAnObject => .invalidTokens
  | prefixMissing => .missingPrefix
  | tokensMissing => .invalidTokens
  | unknownCategory _ => .unknownCategory
  | groupNotAnObject _ => .invalidTokens
  | tokenNotAnObject _ => .invalidTokens
  | valueMissing _ => .invalidValue
  | valueNotText _ => .invalidValue
  | slugMissing _ => .nameSlugMismatch
  | nameMissing _ => .nameSlugMismatch
  | nameNotText _ => .invalidField
  | slugNotText _ => .invalidField
  | tokensPathNotText => .invalidField
  | outDirNotText => .invalidField

/-- The names of all categories, as messages list them. -/
def categoryNames : Text :=
  List.intercalate (text ", ") (Category.all.map Category.name)

/-- The wording of a violation. -/
def message : Violation -> Text
  | notAnObject => text "config must be a JSON object."
  | prefixMissing => text "\"prefix\" is required and must be a string."
  | tokensMissing => text "\"tokens\" is required and must be an object."
  | unknownCategory name =>
      text "Unknown token category \"" ++ name ++ text "\". Valid categories: " ++ categoryNames
  | groupNotAnObject category =>
      text "Token category \"" ++ category ++ text "\" must be an object."
  | tokenNotAnObject place => text "Token \"" ++ place.label ++ text "\" must be an object."
  | valueMissing place => text "Token \"" ++ place.label ++ text "\" is missing a \"value\"."
  | valueNotText place => text "Token \"" ++ place.label ++ text ".value\" must be a string."
  | slugMissing place =>
      text "Token \"" ++ place.label ++
        text "\" has \"name\" but no \"slug\". Both are required together."
  | nameMissing place =>
      text "Token \"" ++ place.label ++
        text "\" has \"slug\" but no \"name\". Both are required together."
  | nameNotText place => text "Token \"" ++ place.label ++ text ".name\" must be a string."
  | slugNotText place => text "Token \"" ++ place.label ++ text ".slug\" must be a string."
  | tokensPathNotText => text "\"tokensPath\" must be a string."
  | outDirNotText => text "\"outDir\" must be a string."

end Violation

/-- Why a document is not accepted: it breaks a rule, or a text that follows all
the rules cannot be made a label. -/
inductive Rejection where
  | violation (violation : Violation)
  | fields (faults : List FieldFault)
  deriving DecidableEq, Repr

namespace Config

/-- What a check of a document yields. -/
abbrev Checked := Except Rejection

/-- A check stops at a violation. -/
def violate {Value : Type} (violation : Violation) : Checked Value :=
  .error (.violation violation)

/-- The named token of two texts, which have to be labels. -/
def namedToken (value name slug : Text) : Checked Token :=
  ((TokenFields.mk none (some (.string value)) (some (.string name)) (some (.string slug))).named
    ).mapError .fields

/-- The token of a value together with a name and a slug that are both there. A
name or slug that counts as nothing makes the token an unnamed one. -/
def checkNames (place : TokenPlace) (value : Text) (name slug : Json) : Checked Token :=
  if name.isFalsy || slug.isFalsy then .ok (.unnamed value)
  else
    match name with
    | .string name =>
        match slug with
        | .string slug => namedToken value name slug
        | _ => violate (.slugNotText place)
    | _ => violate (.nameNotText place)

/-- The token of an entry. -/
def checkToken (place : TokenPlace) : Json -> Checked Token
  | .object members =>
      match Json.member? (text "value") members with
      | none => violate (.valueMissing place)
      | some value =>
          if value.isFalsy then violate (.valueMissing place)
          else
            match value with
            | .string content =>
                match Json.member? (text "name") members, Json.member? (text "slug") members with
                | none, none => .ok (.unnamed content)
                | some _, none => violate (.slugMissing place)
                | none, some _ => violate (.nameMissing place)
                | some name, some slug => checkNames place content name slug
            | _ => violate (.valueNotText place)
  | _ => violate (.tokenNotAnObject place)

/-- The tokens of a category. -/
def checkGroup (category : Text) : Json -> Checked TokenGroup
  | .object members => do
      let tokens <- members.mapM fun entry => do
        let token <- checkToken ⟨category, entry.1⟩ entry.2
        .ok (entry.1, token)
      .ok (.ofList tokens)
  | _ => violate (.groupNotAnObject category)

/-- The tokens of all categories. -/
def checkTokens (members : List (Text × Json)) : Checked (Dictionary Category TokenGroup) := do
  let groups <- members.mapM fun entry => do
    match Category.ofName? entry.1 with
    | none => violate (.unknownCategory entry.1)
    | some category =>
        let group <- checkGroup entry.1 entry.2
        .ok (category, group)
  .ok (.ofList groups)

/-- A path that may be left out or null. -/
def checkPath (default : Text) (violation : Violation) : Option Json -> Checked Text
  | none => .ok default
  | some .null => .ok default
  | some (.string path) => .ok path
  | some _ => violate violation

/-- The prefix, which has to be a string with something in it. -/
def checkPrefix : Option Json -> Checked Text
  | some (.string content) => if content.isEmpty then violate .prefixMissing else .ok content
  | _ => violate .prefixMissing

/-- The members of the tokens, which have to be an object. -/
def checkTokensMember : Option Json -> Checked (List (Text × Json))
  | some (.object members) => .ok members
  | _ => violate .tokensMissing

/-- The config of a document, or the first reason why there is none. -/
def check : Json -> Checked Config
  | .object members => do
      let scope <- checkPrefix (Json.member? (text "prefix") members)
      let tokenMembers <- checkTokensMember (Json.member? (text "tokens") members)
      let tokens <- checkTokens tokenMembers
      let tokensPath <-
        checkPath defaultTokensPath .tokensPathNotText (Json.member? (text "tokensPath") members)
      let outDir <- checkPath defaultOutDir .outDirNotText (Json.member? (text "outDir") members)
      let label <- (checkField .scope (Label.ofText scope)).mapError .fields
      .ok ⟨label, tokensPath, outDir, tokens⟩
  | _ => violate .notAnObject

end Config

end DesignTokens
