import DesignTokens.Config
import DesignTokens.Json

/-!
# Building tokens and configs from fields

Tokens and configs can be built from JSON fields directly. Nothing is converted:
a text has to be a string, and a null is no string. All faults are reported
together, in the order of the fields, each with the place where it stands.
-/

namespace DesignTokens

/-- The two kinds of token. -/
inductive TokenKind where
  | named
  | unnamed
  deriving DecidableEq, Repr

/-- The word by which a field can insist on a kind of token. -/
def TokenKind.word : TokenKind -> Text
  | .named => text "named"
  | .unnamed => text "unnamed"

/-- The fields that tokens and configs are built from. -/
inductive FieldName where
  | scope
  | tokensPath
  | outDir
  | tokens
  | kind
  | value
  | name
  | slug
  deriving DecidableEq, Repr

/-- One step on the way to the place of a fault. -/
inductive FieldStep where
  | field (which : FieldName)
  /-- The entry of a dictionary, or an attribute, by its name. -/
  | entry (name : Text)
  /-- The name of an entry rather than what it holds. -/
  | key
  /-- One of the kinds that a token was tried as. -/
  | tried (kind : TokenKind)
  deriving DecidableEq, Repr

/-- What is wrong with a field. -/
inductive FieldCause where
  | missing
  | notText
  | empty
  /-- The text holds a lone surrogate where a label is asked for. -/
  | notScalar
  /-- The field insists on another kind of token. -/
  | otherKind
  | unknownCategory
  | notDictionary
  | notObject
  /-- The value is fixed and takes no assignment. -/
  | immutable
  deriving DecidableEq, Repr

/-- A fault of a field and the way to it from the outermost value. -/
structure FieldFault where
  place : List FieldStep
  cause : FieldCause
  deriving DecidableEq, Repr

/-- What building from fields yields. -/
abbrev Built := Except (List FieldFault)

namespace FieldFault

/-- The fault as seen from one step further out. -/
def inside (step : FieldStep) (fault : FieldFault) : FieldFault :=
  ⟨step :: fault.place, fault.cause⟩

/-- The faults of a result as seen from one step further out. -/
def within {Value : Type} (step : FieldStep) (result : Built Value) : Built Value :=
  result.mapError fun faults => faults.map (inside step)

end FieldFault

/-- The result of a single check on a field. -/
def checkField {Value : Type} (which : FieldName) (result : Except FieldCause Value) :
    Built Value :=
  result.mapError fun cause => [⟨[.field which], cause⟩]

/-- Combines two results; when both fail, the faults of both are reported. -/
def both {First Second : Type} (first : Built First) (second : Built Second) :
    Built (First × Second) :=
  match first, second with
  | .ok left, .ok right => .ok (left, right)
  | .ok _, .error faults => .error faults
  | .error faults, .ok _ => .error faults
  | .error faults, .error more => .error (faults ++ more)

/-- Combines the results of a list. -/
def everyOne {Value : Type} : List (Built Value) -> Built (List Value)
  | [] => .ok []
  | result :: others => (both result (everyOne others)).map fun pair => pair.1 :: pair.2

/-- The text of a field that has to be there. -/
def requiredText : Option Json -> Except FieldCause Text
  | none => .error .missing
  | some (.string content) => .ok content
  | some _ => .error .notText

/-- The text of a field that has a default. -/
def optionalText (default : Text) : Option Json -> Except FieldCause Text
  | none => .ok default
  | some (.string content) => .ok content
  | some _ => .error .notText

/-- The label that a text makes. -/
def Label.ofText (content : Text) : Except FieldCause Label :=
  if scalar : content.isScalar = true then
    if nonempty : content ≠ [] then .ok ⟨content, nonempty, scalar⟩
    else .error .empty
  else .error .notScalar

/-- The label of a field that has to be there. -/
def requiredLabel (field : Option Json) : Except FieldCause Label := do
  Label.ofText (<- requiredText field)

/-- A field that may insist on a kind of token. -/
def checkKind (kind : TokenKind) : Option Json -> Except FieldCause Unit
  | none => .ok ()
  | some (.string word) =>
      if !word.isScalar then .error .notScalar
      else if word = kind.word then .ok ()
      else .error .otherKind
  | some _ => .error .otherKind

/-- The fields of a token; other fields are ignored. -/
structure TokenFields where
  kind : Option Json
  value : Option Json
  name : Option Json
  slug : Option Json

namespace TokenFields

/-- The fields among the members of an object. -/
def ofMembers (members : List (Text × Json)) : TokenFields where
  kind := Json.member? (text "kind") members
  value := Json.member? (text "value") members
  name := Json.member? (text "name") members
  slug := Json.member? (text "slug") members

/-- Builds a named token. -/
def named (fields : TokenFields) : Built Token :=
  (both (checkField .kind (checkKind .named fields.kind))
    (both (checkField .value (requiredText fields.value))
      (both (checkField .name (requiredLabel fields.name))
        (checkField .slug (requiredLabel fields.slug))))).map
    fun parts => .named parts.2.1 parts.2.2.1 parts.2.2.2

/-- Builds an unnamed token. -/
def unnamed (fields : TokenFields) : Built Token :=
  (both (checkField .kind (checkKind .unnamed fields.kind))
    (checkField .value (requiredText fields.value))).map
    fun parts => .unnamed parts.2

/-- Builds a token of a kind. -/
def build (kind : TokenKind) (fields : TokenFields) : Built Token :=
  match kind with
  | .named => fields.named
  | .unnamed => fields.unnamed

end TokenFields

namespace Token

/-- A token of a kind from a document, which has to be an object. -/
def ofDocument (kind : TokenKind) : Json -> Built Token
  | .object members => (TokenFields.ofMembers members).build kind
  | _ => .error [⟨[], .notObject⟩]

/-- A token from a document: a named one if it can be, else an unnamed one. When
it can be neither, the faults of both attempts are reported. -/
def ofAny (document : Json) : Built Token :=
  match FieldFault.within (.tried .named) (ofDocument .named document) with
  | .ok token => .ok token
  | .error faults =>
      match FieldFault.within (.tried .unnamed) (ofDocument .unnamed document) with
      | .ok token => .ok token
      | .error more => .error (faults ++ more)

/-- Tokens are fixed: no attribute of one can be assigned. -/
def assign (_token : Token) (property : Text) (_value : Json) : Built Token :=
  .error [⟨[.entry property], .immutable⟩]

end Token

/-- The category that the name of an entry stands for. -/
def categoryKey (name : Text) : Except FieldCause Category :=
  if !name.isScalar then .error .notScalar
  else
    match Category.ofName? name with
    | some category => .ok category
    | none => .error .unknownCategory

/-- The tokens of a category from a document. -/
def TokenGroup.ofDocument : Json -> Built TokenGroup
  | .object members =>
      (everyOne (members.map fun entry =>
        (FieldFault.within (.entry entry.1) (Token.ofAny entry.2)).map
          fun token => (entry.1, token))).map Dictionary.ofList
  | _ => .error [⟨[], .notDictionary⟩]

/-- One category with its tokens; a name that is no category does not keep the
faults of its tokens from being reported. -/
def categoryEntry (entry : Text × Json) : Built (Category × TokenGroup) :=
  FieldFault.within (.entry entry.1)
    (both ((categoryKey entry.1).mapError fun cause => [⟨[.key], cause⟩])
      (TokenGroup.ofDocument entry.2))

/-- The tokens of all categories from a document. -/
def tokensOfDocument : Json -> Built (Dictionary Category TokenGroup)
  | .object members => (everyOne (members.map categoryEntry)).map Dictionary.ofList
  | _ => .error [⟨[], .notDictionary⟩]

/-- The fields of a config. -/
structure ConfigFields where
  scope : Option Json
  tokensPath : Option Json
  outDir : Option Json
  tokens : Option Json

/-- Builds a config. Only the scope has to be there. -/
def ConfigFields.build (fields : ConfigFields) : Built Config :=
  (both (checkField .scope (requiredLabel fields.scope))
    (both (checkField .tokensPath (optionalText Config.defaultTokensPath fields.tokensPath))
      (both (checkField .outDir (optionalText Config.defaultOutDir fields.outDir))
        (FieldFault.within (.field .tokens)
          (match fields.tokens with
          | none => .ok .empty
          | some document => tokensOfDocument document))))).map
    fun parts => ⟨parts.1, parts.2.1, parts.2.2.1, parts.2.2.2⟩

end DesignTokens
