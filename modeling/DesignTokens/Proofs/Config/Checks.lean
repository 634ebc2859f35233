import DesignTokens.Config.Validation
import DesignTokens.Proofs.Json.Members
import Mathlib.Data.List.Forall2

/-!
# The checks of a config document

The rules for config documents as a list of checks in the order in which they
count. Each check is a question of its own about the document; none of them stops
the others. Checking a document reports the first check that fails, and yields the
config that the document describes when none does.
-/

namespace DesignTokens

namespace Json

/-- Whether a document is an object. -/
def isObject : Json -> Bool
  | .object _ => true
  | _ => false

/-- Whether a document is a string. -/
def isString : Json -> Bool
  | .string _ => true
  | _ => false

/-- Whether a document is there and counts as something. -/
def isGiven (document : Option Json) : Bool :=
  document.any fun value => !value.isFalsy

end Json

namespace Config

/-- A check of a document: what is reported when it fails, of which kind that is,
what the report names, and whether the document passes. -/
structure Check where
  violation : Violation
  kind : ViolationKind
  label : Text
  passes : Bool

/-- A label as reports show it. -/
def marked (label : Text) : Text :=
  text "\"" ++ label ++ text "\""

/-- The entries of the tokens of a document. -/
def tokenMembers (document : Json) : List (Text × Json) :=
  ((document.field? (text "tokens")).map Json.members).getD []

/-- Whether an entry has both a name and a slug that count as something. -/
def isNamedEntry (entry : Json) : Bool :=
  Json.isGiven (entry.field? (text "name")) && Json.isGiven (entry.field? (text "slug"))

/-- The checks of the entry of a token. -/
def entryChecks (place : TokenPlace) (entry : Json) : List Check :=
  let value := entry.field? (text "value")
  let name := entry.field? (text "name")
  let slug := entry.field? (text "slug")
  [⟨.tokenNotAnObject place, .invalidTokens, marked place.label, entry.isObject⟩,
    ⟨.valueMissing place, .invalidValue, marked place.label, Json.isGiven value⟩,
    ⟨.valueNotText place, .invalidValue, marked (place.label ++ text ".value"),
      value.any Json.isString⟩,
    ⟨.slugMissing place, .nameSlugMismatch, marked place.label, name.isNone || slug.isSome⟩,
    ⟨.nameMissing place, .nameSlugMismatch, marked place.label, slug.isNone || name.isSome⟩,
    ⟨.nameNotText place, .invalidField, marked (place.label ++ text ".name"),
      !isNamedEntry entry || name.any Json.isString⟩,
    ⟨.slugNotText place, .invalidField, marked (place.label ++ text ".slug"),
      !isNamedEntry entry || slug.any Json.isString⟩]

/-- The checks of a category with its tokens. -/
def groupChecks (member : Text × Json) : List Check :=
  [⟨.unknownCategory member.1, .unknownCategory, marked member.1,
      (Category.all.map Category.name).contains member.1⟩,
    ⟨.groupNotAnObject member.1, .invalidTokens, marked member.1, member.2.isObject⟩] ++
  member.2.members.flatMap fun entry => entryChecks ⟨member.1, entry.1⟩ entry.2

/-- The check of a path, which may be left out or null. -/
def pathCheck (name : Text) (violation : Violation) (document : Json) : Check :=
  ⟨violation, .invalidField, marked name,
    match document.field? name with
    | none => true
    | some .null => true
    | some path => path.isString⟩

/-- All checks of a document in their order. -/
def checks (document : Json) : List Check :=
  [⟨.notAnObject, .invalidTokens, text "config", document.isObject⟩,
    ⟨.prefixMissing, .missingPrefix, marked (text "prefix"),
      match document.field? (text "prefix") with
      | some (.string content) => !content.isEmpty
      | _ => false⟩,
    ⟨.tokensMissing, .invalidTokens, marked (text "tokens"),
      (document.field? (text "tokens")).any Json.isObject⟩] ++
  (tokenMembers document).flatMap groupChecks ++
  [pathCheck (text "tokensPath") .tokensPathNotText document,
    pathCheck (text "outDir") .outDirNotText document]

/-- The first check that fails. -/
def firstFailure (checks : List Check) : Option Check :=
  checks.find? fun check => !check.passes

/-! ## What a report says -/

/-- A check reports the kind it is listed with, in a message that holds its label. -/
def Check.Reports (check : Check) : Prop :=
  check.violation.kind = check.kind ∧ check.label <:+: check.violation.message

/-- A message shows a field of a label between two quotes. -/
theorem shows_field_of_label {before label field after : Text} (opens : text "\"" <:+ before)
    (closes : field ++ text "\"" <+: after) :
    marked (label ++ field) <:+: before ++ label ++ after := by
  obtain ⟨start, rfl⟩ := opens
  obtain ⟨rest, rfl⟩ := closes
  exact ⟨start, rest, by simp [marked]⟩

/-- A message shows a label between two quotes. -/
theorem shows_label {before label after : Text} (opens : text "\"" <:+ before)
    (closes : text "\"" <+: after) : marked label <:+: before ++ label ++ after := by
  have shown := @shows_field_of_label before label [] after opens closes
  simpa using shown

/-- The checks of an entry report what they are listed with. -/
theorem entryChecks_report (place : TokenPlace) (entry : Json) :
    ∀ check ∈ entryChecks place entry, check.Reports := by
  have opens : text "\"" <:+ text "Token \"" := by decide
  simp only [entryChecks, List.forall_mem_cons]
  exact ⟨⟨rfl, shows_label opens (by decide)⟩,
    ⟨rfl, shows_label opens (by decide)⟩,
    ⟨rfl, shows_field_of_label opens (by decide)⟩,
    ⟨rfl, shows_label opens (by decide)⟩,
    ⟨rfl, shows_label opens (by decide)⟩,
    ⟨rfl, shows_field_of_label opens (by decide)⟩,
    ⟨rfl, shows_field_of_label opens (by decide)⟩,
    nofun⟩

/-- The checks of a category report what they are listed with. -/
theorem groupChecks_report (member : Text × Json) :
    ∀ check ∈ groupChecks member, check.Reports := by
  simp only [groupChecks, List.forall_mem_append, List.forall_mem_cons]
  refine ⟨⟨⟨rfl, ?_⟩, ⟨rfl, ?_⟩, nofun⟩, ?_⟩
  · have shown : marked member.1 <:+:
        text "Unknown token category \"" ++ member.1 ++ text "\". Valid categories: " :=
      shows_label (by decide) (by decide)
    exact shown.trans (List.prefix_append _ _).isInfix
  · exact shows_label (by decide) (by decide)
  · intro check member
    obtain ⟨entry, -, listed⟩ := List.mem_flatMap.mp member
    exact entryChecks_report _ _ check listed

/-- All checks of a document report what they are listed with. -/
theorem checks_report (document : Json) : ∀ check ∈ checks document, check.Reports := by
  simp only [checks, List.forall_mem_append, List.forall_mem_cons]
  have noObject : text "config" <+: text "config must be a JSON object." := by decide
  have noPrefix : marked (text "prefix") <+:
      text "\"prefix\" is required and must be a string." := by decide
  have noTokens : marked (text "tokens") <+:
      text "\"tokens\" is required and must be an object." := by decide
  have noTokensPath : marked (text "tokensPath") <+: text "\"tokensPath\" must be a string." := by
    decide
  have noOutDir : marked (text "outDir") <+: text "\"outDir\" must be a string." := by decide
  refine ⟨⟨⟨⟨rfl, noObject.isInfix⟩, ⟨rfl, noPrefix.isInfix⟩, ⟨rfl, noTokens.isInfix⟩, nofun⟩, ?_⟩,
    ⟨rfl, noTokensPath.isInfix⟩, ⟨rfl, noOutDir.isInfix⟩, nofun⟩
  intro check member
  obtain ⟨group, -, listed⟩ := List.mem_flatMap.mp member
  exact groupChecks_report group check listed

/-! ## Results that follow checks -/

/-- A result follows checks when it is a value with a property in case all pass, and
the violation of the first that fails otherwise. -/
def Follows {Value : Type} (checks : List Check) (result : Checked Value)
    (property : Value -> Prop) : Prop :=
  match firstFailure checks with
  | none => ∃ value, result = .ok value ∧ property value
  | some failed => result = .error (.violation failed.violation)

variable {First Second : Type}

/-- Without checks a result has to be a value. -/
theorem Follows.nil {value : First} {property : First -> Prop} (holds : property value) :
    Follows [] (.ok value) property :=
  ⟨value, rfl, holds⟩

/-- A first check decides, or leaves the decision to the others. -/
theorem Follows.cons {check : Check} {checks : List Check} {result : Checked First}
    {property : First -> Prop}
    (fails : check.passes = false → result = violate check.violation)
    (passes : check.passes = true → Follows checks result property) :
    Follows (check :: checks) result property := by
  unfold Follows firstFailure
  cases decided : check.passes with
  | false =>
      rw [List.find?_cons_of_pos (by simp [decided])]
      exact fails decided
  | true =>
      rw [List.find?_cons_of_neg (by simp [decided])]
      exact passes decided

/-- A check that passes decides nothing. -/
theorem Follows.pass {check : Check} {checks : List Check} {result : Checked First}
    {property : First -> Prop} (passing : check.passes = true)
    (follows : Follows checks result property) : Follows (check :: checks) result property :=
  .cons (fun failing => absurd (passing.symm.trans failing) (by decide)) fun _ => follows

/-- A check that fails decides alone. -/
theorem Follows.stop {check : Check} {checks : List Check} {result : Checked First}
    {property : First -> Prop} (failing : check.passes = false)
    (stops : result = violate check.violation) : Follows (check :: checks) result property :=
  .cons (fun _ => stops) fun passing => absurd (failing.symm.trans passing) (by decide)

/-- Steps that follow their checks follow them one after the other. -/
theorem Follows.bind {before after : List Check} {step : Checked First}
    {next : First -> Checked Second} {property : First -> Prop} {result : Second -> Prop}
    (first : Follows before step property)
    (second : ∀ value, property value → Follows after (next value) result) :
    Follows (before ++ after) (step >>= next) result := by
  unfold Follows firstFailure at first ⊢
  rw [List.find?_append]
  cases failed : before.find? fun check => !check.passes with
  | some check =>
      simp only [failed] at first
      simp only [Option.some_or, first]
      rfl
  | none =>
      simp only [failed] at first
      obtain ⟨value, rfl, holds⟩ := first
      exact second value holds

/-- A step that cannot fail needs no check. -/
theorem Follows.map {checks : List Check} {step : Checked First} {next : First -> Second}
    {property : First -> Prop} {result : Second -> Prop} (follows : Follows checks step property)
    (holds : ∀ value, property value → result (next value)) :
    Follows checks (step >>= fun value => .ok (next value)) result := by
  rw [← List.append_nil checks]
  exact follows.bind fun value first => .nil (holds value first)

/-- A list is checked item by item. -/
theorem Follows.mapM {items : List First} {checksOf : First -> List Check}
    {step : First -> Checked Second} {relation : Second -> First -> Prop}
    (each : ∀ item ∈ items, Follows (checksOf item) (step item) fun value => relation value item) :
    Follows (items.flatMap checksOf) (items.mapM step) fun values =>
      List.Forall₂ relation values items := by
  induction items with
  | nil => exact .nil .nil
  | cons item others ih =>
      rw [List.flatMap_cons, List.mapM_cons]
      refine (each item (by simp)).bind fun value here => ?_
      have rest := ih fun other member => each other (List.mem_cons_of_mem item member)
      exact rest.map fun values there => .cons here there

end Config

end DesignTokens
