import DesignTokens.Json.Printer
import DesignTokens.Proofs.Text.Scalar

/-!
# Documents without surrogates

A document whose names and strings hold no surrogate is printed without one, whatever is
escaped in it and however deep it is.
-/

namespace DesignTokens.Json

/-- A document whose names and strings hold no surrogate. -/
inductive Scalar : Json -> Prop where
  | null : Scalar .null
  | boolean (value : Bool) : Scalar (.boolean value)
  | number (value : JsonNumber) : Scalar (.number value)
  | string {value : Text} (scalar : value.isScalar = true) : Scalar (.string value)
  | array {items : List Json} (each : ∀ item ∈ items, Scalar item) : Scalar (.array items)
  | object {members : List (Text × Json)} (names : ∀ entry ∈ members, entry.1.isScalar = true)
      (each : ∀ entry ∈ members, Scalar entry.2) : Scalar (.object members)

/-- A code point that is no surrogate is spelled without one. -/
theorem isScalar_stringPoint {point : CodePoint} (plain : point.isSurrogate = false) :
    (stringPoint point).isScalar = true := by
  have backslash : CodePoint.isSurrogate '\\' = false := by decide
  unfold stringPoint
  split
  · simp [Text.isScalar, backslash, plain]
  split
  · exact Text.isScalar_text _
  split
  · exact Text.isScalar_text _
  split
  · exact Text.isScalar_text _
  split
  · exact Text.isScalar_text _
  split
  · exact Text.isScalar_text _
  split
  · simp [Text.isScalar_append]
  · simp [Text.isScalar, plain]

/-- A string without surrogates is spelled without one. -/
theorem isScalar_stringSpelling {content : Text} (scalar : content.isScalar = true) :
    (stringSpelling content).isScalar = true := by
  have inner : Text.isScalar (content.flatMap stringPoint) = true := by
    rw [Text.isScalar_flatMap, List.all_eq_true]
    intro point member
    have plain := List.all_eq_true.mp scalar point member
    exact isScalar_stringPoint (by simpa using plain)
  simp [stringSpelling, Text.isScalar_append, inner]

/-- Numbers are spelled without surrogates. -/
theorem isScalar_numberSpelling (value : JsonNumber) : (numberSpelling value).isScalar = true := by
  have integers (value : Int) : (integerSpelling value).isScalar = true := by
    unfold integerSpelling
    split <;> simp [Text.isScalar_append]
  cases value with
  | integer value => exact integers value
  | decimal coefficient exponent => simp [numberSpelling, Text.isScalar_append, integers]
  | notANumber => exact Text.isScalar_text _
  | infinite negative => cases negative <;> exact Text.isScalar_text _

/-- A new line holds no surrogate. -/
theorem isScalar_breakLine (depth : Nat) : (breakLine depth).isScalar = true := by
  have blanks : Text.isScalar (List.replicate (2 * depth) (CodePoint.ofChar ' ')) = true := by
    rw [← List.map_replicate]
    exact Text.isScalar_map_ofChar _
  simp [breakLine, Text.isScalar_append, blanks]

/-- Items that are printed without surrogates are so one after the other. -/
theorem isScalar_printItems {items : List Json} {depth : Nat}
    (each : ∀ item ∈ items, (printAt depth item).isScalar = true) :
    (printItems depth items).isScalar = true := by
  induction items with
  | nil => rfl
  | cons item others ih =>
      obtain ⟨here, later⟩ := List.forall_mem_cons.mp each
      cases others with
      | nil => simp [printItems, Text.isScalar_append, isScalar_breakLine, here]
      | cons next rest =>
          simp [printItems, Text.isScalar_append, isScalar_breakLine, here, ih later]

/-- Members that are printed without surrogates, with names that hold none, are so one after
the other. -/
theorem isScalar_printMembers {members : List (Text × Json)} {depth : Nat}
    (names : ∀ entry ∈ members, entry.1.isScalar = true)
    (each : ∀ entry ∈ members, (printAt depth entry.2).isScalar = true) :
    (printMembers depth members).isScalar = true := by
  induction members with
  | nil => rfl
  | cons entry others ih =>
      obtain ⟨name, document⟩ := entry
      obtain ⟨nameHere, namesLater⟩ := List.forall_mem_cons.mp names
      obtain ⟨here, later⟩ := List.forall_mem_cons.mp each
      have spelled := isScalar_stringSpelling nameHere
      cases others with
      | nil => simp [printMembers, Text.isScalar_append, isScalar_breakLine, spelled, here]
      | cons next rest =>
          simp [printMembers, Text.isScalar_append, isScalar_breakLine, spelled, here,
            ih namesLater later]

/-- A document without surrogates is printed without one at any depth. -/
theorem Scalar.isScalar_printAt {document : Json} (scalar : document.Scalar) (depth : Nat) :
    (printAt depth document).isScalar = true := by
  induction scalar generalizing depth with
  | null => exact Text.isScalar_text _
  | boolean value => cases value <;> exact Text.isScalar_text _
  | number value => exact isScalar_numberSpelling value
  | string scalar => exact isScalar_stringSpelling scalar
  | @array items each ih =>
      cases items with
      | nil => exact Text.isScalar_text _
      | cons item others =>
          have inner := isScalar_printItems fun item member => ih item member (depth + 1)
          simp [printAt, Text.isScalar_append, isScalar_breakLine, inner]
  | @object members names each ih =>
      cases members with
      | nil => exact Text.isScalar_text _
      | cons entry others =>
          have inner := isScalar_printMembers names fun entry member => ih entry member (depth + 1)
          simp [printAt, Text.isScalar_append, isScalar_breakLine, inner]

end DesignTokens.Json
