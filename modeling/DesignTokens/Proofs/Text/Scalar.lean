import DesignTokens.Proofs.Json.Spelling
import DesignTokens.Proofs.Text.Utf8
import DesignTokens.Text.Quoted

/-!
# Text that is written without surrogates

No character is a surrogate, so literal text and the digits of numbers hold none. Quoted
text holds none either, whatever it quotes, since surrogates are not printable; and no text
does once its surrogates are escaped.
-/

namespace DesignTokens

/-- No character is a surrogate. -/
theorem CodePoint.isSurrogate_ofChar (character : Char) :
    (CodePoint.ofChar character).isSurrogate = false := by
  simp only [CodePoint.isSurrogate, Text.ofChar_val, Bool.and_eq_false_iff,
    decide_eq_false_iff_not, Nat.not_le]
  rcases character.valid with low | ⟨high, -⟩
  · exact .inl low
  · exact .inr high

namespace Text

/-- Characters are text without surrogates. -/
theorem isScalar_map_ofChar (characters : List Char) :
    Text.isScalar (characters.map CodePoint.ofChar) = true := by
  refine List.all_eq_true.mpr fun point member => ?_
  obtain ⟨character, -, rfl⟩ := List.mem_map.mp member
  simp [CodePoint.isSurrogate_ofChar]

/-- Literal text holds no surrogate. -/
@[simp]
theorem isScalar_text (literal : String) : (text literal).isScalar = true :=
  isScalar_map_ofChar literal.toList

/-- Decimal digits are no surrogates. -/
@[simp]
theorem isScalar_decimal (number : Nat) : (decimal number).isScalar = true :=
  isScalar_map_ofChar (Nat.toDigits 10 number)

/-- Hexadecimal digits are no surrogates. -/
@[simp]
theorem isScalar_hexadecimal (width number : Nat) :
    (hexadecimal width number).isScalar = true := by
  have zeros (count : Nat) :
      Text.isScalar (List.replicate count (CodePoint.ofChar '0')) = true := by
    rw [← List.map_replicate]
    exact isScalar_map_ofChar _
  rw [hexadecimal, List.leftpad, isScalar_append, zeros, isScalar_map_ofChar]
  rfl

/-- Spelled items hold no surrogate exactly when the spelling of each holds none. -/
theorem isScalar_flatMap {Item : Type} (items : List Item) (spell : Item -> Text) :
    Text.isScalar (items.flatMap spell) = items.all fun item => (spell item).isScalar :=
  List.all_flatMap

/-- A surrogate is not printable. -/
theorem isSurrogate_of_isPrintable {point : CodePoint} (printable : isPrintable point = true) :
    point.isSurrogate = false := by
  have range : (0xD7FC, 0xF8FF) ∈ unprintableRanges := by decide
  have outside : ¬ (0xD7FC ≤ point.val ∧ point.val ≤ 0xF8FF) := by
    intro within
    simp only [isPrintable, Bool.not_eq_true', List.any_eq_false] at printable
    exact printable _ range (by simpa using within)
  simp only [CodePoint.isSurrogate, Bool.and_eq_false_iff, decide_eq_false_iff_not]
  omega

/-- What a code point is shown as between marks holds no surrogate. -/
theorem isScalar_quotedPoint {mark : CodePoint} (marked : mark.isSurrogate = false)
    (point : CodePoint) : (quotedPoint mark point).isScalar = true := by
  have backslash : CodePoint.isSurrogate '\\' = false := by decide
  unfold quotedPoint
  split
  next shown =>
    have plain : point.isSurrogate = false := by
      rcases (by simpa using shown : point = mark ∨ point = '\\') with rfl | rfl
      · exact marked
      · exact backslash
    simp [isScalar, backslash, plain]
  split
  · exact isScalar_text _
  split
  · exact isScalar_text _
  split
  · exact isScalar_text _
  split
  next printable => simp [isScalar, isSurrogate_of_isPrintable printable]
  split
  · simp [isScalar_append]
  split
  · simp [isScalar_append]
  · simp [isScalar_append]

/-- Quoted text holds no surrogate, whatever it quotes. -/
theorem isScalar_quoted (content : Text) : content.quoted.isScalar = true := by
  have marked : (quotationMark content).isSurrogate = false := by
    unfold quotationMark
    split <;> decide
  have between : Text.isScalar (content.flatMap (quotedPoint (quotationMark content))) = true := by
    rw [isScalar_flatMap, List.all_eq_true]
    exact fun point _ => isScalar_quotedPoint marked point
  rw [quoted, List.cons_append, isScalar_cons, isScalar_append, isScalar_cons, between, marked]
  rfl

/-- What is written with escape sequences holds no surrogate. -/
theorem isScalar_escapeSurrogates (content : Text) : content.escapeSurrogates.isScalar = true := by
  rw [escapeSurrogates, isScalar_flatMap, List.all_eq_true]
  intro point _
  split
  next => simp [isScalar_append]
  next plain => simpa [isScalar] using plain

/-- Text without surrogates has nothing to escape. -/
theorem escapeSurrogates_of_isScalar {content : Text} (scalar : content.isScalar = true) :
    content.escapeSurrogates = content := by
  induction content with
  | nil => rfl
  | cons point others ih =>
      rw [isScalar_cons, Bool.and_eq_true, Bool.not_eq_true'] at scalar
      obtain ⟨here, later⟩ := scalar
      have rest := ih later
      simp only [escapeSurrogates, List.flatMap_cons, here, Bool.false_eq_true, if_false] at rest ⊢
      rw [rest]
      rfl

/-- No hexadecimal digit ends a line. -/
theorem newline_not_mem_hexadecimal (width number : Nat) :
    CodePoint.ofChar '\n' ∉ hexadecimal width number := by
  have digits : CodePoint.ofChar '\n' ∉ (Nat.toDigits 16 number).map CodePoint.ofChar := by
    induction number using Nat.strongRecOn with
    | ind number ih =>
        have last (digit : Nat) (low : digit < 16) :
            CodePoint.ofChar '\n' ≠ CodePoint.ofChar digit.digitChar := by
          interval_cases digit <;> decide
        by_cases small : number < 16
        · rw [Nat.toDigits_of_lt_base small]
          simpa using last number small
        · rw [Nat.toDigits_of_base_le (by omega) (by omega), List.map_append, List.mem_append,
            not_or]
          exact ⟨ih _ (by omega), by simpa using last _ (Nat.mod_lt number (by omega))⟩
  rw [hexadecimal, List.leftpad, List.mem_append, not_or]
  refine ⟨fun filled => ?_, digits⟩
  exact absurd (List.eq_of_mem_replicate filled) (by decide)

/-- Escaping surrogates breaks no line. -/
theorem newline_mem_of_mem_escapeSurrogates {content : Text}
    (broken : CodePoint.ofChar '\n' ∈ content.escapeSurrogates) :
    CodePoint.ofChar '\n' ∈ content := by
  obtain ⟨point, member, spelled⟩ := List.mem_flatMap.mp broken
  split at spelled
  · rcases List.mem_append.mp spelled with mark | digit
    · exact absurd mark (by decide)
    · exact absurd digit (newline_not_mem_hexadecimal 4 point.val)
  · exact List.mem_singleton.mp spelled ▸ member

end Text

end DesignTokens
