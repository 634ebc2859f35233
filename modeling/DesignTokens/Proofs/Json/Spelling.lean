import DesignTokens.Json.Printer
import DesignTokens.Json.Reader
import Mathlib.Tactic.IntervalCases

/-!
# Reading strings and numbers back

The printed form of a string or a number, followed by anything that cannot be
mistaken for a part of it, is read as that string or number, and reading leaves
exactly what followed. Only integers with more digits than the reader converts
are not read back.
-/

namespace DesignTokens

namespace JsonReader

open Json

/-- The closing mark ends a string. -/
theorem stringBody_closing (rest : Text) : stringBody none ('"' :: rest) = .ok ([], rest) := by
  rw [stringBody.eq_def]
  rfl

/-- A one-letter escape yields its code point. -/
theorem stringBody_shortEscape (letter : CodePoint) {escaped : CodePoint}
    (short : shortEscape? letter = some escaped) (rest : Text) :
    stringBody none ('\\' :: letter :: rest) = prepend [escaped] (stringBody none rest) := by
  have other : ¬ letter = 'u' := by
    rintro rfl
    cases short
  rw [stringBody.eq_def]
  simp only [show ¬ CodePoint.ofChar '\\' = '"' by decide, other, short, if_false, if_true]
  rfl

/-- An escape by four digits yields the code point with that number, unless that
is one which a second escape may complete. -/
theorem stringBody_unicodeEscape {first second third fourth next : CodePoint} {others : Text}
    {point : CodePoint} (value : fourDigits? first second third fourth = some point.val)
    (alone : point.isHighSurrogate = false) :
    stringBody none ('\\' :: 'u' :: first :: second :: third :: fourth :: next :: others) =
      prepend [point] (stringBody none (next :: others)) := by
  have same : Fin.ofNat 0x110000 point.val = point := Fin.ofNat_val_eq_self point
  rw [stringBody.eq_def]
  simp only [show ¬ CodePoint.ofChar '\\' = '"' by decide, value, same, alone, if_false, if_true]
  rfl

/-- A code point that needs no escape stands for itself. -/
theorem stringBody_plain {point : CodePoint} (notQuote : ¬ point = '"')
    (notBackslash : ¬ point = '\\') (printable : 0x20 <= point.val) (rest : Text) :
    stringBody none (point :: rest) = prepend [point] (stringBody none rest) := by
  have shown : ¬ point.val <= 0x1F := by omega
  rw [stringBody.eq_def]
  simp only [notQuote, notBackslash, shown, if_false]
  rfl

/-- The four digits that spell a control character spell its number. -/
theorem fourDigits?_hexadecimal {number : Nat} (control : number < 0x20) :
    ∃ first second third fourth, Text.hexadecimal 4 number = [first, second, third, fourth] ∧
      fourDigits? first second third fourth = some number := by
  interval_cases number <;> exact ⟨_, _, _, _, rfl, rfl⟩

/-- Reading the spelling of a code point yields the code point in front of what is
read from the rest, which still holds the closing mark. -/
theorem stringBody_stringPoint (point : CodePoint) {rest : Text} (continues : rest ≠ []) :
    stringBody none (stringPoint point ++ rest) = prepend [point] (stringBody none rest) := by
  unfold stringPoint
  split
  next marked =>
    rcases (by simpa using marked : point = '"' ∨ point = '\\') with rfl | rfl
    · exact stringBody_shortEscape _ rfl rest
    · exact stringBody_shortEscape _ rfl rest
  split
  next newline => exact newline ▸ stringBody_shortEscape 'n' rfl rest
  split
  next carriageReturn => exact carriageReturn ▸ stringBody_shortEscape 'r' rfl rest
  split
  next tabulator => exact tabulator ▸ stringBody_shortEscape 't' rfl rest
  split
  next backspace =>
    have same : point = 0x08 := Fin.ext backspace
    exact same ▸ stringBody_shortEscape 'b' rfl rest
  split
  next formFeed =>
    have same : point = 0x0C := Fin.ext formFeed
    exact same ▸ stringBody_shortEscape 'f' rfl rest
  split
  next control =>
    obtain ⟨first, second, third, fourth, spelled, value⟩ := fourDigits?_hexadecimal control
    obtain ⟨next, others, rfl⟩ := List.exists_cons_of_ne_nil continues
    have alone : point.isHighSurrogate = false := by
      simp only [CodePoint.isHighSurrogate, Bool.and_eq_false_imp, decide_eq_true_eq,
        decide_eq_false_iff_not]
      omega
    rw [spelled]
    exact stringBody_unicodeEscape value alone
  next notMarked _ _ _ _ _ notControl =>
    have plain : ¬ point = '"' ∧ ¬ point = '\\' := by simpa using notMarked
    exact stringBody_plain plain.1 plain.2 (by omega) rest

/-- A string is read back from its spelling up to its closing mark. -/
theorem stringBody_spelling (content rest : Text) :
    stringBody none (content.flatMap stringPoint ++ CodePoint.ofChar '"' :: rest) =
      .ok (content, rest) := by
  induction content with
  | nil => exact stringBody_closing rest
  | cons point others ih =>
      rw [List.flatMap_cons, List.append_assoc, stringBody_stringPoint point (by simp), ih]
      rfl

end JsonReader

namespace Text

/-- The code point of a character has the number of the character. -/
theorem ofChar_val (character : Char) : (CodePoint.ofChar character).val = character.toNat := by
  have bound : character.toNat < 0x110000 := by
    rcases character.valid with low | high
    · exact Nat.lt_trans low (by decide)
    · exact high.2
  exact Nat.mod_eq_of_lt bound

/-- Decimal digits are ASCII digits. -/
theorem isDigit_of_mem_decimal (number : Nat) {point : CodePoint}
    (member : point ∈ decimal number) : point.isDigit = true := by
  obtain ⟨character, present, rfl⟩ := List.mem_map.mp member
  have digit := Nat.isDigit_of_mem_toDigits (by omega) (by omega) present
  simp only [Char.isDigit, Bool.and_eq_true, decide_eq_true_eq] at digit
  simp only [CodePoint.isDigit, ofChar_val, Bool.and_eq_true, decide_eq_true_eq]
  exact digit

/-- There is at least one decimal digit. -/
theorem decimal_ne_nil (number : Nat) : decimal number ≠ [] := by
  simp [decimal]

/-- Decimal digits begin with a digit. -/
theorem decimal_eq_cons (number : Nat) :
    ∃ digit others, decimal number = digit :: others ∧ digit.isDigit = true := by
  obtain ⟨digit, others, shape⟩ := List.exists_cons_of_ne_nil (decimal_ne_nil number)
  exact ⟨digit, others, shape, isDigit_of_mem_decimal number (by simp [shape])⟩

/-- The number of decimal digits is bounded by a power of ten above the number. -/
theorem length_decimal_le_iff {number bound : Nat} (positive : 0 < bound) :
    (decimal number).length <= bound ↔ number < 10 ^ bound := by
  rw [decimal, List.length_map, Nat.length_toDigits_le_iff (by omega) positive]

end Text

namespace JsonReader

/-- Decimal digits spell the number that they were written for. -/
theorem digitsValue_decimal (number : Nat) : digitsValue (Text.decimal number) = number := by
  calc digitsValue (Text.decimal number)
      = Nat.ofDigitChars 10 (Nat.toDigits 10 number) 0 := by
        simp only [digitsValue, Text.decimal, Nat.ofDigitChars, List.foldl_map,
          CodePoint.digitValue, Text.ofChar_val, Nat.mul_comm]
        rfl
    _ = number := Nat.ofDigitChars_ten_toDigits

/-- Only the number zero has decimal digits that begin with a zero. -/
theorem decimal_of_zero_cons {number : Nat} {others : Text}
    (begins : Text.decimal number = CodePoint.ofChar '0' :: others) : number = 0 := by
  induction number using Nat.strongRecOn generalizing others with
  | ind number ih =>
      by_cases small : number < 10
      · have single : others = [] := by
          rw [Text.decimal, Nat.toDigits_of_lt_base small] at begins
          exact (List.cons.inj begins).2.symm
        rw [← digitsValue_decimal number, begins, single]
        rfl
      · rw [Text.decimal, Nat.toDigits_of_base_le (by omega) (by omega), List.map_append] at begins
        obtain ⟨first, more, shape⟩ :=
          List.exists_cons_of_ne_nil (Text.decimal_ne_nil (number / 10))
        have zero := begins
        rw [← Text.decimal, shape] at zero
        have front : Text.decimal (number / 10) = CodePoint.ofChar '0' :: more := by
          rw [shape, (List.cons.inj zero).1]
        have none := ih (number / 10) (by omega) front
        omega

/-- Text that does not go on with a number which stands before it. -/
def endsNumber : Text -> Bool
  | [] => true
  | point :: _ => !(point.isDigit || point = '.' || point = 'e' || point = 'E')

/-- A row of digits is taken as a whole where no digit follows. -/
theorem takeWhile_isDigit {digits rest : Text} (all : ∀ digit ∈ digits, digit.isDigit = true)
    (stops : rest.head?.all (fun point => !point.isDigit) = true) :
    (digits ++ rest).takeWhile CodePoint.isDigit = digits ∧
      (digits ++ rest).dropWhile CodePoint.isDigit = rest := by
  rw [List.takeWhile_append_of_pos all, List.dropWhile_append_of_pos all]
  cases rest with
  | nil => simp
  | cons point others =>
      have other : ¬ point.isDigit = true := by simpa using stops
      simp [other]

/-- The digits of a natural number are read as the whole part of a number. -/
theorem whole_decimal (number : Nat) {rest : Text}
    (stops : rest.head?.all (fun point => !point.isDigit) = true) :
    whole (Text.decimal number ++ rest) = (Text.decimal number, rest) := by
  obtain ⟨digit, others, shape, -⟩ := Text.decimal_eq_cons number
  by_cases zero : digit = '0'
  · subst zero
    have none := decimal_of_zero_cons shape
    subst none
    rfl
  · have taken := takeWhile_isDigit (fun _ => Text.isDigit_of_mem_decimal number) stops
    rw [shape] at taken ⊢
    simp only [List.cons_append] at taken ⊢
    simp only [whole, zero, taken, if_false]

/-- Where a number ends there is neither a fraction nor a power of ten. -/
theorem fraction_power_of_endsNumber {rest : Text} (ends : endsNumber rest = true) :
    fraction rest = (none, rest) ∧ power rest = (none, rest) := by
  cases rest with
  | nil => exact ⟨rfl, rfl⟩
  | cons point others =>
      have other : ((point.isDigit = false ∧ ¬ point = '.') ∧ ¬ point = 'e') ∧ ¬ point = 'E' := by
        simpa [endsNumber] using ends
      simp [fraction, power, other]

/-- An integer is the number of its digits with its sign. -/
theorem signed_natAbs (value : Int) :
    (if decide (value < 0) = true then -(value.natAbs : Int) else value.natAbs) = value := by
  simp only [decide_eq_true_eq]
  split <;> omega

/-- The spelling of an integer is its digits, behind a minus when it is negative. -/
theorem integerSpelling_eq (value : Int) :
    Json.integerSpelling value =
      (if value < 0 then [CodePoint.ofChar '-'] else []) ++ Text.decimal value.natAbs := by
  unfold Json.integerSpelling
  split <;> rfl

/-- A digit is none of the marks that are not digits. -/
theorem ne_of_isDigit {digit mark : CodePoint} (isDigit : digit.isDigit = true)
    (other : mark.isDigit = false) : ¬ digit = mark := by
  rintro rfl
  rw [isDigit] at other
  cases other

/-- The sign of a power of ten is read off the spelling of an integer. -/
theorem sign_integerSpelling (value : Int) (rest : Text) :
    sign (Json.integerSpelling value ++ rest) =
      (decide (value < 0), Text.decimal value.natAbs ++ rest) := by
  rw [integerSpelling_eq]
  by_cases negative : value < 0
  · simp only [negative, if_true, decide_true]
    rfl
  · obtain ⟨digit, others, shape, isDigit⟩ := Text.decimal_eq_cons value.natAbs
    have minus := ne_of_isDigit isDigit (show (CodePoint.ofChar '-').isDigit = false from rfl)
    have plus := ne_of_isDigit isDigit (show (CodePoint.ofChar '+').isDigit = false from rfl)
    simp [negative, shape, sign, minus, plus]

/-- The power of ten after its letter is the integer that is spelled there. -/
theorem power_integerSpelling (value : Int) {rest : Text}
    (stops : rest.head?.all (fun point => !point.isDigit) = true) :
    power (CodePoint.ofChar 'e' :: Json.integerSpelling value ++ rest) = (some value, rest) := by
  have taken := takeWhile_isDigit
    (fun _ => Text.isDigit_of_mem_decimal value.natAbs) stops
  have present := Text.decimal_ne_nil value.natAbs
  simp only [power, List.cons_append, sign_integerSpelling, taken, digitsValue_decimal,
    signed_natAbs]
  simp [present]

/-- Reading a number that begins with the spelling of an integer goes on with the
fraction and the power of ten after it. -/
theorem number_integerSpelling (value : Int) {rest : Text}
    (stops : rest.head?.all (fun point => !point.isDigit) = true) :
    number (Json.integerSpelling value ++ rest) =
      (numberOf (decide (value < 0)) (Text.decimal value.natAbs) (fraction rest).1
        (power (fraction rest).2).1).map fun result => (result, (power (fraction rest).2).2) := by
  have digits := whole_decimal value.natAbs stops
  have present : (Text.decimal value.natAbs).isEmpty = false := by
    simpa using Text.decimal_ne_nil value.natAbs
  rw [integerSpelling_eq]
  by_cases negative : value < 0
  · simp only [negative, if_true, decide_true, number, List.cons_append, List.nil_append, digits,
      present]
    cases numberOf true (Text.decimal value.natAbs) (fraction rest).1 (power (fraction rest).2).1 <;>
      rfl
  · obtain ⟨digit, others, shape, isDigit⟩ := Text.decimal_eq_cons value.natAbs
    have minus := ne_of_isDigit isDigit (show (CodePoint.ofChar '-').isDigit = false from rfl)
    rw [shape] at digits present ⊢
    simp only [List.cons_append] at digits
    simp only [negative, if_false, decide_false, number, List.cons_append, List.nil_append, minus,
      digits, present]
    cases numberOf false (digit :: others) (fraction rest).1 (power (fraction rest).2).1 <;> rfl

/-- The numbers that the reader converts: all but integers of too many digits. -/
def converts : JsonNumber -> Prop
  | .integer value => value.natAbs < 10 ^ digitLimit
  | _ => True

/-- A text that ends a number does not go on with a digit. -/
theorem head?_of_endsNumber {rest : Text} (ends : endsNumber rest = true) :
    rest.head?.all (fun point => !point.isDigit) = true := by
  cases rest with
  | nil => rfl
  | cons point others =>
      have other : ((point.isDigit = false ∧ ¬ point = '.') ∧ ¬ point = 'e') ∧ ¬ point = 'E' := by
        simpa [endsNumber] using ends
      simp [other]

/-- An integer within the limit is read back from its spelling. -/
theorem number_integer {value : Int} (within : value.natAbs < 10 ^ digitLimit) {rest : Text}
    (ends : endsNumber rest = true) :
    number (Json.integerSpelling value ++ rest) = .ok (.integer value, rest) := by
  have last := fraction_power_of_endsNumber ends
  have short : ¬ digitLimit < (Text.decimal value.natAbs).length :=
    Nat.not_lt.mpr ((Text.length_decimal_le_iff (by decide)).mpr within)
  rw [number_integerSpelling value (head?_of_endsNumber ends), last.1, last.2]
  simp only [numberOf, short, if_false, digitsValue_decimal, signed_natAbs]
  rfl

/-- A coefficient with a power of ten is read back from its spelling. -/
theorem number_decimal (coefficient exponent : Int) {rest : Text}
    (ends : endsNumber rest = true) :
    number (Json.numberSpelling (.decimal coefficient exponent) ++ rest) =
      .ok (.decimal coefficient exponent, rest) := by
  have spelled : Json.numberSpelling (.decimal coefficient exponent) ++ rest =
      Json.integerSpelling coefficient ++
        (CodePoint.ofChar 'e' :: Json.integerSpelling exponent ++ rest) := by
    simp only [Json.numberSpelling, List.append_assoc]
    rfl
  have letter : fraction (CodePoint.ofChar 'e' :: Json.integerSpelling exponent ++ rest) =
      (none, CodePoint.ofChar 'e' :: Json.integerSpelling exponent ++ rest) := rfl
  rw [spelled, number_integerSpelling coefficient rfl, letter,
    power_integerSpelling exponent (head?_of_endsNumber ends)]
  simp only [numberOf, Option.getD_none, Option.getD_some, List.append_nil, digitsValue_decimal,
    signed_natAbs, List.length_nil, Int.natCast_zero, Int.sub_zero]
  rfl

/-- The first two letters of a word are no digits. -/
theorem word_eq_cons {word : Text × Json} (member : word ∈ words) :
    ∃ first second others, word.1 = first :: second :: others ∧
      first.isDigit = false ∧ second.isDigit = false := by
  simp only [words, List.mem_cons, List.not_mem_nil, or_false] at member
  rcases member with rfl | rfl | rfl | rfl | rfl | rfl <;> exact ⟨_, _, _, rfl, rfl, rfl⟩

/-- A text that begins like a number is read as a number, because no word begins so. -/
theorem scalar_integerSpelling (value : Int) (rest : Text) :
    scalar (Json.integerSpelling value ++ rest) =
      (number (Json.integerSpelling value ++ rest)).map
        fun result => (.number result.1, result.2) := by
  have absent : (words.find? fun word =>
      word.1.isPrefixOf (Json.integerSpelling value ++ rest)) = none := by
    rw [List.find?_eq_none]
    intro word member
    obtain ⟨first, second, letters, word_eq, firstOther, secondOther⟩ := word_eq_cons member
    obtain ⟨digit, others, shape, isDigit⟩ := Text.decimal_eq_cons value.natAbs
    have firstDiffers : ¬ first = digit :=
      fun same => ne_of_isDigit isDigit firstOther same.symm
    have secondDiffers : ¬ second = digit :=
      fun same => ne_of_isDigit isDigit secondOther same.symm
    rw [integerSpelling_eq, word_eq, shape]
    by_cases negative : value < 0 <;>
      simp [negative, List.isPrefixOf, firstDiffers, secondDiffers]
  simp only [scalar, absent]

/-- Every number that the reader converts is read back from its spelling. -/
theorem scalar_numberSpelling {value : JsonNumber} (converted : converts value) {rest : Text}
    (ends : endsNumber rest = true) :
    scalar (Json.numberSpelling value ++ rest) = .ok (.number value, rest) := by
  cases value with
  | integer value =>
      rw [Json.numberSpelling, scalar_integerSpelling, number_integer converted ends]
      rfl
  | decimal coefficient exponent =>
      have read := number_decimal coefficient exponent ends
      simp only [Json.numberSpelling, List.append_assoc] at read ⊢
      rw [scalar_integerSpelling, read]
      rfl
  | notANumber => rfl
  | infinite negative => cases negative <;> rfl

end JsonReader

end DesignTokens
