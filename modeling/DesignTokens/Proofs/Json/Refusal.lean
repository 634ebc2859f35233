import DesignTokens.Json.Reader

/-!
# Integers that are not converted

The reader gives up on an integer with more digits than it converts. It does so only
where the text has that many digits in a row, since whatever a step of the reader
leaves to be read is an end of the text.
-/

namespace DesignTokens

/-- A text has so many digits in a row. -/
def Text.HasDigits (digits : Nat) (content : Text) : Prop :=
  ∃ row, row <:+: content ∧ (∀ point ∈ row, point.isDigit = true) ∧ row.length = digits

namespace JsonReader

variable {Value Next : Type}

/-- A step leaves an end of a text to be read. It gives up on an integer only where the
text has its digits in a row, which are more than are converted. -/
def StaysIn (content : Text) : Reading (Value × Text) -> Prop
  | .ok result => result.2 <:+ content
  | .error (.malformed _) => True
  | .error (.integerTooLong digits) => digitLimit < digits ∧ content.HasDigits digits

/-- What stays in an end of a text stays in the text. -/
theorem StaysIn.of_suffix {rest content : Text} {step : Reading (Value × Text)}
    (stays : StaysIn rest step) (within : rest <:+ content) : StaysIn content step := by
  match step, stays with
  | .ok result, stays => exact List.IsSuffix.trans stays within
  | .error (.malformed _), _ => trivial
  | .error (.integerTooLong digits), ⟨long, row, inside, rest⟩ =>
      exact ⟨long, row, inside.trans within.isInfix, rest⟩

/-- A step that goes on in what it leaves stays in the text. -/
theorem StaysIn.bind {content : Text} {step : Reading (Value × Text)}
    {next : Value × Text -> Reading (Next × Text)} (first : StaysIn content step)
    (second : ∀ result, result.2 <:+ content → StaysIn content (next result)) :
    StaysIn content (step >>= next) := by
  match step, first with
  | .ok result, first => exact second result first
  | .error (.malformed _), _ => trivial
  | .error (.integerTooLong digits), first => exact first

/-- A step whose value is changed leaves what it left. -/
theorem StaysIn.map {content : Text} {step : Reading (Value × Text)}
    {next : Value × Text -> Next × Text} (first : StaysIn content step)
    (kept : ∀ result, (next result).2 = result.2) : StaysIn content (step.map next) := by
  match step, first with
  | .ok result, first =>
      show (next result).2 <:+ content
      rw [kept]
      exact first
  | .error (.malformed _), _ => trivial
  | .error (.integerTooLong digits), first => exact first

/-- A mark leaves what follows it. -/
theorem staysIn_expect {mark : CodePoint} {fault : JsonFault} {content other : Text}
    {next : Text -> Reading (Value × Text)} (within : other <:+ content)
    (goesOn : ∀ rest, rest <:+ content → StaysIn content (next rest)) :
    StaysIn content (expect mark fault other >>= next) := by
  cases other with
  | nil => trivial
  | cons point rest =>
      rw [expect]
      split
      · exact goesOn rest ((List.suffix_cons point rest).trans within)
      · trivial

/-- Blanks leave an end of the text. -/
theorem skipBlanks_suffix (content : Text) : skipBlanks content <:+ content :=
  List.dropWhile_suffix isBlank

/-- Putting text in front of what is read leaves what was left. -/
theorem StaysIn.prepend {content : Text} {step : Reading (Text × Text)} (start : Text)
    (stays : StaysIn content step) : StaysIn content (JsonReader.prepend start step) :=
  stays.map fun _ => rfl

/-- A string stays in its text. -/
theorem staysIn_stringBody (held : Option CodePoint) (content : Text) :
    StaysIn content (stringBody held content) := by
  -- After an escape with four digits the string goes on six code points further.
  have escaped (first second third fourth next : CodePoint) (others : Text) :
      next :: others <:+ '\\' :: 'u' :: first :: second :: third :: fourth :: next :: others :=
    ⟨['\\', 'u', first, second, third, fourth], rfl⟩
  fun_induction stringBody held content with
  | case1 | case3 | case4 | case10 | case12 | case13 => trivial
  | case2 held rest => exact List.suffix_cons _ rest
  | case5 first second third fourth next others number _ _ high _ _ ih =>
      exact (ih.prepend _).of_suffix (escaped first second third fourth next others)
  | case6 first second third fourth next others number _ _ high _ _ _ ih =>
      exact (ih.prepend _).of_suffix (escaped first second third fourth next others)
  | case7 first second third fourth next others number _ _ high _ _ _ ih =>
      exact (ih.prepend _).of_suffix (escaped first second third fourth next others)
  | case8 first second third fourth next others number _ _ _ _ ih =>
      exact ih.of_suffix (escaped first second third fourth next others)
  | case9 first second third fourth next others number _ _ _ _ ih =>
      exact (ih.prepend _).of_suffix (escaped first second third fourth next others)
  | case11 held letter rest _ point _ _ ih =>
      exact (ih.prepend _).of_suffix ⟨['\\', letter], rfl⟩
  | case14 held point rest _ _ _ ih =>
      exact (ih.prepend _).of_suffix (List.suffix_cons point rest)

/-- The digits before a decimal point are digits in a row at the start of a text. -/
theorem whole_spec (content : Text) :
    (whole content).1 ++ (whole content).2 = content ∧
      ∀ digit ∈ (whole content).1, digit.isDigit = true := by
  cases content with
  | nil => exact ⟨rfl, nofun⟩
  | cons digit rest =>
      rw [whole]
      split
      next zero =>
        refine ⟨rfl, fun other member => ?_⟩
        rw [List.mem_singleton.mp member, zero]
        rfl
      next =>
        refine ⟨List.takeWhile_append_dropWhile, fun other member => ?_⟩
        exact List.all_eq_true.mp List.all_takeWhile other member

/-- A fraction leaves an end of the text. -/
theorem fraction_suffix (content : Text) : (fraction content).2 <:+ content := by
  cases content with
  | nil => exact List.suffix_rfl
  | cons point rest =>
      rw [fraction]
      split
      · exact (List.dropWhile_suffix _).trans (List.suffix_cons point rest)
      · exact List.suffix_rfl

/-- A sign leaves an end of the text. -/
theorem sign_suffix (content : Text) : (sign content).2 <:+ content := by
  cases content with
  | nil => exact List.suffix_rfl
  | cons point rest =>
      rw [sign]
      split
      · exact List.suffix_cons point rest
      · split
        · exact List.suffix_cons point rest
        · exact List.suffix_rfl

/-- A power of ten leaves an end of the text. -/
theorem power_suffix (content : Text) : (power content).2 <:+ content := by
  cases content with
  | nil => exact List.suffix_rfl
  | cons letter rest =>
      simp only [power]
      split
      · have digits := List.dropWhile_suffix CodePoint.isDigit (l := (sign rest).2)
        exact digits.trans ((sign_suffix rest).trans (List.suffix_cons letter rest))
      · exact List.suffix_rfl

/-- A number whose digits are in a row in a text stays in the text. -/
theorem staysIn_numberOf {content rest digits : Text} (negative : Bool) (decimals : Option Text)
    (exponent : Option Int) (row : digits <:+: content)
    (isDigits : ∀ digit ∈ digits, digit.isDigit = true) (within : rest <:+ content) :
    StaysIn content (numberOf negative digits decimals exponent >>= fun value =>
      .ok (value, rest)) := by
  unfold numberOf
  split
  · split
    next long => exact ⟨long, digits, row, isDigits, rfl⟩
    next => exact within
  · exact within

/-- A number stays in its text. -/
theorem staysIn_number (content : Text) : StaysIn content (number content) := by
  unfold number
  split
  next negative unsigned shape =>
    have within : unsigned <:+ content := by
      split at shape
      · split at shape <;> cases shape
        · exact List.suffix_cons _ _
        · exact List.suffix_rfl
      · cases shape
        exact List.suffix_rfl
    obtain ⟨whole, isDigits⟩ := whole_spec unsigned
    dsimp only
    split
    · trivial
    · have behind : (JsonReader.whole unsigned).2 <:+ unsigned := ⟨_, whole⟩
      have row : (JsonReader.whole unsigned).1 <:+: unsigned := ⟨[], _, by simpa using whole⟩
      refine staysIn_numberOf negative _ _ (row.trans within.isInfix) isDigits ?_
      exact (power_suffix _).trans ((fraction_suffix _).trans (behind.trans within))

/-- Words and numbers stay in their text. -/
theorem staysIn_scalar (content : Text) : StaysIn content (scalar content) := by
  unfold scalar
  split
  next word _ => exact List.drop_suffix word.1.length content
  next => exact (staysIn_number content).map fun _ => rfl

/-- With any bound, what is read stays in the text. -/
structure StaysWithin (bound : Nat) : Prop where
  value : ∀ content, StaysIn content (value bound content)
  members : ∀ earlier content, StaysIn content (members bound earlier content)
  items : ∀ earlier content, StaysIn content (items bound earlier content)

/-- The members of an object stay in its text. -/
theorem staysIn_members {bound : Nat} (stays : StaysWithin bound)
    (earlier : List (Text × Json)) (content : Text) :
    StaysIn content (members (bound + 1) earlier content) := by
  rw [members]
  refine staysIn_expect List.suffix_rfl fun afterMark within => ?_
  refine ((staysIn_stringBody none afterMark).of_suffix within).bind fun name within => ?_
  refine staysIn_expect ((skipBlanks_suffix _).trans within) fun afterColon within => ?_
  refine ((stays.value _).of_suffix ((skipBlanks_suffix _).trans within)).bind
    fun document within => ?_
  have behind : skipBlanks document.2 <:+ content := (skipBlanks_suffix _).trans within
  dsimp only
  split
  · exact (List.tail_suffix _).trans behind
  · refine staysIn_expect behind fun rest within => ?_
    exact (stays.members _ _).of_suffix ((skipBlanks_suffix rest).trans within)

/-- The items of an array stay in its text. -/
theorem staysIn_items {bound : Nat} (stays : StaysWithin bound) (earlier : List Json)
    (content : Text) : StaysIn content (items (bound + 1) earlier content) := by
  rw [items]
  refine (stays.value content).bind fun document within => ?_
  have behind : skipBlanks document.2 <:+ content := (skipBlanks_suffix _).trans within
  dsimp only
  split
  · exact (List.tail_suffix _).trans behind
  · refine staysIn_expect behind fun rest within => ?_
    exact (stays.items _ _).of_suffix ((skipBlanks_suffix rest).trans within)

/-- A value stays in its text. -/
theorem staysIn_value {bound : Nat} (stays : StaysWithin bound) (content : Text) :
    StaysIn content (value (bound + 1) content) := by
  rw [value.eq_def]
  dsimp only
  split
  · trivial
  next point rest =>
    have inner : skipBlanks rest <:+ point :: rest :=
      (skipBlanks_suffix rest).trans (List.suffix_cons point rest)
    split
    · have spelled := (staysIn_stringBody none rest).of_suffix (List.suffix_cons point rest)
      exact spelled.map fun _ => rfl
    split
    · split
      · exact (List.tail_suffix _).trans inner
      · exact (stays.members _ _).of_suffix inner
    split
    · split
      · exact (List.tail_suffix _).trans inner
      · exact (stays.items _ _).of_suffix inner
    · exact staysIn_scalar (point :: rest)

/-- What is read stays in the text with any bound. -/
theorem staysWithin (bound : Nat) : StaysWithin bound := by
  induction bound with
  | zero => exact ⟨fun _ => trivial, fun _ _ => trivial, fun _ _ => trivial⟩
  | succ bound ih => exact ⟨staysIn_value ih, staysIn_members ih, staysIn_items ih⟩

end JsonReader

/-- A text that is refused for an integer has the digits of the integer in a row, and
they are more than are converted. -/
theorem Json.hasDigits_of_read {content : Text} {digits : Nat}
    (refused : Json.read content = .error (.integerTooLong digits)) :
    JsonReader.digitLimit < digits ∧ content.HasDigits digits := by
  rw [Json.read] at refused
  split at refused
  · cases refused
  · have inner := JsonReader.skipBlanks_suffix content
    have stays := ((JsonReader.staysWithin (content.length + 1)).value _).of_suffix inner
    cases read : JsonReader.value (content.length + 1) (JsonReader.skipBlanks content) with
    | error refusal =>
        rw [read] at refused stays
        obtain rfl : refusal = .integerTooLong digits := Except.error.inj refused
        exact stays
    | ok result =>
        rw [read] at refused
        replace refused : (if (JsonReader.skipBlanks result.2).isEmpty then .ok result.1
          else JsonReader.refuse .extraData) = .error (.integerTooLong digits) := refused
        split at refused <;> cases refused

end DesignTokens
