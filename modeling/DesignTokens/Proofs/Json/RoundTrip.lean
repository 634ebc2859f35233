import DesignTokens.Proofs.Json.Members
import DesignTokens.Proofs.Json.Spelling
import Mathlib.Data.List.TakeWhile

/-!
# Reading documents back

A printed document is read as that document, provided that no object in it
repeats a name and the reader converts every number in it. Layout plays no part:
blanks are skipped wherever the printer puts them, and the bound on the depth of
the calls is never reached.
-/

namespace DesignTokens

namespace JsonReader

open Json

/-- A new line is skipped together with the blanks after it. -/
theorem skipBlanks_breakLine (depth : Nat) (content : Text) :
    skipBlanks (breakLine depth ++ content) = skipBlanks content := by
  have blank : ∀ point ∈ breakLine depth, isBlank point = true := by
    intro point member
    have either : point = '\n' ∨ point = ' ' := by
      rcases List.mem_append.mp member with first | later
      · exact .inl (List.mem_singleton.mp first)
      · exact .inr (List.eq_of_mem_replicate later)
    rcases either with rfl | rfl <;> rfl
  rw [skipBlanks, List.dropWhile_append_of_pos blank]
  rfl

/-- Nothing is skipped in front of a code point that is no blank. -/
theorem skipBlanks_cons {point : CodePoint} (other : isBlank point = false) (rest : Text) :
    skipBlanks (point :: rest) = point :: rest := by
  simp [skipBlanks, other]

/-- What a word or a number begins with is no blank, no mark and no byte order mark. -/
def opensScalar (point : CodePoint) : Bool :=
  !isBlank point && point ≠ ']' && point ≠ '"' && point ≠ '{' && point ≠ '[' && point ≠ 0xFEFF

/-- A digit opens a number. -/
theorem opensScalar_of_isDigit {digit : CodePoint} (isDigit : digit.isDigit = true) :
    opensScalar digit = true := by
  have each : ∀ value < 10, opensScalar (Fin.ofNat 0x110000 (0x30 + value)) = true := by decide
  simp only [CodePoint.isDigit, Bool.and_eq_true, decide_eq_true_eq] at isDigit
  have same : Fin.ofNat 0x110000 (0x30 + (digit.val - 0x30)) = digit := by
    rw [Nat.add_sub_of_le isDigit.1]
    exact Fin.ofNat_val_eq_self digit
  exact same ▸ each (digit.val - 0x30) (by omega)

/-- The spelling of an integer begins with its sign or its first digit. -/
theorem integerSpelling_eq_cons (value : Int) :
    ∃ point others, integerSpelling value = point :: others ∧ opensScalar point = true := by
  obtain ⟨digit, others, shape, isDigit⟩ := Text.decimal_eq_cons value.natAbs
  rw [integerSpelling_eq]
  by_cases negative : value < 0
  · exact ⟨'-', Text.decimal value.natAbs, by simp [negative], rfl⟩
  · exact ⟨digit, others, by simp [negative, shape], opensScalar_of_isDigit isDigit⟩

/-- The spelling of a number begins like that of a word or a number. -/
theorem numberSpelling_eq_cons (value : JsonNumber) :
    ∃ point others, numberSpelling value = point :: others ∧ opensScalar point = true := by
  cases value with
  | integer value => exact integerSpelling_eq_cons value
  | decimal coefficient exponent =>
      obtain ⟨point, others, shape, opens⟩ := integerSpelling_eq_cons coefficient
      exact ⟨point, others ++ text "e" ++ integerSpelling exponent,
        by simp [numberSpelling, shape], opens⟩
  | notANumber => exact ⟨_, _, rfl, rfl⟩
  | infinite negative => cases negative <;> exact ⟨_, _, rfl, rfl⟩

/-- A printed document begins neither with a blank nor with a closing bracket, nor
with a byte order mark. -/
theorem printAt_eq_cons (depth : Nat) (document : Json) :
    ∃ point others, printAt depth document = point :: others ∧ isBlank point = false ∧
      ¬ point = ']' ∧ ¬ point = 0xFEFF := by
  cases document with
  | null => exact ⟨_, _, rfl, rfl, by decide, by decide⟩
  | boolean value => cases value <;> exact ⟨_, _, rfl, rfl, by decide, by decide⟩
  | number value =>
      obtain ⟨point, others, shape, opens⟩ := numberSpelling_eq_cons value
      simp [opensScalar] at opens
      exact ⟨point, others, shape, by simp [opens], by simp [opens], by simp [opens]⟩
  | string value => exact ⟨_, _, rfl, rfl, by decide, by decide⟩
  | array items => cases items <;> exact ⟨_, _, rfl, rfl, by decide, by decide⟩
  | object members => cases members <;> exact ⟨_, _, rfl, rfl, by decide, by decide⟩

/-- What opens a word or a number is read as one. -/
theorem value_of_opensScalar (bound : Nat) {point : CodePoint} (opens : opensScalar point = true)
    (rest : Text) : value (bound + 1) (point :: rest) = scalar (point :: rest) := by
  simp [opensScalar] at opens
  simp [value, opens]

/-- A string is read back from its spelling. -/
theorem value_stringSpelling (bound : Nat) (content rest : Text) :
    value (bound + 1) (stringSpelling content ++ rest) = .ok (.string content, rest) := by
  have spelled : stringSpelling content ++ rest =
      CodePoint.ofChar '"' :: (content.flatMap stringPoint ++ CodePoint.ofChar '"' :: rest) := by
    simp only [stringSpelling, List.append_assoc]
    rfl
  simp only [spelled, value, if_true, stringBody_spelling]
  rfl

/-- The blanks in front of a printed document are all there is to skip. -/
theorem skipBlanks_printAt (depth outer : Nat) (document : Json) (rest : Text) :
    skipBlanks (breakLine outer ++ (printAt depth document ++ rest)) =
      printAt depth document ++ rest := by
  obtain ⟨point, others, shape, other, -, -⟩ := printAt_eq_cons depth document
  rw [skipBlanks_breakLine, shape]
  exact skipBlanks_cons other (others ++ rest)

/-- An item with the closing bracket on the next line is the last one. -/
theorem items_last {bound outer : Nat} {earlier : List Json} {content rest : Text}
    {document : Json}
    (read : value bound content = .ok (document, breakLine outer ++ (text "]" ++ rest))) :
    items (bound + 1) earlier content = .ok (.array (earlier ++ [document]), rest) := by
  have closing : skipBlanks (breakLine outer ++ (text "]" ++ rest)) =
      CodePoint.ofChar ']' :: rest := by
    rw [skipBlanks_breakLine]
    rfl
  simp only [items, read, bind, Except.bind, closing]
  rfl

/-- Behind an item with a comma the next item is read. -/
theorem items_next {bound : Nat} {earlier : List Json} {content after : Text} {document : Json}
    (read : value bound content = .ok (document, text "," ++ after)) :
    items (bound + 1) earlier content = items bound (earlier ++ [document]) (skipBlanks after) := by
  simp only [items, read]
  rfl

/-- Before the value of a member its name and a colon are read. -/
theorem members_spelling (bound : Nat) (earlier : List (Text × Json)) (name content : Text) :
    members (bound + 1) earlier (stringSpelling name ++ (text ": " ++ content)) = (do
      let (document, afterValue) <- value bound (skipBlanks content)
      let all := putEntry name document earlier
      let next := skipBlanks afterValue
      if startsWith '}' next then .ok (.object all, next.tail)
      else
        let rest <- expect ',' .expectingComma next
        members bound all (skipBlanks rest)) := by
  have spelled : stringSpelling name ++ (text ": " ++ content) =
      CodePoint.ofChar '"' :: (name.flatMap stringPoint ++
        CodePoint.ofChar '"' :: CodePoint.ofChar ':' :: CodePoint.ofChar ' ' :: content) := by
    simp only [stringSpelling, List.append_assoc]
    rfl
  have colon : skipBlanks (CodePoint.ofChar ':' :: CodePoint.ofChar ' ' :: content) =
      CodePoint.ofChar ':' :: CodePoint.ofChar ' ' :: content := rfl
  have blank : skipBlanks (CodePoint.ofChar ' ' :: content) = skipBlanks content := rfl
  simp only [spelled, members, expect, if_true]
  simp only [bind, Except.bind, stringBody_spelling, colon, blank, if_true]

/-- A member with the closing brace on the next line is the last one. -/
theorem members_last {bound outer : Nat} {earlier : List (Text × Json)} {name content rest : Text}
    {document : Json} (read : value bound (skipBlanks content) =
      .ok (document, breakLine outer ++ (text "\x7d" ++ rest))) :
    members (bound + 1) earlier (stringSpelling name ++ (text ": " ++ content)) =
      .ok (.object (putEntry name document earlier), rest) := by
  have closing : skipBlanks (breakLine outer ++ (text "\x7d" ++ rest)) =
      CodePoint.ofChar '}' :: rest := by
    rw [skipBlanks_breakLine]
    rfl
  simp only [members_spelling, read, bind, Except.bind, closing]
  rfl

/-- Behind a member with a comma the next member is read. -/
theorem members_next {bound : Nat} {earlier : List (Text × Json)} {name content after : Text}
    {document : Json}
    (read : value bound (skipBlanks content) = .ok (document, text "," ++ after)) :
    members (bound + 1) earlier (stringSpelling name ++ (text ": " ++ content)) =
      members bound (putEntry name document earlier) (skipBlanks after) := by
  simp only [members_spelling, read]
  rfl

/-- With a bound, every document whose print is not longer is read back. -/
def ReadsValues (bound : Nat) : Prop :=
  ∀ (document : Json) (depth : Nat) (rest : Text), document.WellFormed converts →
    (printAt depth document).length <= bound → endsNumber rest = true →
    value bound (printAt depth document ++ rest) = .ok (document, rest)

/-- With a bound, all items whose print is not longer are read back behind earlier
ones, up to the closing bracket. -/
def ReadsItems (bound : Nat) : Prop :=
  ∀ (list earlier : List Json) (depth outer : Nat) (rest : Text), list ≠ [] →
    (∀ item ∈ list, item.WellFormed converts) → (printItems depth list).length <= bound →
    items bound earlier
        (skipBlanks (printItems depth list ++ (breakLine outer ++ (text "]" ++ rest)))) =
      .ok (.array (earlier ++ list), rest)

/-- With a bound, all members whose print is not longer are read back behind earlier
ones with other names, up to the closing brace. -/
def ReadsMembers (bound : Nat) : Prop :=
  ∀ (list earlier : List (Text × Json)) (depth outer : Nat) (rest : Text), list ≠ [] →
    ((earlier ++ list).map Prod.fst).Nodup → (∀ entry ∈ list, entry.2.WellFormed converts) →
    (printMembers depth list).length <= bound →
    members bound earlier
        (skipBlanks (printMembers depth list ++ (breakLine outer ++ (text "\x7d" ++ rest)))) =
      .ok (.object (earlier ++ list), rest)

/-- A new line takes room. -/
theorem length_breakLine (depth : Nat) : (breakLine depth).length = 2 * depth + 1 := by
  simp [breakLine, text]

/-- Items are read with one call more than their values and the items behind them. -/
theorem readsItems_succ {bound : Nat} (values : ReadsValues bound) (others : ReadsItems bound) :
    ReadsItems (bound + 1) := by
  intro list earlier depth outer rest present each room
  match list with
  | [] => exact absurd rfl present
  | [item] =>
      simp only [printItems, List.length_append, length_breakLine] at room
      have read := values item depth (breakLine outer ++ (text "]" ++ rest))
        (each item (by simp)) (by omega) rfl
      rw [printItems, List.append_assoc, skipBlanks_printAt]
      exact items_last read
  | item :: next :: list =>
      simp only [printItems, List.length_append, length_breakLine] at room
      have read := values item depth (text "," ++ (printItems depth (next :: list) ++
        (breakLine outer ++ (text "]" ++ rest)))) (each item (by simp)) (by omega) rfl
      have behind := others (next :: list) (earlier ++ [item]) depth outer rest (by simp)
        (fun later member => each later (List.mem_cons_of_mem item member)) (by omega)
      simp only [printItems, List.append_assoc]
      rw [skipBlanks_printAt, items_next read, behind]
      simp

/-- The value of a member stands one blank behind its colon. -/
theorem skipBlanks_printAt_self (depth : Nat) (document : Json) (rest : Text) :
    skipBlanks (printAt depth document ++ rest) = printAt depth document ++ rest := by
  obtain ⟨point, others, shape, other, -, -⟩ := printAt_eq_cons depth document
  rw [shape]
  exact skipBlanks_cons other (others ++ rest)

/-- The blanks in front of a member are all there is to skip. -/
theorem skipBlanks_stringSpelling (outer : Nat) (name rest : Text) :
    skipBlanks (breakLine outer ++ (stringSpelling name ++ rest)) =
      stringSpelling name ++ rest := by
  rw [skipBlanks_breakLine]
  rfl

/-- Members are read with one call more than their values and the members behind them. -/
theorem readsMembers_succ {bound : Nat} (values : ReadsValues bound)
    (others : ReadsMembers bound) : ReadsMembers (bound + 1) := by
  intro list earlier depth outer rest present distinct each room
  have absent : ∀ {name document behind}, list = (name, document) :: behind →
      name ∉ earlier.map Prod.fst := by
    rintro name document behind rfl repeated
    rw [List.map_append, List.nodup_append] at distinct
    exact distinct.2.2 name repeated name (by simp) rfl
  match list with
  | [] => exact absurd rfl present
  | [(name, document)] =>
      simp only [printMembers, List.length_append, length_breakLine] at room
      have read := values document depth (breakLine outer ++ (text "\x7d" ++ rest))
        (each (name, document) (by simp)) (by omega) rfl
      simp only [printMembers, List.append_assoc]
      rw [skipBlanks_stringSpelling, members_last (by rw [skipBlanks_printAt_self, read]),
        putEntry_of_not_mem (absent rfl)]
  | (name, document) :: next :: list =>
      simp only [printMembers, List.length_append, length_breakLine] at room
      have read := values document depth (text "," ++ (printMembers depth (next :: list) ++
        (breakLine outer ++ (text "\x7d" ++ rest)))) (each (name, document) (by simp)) (by omega)
        rfl
      have behind := others (next :: list) (earlier ++ [(name, document)]) depth outer rest
        (by simp) (by simpa using distinct)
        (fun later member => each later (List.mem_cons_of_mem _ member)) (by omega)
      simp only [printMembers, List.append_assoc]
      rw [skipBlanks_stringSpelling, members_next (by rw [skipBlanks_printAt_self, read]),
        putEntry_of_not_mem (absent rfl), behind]
      simp

/-- Items do not begin like the end of an array. -/
theorem startsWith_printItems (depth : Nat) (item : Json) (others : List Json) (rest : Text) :
    startsWith ']' (skipBlanks (printItems depth (item :: others) ++ rest)) = false := by
  obtain ⟨point, letters, shape, -, notClosing, -⟩ := printAt_eq_cons depth item
  cases others with
  | nil =>
      rw [printItems, List.append_assoc, skipBlanks_printAt, shape]
      simpa [startsWith] using notClosing
  | cons next others =>
      simp only [printItems, List.append_assoc]
      rw [skipBlanks_printAt, shape]
      simpa [startsWith] using notClosing

/-- Members do not begin like the end of an object. -/
theorem startsWith_printMembers (depth : Nat) (entry : Text × Json)
    (others : List (Text × Json)) (rest : Text) :
    startsWith '}' (skipBlanks (printMembers depth (entry :: others) ++ rest)) = false := by
  cases others with
  | nil =>
      simp only [printMembers, List.append_assoc]
      rw [skipBlanks_stringSpelling]
      rfl
  | cons next others =>
      simp only [printMembers, List.append_assoc]
      rw [skipBlanks_stringSpelling]
      rfl

/-- Behind its opening bracket an array goes on with its items. -/
theorem value_openingBracket {bound : Nat} {content : Text}
    (present : startsWith ']' (skipBlanks content) = false) :
    value (bound + 1) (text "[" ++ content) = items bound [] (skipBlanks content) := by
  rw [show text "[" ++ content = CodePoint.ofChar '[' :: content from rfl, value]
  simp only [present]
  rfl

/-- Behind its opening brace an object goes on with its members. -/
theorem value_openingBrace {bound : Nat} {content : Text}
    (present : startsWith '}' (skipBlanks content) = false) :
    value (bound + 1) (text "\x7b" ++ content) = members bound [] (skipBlanks content) := by
  rw [show text "\x7b" ++ content = CodePoint.ofChar '{' :: content from rfl, value]
  simp only [present]
  rfl

/-- A document is read with one call more than its items or its members. -/
theorem readsValues_succ {bound : Nat} (lists : ReadsItems bound) (objects : ReadsMembers bound) :
    ReadsValues (bound + 1) := by
  intro document depth rest wellFormed room ends
  cases wellFormed with
  | null => rfl
  | boolean value => cases value <;> rfl
  | @number value converted =>
      obtain ⟨point, others, shape, opens⟩ := numberSpelling_eq_cons value
      have read := scalar_numberSpelling converted ends
      rw [printAt]
      rw [shape] at read ⊢
      rw [List.cons_append, value_of_opensScalar bound opens, ← List.cons_append, read]
  | string content => exact value_stringSpelling bound content rest
  | @array list each =>
      match list with
      | [] => rfl
      | item :: others =>
          simp only [printAt, List.length_append, List.append_assoc] at room ⊢
          rw [value_openingBracket (startsWith_printItems ..)]
          exact lists _ _ _ _ _ (by simp) each (by simp [text] at room; omega)
  | @object list distinct each =>
      match list with
      | [] => rfl
      | entry :: others =>
          simp only [printAt, List.length_append, List.append_assoc] at room ⊢
          rw [value_openingBrace (startsWith_printMembers ..)]
          exact objects _ _ _ _ _ (by simp) distinct each (by simp [text] at room; omega)

/-- No bound that has room for the print of a document is too small to read it back. -/
theorem reads (bound : Nat) : ReadsValues bound ∧ ReadsItems bound ∧ ReadsMembers bound := by
  -- Every call lowers the bound by one and has at least one mark less to read.
  induction bound with
  | zero =>
      refine ⟨?_, ?_, ?_⟩
      · intro document depth _ _ room
        obtain ⟨point, others, shape, -⟩ := printAt_eq_cons depth document
        simp [shape] at room
      · intro list earlier depth _ _ present _ room
        match list with
        | [] => exact absurd rfl present
        | [_] | _ :: _ :: _ =>
            simp only [printItems, List.length_append, length_breakLine] at room
            omega
      · intro list earlier depth _ _ present _ _ room
        match list with
        | [] => exact absurd rfl present
        | [_] | _ :: _ :: _ =>
            simp only [printMembers, List.length_append, length_breakLine] at room
            omega
  | succ bound ih =>
      obtain ⟨values, lists, objects⟩ := ih
      exact ⟨readsValues_succ lists objects, readsItems_succ values lists,
        readsMembers_succ values objects⟩

/-- Blanks end a number. -/
theorem endsNumber_of_isBlank {rest : Text} (blank : ∀ point ∈ rest, isBlank point = true) :
    endsNumber rest = true := by
  cases rest with
  | nil => rfl
  | cons point others =>
      have first := blank point (by simp)
      simp only [isBlank, Bool.or_eq_true, decide_eq_true_eq] at first
      rcases first with ((rfl | rfl) | rfl) | rfl <;> rfl

end JsonReader

/-- A printed document is read back, whatever blanks stand behind it. -/
theorem Json.read_print {document : Json} (wellFormed : document.WellFormed JsonReader.converts)
    {rest : Text} (blank : ∀ point ∈ rest, JsonReader.isBlank point = true) :
    Json.read (document.print ++ rest) = .ok document := by
  obtain ⟨point, others, shape, -, -, notMark⟩ := JsonReader.printAt_eq_cons 0 document
  have start : JsonReader.startsWith 0xFEFF (document.print ++ rest) = false := by
    rw [print, shape]
    simpa [JsonReader.startsWith] using notMark
  have room : (printAt 0 document).length <= (document.print ++ rest).length + 1 := by
    rw [print, List.length_append]
    omega
  have value := (JsonReader.reads ((document.print ++ rest).length + 1)).1 document 0 rest
    wellFormed room (JsonReader.endsNumber_of_isBlank blank)
  have nothing : JsonReader.skipBlanks rest = [] := List.dropWhile_eq_nil_iff.mpr blank
  rw [← print] at value
  simp only [read, start]
  rw [print, JsonReader.skipBlanks_printAt_self, ← print, value]
  simp only [bind, Except.bind, nothing]
  rfl

end DesignTokens
