import DesignTokens.Proofs.Path
import DesignTokens.Stylesheet

/-!
# Reading a stylesheet back

A stylesheet is read line by line: the lines of its block are those between the line that opens it
and the one that closes it, and each is split at its first colon with a space behind it. Values may
hold colons, semicolons, braces and whole declarations. If no name holds a colon and nothing holds
a line feed, the declarations are what is read.
-/

namespace DesignTokens

namespace Text

/-- What stands before and behind the first occurrence of a mark, if there is one. -/
def cut? (mark : Text) : Text -> Option (Text × Text)
  | [] => none
  | point :: rest =>
      if mark.isPrefixOf (point :: rest) then some ([], (point :: rest).drop mark.length)
      else (cut? mark rest).map fun halves => (point :: halves.1, halves.2)

/-- A text is cut at a mark whose first code point does not stand before it. -/
theorem cut?_append {first : CodePoint} {before : Text} (others after : Text)
    (unmarked : first ∉ before) :
    cut? (first :: others) (before ++ first :: others ++ after) = some (before, after) := by
  induction before with
  | nil =>
      have marked : (first :: others).isPrefixOf (first :: (others ++ after)) = true :=
        List.isPrefixOf_iff_prefix.mpr (List.prefix_append (first :: others) after)
      simp [cut?, marked]
  | cons point rest ih =>
      obtain ⟨other, later⟩ := not_or.mp (List.mem_cons.not.mp unmarked)
      have deeper := ih later
      rw [List.append_assoc, List.cons_append] at deeper
      simp [cut?, other, deeper]

/-- Lines with their line endings are the pieces between line feeds, with nothing behind the
last one. -/
theorem splitAt_unlines {lines : List Text}
    (unbroken : ∀ line ∈ lines, CodePoint.ofChar '\n' ∉ line) :
    splitAt '\n' (unlines lines) = lines ++ [[]] := by
  induction lines with
  | nil => rfl
  | cons line others ih =>
      obtain ⟨here, later⟩ := List.forall_mem_cons.mp unbroken
      have feed : unlines (line :: others) = line ++ CodePoint.ofChar '\n' :: unlines others := by
        simp [unlines, text]
      rw [feed, splitAt_append_mark, splitAt_of_not_mem here, ih later]
      rfl

end Text

namespace Declaration

/-- A declaration that can be read back: no colon is in its name, and no line feed in it. -/
structure Legible (declaration : Declaration) : Prop where
  noColon : CodePoint.ofChar ':' ∉ declaration.name
  unbrokenName : CodePoint.ofChar '\n' ∉ declaration.name
  unbrokenValue : CodePoint.ofChar '\n' ∉ declaration.value

/-- The declaration in a line: its name stands behind the indentation and before the first colon
with a space, and its value stands behind that and before the semicolon at the end. -/
def ofLine? (line : Text) : Option Declaration :=
  (Text.cut? (text ": ") line).map fun halves => ⟨halves.1.drop 2, halves.2.dropLast⟩

variable {declaration : Declaration}

/-- A declaration is read back from its line. -/
theorem ofLine?_line (noColon : CodePoint.ofChar ':' ∉ declaration.name) :
    ofLine? declaration.line = some declaration := by
  have spelled : declaration.line =
      text "  " ++ declaration.name ++ text ": " ++ (declaration.value ++ text ";") := by
    simp [line]
  have unmarked : CodePoint.ofChar ':' ∉ text "  " ++ declaration.name := by
    have indentation : CodePoint.ofChar ':' ∉ text "  " := by decide
    simp [indentation, noColon]
  have halves : Text.cut? (text ": ") declaration.line =
      some (text "  " ++ declaration.name, declaration.value ++ text ";") := by
    rw [spelled]
    exact Text.cut?_append (text " ") (declaration.value ++ text ";") unmarked
  have indentation : (text "  " ++ declaration.name).drop 2 = declaration.name := rfl
  have semicolon : (declaration.value ++ text ";").dropLast = declaration.value :=
    List.dropLast_concat
  rw [ofLine?, halves, Option.map_some, indentation, semicolon]

/-- The line of a legible declaration has no line feed in it. -/
theorem Legible.unbroken (legible : declaration.Legible) :
    CodePoint.ofChar '\n' ∉ declaration.line := by
  have marks : CodePoint.ofChar '\n' ∉ text "  " ∧ CodePoint.ofChar '\n' ∉ text ": " ∧
      CodePoint.ofChar '\n' ∉ text ";" := by decide
  simp [line, marks, legible.unbrokenName, legible.unbrokenValue]

end Declaration

namespace Stylesheet

/-- The lines of the block of a stylesheet: those between the line that opens it and the one that
closes it. -/
def blockLines (content : Text) : List Text :=
  (((Text.splitAt '\n' content).dropWhile (· != text ":root \x7b")).drop 1).takeWhile
    (· != text "\x7d")

/-- The declarations of a stylesheet, read from the lines of its block. -/
def declarations? (content : Text) : Option (List Declaration) :=
  (blockLines content).mapM Declaration.ofLine?

variable {banner : Text} {declarations : List Declaration}

/-- The comment above a block has no line feed in it, if the banner has none. -/
theorem feed_not_mem_comment {banner : Text} (oneLine : CodePoint.ofChar '\n' ∉ banner) :
    CodePoint.ofChar '\n' ∉ text "/* " ++ banner ++ text " */" := by
  have around : CodePoint.ofChar '\n' ∉ text "/* " ∧ CodePoint.ofChar '\n' ∉ text " */" := by
    decide
  simp [oneLine, around]

/-- The lines of the block are those of its declarations. -/
theorem blockLines_rootBlock (oneLine : CodePoint.ofChar '\n' ∉ banner)
    (legible : ∀ declaration ∈ declarations, declaration.Legible) :
    blockLines (rootBlock banner declarations) = declarations.map Declaration.line := by
  have unbroken : ∀ line ∈ [text "/* " ++ banner ++ text " */", text ":root \x7b"] ++
      declarations.map Declaration.line ++ [text "\x7d"], CodePoint.ofChar '\n' ∉ line := by
    simp only [List.forall_mem_append, List.forall_mem_cons, List.forall_mem_map]
    exact ⟨⟨⟨feed_not_mem_comment oneLine, by decide, nofun⟩,
      fun declaration member => (legible _ member).unbroken⟩, by decide, nofun⟩
  have lines : Text.splitAt '\n' (rootBlock banner declarations) =
      (text "/* " ++ banner ++ text " */") :: text ":root \x7b" ::
        (declarations.map Declaration.line ++ [text "\x7d", []]) := by
    rw [rootBlock, Text.splitAt_unlines unbroken]
    simp
  -- The first line opens a comment, and the lines of declarations are indented.
  have opening : (text "/* " ++ banner ++ text " */" != text ":root \x7b") = true := rfl
  have inside : ∀ line ∈ declarations.map Declaration.line, (line != text "\x7d") = true :=
    List.forall_mem_map.mpr fun _ _ => rfl
  rw [blockLines, lines, List.dropWhile_cons_of_pos (p := (· != text ":root \x7b")) opening,
    List.dropWhile_cons_of_neg (by decide), List.drop_one, List.tail_cons,
    List.takeWhile_append_of_pos inside, List.takeWhile_cons_of_neg (by decide), List.append_nil]

/-- The declarations of a stylesheet are read back. -/
theorem declarations?_rootBlock (oneLine : CodePoint.ofChar '\n' ∉ banner)
    (legible : ∀ declaration ∈ declarations, declaration.Legible) :
    declarations? (rootBlock banner declarations) = some declarations := by
  rw [declarations?, blockLines_rootBlock oneLine legible]
  clear oneLine
  induction declarations with
  | nil => rfl
  | cons declaration others ih =>
      obtain ⟨here, later⟩ := List.forall_mem_cons.mp legible
      rw [List.map_cons, List.mapM_cons, Declaration.ofLine?_line here.noColon, ih later]
      rfl

end Stylesheet

end DesignTokens
