import DesignTokens.Path
import DesignTokens.Proofs.Text.Utf8
import Mathlib.Data.List.DropRight

/-!
# The spelling of a path

A text that goes on, behind a slash, with a plain name means the path of the entry of
that name. So a directory is one part of the text and the name of the entry the other,
whatever slashes and points the directory is spelled with.
-/

namespace DesignTokens

namespace Text

/-- The pieces between the occurrences of a mark are those of the library. -/
theorem splitAt_eq_splitOnP (mark : CodePoint) (content : Text) :
    splitAt mark content = content.splitOnP fun point => point == mark := by
  induction content with
  | nil => rfl
  | cons point others ih =>
      rw [List.splitOnP_cons_eq_if_modifyHead, ← ih]
      by_cases marked : point = mark
      · simp [splitAt, marked]
      · cases split : splitAt mark others with
        | nil =>
            rw [ih] at split
            exact absurd split (List.splitOnP_ne_nil _ others)
        | cons piece pieces => simp [splitAt, marked, split]

/-- A text without a mark is one piece. -/
theorem splitAt_of_not_mem {mark : CodePoint} {content : Text} (unmarked : mark ∉ content) :
    splitAt mark content = [content] := by
  rw [splitAt_eq_splitOnP]
  refine List.splitOnP_eq_singleton fun point member => ?_
  rw [beq_eq_false_iff_ne]
  exact fun same => unmarked (same ▸ member)

/-- The pieces on both sides of a mark are all pieces. -/
theorem splitAt_append_mark (mark : CodePoint) (before after : Text) :
    splitAt mark (before ++ mark :: after) = splitAt mark before ++ splitAt mark after := by
  rw [splitAt_eq_splitOnP, splitAt_eq_splitOnP, splitAt_eq_splitOnP]
  exact List.splitOnP_append_cons before after (beq_self_eq_true mark)

/-- What stands behind the last occurrence of a mark is the last piece. -/
theorem splitAt_append_cons {mark : CodePoint} (before : Text) {last : Text}
    (unmarked : mark ∉ last) :
    splitAt mark (before ++ mark :: last) = splitAt mark before ++ [last] := by
  rw [splitAt_append_mark, splitAt_of_not_mem unmarked]

/-- What is left of a text whose end is a mark is what is left of the text before it. -/
theorem dropTrailing_concat_self (mark : CodePoint) (content : Text) :
    dropTrailing mark (content ++ [mark]) = dropTrailing mark content :=
  List.rdropWhile_concat_pos (fun point => point == mark) content mark (beq_self_eq_true mark)

/-- A text whose end is no mark is left as it is. -/
theorem dropTrailing_concat_of_ne {mark last : CodePoint} (content : Text) (other : last ≠ mark) :
    dropTrailing mark (content ++ [last]) = content ++ [last] :=
  List.rdropWhile_concat_neg (fun point => point == mark) content last (by simpa using other)

/-- What is left of a text begins as the text does, if that is with no mark. -/
theorem dropTrailing_cons {mark first : CodePoint} (others : Text) (other : first ≠ mark) :
    dropTrailing mark (first :: others) = first :: dropTrailing mark others := by
  induction others using List.reverseRecOn with
  | nil => exact dropTrailing_concat_of_ne [] other
  | append_singleton others last ih =>
      by_cases same : last = mark
      · rw [same, ← List.cons_append, dropTrailing_concat_self, dropTrailing_concat_self, ih]
      · rw [← List.cons_append, dropTrailing_concat_of_ne _ same, dropTrailing_concat_of_ne _ same,
          List.cons_append]

end Text

/-- A text names something if its halves do. -/
theorem nameBytes_append {first rest : Text} {bytes others : Bytes}
    (firstNamed : nameBytes first = .ok bytes) (restNamed : nameBytes rest = .ok others) :
    nameBytes (first ++ rest) = .ok (bytes ++ others) := by
  have encoded {content : Text} {spelled : Bytes} (named : nameBytes content = .ok spelled) :
      Utf8.encodeName content = .ok spelled ∧ spelled.contains 0 = false := by
    unfold nameBytes at named
    split at named
    · cases named
    · split at named
      · cases named
      next clean =>
        cases named
        exact ⟨‹_›, by simpa using clean⟩
  obtain ⟨firstEncoded, firstClean⟩ := encoded firstNamed
  obtain ⟨restEncoded, restClean⟩ := encoded restNamed
  have clean : (bytes ++ others).contains 0 = false := by
    rw [List.contains_append, firstClean, restClean]
    rfl
  unfold nameBytes
  simp only [Utf8.encodeName_append firstEncoded restEncoded, clean, Bool.false_eq_true, if_false]

namespace Path

/-- The path above an entry of a directory is that of the directory. -/
@[simp]
theorem parent_entry (path : Path) (name : Text) : (path.entry name).parent = path := by
  simp [parent, entry]

/-- The last part of the path of an entry is the name of the entry. -/
@[simp]
theorem name_entry (path : Path) (entryName : Text) : (path.entry entryName).name = entryName := by
  simp [name, entry]

/-- The text of an entry is the text of the directory, a slash and the name. -/
theorem toText_entry {path : Path} (below : path.parts ≠ []) (name : Text) :
    (path.entry name).toText = path.toText ++ (text "/" ++ name) := by
  have joined : ∀ parts : List Text, parts ≠ [] →
      List.intercalate (text "/") (parts ++ [name]) =
        List.intercalate (text "/") parts ++ (text "/" ++ name) := by
    intro parts present
    induction parts with
    | nil => exact absurd rfl present
    | cons part others ih =>
        cases others with
        | nil => simp [List.intercalate_cons_cons]
        | cons next rest =>
            have tail := ih (List.cons_ne_nil next rest)
            rw [List.cons_append] at tail
            rw [List.cons_append, List.cons_append, List.intercalate_cons_cons, tail,
              List.intercalate_cons_cons]
            simp
  have further : (path.entry name).parts ≠ [] := by simp [entry]
  unfold toText
  rw [if_neg fun none => further none.2, if_neg fun none => below none.2, entry,
    joined path.parts below, List.append_assoc]

/-- A name that stands for one part of a path, and does not lead up. -/
structure Plain (name : Text) : Prop where
  slashes : CodePoint.ofChar '/' ∉ name
  nonempty : name ≠ []
  point : name ≠ text "."
  forward : name ≠ up

instance (name : Text) : Decidable (Plain name) :=
  decidable_of_iff (CodePoint.ofChar '/' ∉ name ∧ name ≠ [] ∧ name ≠ text "." ∧ name ≠ up)
    ⟨fun ⟨slashes, nonempty, point, forward⟩ => ⟨slashes, nonempty, point, forward⟩,
      fun plain => ⟨plain.slashes, plain.nonempty, plain.point, plain.forward⟩⟩

variable {name : Text}

/-- A name adds nothing to the slashes at the start of a text. -/
theorem takeWhile_append_name (directory : Text) (plain : Plain name) :
    ((directory ++ name).takeWhile fun point => point == CodePoint.ofChar '/') =
      directory.takeWhile fun point => point == CodePoint.ofChar '/' := by
  have start : (name.takeWhile fun point => point == CodePoint.ofChar '/') = [] := by
    obtain ⟨first, others, rfl⟩ := List.exists_cons_of_ne_nil plain.nonempty
    have other : first ≠ CodePoint.ofChar '/' := fun same => plain.slashes (by simp [same])
    simp [other]
  rw [List.takeWhile_append, start]
  split
  next whole =>
    rw [List.append_nil]
    exact ((List.takeWhile_prefix _).eq_of_length whole).symm
  next => rfl

/-- A text that ends in a slash and a name means the entry of that name. -/
theorem ofText_append_name (directory : Text) (plain : Plain name) :
    ofText (directory ++ text "/" ++ name) = (ofText (directory ++ text "/")).entry name := by
  have slash : text "/" = [CodePoint.ofChar '/'] := rfl
  have whole : Text.splitAt '/' (directory ++ text "/" ++ name) =
      Text.splitAt '/' directory ++ [name] := by
    rw [slash, List.append_assoc, List.singleton_append]
    exact Text.splitAt_append_cons directory plain.slashes
  have before : Text.splitAt '/' (directory ++ text "/") = Text.splitAt '/' directory ++ [[]] := by
    rw [slash]
    exact Text.splitAt_append_cons directory List.not_mem_nil
  unfold ofText entry
  rw [takeWhile_append_name _ plain, whole, before]
  simp [plain.nonempty, plain.point]

/-- A slash at the end of a text adds no part to the path that it means. -/
theorem parts_ofText_concat (content : Text) :
    (ofText (content ++ [CodePoint.ofChar '/'])).parts = (ofText content).parts := by
  have split : Text.splitAt '/' (content ++ [CodePoint.ofChar '/']) =
      Text.splitAt '/' content ++ [[]] :=
    Text.splitAt_append_cons content List.not_mem_nil
  unfold ofText
  rw [split, List.filter_append]
  simp

/-- The slashes at the end of a text add no parts. -/
theorem parts_ofText_dropTrailing (content : Text) :
    (ofText (content.dropTrailing '/')).parts = (ofText content).parts := by
  induction content using List.reverseRecOn with
  | nil => rfl
  | append_singleton content last ih =>
      by_cases slash : last = CodePoint.ofChar '/'
      · rw [slash, Text.dropTrailing_concat_self, ih, parts_ofText_concat]
      · rw [Text.dropTrailing_concat_of_ne _ slash]

/-- A text that does not begin with a slash means a path from the current directory. -/
theorem anchor_ofText {content : Text} (start : content.head? ≠ some (CodePoint.ofChar '/')) :
    (ofText content).anchor = .relative := by
  cases content with
  | nil => rfl
  | cons first others =>
      have other : first ≠ CodePoint.ofChar '/' := by simpa using start
      simp [ofText, anchorOf, other]

/-- However many slashes a text ends in, one means the same, as long as there is anything
before them. -/
theorem ofText_dropTrailing {content : Text} (given : content ≠ [])
    (start : content.head? ≠ some (CodePoint.ofChar '/')) :
    ofText (content.dropTrailing '/' ++ text "/") = ofText content := by
  obtain ⟨first, others, rfl⟩ := List.exists_cons_of_ne_nil given
  have other : first ≠ CodePoint.ofChar '/' := by simpa using start
  have anchor : (ofText (Text.dropTrailing '/' (first :: others) ++ text "/")).anchor =
      .relative := by
    apply anchor_ofText
    simpa [Text.dropTrailing_cons others other] using other
  have parts : (ofText (Text.dropTrailing '/' (first :: others) ++ text "/")).parts =
      (ofText (first :: others)).parts :=
    (parts_ofText_concat _).trans (parts_ofText_dropTrailing _)
  rw [← anchor_ofText start] at anchor
  exact congrArg₂ Path.mk anchor parts

/-- The entry of a directory stands below a base where the directory does. -/
theorem under_entry (base path : Path) (name : Text) :
    under base (path.entry name) = (under base path).entry name := by
  unfold under entry
  split <;> simp

/-- One plain name further on is below. -/
theorem advance_of_plain (location : Location) (plain : Plain name) :
    advance location name = location ++ [name] :=
  if_neg plain.forward

/-- Names none of which leads up lead one below the other. -/
theorem foldl_advance {names : List Text} (plain : up ∉ names) (location : Location) :
    names.foldl advance location = location ++ names := by
  induction names generalizing location with
  | nil => simp
  | cons name others ih =>
      obtain ⟨forward, rest⟩ := not_or.mp (mt List.mem_cons.mpr plain)
      rw [List.foldl_cons, ih rest, advance, if_neg (Ne.symm forward), List.append_assoc,
        List.singleton_append]

end Path

end DesignTokens
