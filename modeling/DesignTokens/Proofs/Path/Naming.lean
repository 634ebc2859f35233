import DesignTokens.Proofs.Path

/-!
# What can be named

The file system knows a text by bytes. It has them when each of its code points can stand
in a name: none is the null character, and no surrogate is among them but those that stand
for raw bytes. What paths are made of can be named as far as their texts can.
-/

namespace DesignTokens

/-- A code point that can stand in a name. -/
def CodePoint.isNameable (point : CodePoint) : Bool :=
  point.val != 0 && (!point.isSurrogate || Utf8.isRawByte point)

/-- Text that can stand in a name. -/
def Text.isNameable (content : Text) : Bool :=
  content.all CodePoint.isNameable

namespace Utf8

/-- Numbers from one up to the greatest byte are those of no null byte. -/
theorem zero_not_mem_map_ofNat {numbers : List Nat}
    (bytes : ∀ number ∈ numbers, 0 < number ∧ number < 0x100) :
    (0 : UInt8) ∉ numbers.map UInt8.ofNat := by
  intro member
  obtain ⟨number, among, same⟩ := List.mem_map.mp member
  obtain ⟨positive, small⟩ := bytes number among
  have value : (UInt8.ofNat number).toNat = number := UInt8.toNat_ofNat_of_lt' small
  rw [same] at value
  exact absurd value (Nat.ne_of_lt positive)

/-- Only the null character is encoded by a null byte. -/
theorem zero_mem_encodePoint_iff {point : CodePoint} :
    (0 : UInt8) ∈ encodePoint point ↔ point.val = 0 := by
  have bound := point.isLt
  constructor
  · intro member
    by_contra positive
    simp only [encodePoint] at member
    split at member
    · exact @zero_not_mem_map_ofNat [_] (by simp; omega) member
    split at member
    · exact @zero_not_mem_map_ofNat [_, _] (by simp; omega) member
    split at member
    · exact @zero_not_mem_map_ofNat [_, _, _] (by simp; omega) member
    · exact @zero_not_mem_map_ofNat [_, _, _, _] (by simp; omega) member
  · intro null
    simp [encodePoint, null]

/-- The bytes of a code point in the name of a file. -/
def namePoint (point : CodePoint) : Bytes :=
  if isRawByte point then [UInt8.ofNat (point.val - 0xDC00)] else encodePoint point

/-- Only the null character stands in a name as a null byte. -/
theorem zero_mem_namePoint_iff {point : CodePoint} :
    (0 : UInt8) ∈ namePoint point ↔ point.val = 0 := by
  unfold namePoint
  split
  next raw =>
    obtain ⟨low, high⟩ : 0xDC80 ≤ point.val ∧ point.val ≤ 0xDCFF := by simpa [isRawByte] using raw
    refine iff_of_false ?_ (by omega)
    exact @zero_not_mem_map_ofNat [_] (by simp; omega)
  next => exact zero_mem_encodePoint_iff

end Utf8

/-- A text is the name of something exactly when each of its code points can stand in one. -/
theorem exists_nameBytes_iff {content : Text} :
    (∃ bytes, nameBytes content = .ok bytes) ↔ content.isNameable = true := by
  have null : (content.flatMap Utf8.namePoint).contains 0 = false ↔
      ∀ point ∈ content, point.val ≠ 0 := by
    rw [List.contains_eq_mem, decide_eq_false_iff_not, List.mem_flatMap]
    simp only [Utf8.zero_mem_namePoint_iff, not_exists, not_and, ne_eq]
  have nameable : content.isNameable = true ↔
      (∀ point ∈ content, (point.isSurrogate && !Utf8.isRawByte point) = false) ∧
        ∀ point ∈ content, point.val ≠ 0 := by
    rw [← forall₂_and]
    simp only [Text.isNameable, List.all_eq_true, CodePoint.isNameable]
    refine forall₂_congr fun point _ => ?_
    cases point.isSurrogate <;> cases Utf8.isRawByte point <;> simp
  rw [nameable, ← Utf8.firstRefused_eq_none_iff, ← null]
  unfold nameBytes Utf8.encodeName
  cases Utf8.firstRefused Utf8.isRawByte 0 content with
  | some fault => simp
  | none =>
      dsimp only
      change (∃ bytes, ite ((content.flatMap Utf8.namePoint).contains 0 = true) _ _ = _) ↔ _
      generalize content.flatMap Utf8.namePoint = spelled
      by_cases null : 0 ∈ spelled <;> simp [null]

namespace Text

/-- Texts can be named one behind the other if each of them can. -/
theorem isNameable_append {first rest : Text} :
    Text.isNameable (first ++ rest) = (first.isNameable && rest.isNameable) :=
  List.all_append

/-- What a text is made of passes a test exactly when its pieces between the marks do, if
the mark passes. -/
theorem forall_mem_splitAt_iff {mark : CodePoint} {passes : CodePoint -> Bool}
    (marked : passes mark = true) (content : Text) :
    (∀ piece ∈ splitAt mark content, piece.all passes = true) ↔ content.all passes = true := by
  induction content with
  | nil => simp [splitAt]
  | cons point others ih =>
      rw [splitAt, List.all_cons, Bool.and_eq_true, ← ih]
      by_cases same : point = mark
      · simp [same, marked]
      · cases split : splitAt mark others with
        | nil => simp [same]
        | cons piece pieces => simp [same, and_assoc]

/-- Nothing but marks is dropped from the end of a text. -/
theorem all_dropTrailing {mark : CodePoint} {passes : CodePoint -> Bool}
    (marked : passes mark = true) (content : Text) :
    (content.dropTrailing mark).all passes = content.all passes := by
  induction content using List.reverseRecOn with
  | nil => rfl
  | append_singleton content last ih =>
      by_cases same : last = mark
      · rw [same, dropTrailing_concat_self, ih]
        simp [marked]
      · rw [dropTrailing_concat_of_ne _ same]

/-- Joined texts can be named exactly when each of them can, if what joins them can. -/
theorem isNameable_intercalate {mark : Text} (between : mark.isNameable = true)
    (parts : List Text) :
    Text.isNameable (List.intercalate mark parts) = parts.all Text.isNameable := by
  induction parts with
  | nil => rfl
  | cons part others ih =>
      cases others with
      | nil => simp
      | cons next rest =>
          rw [List.intercalate_cons_cons, isNameable_append, isNameable_append, between,
            Bool.and_true, ih]
          rfl

end Text

namespace Path

/-- A path whose parts can be named. -/
def Nameable (path : Path) : Prop :=
  ∀ part ∈ path.parts, part.isNameable = true

/-- The text of a path can be named exactly when its parts can. -/
theorem isNameable_toText_iff {path : Path} :
    path.toText.isNameable = true ↔ path.Nameable := by
  have slash : Text.isNameable (text "/") = true := by decide
  have point : Text.isNameable (text ".") = true := by decide
  have start : (anchorText path.anchor).isNameable = true := by cases path.anchor <;> decide
  unfold toText Nameable
  split
  next alone => simp [alone.2, point]
  next =>
    rw [Text.isNameable_append, start, Bool.true_and, Text.isNameable_intercalate slash,
      List.all_eq_true]

/-- A path has bytes exactly when its parts can be named. -/
theorem exists_nameBytes_toText_iff {path : Path} :
    (∃ bytes, nameBytes path.toText = .ok bytes) ↔ path.Nameable :=
  exists_nameBytes_iff.trans isNameable_toText_iff

/-- The path above one that can be named can be named. -/
theorem Nameable.parent {path : Path} (nameable : path.Nameable) : path.parent.Nameable :=
  fun part member => nameable part (List.dropLast_subset _ member)

/-- The path that a text means can be named exactly when the text can. -/
theorem nameable_ofText_iff {content : Text} :
    (ofText content).Nameable ↔ content.isNameable = true := by
  have slash : CodePoint.isNameable '/' = true := by decide
  have point : Text.isNameable (text ".") = true := by decide
  unfold Text.isNameable
  rw [← Text.forall_mem_splitAt_iff slash]
  constructor
  · intro nameable piece member
    by_cases empty : piece = []
    · simp [empty]
    by_cases single : piece = text "."
    · exact single ▸ point
    · exact nameable piece (by simp [ofText, member, empty, single])
  · intro pieces part member
    exact pieces part (List.mem_of_mem_filter member)

/-- A path as seen from a base can be named if both can. -/
theorem Nameable.under {base path : Path} (baseNameable : base.Nameable)
    (nameable : path.Nameable) : (under base path).Nameable := by
  unfold Path.under
  split
  · exact List.forall_mem_append.mpr ⟨baseNameable, nameable⟩
  · exact nameable

/-- A path can be named if it can as seen from a base. -/
theorem Nameable.of_under {base path : Path} (nameable : (Path.under base path).Nameable) :
    path.Nameable := by
  unfold Path.under at nameable
  split at nameable
  · exact (List.forall_mem_append.mp nameable).2
  · exact nameable

/-- One part further on, a path can be named if that part can. -/
theorem Nameable.reduce {path : Path} {part : Text} (nameable : path.Nameable)
    (partNameable : part.isNameable = true) : (path.reduce part).Nameable := by
  have entered : (path.entry part).Nameable :=
    List.forall_mem_append.mpr ⟨nameable, List.forall_mem_singleton.mpr partNameable⟩
  unfold Path.reduce
  split
  next leads =>
    subst leads
    split
    · split
      · exact entered
      · exact nameable
    · split
      · exact entered
      · exact nameable.parent
  next => exact entered

/-- Nothing on the way to where a path leads has a fault if the path can be named. -/
theorem nameFault?_of_nameable {path : Path} (nameable : path.Nameable) :
    path.nameFault? = none := by
  have stages : ∀ stage ∈ path.stages, stage.Nameable := by
    unfold stages
    intro stage member
    refine List.foldlRecOn path.parts _ (motive := fun seen : List Path =>
      ∀ stage ∈ seen, stage.Nameable) (fun _ none => absurd none List.not_mem_nil)
      (fun seen before part listed => ?_) stage (List.mem_reverse.mp member)
    -- Each stage goes on from the one before it, and the first from no part at all.
    refine List.forall_mem_cons.mpr ⟨?_, before⟩
    cases seen with
    | nil =>
        have origin : (Path.mk (if path.anchor = .relative then .relative else .absolute)
          []).Nameable := nofun
        exact origin.reduce (nameable part listed)
    | cons last others =>
        exact (before last List.mem_cons_self).reduce (nameable part listed)
  refine List.findSome?_eq_none_iff.mpr fun stage member => ?_
  obtain ⟨bytes, named⟩ := exists_nameBytes_toText_iff.mpr (stages stage member)
  rw [named]

end Path

end DesignTokens
