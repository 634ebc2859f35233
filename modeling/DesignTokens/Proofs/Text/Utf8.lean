import DesignTokens.Text.Utf8
import Mathlib.Data.List.Basic

/-!
# Text with and without an encoding

A text is encoded exactly when it holds no surrogate, and what is decoded holds none. So what
is read from files can be written again, together with any text that is free of surrogates.
-/

namespace DesignTokens

namespace Text

/-- Texts hold no surrogate, one behind the other, if each of them holds none. -/
theorem isScalar_append {first rest : Text} :
    Text.isScalar (first ++ rest) = (first.isScalar && Text.isScalar rest) :=
  List.all_append

/-- A text holds no surrogate if neither its first code point nor the rest is one. -/
theorem isScalar_cons {point : CodePoint} {rest : Text} :
    Text.isScalar (point :: rest) = (!point.isSurrogate && Text.isScalar rest) :=
  List.all_cons

/-- Texts without surrogates hold none when they are joined by one that holds none. -/
theorem isScalar_intercalate {mark : Text} {parts : List Text} (between : mark.isScalar = true)
    (scalar : ∀ part ∈ parts, part.isScalar = true) :
    Text.isScalar (List.intercalate mark parts) = true := by
  induction parts with
  | nil => rfl
  | cons part others ih =>
      obtain ⟨here, later⟩ := List.forall_mem_cons.mp scalar
      cases others with
      | nil => rwa [List.intercalate_singleton]
      | cons next rest =>
          rw [List.intercalate_cons_cons, isScalar_append, isScalar_append, here, between,
            ih later]
          rfl

/-- A text without surrogates holds none when its line endings are line feeds. -/
theorem isScalar_unifyNewlines {content : Text} (scalar : content.isScalar = true) :
    content.unifyNewlines.isScalar = true := by
  have feed : CodePoint.isSurrogate '\n' = false := by decide
  fun_induction unifyNewlines content with
  | case1 => exact scalar
  | case2 => rfl
  | case3 others ih =>
      simp only [isScalar_cons, feed, Bool.not_false, Bool.true_and, Bool.and_eq_true] at scalar ⊢
      exact ih scalar.2
  | case4 next others other ih =>
      simp only [isScalar_cons, feed, Bool.not_false, Bool.true_and, Bool.and_eq_true] at scalar ⊢
      exact ih (by simpa [isScalar_cons] using scalar.2)
  | case5 point rest other ih =>
      simp only [isScalar_cons, Bool.and_eq_true] at scalar ⊢
      exact ⟨scalar.1, ih scalar.2⟩

end Text

namespace Utf8

/-- A text is refused nowhere if each of its code points passes or is no surrogate. -/
theorem firstRefused_eq_none_iff {passes : CodePoint -> Bool} {position : Nat} {content : Text} :
    firstRefused passes position content = none ↔
      ∀ point ∈ content, (point.isSurrogate && !passes point) = false := by
  induction content generalizing position with
  | nil => simp [firstRefused]
  | cons point others ih =>
      rw [firstRefused, List.forall_mem_cons]
      cases refused : point.isSurrogate && !passes point with
      | true => simp
      | false => simpa using ih

/-- There is no fault to be found in a text exactly when it holds no surrogate. -/
theorem encodeFault?_eq_none_iff {content : Text} :
    encodeFault? content = none ↔ content.isScalar = true := by
  unfold encodeFault?
  rw [firstRefused_eq_none_iff]
  simp [Text.isScalar]

/-- A text has an encoding exactly when it holds no surrogate. -/
theorem exists_encode_iff {content : Text} :
    (∃ bytes, encode content = .ok bytes) ↔ content.isScalar = true := by
  rw [← encodeFault?_eq_none_iff]
  unfold encode
  cases encodeFault? content <;> simp

/-- The bytes of a name are those of its halves. -/
theorem encodeName_append {first rest : Text} {bytes others : Bytes}
    (firstEncoded : encodeName first = .ok bytes) (restEncoded : encodeName rest = .ok others) :
    encodeName (first ++ rest) = .ok (bytes ++ others) := by
  unfold encodeName at firstEncoded restEncoded ⊢
  split at firstEncoded
  next => cases firstEncoded
  next firstPasses =>
    split at restEncoded
    next => cases restEncoded
    next restPasses =>
      cases firstEncoded
      cases restEncoded
      have passes := List.forall_mem_append.mpr
        ⟨firstRefused_eq_none_iff.mp firstPasses, firstRefused_eq_none_iff.mp restPasses⟩
      rw [firstRefused_eq_none_iff.mpr passes, List.flatMap_append]

/-- A sequence that is not complete can only become a code point that is no surrogate. -/
structure Pending.Sound (pending : Pending) : Prop where
  low : 0x80 ≤ pending.low.toNat
  high : pending.high.toNat ≤ 0xBF
  value : pending.owed = 1 ∧ (pending.value < 0x360 ∨ 0x380 ≤ pending.value) ∧
      pending.value < 0x4400 ∨
    pending.owed = 2 ∧ (pending.value = 0xD → pending.high.toNat ≤ 0x9F) ∧
      pending.value < 0x110 ∨
    pending.owed = 3 ∧ (pending.value = 0 → 0x90 ≤ pending.low.toNat) ∧
      (pending.value < 4 ∨ pending.value = 4 ∧ pending.high.toNat ≤ 0x8F)

/-- A number below the surrogates is that of no surrogate, and so is one above them. -/
theorem isSurrogate_ofNat {number : Nat} (small : number < 0x110000)
    (outside : number < 0xD800 ∨ 0xDFFF < number) :
    CodePoint.isSurrogate (Fin.ofNat 0x110000 number) = false := by
  have same : number % 0x110000 = number := Nat.mod_eq_of_lt small
  simp only [CodePoint.isSurrogate, Fin.ofNat, same, Bool.and_eq_false_iff,
    decide_eq_false_iff_not]
  rcases outside with before | behind
  · exact .inl (Nat.not_le_of_lt before)
  · exact .inr (Nat.not_le_of_lt behind)

/-- What a byte begins is a code point that is no surrogate, or can only become such a one. -/
def Opening.Sound : Opening -> Prop
  | .ascii point => point.isSurrogate = false
  | .sequence pending => pending.Sound
  | .refused => True

/-- Whatever begins between two sequences is sound. -/
theorem sound_opening (position : Nat) (byte : UInt8) : (opening position byte).Sound := by
  have bound := byte.toNat_lt
  unfold opening
  by_cases ascii : byte.toNat < 0x80
  · rw [if_pos ascii]
    exact isSurrogate_ofNat (by omega) (.inl (by omega))
  rw [if_neg ascii]
  split
  · trivial
  split
  · exact ⟨by simp, by simp, .inl ⟨rfl, by simp only; omega⟩⟩
  split
  · exact ⟨by simp, by simp, .inr (.inl ⟨rfl, by simp⟩)⟩
  split
  · exact ⟨by simp, by simp, .inr (.inl ⟨rfl, by simp⟩)⟩
  split
  · exact ⟨by simp, by simp, .inr (.inl ⟨rfl, by simp only; omega⟩)⟩
  split
  · exact ⟨by simp, by simp, .inr (.inr ⟨rfl, by simp⟩)⟩
  split
  · exact ⟨by simp, by simp, .inr (.inr ⟨rfl, by simp only; omega⟩)⟩
  split
  · exact ⟨by simp, by simp, .inr (.inr ⟨rfl, by simp⟩)⟩
  · trivial

variable {pending : Pending} {byte : UInt8}

/-- The value of a sequence that goes on with a byte. -/
def Pending.further (pending : Pending) (byte : UInt8) : Nat :=
  pending.value * 0x40 + (byte.toNat - 0x80)

/-- A byte with which a sequence goes on adds six bits. -/
theorem Pending.Sound.further_eq (sound : pending.Sound) (low : pending.low ≤ byte)
    (high : byte ≤ pending.high) :
    ∃ bits, pending.further byte = pending.value * 0x40 + bits ∧ bits < 0x40 ∧
      pending.low.toNat ≤ 0x80 + bits ∧ 0x80 + bits ≤ pending.high.toNat := by
  have least := sound.low
  have most := sound.high
  rw [UInt8.le_iff_toNat_le] at low high
  exact ⟨byte.toNat - 0x80, rfl, by omega, by omega, by omega⟩

/-- A sequence that goes on and is still not complete can only become such a code point. -/
theorem Pending.Sound.goesOn (sound : pending.Sound) (low : pending.low ≤ byte)
    (high : byte ≤ pending.high) (unfinished : pending.owed ≠ 1) :
    Pending.Sound ⟨pending.first, pending.leading, 0x80, 0xBF, pending.owed - 1,
      pending.further byte⟩ := by
  obtain ⟨bits, value, few, least, most⟩ := sound.further_eq low high
  have lowest : (0x80 : UInt8).toNat = 0x80 := rfl
  have highest : (0xBF : UInt8).toNat = 0xBF := rfl
  rcases sound.value with ⟨one, -⟩ | ⟨two, surrogates, bound⟩ | ⟨three, overlong, bound⟩
  · exact absurd one unfinished
  · refine ⟨Nat.le_of_eq lowest.symm, Nat.le_of_eq highest, .inl ⟨?_, ?_, ?_⟩⟩ <;>
      simp only [value, two] <;> omega
  · refine ⟨Nat.le_of_eq lowest.symm, Nat.le_of_eq highest, .inr (.inl ⟨?_, ?_, ?_⟩)⟩ <;>
      simp only [value, three] <;> omega

/-- A sequence that is complete is a code point that is no surrogate. -/
theorem Pending.Sound.complete (sound : pending.Sound) (low : pending.low ≤ byte)
    (high : byte ≤ pending.high) (last : pending.owed = 1) :
    CodePoint.isSurrogate (Fin.ofNat 0x110000 (pending.further byte)) = false := by
  obtain ⟨bits, value, few, -, -⟩ := sound.further_eq low high
  have range : (pending.value < 0x360 ∨ 0x380 ≤ pending.value) ∧ pending.value < 0x4400 := by
    rcases sound.value with ⟨-, range⟩ | ⟨two, -⟩ | ⟨three, -⟩
    · exact range
    · omega
    · omega
  have small : pending.further byte < 0x110000 := by omega
  have outside : pending.further byte < 0xD800 ∨ 0xDFFF < pending.further byte := by omega
  exact isSurrogate_ofNat small outside

/-- A code point that is no surrogate stands before what holds none. -/
theorem isScalar_of_map_cons {point : CodePoint} {result : Except DecodeFault Text}
    {decoded : Text} (plain : point.isSurrogate = false)
    (others : ∀ rest, result = .ok rest → rest.isScalar = true)
    (mapped : result.map (point :: ·) = .ok decoded) : decoded.isScalar = true := by
  cases outcome : result with
  | error fault =>
      rw [outcome] at mapped
      cases mapped
  | ok rest =>
      rw [outcome] at mapped
      cases mapped
      rw [Text.isScalar_cons, plain, others rest outcome]
      rfl

/-- What is decoded from a position holds no surrogate. -/
theorem isScalar_of_decodeFrom {position : Nat} {state : Option Pending} {content : Bytes}
    {decoded : Text} (sound : ∀ pending ∈ state, pending.Sound)
    (decodes : decodeFrom position state content = .ok decoded) : decoded.isScalar = true := by
  have idle : ∀ pending ∈ (none : Option Pending), pending.Sound := by simp
  fun_induction decodeFrom position state content generalizing decoded with
  | case1 =>
      cases decodes
      rfl
  | case2 => cases decodes
  | case3 position byte rest point opened ih =>
      have plain := sound_opening position byte
      rw [opened] at plain
      exact isScalar_of_map_cons plain (fun _ => ih idle) decodes
  | case4 position byte rest pending opened ih =>
      refine ih (fun other same => ?_) decodes
      cases same
      have pendingSound := sound_opening position byte
      rwa [opened] at pendingSound
  | case5 => cases decodes
  | case6 position pending byte rest within value last =>
      rename_i ih
      obtain ⟨low, high⟩ : pending.low ≤ byte ∧ byte ≤ pending.high := by simpa using within
      have plain := (sound pending rfl).complete low high last
      exact isScalar_of_map_cons plain (fun _ => ih idle) decodes
  | case7 position pending byte rest within value unfinished =>
      rename_i ih
      obtain ⟨low, high⟩ : pending.low ≤ byte ∧ byte ≤ pending.high := by simpa using within
      refine ih (fun other same => ?_) decodes
      cases same
      exact (sound pending rfl).goesOn low high unfinished
  | case8 => cases decodes

/-- What is decoded holds no surrogate. -/
theorem isScalar_of_decode {content : Bytes} {decoded : Text}
    (decodes : decode content = .ok decoded) : decoded.isScalar = true :=
  isScalar_of_decodeFrom (by simp) decodes

end Utf8

end DesignTokens
