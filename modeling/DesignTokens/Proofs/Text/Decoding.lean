import DesignTokens.Proofs.Text.Utf8

/-!
# Decoding what was encoded

A code point above the ASCII range is encoded as a byte that opens a sequence and bytes that
each add six bits to its number. The bounds on the first of these let pass what is encoded, so
that a text with an encoding is decoded from it.
-/

namespace DesignTokens.Utf8

/-- A byte with which a sequence goes on, by the six bits that it adds. -/
def continuation (bits : Nat) : UInt8 :=
  UInt8.ofNat (0x80 + bits)

/-- The number that a value becomes when further bits are added. -/
def joined (value : Nat) (others : List Nat) : Nat :=
  others.foldl (fun value bits => value * 0x40 + bits) value

/-- A number that is small enough is that of its byte. -/
theorem toNat_ofNat {number : Nat} (small : number < 0x100) :
    (UInt8.ofNat number).toNat = number := by
  rw [UInt8.toNat_ofNat']
  exact Nat.mod_eq_of_lt small

/-- The last byte of a sequence completes it. -/
theorem decodeFrom_last {pending : Pending} {byte : UInt8} (last : pending.owed = 1)
    (within : pending.low ≤ byte ∧ byte ≤ pending.high) (position : Nat) (rest : Bytes) :
    decodeFrom position (some pending) (byte :: rest) =
      (decodeFrom (position + 1) none rest).map
        (Fin.ofNat 0x110000 (pending.further byte) :: ·) := by
  rw [decodeFrom, if_pos (by simp [within])]
  exact if_pos last

/-- Any other byte leaves it pending. -/
theorem decodeFrom_further {pending : Pending} {byte : UInt8} (unfinished : pending.owed ≠ 1)
    (within : pending.low ≤ byte ∧ byte ≤ pending.high) (position : Nat) (rest : Bytes) :
    decodeFrom position (some pending) (byte :: rest) =
      decodeFrom (position + 1) (some ⟨pending.first, pending.leading, 0x80, 0xBF,
        pending.owed - 1, pending.further byte⟩) rest := by
  rw [decodeFrom, if_pos (by simp [within])]
  exact if_neg unfinished

/-- A sequence takes a byte that is within its bounds, for the bits that it adds. -/
theorem Pending.takes {pending : Pending} {bits : Nat} (few : bits < 0x40)
    (low : pending.low.toNat ≤ 0x80 + bits) (high : 0x80 + bits ≤ pending.high.toNat) :
    (pending.low ≤ continuation bits ∧ continuation bits ≤ pending.high) ∧
      pending.further (continuation bits) = pending.value * 0x40 + bits := by
  have small : 0x80 + bits < 0x100 := by omega
  have number : (continuation bits).toNat = 0x80 + bits := toNat_ofNat small
  have further : pending.further (continuation bits) =
      pending.value * 0x40 + ((continuation bits).toNat - 0x80) := rfl
  refine ⟨?_, by omega⟩
  rw [UInt8.le_iff_toNat_le, UInt8.le_iff_toNat_le, number]
  exact ⟨low, high⟩

/-- A sequence that is pending is completed by the bits that it still lacks. -/
theorem decodeFrom_pending {rest : Bytes} {decoded : Text}
    (later : ∀ position, decodeFrom position none rest = .ok decoded) {bits : Nat}
    {others : List Nat} (few : ∀ each ∈ bits :: others, each < 0x40) {pending : Pending}
    (owed : pending.owed = others.length + 1) (low : pending.low.toNat ≤ 0x80 + bits)
    (high : 0x80 + bits ≤ pending.high.toNat) (position : Nat) :
    decodeFrom position (some pending) ((bits :: others).map continuation ++ rest) =
      .ok (Fin.ofNat 0x110000 (joined pending.value (bits :: others)) :: decoded) := by
  induction others generalizing bits pending position with
  | nil =>
      obtain ⟨within, adds⟩ := Pending.takes (few bits List.mem_cons_self) low high
      rw [List.map_cons, List.cons_append, decodeFrom_last owed within, adds]
      exact congrArg _ (later _)
  | cons next others ih =>
      obtain ⟨within, adds⟩ := Pending.takes (few bits List.mem_cons_self) low high
      have fewer : ∀ each ∈ next :: others, each < 0x40 := fun each member =>
        few each (List.mem_cons_of_mem _ member)
      have unfinished : pending.owed ≠ 1 := by
        rw [owed]
        simp
      rw [List.map_cons, List.cons_append, decodeFrom_further unfinished within, adds]
      -- The bounds on every byte but the second are those of any that goes on.
      refine ih fewer ?_ ?_ ?_ (position + 1)
      · rw [owed]
        rfl
      · exact Nat.le_add_right 0x80 next
      · exact Nat.le_of_lt_succ (Nat.add_lt_add_left (fewer next List.mem_cons_self) 0x80)

/-- A code point is encoded as a byte that opens a sequence and the bytes that complete it. -/
structure Spelled (point : CodePoint) (position : Nat) (pending : Pending) (bits : Nat)
    (others : List Nat) : Prop where
  bytes : encodePoint point = pending.leading :: (bits :: others).map continuation
  opens : opening position pending.leading = .sequence pending
  few : ∀ each ∈ bits :: others, each < 0x40
  owed : pending.owed = others.length + 1
  low : pending.low.toNat ≤ 0x80 + bits
  high : 0x80 + bits ≤ pending.high.toNat
  value : joined pending.value (bits :: others) = point.val

/-- A byte opens a sequence of two. -/
theorem opening_two (position : Nat) {value : Nat} (least : 2 ≤ value) (most : value < 0x20) :
    opening position (UInt8.ofNat (0xC0 + value)) =
      .sequence ⟨position, UInt8.ofNat (0xC0 + value), 0x80, 0xBF, 1, value⟩ := by
  simp only [opening, toNat_ofNat (show 0xC0 + value < 0x100 by omega)]
  rw [if_neg (by omega), if_neg (by omega), if_pos (by omega), Nat.add_sub_cancel_left]

/-- A byte opens a sequence of three, whose second byte may be any that makes it neither overlong
nor a surrogate. -/
theorem opening_three (position : Nat) {value bits : Nat} (most : value < 0x10)
    (few : bits < 0x40) (overlong : value = 0 → 0x20 ≤ bits)
    (surrogate : value = 0xD → bits < 0x20) :
    ∃ low high, opening position (UInt8.ofNat (0xE0 + value)) =
        .sequence ⟨position, UInt8.ofNat (0xE0 + value), low, high, 2, value⟩ ∧
      low.toNat ≤ 0x80 + bits ∧ 0x80 + bits ≤ high.toNat := by
  have number := toNat_ofNat (show 0xE0 + value < 0x100 by omega)
  have lowest : (0x80 : UInt8).toNat = 0x80 := rfl
  have highest : (0xBF : UInt8).toNat = 0xBF := rfl
  by_cases first : value = 0
  · subst first
    exact ⟨0xA0, 0xBF, rfl, Nat.add_le_add_left (overlong rfl) 0x80, by omega⟩
  by_cases surrogates : value = 0xD
  · subst surrogates
    exact ⟨0x80, 0x9F, rfl, by omega, Nat.le_of_lt_succ (Nat.add_lt_add_left (surrogate rfl) 0x80)⟩
  refine ⟨0x80, 0xBF, ?_, by omega, by omega⟩
  simp only [opening, number]
  rw [if_neg (by omega), if_neg (by omega), if_neg (by omega), if_neg (by omega),
    if_neg (by omega), if_pos (by omega), Nat.add_sub_cancel_left]

/-- A byte opens a sequence of four, whose second byte may be any that makes it neither overlong
nor greater than a code point. -/
theorem opening_four (position : Nat) {value bits : Nat} (most : value < 5) (few : bits < 0x40)
    (overlong : value = 0 → 0x10 ≤ bits) (beyond : value = 4 → bits < 0x10) :
    ∃ low high, opening position (UInt8.ofNat (0xF0 + value)) =
        .sequence ⟨position, UInt8.ofNat (0xF0 + value), low, high, 3, value⟩ ∧
      low.toNat ≤ 0x80 + bits ∧ 0x80 + bits ≤ high.toNat := by
  have number := toNat_ofNat (show 0xF0 + value < 0x100 by omega)
  have lowest : (0x80 : UInt8).toNat = 0x80 := rfl
  have highest : (0xBF : UInt8).toNat = 0xBF := rfl
  by_cases first : value = 0
  · subst first
    exact ⟨0x90, 0xBF, rfl, Nat.add_le_add_left (overlong rfl) 0x80, by omega⟩
  by_cases last : value = 4
  · subst last
    exact ⟨0x80, 0x8F, rfl, by omega, Nat.le_of_lt_succ (Nat.add_lt_add_left (beyond rfl) 0x80)⟩
  refine ⟨0x80, 0xBF, ?_, by omega, by omega⟩
  simp only [opening, number]
  rw [if_neg (by omega), if_neg (by omega), if_neg (by omega), if_neg (by omega),
    if_neg (by omega), if_neg (by omega), if_neg (by omega), if_pos (by omega),
    Nat.add_sub_cancel_left]

/-- Every code point above the ASCII range is encoded as such a sequence, unless it is a
surrogate. -/
theorem exists_spelled {point : CodePoint} (plain : point.isSurrogate = false)
    (large : 0x80 ≤ point.val) (position : Nat) :
    ∃ pending bits others, Spelled point position pending bits others := by
  have bound := point.isLt
  have outside : 0xD800 ≤ point.val → 0xDFFF < point.val := by
    simpa [CodePoint.isSurrogate] using plain
  by_cases two : point.val < 0x800
  · refine ⟨⟨position, _, 0x80, 0xBF, 1, point.val / 0x40⟩, point.val % 0x40, [],
      ?_, opening_two position (by omega) (by omega), ?_, rfl, ?_, ?_, ?_⟩
    · rw [encodePoint, if_neg (by omega), if_pos two]
      rfl
    · simp
      omega
    · simp
    · simp
      omega
    · simp [joined]
      omega
  by_cases three : point.val < 0x10000
  · obtain ⟨low, high, opens, least, most⟩ :=
      opening_three position (show point.val / 0x1000 < 0x10 by omega)
        (show point.val / 0x40 % 0x40 < 0x40 by omega) (by omega) (by omega)
    refine ⟨⟨position, _, low, high, 2, point.val / 0x1000⟩, point.val / 0x40 % 0x40,
      [point.val % 0x40], ?_, opens, ?_, rfl, least, most, ?_⟩
    · rw [encodePoint, if_neg (by omega), if_neg two, if_pos three]
      rfl
    · simp
      omega
    · simp [joined]
      omega
  · obtain ⟨low, high, opens, least, most⟩ :=
      opening_four position (show point.val / 0x40000 < 5 by omega)
        (show point.val / 0x1000 % 0x40 < 0x40 by omega) (by omega) (by omega)
    refine ⟨⟨position, _, low, high, 3, point.val / 0x40000⟩, point.val / 0x1000 % 0x40,
      [point.val / 0x40 % 0x40, point.val % 0x40], ?_, opens, ?_, rfl, least, most, ?_⟩
    · rw [encodePoint, if_neg (by omega), if_neg two, if_neg three]
      rfl
    · simp
      omega
    · simp [joined]
      omega

/-- A code point that is no surrogate is decoded from its bytes, before whatever the rest is. -/
theorem decodeFrom_encodePoint {point : CodePoint} {rest : Bytes} {decoded : Text}
    (plain : point.isSurrogate = false)
    (later : ∀ position, decodeFrom position none rest = .ok decoded) (position : Nat) :
    decodeFrom position none (encodePoint point ++ rest) = .ok (point :: decoded) := by
  by_cases ascii : point.val < 0x80
  · have bytes : encodePoint point = [UInt8.ofNat point.val] := by rw [encodePoint, if_pos ascii]
    have opens : opening position (UInt8.ofNat point.val) = .ascii point := by
      simp only [opening, toNat_ofNat (show point.val < 0x100 by omega), ascii, if_true]
      exact congrArg Opening.ascii (Fin.ofNat_val_eq_self point)
    simp [bytes, decodeFrom, opens, later, Except.map]
  · obtain ⟨pending, bits, others, spelled⟩ :=
      exists_spelled plain (Nat.le_of_not_lt ascii) position
    rw [spelled.bytes, List.cons_append, decodeFrom, spelled.opens]
    simp only
    rw [decodeFrom_pending later spelled.few spelled.owed spelled.low spelled.high, spelled.value,
      Fin.ofNat_val_eq_self]

/-- A text is decoded from its encoding. -/
theorem decode_of_encode {content : Text} {bytes : Bytes}
    (encoding : encode content = .ok bytes) : decode bytes = .ok content := by
  have scalar := exists_encode_iff.mp ⟨bytes, encoding⟩
  have spelled : bytes = content.flatMap encodePoint := by
    rw [encode, encodeFault?_eq_none_iff.mpr scalar] at encoding
    exact (Except.ok.inj encoding).symm
  clear encoding
  subst spelled
  have anywhere : ∀ position, decodeFrom position none (content.flatMap encodePoint) =
      .ok content := by
    induction content with
    | nil => exact fun _ => rfl
    | cons point rest ih =>
        simp only [Text.isScalar_cons, Bool.and_eq_true, Bool.not_eq_true'] at scalar
        exact decodeFrom_encodePoint scalar.1 (ih scalar.2)
  exact anywhere 0

end DesignTokens.Utf8
