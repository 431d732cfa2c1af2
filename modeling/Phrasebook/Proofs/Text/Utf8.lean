import Mathlib.Tactic.SplitIfs
import Phrasebook.Text.Utf8

/-! Text that is written as UTF-8 is read back as it was. -/

namespace Phrasebook.Utf8

/-- The number of a character is a scalar value: neither a surrogate nor beyond the last plane. -/
theorem toNat_scalar (char : Char) :
    char.toNat < 0xD800 ∨ 0xDFFF < char.toNat ∧ char.toNat < 0x110000 :=
  char.valid

/-- A byte that continues a character carries six bits. -/
theorem toNat_continuation (value : Nat) :
    (UInt8.ofNat (value % 0x40 + 0x80)).toNat = value % 64 + 0x80 := by
  -- The number fits into a byte.
  rw [UInt8.toNat_ofNat']
  omega

/-- A byte is read before those that follow it. -/
theorem parts_cons (pending : Pending) (byte : UInt8) (rest : Bytes) :
    parts pending (byte :: rest) =
      (pending.read byte.toNat).1 ++ parts (pending.read byte.toNat).2 rest := by
  -- Whether a character is under way or not, one byte is one step.
  cases pending <;> rfl

/-- The last byte of a character completes it. -/
theorem parts_last {low high point value : Nat} (rest : Bytes)
    (above : low ≤ value % 64 + 0x80) (below : value % 64 + 0x80 ≤ high) :
    parts (.partway 1 low high point) (UInt8.ofNat (value % 0x40 + 0x80) :: rest) =
      some (Char.ofNat (point * 64 + value % 64)) :: parts .idle rest := by
  -- It is within the bounds, and no byte is missing after it.
  rw [parts_cons, toNat_continuation, Pending.read, if_pos ⟨above, below⟩, Nat.add_sub_cancel]
  rfl

/-- Any other byte after the first adds its bits to what is known of the character. -/
theorem parts_further {missing low high point value : Nat} (rest : Bytes)
    (several : 2 ≤ missing)
    (above : low ≤ value % 64 + 0x80) (below : value % 64 + 0x80 ≤ high) :
    parts (.partway missing low high point) (UInt8.ofNat (value % 0x40 + 0x80) :: rest) =
      parts (.partway (missing - 1) 0x80 0xBF (point * 64 + value % 64)) rest := by
  -- It is within the bounds, and the bytes after it may be any that continue a character.
  have more : missing ≠ 1 := by omega
  rw [parts_cons, toNat_continuation, Pending.read, if_pos ⟨above, below⟩, Nat.add_sub_cancel]
  simp only [if_neg more, List.nil_append]

/-- A first byte below the last one is read as its number says. -/
theorem parts_lead {lead low high missing point : Nat} (rest : Bytes) (small : lead < 256)
    (starts : start lead = ([], .partway missing low high point)) :
    parts .idle (UInt8.ofNat lead :: rest) = parts (.partway missing low high point) rest := by
  -- A first byte that leaves some missing completes nothing.
  have byte : (UInt8.ofNat lead).toNat = lead := by
    rw [UInt8.toNat_ofNat']
    omega
  rw [parts_cons, byte, Pending.read, starts, List.nil_append]

/-- The first byte of two leaves one missing. -/
theorem start_two {value : Nat} (above : 0x80 ≤ value) (below : value ≤ 0x7FF) :
    start (value / 64 % 0x20 + 0xC0) = ([], .partway 1 0x80 0xBF (value / 64)) := by
  -- The byte is between those that continue a character and those that leave two missing.
  have point : value / 64 % 0x20 + 0xC0 - 0xC0 = value / 64 := by omega
  rw [start, if_neg (by omega), if_neg (by omega), if_pos (by omega), point]

/-- The first byte of three leaves two missing, of which the next is within the bounds. -/
theorem start_three {value : Nat} (above : 0x800 ≤ value) (below : value ≤ 0xFFFF)
    (scalar : value < 0xD800 ∨ 0xDFFF < value ∧ value < 0x110000) :
    ∃ low high, start (value / 4096 % 0x10 + 0xE0) = ([], .partway 2 low high (value / 4096)) ∧
      low ≤ value / 64 % 64 + 0x80 ∧ value / 64 % 64 + 0x80 ≤ high := by
  -- The bounds are narrower for the first byte that allows longer spellings or surrogates.
  have lead : value / 4096 % 0x10 + 0xE0 = value / 4096 + 0xE0 := by omega
  rw [lead, start, if_neg (by omega), if_neg (by omega), if_neg (by omega)]
  -- Neither bound excludes a byte that the value gives.
  split_ifs with first surrogates
  · exact ⟨0xA0, 0xBF, by simp; omega, by omega, by omega⟩
  · exact ⟨0x80, 0x9F, by simp; omega, by omega, by omega⟩
  · exact ⟨0x80, 0xBF, by simp, by omega, by omega⟩
  all_goals omega

/-- The first byte of four leaves three missing, of which the next is within the bounds. -/
theorem start_four {value : Nat} (above : 0x10000 ≤ value) (below : value < 0x110000) :
    ∃ low high, start (value / 262144 % 0x08 + 0xF0) =
        ([], .partway 3 low high (value / 262144)) ∧
      low ≤ value / 4096 % 64 + 0x80 ∧ value / 4096 % 64 + 0x80 ≤ high := by
  -- The bounds are narrower for the first byte that allows longer spellings or no character.
  have lead : value / 262144 % 0x08 + 0xF0 = value / 262144 + 0xF0 := by omega
  rw [lead, start, if_neg (by omega), if_neg (by omega), if_neg (by omega), if_neg (by omega),
    if_neg (by omega), if_neg (by omega)]
  -- The value keeps within these bounds too, as it is below the end of the last plane.
  split_ifs with first middle last
  · exact ⟨0x90, 0xBF, by simp; omega, by omega, by omega⟩
  · exact ⟨0x80, 0xBF, by simp, by omega, by omega⟩
  · exact ⟨0x80, 0x8F, by simp; omega, by omega, by omega⟩
  all_goals omega

/-- The bytes that write a character are read as that character. -/
theorem parts_utf8EncodeChar (char : Char) (rest : Bytes) :
    parts .idle (String.utf8EncodeChar char ++ rest) = some char :: parts .idle rest := by
  -- The number of bytes is settled by the number of the character.
  have scalar := toNat_scalar char
  have whole : Char.ofNat char.toNat = char := Char.ofNat_toNat char
  have number : char.val.toNat = char.toNat := rfl
  unfold String.utf8EncodeChar
  simp only [number]
  generalize char.toNat = value at scalar whole
  -- Six bits are within the bounds of any byte that is not the second.
  have continues : ∀ part, 0x80 ≤ part % 64 + 0x80 ∧ part % 64 + 0x80 ≤ 0xBF := by omega
  split_ifs with one two three
  · -- An ASCII character is its own byte.
    have small : (UInt8.ofNat value).toNat = value := by
      rw [UInt8.toNat_ofNat']
      omega
    have ascii : start value = ([some (Char.ofNat value)], .idle) := by
      rw [start, if_pos (by omega)]
    rw [List.singleton_append, parts_cons, small, Pending.read, ascii, whole]
    rfl
  · -- Two bytes carry eleven bits.
    have bits : value / 64 * 64 + value % 64 = value := by omega
    simp only [List.cons_append, List.nil_append]
    rw [parts_lead _ (by omega) (start_two (by omega) (by omega)),
      parts_last _ (continues _).1 (continues _).2, bits, whole]
  · -- Three bytes carry sixteen bits.
    obtain ⟨low, high, starts, above, below⟩ := start_three (by omega) (by omega) scalar
    have bits : (value / 4096 * 64 + value / 64 % 64) * 64 + value % 64 = value := by omega
    simp only [List.cons_append, List.nil_append]
    rw [parts_lead _ (by omega) starts, parts_further _ (by omega) above below,
      parts_last _ (continues _).1 (continues _).2, bits, whole]
  · -- Four bytes carry twenty-one bits.
    have beyond : 0x10000 ≤ value := by omega
    obtain ⟨low, high, starts, above, below⟩ := start_four beyond (by omega)
    have bits : ((value / 262144 * 64 + value / 4096 % 64) * 64 + value / 64 % 64) * 64 +
        value % 64 = value := by omega
    simp only [List.cons_append, List.nil_append]
    rw [parts_lead _ (by omega) starts, parts_further _ (by decide) above below,
      parts_further _ (by decide : 2 ≤ 3 - 1) (continues _).1 (continues _).2,
      parts_last _ (continues _).1 (continues _).2, bits, whole]

/-- The bytes that write a text are read as its characters. -/
theorem parts_encode (text : String) : parts .idle (encode text) = text.toList.map some := by
  -- The bytes of the first character go before those of the others.
  rw [encode]
  induction text.toList with
  | nil => rfl
  | cons char rest ih => rw [List.flatMap_cons, parts_utf8EncodeChar, ih, List.map_cons]

/-- Text that is written as UTF-8 is read back as it was. -/
theorem decode?_encode (text : String) : decode? (encode text) = some text := by
  -- Every part is a character, so none is malformed.
  have whole : ∀ chars : List Char, (chars.map some).mapM id = some chars := by
    intro chars
    induction chars with
    | nil => rfl
    | cons char rest ih => simp [List.mapM_cons, ih]
  rw [decode?, parts_encode, whole, Option.map_some, String.ofList_toList]

end Phrasebook.Utf8
