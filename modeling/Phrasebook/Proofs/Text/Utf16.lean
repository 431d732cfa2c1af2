import Phrasebook.Proofs.Text.Utf8
import Phrasebook.Text.Utf16

/-! Text that is written as UTF-16 of either byte order is read back as it was. -/

namespace Phrasebook.Utf16

/-- Two bytes are read as one code unit before those that follow them. -/
theorem parts_cons_cons (order : ByteOrder) (high : Option Nat) (first second : UInt8)
    (rest : Bytes) :
    parts order high (first :: second :: rest) =
      (read high (order.read first second)).1 ++
        parts order (read high (order.read first second)).2 rest := by
  -- Whether a pair is under way or not, one code unit is one step.
  cases high <;> rfl

/-- The bytes of a code unit are read as that code unit, whichever of them comes first. -/
theorem parts_write (order : ByteOrder) (high : Option Nat) {unit : Nat} (small : unit < 0x10000)
    (rest : Bytes) :
    parts order high (order.write unit ++ rest) =
      (read high unit).1 ++ parts order (read high unit).2 rest := by
  -- The two bytes carry the remainder and the quotient by 256.
  have lower : (UInt8.ofNat (unit % 256)).toNat = unit % 256 := by
    rw [UInt8.toNat_ofNat']
    omega
  have upper : (UInt8.ofNat (unit / 256)).toNat = unit / 256 := by
    rw [UInt8.toNat_ofNat']
    omega
  have joined : unit % 256 + 256 * (unit / 256) = unit := by omega
  have swapped : 256 * (unit / 256) + unit % 256 = unit := by omega
  -- In which of the two orders they come decides which of the sums is read.
  cases order with
  | littleEndian =>
    simp only [ByteOrder.write, List.cons_append, List.nil_append, parts_cons_cons,
      ByteOrder.read, lower, upper, joined]
  | bigEndian =>
    simp only [ByteOrder.write, List.cons_append, List.nil_append, parts_cons_cons,
      ByteOrder.read, lower, upper, swapped]

/-- A code unit that is no surrogate is a character of its own. -/
theorem read_scalar {unit : Nat} (scalar : unit < 0xD800 ∨ 0xDFFF < unit) :
    read none unit = ([some (Char.ofNat unit)], none) := by
  -- Both kinds of surrogates are out of range.
  have notHigh : isHighSurrogate unit = false := by
    simp only [isHighSurrogate, Bool.and_eq_false_iff, decide_eq_false_iff_not]
    omega
  have notLow : isLowSurrogate unit = false := by
    simp only [isLowSurrogate, Bool.and_eq_false_iff, decide_eq_false_iff_not]
    omega
  simp [read, start, notHigh, notLow]

/-- The first surrogate of a pair is left open. -/
theorem read_high {offset : Nat} (within : offset < 0x400) :
    read none (0xD800 + offset) = ([], some (0xD800 + offset)) := by
  -- The unit is in the range of those that open a pair.
  have isHigh : isHighSurrogate (0xD800 + offset) = true := by
    simp only [isHighSurrogate, Bool.and_eq_true, decide_eq_true_eq]
    omega
  simp only [read, start, isHigh, if_true]

/-- The second surrogate of a pair completes the character. -/
theorem read_low (high : Nat) {offset : Nat} (within : offset < 0x400) :
    read (some (0xD800 + high)) (0xDC00 + offset) =
      ([some (Char.ofNat (0x10000 + high * 0x400 + offset))], none) := by
  -- The unit is in the range of those that close a pair.
  have isLow : isLowSurrogate (0xDC00 + offset) = true := by
    simp only [isLowSurrogate, Bool.and_eq_true, decide_eq_true_eq]
    omega
  simp only [read, isLow, if_true, Nat.add_sub_cancel_left]

/-- The code units that write a character are read as that character. -/
theorem parts_unitsOf (order : ByteOrder) (char : Char) (rest : Bytes) :
    parts order none ((unitsOf char).flatMap order.write ++ rest) =
      some char :: parts order none rest := by
  -- One code unit writes a character of the first plane, and two write any other.
  have scalar := Utf8.toNat_scalar char
  have whole : Char.ofNat char.toNat = char := Char.ofNat_toNat char
  unfold unitsOf
  generalize char.toNat = value at scalar whole
  split
  · -- The unit is the number of the character, and no surrogate.
    rename_i small
    simp only [List.flatMap_cons, List.flatMap_nil, List.append_nil]
    rw [parts_write order none small, read_scalar (by omega), whole, List.singleton_append]
  · -- The offset of the character has ten bits for either surrogate.
    rename_i large
    have bits : 0x10000 + (value - 0x10000) / 0x400 * 0x400 + (value - 0x10000) % 0x400 =
        value := by omega
    have upper : (value - 0x10000) / 0x400 < 0x400 := by omega
    have lower : (value - 0x10000) % 0x400 < 0x400 := by omega
    simp only [List.flatMap_cons, List.flatMap_nil, List.append_nil, List.append_assoc]
    rw [parts_write order none (by omega), read_high upper, List.nil_append,
      parts_write order _ (by omega), read_low _ lower, bits, whole, List.singleton_append]

/-- The code units that write a text are read as its characters, in the order they were written. -/
theorem parts_encode (order : ByteOrder) (text : String) :
    parts order none (encode order text) = text.toList.map some := by
  -- The code units of the first character go before those of the others.
  rw [encode]
  induction text.toList with
  | nil => rfl
  | cons char rest ih =>
    rw [List.flatMap_cons, List.flatMap_append, parts_unitsOf, ih, List.map_cons]

/-- Text that is written as UTF-16 is read back as it was. -/
theorem decodeLossy_encode (order : ByteOrder) (text : String) :
    decodeLossy order (encode order text) = text := by
  -- Every part is a character, so nothing is replaced.
  rw [decodeLossy, parts_encode]
  simp [Function.comp_def]

end Phrasebook.Utf16
