import Mathlib.Tactic.SplitIfs
import Phrasebook.Proofs.Text.Utf8

/-! The bytes that are read as UTF-8 are those that write a text, and no others. -/

namespace Phrasebook.Utf8

/-- The character of a scalar value has that number. -/
theorem toNat_ofNat {value : Nat} (scalar : value.isValidChar) :
    (Char.ofNat value).toNat = value := by
  -- A scalar value is kept as it is.
  rw [Char.ofNat, dif_pos scalar]
  rfl

/-- A byte is told by its number. -/
theorem ofNat_eq_of_toNat {byte : UInt8} {value : Nat} (same : value = byte.toNat) :
    UInt8.ofNat value = byte := by
  -- The number fits into the byte, since it comes from one.
  rw [same, UInt8.ofNat_toNat]

/-- The bytes that write a character are told by its number. -/
theorem utf8EncodeChar_ofNat {value : Nat} (scalar : value.isValidChar) :
    String.utf8EncodeChar (Char.ofNat value) =
      if value ≤ 0x7F then [UInt8.ofNat value]
      else if value ≤ 0x7FF then
        [UInt8.ofNat (value / 64 % 0x20 + 0xC0), UInt8.ofNat (value % 0x40 + 0x80)]
      else if value ≤ 0xFFFF then
        [UInt8.ofNat (value / 4096 % 0x10 + 0xE0), UInt8.ofNat (value / 64 % 0x40 + 0x80),
          UInt8.ofNat (value % 0x40 + 0x80)]
      else
        [UInt8.ofNat (value / 262144 % 0x08 + 0xF0), UInt8.ofNat (value / 4096 % 0x40 + 0x80),
          UInt8.ofNat (value / 64 % 0x40 + 0x80), UInt8.ofNat (value % 0x40 + 0x80)] := by
  -- The ranges are those of the number, which the character has kept.
  have number : (Char.ofNat value).val.toNat = value := toNat_ofNat scalar
  unfold String.utf8EncodeChar
  rw [number]

/-- A character below 128 is written as its own number. -/
theorem utf8EncodeChar_one {byte : UInt8} (ascii : byte.toNat < 0x80) :
    String.utf8EncodeChar (Char.ofNat byte.toNat) = [byte] := by
  -- The number is in the first range.
  have valid : byte.toNat.isValidChar := Or.inl (by omega)
  rw [utf8EncodeChar_ofNat valid, if_pos (by omega), UInt8.ofNat_toNat]

/-- The two bytes whose bits make up a character are those that write it. -/
theorem utf8EncodeChar_two {lead last : UInt8} {value : Nat}
    (bits : value = (lead.toNat - 0xC0) * 64 + (last.toNat - 0x80))
    (leads : 0xC2 ≤ lead.toNat ∧ lead.toNat < 0xE0)
    (continues : 0x80 ≤ last.toNat ∧ last.toNat ≤ 0xBF) :
    String.utf8EncodeChar (Char.ofNat value) = [lead, last] := by
  -- The bits in which the number is cut are those that the two bytes have brought.
  have valid : value.isValidChar := Or.inl (by omega)
  have one : UInt8.ofNat (value / 64 % 0x20 + 0xC0) = lead := ofNat_eq_of_toNat (by omega)
  have two : UInt8.ofNat (value % 0x40 + 0x80) = last := ofNat_eq_of_toNat (by omega)
  rw [utf8EncodeChar_ofNat valid, if_neg (by omega), if_pos (by omega), one, two]

/-- The three bytes whose bits make up a character are those that write it. -/
theorem utf8EncodeChar_three {lead next last : UInt8} {value : Nat}
    (bits : value = ((lead.toNat - 0xE0) * 64 + (next.toNat - 0x80)) * 64 + (last.toNat - 0x80))
    (leads : 0xE0 ≤ lead.toNat ∧ lead.toNat < 0xF0)
    (follows : 0x80 ≤ next.toNat ∧ next.toNat ≤ 0xBF)
    (shortest : lead.toNat = 0xE0 → 0xA0 ≤ next.toNat)
    (scalar : lead.toNat = 0xED → next.toNat ≤ 0x9F)
    (continues : 0x80 ≤ last.toNat ∧ last.toNat ≤ 0xBF) :
    String.utf8EncodeChar (Char.ofNat value) = [lead, next, last] := by
  -- The second byte is bounded, so the number needs three bytes and is no surrogate.
  have valid : value.isValidChar := by
    unfold Nat.isValidChar
    omega
  -- Each byte has the bits that it has brought.
  have one : UInt8.ofNat (value / 4096 % 0x10 + 0xE0) = lead := ofNat_eq_of_toNat (by omega)
  have two : UInt8.ofNat (value / 64 % 0x40 + 0x80) = next := ofNat_eq_of_toNat (by omega)
  have three : UInt8.ofNat (value % 0x40 + 0x80) = last := ofNat_eq_of_toNat (by omega)
  rw [utf8EncodeChar_ofNat valid, if_neg (by omega), if_neg (by omega), if_pos (by omega), one,
    two, three]

/-- The four bytes whose bits make up a character are those that write it. -/
theorem utf8EncodeChar_four {lead next third last : UInt8} {value : Nat}
    (bits : value = (((lead.toNat - 0xF0) * 64 + (next.toNat - 0x80)) * 64 +
      (third.toNat - 0x80)) * 64 + (last.toNat - 0x80))
    (leads : 0xF0 ≤ lead.toNat ∧ lead.toNat < 0xF5)
    (follows : 0x80 ≤ next.toNat ∧ next.toNat ≤ 0xBF)
    (shortest : lead.toNat = 0xF0 → 0x90 ≤ next.toNat)
    (scalar : lead.toNat = 0xF4 → next.toNat ≤ 0x8F)
    (further : 0x80 ≤ third.toNat ∧ third.toNat ≤ 0xBF)
    (continues : 0x80 ≤ last.toNat ∧ last.toNat ≤ 0xBF) :
    String.utf8EncodeChar (Char.ofNat value) = [lead, next, third, last] := by
  -- The second byte is bounded, so the number needs four bytes and is not beyond the last plane.
  have valid : value.isValidChar := by
    unfold Nat.isValidChar
    omega
  -- The bits of the number are divided among the bytes as they came.
  have one : UInt8.ofNat (value / 262144 % 0x08 + 0xF0) = lead := ofNat_eq_of_toNat (by omega)
  have two : UInt8.ofNat (value / 4096 % 0x40 + 0x80) = next := ofNat_eq_of_toNat (by omega)
  have three : UInt8.ofNat (value / 64 % 0x40 + 0x80) = third := ofNat_eq_of_toNat (by omega)
  have four : UInt8.ofNat (value % 0x40 + 0x80) = last := ofNat_eq_of_toNat (by omega)
  rw [utf8EncodeChar_ofNat valid, if_neg (by omega), if_neg (by omega), if_neg (by omega), one,
    two, three, four]

/-- A first byte is a character, or malformed, or it announces two, three or four bytes in all. -/
theorem start_cases (byte : Nat) :
    (byte < 0x80 ∧ start byte = ([some (Char.ofNat byte)], .idle)) ∨
    start byte = ([none], .idle) ∨
    ((0xC2 ≤ byte ∧ byte < 0xE0) ∧ start byte = ([], .partway 1 0x80 0xBF (byte - 0xC0))) ∨
    (∃ low high, (0xE0 ≤ byte ∧ byte < 0xF0) ∧
      start byte = ([], .partway 2 low high (byte - 0xE0)) ∧
      0x80 ≤ low ∧ high ≤ 0xBF ∧ (byte = 0xE0 → 0xA0 ≤ low) ∧ (byte = 0xED → high ≤ 0x9F)) ∨
    ∃ low high, (0xF0 ≤ byte ∧ byte < 0xF5) ∧
      start byte = ([], .partway 3 low high (byte - 0xF0)) ∧
      0x80 ≤ low ∧ high ≤ 0xBF ∧ (byte = 0xF0 → 0x90 ≤ low) ∧ (byte = 0xF4 → high ≤ 0x8F) := by
  -- The ranges are gone through in the order in which they are tried.
  unfold start
  by_cases ascii : byte < 0x80
  · exact Or.inl ⟨ascii, if_pos ascii⟩
  right
  rw [if_neg ascii]
  by_cases early : byte < 0xC2
  · exact Or.inl (if_pos early)
  rw [if_neg early]
  by_cases two : byte < 0xE0
  · exact Or.inr (Or.inl ⟨⟨by omega, two⟩, if_pos two⟩)
  rw [if_neg two]
  by_cases three : byte < 0xF0
  · -- Two first bytes of three narrow the bounds of the second.
    right; right; left
    by_cases least : byte = 0xE0
    · exact ⟨0xA0, 0xBF, by omega, by rw [if_pos least, least], by omega⟩
    rw [if_neg least]
    by_cases surrogates : byte = 0xED
    · exact ⟨0x80, 0x9F, by omega, by rw [if_pos surrogates, surrogates], by omega⟩
    · exact ⟨0x80, 0xBF, by omega, by rw [if_neg surrogates, if_pos three], by omega⟩
  have beyond : ¬ byte = 0xE0 ∧ ¬ byte = 0xED := by omega
  rw [if_neg beyond.1, if_neg beyond.2, if_neg three]
  by_cases four : byte < 0xF5
  · -- Two first bytes of four do as well.
    right; right; right
    by_cases least : byte = 0xF0
    · exact ⟨0x90, 0xBF, by omega, by rw [if_pos least, least], by omega⟩
    rw [if_neg least]
    by_cases last : byte = 0xF4
    · exact ⟨0x80, 0x8F, by omega, by rw [if_neg (by omega), if_pos last, last], by omega⟩
    · exact ⟨0x80, 0xBF, by omega, by rw [if_pos (by omega)], by omega⟩
  · rw [if_neg (by omega), if_neg (by omega), if_neg (by omega)]
    exact Or.inl rfl

/-- Where a character is under way, the next byte continues it or a malformed part is found. -/
theorem parts_partway_eq_cons {missing low high point : Nat} {bytes : Bytes} {char : Char}
    {later : List (Option Char)}
    (read : parts (.partway missing low high point) bytes = some char :: later) :
    ∃ byte rest, bytes = byte :: rest ∧ low ≤ byte.toNat ∧ byte.toNat ≤ high ∧
      if missing = 1 then
        char = Char.ofNat (point * 64 + (byte.toNat - 0x80)) ∧ parts .idle rest = later
      else
        parts (.partway (missing - 1) 0x80 0xBF (point * 64 + (byte.toNat - 0x80))) rest =
          some char :: later := by
  -- A character is read in the end, so the next byte cannot be missing or out of bounds.
  cases bytes with
  | nil => simp [parts] at read
  | cons byte rest =>
    rw [parts_cons, Pending.read] at read
    by_cases within : low ≤ byte.toNat ∧ byte.toNat ≤ high
    · refine ⟨byte, rest, rfl, within.1, within.2, ?_⟩
      rw [if_pos within] at read
      -- The byte completes the character, or leaves one byte less to come.
      split_ifs at read ⊢ with last
      · simpa [eq_comm] using read
      · simpa using read
    · -- A byte out of bounds would make a malformed part come first.
      rw [if_neg within] at read
      simp at read

/-- A character that is read first stands first in the bytes, as it would be written. -/
theorem parts_idle_eq_cons {bytes : Bytes} {char : Char} {later : List (Option Char)}
    (read : parts .idle bytes = some char :: later) :
    ∃ rest, bytes = String.utf8EncodeChar char ++ rest ∧ parts .idle rest = later := by
  -- The first byte tells how many there are, and each later one brings six bits.
  cases bytes with
  | nil => simp [parts] at read
  | cons lead bytes =>
    rw [parts_cons, Pending.read] at read
    -- As many bytes are taken off as the first one announces.
    rcases start_cases lead.toNat with ⟨ascii, starts⟩ | starts | ⟨leads, starts⟩ |
      ⟨low, high, leads, starts, least, most, shortest, scalar⟩ |
      ⟨low, high, leads, starts, least, most, shortest, scalar⟩
    · -- One byte is the whole character.
      simp only [starts, List.singleton_append, List.cons.injEq, Option.some.injEq] at read
      obtain ⟨rfl, onward⟩ := read
      exact ⟨bytes, by rw [utf8EncodeChar_one ascii, List.singleton_append], onward⟩
    · -- What is malformed is no character.
      simp [starts] at read
    · -- Two bytes.
      simp only [starts, List.nil_append] at read
      obtain ⟨last, bytes, rfl, above, below, read⟩ := parts_partway_eq_cons read
      simp only [if_true] at read
      have written := utf8EncodeChar_two rfl leads ⟨above, below⟩
      exact ⟨bytes, by rw [read.1, written]; rfl, read.2⟩
    · -- Three bytes, of which the first may narrow the bounds of the second.
      simp only [starts, List.nil_append] at read
      obtain ⟨next, bytes, rfl, above, below, read⟩ := parts_partway_eq_cons read
      obtain ⟨last, bytes, rfl, lastAbove, lastBelow, read⟩ := parts_partway_eq_cons read
      simp only [if_true] at read
      have written := utf8EncodeChar_three rfl leads
        ⟨Nat.le_trans least above, Nat.le_trans below most⟩
        (fun first => Nat.le_trans (shortest first) above)
        (fun first => Nat.le_trans below (scalar first)) ⟨lastAbove, lastBelow⟩
      exact ⟨bytes, by rw [read.1, written]; rfl, read.2⟩
    · -- Four bytes, likewise.
      simp only [starts, List.nil_append] at read
      obtain ⟨next, bytes, rfl, above, below, read⟩ := parts_partway_eq_cons read
      obtain ⟨third, bytes, rfl, thirdAbove, thirdBelow, read⟩ := parts_partway_eq_cons read
      obtain ⟨last, bytes, rfl, lastAbove, lastBelow, read⟩ := parts_partway_eq_cons read
      simp only [if_true] at read
      have written := utf8EncodeChar_four rfl leads
        ⟨Nat.le_trans least above, Nat.le_trans below most⟩
        (fun first => Nat.le_trans (shortest first) above)
        (fun first => Nat.le_trans below (scalar first)) ⟨thirdAbove, thirdBelow⟩
        ⟨lastAbove, lastBelow⟩
      exact ⟨bytes, by rw [read.1, written]; rfl, read.2⟩

/-- A character that is under way is completed or malformed, so something is read. -/
theorem parts_partway_ne_nil (missing low high point : Nat) (bytes : Bytes) :
    parts (.partway missing low high point) bytes ≠ [] := by
  -- The induction is on the bytes, as long as they continue the character.
  induction bytes generalizing missing low high point with
  | nil => simp [parts]
  | cons byte bytes ih =>
    rw [parts_cons, Pending.read]
    split_ifs with within last
    · simp
    · -- Only here more bytes are waited for.
      exact ih _ _ _ _
    · simp

/-- Only where there are no bytes nothing is read. -/
theorem eq_nil_of_parts_idle {bytes : Bytes} (read : parts .idle bytes = []) : bytes = [] := by
  -- A first byte is read as something, or announces bytes that something is made of.
  cases bytes with
  | nil => rfl
  | cons lead bytes =>
    rw [parts_cons, Pending.read] at read
    obtain ⟨nothing, read⟩ := List.append_eq_nil_iff.mp read
    rcases start_cases lead.toNat with ⟨_, starts⟩ | starts | ⟨_, starts⟩ | ⟨_, _, _, starts, _⟩ |
      ⟨_, _, _, starts, _⟩
    · simp [starts] at nothing
    · simp [starts] at nothing
    -- What is announced is read as a character or as malformed.
    all_goals exact absurd (starts ▸ read) (parts_partway_ne_nil _ _ _ _ _)

/-- Bytes in which nothing is malformed are those that write their characters. -/
theorem eq_flatMap_of_parts {bytes : Bytes} {chars : List Char}
    (read : parts .idle bytes = chars.map some) : bytes = chars.flatMap String.utf8EncodeChar := by
  -- One character after another is taken off the bytes.
  induction chars generalizing bytes with
  | nil => exact eq_nil_of_parts_idle read
  | cons char chars ih =>
    obtain ⟨rest, rfl, onward⟩ := parts_idle_eq_cons read
    rw [List.flatMap_cons, ih onward]

/-- Parts are taken for a text exactly if they are its characters. -/
theorem mapM_id_eq_some_iff {parts : List (Option Char)} {chars : List Char} :
    parts.mapM id = some chars ↔ parts = chars.map some := by
  -- The first part must be a character, and the first one of the text.
  induction parts generalizing chars with
  | nil => cases chars <;> simp
  | cons part parts ih =>
    rw [List.mapM_cons]
    cases part with
    | none => cases chars <;> simp
    | some char =>
      cases chars with
      | nil => simp [Option.bind_eq_some_iff]
      | cons other chars => simpa [Option.bind_eq_some_iff, ih] using and_comm

/-- Bytes are read as a text exactly if they are those that write it. -/
theorem decode?_eq_some_iff {bytes : Bytes} {text : String} :
    decode? bytes = some text ↔ bytes = encode text := by
  -- What is read holds no malformed part, and what is written has none.
  constructor
  · intro read
    obtain ⟨chars, whole, rfl⟩ := Option.map_eq_some_iff.mp read
    rw [encode, String.toList_ofList]
    exact eq_flatMap_of_parts (mapM_id_eq_some_iff.mp whole)
  · rintro rfl
    exact decode?_encode text

/-- Bytes are no text exactly if they are not those that write one. -/
theorem decode?_eq_none_iff {bytes : Bytes} :
    decode? bytes = none ↔ ∀ text, bytes ≠ encode text := by
  -- Nothing is read exactly if no text is.
  rw [Option.eq_none_iff_forall_ne_some]
  simp only [ne_eq, decode?_eq_some_iff]

/-- As many bytes write a text as it takes up in memory. -/
theorem length_encode (text : String) : (encode text).length = text.utf8ByteSize := by
  -- The bytes are those that the text is kept in.
  rw [String.utf8ByteSize, ← String.utf8Encode_toList]
  simp [encode, List.utf8Encode]

/-- A byte below 128 writes the character of its own number and is part of no other. -/
theorem mem_utf8EncodeChar_iff {byte : UInt8} (ascii : byte.toNat < 0x80) {char : Char} :
    byte ∈ String.utf8EncodeChar char ↔ char.toNat = byte.toNat := by
  -- All bytes of a longer character have their highest bit set.
  have number : char.val.toNat = char.toNat := rfl
  have other : ∀ value, 0x80 ≤ value % 256 → byte ≠ UInt8.ofNat value := by
    intro value high same
    rw [same, UInt8.toNat_ofNat'] at ascii
    omega
  have own : ∀ value < 0x80, byte = UInt8.ofNat value ↔ value = byte.toNat := by
    intro value small
    rw [← UInt8.toNat_inj, UInt8.toNat_ofNat']
    omega
  -- The only byte of a character below 128 is its number.
  simp only [String.utf8EncodeChar, number]
  split_ifs with one two three
  · rw [List.mem_singleton, own _ (by omega)]
  all_goals
    have beyond : char.toNat ≠ byte.toNat := by omega
    simp only [List.mem_cons, List.not_mem_nil, or_false, beyond, iff_false, not_or]
  · exact ⟨other _ (by omega), other _ (by omega)⟩
  · exact ⟨other _ (by omega), other _ (by omega), other _ (by omega)⟩
  · exact ⟨other _ (by omega), other _ (by omega), other _ (by omega), other _ (by omega)⟩

/-- A byte below 128 is written exactly with the character of its own number. -/
theorem mem_encode_iff {byte : UInt8} (ascii : byte.toNat < 0x80) {text : String} :
    byte ∈ encode text ↔ Char.ofNat byte.toNat ∈ text.toList := by
  -- A character that the byte writes has its number.
  simp only [encode, List.mem_flatMap, mem_utf8EncodeChar_iff ascii]
  constructor
  · rintro ⟨char, inside, number⟩
    rwa [← number, Char.ofNat_toNat]
  · intro inside
    exact ⟨_, inside, toNat_ofNat (Or.inl (by omega))⟩

end Phrasebook.Utf8
