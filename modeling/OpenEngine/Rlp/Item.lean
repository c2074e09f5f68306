import Mathlib.Data.Nat.Digits.Lemmas

/-!
# Recursive length prefix

Items, their one canonical encoding and a strict decoder. The decoder refuses every other spelling:
long forms of short lengths, leading zeros in a length, and a prefix on a byte that stands for
itself. Decoding an encoding gives the item back in front of every suffix.
-/

namespace Rlp

/-- Big-endian base-256 digits without leading zeros. -/
def bigEndian (value : Nat) : List UInt8 := ((Nat.digits 256 value).map UInt8.ofNat).reverse

/-- The value of big-endian base-256 digits. -/
def ofBigEndian (bytes : List UInt8) : Nat := Nat.ofDigits 256 (bytes.reverse.map UInt8.toNat)

/-- Digits below the base survive the passage through bytes. -/
theorem toNat_ofNat_digits (value : Nat) :
    ((Nat.digits 256 value).map UInt8.ofNat).map UInt8.toNat = Nat.digits 256 value := by
  have same : ∀ digit ∈ Nat.digits 256 value, (UInt8.toNat ∘ UInt8.ofNat) digit = id digit := by
    intro digit digitMem
    have below : digit < 256 := Nat.digits_lt_base (by decide) digitMem
    exact UInt8.toNat_ofNat_of_lt' below
  rw [List.map_map, List.map_congr_left same, List.map_id]

/-- Reading the digits of a value gives the value. -/
@[simp]
theorem ofBigEndian_bigEndian (value : Nat) : ofBigEndian (bigEndian value) = value := by
  unfold ofBigEndian bigEndian
  rw [List.reverse_reverse, toNat_ofNat_digits, Nat.ofDigits_digits]

/-- A value below `256 ^ width` takes at most `width` digits. -/
theorem length_bigEndian_le {value width : Nat} (below : value < 256 ^ width) :
    (bigEndian value).length ≤ width := by
  unfold bigEndian
  rw [List.length_reverse, List.length_map]
  exact (Nat.digits_length_le_iff (by decide) value).mpr below

/-- Only zero has no digits. -/
theorem bigEndian_ne_nil {value : Nat} (positive : 0 < value) : bigEndian value ≠ [] := by
  unfold bigEndian
  intro empty
  have noDigits : Nat.digits 256 value = [] := by simpa using empty
  have zero : value = 0 := Nat.digits_eq_nil_iff_eq_zero.mp noDigits
  omega

/-- The first digit is not zero. -/
theorem head_bigEndian {value : Nat} : (bigEndian value).head? ≠ some 0 := by
  intro leading
  unfold bigEndian at leading
  rw [List.head?_reverse, List.getLast?_map, Option.map_eq_some_iff] at leading
  obtain ⟨digit, last, zero⟩ := leading
  have digitMem : digit ∈ Nat.digits 256 value := List.mem_of_getLast? last
  have below : digit < 256 := Nat.digits_lt_base (by decide) digitMem
  have digitZero : digit = 0 := by
    have cast := congrArg UInt8.toNat zero
    rwa [UInt8.toNat_ofNat_of_lt' below] at cast
  have nonzero : value ≠ 0 := by
    intro isZero
    rw [isZero, Nat.digits_zero] at digitMem
    exact absurd digitMem (List.not_mem_nil)
  have notZero := Nat.getLast_digit_ne_zero 256 nonzero
  rw [List.getLast?_eq_getLast_of_ne_nil (Nat.digits_ne_nil_iff_ne_zero.mpr nonzero)] at last
  rw [Option.some.injEq] at last
  exact notZero (last.trans digitZero)

/-- A prefix: a short form below 56 bytes, otherwise the length of the length and the length. -/
def header (offset length : Nat) : List UInt8 :=
  if length < 56 then [UInt8.ofNat (offset + length)]
  else UInt8.ofNat (offset + 55 + (bigEndian length).length) :: bigEndian length

/-- `0x80`, the offset of byte strings. -/
def bytesOffset : Nat := 0x80

/-- `0xc0`, the offset of lists. -/
def listOffset : Nat := 0xc0

/-- An item is a byte string or a list of items. -/
inductive Item where
  | bytes (content : List UInt8)
  | list (items : List Item)

/-- A byte below `0x80` is its own encoding; every other string has a prefix. -/
def encodeBytes (content : List UInt8) : List UInt8 :=
  if content.length = 1 ∧ content.headD 0 < 0x80 then content
  else header bytesOffset content.length ++ content

mutual

/-- The canonical encoding of an item. -/
def Item.encode : Item → List UInt8
  | .bytes content => encodeBytes content
  | .list items => header listOffset (encodeAll items).length ++ encodeAll items

/-- Encodings of several items, one after another. -/
def encodeAll : List Item → List UInt8
  | [] => []
  | item :: items => item.encode ++ encodeAll items

end

/-- A length of `width` digits: no leading zero, and no length that has a short form. -/
def readLength (width : Nat) (input : List UInt8) : Option (Nat × List UInt8) :=
  let digits := input.take width
  if input.length < width ∨ digits.head? = some 0 ∨ ofBigEndian digits < 56 then none
  else some (ofBigEndian digits, input.drop width)

/-- What a prefix announces: whether a list, and the length of the payload that follows. -/
def readHeader : List UInt8 → Option (Bool × Nat × List UInt8)
  | [] => none
  | first :: rest =>
    if first < 0x80 then some (false, 1, first :: rest)
    else if first < 0xb8 then
      if first = 0x81 ∧ rest.headD 0x80 < 0x80 then none
      else some (false, first.toNat - 0x80, rest)
    else if first < 0xc0 then
      (readLength (first.toNat - 0xb7) rest).map fun (length, rest) => (false, length, rest)
    else if first < 0xf8 then some (true, first.toNat - 0xc0, rest)
    else (readLength (first.toNat - 0xf7) rest).map fun (length, rest) => (true, length, rest)

mutual

/-- One item off the front. Two units of fuel a byte are enough. -/
def decodeItem : Nat → List UInt8 → Option (Item × List UInt8)
  | 0, _ => none
  | fuel + 1, input =>
    match readHeader input with
    | none => none
    | some (isList, length, rest) =>
      if rest.length < length then none
      else if isList then
        (decodeItems fuel (rest.take length)).map fun items => (.list items, rest.drop length)
      else some (.bytes (rest.take length), rest.drop length)

/-- Items until the input ends. -/
def decodeItems : Nat → List UInt8 → Option (List Item)
  | _, [] => some []
  | 0, _ :: _ => none
  | fuel + 1, first :: rest =>
    match decodeItem fuel (first :: rest) with
    | none => none
    | some (item, remaining) => (decodeItems fuel remaining).map fun items => item :: items

end

/-- One item off the front of an input, with the bytes after it. -/
def decode (input : List UInt8) : Option (Item × List UInt8) := decodeItem (2 * input.length) input

/-- A written length reads back, in front of every suffix. -/
theorem readLength_bigEndian {length : Nat} (long : 56 ≤ length) (suffix : List UInt8) :
    readLength (bigEndian length).length (bigEndian length ++ suffix) = some (length, suffix) := by
  unfold readLength
  dsimp only
  rw [List.take_left, List.drop_left, ofBigEndian_bigEndian]
  have canonical : ¬ ((bigEndian length ++ suffix).length < (bigEndian length).length ∨
      (bigEndian length).head? = some 0 ∨ length < 56) := by
    rw [List.length_append]
    rintro (short | leading | small)
    · omega
    · exact head_bigEndian leading
    · omega
  rw [if_neg canonical]

/-- The digits of a length number one to eight. -/
theorem length_bigEndian_bounds {length : Nat} (long : 56 ≤ length) (fits : length < 2 ^ 64) :
    1 ≤ (bigEndian length).length ∧ (bigEndian length).length ≤ 8 := by
  have present := List.length_pos_iff.mpr (bigEndian_ne_nil (show 0 < length by omega))
  have few : (bigEndian length).length ≤ 8 := length_bigEndian_le (by omega)
  omega

/-- A string's prefix reads back unless the string is a byte that needs none. -/
theorem readHeader_bytes {length : Nat} {suffix : List UInt8} (fits : length < 2 ^ 64)
    (prefixed : length = 1 → 0x80 ≤ suffix.headD 0x80) :
    readHeader (header bytesOffset length ++ suffix) = some (false, length, suffix) := by
  unfold header bytesOffset
  by_cases short : length < 56
  · rw [if_pos short]
    have first : (UInt8.ofNat (0x80 + length)).toNat = 0x80 + length :=
      UInt8.toNat_ofNat_of_lt' (show 0x80 + length < 256 by omega)
    have notByte : ¬ UInt8.ofNat (0x80 + length) < 0x80 := by
      rw [UInt8.lt_iff_toNat_lt, first]
      exact Nat.not_lt.mpr (Nat.le_add_right _ _)
    have isShort : UInt8.ofNat (0x80 + length) < 0xb8 := by
      rw [UInt8.lt_iff_toNat_lt, first]
      exact Nat.add_lt_add_left short 0x80
    have canonical : ¬ (UInt8.ofNat (0x80 + length) = 0x81 ∧ suffix.headD 0x80 < 0x80) := by
      rintro ⟨single, small⟩
      have one : length = 1 := by
        have value := congrArg UInt8.toNat single
        rw [first] at value
        exact Nat.add_left_cancel (show 0x80 + length = 0x80 + 1 from value)
      exact absurd small (UInt8.not_lt.mpr (prefixed one))
    simp only [List.cons_append, List.nil_append, readHeader]
    rw [if_neg notByte, if_pos isShort, if_neg canonical, first, Nat.add_sub_cancel_left]
  · rw [if_neg short]
    have bounds := length_bigEndian_bounds (by omega) fits
    have first : (UInt8.ofNat (0x80 + 55 + (bigEndian length).length)).toNat =
        0xb7 + (bigEndian length).length :=
      UInt8.toNat_ofNat_of_lt' (show 0x80 + 55 + (bigEndian length).length < 256 by omega)
    generalize UInt8.ofNat (0x80 + 55 + (bigEndian length).length) = byte at first
    simp only [List.cons_append, readHeader]
    have notByte : ¬ byte < 0x80 := by
      rw [UInt8.lt_iff_toNat_lt, first]
      show ¬ 0xb7 + (bigEndian length).length < 0x80
      omega
    have notShort : ¬ byte < 0xb8 := by
      rw [UInt8.lt_iff_toNat_lt, first]
      show ¬ 0xb7 + (bigEndian length).length < 0xb8
      omega
    have isString : byte < 0xc0 := by
      rw [UInt8.lt_iff_toNat_lt, first]
      show 0xb7 + (bigEndian length).length < 0xc0
      omega
    rw [if_neg notByte, if_neg notShort, if_pos isString, first, Nat.add_sub_cancel_left,
      readLength_bigEndian (by omega) suffix]
    rfl

/-- A list's prefix reads back. -/
theorem readHeader_list {length : Nat} (fits : length < 2 ^ 64) (suffix : List UInt8) :
    readHeader (header listOffset length ++ suffix) = some (true, length, suffix) := by
  unfold header listOffset
  by_cases short : length < 56
  · rw [if_pos short]
    have first : (UInt8.ofNat (0xc0 + length)).toNat = 0xc0 + length :=
      UInt8.toNat_ofNat_of_lt' (show 0xc0 + length < 256 by omega)
    generalize UInt8.ofNat (0xc0 + length) = byte at first
    simp only [List.cons_append, List.nil_append, readHeader, UInt8.lt_iff_toNat_lt, first]
    show (if 0xc0 + length < 0x80 then _ else if 0xc0 + length < 0xb8 then _
      else if 0xc0 + length < 0xc0 then _ else if 0xc0 + length < 0xf8 then _ else _) = _
    rw [if_neg (by omega), if_neg (by omega), if_neg (by omega), if_pos (by omega),
      Nat.add_sub_cancel_left]
  · rw [if_neg short]
    have bounds := length_bigEndian_bounds (by omega) fits
    have first : (UInt8.ofNat (0xc0 + 55 + (bigEndian length).length)).toNat =
        0xf7 + (bigEndian length).length :=
      UInt8.toNat_ofNat_of_lt' (show 0xc0 + 55 + (bigEndian length).length < 256 by omega)
    generalize UInt8.ofNat (0xc0 + 55 + (bigEndian length).length) = byte at first
    simp only [List.cons_append, readHeader, UInt8.lt_iff_toNat_lt, first]
    show (if 0xf7 + (bigEndian length).length < 0x80 then _
      else if 0xf7 + (bigEndian length).length < 0xb8 then _
      else if 0xf7 + (bigEndian length).length < 0xc0 then _
      else if 0xf7 + (bigEndian length).length < 0xf8 then _ else _) = _
    rw [if_neg (by omega), if_neg (by omega), if_neg (by omega), if_neg (by omega),
      Nat.add_sub_cancel_left, readLength_bigEndian (by omega) suffix]
    rfl

/-- A prefix has at least one byte. -/
theorem length_header_pos (offset length : Nat) : 0 < (header offset length).length := by
  unfold header
  split
  · exact Nat.one_pos
  · exact Nat.succ_pos _

/-- Every encoding has at least one byte. -/
theorem Item.length_encode_pos (item : Item) : 0 < item.encode.length := by
  cases item with
  | bytes content =>
    rw [Item.encode, encodeBytes]
    split
    · next single => exact single.1 ▸ Nat.one_pos
    · rw [List.length_append]
      exact Nat.add_pos_left (length_header_pos _ _) _
  | list items =>
    rw [Item.encode, List.length_append]
    exact Nat.add_pos_left (length_header_pos _ _) _

/-- A byte string decodes to itself. -/
theorem decodeItem_bytes {content : List UInt8} (fits : (encodeBytes content).length < 2 ^ 64)
    (fuel : Nat) (suffix : List UInt8) :
    decodeItem (fuel + 1) (encodeBytes content ++ suffix) = some (.bytes content, suffix) := by
  unfold encodeBytes at fits ⊢
  by_cases single : content.length = 1 ∧ content.headD 0 < 0x80
  · rw [if_pos single]
    obtain ⟨byte, rfl⟩ := List.length_eq_one_iff.mp single.1
    have small : byte < 0x80 := single.2
    simp [decodeItem, readHeader, small]
  · rw [if_neg single] at fits ⊢
    rw [List.length_append] at fits
    have prefixed : content.length = 1 → 0x80 ≤ (content ++ suffix).headD 0x80 := by
      intro one
      obtain ⟨byte, rfl⟩ := List.length_eq_one_iff.mp one
      have large : ¬ byte < 0x80 := fun small => single ⟨rfl, small⟩
      exact UInt8.not_lt.mp large
    have enough : ¬ (content ++ suffix).length < content.length := by
      rw [List.length_append]
      omega
    rw [List.append_assoc, decodeItem, readHeader_bytes (by omega) prefixed]
    simp only [if_neg enough, Bool.false_eq_true, if_false, List.take_left, List.drop_left]

mutual

/-- Decoding an encoding gives the item back in front of every suffix. -/
theorem decodeItem_encode (item : Item) (fuel : Nat) (suffix : List UInt8)
    (fits : item.encode.length < 2 ^ 64) (enough : 2 * item.encode.length ≤ fuel + 1) :
    decodeItem fuel (item.encode ++ suffix) = some (item, suffix) := by
  have positive := item.length_encode_pos
  obtain ⟨fuel, rfl⟩ : ∃ less, fuel = less + 1 := ⟨fuel - 1, by omega⟩
  cases item with
  | bytes content =>
    rw [Item.encode] at fits ⊢
    exact decodeItem_bytes fits fuel suffix
  | list items =>
    rw [Item.encode, List.length_append] at fits enough
    have prefixed := length_header_pos listOffset (encodeAll items).length
    have inner := decodeItems_encodeAll items fuel (by omega) (by omega)
    have complete : ¬ (encodeAll items ++ suffix).length < (encodeAll items).length := by
      rw [List.length_append]
      omega
    rw [Item.encode, List.append_assoc, decodeItem, readHeader_list (by omega)]
    simp only [if_neg complete, if_true, List.take_left, List.drop_left, inner, Option.map_some]

/-- Decoding encodings until the input ends gives all the items back. -/
theorem decodeItems_encodeAll (items : List Item) (fuel : Nat)
    (fits : (encodeAll items).length < 2 ^ 64) (enough : 2 * (encodeAll items).length ≤ fuel) :
    decodeItems fuel (encodeAll items) = some items := by
  cases items with
  | nil => rw [encodeAll, decodeItems]
  | cons item items =>
    have positive := item.length_encode_pos
    rw [encodeAll, List.length_append] at fits enough
    obtain ⟨fuel, rfl⟩ : ∃ less, fuel = less + 1 := ⟨fuel - 1, by omega⟩
    have front := decodeItem_encode item fuel (encodeAll items) (by omega) (by omega)
    have back := decodeItems_encodeAll items fuel (by omega) (by omega)
    rw [encodeAll]
    obtain ⟨first, rest, split⟩ := List.exists_cons_of_length_pos
      (show 0 < (item.encode ++ encodeAll items).length by rw [List.length_append]; omega)
    rw [split] at front ⊢
    rw [decodeItems]
    simp only [front, back, Option.map_some]

end

/-- An encoding decodes to its item and leaves exactly what follows it. -/
theorem decode_encode {item : Item} (fits : item.encode.length < 2 ^ 64) (suffix : List UInt8) :
    decode (item.encode ++ suffix) = some (item, suffix) := by
  apply decodeItem_encode item _ suffix fits
  rw [List.length_append]
  omega

/-- Two items with one encoding are the same item. -/
theorem encode_inj {left right : Item} (fits : left.encode.length < 2 ^ 64)
    (same : left.encode = right.encode) : left = right := by
  have first := decode_encode fits []
  have second := decode_encode (same ▸ fits) []
  rw [same, second] at first
  exact (congrArg Prod.fst (Option.some.inj first)).symm

end Rlp
