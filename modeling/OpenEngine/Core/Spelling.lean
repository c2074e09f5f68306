import OpenEngine.Core.RoundTrip

/-!
# The spellings of a byte string

One byte string has several spellings that the validator accepts: digits of either case, behind no
`0x` marker, behind the one the encoder strips, or behind a second one that `alloy` strips. Lowering
the case of a spelling leaves only its markers to tell it from the others.
-/

namespace OpenEngine.Core

/-- `alloy` accepts the hex it documents, digits of either case behind one optional marker, and
reads it as the bytes of the digits. -/
def Alloy.ReadsHex (alloy : Alloy) : Prop :=
  ∀ value bytes, alloy.hexDecode value = .ok bytes ↔ Hex.decode value = .ok bytes

/-- The reference reads hex as documented. -/
theorem Alloy.reference_readsHex (digest : B256) : (Alloy.reference digest).ReadsHex :=
  fun _ _ => Iff.rfl

/-- The text behind a marker that was stripped. -/
theorem toList_of_stripPrefix {pattern value rest : String}
    (stripped : stripPrefix pattern value = some rest) :
    value.toList = pattern.toList ++ rest.toList := by
  unfold stripPrefix at stripped
  split at stripped
  · next starts =>
    obtain ⟨tail, parts⟩ := List.isPrefixOf_iff_prefix.mp starts
    rw [← Option.some.inj stripped, String.toList_ofList, ← parts, List.drop_left]
  · cases stripped

namespace Hex

/-- A digit that is read is ASCII. -/
theorem ascii_of_digitValue {char : Char} {value : Nat} (read : digitValue char = some value) :
    char.toNat < 128 := by
  unfold digitValue at read
  split at read
  · next range => exact Nat.lt_of_le_of_lt (show char.toNat ≤ '9'.toNat from range.2) (by decide)
  · split at read
    · next range => exact Nat.lt_of_le_of_lt (show char.toNat ≤ 'f'.toNat from range.2) (by decide)
    · split at read
      · next range =>
        exact Nat.lt_of_le_of_lt (show char.toNat ≤ 'F'.toNat from range.2) (by decide)
      · cases read

/-- A digit that is read is, in lower case, the digit written for its value. -/
theorem toLower_of_digitValue {char : Char} {value : Nat} (read : digitValue char = some value) :
    char.toLower = digit value ∧ value < 16 := by
  have every : ∀ code : Fin 128, (digitValue (Char.ofNat code.val)).all fun value =>
      (Char.ofNat code.val).toLower = digit value ∧ value < 16 := by
    decide +kernel
  have here := every ⟨char.toNat, ascii_of_digitValue read⟩
  rw [Char.ofNat_toNat, read] at here
  simpa using here

/-- The two digits written for a byte. -/
theorem digits_of_values {high low : Nat} (highSmall : high < 16) (lowSmall : low < 16) :
    [digit ((UInt8.ofNat (16 * high + low)).toNat / 16),
      digit (UInt8.ofNat (16 * high + low)).toNat] = [digit high, digit low] := by
  have value : (UInt8.ofNat (16 * high + low)).toNat = 16 * high + low := by
    rw [UInt8.toNat_ofNat']
    omega
  have upper : (16 * high + low) / 16 % 16 = high % 16 := by omega
  have lower : (16 * high + low) % 16 = low % 16 := by omega
  rw [value, digit, upper, digit, lower]
  rfl

/-- Digits that are read are, in lower case, the digits written for the bytes. -/
theorem toLower_of_decodeDigits {chars : List Char} {bytes : Bytes}
    (read : decodeDigits chars = .ok bytes) :
    chars.map Char.toLower = (encode bytes).toList := by
  induction chars using decodeDigits.induct generalizing bytes with
  | case1 =>
    rw [← Except.ok.inj read]
    rfl
  | case2 char => cases read
  | case3 first second rest high low readLow readHigh ih =>
    rw [decodeDigits, readHigh, readLow] at read
    cases tail : decodeDigits rest with
    | error e =>
      rw [tail] at read
      cases read
    | ok others =>
      rw [tail] at read
      rw [← Except.ok.inj read]
      obtain ⟨upper, highSmall⟩ := toLower_of_digitValue readHigh
      obtain ⟨lower, lowSmall⟩ := toLower_of_digitValue readLow
      have lowered := ih tail
      rw [encode, String.toList_ofList] at lowered ⊢
      rw [List.flatMap_cons, digits_of_values highSmall lowSmall, List.map_cons, List.map_cons,
        upper, lower, lowered]
      rfl
  | case4 first second rest unread =>
    rw [decodeDigits] at read
    split at read
    · next high low readHigh readLow => exact (unread high low readHigh readLow).elim
    · cases read

/-- Only ASCII characters lower to digits. -/
theorem ascii_of_toLower {char : Char} (lower : char.toLower ∈ hexDigits) : char.toNat < 128 := by
  have small : hexDigits.all (fun digit => digit.toNat < 128) = true := by decide
  have lowered := of_decide_eq_true (List.all_eq_true.mp small _ lower)
  unfold Char.toLower at lowered
  split at lowered
  · next upper => exact Nat.lt_of_le_of_lt (show char.toNat ≤ 'Z'.toNat from upper.2) (by decide)
  · exact lowered

/-- Digits that are read are ASCII. -/
theorem ascii_of_decodeDigits {chars : List Char} {bytes : Bytes}
    (read : decodeDigits chars = .ok bytes) : ∀ char ∈ chars, char.toNat < 128 := by
  intro char member
  have lowered : char.toLower ∈ (encode bytes).toList := by
    rw [← toLower_of_decodeDigits read]
    exact List.mem_map_of_mem member
  exact ascii_of_toLower (encode_digits bytes _ lowered)

/-- A byte takes two digits. -/
theorem length_encode (bytes : Bytes) : (encode bytes).toList.length = 2 * bytes.length := by
  rw [encode, String.toList_ofList]
  induction bytes with
  | nil => rfl
  | cons byte bytes ih =>
    simp only [List.flatMap_cons, List.length_append, List.length_cons, List.length_nil, ih]
    omega

/-- ASCII text has as many bytes as characters. -/
theorem utf8ByteSize_of_ascii {chars : List Char} (ascii : ∀ char ∈ chars, char.toNat < 128) :
    (String.ofList chars).utf8ByteSize = chars.length := by
  induction chars with
  | nil => rfl
  | cons char rest ih =>
    have single : char.utf8Size = 1 :=
      Char.utf8Size_eq_one_iff.mpr (Nat.le_of_lt_succ (ascii char List.mem_cons_self))
    have others := ih fun other member => ascii other (List.mem_cons_of_mem _ member)
    rw [String.ofList_cons, String.utf8ByteSize_append, String.utf8ByteSize_singleton, single,
      others, List.length_cons, Nat.add_comm]

/-- Digits that are read take two bytes of text for a byte. -/
theorem utf8ByteSize_of_decodeDigits {value : String} {bytes : Bytes}
    (read : decodeDigits value.toList = .ok bytes) : value.utf8ByteSize = 2 * bytes.length := by
  have size := utf8ByteSize_of_ascii (ascii_of_decodeDigits read)
  have lowered := congrArg List.length (toLower_of_decodeDigits read)
  rw [List.length_map, length_encode] at lowered
  rw [String.ofList_toList] at size
  omega

/-- Different bytes have different digits. -/
theorem encode_injective {left right : Bytes} (same : encode left = encode right) :
    left = right := by
  have digits := String.ofList_injective same
  have decoded := decodeDigits_encode left
  rw [digits, decodeDigits_encode right] at decoded
  exact (Except.ok.inj decoded).symm

end Hex

/-- The `0x` markers in front of a spelling, of which the readers strip two. -/
def markers (value : String) : Nat :=
  match stripPrefix "0x" value with
  | none => 0
  | some rest => if (stripPrefix "0x" rest).isSome then 2 else 1

/-- At most two markers are counted. -/
theorem markers_le (value : String) : markers value ≤ 2 := by
  unfold markers
  split
  · decide
  · split
    · decide
    · decide

/-- An accepted spelling in lower case: its markers, and the digits of the bytes. -/
theorem Alloy.ReadsHex.toLowercase_eq {alloy : Alloy} (readsHex : alloy.ReadsHex) {value : String}
    {bytes : Bytes} (reads : alloy.Reads value bytes) :
    (Core.toLowercase value).toList =
      (List.replicate (markers value) ['0', 'x']).flatten ++ (Hex.encode bytes).toList := by
  have decoded := (readsHex _ _).mp reads
  unfold Hex.decode at decoded
  rw [Core.toLowercase, String.toList_ofList]
  unfold markers
  cases first : stripPrefix "0x" value with
  | none =>
    rw [first, Option.getD_none, first, Option.getD_none] at decoded
    exact Hex.toLower_of_decodeDigits decoded
  | some rest =>
    rw [first, Option.getD_some] at decoded
    dsimp only
    rw [toList_of_stripPrefix first, List.map_append]
    cases second : stripPrefix "0x" rest with
    | none =>
      rw [second, Option.getD_none] at decoded
      rw [Hex.toLower_of_decodeDigits decoded]
      rfl
    | some digits =>
      rw [second, Option.getD_some] at decoded
      rw [toList_of_stripPrefix second, List.map_append, Hex.toLower_of_decodeDigits decoded]
      rfl

/-- An accepted spelling in lower case: up to two markers, and the digits of the bytes. -/
theorem Alloy.ReadsHex.toLowercase {alloy : Alloy} (readsHex : alloy.ReadsHex) {value : String}
    {bytes : Bytes} (reads : alloy.Reads value bytes) :
    ∃ marked ≤ 2, (toLowercase value).toList =
      (List.replicate marked ['0', 'x']).flatten ++ (Hex.encode bytes).toList :=
  ⟨markers value, markers_le value, readsHex.toLowercase_eq reads⟩

/-- An accepted spelling in lower case is made of digits and markers. -/
theorem Alloy.ReadsHex.notMem_toLowercase {alloy : Alloy} (readsHex : alloy.ReadsHex)
    {value : String} {bytes : Bytes} (reads : alloy.Reads value bytes) {char : Char}
    (other : char ∉ 'x' :: hexDigits) : char ∉ (Core.toLowercase value).toList := by
  obtain ⟨marked, -, lowered⟩ := readsHex.toLowercase reads
  rw [lowered]
  intro member
  rcases List.mem_append.mp member with marker | digit
  · obtain ⟨part, partMem, charMem⟩ := List.mem_flatten.mp marker
    rw [List.eq_of_mem_replicate partMem] at charMem
    apply other
    rcases List.mem_pair.mp charMem with rfl | rfl
    · decide
    · decide
  · exact other (List.mem_cons_of_mem _ (Hex.encode_digits bytes char digit))

/-- A marker takes two characters. -/
theorem length_markers (marked : Nat) :
    (List.replicate marked ['0', 'x']).flatten.length = 2 * marked := by
  simp [Nat.mul_comm]

/-- Two accepted spellings of byte strings of one width agree up to case exactly if they are as long
and read as the same bytes. -/
theorem Alloy.ReadsHex.toLowercase_eq_iff {alloy : Alloy} (readsHex : alloy.ReadsHex)
    {left right : String} {first second : Bytes} (leftReads : alloy.Reads left first)
    (rightReads : alloy.Reads right second) (width : first.length = second.length) :
    Core.toLowercase left = Core.toLowercase right ↔
      left.length = right.length ∧ first = second := by
  obtain ⟨leftMarked, -, leftLower⟩ := readsHex.toLowercase leftReads
  obtain ⟨rightMarked, -, rightLower⟩ := readsHex.toLowercase rightReads
  have leftLength := congrArg List.length leftLower
  have rightLength := congrArg List.length rightLower
  rw [List.length_append, length_markers, Hex.length_encode] at leftLength rightLength
  rw [Core.toLowercase, String.toList_ofList, List.length_map, String.length_toList]
    at leftLength rightLength
  constructor
  · intro same
    have digits : (Hex.encode first).toList = (Hex.encode second).toList := by
      rw [same, rightLower] at leftLower
      refine (List.append_inj_right' leftLower ?_).symm
      rw [Hex.length_encode, Hex.length_encode, width]
    have sameLength := congrArg String.length same
    simp only [Core.toLowercase, String.length_ofList, List.length_map, String.length_toList]
      at sameLength
    exact ⟨sameLength, Hex.encode_injective (String.toList_inj.mp digits)⟩
  · rintro ⟨sameLength, rfl⟩
    have sameMarked : leftMarked = rightMarked := by omega
    apply String.toList_inj.mp
    rw [leftLower, rightLower, sameMarked]

/-- Digits carry no marker. -/
theorem Hex.count_encode (bytes : Bytes) : (encode bytes).toList.count 'x' = 0 := by
  refine List.count_eq_zero_of_not_mem ?_
  intro member
  exact absurd (encode_digits bytes 'x' member) (by decide)

/-- Each marker carries one `x`. -/
theorem count_markers (marked : Nat) :
    (List.replicate marked ['0', 'x']).flatten.count 'x' = marked := by
  simp [List.count_flatten]

/-- Two accepted spellings agree up to case exactly if they have as many markers and read as the
same bytes. -/
theorem Alloy.ReadsHex.toLowercase_eq_iff_markers {alloy : Alloy} (readsHex : alloy.ReadsHex)
    {left right : String} {first second : Bytes} (leftReads : alloy.Reads left first)
    (rightReads : alloy.Reads right second) :
    Core.toLowercase left = Core.toLowercase right ↔
      markers left = markers right ∧ first = second := by
  have leftLower := readsHex.toLowercase_eq leftReads
  have rightLower := readsHex.toLowercase_eq rightReads
  constructor
  · intro same
    rw [same, rightLower] at leftLower
    have counted := congrArg (List.count 'x') leftLower
    rw [List.count_append, List.count_append, count_markers, count_markers, Hex.count_encode,
      Hex.count_encode] at counted
    have marked : markers left = markers right := by omega
    rw [marked] at leftLower
    have digits := List.append_cancel_left leftLower
    exact ⟨marked, (Hex.encode_injective (String.toList_inj.mp digits)).symm⟩
  · rintro ⟨marked, rfl⟩
    apply String.toList_inj.mp
    rw [leftLower, rightLower, marked]

end OpenEngine.Core
