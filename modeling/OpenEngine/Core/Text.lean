import OpenEngine.Core.Domain

/-!
# Text and the primitives of `alloy`

The string methods the source uses, and the functions it calls in `alloy`. The latter are not part
of the repository: they are the fields of a structure, together with the documented laws the engine
relies on. `Alloy.reference` is one such structure that runs.
-/

namespace OpenEngine.Core

/-- `str::strip_prefix`. -/
def stripPrefix (pattern value : String) : Option String :=
  if pattern.toList.isPrefixOf value.toList then
    some (String.ofList (value.toList.drop pattern.toList.length))
  else none

/-- `char::is_whitespace`: the Unicode `White_Space` property. -/
def isWhitespace (char : Char) : Bool :=
  let code := char.toNat
  (0x09 ≤ code && code ≤ 0x0d) || code == 0x20 || code == 0x85 || code == 0xa0 || code == 0x1680 ||
    (0x2000 ≤ code && code ≤ 0x200a) || code == 0x2028 || code == 0x2029 || code == 0x202f ||
    code == 0x205f || code == 0x3000

/-- `str::trim`. -/
def trim (value : String) : String :=
  String.ofList ((value.toList.dropWhile isWhitespace).reverse.dropWhile isWhitespace).reverse

/-- `str::to_lowercase`. Every result is compared with hex digits, to which only ASCII letters
lower. -/
def toLowercase (value : String) : String := String.ofList (value.toList.map Char.toLower)

/-- `Address`: exactly 20 bytes. -/
abbrev Address := { bytes : Bytes // bytes.length = 20 }

/-- `Address::repeat_byte`. -/
def repeatByte (byte : UInt8) : Address := ⟨List.replicate 20 byte, List.length_replicate⟩

/-- The lowercase hex digits. -/
def hexDigits : List Char :=
  ['0', '1', '2', '3', '4', '5', '6', '7', '8', '9', 'a', 'b', 'c', 'd', 'e', 'f']

/-- Bare digits carry no marker to strip. -/
theorem stripPrefix_of_digits {value : String} (digits : ∀ char ∈ value.toList, char ∈ hexDigits) :
    stripPrefix "0x" value = none := by
  unfold stripPrefix
  rw [if_neg]
  intro starts
  obtain ⟨rest, parts⟩ := List.isPrefixOf_iff_prefix.mp starts
  have marked : 'x' ∈ value.toList := by
    rw [← parts]
    exact List.mem_append_left rest (by decide)
  exact absurd (digits 'x' marked) (by decide)

/-- What the engine calls in `alloy`. Errors are their displayed texts. -/
structure Alloy where
  /-- `alloy::hex::decode`. -/
  hexDecode : String → Except String Bytes
  /-- `alloy::hex::encode`. -/
  hexEncode : Bytes → String
  /-- `str::parse::<U256>`. -/
  parseU256 : String → Except String U256
  /-- `str::parse::<Address>`. -/
  parseAddress : String → Option Address
  /-- The checksummed `Display` of `Address`. -/
  displayAddress : Address → String
  /-- `keccak256`. -/
  keccak256 : Bytes → B256
  /-- No digits are no bytes. -/
  hexDecode_empty : hexDecode "" = .ok []
  /-- What is encoded decodes. -/
  hexDecode_hexEncode : ∀ bytes, hexDecode (hexEncode bytes) = .ok bytes
  /-- Encodings are bare lowercase digits. -/
  hexEncode_digits : ∀ bytes, ∀ char ∈ (hexEncode bytes).toList, char ∈ hexDigits

/-- `format!("{:#x}", address)`. -/
def Alloy.lowerHex (alloy : Alloy) (address : Address) : String :=
  "0x" ++ alloy.hexEncode address.val

namespace Hex

/-- The value of a hex digit of either case. -/
def digitValue (char : Char) : Option Nat :=
  if '0' ≤ char ∧ char ≤ '9' then some (char.toNat - 48)
  else if 'a' ≤ char ∧ char ≤ 'f' then some (char.toNat - 87)
  else if 'A' ≤ char ∧ char ≤ 'F' then some (char.toNat - 55)
  else none

/-- Two digits a byte. -/
def decodeDigits : List Char → Except String Bytes
  | [] => .ok []
  | [_] => .error "odd number of digits"
  | first :: second :: rest =>
    match digitValue first, digitValue second with
    | some high, some low =>
      (decodeDigits rest).map fun bytes => UInt8.ofNat (16 * high + low) :: bytes
    | _, _ => .error "invalid character"

/-- Digits behind one optional marker. -/
def decode (value : String) : Except String Bytes :=
  decodeDigits ((stripPrefix "0x" value).getD value).toList

/-- The digit of a half byte. -/
def digit (value : Nat) : Char := hexDigits.getD (value % 16) '0'

/-- Two lowercase digits a byte. -/
def encode (bytes : Bytes) : String :=
  String.ofList (bytes.flatMap fun byte => [digit (byte.toNat / 16), digit byte.toNat])

/-- A written digit is one of the sixteen. -/
theorem digit_mem (value : Nat) : digit value ∈ hexDigits := by
  have every : ∀ half : Fin 16, hexDigits.getD half.val '0' ∈ hexDigits := by decide
  exact every ⟨value % 16, Nat.mod_lt value (by decide)⟩

/-- A written digit reads back. -/
theorem digitValue_digit (value : Nat) : digitValue (digit value) = some (value % 16) := by
  have every : ∀ half : Fin 16, digitValue (hexDigits.getD half.val '0') = some half.val := by
    decide
  exact every ⟨value % 16, Nat.mod_lt value (by decide)⟩

/-- The two digits of a byte read back as the byte. -/
theorem decodeDigits_encode (bytes : Bytes) :
    decodeDigits (bytes.flatMap fun byte => [digit (byte.toNat / 16), digit byte.toNat]) =
      .ok bytes := by
  induction bytes with
  | nil => rfl
  | cons byte bytes ih =>
    have whole : 16 * (byte.toNat / 16 % 16) + byte.toNat % 16 = byte.toNat := by
      have below : byte.toNat < 256 := byte.toNat_lt
      omega
    simp only [List.flatMap_cons, List.cons_append, List.nil_append, decodeDigits,
      digitValue_digit, ih, whole, Except.map, UInt8.ofNat_toNat]

/-- Encodings are digits only. -/
theorem encode_digits (bytes : Bytes) : ∀ char ∈ (encode bytes).toList, char ∈ hexDigits := by
  intro char charMem
  rw [encode, String.toList_ofList, List.mem_flatMap] at charMem
  obtain ⟨byte, _, isDigit⟩ := charMem
  rcases List.mem_pair.mp isDigit with rfl | rfl
  · exact digit_mem _
  · exact digit_mem _

end Hex

/-- Decimal digits up to the width of `U256`. -/
def parseDecimal (value : String) : Except String U256 :=
  let digits := value.toList.map fun char => char.toNat - 48
  let number := digits.foldl (fun total digit => 10 * total + digit) 0
  if value.toList.all Char.isDigit ∧ number < 2 ^ 256 then .ok (BitVec.ofNat 256 number)
  else .error "invalid digit"

/-- Naturals are told apart by their decimal digits. -/
theorem toString_injective {left right : Nat}
    (same : (toString left).toList = (toString right).toList) : left = right := by
  have digits : Nat.toDigits 10 left = Nat.toDigits 10 right := by
    simpa only [Nat.toString_eq_ofList_toDigits, String.toList_ofList] using same
  have values := congrArg (fun chars => Nat.ofDigitChars 10 chars 0) digits
  simpa only [Nat.ofDigitChars_ten_toDigits] using values

/-- Decimal digits hold no separator. -/
theorem notMem_toString {separator : Char} (other : separator.isDigit = false) (value : Nat) :
    separator ∉ (toString value).toList := by
  intro member
  rw [Nat.toString_eq_ofList_toDigits, String.toList_ofList] at member
  have digit := Nat.isDigit_of_mem_toDigits (by decide) (by decide) member
  rw [other] at digit
  cases digit

/-- Hex and decimal as `alloy` reads them; `digest` is the one hash that is asked for, and only
addresses of decimal digits, which have no case, are displayed as in `alloy`. -/
def Alloy.reference (digest : B256) : Alloy where
  hexDecode := Hex.decode
  hexEncode := Hex.encode
  parseU256 := parseDecimal
  parseAddress value :=
    match Hex.decode value with
    | .ok bytes => if width : bytes.length = 20 then some ⟨bytes, width⟩ else none
    | .error _ => none
  displayAddress address := "0x" ++ Hex.encode address.val
  keccak256 _ := digest
  hexDecode_empty := by decide +kernel
  hexDecode_hexEncode := by
    intro bytes
    have unmarked := stripPrefix_of_digits (Hex.encode_digits bytes)
    rw [Hex.decode, unmarked, Option.getD_none, Hex.encode, String.toList_ofList]
    exact Hex.decodeDigits_encode bytes
  hexEncode_digits := Hex.encode_digits

end OpenEngine.Core
