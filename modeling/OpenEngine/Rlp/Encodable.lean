import OpenEngine.Rlp.Item

/-!
# Encoders with a separate length

A streaming encoder writes a list's prefix before its payload, so it predicts the payload's length
with a second function. `Writes` ties both functions to one item. The readers take an item apart
again under the same rules: integers have no leading zeros and a bounded width.
-/

namespace Rlp

/-- The number of bytes a prefix takes. -/
def lengthOfLength (payload : Nat) : Nat :=
  if payload < 56 then 1 else 1 + (bigEndian payload).length

/-- The predicted prefix length is the prefix's length. -/
@[simp]
theorem length_header (offset payload : Nat) :
    (header offset payload).length = lengthOfLength payload := by
  unfold header lengthOfLength
  split
  · rfl
  · rw [List.length_cons, Nat.add_comm]

/-- An encoder and the function that predicts how many bytes it writes. -/
structure Encodable (α : Type) where
  length : α → Nat
  encode : α → List UInt8

/-- The encoder writes the item, and as many bytes as predicted. -/
def Encodable.Writes {α : Type} (encodable : Encodable α) (value : α) (item : Item) : Prop :=
  encodable.encode value = item.encode ∧ encodable.length value = item.encode.length

/-- Byte strings. -/
def bytes : Encodable (List UInt8) where
  length content :=
    if content.length = 1 ∧ content.headD 0 < 0x80 then 1
    else lengthOfLength content.length + content.length
  encode := encodeBytes

/-- Unsigned integers, as their digits. -/
def uint : Encodable Nat where
  length value := bytes.length (bigEndian value)
  encode value := bytes.encode (bigEndian value)

/-- Lists: the payload length is the sum of the predicted lengths. -/
def list {α : Type} (inner : Encodable α) : Encodable (List α) where
  length values :=
    let payloadLength := (values.map inner.length).sum
    lengthOfLength payloadLength + payloadLength
  encode values :=
    let payloadLength := (values.map inner.length).sum
    header listOffset payloadLength ++ (values.map inner.encode).flatten

/-- The item of an unsigned integer. -/
def Item.ofNat (value : Nat) : Item := .bytes (bigEndian value)

/-- Byte strings write their item. -/
theorem bytes_writes (content : List UInt8) : bytes.Writes content (.bytes content) := by
  constructor
  · rw [Item.encode]
    rfl
  · rw [Item.encode]
    simp only [bytes, encodeBytes]
    split
    · next single => exact single.1.symm
    · rw [List.length_append, length_header]

/-- Integers write the item of their digits. -/
theorem uint_writes (value : Nat) : uint.Writes value (.ofNat value) := bytes_writes _

/-- A prefix over a correctly counted payload makes a list item. -/
theorem header_writes {items : List Item} {payload : List UInt8} {payloadLength : Nat}
    (encoded : payload = encodeAll items) (counted : payloadLength = (encodeAll items).length) :
    header listOffset payloadLength ++ payload = (Item.list items).encode ∧
      lengthOfLength payloadLength + payloadLength = (Item.list items).encode.length := by
  rw [Item.encode, List.length_append, length_header, encoded, counted]
  exact ⟨rfl, rfl⟩

/-- Elements that write their items make a list that writes the list of items. -/
theorem list_writes {α : Type} {inner : Encodable α} {item : α → Item} {values : List α}
    (elements : ∀ value ∈ values, inner.Writes value (item value)) :
    (list inner).Writes values (.list (values.map item)) := by
  have payload : (values.map inner.encode).flatten = encodeAll (values.map item) ∧
      (values.map inner.length).sum = (encodeAll (values.map item)).length := by
    induction values with
    | nil => exact ⟨rfl, rfl⟩
    | cons value values ih =>
      have front := elements value List.mem_cons_self
      have back := ih fun other otherMem => elements other (List.mem_cons_of_mem _ otherMem)
      simp only [List.map_cons, List.flatten_cons, List.sum_cons, encodeAll, List.length_append]
      rw [front.1, front.2, back.1, back.2]
      exact ⟨rfl, rfl⟩
  exact header_writes payload.1 payload.2

/-- The content of a byte string. -/
def Item.asBytes : Item → Option (List UInt8)
  | .bytes content => some content
  | .list _ => none

/-- The elements of a list. -/
def Item.asList : Item → Option (List Item)
  | .bytes _ => none
  | .list items => some items

/-- The value of an integer of at most `width` bytes; a leading zero is refused. -/
def Item.asNat (width : Nat) : Item → Option Nat
  | .bytes content =>
    if width < content.length ∨ content.head? = some 0 then none else some (ofBigEndian content)
  | .list _ => none

/-- Byte strings read back. -/
@[simp]
theorem Item.asBytes_bytes (content : List UInt8) : (Item.bytes content).asBytes = some content :=
  rfl

/-- Lists read back. -/
@[simp]
theorem Item.asList_list (items : List Item) : (Item.list items).asList = some items :=
  rfl

/-- Integers within the width read back. -/
theorem Item.asNat_ofNat {value width : Nat} (below : value < 256 ^ width) :
    (Item.ofNat value).asNat width = some value := by
  have canonical : ¬ (width < (bigEndian value).length ∨ (bigEndian value).head? = some 0) := by
    rintro (long | leading)
    · exact Nat.not_lt.mpr (length_bigEndian_le below) long
    · exact head_bigEndian leading
  simp only [Item.ofNat, Item.asNat, if_neg canonical, ofBigEndian_bigEndian]

end Rlp
