import OpenEngine.Core.Text

/-!
# Numbers in texts

`str::parse` of an unsigned integer, which the engine reads out of configuration and out of what
Redis returns. A number that was printed reads back if it is in range.
-/

namespace OpenEngine.Core

/-- A text without the one plus a number may begin with. -/
def unsignedPart (value : String) : List Char :=
  match value.toList with
  | '+' :: rest => rest
  | chars => chars

/-- `str::parse` of an unsigned number below a bound. -/
def parseUnsigned (bound : Nat) (value : String) : Option Nat :=
  let digits := unsignedPart value
  let number := Nat.ofDigitChars 10 digits 0
  if digits ≠ [] ∧ digits.all Char.isDigit ∧ number < bound then some number else none

/-- A text that begins with no plus is read as a whole. -/
theorem unsignedPart_of_notMem {value : String} (absent : '+' ∉ value.toList) :
    unsignedPart value = value.toList := by
  unfold unsignedPart
  split
  · next rest starts =>
    rw [starts] at absent
    exact absurd List.mem_cons_self absent
  · rfl

/-- A number is read back from its digits, unless it is out of range. -/
theorem parseUnsigned_toString (bound value : Nat) :
    parseUnsigned bound (toString value) = if value < bound then some value else none := by
  have digits : unsignedPart (toString value) = Nat.toDigits 10 value := by
    rw [unsignedPart_of_notMem (notMem_toString (by decide) value),
      Nat.toString_eq_ofList_toDigits, String.toList_ofList]
  have every : (Nat.toDigits 10 value).all Char.isDigit = true :=
    List.all_eq_true.mpr fun char member =>
      Nat.isDigit_of_mem_toDigits (by decide) (by decide) member
  have written : Nat.toDigits 10 value ≠ [] := Nat.toDigits_ne_nil
  unfold parseUnsigned
  rw [digits]
  dsimp only
  rw [Nat.ofDigitChars_ten_toDigits]
  simp [every, written]

end OpenEngine.Core
