import OpenEngine.Compiler.FilledGas
import OpenEngine.Compiler.PayerScan

/-!
# The gas of validation as a bound

`MAX_VERIFY_GAS` bounds what a node has to spend before it knows who pays. The validator sums in
`u64`, and nothing bounds the gas limits of the frames it adds: a limit near the top of the range
wraps the sum, and the transaction is accepted however much gas it asks for.
-/

namespace OpenEngine.Compiler

open OpenEngine.Core

/-- The validator's sum is the exact gas of the prefix it collected, without the carries over the
width of `u64`. -/
theorem verifyGasLimit_eq_mod (alloy : Alloy) (tx : FrameTransaction)
    (fits : prefixGas alloy tx [] < 2 ^ 64) :
    verifyGasLimit alloy tx = prefixGas alloy tx (matchedPrefix alloy tx) % 2 ^ 64 := by
  have split : prefixGas alloy tx (matchedPrefix alloy tx) = prefixGas alloy tx [] +
      ((matchedPrefix alloy tx).map fun frame => frame.gasLimit.toNat).sum := rfl
  rw [verifyGasLimit, collectPrefix_gas, toNat_foldl_gas, toNat_baseVerifyGas fits, split]
  rfl

/-- The gas of an accepted transaction's prefix is bounded exactly if the sum fits in `u64`. -/
theorem verify_gas_bounded_iff {alloy : Alloy} {tx : FrameTransaction}
    (accepted : validateStructure alloy tx = .ok ()) :
    prefixGas alloy tx (matchedPrefix alloy tx) ≤ maxVerifyGas ↔
      prefixGas alloy tx (matchedPrefix alloy tx) < 2 ^ 64 := by
  have bound : maxVerifyGas < 2 ^ 64 := by decide
  constructor
  · intro within
    omega
  · intro fits
    have base : prefixGas alloy tx [] ≤ prefixGas alloy tx (matchedPrefix alloy tx) :=
      Nat.add_le_add_left (Nat.zero_le _) _
    obtain ⟨-, -, -, -, -, -, -, prefixed⟩ := validateStructure_eq_ok.mp accepted
    have affordable := (validatePrefix_eq_ok.mp prefixed).1
    rw [verifyGasLimit_eq_mod alloy tx (by omega), Nat.mod_eq_of_lt fits] at affordable
    exact affordable

/-- `sponsoredTx` asks for little gas. -/
theorem verify_gas_bounded_sponsoredTx :
    prefixGas (sponsoringEngine none).alloy (sponsoredTx "")
        (matchedPrefix (sponsoringEngine none).alloy (sponsoredTx "")) ≤ maxVerifyGas ↔
      prefixGas (sponsoringEngine none).alloy (sponsoredTx "")
        (matchedPrefix (sponsoringEngine none).alloy (sponsoredTx "")) < 2 ^ 64 :=
  verify_gas_bounded_iff (by decide +kernel)

/-- `sponsoredTx` with all the gas a frame can ask for. -/
def boundlessTx : FrameTransaction :=
  { sponsoredTx "" with
    frames := (sponsoredTx "").frames.map fun frame =>
      { frame with gasLimit := UInt64.ofNat (2 ^ 64 - 1) } }

/-- A transaction that asks for more gas than there is is accepted. -/
theorem boundless_gas_accepted :
    validateStructure (sponsoringEngine none).alloy boundlessTx = .ok () ∧
      maxVerifyGas < prefixGas (sponsoringEngine none).alloy boundlessTx
        (matchedPrefix (sponsoringEngine none).alloy boundlessTx) := by
  constructor
  · decide +kernel
  · decide +kernel

end OpenEngine.Compiler
