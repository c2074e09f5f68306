import OpenEngine.Number.Binary64
import OpenEngine.Redis.Counters
import OpenEngine.Core.Policy

/-!
# The Redis policy store

`api/src/policy_store.rs`: the reserve script and `try_reserve`. The script computes with Lua
numbers, so every number it reads and every sum it forms is rounded to binary64. A command that
fails aborts the script and keeps what was written before it. A call reads the clock once.
-/

namespace OpenEngine.Api

open OpenEngine.Core Redis

/-- `WEI_PER_GWEI`. -/
def weiPerGwei : U256 := 1000000000

/-- `u256_to_i64_saturating`. -/
def u256ToI64Saturating (value : U256) : Nat := min value.toNat (2 ^ 63 - 1)

/-- `wei_to_gwei_ceil`; the addition of `U256` wraps. -/
def weiToGweiCeil (wei : U256) : Nat :=
  u256ToI64Saturating ((wei + (weiPerGwei - 1)) / weiPerGwei)

/-- `wei_to_gwei_floor`. -/
def weiToGweiFloor (wei : U256) : Nat := u256ToI64Saturating (wei / weiPerGwei)

/-- `as i64` of a `u64`. -/
def asI64 (value : Nat) : Int := (BitVec.ofNat 64 value).toInt

/-- The cast keeps a word below `2 ^ 63`. -/
theorem asI64_of_lt {value : Nat} (small : value < 2 ^ 63) : asI64 value = value := by
  unfold asI64
  rw [BitVec.toInt_eq_toNat_cond, BitVec.toNat_ofNat]
  omega

/-- A window of up to `2 ^ 53` seconds reaches `EXPIRE` as it is. -/
theorem roundInt_asI64 {window : Nat} (short : window ≤ Binary64.exactBound) :
    Binary64.roundInt (asI64 window) = window := by
  have small : window < 2 ^ 63 := by
    unfold Binary64.exactBound at short
    omega
  rw [asI64_of_lt small, Binary64.roundInt_natCast, Binary64.round_of_le short]

/-- The cast makes every longer word negative. -/
theorem asI64_pos {value : Nat} (word : value < 2 ^ 64) :
    0 < asI64 value ↔ 0 < value ∧ value < 2 ^ 63 := by
  unfold asI64
  rw [BitVec.toInt_eq_toNat_cond, BitVec.toNat_ofNat]
  omega

/-- The cast of a window of up to `2 ^ 53` seconds is positive. -/
theorem asI64_pos_of_le {window : Nat} (positive : 0 < window)
    (short : window ≤ Binary64.exactBound) : 0 < asI64 window := by
  unfold Binary64.exactBound at short
  exact (asI64_pos (by omega)).mpr ⟨positive, by omega⟩

/-- `RedisPolicyStore` without its connection. -/
structure RedisPolicyStore where
  perSenderGwei : Option Nat
  windowSecs : Nat
  globalBudgetGwei : Option Nat
  budgetWindowSecs : Nat

/-- `RedisPolicyStore::connect`. -/
def RedisPolicyStore.connect (perSenderWei : Option U256) (windowSecs : Nat)
    (globalBudgetWei : Option U256) (budgetWindowSecs : Nat) : RedisPolicyStore where
  perSenderGwei := perSenderWei.map weiToGweiFloor
  windowSecs := max windowSecs 1
  globalBudgetGwei := globalBudgetWei.map weiToGweiFloor
  budgetWindowSecs := max budgetWindowSecs 1

/-- One guard of the script: its key, its limit unless it is disabled, and the seconds its key is
told to live, which the cast of a long window makes negative. -/
structure Guard where
  key : String
  limit : Option Nat
  ttl : Int

/-- Whether a guard refuses an amount. -/
def Guard.exceeded (guard : Guard) (counters : Counters String) (amount : Nat) : Bool :=
  guard.limit.any fun limit =>
    Binary64.round limit <
      Binary64.round (Binary64.round (counters.get guard.key) + Binary64.round amount)

/-- `INCRBY` and `EXPIRE` of an enabled guard: the counters, and whether both commands ran. An
`EXPIRE` with a negative number deletes what was just added. -/
def Guard.commit (guard : Guard) (now : Nat) (counters : Counters String) (amount : Nat) :
    Counters String × Bool :=
  match guard.limit with
  | none => (counters, true)
  | some _ =>
    match counters.incrBy guard.key (Binary64.round amount) with
    | none => (counters, false)
    | some added =>
      match added.expire now guard.key (Binary64.roundInt guard.ttl) with
      | none => (added, false)
      | some kept => (kept, true)

/-- What the script answers. -/
inductive Status where
  | ok
  | quota
  | budget
  | failed
deriving DecidableEq

/-- How `try_reserve` reads the script's answer. -/
def Status.toResult (sender : Address) : Status → Except PolicyError Unit
  | .ok => .ok ()
  | .quota => .error (.quotaExceeded sender)
  | .budget => .error .globalBudgetExhausted
  | .failed => .error (.store "script error")

/-- `RESERVE_SCRIPT`: both guards are checked before either is committed. -/
def reserveScript (quota budget : Guard) (now : Nat) (counters : Counters String) (amount : Nat) :
    Status × Counters String :=
  if quota.exceeded counters amount then (.quota, counters)
  else if budget.exceeded counters amount then (.budget, counters)
  else
    match quota.commit now counters amount with
    | (stopped, false) => (.failed, stopped)
    | (charged, true) =>
      match budget.commit now charged amount with
      | (stopped, false) => (.failed, stopped)
      | (committed, true) => (.ok, committed)

/-- The key of a sender's window. -/
def senderKey (alloy : Alloy) (sender : Address) (window : Nat) : String :=
  "sponsor:quota:" ++ alloy.lowerHex sender ++ ":" ++ toString window

/-- The key of a budget window. -/
def globalKey (window : Nat) : String := "sponsor:budget:global:" ++ toString window

/-- `now_secs`, of a clock in milliseconds. -/
def nowSecs (now : Nat) : Nat := now / 1000

namespace RedisPolicyStore

/-- The per-sender guard of a call. -/
def quotaGuard (store : RedisPolicyStore) (alloy : Alloy) (now : Nat) (sender : Address) :
    Guard where
  key := senderKey alloy sender (nowSecs now / store.windowSecs)
  limit := store.perSenderGwei
  ttl := asI64 store.windowSecs

/-- The global guard of a call. -/
def budgetGuard (store : RedisPolicyStore) (now : Nat) : Guard where
  key := globalKey (nowSecs now / store.budgetWindowSecs)
  limit := store.globalBudgetGwei
  ttl := asI64 store.budgetWindowSecs

/-- `try_reserve`. -/
def tryReserve (store : RedisPolicyStore) (alloy : Alloy) (now : Nat) (counters : Counters String)
    (sender : Address) (maxCost : U256) : Except PolicyError Unit × Counters String :=
  if store.perSenderGwei.isNone ∧ store.globalBudgetGwei.isNone then (.ok (), counters)
  else
    let (status, counters) := reserveScript (store.quotaGuard alloy now sender)
      (store.budgetGuard now) now (counters.evict now) (weiToGweiCeil maxCost)
    (status.toResult sender, counters)

end RedisPolicyStore

end OpenEngine.Api
