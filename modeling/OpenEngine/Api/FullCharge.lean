import OpenEngine.Api.PublicPosture

/-!
# What a granted reservation adds

`try_reserve` rounds the cost up to gwei so as never to charge too little. The addition before the
division wraps at the top of `U256`, where `max_cost` saturates, and the Lua number of the script
may round an amount above `2 ^ 53` gwei down again. An amount that saturates `i64` is refused by
Redis and never granted. A guard whose window the cast to `i64` makes negative keeps no amount.
-/

namespace OpenEngine.Api

open OpenEngine.Core OpenEngine.Compiler Redis

/-- The ceiling is exact and saturated, except where the addition before the division wraps. -/
theorem weiToGweiCeil_eq (wei : U256) :
    weiToGweiCeil wei =
      if wei.toNat + 999999999 < 2 ^ 256 then min (2 ^ 63 - 1) (inGwei wei) else 0 := by
  have width := wei.isLt
  have added : (wei + (weiPerGwei - 1)).toNat = (wei.toNat + 999999999) % 2 ^ 256 :=
    BitVec.toNat_add wei (weiPerGwei - 1)
  have converted : weiToGweiCeil wei =
      min ((wei.toNat + 999999999) % 2 ^ 256 / 1000000000) (2 ^ 63 - 1) := by
    rw [weiToGweiCeil, u256ToI64Saturating, BitVec.toNat_udiv, added]
    rfl
  rw [converted]
  split
  · next fits =>
    rw [Nat.mod_eq_of_lt fits, Nat.min_comm]
    rfl
  · next wraps =>
    have small : (wei.toNat + 999999999) % 2 ^ 256 / 1000000000 = 0 := by omega
    rw [small, Nat.zero_min]

/-- The floor is exact and saturated. -/
theorem weiToGweiFloor_eq (wei : U256) :
    weiToGweiFloor wei = min (2 ^ 63 - 1) (wei.toNat / 1000000000) := by
  rw [weiToGweiFloor, u256ToI64Saturating, BitVec.toNat_udiv, Nat.min_comm]
  rfl

/-- The ceiling is exact and saturated where the addition before the division does not wrap, and
nowhere else. -/
theorem weiToGweiCeil_exact_iff (wei : U256) :
    weiToGweiCeil wei = min (2 ^ 63 - 1) (inGwei wei) ↔ wei.toNat + 999999999 < 2 ^ 256 := by
  rw [weiToGweiCeil_eq]
  split
  · next fits => exact iff_of_true rfl fits
  · next wraps =>
    refine iff_of_false ?_ wraps
    unfold inGwei
    omega

/-- The commands of an enabled guard run only for amounts that fit in `i64`. -/
theorem Guard.round_lt_of_commit {guard : Guard} {now amount : Nat} {counters : Counters String}
    (enabled : guard.limit.isSome = true) (ran : (guard.commit now counters amount).2 = true) :
    Binary64.round amount < 2 ^ 63 := by
  obtain ⟨limit, isLimit⟩ := Option.isSome_iff_exists.mp enabled
  unfold Guard.commit at ran
  rw [isLimit] at ran
  dsimp only at ran
  split at ran
  · cases ran
  · next added increments =>
    unfold Counters.incrBy at increments
    dsimp only at increments
    split at increments
    · next fits => omega
    · cases increments

/-- A script that grants an amount ran the commands of both guards. -/
theorem ReserveRun.commits {quota budget : Guard} {now amount : Nat}
    {before after : Counters String} {status : Status}
    (run : ReserveRun quota budget now amount before status after) (granted : status = .ok) :
    ∃ charged, quota.commit now before amount = (charged, true) ∧
      budget.commit now charged amount = (after, true) := by
  cases run with
  | refused refusal =>
    rw [granted] at refusal
    rcases refusal with same | same <;> cases same
  | stopped => cases granted
  | @committed charged _ ran _ _ first second =>
    cases ran with
    | false => cases granted
    | true => exact ⟨charged, first, second⟩

namespace RedisPolicyStore

variable {store : RedisPolicyStore} {alloy : Alloy} {now : Nat} {counters : Counters String}
  {sender : Address} {maxCost : U256}

/-- An amount that is granted with a guard enabled fits in `i64` as a Lua number. -/
theorem round_lt_of_granted (guarded : store.Guarded)
    (granted : (store.tryReserve alloy now counters sender maxCost).1 = .ok ()) :
    Binary64.round (weiToGweiCeil maxCost) < 2 ^ 63 := by
  rw [tryReserve, if_neg (guarded_iff.mp guarded)] at granted
  have run := reserveScript_run (store.quotaGuard alloy now sender) (store.budgetGuard now) now
    (weiToGweiCeil maxCost) (counters.evict now)
  obtain ⟨charged, first, second⟩ := run.commits (Status.toResult_eq_ok.mp granted)
  rcases guarded with quota | budget
  · have enabled : (store.quotaGuard alloy now sender).limit.isSome = true :=
      Option.isSome_iff_ne_none.mpr quota
    exact Guard.round_lt_of_commit enabled (congrArg Prod.snd first)
  · have enabled : (store.budgetGuard now).limit.isSome = true :=
      Option.isSome_iff_ne_none.mpr budget
    exact Guard.round_lt_of_commit enabled (congrArg Prod.snd second)

/-- A reservation that is granted settles the counters. -/
theorem settles_of_granted
    (granted : (store.tryReserve alloy now counters sender maxCost).1 = .ok ()) :
    Settles (store.enabledGuards alloy now sender) now (weiToGweiCeil maxCost) counters
      (store.tryReserve alloy now counters sender maxCost).2 := by
  have called : store.call alloy now none counters sender maxCost =
      (.ok (), (store.tryReserve alloy now counters sender maxCost).2) := Prod.ext granted rfl
  exact call_granted called

/-- A cost reserved in full: every enabled counter grows by gwei that are worth at least the cost.
-/
def ReservesInFull (store : RedisPolicyStore) (alloy : Alloy) (now : Nat)
    (counters : Counters String) (sender : Address) (maxCost : U256) : Prop :=
  ∀ guard ∈ store.enabledGuards alloy now sender, ∃ added,
    (store.tryReserve alloy now counters sender maxCost).2.read now guard.key =
      counters.read now guard.key + added ∧
    maxCost.toNat ≤ added * 1000000000

/-- A cost is covered by gwei exactly if they are at least its gwei. -/
theorem inGwei_le_iff (cost : U256) (gwei : Nat) :
    inGwei cost ≤ gwei ↔ cost.toNat ≤ gwei * 1000000000 := by
  unfold inGwei
  omega

/-- A reservation that is granted charges in full exactly if every enabled guard does. -/
theorem reservesInFull_iff_guards
    (granted : (store.tryReserve alloy now counters sender maxCost).1 = .ok ()) :
    store.ReservesInFull alloy now counters sender maxCost ↔
      ∀ guard ∈ store.enabledGuards alloy now sender,
        guard.ChargesInFull now counters maxCost := by
  have settles := settles_of_granted granted
  refine forall_congr' fun guard => forall_congr' fun enabled => ?_
  rw [← Guard.covered_iff settles enabled]
  constructor
  · intro ⟨added, grew, covered⟩
    have gwei := (inGwei_le_iff maxCost added).mpr covered
    omega
  · intro covered
    refine ⟨_, (Nat.add_sub_of_le (Nat.le_trans (Nat.le_add_right _ _) covered)).symm, ?_⟩
    rw [← inGwei_le_iff]
    omega

/-- A guard loses nothing of a cost: its window is not cast to a negative number, rounding the cost
up to gwei does not wrap and the gwei are not rounded down to a Lua number; or there is nothing to
charge and nothing on its counter. -/
def LosesNothing (now : Nat) (counters : Counters String) (maxCost : U256) (guard : Guard) : Prop :=
  (guard.Lasts ∧ maxCost.toNat + 999999999 < 2 ^ 256 ∧
      inGwei maxCost ≤ Binary64.round (inGwei maxCost)) ∨
    (maxCost = 0 ∧ counters.read now guard.key = 0)

/-- A granted reservation charges in full exactly if every enabled guard loses nothing. The
conversion of a cost is exact and saturated exactly if rounding up does not wrap; the conversion of a
limit always is. -/
theorem reserves_in_full_iff (store : RedisPolicyStore) (alloy : Alloy) (now : Nat)
    (counters : Counters String) (sender : Address) (tx : FrameTransaction)
    (granted : (store.tryReserve alloy now counters sender (tx.maxCost alloy)).1 = .ok ()) :
    (store.ReservesInFull alloy now counters sender (tx.maxCost alloy) ↔
      ∀ guard ∈ store.enabledGuards alloy now sender,
        LosesNothing now counters (tx.maxCost alloy) guard) ∧
    ∀ wei : U256,
      (weiToGweiCeil wei = min (2 ^ 63 - 1) (inGwei wei) ↔ wei.toNat + 999999999 < 2 ^ 256) ∧
      weiToGweiFloor wei = min (2 ^ 63 - 1) (wei.toNat / 1000000000) := by
  refine ⟨?_, fun wei => ⟨weiToGweiCeil_exact_iff wei, weiToGweiFloor_eq wei⟩⟩
  rw [reservesInFull_iff_guards granted]
  refine forall_congr' fun guard => forall_congr' fun enabled => ?_
  have guarded : store.Guarded := by
    by_contra unguarded
    rw [enabledGuards_of_unguarded unguarded] at enabled
    cases enabled
  have fitsLua := round_lt_of_granted guarded granted
  unfold Guard.ChargesInFull LosesNothing
  refine or_congr_left (and_congr_right fun _ => ?_)
  rw [weiToGweiCeil_eq] at fitsLua ⊢
  split at fitsLua
  · next exact =>
    have top : Binary64.round (2 ^ 63 - 1) = 2 ^ 63 := by decide +kernel
    have unsaturated : inGwei (tx.maxCost alloy) < 2 ^ 63 - 1 := by
      by_contra saturated
      rw [Nat.min_eq_left (Nat.not_lt.mp saturated), top] at fitsLua
      exact Nat.lt_irrefl _ fitsLua
    rw [if_pos exact, Nat.min_eq_right (Nat.le_of_lt unsaturated), and_iff_right exact]
  · next wraps =>
    rw [if_neg wraps, Binary64.round_of_le (Nat.zero_le _)]
    refine iff_of_false ?_ (fun fits => wraps fits.1)
    unfold inGwei
    omega

/-- What `sponsoredTx` costs is charged in full. -/
theorem reserves_in_full_sponsoredTx :
    twoSendersStore.ReservesInFull (sponsoringEngine none).alloy 1000 Counters.empty
      (repeatByte 0x11) ((sponsoredTx "").maxCost (sponsoringEngine none).alloy) := by
  have cost := sponsoredTx_maxCost
  refine (reserves_in_full_iff twoSendersStore (sponsoringEngine none).alloy 1000 Counters.empty
    (repeatByte 0x11) (sponsoredTx "") ?_).1.mpr fun guard enabled => .inl ⟨?_, ?_, ?_⟩
  · rw [cost]
    decide +kernel
  · have lasts := twoSendersStore_inRange.lasts (sponsoringEngine none).alloy 1000 (repeatByte 0x11)
    rcases (mem_enabledGuards.mp enabled).1 with rfl | rfl
    · exact lasts.1
    · exact lasts.2
  · rw [cost]
    decide
  · rw [cost]
    decide

/-- A quota window of `u64::MAX` seconds is sent as -1: the call is granted and leaves no counter. -/
example :
    let store := RedisPolicyStore.connect (some 5000000000) (2 ^ 64 - 1) none 3600
    let alloy := (sponsoringEngine none).alloy
    let answer := store.tryReserve alloy 1000 Counters.empty (repeatByte 0x11) 2417320
    answer.1 = .ok () ∧ answer.2 (store.quotaGuard alloy 1000 (repeatByte 0x11)).key = none := by
  decide +kernel

/-- `sponsoredTx` with a blob whose fee saturates the cost. -/
def boundlessFeeTx : FrameTransaction :=
  { sponsoredTx "" with
    blobVersionedHashes := [⟨0x01 :: List.replicate 31 0x22, rfl⟩]
    maxFeePerBlobGas := some (BitVec.allOnes 256) }

/-- It costs all there is. -/
theorem boundlessFeeTx_maxCost (alloy : Alloy) :
    boundlessFeeTx.maxCost alloy = BitVec.allOnes 256 := by
  have blobs : boundlessFeeTx.blobCost = Saturating.top 256 := by decide +kernel
  unfold FrameTransaction.maxCost Saturating.add
  dsimp only
  rw [blobs, Nat.min_eq_right (Nat.le_add_left _ _)]
  decide +kernel

/-- A transaction that costs all there is is accepted, and is reserved for nothing. -/
theorem boundless_fee_reserved :
    validateStructure (sponsoringEngine none).alloy boundlessFeeTx = .ok () ∧
      (FrameCompiler.dearStore.tryReserve (sponsoringEngine none).alloy 1000 Counters.empty
        (repeatByte 0x11) (boundlessFeeTx.maxCost (sponsoringEngine none).alloy)).1 = .ok () ∧
      ¬ FrameCompiler.dearStore.ReservesInFull (sponsoringEngine none).alloy 1000 Counters.empty
        (repeatByte 0x11) (boundlessFeeTx.maxCost (sponsoringEngine none).alloy) ∧
      weiToGweiCeil (boundlessFeeTx.maxCost (sponsoringEngine none).alloy) = 0 := by
  rw [boundlessFeeTx_maxCost]
  have free : weiToGweiCeil (BitVec.allOnes 256) = 0 := by decide +kernel
  have granted : (FrameCompiler.dearStore.tryReserve (sponsoringEngine none).alloy 1000
      Counters.empty (repeatByte 0x11) (BitVec.allOnes 256)).1 = .ok () := by decide +kernel
  refine ⟨by decide +kernel, granted, ?_, free⟩
  rw [reservesInFull_iff_guards granted]
  intro full
  have budget := full (FrameCompiler.dearStore.budgetGuard 1000)
    (mem_enabledGuards.mpr ⟨.inr rfl, by decide⟩)
  unfold Guard.ChargesInFull at budget
  rw [free] at budget
  exact absurd budget (by decide +kernel)

end RedisPolicyStore

end OpenEngine.Api
