import OpenEngine.Compiler.Ceiling
import OpenEngine.Api.WindowedBudget

/-!
# What a compilation spends

`compile_and_validate` with the Redis policy store behind it. The reservation is the last step and
the only one that touches a counter, so a compilation that fails spends nothing. One that succeeds
charges every enabled guard with the same Lua number: the gwei of the signed transaction's cost,
rounded to binary64. The counter of a guard that does not last is deleted in the same breath.
-/

namespace OpenEngine.Api

open OpenEngine.Core OpenEngine.Compiler Redis

/-- A guard charges an amount exactly: it lasts and the amount is a binary64 number, or there is
nothing to charge and nothing on its counter. -/
def Guard.ChargesExactly (guard : Guard) (now : Nat) (counters : Counters String) (amount : Nat) :
    Prop :=
  (guard.Lasts ∧ Binary64.round amount = amount) ∨
    (amount = 0 ∧ counters.read now guard.key = 0)

namespace RedisPolicyStore

/-- Whether a guard is enabled. -/
def Guarded (store : RedisPolicyStore) : Prop :=
  store.perSenderGwei ≠ none ∨ store.globalBudgetGwei ≠ none

instance (store : RedisPolicyStore) : Decidable store.Guarded :=
  inferInstanceAs (Decidable (_ ∨ _))

/-- The enabled guards of a call. -/
def enabledGuards (store : RedisPolicyStore) (alloy : Alloy) (now : Nat) (sender : Address) :
    List Guard :=
  [store.quotaGuard alloy now sender, store.budgetGuard now].filter fun guard => guard.limit.isSome

/-- `try_reserve` of a store whose connection may be down. -/
def call (store : RedisPolicyStore) (alloy : Alloy) (now : Nat) (outage : Option String)
    (counters : Counters String) (sender : Address) (maxCost : U256) :
    Except PolicyError Unit × Counters String :=
  match outage with
  | none => store.tryReserve alloy now counters sender maxCost
  | some detail =>
    if store.Guarded then (.error (.store detail), counters) else (.ok (), counters)

/-- A script call that reports an error did not run. -/
def FailsClean (store : RedisPolicyStore) (alloy : Alloy) (now : Nat) (counters : Counters String) :
    Prop :=
  ∀ sender amount,
    (reserveScript (store.quotaGuard alloy now sender) (store.budgetGuard now) now
      (counters.evict now) amount).1 = .failed →
    (reserveScript (store.quotaGuard alloy now sender) (store.budgetGuard now) now
      (counters.evict now) amount).2 = counters.evict now

variable {store : RedisPolicyStore} {alloy : Alloy} {now : Nat} {outage : Option String}
  {counters later : Counters String} {sender : Address} {maxCost : U256}

/-- A guard is enabled unless both are disabled. -/
theorem guarded_iff :
    store.Guarded ↔ ¬ (store.perSenderGwei.isNone ∧ store.globalBudgetGwei.isNone) := by
  unfold Guarded
  rw [Option.isNone_iff_eq_none, Option.isNone_iff_eq_none, not_and_or]

/-- Some guard of every call is enabled, if one is. -/
theorem enabledGuards_ne_nil (guarded : store.Guarded) :
    store.enabledGuards alloy now sender ≠ [] := by
  intro empty
  have disabled := List.filter_eq_nil_iff.mp empty
  rcases guarded with quota | budget
  · exact disabled (store.quotaGuard alloy now sender) List.mem_cons_self
      (Option.isSome_iff_ne_none.mpr quota)
  · exact disabled (store.budgetGuard now) (List.mem_cons_of_mem _ List.mem_cons_self)
      (Option.isSome_iff_ne_none.mpr budget)

/-- No guard of a call is enabled if none is. -/
theorem enabledGuards_of_unguarded (unguarded : ¬ store.Guarded) :
    store.enabledGuards alloy now sender = [] := by
  unfold enabledGuards
  rw [List.filter_eq_nil_iff]
  intro guard listed enabled
  apply unguarded
  rcases List.mem_pair.mp listed with rfl | rfl
  · exact .inl (Option.isSome_iff_ne_none.mp enabled)
  · exact .inr (Option.isSome_iff_ne_none.mp enabled)

/-- What a key reads as after it was charged. -/
theorem read_of_charged {guard : Guard} {amount : Nat}
    (charged : guard.Charged now amount (counters.evict now) later) :
    later.read now guard.key = counters.read now guard.key + Binary64.round amount := by
  obtain ⟨counter, held, value, expires⟩ := charged
  have live : counter.live now = true := by
    unfold Counter.live
    rw [Option.all_eq_true]
    intro expiry isExpiry
    rcases expires with kept | fresh
    · rw [kept] at isExpiry
      obtain ⟨earlier, earlierHeld, earlierExpires⟩ := Option.bind_eq_some_iff.mp isExpiry
      unfold Counters.evict at earlierHeld
      have earlierLive := (Option.filter_eq_some_iff.mp earlierHeld).2
      unfold Counter.live at earlierLive
      rw [earlierExpires] at earlierLive
      exact earlierLive
    · rw [fresh] at isExpiry
      have set : now + 1000 * (Binary64.roundInt guard.ttl).toNat = expiry :=
        Option.some.inj isExpiry
      exact decide_eq_true (by omega)
  have stays : later.evict now guard.key = later guard.key := by
    apply Counters.evict_of_live
    intro other otherHeld
    rw [← Option.some.inj (held.symm.trans otherHeld)]
    exact live
  rw [Counters.read, Counters.get, stays, held, Option.map_some, Option.getD_some, value]
  rfl

/-- What a deleted key reads as. -/
theorem read_of_deleted {key : String} (deleted : later key = none) : later.read now key = 0 := by
  rw [Counters.read, Counters.get, Counters.evict, deleted]
  rfl

/-- What a call does to the counters: the keys of its guards are committed, and every other key is at
most dropped because it has expired. -/
structure Settles (guards : List Guard) (now amount : Nat) (before after : Counters String) :
    Prop where
  others : ∀ key ∉ guards.map Guard.key, after key = before key ∨ after key = before.evict now key
  committed : ∀ guard ∈ guards, guard.Committed now amount (before.evict now) after True

/-- A key that is no guard's reads as before. -/
theorem Settles.read_of_other {guards : List Guard} {amount : Nat} {key : String}
    (settles : Settles guards now amount counters later) (other : key ∉ guards.map Guard.key) :
    later.read now key = counters.read now key := by
  rcases settles.others key other with kept | dropped
  · exact Counters.read_congr kept
  · exact Counters.read_of_evicted dropped

/-- A guard's key has grown by the amount, or reads as nothing if the guard does not last. -/
theorem Settles.read_of_mem {guards : List Guard} {amount : Nat} {guard : Guard}
    (settles : Settles guards now amount counters later) (listed : guard ∈ guards) :
    later.read now guard.key =
      if guard.Lasts then counters.read now guard.key + Binary64.round amount else 0 := by
  have committed := settles.committed guard listed
  by_cases lasts : guard.Lasts
  · rw [if_pos lasts]
    exact read_of_charged (committed.charged lasts)
  · rw [if_neg lasts]
    exact read_of_deleted (committed.deleted trivial lasts)

/-- A guard's counter has grown by exactly the amount if and only if the guard charges it exactly. -/
theorem grew_iff {guards : List Guard} {amount : Nat} {guard : Guard}
    (settles : Settles guards now amount counters later) (listed : guard ∈ guards) :
    later.read now guard.key = counters.read now guard.key + amount ↔
      guard.ChargesExactly now counters amount := by
  rw [settles.read_of_mem listed]
  unfold Guard.ChargesExactly
  by_cases lasts : guard.Lasts
  · have zero := @Binary64.round_eq_zero amount
    simp only [lasts, if_true, true_and]
    omega
  · simp only [lasts, if_false, false_and, false_or]
    omega

/-- Nothing happens to any key when nothing is done. -/
theorem settles_of_same {amount : Nat} (same : later = counters) :
    Settles [] now amount counters later :=
  ⟨fun key _ => .inl (congrFun same key), fun _ listed => absurd listed List.not_mem_nil⟩

/-- A guard of a call is enabled if it has a limit. -/
theorem mem_enabledGuards {guard : Guard} :
    guard ∈ store.enabledGuards alloy now sender ↔
      (guard = store.quotaGuard alloy now sender ∨ guard = store.budgetGuard now) ∧
        guard.limit.isSome = true := by
  unfold enabledGuards
  rw [List.mem_filter, List.mem_pair]

/-- A script that granted an amount leaves the key of a disabled guard alone. -/
theorem same_of_disabled {guard : Guard} {amount : Nat} {status : Status}
    (bound : guard.Bound now amount counters status later) (disabled : guard.limit = none) :
    later guard.key = counters guard.key := by
  rcases bound with ⟨same, _⟩ | ⟨enabled, _⟩
  · exact same
  · exact absurd disabled enabled

/-- A script that granted an amount commits the key of an enabled guard. -/
theorem committed_of_enabled {guard : Guard} {amount : Nat}
    (bound : guard.Bound now amount counters .ok later) (enabled : guard.limit.isSome = true) :
    guard.Committed now amount counters later True := by
  rcases bound with ⟨_, disabled⟩ | ⟨_, _, committed⟩
  · rw [disabled rfl] at enabled
    cases enabled
  · exact committed.congr rfl rfl fun _ => rfl

/-- A script that granted an amount settles the keys of the enabled guards. -/
theorem settles_of_run {amount : Nat}
    (run : ReserveRun (store.quotaGuard alloy now sender) (store.budgetGuard now) now amount
      (counters.evict now) .ok later) :
    Settles (store.enabledGuards alloy now sender) now amount counters later := by
  have distinct := store.guards_distinct alloy now sender
  have quota := run.binds_quota distinct
  have budget := run.binds_budget distinct
  -- A guard whose key is not among those of the enabled guards has no limit.
  have disabled (guard : Guard) (isGuard : guard = store.quotaGuard alloy now sender ∨
      guard = store.budgetGuard now)
      (unlisted : guard.key ∉ (store.enabledGuards alloy now sender).map Guard.key) :
      guard.limit = none := by
    by_contra limited
    have listed := mem_enabledGuards.mpr ⟨isGuard, Option.isSome_iff_ne_none.mpr limited⟩
    exact unlisted (List.mem_map_of_mem listed)
  constructor
  · intro key other
    by_cases isQuota : key = (store.quotaGuard alloy now sender).key
    · rw [isQuota] at other ⊢
      exact .inr (same_of_disabled quota (disabled _ (.inl rfl) other))
    by_cases isBudget : key = (store.budgetGuard now).key
    · rw [isBudget] at other ⊢
      exact .inr (same_of_disabled budget (disabled _ (.inr rfl) other))
    · exact .inr (run.of_ne isQuota isBudget)
  · intro guard listed
    obtain ⟨isGuard, enabled⟩ := mem_enabledGuards.mp listed
    rcases isGuard with rfl | rfl
    · exact committed_of_enabled quota enabled
    · exact committed_of_enabled budget enabled

/-- Without an enabled guard a call is granted and changes nothing. -/
theorem call_of_unguarded (unguarded : ¬ store.Guarded) :
    store.call alloy now outage counters sender maxCost = (.ok (), counters) := by
  cases outage with
  | some detail => rw [call, if_neg unguarded]
  | none =>
    rw [guarded_iff, not_not] at unguarded
    rw [call, tryReserve, if_pos unguarded]

/-- A call that is granted settles the counters with the gwei of the cost. -/
theorem call_granted
    (granted : store.call alloy now outage counters sender maxCost = (.ok (), later)) :
    Settles (store.enabledGuards alloy now sender) now (weiToGweiCeil maxCost) counters later := by
  by_cases guarded : store.Guarded
  · cases outage with
    | some detail =>
      rw [call, if_pos guarded] at granted
      cases congrArg Prod.fst granted
    | none =>
      have run := reserveScript_run (store.quotaGuard alloy now sender) (store.budgetGuard now) now
        (weiToGweiCeil maxCost) (counters.evict now)
      rw [call, tryReserve, if_neg (guarded_iff.mp guarded)] at granted
      have ends := congrArg Prod.snd granted
      have status := Status.toResult_eq_ok.mp (congrArg Prod.fst granted)
      dsimp only at ends
      rw [ends, status] at run
      exact settles_of_run run
  · rw [call_of_unguarded guarded] at granted
    rw [enabledGuards_of_unguarded guarded]
    exact settles_of_same (congrArg Prod.snd granted).symm

/-- A call that is refused leaves every counter as it was, up to those that have expired. -/
theorem call_refused {failure : PolicyError} (clean : store.FailsClean alloy now counters)
    (refused : store.call alloy now outage counters sender maxCost = (.error failure, later)) :
    later = counters ∨ later = counters.evict now := by
  by_cases guarded : store.Guarded
  · cases outage with
    | some detail =>
      rw [call, if_pos guarded] at refused
      exact .inl (congrArg Prod.snd refused).symm
    | none =>
      have run := reserveScript_run (store.quotaGuard alloy now sender) (store.budgetGuard now) now
        (weiToGweiCeil maxCost) (counters.evict now)
      have failed := clean sender (weiToGweiCeil maxCost)
      rw [call, tryReserve, if_neg (guarded_iff.mp guarded)] at refused
      have ends := congrArg Prod.snd refused
      have status := congrArg Prod.fst refused
      dsimp only at ends status
      rw [ends] at run failed
      cases answer : (reserveScript (store.quotaGuard alloy now sender) (store.budgetGuard now) now
          (counters.evict now) (weiToGweiCeil maxCost)).1 with
      | ok =>
        rw [answer] at status
        cases status
      | quota =>
        rw [answer] at run
        exact .inr (run.after_of_refused (.inl rfl))
      | budget =>
        rw [answer] at run
        exact .inr (run.after_of_refused (.inr rfl))
      | failed => exact .inr (failed answer)
  · rw [call_of_unguarded guarded] at refused
    cases congrArg Prod.fst refused

/-- With limits below `2 ^ 53` gwei no script call reports an error. -/
theorem failsClean_of_inRange (inRange : store.InRange)
    (timely : now + 1000 * store.windowSecs < 2 ^ 63)
    (budgetTimely : now + 1000 * store.budgetWindowSecs < 2 ^ 63) :
    store.FailsClean alloy now counters := by
  have expirable (window : Nat) (short : window ≤ Binary64.exactBound)
      (soon : now + 1000 * window < 2 ^ 63) :
      Counters.Expirable now (Binary64.roundInt (asI64 window)) := by
    rw [roundInt_asI64 short]
    exact Counters.expirable_natCast soon
  replace timely := expirable store.windowSecs inRange.window.2 timely
  replace budgetTimely := expirable store.budgetWindowSecs inRange.budgetWindow.2 budgetTimely
  intro sender amount failed
  have run := reserveScript_run (store.quotaGuard alloy now sender) (store.budgetGuard now) now
    amount (counters.evict now)
  exact absurd failed (run.status_ne_failed (store.guards_distinct alloy now sender)
    inRange.perSender inRange.globalBudget timely budgetTimely)

end RedisPolicyStore

end OpenEngine.Api

namespace OpenEngine.Compiler.FrameCompiler

open OpenEngine.Core OpenEngine.Api Redis

variable {σ : Type}

/-- The compiler with a Redis policy store, or with none. -/
def withStore (compiler : FrameCompiler σ) (store : Option RedisPolicyStore) (now : Nat)
    (outage : Option String) : FrameCompiler (Counters String) where
  alloy := compiler.alloy
  gateway := compiler.gateway
  sponsorSigner := compiler.sponsorSigner
  policy :=
    { maxCostWei := compiler.policy.maxCostWei
      senderAllowlist := compiler.policy.senderAllowlist
      store := store.map fun redis => redis.call compiler.alloy now outage
      authority := compiler.policy.authority }

/-- The payer is the sponsor and a guard is enabled. -/
def Reserves (compiler : FrameCompiler σ) (store : Option RedisPolicyStore)
    (tx : FrameTransaction) : Prop :=
  compiler.resolvePayer tx = .sponsor ∧ ∃ redis ∈ store, redis.Guarded

/-- The enabled guards that a transaction is reserved against. -/
def reservedGuards (compiler : FrameCompiler σ) (store : Option RedisPolicyStore) (now : Nat)
    (tx : FrameTransaction) : List Guard :=
  match store, compiler.alloy.parseAddress tx.sender with
  | some redis, some sender =>
    if compiler.resolvePayer tx = .sponsor then redis.enabledGuards compiler.alloy now sender
    else []
  | _, _ => []

variable {compiler : FrameCompiler σ} {store : Option RedisPolicyStore} {now : Nat}
  {outage : Option String} {state later : Counters String} {tx returned : FrameTransaction}

/-- The store plays no part before the reservation. -/
theorem prepare_withStore :
    (compiler.withStore store now outage).prepare tx = compiler.prepare tx :=
  prepare_policy rfl rfl

/-- Without a store nothing is reserved. -/
theorem reservedGuards_of_none : compiler.reservedGuards none now tx = [] := by
  unfold reservedGuards
  split
  · next isSome _ => cases isSome
  · rfl

/-- A sponsored transaction is reserved against the enabled guards of its sender. -/
theorem reservedGuards_of_sponsored {redis : RedisPolicyStore} {sender : Address}
    (parsed : compiler.alloy.parseAddress tx.sender = some sender)
    (sponsored : compiler.resolvePayer tx = .sponsor) :
    compiler.reservedGuards (some redis) now tx =
      redis.enabledGuards compiler.alloy now sender := by
  unfold reservedGuards
  rw [parsed]
  exact if_pos sponsored

/-- There are no guards to reserve against unless the payer is the sponsor and one is enabled. -/
theorem reservedGuards_of_not (idle : ¬ compiler.Reserves store tx) :
    compiler.reservedGuards store now tx = [] := by
  unfold reservedGuards
  split
  · next redis sender _ =>
    split
    · next sponsored =>
      apply RedisPolicyStore.enabledGuards_of_unguarded
      intro guarded
      exact idle ⟨sponsored, redis, rfl, guarded⟩
    · rfl
  · rfl

/-- A sponsored transaction that is returned has a sender. -/
theorem sender_of_sponsored
    (compiled : (compiler.withStore store now outage).compileAndValidate state tx =
      (.ok returned, later)) (sponsored : compiler.resolvePayer tx = .sponsor) :
    ∃ sender, compiler.alloy.parseAddress tx.sender = some sender ∧
      parseSender compiler.alloy returned = .ok sender := by
  obtain ⟨signer, signature, signatures, injected⟩ :=
    compileAndValidate_sponsored compiled sponsored
  obtain ⟨sender, parsed, -⟩ := Check.bind_eq_ok.mp injected.guarded
  have same : parseSender compiler.alloy returned = .ok sender := by
    rw [injected.whole]
    exact parsed
  refine ⟨sender, ?_, same⟩
  unfold parseSender at parsed
  split at parsed
  · next found isSome =>
    rw [← Except.ok.inj parsed]
    exact isSome
  · cases parsed

/-- A compilation that succeeds settles the counters with the gwei of the transaction it returns. -/
theorem settles_of_ok
    (compiled : (compiler.withStore store now outage).compileAndValidate state tx =
      (.ok returned, later)) :
    RedisPolicyStore.Settles (compiler.reservedGuards store now tx) now
      (weiToGweiCeil (returned.maxCost compiler.alloy)) state later := by
  rcases reserved_of_ok compiled with ⟨unsponsored, same⟩ | ⟨sponsored, reserved⟩
  · have idle : ¬ compiler.Reserves store tx := fun reserves => unsponsored reserves.1
    rw [reservedGuards_of_not idle]
    exact RedisPolicyStore.settles_of_same same
  · cases store with
    | none =>
      rw [reservedGuards_of_none]
      exact RedisPolicyStore.settles_of_same (congrArg Prod.snd reserved).symm
    | some redis =>
      obtain ⟨sender, parsed, returnedParsed⟩ := sender_of_sponsored compiled sponsored
      have called : redis.call compiler.alloy now outage state sender
          (returned.maxCost compiler.alloy) = (.ok (), later) := by
        change SponsorPolicy.reserve _ compiler.alloy state returned = _ at reserved
        unfold SponsorPolicy.reserve at reserved
        rw [returnedParsed] at reserved
        exact reserved
      rw [reservedGuards_of_sponsored parsed sponsored]
      exact RedisPolicyStore.call_granted called

/-- A compilation that fails leaves every counter as it was, up to those that have expired. -/
theorem same_of_error {failure : CompilerError}
    (clean : ∀ redis ∈ store, redis.FailsClean compiler.alloy now state)
    (compiled : (compiler.withStore store now outage).compileAndValidate state tx =
      (.error failure, later)) : later = state ∨ later = state.evict now := by
  rcases reserved_of_error compiled with same | ⟨filled, refusal, refused⟩
  · exact .inl same
  · cases store with
    | none => cases congrArg Prod.fst refused
    | some redis =>
      change SponsorPolicy.reserve _ compiler.alloy state filled = _ at refused
      unfold SponsorPolicy.reserve at refused
      dsimp only [withStore, Option.map_some] at refused
      split at refused
      · exact .inl (congrArg Prod.snd refused).symm
      · exact RedisPolicyStore.call_refused (clean redis rfl) refused

/-- What a compilation that succeeds does to the counters: some value changes exactly if something
is reserved, and then the key of every enabled guard grows by the gwei of the transaction that is
returned. -/
structure SpendLaw (compiler : FrameCompiler σ) (store : Option RedisPolicyStore) (now : Nat)
    (state later : Counters String) (tx returned : FrameTransaction) : Prop where
  /-- Growing by zero is not a change. -/
  changed : (∃ key, later.read now key ≠ state.read now key) ↔
    compiler.Reserves store tx ∧ weiToGweiCeil (returned.maxCost compiler.alloy) ≠ 0
  grew : compiler.resolvePayer tx = .sponsor → ∀ redis ∈ store, ∀ sender,
    compiler.alloy.parseAddress tx.sender = some sender →
    ∀ guard ∈ redis.enabledGuards compiler.alloy now sender,
      later.read now guard.key =
        state.read now guard.key + weiToGweiCeil (returned.maxCost compiler.alloy)

/-- With the sponsor's signature filled in, the gwei of the cost are charged exactly by every guard
the transaction is reserved against. -/
def ChargesExactly (compiler : FrameCompiler σ) (store : Option RedisPolicyStore) (now : Nat)
    (state : Counters String) (tx : FrameTransaction) : Prop :=
  ∃ signer signature signatures, compiler.sponsorSigner = some signer ∧
    signer.signSponsorFrame tx (tx.computeSigHash compiler.alloy) = .ok signature ∧
    fillSignature (compiler.alloy.lowerHex signer.address) (compiler.alloy.hexEncode signature)
      tx.signatures = some signatures ∧
    ∀ guard ∈ compiler.reservedGuards store now tx,
      guard.ChargesExactly now state
        (weiToGweiCeil (({ tx with signatures := signatures } : FrameTransaction).maxCost
          compiler.alloy))

/-- For a transaction that is returned, the gwei are those of the transaction itself. -/
theorem chargesExactly_iff
    (compiled : (compiler.withStore store now outage).compileAndValidate state tx =
      (.ok returned, later)) (sponsored : compiler.resolvePayer tx = .sponsor) :
    compiler.ChargesExactly store now state tx ↔
      ∀ guard ∈ compiler.reservedGuards store now tx,
        guard.ChargesExactly now state (weiToGweiCeil (returned.maxCost compiler.alloy)) := by
  obtain ⟨signer, signature, signatures, injected⟩ :=
    compileAndValidate_sponsored compiled sponsored
  have held : compiler.sponsorSigner = some signer := injected.held
  have signed : signer.signSponsorFrame tx (tx.computeSigHash compiler.alloy) = .ok signature :=
    injected.signed
  have fills : fillSignature (compiler.alloy.lowerHex signer.address)
      (compiler.alloy.hexEncode signature) tx.signatures = some signatures := injected.fills
  rw [injected.whole]
  unfold ChargesExactly
  simp only [held, Option.some.injEq, exists_and_left, exists_eq_left', signed, Except.ok.injEq,
    fills]

/-- Some guard is reserved against when something is reserved. -/
theorem exists_reservedGuard
    (compiled : (compiler.withStore store now outage).compileAndValidate state tx =
      (.ok returned, later)) (reserves : compiler.Reserves store tx) :
    ∃ redis ∈ store, ∃ sender, compiler.alloy.parseAddress tx.sender = some sender ∧
      ∃ guard ∈ redis.enabledGuards compiler.alloy now sender,
        guard ∈ compiler.reservedGuards store now tx := by
  obtain ⟨sponsored, redis, isStore, guarded⟩ := reserves
  obtain ⟨sender, parsed, -⟩ := sender_of_sponsored compiled sponsored
  have enabled : redis.enabledGuards compiler.alloy now sender ≠ [] :=
    RedisPolicyStore.enabledGuards_ne_nil guarded
  obtain ⟨guard, listed⟩ := List.exists_mem_of_ne_nil _ enabled
  have isSome : store = some redis := isStore
  refine ⟨redis, isStore, sender, parsed, guard, listed, ?_⟩
  rw [isSome, reservedGuards_of_sponsored parsed sponsored]
  exact listed

/-- Where every guard charges exactly, the values change exactly if something is reserved and its
amount is not zero. -/
theorem changed_iff
    (compiled : (compiler.withStore store now outage).compileAndValidate state tx =
      (.ok returned, later))
    (exact : ∀ guard ∈ compiler.reservedGuards store now tx,
      guard.ChargesExactly now state (weiToGweiCeil (returned.maxCost compiler.alloy))) :
    (∃ key, later.read now key ≠ state.read now key) ↔
      compiler.Reserves store tx ∧ weiToGweiCeil (returned.maxCost compiler.alloy) ≠ 0 := by
  have settles := settles_of_ok compiled
  constructor
  · intro ⟨key, differs⟩
    have reserved : key ∈ (compiler.reservedGuards store now tx).map Guard.key := by
      by_contra other
      exact differs (settles.read_of_other other)
    obtain ⟨guard, listed, rfl⟩ := List.mem_map.mp reserved
    have grew := (RedisPolicyStore.grew_iff settles listed).mpr (exact guard listed)
    refine ⟨?_, by omega⟩
    by_contra idle
    rw [reservedGuards_of_not idle] at listed
    cases listed
  · intro ⟨reserves, positive⟩
    obtain ⟨redis, isStore, sender, parsed, guard, listed, reserved⟩ :=
      exists_reservedGuard compiled reserves
    have grew := (RedisPolicyStore.grew_iff settles reserved).mpr (exact guard reserved)
    exact ⟨guard.key, by omega⟩

/-- A compilation that succeeds keeps the law exactly if nothing is reserved or every guard charges
the amount exactly. -/
theorem spendLaw_iff
    (compiled : (compiler.withStore store now outage).compileAndValidate state tx =
      (.ok returned, later)) :
    compiler.SpendLaw store now state later tx returned ↔
      (compiler.Reserves store tx → compiler.ChargesExactly store now state tx) := by
  have settles := settles_of_ok compiled
  constructor
  · intro law reserves
    rw [chargesExactly_iff compiled reserves.1]
    intro guard reserved
    obtain ⟨sponsored, redis, isStore, _⟩ := reserves
    obtain ⟨sender, parsed, -⟩ := sender_of_sponsored compiled sponsored
    have isSome : store = some redis := isStore
    have listed := reserved
    rw [isSome, reservedGuards_of_sponsored parsed sponsored] at listed
    exact (RedisPolicyStore.grew_iff settles reserved).mp
      (law.grew sponsored redis isStore sender parsed guard listed)
  · intro charges
    have exact : ∀ guard ∈ compiler.reservedGuards store now tx,
        guard.ChargesExactly now state (weiToGweiCeil (returned.maxCost compiler.alloy)) := by
      intro guard reserved
      have reserves : compiler.Reserves store tx := by
        by_contra idle
        rw [reservedGuards_of_not idle] at reserved
        cases reserved
      exact (chargesExactly_iff compiled reserves.1).mp (charges reserves) guard reserved
    refine ⟨changed_iff compiled exact, fun sponsored redis isStore sender parsed guard listed => ?_⟩
    have isSome : store = some redis := isStore
    have reserved : guard ∈ compiler.reservedGuards store now tx := by
      rw [isSome, reservedGuards_of_sponsored parsed sponsored]
      exact listed
    exact (RedisPolicyStore.grew_iff settles reserved).mpr (exact guard reserved)

/-- A compilation that fails spends nothing, and one that succeeds spends by the law exactly if
nothing is reserved or every guard charges the amount exactly. -/
theorem compile_spends (compiler : FrameCompiler σ) (store : Option RedisPolicyStore) (now : Nat)
    (outage : Option String) (state : Counters String) (tx : FrameTransaction)
    (clean : ∀ redis ∈ store, redis.FailsClean compiler.alloy now state) :
    (∀ failure later, (compiler.withStore store now outage).compileAndValidate state tx =
        (.error failure, later) → later.evict now = state.evict now) ∧
      ∀ returned later, (compiler.withStore store now outage).compileAndValidate state tx =
        (.ok returned, later) →
          (compiler.SpendLaw store now state later tx returned ↔
            (compiler.Reserves store tx → compiler.ChargesExactly store now state tx)) := by
  constructor
  · intro failure later compiled
    rcases same_of_error clean compiled with same | dropped
    · rw [same]
    · rw [dropped, Counters.evict_evict]
  · intro returned later compiled
    exact spendLaw_iff compiled

/-- The counters of a quota of 5 gwei and a budget of 8 before any call. -/
theorem compile_spends_small :
    (∀ failure later, ((sponsoringEngine none).withStore (some RedisPolicyStore.twoSendersStore)
        1000 none).compileAndValidate Counters.empty (sponsoredTx "") = (.error failure, later) →
          later.evict 1000 = Counters.empty.evict 1000) ∧
      ∀ returned later, ((sponsoringEngine none).withStore (some RedisPolicyStore.twoSendersStore)
        1000 none).compileAndValidate Counters.empty (sponsoredTx "") = (.ok returned, later) →
          ((sponsoringEngine none).SpendLaw (some RedisPolicyStore.twoSendersStore) 1000
              Counters.empty later (sponsoredTx "") returned ↔
            ((sponsoringEngine none).Reserves (some RedisPolicyStore.twoSendersStore)
                (sponsoredTx "") →
              (sponsoringEngine none).ChargesExactly (some RedisPolicyStore.twoSendersStore) 1000
                Counters.empty (sponsoredTx ""))) :=
  compile_spends (sponsoringEngine none) (some RedisPolicyStore.twoSendersStore) 1000 none
    Counters.empty (sponsoredTx "") (fun _ isStore =>
      Option.some.inj isStore ▸ RedisPolicyStore.failsClean_of_inRange
        RedisPolicyStore.twoSendersStore_inRange (by decide) (by decide))

/-- `sponsoredTx` with a fee at which its signed form costs `2 ^ 53 + 1` gwei. -/
def dearTx : FrameTransaction := { sponsoredTx "" with maxFeePerGas := some 74522191970785771019 }

/-- `dearTx` with the placeholder filled. -/
def dearFilled : FrameTransaction :=
  { filledTx "" with maxFeePerGas := some 74522191970785771019 }

/-- The Keccak-256 hash of the signature preimage of `dearTx`. -/
def dearDigest : B256 :=
  ⟨[0x4d, 0x8b, 0xd3, 0x73, 0xa2, 0x60, 0x94, 0xcb, 0x02, 0x0b, 0x89, 0x38, 0xdb, 0xe2, 0x62, 0x46,
    0x1c, 0x84, 0x34, 0x98, 0xf1, 0xcd, 0x4a, 0x7e, 0xef, 0x13, 0x24, 0x2b, 0xdc, 0x85, 0x5e, 0x3a],
    rfl⟩

/-- `sponsoringEngine` where the hash asked for is that of `dearTx`. -/
def dearEngine : FrameCompiler Unit :=
  { sponsoringEngine none with alloy := Alloy.reference dearDigest }

/-- A store with a budget of `2 ^ 60` gwei a day and no quota. -/
def dearStore : RedisPolicyStore :=
  RedisPolicyStore.connect none 3600 (some 1152921504606846976000000000) 86400

/-- The counters after `dearTx` was reserved. -/
def dearCounters : Counters String :=
  (dearStore.call dearEngine.alloy 1000 none Counters.empty (repeatByte 0x11)
    9007199254740992999982454).2

/-- What `dearTx` costs once it is signed. -/
theorem dearFilled_maxCost : dearFilled.maxCost dearEngine.alloy = 9007199254740992999982454 := by
  have others : dearFilled.otherGas dearEngine.alloy = 119374 := by decide +kernel
  have cost := FrameTransaction.maxCost_of_parts rfl others (filledTx_signatureGas dearDigest) rfl
  exact BitVec.eq_of_toNat_eq (cost.trans (by decide))

/-- The sender of `dearTx`. -/
theorem dearTx_sender : dearEngine.alloy.parseAddress dearTx.sender =
    some (repeatByte 0x11) := by
  decide +kernel

/-- `dearTx` passes everything but the reservation. -/
theorem dearTx_prepared : dearEngine.prepare dearTx = .ok (dearFilled, true) := by
  decide +kernel

/-- `dearTx` is reserved and returned. -/
theorem dearTx_compiled :
    (dearEngine.withStore (some dearStore) 1000 none).compileAndValidate Counters.empty dearTx =
      (.ok dearFilled, dearCounters) := by
  apply compile_of_reserved
  · rw [prepare_withStore]
    exact dearTx_prepared
  · change SponsorPolicy.reserve _ dearEngine.alloy Counters.empty dearFilled = _
    have parsed : parseSender dearEngine.alloy dearFilled = .ok (repeatByte 0x11) := by
      unfold parseSender
      rw [show dearFilled.sender = dearTx.sender from rfl, dearTx_sender]
    have granted : (dearStore.call dearEngine.alloy 1000 none Counters.empty
        (repeatByte 0x11) 9007199254740992999982454).1 = .ok () := by
      decide +kernel
    unfold SponsorPolicy.reserve
    rw [parsed, dearFilled_maxCost]
    exact Prod.ext granted rfl

/-- The budget is charged one gwei less than `dearTx` costs. -/
theorem budget_undercharged :
    (dearEngine.withStore (some dearStore) 1000 none).compileAndValidate Counters.empty dearTx =
        (.ok dearFilled, dearCounters) ∧
      ¬ dearEngine.SpendLaw (some dearStore) 1000 Counters.empty dearCounters dearTx
        dearFilled := by
  refine ⟨dearTx_compiled, fun law => ?_⟩
  have sponsored : dearEngine.resolvePayer dearTx = .sponsor :=
    (prepare_sponsored dearTx_prepared).mp rfl
  have grew := law.grew sponsored dearStore rfl _ dearTx_sender (dearStore.budgetGuard 1000)
    (List.mem_filter.mpr ⟨List.mem_pair.mpr (.inr rfl), rfl⟩)
  rw [dearFilled_maxCost] at grew
  exact absurd grew (by decide +kernel)

example : dearCounters.read 1000 (dearStore.budgetGuard 1000).key = 2 ^ 53 := by decide +kernel

end OpenEngine.Compiler.FrameCompiler
