import OpenEngine.Transition
import OpenEngine.Api.ReserveScript

/-!
# Sponsor spend per window

Runs of `try_reserve`. An account is what one guard bounds: the spend of one sender, or of all of
them, in the windows of one length. For every account the counter of an open window is at least what
was granted in it, never exceeds the limit, and does not expire before the window closes. So no
order of senders, amounts and windows grants more than a limit in one window.
-/

namespace OpenEngine.Api

open OpenEngine.Core Redis

/-- One call of `try_reserve`, at a time in milliseconds. -/
structure Call where
  now : Nat
  sender : Address
  maxCost : U256

/-- The gwei a call asks for. -/
def Call.amount (call : Call) : Nat := weiToGweiCeil call.maxCost

/-- The store's counters, the time of the last call and the calls granted so far. -/
structure Ledger where
  counters : Counters String
  clock : Nat
  granted : List Call

/-- A store nothing was asked of yet. -/
def Ledger.start : Ledger := ⟨Counters.empty, 0, []⟩

/-- What `try_reserve` answers a call. -/
def Ledger.answer (store : RedisPolicyStore) (alloy : Alloy) (ledger : Ledger) (call : Call) :
    Except PolicyError Unit :=
  (store.tryReserve alloy call.now ledger.counters call.sender call.maxCost).1

/-- One call. -/
def Ledger.step (store : RedisPolicyStore) (alloy : Alloy) (ledger : Ledger) (call : Call) :
    Ledger where
  counters := (store.tryReserve alloy call.now ledger.counters call.sender call.maxCost).2
  clock := call.now
  granted :=
    match ledger.answer store alloy call with
    | .ok _ => ledger.granted ++ [call]
    | .error _ => ledger.granted

/-- What one guard bounds: the calls it counts, in windows of one length, up to a limit. -/
structure Account where
  key : Nat → String
  window : Nat
  limit : Nat
  counts : Call → Bool

namespace Account

variable {account : Account}

/-- The window a time falls into. -/
def bucket (account : Account) (now : Nat) : Nat := nowSecs now / account.window

/-- The first time after a window. -/
def closes (account : Account) (bucket : Nat) : Nat := 1000 * (account.window * (bucket + 1))

/-- Whether a call is spent in a window. -/
def charges (account : Account) (bucket : Nat) (call : Call) : Bool :=
  account.counts call && account.bucket call.now == bucket

/-- The gwei granted in a window. -/
def spent (account : Account) (granted : List Call) (bucket : Nat) : Nat :=
  ((granted.filter (account.charges bucket)).map Call.amount).sum

/-- The account's guard at a time. -/
def guard (account : Account) (now : Nat) : Guard where
  key := account.key (account.bucket now)
  limit := some account.limit
  ttl := asI64 account.window

/-- The guard of windows of up to `2 ^ 53` seconds lasts. -/
theorem guard_lasts (positive : 0 < account.window) (short : account.window ≤ Binary64.exactBound)
    (now : Nat) : (account.guard now).Lasts :=
  asI64_pos_of_le positive short

/-- A window is open while it is current, and closes within one length. -/
theorem closes_bucket (positive : 0 < account.window) (now : Nat) :
    now < account.closes (account.bucket now) ∧
      account.closes (account.bucket now) ≤ now + 1000 * account.window := by
  unfold closes bucket nowSecs
  have whole : 1000 * (now / 1000) ≤ now := Nat.mul_div_le now 1000
  have rest : now < 1000 * (now / 1000 + 1) := Nat.lt_mul_div_succ now (by decide)
  generalize now / 1000 = seconds at whole rest ⊢
  have after : seconds < account.window * (seconds / account.window + 1) :=
    Nat.lt_mul_div_succ seconds positive
  have within : account.window * (seconds / account.window) ≤ seconds := Nat.mul_div_le _ _
  rw [Nat.mul_add, Nat.mul_one] at after ⊢
  omega

/-- A granted call is spent in its own window, if it counts. -/
theorem spent_append (granted : List Call) (call : Call) (bucket : Nat) :
    account.spent (granted ++ [call]) bucket = account.spent granted bucket +
      if account.charges bucket call then call.amount else 0 := by
  unfold spent
  rw [List.filter_append, List.map_append, List.sum_append]
  split
  · next counted =>
    rw [List.filter_cons_of_pos counted, List.filter_nil, List.map_singleton, List.sum_singleton]
  · next other => rw [List.filter_cons_of_neg other, List.filter_nil, List.map_nil, List.sum_nil]

/-- What holds of a window at every time: it is not overspent, its counter covers it while it is
open and stays within the limit, and the counter does not expire before the window closes. -/
structure Kept (account : Account) (ledger : Ledger) (bucket : Nat) : Prop where
  bounded : account.spent ledger.granted bucket ≤ account.limit
  covered : ledger.clock < account.closes bucket →
    account.spent ledger.granted bucket ≤ ledger.counters.get (account.key bucket)
  within : ∀ counter, ledger.counters (account.key bucket) = some counter →
    counter.value ≤ account.limit ∧
      ∀ expiry ∈ counter.expiresAt, account.closes bucket ≤ expiry

variable {ledger next : Ledger} {call : Call} {bucket : Nat} {status : Status}

/-- The counter of an open window is not dropped. -/
theorem Kept.evict (kept : account.Kept ledger bucket) {now : Nat}
    (isOpen : now < account.closes bucket) :
    ledger.counters.evict now (account.key bucket) = ledger.counters (account.key bucket) := by
  apply Counters.evict_of_live
  intro counter held
  unfold Counter.live
  rw [Option.all_eq_true]
  intro expiry expires
  have later := (kept.within counter held).2 expiry expires
  exact decide_eq_true (by omega)

/-- A window whose counter is at most dropped and in which nothing is granted stays kept. -/
theorem Kept.of_idle (kept : account.Kept ledger bucket) (forward : ledger.clock ≤ next.clock)
    (spends : account.spent next.granted bucket = account.spent ledger.granted bucket)
    (holds : next.counters (account.key bucket) =
      ledger.counters.evict next.clock (account.key bucket)) : account.Kept next bucket := by
  constructor
  · rw [spends]
    exact kept.bounded
  · intro isOpen
    rw [spends, Counters.get, holds, kept.evict isOpen]
    exact kept.covered (by omega)
  · intro counter held
    rw [holds, Counters.evict, Option.filter_eq_some_iff] at held
    exact kept.within counter held.1

/-- The current window stays kept when its counter is charged within the limit. -/
theorem Kept.of_charged (kept : account.Kept ledger (account.bucket call.now))
    (exact : account.limit < Binary64.exactBound) (positive : 0 < account.window)
    (short : account.window ≤ Binary64.exactBound) (forward : ledger.clock ≤ call.now)
    (spends : account.spent next.granted (account.bucket call.now) ≤
      account.spent ledger.granted (account.bucket call.now) + call.amount)
    (under : (account.guard call.now).exceeded (ledger.counters.evict call.now) call.amount = false)
    (charged : (account.guard call.now).Charged call.now call.amount
      (ledger.counters.evict call.now) next.counters) :
    account.Kept next (account.bucket call.now) := by
  obtain ⟨isOpen, nearby⟩ := account.closes_bucket positive call.now
  have stays := kept.evict isOpen
  have room := (account.guard call.now).fits rfl exact under
  have sum := charged.get_eq rfl exact under
  obtain ⟨counter, held, _, expires⟩ := charged
  have before : (ledger.counters.evict call.now).get (account.key (account.bucket call.now)) =
      ledger.counters.get (account.key (account.bucket call.now)) := by
    rw [Counters.get, stays, Counters.get]
  have covered := kept.covered (show ledger.clock < _ by omega)
  change _ + call.amount ≤ account.limit at room
  change next.counters.get (account.key (account.bucket call.now)) = _ + call.amount at sum
  change next.counters (account.key (account.bucket call.now)) = some counter at held
  rw [show (account.guard call.now).key = account.key (account.bucket call.now) from rfl,
    before] at room sum
  constructor
  · omega
  · intro _
    omega
  · intro other otherHeld
    have same : counter = other := Option.some.inj (held.symm.trans otherHeld)
    subst same
    constructor
    · rw [Counters.get, held, Option.map_some, Option.getD_some] at sum
      omega
    · intro expiry isExpiry
      rcases expires with old | fresh
      · rw [show (account.guard call.now).key = account.key (account.bucket call.now) from rfl,
          stays] at old
        rw [old] at isExpiry
        obtain ⟨earlier, earlierHeld, earlierExpires⟩ := Option.bind_eq_some_iff.mp isExpiry
        exact (kept.within earlier earlierHeld).2 expiry earlierExpires
      · rw [fresh] at isExpiry
        have set : call.now + 1000 * (Binary64.roundInt (asI64 account.window)).toNat = expiry :=
          Option.some.inj isExpiry
        rw [roundInt_asI64 short] at set
        omega

/-- A call keeps every window of an account when it charges the account's guard and leaves the
account's other keys alone. -/
theorem Kept.of_run (kept : ∀ bucket, account.Kept ledger bucket)
    (exact : account.limit < Binary64.exactBound) (positive : 0 < account.window)
    (short : account.window ≤ Binary64.exactBound) (forward : ledger.clock ≤ call.now)
    (clock : next.clock = call.now)
    (granted : next.granted =
      if status = .ok then ledger.granted ++ [call] else ledger.granted)
    (others : ∀ bucket, account.charges bucket call = false →
      next.counters (account.key bucket) = ledger.counters.evict call.now (account.key bucket))
    (own : account.counts call = true → (account.guard call.now).Bound call.now call.amount
      (ledger.counters.evict call.now) status next.counters)
    (bucket : Nat) : account.Kept next bucket := by
  have spends : account.spent next.granted bucket = account.spent ledger.granted bucket +
      if status = .ok ∧ account.charges bucket call then call.amount else 0 := by
    rw [granted]
    by_cases isGranted : status = .ok
    · rw [if_pos isGranted, spent_append]
      simp only [isGranted, true_and]
    · rw [if_neg isGranted, if_neg (fun both => isGranted both.1), Nat.add_zero]
  by_cases charged : account.charges bucket call = true
  · have parts := Bool.and_eq_true_iff.mp charged
    have current : account.bucket call.now = bucket := by simpa using parts.2
    subst current
    rcases own parts.1 with ⟨same, refused⟩ | ⟨_, under, committed⟩
    · have notGranted : status ≠ .ok := fun isGranted =>
        absurd (refused isGranted) (Option.some_ne_none _)
      rw [if_neg (fun both => notGranted both.1), Nat.add_zero] at spends
      refine (kept _).of_idle (by omega) spends ?_
      rw [clock]
      exact same
    · have isCharged := committed.charged (account.guard_lasts positive short call.now)
      refine (kept _).of_charged exact positive short forward ?_ under isCharged
      rw [spends]
      split <;> omega
  · rw [if_neg (fun both => charged both.2), Nat.add_zero] at spends
    refine (kept _).of_idle (by omega) spends ?_
    rw [clock]
    exact others bucket (Bool.eq_false_iff.mpr charged)

end Account

namespace RedisPolicyStore

/-- Limits below `2 ^ 53` gwei and windows of 1 to `2 ^ 53` seconds. -/
structure InRange (store : RedisPolicyStore) : Prop where
  perSender : ∀ limit ∈ store.perSenderGwei, limit < 2 ^ 53
  globalBudget : ∀ limit ∈ store.globalBudgetGwei, limit < 2 ^ 53
  window : 1 ≤ store.windowSecs ∧ store.windowSecs ≤ 2 ^ 53
  budgetWindow : 1 ≤ store.budgetWindowSecs ∧ store.budgetWindowSecs ≤ 2 ^ 53

/-- The guards of a store in range last. -/
theorem InRange.lasts {store : RedisPolicyStore} (inRange : store.InRange) (alloy : Alloy)
    (now : Nat) (sender : Address) :
    (store.quotaGuard alloy now sender).Lasts ∧ (store.budgetGuard now).Lasts :=
  ⟨asI64_pos_of_le inRange.window.1 inRange.window.2,
    asI64_pos_of_le inRange.budgetWindow.1 inRange.budgetWindow.2⟩

/-- What the quota bounds for one sender. -/
def senderAccount (store : RedisPolicyStore) (alloy : Alloy) (limit : Nat) (sender : Address) :
    Account where
  key := senderKey alloy sender
  window := store.windowSecs
  limit := limit
  counts call := call.sender = sender

/-- What the budget bounds for all senders. -/
def globalAccount (store : RedisPolicyStore) (limit : Nat) : Account where
  key := globalKey
  window := store.budgetWindowSecs
  limit := limit
  counts _ := true

/-- The guards of a call have different keys. -/
theorem guards_distinct (store : RedisPolicyStore) (alloy : Alloy) (now : Nat) (sender : Address) :
    (store.quotaGuard alloy now sender).key ≠ (store.budgetGuard now).key :=
  senderKey_ne_globalKey alloy sender _ _

/-- The script run of a call. -/
def script (store : RedisPolicyStore) (alloy : Alloy) (ledger : Ledger) (call : Call) :
    Status × Counters String :=
  reserveScript (store.quotaGuard alloy call.now call.sender) (store.budgetGuard call.now) call.now
    (ledger.counters.evict call.now) call.amount

/-- With a guard enabled, a call is its script run. -/
theorem tryReserve_eq {store : RedisPolicyStore}
    (enabled : ¬ (store.perSenderGwei.isNone ∧ store.globalBudgetGwei.isNone)) (alloy : Alloy)
    (ledger : Ledger) (call : Call) :
    store.tryReserve alloy call.now ledger.counters call.sender call.maxCost =
      ((store.script alloy ledger call).1.toResult call.sender,
        (store.script alloy ledger call).2) := by
  unfold tryReserve script
  rw [if_neg enabled]
  rfl

variable {store : RedisPolicyStore} {alloy : Alloy} {ledger : Ledger} {call : Call}

/-- With a guard enabled, the calls granted are those the script grants. -/
theorem step_granted (enabled : ¬ (store.perSenderGwei.isNone ∧ store.globalBudgetGwei.isNone)) :
    (ledger.step store alloy call).granted =
      if (store.script alloy ledger call).1 = .ok then ledger.granted ++ [call]
      else ledger.granted := by
  unfold Ledger.step Ledger.answer
  rw [tryReserve_eq enabled]
  cases (store.script alloy ledger call).1 with
  | ok => rfl
  | quota => rfl
  | budget => rfl
  | failed => rfl

/-- With a guard enabled, the counters are those the script leaves. -/
theorem step_counters (enabled : ¬ (store.perSenderGwei.isNone ∧ store.globalBudgetGwei.isNone)) :
    (ledger.step store alloy call).counters = (store.script alloy ledger call).2 := by
  unfold Ledger.step
  rw [tryReserve_eq enabled]

/-- The script of a call runs as described. -/
theorem script_run (store : RedisPolicyStore) (alloy : Alloy) (ledger : Ledger) (call : Call) :
    ReserveRun (store.quotaGuard alloy call.now call.sender) (store.budgetGuard call.now) call.now
      call.amount (ledger.counters.evict call.now) (store.script alloy ledger call).1
      (store.script alloy ledger call).2 :=
  reserveScript_run _ _ _ _ _

/-- A call keeps every window of every sender. -/
theorem senderAccount_step {limit : Nat} {sender : Address} (inRange : store.InRange)
    (limited : store.perSenderGwei = some limit) (forward : ledger.clock ≤ call.now)
    (kept : ∀ bucket, (store.senderAccount alloy limit sender).Kept ledger bucket) (bucket : Nat) :
    (store.senderAccount alloy limit sender).Kept (ledger.step store alloy call) bucket := by
  have enabled : ¬ (store.perSenderGwei.isNone ∧ store.globalBudgetGwei.isNone) := by
    simp [limited]
  have run := store.script_run alloy ledger call
  rw [← step_counters enabled] at run
  refine Account.Kept.of_run kept (inRange.perSender limit limited) inRange.window.1
    inRange.window.2 forward rfl
    (step_granted enabled) ?_ ?_ bucket
  · intro other idle
    apply run.of_ne
    · intro same
      obtain ⟨named, current⟩ := senderKey_injective same
      have charges : (store.senderAccount alloy limit sender).charges other call = true := by
        simp [Account.charges, senderAccount, Account.bucket, named, current]
      rw [charges] at idle
      cases idle
    · exact senderKey_ne_globalKey alloy sender _ _
  · intro counted
    have named : call.sender = sender := of_decide_eq_true counted
    have guards : (store.senderAccount alloy limit sender).guard call.now =
        store.quotaGuard alloy call.now call.sender := by
      rw [quotaGuard, limited, named]
      rfl
    rw [guards]
    exact run.binds_quota (store.guards_distinct alloy call.now call.sender)

/-- A call keeps every window of the budget. -/
theorem globalAccount_step {limit : Nat} (inRange : store.InRange)
    (limited : store.globalBudgetGwei = some limit) (forward : ledger.clock ≤ call.now)
    (kept : ∀ bucket, (store.globalAccount limit).Kept ledger bucket) (bucket : Nat) :
    (store.globalAccount limit).Kept (ledger.step store alloy call) bucket := by
  have enabled : ¬ (store.perSenderGwei.isNone ∧ store.globalBudgetGwei.isNone) := by
    simp [limited]
  have run := store.script_run alloy ledger call
  rw [← step_counters enabled] at run
  refine Account.Kept.of_run kept (inRange.globalBudget limit limited) inRange.budgetWindow.1
    inRange.budgetWindow.2 forward rfl (step_granted enabled) ?_ ?_ bucket
  · intro other idle
    apply run.of_ne
    · exact (senderKey_ne_globalKey alloy call.sender _ _).symm
    · intro same
      have current := globalKey_injective same
      have charges : (store.globalAccount limit).charges other call = true := by
        simp [Account.charges, globalAccount, Account.bucket, current]
      rw [charges] at idle
      cases idle
  · intro _
    have guards : (store.globalAccount limit).guard call.now = store.budgetGuard call.now := by
      rw [budgetGuard, limited]
      rfl
    rw [guards]
    exact run.binds_budget (store.guards_distinct alloy call.now call.sender)

/-- Every window of every enabled guard is kept. -/
def Sound (store : RedisPolicyStore) (alloy : Alloy) (ledger : Ledger) : Prop :=
  (∀ limit sender bucket, store.perSenderGwei = some limit →
    (store.senderAccount alloy limit sender).Kept ledger bucket) ∧
  ∀ limit bucket, store.globalBudgetGwei = some limit →
    (store.globalAccount limit).Kept ledger bucket

/-- Nothing is spent or held at the start. -/
theorem kept_start (account : Account) (bucket : Nat) : account.Kept Ledger.start bucket := by
  constructor
  · exact Nat.zero_le _
  · intro _
    exact Nat.zero_le _
  · intro counter held
    cases held

/-- Calls in the order of their times never turn the clock back. -/
theorem along_of_ordered {calls : List Call}
    (ordered : calls.Pairwise fun earlier later => earlier.now ≤ later.now)
    (started : ∀ call ∈ calls, ledger.clock ≤ call.now) :
    Transition.Along (Ledger.step store alloy) (fun ledger call => ledger.clock ≤ call.now) ledger
      calls := by
  induction calls generalizing ledger with
  | nil => trivial
  | cons call rest ih =>
    obtain ⟨later, orderedRest⟩ := List.pairwise_cons.mp ordered
    exact ⟨started call List.mem_cons_self, ih orderedRest later⟩

/-- After calls with a clock that never goes back, every window is kept. -/
theorem sound_run (inRange : store.InRange) {calls : List Call}
    (ordered : calls.Pairwise fun earlier later => earlier.now ≤ later.now) :
    store.Sound alloy (Transition.run (Ledger.step store alloy) Ledger.start calls) := by
  apply Transition.run_invariant (store.Sound alloy) _ Ledger.start calls
  · exact ⟨fun _ _ _ _ => kept_start _ _, fun _ _ _ => kept_start _ _⟩
  · exact along_of_ordered ordered fun call _ => Nat.zero_le call.now
  · intro ledger call sound forward
    constructor
    · intro limit sender bucket limited
      exact senderAccount_step inRange limited forward
        (fun bucket => sound.1 limit sender bucket limited) bucket
    · intro limit bucket limited
      exact globalAccount_step inRange limited forward
        (fun bucket => sound.2 limit bucket limited) bucket

/-- A refusal of a guard comes from the script. -/
theorem script_refused
    (refused : ledger.answer store alloy call = .error (.quotaExceeded call.sender) ∨
      ledger.answer store alloy call = .error .globalBudgetExhausted) :
    ¬ (store.perSenderGwei.isNone ∧ store.globalBudgetGwei.isNone) ∧
      ((store.script alloy ledger call).1 = .quota ∨
        (store.script alloy ledger call).1 = .budget) := by
  unfold Ledger.answer at refused
  by_cases disabled : store.perSenderGwei.isNone ∧ store.globalBudgetGwei.isNone
  · rw [tryReserve, if_pos disabled] at refused
    rcases refused with same | same <;> cases same
  · rw [tryReserve_eq disabled] at refused
    refine ⟨disabled, ?_⟩
    cases status : (store.script alloy ledger call).1 with
    | quota => exact .inl rfl
    | budget => exact .inr rfl
    | ok =>
      rw [status] at refused
      rcases refused with same | same <;> cases same
    | failed =>
      rw [status] at refused
      rcases refused with same | same <;> cases same

/-- With a guard enabled, a granted call was granted by the script. -/
theorem script_granted (enabled : ¬ (store.perSenderGwei.isNone ∧ store.globalBudgetGwei.isNone))
    (granted : ledger.answer store alloy call = .ok ()) :
    (store.script alloy ledger call).1 = .ok := by
  unfold Ledger.answer at granted
  rw [tryReserve_eq enabled] at granted
  cases status : (store.script alloy ledger call).1 with
  | ok => rfl
  | quota =>
    rw [status] at granted
    cases granted
  | budget =>
    rw [status] at granted
    cases granted
  | failed =>
    rw [status] at granted
    cases granted

/-- What the store promises in every state it reaches. -/
structure WithinBudget (store : RedisPolicyStore) (alloy : Alloy) (ledger : Ledger) : Prop where
  /-- No sender is granted more than its limit in a window. -/
  perSender : ∀ limit sender bucket, store.perSenderGwei = some limit →
    (store.senderAccount alloy limit sender).spent ledger.granted bucket ≤ limit
  /-- All senders together are not granted more than the global limit in a window. -/
  globalBudget : ∀ limit bucket, store.globalBudgetGwei = some limit →
    (store.globalAccount limit).spent ledger.granted bucket ≤ limit
  /-- A call that is refused changes no counter. -/
  refused : ∀ call, (ledger.answer store alloy call = .error (.quotaExceeded call.sender) ∨
      ledger.answer store alloy call = .error .globalBudgetExhausted) →
    ∀ key, (ledger.step store alloy call).counters.get key =
      (ledger.counters.evict call.now).get key
  /-- A call that is granted adds its amount to the counter of every enabled guard. -/
  granted : ∀ call, ledger.answer store alloy call = .ok () →
    (store.perSenderGwei ≠ none →
      (ledger.step store alloy call).counters.get (store.quotaGuard alloy call.now call.sender).key =
        (ledger.counters.evict call.now).get (store.quotaGuard alloy call.now call.sender).key +
          call.amount) ∧
    (store.globalBudgetGwei ≠ none →
      (ledger.step store alloy call).counters.get (store.budgetGuard call.now).key =
        (ledger.counters.evict call.now).get (store.budgetGuard call.now).key + call.amount)
  /-- No counter expires while its window is current. -/
  unexpired : ∀ now,
    (∀ sender, store.perSenderGwei ≠ none →
      ledger.counters.evict now (store.quotaGuard alloy now sender).key =
        ledger.counters (store.quotaGuard alloy now sender).key) ∧
    (store.globalBudgetGwei ≠ none →
      ledger.counters.evict now (store.budgetGuard now).key =
        ledger.counters (store.budgetGuard now).key)

/-- In a run of calls with a clock that never goes back, every state reached is within budget. -/
theorem windowed_budget (store : RedisPolicyStore) (alloy : Alloy) (inRange : store.InRange)
    (calls : List Call) (ordered : calls.Pairwise fun earlier later => earlier.now ≤ later.now) :
    store.WithinBudget alloy (Transition.run (Ledger.step store alloy) Ledger.start calls) := by
  have sound : store.Sound alloy _ := sound_run inRange ordered
  generalize Transition.run (Ledger.step store alloy) Ledger.start calls = ledger at sound ⊢
  constructor
  · intro limit sender bucket limited
    exact (sound.1 limit sender bucket limited).bounded
  · intro limit bucket limited
    exact (sound.2 limit bucket limited).bounded
  · intro call refused key
    obtain ⟨enabled, refusal⟩ := script_refused refused
    rw [step_counters enabled, (store.script_run alloy ledger call).after_of_refused refusal]
  · intro call granted
    have distinct := store.guards_distinct alloy call.now call.sender
    have lasts := inRange.lasts alloy call.now call.sender
    constructor
    · intro limited
      obtain ⟨limit, limited⟩ := Option.ne_none_iff_exists'.mp limited
      have enabled : ¬ (store.perSenderGwei.isNone ∧ store.globalBudgetGwei.isNone) := by
        simp [limited]
      have run := store.script_run alloy ledger call
      rw [← step_counters enabled, script_granted enabled granted] at run
      exact (run.binds_quota distinct).get_of_granted limited (inRange.perSender limit limited)
        lasts.1
    · intro limited
      obtain ⟨limit, limited⟩ := Option.ne_none_iff_exists'.mp limited
      have enabled : ¬ (store.perSenderGwei.isNone ∧ store.globalBudgetGwei.isNone) := by
        simp [limited]
      have run := store.script_run alloy ledger call
      rw [← step_counters enabled, script_granted enabled granted] at run
      exact (run.binds_budget distinct).get_of_granted limited
        (inRange.globalBudget limit limited) lasts.2
  · intro now
    constructor
    · intro sender limited
      obtain ⟨limit, limited⟩ := Option.ne_none_iff_exists'.mp limited
      have current := ((store.senderAccount alloy limit sender).closes_bucket inRange.window.1 now).1
      exact (sound.1 limit sender _ limited).evict current
    · intro limited
      obtain ⟨limit, limited⟩ := Option.ne_none_iff_exists'.mp limited
      have current := ((store.globalAccount limit).closes_bucket inRange.budgetWindow.1 now).1
      exact (sound.2 limit _ limited).evict current

/-- Two senders under a quota of 5 gwei an hour and a budget of 8 gwei a day: the second call runs
into the quota and the fourth into the budget. -/
def twoSenders : List Call :=
  let first : Address := ⟨List.replicate 20 0x11, rfl⟩
  let second : Address := ⟨List.replicate 20 0x33, rfl⟩
  [⟨1000, first, 3000000000⟩, ⟨1500, first, 2000000001⟩, ⟨2000, second, 5000000000⟩,
    ⟨2000, second, 1⟩]

/-- The store of `twoSenders`. -/
def twoSendersStore : RedisPolicyStore :=
  RedisPolicyStore.connect (some 5000000000) 3600 (some 8000000000) 86400

/-- Its limits and windows are in range. -/
theorem twoSendersStore_inRange : twoSendersStore.InRange :=
  ⟨by decide +kernel, by decide +kernel, by decide +kernel, by decide +kernel⟩

/-- The run of two senders stays within budget. -/
theorem windowed_budget_twoSenders :
    twoSendersStore.WithinBudget (Alloy.reference ⟨List.replicate 32 0, rfl⟩)
      (Transition.run
        (Ledger.step twoSendersStore (Alloy.reference ⟨List.replicate 32 0, rfl⟩)) Ledger.start
        twoSenders) :=
  windowed_budget twoSendersStore (Alloy.reference ⟨List.replicate 32 0, rfl⟩)
    twoSendersStore_inRange twoSenders (by decide +kernel)

example : ((Transition.run
    (Ledger.step twoSendersStore (Alloy.reference ⟨List.replicate 32 0, rfl⟩)) Ledger.start
    twoSenders).granted.map Call.amount) = [3, 5] := by
  decide +kernel

end RedisPolicyStore

end OpenEngine.Api
