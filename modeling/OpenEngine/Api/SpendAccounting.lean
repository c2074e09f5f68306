import OpenEngine.Api.Submission

/-!
# Reservations and answers

Sequential runs of requests, with worker operations in between, inside one window. The reservation
is committed by the compiler before the queue decides what to answer, and there is no refund: a
counter holds the sum over all sponsored requests that were compiled, those answered with a conflict
included.
-/

namespace OpenEngine.Api

open OpenEngine.Core OpenEngine.Compiler Queue Redis

/-- A sponsored request that was compiled: its sender, the number the reserve script adds for it,
and how the request was answered. -/
structure Receipt where
  sender : Address
  gwei : Nat
  response : TransactionResponse
deriving DecidableEq

/-- The number the reserve script adds for a transaction. -/
def reservedGwei (alloy : Alloy) (tx : FrameTransaction) : Nat :=
  Binary64.round (weiToGweiCeil (tx.maxCost alloy))

variable {ο ε : Type}

/-- The receipt of a turn, if it is a sponsored request that is compiled. -/
def Engine.receipts (alloy : Alloy) (store : Option RedisPolicyStore) (engine : Engine ο ε) :
    Turn ο ε → List Receipt
  | .worker _ => []
  | .post post =>
    match (post.intake alloy store engine.counters).1, alloy.parseAddress post.payload.sender with
    | .ok job, some sender =>
      if (post.compiler alloy).resolvePayer post.payload = .sponsor then
        [{ sender
           gwei := reservedGwei alloy job.data
           response := (submit engine.jobs (nowSecs post.now) job).1 }]
      else []
    | _, _ => []

section Receipts

variable {alloy : Alloy} {store : Option RedisPolicyStore} {engine : Engine ο ε} {post : Post}
  {later : Counters String}

/-- A request that is refused has no receipt. -/
theorem Engine.receipts_of_refused {failure : ApiError}
    (refused : post.intake alloy store engine.counters = (.error failure, later)) :
    engine.receipts alloy store (.post post) = [] := by
  unfold receipts
  dsimp only
  rw [refused]

/-- A request that someone else pays for has no receipt. -/
theorem Engine.receipts_of_unsponsored
    (unsponsored : (post.compiler alloy).resolvePayer post.payload ≠ .sponsor) :
    engine.receipts alloy store (.post post) = [] := by
  unfold receipts
  dsimp only
  split
  · rw [if_neg unsponsored]
  · rfl

/-- The receipt of a sponsored request that is admitted. -/
theorem Engine.receipts_of_sponsored {job : JobOptions String FrameTransaction} {sender : Address}
    (admitted : post.intake alloy store engine.counters = (.ok job, later))
    (parsed : alloy.parseAddress post.payload.sender = some sender)
    (sponsored : (post.compiler alloy).resolvePayer post.payload = .sponsor) :
    engine.receipts alloy store (.post post) =
      [{ sender
         gwei := reservedGwei alloy job.data
         response := (submit engine.jobs (nowSecs post.now) job).1 }] := by
  unfold receipts
  dsimp only
  rw [admitted, parsed]
  dsimp only
  rw [if_pos sponsored]

end Receipts

/-- The gwei of the receipts of the senders that count. -/
def totalGwei (counts : Address → Bool) (receipts : List Receipt) : Nat :=
  ((receipts.filter fun receipt => counts receipt.sender).map Receipt.gwei).sum

/-- Totals add up. -/
theorem totalGwei_append (counts : Address → Bool) (first second : List Receipt) :
    totalGwei counts (first ++ second) = totalGwei counts first + totalGwei counts second := by
  unfold totalGwei
  rw [List.filter_append, List.map_append, List.sum_append]

/-- The total of one receipt. -/
theorem totalGwei_singleton (counts : Address → Bool) (receipt : Receipt) :
    totalGwei counts [receipt] = if counts receipt.sender then receipt.gwei else 0 := by
  unfold totalGwei
  by_cases counted : counts receipt.sender = true
  · simp [counted]
  · simp [counted]

namespace Account

variable {account : Account} {bucket total : Nat} {counters later : Counters String} {now : Nat}

/-- The counter of a window holds a total and does not expire before the window closes. -/
structure Counted (account : Account) (bucket : Nat) (counters : Counters String) (total : Nat) :
    Prop where
  get_eq : counters.get (account.key bucket) = total
  unexpired : ∀ counter, counters (account.key bucket) = some counter →
    ∀ expiry ∈ counter.expiresAt, account.closes bucket ≤ expiry

/-- A window without a counter holds nothing. -/
theorem counted_of_none (fresh : counters (account.key bucket) = none) :
    account.Counted bucket counters 0 := by
  constructor
  · rw [Counters.get, fresh]
    rfl
  · intro counter held
    rw [fresh] at held
    cases held

/-- The counter of a window is not dropped while the window is current. -/
theorem Counted.evict (counted : account.Counted bucket counters total)
    (positive : 0 < account.window) (current : account.bucket now = bucket) :
    counters.evict now (account.key bucket) = counters (account.key bucket) := by
  have isOpen := (account.closes_bucket positive now).1
  rw [current] at isOpen
  apply Counters.evict_of_live
  intro counter held
  unfold Counter.live
  rw [Option.all_eq_true]
  intro expiry expires
  have later := counted.unexpired counter held expiry expires
  exact decide_eq_true (by omega)

/-- The counter of a window reads as its total while the window is current. -/
theorem Counted.read_eq (counted : account.Counted bucket counters total)
    (positive : 0 < account.window) (current : account.bucket now = bucket) :
    counters.read now (account.key bucket) = total := by
  rw [Counters.read, Counters.get, counted.evict positive current]
  exact counted.get_eq

/-- A counter that is left alone keeps its total. -/
theorem Counted.of_same (counted : account.Counted bucket counters total)
    (same : later (account.key bucket) = counters (account.key bucket)) :
    account.Counted bucket later total := by
  constructor
  · rw [Counters.get, same]
    exact counted.get_eq
  · intro counter held
    rw [same] at held
    exact counted.unexpired counter held

/-- A call that is granted in the window adds its amount if the window's key is among those of its
guards. -/
theorem Counted.of_settles {guards : List Guard} {amount : Nat}
    (counted : account.Counted bucket counters total) (positive : 0 < account.window)
    (short : account.window ≤ Binary64.exactBound) (current : account.bucket now = bucket)
    (windowed : ∀ guard ∈ guards, guard.key = account.key bucket →
      guard.ttl = asI64 account.window)
    (settles : RedisPolicyStore.Settles guards now amount counters later) :
    account.Counted bucket later
      (total + if account.key bucket ∈ guards.map Guard.key then Binary64.round amount else 0) := by
  have stays := counted.evict positive current
  by_cases member : account.key bucket ∈ guards.map Guard.key
  · rw [if_pos member]
    obtain ⟨guard, listed, named⟩ := List.mem_map.mp member
    have ttl := windowed guard listed named
    have lasts : guard.Lasts := by
      unfold Guard.Lasts
      rw [ttl]
      exact asI64_pos_of_le positive short
    obtain ⟨counter, held, value, expires⟩ := (settles.committed guard listed).charged lasts
    rw [ttl, roundInt_asI64 short, Int.toNat_natCast] at expires
    rw [named] at held value expires
    rw [stays] at expires
    constructor
    · rw [Counters.get, held, Option.map_some, Option.getD_some, value, Counters.get, stays]
      exact congrArg (· + Binary64.round amount) counted.get_eq
    · intro other otherHeld expiry isExpiry
      have same : counter = other := Option.some.inj (held.symm.trans otherHeld)
      subst same
      rcases expires with old | fresh
      · rw [old] at isExpiry
        obtain ⟨earlier, earlierHeld, earlierExpires⟩ := Option.bind_eq_some_iff.mp isExpiry
        exact counted.unexpired earlier earlierHeld expiry earlierExpires
      · rw [fresh] at isExpiry
        have set : now + 1000 * account.window = expiry := Option.some.inj isExpiry
        have nearby := (account.closes_bucket positive now).2
        rw [current] at nearby
        omega
  · rw [if_neg member, Nat.add_zero]
    rcases settles.others _ member with kept | dropped
    · exact counted.of_same kept
    · exact counted.of_same (dropped.trans stays)

end Account

/-- A turn inside the windows, whose script call did not run if it reports an error. -/
def Engine.InWindow (alloy : Alloy) (store : RedisPolicyStore) (quotaBucket budgetBucket : Nat)
    (engine : Engine ο ε) : Turn ο ε → Prop
  | .post post =>
    nowSecs post.now / store.windowSecs = quotaBucket ∧
      nowSecs post.now / store.budgetWindowSecs = budgetBucket ∧
      store.FailsClean alloy post.now engine.counters
  | .worker _ => True

section Turns

variable {alloy : Alloy} {store : RedisPolicyStore} {options : QueueOptions} {account : Account}
  {bucket total : Nat} {counts : Address → Bool} {engine : Engine ο ε} {post : Post}

/-- The window's key is charged for the senders that count, and by guards of the window's length,
which is up to `2 ^ 53` seconds. -/
structure Account.ChargedBy (account : Account) (store : RedisPolicyStore) (alloy : Alloy)
    (bucket : Nat) (counts : Address → Bool) : Prop where
  positive : 0 < account.window
  short : account.window ≤ Binary64.exactBound
  windowed : ∀ now sender, ∀ guard ∈ store.enabledGuards alloy now sender,
    guard.key = account.key bucket → guard.ttl = asI64 account.window
  keyed : ∀ now sender, account.bucket now = bucket →
    (account.key bucket ∈ (store.enabledGuards alloy now sender).map Guard.key ↔
      counts sender = true)

/-- A request that is refused adds nothing. -/
theorem Account.Counted.of_refused {failure : ApiError} {later : Counters String}
    (charged : account.ChargedBy store alloy bucket counts)
    (counted : account.Counted bucket engine.counters total)
    (current : account.bucket post.now = bucket)
    (clean : store.FailsClean alloy post.now engine.counters)
    (refused : post.intake alloy (some store) engine.counters = (.error failure, later)) :
    account.Counted bucket later total := by
  have kept : later = engine.counters ∨ later = engine.counters.evict post.now := by
    rcases Post.compiled_of_refused refused with same | ⟨cause, compiled⟩
    · exact .inl same
    · apply FrameCompiler.same_of_error _ compiled
      intro redis isStore
      rw [← Option.some.inj isStore]
      exact clean
  rcases kept with same | dropped
  · rw [same]
    exact counted
  · rw [dropped]
    exact counted.of_same (counted.evict charged.positive current)

/-- A request that is admitted adds what its receipt says. -/
theorem Account.Counted.of_admitted {job : JobOptions String FrameTransaction}
    {later : Counters String} (charged : account.ChargedBy store alloy bucket counts)
    (counted : account.Counted bucket engine.counters total)
    (current : account.bucket post.now = bucket)
    (admitted : post.intake alloy (some store) engine.counters = (.ok job, later)) :
    account.Counted bucket later
      (total + totalGwei counts (engine.receipts alloy (some store) (.post post))) := by
  have compiled := Post.compiled_of_intake admitted
  have settles := FrameCompiler.settles_of_ok compiled
  by_cases sponsored : (post.compiler alloy).resolvePayer post.payload = .sponsor
  · obtain ⟨sender, parsed, -⟩ := FrameCompiler.sender_of_sponsored compiled sponsored
    rw [FrameCompiler.reservedGuards_of_sponsored parsed sponsored] at settles
    rw [Engine.receipts_of_sponsored admitted parsed sponsored, totalGwei_singleton,
      ← if_congr (charged.keyed post.now sender current) rfl rfl]
    exact counted.of_settles charged.positive charged.short current
      (charged.windowed post.now sender) settles
  · have idle : ¬ (post.compiler alloy).Reserves (some store) post.payload :=
      fun reserves => sponsored reserves.1
    rw [FrameCompiler.reservedGuards_of_not idle] at settles
    rw [Engine.receipts_of_unsponsored sponsored]
    exact counted.of_settles charged.positive charged.short current
      (fun guard listed => absurd listed List.not_mem_nil) settles

/-- A turn adds what its receipt says. -/
theorem Account.Counted.step (charged : account.ChargedBy store alloy bucket counts)
    (counted : account.Counted bucket engine.counters total) (turn : Turn ο ε)
    (current : ∀ post, turn = .post post → account.bucket post.now = bucket ∧
      store.FailsClean alloy post.now engine.counters) :
    account.Counted bucket (engine.step alloy (some store) options turn).counters
      (total + totalGwei counts (engine.receipts alloy (some store) turn)) := by
  cases turn with
  | worker op => exact counted
  | post post =>
    obtain ⟨isCurrent, clean⟩ := current post rfl
    cases outcome : post.intake alloy (some store) engine.counters with
    | mk result later =>
      cases result with
      | error failure =>
        have kept := counted.of_refused charged isCurrent clean outcome
        rw [Engine.step, Engine.handleTransaction_of_refused outcome,
          Engine.receipts_of_refused outcome]
        exact kept
      | ok job =>
        have added := counted.of_admitted charged isCurrent outcome
        rw [Engine.step, Engine.handleTransaction_of_admitted outcome]
        exact added

/-- A run adds what its receipts say. -/
theorem Account.Counted.run {quotaBucket budgetBucket : Nat}
    (charged : account.ChargedBy store alloy bucket counts)
    (current : ∀ now, nowSecs now / store.windowSecs = quotaBucket →
      nowSecs now / store.budgetWindowSecs = budgetBucket → account.bucket now = bucket)
    (fresh : engine.counters (account.key bucket) = none) {turns : List (Turn ο ε)}
    (along : Transition.Along (Engine.step alloy (some store) options)
      (Engine.InWindow alloy store quotaBucket budgetBucket) engine turns) :
    account.Counted bucket
      (Transition.run (Engine.step alloy (some store) options) engine turns).counters
      (totalGwei counts (Transition.trace (Engine.step alloy (some store) options)
        (Engine.receipts alloy (some store)) engine turns)) := by
  have preserved : ∀ (engine : Engine ο ε) (turn : Turn ο ε) (total : Nat),
      account.Counted bucket engine.counters total →
      engine.InWindow alloy store quotaBucket budgetBucket turn →
      account.Counted bucket (engine.step alloy (some store) options turn).counters
        (total + totalGwei counts (engine.receipts alloy (some store) turn)) := by
    intro engine turn total counted inWindow
    apply counted.step charged
    rintro post rfl
    exact ⟨current post.now inWindow.1 inWindow.2.1, inWindow.2.2⟩
  have counted := Transition.run_accumulates
    (fun engine total => account.Counted bucket engine.counters total) (totalGwei counts) rfl
    (totalGwei_append counts) preserved engine turns 0 (counted_of_none fresh) along
  rw [Nat.zero_add] at counted
  exact counted

end Turns

namespace RedisPolicyStore

variable {store : RedisPolicyStore} {alloy : Alloy} {limit : Nat}

/-- The quota of a sender is charged for that sender. -/
theorem senderAccount_chargedBy (positive : 0 < store.windowSecs)
    (short : store.windowSecs ≤ Binary64.exactBound)
    (limited : store.perSenderGwei = some limit) (sender : Address) (bucket : Nat) :
    (store.senderAccount alloy limit sender).ChargedBy store alloy bucket
      (fun other => other = sender) := by
  refine ⟨positive, short, ?_, ?_⟩
  · intro now other guard listed named
    rcases (mem_enabledGuards.mp listed).1 with rfl | rfl
    · rfl
    · exact absurd named.symm (senderKey_ne_globalKey alloy sender _ _)
  · intro now other current
    rw [decide_eq_true_iff]
    constructor
    · intro member
      obtain ⟨guard, listed, named⟩ := List.mem_map.mp member
      rcases (mem_enabledGuards.mp listed).1 with rfl | rfl
      · exact (senderKey_injective named).1
      · exact absurd named.symm (senderKey_ne_globalKey alloy sender _ _)
    · rintro rfl
      have enabled : store.quotaGuard alloy now other ∈ store.enabledGuards alloy now other := by
        rw [mem_enabledGuards]
        exact ⟨.inl rfl, Option.isSome_iff_exists.mpr ⟨limit, limited⟩⟩
      rw [← current]
      exact List.mem_map_of_mem enabled

/-- The budget is charged for every sender. -/
theorem globalAccount_chargedBy (positive : 0 < store.budgetWindowSecs)
    (short : store.budgetWindowSecs ≤ Binary64.exactBound)
    (limited : store.globalBudgetGwei = some limit) (bucket : Nat) :
    (store.globalAccount limit).ChargedBy store alloy bucket (fun _ => true) := by
  refine ⟨positive, short, ?_, ?_⟩
  · intro now sender guard listed named
    rcases (mem_enabledGuards.mp listed).1 with rfl | rfl
    · exact absurd named (senderKey_ne_globalKey alloy sender _ _)
    · rfl
  · intro now sender current
    refine iff_of_true ?_ rfl
    have enabled : store.budgetGuard now ∈ store.enabledGuards alloy now sender := by
      rw [mem_enabledGuards]
      exact ⟨.inr rfl, Option.isSome_iff_exists.mpr ⟨limit, limited⟩⟩
    rw [← current]
    exact List.mem_map_of_mem enabled

/-- Each enabled counter of the windows holds the sum over the receipts it counts. -/
structure Reconciles (store : RedisPolicyStore) (alloy : Alloy) (quotaBucket budgetBucket : Nat)
    (counters : Counters String) (receipts : List Receipt) : Prop where
  perSender : store.perSenderGwei ≠ none → ∀ sender now,
    nowSecs now / store.windowSecs = quotaBucket →
      counters.read now (senderKey alloy sender quotaBucket) =
        totalGwei (fun other => other = sender) receipts
  globalBudget : store.globalBudgetGwei ≠ none → ∀ now,
    nowSecs now / store.budgetWindowSecs = budgetBucket →
      counters.read now (globalKey budgetBucket) = totalGwei (fun _ => true) receipts

/-- In a sequential run inside one window of up to `2 ^ 53` seconds, each enabled counter is the sum
over the sponsored requests that were compiled, however they were answered. -/
theorem reconciles_run (store : RedisPolicyStore) (alloy : Alloy) (options : QueueOptions)
    (quotaBucket budgetBucket : Nat) (engine : Engine ο ε) (turns : List (Turn ο ε))
    (window : 1 ≤ store.windowSecs ∧ store.windowSecs ≤ 2 ^ 53)
    (budgetWindow : 1 ≤ store.budgetWindowSecs ∧ store.budgetWindowSecs ≤ 2 ^ 53)
    (quotaFresh : ∀ sender, engine.counters (senderKey alloy sender quotaBucket) = none)
    (budgetFresh : engine.counters (globalKey budgetBucket) = none)
    (along : Transition.Along (Engine.step alloy (some store) options)
      (Engine.InWindow alloy store quotaBucket budgetBucket) engine turns) :
    store.Reconciles alloy quotaBucket budgetBucket
      (Transition.run (Engine.step alloy (some store) options) engine turns).counters
      (Transition.trace (Engine.step alloy (some store) options)
        (Engine.receipts alloy (some store)) engine turns) := by
  constructor
  · intro enabled sender now current
    obtain ⟨limit, limited⟩ := Option.ne_none_iff_exists'.mp enabled
    have charged : (store.senderAccount alloy limit sender).ChargedBy store alloy quotaBucket _ :=
      senderAccount_chargedBy window.1 window.2 limited sender quotaBucket
    have counted := Account.Counted.run charged (fun _ quota _ => quota) (quotaFresh sender) along
    exact counted.read_eq window.1 current
  · intro enabled now current
    obtain ⟨limit, limited⟩ := Option.ne_none_iff_exists'.mp enabled
    have charged : (store.globalAccount limit).ChargedBy store alloy budgetBucket _ :=
      globalAccount_chargedBy budgetWindow.1 budgetWindow.2 limited budgetBucket
    have counted := Account.Counted.run charged (fun _ _ budget => budget) budgetFresh along
    exact counted.read_eq budgetWindow.1 current

end RedisPolicyStore

/-- Whether a request was answered with `queued` or `replaced`. -/
def Receipt.accepted (receipt : Receipt) : Bool :=
  receipt.response.status = .queued ∨ receipt.response.status = .replaced

section Queue

variable {ι : Type} [LinearOrder ι] {store : Store ι FrameTransaction ο ε} {id : ι}

/-- The first job of a slot is queued and waits with its data. -/
theorem submit_of_fresh (fresh : id ∉ store.dedupe) (now : Nat) (data : FrameTransaction) :
    (submit store now { data, id }).1.status = .queued ∧
      id ∈ (submit store now { data, id }).2.dedupe ∧
      (submit store now { data, id }).2.jobData id = some data ∧
      ((submit store now { data, id }).2.jobMeta id).finishedAt = none := by
  unfold submit Store.pushWithOutcome
  rw [if_neg fresh]
  dsimp only [Option.getD_none]
  rw [if_neg (by decide)]
  refine ⟨rfl, Finset.mem_insert_self id store.dedupe, Function.update_self .., ?_⟩
  exact congrArg JobMeta.finishedAt (Function.update_self (β := fun _ => JobMeta ι) ..)

/-- A transaction that does not outbid the one that waits is a duplicate. -/
theorem submit_of_waiting {waiting data : FrameTransaction} (taken : id ∈ store.dedupe)
    (held : store.jobData id = some waiting) (unfinished : (store.jobMeta id).finishedAt = none)
    (unbumped : isValidFeeBump waiting data = false) (now : Nat) :
    (submit store now { data, id }).1.status = .duplicate := by
  have refused : store.pushWithOutcome now { data, id } = (.duplicate, store) := by
    unfold Store.pushWithOutcome
    rw [if_pos taken]
  unfold submit
  rw [refused]
  dsimp only
  unfold handleResubmission
  rw [held]
  dsimp only [jobOf]
  rw [unfinished, unbumped]
  rfl

end Queue

/-- The counters after one more reservation of `sponsoredPost`. -/
def chargedOnce (counters : Counters String) : Counters String :=
  (RedisPolicyStore.twoSendersStore.call (sponsoringEngine none).alloy 1000 none counters
    (repeatByte 0x11) 2417320).2

/-- The sender of `sponsoredTx`. -/
theorem sponsoredTx_sender : (sponsoringEngine none).alloy.parseAddress (sponsoredTx "").sender =
    some (repeatByte 0x11) := by
  decide +kernel

/-- `sponsoredPost` is admitted as often as the guards grant it. -/
theorem sponsoredPost_admitted {counters : Counters String}
    (granted : (RedisPolicyStore.twoSendersStore.call (sponsoringEngine none).alloy 1000 none
      counters (repeatByte 0x11) 2417320).1 = .ok ()) :
    sponsoredPost.intake (sponsoringEngine none).alloy (some RedisPolicyStore.twoSendersStore)
      counters = (.ok sponsoredJob, chargedOnce counters) := by
  have parsed : parseSender (sponsoringEngine none).alloy (filledTx "") =
      .ok (repeatByte 0x11) := by
    unfold parseSender
    rw [show (filledTx "").sender = (sponsoredTx "").sender from rfl, sponsoredTx_sender]
  have compiled : ((sponsoredPost.compiler (sponsoringEngine none).alloy).withStore
      (some RedisPolicyStore.twoSendersStore) 1000 none).compileAndValidate counters
        (sponsoredTx "") = (.ok (filledTx ""), chargedOnce counters) := by
    apply FrameCompiler.compile_of_reserved
    · rw [FrameCompiler.prepare_withStore]
      exact sponsoredTx_prepared
    · change SponsorPolicy.reserve _ (sponsoringEngine none).alloy counters (filledTx "") = _
      unfold SponsorPolicy.reserve
      rw [parsed, filledTx_maxCost]
      exact Prod.ext granted rfl
  exact Post.intake_of_compiled rfl rfl compiled

/-- `sponsoredPost`, sent twice. -/
def resent : List (Turn ο ε) := [.post sponsoredPost, .post sponsoredPost]

/-- An engine without jobs and counters. -/
def Engine.idle : Engine ο ε := ⟨Store.empty, Counters.empty⟩

/-- Both requests lie in the first windows, and no script call reports an error. -/
theorem resent_inWindow (options : QueueOptions) :
    Transition.Along
      (Engine.step (sponsoringEngine none).alloy (some RedisPolicyStore.twoSendersStore) options)
      (Engine.InWindow (sponsoringEngine none).alloy RedisPolicyStore.twoSendersStore 0 0)
      (Engine.idle : Engine ο ε) resent := by
  apply Transition.along_of_mem
  intro engine turn listed
  have isPost : turn = .post sponsoredPost := by
    rcases List.mem_pair.mp listed with first | second
    · exact first
    · exact second
  rw [isPost]
  refine ⟨by decide, by decide, ?_⟩
  exact RedisPolicyStore.failsClean_of_inRange RedisPolicyStore.twoSendersStore_inRange
    (by decide) (by decide)

/-- The counters of the two requests hold what their receipts say. -/
theorem reconciles_resent :
    RedisPolicyStore.twoSendersStore.Reconciles (sponsoringEngine none).alloy 0 0
      (Transition.run (Engine.step (sponsoringEngine none).alloy
        (some RedisPolicyStore.twoSendersStore) {}) (Engine.idle : Engine String String)
        resent).counters
      (Transition.trace (Engine.step (sponsoringEngine none).alloy
        (some RedisPolicyStore.twoSendersStore) {}) (Engine.receipts (sponsoringEngine none).alloy
        (some RedisPolicyStore.twoSendersStore)) (Engine.idle : Engine String String) resent) :=
  RedisPolicyStore.reconciles_run RedisPolicyStore.twoSendersStore (sponsoringEngine none).alloy {}
    0 0 Engine.idle resent (by decide) (by decide) (fun _ => rfl) rfl (resent_inWindow {})

/-- What `sponsoredPost` does when the guards grant it: its job is submitted, and 1 gwei is charged
whatever the answer is. -/
theorem sponsoredPost_turn {counters : Counters String} {options : QueueOptions}
    (jobs : Store String FrameTransaction ο ε)
    (granted : (RedisPolicyStore.twoSendersStore.call (sponsoringEngine none).alloy 1000 none
      counters (repeatByte 0x11) 2417320).1 = .ok ()) :
    Engine.step (sponsoringEngine none).alloy (some RedisPolicyStore.twoSendersStore) options
        ⟨jobs, counters⟩ (.post sponsoredPost) =
      ⟨(submit jobs 1 sponsoredJob).2, chargedOnce counters⟩ ∧
    Engine.receipts (sponsoringEngine none).alloy (some RedisPolicyStore.twoSendersStore)
        ⟨jobs, counters⟩ (.post sponsoredPost) =
      [⟨repeatByte 0x11, 1, (submit jobs 1 sponsoredJob).1⟩] := by
  have admitted : sponsoredPost.intake (sponsoringEngine none).alloy
      (some RedisPolicyStore.twoSendersStore) (⟨jobs, counters⟩ : Engine ο ε).counters =
        (.ok sponsoredJob, chargedOnce counters) := sponsoredPost_admitted granted
  have sponsored : (sponsoredPost.compiler (sponsoringEngine none).alloy).resolvePayer
      sponsoredPost.payload = .sponsor :=
    sponsoredTx_sponsored
  have gwei : reservedGwei (sponsoringEngine none).alloy sponsoredJob.data = 1 := by
    unfold reservedGwei
    rw [show sponsoredJob.data = filledTx "" from rfl, filledTx_maxCost]
    decide
  constructor
  · rw [Engine.step, Engine.handleTransaction_of_admitted admitted]
    rfl
  · rw [Engine.receipts_of_sponsored admitted sponsoredTx_sender sponsored, gwei]
    rfl

/-- The job of `sponsoredPost` is queued the first time and a duplicate the second time. -/
theorem sponsoredJob_resubmitted :
    (submit (Store.empty : Store String FrameTransaction ο ε) 1 sponsoredJob).1.status = .queued ∧
      (submit (submit (Store.empty : Store String FrameTransaction ο ε) 1 sponsoredJob).2 1
        sponsoredJob).1.status = .duplicate := by
  have unbumped : isValidFeeBump (filledTx "") (filledTx "") = false := by decide +kernel
  have fresh : jobId (filledTx "") 0 ∉
      (Store.empty : Store String FrameTransaction ο ε).dedupe := Finset.notMem_empty _
  obtain ⟨queued, taken, held, unfinished⟩ := submit_of_fresh fresh 1 (filledTx "")
  exact ⟨queued, submit_of_waiting taken held unfinished unbumped 1⟩

/-- The receipts and the counters of the two requests. -/
theorem resent_run {options : QueueOptions} :
    Transition.trace (Engine.step (sponsoringEngine none).alloy
        (some RedisPolicyStore.twoSendersStore) options)
        (Engine.receipts (sponsoringEngine none).alloy (some RedisPolicyStore.twoSendersStore))
        (Engine.idle : Engine ο ε) resent =
      [⟨repeatByte 0x11, 1,
          (submit (Store.empty : Store String FrameTransaction ο ε) 1 sponsoredJob).1⟩,
        ⟨repeatByte 0x11, 1,
          (submit (submit (Store.empty : Store String FrameTransaction ο ε) 1 sponsoredJob).2 1
            sponsoredJob).1⟩] ∧
    (Transition.run (Engine.step (sponsoringEngine none).alloy
        (some RedisPolicyStore.twoSendersStore) options) (Engine.idle : Engine ο ε)
        resent).counters = chargedOnce (chargedOnce Counters.empty) := by
  have first := @sponsoredPost_turn ο ε Counters.empty options Store.empty (by decide +kernel)
  have second := @sponsoredPost_turn ο ε (chargedOnce Counters.empty) options
    (submit Store.empty 1 sponsoredJob).2 (by decide +kernel)
  unfold resent Engine.idle
  constructor
  · rw [Transition.trace, first.2, first.1, Transition.trace, second.2, Transition.trace]
    rfl
  · rw [Transition.run_cons, first.1, Transition.run_cons, second.1, Transition.run_nil]

/-- The second request is answered as a duplicate, and the budget is charged for both. -/
theorem duplicate_charged :
    Transition.Along
        (Engine.step (sponsoringEngine none).alloy (some RedisPolicyStore.twoSendersStore) {})
        (Engine.InWindow (sponsoringEngine none).alloy RedisPolicyStore.twoSendersStore 0 0)
        (Engine.idle : Engine String String) resent ∧
      ¬ RedisPolicyStore.twoSendersStore.Reconciles (sponsoringEngine none).alloy 0 0
        (Transition.run (Engine.step (sponsoringEngine none).alloy
          (some RedisPolicyStore.twoSendersStore) {}) (Engine.idle : Engine String String)
          resent).counters
        ((Transition.trace (Engine.step (sponsoringEngine none).alloy
          (some RedisPolicyStore.twoSendersStore) {})
          (Engine.receipts (sponsoringEngine none).alloy (some RedisPolicyStore.twoSendersStore))
          (Engine.idle : Engine String String) resent).filter Receipt.accepted) := by
  refine ⟨resent_inWindow {}, fun reconciles => ?_⟩
  have spent := reconciles.globalBudget (by decide +kernel) 1000 (by decide)
  obtain ⟨queued, duplicate⟩ := @sponsoredJob_resubmitted String String
  have accepted : (Receipt.mk (repeatByte 0x11) 1
      (submit (Store.empty : Store String FrameTransaction String String) 1
        sponsoredJob).1).accepted = true := decide_eq_true (.inl queued)
  have rejected : ¬ (Receipt.mk (repeatByte 0x11) 1
      (submit (submit (Store.empty : Store String FrameTransaction String String) 1
        sponsoredJob).2 1 sponsoredJob).1).accepted = true := by
    unfold Receipt.accepted
    rw [duplicate]
    decide
  rw [resent_run.1, resent_run.2, List.filter_cons_of_pos accepted,
    List.filter_cons_of_neg rejected, List.filter_nil, totalGwei_singleton] at spent
  exact absurd spent (by decide +kernel)

end OpenEngine.Api
