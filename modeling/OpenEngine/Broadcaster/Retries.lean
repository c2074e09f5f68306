import OpenEngine.Broadcaster.Worker
import OpenEngine.Core.RoundTrip
import OpenEngine.Queue.Attempts

/-!
# How often a broadcast is retried

`process` has two exits that ask for another attempt. The one after a send that did not reach the
node looks at the attempts made; the one after a failed nonce read does not. Where no nonce read
fails, a job is asked for again fewer than `MAX_BROADCAST_ATTEMPTS` times, over every run of pops,
lost leases and completions, and a node that stays out of reach for sending ends it as failed.
-/

namespace OpenEngine.Broadcaster

open OpenEngine.Core Queue

/-- A nonce read of the transaction fails; none is made without a sender and a sequence. -/
def readFails (alloy : Alloy) (gateway : ChainGateway) (tx : FrameTransaction) : Bool :=
  match alloy.parseAddress tx.sender, tx.nonceSeq with
  | some sender, some _ =>
    tx.effectiveNonceKeys.any fun key => !(gateway.getKeyedNonceSeq sender key).isOk
  | _, _ => false

/-- Sequences that can be read say the transaction is executable, and no send reaches the node. -/
def Unsendable (alloy : Alloy) (gateway : BroadcastGateway) (tx : FrameTransaction) : Prop :=
  (∀ sender seq state, alloy.parseAddress tx.sender = some sender → tx.nonceSeq = some seq →
    resolveSeqState gateway.toChainGateway sender tx seq = .ok state → state = .executable) ∧
  ∀ bytes, ∃ error, gateway.sendRawTransaction bytes = .error error ∧ error.isTransient

section Process

variable {ι : Type} {alloy : Alloy} {gateway : BroadcastGateway} {now : Nat}
  {job : BorrowedJob ι FrameTransaction}

/-- The sequences are resolved exactly if every key is read. -/
theorem resolveKeys_isOk (gateway : ChainGateway) (sender : Address) (seq : UInt64)
    (superseded allReady : Bool) (keys : List U256) :
    (resolveKeys gateway sender seq superseded allReady keys).isOk =
      !keys.any fun key => !(gateway.getKeyedNonceSeq sender key).isOk := by
  induction keys generalizing superseded allReady with
  | nil => rfl
  | cons key rest ih =>
    rw [resolveKeys, List.any_cons]
    cases gateway.getKeyedNonceSeq sender key with
    | error e => rfl
    | ok current => exact ih _ _

/-- A hold asks for no attempt. -/
theorem holdFuture_isNack (seq : UInt64) : (holdFuture now job seq).isNack = false := by
  unfold holdFuture
  dsimp only
  split <;> rfl

/-- A broadcast asks for another attempt only while attempts are left. -/
theorem attempts_lt_of_broadcast (asks : (broadcast alloy gateway job).isNack) :
    job.job.attempts < maxBroadcastAttempts := by
  unfold broadcast at asks
  dsimp only at asks
  split at asks
  · cases asks
  · split at asks
    · cases asks
    · split at asks
      · split at asks
        · cases asks
        · next spare => exact Nat.lt_of_not_le spare
      · cases asks

/-- A failed nonce read asks for another attempt, whatever was tried before. -/
theorem isNack_of_readFails (fails : readFails alloy gateway.toChainGateway job.job.data) :
    (process alloy gateway now job).isNack := by
  unfold readFails at fails
  unfold process
  split at fails
  · next sender seq named numbered =>
    rw [named, numbered]
    have unread := resolveKeys_isOk gateway.toChainGateway sender seq false true
      job.job.data.effectiveNonceKeys
    rw [fails] at unread
    dsimp only
    unfold resolveSeqState
    cases resolved : resolveKeys gateway.toChainGateway sender seq false true
        job.job.data.effectiveNonceKeys with
    | error e => rfl
    | ok state =>
      rw [resolved] at unread
      cases unread
  · cases fails

/-- Where no nonce read fails, another attempt is asked for only while attempts are left. -/
theorem attempts_lt_of_isNack (read : readFails alloy gateway.toChainGateway job.job.data = false)
    (asks : (process alloy gateway now job).isNack) :
    job.job.attempts < maxBroadcastAttempts := by
  unfold process at asks
  split at asks
  · cases asks
  · next sender named =>
    split at asks
    · cases asks
    · next seq numbered =>
      have every := resolveKeys_isOk gateway.toChainGateway sender seq false true
        job.job.data.effectiveNonceKeys
      unfold readFails at read
      rw [named, numbered] at read
      dsimp only at read
      rw [read] at every
      split at asks
      · next e resolved =>
        rw [resolveSeqState] at resolved
        rw [resolved] at every
        cases every
      · cases asks
      · rw [holdFuture_isNack] at asks
        cases asks
      · exact attempts_lt_of_broadcast asks

/-- A send that does not reach the node is retried or fails for good. -/
theorem broadcast_of_unsent
    (unsent : ∀ bytes, ∃ error, gateway.sendRawTransaction bytes = .error error ∧
      error.isTransient) :
    (broadcast alloy gateway job).isNack ∨
      ∃ error, broadcast alloy gateway job = .error (.fail error) := by
  unfold broadcast
  dsimp only
  split
  · exact .inr ⟨_, rfl⟩
  · obtain ⟨error, sent, transient⟩ := unsent (job.job.data.encodeTransaction alloy)
    rw [sent]
    dsimp only
    rw [if_pos transient]
    split
    · exact .inr ⟨_, rfl⟩
    · exact .inl rfl

/-- An attempt on a node that cannot be reached for sending is retried or fails for good. -/
theorem process_of_unsendable (unsendable : Unsendable alloy gateway job.job.data) :
    (process alloy gateway now job).isNack ∨
      ∃ error, process alloy gateway now job = .error (.fail error) := by
  obtain ⟨executable, unsent⟩ := unsendable
  unfold process
  split
  · exact .inr ⟨_, rfl⟩
  · next sender named =>
    split
    · exact .inr ⟨_, rfl⟩
    · next seq numbered =>
      cases resolved : resolveSeqState gateway.toChainGateway sender job.job.data seq with
      | error e => exact .inl rfl
      | ok state =>
        have ready := executable sender seq state named numbered resolved
        subst ready
        exact broadcast_of_unsent unsent

end Process

/-- The queue of transactions with its workers: what pops handed out, and per id the `Nack`s and the
completions committed since the job was created. -/
structure Relay (ι : Type) where
  store : Store ι FrameTransaction BroadcastOutcome BroadcasterError
  handed : List (BorrowedJob ι FrameTransaction)
  nacks : ι → Nat
  completions : ι → Nat

/-- Nothing was pushed yet. -/
def Relay.empty {ι : Type} : Relay ι := ⟨Store.empty, [], fun _ => 0, fun _ => 0⟩

/-- One step: an intake operation on the queue, or a worker's attempt at a job. -/
inductive Action (ι : Type) where
  | intake (op : Op ι FrameTransaction BroadcastOutcome BroadcasterError)
  | work (started finished : Nat) (job : BorrowedJob ι FrameTransaction)
      (gateway : BroadcastGateway)

variable {ι : Type} [LinearOrder ι] {alloy : Alloy} {options : QueueOptions}

/-- What a worker does with the result of its attempt: it commits only under its lease, and only a
job that a pop handed out. -/
def Relay.commit (options : QueueOptions) (relay : Relay ι) (finished : Nat)
    (job : BorrowedJob ι FrameTransaction) (result : JobResult BroadcastOutcome BroadcasterError) :
    Relay ι :=
  let id := job.job.id
  if job ∈ relay.handed ∧ relay.store.holdsLease job then
    { relay with
      store := (relay.store.complete options finished job result).2
      nacks := Function.update relay.nacks id (relay.nacks id + result.isNack.toNat)
      completions := Function.update relay.completions id (relay.completions id + 1) }
  else relay

/-- The state after a step. -/
def Relay.step (alloy : Alloy) (options : QueueOptions) (relay : Relay ι) : Action ι → Relay ι
  | .intake op =>
    if op.isIntake then
      { store := relay.store.step options op
        handed := relay.handed ++ relay.store.handedOut options op
        nacks := fun id => if relay.store.creates id op then 0 else relay.nacks id
        completions := fun id => if relay.store.creates id op then 0 else relay.completions id }
    else relay
  | .work started finished job gateway =>
    relay.commit options finished job (process alloy gateway started job)

/-- The state a run of steps ends in. -/
def Relay.run (alloy : Alloy) (options : QueueOptions) (actions : List (Action ι)) : Relay ι :=
  Transition.run (Relay.step alloy options) Relay.empty actions

/-- No nonce read of an attempt fails, and the counter its lease is stamped with fits `u32`. -/
def ReadsAnswered (alloy : Alloy) : Relay ι → Action ι → Prop
  | _, .intake _ => True
  | _, .work _ _ job gateway =>
    readFails alloy gateway.toChainGateway job.job.data = false ∧ job.leaseToken.attempts < 2 ^ 32

/-- No attempt at the job reaches the node with its send. -/
def SendsFail (alloy : Alloy) (id : ι) : Relay ι → Action ι → Prop
  | _, .intake _ => True
  | _, .work _ _ job gateway => job.job.id = id → Unsendable alloy gateway job.job.data

/-- The job's `Nack`s are covered by its counter and within the budget, and workers are told the
counter. -/
structure Relay.Kept (relay : Relay ι) (id : ι) : Prop where
  counted : (relay.store.view id).Counted (relay.nacks id)
  bounded : relay.nacks id < maxBroadcastAttempts
  told : ∀ job ∈ relay.handed, job.job.attempts = (parseU32 job.leaseToken.attempts).getD 1

variable {relay : Relay ι} {id : ι}

/-- The store after a committed attempt at the job. -/
theorem view_complete {job : BorrowedJob ι FrameTransaction} (held : relay.store.holdsLease job)
    (finished : Nat) (result : JobResult BroadcastOutcome BroadcasterError) :
    (relay.store.complete options finished job result).2.view job.job.id =
      (relay.store.view job.job.id).complete options finished job result := by
  rw [Store.complete, if_pos held]
  exact relay.store.view_applyCompletion_self options finished job result

/-- The store after a committed attempt at another job. -/
theorem view_complete_of_ne {job : BorrowedJob ι FrameTransaction}
    (held : relay.store.holdsLease job) (different : id ≠ job.job.id) (finished : Nat)
    (result : JobResult BroadcastOutcome BroadcasterError) :
    (relay.store.complete options finished job result).2.view id = relay.store.view id := by
  rw [Store.complete, if_pos held]
  exact relay.store.view_applyCompletion_of_ne options finished job result different

/-- An attempt of a job whose nonce reads are answered asks for another one only within the
budget. -/
theorem Relay.Kept.nacks_lt {job : BorrowedJob ι FrameTransaction} (kept : relay.Kept job.job.id)
    (handed : job ∈ relay.handed) (held : relay.store.holdsLease job) {started : Nat}
    {gateway : BroadcastGateway}
    (read : readFails alloy gateway.toChainGateway job.job.data = false)
    (fits : job.leaseToken.attempts < 2 ^ 32) :
    relay.nacks job.job.id + (process alloy gateway started job).isNack.toNat <
      maxBroadcastAttempts := by
  have bounded := kept.bounded
  cases asks : (process alloy gateway started job).isNack with
  | false => simpa using bounded
  | true =>
    have spare := attempts_lt_of_isNack read asks
    have below := kept.counted.nacks_lt ((relay.store.holdsLease_iff job).mp held)
    rw [kept.told job handed, parseU32, if_pos ⟨by omega, fits⟩, Option.getD_some] at spare
    simp only [Bool.toNat_true]
    omega

/-- A step whose nonce reads are answered keeps the job within its budget. -/
theorem Relay.Kept.step (kept : relay.Kept id) (action : Action ι)
    (answered : ReadsAnswered alloy relay action) :
    (relay.step alloy options action).Kept id := by
  cases action with
  | intake op =>
    simp only [Relay.step]
    split
    · next intake =>
      have told : ∀ job ∈ relay.handed ++ relay.store.handedOut options op,
          job.job.attempts = (parseU32 job.leaseToken.attempts).getD 1 := by
        intro job member
        rcases List.mem_append.mp member with before | handed
        · exact kept.told job before
        · exact Store.attempts_handedOut options op handed
      cases created : relay.store.creates id op with
      | true =>
        refine ⟨?_, ?_, told⟩
        · simp only [created, ↓reduceIte]
          exact Store.counted_created kept.counted options op created
        · simp only [created, ↓reduceIte]
          decide
      | false =>
        refine ⟨?_, ?_, told⟩
        · simp only [created, Bool.false_eq_true, ↓reduceIte]
          exact (Store.counted_intake kept.counted options op intake created).1
        · simp only [created, Bool.false_eq_true, ↓reduceIte]
          exact kept.bounded
    · exact kept
  | work started finished job gateway =>
    simp only [Relay.step, Relay.commit]
    split
    · next committed =>
      obtain ⟨handed, held⟩ := committed
      by_cases named : id = job.job.id
      · subst named
        refine ⟨?_, ?_, kept.told⟩
        · simp only [Function.update_self]
          rw [view_complete held]
          exact kept.counted.complete finished job ((relay.store.holdsLease_iff job).mp held) _
        · simp only [Function.update_self]
          exact kept.nacks_lt handed held answered.1 answered.2
      · refine ⟨?_, ?_, kept.told⟩
        · simp only [Function.update_of_ne named]
          rw [view_complete_of_ne held named]
          exact kept.counted
        · simp only [Function.update_of_ne named]
          exact kept.bounded
    · exact kept

/-- While the job is live every completion of it was a `Nack`; once it is not, it failed. -/
structure Relay.Ending (relay : Relay ι) (id : ι) : Prop where
  retried : 0 < (relay.store.view id).live → relay.completions id = relay.nacks id
  failed : (relay.store.view id).live = 0 → 0 < relay.completions id →
    0 < (relay.store.view id).failed

/-- A step in which no send of the job reaches the node keeps the job on its way to failure. -/
theorem Relay.Ending.step (ending : relay.Ending id) (kept : relay.Kept id) (action : Action ι)
    (fails : SendsFail alloy id relay action) : (relay.step alloy options action).Ending id := by
  cases action with
  | intake op =>
    simp only [Relay.step]
    split
    · next intake =>
      cases created : relay.store.creates id op with
      | true => constructor <;> simp [created]
      | false =>
        obtain ⟨-, live, failed⟩ := Store.counted_intake kept.counted options op intake created
        constructor
        · simp only [created, live, Bool.false_eq_true, ↓reduceIte]
          exact ending.retried
        · simp only [created, live, failed, Bool.false_eq_true, ↓reduceIte]
          exact ending.failed
    · exact ending
  | work started finished job gateway =>
    simp only [Relay.step, Relay.commit]
    split
    · next committed =>
      obtain ⟨-, held⟩ := committed
      by_cases named : id = job.job.id
      · subst named
        have issued := (relay.store.holdsLease_iff job).mp held
        have active := (kept.counted.exclusive.held _ issued).1
        have retried := ending.retried (JobView.live_of_active active)
        obtain ⟨-, -, emptied⟩ := kept.counted.exclusive.endLease issued
        constructor
        · simp only [Function.update_self, view_complete held]
          intro live
          rcases process_of_unsendable (fails rfl) with asks | ⟨error, failed⟩
          · rw [asks, retried, Bool.toNat_true]
          · exfalso
            rw [failed] at live
            simp only [JobView.complete, JobView.addError, JobView.endLease, JobView.live,
              Option.isSome_none, Bool.toNat_false] at live
            omega
        · simp only [Function.update_self, view_complete held]
          intro dead _
          rcases process_of_unsendable (fails rfl) with asks | ⟨error, failed⟩
          · exact absurd dead (Nat.ne_of_gt (JobView.live_of_isNack _ finished job asks))
          · rw [failed]
            simp [JobView.complete, JobView.addError]
      · constructor
        · simp only [Function.update_of_ne named, view_complete_of_ne held named]
          exact ending.retried
        · simp only [Function.update_of_ne named, view_complete_of_ne held named]
          exact ending.failed
    · exact ending

/-- Before the first push every job is within its budget. -/
theorem Relay.kept_empty (id : ι) : (Relay.empty : Relay ι).Kept id where
  counted := Store.counted_empty id
  bounded := show 0 < maxBroadcastAttempts by decide
  told := by simp [Relay.empty]

/-- Before the first push no job was completed. -/
theorem Relay.ending_empty (id : ι) : (Relay.empty : Relay ι).Ending id where
  retried _ := rfl
  failed _ completed := absurd completed (Nat.lt_irrefl 0)

/-- A run whose nonce reads are answered keeps the job within its budget. -/
theorem Relay.kept_run (alloy : Alloy) (options : QueueOptions) (actions : List (Action ι))
    (answered : Transition.Along (Relay.step alloy options) (ReadsAnswered alloy) Relay.empty
      actions) (id : ι) :
    (Relay.run alloy options actions).Kept id :=
  Transition.run_invariant (fun relay => relay.Kept id)
    (fun _ action kept allowed => kept.step action allowed) Relay.empty actions
    (Relay.kept_empty id) answered

/-- A run in which besides no send of the job reaches the node keeps it on its way to failure. -/
theorem Relay.ending_run (alloy : Alloy) (options : QueueOptions) (actions : List (Action ι))
    (answered : Transition.Along (Relay.step alloy options) (ReadsAnswered alloy) Relay.empty
      actions) (id : ι)
    (fails : Transition.Along (Relay.step alloy options) (SendsFail alloy id) Relay.empty actions) :
    (Relay.run alloy options actions).Ending id := by
  have both := Transition.run_invariant (fun relay : Relay ι => relay.Kept id ∧ relay.Ending id)
    (fun relay action holds allowed => ⟨holds.1.step action allowed.1,
      holds.2.step holds.1 action allowed.2⟩) Relay.empty actions
    ⟨Relay.kept_empty id, Relay.ending_empty id⟩ (answered.and fails)
  exact both.2

/-- A job that is not live is in no place a worker could still take it from. -/
theorem not_mem_of_live {store : Store ι FrameTransaction BroadcastOutcome BroadcasterError}
    (dead : (store.view id).live = 0) :
    id ∉ store.pending ∧ id ∉ store.delayed ∧ id ∉ store.active := by
  simp only [JobView.live, Store.view, isSome_lookup] at dead
  refine ⟨?_, ?_, ?_⟩
  · intro waiting
    have counted := List.count_pos_iff.mpr waiting
    omega
  · intro delayed
    simp [delayed] at dead
  · intro active
    simp [active] at dead

/-- Once the budget is spent, `process` stops asking exactly if no nonce read fails. In every run
whose nonce reads are answered a job is nacked at most `MAX_BROADCAST_ATTEMPTS` times, and if no
send of it reaches the node, as many completions leave it failed and in no other place. -/
theorem Relay.retries_bounded (alloy : Alloy) (options : QueueOptions) :
    (∀ (gateway : BroadcastGateway) (now : Nat) (job : BorrowedJob ι FrameTransaction),
      maxBroadcastAttempts ≤ job.job.attempts →
        ((process alloy gateway now job).isNack = false ↔
          readFails alloy gateway.toChainGateway job.job.data = false)) ∧
    ∀ actions : List (Action ι),
      Transition.Along (Relay.step alloy options) (ReadsAnswered alloy) Relay.empty actions →
      ∀ id : ι,
        (Relay.run alloy options actions).nacks id ≤ maxBroadcastAttempts ∧
        (Transition.Along (Relay.step alloy options) (SendsFail alloy id) Relay.empty actions →
          maxBroadcastAttempts ≤ (Relay.run alloy options actions).completions id →
          id ∈ (Relay.run alloy options actions).store.failed ∧
            id ∉ (Relay.run alloy options actions).store.pending ∧
            id ∉ (Relay.run alloy options actions).store.delayed ∧
            id ∉ (Relay.run alloy options actions).store.active) := by
  constructor
  · intro gateway now job spent
    constructor
    · intro final
      cases fails : readFails alloy gateway.toChainGateway job.job.data with
      | false => rfl
      | true =>
        have asks : (process alloy gateway now job).isNack := isNack_of_readFails fails
        rw [final] at asks
        cases asks
    · intro read
      cases asks : (process alloy gateway now job).isNack with
      | false => rfl
      | true => exact absurd (attempts_lt_of_isNack read asks) (Nat.not_lt_of_le spent)
  · intro actions answered id
    have bounded := (Relay.kept_run alloy options actions answered id).bounded
    constructor
    · exact Nat.le_of_lt bounded
    · intro fails spent
      have ending := Relay.ending_run alloy options actions answered id fails
      have dead : ((Relay.run alloy options actions).store.view id).live = 0 := by
        by_contra present
        have retried := ending.retried (Nat.pos_of_ne_zero present)
        omega
      have failed : 0 < ((Relay.run alloy options actions).store.view id).failed :=
        ending.failed dead (Nat.lt_of_lt_of_le (by decide) spent)
      exact ⟨List.count_pos_iff.mp failed, not_mem_of_live dead⟩

/-- A node that answers nonce reads and cannot be reached for sending. -/
def sendlessGateway : BroadcastGateway where
  getKeyedNonceSeq _ _ := .ok 10
  simulateFrameTransaction _ := .error (.transport "refused")
  sendRawTransaction _ := .error (.transport "refused")

/-- The transaction as the pop of the given round hands it out. -/
def borrowedTx (tx : FrameTransaction) (round : Nat) : BorrowedJob Nat FrameTransaction where
  job :=
    { id := 7, data := tx, attempts := round + 1, createdAt := 0,
      processedAt := some (6 * round), finishedAt := none }
  leaseToken := { now := 6 * round, jobId := 7, attempts := round + 1, popId := some "a" }

/-- The transaction is pushed, and then popped and attempted the given number of times. -/
def attemptedRun (gateway : BroadcastGateway) (tx : FrameTransaction) (rounds : Nat) :
    List (Action Nat) :=
  .intake (.push 0 { data := tx, id := 7 }) ::
    (List.range rounds).flatMap fun round =>
      [.intake (.pop (6 * round) "a" 1),
        .work (6 * round) (6 * round) (borrowedTx tx round) gateway]

/-- Where the run ends, given the results of its attempts. -/
theorem run_attemptedRun {gateway : BroadcastGateway} {tx : FrameTransaction}
    {result : Nat → JobResult BroadcastOutcome BroadcasterError}
    (same : ∀ round, process testAlloy gateway (6 * round) (borrowedTx tx round) = result round)
    (rounds : Nat) :
    Relay.run testAlloy {} (attemptedRun gateway tx rounds) =
      (List.range rounds).foldl
        (fun relay round => (relay.step testAlloy {} (.intake (.pop (6 * round) "a" 1))).commit {}
          (6 * round) (borrowedTx tx round) (result round))
        (Relay.empty.step testAlloy {} (.intake (.push 0 { data := tx, id := 7 }))) := by
  simp only [attemptedRun, Relay.run, Transition.run, List.foldl_cons, List.foldl_flatMap,
    List.foldl_nil, Relay.step, same]

/-- What the run does. -/
theorem mem_attemptedRun {gateway : BroadcastGateway} {tx : FrameTransaction} {rounds : Nat}
    {action : Action Nat} (member : action ∈ attemptedRun gateway tx rounds) :
    (∃ op, action = .intake op) ∨
      ∃ round < rounds,
        action = .work (6 * round) (6 * round) (borrowedTx tx round) gateway := by
  simp only [attemptedRun, List.mem_cons, List.mem_flatMap, List.mem_range, List.not_mem_nil,
    or_false] at member
  rcases member with pushed | ⟨round, within, popped | worked⟩
  · exact .inl ⟨_, pushed⟩
  · exact .inl ⟨_, popped⟩
  · exact .inr ⟨round, within, worked⟩

/-- No send of the transaction reaches the node. -/
theorem sendlessGateway_unsendable : Unsendable testAlloy sendlessGateway testTx := by
  constructor
  · intro sender seq state named numbered resolved
    have ten : seq = 10 := (Option.some.inj numbered).symm
    subst ten
    exact (Except.ok.inj resolved).symm
  · intro bytes
    exact ⟨.transport "refused", rfl, rfl⟩

/-- What an attempt at the transaction comes to on that node. -/
theorem process_sendless (round : Nat) :
    process testAlloy sendlessGateway (6 * round) (borrowedTx testTx round) =
      let reason := (GatewayError.transport "refused").text
      let attempts := round + 1
      if maxBroadcastAttempts ≤ attempts then
        .error (.fail ⟨s!"Node unreachable after {attempts} attempts: {reason}"⟩)
      else
        .error (.nack ⟨s!"Broadcast unreachable: {reason}"⟩ (some (.fromSecs broadcastRetrySecs))
          .first) := by
  have named : testAlloy.parseAddress testTx.sender = some ⟨List.replicate 20 0x11, rfl⟩ := by
    decide +kernel
  have read : resolveSeqState sendlessGateway.toChainGateway ⟨List.replicate 20 0x11, rfl⟩ testTx
      10 = .ok .executable := rfl
  have sent (bytes : Bytes) :
      sendlessGateway.sendRawTransaction bytes = .error (.transport "refused") := rfl
  simp only [process, borrowedTx, named, show testTx.nonceSeq = some 10 from rfl, read, broadcast,
    testTx_valid, sent, GatewayError.isTransient, ↓reduceIte]
  rfl

/-- After 24 rounds against the node that answers reads only, the job is failed and gone. -/
theorem Relay.retries_bounded_sendless :
    (Relay.run testAlloy {} (attemptedRun sendlessGateway testTx 24)).nacks 7 ≤
        maxBroadcastAttempts ∧
      7 ∈ (Relay.run testAlloy {} (attemptedRun sendlessGateway testTx 24)).store.failed ∧
      7 ∉ (Relay.run testAlloy {} (attemptedRun sendlessGateway testTx 24)).store.pending ∧
      7 ∉ (Relay.run testAlloy {} (attemptedRun sendlessGateway testTx 24)).store.delayed ∧
      7 ∉ (Relay.run testAlloy {} (attemptedRun sendlessGateway testTx 24)).store.active := by
  have answered : Transition.Along (Relay.step testAlloy {}) (ReadsAnswered testAlloy) Relay.empty
      (attemptedRun sendlessGateway testTx 24) := by
    refine Transition.along_of_mem _ _ ?_
    intro relay action member
    rcases mem_attemptedRun member with ⟨op, rfl⟩ | ⟨round, within, rfl⟩
    · trivial
    · constructor
      · show readFails testAlloy sendlessGateway.toChainGateway testTx = false
        decide +kernel
      · show ((round : Int) + 1) < 2 ^ 32
        omega
  have fails : Transition.Along (Relay.step testAlloy {}) (SendsFail testAlloy 7) Relay.empty
      (attemptedRun sendlessGateway testTx 24) := by
    refine Transition.along_of_mem _ _ ?_
    intro relay action member
    rcases mem_attemptedRun member with ⟨op, rfl⟩ | ⟨round, -, rfl⟩
    · trivial
    · exact fun _ => sendlessGateway_unsendable
  have spent : maxBroadcastAttempts ≤
      (Relay.run testAlloy {} (attemptedRun sendlessGateway testTx 24)).completions 7 := by
    rw [run_attemptedRun process_sendless]
    decide +kernel
  obtain ⟨bounded, ended⟩ := (Relay.retries_bounded testAlloy {}).2
    (attemptedRun sendlessGateway testTx 24) answered 7
  exact ⟨bounded, ended fails spent⟩

/-- A node that cannot be reached at all. -/
def unreachableGateway : BroadcastGateway where
  getKeyedNonceSeq _ _ := .error (.transport "refused")
  simulateFrameTransaction _ := .error (.transport "refused")
  sendRawTransaction _ := .error (.transport "refused")

/-- What an attempt at the transaction comes to on that node. -/
theorem process_unreachable (round : Nat) :
    process testAlloy unreachableGateway (6 * round) (borrowedTx testTx round) =
      let reason := (GatewayError.transport "refused").text
      .error (.nack ⟨s!"Failed to fetch keyed nonce from RPC: {reason}"⟩ (some (.fromSecs 5))
        .first) := by
  have named : testAlloy.parseAddress testTx.sender = some ⟨List.replicate 20 0x11, rfl⟩ := by
    decide +kernel
  have unread : resolveSeqState unreachableGateway.toChainGateway ⟨List.replicate 20 0x11, rfl⟩
      testTx 10 =
        .error ⟨let reason := (GatewayError.transport "refused").text
          s!"Failed to fetch keyed nonce from RPC: {reason}"⟩ := rfl
  simp only [process, borrowedTx, named, show testTx.nonceSeq = some 10 from rfl, unread]

/-- Against an unreachable node the 25th attempt is nacked too, and the job waits for the next. -/
theorem Relay.retries_unbounded :
    maxBroadcastAttempts ≤ (borrowedTx testTx 24).job.attempts ∧
      (process testAlloy unreachableGateway 144 (borrowedTx testTx 24)).isNack ∧
      (Relay.run testAlloy {} (attemptedRun unreachableGateway testTx 25)).nacks 7 = 25 ∧
      7 ∉ (Relay.run testAlloy {} (attemptedRun unreachableGateway testTx 25)).store.failed ∧
      7 ∈ (Relay.run testAlloy {} (attemptedRun unreachableGateway testTx 25)).store.delayed := by
  have again := process_unreachable 24
  rw [run_attemptedRun process_unreachable]
  refine ⟨by decide, ?_, by decide +kernel, by decide +kernel, by decide +kernel⟩
  rw [again]
  rfl

end OpenEngine.Broadcaster
