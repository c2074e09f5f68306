import OpenEngine.Queue.Conservation

/-!
# Cancelled jobs

A cancellation takes effect at once for a waiting job, and at a later pop for a job that was active
when it was asked for. The pop's sweep stamps the job and lists it as failed but takes it out of no
container: it relies on the job being in none. Where every sweep that takes effect finds its job so,
a cancelled job has no entry left anywhere, and without a push nothing brings it back.
-/

namespace OpenEngine.Queue

variable {ι δ ο ε : Type}

namespace JobView

/-- The job is in no live container and has no live lease key. -/
def Retired (view : JobView ι δ ο ε) : Prop := view.live = 0 ∧ view.leases = ∅

variable {view : JobView ι δ ο ε} {options : QueueOptions} {event : JobEvent ι δ ο ε}

/-- A retired job waits nowhere. -/
theorem Retired.unlisted (retired : view.Retired) : view.pending = 0 := by
  have dead := retired.1
  unfold live at dead
  omega

/-- A retired job is not handed out. -/
theorem Retired.not_lease (retired : view.Retired) {now : Nat} {popId : String} :
    ¬JobEvent.Enabled options view (.lease now popId : JobEvent ι δ ο ε) := by
  intro enabled
  have waiting : 0 < view.pending := enabled.1
  have unlisted := retired.unlisted
  omega

variable [DecidableEq ι]

/-- Only a push brings a retired job back. -/
theorem Retired.apply (retired : view.Retired) (id : ι)
    (enabled : event.Enabled options view) (unpushed : ∀ now job, event ≠ .push now job) :
    (JobView.apply options id view event).Retired := by
  have idle := idle_of_live retired.1
  have undelayed := undelayed_of_live retired.1
  have unlisted := retired.unlisted
  cases event with
  | push now job => exact absurd rfl (unpushed now job)
  | requeue => simp [JobEvent.Enabled, idle] at enabled
  | sweep now =>
    simp only [JobView.apply]
    split <;> exact retired
  | promote => simp [JobEvent.Enabled, undelayed] at enabled
  | lease now popId => exact absurd enabled retired.not_lease
  | drop => simp [JobEvent.Enabled, unlisted] at enabled
  | complete now job result => simp [JobEvent.Enabled, retired.2] at enabled
  | expire token =>
    refine ⟨retired.1, ?_⟩
    simp [JobView.apply, retired.2]
  | pruneSuccess kept =>
    simp only [JobView.apply, settleSucceeded]
    split <;> exact retired
  | pruneFailed kept =>
    simp only [JobView.apply, settleFailed]
    split <;> exact retired
  | cancelNow now => simp [JobEvent.Enabled, unlisted, undelayed] at enabled
  | cancelLater => simp [JobEvent.Enabled, idle] at enabled
  | _ => exact retired

/-- A pop keeps a job with a listed success exclusive: its sweep only drops the request. -/
theorem Exclusive.popEvent_listed (exclusive : view.Exclusive) (listed : 0 < view.success) (id : ι)
    {now : Nat} {popId : String} (popped : event.OfPop now popId)
    (enabled : event.Enabled options view) :
    (JobView.apply options id view event).Exclusive ∧
      0 < (JobView.apply options id view event).success := by
  by_cases swept : ∃ at_, event = .sweep at_
  · obtain ⟨at_, rfl⟩ := swept
    simp only [JobView.apply, listed, ↓reduceIte, and_true]
    exact ⟨⟨exclusive.one, exclusive.known, exclusive.held⟩, exclusive.stored, exclusive.unfinished⟩
  · have unswept : ∀ at_, event ≠ .sweep at_ := fun at_ same => swept ⟨at_, same⟩
    have safe : event.Safe view := by
      cases event <;> simp_all [JobEvent.Safe, JobEvent.OfPop]
    obtain ⟨-, success, -⟩ := exclusive.popEvent_frame options id popped enabled unswept
    exact ⟨exclusive.apply options id _ enabled safe, by rw [success]; exact listed⟩

end JobView

/-- Pushes, pops, completions, lease expiry and requests to cancel. -/
def Op.servesJobs : Op ι δ ο ε → Bool
  | .push _ _ | .pop _ _ _ | .complete _ _ _ | .expireLease _ _ | .cancel _ _ => true
  | _ => false

variable [LinearOrder ι]

/-- The ids whose cancellation takes effect in an operation: at once, or in the sweep of a pop. -/
def Store.cancelled (options : QueueOptions) (store : Store ι δ ο ε) : Op ι δ ο ε → List ι
  | .cancel now id => if (store.cancelJob now id).1 = .cancelledImmediately then [id] else []
  | .pop now popId batchSize => (store.popBatchJobs options now popId batchSize).cancelledJobs
  | _ => []

/-- The operation creates a job under the id. -/
def Store.creates (store : Store ι δ ο ε) (id : ι) : Op ι δ ο ε → Bool
  | .push now job => job.id = id ∧ (store.pushWithOutcome now job).1 = .created
  | _ => false

/-- A pop finds no requested cancellation of a job that is waiting again, unless an earlier run of
the id is on the success list. -/
def Store.SweepsSettled (store : Store ι δ ο ε) : Op ι δ ο ε → Prop
  | .pop _ _ _ => ∀ id ∈ store.pendingCancellations.keys,
      id ∈ store.success ∨ (store.view id).Cancellable
  | _ => True

instance (store : Store ι δ ο ε) : ∀ op : Op ι δ ο ε, Decidable (store.SweepsSettled op)
  | .pop _ _ _ => inferInstanceAs (Decidable (∀ id ∈ store.pendingCancellations.keys,
      id ∈ store.success ∨ (store.view id).Cancellable))
  | .push _ _ | .replace _ _ | .complete _ _ _ | .expireLease _ _ | .postSuccess | .postFail
  | .cancel _ _ | .release _ | .reopen _ _ => .isTrue trivial

namespace PopState

/-- Step 1 touches neither the requested cancellations nor the success list, and cancels nothing. -/
theorem cleanupLease_keeps (state : PopState ι δ ο ε) (id : ι) :
    ((state.cleanupLease id).store.pendingCancellations, (state.cleanupLease id).store.success,
      (state.cleanupLease id).cancelledJobs) =
    (state.store.pendingCancellations, state.store.success, state.cancelledJobs) := by
  unfold cleanupLease
  split
  · split <;> rfl
  · rfl

/-- Step 2 cancels the requested ids that are neither active nor on the success list. -/
theorem mem_cancelledJobs_sweep (now : Nat) {id : ι} (ids : List ι) (state : PopState ι δ ο ε)
    (cancelled : id ∈ (ids.foldl (sweepCancellation now) state).cancelledJobs) :
    id ∈ state.cancelledJobs ∨
      id ∈ ids ∧ id ∉ state.store.active ∧ id ∉ state.store.success := by
  induction ids generalizing state with
  | nil => exact .inl cancelled
  | cons turn rest ih =>
    have kept : (sweepCancellation now state turn).store.active = state.store.active ∧
        (sweepCancellation now state turn).store.success = state.store.success := by
      unfold sweepCancellation
      dsimp only
      split
      · exact ⟨rfl, rfl⟩
      · split <;> exact ⟨rfl, rfl⟩
    rcases ih _ cancelled with before | ⟨member, idle, unlisted⟩
    · unfold sweepCancellation at before
      dsimp only at before
      split at before
      · exact .inl before
      · next idle =>
        split at before
        · exact .inl before
        · next unlisted =>
          rcases List.mem_append.mp before with earlier | here
          · exact .inl earlier
          · rw [List.mem_singleton.mp here]
            rw [Redis.lpos_isNumber, decide_eq_true_eq] at unlisted
            exact .inr ⟨List.mem_cons_self, idle, unlisted⟩
    · rw [kept.1] at idle
      rw [kept.2] at unlisted
      exact .inr ⟨List.mem_cons_of_mem _ member, idle, unlisted⟩

/-- Steps 3 and 4 cancel nothing. -/
theorem cancelledJobs_of_pop (store : Store ι δ ο ε) (options : QueueOptions) (now : Nat)
    (popId : String) (batchSize : Nat) :
    let cleaned := store.active.keys.foldl PopState.cleanupLease { store }
    (store.popBatchJobs options now popId batchSize).cancelledJobs =
      (cleaned.store.pendingCancellations.keys.foldl (sweepCancellation now)
        cleaned).cancelledJobs := by
  intro cleaned
  unfold Store.popBatchJobs
  dsimp only
  have leased (ids : List ι) (state : PopState ι δ ο ε) :
      (ids.foldl (leaseJob options now popId) state).cancelledJobs = state.cancelledJobs :=
    foldl_keeps _ cancelledJobs (fun state id => by unfold leaseJob; split <;> rfl) ids state
  have promoted (ids : List ι) (state : PopState ι δ ο ε) :
      (ids.foldl promoteDelayed state).cancelledJobs = state.cancelledJobs :=
    foldl_keeps promoteDelayed cancelledJobs (fun _ _ => rfl) ids state
  rw [leased, takePending, promoted]

end PopState

/-- A cancellation that a pop carries out was requested, of an id that is not on the success list
and that step 1 left outside the active hash. -/
theorem Store.requested_of_cancelled (store : Store ι δ ο ε) (options : QueueOptions) (now : Nat)
    (popId : String) (batchSize : Nat) {id : ι}
    (cancelled : id ∈ (store.popBatchJobs options now popId batchSize).cancelledJobs) :
    id ∈ store.pendingCancellations.keys ∧ id ∉ store.success ∧
      id ∉ (store.active.keys.foldl PopState.cleanupLease { store }).store.active := by
  rw [PopState.cancelledJobs_of_pop] at cancelled
  have kept := PopState.foldl_keeps PopState.cleanupLease
    (fun state : PopState ι δ ο ε =>
      (state.store.pendingCancellations, state.store.success, state.cancelledJobs))
    PopState.cleanupLease_keeps store.active.keys { store }
  obtain ⟨requests, rest⟩ := Prod.mk.inj kept
  obtain ⟨success, none⟩ := Prod.mk.inj rest
  rcases PopState.mem_cancelledJobs_sweep now _ _ cancelled with before | ⟨member, idle, unlisted⟩
  · rw [none] at before
    exact absurd before List.not_mem_nil
  · rw [requests] at member
    rw [success] at unlisted
    exact ⟨member, unlisted, idle⟩

variable {store : Store ι δ ο ε} {options : QueueOptions} {id : ι}

/-- Step 1 leaves an active job whose cancellation can wait in the active hash. -/
theorem Store.active_of_cancellable (cancellable : (store.view id).Cancellable)
    (active : id ∈ store.active) :
    id ∈ (store.active.keys.foldl PopState.cleanupLease { store }).store.active := by
  have present : (store.view id).active.isSome := AList.lookup_isSome.mpr active
  obtain ⟨events, popped, follows⟩ := PopState.Follows.foldl
    (fun view => view.active.isSome) PopState.cleanupLease
    (PopState.cleanupLease_self {} id 0 "") (PopState.cleanupLease_other {} id)
    store.active.keys store.active.keys_nodup { store }
    (fun member => AList.lookup_isSome.mpr member)
  have same := follows.view
  cases events with
  | nil =>
    apply AList.lookup_isSome.mp
    have kept := congrArg JobView.active same
    simp only [Store.view, Transition.run_nil] at kept present
    rw [kept]
    exact present
  | cons event rest =>
    obtain ⟨at_, rfl⟩ := cancellable.sweeps (popped event List.mem_cons_self) follows.enabled.1
    have idle : (store.view id).active = none := follows.enabled.1.2
    rw [idle] at present
    contradiction

/-- A job whose cancellation a pop carries out is retired before it, if its sweep is settled. -/
theorem Store.retired_of_swept (exclusive : (store.view id).Exclusive) {now batchSize : Nat}
    {popId : String} (settled : store.SweepsSettled (.pop now popId batchSize : Op ι δ ο ε))
    (cancelled : id ∈ (store.popBatchJobs options now popId batchSize).cancelledJobs) :
    (store.view id).Retired := by
  obtain ⟨requested, unlisted, idle⟩ := store.requested_of_cancelled options now popId batchSize
    cancelled
  have cancellable := (settled id requested).resolve_left unlisted
  have inactive : (store.view id).active = none :=
    AList.lookup_eq_none.mpr fun active => idle (Store.active_of_cancellable cancellable active)
  refine ⟨?_, exclusive.leases_empty inactive⟩
  simp [JobView.live, cancellable.1, cancellable.2.1, inactive]

/-- An operation of a run with settled sweeps keeps a job exclusive. -/
theorem Store.exclusive_served (exclusive : (store.view id).Exclusive) (options : QueueOptions)
    (op : Op ι δ ο ε) (served : op.servesJobs) (settled : store.SweepsSettled op) :
    ((store.step options op).view id).Exclusive := by
  cases op with
  | pop now popId batchSize =>
    by_cases listed : id ∈ store.success
    · have counted : 0 < (store.view id).success := List.count_pos_iff.mpr listed
      refine (store.step_preserves options (.pop now popId batchSize) id
        (fun view => view.Exclusive ∧ 0 < view.success) ?_ ⟨exclusive, counted⟩).1
      rintro view event ⟨before, success⟩ caused enabled
      exact before.popEvent_listed success id caused enabled
    · refine Store.exclusive_step exclusive options _ fun requested => ?_
      exact (settled id requested).resolve_left listed
  | push now job => exact Store.exclusive_step exclusive options _ trivial
  | complete now job result => exact Store.exclusive_step exclusive options _ trivial
  | expireLease target token => exact Store.exclusive_step exclusive options _ trivial
  | cancel now target => exact Store.exclusive_step exclusive options _ trivial
  | _ => contradiction

/-- Without a push of its id a retired job stays retired. -/
theorem Store.retired_step (retired : (store.view id).Retired) (op : Op ι δ ο ε)
    (served : op.servesJobs) (uncreated : store.creates id op = false) :
    ((store.step options op).view id).Retired := by
  have others (unpushed : ∀ event, op.Causes id event → ∀ now job, event ≠ .push now job) :
      ((store.step options op).view id).Retired := by
    refine store.step_preserves options op id JobView.Retired ?_ retired
    intro view event before caused enabled
    exact before.apply id enabled (unpushed event caused)
  cases op with
  | push now job =>
    by_cases named : job.id = id
    · by_cases known : job.id ∈ store.dedupe
      · rw [Store.step, store.push_duplicate now job known]
        exact retired
      · simp [Store.creates, named, store.push_created now job known] at uncreated
    · refine others ?_
      rintro event ⟨same, -⟩
      exact absurd same named
  | pop now popId batchSize =>
    refine others ?_
    rintro event popped at_ job rfl
    exact popped
  | complete now job result =>
    refine others ?_
    rintro event ⟨-, rfl⟩ at_ pushed same
    cases same
  | expireLease target token =>
    refine others ?_
    rintro event ⟨-, rfl⟩ at_ pushed same
    cases same
  | cancel now target =>
    refine others ?_
    rintro event ⟨-, rfl | rfl⟩ at_ pushed same
    · cases same
    · cases same
  | _ => contradiction

/-- No operation hands out a retired job. -/
theorem Store.handedOut_of_retired (retired : (store.view id).Retired) (op : Op ι δ ο ε) :
    ∀ job ∈ store.handedOut options op, job.job.id ≠ id := by
  rintro job handed rfl
  obtain ⟨now, popId, batchSize, first, rest, -, popped, enabled, -⟩ :=
    store.handedOut_lease options op handed
  rw [Transition.along_append] at enabled
  have along := enabled.1.and (Transition.along_of_forall (store.view job.job.id) first
    fun event member => popped event (List.mem_append_left _ member))
  have still := Transition.run_invariant JobView.Retired ?_ (store.view job.job.id) first retired
    along
  · exact still.not_lease enabled.2.1
  · intro view event before allowed
    refine before.apply job.job.id allowed.1 ?_
    rintro at_ pushed rfl
    exact allowed.2

/-- A cancellation that takes effect leaves the job retired and out of the jobs handed out. -/
theorem Store.retired_of_cancelled (exclusive : (store.view id).Exclusive) (op : Op ι δ ο ε)
    (settled : store.SweepsSettled op) (cancelled : id ∈ store.cancelled options op) :
    ((store.step options op).view id).Retired ∧
      ∀ job ∈ store.handedOut options op, job.job.id ≠ id := by
  cases op with
  | pop now popId batchSize =>
    have retired := Store.retired_of_swept exclusive settled cancelled
    exact ⟨Store.retired_step retired _ rfl rfl, Store.handedOut_of_retired retired _⟩
  | cancel now target =>
    simp only [Store.cancelled] at cancelled
    split at cancelled
    · next immediate =>
      have named := List.mem_singleton.mp cancelled
      subst named
      have waiting : id ∈ store.pending ∨ id ∈ store.delayed := by
        by_contra rest
        rw [not_or] at rest
        simp only [Store.cancelJob, rest.1, rest.2, ↓reduceIte] at immediate
        split at immediate <;> cases immediate
      obtain ⟨enabled, view⟩ := store.view_cancel_waiting options now waiting
      refine ⟨?_, fun job handed => absurd handed List.not_mem_nil⟩
      rw [Store.step, view]
      exact exclusive.cancelNow options id enabled now
    · exact absurd cancelled List.not_mem_nil
  | _ => exact absurd cancelled List.not_mem_nil

/-- In every run whose sweeps are settled: once a cancellation took effect for an id, neither the
rest of that operation nor any later one hands the id out, until a push creates a job under it. -/
theorem Store.cancelled_stays_out (options : QueueOptions) (ops : List (Op ι δ ο ε))
    (served : ∀ op ∈ ops, op.servesJobs)
    (settled : Transition.Along (Store.step options) Store.SweepsSettled Store.empty ops)
    (first : List (Op ι δ ο ε)) (op : Op ι δ ο ε) (rest : List (Op ι δ ο ε))
    (split : ops = first ++ op :: rest) (id : ι)
    (cancelled : id ∈ (Transition.run (Store.step options) Store.empty first).cancelled options
      op) :
    (∀ job ∈ (Transition.run (Store.step options) Store.empty first).handedOut options op,
      job.job.id ≠ id) ∧
    ∀ later next after, rest = later ++ next :: after →
      Transition.Along (Store.step options) (fun store op => store.creates id op = false)
        (Transition.run (Store.step options) Store.empty (first ++ [op])) later →
      ∀ job ∈ (Transition.run (Store.step options) Store.empty
        (first ++ op :: later)).handedOut options next, job.job.id ≠ id := by
  subst split
  rw [Transition.along_append] at settled
  have servedFirst : ∀ earlier ∈ first, earlier.servesJobs := fun earlier member =>
    served earlier (List.mem_append_left _ member)
  have exclusive : ((Transition.run (Store.step options) Store.empty first).view id).Exclusive := by
    refine Transition.run_invariant (fun store : Store ι δ ο ε => (store.view id).Exclusive) ?_
      Store.empty first (Store.exclusive_empty id)
      (settled.1.and (Transition.along_of_forall Store.empty first servedFirst))
    intro store earlier before allowed
    exact Store.exclusive_served before options earlier allowed.2 allowed.1
  obtain ⟨retired, unhanded⟩ := Store.retired_of_cancelled exclusive op settled.2.1 cancelled
  refine ⟨unhanded, ?_⟩
  rintro later next after rfl uncreated
  have servedLater : ∀ between ∈ later, between.servesJobs := fun between member =>
    served between (by simp [member])
  rw [Transition.run_append, Transition.run_cons]
  rw [Transition.run_append, Transition.run_cons, Transition.run_nil] at uncreated
  apply Store.handedOut_of_retired
  refine Transition.run_invariant (fun store : Store ι δ ο ε => (store.view id).Retired) ?_ _ later
    retired (uncreated.and (Transition.along_of_forall _ later servedLater))
  intro store between before allowed
  exact Store.retired_step before between allowed.2 allowed.1

/-- Job 7 is cancelled while it runs and then fails; the next pop carries the cancellation out. -/
def cancelFailing : List (Op Nat String Nat String) :=
  [.push 0 { data := "tx", id := 7 },
    .pop 0 "a" 1,
    .cancel 1 7,
    .complete 2 (borrowedAt 7 0 1 "a") (.error (.fail "down")),
    .pop 3 "b" 1,
    .pop 4 "c" 1]

/-- Neither the pop that carries out the cancellation of `cancelFailing` nor the next one hands job
7 out. -/
theorem Store.cancelled_stays_out_failing :
    7 ∈ (Transition.run (Store.step {}) Store.empty (cancelFailing.take 4)).cancelled {}
      (.pop 3 "b" 1) ∧
    (∀ job ∈ (Transition.run (Store.step {}) Store.empty (cancelFailing.take 4)).handedOut {}
      (.pop 3 "b" 1), job.job.id ≠ 7) ∧
    ∀ job ∈ (Transition.run (Store.step {}) Store.empty (cancelFailing.take 5)).handedOut {}
      (.pop 4 "c" 1), job.job.id ≠ 7 := by
  have cancelled : 7 ∈ (Transition.run (Store.step {}) Store.empty
      (cancelFailing.take 4)).cancelled {} (.pop 3 "b" 1) := by decide +kernel
  obtain ⟨here, later⟩ := Store.cancelled_stays_out {} cancelFailing (by decide)
    (by decide +kernel) (cancelFailing.take 4) (.pop 3 "b" 1) [.pop 4 "c" 1] rfl 7 cancelled
  exact ⟨cancelled, here, later [] (.pop 4 "c" 1) [] rfl trivial⟩

/-- Job 7 is cancelled while it runs and then asks for another attempt; the next pop carries the
cancellation out while the job waits in pending. -/
def cancelRequeued : List (Op Nat String Nat String) :=
  [.push 0 { data := "tx", id := 7 },
    .pop 0 "a" 1,
    .cancel 1 7,
    .complete 2 (borrowedAt 7 0 1 "a") (.error (.nack "busy" none .first))]

/-- The pop that cancels job 7 hands it to a worker. -/
theorem Store.cancelled_runs_again :
    let store := Transition.run (Store.step {}) Store.empty cancelRequeued
    (∀ op ∈ cancelRequeued ++ [.pop 3 "b" 1], op.servesJobs) ∧
      7 ∈ store.cancelled {} (.pop 3 "b" 1) ∧
      store.handedOut {} (.pop 3 "b" 1) = [borrowedAt 7 3 2 "b"] := by
  decide +kernel

end OpenEngine.Queue
