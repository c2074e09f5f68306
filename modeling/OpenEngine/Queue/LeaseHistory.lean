import Mathlib.Data.Finset.Card
import OpenEngine.Queue.Conservation

/-!
# Leases over a whole run

A pop stamps the leases it issues with its clock and its pop id. Pop ids come from a random
generator, so the runs considered here never repeat a stamp. A lease key that is gone then stays
gone: no later operation can bring its token back. From this follow the two history properties of
leases, that each is consumed at most once and that a worker whose job was requeued can no longer
change anything.
-/

namespace OpenEngine.Queue

variable {ι δ ο ε : Type}

/-- A job has at most one live lease key. -/
theorem JobView.Exclusive.leases_card {view : JobView ι δ ο ε} (exclusive : view.Exclusive) :
    view.leases.card ≤ 1 := by
  rw [Finset.card_le_one]
  intro first firstIssued second secondIssued
  have same :=
    (exclusive.held first firstIssued).2.symm.trans (exclusive.held second secondIssued).2
  exact Option.some.inj same

/-- An event issues no lease key but those of a pop's own stamp. -/
theorem JobView.leases_apply [DecidableEq ι] {view : JobView ι δ ο ε} {options : QueueOptions}
    {id : ι} {token : LeaseToken ι} (event : JobEvent ι δ ο ε) (absent : token ∉ view.leases)
    (other : ∀ now popId, event = .lease now popId → token.stamp ≠ (now, some popId)) :
    token ∉ (JobView.apply options id view event).leases := by
  rcases view.leases_cases options id event with
    same | ⟨now, popId, rfl, leased⟩ | ⟨ended, erased, -⟩
  · rw [same]
    exact absent
  · have different : token ≠ nextToken id now popId view.info := by
      rintro rfl
      exact other now popId rfl rfl
    rw [leased]
    split
    · exact fun remaining => absent (Finset.mem_of_mem_erase remaining)
    · simp [different, absent]
  · rw [erased]
    exact fun remaining => absent (Finset.mem_of_mem_erase remaining)

variable [LinearOrder ι]

/-- An operation issues no lease key but those of its own stamp. -/
theorem Store.leases_step (store : Store ι δ ο ε) (options : QueueOptions) (op : Op ι δ ο ε)
    (id : ι) {token : LeaseToken ι} (absent : token ∉ store.leases id)
    (other : op.stamp ≠ some token.stamp) : token ∉ (store.step options op).leases id := by
  refine store.step_preserves options op id (fun view => token ∉ view.leases) ?_ absent
  intro view event before caused _
  refine JobView.leases_apply event before ?_
  rintro now popId rfl same
  cases op <;> simp_all [Op.Causes, JobEvent.OfPop, Op.stamp]

/-- A token that is absent stays absent through operations of other stamps. -/
theorem Store.leases_run (store : Store ι δ ο ε) (options : QueueOptions)
    (ops : List (Op ι δ ο ε)) (id : ι) {token : LeaseToken ι} (absent : token ∉ store.leases id)
    (other : token.stamp ∉ ops.filterMap Op.stamp) :
    token ∉ (Transition.run (Store.step options) store ops).leases id := by
  induction ops generalizing store with
  | nil => exact absent
  | cons op rest ih =>
    rw [Transition.run_cons]
    have here : op.stamp ≠ some token.stamp := by
      intro same
      exact other (List.mem_filterMap.mpr ⟨op, List.mem_cons_self, same⟩)
    refine ih (store.step options op) (store.leases_step options op id absent here) ?_
    intro later
    obtain ⟨issuer, member, same⟩ := List.mem_filterMap.mp later
    exact other (List.mem_filterMap.mpr ⟨issuer, List.mem_cons_of_mem _ member, same⟩)

/-- A pop stamps the leases of the jobs it hands out. -/
theorem Store.stamp_handedOut (store : Store ι δ ο ε) (options : QueueOptions) (op : Op ι δ ο ε)
    {job : BorrowedJob ι δ} (handed : job ∈ store.handedOut options op) :
    op.stamp = some job.leaseToken.stamp := by
  obtain ⟨now, popId, batchSize, first, rest, rfl, -, -, issued⟩ :=
    store.handedOut_lease options op handed
  simp only [JobView.handed] at issued
  split at issued
  · simp at issued
  · rw [List.mem_singleton.mp issued]
    rfl

/-- A job a pop requeues comes out of the pop without any lease key of another stamp. -/
theorem JobView.leases_requeued {options : QueueOptions} {id : ι} {now : Nat} {popId : String}
    {token : LeaseToken ι} (other : token.stamp ≠ (now, some popId))
    (events : List (JobEvent ι δ ο ε)) (view : JobView ι δ ο ε) (exclusive : view.Exclusive)
    (cancellable : view.cancelling → view.Cancellable)
    (popped : ∀ event ∈ events, event.OfPop now popId)
    (enabled : Transition.Along (JobView.apply options id) (JobEvent.Enabled options) view events)
    (requeued : .requeue ∈ events) :
    token ∉ (Transition.run (JobView.apply options id) view events).leases := by
  have untouched (view : JobView ι δ ο ε) (events : List (JobEvent ι δ ο ε))
      (popped : ∀ event ∈ events, event.OfPop now popId) (absent : token ∉ view.leases) :
      token ∉ (Transition.run (JobView.apply options id) view events).leases := by
    refine Transition.run_invariant (fun view => token ∉ view.leases) ?_ view events absent
      (Transition.along_of_forall view events popped)
    intro view event before allowed
    refine leases_apply event before ?_
    rintro at_ under rfl same
    obtain ⟨rfl, rfl⟩ := allowed
    exact other same
  induction events generalizing view with
  | nil => simp at requeued
  | cons event rest ih =>
    rw [Transition.run_cons]
    have restPopped : ∀ later ∈ rest, later.OfPop now popId :=
      fun later member => popped later (List.mem_cons_of_mem _ member)
    by_cases here : event = .requeue
    · subst here
      refine untouched _ rest restPopped ?_
      simp [JobView.apply, exclusive.leases_empty_of_gone enabled.1.2]
    · have inRest : .requeue ∈ rest := by
        simpa [Ne.symm here] using requeued
      obtain ⟨nextExclusive, nextCancellable⟩ := exclusive.popEvent cancellable options id
        (popped event List.mem_cons_self) enabled.1
      exact ih _ nextExclusive nextCancellable restPopped enabled.2 inRest

/-- A live lease key carries the stamp of a pop of the run. -/
theorem Store.stamp_of_lease (options : QueueOptions) (ops : List (Op ι δ ο ε)) (id : ι)
    {token : LeaseToken ι}
    (issued : token ∈ (Transition.run (Store.step options)
      (Store.empty : Store ι δ ο ε) ops).leases id) :
    token.stamp ∈ ops.filterMap Op.stamp := by
  by_contra other
  exact Store.empty.leases_run options ops id (by simp [Store.empty]) other issued

/-- A completion that commits consumes a live lease key. -/
theorem Store.consumed_cases (store : Store ι δ ο ε) (options : QueueOptions) (op : Op ι δ ο ε)
    {id : ι} {token : LeaseToken ι} (spent : (id, token) ∈ store.consumed op) :
    store.consumed op = [(id, token)] ∧ token ∈ store.leases id ∧
      token ∉ (store.step options op).leases id := by
  cases op with
  | complete now job result =>
    simp only [Store.consumed] at spent ⊢
    split at spent
    · rename_i held
      obtain ⟨rfl, rfl⟩ := Prod.mk.inj (List.mem_singleton.mp spent)
      refine ⟨by rw [if_pos held], (store.holdsLease_iff job).mp held, ?_⟩
      have applied : (store.step options (.complete now job result)).view job.job.id =
          (store.view job.job.id).complete options now job result := by
        simp only [Store.step, Store.complete, held, ↓reduceIte]
        exact store.view_applyCompletion_self options now job result
      have erased := congrArg JobView.leases applied
      rw [JobView.leases_complete] at erased
      change (store.step options (.complete now job result)).leases job.job.id = _ at erased
      rw [erased]
      exact Finset.notMem_erase _ _
    · simp at spent
  | _ => simp [Store.consumed] at spent

/-- Each lease is consumed at most once, and a consumed lease is gone. -/
theorem Store.consumed_nodup (options : QueueOptions) (ops : List (Op ι δ ο ε))
    (fresh : (ops.filterMap Op.stamp).Nodup) :
    (Transition.trace (Store.step options) Store.consumed (Store.empty : Store ι δ ο ε)
        ops).Nodup ∧
      ∀ spent ∈ Transition.trace (Store.step options) Store.consumed
        (Store.empty : Store ι δ ο ε) ops,
        spent.2 ∉ (Transition.run (Store.step options) (Store.empty : Store ι δ ο ε)
          ops).leases spent.1 ∧ spent.2.stamp ∈ ops.filterMap Op.stamp := by
  induction ops using List.reverseRecOn with
  | nil => simp [Transition.trace]
  | append_singleton before op ih =>
    rw [List.filterMap_append] at fresh ⊢
    obtain ⟨beforeFresh, -, apart⟩ := List.nodup_append.mp fresh
    obtain ⟨distinct, gone⟩ := ih beforeFresh
    rw [Transition.trace_append, Transition.run_append]
    set store := Transition.run (Store.step options) (Store.empty : Store ι δ ο ε) before
    simp only [Transition.trace, List.append_nil, Transition.run_cons, Transition.run_nil]
    refine ⟨?_, ?_⟩
    · rw [List.nodup_append]
      refine ⟨distinct, ?_, ?_⟩
      · cases here : store.consumed op with
        | nil => exact List.nodup_nil
        | cons first rest =>
          obtain ⟨id, token⟩ := first
          have spent : (id, token) ∈ store.consumed op := by simp [here]
          have only := (store.consumed_cases options op spent).1
          rw [here] at only
          rw [only]
          exact List.nodup_singleton _
      · rintro earlier spentBefore _ spentHere rfl
        exact (gone earlier spentBefore).1 (store.consumed_cases options op spentHere).2.1
    · intro spent member
      rcases List.mem_append.mp member with earlier | here
      · obtain ⟨absent, seen⟩ := gone spent earlier
        refine ⟨store.leases_step options op spent.1 absent ?_, List.mem_append_left _ seen⟩
        intro same
        exact apart _ seen _ (List.mem_filterMap.mpr ⟨op, List.mem_singleton_self op, same⟩) rfl
      · obtain ⟨-, issued, absent⟩ := store.consumed_cases options op here
        exact ⟨absent, List.mem_append_left _ (Store.stamp_of_lease options before spent.1 issued)⟩

section Runs

variable (options : QueueOptions) (ops : List (Op ι δ ο ε)) (core : ∀ op ∈ ops, op.isCore)
  (spared : Transition.Along (Store.step options) (Store.SparesDelayed options) Store.empty ops)

include core spared

/-- In a core run whose prunes spare delayed jobs, every job stays exclusive and no cancellation
is ever requested. -/
theorem Store.exclusive_run (id : ι) :
    ((Transition.run (Store.step options) Store.empty ops).view id).Exclusive ∧
      id ∉ (Transition.run (Store.step options) Store.empty ops).pendingCancellations := by
  refine Transition.run_invariant
    (fun store : Store ι δ ο ε => (store.view id).Exclusive ∧ id ∉ store.pendingCancellations) ?_
    Store.empty ops ⟨Store.exclusive_empty id, AList.notMem_empty id⟩
    (spared.and (Transition.along_of_forall _ ops core))
  rintro store op ⟨exclusive, uncancelled⟩ ⟨spares, allowed⟩
  refine ⟨Store.exclusive_step exclusive options op ?_, ?_⟩
  · cases op with
    | pop now popId batchSize => exact fun requested => absurd requested uncancelled
    | postSuccess => exact spares id
    | postFail => exact spares id
    | release target => contradiction
    | _ => trivial
  · refine store.step_preserves options op id (fun view => ¬view.cancelling) ?_ uncancelled
    intro view event before caused enabled
    refine JobView.uncancelled_apply event ?_ before
    rintro rfl
    exact absurd (op.isCore_of_causes allowed caused) (by simp [JobEvent.isCore])

/-- The lease key of a job that a later pop requeued is gone for the rest of the run. -/
theorem Store.lease_gone (fresh : (ops.filterMap Op.stamp).Nodup)
    {first later : List (Op ι δ ο ε)} {now : Nat} {popId : String} {batchSize : Nat}
    (split : ops = first ++ .pop now popId batchSize :: later) {job : BorrowedJob ι δ}
    (handed : job ∈ Transition.trace (Store.step options) (Store.handedOut options)
      (Store.empty : Store ι δ ο ε) first)
    (requeued : job.job.id ∈ ((Transition.run (Store.step options) (Store.empty : Store ι δ ο ε)
      first).popBatchJobs options now popId batchSize).timedOutJobs) :
    job.leaseToken ∉ (Transition.run (Store.step options) (Store.empty : Store ι δ ο ε)
      ops).leases job.job.id := by
  subst split
  obtain ⟨sparedFirst, -⟩ := (Transition.along_append _ _ _).mp spared
  obtain ⟨exclusive, uncancelled⟩ := Store.exclusive_run options first
    (fun op member => core op (List.mem_append_left _ member)) sparedFirst job.job.id
  rw [Transition.run_append, Transition.run_cons]
  set store := Transition.run (Store.step options) (Store.empty : Store ι δ ο ε) first
  have earlier : job.leaseToken.stamp ∈ first.filterMap Op.stamp := by
    obtain ⟨before, op, after, rfl, issued⟩ := Transition.mem_trace handed
    exact List.mem_filterMap.mpr ⟨op, by simp, Store.stamp_handedOut _ options op issued⟩
  rw [List.filterMap_append] at fresh
  obtain ⟨-, -, apart⟩ := List.nodup_append.mp fresh
  have otherPop : job.leaseToken.stamp ≠ (now, some popId) :=
    fun same => apart _ earlier (now, some popId) (by simp [Op.stamp]) same
  have otherLater : job.leaseToken.stamp ∉ later.filterMap Op.stamp :=
    fun member => by
      obtain ⟨op, inside, same⟩ := List.mem_filterMap.mp member
      exact apart _ earlier _
        (List.mem_filterMap.mpr ⟨op, List.mem_cons_of_mem _ inside, same⟩) rfl
  refine Store.leases_run _ options later job.job.id ?_ otherLater
  obtain ⟨events, popped, follows⟩ :=
    store.pop_follows options now popId batchSize job.job.id
  have inEvents : .requeue ∈ events := by simpa using follows.timedOut.mp requeued
  have absent := JobView.leases_requeued otherPop events _ exclusive
    (fun requested => absurd requested uncancelled) popped follows.enabled inEvents
  rw [← follows.view] at absent
  exact absent

/-- Over a core run whose pops carry distinct stamps and whose prunes meet no delayed id in their
tails: each id has at most one live lease key, which is that of the active job; each lease is
consumed at most once; and a worker that got its job from a pop before the one that requeued it
changes nothing by completing it. -/
theorem Store.lease_exclusivity (fresh : (ops.filterMap Op.stamp).Nodup) (id : ι) :
    let store := Transition.run (Store.step options) (Store.empty : Store ι δ ο ε) ops
    (store.leases id).card ≤ 1 ∧
    (∀ token ∈ store.leases id,
      id ∈ store.active ∧ (store.jobMeta id).leaseToken = some token) ∧
    (Transition.trace (Store.step options) Store.consumed (Store.empty : Store ι δ ο ε)
      ops).Nodup ∧
    ∀ first now popId batchSize later,
      ops = first ++ .pop now popId batchSize :: later →
      ∀ job ∈ Transition.trace (Store.step options) (Store.handedOut options)
        (Store.empty : Store ι δ ο ε) first,
        job.job.id ∈ ((Transition.run (Store.step options) (Store.empty : Store ι δ ο ε)
          first).popBatchJobs options now popId batchSize).timedOutJobs →
        ∀ at_ result, store.complete options at_ job result = (false, store) := by
  intro store
  have exclusive := (Store.exclusive_run options ops core spared id).1
  refine ⟨exclusive.leases_card, ?_, (Store.consumed_nodup options ops fresh).1, ?_⟩
  · intro token issued
    obtain ⟨active, named⟩ := exclusive.held token issued
    exact ⟨AList.lookup_isSome.mp active, named⟩
  · intro first now popId batchSize later split job handed requeued at_ result
    have gone := Store.lease_gone options ops core spared fresh split handed requeued
    have lost : store.holdsLease job = false := by simpa [Store.holdsLease] using gone
    simp [Store.complete, lost]

end Runs

/-- The first worker of `expireAndDefer` loses its lease to the second pop and can change nothing
afterwards. -/
theorem Store.lease_exclusivity_expireAndDefer :
    let store := Transition.run (Store.step {}) Store.empty expireAndDefer
    (store.leases 7).card ≤ 1 ∧
      store.complete {} 50 (borrowedAt 7 0 1 "a") (.ok 1) = (false, store) := by
  intro store
  obtain ⟨one, -, -, lost⟩ := Store.lease_exclusivity {} expireAndDefer (by decide)
    (by decide +kernel) (by decide) 7
  exact ⟨one, lost (expireAndDefer.take 3) 40 "b" 1 (expireAndDefer.drop 4) rfl
    (borrowedAt 7 0 1 "a") (by decide +kernel) (by decide +kernel) 50 (.ok 1)⟩

/-- A run under a zero success bound. The finished job 7 stays on the success list but loses its
record, so it is pushed again, with a delay; when job 8 succeeds, the prune meets 7 in its tail,
takes the delayed job for dead and deletes its record; the next push of 7 then adds a second entry,
and one pop hands out both. -/
def twiceLeased : List (Op Nat String Nat String) :=
  [.push 0 { data := "tx", id := 7 },
    .pop 0 "a" 1,
    .complete 1 (borrowedAt 7 0 1 "a") (.ok 5),
    .postSuccess,
    .push 2 { data := "tx", id := 7, delay := some ⟨.fromSecs 10, .last⟩ },
    .push 2 { data := "tx", id := 8 },
    .pop 3 "b" 1,
    .complete 4 (borrowedAt 8 3 1 "b") (.ok 6),
    .postSuccess,
    .push 5 { data := "tx", id := 7 },
    .pop 20 "c" 2]

/-- Two live lease keys of one job, in permanent mode and with distinct pop stamps. -/
theorem Store.twiceLeased_card :
    let options : QueueOptions := { maxSuccess := 0 }
    options.idempotencyMode = .permanent ∧ (∀ op ∈ twiceLeased, op.isCore) ∧
      (twiceLeased.filterMap Op.stamp).Nodup ∧
      ((Transition.run (Store.step options) Store.empty twiceLeased).leases 7).card = 2 := by
  decide +kernel

end OpenEngine.Queue
