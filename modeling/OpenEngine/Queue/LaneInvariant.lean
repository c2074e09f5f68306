import OpenEngine.Queue.Multilane
import OpenEngine.Queue.LaneJob

/-!
# One lane for each job

A job of the multilane queue sits in the lane its metadata names and in no other, guarded there; a
job without a lane in its metadata was never pushed. Every operation keeps this, the prunes because
they delete nothing of a job that has a lane.
-/

namespace OpenEngine.Queue

variable {ι δ ο ε : Type}

section Keys

variable (store : MultilaneStore ι δ ο ε) (laneId : String) (keys : Store ι δ ο ε)

/-- A script's keys are read back as it left them. -/
@[simp] theorem MultilaneStore.laneKeys_writeKeys :
    (store.writeKeys laneId keys).laneKeys laneId = keys := by
  simp [laneKeys, writeKeys]

/-- Writing the keys that are there changes nothing. -/
@[simp] theorem MultilaneStore.writeKeys_laneKeys :
    store.writeKeys laneId (store.laneKeys laneId) = store := by
  simp [laneKeys, writeKeys]

end Keys

variable [LinearOrder ι]

/-- The keys of one id, those of a lane among them. -/
def MultilaneStore.laneView (store : MultilaneStore ι δ ο ε) (laneId : String) (id : ι) :
    JobView ι δ ο ε :=
  (store.laneKeys laneId).view id

/-- A job is in the lane its metadata names, guarded there; without a lane it was never pushed. -/
structure MultilaneStore.Settled (store : MultilaneStore ι δ ο ε) (id : ι) : Prop where
  /-- A job is live in the lane its metadata names only. -/
  home : ∀ laneId, 0 < (store.laneView laneId id).live →
    (store.jobMeta id).laneId = some laneId
  /-- A job is guarded in its lane. -/
  guarded : ∀ laneId, (store.jobMeta id).laneId = some laneId →
    (store.laneView laneId id).Guarded
  /-- A job without a lane was never pushed. -/
  blank : (store.jobMeta id).laneId = none → ∀ laneId, store.laneView laneId id = .blank

/-- A script on one lane changes a job in another lane's view by the queue's keys alone. -/
theorem MultilaneStore.laneView_writeKeys_of_ne (store : MultilaneStore ι δ ο ε) (laneId : String)
    (keys : Store ι δ ο ε) {other : String} (different : other ≠ laneId) (id : ι) :
    (store.writeKeys laneId keys).laneView other id =
      { keys.view id with
        pending := (store.laneView other id).pending
        delayed := (store.laneView other id).delayed
        active := (store.laneView other id).active } := by
  simp [laneView, laneKeys, writeKeys, different, Store.view]

variable {store : MultilaneStore ι δ ο ε} {id : ι}

/-- A job outside its lane's live containers is live nowhere. -/
theorem MultilaneStore.Settled.live_eq_zero (settled : store.Settled id) {laneId : String}
    (away : (store.jobMeta id).laneId ≠ some laneId) : (store.laneView laneId id).live = 0 := by
  by_contra present
  exact away (settled.home laneId (Nat.pos_of_ne_zero present))

/-- A script on one lane keeps a job settled: in its own lane it keeps the job guarded, and of any
other job it changes nothing. -/
theorem MultilaneStore.Settled.writeKeys (settled : store.Settled id) {laneId : String}
    {keys : Store ι δ ο ε}
    (here : (store.jobMeta id).laneId = some laneId →
      (keys.view id).Guarded ∧ (keys.jobMeta id).laneId = some laneId)
    (away : (store.jobMeta id).laneId ≠ some laneId → keys.view id = store.laneView laneId id) :
    (store.writeKeys laneId keys).Settled id := by
  by_cases named : (store.jobMeta id).laneId = some laneId
  · obtain ⟨guarded, kept⟩ := here named
    have info : ((store.writeKeys laneId keys).jobMeta id).laneId = some laneId := kept
    refine ⟨?_, ?_, ?_⟩
    · intro other present
      by_cases same : other = laneId
      · rw [info, same]
      · rw [store.laneView_writeKeys_of_ne laneId keys same] at present
        have before := settled.home other present
        rw [named] at before
        rw [info, Option.some.inj before]
    · intro other found
      have same : other = laneId := Option.some.inj (found.symm.trans info)
      rw [same, MultilaneStore.laneView, MultilaneStore.laneKeys_writeKeys]
      exact guarded
    · intro missing
      rw [info] at missing
      contradiction
  · have unchanged := away named
    have info : (store.writeKeys laneId keys).jobMeta id = store.jobMeta id :=
      congrArg JobView.info unchanged
    have views : ∀ other, (store.writeKeys laneId keys).laneView other id =
        store.laneView other id := by
      intro other
      by_cases same : other = laneId
      · rw [same, MultilaneStore.laneView, MultilaneStore.laneKeys_writeKeys, unchanged]
      · rw [store.laneView_writeKeys_of_ne laneId keys same, unchanged]
        rfl
    refine ⟨?_, ?_, ?_⟩
    · intro other present
      rw [info]
      exact settled.home other (views other ▸ present)
    · intro other found
      rw [views other]
      exact settled.guarded other (info ▸ found)
    · intro missing other
      rw [views other]
      exact settled.blank (info ▸ missing) other

/-- A change of a job that is the same in every lane's view and leaves its live entries and its lane
alone keeps it settled. -/
theorem MultilaneStore.Settled.of_views (settled : store.Settled id)
    {after : MultilaneStore ι δ ο ε} (touch : JobView ι δ ο ε → JobView ι δ ο ε)
    (views : ∀ laneId, after.laneView laneId id = touch (store.laneView laneId id))
    (lane : (after.jobMeta id).laneId = (store.jobMeta id).laneId)
    (live : ∀ view : JobView ι δ ο ε, (touch view).live = view.live)
    (guarded : ∀ view : JobView ι δ ο ε, view.Guarded → (touch view).Guarded)
    (blank : (store.jobMeta id).laneId = none → touch .blank = .blank) : after.Settled id where
  home laneId present := by
    rw [views, live] at present
    rw [lane]
    exact settled.home laneId present
  guarded laneId named := by
    rw [views]
    exact guarded _ (settled.guarded laneId (lane ▸ named))
  blank missing laneId := by
    rw [lane] at missing
    rw [views, settled.blank missing laneId]
    exact blank missing

/-- What leaves every view of a job alone keeps it settled. -/
theorem MultilaneStore.Settled.of_same (settled : store.Settled id)
    {after : MultilaneStore ι δ ο ε}
    (views : ∀ laneId, after.laneView laneId id = store.laneView laneId id) :
    after.Settled id :=
  settled.of_views (fun view => view) views
    (congrArg (·.info.laneId) (views "")) (fun _ => rfl) (fun _ guarded => guarded) fun _ => rfl

/-- A phase of the pop script over ids of one lane keeps a job settled. -/
theorem MultilaneStore.Settled.foldl (settled : store.Settled id) {laneId : String}
    (options : QueueOptions) (now : Nat) {ids : List ι} (distinct : ids.Nodup)
    (phase : PopState ι δ ο ε → ι → PopState ι δ ο ε) (ready : JobView ι δ ο ε → Prop)
    (self : ∀ state, ready (state.store.view id) →
      ∃ events : List (JobEvent ι δ ο ε), (∀ event ∈ events, event.OfPop now "") ∧
        PopState.Follows options id state (phase state id) events)
    (other : ∀ state turn, id ≠ turn → PopState.Follows options id state (phase state turn) [])
    (prepared : id ∈ ids → ready (store.laneView laneId id))
    (live : id ∈ ids → 0 < (store.laneView laneId id).live) :
    (store.writeKeys laneId
      (ids.foldl phase { store := store.laneKeys laneId }).store).Settled id := by
  apply settled.writeKeys
  · intro named
    obtain ⟨events, allowed, follows⟩ := PopState.Follows.foldl ready phase self other ids distinct
      { store := store.laneKeys laneId } prepared
    have guarded := settled.guarded laneId named
    have start : (store.laneView laneId id).Guarded ∧
        (store.laneView laneId id).info.laneId = some laneId := ⟨guarded, named⟩
    have admitted := follows.enabled.and (Transition.along_of_forall _ events allowed)
    have after := Transition.run_invariant
      (fun view : JobView ι δ ο ε => view.Guarded ∧ view.info.laneId = some laneId)
      (fun view event holds step => by
        have next := holds.1.apply options id (.inl ⟨now, "", step.2⟩) step.1
        exact ⟨next.1, next.2.trans holds.2⟩) _ events start admitted
    have view := follows.view
    exact ⟨view ▸ after.1, (congrArg (·.info.laneId) view).trans after.2⟩
  · intro away
    have absent : id ∉ ids := fun member => by
      have present := live member
      rw [settled.live_eq_zero away] at present
      exact absurd present (Nat.lt_irrefl 0)
    have followed : ∃ events : List (JobEvent ι δ ο ε), (∀ event ∈ events, False) ∧
        PopState.Follows options id { store := store.laneKeys laneId }
          (ids.foldl phase { store := store.laneKeys laneId }) events :=
      PopState.Follows.foldl (fun _ => False) phase (fun _ impossible => impossible.elim) other ids
        distinct _ absent
    obtain ⟨events, none, follows⟩ := followed
    have empty : events = [] := List.eq_nil_iff_forall_not_mem.mpr none
    rw [follows.view, empty]
    rfl

/-- An active entry is live. -/
theorem MultilaneStore.live_of_mem_active {laneId : String}
    (active : id ∈ (store.laneKeys laneId).active.keys) :
    0 < (store.laneView laneId id).live := by
  have found : (store.laneView laneId id).active.isSome := AList.lookup_isSome.mpr active
  exact JobView.live_of_active found

/-- A due entry of the delayed set is live. -/
theorem MultilaneStore.live_of_due {laneId : String} {now : Nat}
    (due : id ∈ Redis.zrangeByScore (store.laneKeys laneId).delayed now) :
    0 < (store.laneView laneId id).live := by
  have found : (store.laneView laneId id).delayed.isSome :=
    AList.lookup_isSome.mpr (Redis.mem_of_mem_zrangeByScore due)
  simp only [JobView.live, found, Bool.toNat_true]
  omega

/-- Cleaning up a lane and promoting its due jobs keep a job settled. -/
theorem LanePopState.settled_refreshLane {state : LanePopState ι δ ο ε}
    (settled : state.store.Settled id) (now : Nat) (laneId : String) :
    (state.refreshLane now laneId).store.Settled id := by
  have cleaned : (state.cleanupLaneLeases laneId).store.Settled id :=
    settled.foldl {} now (state.store.laneKeys laneId).active.keys_nodup PopState.cleanupLease
      (fun view => view.active.isSome) (PopState.cleanupLease_self {} id now "")
      (PopState.cleanupLease_other {} id) (fun member => AList.lookup_isSome.mpr member)
      MultilaneStore.live_of_mem_active
  have promoted : ((state.cleanupLaneLeases laneId).processDelayedJobs now laneId).store.Settled
      id :=
    cleaned.foldl {} now (Redis.nodup_zrangeByScore _ now) PopState.promoteDelayed
      (fun view => view.delayed.isSome) (PopState.promoteDelayed_self {} id now "")
      (PopState.promoteDelayed_other {} id)
      (fun due => AList.lookup_isSome.mpr (Redis.mem_of_mem_zrangeByScore due))
      MultilaneStore.live_of_due
  exact promoted.of_same fun _ => rfl

/-- Leasing the last pending id of a lane keeps the id's view of another job. -/
theorem Store.view_leaseFromLane_of_ne (options : QueueOptions) (now : Nat)
    (keys : Store ι δ ο ε) {target : ι} (data : δ) (different : id ≠ target) :
    (keys.leaseFromLane options now target data).2.view id = keys.view id := by
  simp [Store.leaseFromLane, Store.grantLease, Store.setMeta, Store.view, different,
    AList.lookup_insert_ne]

/-- Leasing a pending job makes it active under the only live lease key. -/
theorem JobView.Guarded.leaseFromLane {keys : Store ι δ ο ε} (options : QueueOptions) (now : Nat)
    {first : List ι} (pending : keys.pending = first ++ [id]) (guarded : (keys.view id).Guarded)
    (data : δ) :
    (({ keys with pending := first }.leaseFromLane options now id data).2.view id).Guarded := by
  have waiting : 0 < (keys.view id).pending := by
    simp only [Store.view, pending, List.count_append, List.count_singleton_self]
    omega
  have bare : keys.leases id = ∅ := guarded.leases_empty (guarded.idle (by omega))
  refine guarded.leased waiting
    { now, jobId := id, attempts := (keys.jobMeta id).attempts.getD 0 + 1, popId := none }
    ?_ rfl ?_ rfl rfl ?_ ?_ ?_
  · simp [Store.leaseFromLane, Store.grantLease, Store.setMeta, Store.view, pending]
  · simp [Store.leaseFromLane, Store.grantLease, Store.setMeta, Store.view]
  · simp [Store.leaseFromLane, Store.grantLease, Store.setMeta, Store.view]
  · simp [Store.leaseFromLane, Store.grantLease, Store.setMeta, Store.view, JobMeta.incrAttempts]
  · intro other issued
    simp only [Store.leaseFromLane, Store.grantLease, Store.setMeta, Store.view, bare,
      Function.update_self, JobMeta.incrAttempts, Option.getD_some] at issued
    split at issued
    · simp at issued
    · simpa using issued

/-- What `pop_job_from_lane` finds: an empty pending list, a last id without data, or a last id it
leases. -/
theorem MultilaneStore.popJobFromLane_cases (options : QueueOptions) (now : Nat)
    (store : MultilaneStore ι δ ο ε) (laneId : String) :
    ((store.lane laneId).pending = [] ∧
      store.popJobFromLane options now laneId = (none, store)) ∨
    (∃ first target, (store.lane laneId).pending = first ++ [target] ∧
      store.jobData target = none ∧
      store.popJobFromLane options now laneId =
        (none, store.writeKeys laneId { store.laneKeys laneId with pending := first })) ∨
    ∃ first target data, (store.lane laneId).pending = first ++ [target] ∧
      store.jobData target = some data ∧
      store.popJobFromLane options now laneId =
        (some ({ store.laneKeys laneId with pending := first }.leaseFromLane options now target
            data).1,
          store.writeKeys laneId
            ({ store.laneKeys laneId with pending := first }.leaseFromLane options now target
              data).2) := by
  unfold popJobFromLane
  cases last : (store.laneKeys laneId).pending.getLast? with
  | none => exact .inl ⟨List.getLast?_eq_none_iff.mp last, by simp only [last]⟩
  | some target =>
    have parts := List.dropLast_append_getLast? target last
    cases stored : (store.laneKeys laneId).jobData target with
    | none => exact .inr (.inl ⟨_, target, parts.symm, stored, by simp only [last, stored]⟩)
    | some data =>
      exact .inr (.inr ⟨_, target, data, parts.symm, stored, by simp only [last, stored]⟩)

/-- Popping from a lane keeps a job settled. -/
theorem MultilaneStore.Settled.popJobFromLane (settled : store.Settled id)
    (options : QueueOptions) (now : Nat) (laneId : String) :
    (store.popJobFromLane options now laneId).2.Settled id := by
  have live {first : List ι} (pending : (store.lane laneId).pending = first ++ [id]) :
      (store.jobMeta id).laneId = some laneId := by
    apply settled.home laneId
    simp only [JobView.live, laneView, laneKeys, Store.view, pending, List.count_append,
      List.count_singleton_self]
    omega
  rcases store.popJobFromLane_cases options now laneId with
    ⟨-, popped⟩ | ⟨first, target, pending, missing, popped⟩ |
      ⟨first, target, data, pending, stored, popped⟩
  · rw [popped]
    exact settled
  · rw [popped]
    have different : id ≠ target := fun same => by
      subst same
      have stored := (settled.guarded laneId (live pending)).stored
      rw [show (store.laneView laneId id).data = store.jobData id from rfl, missing] at stored
      contradiction
    have unchanged : ({ store.laneKeys laneId with pending := first } : Store ι δ ο ε).view id =
        store.laneView laneId id := by
      simp [laneView, Store.view, laneKeys, pending, different.symm]
    exact settled.writeKeys
      (fun named => ⟨unchanged ▸ settled.guarded laneId named, named⟩) fun _ => unchanged
  · rw [popped]
    by_cases same : id = target
    · subst same
      have named := live pending
      refine settled.writeKeys (fun _ => ⟨?_, ?_⟩) fun away => absurd named away
      · have listed : (store.laneKeys laneId).pending = first ++ [id] := pending
        exact (settled.guarded laneId named).leaseFromLane options now listed data
      · have before : ((store.laneKeys laneId).jobMeta id).laneId = some laneId := named
        simpa [Store.leaseFromLane, Store.setMeta, JobMeta.incrAttempts] using before
    · have unchanged : (({ store.laneKeys laneId with pending := first } :
          Store ι δ ο ε).leaseFromLane options now target data).2.view id =
          store.laneView laneId id := by
        rw [Store.view_leaseFromLane_of_ne options now _ data same]
        simp [laneView, Store.view, laneKeys, pending, Ne.symm same]
      refine settled.writeKeys (fun named => ?_) fun _ => unchanged
      exact ⟨unchanged ▸ settled.guarded laneId named,
        (congrArg (·.info.laneId) unchanged).trans named⟩

/-- Step 1 on a requested cancellation keeps a job settled. -/
theorem LanePopState.settled_sweepCancellation {state : LanePopState ι δ ο ε}
    (settled : state.store.Settled id) (now : Nat) (target : ι) :
    (state.sweepCancellation now target).store.Settled id := by
  unfold sweepCancellation
  dsimp only
  split
  · exact settled
  rename_i laneId named
  split
  · exact settled
  by_cases same : id = target
  · subst same
    have found (missing : (state.store.jobMeta id).laneId = none) : False := by
      rw [named] at missing
      contradiction
    split
    · refine settled.of_views (fun view => { view with cancelling := False, success := 1 }) ?_ rfl
        (fun _ => rfl) ?_ fun missing => (found missing).elim
      · intro laneId
        have once : (id :: state.store.success.filter (· ≠ id)).count id = 1 := by
          rw [List.count_cons_self, List.count_eq_zero_of_not_mem (by simp)]
        simp only [MultilaneStore.laneView, MultilaneStore.laneKeys, Store.view, once,
          AList.mem_erase, ne_eq, not_true_eq_false, false_and]
      · intro view guarded
        exact guarded.noted rfl rfl rfl rfl rfl rfl rfl (Finset.Subset.refl _)
    · refine settled.of_views (fun view =>
        { view with
          cancelling := False
          failed := view.failed + 1
          info := { view.info with finishedAt := some now } }) ?_ ?_ (fun _ => rfl) ?_
        fun missing => (found missing).elim
      · intro laneId
        simp [MultilaneStore.laneView, MultilaneStore.laneKeys, Store.view]
      · simp
      · intro view guarded
        exact guarded.noted rfl rfl rfl rfl rfl rfl rfl (Finset.Subset.refl _)
  · split
    · refine settled.of_same fun laneId => ?_
      have apart : ¬target = id := fun reverse => same reverse.symm
      simp [MultilaneStore.laneView, MultilaneStore.laneKeys, Store.view, same, apart,
        List.count_filter]
    · refine settled.of_same fun laneId => ?_
      have apart : ¬target = id := fun reverse => same reverse.symm
      simp [MultilaneStore.laneView, MultilaneStore.laneKeys, Store.view, same, apart]

/-- Dropping a lane from the lanes set keeps every job's views. -/
theorem MultilaneStore.laneView_retireLane (store : MultilaneStore ι δ ο ε)
    (retired laneId : String) :
    (store.retireLane retired).laneView laneId id = store.laneView laneId id := by
  unfold retireLane
  dsimp only
  split <;> rfl

/-- What every part of the pop script preserves is preserved by the visits to the lanes. -/
theorem LanePopState.seekJob_preserves (options : QueueOptions) (now : Nat)
    (property : MultilaneStore ι δ ο ε → Prop)
    (refresh : ∀ (state : LanePopState ι δ ο ε) laneId, property state.store →
      property (state.refreshLane now laneId).store)
    (pop : ∀ (store : MultilaneStore ι δ ο ε) laneId, property store →
      property (store.popJobFromLane options now laneId).2)
    (retire : ∀ (store : MultilaneStore ι δ ο ε) laneId, property store →
      property (store.retireLane laneId))
    (lanes : List (String × Nat)) (state : LanePopState ι δ ο ε) (holds : property state.store) :
    property (state.seekJob options now lanes).1.store := by
  induction lanes generalizing state with
  | nil => exact holds
  | cons head rest ih =>
    obtain ⟨laneId, lastScore⟩ := head
    unfold seekJob
    dsimp only
    have visited : property
        (if lastScore ≠ now then state.refreshLane now laneId else state).store := by
      split
      · exact refresh state laneId holds
      · exact holds
    have popped := pop _ laneId visited
    cases result : (if lastScore ≠ now then state.refreshLane now laneId
      else state).store.popJobFromLane options now laneId with
    | mk job store =>
      rw [result] at popped
      cases job with
      | none => exact ih _ (retire store laneId popped)
      | some job => exact popped

/-- What every part of the pop script preserves is preserved by the pop. -/
theorem MultilaneStore.popBatchJobs_preserves (options : QueueOptions) (now : Nat)
    (property : MultilaneStore ι δ ο ε → Prop)
    (sweep : ∀ (state : LanePopState ι δ ο ε) target, property state.store →
      property (state.sweepCancellation now target).store)
    (refresh : ∀ (state : LanePopState ι δ ο ε) laneId, property state.store →
      property (state.refreshLane now laneId).store)
    (pop : ∀ (store : MultilaneStore ι δ ο ε) laneId, property store →
      property (store.popJobFromLane options now laneId).2)
    (retire : ∀ (store : MultilaneStore ι δ ο ε) laneId, property store →
      property (store.retireLane laneId))
    (store : MultilaneStore ι δ ο ε) (batchSize : Nat) (holds : property store) :
    property (store.popBatchJobs options now batchSize).store := by
  have swept (targets : List ι) (state : LanePopState ι δ ο ε) (before : property state.store) :
      property (targets.foldl (LanePopState.sweepCancellation now) state).store := by
    induction targets generalizing state with
    | nil => exact before
    | cons target rest ih => exact ih _ (sweep state target before)
  have popped (wanted : Nat) (state : LanePopState ι δ ο ε) (lanes : List (String × Nat))
      (before : property state.store) :
      property (state.popLanes options now wanted lanes).store := by
    induction wanted generalizing state lanes with
    | zero => exact before
    | succ wanted ih =>
      have sought := LanePopState.seekJob_preserves options now property refresh pop retire lanes
        state before
      unfold LanePopState.popLanes
      cases result : state.seekJob options now lanes with
      | mk after next =>
        rw [result] at sought
        cases next with
        | none => exact sought
        | some next => exact ih after next sought
  exact popped batchSize _ _ (swept _ _ holds)

/-- Pushing another id keeps a job's views. -/
theorem MultilaneStore.laneView_push_of_ne (store : MultilaneStore ι δ ο ε) (now : Nat)
    (pushed : String) (job : JobOptions ι δ) (different : id ≠ job.id) (laneId : String) :
    (store.pushToLane now pushed job).2.laneView laneId id = store.laneView laneId id := by
  have apart : ¬job.id = id := fun same => different same.symm
  unfold pushToLane
  dsimp only
  split
  · rfl
  · split <;> by_cases same : laneId = pushed <;>
      simp [laneView, laneKeys, Store.view, different, apart, same, AList.lookup_insert_ne]

/-- What the push script writes over whatever is left of an earlier job. -/
def JobView.stored (now : Nat) (pushed : String) (job : JobOptions ι δ)
    (view : JobView ι δ ο ε) : JobView ι δ ο ε :=
  let delay := job.delay.getD ⟨.zero, .last⟩
  { view with
    data := some job.data
    deduped := True
    info := { view.info with
      createdAt := some now
      attempts := some 0
      laneId := some pushed
      reentryPosition :=
        if 0 < delayToQueueSeconds delay.delay then some delay.position
        else view.info.reentryPosition } }

/-- A push of an id outside the dedupe set, seen from another lane. -/
theorem MultilaneStore.laneView_push_away (store : MultilaneStore ι δ ο ε) (now : Nat)
    {pushed laneId : String} (job : JobOptions ι δ) (fresh : job.id ∉ store.dedupe)
    (away : laneId ≠ pushed) :
    (store.pushToLane now pushed job).2.laneView laneId job.id =
      (store.laneView laneId job.id).stored now pushed job := by
  unfold pushToLane JobView.stored
  dsimp only
  rw [if_neg fresh]
  split <;> simp [laneView, laneKeys, Store.view, away]

/-- A push of an id outside the dedupe set, seen from its lane. -/
theorem MultilaneStore.laneView_push_home (store : MultilaneStore ι δ ο ε) (now : Nat)
    (pushed : String) (job : JobOptions ι δ) (fresh : job.id ∉ store.dedupe) :
    (store.pushToLane now pushed job).2.laneView pushed job.id =
      let stored := (store.laneView pushed job.id).stored now pushed job
      let delaySecs := delayToQueueSeconds (job.delay.getD ⟨.zero, .last⟩).delay
      if 0 < delaySecs then { stored with delayed := some (now + delaySecs) }
      else { stored with pending := stored.pending + 1 } := by
  unfold pushToLane JobView.stored
  dsimp only
  rw [if_neg fresh]
  split <;> simp [laneView, laneKeys, Store.view, List.count_append]

/-- A settled id outside the dedupe set is live in no lane and has no live lease key. -/
theorem MultilaneStore.Settled.dead (settled : store.Settled id) (fresh : id ∉ store.dedupe) :
    (∀ laneId, (store.laneView laneId id).live = 0) ∧ store.leases id = ∅ := by
  have dead (laneId : String) : (store.laneView laneId id).live = 0 := by
    by_contra present
    have named := settled.home laneId (Nat.pos_of_ne_zero present)
    exact fresh ((settled.guarded laneId named).known (Nat.pos_of_ne_zero present))
  refine ⟨dead, ?_⟩
  cases lane : (store.jobMeta id).laneId with
  | none => exact congrArg JobView.leases (settled.blank lane "")
  | some laneId =>
    exact (settled.guarded laneId lane).leases_empty (JobView.idle_of_live (dead laneId))

/-- Pushing a settled id that is not in the dedupe set settles it in the lane of the push. -/
theorem MultilaneStore.Settled.push_self {job : JobOptions ι δ} (settled : store.Settled job.id)
    (fresh : job.id ∉ store.dedupe) (now : Nat) (pushed : String) :
    (store.pushToLane now pushed job).2.Settled job.id := by
  obtain ⟨dead, bare⟩ := settled.dead fresh
  have home := store.laneView_push_home now pushed job fresh
  have info : ((store.pushToLane now pushed job).2.jobMeta job.id).laneId = some pushed := by
    have laneId := congrArg (·.info.laneId) home
    dsimp only at laneId
    split at laneId <;> exact laneId
  refine ⟨?_, ?_, ?_⟩
  · intro laneId present
    by_cases same : laneId = pushed
    · rw [same, info]
    · rw [store.laneView_push_away now job fresh same] at present
      have before : 0 < (store.laneView laneId job.id).live := present
      rw [dead laneId] at before
      exact absurd before (Nat.lt_irrefl 0)
  · intro laneId named
    rw [info] at named
    rw [← Option.some.inj named, home]
    have before := dead pushed
    unfold JobView.live at before
    have noLease (token : LeaseToken ι) (issued : token ∈ store.leases job.id) : False := by
      rw [bare] at issued
      exact Finset.notMem_empty token issued
    have idle := JobView.idle_of_live (dead pushed)
    dsimp only
    split
    · have one : ({ (store.laneView pushed job.id).stored now pushed job with
          delayed := some (now + delayToQueueSeconds
            (job.delay.getD ⟨.zero, .last⟩).delay) } : JobView ι δ ο ε).live = 1 := by
        simp only [JobView.live, JobView.stored, Option.isSome_some, Bool.toNat_true]
        omega
      exact
        { one := one.le
          known := fun _ => trivial
          stored := rfl
          popped := fun finished => absurd finished (by simp [JobView.stored, idle])
          held := fun token issued => (noLease token issued).elim }
    · have one : ({ (store.laneView pushed job.id).stored now pushed job with
          pending := (store.laneView pushed job.id).pending + 1 } : JobView ι δ ο ε).live = 1 := by
        simp only [JobView.live, JobView.stored]
        omega
      exact
        { one := one.le
          known := fun _ => trivial
          stored := rfl
          popped := fun finished => absurd finished (by simp [JobView.stored, idle])
          held := fun token issued => (noLease token issued).elim }
  · intro missing
    rw [info] at missing
    contradiction

/-- A single-lane operation on the keys of a job's lane keeps every job settled. -/
theorem MultilaneStore.Settled.stepLane (settled : store.Settled id) (options : QueueOptions)
    {laneId : String} {target : ι} (named : (store.jobMeta target).laneId = some laneId)
    (op : Op ι δ ο ε)
    (caused : ∀ event, op.Causes id event → target = id ∧
      ((∃ now, event = .cancelNow now) ∨ event = .cancelLater ∨
        ∃ now job result, event = .complete now job result)) :
    (store.writeKeys laneId ((store.laneKeys laneId).step options op)).Settled id := by
  apply settled.writeKeys
  · intro here
    exact (store.laneKeys laneId).step_preserves options op id
      (fun view => view.Guarded ∧ view.info.laneId = some laneId)
      (fun view event holds caused_ enabled => by
        have next := holds.1.apply options id (.inr (caused event caused_).2) enabled
        exact ⟨next.1, next.2.trans holds.2⟩)
      ⟨settled.guarded laneId here, here⟩
  · intro away
    refine (store.laneKeys laneId).step_preserves options op id
      (fun view => view = store.laneView laneId id) ?_ rfl
    intro view event same caused_ enabled
    have own := (caused event caused_).1
    exact absurd (own ▸ named) away

/-- Every operation but a prune keeps a job settled. -/
theorem MultilaneStore.Settled.step (settled : store.Settled id) (options : QueueOptions)
    (op : LaneOp ι δ ο ε) (kept : op ≠ .postSuccess ∧ op ≠ .postFail) :
    (store.step options op).Settled id := by
  cases op with
  | push now pushed job =>
    by_cases known : job.id ∈ store.dedupe
    · have unchanged : (store.pushToLane now pushed job).2 = store := by
        simp [pushToLane, known]
      rw [MultilaneStore.step, unchanged]
      exact settled
    · by_cases same : id = job.id
      · subst same
        exact settled.push_self known now pushed
      · exact settled.of_same fun laneId => store.laneView_push_of_ne now pushed job same laneId
  | pop now batchSize =>
    exact store.popBatchJobs_preserves options now (·.Settled id)
      (fun state target before => state.settled_sweepCancellation before now target)
      (fun state laneId before => state.settled_refreshLane before now laneId)
      (fun store laneId before => before.popJobFromLane options now laneId)
      (fun store laneId before => before.of_same (store.laneView_retireLane laneId))
      batchSize settled
  | complete now job result =>
    simp only [MultilaneStore.step, completeJob]
    split
    · exact settled
    · rename_i laneId named
      refine settled.stepLane options named (.complete now job result) ?_
      rintro event ⟨own, rfl⟩
      exact ⟨own, .inr (.inr ⟨now, job, result, rfl⟩)⟩
  | expireLease target token =>
    by_cases same : id = target
    · subst same
      refine settled.of_views (fun view => { view with leases := view.leases.erase token }) ?_ rfl
        (fun _ => rfl) ?_ fun _ => rfl
      · intro laneId
        simp [MultilaneStore.step, expireLease, laneView, laneKeys, Store.view]
      · intro view guarded
        exact guarded.noted rfl rfl rfl rfl rfl rfl rfl (Finset.erase_subset _ _)
    · refine settled.of_same fun laneId => ?_
      simp [MultilaneStore.step, expireLease, laneView, laneKeys, Store.view, same]
  | cancel now target =>
    simp only [MultilaneStore.step, cancelJob]
    split
    · exact settled
    · rename_i laneId named
      refine settled.stepLane options named (.cancel now target) ?_
      rintro event ⟨own, cancelled⟩
      rcases cancelled with rfl | rfl
      · exact ⟨own, .inl ⟨now, rfl⟩⟩
      · exact ⟨own, .inr (.inl rfl)⟩
  | postSuccess => exact absurd rfl kept.1
  | postFail => exact absurd rfl kept.2

/-- No reply is `nil`, so a job with a lane is never deleted by a prune. -/
theorem MultilaneStore.shouldDelete_of_lane {laneId : String}
    (named : (store.jobMeta id).laneId = some laneId) : store.shouldDelete id = false := by
  have position (reply : Redis.Reply) : reply.isNotNil = true := by
    cases reply <;> rfl
  simp only [shouldDelete, named, isQueued, position, Bool.or_true, Bool.not_true]

/-- An id of the success or the failed list has a lane. -/
theorem MultilaneStore.Settled.lane_of_finished (settled : store.Settled id)
    (finished : id ∈ store.success ∨ id ∈ store.failed) :
    ∃ laneId, (store.jobMeta id).laneId = some laneId := by
  cases named : (store.jobMeta id).laneId with
  | some laneId => exact ⟨laneId, rfl⟩
  | none =>
    have blank := settled.blank named ""
    have success : store.success.count id = 0 := congrArg JobView.success blank
    have failed : store.failed.count id = 0 := congrArg JobView.failed blank
    rcases finished with member | member
    · exact absurd member (List.count_eq_zero.mp success)
    · exact absurd member (List.count_eq_zero.mp failed)

/-- A prune over finished ids deletes nothing. -/
theorem MultilaneStore.foldl_prune
    {prune : MultilaneStore ι δ ο ε → ι → MultilaneStore ι δ ο ε}
    (spares : ∀ target, store.shouldDelete target = false → prune store target = store)
    (settled : ∀ id, store.Settled id) (ids : List ι)
    (finished : ∀ target ∈ ids, target ∈ store.success ∨ target ∈ store.failed) :
    ids.foldl prune store = store := by
  induction ids with
  | nil => rfl
  | cons target rest ih =>
    obtain ⟨laneId, named⟩ :=
      (settled target).lane_of_finished (finished target List.mem_cons_self)
    rw [List.foldl_cons, spares target (store.shouldDelete_of_lane named)]
    exact ih fun later member => finished later (List.mem_cons_of_mem _ member)

/-- The success prune of a settled queue trims the success list and nothing else. -/
theorem MultilaneStore.postSuccess_eq (settled : ∀ id, store.Settled id) (options : QueueOptions) :
    store.postSuccessCompletion options = store ∨
      store.postSuccessCompletion options = { store with
        success := Redis.ltrim store.success 0 ((options.maxSuccess : Int) - 1) } := by
  unfold postSuccessCompletion
  dsimp only
  split
  · rw [MultilaneStore.foldl_prune (fun target spared => by
      simp only [pruneSucceeded, spared, Bool.false_eq_true, ↓reduceIte]) settled]
    · exact .inr rfl
    · intro target member
      rw [Redis.lrange_from] at member
      exact .inl (List.mem_of_mem_drop member)
  · exact .inl rfl

/-- The failed prune of a settled queue trims the failed list and nothing else. -/
theorem MultilaneStore.postFail_eq (settled : ∀ id, store.Settled id) (options : QueueOptions) :
    store.postFailCompletion options = store ∨
      store.postFailCompletion options = { store with
        failed := Redis.ltrim store.failed 0 ((options.maxFailed : Int) - 1) } := by
  unfold postFailCompletion
  dsimp only
  split
  · rw [MultilaneStore.foldl_prune (fun target spared => by
      simp only [pruneFailed, spared, Bool.false_eq_true, ↓reduceIte]) settled]
    · exact .inr rfl
    · intro target member
      rw [Redis.lrange_from] at member
      exact .inr (List.mem_of_mem_drop member)
  · exact .inl rfl

/-- Trimming a finished list keeps a job settled. -/
theorem MultilaneStore.Settled.trimmed (settled : store.Settled id) (success failed : List ι)
    (fewer : success.count id ≤ store.success.count id ∧
      failed.count id ≤ store.failed.count id) :
    ({ store with success, failed } : MultilaneStore ι δ ο ε).Settled id := by
  refine settled.of_views (fun view =>
    { view with success := success.count id, failed := failed.count id }) (fun _ => rfl) rfl
    (fun _ => rfl) ?_ ?_
  · intro view guarded
    exact guarded.noted rfl rfl rfl rfl rfl rfl rfl (Finset.Subset.refl _)
  · intro missing
    have blank := settled.blank missing ""
    have noSuccess : store.success.count id = 0 := congrArg JobView.success blank
    have noFailed : store.failed.count id = 0 := congrArg JobView.failed blank
    have first : success.count id = 0 := by omega
    have second : failed.count id = 0 := by omega
    simp only [first, second, JobView.blank]

/-- Every operation keeps every job settled. -/
theorem MultilaneStore.settled_step (settled : ∀ id, store.Settled id) (options : QueueOptions)
    (op : LaneOp ι δ ο ε) (id : ι) : (store.step options op).Settled id := by
  by_cases success : op = .postSuccess
  · subst success
    rcases MultilaneStore.postSuccess_eq settled options with same | trimmed
    · rw [MultilaneStore.step, same]
      exact settled id
    · rw [MultilaneStore.step, trimmed]
      exact (settled id).trimmed _ store.failed ⟨Redis.count_ltrim_le _ _ _, le_rfl⟩
  · by_cases failed : op = .postFail
    · subst failed
      rcases MultilaneStore.postFail_eq settled options with same | trimmed
      · rw [MultilaneStore.step, same]
        exact settled id
      · rw [MultilaneStore.step, trimmed]
        exact (settled id).trimmed store.success _ ⟨le_rfl, Redis.count_ltrim_le _ _ _⟩
    · exact (settled id).step options op ⟨success, failed⟩

/-- No id of the empty store was ever pushed. -/
theorem MultilaneStore.settled_empty (id : ι) :
    (MultilaneStore.empty : MultilaneStore ι δ ο ε).Settled id where
  home _ present := absurd present (Nat.lt_irrefl 0)
  guarded _ named := by simp [MultilaneStore.empty] at named
  blank _ laneId := by
    simp [MultilaneStore.laneView, MultilaneStore.laneKeys, MultilaneStore.empty, Store.view,
      JobView.blank]

/-- After every run every job is settled. -/
theorem MultilaneStore.settled_run (options : QueueOptions) (ops : List (LaneOp ι δ ο ε))
    (id : ι) :
    (Transition.run (MultilaneStore.step options) MultilaneStore.empty ops).Settled id := by
  refine Transition.run_always (fun store : MultilaneStore ι δ ο ε => ∀ id, store.Settled id) ?_ _
    ops MultilaneStore.settled_empty id
  intro store op settled
  exact MultilaneStore.settled_step settled options op

end OpenEngine.Queue
