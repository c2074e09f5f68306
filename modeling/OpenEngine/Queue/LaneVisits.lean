import OpenEngine.Queue.LaneLoop
import OpenEngine.Queue.OneLane

/-!
# What a visit to a lane takes

The jobs a batch can take from a lane are the pending ones and, unless it was visited in this
second, those whose lease is gone and those that are due. A visit takes one of them if there is one
and all have their data: it becomes active under a lease of this second, and neither the other jobs
nor the other lanes notice.
-/

namespace OpenEngine.Queue

variable {ι δ ο ε : Type}

/-- The ids of one lane among the jobs handed out. -/
def takenFrom (laneId : String) (jobs : List (String × BorrowedJob ι δ)) : List ι :=
  (jobs.filter fun entry => entry.1 = laneId).map fun entry => entry.2.job.id

/-- One job more. -/
theorem takenFrom_cons (laneId other : String) (job : BorrowedJob ι δ)
    (jobs : List (String × BorrowedJob ι δ)) :
    takenFrom laneId ((other, job) :: jobs) =
      if other = laneId then job.job.id :: takenFrom laneId jobs else takenFrom laneId jobs := by
  unfold takenFrom
  by_cases same : other = laneId
  · rw [if_pos same, List.filter_cons_of_pos (by simpa using same), List.map_cons]
  · rw [if_neg same, List.filter_cons_of_neg (by simpa using same)]

/-- The jobs of a lane are those it is served with. -/
theorem length_takenFrom (laneId : String) (jobs : List (String × BorrowedJob ι δ)) :
    (takenFrom laneId jobs).length = servedFrom laneId jobs := by
  unfold takenFrom servedFrom
  rw [List.length_map, List.countP_eq_length_filter]

/-- A job that was handed out is taken from its lane. -/
theorem mem_takenFrom {entry : String × BorrowedJob ι δ} {jobs : List (String × BorrowedJob ι δ)}
    (member : entry ∈ jobs) : entry.2.job.id ∈ takenFrom entry.1 jobs := by
  unfold takenFrom
  exact List.mem_map.mpr ⟨entry, List.mem_filter.mpr ⟨member, by simp⟩, rfl⟩

/-- A job is active in its lane under a lease of a second. -/
structure MultilaneStore.Leased (now : Nat) (store : MultilaneStore ι δ ο ε) (laneId : String)
    (job : BorrowedJob ι δ) : Prop where
  /-- It is in the lane's active hash. -/
  active : job.job.id ∈ (store.lane laneId).active
  /-- Its metadata names the lease it was handed out with. -/
  token : (store.jobMeta job.job.id).leaseToken = some job.leaseToken
  /-- The lease key exists. -/
  live : job.leaseToken ∈ store.leases job.job.id
  /-- The lease was granted at the second. -/
  fresh : job.leaseToken.now = now ∧ job.leaseToken.jobId = job.job.id

variable [LinearOrder ι]

/-- The jobs a batch at a second can take from a lane: of a registered lane the pending ones and,
unless it was visited in that second, those whose lease is gone and those that are due. -/
def MultilaneStore.poppable (store : MultilaneStore ι δ ο ε) (now : Nat) (laneId : String) :
    List ι :=
  match store.lanes.lookup laneId with
  | none => []
  | some lastScore =>
    if lastScore ≠ now then (store.laneKeys laneId).ready now else (store.lane laneId).pending

section Steady

/-- What the cleanup and the promotion leave alone: the data, the lease keys, and which leases are
gone; of a job whose lease is not gone also its token and whether it is active. -/
structure Store.Steady (before after : Store ι δ ο ε) : Prop where
  jobData : after.jobData = before.jobData
  leases : after.leases = before.leases
  gone : ∀ id, (after.view id).LeaseGone ↔ (before.view id).LeaseGone
  token : ∀ id, ¬(before.view id).LeaseGone →
    (after.jobMeta id).leaseToken = (before.jobMeta id).leaseToken
  active : ∀ id, ¬(before.view id).LeaseGone → (id ∈ after.active ↔ id ∈ before.active)

variable {first second third : Store ι δ ο ε}

/-- Nothing happens. -/
theorem Store.Steady.refl (store : Store ι δ ο ε) : store.Steady store :=
  ⟨rfl, rfl, fun _ => Iff.rfl, fun _ _ => rfl, fun _ _ => Iff.rfl⟩

/-- One after the other. -/
theorem Store.Steady.trans (one : first.Steady second) (two : second.Steady third) :
    first.Steady third where
  jobData := two.jobData.trans one.jobData
  leases := two.leases.trans one.leases
  gone id := (two.gone id).trans (one.gone id)
  token id held :=
    (two.token id fun gone => held ((one.gone id).mp gone)).trans (one.token id held)
  active id held :=
    (two.active id fun gone => held ((one.gone id).mp gone)).trans (one.active id held)

/-- A phase of the pop script whose every turn is steady is steady. -/
theorem PopState.steady_foldl (phase : PopState ι δ ο ε → ι → PopState ι δ ο ε)
    (steady : ∀ (state : PopState ι δ ο ε) id, state.store.Steady (phase state id).store)
    (ids : List ι) (state : PopState ι δ ο ε) :
    state.store.Steady (ids.foldl phase state).store := by
  induction ids generalizing state with
  | nil => exact .refl _
  | cons id rest ih => exact (steady state id).trans (ih (phase state id))

/-- Step 1 for one job. -/
theorem PopState.steady_cleanupLease (state : PopState ι δ ο ε) (id : ι) :
    state.store.Steady (state.cleanupLease id).store := by
  rw [state.cleanupLease_eq]
  split
  · rename_i gone
    have apart {other : ι} (held : ¬(state.store.view other).LeaseGone) : other ≠ id :=
      fun same => held (same ▸ gone)
    refine ⟨rfl, rfl, fun other => ?_, fun other held => ?_, fun other held => ?_⟩
    · by_cases same : other = id
      · subst same
        have bare : ((state.requeue other).store.view other).LeaseGone := by
          intro token named
          simp [requeue, Store.view, Store.setMeta] at named
        exact ⟨fun _ => gone, fun _ => bare⟩
      · rw [state.view_requeue {}, if_neg same]
    · simp only [requeue, Store.setMeta, Function.update_of_ne (apart held)]
    · simp [requeue, Store.setMeta, AList.mem_erase, apart held]
  · exact .refl _

/-- Step 3 for one job. -/
theorem PopState.steady_promoteDelayed (state : PopState ι δ ο ε) (id : ι) :
    state.store.Steady (state.promoteDelayed id).store := by
  have tokens (other : ι) : ((state.promoteDelayed id).store.jobMeta other).leaseToken =
      (state.store.jobMeta other).leaseToken := by
    unfold promoteDelayed
    by_cases same : other = id
    · subst same
      dsimp only
      split <;> simp [Store.setMeta]
    · dsimp only
      split <;> simp [Store.setMeta, Function.update_of_ne same]
  have leases : (state.promoteDelayed id).store.leases = state.store.leases := by
    unfold promoteDelayed
    dsimp only
    split <;> rfl
  refine ⟨?_, leases, fun other => ?_, fun other _ => tokens other, fun other _ => ?_⟩
  · unfold promoteDelayed
    dsimp only
    split <;> rfl
  · simp only [JobView.LeaseGone, Store.view, tokens other, leases]
  · rw [(state.lists_promoteDelayed id).2.2]

/-- The cleanup and the promotion are steady. -/
theorem Store.steady_readied (store : Store ι δ ο ε) (now : Nat) :
    store.Steady (store.readied now) := by
  have cleaned : store.Steady store.cleaned :=
    PopState.steady_foldl PopState.cleanupLease PopState.steady_cleanupLease store.active.keys
      { store }
  exact cleaned.trans (PopState.steady_foldl PopState.promoteDelayed
    PopState.steady_promoteDelayed _ { store := store.cleaned })

end Steady

section Visits

variable (options : QueueOptions) (now : Nat)

/-- What a visit to a lane does that takes the given ids. -/
structure LanePopState.VisitTakes (taken : List ι) (laneId : String)
    (state after : LanePopState ι δ ο ε) : Prop where
  /-- The other lanes keep their keys. -/
  lane : ∀ other ≠ laneId, after.store.lane other = state.store.lane other
  /-- The other lanes keep their scores. -/
  score : ∀ other ≠ laneId, after.store.lanes.lookup other = state.store.lanes.lookup other
  /-- The data stays. -/
  jobData : after.store.jobData = state.store.jobData
  /-- The leases of the jobs not taken are gone if they were. -/
  gone : ∀ lane, ∀ id ∉ taken, ((after.store.laneKeys lane).view id).LeaseGone ↔
    ((state.store.laneKeys lane).view id).LeaseGone
  /-- The leases of the jobs taken are not gone. -/
  held : ∀ lane, ∀ id ∈ taken, ¬((after.store.laneKeys lane).view id).LeaseGone
  /-- A job not taken stays leased. -/
  leased : ∀ lane job, job.job.id ∉ taken → state.store.Leased now lane job →
    after.store.Leased now lane job
  /-- The jobs taken leave the lane. -/
  poppable : (taken ++ after.store.poppable now laneId).Perm (state.store.poppable now laneId)
  /-- A pending job not taken stays pending. -/
  pending : ∀ id ∈ (state.store.lane laneId).pending,
    id ∈ taken ∨ id ∈ (after.store.lane laneId).pending

/-- Of a lane visited in this second the pending jobs can be taken. -/
theorem MultilaneStore.poppable_visited {now : Nat} {store : MultilaneStore ι δ ο ε}
    {laneId : String} (scored : store.lanes.lookup laneId = some now) :
    store.poppable now laneId = (store.lane laneId).pending := by
  rw [poppable, scored]
  exact if_neg (not_not.mpr rfl)

/-- What can be taken from a lane depends on its score, its keys and which leases are gone. -/
theorem MultilaneStore.poppable_congr {now : Nat} {store after : MultilaneStore ι δ ο ε}
    {laneId : String} (score : after.lanes.lookup laneId = store.lanes.lookup laneId)
    (lane : after.lane laneId = store.lane laneId)
    (gone : ∀ lastScore, store.lanes.lookup laneId = some lastScore → lastScore ≠ now →
      ∀ id ∈ (store.lane laneId).active.keys, ((after.laneKeys laneId).view id).LeaseGone ↔
        ((store.laneKeys laneId).view id).LeaseGone) :
    after.poppable now laneId = store.poppable now laneId := by
  unfold poppable
  rw [score]
  cases scored : store.lanes.lookup laneId with
  | none => rfl
  | some lastScore =>
    dsimp only
    by_cases unvisited : lastScore ≠ now
    · have lapsed : (after.laneKeys laneId).lapsed = (store.laneKeys laneId).lapsed := by
        have keys : (after.laneKeys laneId).active = (store.lane laneId).active := by
          rw [← lane]
          rfl
        unfold Store.lapsed
        rw [keys]
        refine List.filter_congr fun id active => ?_
        simp only [gone lastScore scored unvisited id active]
      rw [if_pos unvisited, if_pos unvisited, Store.ready, lapsed]
      simp only [Store.ready, laneKeys, lane]
    · rw [if_neg unvisited, if_neg unvisited, lane]

/-- What the refresh of a lane not visited in this second does. -/
theorem LanePopState.visitTakes_refreshLane (state : LanePopState ι δ ο ε) {laneId : String}
    {lastScore : Nat} (scored : state.store.lanes.lookup laneId = some lastScore)
    (unvisited : lastScore ≠ now) :
    VisitTakes now [] laneId state (state.refreshLane now laneId) := by
  have keys := state.laneKeys_refreshLane now laneId
  have steady := (state.store.laneKeys laneId).steady_readied now
  rw [← keys] at steady
  have ready := (state.store.laneKeys laneId).pending_readied now
  rw [← keys] at ready
  have before : state.store.poppable now laneId = (state.store.laneKeys laneId).ready now := by
    rw [MultilaneStore.poppable, scored]
    exact if_pos unvisited
  have after : (state.refreshLane now laneId).store.poppable now laneId =
      ((state.refreshLane now laneId).store.laneKeys laneId).pending :=
    MultilaneStore.poppable_visited (AList.lookup_insert _)
  have others (other : String) (different : other ≠ laneId) :
      (state.refreshLane now laneId).store.lane other = state.store.lane other := by
    simp only [refreshLane, processDelayedJobs, cleanupLaneLeases, MultilaneStore.writeKeys,
      Function.update_of_ne different]
  refine ⟨others, fun other different => AList.lookup_insert_ne different, steady.jobData,
    fun _ id _ => steady.gone id, fun _ _ none => absurd none List.not_mem_nil, ?_, ?_, ?_⟩
  · intro lane job _ leased
    have holds : ¬((state.store.laneKeys laneId).view job.job.id).LeaseGone := fun gone =>
      gone _ leased.token leased.live
    refine ⟨?_, (steady.token _ holds).trans leased.token, ?_, leased.fresh⟩
    · by_cases same : lane = laneId
      · subst same
        exact (steady.active _ holds).mpr leased.active
      · rw [others lane same]
        exact leased.active
    · rw [show (state.refreshLane now laneId).store.leases = state.store.leases from
        steady.leases]
      exact leased.live
  · rw [before, after]
    exact ready
  · intro id waiting
    right
    refine ready.mem_iff.mpr ?_
    exact List.mem_append_left _ (List.mem_append_left _ waiting)

/-- A visit that takes nothing, and another to the same lane. -/
theorem LanePopState.VisitTakes.then {taken : List ι} {laneId : String}
    {state between after : LanePopState ι δ ο ε}
    (one : VisitTakes now [] laneId state between)
    (two : VisitTakes now taken laneId between after) :
    VisitTakes now taken laneId state after where
  lane other different := (two.lane other different).trans (one.lane other different)
  score other different := (two.score other different).trans (one.score other different)
  jobData := two.jobData.trans one.jobData
  gone lane id absent := (two.gone lane id absent).trans (one.gone lane id List.not_mem_nil)
  held := two.held
  leased lane job absent held :=
    two.leased lane job absent (one.leased lane job List.not_mem_nil held)
  poppable := two.poppable.trans one.poppable
  pending id waiting :=
    two.pending id ((one.pending id waiting).resolve_left List.not_mem_nil)

/-- What a pop from a lane does that finds a job with data. -/
theorem LanePopState.visitTakes_lease (state : LanePopState ι δ ο ε) {laneId : String}
    (scored : state.store.lanes.lookup laneId = some now)
    (positive : 0 < options.leaseDuration.secs) {first : List ι} {target : ι}
    (pending : (state.store.lane laneId).pending = first ++ [target]) (data : δ)
    (after : LanePopState ι δ ο ε) (leased : after.store = state.store.writeKeys laneId
      ({ state.store.laneKeys laneId with pending := first }.leaseFromLane options now target
        data).2) :
    VisitTakes now [target] laneId state after ∧
      after.store.Leased now laneId
        ({ state.store.laneKeys laneId with pending := first }.leaseFromLane options now target
          data).1 := by
  set job := ({ state.store.laneKeys laneId with pending := first }.leaseFromLane options now
    target data).1 with isJob
  have others (other : String) (different : other ≠ laneId) :
      after.store.lane other = state.store.lane other := by
    rw [leased]
    simp only [MultilaneStore.writeKeys, Function.update_of_ne different]
  have here : after.store.lane laneId =
      { pending := first
        delayed := (state.store.lane laneId).delayed
        active := (state.store.lane laneId).active.insert target
          (((state.store.jobMeta target).attempts.getD 0) + 1) } := by
    rw [leased]
    simp [MultilaneStore.writeKeys, Store.leaseFromLane, Store.setMeta, Store.grantLease,
      MultilaneStore.laneKeys, JobMeta.incrAttempts]
  have granted : after.store.Leased now laneId job := by
    refine ⟨?_, ?_, ?_, ?_⟩
    · rw [here]
      exact (AList.mem_insert _).mpr (.inl rfl)
    · rw [leased]
      simp [MultilaneStore.writeKeys, Store.leaseFromLane, Store.setMeta, Store.grantLease, isJob]
    · rw [leased]
      simp [MultilaneStore.writeKeys, Store.leaseFromLane, Store.setMeta, Store.grantLease, isJob,
        positive.ne']
    · exact ⟨rfl, rfl⟩
  have metas (id : ι) (different : id ≠ target) :
      after.store.jobMeta id = state.store.jobMeta id := by
    rw [leased]
    simp [MultilaneStore.writeKeys, Store.leaseFromLane, Store.setMeta, Store.grantLease,
      MultilaneStore.laneKeys, different]
  have leases (id : ι) (different : id ≠ target) :
      after.store.leases id = state.store.leases id := by
    rw [leased]
    simp [MultilaneStore.writeKeys, Store.leaseFromLane, Store.setMeta, Store.grantLease,
      MultilaneStore.laneKeys, different]
  have lanes : after.store.lanes = state.store.lanes := by
    rw [leased]
    rfl
  refine ⟨⟨others, fun other _ => by rw [lanes], ?_, fun lane id absent => ?_,
    fun lane id taken => ?_, fun lane held absent before => ?_, ?_, fun id waiting => ?_⟩, granted⟩
  · rw [leased]
    rfl
  · have different : id ≠ target := fun same => absent (List.mem_singleton.mpr same)
    simp only [JobView.LeaseGone, Store.view, MultilaneStore.laneKeys, metas id different,
      leases id different]
  · rw [List.mem_singleton.mp taken]
    intro gone
    exact gone _ granted.token granted.live
  · have different : held.job.id ≠ target := fun same => absent (List.mem_singleton.mpr same)
    refine ⟨?_, by rw [metas _ different]; exact before.token,
      by rw [leases _ different]; exact before.live, before.fresh⟩
    by_cases same : lane = laneId
    · subst same
      rw [here]
      exact (AList.mem_insert _).mpr (.inr before.active)
    · rw [others lane same]
      exact before.active
  · rw [MultilaneStore.poppable_visited scored,
      MultilaneStore.poppable_visited (by rw [lanes, scored]), here, pending]
    exact (List.perm_append_singleton target first).symm
  · rw [pending] at waiting
    rw [here]
    exact (List.mem_append.mp waiting).symm

/-- What a visit to a lane without a job left does. -/
theorem LanePopState.visitTakes_retireLane (state : LanePopState ι δ ο ε) {laneId : String}
    (scored : state.store.lanes.lookup laneId = some now)
    (empty : (state.store.lane laneId).pending = []) :
    VisitTakes now [] laneId state { state with store := state.store.retireLane laneId } := by
  have none : state.store.poppable now laneId = [] :=
    (MultilaneStore.poppable_visited scored).trans empty
  unfold MultilaneStore.retireLane
  dsimp only
  split
  · refine ⟨fun _ _ => rfl, fun other different => AList.lookup_erase_ne different, rfl,
      fun _ _ _ => Iff.rfl, fun _ _ taken => absurd taken List.not_mem_nil, fun _ _ _ leased => ?_,
      ?_, fun _ waiting => .inr waiting⟩
    · exact ⟨leased.active, leased.token, leased.live, leased.fresh⟩
    · rw [none, MultilaneStore.poppable, AList.lookup_erase]
      exact .refl _
  · exact ⟨fun _ _ => rfl, fun _ _ => rfl, rfl, fun _ _ _ => Iff.rfl,
      fun _ _ taken => absurd taken List.not_mem_nil, fun _ _ _ leased => leased, .refl _,
      fun _ waiting => .inr waiting⟩

/-- A visit takes a job from a lane, or there is none to take. -/
theorem LanePopState.visitLane_cases {state : LanePopState ι δ ο ε} {laneId : String}
    {lastScore : Nat} (scored : state.store.lanes.lookup laneId = some lastScore)
    (positive : 0 < options.leaseDuration.secs)
    (stored : ∀ id ∈ state.store.poppable now laneId, (state.store.jobData id).isSome) :
    (∃ job after, state.visitLane options now laneId lastScore = (true, after) ∧
      after.resultJobs = state.resultJobs ++ [(laneId, job)] ∧
      after.store.lanes.lookup laneId = some now ∧
      after.store.Leased now laneId job ∧ VisitTakes now [job.job.id] laneId state after) ∨
    ∃ after, state.visitLane options now laneId lastScore = (false, after) ∧
      after.resultJobs = state.resultJobs ∧ VisitTakes now [] laneId state after ∧
      state.store.poppable now laneId = [] := by
  obtain ⟨visited, same⟩ : ∃ visited,
      visited = if lastScore ≠ now then state.refreshLane now laneId else state := ⟨_, rfl⟩
  have visit : VisitTakes now [] laneId state visited := by
    subst same
    split
    · rename_i unvisited
      exact state.visitTakes_refreshLane now scored unvisited
    · exact ⟨fun _ _ => rfl, fun _ _ => rfl, rfl, fun _ _ _ => Iff.rfl,
        fun _ _ taken => absurd taken List.not_mem_nil, fun _ _ _ leased => leased, .refl _,
        fun _ waiting => .inr waiting⟩
  have told : visited.resultJobs = state.resultJobs := by
    subst same
    split <;> rfl
  have stamped : visited.store.lanes.lookup laneId = some now := by
    subst same
    split
    · exact AList.lookup_insert _
    · rename_i score
      rw [scored, not_not.mp score]
  have ready := visit.poppable
  rw [List.nil_append, MultilaneStore.poppable_visited stamped] at ready
  rw [visitLane, ← same]
  rcases visited.store.popJobFromLane_cases options now laneId with
    ⟨empty, popped⟩ | ⟨first, target, pending, missing, -⟩ |
      ⟨first, target, data, pending, had, popped⟩
  · refine .inr ⟨{ visited with store := visited.store.retireLane laneId }, ?_, told,
      visit.then now (visited.visitTakes_retireLane now stamped empty), ?_⟩
    · rw [popped]
    · rw [empty] at ready
      exact ready.symm.eq_nil
  · have waiting : target ∈ state.store.poppable now laneId := by
      rw [← ready.mem_iff, pending]
      exact List.mem_append_right _ List.mem_cons_self
    have found := stored target waiting
    rw [← visit.jobData, missing] at found
    contradiction
  · rw [popped]
    obtain ⟨takes, leased⟩ := visited.visitTakes_lease options now stamped positive pending data
      { visited with
        store := visited.store.writeKeys laneId
          ({ visited.store.laneKeys laneId with pending := first }.leaseFromLane options now target
            data).2
        resultJobs := visited.resultJobs ++ [(laneId,
          ({ visited.store.laneKeys laneId with pending := first }.leaseFromLane options now target
            data).1)] } rfl
    exact .inl ⟨_, _, rfl, by rw [told], stamped, leased, visit.then now takes⟩

/-- A visit to one lane leaves what can be taken from the others. -/
theorem LanePopState.VisitTakes.poppable_other {taken : List ι} {laneId other : String}
    {state after : LanePopState ι δ ο ε} (visit : VisitTakes now taken laneId state after)
    (different : other ≠ laneId) (apart : ∀ id ∈ taken, id ∉ state.store.poppable now other) :
    after.store.poppable now other = state.store.poppable now other := by
  refine MultilaneStore.poppable_congr (visit.score other different)
    (visit.lane other different) fun lastScore scored unvisited id active => ?_
  by_cases inTaken : id ∈ taken
  · have held := visit.held other id inTaken
    have before : ¬((state.store.laneKeys other).view id).LeaseGone := by
      intro gone
      refine apart id inTaken ?_
      rw [MultilaneStore.poppable, scored]
      dsimp only
      rw [if_pos unvisited]
      refine List.mem_append_left _ (List.mem_append_right _ ?_)
      exact List.mem_filter.mpr ⟨active, decide_eq_true gone⟩
    exact iff_of_false held before
  · exact visit.gone other id inTaken

end Visits

end OpenEngine.Queue
