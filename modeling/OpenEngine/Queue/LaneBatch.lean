import OpenEngine.RoundRobin
import OpenEngine.Queue.LaneVisits
import OpenEngine.Queue.LaneFairness

/-!
# What a batch takes

While the jobs a multilane batch can take are distinct and have their data, it takes as many of them
as it is asked for, or all. Each is active under a lease of this second afterwards, the others stay
where a later batch finds them, and the lanes are served in turn. So it is in every reachable state
if leases last a second. But a due id without data counts as an empty lane, an id both pending and
active without a lease is taken twice, and a lease of less than a second does not stand.
-/

namespace OpenEngine.Queue

variable {ι δ ο ε : Type} [LinearOrder ι]

/-- The jobs a batch at a second can take. -/
def MultilaneStore.pool (store : MultilaneStore ι δ ο ε) (now : Nat) : List ι :=
  store.lanes.keys.flatMap (store.poppable now)

/-- A batch took what it was asked for, in turn and without losing a job. -/
structure MultilaneStore.Balanced (store : MultilaneStore ι δ ο ε) (now batchSize : Nat)
    (final : LanePopState ι δ ο ε) : Prop where
  /-- As many jobs as asked for, or all there are. -/
  count : final.resultJobs.length = min batchSize (store.pool now).length
  /-- No job twice. -/
  distinct : (final.resultJobs.map fun entry => entry.2.job.id).Nodup
  /-- Every job is active in its lane under a fresh lease. -/
  leased : ∀ entry ∈ final.resultJobs, final.store.Leased now entry.1 entry.2
  /-- Of each lane the jobs taken and those that can still be taken are those that could be taken
  before. -/
  kept : ∀ laneId, (takenFrom laneId final.resultJobs ++ final.store.poppable now laneId).Perm
    (store.poppable now laneId)
  /-- A pending job was taken or is still pending in its lane. -/
  pending : ∀ laneId, ∀ id ∈ (store.lane laneId).pending,
    id ∈ takenFrom laneId final.resultJobs ∨ id ∈ (final.store.lane laneId).pending
  /-- Two lanes with pending jobs left were served equally often, or one of them once more. -/
  level : ∀ first second, (final.store.lane first).pending ≠ [] →
    (final.store.lane second).pending ≠ [] →
    servedFrom first final.resultJobs ≤ servedFrom second final.resultJobs + 1

section Turns

variable (options : QueueOptions) (now : Nat)

/-- What a batch finds between two visits: the lanes of the turn with their scores, nothing to take
in any other lane, no job that can be taken twice, and data for every job that can be taken. -/
structure LanePopState.Prepared (lanes : List (String × Nat)) (state : LanePopState ι δ ο ε) :
    Prop where
  names : (lanes.map Prod.fst).Nodup
  scored : ∀ entry ∈ lanes, state.store.lanes.lookup entry.1 = some entry.2
  others : ∀ laneId ∉ lanes.map Prod.fst, state.store.poppable now laneId = []
  single : ∀ laneId, (state.store.poppable now laneId).Nodup
  apart : ∀ first second, first ≠ second → ∀ id ∈ state.store.poppable now first,
    id ∉ state.store.poppable now second
  stored : ∀ laneId, ∀ id ∈ state.store.poppable now laneId, (state.store.jobData id).isSome

/-- What a batch over some lanes does that hands out some jobs. -/
structure LanePopState.Serves (wanted : Nat) (lanes : List (String × Nat))
    (state final : LanePopState ι δ ο ε) (jobs : List (String × BorrowedJob ι δ)) : Prop where
  /-- The jobs are told behind the earlier ones. -/
  told : final.resultJobs = state.resultJobs ++ jobs
  /-- The lanes are served in turn. -/
  names : jobs.map Prod.fst = RoundRobin.serve wanted
    (lanes.map fun entry => (entry.1, (state.store.poppable now entry.1).length))
  /-- The jobs were there to take. -/
  kept : ∀ laneId, (takenFrom laneId jobs ++ final.store.poppable now laneId).Perm
    (state.store.poppable now laneId)
  /-- No job twice. -/
  distinct : (jobs.map fun entry => entry.2.job.id).Nodup
  /-- The jobs are leased. -/
  leased : ∀ entry ∈ jobs, final.store.Leased now entry.1 entry.2
  /-- A leased job that cannot be taken stays leased. -/
  stays : ∀ laneId job, (∀ other, job.job.id ∉ state.store.poppable now other) →
    state.store.Leased now laneId job → final.store.Leased now laneId job
  /-- A pending job is taken or stays pending. -/
  pending : ∀ laneId, ∀ id ∈ (state.store.lane laneId).pending,
    id ∈ takenFrom laneId jobs ∨ id ∈ (final.store.lane laneId).pending

variable {lanes rest : List (String × Nat)} {state after final : LanePopState ι δ ο ε}
  {laneId : String} {lastScore : Nat} {taken : List ι}

/-- What can be taken from the other lanes of a prepared batch stays as it is. -/
theorem LanePopState.Prepared.poppable_other (prepared : state.Prepared now lanes)
    (visit : VisitTakes now taken laneId state after) {other : String}
    (different : other ≠ laneId) :
    after.store.poppable now other = state.store.poppable now other := by
  refine visit.poppable_other now different fun id inTaken => ?_
  exact prepared.apart laneId other different.symm id
    (visit.poppable.subset (List.mem_append_left _ inTaken))

/-- A visit makes nothing new to take. -/
theorem LanePopState.Prepared.poppable_subset (prepared : state.Prepared now lanes)
    (visit : VisitTakes now taken laneId state after) (other : String) :
    after.store.poppable now other ⊆ state.store.poppable now other := by
  by_cases same : other = laneId
  · subst same
    exact fun id member => visit.poppable.subset (List.mem_append_right _ member)
  · rw [prepared.poppable_other now visit same]
    exact List.Subset.refl _

/-- A batch stays prepared for the lanes that are left in the turn. -/
theorem LanePopState.Prepared.visit (prepared : state.Prepared now lanes)
    (visit : VisitTakes now taken laneId state after) {next : List (String × Nat)}
    (names : (next.map Prod.fst).Nodup)
    (scored : ∀ entry ∈ next, after.store.lanes.lookup entry.1 = some entry.2)
    (others : ∀ other ∉ next.map Prod.fst, after.store.poppable now other = []) :
    after.Prepared now next where
  names := names
  scored := scored
  others := others
  single other := by
    by_cases same : other = laneId
    · subst same
      have whole := visit.poppable.nodup_iff.mpr (prepared.single other)
      exact (List.nodup_append.mp whole).2.1
    · rw [prepared.poppable_other now visit same]
      exact prepared.single other
  apart first second different id one two :=
    prepared.apart first second different id (prepared.poppable_subset now visit first one)
      (prepared.poppable_subset now visit second two)
  stored other id member := by
    rw [visit.jobData]
    exact prepared.stored other id (prepared.poppable_subset now visit other member)

/-- A batch is prepared for its next turn when its first lane gave a job. -/
theorem LanePopState.Prepared.gave (prepared : state.Prepared now ((laneId, lastScore) :: rest))
    (visit : VisitTakes now taken laneId state after)
    (stamped : after.store.lanes.lookup laneId = some now) :
    after.Prepared now (rest ++ [(laneId, now)]) := by
  obtain ⟨absent, restNames⟩ := List.nodup_cons.mp prepared.names
  have apart {entry : String × Nat} (member : entry ∈ rest) : entry.1 ≠ laneId := fun same =>
    absent (List.mem_map.mpr ⟨entry, member, same⟩)
  have same : ((rest ++ [(laneId, now)]).map Prod.fst).Perm
      (((laneId, lastScore) :: rest).map Prod.fst) := by
    rw [List.map_append, List.map_cons, List.map_nil]
    exact List.perm_append_singleton _ _
  refine prepared.visit now visit (same.nodup_iff.mpr prepared.names) ?_ ?_
  · intro entry member
    rcases List.mem_append.mp member with inRest | last
    · rw [visit.score _ (apart inRest)]
      exact prepared.scored entry (List.mem_cons_of_mem _ inRest)
    · rw [List.mem_singleton.mp last]
      exact stamped
  · intro other unlisted
    have none := prepared.others other fun listed => unlisted (same.mem_iff.mpr listed)
    exact List.subset_nil.mp (none ▸ prepared.poppable_subset now visit other)

/-- A batch is prepared for its next turn when its first lane gave no job. -/
theorem LanePopState.Prepared.passed
    (prepared : state.Prepared now ((laneId, lastScore) :: rest))
    (visit : VisitTakes now taken laneId state after)
    (empty : state.store.poppable now laneId = []) : after.Prepared now rest := by
  obtain ⟨absent, restNames⟩ := List.nodup_cons.mp prepared.names
  have apart {entry : String × Nat} (member : entry ∈ rest) : entry.1 ≠ laneId := fun same =>
    absent (List.mem_map.mpr ⟨entry, member, same⟩)
  refine prepared.visit now visit restNames ?_ ?_
  · intro entry member
    rw [visit.score _ (apart member)]
    exact prepared.scored entry (List.mem_cons_of_mem _ member)
  · intro other unlisted
    have none : state.store.poppable now other = [] := by
      by_cases same : other = laneId
      · rw [same, empty]
      · refine prepared.others other fun listed => ?_
        rcases List.mem_cons.mp listed with first | inRest
        · exact same first
        · exact unlisted inRest
    exact List.subset_nil.mp (none ▸ prepared.poppable_subset now visit other)

/-- A batch that serves nobody. -/
theorem LanePopState.Serves.idle {wanted : Nat} (served : RoundRobin.serve wanted
      (lanes.map fun entry => (entry.1, (state.store.poppable now entry.1).length)) = []) :
    Serves now wanted lanes state state [] where
  told := (List.append_nil _).symm
  names := served.symm
  kept _ := .refl _
  distinct := List.nodup_nil
  leased _ member := absurd member List.not_mem_nil
  stays _ _ _ leased := leased
  pending _ _ waiting := .inr waiting

/-- A batch whose first lane gives a job. -/
theorem LanePopState.Serves.gave {wanted : Nat} {jobs : List (String × BorrowedJob ι δ)}
    (prepared : state.Prepared now ((laneId, lastScore) :: rest)) {job : BorrowedJob ι δ}
    (visit : VisitTakes now [job.job.id] laneId state after)
    (told : after.resultJobs = state.resultJobs ++ [(laneId, job)])
    (leased : after.store.Leased now laneId job)
    (later : Serves now wanted (rest ++ [(laneId, now)]) after final jobs) :
    Serves now (wanted + 1) ((laneId, lastScore) :: rest) state final ((laneId, job) :: jobs) := by
  have waiting : job.job.id ∈ state.store.poppable now laneId :=
    visit.poppable.subset (List.mem_append_left _ List.mem_cons_self)
  have gone (other : String) : job.job.id ∉ after.store.poppable now other := by
    by_cases same : other = laneId
    · subst same
      have whole := visit.poppable.nodup_iff.mpr (prepared.single other)
      exact (List.nodup_cons.mp whole).1
    · intro member
      exact prepared.apart laneId other (fun reverse => same reverse.symm) _ waiting
        (prepared.poppable_subset now visit other member)
  refine ⟨?_, ?_, ?_, ?_, ?_, ?_, ?_⟩
  · rw [later.told, told, List.append_assoc, List.singleton_append]
  · have absent := (List.nodup_cons.mp prepared.names).1
    have one : (state.store.poppable now laneId).length =
        (after.store.poppable now laneId).length + 1 := by
      rw [← visit.poppable.length_eq]
      rfl
    have others : (rest.map fun entry => (entry.1, (after.store.poppable now entry.1).length)) =
        rest.map fun entry => (entry.1, (state.store.poppable now entry.1).length) := by
      refine List.map_congr_left fun entry member => ?_
      rw [prepared.poppable_other now visit fun same =>
        absent (List.mem_map.mpr ⟨entry, member, same⟩)]
    rw [List.map_cons, later.names, List.map_append, others]
    simp only [List.map_cons, List.map_nil, one]
    rw [RoundRobin.serve]
  · intro other
    rw [takenFrom_cons]
    by_cases same : laneId = other
    · subst same
      rw [if_pos rfl]
      exact ((later.kept laneId).cons job.job.id).trans visit.poppable
    · rw [if_neg same, ← prepared.poppable_other now visit fun reverse => same reverse.symm]
      exact later.kept other
  · rw [List.map_cons]
    refine List.nodup_cons.mpr ⟨fun member => ?_, later.distinct⟩
    obtain ⟨entry, inJobs, same⟩ := List.mem_map.mp member
    refine gone entry.1 ((later.kept entry.1).subset (List.mem_append_left _ ?_))
    rw [← same]
    exact mem_takenFrom inJobs
  · intro entry member
    rcases List.mem_cons.mp member with rfl | inJobs
    · exact later.stays laneId job gone leased
    · exact later.leased entry inJobs
  · intro other held unavailable before
    refine later.stays other held (fun lane member => ?_) (visit.leased other held ?_ before)
    · exact unavailable lane (prepared.poppable_subset now visit lane member)
    · intro same
      refine unavailable laneId ?_
      rw [List.mem_singleton.mp same]
      exact waiting
  · intro other id pending
    rw [takenFrom_cons]
    by_cases same : laneId = other
    · subst same
      rw [if_pos rfl]
      rcases visit.pending id pending with isTaken | still
      · exact .inl (List.mem_cons.mpr (.inl (List.mem_singleton.mp isTaken)))
      · exact (later.pending laneId id still).imp_left (List.mem_cons_of_mem _)
    · rw [if_neg same]
      rw [← visit.lane other fun reverse => same reverse.symm] at pending
      exact later.pending other id pending

/-- A batch whose first lane gives no job. -/
theorem LanePopState.Serves.passed {wanted : Nat} {jobs : List (String × BorrowedJob ι δ)}
    (prepared : state.Prepared now ((laneId, lastScore) :: rest))
    (visit : VisitTakes now [] laneId state after)
    (told : after.resultJobs = state.resultJobs)
    (empty : state.store.poppable now laneId = [])
    (later : Serves now (wanted + 1) rest after final jobs) :
    Serves now (wanted + 1) ((laneId, lastScore) :: rest) state final jobs := by
  have same (other : String) :
      after.store.poppable now other = state.store.poppable now other := by
    by_cases here : other = laneId
    · rw [here, empty]
      exact List.subset_nil.mp (empty ▸ prepared.poppable_subset now visit laneId)
    · exact prepared.poppable_other now visit here
  refine ⟨?_, ?_, ?_, later.distinct, later.leased, ?_, ?_⟩
  · rw [later.told, told]
  · rw [later.names, List.map_cons, empty, List.length_nil, RoundRobin.serve]
    simp only [same]
  · intro other
    rw [← same other]
    exact later.kept other
  · intro other held unavailable before
    refine later.stays other held (fun lane member => ?_)
      (visit.leased other held List.not_mem_nil before)
    exact unavailable lane (same lane ▸ member)
  · intro other id pending
    by_cases here : other = laneId
    · subst here
      exact later.pending other id ((visit.pending id pending).resolve_left List.not_mem_nil)
    · rw [← visit.lane other here] at pending
      exact later.pending other id pending

/-- A batch over a prepared turn. -/
theorem LanePopState.Prepared.serves (positive : 0 < options.leaseDuration.secs) (wanted : Nat)
    (prepared : state.Prepared now lanes) :
    ∃ jobs, Serves now wanted lanes state (state.popLanes options now wanted lanes) jobs := by
  induction wanted generalizing lanes state with
  | zero =>
    rw [popLanes]
    exact ⟨[], .idle now (by rw [RoundRobin.serve])⟩
  | succ wanted serves =>
    induction lanes generalizing state with
    | nil =>
      rw [popLanes_nil]
      exact ⟨[], .idle now (by rw [List.map_nil, RoundRobin.serve])⟩
    | cons first rest passes =>
      obtain ⟨laneId, lastScore⟩ := first
      rcases state.visitLane_cases options now (prepared.scored _ List.mem_cons_self) positive
          (prepared.stored laneId) with
        ⟨job, after, visited, told, stamped, leased, visit⟩ | ⟨after, visited, told, visit, empty⟩
      · obtain ⟨jobs, later⟩ := serves (prepared.gave now visit stamped)
        rw [popLanes_gave options now visited]
        exact ⟨(laneId, job) :: jobs, later.gave now prepared visit told leased⟩
      · obtain ⟨jobs, later⟩ := passes (prepared.passed now visit empty)
        rw [popLanes_passed options now visited]
        exact ⟨jobs, later.passed now prepared visit told empty⟩

end Turns

section Sweep

variable (now : Nat)

/-- Carrying out the cancellations leaves the data, the leases and what can be taken. -/
theorem LanePopState.sweep_poppable (targets : List ι) (state : LanePopState ι δ ο ε) :
    let swept := targets.foldl (LanePopState.sweepCancellation now) state
    swept.store.jobData = state.store.jobData ∧
      ∀ laneId, swept.store.poppable now laneId = state.store.poppable now laneId := by
  induction targets generalizing state with
  | nil => exact ⟨rfl, fun _ => rfl⟩
  | cons target rest ih =>
    obtain ⟨jobData, poppable⟩ := ih (state.sweepCancellation now target)
    obtain ⟨lanes, lane, -⟩ := LanePopState.sweep_frame now [target] state
    have kept : (state.sweepCancellation now target).store.jobData = state.store.jobData ∧
        (state.sweepCancellation now target).store.leases = state.store.leases ∧
        ∀ id, ((state.sweepCancellation now target).store.jobMeta id).leaseToken =
          (state.store.jobMeta id).leaseToken := by
      unfold sweepCancellation
      dsimp only
      split
      · exact ⟨rfl, rfl, fun _ => rfl⟩
      split
      · exact ⟨rfl, rfl, fun _ => rfl⟩
      split
      · exact ⟨rfl, rfl, fun _ => rfl⟩
      · refine ⟨rfl, rfl, fun id => ?_⟩
        by_cases same : id = target
        · subst same
          simp
        · simp [same]
    refine ⟨jobData.trans kept.1, fun laneId => (poppable laneId).trans ?_⟩
    simp only [List.foldl_cons, List.foldl_nil] at lanes lane
    refine MultilaneStore.poppable_congr (by rw [lanes]) (by rw [lane]) fun _ _ _ id _ => ?_
    simp only [JobView.LeaseGone, Store.view, MultilaneStore.laneKeys, kept.2.1, kept.2.2]

end Sweep

section Batches

variable (options : QueueOptions) (now : Nat) {store : MultilaneStore ι δ ο ε}

/-- Pending jobs of a registered lane can be taken. -/
theorem MultilaneStore.pending_subset_poppable {laneId : String}
    (registered : laneId ∈ store.lanes) :
    (store.lane laneId).pending ⊆ store.poppable now laneId := by
  obtain ⟨lastScore, scored⟩ := Option.isSome_iff_exists.mp (AList.lookup_isSome.mpr registered)
  rw [poppable, scored]
  dsimp only
  split
  · intro id member
    exact List.mem_append_left _ (List.mem_append_left _ member)
  · exact List.Subset.refl _

/-- Jobs can be taken from registered lanes only. -/
theorem MultilaneStore.mem_lanes_of_poppable {laneId : String} {id : ι}
    (member : id ∈ store.poppable now laneId) : laneId ∈ store.lanes := by
  by_contra absent
  rw [poppable, AList.lookup_eq_none.mpr absent] at member
  exact List.not_mem_nil member

/-- The loop of a batch starts prepared. -/
theorem MultilaneStore.prepared (distinct : (store.pool now).Nodup)
    (stored : ∀ id ∈ store.pool now, (store.jobData id).isSome) :
    LanePopState.Prepared now (Redis.zrange store.lanes)
      (store.pendingCancellations.keys.foldl (LanePopState.sweepCancellation now) { store }) := by
  obtain ⟨lanes, -⟩ :=
    LanePopState.sweep_frame now store.pendingCancellations.keys { store }
  obtain ⟨jobData, poppable⟩ :=
    LanePopState.sweep_poppable now store.pendingCancellations.keys { store }
  dsimp only at lanes jobData poppable
  obtain ⟨single, apart⟩ := List.nodup_flatMap.mp distinct
  have listed {laneId : String} {id : ι} (member : id ∈ store.poppable now laneId) :
      laneId ∈ store.lanes.keys := AList.mem_keys.mp (mem_lanes_of_poppable now member)
  have names := Redis.zrange_perm store.lanes
  refine ⟨names.nodup_iff.mpr store.lanes.keys_nodup, ?_, ?_, ?_, ?_, ?_⟩
  · intro entry member
    rw [lanes]
    exact Redis.mem_zrange.mp member
  · intro laneId absent
    rw [poppable]
    refine List.eq_nil_iff_forall_not_mem.mpr fun id member => absent ?_
    exact names.mem_iff.mpr (listed member)
  · intro laneId
    rw [poppable]
    by_cases registered : laneId ∈ store.lanes.keys
    · exact single laneId registered
    · rw [List.eq_nil_iff_forall_not_mem.mpr fun id member => registered (listed member)]
      exact List.nodup_nil
  · intro first second different id one two
    rw [poppable] at one two
    have symmetric : Std.Symm (Function.onFun List.Disjoint (store.poppable now)) :=
      ⟨fun _ _ disjoint => disjoint.symm⟩
    exact apart.forall (listed one) (listed two) different one two
  · intro laneId id member
    rw [poppable] at member
    rw [jobData]
    exact stored id (List.mem_flatMap.mpr ⟨laneId, listed member, member⟩)

/-- A batch over a tidy queue is complete and balanced. -/
theorem MultilaneStore.balanced_popBatchJobs (batchSize : Nat) (registered : store.Registered)
    (distinct : (store.pool now).Nodup)
    (stored : ∀ id ∈ store.pool now, (store.jobData id).isSome)
    (positive : 0 < options.leaseDuration.secs) :
    store.Balanced now batchSize (store.popBatchJobs options now batchSize) := by
  have after := registered.popBatchJobs options now batchSize
  have prepared := MultilaneStore.prepared now distinct stored
  obtain ⟨lanes, lane, told, -⟩ :=
    LanePopState.sweep_frame now store.pendingCancellations.keys { store }
  obtain ⟨-, poppable⟩ :=
    LanePopState.sweep_poppable now store.pendingCancellations.keys { store }
  unfold popBatchJobs at after ⊢
  dsimp only at lanes lane told poppable after ⊢
  set swept := store.pendingCancellations.keys.foldl (LanePopState.sweepCancellation now) { store }
  rw [lanes] at after ⊢
  obtain ⟨jobs, serves⟩ := prepared.serves options now positive batchSize
  set final := swept.popLanes options now batchSize (Redis.zrange store.lanes)
  have result : final.resultJobs = jobs := by
    rw [serves.told, told, List.nil_append]
  have kept (laneId : String) : (takenFrom laneId jobs ++ final.store.poppable now laneId).Perm
      (store.poppable now laneId) := by
    rw [← poppable laneId]
    exact serves.kept laneId
  have names := serves.names
  simp only [poppable] at names
  have entryNames : ((Redis.zrange store.lanes).map fun entry =>
      (entry.1, (store.poppable now entry.1).length)).map Prod.fst =
        (Redis.zrange store.lanes).map Prod.fst := by
    rw [List.map_map]
    rfl
  refine ⟨?_, ?_, ?_, ?_, ?_, ?_⟩
  · have total : (((Redis.zrange store.lanes).map fun entry =>
        (entry.1, (store.poppable now entry.1).length)).map Prod.snd).sum =
          (store.pool now).length := by
      have sizes := ((Redis.zrange_perm store.lanes).map fun laneId =>
        (store.poppable now laneId).length).sum_eq
      rw [List.map_map] at sizes ⊢
      rw [pool, List.length_flatMap]
      exact sizes
    have length := congrArg List.length names
    rw [List.length_map, RoundRobin.length_serve, total] at length
    rw [result, length]
  · rw [result]
    exact serves.distinct
  · rw [result]
    exact serves.leased
  · rw [result]
    exact kept
  · intro laneId id pending
    rw [← lane] at pending
    rw [result]
    exact serves.pending laneId id pending
  · intro first second one two
    have left {laneId : String} (waiting : (final.store.lane laneId).pending ≠ []) :
        (laneId, (store.poppable now laneId).length) ∈
            (Redis.zrange store.lanes).map (fun entry =>
              (entry.1, (store.poppable now entry.1).length)) ∧
          (jobs.map Prod.fst).count laneId < (store.poppable now laneId).length := by
      obtain ⟨id, pending⟩ := List.exists_mem_of_ne_nil _ waiting
      have remains := pending_subset_poppable now (after.of_pending waiting) pending
      have before := (kept laneId).subset (List.mem_append_right _ remains)
      have listed := (Redis.zrange_perm store.lanes).mem_iff.mpr
        (AList.mem_keys.mp (mem_lanes_of_poppable now before))
      obtain ⟨entry, inside, same⟩ := List.mem_map.mp listed
      refine ⟨List.mem_map.mpr ⟨entry, inside, by rw [same]⟩, ?_⟩
      have length := (kept laneId).length_eq
      rw [List.length_append, length_takenFrom, servedFrom_eq] at length
      have some := List.length_pos_of_mem remains
      omega
    obtain ⟨oneListed, oneLeft⟩ := left one
    obtain ⟨twoListed, twoLeft⟩ := left two
    rw [names] at oneLeft twoLeft
    have level := RoundRobin.serve_level batchSize _ (fun _ => 0)
      (by rw [entryNames]; exact prepared.names) (RoundRobin.Level.of_const 0 _) oneListed twoListed
      oneLeft twoLeft
    rw [result, servedFrom_eq, servedFrom_eq, names]
    dsimp only at level
    omega

/-- A job that can be taken from a lane is live there. -/
theorem MultilaneStore.live_of_poppable {laneId : String} {id : ι}
    (member : id ∈ store.poppable now laneId) : 0 < (store.laneView laneId id).live := by
  refine (store.laneKeys laneId).live_of_mem ?_
  rw [poppable] at member
  cases scored : store.lanes.lookup laneId with
  | none =>
    rw [scored] at member
    exact absurd member List.not_mem_nil
  | some lastScore =>
    rw [scored] at member
    dsimp only at member
    split at member
    · rcases List.mem_append.mp member with early | due
      · rcases List.mem_append.mp early with pending | lapsed
        · exact .inl pending
        · exact .inr (.inr (AList.mem_keys.mpr (List.mem_filter.mp lapsed).1))
      · exact .inr (.inl (Redis.mem_of_mem_zrangeByScore due))
    · exact .inl member

/-- In a settled queue no job can be taken twice from a lane. -/
theorem MultilaneStore.nodup_poppable (settled : ∀ id, store.Settled id) (laneId : String) :
    (store.poppable now laneId).Nodup := by
  refine List.nodup_iff_count_le_one.mpr fun id => ?_
  by_cases member : id ∈ store.poppable now laneId
  case neg =>
    rw [List.count_eq_zero_of_not_mem member]
    exact Nat.zero_le 1
  have live := live_of_poppable now member
  have one := ((settled id).guarded laneId ((settled id).home laneId live)).one
  have lapsed : (store.laneKeys laneId).lapsed.count id ≤
      (store.laneView laneId id).active.isSome.toNat := by
    by_cases inside : id ∈ (store.laneKeys laneId).lapsed
    · have active : (store.laneView laneId id).active.isSome :=
        AList.lookup_isSome.mpr (AList.mem_keys.mpr (List.mem_filter.mp inside).1)
      rw [active]
      exact List.nodup_iff_count_le_one.mp
        ((store.laneKeys laneId).active.keys_nodup.sublist List.filter_sublist) id
    · rw [List.count_eq_zero_of_not_mem inside]
      exact Nat.zero_le _
  have due : (Redis.zrangeByScore (store.laneKeys laneId).delayed now).count id ≤
      (store.laneView laneId id).delayed.isSome.toNat := by
    by_cases inside : id ∈ Redis.zrangeByScore (store.laneKeys laneId).delayed now
    · have delayed : (store.laneView laneId id).delayed.isSome :=
        AList.lookup_isSome.mpr (Redis.mem_of_mem_zrangeByScore inside)
      rw [delayed]
      exact List.nodup_iff_count_le_one.mp (Redis.nodup_zrangeByScore _ now) id
    · rw [List.count_eq_zero_of_not_mem inside]
      exact Nat.zero_le _
  have pending : (store.laneView laneId id).pending = (store.lane laneId).pending.count id := rfl
  have counted : (store.poppable now laneId).count id ≤ (store.laneView laneId id).live := by
    unfold JobView.live poppable
    cases store.lanes.lookup laneId with
    | none => exact Nat.zero_le _
    | some lastScore =>
      dsimp only
      split
      · rw [Store.ready, List.count_append, List.count_append]
        have same : (store.laneKeys laneId).pending.count id =
            (store.laneView laneId id).pending := rfl
        omega
      · omega
  exact counted.trans one

/-- In a settled queue the jobs that can be taken are distinct. -/
theorem MultilaneStore.nodup_pool (settled : ∀ id, store.Settled id) : (store.pool now).Nodup := by
  refine List.nodup_flatMap.mpr ⟨fun laneId _ => nodup_poppable now settled laneId, ?_⟩
  refine List.Pairwise.imp ?_ store.lanes.keys_nodup
  intro first second different id one two
  have inFirst := (settled id).home first (live_of_poppable now one)
  have inSecond := (settled id).home second (live_of_poppable now two)
  exact different (Option.some.inj (inFirst.symm.trans inSecond))

/-- From every reachable state a batch under leases of a second or more is complete and balanced. -/
theorem MultilaneStore.balanced_run (earlier : List (LaneOp ι δ ο ε)) (batchSize : Nat)
    (positive : 0 < options.leaseDuration.secs) :
    let store := Transition.run (MultilaneStore.step options) MultilaneStore.empty earlier
    store.Balanced now batchSize (store.popBatchJobs options now batchSize) := by
  intro store
  have settled : ∀ id, store.Settled id := MultilaneStore.settled_run options earlier
  refine balanced_popBatchJobs options now batchSize
    (MultilaneStore.registered_after options earlier) (nodup_pool now settled) ?_ positive
  intro id inPool
  obtain ⟨laneId, -, member⟩ := List.mem_flatMap.mp inPool
  have live := live_of_poppable now member
  exact ((settled id).guarded laneId ((settled id).home laneId live)).stored

/-- While the jobs that can be taken are distinct and have their data, the occupied lanes are
registered and leases last a second, the loop of a batch ends, and the batch is complete and
balanced. -/
theorem MultilaneStore.batch_balanced (store : MultilaneStore ι δ ο ε) (batchSize : Nat)
    (registered : store.Registered) (distinct : (store.pool now).Nodup)
    (stored : ∀ id ∈ store.pool now, (store.jobData id).isSome)
    (positive : 0 < options.leaseDuration.secs) :
    ∃ enough final, (∀ turns ≥ enough,
      store.runBatchPop options now batchSize turns = some final) ∧
      store.Balanced now batchSize final := by
  obtain ⟨enough, ends⟩ := store.runBatchPop_eq options now batchSize
  exact ⟨enough, store.popBatchJobs options now batchSize, ends,
    balanced_popBatchJobs options now batchSize registered distinct stored positive⟩

end Batches

/-- Lane `a` with a job whose lease is gone and a pending one, lane `b` with a due job and a pending
one. -/
def unevenLanes : List (LaneOp Nat String Nat String) :=
  [.push 0 "a" { data := "tx", id := 1 }, .pop 1 1,
    .expireLease 1 { now := 1, jobId := 1, attempts := 1, popId := none },
    .push 1 "a" { data := "tx", id := 2 }, .push 1 "b" { data := "tx", id := 3 },
    .push 1 "b" { data := "tx", id := 4, delay := some ⟨.fromSecs 2, .last⟩ }]

/-- A batch of three of the four jobs. -/
theorem MultilaneStore.batch_balanced_unevenLanes :
    let store := Transition.run (MultilaneStore.step {}) MultilaneStore.empty unevenLanes
    (store.pool 5).length = 4 ∧
      ∃ enough final, (∀ turns ≥ enough, store.runBatchPop {} 5 3 turns = some final) ∧
        store.Balanced 5 3 final := by
  intro store
  refine ⟨by decide +kernel, MultilaneStore.batch_balanced {} 5 store 3
    (MultilaneStore.registered_after {} unevenLanes) ?_ ?_ ?_⟩
  · decide +kernel
  · decide +kernel
  · decide

/-- The pending ids are distinct and have their data, and the occupied lanes are registered. -/
structure MultilaneStore.Tidy (store : MultilaneStore ι δ ο ε) : Prop where
  registered : store.Registered
  distinct : (store.lanes.keys.flatMap fun laneId => (store.lane laneId).pending).Nodup
  stored : ∀ laneId, ∀ id ∈ (store.lane laneId).pending, (store.jobData id).isSome

/-- A queue with one lane. -/
def MultilaneStore.oneLane (lane : Lane Nat) (jobData : Nat → Option String) :
    MultilaneStore Nat String Nat String :=
  { (MultilaneStore.empty : MultilaneStore Nat String Nat String) with
    lanes := (∅ : Redis.Hash String Nat).insert "a" 0
    lane := Function.update (fun _ => {}) "a" lane
    jobData }

/-- A queue with one lane is tidy if that lane is. -/
theorem MultilaneStore.tidy_oneLane {lane : Lane Nat} {jobData : Nat → Option String}
    (distinct : lane.pending.Nodup) (stored : ∀ id ∈ lane.pending, (jobData id).isSome) :
    (MultilaneStore.oneLane lane jobData).Tidy := by
  have other {laneId : String} (different : laneId ≠ "a") :
      (MultilaneStore.oneLane lane jobData).lane laneId = {} := by
    simp [oneLane, different]
  have here : (MultilaneStore.oneLane lane jobData).lane "a" = lane := by
    simp [oneLane]
  refine ⟨fun laneId occupied => ?_, ?_, fun laneId id waiting => ?_⟩
  · by_cases same : laneId = "a"
    · exact (AList.mem_insert _).mpr (.inl same)
    · rw [other same] at occupied
      simp [Lane.Occupied] at occupied
  · have keys : (MultilaneStore.oneLane lane jobData).lanes.keys = ["a"] := rfl
    rw [keys, List.flatMap_singleton, here]
    exact distinct
  · by_cases same : laneId = "a"
    · subst same
      rw [here] at waiting
      exact stored id waiting
    · rw [other same] at waiting
      exact absurd waiting List.not_mem_nil

/-- A due id without data. -/
def dueWithoutData : MultilaneStore Nat String Nat String :=
  .oneLane { delayed := (∅ : Redis.Hash Nat Nat).insert 7 3 } fun _ => none

/-- A pending id that is active too, without a lease. -/
def pendingAndActive : MultilaneStore Nat String Nat String :=
  .oneLane { pending := [7], active := (∅ : Redis.Hash Nat Int).insert 7 1 } fun _ => some "tx"

/-- A pending id. -/
def onePending : MultilaneStore Nat String Nat String :=
  .oneLane { pending := [7] } fun _ => some "tx"

/-- Leases of half a second. -/
def halfSecond : QueueOptions := { leaseDuration := { Duration.zero with nanos := 500000000 } }

/-- Tidy pending lists are not enough: a due id without data is not handed out, an id that is
pending and active without a lease is handed out twice, and a lease of half a second does not
stand. -/
theorem MultilaneStore.tidy_unbalanced :
    (dueWithoutData.Tidy ∧ (dueWithoutData.pool 5).length = 1 ∧
      (dueWithoutData.popBatchJobs {} 5 1).resultJobs.length = 0 ∧
      ¬dueWithoutData.Balanced 5 1 (dueWithoutData.popBatchJobs {} 5 1)) ∧
    (pendingAndActive.Tidy ∧
      ((pendingAndActive.popBatchJobs {} 5 2).resultJobs.map fun entry => entry.2.job.id) =
        [7, 7] ∧
      ¬pendingAndActive.Balanced 5 2 (pendingAndActive.popBatchJobs {} 5 2)) ∧
    onePending.Tidy ∧
      (onePending.popBatchJobs halfSecond 5 1).resultJobs.length = 1 ∧
      (onePending.popBatchJobs halfSecond 5 1).store.leases 7 = ∅ ∧
      ¬onePending.Balanced 5 1 (onePending.popBatchJobs halfSecond 5 1) := by
  have dropped : (dueWithoutData.popBatchJobs {} 5 1).resultJobs.length = 0 := by decide +kernel
  have due : (dueWithoutData.pool 5).length = 1 := by decide +kernel
  have twice : ((pendingAndActive.popBatchJobs {} 5 2).resultJobs.map fun entry =>
      entry.2.job.id) = [7, 7] := by decide +kernel
  have given : (onePending.popBatchJobs halfSecond 5 1).resultJobs.map
      (fun entry => entry.2.job.id) = [7] := by decide +kernel
  have unleased : (onePending.popBatchJobs halfSecond 5 1).store.leases 7 = ∅ := by decide +kernel
  refine ⟨⟨?_, due, dropped, fun balanced => ?_⟩, ⟨?_, twice, fun balanced => ?_⟩, ?_, ?_, unleased,
    fun balanced => ?_⟩
  · exact MultilaneStore.tidy_oneLane List.nodup_nil fun _ member => absurd member List.not_mem_nil
  · have count := balanced.count
    rw [dropped, due] at count
    omega
  · exact MultilaneStore.tidy_oneLane (List.nodup_singleton 7) fun _ _ => rfl
  · have distinct := balanced.distinct
    rw [twice] at distinct
    exact absurd distinct (by decide)
  · exact MultilaneStore.tidy_oneLane (List.nodup_singleton 7) fun _ _ => rfl
  · rw [← List.length_map, given]
    rfl
  · have member : 7 ∈ (onePending.popBatchJobs halfSecond 5 1).resultJobs.map
        fun entry => entry.2.job.id := by
      rw [given]
      exact List.mem_cons_self
    obtain ⟨entry, inside, same⟩ := List.mem_map.mp member
    have live := (balanced.leased entry inside).live
    rw [same, unleased] at live
    exact absurd live (Finset.notMem_empty _)

end OpenEngine.Queue
