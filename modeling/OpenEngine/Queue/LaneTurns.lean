import OpenEngine.Queue.LaneRegistry

/-!
# What a batch serves

A pop visits the lanes in the order of their scores, the seconds of their last visit, and lanes of
one score by name. A lane of a settled queue gives a job on every visit while it has one pending. So
a batch of no more jobs than lanes with a pending job serves each lane at most once, the first ones
in order, and a batch of whole rounds serves every lane once a round.
-/

namespace OpenEngine.Queue

variable {ι δ ο ε : Type}

/-- The jobs of one lane among those handed out. -/
def servedFrom (laneId : String) (jobs : List (String × BorrowedJob ι δ)) : Nat :=
  jobs.countP fun entry => entry.1 = laneId

/-- The first lane is registered and comes before the second in the order of the next visits. -/
def MultilaneStore.Ahead (store : MultilaneStore ι δ ο ε) (first second : String) : Prop :=
  ∃ score other, store.lanes.lookup first = some score ∧ store.lanes.lookup second = some other ∧
    (score < other ∨ score = other ∧ first < second)

/-- Every registered lane's last visit is before the given second. -/
def MultilaneStore.VisitedBefore (store : MultilaneStore ι δ ο ε) (now : Nat) : Prop :=
  ∀ entry ∈ store.lanes.entries, entry.2 < now

instance (store : MultilaneStore ι δ ο ε) (now : Nat) : Decidable (store.VisitedBefore now) :=
  inferInstanceAs (Decidable (∀ entry ∈ store.lanes.entries, entry.2 < now))

/-- The registered lanes of one last visit that have a pending job. -/
def MultilaneStore.waitingSince (store : MultilaneStore ι δ ο ε) (visit : Nat) : List String :=
  store.lanes.keys.filter fun laneId =>
    store.lanes.lookup laneId = some visit ∧ (store.lane laneId).pending.isEmpty = false

/-- At least so many lanes of one last visit have a pending job, and no lane that was last visited
before holds a job. -/
def MultilaneStore.OldestWaiting (store : MultilaneStore ι δ ο ε) (batchSize : Nat) : Prop :=
  ∃ visit, (∀ entry ∈ store.lanes.entries, visit ≤ entry.2 ∨ ¬(store.lane entry.1).Occupied) ∧
    batchSize ≤ (store.waitingSince visit).length

/-- A lane that is ahead of another is listed before it. -/
theorem MultilaneStore.Ahead.split {store : MultilaneStore ι δ ο ε} {first second : String}
    (ahead : store.Ahead first second) :
    ∃ before score after, Redis.zrange store.lanes = before ++ (first, score) :: after ∧
      first ∉ before.map Prod.fst ∧ second ∉ before.map Prod.fst := by
  obtain ⟨score, other, foundFirst, foundSecond, earlier⟩ := ahead
  obtain ⟨before, after, parts⟩ := List.append_of_mem (Redis.mem_zrange.mpr foundFirst)
  have sorted := Redis.pairwise_zrange store.lanes
  rw [parts, List.pairwise_append] at sorted
  have distinct := (Redis.zrange_perm store.lanes).nodup_iff.mpr store.lanes.keys_nodup
  rw [parts, List.map_append, List.nodup_append] at distinct
  refine ⟨before, score, after, parts, ?_, ?_⟩
  · intro listed
    exact distinct.2.2 first listed first List.mem_cons_self rfl
  · intro listed
    obtain ⟨entry, inside, rfl⟩ := List.mem_map.mp listed
    have held : entry ∈ Redis.zrange store.lanes := by
      rw [parts]
      exact List.mem_append_left _ inside
    have same : store.lanes.lookup entry.1 = some entry.2 := Redis.mem_zrange.mp held
    have scored : other = entry.2 := Option.some.inj (foundSecond.symm.trans same)
    have ordered := sorted.2.2 entry inside (first, score) List.mem_cons_self
    rcases earlier with less | ⟨equal, below⟩
    · rcases ordered with more | ⟨level, -⟩
      · dsimp only at more
        omega
      · dsimp only at level
        omega
    · rcases ordered with more | ⟨-, above⟩
      · dsimp only at more
        omega
      · exact absurd below (not_lt.mpr above)

/-- Of two registered lanes one is ahead. -/
theorem MultilaneStore.ahead_total {store : MultilaneStore ι δ ο ε} {first second : String}
    (different : first ≠ second) (one : first ∈ store.lanes) (two : second ∈ store.lanes) :
    store.Ahead first second ∨ store.Ahead second first := by
  obtain ⟨score, foundFirst⟩ := Option.isSome_iff_exists.mp (AList.lookup_isSome.mpr one)
  obtain ⟨other, foundSecond⟩ := Option.isSome_iff_exists.mp (AList.lookup_isSome.mpr two)
  rcases lt_trichotomy score other with less | same | more
  · exact .inl ⟨score, other, foundFirst, foundSecond, .inl less⟩
  · rcases lt_or_gt_of_ne different with below | above
    · exact .inl ⟨score, other, foundFirst, foundSecond, .inr ⟨same, below⟩⟩
    · exact .inr ⟨other, score, foundSecond, foundFirst, .inr ⟨same.symm, above⟩⟩
  · exact .inr ⟨other, score, foundSecond, foundFirst, .inl more⟩

/-- The jobs of a lane are counted by the names of the lanes handed out. -/
theorem servedFrom_eq (laneId : String) (jobs : List (String × BorrowedJob ι δ)) :
    servedFrom laneId jobs = (jobs.map Prod.fst).count laneId := by
  unfold servedFrom
  induction jobs with
  | nil => rfl
  | cons head rest ih => simp [List.countP_cons, List.count_cons, ih]

/-- One job handed out. -/
@[simp] theorem servedFrom_single (laneId other : String) (job : BorrowedJob ι δ) :
    servedFrom laneId [(other, job)] = if other = laneId then 1 else 0 := by
  simp [servedFrom, List.countP_cons]

/-- Jobs handed out in two parts. -/
@[simp] theorem servedFrom_append (laneId : String)
    (first second : List (String × BorrowedJob ι δ)) :
    servedFrom laneId (first ++ second) = servedFrom laneId first + servedFrom laneId second :=
  List.countP_append

/-- A phase of the pop script that takes no job off pending in any turn takes none off it. -/
theorem PopState.length_pending_foldl (phase : PopState ι δ ο ε → ι → PopState ι δ ο ε)
    (grows : ∀ state id, state.store.pending.length ≤ (phase state id).store.pending.length)
    (ids : List ι) (state : PopState ι δ ο ε) :
    state.store.pending.length ≤ (ids.foldl phase state).store.pending.length := by
  induction ids generalizing state with
  | nil => exact le_rfl
  | cons id rest ih => exact (grows state id).trans (ih (phase state id))

/-- What a batch does to the lanes of a turn when it serves each at most once. -/
structure MultilaneStore.ServesFirst (now : Nat) (front : List (String × Nat))
    (names : List String) (store after : MultilaneStore ι δ ο ε) : Prop where
  /-- The lanes are served in the order of the turn. -/
  inOrder : names.Sublist (front.map Prod.fst)
  /-- A lane that is served holds a job. -/
  occupied : ∀ laneId ∈ names, (store.lane laneId).Occupied
  /-- No lane is served before one ahead of it that has a pending job. -/
  ahead : front.Pairwise fun one other =>
    (store.lane one.1).pending ≠ [] → other.1 ∈ names → one.1 ∈ names
  /-- The lanes that are served are marked as visited. -/
  stamped : ∀ laneId ∈ names, after.lanes.lookup laneId = some now
  /-- The other lanes with a pending job, and those that are not in the turn, keep their scores. -/
  kept : ∀ laneId ∉ names, (store.lane laneId).pending ≠ [] ∨ laneId ∉ front.map Prod.fst →
    after.lanes.lookup laneId = store.lanes.lookup laneId

/-- A batch that asks for nothing. -/
theorem MultilaneStore.ServesFirst.none (now : Nat) (front : List (String × Nat))
    (store : MultilaneStore ι δ ο ε) : ServesFirst now front [] store store where
  inOrder := List.nil_sublist _
  occupied _ served := absurd served List.not_mem_nil
  ahead := List.pairwise_of_forall fun _ _ _ served => absurd served List.not_mem_nil
  stamped _ served := absurd served List.not_mem_nil
  kept _ _ _ := rfl

/-- A lane that is ahead of one that is served, and has a pending job, is served too. -/
theorem MultilaneStore.ServesFirst.of_ahead {names : List String}
    {store after : MultilaneStore ι δ ο ε} {now : Nat}
    (serves : ServesFirst now (Redis.zrange store.lanes) names store after)
    {first second : String} (ahead : store.Ahead first second)
    (waiting : (store.lane first).pending ≠ []) (served : second ∈ names) : first ∈ names := by
  obtain ⟨before, score, rest, listed, -, absent⟩ := ahead.split
  obtain ⟨_, _, foundFirst, foundSecond, earlier⟩ := ahead
  have order := serves.ahead
  have inside := serves.inOrder.subset served
  rw [listed] at order inside
  have different : second ≠ first := by
    rintro rfl
    have same := Option.some.inj (foundFirst.symm.trans foundSecond)
    rcases earlier with less | ⟨-, below⟩
    · omega
    · exact absurd below (lt_irrefl second)
  rw [List.map_append, List.mem_append, List.map_cons, List.mem_cons] at inside
  obtain ⟨entry, inRest, rfl⟩ :=
    List.mem_map.mp ((inside.resolve_left absent).resolve_left different)
  exact (List.pairwise_cons.mp (List.pairwise_append.mp order).2.1).1 entry inRest waiting served

/-- Of the oldest waiting lanes a batch serves lanes of one last visit. -/
theorem MultilaneStore.ServesFirst.oldest {names : List String}
    {store after : MultilaneStore ι δ ο ε} {now : Nat}
    (serves : ServesFirst now (Redis.zrange store.lanes) names store after) {batchSize visit : Nat}
    (few : names.length ≤ batchSize)
    (oldest : ∀ entry ∈ store.lanes.entries, visit ≤ entry.2 ∨ ¬(store.lane entry.1).Occupied)
    (enough : batchSize ≤ (store.waitingSince visit).length) :
    ∀ laneId ∈ names, store.lanes.lookup laneId = some visit := by
  intro laneId served
  obtain ⟨score, found⟩ : ∃ score, store.lanes.lookup laneId = some score := by
    obtain ⟨entry, listed, rfl⟩ := List.mem_map.mp (serves.inOrder.subset served)
    exact ⟨entry.2, Redis.mem_zrange.mp listed⟩
  have atLeast : visit ≤ score :=
    (oldest ⟨laneId, score⟩ (AList.mem_lookup_iff.mp found)).resolve_right
      fun unoccupied => unoccupied (serves.occupied laneId served)
  -- A lane visited later is behind all that wait since the oldest visit, and these are enough.
  by_contra different
  have more : visit < score := lt_of_le_of_ne atLeast fun same => different (by rw [found, same])
  have all : laneId :: store.waitingSince visit ⊆ names := by
    intro other inside
    rcases List.mem_cons.mp inside with rfl | waits
    · exact served
    · obtain ⟨scored, waiting⟩ := of_decide_eq_true (List.mem_filter.mp waits).2
      exact serves.of_ahead ⟨visit, score, scored, found, .inl more⟩
        (by simpa using waiting) served
  have distinct : (laneId :: store.waitingSince visit).Nodup := by
    refine List.nodup_cons.mpr ⟨fun waits => ?_, store.lanes.keys_nodup.filter _⟩
    exact different (of_decide_eq_true (List.mem_filter.mp waits).2).1
  have length := (distinct.subperm all).length_le
  rw [List.length_cons] at length
  omega

variable [LinearOrder ι]

section Visits

variable (options : QueueOptions) (now : Nat)

/-- What one visit changes of the queue as the other lanes see it. -/
structure LanePopState.Visits (laneId : String) (state after : LanePopState ι δ ο ε) : Prop where
  /-- The other lanes keep their keys. -/
  lane : ∀ other ≠ laneId, after.store.lane other = state.store.lane other
  /-- The other lanes keep their scores. -/
  score : ∀ other ≠ laneId, after.store.lanes.lookup other = state.store.lanes.lookup other
  /-- Every job stays settled. -/
  settled : ∀ id, after.store.Settled id

/-- Cleaning up and promoting take no job off a lane's pending list. -/
theorem LanePopState.length_pending_refreshLane (state : LanePopState ι δ ο ε)
    (laneId : String) : (state.store.lane laneId).pending.length ≤
      ((state.refreshLane now laneId).store.lane laneId).pending.length := by
  have cleaned : (state.store.lane laneId).pending.length ≤
      ((state.cleanupLaneLeases laneId).store.lane laneId).pending.length := by
    simp only [cleanupLaneLeases, MultilaneStore.writeKeys, Function.update_self]
    refine PopState.length_pending_foldl PopState.cleanupLease ?_ _
      { store := state.store.laneKeys laneId }
    intro popping id
    have requeued : popping.store.pending.length ≤ (popping.requeue id).store.pending.length :=
      Nat.le_succ _
    unfold PopState.cleanupLease
    split
    · split
      · exact le_rfl
      · exact requeued
    · exact requeued
  refine cleaned.trans ?_
  simp only [refreshLane, processDelayedJobs, MultilaneStore.writeKeys, Function.update_self]
  refine PopState.length_pending_foldl PopState.promoteDelayed ?_ _
    { store := (state.cleanupLaneLeases laneId).store.laneKeys laneId }
  intro popping id
  unfold PopState.promoteDelayed
  dsimp only
  split <;> simp

/-- Cleaning up and promoting find nothing in a lane that holds no job. -/
theorem LanePopState.pending_refreshLane_of_unoccupied {state : LanePopState ι δ ο ε}
    {laneId : String} (unoccupied : ¬(state.store.lane laneId).Occupied) :
    ((state.refreshLane now laneId).store.lane laneId).pending = [] := by
  obtain ⟨pending, delayed, active⟩ := Lane.empty_of_not_occupied unoccupied
  have idle : (state.store.laneKeys laneId).active.keys = [] := by
    rw [show (state.store.laneKeys laneId).active = (state.store.lane laneId).active from rfl,
      active]
    rfl
  have cleaned : (state.cleanupLaneLeases laneId).store.lane laneId = state.store.lane laneId := by
    simp only [cleanupLaneLeases, idle, List.foldl_nil, MultilaneStore.writeKeys,
      Function.update_self]
    rfl
  have due : Redis.zrangeByScore ((state.cleanupLaneLeases laneId).store.laneKeys laneId).delayed
      now = [] := by
    rw [show ((state.cleanupLaneLeases laneId).store.laneKeys laneId).delayed =
      ((state.cleanupLaneLeases laneId).store.lane laneId).delayed from rfl, cleaned, delayed]
    rfl
  simp only [refreshLane, processDelayedJobs, due, List.foldl_nil, MultilaneStore.writeKeys,
    Function.update_self]
  show ((state.cleanupLaneLeases laneId).store.lane laneId).pending = []
  rw [cleaned, pending]

/-- Cleaning up and promoting in one lane, seen from the others. -/
theorem LanePopState.visits_refreshLane {state : LanePopState ι δ ο ε}
    (settled : ∀ id, state.store.Settled id) (laneId : String) :
    LanePopState.Visits laneId state (state.refreshLane now laneId) where
  lane other different := by
    simp only [refreshLane, processDelayedJobs, cleanupLaneLeases, MultilaneStore.writeKeys,
      Function.update_of_ne different]
  score other different := AList.lookup_insert_ne different
  settled id := LanePopState.settled_refreshLane (settled id) now laneId

/-- Popping from a lane of a settled queue gives its last pending job, unless the lane has none. -/
theorem MultilaneStore.popJobFromLane_settled {store : MultilaneStore ι δ ο ε}
    (settled : ∀ id, store.Settled id) (laneId : String) :
    ((store.lane laneId).pending = [] ∧
      store.popJobFromLane options now laneId = (none, store)) ∨
    ∃ job after, store.popJobFromLane options now laneId = (some job, after) ∧
      (∀ other ≠ laneId, after.lane other = store.lane other) ∧ after.lanes = store.lanes ∧
      (store.lane laneId).pending.length = (after.lane laneId).pending.length + 1 := by
  rcases store.popJobFromLane_cases options now laneId with
    empty | ⟨first, target, pending, missing, -⟩ | ⟨first, target, data, pending, -, popped⟩
  · exact .inl empty
  · have present : 0 < (store.laneView laneId target).live := by
      simp only [JobView.live, laneView, laneKeys, Store.view, pending, List.count_append,
        List.count_singleton_self]
      omega
    have named := (settled target).home laneId present
    have stored := ((settled target).guarded laneId named).stored
    rw [show (store.laneView laneId target).data = store.jobData target from rfl, missing]
      at stored
    contradiction
  · refine .inr ⟨_, _, popped, ?_, rfl, ?_⟩
    · intro other different
      simp only [MultilaneStore.writeKeys, Function.update_of_ne different]
    · simp [MultilaneStore.writeKeys, Store.leaseFromLane, Store.setMeta, Store.grantLease,
        pending]

/-- The next lane of the turn holds and gives a job, or it has none pending and the turn goes on
without it. -/
theorem LanePopState.seekJob_cons {state : LanePopState ι δ ο ε}
    (settled : ∀ id, state.store.Settled id) (laneId : String) (score : Nat)
    (rest : List (String × Nat)) :
    (∃ job after, Visits laneId state after ∧
      after.resultJobs = state.resultJobs ++ [(laneId, job)] ∧
      after.store.lanes.lookup laneId =
        (if score ≠ now then some now else state.store.lanes.lookup laneId) ∧
      (state.store.lane laneId).pending.length ≤
        (after.store.lane laneId).pending.length + 1 ∧
      (state.store.lane laneId).Occupied ∧
      state.seekJob options now ((laneId, score) :: rest) =
        (after, some (rest ++ [(laneId, now)]))) ∨
    ((state.store.lane laneId).pending = [] ∧ ∃ after, Visits laneId state after ∧
      after.resultJobs = state.resultJobs ∧
      state.seekJob options now ((laneId, score) :: rest) =
        after.seekJob options now rest) := by
  obtain ⟨visited, same⟩ : ∃ visited,
      visited = if score ≠ now then state.refreshLane now laneId else state := ⟨_, rfl⟩
  have visit : Visits laneId state visited := by
    subst same
    split
    · exact state.visits_refreshLane now settled laneId
    · exact ⟨fun _ _ => rfl, fun _ _ => rfl, settled⟩
  have grown : (state.store.lane laneId).pending.length ≤
      (visited.store.lane laneId).pending.length := by
    subst same
    split
    · exact state.length_pending_refreshLane now laneId
    · exact le_rfl
  have told : visited.resultJobs = state.resultJobs := by
    subst same
    split <;> rfl
  have scored : visited.store.lanes.lookup laneId =
      if score ≠ now then some now else state.store.lanes.lookup laneId := by
    subst same
    split
    · exact AList.lookup_insert _
    · rfl
  rcases MultilaneStore.popJobFromLane_settled options now visit.settled laneId with
    ⟨empty, popped⟩ | ⟨job, store, popped, others, lanes, taken⟩
  · refine .inr ⟨List.length_eq_zero_iff.mp ?_,
      { visited with store := visited.store.retireLane laneId }, ⟨?_, ?_, ?_⟩, told, ?_⟩
    · rw [empty] at grown
      exact Nat.le_zero.mp grown
    · intro other different
      rw [← visit.lane other different]
      unfold MultilaneStore.retireLane
      dsimp only
      split <;> rfl
    · intro other different
      rw [← visit.score other different]
      unfold MultilaneStore.retireLane
      dsimp only
      split
      · exact AList.lookup_erase_ne different
      · rfl
    · intro id
      exact (visit.settled id).of_same (visited.store.laneView_retireLane laneId)
    · rw [seekJob, ← same]
      simp only [popped]
  · refine .inl ⟨job,
      { visited with store, resultJobs := visited.resultJobs ++ [(laneId, job)] },
      ⟨?_, ?_, ?_⟩, ?_, ?_, ?_, ?_, ?_⟩
    · intro other different
      rw [← visit.lane other different]
      exact others other different
    · intro other different
      rw [← visit.score other different, ← lanes]
    · intro id
      have after := (visit.settled id).popJobFromLane options now laneId
      rw [popped] at after
      exact after
    · rw [told]
    · rw [← scored, ← lanes]
    · dsimp only
      omega
    · by_contra unoccupied
      have nothing : (visited.store.lane laneId).pending = [] := by
        subst same
        split
        · exact pending_refreshLane_of_unoccupied now unoccupied
        · exact (Lane.empty_of_not_occupied unoccupied).1
      rw [nothing] at taken
      exact absurd taken (Nat.succ_ne_zero _).symm
    · rw [seekJob, ← same]
      simp only [popped]

section Visit

variable {state after : LanePopState ι δ ο ε} {final : MultilaneStore ι δ ο ε} {laneId : String}
  {score now : Nat} {rest : List (String × Nat)} {names : List String}

/-- The first lane of the turn is served, and then some of the others. -/
theorem MultilaneStore.ServesFirst.gave (visit : LanePopState.Visits laneId state after)
    (absent : laneId ∉ rest.map Prod.fst) (occupied : (state.store.lane laneId).Occupied)
    (stamped : after.store.lanes.lookup laneId = some now)
    (later : ServesFirst now rest names after.store final) :
    ServesFirst now ((laneId, score) :: rest) (laneId :: names) state.store final where
  inOrder := later.inOrder.cons_cons laneId
  occupied other served := by
    by_cases same : other = laneId
    · exact same ▸ occupied
    · rw [← visit.lane other same]
      exact later.occupied other ((List.mem_cons.mp served).resolve_left same)
  ahead := by
    refine List.pairwise_cons.mpr ⟨fun _ _ _ _ => List.mem_cons_self, ?_⟩
    refine later.ahead.imp_of_mem fun {one other} isOne isOther near waiting served => ?_
    have apart {entry : String × Nat} (inside : entry ∈ rest) : entry.1 ≠ laneId := fun same =>
      absent (same ▸ List.mem_map_of_mem inside)
    rw [← visit.lane one.1 (apart isOne)] at waiting
    exact List.mem_cons_of_mem _
      (near waiting ((List.mem_cons.mp served).resolve_left (apart isOther)))
  stamped other served := by
    rcases List.mem_cons.mp served with rfl | inLater
    · rw [later.kept other (fun inside => absent (later.inOrder.subset inside)) (.inr absent)]
      exact stamped
    · exact later.stamped other inLater
  kept other unserved still := by
    obtain ⟨different, notLater⟩ := not_or.mp (fun either => unserved (List.mem_cons.mpr either))
    rw [← visit.score other different]
    refine later.kept other notLater ?_
    rw [visit.lane other different]
    exact still.imp_right fun unlisted inside => unlisted (List.mem_cons_of_mem _ inside)

/-- The first lane of the turn has no pending job and is passed over. -/
theorem MultilaneStore.ServesFirst.passed (visit : LanePopState.Visits laneId state after)
    (absent : laneId ∉ rest.map Prod.fst) (empty : (state.store.lane laneId).pending = [])
    (later : ServesFirst now rest names after.store final) :
    ServesFirst now ((laneId, score) :: rest) names state.store final where
  inOrder := later.inOrder.cons _
  occupied other served := by
    have different : other ≠ laneId := fun same => absent (later.inOrder.subset (same ▸ served))
    rw [← visit.lane other different]
    exact later.occupied other served
  ahead := by
    refine List.pairwise_cons.mpr ⟨fun _ _ waiting => absurd empty waiting, ?_⟩
    refine later.ahead.imp_of_mem fun {one other} isOne _ near waiting => near ?_
    rw [visit.lane one.1 fun same => absent (same ▸ List.mem_map_of_mem isOne)]
    exact waiting
  stamped := later.stamped
  kept other unserved still := by
    have different : other ≠ laneId := by
      rintro rfl
      rcases still with waiting | unlisted
      · exact waiting empty
      · exact unlisted List.mem_cons_self
    rw [← visit.score other different]
    refine later.kept other unserved ?_
    rw [visit.lane other different]
    exact still.imp_right fun unlisted inside => unlisted (List.mem_cons_of_mem _ inside)

end Visit

/-- A batch of no more jobs than there are lanes with a pending job among the first of the turn
serves some of these, each once. -/
theorem LanePopState.popLanes_first {state : LanePopState ι δ ο ε}
    (settled : ∀ id, state.store.Settled id) (front back : List (String × Nat)) (wanted : Nat)
    (distinct : (front.map Prod.fst).Nodup) (unvisited : ∀ entry ∈ front, entry.2 ≠ now)
    (enough : wanted ≤
      front.countP fun entry => (state.store.lane entry.1).pending.isEmpty = false) :
    ∃ names, names.length ≤ wanted ∧
      (state.popLanes options now wanted (front ++ back)).resultJobs.map Prod.fst =
        state.resultJobs.map Prod.fst ++ names ∧
      MultilaneStore.ServesFirst now front names state.store
        (state.popLanes options now wanted (front ++ back)).store := by
  induction front generalizing state back wanted with
  | nil =>
    rw [Nat.le_zero.mp enough]
    exact ⟨[], le_rfl, (List.append_nil _).symm, .none now [] state.store⟩
  | cons head rest ih =>
    obtain ⟨laneId, score⟩ := head
    cases wanted with
    | zero => exact ⟨[], le_rfl, (List.append_nil _).symm, .none now _ state.store⟩
    | succ wanted =>
      obtain ⟨absent, restDistinct⟩ := List.nodup_cons.mp distinct
      have unvisitedRest : ∀ entry ∈ rest, entry.2 ≠ now :=
        fun entry inside => unvisited entry (List.mem_cons_of_mem _ inside)
      have same {after : LanePopState ι δ ο ε} (visit : Visits laneId state after) :
          (rest.countP fun entry => (after.store.lane entry.1).pending.isEmpty = false) =
            rest.countP fun entry => (state.store.lane entry.1).pending.isEmpty = false := by
        refine List.countP_congr fun entry inside => ?_
        rw [visit.lane entry.1 fun here => absent (List.mem_map.mpr ⟨entry, inside, here⟩)]
      rw [List.countP_cons] at enough
      rcases state.seekJob_cons options now settled laneId score (rest ++ back) with
        ⟨job, after, visit, told, scored, -, occupied, sought⟩ |
          ⟨empty, after, visit, told, sought⟩
      · have fewer : wanted ≤
            rest.countP fun entry => (after.store.lane entry.1).pending.isEmpty = false := by
          rw [same visit]
          split at enough <;> omega
        obtain ⟨names, few, named, served⟩ :=
          ih visit.settled (back ++ [(laneId, now)]) wanted restDistinct unvisitedRest fewer
        have reached : state.popLanes options now (wanted + 1) ((laneId, score) :: rest ++ back) =
            after.popLanes options now wanted (rest ++ (back ++ [(laneId, now)])) := by
          rw [List.cons_append, popLanes, sought, List.append_assoc]
        rw [if_pos (unvisited (laneId, score) List.mem_cons_self)] at scored
        rw [reached]
        refine ⟨laneId :: names, Nat.succ_le_succ few, ?_,
          served.gave visit absent occupied scored⟩
        rw [named, told]
        simp
      · have fewer : wanted + 1 ≤
            rest.countP fun entry => (after.store.lane entry.1).pending.isEmpty = false := by
          rw [same visit]
          simpa [empty] using enough
        obtain ⟨names, few, named, served⟩ :=
          ih visit.settled back (wanted + 1) restDistinct unvisitedRest fewer
        have reached : state.popLanes options now (wanted + 1) ((laneId, score) :: rest ++ back) =
            after.popLanes options now (wanted + 1) (rest ++ back) := by
          rw [List.cons_append, popLanes, sought, popLanes]
        rw [reached]
        exact ⟨names, few, by rw [named, told], served.passed visit absent empty⟩

/-- Lanes that all hold a pending job are served one after the other. -/
theorem LanePopState.popLanes_append {state : LanePopState ι δ ο ε}
    (settled : ∀ id, state.store.Settled id) (turn rest : List (String × Nat)) (wanted : Nat)
    (distinct : (turn.map Prod.fst).Nodup)
    (waiting : ∀ entry ∈ turn, (state.store.lane entry.1).pending ≠ []) :
    ∃ after : LanePopState ι δ ο ε,
      state.popLanes options now (turn.length + wanted) (turn ++ rest) =
        after.popLanes options now wanted (rest ++ turn.map fun entry => (entry.1, now)) ∧
      (∀ id, after.store.Settled id) ∧
      after.resultJobs.map Prod.fst = state.resultJobs.map Prod.fst ++ turn.map Prod.fst ∧
      ∀ laneId, (state.store.lane laneId).pending.length ≤
        (after.store.lane laneId).pending.length + (turn.map Prod.fst).count laneId := by
  induction turn generalizing state rest with
  | nil => exact ⟨state, by simp, settled, by simp, by simp⟩
  | cons head turn ih =>
    obtain ⟨laneId, score⟩ := head
    obtain ⟨absent, restDistinct⟩ := List.nodup_cons.mp distinct
    rcases state.seekJob_cons options now settled laneId score (turn ++ rest) with
      ⟨job, served, visit, told, -, taken, -, sought⟩ | ⟨empty, -⟩
    · have still : ∀ entry ∈ turn, (served.store.lane entry.1).pending ≠ [] := by
        intro entry inside
        have listed : entry.1 ∈ turn.map Prod.fst := List.mem_map_of_mem inside
        have apart : entry.1 ≠ laneId := fun same => absent (same ▸ listed)
        rw [visit.lane entry.1 apart]
        exact waiting entry (List.mem_cons_of_mem _ inside)
      obtain ⟨after, reached, kept, names, fewer⟩ :=
        ih visit.settled (rest ++ [(laneId, now)]) restDistinct still
      refine ⟨after, ?_, kept, ?_, ?_⟩
      · have count : ((laneId, score) :: turn).length + wanted = turn.length + wanted + 1 := by
          simp only [List.length_cons]
          omega
        rw [count, popLanes, List.cons_append, sought]
        dsimp only
        rw [List.append_assoc, reached]
        simp
      · rw [names, told]
        simp
      · intro other
        have bound := fewer other
        by_cases same : other = laneId
        · subst same
          rw [List.map_cons, List.count_cons_self]
          omega
        · rw [visit.lane other same] at bound
          rw [List.map_cons, List.count_cons_of_ne (Ne.symm same)]
          exact bound
    · exact absurd empty (waiting (laneId, score) List.mem_cons_self)

/-- Whole rounds over lanes with enough pending jobs serve each lane once a round. -/
theorem LanePopState.popLanes_rounds {state : LanePopState ι δ ο ε}
    (settled : ∀ id, state.store.Settled id) (rounds : Nat) (lanes : List (String × Nat))
    (distinct : (lanes.map Prod.fst).Nodup)
    (waiting : ∀ entry ∈ lanes, rounds ≤ (state.store.lane entry.1).pending.length) :
    (state.popLanes options now (rounds * lanes.length) lanes).resultJobs.map Prod.fst =
      state.resultJobs.map Prod.fst ++
        (List.replicate rounds (lanes.map Prod.fst)).flatten := by
  induction rounds generalizing state lanes with
  | zero => simp [popLanes]
  | succ rounds ih =>
    have nonempty : ∀ entry ∈ lanes, (state.store.lane entry.1).pending ≠ [] := by
      intro entry inside empty
      have enough := waiting entry inside
      rw [empty] at enough
      exact absurd enough (Nat.not_succ_le_zero rounds)
    obtain ⟨after, reached, kept, names, fewer⟩ :=
      state.popLanes_append options now settled lanes [] (rounds * lanes.length) distinct nonempty
    have same : (lanes.map fun entry => (entry.1, now)).map Prod.fst = lanes.map Prod.fst := by
      rw [List.map_map]
      rfl
    have next := ih kept (lanes.map fun entry => (entry.1, now)) (same ▸ distinct) (by
      intro entry inside
      obtain ⟨before, member, rfl⟩ := List.mem_map.mp inside
      have enough := waiting before member
      have bound := fewer before.1
      have once := List.nodup_iff_count_le_one.mp distinct before.1
      dsimp only
      omega)
    rw [List.length_map, same] at next
    have total : (rounds + 1) * lanes.length = lanes.length + rounds * lanes.length := by
      rw [Nat.succ_mul, Nat.add_comm]
    have list : lanes ++ [] = lanes := List.append_nil lanes
    rw [list] at reached
    rw [total, reached, List.nil_append, next, names, List.replicate_succ, List.flatten_cons,
      List.append_assoc]

end Visits

/-- Carrying out the cancellations touches no lane and hands out no job. -/
theorem LanePopState.sweep_frame (now : Nat) (targets : List ι) (state : LanePopState ι δ ο ε) :
    let swept := targets.foldl (LanePopState.sweepCancellation now) state
    swept.store.lanes = state.store.lanes ∧ swept.store.lane = state.store.lane ∧
      swept.resultJobs = state.resultJobs ∧
      ((∀ id, state.store.Settled id) → ∀ id, swept.store.Settled id) := by
  induction targets generalizing state with
  | nil => exact ⟨rfl, rfl, rfl, fun settled => settled⟩
  | cons target rest ih =>
    obtain ⟨lanes, lane, jobs, kept⟩ := ih (state.sweepCancellation now target)
    have here : (state.sweepCancellation now target).store.lanes = state.store.lanes ∧
        (state.sweepCancellation now target).store.lane = state.store.lane ∧
        (state.sweepCancellation now target).resultJobs = state.resultJobs := by
      unfold sweepCancellation
      dsimp only
      split
      · exact ⟨rfl, rfl, rfl⟩
      split
      · exact ⟨rfl, rfl, rfl⟩
      split <;> exact ⟨rfl, rfl, rfl⟩
    refine ⟨lanes.trans here.1, lane.trans here.2.1, jobs.trans here.2.2, fun settled => ?_⟩
    exact kept fun id => state.settled_sweepCancellation (settled id) now target

section Batches

variable {store : MultilaneStore ι δ ο ε} (options : QueueOptions) (now : Nat)

/-- A batch is the loop over the lanes, begun where the cancellations leave the queue. -/
theorem MultilaneStore.popBatchJobs_eq (store : MultilaneStore ι δ ο ε) (batchSize : Nat)
    (settled : ∀ id, store.Settled id) :
    ∃ swept : LanePopState ι δ ο ε,
      store.popBatchJobs options now batchSize =
        swept.popLanes options now batchSize (Redis.zrange store.lanes) ∧
      swept.store.lanes = store.lanes ∧ swept.store.lane = store.lane ∧
      swept.resultJobs = [] ∧ ∀ id, swept.store.Settled id := by
  obtain ⟨lanes, lane, jobs, kept⟩ :=
    LanePopState.sweep_frame now store.pendingCancellations.keys { store }
  refine ⟨_, ?_, lanes, lane, jobs, kept settled⟩
  unfold popBatchJobs
  dsimp only
  rw [lanes]

/-- A batch, at a second later than every lane's last visit, of no more jobs than there are
registered lanes with a pending job. -/
theorem MultilaneStore.pop_first (settled : ∀ id, store.Settled id)
    (later : store.VisitedBefore now) (batchSize : Nat)
    (enough : batchSize ≤
      store.lanes.keys.countP fun laneId => (store.lane laneId).pending.isEmpty = false) :
    ∃ names, names.length ≤ batchSize ∧
      (store.popBatchJobs options now batchSize).resultJobs.map Prod.fst = names ∧
      ServesFirst now (Redis.zrange store.lanes) names store
        (store.popBatchJobs options now batchSize).store := by
  obtain ⟨swept, loop, lanes, lane, jobs, kept⟩ :=
    store.popBatchJobs_eq options now batchSize settled
  rw [loop]
  have names := Redis.zrange_perm store.lanes
  have counted : (Redis.zrange store.lanes).countP (fun entry =>
      (swept.store.lane entry.1).pending.isEmpty = false) =
        store.lanes.keys.countP fun laneId => (store.lane laneId).pending.isEmpty = false := by
    rw [← names.countP_eq, List.countP_map, lane]
    rfl
  obtain ⟨served, few, named, serves⟩ := swept.popLanes_first options now kept
    (Redis.zrange store.lanes) [] batchSize (names.nodup_iff.mpr store.lanes.keys_nodup)
    (fun entry inside => Nat.ne_of_lt
      (later ⟨entry.1, entry.2⟩ (AList.mem_lookup_iff.mp (Redis.mem_zrange.mp inside))))
    (by rw [counted]; exact enough)
  rw [List.append_nil] at named serves
  rw [jobs, List.map_nil, List.nil_append] at named
  refine ⟨served, few, named, serves.inOrder, ?_, ?_, serves.stamped, ?_⟩
  · rw [← lane]
    exact serves.occupied
  · rw [← lane]
    exact serves.ahead
  · intro laneId unserved still
    rw [← lane] at still
    exact (serves.kept laneId unserved still).trans (by rw [lanes])

/-- Such a batch serves two lanes with a pending job alike and keeps their order, or it serves the
one ahead, which falls behind. -/
theorem MultilaneStore.pop_ahead (settled : ∀ id, store.Settled id) {first second : String}
    (different : first ≠ second) (ahead : store.Ahead first second)
    (oneWaits : (store.lane first).pending ≠ []) (twoWaits : (store.lane second).pending ≠ [])
    (later : store.VisitedBefore now) {batchSize : Nat}
    (oldest : batchSize ≤ 1 ∨ store.OldestWaiting batchSize) :
    let batch := store.popBatchJobs options now batchSize
    servedFrom first batch.resultJobs = servedFrom second batch.resultJobs ∧
        batch.store.Ahead first second ∨
      servedFrom first batch.resultJobs = servedFrom second batch.resultJobs + 1 ∧
        batch.store.Ahead second first := by
  intro batch
  obtain ⟨score, other, foundFirst, foundSecond, earlier⟩ := ahead
  have enough : batchSize ≤
      store.lanes.keys.countP fun laneId => (store.lane laneId).pending.isEmpty = false := by
    rcases oldest with small | ⟨visit, -, many⟩
    · have registered : first ∈ store.lanes.keys :=
        AList.mem_keys.mp (AList.lookup_isSome.mp (by rw [foundFirst]; rfl))
      have some : 0 < store.lanes.keys.countP fun laneId =>
          (store.lane laneId).pending.isEmpty = false :=
        List.countP_pos_iff.mpr ⟨first, registered, by simpa using oneWaits⟩
      omega
    · rw [waitingSince, ← List.countP_eq_length_filter] at many
      refine many.trans (List.countP_mono_left fun laneId _ both => ?_)
      exact decide_eq_true (of_decide_eq_true both).2
  obtain ⟨names, few, named, serves⟩ := store.pop_first options now settled later batchSize enough
  have distinct : names.Nodup :=
    ((Redis.zrange_perm store.lanes).nodup_iff.mpr store.lanes.keys_nodup).sublist serves.inOrder
  rw [servedFrom_eq, servedFrom_eq, named, distinct.count, distinct.count]
  by_cases two : second ∈ names
  · have one : first ∈ names :=
      serves.of_ahead ⟨score, other, foundFirst, foundSecond, earlier⟩ oneWaits two
    have level : score = other := by
      rcases oldest with small | ⟨visit, oldest, many⟩
      · have pair : [first, second].Subperm names :=
          (List.nodup_cons.mpr ⟨by simpa using different, List.nodup_singleton _⟩).subperm
            (by simp [List.subset_def, one, two])
        have length := pair.length_le
        simp only [List.length_cons, List.length_nil] at length
        omega
      · have since := serves.oldest few oldest many
        have same := (foundFirst.symm.trans (since first one)).trans
          ((since second two).symm.trans foundSecond)
        exact Option.some.inj same
    rw [if_pos one, if_pos two]
    refine .inl ⟨rfl, now, now, serves.stamped first one, serves.stamped second two, .inr ⟨rfl, ?_⟩⟩
    exact (earlier.resolve_left (by omega)).2
  · have behind := (serves.kept second two (.inl twoWaits)).trans foundSecond
    rw [if_neg two]
    by_cases one : first ∈ names
    · have visited := later ⟨second, other⟩ (AList.mem_lookup_iff.mp foundSecond)
      rw [if_pos one]
      exact .inr ⟨rfl, other, now, behind, serves.stamped first one, .inl visited⟩
    · rw [if_neg one]
      exact .inl ⟨rfl, score, other, (serves.kept first one (.inl oneWaits)).trans foundFirst,
        behind, earlier⟩

/-- A batch of whole rounds serves every registered lane once a round. -/
theorem MultilaneStore.pop_rounds (settled : ∀ id, store.Settled id) (rounds : Nat)
    (waiting : ∀ laneId ∈ store.lanes, rounds ≤ (store.lane laneId).pending.length)
    {laneId : String} (registered : laneId ∈ store.lanes) :
    servedFrom laneId
      (store.popBatchJobs options now (rounds * store.lanes.keys.length)).resultJobs =
        rounds := by
  obtain ⟨swept, loop, lanes, lane, jobs, kept⟩ :=
    store.popBatchJobs_eq options now (rounds * store.lanes.keys.length) settled
  rw [loop]
  have names := Redis.zrange_perm store.lanes
  have distinct := names.nodup_iff.mpr store.lanes.keys_nodup
  have length : (Redis.zrange store.lanes).length = store.lanes.keys.length := by
    rw [← names.length_eq, List.length_map]
  have served := swept.popLanes_rounds options now kept rounds
    (Redis.zrange store.lanes) distinct (by
      intro entry inside
      rw [lane]
      exact waiting entry.1 (names.mem_iff.mp (List.mem_map_of_mem inside)))
  have once : ((Redis.zrange store.lanes).map Prod.fst).count laneId = 1 :=
    List.count_eq_one_of_mem distinct (names.mem_iff.mpr registered)
  rw [length, jobs, List.map_nil, List.nil_append] at served
  rw [servedFrom_eq, served, List.count_flatten, List.map_replicate, once]
  simp

end Batches

end OpenEngine.Queue
