import OpenEngine.Queue.LaneMirror

/-!
# The order of one lane

A pop takes from the left end of pending on the single-lane queue and from the right end of a lane.
With at most one job ready there is no difference, and the two queues stay mirrored; with more the
first job handed out is another one. So a run hands out the same jobs in the same order exactly if
none of its pops finds more than one job ready.
-/

namespace OpenEngine.Queue

variable {ι δ ο ε : Type} [LinearOrder ι]

namespace Mirrors

variable {popIdOf : Nat → String} {laneId : String} {last : Option Nat} {left : Store ι δ ο ε}
  {right : MultilaneStore ι δ ο ε}

/-- Before the first pop nothing is lapsed, and at second zero nothing is due. -/
theorem calm (mirrors : Mirrors popIdOf laneId none left right) :
    left.lapsed = [] ∧ Redis.zrangeByScore left.delayed 0 = [] := by
  obtain ⟨idle, later⟩ := mirrors.unpopped rfl
  refine ⟨by simp [Store.lapsed, idle], ?_⟩
  apply List.eq_nil_iff_forall_not_mem.mpr
  intro id due
  obtain ⟨score, low, found⟩ := Redis.lookup_of_mem_zrangeByScore due
  have positive := later id score found
  omega

/-- A lane that is not registered holds nothing, and neither does the queue. -/
theorem unregistered (mirrors : Mirrors popIdOf laneId last left right)
    (absent : laneId ∉ right.lanes) :
    left.pending = [] ∧ left.delayed = ∅ ∧ left.active = ∅ := by
  have empty := Lane.empty_of_not_occupied fun occupied =>
    absent (mirrors.registered laneId occupied)
  obtain ⟨pending, delayed, active⟩ := empty
  exact ⟨mirrors.twin.pending.symm.trans pending, mirrors.twin.delayed.symm.trans delayed,
    mirrors.twin.active.symm.trans active⟩

/-- A pop of the multilane queue starts with the visits. -/
theorem lanePop_eq (mirrors : Mirrors popIdOf laneId last left right) (options : QueueOptions)
    (now batchSize : Nat) :
    right.popBatchJobs options now batchSize =
      LanePopState.popLanes options now batchSize { store := right }
        (Redis.zrange right.lanes) := by
  have none : right.pendingCancellations.keys = [] :=
    List.eq_nil_iff_forall_not_mem.mpr mirrors.laneUncancelled
  unfold MultilaneStore.popBatchJobs
  rw [none]
  rfl

/-- A pop that asks for jobs cleans up and promotes on both queues before it takes any; without a
registered lane there is nothing to do. -/
theorem refreshed (mirrors : Mirrors popIdOf laneId last left right) (options : QueueOptions)
    {now : Nat} (later : ∀ before, last = some before → before < now) (wanted : Nat) :
    laneId ∉ right.lanes ∧ left.readied now = left ∧ left.pending = [] ∧
        right.popBatchJobs options now (wanted + 1) = { store := right } ∨
      ∃ state : LanePopState ι δ ο ε, state.resultJobs = [] ∧
        state.store.OnlyLane laneId now ∧
        Store.Twin popIdOf (left.readied now) (state.store.laneKeys laneId) ∧
        right.popBatchJobs options now (wanted + 1) =
          state.popLanes options now (wanted + 1) [(laneId, now)] := by
  rw [mirrors.lanePop_eq options now (wanted + 1)]
  rcases mirrors.only.zrange with ⟨absent, listed⟩ | ⟨score, low, listed⟩
  · obtain ⟨pending, delayed, active⟩ := mirrors.unregistered absent
    refine .inl ⟨absent, ?_, pending, by rw [listed]; rfl⟩
    apply Store.readied_of_calm
    · simp [Store.lapsed, active]
    · simp [Redis.zrangeByScore, delayed]
  · right
    rw [listed, LanePopState.popLanes_refresh]
    by_cases visited : score = now
    · have first : last = none := by
        cases stamp : last with
        | none => rfl
        | some before =>
          have earlier := later before stamp
          rw [stamp, Option.getD_some] at low
          omega
      subst first
      have zero : now = 0 := by
        rw [Option.getD_none] at low
        omega
      subst zero
      obtain ⟨unlapsed, undue⟩ := mirrors.calm
      refine ⟨{ store := right }, rfl, mirrors.only, ?_, by rw [if_neg (not_not.mpr visited)]⟩
      rw [Store.readied_of_calm unlapsed undue]
      exact mirrors.twin
    · refine ⟨({ store := right } : LanePopState ι δ ο ε).refreshLane now laneId, rfl, ?_, ?_,
        by rw [if_pos visited]⟩
      · intro other found present
        change (right.lanes.insert laneId now).lookup other = some found at present
        by_cases same : other = laneId
        · subst same
          rw [AList.lookup_insert] at present
          exact ⟨rfl, (Option.some.inj present).ge⟩
        · rw [AList.lookup_insert_ne same] at present
          exact absurd (mirrors.only other found present).1 same
      · rw [LanePopState.laneKeys_refreshLane]
        exact mirrors.twin.readied now

/-- What the two pops leave mirrors again if their stores are twins and the lane is still the only
one. -/
theorem of_pop (mirrors : Mirrors popIdOf laneId last left right) (options : QueueOptions)
    (now batchSize : Nat)
    (twin : Store.Twin popIdOf (left.popBatchJobs options now (popIdOf now) batchSize).store
      ((right.popBatchJobs options now batchSize).store.laneKeys laneId))
    (only : (right.popBatchJobs options now batchSize).store.OnlyLane laneId now) :
    Mirrors popIdOf laneId (some now) (left.popBatchJobs options now (popIdOf now) batchSize).store
      (right.popBatchJobs options now batchSize).store := by
  obtain ⟨dedupe, cancellations⟩ := left.readied_keeps now
  obtain ⟨state, same, -, popped⟩ :=
    Store.popBatchJobs_uncancelled options now (popIdOf now) mirrors.uncancelled batchSize
  have leased := PopState.foldl_keeps (PopState.leaseJob options now (popIdOf now))
    (fun state : PopState ι δ ο ε => (state.store.dedupe, state.store.pendingCancellations))
    (fun state id => by
      unfold PopState.leaseJob
      split <;> rfl) (state.store.pending.take batchSize) (state.takePending batchSize)
  rw [← popped] at leased
  have leftDedupe := congrArg Prod.fst leased
  have leftCancellations := congrArg Prod.snd leased
  simp only [PopState.takePending, same, dedupe, cancellations] at leftDedupe leftCancellations
  have kept := right.popBatchJobs_preserves options now
    (fun store => store.dedupe = right.dedupe ∧ ∀ id, id ∉ store.pendingCancellations)
    (fun state target before => by
      unfold LanePopState.sweepCancellation
      dsimp only
      split
      · exact before
      split
      · exact before
      split <;> exact ⟨before.1, fun id present => before.2 id (AList.mem_erase.mp present).2⟩)
    (fun state target before => by
      obtain ⟨dedupe, cancellations⟩ := (state.store.laneKeys target).readied_keeps now
      rw [← state.laneKeys_refreshLane now target] at dedupe cancellations
      refine ⟨dedupe.trans before.1, fun id present => before.2 id ?_⟩
      change id ∈ (state.store.laneKeys target).pendingCancellations
      rw [← cancellations]
      exact present)
    (fun store target before => by
      rcases store.popJobFromLane_cases options now target with
        ⟨-, same⟩ | ⟨first, id, -, -, same⟩ | ⟨first, id, data, -, -, same⟩ <;>
        (rw [same]; exact before))
    (fun store target before => by
      unfold MultilaneStore.retireLane
      dsimp only
      split <;> exact before) batchSize ⟨rfl, mirrors.laneUncancelled⟩
  exact
    { twin
      dedupe := by rw [kept.1, leftDedupe, mirrors.dedupe]
      uncancelled := fun id => by
        rw [leftCancellations]
        exact mirrors.uncancelled id
      laneUncancelled := kept.2
      settled := MultilaneStore.settled_step mirrors.settled options (.pop now batchSize)
      registered := MultilaneStore.registered_step mirrors.registered mirrors.settled options
        (.pop now batchSize)
      only
      unpopped := fun never => absurd never (Option.some_ne_none now) }

end Mirrors

/-- A pop that asks for jobs finds at most one ready. -/
def Store.ServesOne (store : Store ι δ ο ε) : SharedOp ι δ ο ε → Prop
  | .pop now batchSize => 0 < batchSize → (store.ready now).length ≤ 1
  | _ => True

/-- A pop that asks for no job finds none lapsed and none due. -/
def Store.IdleAtZero (store : Store ι δ ο ε) : SharedOp ι δ ο ε → Prop
  | .pop now 0 => store.lapsed = [] ∧ Redis.zrangeByScore store.delayed now = []
  | _ => True

instance (store : Store ι δ ο ε) : ∀ op : SharedOp ι δ ο ε, Decidable (store.ServesOne op)
  | .pop now batchSize =>
    inferInstanceAs (Decidable (0 < batchSize → (store.ready now).length ≤ 1))
  | .push _ _ | .complete _ _ _ _ | .expireLease _ _ => .isTrue trivial

instance (store : Store ι δ ο ε) : ∀ op : SharedOp ι δ ο ε, Decidable (store.IdleAtZero op)
  | .pop now 0 =>
    inferInstanceAs
      (Decidable (store.lapsed = [] ∧ Redis.zrangeByScore store.delayed now = []))
  | .pop _ (_ + 1) | .push _ _ | .complete _ _ _ _ | .expireLease _ _ => .isTrue trivial

/-- One access on the single-lane queue. -/
def queueStep (options : QueueOptions) (popIdOf : Nat → String) (store : Store ι δ ο ε)
    (op : SharedOp ι δ ο ε) : Store ι δ ο ε :=
  store.step options (op.onQueue popIdOf)

/-- The same access on the multilane queue. -/
def laneStep (options : QueueOptions) (laneId : String) (store : MultilaneStore ι δ ο ε)
    (op : SharedOp ι δ ο ε) : MultilaneStore ι δ ο ε :=
  store.step options (op.onLane laneId)

/-- The ids the single-lane queue hands out. -/
def queueIds (options : QueueOptions) (popIdOf : Nat → String) (store : Store ι δ ο ε)
    (op : SharedOp ι δ ο ε) : List ι :=
  (store.handedOut options (op.onQueue popIdOf)).map (·.job.id)

/-- The ids the multilane queue hands out. -/
def laneIds (options : QueueOptions) (laneId : String) (store : MultilaneStore ι δ ο ε)
    (op : SharedOp ι δ ο ε) : List ι :=
  (store.handedOut options (op.onLane laneId)).map (·.2.job.id)

namespace Mirrors

variable {popIdOf : Nat → String} {laneId : String} {last : Option Nat} {left : Store ι δ ο ε}
  {right : MultilaneStore ι δ ο ε}

/-- A pop that asks for no job, with nothing lapsed and nothing due, does nothing. -/
theorem pop_none (mirrors : Mirrors popIdOf laneId last left right) (options : QueueOptions)
    {now : Nat} (later : ∀ before, last = some before → before < now) (unlapsed : left.lapsed = [])
    (undue : Redis.zrangeByScore left.delayed now = []) :
    Mirrors popIdOf laneId (some now) (left.popBatchJobs options now (popIdOf now) 0).store
        (right.popBatchJobs options now 0).store ∧
      queueIds options popIdOf left (.pop now 0) = [] ∧
      laneIds options laneId right (.pop now 0) = [] := by
  obtain ⟨state, same, untold, popped⟩ :=
    Store.popBatchJobs_uncancelled options now (popIdOf now) mirrors.uncancelled 0
  have still := Store.readied_of_calm unlapsed undue
  have kept := mirrors.lanePop_eq options now 0
  have leftStore : (left.popBatchJobs options now (popIdOf now) 0).store = left := by
    rw [popped]
    exact same.trans still
  refine ⟨mirrors.of_pop options now 0 ?_ ?_, ?_, ?_⟩
  · rw [leftStore, kept]
    exact mirrors.twin
  · rw [kept]
    intro other score found
    obtain ⟨named, low⟩ := mirrors.only other score found
    refine ⟨named, ?_⟩
    cases stamp : last with
    | none =>
      rw [stamp, Option.getD_none] at low
      omega
    | some before =>
      have earlier := later before stamp
      rw [stamp, Option.getD_some] at low
      omega
  · show (left.popBatchJobs options now (popIdOf now) 0).resultJobs.map _ = []
    rw [popped]
    exact congrArg (List.map _) untold
  · show (right.popBatchJobs options now 0).resultJobs.map _ = []
    rw [kept]
    rfl

omit [LinearOrder ι] in
/-- Dropping a lane registers none. -/
theorem only_retireLane {store : MultilaneStore ι δ ο ε} {now : Nat}
    (only : store.OnlyLane laneId now) : (store.retireLane laneId).OnlyLane laneId now := by
  unfold MultilaneStore.retireLane
  dsimp only
  split
  · intro other score found
    by_cases same : other = laneId
    · subst same
      rw [AList.lookup_erase] at found
      contradiction
    · rw [AList.lookup_erase_ne same] at found
      exact only other score found
  · exact only

/-- The visits to a lane without a pending job give nothing and leave its keys. -/
theorem popLanes_drained (options : QueueOptions) (now wanted : Nat)
    (state : LanePopState ι δ ο ε) (empty : (state.store.lane laneId).pending = [])
    (only : state.store.OnlyLane laneId now) :
    let after := state.popLanes options now wanted [(laneId, now)]
    after.resultJobs = state.resultJobs ∧
      after.store.laneKeys laneId = state.store.laneKeys laneId ∧
      after.store.OnlyLane laneId now := by
  cases wanted with
  | zero => exact ⟨rfl, rfl, only⟩
  | succ wanted =>
    rw [LanePopState.popLanes_empty options now laneId wanted state empty]
    exact ⟨rfl, state.store.laneKeys_retireLane laneId, only_retireLane only⟩

/-- A pending job of the readied queue has the same data on both sides. -/
theorem stored {right : Store ι δ ο ε} (twin : Store.Twin popIdOf left right) {id : ι}
    (waiting : id ∈ left.pending) :
    ∃ data, left.jobData id = some data ∧ right.jobData id = some data := by
  have live := left.live_of_mem (.inl waiting)
  obtain ⟨data, found⟩ := Option.isSome_iff_exists.mp ((twin.job id).exclusive.stored live)
  exact ⟨data, found, ((twin.job id).data live).trans found⟩

/-- A pop that finds at most one job ready hands out the same on both queues. -/
theorem pop_one (mirrors : Mirrors popIdOf laneId last left right) (options : QueueOptions)
    {now : Nat} (later : ∀ before, last = some before → before < now) (wanted : Nat)
    (one : (left.ready now).length ≤ 1) :
    Mirrors popIdOf laneId (some now)
        (left.popBatchJobs options now (popIdOf now) (wanted + 1)).store
        (right.popBatchJobs options now (wanted + 1)).store ∧
      queueIds options popIdOf left (.pop now (wanted + 1)) =
        laneIds options laneId right (.pop now (wanted + 1)) := by
  obtain ⟨state, same, untold, popped⟩ :=
    Store.popBatchJobs_uncancelled options now (popIdOf now) mirrors.uncancelled (wanted + 1)
  have few : (left.readied now).pending.length ≤ 1 := by
    rw [(left.pending_readied now).length_eq]
    exact one
  have leftEmpty (none : (left.readied now).pending = []) :
      (left.popBatchJobs options now (popIdOf now) (wanted + 1)).store = left.readied now ∧
        queueIds options popIdOf left (.pop now (wanted + 1)) = [] := by
    unfold queueIds Store.handedOut SharedOp.onQueue
    dsimp only
    rw [popped, same, none]
    refine ⟨?_, congrArg (List.map _) untold⟩
    show ({ state.store with pending := state.store.pending.drop (wanted + 1) } :
      Store ι δ ο ε) = left.readied now
    rw [same, none, List.drop_nil, ← none]
  rcases mirrors.refreshed options later wanted with
    ⟨absent, still, none, visited⟩ | ⟨visit, unserved, only, twin, visited⟩
  · obtain ⟨store, ids⟩ := leftEmpty (still.symm ▸ none)
    refine ⟨mirrors.of_pop options now (wanted + 1) ?_ ?_, ?_⟩
    · rw [store, visited, still]
      exact mirrors.twin
    · rw [visited]
      intro other score found
      have named := (mirrors.only other score found).1
      subst named
      exact absurd (AList.lookup_isSome.mp (by rw [found]; rfl)) absent
    · rw [ids]
      show [] = (right.popBatchJobs options now (wanted + 1)).resultJobs.map _
      rw [visited]
      rfl
  have lanePending : (visit.store.lane laneId).pending = (left.readied now).pending :=
    twin.pending
  cases pending : (left.readied now).pending with
  | nil =>
    obtain ⟨store, ids⟩ := leftEmpty pending
    obtain ⟨told, keys, still⟩ := popLanes_drained options now (wanted + 1) visit
      (lanePending.trans pending) only
    rw [← visited] at told keys still
    refine ⟨mirrors.of_pop options now (wanted + 1) ?_ still, ?_⟩
    · rw [store, keys]
      exact twin
    · rw [ids]
      show [] = (right.popBatchJobs options now (wanted + 1)).resultJobs.map _
      rw [told, unserved]
      rfl
  | cons id rest =>
    have alone : rest = [] := by
      rw [pending, List.length_cons] at few
      exact List.length_eq_zero_iff.mp (by omega)
    subst alone
    have waiting : id ∈ _ := pending ▸ List.mem_cons_self
    obtain ⟨data, found, laneFound⟩ := stored twin waiting
    have taken : (state.takePending (wanted + 1)).store =
        { left.readied now with pending := [] } := by
      show ({ state.store with pending := state.store.pending.drop (wanted + 1) } :
        Store ι δ ο ε) = _
      rw [same, pending, List.drop_succ_cons, List.drop_nil]
    have held : (state.takePending (wanted + 1)).store.jobData id = some data := by
      rw [taken]
      exact found
    have first : left.popBatchJobs options now (popIdOf now) (wanted + 1) =
        PopState.leaseJob options now (popIdOf now) (state.takePending (wanted + 1)) id := by
      rw [popped, same, pending, List.take_succ_cons, List.take_nil, List.foldl_cons,
        List.foldl_nil]
    obtain ⟨-, -, -, job, told, named⟩ :=
      PopState.lists_leaseJob options now (popIdOf now) (state.takePending (wanted + 1)) held
    have leased := twin.lease options now pending found (state.takePending (wanted + 1)) taken
    have waiting : (visit.store.lane laneId).pending = [] ++ [id] := lanePending.trans pending
    rw [visit.popLanes_serve options now laneId wanted waiting laneFound] at visited
    obtain ⟨laneTold, keys, still⟩ := popLanes_drained options now wanted
      { visit with
        store := visit.store.writeKeys laneId
          ({ visit.store.laneKeys laneId with pending := [] }.leaseFromLane options now id data).2
        resultJobs := visit.resultJobs ++ [(laneId,
          ({ visit.store.laneKeys laneId with pending := [] }.leaseFromLane options now id
            data).1)] }
      (by simp [MultilaneStore.writeKeys, Store.leaseFromLane, Store.grantLease, Store.setMeta])
      only
    rw [← visited] at laneTold keys still
    refine ⟨mirrors.of_pop options now (wanted + 1) ?_ still, ?_⟩
    · rw [first, keys, MultilaneStore.laneKeys_writeKeys]
      exact leased
    · show (left.popBatchJobs options now (popIdOf now) (wanted + 1)).resultJobs.map _ =
        (right.popBatchJobs options now (wanted + 1)).resultJobs.map _
      rw [first, told, laneTold, unserved, show (state.takePending (wanted + 1)).resultJobs = []
        from untold]
      simp only [List.nil_append, List.map_cons, List.map_nil, named]
      rfl

/-- A pop that finds more than one job ready starts with different jobs. -/
theorem pop_many (mirrors : Mirrors popIdOf laneId last left right) (options : QueueOptions)
    {now : Nat} (later : ∀ before, last = some before → before < now) (wanted : Nat)
    (many : 1 < (left.ready now).length) :
    ∃ one two leftRest rightRest, one ≠ two ∧
      queueIds options popIdOf left (.pop now (wanted + 1)) = one :: leftRest ∧
      laneIds options laneId right (.pop now (wanted + 1)) = two :: rightRest := by
  obtain ⟨state, same, untold, popped⟩ :=
    Store.popBatchJobs_uncancelled options now (popIdOf now) mirrors.uncancelled (wanted + 1)
  rw [← (left.pending_readied now).length_eq] at many
  rcases mirrors.refreshed options later wanted with
    ⟨-, still, none, -⟩ | ⟨visit, unserved, -, twin, visited⟩
  · rw [still, none] at many
    contradiction
  have lanePending : (visit.store.lane laneId).pending = (left.readied now).pending :=
    twin.pending
  cases pending : (left.readied now).pending with
  | nil =>
    rw [pending] at many
    contradiction
  | cons one rest =>
    rw [pending, List.length_cons] at many
    have more : rest ≠ [] := List.length_pos_iff.mp (by omega)
    have split : rest = rest.dropLast ++ [rest.getLast more] :=
      (List.dropLast_append_getLast more).symm
    have ends : (visit.store.lane laneId).pending =
        (one :: rest.dropLast) ++ [rest.getLast more] := by
      rw [lanePending, pending, List.cons_append, ← split]
    have different : one ≠ rest.getLast more := by
      intro repeated
      have counted : (left.readied now).pending.count one ≤ 1 := by
        have bound := (twin.job one).exclusive.one
        unfold JobView.live at bound
        exact le_trans (by simp only [Store.view]; omega) bound
      have again : 0 < rest.count one :=
        List.count_pos_iff.mpr (repeated ▸ List.getLast_mem more)
      rw [pending, List.count_cons_self] at counted
      omega
    have first : one ∈ _ := pending ▸ List.mem_cons_self
    have last : rest.getLast more ∈ _ := pending ▸ List.mem_cons_of_mem _ (List.getLast_mem more)
    obtain ⟨data, found, -⟩ := stored twin first
    obtain ⟨laneData, -, laneFound⟩ := stored twin last
    have held : (state.takePending (wanted + 1)).store.jobData one = some data := by
      show state.store.jobData one = some data
      rw [same]
      exact found
    obtain ⟨-, -, -, job, told, named⟩ :=
      PopState.lists_leaseJob options now (popIdOf now) (state.takePending (wanted + 1)) held
    obtain ⟨leftMore, leftTold⟩ := PopState.leaseJobs_append options now (popIdOf now)
      (rest.take wanted)
      (PopState.leaseJob options now (popIdOf now) (state.takePending (wanted + 1)) one)
    rw [visit.popLanes_serve options now laneId wanted ends laneFound] at visited
    obtain ⟨rightMore, rightTold⟩ := LanePopState.popLanes_appends options now wanted
      [(laneId, now)]
      { visit with
        store := visit.store.writeKeys laneId
          ({ visit.store.laneKeys laneId with pending := one :: rest.dropLast }.leaseFromLane
            options now (rest.getLast more) laneData).2
        resultJobs := visit.resultJobs ++ [(laneId,
          ({ visit.store.laneKeys laneId with pending := one :: rest.dropLast }.leaseFromLane
            options now (rest.getLast more) laneData).1)] }
    refine ⟨one, rest.getLast more, leftMore.map (·.job.id), rightMore.map (·.2.job.id),
      different, ?_, ?_⟩
    · show (left.popBatchJobs options now (popIdOf now) (wanted + 1)).resultJobs.map _ = _
      rw [popped, same, pending, List.take_succ_cons, List.foldl_cons, leftTold, told,
        show (state.takePending (wanted + 1)).resultJobs = [] from untold]
      simp only [List.nil_append, List.cons_append, List.map_cons, named]
    · show (right.popBatchJobs options now (wanted + 1)).resultJobs.map _ = _
      rw [visited, rightTold, unserved]
      simp only [List.nil_append, List.cons_append, List.map_cons]
      rfl

/-- An access that meets both conditions keeps the queues mirrored and hands out the same. -/
theorem step (mirrors : Mirrors popIdOf laneId last left right) (options : QueueOptions)
    (op : SharedOp ι δ ο ε)
    (later : ∀ before now, last = some before → op.popSecond = some now → before < now)
    (idle : left.IdleAtZero op) (one : left.ServesOne op) :
    Mirrors popIdOf laneId (op.popSecond <|> last) (queueStep options popIdOf left op)
        (laneStep options laneId right op) ∧
      queueIds options popIdOf left op = laneIds options laneId right op := by
  cases op with
  | push now job => exact ⟨mirrors.push now job, rfl⟩
  | pop now batchSize =>
    have since : ∀ before, last = some before → before < now :=
      fun before stamp => later before now stamp rfl
    cases batchSize with
    | zero =>
      obtain ⟨kept, one, two⟩ := mirrors.pop_none options since idle.1 idle.2
      exact ⟨kept, one.trans two.symm⟩
    | succ wanted => exact mirrors.pop_one options since wanted (one (Nat.succ_pos wanted))
  | complete now job stamp result => exact ⟨mirrors.complete options now job stamp result, rfl⟩
  | expireLease id stamp => exact ⟨mirrors.expireLease options id stamp, rfl⟩

/-- From mirrored queues a run hands out the same on both exactly if no pop finds more than one job
ready. -/
theorem run (mirrors : Mirrors popIdOf laneId last left right) (options : QueueOptions)
    (ops : List (SharedOp ι δ ο ε))
    (later : ∀ before, last = some before → ∀ now ∈ ops.filterMap SharedOp.popSecond, before < now)
    (increasing : (ops.filterMap SharedOp.popSecond).Pairwise (· < ·))
    (idle : Transition.Along (queueStep options popIdOf) Store.IdleAtZero left ops) :
    Transition.trace (laneStep options laneId) (laneIds options laneId) right ops =
        Transition.trace (queueStep options popIdOf) (queueIds options popIdOf) left ops ↔
      Transition.Along (queueStep options popIdOf) Store.ServesOne left ops := by
  induction ops generalizing last left right with
  | nil => exact ⟨fun _ => trivial, fun _ => rfl⟩
  | cons op rest ih =>
    obtain ⟨idleHere, idleAfter⟩ := idle
    have since : ∀ before now, last = some before → op.popSecond = some now → before < now := by
      intro before now stamp second
      exact later before stamp now
        (List.mem_filterMap.mpr ⟨op, List.mem_cons_self, second⟩)
    simp only [Transition.trace, Transition.Along]
    by_cases one : left.ServesOne op
    · obtain ⟨kept, same⟩ := mirrors.step options op since idleHere one
      rw [same, List.append_cancel_left_eq, and_iff_right one]
      refine ih kept ?_ ?_ idleAfter
      · intro before stamp now member
        cases second : op.popSecond with
        | none =>
          rw [second] at stamp
          refine later before stamp now ?_
          rw [List.filterMap_cons_none second]
          exact member
        | some here =>
          rw [second] at stamp
          rw [List.filterMap_cons_some second] at increasing
          obtain rfl : here = before := Option.some.inj stamp
          exact (List.pairwise_cons.mp increasing).1 now member
      · exact increasing.sublist
          ((List.sublist_cons_self op rest).filterMap SharedOp.popSecond)
    · refine ⟨fun same => ?_, fun both => absurd both.1 one⟩
      exfalso
      cases op with
      | pop now batchSize =>
        cases batchSize with
        | zero => exact one fun positive => absurd positive (Nat.lt_irrefl 0)
        | succ wanted =>
          have many : 1 < (left.ready now).length := by
            by_contra few
            exact one fun _ => Nat.le_of_not_lt few
          obtain ⟨first, second, leftRest, rightRest, different, leftTold, rightTold⟩ :=
            mirrors.pop_many options (fun before stamp => since before now stamp rfl) wanted many
          rw [leftTold, rightTold, List.cons_append, List.cons_append] at same
          exact different (List.cons.inj same).1.symm
      | _ => exact one trivial

end Mirrors

/-- One lane hands out the job ids a single-lane queue hands out, in the same order, exactly in the
runs in which every pop that asks for jobs finds at most one ready: pending, with its lease gone, or
due. The pops are at increasing seconds, and one that asks for no job finds none lapsed or due. -/
theorem one_lane_like_queue (options : QueueOptions) (popIdOf : Nat → String) (laneId : String)
    (ops : List (SharedOp ι δ ο ε))
    (increasing : (ops.filterMap SharedOp.popSecond).Pairwise (· < ·))
    (idle : Transition.Along (queueStep options popIdOf) Store.IdleAtZero Store.empty ops) :
    Transition.trace (laneStep options laneId) (laneIds options laneId) MultilaneStore.empty ops =
        Transition.trace (queueStep options popIdOf) (queueIds options popIdOf) Store.empty ops ↔
      Transition.Along (queueStep options popIdOf) Store.ServesOne Store.empty ops :=
  Mirrors.empty.run options ops (fun _ stamp => absurd stamp.symm (Option.some_ne_none _))
    increasing idle

/-- A job that is alone all the time: given back, its second lease lapsed, deferred. -/
def aloneInLane : List (SharedOp Nat String Nat String) :=
  let job : Job Nat String :=
    { id := 7, data := "tx", attempts := 1, createdAt := 0, processedAt := some 1
      finishedAt := none }
  [.push 0 { data := "tx", id := 7 },
    .pop 1 2,
    .complete 2 job (1, 1) (.error (.nack "busy" none .last)),
    .pop 3 1,
    .expireLease 7 (3, 2),
    .pop 5 4,
    .complete 6 job (5, 4) (.error (.defer (.fromSecs 3) .first)),
    .pop 8 1,
    .pop 9 1]

/-- It is handed out alike. -/
theorem one_lane_aloneInLane :
    Transition.trace (laneStep {} "a") (laneIds {} "a") MultilaneStore.empty aloneInLane =
      Transition.trace (queueStep {} toString) (queueIds {} toString) Store.empty aloneInLane :=
  (one_lane_like_queue {} toString "a" aloneInLane (by decide) (by decide +kernel)).mpr
    (by decide +kernel)

/-- Two jobs pushed one after the other. -/
def twoPushes : List (SharedOp Nat String Nat String) :=
  [.push 0 { data := "tx", id := 1 }, .push 0 { data := "tx", id := 2 }, .pop 1 2]

/-- A job given back at position first while another waits. -/
def firstAgain : List (SharedOp Nat String Nat String) :=
  [.push 0 { data := "tx", id := 1 },
    .pop 1 1,
    .push 1 { data := "tx", id := 2 },
    .complete 2
      { id := 1, data := "tx", attempts := 1, createdAt := 0, processedAt := some 1
        finishedAt := none }
      (1, 1) (.error (.nack "busy" none .first)),
    .pop 3 2]

/-- The lane serves the later push first, and the job at position first last. -/
theorem lane_reverses_queue :
    Transition.trace (queueStep {} toString) (queueIds {} toString) Store.empty twoPushes =
        [1, 2] ∧
      Transition.trace (laneStep {} "a") (laneIds {} "a") MultilaneStore.empty twoPushes =
        [2, 1] ∧
      Transition.trace (queueStep {} toString) (queueIds {} toString) Store.empty firstAgain =
        [1, 1, 2] ∧
      Transition.trace (laneStep {} "a") (laneIds {} "a") MultilaneStore.empty firstAgain =
        [1, 2, 1] := by
  decide +kernel

end OpenEngine.Queue
