import OpenEngine.Queue.LaneTurns

/-!
# Turns of the lanes

Two lanes that always hold a pending job take turns as long as every batch comes at a second later
than every score and stays among the lanes of the oldest one, or as long as every batch serves the
registered lanes whole rounds. Within one second the order of the lanes is by name alone, and there
the first lane is served again and again.
-/

namespace OpenEngine.Queue

variable {ι δ ο ε : Type}

/-- A batch in turn: at a second later than every lane's last visit it asks for at most one job, or
for no more jobs than there are lanes with a pending job among those that were visited last the
longest ago. -/
def MultilaneStore.TakesTurns (store : MultilaneStore ι δ ο ε) : LaneOp ι δ ο ε → Prop
  | .pop now batchSize =>
    store.VisitedBefore now ∧ (batchSize ≤ 1 ∨ store.OldestWaiting batchSize)
  | _ => True

/-- A batch of whole rounds: every registered lane has its share pending already. -/
def MultilaneStore.TakesRounds (store : MultilaneStore ι δ ο ε) : LaneOp ι δ ο ε → Prop
  | .pop _ batchSize => ∃ rounds, batchSize = rounds * store.lanes.keys.length ∧
      ∀ laneId ∈ store.lanes, rounds ≤ (store.lane laneId).pending.length
  | _ => True

/-- Both lanes have a pending job. -/
def MultilaneStore.BothPending (first second : String) (store : MultilaneStore ι δ ο ε) : Prop :=
  (store.lane first).pending ≠ [] ∧ (store.lane second).pending ≠ []

instance (first second : String) (store : MultilaneStore ι δ ο ε) :
    Decidable (store.BothPending first second) :=
  decidable_of_iff
    ((store.lane first).pending.isEmpty = false ∧ (store.lane second).pending.isEmpty = false) (by
      simp [MultilaneStore.BothPending])

/-- What keeps the scores of two lanes keeps their order. -/
theorem MultilaneStore.Ahead.of_lookup {store after : MultilaneStore ι δ ο ε}
    {first second : String} (ahead : store.Ahead first second)
    (one : after.lanes.lookup first = store.lanes.lookup first)
    (two : after.lanes.lookup second = store.lanes.lookup second) : after.Ahead first second := by
  unfold Ahead
  rw [one, two]
  exact ahead

/-- A lane with a pending job is registered. -/
theorem MultilaneStore.Registered.of_pending {store : MultilaneStore ι δ ο ε}
    (registered : store.Registered) {laneId : String}
    (waiting : (store.lane laneId).pending ≠ []) : laneId ∈ store.lanes :=
  registered laneId (.inl waiting)

variable [LinearOrder ι]

/-- An operation other than a pop keeps the scores of the registered lanes. -/
theorem MultilaneStore.lookup_lanes_step {store : MultilaneStore ι δ ο ε}
    (settled : ∀ id, store.Settled id) (options : QueueOptions) (op : LaneOp ι δ ο ε)
    (other : ∀ now batchSize, op ≠ .pop now batchSize) {laneId : String}
    (registered : laneId ∈ store.lanes) :
    (store.step options op).lanes.lookup laneId = store.lanes.lookup laneId := by
  cases op with
  | push now pushed job =>
    have kept : (Redis.zaddNx store.lanes pushed 0).lookup laneId = store.lanes.lookup laneId := by
      unfold Redis.zaddNx
      split
      · rfl
      · rename_i absent
        exact AList.lookup_insert_ne fun same => absent (same ▸ registered)
    simp only [MultilaneStore.step, pushToLane]
    split
    · rfl
    · split <;> exact kept
  | pop now batchSize => exact absurd rfl (other now batchSize)
  | complete now job result =>
    simp only [MultilaneStore.step, completeJob]
    split <;> rfl
  | expireLease id token => rfl
  | postSuccess =>
    rcases MultilaneStore.postSuccess_eq settled options with same | trimmed
    · rw [MultilaneStore.step, same]
    · rw [MultilaneStore.step, trimmed]
  | postFail =>
    rcases MultilaneStore.postFail_eq settled options with same | trimmed
    · rw [MultilaneStore.step, same]
    · rw [MultilaneStore.step, trimmed]
  | cancel now id =>
    simp only [MultilaneStore.step, cancelJob]
    split <;> rfl

/-- Two lanes taking turns: the lane ahead was served as often as the other, or once less after the
first was served. -/
structure MultilaneStore.InTurn (first second : String) (store : MultilaneStore ι δ ο ε)
    (told : List (String × BorrowedJob ι δ)) : Prop where
  /-- Every job is settled. -/
  settled : ∀ id, store.Settled id
  /-- The occupied lanes are registered. -/
  registered : store.Registered
  /-- Whose turn it is. -/
  turn : store.Ahead first second ∧ servedFrom first told = servedFrom second told ∨
    store.Ahead second first ∧ servedFrom first told = servedFrom second told + 1

/-- Two lanes served equally often so far. -/
structure MultilaneStore.Level (first second : String) (store : MultilaneStore ι δ ο ε)
    (told : List (String × BorrowedJob ι δ)) : Prop where
  /-- Every job is settled. -/
  settled : ∀ id, store.Settled id
  /-- The occupied lanes are registered. -/
  registered : store.Registered
  /-- Both were served equally often. -/
  equal : servedFrom first told = servedFrom second told

section Steps

variable {store : MultilaneStore ι δ ο ε} {first second : String}
  {told : List (String × BorrowedJob ι δ)} (options : QueueOptions)

/-- Batches in turn keep two lanes taking turns. -/
theorem MultilaneStore.InTurn.step (inTurn : store.InTurn first second told)
    (different : first ≠ second) (op : LaneOp ι δ ο ε) (turns : store.TakesTurns op)
    (waiting : store.BothPending first second) :
    (store.step options op).InTurn first second (told ++ store.handedOut options op) := by
  refine ⟨MultilaneStore.settled_step inTurn.settled options op,
    MultilaneStore.registered_step inTurn.registered inTurn.settled options op, ?_⟩
  have idle (other : ∀ now batchSize, op ≠ .pop now batchSize)
      (jobs : store.handedOut options op = []) :
      (store.step options op).Ahead first second ∧
          servedFrom first (told ++ store.handedOut options op) =
            servedFrom second (told ++ store.handedOut options op) ∨
        (store.step options op).Ahead second first ∧
          servedFrom first (told ++ store.handedOut options op) =
            servedFrom second (told ++ store.handedOut options op) + 1 := by
    have one := MultilaneStore.lookup_lanes_step inTurn.settled options op other
      (inTurn.registered.of_pending waiting.1)
    have two := MultilaneStore.lookup_lanes_step inTurn.settled options op other
      (inTurn.registered.of_pending waiting.2)
    rw [jobs, List.append_nil]
    rcases inTurn.turn with ⟨ahead, count⟩ | ⟨ahead, count⟩
    · exact .inl ⟨ahead.of_lookup one two, count⟩
    · exact .inr ⟨ahead.of_lookup two one, count⟩
  cases op with
  | pop now batchSize =>
    obtain ⟨later, oldest⟩ := turns
    rw [servedFrom_append, servedFrom_append]
    simp only [handedOut, MultilaneStore.step]
    rcases inTurn.turn with ⟨ahead, count⟩ | ⟨ahead, count⟩
    · rcases store.pop_ahead options now inTurn.settled different ahead waiting.1 waiting.2 later
        oldest with ⟨alike, still⟩ | ⟨served, behind⟩
      · exact .inl ⟨still, by omega⟩
      · exact .inr ⟨behind, by omega⟩
    · rcases store.pop_ahead options now inTurn.settled different.symm ahead waiting.2 waiting.1
        later oldest with ⟨alike, still⟩ | ⟨served, behind⟩
      · exact .inr ⟨still, by omega⟩
      · exact .inl ⟨behind, by omega⟩
  | _ => exact idle (by simp) rfl

/-- Batches of whole rounds keep two lanes level. -/
theorem MultilaneStore.Level.step (level : store.Level first second told)
    (op : LaneOp ι δ ο ε) (rounds : store.TakesRounds op)
    (waiting : store.BothPending first second) :
    (store.step options op).Level first second (told ++ store.handedOut options op) := by
  refine ⟨MultilaneStore.settled_step level.settled options op,
    MultilaneStore.registered_step level.registered level.settled options op, ?_⟩
  rw [servedFrom_append, servedFrom_append, level.equal]
  cases op with
  | pop now batchSize =>
    obtain ⟨rounds, rfl, enough⟩ := rounds
    simp only [handedOut]
    rw [MultilaneStore.pop_rounds options now level.settled rounds enough
        (level.registered.of_pending waiting.1),
      MultilaneStore.pop_rounds options now level.settled rounds enough
        (level.registered.of_pending waiting.2)]
  | _ => rfl

end Steps

/-- The jobs a run hands out, with their lanes. -/
def MultilaneStore.served (options : QueueOptions) (store : MultilaneStore ι δ ο ε)
    (ops : List (LaneOp ι δ ο ε)) : List (String × BorrowedJob ι δ) :=
  Transition.trace (MultilaneStore.step options) (MultilaneStore.handedOut options) store ops

/-- Two lanes of which the first is ahead, and which always have a pending job, take turns while
every batch does. -/
theorem MultilaneStore.turns_from_ahead (options : QueueOptions) {start : MultilaneStore ι δ ο ε}
    (settled : ∀ id, start.Settled id) (registered : start.Registered)
    (ops : List (LaneOp ι δ ο ε)) {first second : String} (different : first ≠ second)
    (ahead : start.Ahead first second)
    (turns : Transition.Along (MultilaneStore.step options)
      (fun store op => store.TakesTurns op ∧ store.BothPending first second) start ops) :
    servedFrom second (start.served options ops) ≤ servedFrom first (start.served options ops) ∧
      servedFrom first (start.served options ops) ≤
        servedFrom second (start.served options ops) + 1 := by
  have inTurn := Transition.run_traced (MultilaneStore.handedOut options)
    (MultilaneStore.InTurn first second)
    (fun store op told inTurn along => inTurn.step options different op along.1 along.2)
    start ops [] ⟨settled, registered, .inl ⟨ahead, rfl⟩⟩ turns
  have count : servedFrom first (start.served options ops) =
        servedFrom second (start.served options ops) ∨
      servedFrom first (start.served options ops) =
        servedFrom second (start.served options ops) + 1 :=
    inTurn.turn.imp And.right And.right
  omega

/-- From a settled queue with its lanes registered, two lanes that always have a pending job are
served alike while every batch takes turns, or every batch takes whole rounds. -/
theorem MultilaneStore.take_turns_from (options : QueueOptions) (start : MultilaneStore ι δ ο ε)
    (settled : ∀ id, start.Settled id) (registered : start.Registered)
    (ops : List (LaneOp ι δ ο ε)) {first second : String} (different : first ≠ second)
    (turns :
      Transition.Along (MultilaneStore.step options)
          (fun store op => store.TakesTurns op ∧ store.BothPending first second) start ops ∨
        Transition.Along (MultilaneStore.step options)
          (fun store op => store.TakesRounds op ∧ store.BothPending first second) start ops) :
    servedFrom first (start.served options ops) ≤
        servedFrom second (start.served options ops) + 1 ∧
      servedFrom second (start.served options ops) ≤
        servedFrom first (start.served options ops) + 1 := by
  rcases turns with turns | rounds
  · cases ops with
    | nil => exact ⟨Nat.zero_le _, Nat.zero_le _⟩
    | cons op rest =>
      have waiting := turns.1.2
      rcases MultilaneStore.ahead_total different (registered.of_pending waiting.1)
          (registered.of_pending waiting.2) with ahead | ahead
      · have near := MultilaneStore.turns_from_ahead options settled registered (op :: rest)
          different ahead turns
        omega
      · have near := MultilaneStore.turns_from_ahead options settled registered (op :: rest)
          different.symm ahead (turns.imp fun _ _ both => ⟨both.1, both.2.symm⟩)
        omega
  · have level := Transition.run_traced (MultilaneStore.handedOut options)
      (MultilaneStore.Level first second)
      (fun store op told level along => level.step options op along.1 along.2)
      start ops [] ⟨settled, registered, rfl⟩ rounds
    have equal : servedFrom first (start.served options ops) =
        servedFrom second (start.served options ops) := level.equal
    omega

/-- From every reachable state, while every batch takes turns, or every batch takes whole rounds,
and two lanes always have a pending job, neither lane is served more than once more than the
other. -/
theorem MultilaneStore.lanes_take_turns (options : QueueOptions)
    (earlier ops : List (LaneOp ι δ ο ε)) {first second : String} (different : first ≠ second)
    (turns :
      Transition.Along (MultilaneStore.step options)
          (fun store op => store.TakesTurns op ∧ store.BothPending first second)
          (Transition.run (MultilaneStore.step options) MultilaneStore.empty earlier) ops ∨
        Transition.Along (MultilaneStore.step options)
          (fun store op => store.TakesRounds op ∧ store.BothPending first second)
          (Transition.run (MultilaneStore.step options) MultilaneStore.empty earlier) ops) :
    let jobs := (Transition.run (MultilaneStore.step options) MultilaneStore.empty
      earlier).served options ops
    servedFrom first jobs ≤ servedFrom second jobs + 1 ∧
      servedFrom second jobs ≤ servedFrom first jobs + 1 :=
  MultilaneStore.take_turns_from options _ (MultilaneStore.settled_run options earlier)
    (MultilaneStore.registered_after options earlier) ops different turns

/-- Four lanes, two jobs in each. -/
def fourLanes : List (LaneOp Nat String Nat String) :=
  [.push 0 "a" { data := "tx", id := 0 }, .push 0 "b" { data := "tx", id := 1 },
    .push 0 "c" { data := "tx", id := 2 }, .push 0 "d" { data := "tx", id := 3 },
    .push 0 "a" { data := "tx", id := 4 }, .push 0 "b" { data := "tx", id := 5 },
    .push 0 "c" { data := "tx", id := 6 }, .push 0 "d" { data := "tx", id := 7 }]

/-- Three batches of two jobs over the four lanes, each in a second of its own: lane `a` is served
twice and lane `c` once. -/
theorem MultilaneStore.fourLanes_take_turns :
    let jobs := (Transition.run (MultilaneStore.step {}) MultilaneStore.empty fourLanes).served {}
      [.pop 1 2, .pop 2 2, .pop 3 2]
    servedFrom "a" jobs = 2 ∧ servedFrom "a" jobs ≤ servedFrom "c" jobs + 1 := by
  intro jobs
  have turns := MultilaneStore.lanes_take_turns (ο := Nat) {} fourLanes
    [.pop 1 2, .pop 2 2, .pop 3 2] (by decide : "a" ≠ "c") (by
      refine .inl ⟨⟨⟨?_, .inr ⟨0, ?_, ?_⟩⟩, ?_⟩, ⟨⟨?_, .inr ⟨0, ?_, ?_⟩⟩, ?_⟩,
        ⟨⟨?_, .inr ⟨1, ?_, ?_⟩⟩, ?_⟩, trivial⟩ <;> decide +kernel)
  have served : servedFrom "a" jobs = 2 := by decide +kernel
  exact ⟨served, turns.1⟩

section OneSecond

variable {store : MultilaneStore ι δ ο ε} (options : QueueOptions) (now : Nat)

/-- A batch of one job at the second the first lane in order was last visited serves it again and
keeps the order. -/
theorem MultilaneStore.pop_again (settled : ∀ id, store.Settled id) {first : String}
    {rest : List (String × Nat)} (listed : Redis.zrange store.lanes = (first, now) :: rest)
    (waiting : (store.lane first).pending ≠ []) :
    ∃ job, (store.popBatchJobs options now 1).resultJobs = [(first, job)] ∧
      (store.popBatchJobs options now 1).store.lanes = store.lanes ∧
      (∀ other ≠ first,
        (store.popBatchJobs options now 1).store.lane other = store.lane other) ∧
      (store.lane first).pending.length =
        ((store.popBatchJobs options now 1).store.lane first).pending.length + 1 := by
  obtain ⟨swept, loop, lanes, lane, jobs, kept⟩ :=
    store.popBatchJobs_eq options now 1 settled
  rw [loop]
  rcases MultilaneStore.popJobFromLane_settled options now kept first with
    ⟨empty, -⟩ | ⟨job, after, popped, others, same, taken⟩
  · rw [lane] at empty
    exact absurd empty waiting
  · have reached : swept.popLanes options now 1 (Redis.zrange store.lanes) =
        { swept with store := after, resultJobs := swept.resultJobs ++ [(first, job)] } := by
      rw [listed, LanePopState.popLanes, LanePopState.seekJob]
      simp only [ne_eq, not_true_eq_false, ↓reduceIte, popped]
      rfl
    rw [reached]
    refine ⟨job, by simp [jobs], same.trans lanes, ?_, ?_⟩
    · intro other different
      rw [others other different, lane]
    · rw [← lane]
      exact taken

/-- Within one second the lane that is first in order is served by every batch of one job. -/
theorem MultilaneStore.starves (settled : ∀ id, store.Settled id) {first second : String}
    (different : second ≠ first) {rest : List (String × Nat)}
    (listed : Redis.zrange store.lanes = (first, now) :: rest) (batches : Nat)
    (enough : batches < (store.lane first).pending.length)
    (waiting : (store.lane second).pending ≠ []) :
    Transition.Along (MultilaneStore.step options)
        (fun store _ => store.BothPending first second) store
        (List.replicate batches (.pop now 1)) ∧
      servedFrom first (store.served options (List.replicate batches (.pop now 1))) = batches ∧
      servedFrom second (store.served options (List.replicate batches (.pop now 1))) = 0 := by
  induction batches generalizing store with
  | zero => exact ⟨trivial, rfl, rfl⟩
  | succ batches ih =>
    have here : (store.lane first).pending ≠ [] :=
      List.ne_nil_of_length_pos (Nat.zero_lt_of_lt enough)
    obtain ⟨job, jobs, lanes, others, taken⟩ :=
      MultilaneStore.pop_again options now settled listed here
    have next : MultilaneStore.step options store (.pop now 1) =
        (store.popBatchJobs options now 1).store := rfl
    obtain ⟨along, served, unserved⟩ := ih
      (MultilaneStore.settled_step settled options (.pop now 1))
      (by rw [next, lanes, listed]) (by rw [next]; omega)
      (by rw [next, others second different]; exact waiting)
    have split : store.served options (List.replicate (batches + 1) (.pop now 1)) =
        [(first, job)] ++
          (store.step options (.pop now 1)).served options
            (List.replicate batches (.pop now 1)) := by
      rw [← jobs]
      rfl
    refine ⟨⟨⟨here, waiting⟩, along⟩, ?_, ?_⟩
    · rw [split, servedFrom_append, servedFrom_single, if_pos rfl, served, Nat.add_comm]
    · rw [split, servedFrom_append, servedFrom_single, if_neg different.symm, unserved]

end OneSecond

/-- Two lanes visited in second 5, lane `b` with a job left. -/
def visitedAtFive : List (LaneOp Nat String Nat String) :=
  [.push 0 "a" { data := "tx", id := 0 }, .push 0 "b" { data := "tx", id := 1 },
    .push 0 "b" { data := "tx", id := 2 }, .pop 5 1, .pop 5 1]

/-- The queue `visitedAtFive` reaches, with more jobs pushed to lane `a`. -/
def visitedAtFiveWith (jobs : Nat) : List (LaneOp Nat String Nat String) :=
  visitedAtFive ++
    (List.range jobs).map fun number => .push 5 "a" { data := "tx", id := number + 3 }

/-- The pushed jobs are pending in lane `a`, and nothing else has changed. -/
theorem visitedAtFiveWith_state (jobs : Nat) :
    let store := Transition.run (MultilaneStore.step {}) MultilaneStore.empty
      (visitedAtFiveWith jobs)
    Redis.zrange store.lanes = [("a", 5), ("b", 5)] ∧ "a" ∈ store.lanes ∧
      (store.lane "a").pending.length = jobs ∧ (store.lane "b").pending ≠ [] ∧
      ∀ id ∈ store.dedupe, id < jobs + 3 := by
  induction jobs with
  | zero => decide +kernel
  | succ jobs ih =>
    obtain ⟨listed, registered, pending, other, known⟩ := ih
    have split : visitedAtFiveWith (jobs + 1) =
        visitedAtFiveWith jobs ++ [.push 5 "a" { data := "tx", id := jobs + 3 }] := by
      simp [visitedAtFiveWith, List.range_succ]
    rw [split, Transition.run_append]
    generalize Transition.run (MultilaneStore.step {}) MultilaneStore.empty
      (visitedAtFiveWith jobs) = store at listed registered pending other known ⊢
    have fresh : jobs + 3 ∉ store.dedupe := fun member => absurd (known _ member) (by omega)
    simp only [Transition.run_cons, Transition.run_nil, MultilaneStore.step,
      MultilaneStore.pushToLane, fresh, ↓reduceIte, Option.getD_none, Redis.zaddNx, registered,
      show ¬0 < delayToQueueSeconds Duration.zero by decide]
    refine ⟨listed, trivial, ?_, ?_, ?_⟩
    · simp [pending]
    · simpa using other
    · intro id member
      rcases Finset.mem_insert.mp member with same | earlier
      · omega
      · have := known id earlier
        omega

/-- With two lanes and batches of one job no constant bounds the difference: within one second lane
`a` is served by every batch. -/
theorem MultilaneStore.no_bound_in_one_second :
    ¬∃ bound : Nat, ∀ (earlier : List (LaneOp Nat String Nat String)) (clocks : List Nat),
      let start := Transition.run (MultilaneStore.step {}) MultilaneStore.empty earlier
      let pops : List (LaneOp Nat String Nat String) := clocks.map fun now => .pop now 1
      clocks.Pairwise (· ≤ ·) → (Redis.zrange start.lanes).length = 2 →
      Transition.Along (MultilaneStore.step {}) (fun store _ => store.BothPending "a" "b")
        start pops →
      servedFrom "a" (start.served {} pops) ≤ servedFrom "b" (start.served {} pops) + bound := by
  rintro ⟨bound, bounded⟩
  obtain ⟨listed, -, pending, other, -⟩ := visitedAtFiveWith_state (bound + 2)
  obtain ⟨along, served, unserved⟩ := MultilaneStore.starves {} 5
    (MultilaneStore.settled_run {} (visitedAtFiveWith (bound + 2))) (by decide : "b" ≠ "a") listed
    (bound + 1) (by rw [pending]; omega) other
  have few := bounded (visitedAtFiveWith (bound + 2)) (List.replicate (bound + 1) 5)
    (List.pairwise_replicate.mpr (.inr le_rfl)) (by rw [listed]; rfl)
    (by rw [List.map_replicate]; exact along)
  rw [List.map_replicate, served, unserved] at few
  omega

end OpenEngine.Queue
