import OpenEngine.Queue.Reported

/-!
# The state machine a client sees

What `get_job_state` answers over time is a path of one small machine: an unknown job becomes
pending, a waiting job active, an active one pending again or what its completion says, a finished
one unknown. The pops and completions of the queue are the moves of that path, so what holds of
every path holds of every client's view.
-/

namespace OpenEngine.Queue

variable {ι δ ο ε : Type}

/-- What changes the reported state of a job. -/
inductive Move (ο ε : Type) where
  /-- A push of an unknown id. -/
  | created
  /-- A pop hands the job out. -/
  | leased
  /-- A pop finds the lease gone. -/
  | requeued
  /-- A completion commits. -/
  | completed (now attempt : Nat) (result : JobResult ο ε)
  /-- The success prune deletes the job. -/
  | prunedSuccess
  /-- The failed prune deletes the job. -/
  | prunedFailed

/-- The state a completion leaves its job in. -/
def JobResult.leaves (now attempt : Nat) : JobResult ο ε → JobState ο ε
  | .ok output => .succeeded output
  | .error (.nack error (some delay) position) =>
    .retrying (now + delayToQueueSeconds delay)
      (some { error, attempt, details := .nack (some delay) position, createdAt := now })
  | .error (.nack _ none _) => .pending
  | .error (.fail error) => .failed (some { error, attempt, details := .fail, createdAt := now })
  | .error (.defer delay _) => .deferred (now + delayToQueueSeconds delay)

/-- The job is to be handed out. -/
def JobState.isWaiting : JobState ο ε → Bool
  | .pending | .deferred _ | .retrying _ _ => true
  | _ => false

namespace Move

/-- The state after a move. -/
def step : Option (JobState ο ε) → Move ο ε → Option (JobState ο ε)
  | _, .created | _, .requeued => some .pending
  | _, .leased => some .active
  | _, .completed now attempt result => some (result.leaves now attempt)
  | _, .prunedSuccess | _, .prunedFailed => none

/-- The states a move is made from. -/
def From (state : Option (JobState ο ε)) : Move ο ε → Prop
  | .created => state = none
  | .leased => state.any JobState.isWaiting
  | .requeued | .completed _ _ _ => state = some .active
  | .prunedSuccess => ∃ output, state = some (.succeeded output)
  | .prunedFailed => ∃ lastError, state = some (.failed lastError)

/-- What a move tells about its job. -/
def deed : Move ο ε → Option (Deed ο ε)
  | .leased => some .popped
  | .completed _ _ result => some (.completed result)
  | _ => none

/-- The moves lead along the machine from one state to another. -/
def Leads (before : Option (JobState ο ε)) (moves : List (Move ο ε))
    (after : Option (JobState ο ε)) : Prop :=
  Transition.Along step From before moves ∧ Transition.run step before moves = after

variable {before middle after : Option (JobState ο ε)} {first second moves : List (Move ο ε)}

/-- No move leads nowhere else. -/
theorem Leads.nil (state : Option (JobState ο ε)) : Leads state [] state := ⟨trivial, rfl⟩

/-- One move from a state it is made from. -/
theorem Leads.single (move : Move ο ε) (made : From before move) :
    Leads before [move] (step before move) := ⟨⟨made, trivial⟩, rfl⟩

/-- Two paths one after the other are a path. -/
theorem Leads.trans (one : Leads before first middle) (two : Leads middle second after) :
    Leads before (first ++ second) after := by
  obtain ⟨along, rfl⟩ := one
  exact ⟨(Transition.along_append _ _ _).mpr ⟨along, two.1⟩,
    (Transition.run_append _ _ _).trans two.2⟩

/-- A finished state is left through its own prune only. -/
theorem Leads.final (leads : Leads before moves after)
    (final : (∃ output, before = some (.succeeded output)) ∧ Move.prunedSuccess ∉ moves ∨
      (∃ lastError, before = some (.failed lastError)) ∧ Move.prunedFailed ∉ moves) :
    moves = [] := by
  cases moves with
  | nil => rfl
  | cons move rest =>
    have made : From before move := leads.1.1
    rcases final with ⟨⟨output, rfl⟩, unpruned⟩ | ⟨⟨lastError, rfl⟩, unpruned⟩
    · cases move with
      | prunedSuccess => exact absurd List.mem_cons_self unpruned
      | prunedFailed =>
        obtain ⟨lastError, same⟩ := made
        cases same
      | _ => cases made
    · cases move with
      | prunedFailed => exact absurd List.mem_cons_self unpruned
      | prunedSuccess =>
        obtain ⟨output, same⟩ := made
        cases same
      | _ => cases made

/-- A job is active right after it was handed out: what led there tells of the hand-out last. -/
theorem Leads.active (leads : Leads before moves (some .active)) (idle : before ≠ some .active) :
    (moves.filterMap deed).getLast? = some .popped := by
  obtain ⟨-, ends⟩ := leads
  rcases moves.eq_nil_or_concat with rfl | ⟨earlier, last, rfl⟩
  · exact absurd ends idle
  rw [List.concat_eq_append] at ends ⊢
  rw [Transition.run_append] at ends
  rw [List.filterMap_append, List.getLast?_append]
  cases last with
  | leased => rfl
  | completed now attempt result =>
    have leaves : result.leaves now attempt = .active := Option.some.inj ends
    cases result using JobResult.cases <;> cases leaves
  | _ => cases ends

/-- Every completion answers a hand-out: on a path from the unknown state what tells of a completion
follows directly on what tells of a hand-out. -/
theorem Leads.answered (leads : Leads none moves after) {told later : List (Deed ο ε)}
    {result : JobResult ο ε} (split : moves.filterMap deed = told ++ .completed result :: later) :
    told.getLast? = some .popped := by
  obtain ⟨earlier, rest, rfl, tells, continues⟩ := List.filterMap_eq_append_iff.mp split
  obtain ⟨silent, move, others, rfl, quiet, tellsResult, -⟩ :=
    List.filterMap_eq_cons_iff.mp continues
  have along := (Transition.along_append _ _ _).mp leads.1
  have along' := (Transition.along_append _ _ _).mp along.2
  have made : From _ move := along'.2.1
  have active : Transition.run step none (earlier ++ silent) = some .active := by
    rw [Transition.run_append]
    cases move with
    | completed now attempt outcome => exact made
    | leased => cases tellsResult
    | _ => cases tellsResult
  have path : Leads none (earlier ++ silent) (some .active) :=
    ⟨(Transition.along_append _ _ _).mpr ⟨along.1, along'.1⟩, active⟩
  have last := path.active (by simp)
  rw [List.filterMap_append, List.filterMap_eq_nil_iff.mpr quiet, List.append_nil, tells] at last
  exact last

end Move

namespace JobView

/-- `get_job_state` on the keys of one id. -/
def state (view : JobView ι δ ο ε) [DecidableEq ι] : Option (JobState ο ε) :=
  if view.info.exists = false then none
  else if view.info.finishedAt.isSome then
    match view.result with
    | some result => some (.succeeded result)
    | none => some (.failed view.errors.head?)
  else if view.info.leaseToken.isSome then some .active
  else match view.info.deferredUntil, view.info.retryAt with
    | some until_, _ => some (.deferred until_)
    | none, some until_ => some (.retrying until_ view.errors.head?)
    | none, none => some .pending

variable [DecidableEq ι] {view : JobView ι δ ο ε} {latest : Option (Deed ο ε)}

/-- An unknown job has no state. -/
theorem Reported.state_unknown (reported : view.Reported latest) (unknown : ¬view.deduped) :
    view.state = none := by
  unfold state
  rw [reported.blank unknown]
  rfl

/-- A job on the success list has succeeded. -/
theorem Reported.state_success (reported : view.Reported latest) (known : view.deduped)
    (listed : 0 < view.success) : ∃ output, view.state = some (.succeeded output) := by
  obtain ⟨output, stored, -⟩ := reported.output listed
  have finished := reported.finished.mpr (by omega)
  exact ⟨output, by simp [state, reported.exists_of_known known, finished, stored]⟩

/-- A job on the failed list has failed. -/
theorem Reported.state_failed (reported : view.Reported latest) (known : view.deduped)
    (unlisted : view.success = 0) (listed : 0 < view.failed) :
    ∃ lastError, view.state = some (.failed lastError) := by
  have stored := reported.pending unlisted
  have finished := reported.finished.mpr (by omega)
  exact ⟨_, by simp [state, reported.exists_of_known known, finished, stored]; rfl⟩

/-- A leased job is active. -/
theorem Reported.state_active (reported : view.Reported latest) (conserved : view.Conserved)
    (active : view.active.isSome) : view.state = some .active := by
  have present := live_of_active active
  have known := (conserved.live_cases present).1
  have unfinished := conserved.exclusive.unfinished present
  have leased := reported.leased.trans active
  simp [state, reported.exists_of_known known, unfinished, leased]

/-- A waiting job is to be handed out. -/
theorem Reported.state_waits (reported : view.Reported latest) (conserved : view.Conserved)
    (waits : view.Waits) : view.state.any JobState.isWaiting := by
  have known := (conserved.live_cases waits.live).1
  have unfinished := conserved.exclusive.unfinished waits.live
  have idle : view.active.isSome = false :=
    Bool.eq_false_iff.mpr fun active => conserved.not_waits active waits
  have unleased := reported.leased.trans idle
  unfold state
  rw [if_neg (by simp [reported.exists_of_known known]), if_neg (by simp [unfinished]),
    if_neg (by simp [unleased])]
  split <;> rfl

end JobView

/-- The moves an event is. -/
def JobEvent.moves : JobEvent ι δ ο ε → List (Move ο ε)
  | .push _ _ => [.created]
  | .requeue => [.requeued]
  | .lease _ _ => [.leased]
  | .complete now job result => [.completed now job.job.attempts result]
  | .pruneSuccess _ => [.prunedSuccess]
  | .pruneFailed _ => [.prunedFailed]
  | _ => []

/-- What an event tells is what its moves tell. -/
theorem JobEvent.deeds_moves {options : QueueOptions} {view : JobView ι δ ο ε}
    {event : JobEvent ι δ ο ε} (enabled : event.Enabled options view) :
    event.moves.filterMap Move.deed = view.deeds event := by
  cases event with
  | lease now popId => rw [JobView.deeds, if_pos enabled.2]; rfl
  | _ => rfl

namespace JobView

variable [DecidableEq ι] {view : JobView ι δ ο ε} {latest : Option (Deed ο ε)}

omit [DecidableEq ι] in
/-- A job on a finished list is known. -/
theorem Conserved.known_of_finished (conserved : view.Conserved)
    (finished : 0 < view.success + view.failed) : view.deduped := by
  by_contra unknown
  have none := conserved.unknown unknown
  unfold places at none
  omega

/-- A committed completion leaves the state of its outcome. -/
theorem Reported.leads_complete (reported : view.Reported latest) (conserved : view.Conserved)
    (options : QueueOptions) (now : Nat) (job : BorrowedJob ι δ)
    (issued : job.leaseToken ∈ view.leases) (result : JobResult ο ε) :
    Move.Leads view.state [.completed now job.job.attempts result]
      (view.complete options now job result).state := by
  have active := (conserved.exclusive.held _ issued).1
  have present := live_of_active active
  obtain ⟨known, -, -, unlisted, -⟩ := conserved.live_cases present
  have unfinished := conserved.exclusive.unfinished present
  have stamped := reported.stamped known
  have noResult := reported.pending unlisted
  obtain ⟨-, -, undeferred, unretried⟩ := reported.unheld (conserved.not_waits active)
  have exists_of (info : JobMeta ι) (created : info.createdAt = view.info.createdAt) :
      info.exists = true := by
    unfold JobMeta.exists
    rw [decide_eq_true_iff]
    rintro rfl
    rw [← created] at stamped
    contradiction
  have leads := Move.Leads.single (.completed now job.job.attempts result)
    (reported.state_active conserved active)
  have after : (view.complete options now job result).state =
      some (result.leaves now job.job.attempts) := by
    cases result using JobResult.cases with
    | ok output => simp [state, JobView.complete, endLease, exists_of, JobResult.leaves]
    | retry error delay position =>
      simp [state, JobView.complete, endLease, addError, exists_of, JobResult.leaves, unfinished,
        undeferred, Redis.head?_ltrim]
    | nack error position =>
      simp [state, JobView.complete, endLease, addError, exists_of, JobResult.leaves, unfinished,
        undeferred, unretried]
    | fail error =>
      simp [state, JobView.complete, endLease, addError, exists_of, JobResult.leaves, noResult,
        Redis.head?_ltrim]
    | defer delay position =>
      simp [state, JobView.complete, endLease, exists_of, JobResult.leaves, JobMeta.incrAttempts,
        unfinished]
  rw [after]
  exact leads

/-- Every core event leads along the machine by its own moves. -/
theorem Reported.leads_apply (reported : view.Reported latest) (conserved : view.Conserved)
    {options : QueueOptions} (permanent : options.idempotencyMode = .permanent)
    (someSuccess : 0 < options.maxSuccess) (someFailed : 0 < options.maxFailed) (id : ι)
    (event : JobEvent ι δ ο ε) (core : event.isCore) (enabled : event.Enabled options view) :
    Move.Leads view.state event.moves (JobView.apply options id view event).state := by
  have conserved' := conserved.apply permanent someSuccess someFailed id event core enabled
  have reported' := reported.apply conserved permanent someSuccess someFailed id event core enabled
  cases event with
  | push now job =>
    have after : (view.push now job).state = some .pending := by
      unfold JobView.push
      dsimp only
      split <;> rfl
    show Move.Leads view.state [.created] (view.push now job).state
    rw [after]
    exact Move.Leads.single .created (reported.state_unknown enabled)
  | replace data => exact Move.Leads.nil _
  | requeue =>
    have active := enabled.1
    have known := (conserved.live_cases (live_of_active active)).1
    have unfinished := conserved.exclusive.unfinished (live_of_active active)
    obtain ⟨-, -, undeferred, unretried⟩ := reported.unheld (conserved.not_waits active)
    have after : (JobView.apply options id view .requeue).state = some .pending := by
      unfold state
      rw [reported'.exists_of_known known]
      simp [JobView.apply, JobMeta.incrAttempts, unfinished, undeferred, unretried]
    rw [after]
    exact Move.Leads.single .requeued (reported.state_active conserved active)
  | sweep now => exact absurd enabled.1 conserved.uncancelled
  | promote =>
    have waits : view.Waits := .inr enabled
    have known := (conserved.live_cases waits.live).1
    have same : (JobView.apply options id view .promote).state = view.state := by
      unfold state
      rw [reported.exists_of_known known, reported'.exists_of_known known]
      rfl
    rw [same]
    exact Move.Leads.nil _
  | lease now popId =>
    have after : (JobView.apply options id view (.lease now popId)).state = some .active :=
      reported'.state_active conserved' rfl
    rw [after]
    exact Move.Leads.single .leased (reported.state_waits conserved (.inl enabled.1))
  | drop =>
    have waits : view.Waits := .inl enabled.1
    have data := (conserved.live_cases waits.live).2.1
    rw [enabled.2] at data
    contradiction
  | complete now job result =>
    exact reported.leads_complete conserved options now job enabled result
  | expire token => exact Move.Leads.nil _
  | pruneSuccess kept =>
    have listed : 0 < view.success := by have fewer := enabled.2 someSuccess; omega
    have bound := conserved.places_le
    unfold places at bound
    have known := conserved.known_of_finished (by omega)
    have unseen := (conserved.finished_cases (by omega)).2.2
    have forgotten : ¬(JobView.apply options id view (.pruneSuccess kept)).deduped := by
      simp only [JobView.apply, settleSucceeded, unseen, Bool.false_eq_true, ↓reduceIte]
      exact not_false
    rw [reported'.state_unknown forgotten]
    exact Move.Leads.single .prunedSuccess (reported.state_success known listed)
  | pruneFailed kept =>
    have listed : 0 < view.failed := by have fewer := enabled.2 someFailed; omega
    have bound := conserved.places_le
    unfold places at bound
    have known := conserved.known_of_finished (by omega)
    have unseen := (conserved.finished_cases (by omega)).2.2
    have forgotten : ¬(JobView.apply options id view (.pruneFailed kept)).deduped := by
      simp only [JobView.apply, settleFailed, unseen, Bool.false_eq_true, ↓reduceIte]
      exact not_false
    rw [reported'.state_unknown forgotten]
    exact Move.Leads.single .prunedFailed
      (reported.state_failed known (by omega) listed)
  | cancelNow now => contradiction
  | cancelLater => contradiction
  | release => contradiction

end JobView

/-- The moves an operation makes on a job. -/
def Op.Makes (id : ι) (move : Move ο ε) : Op ι δ ο ε → Prop
  | .push _ job => job.id = id ∧ move = .created
  | .pop _ _ _ => move = .leased ∨ move = .requeued
  | .complete now job result =>
    job.job.id = id ∧ move = .completed now job.job.attempts result
  | .postSuccess => move = .prunedSuccess
  | .postFail => move = .prunedFailed
  | _ => False

/-- The moves of an event are made by the operation it belongs to. -/
theorem Op.makes_of_causes {id : ι} {event : JobEvent ι δ ο ε} {op : Op ι δ ο ε}
    (core : op.isCore) (caused : op.Causes id event) {move : Move ο ε}
    (member : move ∈ event.moves) : op.Makes id move := by
  cases op with
  | push now job =>
    obtain ⟨named, rfl⟩ := caused
    exact ⟨named, List.mem_singleton.mp member⟩
  | replace target data =>
    obtain ⟨-, rfl⟩ := caused
    cases member
  | pop now popId batchSize =>
    cases event with
    | requeue => exact .inr (List.mem_singleton.mp member)
    | lease at_ under => exact .inl (List.mem_singleton.mp member)
    | sweep at_ => cases member
    | promote => cases member
    | drop => cases member
    | _ => cases caused
  | complete now job result =>
    obtain ⟨named, rfl⟩ := caused
    exact ⟨named, List.mem_singleton.mp member⟩
  | expireLease target token =>
    obtain ⟨-, rfl⟩ := caused
    cases member
  | postSuccess =>
    obtain ⟨kept, rfl⟩ := caused
    exact List.mem_singleton.mp member
  | postFail =>
    obtain ⟨kept, rfl⟩ := caused
    exact List.mem_singleton.mp member
  | cancel now target => cases core
  | release target => cases core
  | reopen now job => cases core

variable [LinearOrder ι]

/-- What `get_job_state` reads is the state of the view. -/
theorem Store.state_view (store : Store ι δ ο ε) (id : ι) :
    (store.view id).state = store.getJobState id := rfl

/-- Every job is conserved and its report in step with some history. -/
def Store.InStep (store : Store ι δ ο ε) : Prop :=
  ∃ told : List (ι × Deed ο ε), ∀ id, (store.view id).Conserved ∧
    (store.view id).Reported (latestDeed id told)

/-- What `get_job_state` answers about an id goes from one store to a later one along the machine,
by moves that operations of a list make and that are the told deeds. -/
def Store.Sees (store : Store ι δ ο ε) (id : ι) (ops : List (Op ι δ ο ε)) (later : Store ι δ ο ε)
    (told : List (ι × Deed ο ε)) : Prop :=
  ∃ moves : List (Move ο ε), (∀ move ∈ moves, ∃ op ∈ ops, op.Makes id move) ∧
    Move.Leads (store.getJobState id) moves (later.getJobState id) ∧
    moves.filterMap Move.deed = deedsOf id told

section Runs

variable {options : QueueOptions} (permanent : options.idempotencyMode = .permanent)
  (someSuccess : 0 < options.maxSuccess) (someFailed : 0 < options.maxFailed)

include permanent someSuccess someFailed

/-- A core operation leads every job along the machine by moves it makes, which tell the deeds it
tells. -/
theorem Store.leads_step {store : Store ι δ ο ε} {latest : Option (Deed ο ε)} {id : ι}
    (conserved : (store.view id).Conserved) (reported : (store.view id).Reported latest)
    (op : Op ι δ ο ε) (core : op.isCore) :
    ∃ moves : List (Move ο ε), (∀ move ∈ moves, op.Makes id move) ∧
      Move.Leads (store.getJobState id) moves ((store.step options op).getJobState id) ∧
      moves.filterMap Move.deed = deedsOf id (store.deeds options op) := by
  obtain ⟨events, caused, enabled, followed, tells⟩ := store.step_deeds options op id
  rw [tells, ← Store.state_view, ← Store.state_view, followed]
  clear followed tells
  generalize store.view id = view at conserved reported enabled
  induction events generalizing view latest with
  | nil => exact ⟨[], by simp, Move.Leads.nil _, rfl⟩
  | cons event rest ih =>
    have causes := caused event List.mem_cons_self
    have eventCore := op.isCore_of_causes core causes
    have leads := reported.leads_apply conserved permanent someSuccess someFailed id event eventCore
      enabled.1
    obtain ⟨moves, made, follows, told⟩ :=
      ih (fun later member => caused later (List.mem_cons_of_mem _ member))
        (JobView.apply options id view event)
        (conserved.apply permanent someSuccess someFailed id event eventCore enabled.1)
        (reported.apply conserved permanent someSuccess someFailed id event eventCore enabled.1)
        enabled.2
    refine ⟨event.moves ++ moves, fun move member => ?_, leads.trans follows, ?_⟩
    · cases List.mem_append.mp member with
      | inl first => exact Op.makes_of_causes core causes first
      | inr later => exact made move later
    · rw [List.filterMap_append, told, JobEvent.deeds_moves enabled.1]
      rfl

/-- From any core run on, what `get_job_state` answers about an id moves along the machine: the
moves are made by the operations of the further run, and they are its pops and completions. -/
theorem Store.state_machine (earlier ops : List (Op ι δ ο ε))
    (coreEarlier : ∀ op ∈ earlier, op.isCore) (core : ∀ op ∈ ops, op.isCore) (id : ι) :
    (Transition.run (Store.step options) (Store.empty : Store ι δ ο ε) earlier).Sees id
      ops (Transition.run (Store.step options) Store.empty (earlier ++ ops))
      (Transition.trace (Store.step options) (Store.deeds options)
        (Transition.run (Store.step options) Store.empty earlier) ops) := by
  rw [Transition.run_append]
  have start := Store.reported_run permanent someSuccess someFailed earlier coreEarlier
  generalize Transition.run (Store.step options) Store.empty earlier = store at start ⊢
  have preserved (later : Store ι δ ο ε) (op : Op ι δ ο ε) (told : List (ι × Deed ο ε))
      (before : later.InStep ∧ store.Sees id ops later told) (member : op ∈ ops) :
      (later.step options op).InStep ∧
        store.Sees id ops (later.step options op) (told ++ later.deeds options op) := by
    obtain ⟨⟨history, inStep⟩, moves, made, leads, tells⟩ := before
    obtain ⟨more, madeMore, leadsMore, tellsMore⟩ := Store.leads_step permanent someSuccess
      someFailed (inStep id).1 (inStep id).2 op (core op member)
    refine ⟨⟨_, Store.reported_step permanent someSuccess someFailed inStep op (core op member)⟩,
      moves ++ more, fun move listed => ?_, leads.trans leadsMore, ?_⟩
    · cases List.mem_append.mp listed with
      | inl before => exact made move before
      | inr now => exact ⟨op, member, madeMore move now⟩
    · rw [List.filterMap_append, deedsOf_append, tells, tellsMore]
  have run := Transition.run_traced (Store.deeds options) _ preserved store ops []
    ⟨⟨_, start⟩, [], by simp, Move.Leads.nil _, rfl⟩
    (Transition.along_of_forall store ops fun op member => member)
  rw [List.nil_append] at run
  exact run.2

/-- A job that reads as `Succeeded` or `Failed` keeps that state, with its output or its error, and
is neither handed out nor completed again, until a prune of its own list. -/
theorem Store.final_state_stays (earlier ops : List (Op ι δ ο ε))
    (coreEarlier : ∀ op ∈ earlier, op.isCore) (core : ∀ op ∈ ops, op.isCore) (id : ι)
    (final : (∃ output, (Transition.run (Store.step options) (Store.empty : Store ι δ ο ε)
        earlier).getJobState id = some (.succeeded output)) ∧ Op.postSuccess ∉ ops ∨
      (∃ lastError, (Transition.run (Store.step options) (Store.empty : Store ι δ ο ε)
        earlier).getJobState id = some (.failed lastError)) ∧ Op.postFail ∉ ops) :
    (Transition.run (Store.step options) Store.empty (earlier ++ ops)).getJobState id =
        (Transition.run (Store.step options) (Store.empty : Store ι δ ο ε)
          earlier).getJobState id ∧
      deedsOf id (Transition.trace (Store.step options) (Store.deeds options)
        (Transition.run (Store.step options) Store.empty earlier) ops) = [] := by
  obtain ⟨moves, made, leads, tells⟩ :=
    Store.state_machine permanent someSuccess someFailed earlier ops coreEarlier core id
  have none : moves = [] := by
    apply leads.final
    rcases final with ⟨succeeded, unpruned⟩ | ⟨failed, unpruned⟩
    · refine .inl ⟨succeeded, fun member => unpruned ?_⟩
      obtain ⟨op, listed, makes⟩ := made _ member
      cases op with
      | postSuccess => exact listed
      | _ => simp [Op.Makes] at makes
    · refine .inr ⟨failed, fun member => unpruned ?_⟩
      obtain ⟨op, listed, makes⟩ := made _ member
      cases op with
      | postFail => exact listed
      | _ => simp [Op.Makes] at makes
  subst none
  exact ⟨leads.2.symm, tells.symm⟩

/-- Every committed completion answers the hand-out told just before it: between two of them, and
before the first, the job is handed out. -/
theorem Store.completion_answered (ops : List (Op ι δ ο ε)) (core : ∀ op ∈ ops, op.isCore) (id : ι)
    (told later : List (Deed ο ε)) (result : JobResult ο ε)
    (split : deedsOf id (Transition.trace (Store.step options) (Store.deeds options)
      (Store.empty : Store ι δ ο ε) ops) = told ++ .completed result :: later) :
    told.getLast? = some .popped := by
  obtain ⟨moves, -, leads, tells⟩ :=
    Store.state_machine permanent someSuccess someFailed [] ops (by simp) core id
  exact leads.answered (tells.trans split)

end Runs

deriving instance DecidableEq for JobError, Deed

/-- What a client sees of the job that expires, is requeued and deferred. -/
theorem Store.state_machine_expireAndDefer :
    (Transition.run (Store.step {}) Store.empty (expireAndDefer.take 2)).Sees 7
      (expireAndDefer.drop 2)
      (Transition.run (Store.step {}) Store.empty (expireAndDefer.take 2 ++ expireAndDefer.drop 2))
      (Transition.trace (Store.step {}) (Store.deeds {})
        (Transition.run (Store.step {}) Store.empty (expireAndDefer.take 2))
        (expireAndDefer.drop 2)) :=
  Store.state_machine rfl (by decide) (by decide) _ _ (by decide) (by decide) 7

/-- The completion that defers the job answers its second hand-out. -/
theorem Store.completion_answered_expireAndDefer :
    let told : List (Deed Nat String) := [.popped, .popped]
    deedsOf 7 (Transition.trace (Store.step {}) (Store.deeds {}) Store.empty expireAndDefer) =
        told ++ [.completed (.error (.defer (.fromSecs 5) .last))] ∧
      told.getLast? = some .popped := by
  intro told
  have permanent : ({} : QueueOptions).idempotencyMode = .permanent := rfl
  have split : deedsOf 7 (Transition.trace (Store.step {}) (Store.deeds {}) Store.empty
      expireAndDefer) = told ++ [.completed (.error (.defer (.fromSecs 5) .last))] := by
    decide +kernel
  exact ⟨split, Store.completion_answered permanent (by decide) (by decide) expireAndDefer
    (by decide) 7 told [] _ split⟩

/-- A run in which a job succeeds. -/
def runToSuccess : List (Op Nat String Nat String) :=
  [.push 0 { data := "tx", id := 7 }, .pop 0 "a" 1, .complete 1 (borrowedAt 7 0 1 "a") (.ok 5)]

/-- A further pop, push and failed prune leave the succeeded job alone. -/
theorem Store.final_state_stays_runToSuccess :
    let after : List (Op Nat String Nat String) :=
      [.pop 60 "b" 1, .push 61 { data := "new", id := 7 }, .postFail]
    (Transition.run (Store.step {}) Store.empty (runToSuccess ++ after)).getJobState 7 =
        (Transition.run (Store.step {}) Store.empty runToSuccess).getJobState 7 ∧
      deedsOf 7 (Transition.trace (Store.step {}) (Store.deeds {})
        (Transition.run (Store.step {}) Store.empty runToSuccess) after) = [] :=
  Store.final_state_stays rfl (by decide) (by decide) runToSuccess _ (by decide) (by decide) 7
    (.inl ⟨⟨5, rfl⟩, by simp⟩)

end OpenEngine.Queue
