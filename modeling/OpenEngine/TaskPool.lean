import Mathlib.Data.List.Perm.Basic
import OpenEngine.Transition

/-!
# A pool of tasks under a semaphore

A loop polls a source for jobs, as many at a time as it has permits, and runs each job as a task of
its own under a permit that the task gives back when it ends. Told to stop, the loop takes all
permits back before it returns. What a job is, what the source does and what a task has to do are
parameters; anyone else may use the source meanwhile. Every interleaving of the loop, the tasks and
the others is one list of actions.
-/

namespace TaskPool

/-- Where the loop stands. -/
inductive Phase (β : Type*) where
  /-- Between two batches. -/
  | polling
  /-- A batch of up to so many jobs is asked for. -/
  | popping (batch : Nat)
  /-- The jobs of the last batch that have no task yet. -/
  | spawning (jobs : List β)
  /-- The source failed and is left alone for a while. -/
  | backingOff
  /-- The loop was told to stop and has so many permits back. -/
  | draining (held : Nat)
  /-- The loop has returned. -/
  | stopped
deriving DecidableEq

/-- The loop with its source and its tasks. -/
structure Pool (σ β τ : Type*) where
  source : σ
  /-- The permits nobody holds. -/
  permits : Nat
  phase : Phase β
  /-- The tasks that hold a permit. -/
  tasks : List τ
  /-- The tasks that run without one. -/
  loose : List τ

/-- What the loop works on. -/
structure Machine (σ β τ π ω α : Type*) where
  /-- The permits there are. -/
  limit : Nat
  /-- The source is polled without a permit too. -/
  alwaysPoll : Bool
  /-- Ask for up to so many jobs: the source afterwards, the jobs, and tasks that need no permit. -/
  pop : σ → π → Nat → σ × List β × List τ
  /-- The task of a job. -/
  start : β → τ
  /-- A task's next step: the source afterwards, and what is left of the task. -/
  advance : σ → τ → ω → σ × Option τ
  /-- What anyone else does to the source. -/
  outside : σ → α → σ
  /-- The job a task is about. -/
  job : τ → β
  /-- No batch has more jobs than were asked for. -/
  short : ∀ source input batch, (pop source input batch).2.1.length ≤ batch
  /-- The task of a job is about it. -/
  job_start : ∀ entry, job (start entry) = entry
  /-- A task stays with its job. -/
  job_advance : ∀ source task input, ∀ left ∈ (advance source task input).2, job left = job task

/-- What can happen next. -/
inductive Action (π ω α : Type*) where
  /-- The polling interval ticks. -/
  | tick
  /-- The loop is told to stop. -/
  | shutdown
  /-- The batch arrives. -/
  | pop (input : π)
  /-- The request for the batch fails, before or after the source has carried it out. -/
  | lose (input : Option π)
  /-- The source has been left alone long enough. -/
  | wake
  /-- The next job of the batch gets its task. -/
  | spawn
  /-- The task at a place takes its next step. -/
  | advance (place : Nat) (input : ω)
  /-- The task without a permit at a place takes its next step. -/
  | advanceLoose (place : Nat) (input : ω)
  /-- The stopping loop takes a permit back, or has them all and returns. -/
  | drain
  /-- Someone else uses the source. -/
  | outside (other : α)

variable {σ β τ π ω α : Type*}

/-- The pool a loop starts with. -/
def Pool.fresh (machine : Machine σ β τ π ω α) (source : σ) : Pool σ β τ :=
  ⟨source, machine.limit, .polling, [], []⟩

/-- The pool after an action. An action the loop is not ready for changes nothing. -/
def Pool.step (machine : Machine σ β τ π ω α) (pool : Pool σ β τ) : Action π ω α → Pool σ β τ
  | .tick =>
    match pool.phase with
    | .polling =>
      if pool.permits = 0 ∧ machine.alwaysPoll = false then pool
      else { pool with phase := .popping pool.permits }
    | _ => pool
  | .shutdown =>
    match pool.phase with
    | .polling => { pool with phase := .draining 0 }
    | _ => pool
  | .pop input =>
    match pool.phase with
    | .popping batch =>
      let (source, jobs, loose) := machine.pop pool.source input batch
      { pool with source, phase := .spawning jobs, loose := pool.loose ++ loose }
    | _ => pool
  | .lose input =>
    match pool.phase with
    | .popping batch =>
      match input with
      | none => { pool with phase := .backingOff }
      | some input =>
        { pool with source := (machine.pop pool.source input batch).1, phase := .backingOff }
    | _ => pool
  | .wake =>
    match pool.phase with
    | .backingOff => { pool with phase := .polling }
    | _ => pool
  | .spawn =>
    match pool.phase with
    | .spawning [] => { pool with phase := .polling }
    | .spawning (job :: rest) =>
      if pool.permits = 0 then pool
      else
        { pool with
          permits := pool.permits - 1
          tasks := pool.tasks ++ [machine.start job]
          phase := .spawning rest }
    | _ => pool
  | .advance place input =>
    match pool.tasks[place]? with
    | none => pool
    | some task =>
      match machine.advance pool.source task input with
      | (source, some left) => { pool with source, tasks := pool.tasks.set place left }
      | (source, none) =>
        { pool with source, tasks := pool.tasks.eraseIdx place, permits := pool.permits + 1 }
  | .advanceLoose place input =>
    match pool.loose[place]? with
    | none => pool
    | some task =>
      match machine.advance pool.source task input with
      | (source, some left) => { pool with source, loose := pool.loose.set place left }
      | (source, none) => { pool with source, loose := pool.loose.eraseIdx place }
  | .drain =>
    match pool.phase with
    | .draining held =>
      if held = machine.limit then { pool with phase := .stopped }
      else if pool.permits = 0 then pool
      else { pool with permits := pool.permits - 1, phase := .draining (held + 1) }
    | _ => pool
  | .outside other => { pool with source := machine.outside pool.source other }

/-- The permits the stopping loop has back. -/
def Phase.held (limit : Nat) : Phase β → Nat
  | .draining held => held
  | .stopped => limit
  | _ => 0

/-- The permits the loop counts on. -/
def Phase.reserved : Phase β → Nat
  | .popping batch => batch
  | .spawning jobs => jobs.length
  | _ => 0

/-- Every permit is free, a task's or back with the loop, and those the loop counts on are free. -/
structure Pool.Balanced (machine : Machine σ β τ π ω α) (pool : Pool σ β τ) : Prop where
  shared : pool.permits + pool.tasks.length + pool.phase.held machine.limit = machine.limit
  ready : pool.phase.reserved ≤ pool.permits

/-- A fresh pool is balanced. -/
theorem Pool.balanced_fresh (machine : Machine σ β τ π ω α) (source : σ) :
    (Pool.fresh machine source).Balanced machine :=
  ⟨by simp [fresh, Phase.held], Nat.zero_le _⟩

section Steps

variable {machine : Machine σ β τ π ω α} {pool : Pool σ β τ}

/-- A task that goes on stays at its place. -/
theorem Pool.step_advance_some (machine : Machine σ β τ π ω α) {place : Nat} {input : ω}
    {task left : τ}
    (here : pool.tasks[place]? = some task)
    (goes : (machine.advance pool.source task input).2 = some left) :
    pool.step machine (.advance place input) =
      { pool with
        source := (machine.advance pool.source task input).1
        tasks := pool.tasks.set place left } := by
  simp only [Pool.step, here]
  split
  · next moved =>
    rw [moved] at goes ⊢
    rw [Option.some.inj goes]
  · next moved =>
    rw [moved] at goes
    contradiction

/-- A task that ends leaves its place and gives its permit back. -/
theorem Pool.step_advance_none (machine : Machine σ β τ π ω α) {place : Nat} {input : ω} {task : τ}
    (here : pool.tasks[place]? = some task)
    (ends : (machine.advance pool.source task input).2 = none) :
    pool.step machine (.advance place input) =
      { pool with
        source := (machine.advance pool.source task input).1
        tasks := pool.tasks.eraseIdx place
        permits := pool.permits + 1 } := by
  simp only [Pool.step, here]
  split
  · next moved =>
    rw [moved] at ends
    contradiction
  · next moved => rw [moved]

/-- A step changes the source by a pop, by a step of a task or by what someone else does. -/
theorem Pool.source_cases (machine : Machine σ β τ π ω α) (pool : Pool σ β τ)
    (action : Action π ω α) :
    (pool.step machine action).source = pool.source ∨
    (∃ input batch, (action = .pop input ∨ action = .lose (some input)) ∧
      pool.phase = .popping batch ∧
      (pool.step machine action).source = (machine.pop pool.source input batch).1) ∨
    (∃ task input,
      (pool.step machine action).source = (machine.advance pool.source task input).1) ∨
    ∃ other, action = .outside other ∧
      (pool.step machine action).source = machine.outside pool.source other := by
  cases action with
  | pop input =>
    cases phase : pool.phase with
    | popping batch =>
      exact .inr (.inl ⟨input, batch, .inl rfl, rfl, by simp [Pool.step, phase]⟩)
    | _ => exact .inl (by simp [Pool.step, phase])
  | lose input =>
    cases phase : pool.phase with
    | popping batch =>
      cases input with
      | none => exact .inl (by simp [Pool.step, phase])
      | some input => exact .inr (.inl ⟨input, batch, .inr rfl, rfl, by simp [Pool.step, phase]⟩)
    | _ => exact .inl (by simp [Pool.step, phase])
  | advance place input =>
    cases here : pool.tasks[place]? with
    | none => exact .inl (by simp [Pool.step, here])
    | some task =>
      refine .inr (.inr (.inl ⟨task, input, ?_⟩))
      cases left : (machine.advance pool.source task input).2 with
      | some left => rw [step_advance_some machine here left]
      | none => rw [step_advance_none machine here left]
  | advanceLoose place input =>
    cases here : pool.loose[place]? with
    | none => exact .inl (by simp [Pool.step, here])
    | some task =>
      refine .inr (.inr (.inl ⟨task, input, ?_⟩))
      simp only [Pool.step, here]
      split
      · next moved => rw [moved]
      · next moved => rw [moved]
  | outside other => exact .inr (.inr (.inr ⟨other, rfl, rfl⟩))
  | tick =>
    left
    simp only [Pool.step]
    split
    · split <;> rfl
    · rfl
  | spawn =>
    left
    simp only [Pool.step]
    split
    · rfl
    · split <;> rfl
    · rfl
  | drain =>
    left
    simp only [Pool.step]
    split
    · split
      · rfl
      · split <;> rfl
    · rfl
  | shutdown => exact .inl (by cases phase : pool.phase <;> simp [Pool.step, phase])
  | wake => exact .inl (by cases phase : pool.phase <;> simp [Pool.step, phase])

/-- A balanced pool whose loop has returned runs no task. -/
theorem Pool.Balanced.idle (balanced : pool.Balanced machine) (stopped : pool.phase = .stopped) :
    pool.tasks = [] ∧ pool.permits = 0 := by
  have shared := balanced.shared
  rw [stopped, Phase.held] at shared
  exact ⟨List.length_eq_zero_iff.mp (by omega), by omega⟩

/-- No more tasks run under a permit than there are permits. -/
theorem Pool.Balanced.bounded (balanced : pool.Balanced machine) :
    pool.tasks.length ≤ machine.limit := by
  have shared := balanced.shared
  omega

/-- The task of a job of a batch never waits for its permit. -/
theorem Pool.Balanced.spawns (balanced : pool.Balanced machine) {job : β} {rest : List β}
    (spawning : pool.phase = .spawning (job :: rest)) : 0 < pool.permits := by
  have ready := balanced.ready
  rw [spawning, Phase.reserved, List.length_cons] at ready
  omega

/-- Every step keeps the pool balanced. -/
theorem Pool.Balanced.step (balanced : pool.Balanced machine) (action : Action π ω α) :
    (pool.step machine action).Balanced machine := by
  obtain ⟨shared, ready⟩ := balanced
  cases action with
  | tick =>
    simp only [Pool.step]
    split
    · next polling =>
      rw [polling] at shared
      split
      · exact ⟨by rw [polling]; exact shared, ready⟩
      · exact ⟨shared, Nat.le_refl _⟩
    · exact ⟨shared, ready⟩
  | shutdown =>
    simp only [Pool.step]
    split
    · next polling =>
      rw [polling] at shared
      exact ⟨shared, Nat.zero_le _⟩
    · exact ⟨shared, ready⟩
  | pop input =>
    simp only [Pool.step]
    split
    · next batch popping =>
      rw [popping] at shared ready
      exact ⟨shared, Nat.le_trans (machine.short _ _ _) ready⟩
    · exact ⟨shared, ready⟩
  | lose input =>
    simp only [Pool.step]
    split
    · next batch popping =>
      rw [popping] at shared
      cases input with
      | none => exact ⟨shared, Nat.zero_le _⟩
      | some input => exact ⟨shared, Nat.zero_le _⟩
    · exact ⟨shared, ready⟩
  | wake =>
    simp only [Pool.step]
    split
    · next backingOff =>
      rw [backingOff] at shared
      exact ⟨shared, Nat.zero_le _⟩
    · exact ⟨shared, ready⟩
  | spawn =>
    simp only [Pool.step]
    split
    · next spawning =>
      rw [spawning] at shared
      exact ⟨shared, Nat.zero_le _⟩
    · next job rest spawning =>
      rw [spawning] at shared ready
      simp only [Phase.held, Phase.reserved, List.length_cons] at shared ready
      rw [if_neg (by omega)]
      refine ⟨?_, ?_⟩
      · simp only [Phase.held, List.length_append, List.length_singleton]
        omega
      · simp only [Phase.reserved]
        omega
    · exact ⟨shared, ready⟩
  | advance place input =>
    simp only [Pool.step]
    split
    · exact ⟨shared, ready⟩
    · next task here =>
      have inside := (List.getElem?_eq_some_iff.mp here).1
      split
      · exact ⟨by simpa using shared, ready⟩
      · refine ⟨?_, Nat.le_trans ready (Nat.le_succ _)⟩
        rw [List.length_eraseIdx_of_lt inside]
        change pool.permits + 1 + (pool.tasks.length - 1) + pool.phase.held machine.limit = _
        omega
  | advanceLoose place input =>
    simp only [Pool.step]
    split
    · exact ⟨shared, ready⟩
    · split <;> exact ⟨shared, ready⟩
  | drain =>
    simp only [Pool.step]
    split
    · next held draining =>
      rw [draining] at shared
      simp only [Phase.held] at shared
      split
      · next all =>
        refine ⟨?_, Nat.zero_le _⟩
        simp only [Phase.held]
        omega
      · split
        · exact ⟨by rw [draining]; exact shared, ready⟩
        · refine ⟨?_, Nat.zero_le _⟩
          simp only [Phase.held]
          omega
    · exact ⟨shared, ready⟩
  | outside other => exact ⟨shared, ready⟩

/-- Every run keeps the pool balanced. -/
theorem Pool.Balanced.run (balanced : pool.Balanced machine) (actions : List (Action π ω α)) :
    (Transition.run (Pool.step machine) pool actions).Balanced machine :=
  Transition.run_always (Pool.Balanced machine) (fun _ action kept => kept.step action) pool actions
    balanced

/-- A stopping loop that no task holds a permit against takes them all back and returns. -/
theorem Pool.Balanced.drains (balanced : pool.Balanced machine) {held : Nat}
    (draining : pool.phase = .draining held) (idle : pool.tasks = []) :
    (Transition.run (Pool.step machine) pool
      (List.replicate (machine.limit - held + 1) .drain)).phase = .stopped := by
  have shared := balanced.shared
  rw [draining, idle] at shared
  simp only [Phase.held, List.length_nil, Nat.add_zero] at shared
  induction missing : machine.limit - held generalizing pool held with
  | zero =>
    have all : held = machine.limit := by omega
    simp [Pool.step, draining, all]
  | succ missing ih =>
    have next := balanced.step .drain
    rw [List.replicate_succ, Transition.run_cons]
    have taken : pool.step machine .drain =
        { pool with permits := pool.permits - 1, phase := .draining (held + 1) } := by
      simp only [Pool.step, draining]
      rw [if_neg (by omega), if_neg (by omega)]
    rw [taken] at next ⊢
    exact ih next rfl idle (by dsimp only; omega) (by omega)

end Steps

/-! The jobs of a run. -/

/-- What becomes of a job. -/
inductive Event (β : Type*) where
  /-- A batch with it arrives. -/
  | taken (job : β)
  /-- Its task under a permit ends. -/
  | ended (job : β)

/-- The jobs that were taken. -/
def taken (events : List (Event β)) : List β :=
  events.filterMap fun
    | .taken job => some job
    | .ended _ => none

/-- The jobs whose tasks ended. -/
def ended (events : List (Event β)) : List β :=
  events.filterMap fun
    | .ended job => some job
    | .taken _ => none

/-- What an action makes of jobs. -/
def Pool.events (machine : Machine σ β τ π ω α) (pool : Pool σ β τ) :
    Action π ω α → List (Event β)
  | .pop input =>
    match pool.phase with
    | .popping batch => (machine.pop pool.source input batch).2.1.map .taken
    | _ => []
  | .advance place input =>
    match pool.tasks[place]? with
    | none => []
    | some task =>
      match (machine.advance pool.source task input).2 with
      | some _ => []
      | none => [.ended (machine.job task)]
  | _ => []

/-- The jobs that wait for their task. -/
def Phase.unspawned : Phase β → List β
  | .spawning jobs => jobs
  | _ => []

/-- The jobs that have been taken and whose tasks have not ended. -/
def Pool.unfinished (machine : Machine σ β τ π ω α) (pool : Pool σ β τ) : List β :=
  pool.tasks.map machine.job ++ pool.phase.unspawned

@[simp] theorem taken_nil : taken ([] : List (Event β)) = [] := rfl

@[simp] theorem ended_nil : ended ([] : List (Event β)) = [] := rfl

@[simp] theorem taken_append (first second : List (Event β)) :
    taken (first ++ second) = taken first ++ taken second :=
  List.filterMap_append

@[simp] theorem ended_append (first second : List (Event β)) :
    ended (first ++ second) = ended first ++ ended second :=
  List.filterMap_append

@[simp] theorem taken_map (jobs : List β) : taken (jobs.map .taken) = jobs := by
  simp [taken, List.filterMap_map]

@[simp] theorem ended_map (jobs : List β) : ended (jobs.map Event.taken) = [] := by
  simp [ended, List.filterMap_map]

/-- Neither takes a batch, nor starts or moves a task that holds a permit. -/
def Action.isQuiet : Action π ω α → Bool
  | .pop _ | .spawn | .advance _ _ => false
  | _ => true

section Ledger

variable {machine : Machine σ β τ π ω α} {pool : Pool σ β τ}

/-- A quiet action leaves the jobs and their tasks alone. -/
theorem Pool.step_quiet (machine : Machine σ β τ π ω α) (pool : Pool σ β τ)
    {action : Action π ω α} (quiet : action.isQuiet) :
    (pool.step machine action).tasks = pool.tasks ∧
      (pool.step machine action).phase.unspawned = pool.phase.unspawned ∧
      pool.events machine action = [] := by
  cases action with
  | tick =>
    cases phase : pool.phase with
    | polling =>
      simp only [Pool.step, events, phase]
      split <;> simp [phase, Phase.unspawned]
    | _ => simp [Pool.step, events, phase]
  | lose input =>
    cases phase : pool.phase with
    | popping batch => cases input <;> simp [Pool.step, events, phase, Phase.unspawned]
    | _ => simp [Pool.step, events, phase]
  | drain =>
    cases phase : pool.phase with
    | draining held =>
      simp only [Pool.step, events, phase]
      split
      · simp [Phase.unspawned]
      · split <;> simp [phase, Phase.unspawned]
    | _ => simp [Pool.step, events, phase]
  | shutdown => cases phase : pool.phase <;> simp [Pool.step, events, phase, Phase.unspawned]
  | wake => cases phase : pool.phase <;> simp [Pool.step, events, phase, Phase.unspawned]
  | advanceLoose place input =>
    simp only [Pool.step, events]
    split
    · simp
    · split <;> simp
  | outside other => exact ⟨rfl, rfl, rfl⟩
  | _ => contradiction

/-- A task that goes on keeps its place among the jobs. -/
theorem map_job_set {place : Nat} (input : ω) {task left : τ}
    (here : pool.tasks[place]? = some task)
    (goes : (machine.advance pool.source task input).2 = some left) :
    (pool.tasks.set place left).map machine.job = pool.tasks.map machine.job := by
  have same : (pool.tasks.map machine.job)[place]? = some (machine.job left) := by
    rw [List.getElem?_map, here, machine.job_advance _ _ _ left goes, Option.map_some]
  obtain ⟨inside, found⟩ := List.getElem?_eq_some_iff.mp same
  rw [List.map_set, ← found, List.set_getElem_self]

/-- A step moves jobs from the batch to the unfinished ones, and from these to the ended. -/
theorem Pool.events_step (machine : Machine σ β τ π ω α) (pool : Pool σ β τ)
    (action : Action π ω α) :
    List.Perm (taken (pool.events machine action) ++ pool.unfinished machine)
      (ended (pool.events machine action) ++ (pool.step machine action).unfinished machine) := by
  by_cases quiet : action.isQuiet
  · obtain ⟨tasks, batch, silent⟩ := pool.step_quiet machine quiet
    rw [silent, unfinished, unfinished, tasks, batch]
    rfl
  cases action with
  | pop input =>
    cases phase : pool.phase with
    | popping batch => simpa [Pool.step, events, unfinished, phase, Phase.unspawned] using
        List.perm_append_comm
    | _ => simp [Pool.step, events, phase]
  | spawn =>
    cases phase : pool.phase with
    | spawning jobs =>
      cases jobs with
      | nil => simp [Pool.step, events, unfinished, phase, Phase.unspawned]
      | cons job rest =>
        simp only [Pool.step, events, phase]
        split
        · rfl
        · simp [unfinished, phase, Phase.unspawned, machine.job_start]
    | _ => simp [Pool.step, events, phase]
  | advance place input =>
    simp only [Pool.step, events]
    cases here : pool.tasks[place]? with
    | none => simp
    | some task =>
      dsimp only
      cases moved : machine.advance pool.source task input with
      | mk source left =>
        cases left with
        | some left =>
          have kept := map_job_set input here (by rw [moved])
          simp [unfinished, kept]
        | none =>
          obtain ⟨inside, rfl⟩ := List.getElem?_eq_some_iff.mp here
          have moved := (List.getElem_cons_eraseIdx_perm inside).map machine.job
          simpa [unfinished, taken, ended] using (moved.append_right _).symm
  | _ => exact absurd rfl quiet

/-- Every job taken in a run of a fresh pool has ended or is unfinished, once each time it was
taken. -/
theorem Pool.events_run (source : σ) (actions : List (Action π ω α)) :
    let events := Transition.trace (Pool.step machine) (Pool.events machine)
      (Pool.fresh machine source) actions
    List.Perm (taken events)
      (ended events ++ (Transition.run (Pool.step machine) (Pool.fresh machine source)
        actions).unfinished machine) := by
  refine Transition.run_traced (Pool.events machine)
    (fun pool told => List.Perm (taken told) (ended told ++ pool.unfinished machine)) ?_
    (Pool.fresh machine source) actions [] (List.Perm.refl _) (Transition.along_true _ actions)
  intro pool action told settled _
  rw [taken_append, ended_append]
  have here := (pool.events_step machine action).append_left (ended told)
  rw [← List.append_assoc, ← List.append_assoc] at here
  refine List.Perm.trans ?_ here
  rw [List.append_assoc]
  exact (settled.append_right _).trans (by
    rw [List.append_assoc]
    exact List.perm_append_comm.append_left _)

/-- A loop that has returned has left no job it took unfinished. -/
theorem Pool.stopped_run (source : σ) (actions : List (Action π ω α)) :
    let events := Transition.trace (Pool.step machine) (Pool.events machine)
      (Pool.fresh machine source) actions
    let pool := Transition.run (Pool.step machine) (Pool.fresh machine source) actions
    pool.phase = .stopped → pool.tasks = [] ∧ List.Perm (taken events) (ended events) := by
  intro events pool stopped
  have idle := ((Pool.balanced_fresh machine source).run actions).idle stopped
  have settled : List.Perm (taken events) (ended events ++ pool.unfinished machine) :=
    Pool.events_run source actions
  have none : pool.unfinished machine = [] := by
    simp [unfinished, idle.1, stopped, Phase.unspawned, pool]
  rw [none, List.append_nil] at settled
  exact ⟨idle.1, settled⟩

/-- Over every run of a fresh pool: the permits are free, with a task or back with the loop; the
task of a job never waits for one; and every job taken has ended or is unfinished. A loop that has
returned has nothing unfinished, and a stopping loop returns once no task runs. -/
theorem Pool.graceful (machine : Machine σ β τ π ω α) (source : σ) (actions : List (Action π ω α)) :
    let fresh := Pool.fresh machine source
    let pool := Transition.run (Pool.step machine) fresh actions
    let events := Transition.trace (Pool.step machine) (Pool.events machine) fresh actions
    pool.permits + pool.tasks.length + pool.phase.held machine.limit = machine.limit ∧
      (∀ job rest, pool.phase = .spawning (job :: rest) → 0 < pool.permits) ∧
      List.Perm (taken events) (ended events ++ pool.unfinished machine) ∧
      (pool.phase = .stopped → pool.tasks = [] ∧ List.Perm (taken events) (ended events)) ∧
      ∀ held, pool.phase = .draining held → pool.tasks = [] →
        (Transition.run (Pool.step machine) pool
          (List.replicate (machine.limit - held + 1) .drain)).phase = .stopped := by
  intro fresh pool events
  have balanced : pool.Balanced machine := (Pool.balanced_fresh machine source).run actions
  exact ⟨balanced.shared, fun _ _ => balanced.spawns, Pool.events_run source actions,
    Pool.stopped_run source actions, fun _ => balanced.drains⟩

end Ledger

/-! The source as a system of its own. -/

/-- What the pool's accesses to its source are, as actions of a system the source is a state of. -/
structure Accesses (machine : Machine σ β τ π ω α) (κ : Type*) where
  /-- A step of the source's own system. -/
  step : σ → κ → σ
  /-- The access a request for a batch makes. -/
  request : π → Nat → List κ
  /-- The access a task's next step makes. -/
  sends : τ → ω → List κ
  /-- What anyone else asks for. -/
  others : α → List κ
  pop_source : ∀ source input batch,
    (machine.pop source input batch).1 = Transition.run step source (request input batch)
  advance_source : ∀ source task input,
    (machine.advance source task input).1 = Transition.run step source (sends task input)
  outside_source : ∀ source other,
    machine.outside source other = Transition.run step source (others other)

section Accesses

variable {κ : Type*} {machine : Machine σ β τ π ω α}

/-- The accesses to the source an action makes. -/
def Accesses.sent (accesses : Accesses machine κ) (pool : Pool σ β τ) : Action π ω α → List κ
  | .pop input | .lose (some input) =>
    match pool.phase with
    | .popping batch => accesses.request input batch
    | _ => []
  | .advance place input =>
    match pool.tasks[place]? with
    | some task => accesses.sends task input
    | none => []
  | .advanceLoose place input =>
    match pool.loose[place]? with
    | some task => accesses.sends task input
    | none => []
  | .outside other => accesses.others other
  | .tick | .shutdown | .lose none | .wake | .spawn | .drain => []

/-- A step changes the source by the accesses it makes. -/
theorem Accesses.source_step (accesses : Accesses machine κ) (pool : Pool σ β τ)
    (action : Action π ω α) :
    (pool.step machine action).source =
      Transition.run accesses.step pool.source (accesses.sent pool action) := by
  cases action with
  | pop input =>
    cases phase : pool.phase with
    | popping batch => simpa [Pool.step, sent, phase] using accesses.pop_source _ input batch
    | _ => simp [Pool.step, sent, phase]
  | lose input =>
    cases phase : pool.phase with
    | popping batch =>
      cases input with
      | none => simp [Pool.step, sent, phase]
      | some input =>
        simpa [Pool.step, sent, phase] using accesses.pop_source _ input batch
    | _ => cases input <;> simp [Pool.step, sent, phase]
  | advance place input =>
    cases here : pool.tasks[place]? with
    | none => simp [Pool.step, sent, here]
    | some task =>
      simp only [sent, here]
      rw [← accesses.advance_source]
      cases left : (machine.advance pool.source task input).2 with
      | some left => rw [Pool.step_advance_some machine here left]
      | none => rw [Pool.step_advance_none machine here left]
  | advanceLoose place input =>
    cases here : pool.loose[place]? with
    | none => simp [Pool.step, sent, here]
    | some task =>
      simp only [sent, here, Pool.step]
      rw [← accesses.advance_source]
      split
      · next moved => rw [moved]
      · next moved => rw [moved]
  | outside other => exact accesses.outside_source _ other
  | tick =>
    simp only [Pool.step, sent]
    split
    · split <;> rfl
    · rfl
  | spawn =>
    simp only [Pool.step, sent]
    split
    · rfl
    · split <;> rfl
    · rfl
  | drain =>
    simp only [Pool.step, sent]
    split
    · split
      · rfl
      · split <;> rfl
    · rfl
  | shutdown => cases phase : pool.phase <;> simp [Pool.step, sent, phase]
  | wake => cases phase : pool.phase <;> simp [Pool.step, sent, phase]

/-- The source after a run is what the accesses of the pool and of everyone else make of it, in the
order they reach it. -/
theorem Accesses.source_run (accesses : Accesses machine κ) (pool : Pool σ β τ)
    (actions : List (Action π ω α)) :
    (Transition.run (Pool.step machine) pool actions).source =
      Transition.run accesses.step pool.source
        (Transition.trace (Pool.step machine) accesses.sent pool actions) :=
  Transition.run_simulates Pool.source (fun _ => True) (fun _ _ _ => trivial)
    (fun pool action _ => accesses.source_step pool action) pool actions trivial

end Accesses

end TaskPool
