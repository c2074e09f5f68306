import Mathlib.Data.List.Induction
import Mathlib.Data.List.Nodup
import OpenEngine.TaskPool

/-!
# Tasks under leases

Each job of a pool is taken under a lease, and the request it came with marks it. A lease that is
gone stays gone, unless a later request has the same mark. A task gives its lease up at some step of
its own, or abandons it, and may go on after either. In a run in which no two requests have one
mark, every job that ended has then lost its lease or was abandoned.
-/

namespace TaskPool

variable {σ β τ π ω α μ : Type*}

/-- What the leases of a pool's jobs do. -/
structure Tenure (machine : Machine σ β τ π ω α) (μ : Type*) where
  /-- The lease of a job is gone. -/
  Gone : σ → β → Prop
  /-- The mark of a job's lease. -/
  mark : β → μ
  /-- The mark of a request. -/
  request : π → μ
  /-- The marks of what anyone else asks for. -/
  others : α → List μ
  /-- The task has its lease behind it. -/
  past : τ → Bool
  /-- The task puts its lease behind it, or ends, without giving it up. -/
  abandons : σ → τ → ω → Bool
  start_past : ∀ job, past (machine.start job) = false
  pop_mark : ∀ source input batch, ∀ job ∈ (machine.pop source input batch).2.1,
    mark job = request input
  pop_gone : ∀ source input batch job, mark job ≠ request input → Gone source job →
    Gone (machine.pop source input batch).1 job
  outside_gone : ∀ source other job, mark job ∉ others other → Gone source job →
    Gone (machine.outside source other) job
  advance_gone : ∀ source task input job, Gone source job →
    Gone (machine.advance source task input).1 job
  done : ∀ source task input, past task = false → abandons source task input = false →
    (∀ left ∈ (machine.advance source task input).2, past left) →
    Gone (machine.advance source task input).1 (machine.job task)

section Leases

variable {machine : Machine σ β τ π ω α} (tenure : Tenure machine μ)

/-- The marks an action adds. -/
def Tenure.marks (pool : Pool σ β τ) : Action π ω α → List μ
  | .pop input | .lose (some input) =>
    match pool.phase with
    | .popping _ => [tenure.request input]
    | _ => []
  | .outside other => tenure.others other
  | .tick | .shutdown | .lose none | .wake | .spawn | .advance _ _ | .advanceLoose _ _ | .drain =>
    []

/-- The jobs whose leases are abandoned. -/
def Tenure.abandoned (pool : Pool σ β τ) : Action π ω α → List β
  | .advance place input =>
    match pool.tasks[place]? with
    | some task =>
      if tenure.past task = false ∧ tenure.abandons pool.source task input then [machine.job task]
      else []
    | none => []
  | _ => []

/-- A lease with one of the marks is gone. -/
def Tenure.Lapsed (source : σ) (seen : List μ) (job : β) : Prop :=
  tenure.mark job ∈ seen ∧ tenure.Gone source job

/-- What is known of the leases of a pool's jobs after requests with some marks, with some jobs
abandoned. -/
structure Tenure.Known (pool : Pool σ β τ) (seen : List μ) (left : List β) : Prop where
  /-- A running job came with one of the requests. -/
  running : ∀ task ∈ pool.tasks, tenure.mark (machine.job task) ∈ seen
  /-- So did a job that waits for its task. -/
  waiting : ∀ job ∈ pool.phase.unspawned, tenure.mark job ∈ seen
  /-- A task that has its lease behind it has none, or its job was abandoned. -/
  given : ∀ task ∈ pool.tasks, tenure.past task →
    machine.job task ∈ left ∨ tenure.Gone pool.source (machine.job task)

variable {tenure} {pool next : Pool σ β τ} {seen more : List μ} {left late : List β}

/-- A lapsed lease stays lapsed while no request has its mark. -/
theorem Tenure.Lapsed.step {job : β} (lapsed : tenure.Lapsed pool.source seen job)
    (action : Action π ω α) (fresh : (seen ++ tenure.marks pool action).Nodup) :
    tenure.Lapsed (pool.step machine action).source (seen ++ tenure.marks pool action) job := by
  obtain ⟨marked, gone⟩ := lapsed
  have apart := List.disjoint_of_nodup_append fresh marked
  refine ⟨List.mem_append_left _ marked, ?_⟩
  rcases pool.source_cases machine action with
    same | ⟨input, batch, named, phase, popped⟩ | ⟨task, input, moved⟩ | ⟨other, rfl, done⟩
  · rwa [same]
  · rw [popped]
    refine tenure.pop_gone _ _ _ _ (fun same => apart ?_) gone
    rcases named with rfl | rfl <;> simp [marks, phase, same]
  · rw [moved]
    exact tenure.advance_gone _ _ _ _ gone
  · rw [done]
    exact tenure.outside_gone _ _ _ apart gone

/-- The job was abandoned, or its lease has lapsed. -/
def Tenure.Settled (tenure : Tenure machine μ) (source : σ) (seen : List μ) (left : List β)
    (job : β) : Prop :=
  job ∈ left ∨ tenure.Lapsed source seen job

/-- A task that has its lease behind it has settled it. -/
theorem Tenure.Known.settled (known : tenure.Known pool seen left) {task : τ}
    (member : task ∈ pool.tasks) (past : tenure.past task) :
    tenure.Settled pool.source seen left (machine.job task) :=
  (known.given task member past).imp_right fun gone => ⟨known.running task member, gone⟩

/-- What is known of the jobs is known of fewer of them while settled leases stay so. -/
theorem Tenure.Known.shrink (known : tenure.Known pool seen left)
    (kept : ∀ job, tenure.Settled pool.source seen left job →
      tenure.Settled next.source (seen ++ more) (left ++ late) job)
    (tasks : next.tasks ⊆ pool.tasks) (batch : next.phase.unspawned ⊆ pool.phase.unspawned) :
    tenure.Known next (seen ++ more) (left ++ late) := by
  refine ⟨fun task member => List.mem_append_left _ (known.running task (tasks member)),
    fun job member => List.mem_append_left _ (known.waiting job (batch member)),
    fun task member past => ?_⟩
  exact (kept _ (known.settled (tasks member) past)).imp_right And.right

/-- What is known of the jobs stays so when a task moves on, and a task that ends has settled its
lease. -/
theorem Tenure.Known.advance (known : tenure.Known pool seen left) {place : Nat} {task : τ}
    (here : pool.tasks[place]? = some task) (input : ω)
    (kept : ∀ job, tenure.Settled pool.source seen left job →
      tenure.Settled (machine.advance pool.source task input).1 (seen ++ more) (left ++ late) job)
    (told : tenure.past task = false ∧ tenure.abandons pool.source task input →
      machine.job task ∈ late) :
    (∀ later, (machine.advance pool.source task input).2 = some later →
      tenure.Known { pool with
        source := (machine.advance pool.source task input).1
        tasks := pool.tasks.set place later } (seen ++ more) (left ++ late)) ∧
    ((machine.advance pool.source task input).2 = none →
      tenure.Settled (machine.advance pool.source task input).1 (seen ++ more) (left ++ late)
        (machine.job task)) := by
  have member := List.mem_of_getElem? here
  have marked : tenure.mark (machine.job task) ∈ seen ++ more :=
    List.mem_append_left _ (known.running task member)
  -- Whoever has the lease behind it after the step has given it up, now or before, or abandoned it.
  have settled (past : ∀ later ∈ (machine.advance pool.source task input).2, tenure.past later) :
      tenure.Settled (machine.advance pool.source task input).1 (seen ++ more) (left ++ late)
        (machine.job task) := by
    cases before : tenure.past task with
    | true => exact kept _ (known.settled member before)
    | false =>
      cases abandons : tenure.abandons pool.source task input with
      | true => exact .inl (List.mem_append_right _ (told ⟨before, abandons⟩))
      | false => exact .inr ⟨marked, tenure.done _ _ _ before abandons past⟩
  constructor
  · intro later goes
    have rest : tenure.Known { pool with source := (machine.advance pool.source task input).1 }
        (seen ++ more) (left ++ late) :=
      known.shrink kept (List.Subset.refl _) (List.Subset.refl _)
    have same := machine.job_advance pool.source task input later goes
    refine ⟨fun other inside => ?_, rest.waiting, fun other inside past => ?_⟩
    · obtain inside | rfl := List.mem_or_eq_of_mem_set inside
      · exact rest.running other inside
      · rw [same]
        exact marked
    · obtain inside | rfl := List.mem_or_eq_of_mem_set inside
      · exact rest.given other inside past
      · rw [same]
        refine (settled fun found equal => ?_).imp_right And.right
        rw [goes] at equal
        exact Option.some.inj equal ▸ past
  · intro ends
    refine settled fun found equal => ?_
    rw [ends] at equal
    contradiction

/-- A step keeps what is known of the leases, and a job it ends has settled its own. -/
theorem Tenure.Known.step (known : tenure.Known pool seen left) (action : Action π ω α)
    (fresh : (seen ++ tenure.marks pool action).Nodup) :
    tenure.Known (pool.step machine action) (seen ++ tenure.marks pool action)
        (left ++ tenure.abandoned pool action) ∧
      ∀ job ∈ ended (pool.events machine action),
        tenure.Settled (pool.step machine action).source (seen ++ tenure.marks pool action)
          (left ++ tenure.abandoned pool action) job := by
  have kept (job : β) (settled : tenure.Settled pool.source seen left job) :
      tenure.Settled (pool.step machine action).source (seen ++ tenure.marks pool action)
        (left ++ tenure.abandoned pool action) job :=
    settled.imp (List.mem_append_left _) fun lapsed => lapsed.step action fresh
  have same (tasks : (pool.step machine action).tasks ⊆ pool.tasks)
      (batch : (pool.step machine action).phase.unspawned ⊆ pool.phase.unspawned)
      (silent : ended (pool.events machine action) = []) :
      tenure.Known (pool.step machine action) (seen ++ tenure.marks pool action)
          (left ++ tenure.abandoned pool action) ∧
        ∀ job ∈ ended (pool.events machine action),
          tenure.Settled (pool.step machine action).source (seen ++ tenure.marks pool action)
            (left ++ tenure.abandoned pool action) job := by
    rw [silent]
    exact ⟨known.shrink kept tasks batch, by simp⟩
  by_cases quiet : action.isQuiet
  · obtain ⟨tasks, batch, silent⟩ := pool.step_quiet machine quiet
    exact same (by rw [tasks]; exact List.Subset.refl _) (by rw [batch]; exact List.Subset.refl _)
      (by rw [silent]; rfl)
  cases action with
  | pop input =>
    cases phase : pool.phase with
    | popping batch =>
      have still : tenure.Known { pool.step machine (.pop input) with phase := .polling }
          (seen ++ tenure.marks pool (.pop input)) (left ++ tenure.abandoned pool (.pop input)) :=
        known.shrink kept (by simp [Pool.step, phase]) (by simp [Phase.unspawned])
      refine ⟨⟨still.running, fun job member => ?_, still.given⟩, by simp [Pool.events, phase]⟩
      simp only [Pool.step, phase, Phase.unspawned] at member
      rw [tenure.pop_mark _ _ _ job member]
      exact List.mem_append_right _ (by simp [marks, phase])
    | _ =>
      exact same (by simp [Pool.step, phase]) (by simp [Pool.step, phase])
        (by simp [Pool.events, phase])
  | spawn =>
    cases phase : pool.phase with
    | spawning jobs =>
      cases jobs with
      | nil =>
        exact same (by simp [Pool.step, phase]) (by simp [Pool.step, phase, Phase.unspawned])
          (by simp [Pool.events])
      | cons job rest =>
        by_cases free : pool.permits = 0
        · exact same (by simp [Pool.step, phase, free]) (by simp [Pool.step, phase, free])
            (by simp [Pool.events])
        · have taken : pool.step machine .spawn =
              { pool with
                permits := pool.permits - 1
                tasks := pool.tasks ++ [machine.start job]
                phase := .spawning rest } := by
            simp [Pool.step, phase, free]
          have waiting (other : β) (member : other ∈ job :: rest) : tenure.mark other ∈ seen :=
            known.waiting other (by simpa [phase, Phase.unspawned] using member)
          simp only [taken, marks, abandoned, List.append_nil]
          refine ⟨⟨?_, fun other member => waiting other (List.mem_cons_of_mem _ member), ?_⟩,
            by simp [Pool.events]⟩
          · intro task member
            rcases List.mem_append.mp member with earlier | added
            · exact known.running task earlier
            · rw [List.mem_singleton.mp added, machine.job_start]
              exact waiting job List.mem_cons_self
          · intro task member past
            rcases List.mem_append.mp member with earlier | added
            · exact known.given task earlier past
            · rw [List.mem_singleton.mp added, tenure.start_past] at past
              contradiction
    | _ =>
      exact same (by simp [Pool.step, phase]) (by simp [Pool.step, phase]) (by simp [Pool.events])
  | advance place input =>
    cases here : pool.tasks[place]? with
    | none =>
      exact same (by simp [Pool.step, here]) (by simp [Pool.step, here])
        (by simp [Pool.events, here])
    | some task =>
      have told (leaves : tenure.past task = false ∧ tenure.abandons pool.source task input) :
          machine.job task ∈ tenure.abandoned pool (.advance place input) := by
        simp [abandoned, here, leaves]
      cases goes : (machine.advance pool.source task input).2 with
      | some later =>
        have moved := Pool.step_advance_some machine here goes
        rw [moved] at kept ⊢
        have silent : ended (pool.events machine (.advance place input)) = [] := by
          simp [Pool.events, here, goes]
        rw [silent]
        exact ⟨(known.advance here input kept told).1 _ goes, by simp⟩
      | none =>
        have moved := Pool.step_advance_none machine here goes
        rw [moved] at kept ⊢
        have named : ended (pool.events machine (.advance place input)) = [machine.job task] := by
          simp [Pool.events, here, goes, ended]
        rw [named]
        have rest : tenure.Known { pool with
            source := (machine.advance pool.source task input).1
            tasks := pool.tasks.eraseIdx place }
            (seen ++ tenure.marks pool (.advance place input))
            (left ++ tenure.abandoned pool (.advance place input)) :=
          known.shrink kept List.eraseIdx_subset (List.Subset.refl _)
        refine ⟨⟨rest.running, rest.waiting, rest.given⟩, fun job member => ?_⟩
        rw [List.mem_singleton.mp member]
        exact (known.advance here input kept told).2 goes
  | _ => exact absurd rfl quiet

/-- Over a run of a fresh pool in which no two requests have one mark, a job that ended has lost its
lease or was abandoned. -/
theorem Tenure.known_run (tenure : Tenure machine μ) (source : σ) (actions : List (Action π ω α)) :
    let fresh := Pool.fresh machine source
    let seen := Transition.trace (Pool.step machine) tenure.marks fresh actions
    let left := Transition.trace (Pool.step machine) tenure.abandoned fresh actions
    seen.Nodup →
      tenure.Known (Transition.run (Pool.step machine) fresh actions) seen left ∧
        ∀ job ∈ ended (Transition.trace (Pool.step machine) (Pool.events machine) fresh actions),
          tenure.Settled (Transition.run (Pool.step machine) fresh actions).source seen left
            job := by
  intro fresh seen left distinct
  induction actions using List.reverseRecOn with
  | nil =>
    refine ⟨⟨?_, ?_, ?_⟩, by simp [Transition.trace]⟩
    · simp [fresh, Pool.fresh]
    · simp [fresh, Pool.fresh, Phase.unspawned]
    · simp [fresh, Pool.fresh]
  | append_singleton before action ih =>
    simp only [seen, left, Transition.trace_append, Transition.run_append, Transition.trace,
      List.append_nil, Transition.run_cons, Transition.run_nil, ended_append] at distinct ⊢
    obtain ⟨known, settled⟩ := ih (List.nodup_append.mp distinct).1
    obtain ⟨next, told⟩ := known.step action distinct
    refine ⟨next, fun job member => ?_⟩
    rcases List.mem_append.mp member with earlier | here
    · exact (settled job earlier).imp (List.mem_append_left _) fun lapsed =>
        lapsed.step action distinct
    · exact told job here

/-- A loop that has returned holds no lease of a job it took, but those of abandoned jobs. -/
theorem Tenure.stopped_run (tenure : Tenure machine μ) (source : σ)
    (actions : List (Action π ω α)) :
    let fresh := Pool.fresh machine source
    let pool := Transition.run (Pool.step machine) fresh actions
    (Transition.trace (Pool.step machine) tenure.marks fresh actions).Nodup →
      pool.phase = .stopped →
      ∀ job ∈ taken (Transition.trace (Pool.step machine) (Pool.events machine) fresh actions),
        job ∈ Transition.trace (Pool.step machine) tenure.abandoned fresh actions ∨
          tenure.Gone pool.source job := by
  intro fresh pool distinct stopped job taken
  have settled := (Pool.stopped_run source actions stopped).2
  exact ((tenure.known_run source actions distinct).2 job (settled.mem_iff.mp taken)).imp_right
    And.right

end Leases

end TaskPool
