import OpenEngine.LeasedTasks

/-!
# Several pools on one source

Any number of pools of one machine poll the same source, each with permits and tasks of its own. To
each of them the accesses of the others are what someone else does, so its part of the fleet's run
is a run of a single pool, and what holds of a pool under every interference holds of each.
-/

namespace TaskPool

variable {φ σ β τ π ω α κ μ ε : Type*}

/-- Pools that see one source. -/
structure Fleet (φ σ β τ : Type*) where
  pool : φ → Pool σ β τ
  shared : ∀ one other, (pool one).source = (pool other).source

/-- The fleet whose pools all start. -/
def Fleet.fresh (machine : Machine σ β τ π ω α) (source : σ) : Fleet φ σ β τ where
  pool _ := .fresh machine source
  shared _ _ := rfl

/-- Anyone else can make the accesses of a pool. -/
structure Relay {machine : Machine σ β τ π ω α} (accesses : Accesses machine κ) where
  act : κ → α
  outside_act : ∀ source access, machine.outside source (act access) = accesses.step source access

section Fleet

variable [DecidableEq φ] {machine : Machine σ β τ π ω α} {accesses : Accesses machine κ}

/-- A pool takes an action, and all see the source it leaves. -/
def Fleet.step (machine : Machine σ β τ π ω α) (fleet : Fleet φ σ β τ)
    (action : φ × Action π ω α) : Fleet φ σ β τ where
  pool who :=
    let moved := (fleet.pool action.1).step machine action.2
    if who = action.1 then moved else { fleet.pool who with source := moved.source }
  shared one other := by
    dsimp only
    split <;> split <;> rfl

/-- What a pool puts out in the fleet's run. -/
def Fleet.own (emit : Pool σ β τ → Action π ω α → List ε) (who : φ) (fleet : Fleet φ σ β τ)
    (action : φ × Action π ω α) : List ε :=
  if who = action.1 then emit (fleet.pool who) action.2 else []

/-- What all pools put out. -/
def Fleet.all (emit : Pool σ β τ → Action π ω α → List ε) (fleet : Fleet φ σ β τ)
    (action : φ × Action π ω α) : List ε :=
  emit (fleet.pool action.1) action.2

/-- Accesses as actions of someone else. -/
def Relay.pass (relay : Relay accesses) (sent : List κ) : List (Action π ω α) :=
  sent.map fun access => .outside (relay.act access)

/-- What a pool sees of an action in the fleet. -/
def Relay.view (relay : Relay accesses) (who : φ) (fleet : Fleet φ σ β τ)
    (action : φ × Action π ω α) : List (Action π ω α) :=
  if who = action.1 then [action.2]
  else relay.pass (accesses.sent (fleet.pool action.1) action.2)

/-- Passed accesses change the source alone. -/
theorem Relay.run_pass (relay : Relay accesses) (pool : Pool σ β τ) (sent : List κ) :
    Transition.run (Pool.step machine) pool (relay.pass sent) =
      { pool with source := Transition.run accesses.step pool.source sent } := by
  induction sent generalizing pool with
  | nil => rfl
  | cons access rest ih =>
    have first : pool.step machine (.outside (relay.act access)) =
        { pool with source := accesses.step pool.source access } := by
      rw [← relay.outside_act]
      rfl
    show Transition.run (Pool.step machine) (pool.step machine (.outside (relay.act access)))
      (relay.pass rest) = _
    rw [first, ih]
    rfl

/-- To each pool a step of the fleet is what it sees of the action. -/
theorem Relay.pool_step (relay : Relay accesses) (who : φ) (fleet : Fleet φ σ β τ)
    (action : φ × Action π ω α) :
    (fleet.step machine action).pool who =
      Transition.run (Pool.step machine) (fleet.pool who) (relay.view who fleet action) := by
  unfold Fleet.step Relay.view
  by_cases same : who = action.1
  · rw [if_pos same, same]
    dsimp only
    rw [if_pos rfl, Transition.run_cons, Transition.run_nil]
  · have one := fleet.shared who action.1
    have moved := accesses.source_step (fleet.pool action.1) action.2
    rw [if_neg same, relay.run_pass]
    dsimp only
    rw [if_neg same, moved, one]

/-- To each pool a run of the fleet is the run of what it sees. -/
theorem Relay.pool_run (relay : Relay accesses) (who : φ) (fleet : Fleet φ σ β τ)
    (actions : List (φ × Action π ω α)) :
    (Transition.run (Fleet.step machine) fleet actions).pool who =
      Transition.run (Pool.step machine) (fleet.pool who)
        (Transition.trace (Fleet.step machine) (relay.view who) fleet actions) :=
  Transition.run_simulates (fun fleet : Fleet φ σ β τ => fleet.pool who) (fun _ => True)
    (fun _ _ _ => trivial) (fun fleet action _ => relay.pool_step who fleet action) fleet actions
    trivial

/-- What a pool puts out along what it sees is read off the fleet's run, step by step. -/
theorem Relay.trace_view (relay : Relay accesses) {emit : Pool σ β τ → Action π ω α → List ε}
    {shown : Fleet φ σ β τ → φ × Action π ω α → List ε} {who : φ}
    (shows : ∀ fleet action, Transition.trace (Pool.step machine) emit (fleet.pool who)
      (relay.view who fleet action) = shown fleet action)
    (fleet : Fleet φ σ β τ) (actions : List (φ × Action π ω α)) :
    Transition.trace (Pool.step machine) emit (fleet.pool who)
        (Transition.trace (Fleet.step machine) (relay.view who) fleet actions) =
      Transition.trace (Fleet.step machine) shown fleet actions :=
  Transition.trace_simulates (fun fleet : Fleet φ σ β τ => fleet.pool who) (fun _ => True)
    (fun _ _ _ => trivial) (fun fleet action _ => relay.pool_step who fleet action)
    (fun fleet action _ => shows fleet action) fleet actions trivial

/-- What a pool puts out along what it sees is its own part of what the fleet's run puts out, if it
puts nothing out at what others do. -/
theorem Relay.trace_own (relay : Relay accesses) {emit : Pool σ β τ → Action π ω α → List ε}
    (quiet : ∀ pool other, emit pool (.outside other) = []) (who : φ) (fleet : Fleet φ σ β τ)
    (actions : List (φ × Action π ω α)) :
    Transition.trace (Pool.step machine) emit (fleet.pool who)
        (Transition.trace (Fleet.step machine) (relay.view who) fleet actions) =
      Transition.trace (Fleet.step machine) (Fleet.own emit who) fleet actions := by
  refine relay.trace_view ?_ fleet actions
  intro fleet action
  unfold Relay.view Fleet.own
  split
  · simp [Transition.trace]
  · refine Transition.trace_eq_nil _ _ fun pool passed member => ?_
    obtain ⟨access, -, rfl⟩ := List.mem_map.mp member
    exact quiet pool _

/-- A pool sees its own actions as they are. -/
theorem Relay.trace_view_own (relay : Relay accesses) (who : φ) (fleet : Fleet φ σ β τ)
    (actions : List (Action π ω α)) :
    Transition.trace (Fleet.step machine) (relay.view who) fleet (actions.map (who, ·)) =
      actions := by
  induction actions generalizing fleet with
  | nil => rfl
  | cons action rest ih =>
    have here : relay.view who fleet (who, action) = [action] := if_pos rfl
    rw [List.map_cons, Transition.trace, here, ih]
    rfl

end Fleet

/-! The leases of a fleet. -/

section Leases

variable [DecidableEq φ] {machine : Machine σ β τ π ω α} {accesses : Accesses machine κ}
  {tenure : Tenure machine μ} {relay : Relay accesses}

/-- Passed on, the accesses of a pool have the marks of its requests. -/
structure Tenure.Passes (tenure : Tenure machine μ) (relay : Relay accesses) : Prop where
  request : ∀ input batch, (accesses.request input batch).flatMap
    (fun access => tenure.others (relay.act access)) = [tenure.request input]
  sends : ∀ task input, (accesses.sends task input).flatMap
    (fun access => tenure.others (relay.act access)) = []
  others : ∀ other, (accesses.others other).flatMap
    (fun access => tenure.others (relay.act access)) = tenure.others other

/-- The accesses of an action have its marks. -/
theorem Tenure.Passes.sent (passes : tenure.Passes relay) (pool : Pool σ β τ)
    (action : Action π ω α) :
    (accesses.sent pool action).flatMap (fun access => tenure.others (relay.act access)) =
      tenure.marks pool action := by
  cases action with
  | pop input =>
    cases phase : pool.phase with
    | popping batch => simpa [Accesses.sent, marks, phase] using passes.request input batch
    | _ => simp [Accesses.sent, marks, phase]
  | lose input =>
    cases input with
    | none => rfl
    | some input =>
      cases phase : pool.phase with
      | popping batch => simpa [Accesses.sent, marks, phase] using passes.request input batch
      | _ => simp [Accesses.sent, marks, phase]
  | advance place input =>
    cases here : pool.tasks[place]? with
    | none => simp [Accesses.sent, marks, here]
    | some task => simpa [Accesses.sent, marks, here] using passes.sends task input
  | advanceLoose place input =>
    cases here : pool.loose[place]? with
    | none => simp [Accesses.sent, marks, here]
    | some task => simpa [Accesses.sent, marks, here] using passes.sends task input
  | outside other => exact passes.others other
  | _ => rfl

/-- Every pool sees all marks. -/
theorem Tenure.Passes.trace_marks (passes : tenure.Passes relay) (who : φ)
    (fleet : Fleet φ σ β τ) (actions : List (φ × Action π ω α)) :
    Transition.trace (Pool.step machine) tenure.marks (fleet.pool who)
        (Transition.trace (Fleet.step machine) (relay.view who) fleet actions) =
      Transition.trace (Fleet.step machine) (Fleet.all tenure.marks) fleet actions := by
  refine relay.trace_view ?_ fleet actions
  have passed (pool : Pool σ β τ) (sent : List κ) :
      Transition.trace (Pool.step machine) tenure.marks pool (relay.pass sent) =
        sent.flatMap fun access => tenure.others (relay.act access) := by
    induction sent generalizing pool with
    | nil => rfl
    | cons access rest ih =>
      rw [List.flatMap_cons, ← ih (pool.step machine (.outside (relay.act access)))]
      rfl
  intro fleet action
  unfold Relay.view Fleet.all
  split
  · next same => simp [Transition.trace, same]
  · rw [passed, passes.sent]

/-- A job taken bears a mark of the action that took it. -/
theorem Tenure.mark_taken (tenure : Tenure machine μ) (pool : Pool σ β τ) (action : Action π ω α)
    {job : β} (member : job ∈ taken (pool.events machine action)) :
    tenure.mark job ∈ tenure.marks pool action := by
  cases action with
  | pop input =>
    cases phase : pool.phase with
    | popping batch =>
      rw [Pool.events, phase] at member
      dsimp only at member
      rw [taken_map] at member
      simp [marks, phase, tenure.pop_mark _ _ _ job member]
    | _ => simp [Pool.events, phase] at member
  | advance place input =>
    simp only [Pool.events] at member
    split at member
    · simp at member
    · split at member <;> simp [taken] at member
  | _ => simp [Pool.events] at member

/-- In a run of a fleet in which no two requests have one mark, no two pools take one job under one
lease. -/
theorem Tenure.apart (tenure : Tenure machine μ) (fleet : Fleet φ σ β τ)
    (actions : List (φ × Action π ω α)) :
    let seen := Transition.trace (Fleet.step machine) (Fleet.all tenure.marks) fleet actions
    let took (who : φ) := taken (Transition.trace (Fleet.step machine)
      (Fleet.own (Pool.events machine) who) fleet actions)
    seen.Nodup →
      (∀ who, ∀ job ∈ took who, tenure.mark job ∈ seen) ∧
        ∀ one other, one ≠ other → List.Disjoint (took one) (took other) := by
  intro seen took distinct
  induction actions using List.reverseRecOn with
  | nil => simp [took, Transition.trace]
  | append_singleton before action ih =>
    simp only [seen, took, Transition.trace_append, Transition.trace, List.append_nil,
      taken_append] at distinct ⊢
    obtain ⟨known, apart⟩ := ih (List.nodup_append.mp distinct).1
    have fresh := List.disjoint_of_nodup_append distinct
    -- What is taken now was asked for now, by the pool that acts.
    have now (who : φ) (job : β) (member : job ∈ taken (Fleet.own (Pool.events machine) who
        (Transition.run (Fleet.step machine) fleet before) action)) :
        who = action.1 ∧ tenure.mark job ∈ Fleet.all tenure.marks
          (Transition.run (Fleet.step machine) fleet before) action := by
      unfold Fleet.own at member
      split at member
      · next acts =>
        subst acts
        exact ⟨rfl, tenure.mark_taken _ _ member⟩
      · simp at member
    refine ⟨fun who job member => ?_, fun one other different job here there => ?_⟩
    · rcases List.mem_append.mp member with earlier | later
      · exact List.mem_append_left _ (known who job earlier)
      · exact List.mem_append_right _ (now who job later).2
    · rcases List.mem_append.mp here with oneEarlier | oneNow
      · rcases List.mem_append.mp there with otherEarlier | otherNow
        · exact apart one other different oneEarlier otherEarlier
        · exact fresh (known one job oneEarlier) (now other job otherNow).2
      · rcases List.mem_append.mp there with otherEarlier | otherNow
        · exact fresh (known other job otherEarlier) (now one job oneNow).2
        · exact different ((now one job oneNow).1.trans (now other job otherNow).1.symm)

/-- Over every run of a fleet: the part of each pool is a run of a single one, in which it sees its
own actions and the others' accesses as those of someone else, and takes and ends the jobs it does
in the fleet. If no two requests have one mark, no two pools take one job under one lease, and a
pool whose loop has returned has ended every job it took and holds none of their leases, but those
of jobs it abandoned. A stopping loop whose tasks have ended returns by its own steps, whatever the
other pools are at. -/
theorem Tenure.Passes.fleet_graceful (passes : tenure.Passes relay) (source : σ)
    (actions : List (φ × Action π ω α)) :
    let start : Fleet φ σ β τ := Fleet.fresh machine source
    let fleet := Transition.run (Fleet.step machine) start actions
    let told (who : φ) := Transition.trace (Fleet.step machine)
      (Fleet.own (Pool.events machine) who) start actions
    (∀ who,
      let seen := Transition.trace (Fleet.step machine) (relay.view who) start actions
      fleet.pool who = Transition.run (Pool.step machine) (Pool.fresh machine source) seen ∧
        told who = Transition.trace (Pool.step machine) (Pool.events machine)
          (Pool.fresh machine source) seen) ∧
    ((Transition.trace (Fleet.step machine) (Fleet.all tenure.marks) start actions).Nodup →
      (∀ one other, one ≠ other → List.Disjoint (taken (told one)) (taken (told other))) ∧
      ∀ who, (fleet.pool who).phase = .stopped →
        (fleet.pool who).tasks = [] ∧ List.Perm (taken (told who)) (ended (told who)) ∧
          ∀ job ∈ taken (told who),
            job ∈ Transition.trace (Fleet.step machine) (Fleet.own tenure.abandoned who) start
                actions ∨
              tenure.Gone (fleet.pool who).source job) ∧
    ∀ who held, (fleet.pool who).phase = .draining held → (fleet.pool who).tasks = [] →
      ((Transition.run (Fleet.step machine) fleet
        ((List.replicate (machine.limit - held + 1) .drain).map (who, ·))).pool who).phase =
          .stopped := by
  intro start fleet told
  have ran (who : φ) : fleet.pool who = Transition.run (Pool.step machine)
      (Pool.fresh machine source)
      (Transition.trace (Fleet.step machine) (relay.view who) start actions) :=
    relay.pool_run who start actions
  have events (who : φ) : Transition.trace (Pool.step machine) (Pool.events machine)
      (Pool.fresh machine source)
      (Transition.trace (Fleet.step machine) (relay.view who) start actions) = told who :=
    relay.trace_own (fun _ _ => rfl) who start actions
  refine ⟨fun who => ⟨ran who, (events who).symm⟩, fun distinct => ?_, fun who held => ?_⟩
  · refine ⟨(tenure.apart start actions distinct).2, fun who stopped => ?_⟩
    have left : Transition.trace (Pool.step machine) tenure.abandoned (start.pool who)
        (Transition.trace (Fleet.step machine) (relay.view who) start actions) =
          Transition.trace (Fleet.step machine) (Fleet.own tenure.abandoned who) start actions :=
      relay.trace_own (fun _ _ => rfl) who start actions
    have marked := passes.trace_marks who start actions
    have idle := Pool.stopped_run source
      (Transition.trace (Fleet.step machine) (relay.view who) start actions) (ran who ▸ stopped)
    have gone := tenure.stopped_run source
      (Transition.trace (Fleet.step machine) (relay.view who) start actions) (marked ▸ distinct)
      (ran who ▸ stopped)
    refine ⟨?_, ?_, fun job member => ?_⟩
    · rw [ran who]
      exact idle.1
    · rw [← events who]
      exact idle.2
    · rw [← left, ran who]
      exact gone job (events who ▸ member)
  · intro draining idle
    have sees := relay.trace_view_own who fleet
      (List.replicate (machine.limit - held + 1) (.drain : Action π ω α))
    have balanced : (fleet.pool who).Balanced machine := by
      rw [ran who]
      exact (Pool.balanced_fresh machine source).run _
    rw [relay.pool_run who fleet _, sees]
    exact balanced.drains draining idle

end Leases

end TaskPool
