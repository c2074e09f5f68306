import Mathlib.Data.List.Basic

/-!
# Runs of executable transition systems

A system is a step function from a state and an action to the next state. A run is the fold of
its step over a list of actions, so every interleaving of the parties is one action list. `Along`
carries a condition on each step, judged in the state before it. `trace` collects what the steps
emit. The rules below turn facts about one step into facts about every run.
-/

namespace Transition

variable {σ α ε : Type*}

/-- The state a run of actions ends in. -/
def run (step : σ → α → σ) (state : σ) (actions : List α) : σ :=
  actions.foldl step state

/-- The events a run emits, in order. -/
def trace (step : σ → α → σ) (emit : σ → α → List ε) : σ → List α → List ε
  | _, [] => []
  | state, action :: rest => emit state action ++ trace step emit (step state action) rest

/-- Every action of the run meets the condition in the state it is taken in. -/
def Along (step : σ → α → σ) (condition : σ → α → Prop) : σ → List α → Prop
  | _, [] => True
  | state, action :: rest => condition state action ∧ Along step condition (step state action) rest

instance decidableAlong (step : σ → α → σ) (condition : σ → α → Prop)
    [∀ state action, Decidable (condition state action)] :
    ∀ state actions, Decidable (Along step condition state actions)
  | _, [] => .isTrue trivial
  | state, action :: rest =>
    have := decidableAlong step condition (step state action) rest
    inferInstanceAs (Decidable (_ ∧ _))

/-- What a run puts out since the last action that resets, on top of what was put out before it. -/
def since (step : σ → α → σ) (emit : σ → α → List ε) (resets : α → Bool) :
    List ε → σ → List α → List ε
  | told, _, [] => told
  | told, state, action :: rest =>
    since step emit resets (if resets action then [] else told ++ emit state action)
      (step state action) rest

section Rules

variable {step : σ → α → σ} {emit : σ → α → List ε} {condition : σ → α → Prop}

@[simp] theorem run_nil (state : σ) : run step state [] = state := rfl

@[simp] theorem run_cons (state : σ) (action : α) (rest : List α) :
    run step state (action :: rest) = run step (step state action) rest := rfl

/-- A run of two parts is the second part run from where the first ends. -/
theorem run_append (state : σ) (first second : List α) :
    run step state (first ++ second) = run step (run step state first) second := by
  simp [run]

/-- A condition along two parts is the condition along each from where it starts. -/
theorem along_append (state : σ) (first second : List α) :
    Along step condition state (first ++ second) ↔
      Along step condition state first ∧ Along step condition (run step state first) second := by
  induction first generalizing state with
  | nil => simp [Along]
  | cons action rest ih => simp [Along, ih, and_assoc]

/-- A condition every action of the list meets in any state is met along the run. -/
theorem along_of_mem (state : σ) (actions : List α)
    (every : ∀ state, ∀ action ∈ actions, condition state action) :
    Along step condition state actions := by
  induction actions generalizing state with
  | nil => trivial
  | cons action rest ih =>
    exact ⟨every state action List.mem_cons_self,
      ih _ fun state later member => every state later (List.mem_cons_of_mem _ member)⟩

/-- A condition on the action alone that holds of every action of the list is met along the run. -/
theorem along_of_forall {allowed : α → Prop} (state : σ) (actions : List α)
    (every : ∀ action ∈ actions, allowed action) :
    Along step (fun _ action => allowed action) state actions :=
  along_of_mem state actions fun _ => every

/-- No condition is met along every run. -/
theorem along_true (state : σ) (actions : List α) :
    Along step (fun _ _ => True) state actions :=
  along_of_mem state actions fun _ _ _ => trivial

/-- Conditions that agree on every step agree along every run. -/
theorem along_congr {other : σ → α → Prop}
    (same : ∀ state action, condition state action ↔ other state action) (state : σ)
    (actions : List α) :
    Along step condition state actions ↔ Along step other state actions := by
  induction actions generalizing state with
  | nil => exact Iff.rfl
  | cons action rest ih => exact and_congr (same state action) (ih _)

/-- Conditions that agree wherever an invariant holds agree along every run that starts there, if
the steps that meet one of them keep the invariant. -/
theorem along_iff_of_invariant {other : σ → α → Prop} (invariant : σ → Prop) (allowed : α → Prop)
    (kept : ∀ state action, invariant state → allowed action → condition state action →
      invariant (step state action))
    (same : ∀ state action, invariant state → allowed action →
      (other state action ↔ condition state action))
    (state : σ) (actions : List α) (initial : invariant state)
    (every : ∀ action ∈ actions, allowed action) :
    Along step other state actions ↔ Along step condition state actions := by
  induction actions generalizing state with
  | nil => exact Iff.rfl
  | cons action rest ih =>
    have now := every action List.mem_cons_self
    have later : ∀ action ∈ rest, allowed action :=
      fun action member => every action (List.mem_cons_of_mem _ member)
    have agreed := same state action initial now
    constructor
    · rintro ⟨met, along⟩
      have next := kept state action initial now (agreed.mp met)
      exact ⟨agreed.mp met, (ih _ next later).mp along⟩
    · rintro ⟨met, along⟩
      have next := kept state action initial now met
      exact ⟨agreed.mpr met, (ih _ next later).mpr along⟩

/-- A condition along a run is every condition it implies. -/
theorem Along.imp {other : σ → α → Prop} {state : σ} {actions : List α}
    (along : Along step condition state actions)
    (implies : ∀ state action, condition state action → other state action) :
    Along step other state actions := by
  induction actions generalizing state with
  | nil => trivial
  | cons action rest ih => exact ⟨implies _ _ along.1, ih along.2⟩

/-- Two conditions along a run are one. -/
theorem Along.and {other : σ → α → Prop} {state : σ} {actions : List α}
    (first : Along step condition state actions) (second : Along step other state actions) :
    Along step (fun state action => condition state action ∧ other state action) state
      actions := by
  induction actions generalizing state with
  | nil => trivial
  | cons action rest ih => exact ⟨⟨first.1, second.1⟩, ih first.2 second.2⟩

/-- What every admitted step preserves holds after every admitted run. -/
theorem run_invariant (property : σ → Prop)
    (preserved : ∀ state action, property state → condition state action →
      property (step state action))
    (state : σ) (actions : List α) (initial : property state)
    (along : Along step condition state actions) : property (run step state actions) := by
  induction actions generalizing state with
  | nil => exact initial
  | cons action rest ih => exact ih _ (preserved _ _ initial along.1) along.2

/-- What every step preserves holds after every run. -/
theorem run_always (property : σ → Prop)
    (preserved : ∀ state action, property state → property (step state action)) (state : σ)
    (actions : List α) (initial : property state) : property (run step state actions) :=
  run_invariant property (fun state action holds _ => preserved state action holds) state actions
    initial (along_true state actions)

/-- A property that a step keeps exactly when it meets a condition holds all along a run exactly
when every step meets it. -/
theorem along_iff_prefixes (property : σ → Prop)
    (exact : ∀ state action, property state →
      (property (step state action) ↔ condition state action))
    (state : σ) (actions : List α) (initial : property state) :
    Along step condition state actions ↔
      ∀ first, first <+: actions → property (run step state first) := by
  induction actions generalizing state with
  | nil =>
    refine iff_of_true trivial fun first part => ?_
    rw [List.prefix_nil.mp part]
    exact initial
  | cons action rest ih =>
    constructor
    · rintro ⟨met, along⟩ first part
      cases first with
      | nil => exact initial
      | cons other first =>
        obtain ⟨same, later⟩ := List.cons_prefix_cons.mp part
        rw [same, run_cons]
        exact (ih _ ((exact state action initial).mpr met)).mp along first later
    · intro throughout
      have next := throughout [action] ⟨rest, rfl⟩
      refine ⟨(exact state action initial).mp next, (ih _ next).mpr fun first part => ?_⟩
      exact throughout (action :: first) ((List.prefix_cons_inj action).mpr part)

/-- A change of the state that every admitted step commutes with, while an invariant holds, commutes
with every admitted run. -/
theorem run_commutes (change : σ → σ) (invariant : σ → Prop)
    (kept : ∀ state action, invariant state → condition state action →
      invariant (step state action))
    (commutes : ∀ state action, invariant state → condition state action →
      step (change state) action = change (step state action))
    (state : σ) (actions : List α) (initial : invariant state)
    (along : Along step condition state actions) :
    run step (change state) actions = change (run step state actions) := by
  induction actions generalizing state with
  | nil => rfl
  | cons action rest ih =>
    have first := commutes state action initial along.1
    rw [run_cons, run_cons, first]
    exact ih _ (kept state action initial along.1) along.2

/-- What every admitted step preserves, or breaks in a way that can be named, holds after a run in
which no step breaks it. -/
theorem run_invariant_or (property : σ → Prop) (exception : σ → α → Prop)
    (preserved : ∀ state action, property state → condition state action →
      property (step state action) ∨ exception state action)
    (state : σ) (actions : List α) (initial : property state)
    (along : Along step condition state actions) :
    property (run step state actions) ∨
      ∃ first action rest, actions = first ++ action :: rest ∧
        exception (run step state first) action := by
  induction actions generalizing state with
  | nil => exact .inl initial
  | cons action rest ih =>
    rcases preserved state action initial along.1 with kept | broken
    · rcases ih _ kept along.2 with holds | ⟨first, source, later, split, broken⟩
      · exact .inl holds
      · exact .inr ⟨action :: first, source, later, by rw [split, List.cons_append], broken⟩
    · exact .inr ⟨[], action, rest, rfl, broken⟩

/-- The trace of two parts is the trace of each in order. -/
theorem trace_append (state : σ) (first second : List α) :
    trace step emit state (first ++ second) =
      trace step emit state first ++ trace step emit (run step state first) second := by
  induction first generalizing state with
  | nil => rfl
  | cons action rest ih => simp [trace, ih]

/-- A trace is read event by event. -/
theorem map_trace {ζ : Type*} {other : σ → α → List ζ} (read : ε → ζ) (state : σ)
    (actions : List α)
    (same : ∀ state, ∀ action ∈ actions, (emit state action).map read = other state action) :
    (trace step emit state actions).map read = trace step other state actions := by
  induction actions generalizing state with
  | nil => rfl
  | cons action rest ih =>
    rw [trace, trace, List.map_append, same state action List.mem_cons_self,
      ih _ fun state later member => same state later (List.mem_cons_of_mem _ member)]

/-- A run of actions that emit nothing has an empty trace. -/
theorem trace_eq_nil (state : σ) (actions : List α)
    (silent : ∀ state, ∀ action ∈ actions, emit state action = []) :
    trace step emit state actions = [] := by
  induction actions generalizing state with
  | nil => rfl
  | cons action rest ih =>
    rw [trace, silent state action List.mem_cons_self,
      ih _ fun state later member => silent state later (List.mem_cons_of_mem _ member)]
    rfl

/-- Every event of a trace is emitted by an action of the run, in the state it is taken in. -/
theorem mem_trace {state : σ} {actions : List α} {event : ε}
    (emitted : event ∈ trace step emit state actions) :
    ∃ first action rest, actions = first ++ action :: rest ∧
      event ∈ emit (run step state first) action := by
  induction actions generalizing state with
  | nil => simp [trace] at emitted
  | cons action rest ih =>
    rcases List.mem_append.mp emitted with here | later
    · exact ⟨[], action, rest, rfl, here⟩
    · obtain ⟨first, source, after, split, found⟩ := ih later
      exact ⟨action :: first, source, after, by rw [split, List.cons_append], found⟩

/-- What every admitted step preserves of the state and of all that was emitted so far holds after
every admitted run. -/
theorem run_traced (emit : σ → α → List ε) (property : σ → List ε → Prop)
    (preserved : ∀ state action told, property state told → condition state action →
      property (step state action) (told ++ emit state action))
    (state : σ) (actions : List α) (told : List ε) (initial : property state told)
    (along : Along step condition state actions) :
    property (run step state actions) (told ++ trace step emit state actions) := by
  induction actions generalizing state told with
  | nil =>
    rw [trace, List.append_nil]
    exact initial
  | cons action rest ih =>
    rw [trace, ← List.append_assoc]
    exact ih _ _ (preserved state action told initial along.1) along.2

/-- What no step changes no run changes. -/
theorem run_keeps {β : Type*} (read : σ → β)
    (keeps : ∀ state action, read (step state action) = read state) (state : σ)
    (actions : List α) : read (run step state actions) = read state := by
  induction actions generalizing state with
  | nil => rfl
  | cons action rest ih => rw [run_cons, ih, keeps]

/-- What a step spends only while it is there, and takes away, is spent at most once in a run that
never brings back what it has spent. -/
theorem trace_nodup (present : σ → ε → Prop) (brings : α → ε → Prop)
    (once : ∀ state action, (emit state action).Nodup)
    (held : ∀ state action, ∀ event ∈ emit state action, present state event)
    (spent : ∀ state action, ∀ event ∈ emit state action, ¬present (step state action) event)
    (kept : ∀ state action event, ¬brings action event → ¬present state event →
      ¬present (step state action) event)
    (state : σ) (actions : List α)
    (apart : ∀ first action rest, actions = first ++ action :: rest →
      ∀ event ∈ emit (run step state first) action, ∀ later ∈ rest, ¬brings later event) :
    (trace step emit state actions).Nodup := by
  induction actions generalizing state with
  | nil => exact List.nodup_nil
  | cons action rest ih =>
    rw [trace, List.nodup_append]
    refine ⟨once state action, ih _ fun first later after split => ?_, ?_⟩
    · exact apart (action :: first) later after (by rw [split, List.cons_append])
    · rintro event here _ again rfl
      obtain ⟨first, later, after, rfl, found⟩ := mem_trace again
      have gone : ¬present (run step (step state action) first) event := by
        refine run_invariant (fun state => ¬present state event)
          (fun state action absent unbrought => kept state action event unbrought absent) _ first
          (spent state action event here) (along_of_forall _ first fun op member => ?_)
        exact apart [] action _ rfl event here op (List.mem_append_left _ member)
      exact gone (held _ later event found)

/-- What is read of a system whose every step does to it what a run of another system does is, after
a run, what the other system makes of all it emitted. The steps may rely on what the other system
keeps. -/
theorem run_simulates {τ : Type*} {other : τ → ε → τ} (read : σ → τ) (invariant : τ → Prop)
    (kept : ∀ state event, invariant state → invariant (other state event))
    (follows : ∀ state action, invariant (read state) →
      read (step state action) = run other (read state) (emit state action))
    (state : σ) (actions : List α) (initial : invariant (read state)) :
    read (run step state actions) = run other (read state) (trace step emit state actions) := by
  induction actions generalizing state with
  | nil => rfl
  | cons action rest ih =>
    have here := follows state action initial
    have next : invariant (read (step state action)) := by
      rw [here]
      exact run_always invariant kept _ _ initial
    rw [run_cons, ih _ next, trace, run_append, here]

/-- What a simulating system emits along what a run puts out is read off the run itself. -/
theorem trace_simulates {τ ζ : Type*} {other : τ → ε → τ} {heard : τ → ε → List ζ}
    {shown : σ → α → List ζ} (read : σ → τ) (invariant : τ → Prop)
    (kept : ∀ state event, invariant state → invariant (other state event))
    (follows : ∀ state action, invariant (read state) →
      read (step state action) = run other (read state) (emit state action))
    (shows : ∀ state action, invariant (read state) →
      trace other heard (read state) (emit state action) = shown state action)
    (state : σ) (actions : List α) (initial : invariant (read state)) :
    trace other heard (read state) (trace step emit state actions) =
      trace step shown state actions := by
  induction actions generalizing state with
  | nil => rfl
  | cons action rest ih =>
    have here := follows state action initial
    have next : invariant (read (step state action)) := by
      rw [here]
      exact run_always invariant kept _ _ initial
    rw [trace, trace_append, shows state action initial, ← here, ih _ next, trace]

/-- A measure that an action either cuts to a cap or raises by what it emits is, after every run, at
most the cap and what was emitted since the last cut. -/
theorem run_le_since (measure : σ → Nat) (cap : Nat) (resets : α → Bool)
    (cut : ∀ state action, resets action → measure (step state action) ≤ cap)
    (raised : ∀ state action, resets action = false →
      measure (step state action) ≤ measure state + (emit state action).length)
    (told : List ε) (state : σ) (actions : List α) (initial : measure state ≤ cap + told.length) :
    measure (run step state actions) ≤
      cap + (since step emit resets told state actions).length := by
  induction actions generalizing state told with
  | nil => exact initial
  | cons action rest ih =>
    rw [run_cons, since]
    refine ih _ _ ?_
    by_cases reset : resets action
    · rw [if_pos reset]
      exact Nat.le_trans (cut state action reset) (Nat.le_add_right _ _)
    · have grown := raised state action (by simpa using reset)
      rw [if_neg reset, List.length_append]
      omega

/-- What every admitted step raises by the weight of what it emits is raised by an admitted run by
the weight of its trace. -/
theorem run_accumulates (measures : σ → Nat → Prop) (weigh : List ε → Nat) (empty : weigh [] = 0)
    (append : ∀ first second, weigh (first ++ second) = weigh first + weigh second)
    (preserved : ∀ state action total, measures state total → condition state action →
      measures (step state action) (total + weigh (emit state action)))
    (state : σ) (actions : List α) (total : Nat) (initial : measures state total)
    (along : Along step condition state actions) :
    measures (run step state actions) (total + weigh (trace step emit state actions)) := by
  induction actions generalizing state total with
  | nil =>
    rw [trace, empty, Nat.add_zero]
    exact initial
  | cons action rest ih =>
    rw [trace, append, ← Nat.add_assoc]
    exact ih _ _ (preserved state action total initial along.1) along.2

end Rules

end Transition
