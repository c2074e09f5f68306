import Mathlib.Algebra.BigOperators.Group.Finset.Piecewise
import Mathlib.Algebra.BigOperators.Group.Finset.Sigma
import OpenEngine.Queue.Conservation
import OpenEngine.Queue.LaneLeases
import OpenEngine.Queue.LaneRegistry

/-!
# Counting the jobs

`count` of both queues adds up the lengths of keys, and the multilane one goes over the registered
lanes only. The numbers are those of jobs: the five counts of a single-lane queue add up to the ids
in its dedupe set, and the three live counts of a multilane queue to the ids that are live in some
lane, registered or not.
-/

namespace OpenEngine.Queue

open Redis

variable {ι δ ο ε : Type}

/-- `JobStatus`. -/
inductive JobStatus where
  | pending
  | active
  | delayed
  | success
  | failed
deriving DecidableEq

/-- `count` of `Queue`. -/
def Store.count (store : Store ι δ ο ε) : JobStatus → Nat
  | .pending => store.pending.length
  | .active => store.active.keys.length
  | .delayed => store.delayed.keys.length
  | .success => store.success.length
  | .failed => store.failed.length

/-- The part of `count` that looks at one lane. -/
def Lane.count (lane : Lane ι) : JobStatus → Nat
  | .pending => lane.pending.length
  | .active => lane.active.keys.length
  | .delayed => lane.delayed.keys.length
  | .success | .failed => 0

/-- `count` of `MultilaneQueue`, of one lane or of all registered ones. -/
def MultilaneStore.count (store : MultilaneStore ι δ ο ε) (laneId : Option String) :
    JobStatus → Nat
  | .success => store.success.length
  | .failed => store.failed.length
  | status =>
    match laneId with
    | some laneId => (store.lane laneId).count status
    | none => ((zrange store.lanes).map fun entry => (store.lane entry.1).count status).sum

section Sums

variable {α β : Type} [DecidableEq α]

/-- A list of some ids is as long as they occur in it. -/
theorem length_eq_sum_count {list : List α} {ids : Finset α} (known : ∀ id ∈ list, id ∈ ids) :
    list.length = ∑ id ∈ ids, list.count id := by
  have sum : ∑ id ∈ ids, (list : Multiset α).count id = (list : Multiset α).card :=
    Multiset.sum_count_eq_card known
  simpa using sum.symm

/-- A hash has a field for each of its keys. -/
theorem length_keys_eq_sum {hash : Hash α β} {ids : Finset α} (known : ∀ id ∈ hash, id ∈ ids) :
    hash.keys.length = ∑ id ∈ ids, if id ∈ hash then 1 else 0 := by
  rw [length_eq_sum_count fun id member => known id (AList.mem_keys.mpr member)]
  refine Finset.sum_congr rfl fun id _ => ?_
  rw [List.Nodup.count hash.keys_nodup]
  exact if_congr AList.mem_keys.symm rfl rfl

end Sums

section Single

variable [LinearOrder ι] {options : QueueOptions}
  (permanent : options.idempotencyMode = .permanent) (someSuccess : 0 < options.maxSuccess)
  (someFailed : 0 < options.maxFailed)

include permanent someSuccess someFailed

/-- In permanent mode the five counts add up to the known ids, after every core run. -/
theorem Store.counts_add_up (ops : List (Op ι δ ο ε)) (core : ∀ op ∈ ops, op.isCore) :
    let store := Transition.run (Store.step options) (Store.empty : Store ι δ ο ε) ops
    store.count .pending + store.count .delayed + store.count .active + store.count .success +
      store.count .failed = store.dedupe.card := by
  intro store
  have conserved := Store.conserved_run permanent someSuccess someFailed ops core
  have places (id : ι) : store.places id = if id ∈ store.dedupe then 1 else 0 := by
    rw [← store.places_view]
    split
    · next known => exact (conserved id).known (by simpa [Store.view] using known)
    · next unknown => exact (conserved id).unknown (by simpa [Store.view] using unknown)
  have known (id : ι) (listed : 0 < store.places id) : id ∈ store.dedupe := by
    by_contra unknown
    rw [places, if_neg unknown] at listed
    exact absurd listed (lt_irrefl 0)
  have listed {list : List ι} (part : ∀ id, list.count id ≤ store.places id) :
      list.length = ∑ id ∈ store.dedupe, list.count id :=
    length_eq_sum_count fun id member =>
      known id (Nat.lt_of_lt_of_le (List.count_pos_iff.mpr member) (part id))
  have hashed {β : Type} {hash : Hash ι β}
      (part : ∀ id, (if id ∈ hash then 1 else 0) ≤ store.places id) :
      hash.keys.length = ∑ id ∈ store.dedupe, if id ∈ hash then 1 else 0 :=
    length_keys_eq_sum fun id member => known id (by
      have here := part id
      rw [if_pos member] at here
      omega)
  calc
    store.pending.length + store.delayed.keys.length + store.active.keys.length +
        store.success.length + store.failed.length = ∑ id ∈ store.dedupe, store.places id := by
      simp only [Store.places, Finset.sum_add_distrib]
      rw [listed fun id => ?_, hashed fun id => ?_, hashed fun id => ?_, listed fun id => ?_,
        listed fun id => ?_]
      all_goals
        unfold Store.places
        omega
    _ = ∑ id ∈ store.dedupe, 1 := by
      refine Finset.sum_congr rfl fun id member => ?_
      rw [places, if_pos member]
    _ = store.dedupe.card := by rw [Finset.card_eq_sum_ones]

end Single

/-- The deferred job is the one known id, and is counted once. -/
theorem Store.counts_add_up_expireAndDefer :
    let store := Transition.run (Store.step {}) Store.empty expireAndDefer
    store.count .pending + store.count .delayed + store.count .active + store.count .success +
      store.count .failed = store.dedupe.card ∧ store.count .delayed = 1 := by
  intro store
  have total := @Store.counts_add_up Nat String Nat String _ {} rfl (by decide) (by decide)
    expireAndDefer (by decide)
  exact ⟨total, by decide +kernel⟩

section Lanes

variable [LinearOrder ι]

/-- The job is queued, delayed or running in the lane its metadata names. -/
def MultilaneStore.isLiveJob (store : MultilaneStore ι δ ο ε) (id : ι) : Bool :=
  (store.jobMeta id).laneId.any fun laneId => 0 < store.entries laneId id

variable {store : MultilaneStore ι δ ο ε}

/-- What `ZRANGE` lists is summed over as over the members. -/
theorem sum_zrange (set : Hash String Nat) (measure : String → Nat) :
    ((zrange set).map fun entry => measure entry.1).sum =
      ∑ member ∈ set.keys.toFinset, measure member := by
  have same : (zrange set).map (fun entry => measure entry.1) =
      ((zrange set).map Prod.fst).map measure := by
    rw [List.map_map]
    rfl
  rw [same, ((zrange_perm set).map measure).sum_eq, List.sum_toFinset measure set.keys_nodup]

/-- The live entries of a lane are those of the known ids. -/
theorem MultilaneStore.count_lane (settled : ∀ id, store.Settled id) (laneId : String) :
    (store.lane laneId).count .pending + (store.lane laneId).count .delayed +
      (store.lane laneId).count .active = ∑ id ∈ store.dedupe, store.entries laneId id := by
  have known (id : ι) (present : 0 < store.entries laneId id) : id ∈ store.dedupe :=
    ((settled id).entries_pos present).2.2.2
  have listed : (store.lane laneId).pending.length =
      ∑ id ∈ store.dedupe, (store.lane laneId).pending.count id :=
    length_eq_sum_count fun id member => known id (by
      have here : 0 < (store.lane laneId).pending.count id := List.count_pos_iff.mpr member
      unfold entries
      dsimp only
      omega)
  have delayed : (store.lane laneId).delayed.keys.length =
      ∑ id ∈ store.dedupe, if id ∈ (store.lane laneId).delayed then 1 else 0 :=
    length_keys_eq_sum fun id member => known id (by simp [entries, member])
  have active : (store.lane laneId).active.keys.length =
      ∑ id ∈ store.dedupe, if id ∈ (store.lane laneId).active then 1 else 0 :=
    length_keys_eq_sum fun id member => known id (by simp [entries, member])
  simp only [Lane.count, entries, listed, delayed, active, Finset.sum_add_distrib]

/-- Over the registered lanes a job has one entry if it is live, and none otherwise. -/
theorem MultilaneStore.sum_entries (registered : store.Registered) {id : ι}
    (settled : store.Settled id) :
    ∑ laneId ∈ store.lanes.keys.toFinset, store.entries laneId id =
      if store.isLiveJob id then 1 else 0 := by
  have elsewhere {laneId : String} (away : (store.jobMeta id).laneId ≠ some laneId) :
      store.entries laneId id = 0 := by
    by_contra present
    exact away (settled.entries_pos (Nat.pos_of_ne_zero present)).2.1
  unfold isLiveJob
  cases lane : (store.jobMeta id).laneId with
  | none =>
    rw [Option.any_none, if_neg Bool.false_ne_true]
    exact Finset.sum_eq_zero fun laneId _ => elsewhere (by simp [lane])
  | some home =>
    have alone : ∀ laneId ∈ store.lanes.keys.toFinset, laneId ≠ home →
        store.entries laneId id = 0 := by
      intro laneId _ other
      refine elsewhere fun same => other ?_
      rw [lane] at same
      exact (Option.some.inj same).symm
    by_cases present : 0 < store.entries home id
    · have occupied : (store.lane home).Occupied := by
        by_contra unoccupied
        obtain ⟨pending, delayed, active⟩ := Lane.empty_of_not_occupied unoccupied
        simp [entries, pending, delayed, active] at present
      have member : home ∈ store.lanes.keys.toFinset :=
        List.mem_toFinset.mpr (AList.mem_keys.mpr (registered home occupied))
      rw [Finset.sum_eq_single_of_mem home member alone, (settled.entries_pos present).1]
      simp [present]
    · have absent : store.entries home id = 0 := Nat.eq_zero_of_not_pos present
      have everywhere : ∀ laneId ∈ store.lanes.keys.toFinset, store.entries laneId id = 0 := by
        intro laneId member
        by_cases same : laneId = home
        · rw [same, absent]
        · exact alone laneId member same
      rw [Finset.sum_eq_zero everywhere]
      simp [absent]

/-- In every reachable state the counts of pending, delayed and active jobs over the registered
lanes add up to the jobs that are live in any lane. -/
theorem MultilaneStore.live_counts_add_up (options : QueueOptions) (ops : List (LaneOp ι δ ο ε)) :
    let store := Transition.run (MultilaneStore.step options)
      (MultilaneStore.empty : MultilaneStore ι δ ο ε) ops
    store.count none .pending + store.count none .delayed + store.count none .active =
      (store.dedupe.filter fun id => store.isLiveJob id).card := by
  intro store
  have settled : ∀ id, store.Settled id := MultilaneStore.settled_run options ops
  have registered : store.Registered := MultilaneStore.registered_after options ops
  have sums (status : JobStatus) :
      ((zrange store.lanes).map fun entry => (store.lane entry.1).count status).sum =
        ∑ laneId ∈ store.lanes.keys.toFinset, (store.lane laneId).count status :=
    sum_zrange store.lanes fun laneId => (store.lane laneId).count status
  calc
    store.count none .pending + store.count none .delayed + store.count none .active =
        ∑ laneId ∈ store.lanes.keys.toFinset, ∑ id ∈ store.dedupe, store.entries laneId id := by
      simp only [count]
      rw [sums, sums, sums, ← Finset.sum_add_distrib, ← Finset.sum_add_distrib]
      exact Finset.sum_congr rfl fun laneId _ => count_lane settled laneId
    _ = ∑ id ∈ store.dedupe, ∑ laneId ∈ store.lanes.keys.toFinset, store.entries laneId id :=
      Finset.sum_comm
    _ = ∑ id ∈ store.dedupe, if store.isLiveJob id then 1 else 0 :=
      Finset.sum_congr rfl fun id _ => sum_entries registered (settled id)
    _ = (store.dedupe.filter fun id => store.isLiveJob id).card := (Finset.card_filter _ _).symm

end Lanes

end OpenEngine.Queue
