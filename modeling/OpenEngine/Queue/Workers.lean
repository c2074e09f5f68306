import OpenEngine.Queue.LaneWorkLoop
import OpenEngine.Queue.WorkLoop

/-!
# Several workers on one queue

`work` may be called any number of times on one queue, and a `ShutdownHandle` collects the handles:
its `shutdown` tells every worker to stop and then waits until all their loops have returned. The
workers are a fleet on the store behind the queue's one connection.
-/

namespace OpenEngine.Queue

variable {φ ι δ ο ε : Type} [DecidableEq φ] [LinearOrder ι]

/-- The workers of a single-lane queue. -/
abbrev Workers (φ ι δ ο ε : Type) :=
  TaskPool.Fleet φ (Redis.Connection (Store ι δ ο ε) (ι × LeaseToken ι)) (BorrowedJob ι δ)
    (Task (BorrowedJob ι δ) Unit ο ε)

/-- Over every run of any number of workers of one queue, under every interleaving of their loops
and the commands of their tasks with everyone else's accesses: each worker's part is a run of one
worker, in which the accesses of the others come from outside. If no two pops have one second and
pop id, no two workers are handed one job under one lease, and a worker that has returned, as each
has before the `shutdown` of their `ShutdownHandle` returns, has ended every job it was handed whose
data parsed, and each has lost its lease, unless it was abandoned. A worker that was told to stop
and whose tasks have ended returns, whatever the others are at. -/
theorem Workers.workers_shut_down (options : WorkOptions) (parse : δ → Except ε Unit)
    (source : Redis.Connection (Store ι δ ο ε) (ι × LeaseToken ι))
    (actions : List (φ × WorkAction ι δ ο ε)) :
    let machine := worker options parse
    let relay := (singleQueue options.toQueueOptions).relay options parse
    let one := TaskPool.Pool.fresh machine source
    let step := TaskPool.Fleet.step machine
    let start : Workers φ ι δ ο ε := .fresh machine source
    let workers := Transition.run step start actions
    let told (who : φ) := Transition.trace step
      (TaskPool.Fleet.own (TaskPool.Pool.events machine) who) start actions
    (∀ who,
      let seen := Transition.trace step (relay.view who) start actions
      workers.pool who = Transition.run (TaskPool.Pool.step machine) one seen ∧
        told who = Transition.trace (TaskPool.Pool.step machine) (TaskPool.Pool.events machine) one
          seen) ∧
    ((Transition.trace step (TaskPool.Fleet.all (workerLeases options parse).marks) start
        actions).Nodup →
      (∀ one other, one ≠ other →
        List.Disjoint (TaskPool.taken (told one)) (TaskPool.taken (told other))) ∧
      ∀ who, (workers.pool who).phase = .stopped →
        (workers.pool who).tasks = [] ∧
          List.Perm (TaskPool.taken (told who)) (TaskPool.ended (told who)) ∧
          ∀ job ∈ TaskPool.taken (told who),
            job ∈ Transition.trace step
                (TaskPool.Fleet.own (workerLeases options parse).abandoned who) start actions ∨
              job.leaseToken ∉ (workers.pool who).source.store.leases job.job.id) ∧
    ∀ who held, (workers.pool who).phase = .draining held → (workers.pool who).tasks = [] →
      ((Transition.run step workers
        ((List.replicate (options.localConcurrency - held + 1) .drain).map
          (who, ·))).pool who).phase = .stopped :=
  ((singleQueue options.toQueueOptions).tenure_passes options parse).fleet_graceful source actions

/-- Two workers poll a queue of one job. The first runs it, the second finds none, and both are told
to stop. -/
def oneJobForTwo : List (Bool × WorkAction Nat String Nat String) :=
  [(false, .outside (.op (.push 0 { data := "tx", id := 7 }))),
    (false, .tick),
    (true, .tick),
    (false, .pop (0, "a")),
    (true, .pop (0, "b")),
    (false, .spawn),
    (true, .spawn),
    (false, .spawn),
    (true, .shutdown),
    (false, .shutdown),
    (true, .drain),
    (true, .drain),
    (false, .advance 0 (.returns 1 (.ok 5))),
    (false, .advance 0 .answered),
    (false, .advance 0 .answered),
    (false, .advance 0 .answered),
    (false, .drain),
    (false, .advance 0 .answered),
    (false, .drain),
    (false, .drain)]

/-- Both workers of `oneJobForTwo` return, and the job's lease is gone. -/
theorem Workers.workers_shut_down_oneJobForTwo :
    let machine := worker { localConcurrency := 1 } (fun _ : String => .ok ())
    let workers := Transition.run (TaskPool.Fleet.step machine)
      (TaskPool.Fleet.fresh machine (.fresh Store.empty)) oneJobForTwo
    (workers.pool true).phase = .stopped ∧
      (borrowedAt 7 0 1 "a").leaseToken ∉ (workers.pool false).source.store.leases 7 := by
  have outcome := (Workers.workers_shut_down { localConcurrency := 1 }
    (fun _ : String => .ok ()) (.fresh Store.empty) oneJobForTwo).2.1 (by decide +kernel)
  have settled := (outcome.2 false (by decide +kernel)).2.2 (borrowedAt 7 0 1 "a")
    (by decide +kernel)
  exact ⟨by decide +kernel, settled.resolve_left (by decide +kernel)⟩

/-! The multilane queue. -/

/-- The workers of a multilane queue. -/
abbrev LaneWorkers (φ ι δ ο ε : Type) :=
  TaskPool.Fleet φ (Redis.Connection (MultilaneStore ι δ ο ε) (ι × LeaseToken ι))
    (String × BorrowedJob ι δ) (Task (String × BorrowedJob ι δ) String ο ε)

/-- The same over every run of any number of workers of one multilane queue, in which no two pops
are in one second. -/
theorem LaneWorkers.lane_workers_shut_down (options : WorkOptions) (parse : δ → Except ε Unit)
    (source : Redis.Connection (MultilaneStore ι δ ο ε) (ι × LeaseToken ι))
    (actions : List (φ × LaneWorkAction ι δ ο ε)) :
    let machine := laneWorker options parse
    let relay := (laneQueue options.toQueueOptions).relay options parse
    let one := TaskPool.Pool.fresh machine source
    let step := TaskPool.Fleet.step machine
    let start : LaneWorkers φ ι δ ο ε := .fresh machine source
    let workers := Transition.run step start actions
    let told (who : φ) := Transition.trace step
      (TaskPool.Fleet.own (TaskPool.Pool.events machine) who) start actions
    (∀ who,
      let seen := Transition.trace step (relay.view who) start actions
      workers.pool who = Transition.run (TaskPool.Pool.step machine) one seen ∧
        told who = Transition.trace (TaskPool.Pool.step machine) (TaskPool.Pool.events machine) one
          seen) ∧
    ((Transition.trace step (TaskPool.Fleet.all (laneWorkerLeases options parse).marks) start
        actions).Nodup →
      (∀ one other, one ≠ other →
        List.Disjoint (TaskPool.taken (told one)) (TaskPool.taken (told other))) ∧
      ∀ who, (workers.pool who).phase = .stopped →
        (workers.pool who).tasks = [] ∧
          List.Perm (TaskPool.taken (told who)) (TaskPool.ended (told who)) ∧
          ∀ entry ∈ TaskPool.taken (told who),
            entry ∈ Transition.trace step
                (TaskPool.Fleet.own (laneWorkerLeases options parse).abandoned who) start actions ∨
              entry.2.leaseToken ∉ (workers.pool who).source.store.leases entry.2.job.id) ∧
    ∀ who held, (workers.pool who).phase = .draining held → (workers.pool who).tasks = [] →
      ((Transition.run step workers
        ((List.replicate (options.localConcurrency - held + 1) .drain).map
          (who, ·))).pool who).phase = .stopped :=
  ((laneQueue options.toQueueOptions).tenure_passes options parse).fleet_graceful source actions

/-- Two workers poll a multilane queue of one job. The first runs it, the second finds none, and
both are told to stop. -/
def oneLaneJobForTwo : List (Bool × LaneWorkAction Nat String Nat String) :=
  [(false, .outside (.op (.push 0 "a" { data := "tx", id := 7 }))),
    (false, .tick),
    (true, .tick),
    (false, .pop 0),
    (true, .pop 1),
    (false, .spawn),
    (true, .spawn),
    (false, .spawn),
    (true, .shutdown),
    (false, .shutdown),
    (true, .drain),
    (true, .drain),
    (false, .advance 0 (.returns 1 (.ok 5))),
    (false, .advance 0 .answered),
    (false, .advance 0 .answered),
    (false, .advance 0 .answered),
    (false, .advance 0 .answered),
    (false, .drain),
    (false, .advance 0 .answered),
    (false, .drain),
    (false, .drain)]

/-- Both workers of `oneLaneJobForTwo` return, and the job's lease is gone. -/
theorem LaneWorkers.lane_workers_shut_down_oneLaneJobForTwo :
    let machine := laneWorker { localConcurrency := 1 } (fun _ : String => .ok ())
    let workers := Transition.run (TaskPool.Fleet.step machine)
      (TaskPool.Fleet.fresh machine (.fresh MultilaneStore.empty)) oneLaneJobForTwo
    (workers.pool true).phase = .stopped ∧
      poppedAtZero.leaseToken ∉ (workers.pool false).source.store.leases 7 := by
  have outcome := (LaneWorkers.lane_workers_shut_down { localConcurrency := 1 }
    (fun _ : String => .ok ()) (.fresh MultilaneStore.empty) oneLaneJobForTwo).2.1
      (by decide +kernel)
  have settled := (outcome.2 false (by decide +kernel)).2.2 ("a", poppedAtZero)
    (by decide +kernel)
  exact ⟨by decide +kernel, settled.resolve_left (by decide +kernel)⟩

end OpenEngine.Queue
