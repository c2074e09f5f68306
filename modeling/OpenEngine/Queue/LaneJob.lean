import OpenEngine.Queue.SoleEntry

/-!
# A job in its lane

What every operation of the multilane queue keeps of a job in the lane it belongs to: at most one
live entry and lease, its data, and the second of its pop. A cancelled job of this queue can be
finished and live at once, so nothing is said about its end stamp.
-/

namespace OpenEngine.Queue

variable {ι δ ο ε : Type}

namespace JobView

/-- A job in its own lane: at most one live entry, its data, and at most one live lease key. -/
structure Guarded (view : JobView ι δ ο ε) : Prop extends SoleEntry view where
  /-- A job has its data. -/
  stored : view.data.isSome
  /-- A job that runs, or ran to its end, carries the second of its pop. -/
  popped : view.active.isSome ∨ ¬view.deduped → view.info.processedAt.isSome

/-- An id that was never pushed. -/
def blank : JobView ι δ ο ε where
  pending := 0
  delayed := none
  active := none
  success := 0
  failed := 0
  data := none
  info := {}
  errors := []
  result := none
  deduped := False
  cancelling := False
  leases := ∅

variable {view next : JobView ι δ ο ε}

/-- A job that moved between the live containers without its lease, and kept its record. -/
theorem Guarded.moved (guarded : view.Guarded) (live : next.live = view.live)
    (idle : next.active = none) (data : next.data = view.data)
    (deduped : next.deduped = view.deduped)
    (stamped : next.info.processedAt = view.info.processedAt) (bare : next.leases = ∅) :
    next.Guarded where
  toSoleEntry := soleEntry_of_bare (live ▸ guarded.one)
    (fun present => deduped ▸ guarded.known (live ▸ present)) bare
  stored := data ▸ guarded.stored
  popped finished := by
    rw [idle] at finished
    rw [deduped] at finished
    rw [stamped]
    exact guarded.popped (.inr (finished.resolve_left (by simp)))

/-- A pending job that became active under one fresh lease. -/
theorem Guarded.leased (guarded : view.Guarded) (waiting : 0 < view.pending)
    (token : LeaseToken ι) (pending : next.pending = view.pending - 1)
    (delayed : next.delayed = view.delayed) (active : next.active.isSome)
    (data : next.data = view.data) (deduped : next.deduped = view.deduped)
    (stamped : next.info.processedAt.isSome) (named : next.info.leaseToken = some token)
    (issued : ∀ other ∈ next.leases, other = token) : next.Guarded where
  toSoleEntry :=
    guarded.toSoleEntry.leased waiting token pending delayed active deduped named issued
  stored := data ▸ guarded.stored
  popped _ := stamped

/-- A job that left the live containers after its run, its lease ended. -/
theorem Guarded.finished (guarded : view.Guarded) (running : view.active.isSome)
    (dead : next.live = 0) (data : next.data = view.data)
    (stamped : next.info.processedAt = view.info.processedAt) (bare : next.leases = ∅) :
    next.Guarded where
  toSoleEntry := soleEntry_of_bare (by omega) (by omega) bare
  stored := data ▸ guarded.stored
  popped _ := stamped ▸ guarded.popped (.inl running)

/-- A job whose finished lists, end stamp, error records or cancellation changed. -/
theorem Guarded.noted (guarded : view.Guarded) (pending : next.pending = view.pending)
    (delayed : next.delayed = view.delayed) (active : next.active = view.active)
    (data : next.data = view.data) (deduped : next.deduped = view.deduped)
    (stamped : next.info.processedAt = view.info.processedAt)
    (named : next.info.leaseToken = view.info.leaseToken)
    (leases : next.leases ⊆ view.leases) : next.Guarded := by
  have live : next.live = view.live := by
    simp only [JobView.live, pending, delayed, active]
  exact
    { one := live ▸ guarded.one
      known := fun present => deduped ▸ guarded.known (live ▸ present)
      stored := data ▸ guarded.stored
      popped := by
        rw [active, deduped, stamped]
        exact guarded.popped
      held := by
        rw [active, named]
        exact fun token issued => guarded.held token (leases issued) }

variable [DecidableEq ι] (options : QueueOptions) (id : ι)

/-- A completion under a live lease. -/
theorem Guarded.complete (guarded : view.Guarded) (now : Nat) (job : BorrowedJob ι δ)
    (issued : job.leaseToken ∈ view.leases) (result : JobResult ο ε) :
    (view.complete options now job result).Guarded := by
  have active := (guarded.held job.leaseToken issued).1
  obtain ⟨bare, present, -⟩ := guarded.endLease issued
  have one : view.live = 1 := by
    have bound := guarded.one
    omega
  have left := guarded.live_complete options now job issued result
  cases result using JobResult.cases with
  | ok output => exact guarded.finished active left rfl rfl bare
  | retry error delay position => exact guarded.moved (left.trans one.symm) rfl rfl rfl rfl bare
  | nack error position => exact guarded.moved (left.trans one.symm) rfl rfl rfl rfl bare
  | fail error => exact guarded.finished active left rfl rfl bare
  | defer delay position => exact guarded.moved (left.trans one.symm) rfl rfl rfl rfl bare

/-- The cancel script on a waiting job. -/
theorem Guarded.cancelNow (guarded : view.Guarded)
    (waiting : 0 < view.pending ∨ view.delayed.isSome) (now : Nat) :
    (apply options id view (.cancelNow now)).Guarded := by
  obtain ⟨dead, bare⟩ := guarded.toSoleEntry.cancelNow options id waiting now
  exact
    { toSoleEntry := soleEntry_of_bare (by omega) (by omega) bare
      stored := guarded.stored
      popped := guarded.popped }

/-- What a pop or a cancellation does to a job keeps it guarded. -/
theorem Guarded.apply (guarded : view.Guarded) {event : JobEvent ι δ ο ε}
    (allowed : (∃ now popId, event.OfPop now popId) ∨ (∃ now, event = .cancelNow now) ∨
      event = .cancelLater ∨ ∃ now job result, event = .complete now job result)
    (enabled : event.Enabled options view) :
    (JobView.apply options id view event).Guarded ∧
      (JobView.apply options id view event).info.laneId = view.info.laneId := by
  cases event with
  | requeue =>
    have active : view.active.isSome := enabled.1
    exact ⟨guarded.moved (live_requeue options id active) rfl rfl rfl rfl
      (guarded.leases_empty_of_gone enabled.2), rfl⟩
  | sweep now =>
    simp only [JobView.apply]
    split
    · exact ⟨guarded.noted rfl rfl rfl rfl rfl rfl rfl (Finset.Subset.refl _), rfl⟩
    · exact ⟨guarded.noted rfl rfl rfl rfl rfl rfl rfl (Finset.Subset.refl _), rfl⟩
  | promote =>
    have delayed : view.delayed.isSome := enabled
    have idle : view.active = none := guarded.idle (by
      simp only [delayed, Bool.toNat_true]
      omega)
    exact ⟨guarded.moved (live_promote options id delayed) idle rfl rfl rfl
      (guarded.leases_empty idle), rfl⟩
  | lease now popId =>
    have waiting : 0 < view.pending := enabled.1
    exact ⟨guarded.leased waiting (nextToken id now popId view.info) rfl rfl rfl rfl rfl rfl rfl
      (guarded.leases_lease options id waiting now popId), rfl⟩
  | drop =>
    have stored := guarded.stored
    rw [enabled.2] at stored
    contradiction
  | complete now job result =>
    refine ⟨guarded.complete options now job enabled result, ?_⟩
    cases result using JobResult.cases <;> rfl
  | cancelNow now => exact ⟨guarded.cancelNow options id enabled now, rfl⟩
  | cancelLater =>
    exact ⟨guarded.noted rfl rfl rfl rfl rfl rfl rfl (Finset.Subset.refl _), rfl⟩
  | _ => simp [JobEvent.OfPop] at allowed

end JobView

end OpenEngine.Queue
