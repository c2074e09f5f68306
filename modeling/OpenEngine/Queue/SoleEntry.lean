import OpenEngine.Queue.Refinement

/-!
# One entry, one lease key

A job has at most one entry over pending, delayed and active, is in the dedupe set while it has it,
and a live lease key belongs to the active job whose metadata names it. The jobs of both queues have
this in common.
-/

namespace OpenEngine.Queue

variable {ι δ ο ε : Type}

/-- The result ends its job. -/
def JobResult.ends : JobResult ο ε → Bool
  | .ok _ | .error (.fail _) => true
  | .error (.nack _ _ _) | .error (.defer _ _) => false

namespace JobView

/-- Entries of the job over pending, delayed and active. -/
def live (view : JobView ι δ ο ε) : Nat :=
  view.pending + view.delayed.isSome.toNat + view.active.isSome.toNat

/-- At most one live entry, known to the dedupe set, and at most one live lease key. -/
structure SoleEntry (view : JobView ι δ ο ε) : Prop where
  /-- A job has at most one live entry. -/
  one : view.live ≤ 1
  /-- A live job is in the dedupe set. -/
  known : 0 < view.live → view.deduped
  /-- A live lease key is the active job's current one. -/
  held : ∀ token ∈ view.leases, view.active.isSome ∧ view.info.leaseToken = some token

variable {view next : JobView ι δ ο ε}

/-! Live entries. -/

/-- An active job is live. -/
theorem live_of_active (active : view.active.isSome) : 0 < view.live := by
  simp only [live, active, Bool.toNat_true]
  omega

/-- A job without a live entry is not active. -/
theorem idle_of_live (dead : view.live = 0) : view.active = none := by
  cases active : view.active with
  | none => rfl
  | some attempts => simp [live, active] at dead

/-- A job without a live entry is not delayed. -/
theorem undelayed_of_live (dead : view.live = 0) : view.delayed = none := by
  cases delayed : view.delayed with
  | none => rfl
  | some until_ => simp [live, delayed] at dead

/-- A pending job that became active is as live as before. -/
theorem live_leased (idle : view.active = none) (waiting : 0 < view.pending)
    (pending : next.pending = view.pending - 1) (delayed : next.delayed = view.delayed)
    (active : next.active.isSome) : next.live = view.live := by
  simp only [live, pending, delayed, active, idle, Option.isSome_none, Bool.toNat_true,
    Bool.toNat_false]
  omega

/-! Lease keys. -/

/-- A job outside the active hash has no live lease key. -/
theorem SoleEntry.leases_empty (sole : view.SoleEntry) (idle : view.active = none) :
    view.leases = ∅ := by
  apply Finset.eq_empty_of_forall_notMem
  intro token present
  have active := (sole.held token present).1
  rw [idle] at active
  contradiction

/-- A job whose lease is gone has no live lease key. -/
theorem SoleEntry.leases_empty_of_gone (sole : view.SoleEntry) (gone : view.LeaseGone) :
    view.leases = ∅ := by
  apply Finset.eq_empty_of_forall_notMem
  intro token present
  exact gone token (sole.held token present).2 present

/-- A waiting job is not active. -/
theorem SoleEntry.idle (sole : view.SoleEntry)
    (waiting : 0 < view.pending + view.delayed.isSome.toNat) : view.active = none := by
  have bound := sole.one
  unfold live at bound
  cases active : view.active with
  | none => rfl
  | some attempts =>
    simp only [active, Option.isSome_some, Bool.toNat_true] at bound
    omega

/-- A job with at most one live entry and no live lease key. -/
theorem soleEntry_of_bare (one : view.live ≤ 1) (known : 0 < view.live → view.deduped)
    (bare : view.leases = ∅) : view.SoleEntry where
  one := one
  known := known
  held token issued := by
    rw [bare] at issued
    exact absurd issued (Finset.notMem_empty token)

/-- A pending job that became active under one fresh lease. -/
theorem SoleEntry.leased (sole : view.SoleEntry) (waiting : 0 < view.pending)
    (token : LeaseToken ι) (pending : next.pending = view.pending - 1)
    (delayed : next.delayed = view.delayed) (active : next.active.isSome)
    (deduped : next.deduped = view.deduped) (named : next.info.leaseToken = some token)
    (issued : ∀ other ∈ next.leases, other = token) : next.SoleEntry := by
  have same : next.live = view.live :=
    live_leased (sole.idle (by omega)) waiting pending delayed active
  exact
    { one := same ▸ sole.one
      known := fun present => deduped ▸ sole.known (same ▸ present)
      held := fun other member => ⟨active, (issued other member).symm ▸ named⟩ }

variable [DecidableEq ι] (options : QueueOptions) (id : ι)

/-- Requeuing moves the entry. -/
theorem live_requeue (active : view.active.isSome) :
    (apply options id view .requeue).live = view.live := by
  simp only [live, apply, active, Option.isSome_none, Bool.toNat_true, Bool.toNat_false]
  omega

/-- Promoting moves the entry. -/
theorem live_promote (delayed : view.delayed.isSome) :
    (apply options id view .promote).live = view.live := by
  simp only [live, apply, delayed, Option.isSome_none, Bool.toNat_true, Bool.toNat_false,
    Nat.add_zero]

/-- The only lease key of a job that was just leased is the one the pop issued. -/
theorem SoleEntry.leases_lease (sole : view.SoleEntry) (waiting : 0 < view.pending) (now : Nat)
    (popId : String) :
    ∀ token ∈ (view.lease options id now popId).leases,
      token = nextToken id now popId view.info := by
  have bare := sole.leases_empty (sole.idle (by omega))
  intro token issued
  simp only [JobView.lease, bare] at issued
  split at issued
  · simp at issued
  · simpa using issued

/-- Leasing a pending job. -/
theorem SoleEntry.lease (sole : view.SoleEntry) (waiting : 0 < view.pending) (now : Nat)
    (popId : String) : (view.lease options id now popId).SoleEntry :=
  sole.leased waiting (nextToken id now popId view.info) rfl rfl rfl rfl rfl
    (sole.leases_lease options id waiting now popId)

/-- A job under a live lease is active and nothing else; ending the lease leaves no lease key. -/
theorem SoleEntry.endLease (sole : view.SoleEntry) {token : LeaseToken ι}
    (issued : token ∈ view.leases) :
    view.leases.erase token = ∅ ∧ 0 < view.live ∧
      view.pending + view.delayed.isSome.toNat = 0 := by
  obtain ⟨active, named⟩ := sole.held token issued
  refine ⟨?_, live_of_active active, ?_⟩
  · apply Finset.eq_empty_of_forall_notMem
    intro other remaining
    obtain ⟨different, otherIssued⟩ := Finset.mem_erase.mp remaining
    have same := named.symm.trans (sole.held other otherIssued).2
    exact different (Option.some.inj same).symm
  · have bound := sole.one
    simp only [live, active, Bool.toNat_true] at bound
    omega

/-- A completion leaves one live entry, or none if its result ends the job. -/
theorem SoleEntry.live_complete (sole : view.SoleEntry) (now : Nat) (job : BorrowedJob ι δ)
    (issued : job.leaseToken ∈ view.leases) (result : JobResult ο ε) :
    (view.complete options now job result).live = (!result.ends).toNat := by
  obtain ⟨-, -, empty⟩ := sole.endLease issued
  have unlisted : view.pending = 0 := by omega
  have undelayed : view.delayed.isSome.toNat = 0 := by omega
  cases result using JobResult.cases with
  | ok output =>
    simp [live, JobView.complete, JobView.endLease, JobResult.ends, unlisted, undelayed]
  | retry error delay position =>
    simp [live, JobView.complete, addError, JobView.endLease, JobResult.ends, unlisted]
  | nack error position =>
    simp [live, JobView.complete, addError, JobView.endLease, JobResult.ends, unlisted, undelayed]
  | fail error =>
    simp [live, JobView.complete, addError, JobView.endLease, JobResult.ends, unlisted, undelayed]
  | defer delay position =>
    simp [live, JobView.complete, JobView.endLease, JobResult.ends, unlisted]

/-- The cancel script takes a waiting job out of the live containers. -/
theorem SoleEntry.cancelNow (sole : view.SoleEntry)
    (waiting : 0 < view.pending ∨ view.delayed.isSome) (now : Nat) :
    (apply options id view (.cancelNow now)).live = 0 ∧
      (apply options id view (.cancelNow now)).leases = ∅ := by
  have counted : 0 < view.pending + view.delayed.isSome.toNat := by
    rcases waiting with pending | delayed
    · omega
    · simp only [delayed, Bool.toNat_true]
      omega
  have idle := sole.idle counted
  refine ⟨?_, sole.leases_empty idle⟩
  have bound := sole.one
  unfold live at bound
  simp only [live, apply, idle, Option.isSome_none, Bool.toNat_false]
  split
  · omega
  · simp

end JobView

end OpenEngine.Queue
