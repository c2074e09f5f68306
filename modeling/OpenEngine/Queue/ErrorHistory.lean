import OpenEngine.Queue.Attempts
import OpenEngine.Queue.LeaseHistory

/-!
# The error history of a job

A committed `Nack` or `Fail` writes one record with the attempt number the worker was told. While a
job has one lease at a time that number is above those of the records before it: a `Nack` leaves the
counter at the number it recorded, a deferral takes back no more than the pop counted, and a requeue
only adds. The worker's number is a `u32`; a counter beyond it reads as one.
-/

namespace OpenEngine.Queue

variable {ι δ ο ε : Type}

/-- The error record a completion writes. -/
def JobResult.records (now : Nat) (job : BorrowedJob ι δ) : JobResult ο ε → List (JobErrorRecord ε)
  | .error (.nack error delay position) =>
    [{ error, attempt := job.job.attempts, details := .nack delay position, createdAt := now }]
  | .error (.fail error) =>
    [{ error, attempt := job.job.attempts, details := .fail, createdAt := now }]
  | _ => []

/-- The attempt a failing completion records is within the worker's `u32`. -/
def Op.FitsAttempt : Op ι δ ο ε → Prop
  | .complete _ job (.error (.nack _ _ _)) | .complete _ job (.error (.fail _)) =>
    job.leaseToken.attempts < 2 ^ 32
  | _ => True

/-- The completed job is one of these. -/
def Op.CompletesOneOf (jobs : List (BorrowedJob ι δ)) : Op ι δ ο ε → Prop
  | .complete _ job _ => job ∈ jobs
  | _ => True

instance : ∀ op : Op ι δ ο ε, Decidable op.FitsAttempt
  | .complete _ job (.error (.nack _ _ _)) | .complete _ job (.error (.fail _)) =>
    inferInstanceAs (Decidable (job.leaseToken.attempts < 2 ^ 32))
  | .complete _ _ (.ok _) | .complete _ _ (.error (.defer _ _)) | .push _ _ | .replace _ _
  | .pop _ _ _ | .expireLease _ _ | .postSuccess | .postFail | .cancel _ _ | .release _
  | .reopen _ _ => .isTrue trivial

instance [DecidableEq ι] [DecidableEq δ] (jobs : List (BorrowedJob ι δ)) :
    ∀ op : Op ι δ ο ε, Decidable (op.CompletesOneOf jobs)
  | .complete _ job _ => inferInstanceAs (Decidable (job ∈ jobs))
  | .push _ _ | .replace _ _ | .pop _ _ _ | .expireLease _ _ | .postSuccess | .postFail
  | .cancel _ _ | .release _ | .reopen _ _ => .isTrue trivial

namespace JobView

/-- The error list of a job against all records written since its push, newest first. -/
structure Recorded (view : JobView ι δ ο ε) (bound : Nat) (written : List (JobErrorRecord ε)) :
    Prop where
  /-- The counter covers every recorded attempt. -/
  covered : ∀ attempt ∈ 0 :: written.map (·.attempt), view.Counted attempt
  /-- The newest records are retained. -/
  kept : view.data.isSome → view.errors = written.take bound
  /-- A newer record has a higher attempt number. -/
  descending : (written.map (·.attempt)).Pairwise (· > ·)
  /-- A live job has not failed for good. -/
  unfailed : 0 < view.live → ∀ record ∈ written, record.details ≠ .fail
  /-- Only the newest record can be terminal. -/
  ended : ∀ record ∈ written.tail, record.details ≠ .fail

variable {view : JobView ι δ ο ε} {bound nacks : Nat} {written : List (JobErrorRecord ε)}

/-- A counter that covers a number of attempts covers fewer. -/
theorem Counted.mono (counted : view.Counted nacks) {fewer : Nat} (le : fewer ≤ nacks) :
    view.Counted fewer := by
  refine ⟨counted.exclusive, counted.uncancelled, counted.stamped, fun present => ?_⟩
  have covered := counted.covered present
  omega

/-- The counter of a job without a live entry covers anything. -/
theorem Counted.of_dead (counted : view.Counted nacks) (dead : view.live = 0) (any : Nat) :
    view.Counted any :=
  ⟨counted.exclusive, counted.uncancelled, counted.stamped, fun present => by omega⟩

/-- The counter under a live lease covers all attempts before the one the lease names. -/
theorem Counted.of_leased (counted : view.Counted nacks) {token : LeaseToken ι}
    (issued : token ∈ view.leases) : view.Counted (token.attempts.toNat - 1) := by
  have below := counted.nacks_lt issued
  have active := (counted.exclusive.held token issued).1
  refine ⟨counted.exclusive, counted.uncancelled, counted.stamped, fun _ => ?_⟩
  rw [counted.stamped token issued, active]
  simp only [Option.getD_some, Bool.toNat_true]
  omega

/-- A job that moved on with its records and its data stays recorded. -/
theorem Recorded.move (recorded : view.Recorded bound written) {moved : JobView ι δ ο ε}
    (counted : ∀ attempt, view.Counted attempt → moved.Counted attempt)
    (live : 0 < moved.live → 0 < view.live) (data : moved.data.isSome → view.data.isSome)
    (errors : moved.errors = view.errors) : moved.Recorded bound written where
  covered attempt member := counted attempt (recorded.covered attempt member)
  kept stored := errors.trans (recorded.kept (data stored))
  descending := recorded.descending
  unfailed present := recorded.unfailed (live present)
  ended := recorded.ended

/-- A pruned job has no records to keep. -/
theorem Recorded.forget (recorded : view.Recorded bound written) {pruned : JobView ι δ ο ε}
    (exclusive : pruned.Exclusive) (cancelling : pruned.cancelling = view.cancelling)
    (dead : pruned.live = 0) (data : pruned.data = none) : pruned.Recorded bound written := by
  have counted := recorded.covered 0 List.mem_cons_self
  have bare := exclusive.leases_empty (idle_of_live dead)
  have base : pruned.Counted 0 :=
    ⟨exclusive, cancelling ▸ counted.uncancelled, by simp [bare], fun present => by omega⟩
  exact
    { covered := fun attempt _ => base.of_dead dead attempt
      kept := fun stored => by
        rw [data] at stored
        contradiction
      descending := recorded.descending
      unfailed := fun present => by omega
      ended := recorded.ended }

/-- A job that was just pushed has no records. -/
theorem Recorded.push (counted : view.Counted nacks) (fresh : ¬view.deduped) (now : Nat)
    (job : JobOptions ι δ) (bound : Nat) : (view.push now job).Recorded bound [] where
  covered attempt member := by
    rw [List.mem_singleton.mp member]
    exact counted.push fresh now job
  kept _ := by
    rw [List.take_nil]
    unfold JobView.push
    dsimp only
    split <;> rfl
  descending := List.Pairwise.nil
  unfailed _ record member := absurd member List.not_mem_nil
  ended record member := absurd member List.not_mem_nil

/-- A failing attempt puts its record on top of those of a live job. -/
theorem Recorded.extend (recorded : view.Recorded bound written) (present : 0 < view.live)
    (record : JobErrorRecord ε) {next : JobView ι δ ο ε} (counted : next.Counted record.attempt)
    (covers : ∀ attempt, view.Counted attempt → next.Counted attempt)
    (higher : ∀ attempt ∈ written.map (·.attempt), record.attempt > attempt)
    (ends : 0 < next.live → record.details ≠ .fail)
    (errors : next.data.isSome → next.errors = (record :: written).take bound) :
    next.Recorded bound (record :: written) where
  covered attempt member := by
    rcases List.mem_cons.mp member with rfl | member
    · exact covers 0 (recorded.covered 0 List.mem_cons_self)
    rcases List.mem_cons.mp member with rfl | member
    · exact counted
    · exact covers attempt (recorded.covered attempt (List.mem_cons_of_mem _ member))
  kept := errors
  descending := List.pairwise_cons.mpr ⟨higher, recorded.descending⟩
  unfailed still other member := by
    rcases List.mem_cons.mp member with rfl | member
    · exact ends still
    · exact recorded.unfailed present other member
  ended := recorded.unfailed present

variable [DecidableEq ι] {options : QueueOptions}

/-- A completion writes its record on top, with an attempt number above all before it. -/
theorem Recorded.complete (recorded : view.Recorded options.maxJobErrors written)
    (retained : 0 < options.maxJobErrors) (now : Nat) (job : BorrowedJob ι δ)
    (issued : job.leaseToken ∈ view.leases)
    (told : job.job.attempts = (parseU32 job.leaseToken.attempts).getD 1) (result : JobResult ο ε)
    (fits : (Op.complete now job result).FitsAttempt) :
    (view.complete options now job result).Recorded options.maxJobErrors
      (result.records now job ++ written) := by
  have base := recorded.covered 0 List.mem_cons_self
  have present := live_of_active (base.exclusive.held _ issued).1
  have open_ := recorded.unfailed present
  have below : ∀ record ∈ written, (record.attempt : Int) < job.leaseToken.attempts :=
    fun record member => (recorded.covered _
      (List.mem_cons_of_mem _ (List.mem_map_of_mem member))).nacks_lt issued
  have positive := base.nacks_lt issued
  have covers (attempt : Nat) (counted : view.Counted attempt) :
      (view.complete options now job result).Counted attempt :=
    (counted.complete now job issued result).mono (Nat.le_add_right _ _)
  obtain ⟨data, -⟩ := view.complete_data options now job result
  -- The number of a failing attempt is the one its lease names.
  have numbered (small : job.leaseToken.attempts < 2 ^ 32) :
      (job.job.attempts : Int) = job.leaseToken.attempts := by
    rw [told, parseU32, if_pos ⟨by omega, small⟩, Option.getD_some]
    omega
  have higher (small : job.leaseToken.attempts < 2 ^ 32) :
      ∀ attempt ∈ written.map (·.attempt), job.job.attempts > attempt := by
    intro attempt member
    obtain ⟨record, found, rfl⟩ := List.mem_map.mp member
    have less := below record found
    have same := numbered small
    omega
  have trimmed (record : JobErrorRecord ε) (stored : view.data.isSome) :
      Redis.ltrim (record :: view.errors) 0 ((options.maxJobErrors : Int) - 1) =
        (record :: written).take options.maxJobErrors := by
    rw [Redis.ltrim_to _ _ retained, recorded.kept stored]
    obtain ⟨rest, bound⟩ := Nat.exists_eq_succ_of_ne_zero retained.ne'
    rw [bound, List.take_succ_cons, List.take_succ_cons, List.take_take]
    simp
  have top (small : job.leaseToken.attempts < 2 ^ 32) :
      job.job.attempts ≤ job.leaseToken.attempts.toNat - 1 + 1 := by
    have same := numbered small
    omega
  have leased : (view.complete options now job result).Counted _ :=
    (base.of_leased issued).complete now job issued result
  cases result using JobResult.cases with
  | ok output =>
    exact recorded.move covers (fun _ => present) (fun stored => stored) rfl
  | retry error delay position =>
    have counted := leased.mono (top fits)
    exact recorded.extend present _ counted covers (higher fits) (fun _ => by simp) (trimmed _)
  | nack error position =>
    have counted := leased.mono (top fits)
    exact recorded.extend present _ counted covers (higher fits) (fun _ => by simp) (trimmed _)
  | fail error =>
    have dead : (view.complete options now job (.error (.fail error))).live = 0 :=
      base.exclusive.live_complete options now job issued (.error (.fail error))
    exact recorded.extend present _ ((covers 0 base).of_dead dead _) covers (higher fits)
      (fun still => by omega) (trimmed _)
  | defer delay position =>
    exact recorded.move covers (fun _ => present) (fun stored => stored) rfl

end JobView

/-- The worker's copy of the job carries the attempts its lease names, as far as they fit. -/
def Op.Told : Op ι δ ο ε → Prop
  | .complete _ job _ => job.job.attempts = (parseU32 job.leaseToken.attempts).getD 1
  | _ => True

/-- The records of one job among those written, in order. -/
def recordsOf [DecidableEq ι] (id : ι) (written : List (ι × JobErrorRecord ε)) :
    List (JobErrorRecord ε) :=
  (written.filter (·.1 = id)).map Prod.snd

/-- Past the newest record kept are records past the newest record. -/
theorem JobErrorRecord.mem_tail_of_take {record : JobErrorRecord ε}
    {written : List (JobErrorRecord ε)} {bound : Nat} (member : record ∈ (written.take bound).tail) :
    record ∈ written.tail := by
  cases bound with
  | zero => simp at member
  | succ rest =>
    cases written with
    | nil => simp at member
    | cons newest older => exact List.mem_of_mem_take member

/-- Records are read off part by part. -/
theorem recordsOf_append [DecidableEq ι] (id : ι) (first second : List (ι × JobErrorRecord ε)) :
    recordsOf id (first ++ second) = recordsOf id first ++ recordsOf id second := by
  simp [recordsOf]

variable [LinearOrder ι]

/-- The error records an operation writes. -/
def Store.records (store : Store ι δ ο ε) : Op ι δ ο ε → List (ι × JobErrorRecord ε)
  | .complete now job result =>
    if store.holdsLease job then (result.records now job).map fun record => (job.job.id, record)
    else []
  | _ => []

/-- The queue with the jobs its pops have handed out so far. -/
def Store.serve (options : QueueOptions) (state : Store ι δ ο ε × List (BorrowedJob ι δ))
    (op : Op ι δ ο ε) : Store ι δ ο ε × List (BorrowedJob ι δ) :=
  (state.1.step options op, state.2 ++ state.1.handedOut options op)

/-- No prune finds a delayed id in its tail, and no failing completion records an attempt beyond the
worker's `u32`. -/
def Store.KeepsHistory (options : QueueOptions) (store : Store ι δ ο ε) (op : Op ι δ ο ε) : Prop :=
  store.SparesDelayed options op ∧ op.FitsAttempt

instance (options : QueueOptions) (store : Store ι δ ο ε) (op : Op ι δ ο ε) :
    Decidable (store.KeepsHistory options op) :=
  inferInstanceAs (Decidable (_ ∧ _))

/-- A worker that completes jobs it was handed reports the attempts it was told. -/
theorem Store.told_of_served (options : QueueOptions)
    (state : Store ι δ ο ε × List (BorrowedJob ι δ)) (ops : List (Op ι δ ο ε))
    (handed : ∀ job ∈ state.2, job.job.attempts = (parseU32 job.leaseToken.attempts).getD 1)
    (served : Transition.Along (Store.serve options) (fun state op => op.CompletesOneOf state.2)
      state ops) : ∀ op ∈ ops, op.Told := by
  induction ops generalizing state with
  | nil => simp
  | cons op rest ih =>
    have next : ∀ job ∈ (Store.serve options state op).2,
        job.job.attempts = (parseU32 job.leaseToken.attempts).getD 1 := by
      intro job member
      rcases List.mem_append.mp member with before | now
      · exact handed job before
      · exact state.1.attempts_handedOut options op now
    intro other member
    rcases List.mem_cons.mp member with rfl | later
    · cases other with
      | complete now job result => exact handed job served.1
      | _ => trivial
    · exact ih _ next served.2 other later

variable {store : Store ι δ ο ε} {id : ι} {written : List (JobErrorRecord ε)}
  {options : QueueOptions}

/-- An intake operation that does not create the job leaves its error list alone. -/
theorem Store.errors_intake (op : Op ι δ ο ε) (intake : op.isIntake)
    (uncreated : store.creates id op = false) :
    (((store.step options op).view id).data.isSome → (store.view id).data.isSome) ∧
      ((store.step options op).view id).errors = (store.view id).errors := by
  cases op with
  | push now job =>
    have same : (store.step options (.push now job)).view id = store.view id := by
      by_cases named : job.id = id
      · have known : job.id ∈ store.dedupe := by
          by_contra fresh
          simp [Store.creates, named, store.push_created now job fresh] at uncreated
        rw [Store.step, store.push_duplicate now job known]
      · exact store.view_push_of_ne now job (Ne.symm named)
    rw [same]
    exact ⟨fun stored => stored, rfl⟩
  | replace target data =>
    refine store.step_preserves options (.replace target data) id (fun view =>
      (view.data.isSome → (store.view id).data.isSome) ∧ view.errors = (store.view id).errors) ?_
      ⟨fun stored => stored, rfl⟩
    rintro view event ⟨stored, errors⟩ ⟨-, rfl⟩ enabled
    exact ⟨fun _ => stored enabled.1, errors⟩
  | pop now popId batchSize =>
    refine store.step_preserves options (.pop now popId batchSize) id (fun view =>
      (view.data.isSome → (store.view id).data.isSome) ∧ view.errors = (store.view id).errors) ?_
      ⟨fun stored => stored, rfl⟩
    rintro view event ⟨stored, errors⟩ popped enabled
    cases event with
    | requeue => exact ⟨stored, errors⟩
    | promote => exact ⟨stored, errors⟩
    | lease at_ under => exact ⟨stored, errors⟩
    | drop => exact ⟨stored, errors⟩
    | sweep at_ =>
      simp only [JobView.apply]
      split <;> exact ⟨stored, errors⟩
    | _ => exact popped.elim
  | expireLease target token =>
    refine store.step_preserves options (.expireLease target token) id (fun view =>
      (view.data.isSome → (store.view id).data.isSome) ∧ view.errors = (store.view id).errors) ?_
      ⟨fun stored => stored, rfl⟩
    rintro view event ⟨stored, errors⟩ ⟨-, rfl⟩ enabled
    exact ⟨stored, errors⟩
  | _ => contradiction

omit [LinearOrder ι] in
/-- A job that only changed places in the finished lists stays recorded. -/
theorem JobView.Recorded.relisted {view : JobView ι δ ο ε} {bound success failed : Nat}
    (recorded : view.Recorded bound written)
    (exclusive : ({ view with success, failed } : JobView ι δ ο ε).Exclusive) :
    ({ view with success, failed } : JobView ι δ ο ε).Recorded bound written :=
  recorded.move
    (fun _ counted => ⟨exclusive, counted.uncancelled, counted.stamped, counted.covered⟩)
    (fun present => present) (fun stored => stored) rfl

/-- The success prune leaves a job outside the delayed set alone, or forgets it. -/
theorem JobView.Recorded.pruneSuccess {view : JobView ι δ ο ε} {bound kept : Nat}
    (recorded : view.Recorded bound written) (undelayed : view.delayed = none)
    (enabled : (.pruneSuccess kept : JobEvent ι δ ο ε).Enabled options view) :
    (JobView.apply options id view (.pruneSuccess kept)).Recorded bound written := by
  have exclusive := (recorded.covered 0 List.mem_cons_self).exclusive
  have after := exclusive.apply options id _ enabled undelayed
  simp only [JobView.apply, JobView.settleSucceeded] at after ⊢
  split at after
  · next live =>
    rw [if_pos live]
    exact recorded.relisted after
  · next unseen =>
    have dead : view.live = 0 := JobView.live_eq_zero (by simpa using unseen) undelayed
    rw [if_neg unseen]
    exact recorded.forget after rfl dead rfl

/-- The failed prune leaves a job outside the delayed set alone, or forgets it. -/
theorem JobView.Recorded.pruneFailed {view : JobView ι δ ο ε} {bound kept : Nat}
    (recorded : view.Recorded bound written) (undelayed : view.delayed = none)
    (enabled : (.pruneFailed kept : JobEvent ι δ ο ε).Enabled options view) :
    (JobView.apply options id view (.pruneFailed kept)).Recorded bound written := by
  have exclusive := (recorded.covered 0 List.mem_cons_self).exclusive
  have after := exclusive.apply options id _ enabled undelayed
  simp only [JobView.apply, JobView.settleFailed] at after ⊢
  split at after
  · next live =>
    rw [if_pos live]
    exact recorded.relisted after
  · next unseen =>
    have dead : view.live = 0 := JobView.live_eq_zero (by simpa using unseen) undelayed
    rw [if_neg unseen]
    exact recorded.forget after rfl dead rfl

/-- An operation of a served run that does not create the job adds the record it writes. -/
theorem Store.recorded_step (recorded : (store.view id).Recorded options.maxJobErrors written)
    (retained : 0 < options.maxJobErrors) (op : Op ι δ ο ε) (core : op.isCore)
    (uncreated : store.creates id op = false) (keeps : store.KeepsHistory options op)
    (told : op.Told) :
    ((store.step options op).view id).Recorded options.maxJobErrors
      ((recordsOf id (store.records op)).reverse ++ written) := by
  have counted := recorded.covered 0 List.mem_cons_self
  have intake (intake : op.isIntake) (silent : store.records op = []) :
      ((store.step options op).view id).Recorded options.maxJobErrors
        ((recordsOf id (store.records op)).reverse ++ written) := by
    rw [silent]
    have kept : (((store.step options op).view id).data.isSome → (store.view id).data.isSome) ∧
        ((store.step options op).view id).errors = (store.view id).errors :=
      Store.errors_intake op intake uncreated
    obtain ⟨data, errors⟩ := kept
    have live := (Store.counted_intake counted options op intake uncreated).2.1
    exact recorded.move (fun attempt counted =>
      (Store.counted_intake counted options op intake uncreated).1)
      (fun present => by rwa [live] at present) data errors
  cases op with
  | push now job => exact intake rfl rfl
  | replace target data => exact intake rfl rfl
  | pop now popId batchSize => exact intake rfl rfl
  | expireLease target token => exact intake rfl rfl
  | complete now job result =>
    have silent (same : (store.step options (.complete now job result)).view id = store.view id)
        (none : recordsOf id (store.records (.complete now job result)) = []) :
        ((store.step options (.complete now job result)).view id).Recorded options.maxJobErrors
          ((recordsOf id (store.records (.complete now job result))).reverse ++ written) := by
      rw [same, none]
      exact recorded
    by_cases held : store.holdsLease job
    · have committed : store.step options (.complete now job result) =
          store.applyCompletion options now job result := by
        simp [Store.step, Store.complete, held]
      by_cases named : job.job.id = id
      · subst named
        have writes : recordsOf job.job.id (store.records (.complete now job result)) =
            result.records now job := by
          simp [recordsOf, Store.records, held, List.filter_map, Function.comp_def]
        have single : (result.records now job).reverse = result.records now job := by
          cases result using JobResult.cases <;> rfl
        rw [committed, store.view_applyCompletion_self options now job result, writes, single]
        exact recorded.complete retained now job ((store.holdsLease_iff job).mp held) told result
          keeps.2
      · refine silent ?_ ?_
        · rw [committed]
          exact store.view_applyCompletion_of_ne options now job result fun same => named same.symm
        · simp [recordsOf, Store.records, held, List.filter_map, Function.comp_def, named]
    · refine silent ?_ ?_
      · simp [Store.step, Store.complete, held]
      · simp [recordsOf, Store.records, held]
  | postSuccess =>
    show (((store.postSuccessCompletion options)).view id).Recorded _ ([] ++ written)
    rw [store.view_postSuccess options id]
    split
    · rename_i trimmed
      have undelayed := AList.lookup_eq_none.mpr (keeps.1 id trimmed)
      exact recorded.pruneSuccess undelayed (store.enabled_pruneSuccess options trimmed)
    · exact recorded
  | postFail =>
    show (((store.postFailCompletion options)).view id).Recorded _ ([] ++ written)
    rw [store.view_postFail options id]
    split
    · rename_i trimmed
      have undelayed := AList.lookup_eq_none.mpr (keeps.1 id trimmed)
      exact recorded.pruneFailed undelayed (store.enabled_pruneFailed options trimmed)
    · exact recorded
  | _ => contradiction

/-- Since its last push a job stays recorded, with the records written since then. -/
theorem Store.recorded_since (retained : 0 < options.maxJobErrors) (since : List (Op ι δ ο ε))
    (recorded : (store.view id).Recorded options.maxJobErrors [])
    (core : ∀ op ∈ since, op.isCore) (told : ∀ op ∈ since, op.Told)
    (latest : Transition.Along (Store.step options)
      (fun store op => store.creates id op = false) store since)
    (keeps : Transition.Along (Store.step options) (Store.KeepsHistory options) store since) :
    ((Transition.run (Store.step options) store since).view id).Recorded options.maxJobErrors
      (recordsOf id (Transition.trace (Store.step options) Store.records store since)).reverse := by
  have admitted := (latest.and keeps).and
    ((Transition.along_of_forall store since core).and
      (Transition.along_of_forall store since told))
  have run := Transition.run_traced Store.records
    (fun store written => (store.view id).Recorded options.maxJobErrors
      (recordsOf id written).reverse) ?_ store since [] recorded admitted
  · rwa [List.nil_append] at run
  · rintro store op written before ⟨⟨uncreated, keeps⟩, core, told⟩
    rw [recordsOf_append, List.reverse_append]
    exact Store.recorded_step before retained op core uncreated keeps told

/-- A job that a push has just created has no records. -/
theorem Store.recorded_created (exclusive : (store.view id).Exclusive)
    (uncancelled : id ∉ store.pendingCancellations) (op : Op ι δ ο ε)
    (created : store.creates id op) :
    ((store.step options op).view id).Recorded options.maxJobErrors [] := by
  cases op with
  | push now job =>
    simp only [Store.creates, decide_eq_true_eq] at created
    obtain ⟨rfl, made⟩ := created
    have fresh : job.id ∉ store.dedupe := by
      intro known
      rw [store.push_duplicate now job known] at made
      cases made
    have dead : (store.view job.id).live = 0 := by
      by_contra present
      exact fresh (exclusive.known (Nat.pos_of_ne_zero present))
    have bare := exclusive.leases_empty (JobView.idle_of_live dead)
    have counted : (store.view job.id).Counted 0 :=
      ⟨exclusive, uncancelled, by simp [bare], fun present => by omega⟩
    rw [Store.step, store.view_push_self now job fresh]
    exact JobView.Recorded.push counted fresh now job options.maxJobErrors
  | _ => contradiction

/-- After every run of pushes, replacements, pops, completions of handed-out jobs under their lease,
lease expiries and prunes that keeps the history, a job that was not pruned since its last push has
the newest of the records written since then, newest first, with falling attempt numbers, and only
the newest can be terminal. -/
theorem Store.error_history (options : QueueOptions) (retained : 0 < options.maxJobErrors)
    (before since : List (Op ι δ ο ε)) (now : Nat) (job : JobOptions ι δ)
    (core : ∀ op ∈ before ++ .push now job :: since, op.isCore)
    (served : Transition.Along (Store.serve options) (fun state op => op.CompletesOneOf state.2)
      (Store.empty, []) (before ++ .push now job :: since))
    (created : (Transition.run (Store.step options) Store.empty before).creates job.id
      (.push now job))
    (latest : Transition.Along (Store.step options)
      (fun store op => store.creates job.id op = false)
      ((Transition.run (Store.step options) Store.empty before).step options (.push now job)) since)
    (keeps : Transition.Along (Store.step options) (Store.KeepsHistory options) Store.empty
      (before ++ .push now job :: since)) :
    let pushed : Store ι δ ο ε :=
      (Transition.run (Store.step options) Store.empty before).step options (.push now job)
    let written := recordsOf job.id
      (Transition.trace (Store.step options) Store.records pushed since)
    let store := Transition.run (Store.step options) pushed since
    (store.jobData job.id).isSome →
      store.jobErrors job.id = written.reverse.take options.maxJobErrors ∧
      ((store.jobErrors job.id).map (·.attempt)).Pairwise (· > ·) ∧
      ∀ record ∈ (store.jobErrors job.id).tail, record.details ≠ .fail := by
  intro pushed written store stored
  obtain ⟨earlier, now_, later⟩ := Transition.along_append _ _ _ |>.mp keeps
  have spared := earlier.imp fun _ _ keeps => keeps.1
  have coreBefore : ∀ op ∈ before, op.isCore :=
    fun op member => core op (List.mem_append_left _ member)
  have coreSince : ∀ op ∈ since, op.isCore :=
    fun op member => core op (List.mem_append_right _ (List.mem_cons_of_mem _ member))
  have told : ∀ op ∈ since, op.Told := fun op member =>
    Store.told_of_served options _ _ (fun job none => absurd none List.not_mem_nil) served op
      (List.mem_append_right _ (List.mem_cons_of_mem _ member))
  obtain ⟨exclusive, uncancelled⟩ := Store.exclusive_run options before coreBefore spared job.id
  have start : (pushed.view job.id).Recorded options.maxJobErrors [] :=
    Store.recorded_created exclusive uncancelled (.push now job) created
  have recorded := Store.recorded_since retained since start coreSince told latest later
  have kept : store.jobErrors job.id = written.reverse.take options.maxJobErrors :=
    recorded.kept stored
  refine ⟨kept, ?_, ?_⟩
  · rw [kept, List.map_take]
    exact recorded.descending.sublist (List.take_sublist _ _)
  · intro record member
    rw [kept] at member
    exact recorded.ended record (JobErrorRecord.mem_tail_of_take member)

/-- Job 7 is nacked, loses a lease, is nacked again, deferred and failed. -/
def failsInTheEnd : List (Op Nat String Nat String) :=
  [.pop 0 "a" 1,
    .complete 1 (borrowedAt 7 0 1 "a") (.error (.nack "busy" none .last)),
    .pop 2 "b" 1,
    .expireLease 7 (borrowedAt 7 2 2 "b").leaseToken,
    .pop 40 "c" 1,
    .complete 41 (borrowedAt 7 40 4 "c") (.error (.nack "busy" (some (.fromSecs 1)) .first)),
    .pop 42 "d" 1,
    .complete 43 (borrowedAt 7 42 5 "d") (.error (.defer (.fromSecs 5) .last)),
    .pop 50 "e" 1,
    .complete 51 (borrowedAt 7 50 5 "e") (.error (.fail "reverted")),
    .postFail]

/-- The queue that keeps two records, after job 7 was pushed. -/
def twoRecords : Store Nat String Nat String :=
  (Transition.run (Store.step { maxJobErrors := 2 }) Store.empty []).step { maxJobErrors := 2 }
    (.push 0 { data := "tx", id := 7 })

/-- Its history holds the records of attempts 5, 4 and 1, of which the bound of two keeps the
newest. -/
theorem Store.error_history_failsInTheEnd :
    ((Transition.run (Store.step { maxJobErrors := 2 }) twoRecords failsInTheEnd).jobErrors 7).map
        (·.attempt) = [5, 4] ∧
      (((Transition.run (Store.step { maxJobErrors := 2 }) twoRecords failsInTheEnd).jobErrors
        7).map (·.attempt)).Pairwise (· > ·) := by
  have served : Transition.Along (Store.serve { maxJobErrors := 2 })
      (fun state op => op.CompletesOneOf state.2) ((Store.empty : Store Nat String Nat String), [])
      ([] ++ .push 0 { data := "tx", id := 7 } :: failsInTheEnd) := by decide +kernel
  have latest : Transition.Along (Store.step { maxJobErrors := 2 })
      (fun store op => store.creates 7 op = false) twoRecords failsInTheEnd := by decide +kernel
  have keeps : Transition.Along (Store.step { maxJobErrors := 2 })
      (Store.KeepsHistory { maxJobErrors := 2 }) (Store.empty : Store Nat String Nat String)
      ([] ++ .push 0 { data := "tx", id := 7 } :: failsInTheEnd) := by decide +kernel
  have history := Store.error_history { maxJobErrors := 2 } (by decide) [] failsInTheEnd 0
    { data := "tx", id := 7 } (by decide) served (by decide +kernel) latest keeps
    (by decide +kernel)
  exact ⟨by decide +kernel, history.2.1⟩

/-- With `max_failed` zero a finished id stays listed. The prune takes the delayed job 7 for dead
and forgets it, the next push adds a second entry, one pop hands out both, and the second attempt is
nacked before the first. -/
def staleAttempt : List (Op Nat String Nat String) :=
  [.push 0 { data := "tx", id := 7 },
    .pop 0 "a" 1,
    .complete 1 (borrowedAt 7 0 1 "a") (.error (.fail "reverted")),
    .postFail,
    .push 2 { data := "tx", id := 7, delay := some ⟨.fromSecs 10, .last⟩ },
    .postFail,
    .push 5 { data := "tx", id := 7 },
    .pop 20 "b" 2,
    .complete 21 { borrowedAt 7 20 2 "b" with
      job := { (borrowedAt 7 20 2 "b").job with createdAt := 5 } }
      (.error (.nack "busy" none .last)),
    .complete 22 { borrowedAt 7 20 1 "b" with
      job := { (borrowedAt 7 20 1 "b").job with createdAt := 5 } }
      (.error (.nack "busy" none .last))]

/-- The older attempt is on top of the newer one, in permanent mode, with every completed job handed
out before. -/
theorem Store.attempts_out_of_order :
    let options : QueueOptions := { maxFailed := 0 }
    let store : Store Nat String Nat String :=
      Transition.run (Store.step options) Store.empty staleAttempt
    options.idempotencyMode = .permanent ∧ 0 < options.maxJobErrors ∧
      (∀ op ∈ staleAttempt, op.isCore) ∧
      Transition.Along (Store.serve options) (fun state op => op.CompletesOneOf state.2)
        ((Store.empty : Store Nat String Nat String), []) staleAttempt ∧
      (store.jobData 7).isSome ∧ (store.jobErrors 7).map (·.attempt) = [1, 2] ∧
      ¬((store.jobErrors 7).map (·.attempt)).Pairwise (· > ·) := by
  decide +kernel

end OpenEngine.Queue
