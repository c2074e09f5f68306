import OpenEngine.Api.SlotHistory
import OpenEngine.Api.StatusRead
import OpenEngine.Api.Submission
import OpenEngine.Broadcaster.Sends
import OpenEngine.Queue.Sources

/-!
# What reaches the node, and what is said about it

The whole engine: any number of admitted requests, command by command, and any number of workers
that pop jobs, run `process` on them and commit the results, in any order. What a worker sends is
the transaction of a request that was answered `queued` or `replaced`, as it was posted but for the
sponsor's signature; and an outcome the status endpoint reports is the outcome of an attempt at that
slot.
-/

namespace OpenEngine.Api

open OpenEngine.Core OpenEngine.Compiler OpenEngine.Broadcaster Queue Redis

/-! The engine. -/

/-- A request past the intake, with what the policy store held at that moment. -/
structure Admission (alloy : Alloy) (store : Option RedisPolicyStore) where
  post : Post
  counters : Counters String
  later : Counters String
  job : JobOptions String FrameTransaction
  admitted : post.intake alloy store counters = (.ok job, later)

/-- A worker's run of `process` on a job, at a second and against its node. -/
structure Attempt where
  started : Nat
  job : BorrowedJob String FrameTransaction
  gateway : BroadcastGateway

/-- What the attempt makes of the job. -/
def Attempt.result (alloy : Alloy) (attempt : Attempt) :
    JobResult BroadcastOutcome BroadcasterError :=
  process alloy attempt.gateway attempt.started attempt.job

/-- What the attempt sends. -/
def Attempt.sent (alloy : Alloy) (attempt : Attempt) : Option Bytes :=
  sentBytes alloy attempt.gateway attempt.job

/-- The attempt ends in an error that is recorded. -/
def Attempt.Errs (alloy : Alloy) (attempt : Attempt) (error : BroadcasterError) : Prop :=
  attempt.result alloy = .error (.fail error) ∨
    ∃ delay position, attempt.result alloy = .error (.nack error delay position)

/-- The requests and the queue, the jobs that pops handed out and the attempts made at them. -/
structure Deployment (κ : Type) where
  service : Service κ String BroadcastOutcome BroadcasterError
  handed : List (BorrowedJob String FrameTransaction)
  attempts : List Attempt

/-- What happens next. -/
inductive Happening (κ : Type) where
  /-- A request sends its next command. -/
  | request (who : κ) (now : Nat)
  /-- A worker pops, a lease runs out, or a prune runs. -/
  | keep (op : Op String FrameTransaction BroadcastOutcome BroadcasterError)
  /-- A worker runs `process` on a job that was handed out. -/
  | attempt (index started : Nat) (gateway : BroadcastGateway)
  /-- A worker commits the result of an attempt. -/
  | commit (index finished : Nat)

/-- Pops, lease expiry and prunes. -/
def keeps : Op String FrameTransaction BroadcastOutcome BroadcasterError → Bool
  | .pop _ _ _ | .expireLease _ _ | .postSuccess | .postFail => true
  | _ => false

variable {κ : Type} [DecidableEq κ]

/-- No request has sent its first command. -/
def Deployment.empty : Deployment κ := ⟨Service.empty, [], []⟩

/-- The engine after a step. -/
def Deployment.step (alloy : Alloy) (requests : κ → JobOptions String FrameTransaction)
    (options : QueueOptions) (engine : Deployment κ) : Happening κ → Deployment κ
  | .request who now =>
    { engine with service := engine.service.step requests options (.request who now) }
  | .keep op =>
    if keeps op then
      { engine with
        service := engine.service.step requests options (.worker op)
        handed := engine.handed ++ engine.service.store.handedOut options op }
    else engine
  | .attempt index started gateway =>
    match engine.handed[index]? with
    | some job => { engine with attempts := engine.attempts ++ [⟨started, job, gateway⟩] }
    | none => engine
  | .commit index finished =>
    match engine.attempts[index]? with
    | some attempt =>
      { engine with
        service := engine.service.step requests options
          (.worker (.complete finished attempt.job (attempt.result alloy))) }
    | none => engine

/-- An attempt at a job that was handed out. -/
theorem Deployment.attempts_attempt (alloy : Alloy)
    (requests : κ → JobOptions String FrameTransaction) (options : QueueOptions)
    {engine : Deployment κ} {index : Nat} {job : BorrowedJob String FrameTransaction}
    (taken : engine.handed[index]? = some job) (started : Nat) (gateway : BroadcastGateway) :
    (engine.step alloy requests options (.attempt index started gateway)).attempts =
      engine.attempts ++ [⟨started, job, gateway⟩] := by
  rw [Deployment.step, taken]

/-- A slot's answer that takes the request's transaction in. -/
def SlotStatus.takesIn : SlotStatus → Bool
  | .queued | .replaced => true
  | .duplicate | .alreadyProcessed | .broadcasting => false

/-- The request that a step answers `queued` or `replaced`. -/
def Deployment.accepted (requests : κ → JobOptions String FrameTransaction)
    (engine : Deployment κ) : Happening κ → List κ
  | .request who now =>
    if (engine.service.answer requests (.request who now)).any (·.2.takesIn) then [who] else []
  | .keep _ | .attempt _ _ _ | .commit _ _ => []

/-! The invariant. -/

/-- The transaction was taken in for the slot. -/
def Accepted (requests : κ → JobOptions String FrameTransaction) (accepted : List κ) (id : String)
    (tx : FrameTransaction) : Prop :=
  ∃ who ∈ accepted, (requests who).id = id ∧ (requests who).data = tx

/-- Some attempt at the slot ended in the outcome. -/
def Delivered (alloy : Alloy) (attempts : List Attempt) (id : String)
    (outcome : BroadcastOutcome) : Prop :=
  ∃ attempt ∈ attempts, attempt.job.job.id = id ∧ attempt.result alloy = .ok outcome

/-- Some attempt at the slot ended in the error. -/
def Erred (alloy : Alloy) (attempts : List Attempt) (id : String) (error : BroadcasterError) :
    Prop :=
  ∃ attempt ∈ attempts, attempt.job.job.id = id ∧ attempt.Errs alloy error

/-- Every job holds an accepted transaction and what attempts at it ended in, and so does every job
that was handed out or attempted. -/
structure Deployment.Sourced (alloy : Alloy) (requests : κ → JobOptions String FrameTransaction)
    (engine : Deployment κ) (accepted : List κ) : Prop where
  jobs : ∀ id, (engine.service.store.view id).Sourced (Accepted requests accepted id)
    (Delivered alloy engine.attempts id) (Erred alloy engine.attempts id)
  handed : ∀ job ∈ engine.handed, Accepted requests accepted job.job.id job.job.data
  attempted : ∀ attempt ∈ engine.attempts,
    Accepted requests accepted attempt.job.job.id attempt.job.job.data

variable {alloy : Alloy} {requests : κ → JobOptions String FrameTransaction}
  {options : QueueOptions} {engine : Deployment κ} {accepted : List κ}

omit [DecidableEq κ] in
/-- More requests accept more. -/
theorem Accepted.mono {id : String} {tx : FrameTransaction}
    (holds : Accepted requests accepted id tx) (more : List κ) :
    Accepted requests (accepted ++ more) id tx := by
  obtain ⟨who, member, same⟩ := holds
  exact ⟨who, List.mem_append_left more member, same⟩

/-- A request's command changes nothing, releases the slot, or takes its transaction in. -/
theorem Progress.step_cases (options : QueueOptions)
    (store : Store String FrameTransaction BroadcastOutcome BroadcasterError) (now : Nat)
    (job : JobOptions String FrameTransaction) (progress : Progress) :
    (progress.step store now job).1 = store ∨
      (progress.step store now job).1 = store.step options (.release job.id) ∨
      (∀ response, progress ≠ .answered response) ∧
        (∃ response, (progress.step store now job).2 = .answered response ∧
          response.status.takesIn) ∧
        ∃ op, (op = .push now job ∨ op = .replace job.id job.data) ∧
          (progress.step store now job).1 = store.step options op := by
  cases progress with
  | pushing =>
    by_cases known : job.id ∈ store.dedupe
    · have same := store.push_duplicate now job known
      exact .inl (by simp [Progress.step, same])
    · have created := store.push_created now job known
      have pushed : store.pushWithOutcome now job = (.created, (store.pushWithOutcome now job).2) :=
        Prod.ext created rfl
      refine .inr (.inr ⟨by simp, ?_, .push now job, .inl rfl, ?_⟩)
      · rw [Progress.step, pushed]
        exact ⟨_, rfl, rfl⟩
      · rw [Progress.step, pushed]
        rfl
  | repushing =>
    by_cases known : job.id ∈ store.dedupe
    · have same := store.push_duplicate now job known
      exact .inl (by simp [Progress.step, same])
    · have created := store.push_created now job known
      refine .inr (.inr ⟨by simp, ⟨afterRepush .created, ?_, rfl⟩, .push now job, .inl rfl, rfl⟩)
      rw [← created]
      rfl
  | swapping existing =>
    cases store.replace_cases job.id job.data with
    | inl replaces =>
      refine .inr (.inr ⟨by simp, ⟨afterSwap .replaced, ?_, rfl⟩, .replace job.id job.data,
        .inr rfl, rfl⟩)
      rw [← replaces.2.1]
      rfl
    | inr same => exact .inl same.2
  | lookingUp =>
    refine .inl ?_
    unfold Progress.step
    dsimp only
    split <;> rfl
  | releasing => exact .inr (.inl rfl)
  | readingMeta data => exact .inl rfl
  | readingState => exact .inl rfl
  | answered response => exact .inl rfl

/-- A request's command leaves what is accepted with it. -/
theorem Service.sourced_request {service : Service κ String BroadcastOutcome BroadcasterError}
    {output : BroadcastOutcome → Prop} {error : BroadcasterError → Prop} {id : String}
    (sourced : (service.store.view id).Sourced (Accepted requests accepted id) output error)
    (options : QueueOptions) (who : κ) (now : Nat) :
    ((service.step requests options (.request who now)).store.view id).Sourced
      (Accepted requests (accepted ++
        if (service.answer requests (.request who now)).any (·.2.takesIn) then [who] else []) id)
      output error := by
  have widened (more : List κ) : (service.store.view id).Sourced
      (Accepted requests (accepted ++ more) id) output error :=
    sourced.imp (fun _ holds => holds.mono more) (fun _ holds => holds) fun _ holds => holds
  show ((((service.progress who).step service.store now (requests who)).1).view id).Sourced _ _ _
  have steps := (service.progress who).step_cases options service.store now (requests who)
  rcases steps with same | released | ⟨open_, ⟨response, answered, takesIn⟩, op, kind, same⟩
  · rw [same]
    exact widened _
  · rw [released]
    exact Store.sourced_step (widened _) options _ trivial
  · have told : service.answer requests (.request who now) =
        some ((requests who).id, response.status) := by
      unfold Service.answer
      dsimp only
      rw [answered]
      cases progress : service.progress who with
      | answered other => exact absurd progress (open_ other)
      | _ => rfl
    have own : (requests who).id = id →
        Accepted requests (accepted ++ [who]) id (requests who).data :=
      fun named => ⟨who, by simp, named, rfl⟩
    rw [same, told, Option.any_some, if_pos takesIn]
    refine Store.sourced_step (widened _) options op ?_
    cases kind with
    | inl pushes => exact pushes ▸ own
    | inr replaces => exact replaces ▸ own

omit [DecidableEq κ] in
/-- The empty engine holds nothing. -/
theorem Deployment.sourced_empty (alloy : Alloy)
    (requests : κ → JobOptions String FrameTransaction) :
    (Deployment.empty : Deployment κ).Sourced alloy requests [] where
  jobs _ :=
    ⟨fun _ held => absurd held.symm (Option.some_ne_none _),
      fun _ held => absurd held.symm (Option.some_ne_none _),
      fun _ member => absurd member List.not_mem_nil⟩
  handed _ member := absurd member List.not_mem_nil
  attempted _ member := absurd member List.not_mem_nil

/-- Every step keeps the engine to what was accepted and attempted. -/
theorem Deployment.Sourced.step (sourced : engine.Sourced alloy requests accepted)
    (options : QueueOptions) (happening : Happening κ) :
    (engine.step alloy requests options happening).Sourced alloy requests
      (accepted ++ engine.accepted requests happening) := by
  cases happening with
  | request who now =>
    exact ⟨fun id => Service.sourced_request (sourced.jobs id) options who now,
      fun job member => (sourced.handed job member).mono _,
      fun attempt member => (sourced.attempted attempt member).mono _⟩
  | keep op =>
    rw [Deployment.accepted, List.append_nil, Deployment.step]
    cases allowed : keeps op with
    | false => exact sourced
    | true =>
      have brings (id : String) : op.Brings (Accepted requests accepted id)
          (Delivered alloy engine.attempts id) (Erred alloy engine.attempts id) id := by
        cases op <;> trivial
      refine ⟨fun id => Store.sourced_step (sourced.jobs id) options op (brings id),
        fun job member => ?_, sourced.attempted⟩
      cases List.mem_append.mp member with
      | inl before => exact sourced.handed job before
      | inr now => exact Store.sourced_handedOut options op now (sourced.jobs job.job.id)
  | attempt index started gateway =>
    rw [Deployment.accepted, List.append_nil, Deployment.step]
    cases taken : engine.handed[index]? with
    | none => exact sourced
    | some job =>
      have member : job ∈ engine.handed := List.mem_of_getElem? taken
      have more {property : Attempt → Prop}
          (holds : ∃ attempt ∈ engine.attempts, property attempt) :
          ∃ attempt ∈ engine.attempts ++ [⟨started, job, gateway⟩], property attempt := by
        obtain ⟨attempt, before, held⟩ := holds
        exact ⟨attempt, List.mem_append_left _ before, held⟩
      refine ⟨fun id => (sourced.jobs id).imp (fun _ holds => holds) (fun _ => more) fun _ => more,
        sourced.handed, fun attempt made => ?_⟩
      cases List.mem_append.mp made with
      | inl before => exact sourced.attempted attempt before
      | inr now =>
        rw [List.mem_singleton.mp now]
        exact sourced.handed job member
  | commit index finished =>
    rw [Deployment.accepted, List.append_nil, Deployment.step]
    cases made : engine.attempts[index]? with
    | none => exact sourced
    | some attempt =>
      have member : attempt ∈ engine.attempts := List.mem_of_getElem? made
      have brings (id : String) : (Op.complete finished attempt.job (attempt.result alloy)).Brings
          (Accepted requests accepted id) (Delivered alloy engine.attempts id)
          (Erred alloy engine.attempts id) id := by
        intro named
        cases result : attempt.result alloy using JobResult.cases with
        | ok outcome => exact ⟨attempt, member, named, result⟩
        | retry error delay position =>
          exact ⟨attempt, member, named, .inr ⟨some delay, position, result⟩⟩
        | nack error position => exact ⟨attempt, member, named, .inr ⟨none, position, result⟩⟩
        | fail error => exact ⟨attempt, member, named, .inl result⟩
        | defer delay position => trivial
      exact ⟨fun id => Store.sourced_step (sourced.jobs id) options _ (brings id), sourced.handed,
        sourced.attempted⟩

/-! What is sent. -/

/-- The transaction is the one that was posted, but for the sponsor's signature of it in the first
entry that names the sponsor. -/
def Post.Returns (alloy : Alloy) (post : Post) (tx : FrameTransaction) : Prop :=
  tx = post.payload ∨ ∃ signer signature before entry after,
    post.sponsorSigner = some signer ∧
      signer.signSponsorFrame post.payload (post.payload.computeSigHash alloy) = .ok signature ∧
      post.payload.signatures = before ++ entry :: after ∧
      toLowercase entry.signer = alloy.lowerHex signer.address ∧
      tx = { post.payload with
        signatures := before ++ { entry with signature := alloy.hexEncode signature } :: after }

/-- What a request pushes is what it posted, but for the sponsor's signature. -/
theorem Admission.returns {store : Option RedisPolicyStore} (request : Admission alloy store) :
    request.post.Returns alloy request.job.data := by
  have compiled := Post.compiled_of_intake request.admitted
  by_cases sponsored : ((request.post.compiler alloy).withStore store request.post.now
      request.post.outage).resolvePayer request.post.payload = .sponsor
  · obtain ⟨signer, signature, signatures, injected⟩ :=
      FrameCompiler.compileAndValidate_sponsored compiled sponsored
    obtain ⟨before, entry, after, parts, filled, found⟩ :=
      FrameCompiler.fillSignature_eq_some injected.fills
    have matches_ := List.find?_some found
    have named : alloy.lowerHex signer.address = toLowercase entry.signer :=
      of_decide_eq_true matches_
    have whole := injected.whole
    rw [filled] at whole
    exact .inr ⟨signer, signature, before, entry, after, injected.held, injected.signed, parts,
      named.symm, whole⟩
  · exact .inl (FrameCompiler.compileAndValidate_unsponsored compiled sponsored)

/-- A request pushes under the id of its slot. -/
theorem Admission.slot {store : Option RedisPolicyStore} (request : Admission alloy store) :
    ∃ nonceSeq, request.post.payload.nonceSeq = some nonceSeq ∧
      request.job.id = jobId request.job.data nonceSeq := by
  have admitted := request.admitted
  unfold Post.intake at admitted
  split at admitted
  · cases congrArg Prod.fst admitted
  · split at admitted
    · cases congrArg Prod.fst admitted
    · next nonceSeq numbered =>
      split at admitted
      · have same := Except.ok.inj (congrArg Prod.fst admitted)
        exact ⟨nonceSeq, numbered, by rw [← same]⟩
      · cases congrArg Prod.fst admitted
      · cases congrArg Prod.fst admitted

/-- A hash is shown for a broadcast only. -/
theorem succeeded_of_txHash {state : JobState BroadcastOutcome BroadcasterError} {hash : String}
    (shows : (describeState state).txHash = some hash) : state = .succeeded (.broadcast hash) := by
  cases state with
  | succeeded outcome =>
    cases outcome with
    | broadcast txHash => exact congrArg _ (congrArg _ (Option.some.inj shows))
    | superseded nonceSeq => cases shows
  | pending => cases shows
  | deferred until_ => cases shows
  | retrying until_ lastError => cases shows
  | active => cases shows
  | failed lastError => cases shows

section Runs

variable (options : QueueOptions) (happenings : List (Happening κ))

/-- A run keeps the engine to what was accepted and attempted. -/
theorem Deployment.sourced_run (alloy : Alloy) (requests : κ → JobOptions String FrameTransaction) :
    (Transition.run (Deployment.step alloy requests options) Deployment.empty happenings).Sourced
      alloy requests (Transition.trace (Deployment.step alloy requests options)
        (Deployment.accepted requests) Deployment.empty happenings) := by
  have run := Transition.run_traced (Deployment.accepted requests)
    (fun engine accepted => engine.Sourced alloy requests accepted)
    (fun engine happening accepted before _ => before.step options happening)
    (Deployment.empty : Deployment κ) happenings [] (Deployment.sourced_empty alloy requests)
    (Transition.along_true _ happenings)
  rw [List.nil_append] at run
  exact run

/-- Whatever the requests, the workers and the nodes do, in whatever order: what is sent for a slot
is the faithful encoding of the transaction of a request for that slot that was answered `queued` or
`replaced` before, and that transaction is the one posted, but for the sponsor's signature. -/
theorem Deployment.sent_accepted {store : Option RedisPolicyStore}
    (admissions : κ → Admission alloy store) :
    let requests := fun who => (admissions who).job
    let engine :=
      Transition.run (Deployment.step alloy requests options) Deployment.empty happenings
    let accepted := Transition.trace (Deployment.step alloy requests options)
      (Deployment.accepted requests) Deployment.empty happenings
    ∀ attempt ∈ engine.attempts, ∀ bytes, attempt.sent alloy = some bytes →
      ∃ who ∈ accepted, ∃ nonceSeq,
        (admissions who).post.payload.nonceSeq = some nonceSeq ∧
          attempt.job.job.id = jobId (requests who).data nonceSeq ∧
          (admissions who).post.Returns alloy (requests who).data ∧
          (requests who).data.validateWireFormat alloy = .ok () ∧
          bytes = (requests who).data.encodeTransaction alloy := by
  intro requests engine accepted attempt made bytes sent
  have sourced : engine.Sourced alloy requests accepted :=
    Deployment.sourced_run options happenings alloy requests
  obtain ⟨who, member, named, same⟩ := sourced.attempted attempt made
  obtain ⟨nonceSeq, numbered, slot⟩ := (admissions who).slot
  have faithful := valid_of_sentBytes sent
  rw [← same] at faithful
  exact ⟨who, member, nonceSeq, numbered, named.symm.trans slot, (admissions who).returns,
    faithful.1, faithful.2⟩

/-- `sponsoredPost` passes the intake of an engine without a policy store. -/
theorem sponsoredPost_unguarded :
    sponsoredPost.intake (sponsoringEngine none).alloy none Counters.empty =
      (.ok sponsoredJob, Counters.empty) := by
  have compiled : ((sponsoredPost.compiler (sponsoringEngine none).alloy).withStore none 1000
      none).compileAndValidate Counters.empty (sponsoredTx "") =
        (.ok (filledTx ""), Counters.empty) := by
    apply FrameCompiler.compile_of_reserved
    · rw [FrameCompiler.prepare_withStore]
      exact sponsoredTx_prepared
    · rfl
  exact Post.intake_of_compiled rfl rfl compiled

/-- `sponsoredPost` past the intake. -/
def sponsoredAdmission : Admission (sponsoringEngine none).alloy none where
  post := sponsoredPost
  counters := Counters.empty
  later := Counters.empty
  job := sponsoredJob
  admitted := sponsoredPost_unguarded

/-- What `sponsoringEngine` compiles encodes faithfully. -/
theorem filledTx_valid :
    (filledTx "").validateWireFormat (sponsoringEngine none).alloy = .ok () := by
  have sender : (sponsoringEngine none).alloy.expectHexBytes "sender" (filledTx "").sender
      (some 20) = .ok (List.replicate 20 0x11) := by
    decide +kernel
  have frames : Check.each (Frame.validateWireFormat (sponsoringEngine none).alloy) 0
      (filledTx "").frames = .ok () := by
    decide +kernel
  have named : ∀ entry ∈ (filledTx "").signatures,
      entry.validateSigner (sponsoringEngine none).alloy 0 = .ok () ∧
        (sponsoringEngine none).alloy.expectUnlessBlank "signatures[0].msg" entry.msg 32 =
          .ok () := by
    decide +kernel
  have signatures : Check.each
      (FrameSignature.validateWireFormat (sponsoringEngine none).alloy) 0
      (filledTx "").signatures = .ok () := by
    refine Check.seq_eq_ok.mpr ⟨Check.seq_eq_ok.mpr ⟨(named _ List.mem_cons_self).1,
      Check.seq_eq_ok.mpr ⟨(named _ List.mem_cons_self).2, ?_⟩⟩, rfl⟩
    exact Check.bind_eq_ok.mpr ⟨_, ((sponsoringEngine none).alloy.reads_hexEncode _).expect, rfl⟩
  exact Check.bind_eq_ok.mpr ⟨_, sender, Check.seq_eq_ok.mpr ⟨frames, signatures⟩⟩

/-- A node that takes what `sponsoringEngine` compiles. -/
def takingGateway : BroadcastGateway where
  toChainGateway := (sponsoringEngine none).gateway
  sendRawTransaction _ := .ok sponsoredDigest

/-- The job of `sponsoredPost` as a worker pops it. -/
def borrowedSponsored : BorrowedJob String FrameTransaction where
  job :=
    { id := sponsoredJob.id, data := filledTx "", attempts := 1, createdAt := 1,
      processedAt := some 1, finishedAt := none }
  leaseToken := { now := 1, jobId := sponsoredJob.id, attempts := 1, popId := some "a" }

/-- `sponsoredPost` is queued, and a worker pops its job and attempts it. -/
def sponsoredRun : List (Happening Unit) :=
  [.request () 1, .keep (.pop 1 "a" 1), .attempt 0 1 takingGateway]

/-- The one attempt of the run. -/
theorem sponsoredRun_attempts :
    (Transition.run (Deployment.step (sponsoringEngine none).alloy
      (fun _ : Unit => sponsoredAdmission.job) {}) Deployment.empty sponsoredRun).attempts =
        [⟨1, borrowedSponsored, takingGateway⟩] := by
  have handed : (Transition.run (Deployment.step (sponsoringEngine none).alloy
      (fun _ : Unit => sponsoredAdmission.job) {}) Deployment.empty
        [.request () 1, .keep (.pop 1 "a" 1)]).handed = [borrowedSponsored] := by
    decide +kernel
  have taken : (Transition.run (Deployment.step (sponsoringEngine none).alloy
      (fun _ : Unit => sponsoredAdmission.job) {}) Deployment.empty
        [.request () 1, .keep (.pop 1 "a" 1)]).handed[0]? = some borrowedSponsored := by
    rw [handed]
    rfl
  exact Deployment.attempts_attempt (sponsoringEngine none).alloy
    (fun _ : Unit => sponsoredAdmission.job) {} taken 1 takingGateway

/-- The run of `sponsoredPost` sends, and what it sends was accepted. -/
theorem Deployment.sent_accepted_sponsoredRun :
    let alloy := (sponsoringEngine none).alloy
    let requests := fun _ : Unit => sponsoredAdmission.job
    let engine :=
      Transition.run (Deployment.step alloy requests {}) Deployment.empty sponsoredRun
    let accepted := Transition.trace (Deployment.step alloy requests {})
      (Deployment.accepted requests) Deployment.empty sponsoredRun
    ∃ attempt ∈ engine.attempts, ∃ bytes, attempt.sent alloy = some bytes ∧
      ∃ who ∈ accepted, ∃ nonceSeq, sponsoredPost.payload.nonceSeq = some nonceSeq ∧
        attempt.job.job.id = jobId (requests who).data nonceSeq ∧
        sponsoredPost.Returns alloy (requests who).data ∧
        (requests who).data.validateWireFormat alloy = .ok () ∧
        bytes = (requests who).data.encodeTransaction alloy := by
  intro alloy requests engine accepted
  have made : ⟨1, borrowedSponsored, takingGateway⟩ ∈ engine.attempts := by
    rw [show engine.attempts = _ from sponsoredRun_attempts]
    exact List.mem_singleton_self _
  have sent : Attempt.sent alloy ⟨1, borrowedSponsored, takingGateway⟩ =
      some ((filledTx "").encodeTransaction alloy) := by
    have named : alloy.parseAddress (filledTx "").sender = some ⟨List.replicate 20 0x11, rfl⟩ := by
      decide +kernel
    exact sentBytes_of_executable named rfl rfl filledTx_valid
  exact ⟨_, made, _, sent, Deployment.sent_accepted {} sponsoredRun
    (fun _ : Unit => sponsoredAdmission) _ made _ sent⟩

/-- Whatever the requests, the workers and the nodes do, in whatever order: a hash that the status
of a slot shows was returned by a node for bytes that an attempt at the slot sent; a slot shown as
superseded had an attempt that sent nothing and read a key past its sequence; and an error a slot
shows is one an attempt at it ended in. -/
theorem Deployment.status_attempted (requests : κ → JobOptions String FrameTransaction) :
    let engine :=
      Transition.run (Deployment.step alloy requests options) Deployment.empty happenings
    ∀ id state, engine.service.store.getJobState id = some state →
      (∀ hash, (describeState state).txHash = some hash →
        ∃ attempt ∈ engine.attempts, attempt.job.job.id = id ∧ ∃ bytes reply,
          attempt.sent alloy = some bytes ∧
            attempt.gateway.sendRawTransaction bytes = .ok reply ∧
            hash = "0x" ++ alloy.hexEncode reply.val) ∧
      (∀ stated, state = .succeeded (.superseded stated) →
        ∃ attempt ∈ engine.attempts, attempt.job.job.id = id ∧ attempt.sent alloy = none ∧
          attempt.job.job.data.nonceSeq = some stated ∧ ∃ sender,
            alloy.parseAddress attempt.job.job.data.sender = some sender ∧
            ∃ key ∈ attempt.job.job.data.effectiveNonceKeys, ∃ current,
              attempt.gateway.getKeyedNonceSeq sender key = .ok current ∧ stated < current) ∧
      ∀ record, (state = .failed (some record) ∨ ∃ until_, state = .retrying until_ (some record)) →
        ∃ attempt ∈ engine.attempts, attempt.job.job.id = id ∧ attempt.Errs alloy record.error := by
  intro engine id state shown
  have sourced := (Deployment.sourced_run options happenings alloy requests).jobs id
  have result {outcome : BroadcastOutcome} (succeeded : state = .succeeded outcome) :
      Delivered alloy engine.attempts id outcome := by
    rw [succeeded] at shown
    exact sourced.output outcome (Store.result_of_succeeded shown)
  refine ⟨fun hash shows => ?_, fun stated superseded => ?_, fun record listed => ?_⟩
  · have outcome := succeeded_of_txHash shows
    obtain ⟨attempt, made, named, succeeds⟩ := result outcome
    exact ⟨attempt, made, named, sent_of_broadcast succeeds⟩
  · obtain ⟨attempt, made, named, succeeds⟩ := result superseded
    exact ⟨attempt, made, named, unsent_of_superseded succeeds⟩
  · refine sourced.error record (Store.newest_of_shown (listed.imp (fun failed => ?_) ?_))
    · rw [shown, failed]
    · rintro ⟨until_, retries⟩
      exact ⟨until_, by rw [shown, retries]⟩

end Runs

end OpenEngine.Api
