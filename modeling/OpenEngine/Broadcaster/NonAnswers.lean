import OpenEngine.Broadcaster.Retries
import OpenEngine.Compiler.Reports

/-!
# Calls the node does not answer

A call that is not answered says nothing about the transaction. The compiler and the broadcaster
tell answers apart by `is_transient`, which does not count a missing method as unanswered: a nonce
read of a node without the method becomes a rejection by simulation, and a send a failed job. Only
the compiler's simulation call passes a missing method over.
-/

namespace OpenEngine.Core

/-- What is asked of a gateway. -/
inductive GatewayCall where
  | nonceRead
  | simulation
  | send
deriving DecidableEq

/-- A call that failed. -/
structure FailedCall where
  call : GatewayCall
  error : GatewayError
deriving DecidableEq

end OpenEngine.Core

namespace OpenEngine.Compiler

open OpenEngine.Core

namespace FrameCompiler

variable {σ : Type}

/-- The failure that ends the nonce loop of `simulate`, if one does. -/
def failedRead (compiler : FrameCompiler σ) (sender : Address) (seq : UInt64) :
    List U256 → Option GatewayError
  | [] => none
  | key :: rest =>
    match compiler.gateway.getKeyedNonceSeq sender key with
    | .error e => some e
    | .ok current => if seq < current then none else compiler.failedRead sender seq rest

/-- The call of `simulate` that fails, if one does. -/
def failedSimulate (compiler : FrameCompiler σ) (tx : FrameTransaction) : Option FailedCall :=
  match tx.nonceSeq, compiler.alloy.parseAddress tx.sender with
  | some seq, some sender =>
    match compiler.failedRead sender seq tx.effectiveNonceKeys with
    | some e => some ⟨.nonceRead, e⟩
    | none =>
      match compiler.readNonces sender seq tx.effectiveNonceKeys,
        compiler.gateway.simulateFrameTransaction tx with
      | .ok false, .error e => some ⟨.simulation, e⟩
      | _, _ => none
  | _, _ => none

/-- Steps 1 to 3 of `compile_and_validate`. -/
def beforeSimulation (compiler : FrameCompiler σ) (tx : FrameTransaction) :
    Except CompilerError (FrameTransaction × Bool) := do
  validateStructure compiler.alloy tx
  compiler.checkDeclaredIntent tx (compiler.resolvePayer tx)
  compiler.applySponsorship (compiler.resolvePayer tx) tx

/-- The gateway call of `compile_and_validate` that fails, if one does. -/
def failedCall (compiler : FrameCompiler σ) (tx : FrameTransaction) : Option FailedCall :=
  match compiler.beforeSimulation tx with
  | .ok (filled, _) => compiler.failedSimulate filled
  | .error _ => none

/-- The compiler as if every simulation passed. -/
def unsimulated (compiler : FrameCompiler σ) : FrameCompiler σ :=
  { compiler with
    gateway :=
      { compiler.gateway with simulateFrameTransaction := fun _ => .ok ⟨.passed, none⟩ } }

/-- A call of the compile that is not answered does not reject the transaction: the caller is told
to come back, or the compile goes on as if there were no simulation. -/
def SparesNonAnswer (compiler : FrameCompiler σ) (state : σ) (tx : FrameTransaction) : Prop :=
  ∀ failed, compiler.failedCall tx = some failed → failed.error.isNonAnswer = true →
    (∀ reason, (compiler.compileAndValidate state tx).1 ≠ .error (.simulation reason)) ∧
    ((∃ reason, compiler.compileAndValidate state tx = (.error (.unavailable reason), state)) ∨
      compiler.compileAndValidate state tx = compiler.unsimulated.compileAndValidate state tx)

/-- The compiler as if every simulation passed is told so by its simulation call. -/
theorem unsimulated_eq (compiler : FrameCompiler σ) :
    compiler.unsimulated = compiler.reporting (.ok ⟨.passed, none⟩) := rfl

/-- A preparation is what comes before the simulation, and the simulation. -/
theorem prepare_eq (compiler : FrameCompiler σ) (tx : FrameTransaction) :
    compiler.prepare tx = do
      let (filled, sponsored) ← compiler.beforeSimulation tx
      compiler.simulate filled
      return (filled, sponsored) := by
  unfold prepare beforeSimulation
  simp only [bind_assoc]

/-- The nonce loop fails where a read does. -/
theorem readNonces_of_failedRead {compiler : FrameCompiler σ} {sender : Address} {seq : UInt64}
    {keys : List U256} {error : GatewayError}
    (failed : compiler.failedRead sender seq keys = some error) :
    compiler.readNonces sender seq keys = .error (classifyGatewayError error) := by
  induction keys with
  | nil => cases failed
  | cons key rest ih =>
    unfold failedRead at failed
    cases answer : compiler.gateway.getKeyedNonceSeq sender key with
    | error e =>
      rw [answer] at failed
      cases failed
      unfold readNonces
      rw [answer]
      rfl
    | ok current =>
      rw [answer] at failed
      dsimp only at failed
      split at failed
      · cases failed
      · next reached =>
        rw [readNonces_cons rest answer reached, ih failed]
        rfl

/-- How a failed call of `simulate` ends it: a nonce read with its class, the simulation with its
class too unless the method is missing, which passes the transaction. -/
theorem simulate_of_failed {compiler : FrameCompiler σ} {tx : FrameTransaction}
    {failed : FailedCall} (fails : compiler.failedSimulate tx = some failed) :
    (failed.call = .nonceRead ∧
      compiler.simulate tx = .error (classifyGatewayError failed.error)) ∨
    (failed.call = .simulation ∧
      (failed.error.isTransient = true ∨ failed.error.isNonAnswer = false) ∧
      compiler.simulate tx = .error (classifyGatewayError failed.error)) ∨
    (failed.call = .simulation ∧ compiler.simulate tx = .ok () ∧
      compiler.unsimulated.simulate tx = .ok ()) := by
  unfold failedSimulate at fails
  unfold simulate
  cases numbered : tx.nonceSeq with
  | none =>
    rw [numbered] at fails
    cases fails
  | some seq =>
    cases named : compiler.alloy.parseAddress tx.sender with
    | none =>
      rw [numbered, named] at fails
      cases fails
    | some sender =>
      rw [numbered, named] at fails
      dsimp only at fails
      cases read : compiler.failedRead sender seq tx.effectiveNonceKeys with
      | some error =>
        rw [read] at fails
        cases fails
        refine .inl ⟨rfl, ?_⟩
        dsimp only
        rw [readNonces_of_failedRead read]
        rfl
      | none =>
        rw [read] at fails
        dsimp only at fails
        cases nonces : compiler.readNonces sender seq tx.effectiveNonceKeys with
        | error e =>
          rw [nonces] at fails
          cases fails
        | ok future =>
          cases future with
          | true =>
            rw [nonces] at fails
            cases fails
          | false =>
            cases answer : compiler.gateway.simulateFrameTransaction tx with
            | ok simulation =>
              rw [nonces, answer] at fails
              cases fails
            | error e =>
              rw [nonces, answer] at fails
              cases fails
              dsimp only
              rw [nonces]
              cases e with
              | unsupportedMethod method =>
                refine .inr (.inr ⟨rfl, rfl, ?_⟩)
                have named' :
                    compiler.unsimulated.alloy.parseAddress tx.sender = some sender := named
                rw [named']
                dsimp only
                rw [unsimulated_eq, readNonces_reporting, nonces]
                rfl
              | transport message => exact .inr (.inl ⟨rfl, .inl rfl, rfl⟩)
              | rpcError message => exact .inr (.inl ⟨rfl, .inr rfl, rfl⟩)

/-- What comes before the simulation does not ask the gateway. -/
theorem beforeSimulation_unsimulated (compiler : FrameCompiler σ) (tx : FrameTransaction) :
    compiler.unsimulated.beforeSimulation tx = compiler.beforeSimulation tx := rfl

/-- A failed reservation does not reject by simulation. -/
theorem classifyPolicyError_ne (alloy : Alloy) (error : PolicyError) (reason : String) :
    classifyPolicyError alloy error ≠ .simulation reason := by
  cases error <;> simp [classifyPolicyError]

/-- A prepared transaction is not rejected by simulation any more. -/
theorem compile_of_prepared {compiler : FrameCompiler σ} {tx filled : FrameTransaction}
    {sponsored : Bool} (state : σ) (prepared : compiler.prepare tx = .ok (filled, sponsored))
    (reason : String) : (compiler.compileAndValidate state tx).1 ≠ .error (.simulation reason) := by
  unfold compileAndValidate
  rw [prepared]
  dsimp only
  cases sponsored with
  | false => simp
  | true =>
    rw [if_pos rfl]
    split
    · simp
    · next error _ _ =>
      intro rejected
      exact classifyPolicyError_ne compiler.alloy error reason (Except.error.inj rejected)

/-- A transaction that the simulation rejects is rejected for that. -/
theorem compile_of_simulate_error {compiler : FrameCompiler σ} {tx filled : FrameTransaction}
    {sponsored : Bool} {error : CompilerError} (state : σ)
    (before : compiler.beforeSimulation tx = .ok (filled, sponsored))
    (simulated : compiler.simulate filled = .error error) :
    compiler.compileAndValidate state tx = (.error error, state) := by
  have refused : compiler.prepare tx = .error error := by
    rw [prepare_eq, before]
    change (do compiler.simulate filled; return (filled, sponsored)) = _
    rw [simulated]
    rfl
  unfold compileAndValidate
  rw [refused]

/-- A transaction that the simulation passes is prepared. -/
theorem prepare_of_simulate_ok {compiler : FrameCompiler σ} {tx filled : FrameTransaction}
    {sponsored : Bool} (before : compiler.beforeSimulation tx = .ok (filled, sponsored))
    (simulated : compiler.simulate filled = .ok ()) :
    compiler.prepare tx = .ok (filled, sponsored) := by
  rw [prepare_eq, before]
  change (do compiler.simulate filled; return (filled, sponsored)) = _
  rw [simulated]
  rfl

/-- A failed call is a call of the simulation of the transaction with the sponsor's signature. -/
theorem failedCall_eq_some {compiler : FrameCompiler σ} {tx : FrameTransaction}
    {failed : FailedCall} (fails : compiler.failedCall tx = some failed) :
    ∃ filled sponsored, compiler.beforeSimulation tx = .ok (filled, sponsored) ∧
      compiler.failedSimulate filled = some failed := by
  unfold failedCall at fails
  split at fails
  · next filled sponsored before => exact ⟨filled, sponsored, before, fails⟩
  · cases fails

/-- A compile spares what the node did not answer exactly if no nonce read of it finds the method
missing. -/
theorem sparesNonAnswer_iff (compiler : FrameCompiler σ) (state : σ) (tx : FrameTransaction) :
    compiler.SparesNonAnswer state tx ↔
      ∀ method, compiler.failedCall tx ≠ some ⟨.nonceRead, .unsupportedMethod method⟩ := by
  constructor
  · intro spares method fails
    obtain ⟨filled, sponsored, before, inSimulate⟩ := failedCall_eq_some fails
    obtain ⟨-, simulated⟩ | ⟨call, -⟩ | ⟨call, -⟩ := simulate_of_failed inSimulate
    · have rejected := compile_of_simulate_error state before simulated
      refine (spares _ fails rfl).1 (GatewayError.unsupportedMethod method).text ?_
      rw [rejected]
      rfl
    · cases call
    · cases call
  · intro present failed fails noAnswer
    obtain ⟨filled, sponsored, before, inSimulate⟩ := failedCall_eq_some fails
    have comesBack (transient : failed.error.isTransient = true)
        (simulated : compiler.simulate filled = .error (classifyGatewayError failed.error)) :
        compiler.compileAndValidate state tx =
          (.error (.unavailable failed.error.text), state) := by
      rw [compile_of_simulate_error state before simulated, classifyGatewayError, if_pos transient]
    obtain ⟨call, simulated⟩ | ⟨-, kind, simulated⟩ | ⟨-, simulated, skipped⟩ :=
      simulate_of_failed inSimulate
    · have transient : failed.error.isTransient = true := by
        obtain ⟨called, error⟩ := failed
        cases error with
        | transport message => rfl
        | rpcError message => cases noAnswer
        | unsupportedMethod method =>
          cases call
          exact absurd fails (present method)
      rw [comesBack transient simulated]
      exact ⟨fun reason => by simp, .inl ⟨_, rfl⟩⟩
    · have transient : failed.error.isTransient = true := by
        obtain transient | answered := kind
        · exact transient
        · rw [answered] at noAnswer
          cases noAnswer
      rw [comesBack transient simulated]
      exact ⟨fun reason => by simp, .inl ⟨_, rfl⟩⟩
    · have prepared := prepare_of_simulate_ok before simulated
      have before' := (compiler.beforeSimulation_unsimulated tx).trans before
      have prepared' := prepare_of_simulate_ok before' skipped
      refine ⟨compile_of_prepared state prepared, .inr ?_⟩
      unfold compileAndValidate
      rw [prepared, prepared']
      rfl

end FrameCompiler

end OpenEngine.Compiler

namespace OpenEngine.Broadcaster

open OpenEngine.Core Compiler Queue

/-- The failure that ends the nonce loop of `resolve_seq_state`, if one does. -/
def failedRead (gateway : ChainGateway) (sender : Address) : List U256 → Option GatewayError
  | [] => none
  | key :: rest =>
    match gateway.getKeyedNonceSeq sender key with
    | .error e => some e
    | .ok _ => failedRead gateway sender rest

variable {ι : Type}

/-- The gateway call of `process` that fails and ends it, if one does. -/
def failedCall (alloy : Alloy) (gateway : BroadcastGateway)
    (job : BorrowedJob ι FrameTransaction) : Option FailedCall :=
  match alloy.parseAddress job.job.data.sender, job.job.data.nonceSeq with
  | some sender, some seq =>
    match failedRead gateway.toChainGateway sender job.job.data.effectiveNonceKeys with
    | some e => some ⟨.nonceRead, e⟩
    | none =>
      match resolveSeqState gateway.toChainGateway sender job.job.data seq,
        job.job.data.validateWireFormat alloy,
        gateway.sendRawTransaction (job.job.data.encodeTransaction alloy) with
      | .ok .executable, .ok _, .error e => some ⟨.send, e⟩
      | _, _, _ => none
  | _, _ => none

/-- A gateway that finds nothing wrong in any simulation. -/
def BroadcastGateway.unsimulated (gateway : BroadcastGateway) : BroadcastGateway :=
  { gateway with simulateFrameTransaction := fun _ => .ok ⟨.passed, none⟩ }

/-- A call that is not answered does not fail the job before its last attempt, and an unanswered
simulation has no part in what becomes of the job. -/
def SparesNonAnswer (alloy : Alloy) (gateway : BroadcastGateway) (now : Nat)
    (job : BorrowedJob ι FrameTransaction) : Prop :=
  (∀ failed, failedCall alloy gateway job = some failed → failed.error.isNonAnswer = true →
    job.job.attempts < maxBroadcastAttempts →
      ∀ reason, process alloy gateway now job ≠ .error (.fail reason)) ∧
  ∀ error, gateway.simulateFrameTransaction job.job.data = .error error →
    process alloy gateway now job = process alloy gateway.unsimulated now job

variable {alloy : Alloy} {gateway : BroadcastGateway} {job : BorrowedJob ι FrameTransaction}

/-- The nonce loop fails where a read does. -/
theorem resolveKeys_of_failedRead {gateway : ChainGateway} {sender : Address} (seq : UInt64)
    (superseded allReady : Bool) {keys : List U256} {error : GatewayError}
    (failed : failedRead gateway sender keys = some error) :
    ∃ reason, resolveKeys gateway sender seq superseded allReady keys = .error reason := by
  induction keys generalizing superseded allReady with
  | nil => cases failed
  | cons key rest ih =>
    unfold failedRead at failed
    unfold resolveKeys
    cases answer : gateway.getKeyedNonceSeq sender key with
    | error e => exact ⟨_, rfl⟩
    | ok current =>
      rw [answer] at failed
      exact ih _ _ failed

/-- The nonce loop does not ask for a simulation. -/
theorem resolveKeys_unsimulated (sender : Address) (seq : UInt64) (superseded allReady : Bool)
    (keys : List U256) :
    resolveKeys gateway.unsimulated.toChainGateway sender seq superseded allReady keys =
      resolveKeys gateway.toChainGateway sender seq superseded allReady keys := by
  induction keys generalizing superseded allReady with
  | nil => rfl
  | cons key rest ih =>
    unfold resolveKeys
    simp only [ih]
    rfl

/-- How a failed call ends `process`: a nonce read asks for another attempt, and a send fails the
job unless the failure is transient and attempts are left. -/
theorem process_of_failedCall (now : Nat) {failed : FailedCall}
    (fails : failedCall alloy gateway job = some failed) :
    (failed.call = .nonceRead ∧ (process alloy gateway now job).isNack) ∨
    (failed.call = .send ∧
      ((∃ reason, process alloy gateway now job = .error (.fail reason)) ↔
        failed.error.isTransient = false ∨ maxBroadcastAttempts ≤ job.job.attempts)) := by
  unfold failedCall at fails
  unfold process
  cases named : alloy.parseAddress job.job.data.sender with
  | none =>
    rw [named] at fails
    cases fails
  | some sender =>
    cases numbered : job.job.data.nonceSeq with
    | none =>
      rw [named, numbered] at fails
      cases fails
    | some seq =>
      rw [named, numbered] at fails
      dsimp only at fails ⊢
      cases read : failedRead gateway.toChainGateway sender job.job.data.effectiveNonceKeys with
      | some error =>
        rw [read] at fails
        cases fails
        obtain ⟨reason, unread⟩ := resolveKeys_of_failedRead seq false true read
        rw [resolveSeqState, unread]
        exact .inl ⟨rfl, rfl⟩
      | none =>
        rw [read] at fails
        dsimp only at fails
        split at fails
        · next executable valid sent =>
          cases fails
          rw [executable]
          refine .inr ⟨rfl, ?_⟩
          dsimp only
          unfold broadcast
          dsimp only
          rw [valid, sent]
          dsimp only
          cases transient : GatewayError.isTransient _ with
          | false => simp
          | true =>
            rw [if_pos rfl]
            by_cases spent : maxBroadcastAttempts ≤ job.job.attempts
            · simp [spent]
            · simp [spent]
        · cases fails

/-- A simulation that is not answered adds nothing to a rejected broadcast. -/
theorem process_unsimulated (now : Nat) {error : GatewayError}
    (unanswered : gateway.simulateFrameTransaction job.job.data = .error error) :
    process alloy gateway now job = process alloy gateway.unsimulated now job := by
  have resolves (sender : Address) (seq : UInt64) :
      resolveSeqState gateway.unsimulated.toChainGateway sender job.job.data seq =
        resolveSeqState gateway.toChainGateway sender job.job.data seq :=
    resolveKeys_unsimulated sender seq false true _
  have detail : rejectionDetail gateway.unsimulated.toChainGateway job.job.data =
      rejectionDetail gateway.toChainGateway job.job.data := by
    unfold rejectionDetail
    rw [unanswered]
    rfl
  have broadcasts : broadcast alloy gateway.unsimulated job = broadcast alloy gateway job := by
    unfold broadcast
    dsimp only
    rw [detail]
    rfl
  unfold process
  simp only [resolves, broadcasts]

/-- A job is spared what the node did not answer exactly if, while attempts are left, no send of it
finds the method missing. -/
theorem sparesNonAnswer_iff (now : Nat) :
    SparesNonAnswer alloy gateway now job ↔
      (job.job.attempts < maxBroadcastAttempts →
        ∀ method, failedCall alloy gateway job ≠ some ⟨.send, .unsupportedMethod method⟩) := by
  constructor
  · rintro ⟨spares, -⟩ spare method fails
    obtain ⟨call, -⟩ | ⟨-, ends⟩ := process_of_failedCall now fails
    · cases call
    · obtain ⟨reason, failed⟩ := ends.mpr (.inl rfl)
      exact spares _ fails rfl spare reason failed
  · intro present
    refine ⟨?_, fun error unanswered => process_unsimulated now unanswered⟩
    intro failed fails noAnswer spare reason ended
    obtain ⟨-, asks⟩ | ⟨call, ends⟩ := process_of_failedCall now fails
    · rw [ended] at asks
      cases asks
    · obtain answered | spent := ends.mp ⟨reason, ended⟩
      · obtain ⟨called, error⟩ := failed
        cases error with
        | transport message => cases answered
        | rpcError message => cases noAnswer
        | unsupportedMethod method =>
          cases call
          exact present spare method fails
      · omega

/-- What a node did not answer rejects no transaction and fails no job, exactly if no nonce read of
the compile and, while attempts are left, no send of the job finds the method missing. -/
theorem non_answers_spared_iff {σ : Type} (compiler : FrameCompiler σ) (state : σ)
    (tx : FrameTransaction) (alloy : Alloy) (gateway : BroadcastGateway) (now : Nat)
    (job : BorrowedJob ι FrameTransaction) :
    (compiler.SparesNonAnswer state tx ↔
      ∀ method, compiler.failedCall tx ≠ some ⟨.nonceRead, .unsupportedMethod method⟩) ∧
    (SparesNonAnswer alloy gateway now job ↔
      (job.job.attempts < maxBroadcastAttempts →
        ∀ method, failedCall alloy gateway job ≠ some ⟨.send, .unsupportedMethod method⟩)) :=
  ⟨compiler.sparesNonAnswer_iff state tx, sparesNonAnswer_iff now⟩

/-- A node that reads sequences and takes no transactions. -/
def readOnlyGateway : BroadcastGateway where
  getKeyedNonceSeq _ _ := .ok 10
  simulateFrameTransaction _ := .error (.unsupportedMethod "no such method")
  sendRawTransaction _ := .error (.unsupportedMethod "no such method")

/-- A node that cannot read sequences. -/
def readlessEngine : FrameCompiler Unit :=
  { sponsoringEngine none with
    gateway :=
      { getKeyedNonceSeq := fun _ _ => .error (.unsupportedMethod "no such method")
        simulateFrameTransaction := fun _ => .ok ⟨.passed, some .succeeded⟩ } }

/-- A missing method rejects a transaction and fails a job at its first attempt. -/
theorem missing_method_rejects :
    ¬ readlessEngine.SparesNonAnswer () (sponsoredTx "") ∧
      ¬ SparesNonAnswer testAlloy readOnlyGateway 0 (borrowedTx testTx 0) := by
  have unread : readlessEngine.failedCall (sponsoredTx "") =
      some ⟨.nonceRead, .unsupportedMethod "no such method"⟩ := by decide +kernel
  have unsent : failedCall testAlloy readOnlyGateway (borrowedTx testTx 0) =
      some ⟨.send, .unsupportedMethod "no such method"⟩ := by decide +kernel
  constructor
  · intro spares
    exact (readlessEngine.sparesNonAnswer_iff () (sponsoredTx "")).mp spares _ unread
  · intro spares
    exact (sparesNonAnswer_iff 0).mp spares (by decide) _ unsent

end OpenEngine.Broadcaster
