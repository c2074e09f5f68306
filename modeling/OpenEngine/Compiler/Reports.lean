import OpenEngine.Compiler.Pipeline

/-!
# The simulation call of the compiler

`simulate` asks for a simulation once the nonces are read, and what it comes to then depends on the
answer only. A compiler with the answer replaced tells a transaction that is judged without a
simulation from one that goes on to it.
-/

namespace OpenEngine.Compiler

open OpenEngine.Core

namespace FrameCompiler

/-- How `simulate` takes the answer of its simulation call. -/
def judgeReport : Except GatewayError Simulation → Except CompilerError Unit
  | .ok sim => judgeSimulation sim
  | .error (.unsupportedMethod _) => .ok ()
  | .error e => .error (classifyGatewayError e)

variable {σ : Type}

/-- The compiler when its simulation call is answered with a report. -/
def reporting (compiler : FrameCompiler σ) (report : Except GatewayError Simulation) :
    FrameCompiler σ :=
  { compiler with
    gateway := { compiler.gateway with simulateFrameTransaction := fun _ => report } }

/-- `simulate` comes to its simulation call: the transaction has a sequence and a sender, and every
key stands at the sequence. -/
def ReachesSimulation (compiler : FrameCompiler σ) (tx : FrameTransaction) : Prop :=
  ∃ seq sender, tx.nonceSeq = some seq ∧ compiler.alloy.parseAddress tx.sender = some sender ∧
    compiler.readNonces sender seq tx.effectiveNonceKeys = .ok false

/-- The nonce loop does not ask for a simulation. -/
theorem readNonces_reporting (compiler : FrameCompiler σ) (report : Except GatewayError Simulation)
    (sender : Address) (seq : UInt64) (keys : List U256) :
    (compiler.reporting report).readNonces sender seq keys =
      compiler.readNonces sender seq keys := by
  induction keys with
  | nil => rfl
  | cons key rest ih =>
    unfold readNonces
    rw [ih]
    rfl

/-- A read that answers with a reached sequence leaves the result to the other keys. -/
theorem readNonces_cons {compiler : FrameCompiler σ} {sender : Address} {seq current : UInt64}
    {key : U256} (rest : List U256)
    (answer : compiler.gateway.getKeyedNonceSeq sender key = .ok current)
    (reached : ¬ seq < current) :
    compiler.readNonces sender seq (key :: rest) =
      (compiler.readNonces sender seq rest).map fun future => future || current < seq := by
  rw [readNonces, answer]
  simp only [Except.mapError, Check.refuseIf, bind, Except.bind, if_neg reached]
  cases compiler.readNonces sender seq rest <;> rfl

/-- What a transaction whose nonces are read comes to. -/
theorem simulate_of_readNonces {compiler : FrameCompiler σ} {tx : FrameTransaction} {seq : UInt64}
    {sender : Address} (numbered : tx.nonceSeq = some seq)
    (named : compiler.alloy.parseAddress tx.sender = some sender) :
    compiler.simulate tx =
      match compiler.readNonces sender seq tx.effectiveNonceKeys with
      | .error e => .error e
      | .ok true => .ok ()
      | .ok false => judgeReport (compiler.gateway.simulateFrameTransaction tx) := by
  unfold simulate
  rw [numbered]
  dsimp only
  rw [named]
  dsimp only
  cases compiler.readNonces sender seq tx.effectiveNonceKeys with
  | error e => rfl
  | ok future =>
    cases future with
    | true => rfl
    | false =>
      change (match compiler.gateway.simulateFrameTransaction tx with
        | .ok sim => judgeSimulation sim
        | .error (.unsupportedMethod _) => .ok ()
        | .error e => .error (classifyGatewayError e)) = _
      cases compiler.gateway.simulateFrameTransaction tx with
      | ok sim => rfl
      | error e => cases e <;> rfl

/-- The reads do not depend on the report, which counts only when every key is at the sequence. -/
theorem simulate_reporting_of_readNonces {compiler : FrameCompiler σ} {tx : FrameTransaction}
    {seq : UInt64} {sender : Address} (numbered : tx.nonceSeq = some seq)
    (named : compiler.alloy.parseAddress tx.sender = some sender)
    (report : Except GatewayError Simulation) :
    (compiler.reporting report).simulate tx =
      match compiler.readNonces sender seq tx.effectiveNonceKeys with
      | .error e => .error e
      | .ok true => .ok ()
      | .ok false => judgeReport report := by
  have named' : (compiler.reporting report).alloy.parseAddress tx.sender = some sender := named
  rw [simulate_of_readNonces numbered named', readNonces_reporting]
  rfl

/-- A transaction that comes to the simulation call is judged by its report. -/
theorem simulate_reporting {compiler : FrameCompiler σ} {tx : FrameTransaction}
    (reaches : compiler.ReachesSimulation tx) (report : Except GatewayError Simulation) :
    (compiler.reporting report).simulate tx = judgeReport report := by
  obtain ⟨seq, sender, numbered, named, ready⟩ := reaches
  rw [simulate_reporting_of_readNonces numbered named report, ready]

end FrameCompiler

end OpenEngine.Compiler
