import OpenEngine.Core.Failover
import OpenEngine.Compiler.Reports

/-!
# Skipping a simulation nobody offers

With several endpoints the compiler goes on without a simulation when the failover gateway reports a
missing method. The gateway reports the last failure of its round. So an endpoint without the method
at the end of the round hides one that could not be reached, and the transaction passes unsimulated
where it should be tried again.
-/

namespace OpenEngine.Core

/-- An endpoint has no simulation. -/
def Unsupported (answer : Except GatewayError Simulation) : Prop :=
  ∃ method, answer = .error (.unsupportedMethod method)

/-- An endpoint was not reached. -/
def Unreachable (answer : Except GatewayError Simulation) : Prop :=
  ∃ message, answer = .error (.transport message)

/-- What is no answer comes from an endpoint that has no simulation or was not reached. -/
theorem noAnswer_iff (answer : Except GatewayError Simulation) :
    NoAnswer answer ↔ Unsupported answer ∨ Unreachable answer := by
  constructor
  · rintro ⟨error, rfl, noAnswer⟩
    cases error with
    | rpcError message => cases noAnswer
    | transport message => exact .inr ⟨message, rfl⟩
    | unsupportedMethod method => exact .inl ⟨method, rfl⟩
  · rintro (⟨method, rfl⟩ | ⟨message, rfl⟩)
    · exact ⟨_, rfl, rfl⟩
    · exact ⟨_, rfl, rfl⟩

/-- An endpoint that was not reached may have a simulation. -/
theorem Unreachable.not_unsupported {answer : Except GatewayError Simulation}
    (unreachable : Unreachable answer) : ¬ Unsupported answer := by
  obtain ⟨message, rfl⟩ := unreachable
  rintro ⟨method, same⟩
  cases same

/-- The answers without a kind of their own. -/
theorem simulationKind_eq_nonAnswer (answer : Except GatewayError Simulation) :
    simulationKind answer = .nonAnswer ↔ NoAnswer answer := by
  cases answer with
  | ok simulation =>
    cases judged : simulation.outcome.isAnswer <;> simp [simulationKind, NoAnswer, judged]
  | error error =>
    cases noAnswer : error.isNonAnswer <;> simp [simulationKind, NoAnswer, noAnswer]

namespace FailoverGateway

variable (gateway : FailoverGateway)

/-- No endpoint has a simulation. -/
def NobodySupports (tx : FrameTransaction) : Prop :=
  ∀ endpoint ∈ gateway.endpoints, Unsupported (endpoint.simulateFrameTransaction tx)

/-- No endpoint answers. -/
def NobodyAnswers (tx : FrameTransaction) : Prop :=
  ∀ endpoint ∈ gateway.endpoints, NoAnswer (endpoint.simulateFrameTransaction tx)

/-- Some endpoint is not reached. -/
def SomeoneUnreachable (tx : FrameTransaction) : Prop :=
  ∃ endpoint ∈ gateway.endpoints, Unreachable (endpoint.simulateFrameTransaction tx)

/-- The endpoint that is asked last, if nobody answers, has no simulation. -/
def LastUnsupported (tx : FrameTransaction) : Prop :=
  ∃ index, gateway.order.getLast? = some index ∧
    Unsupported ((gateway.endpoints.get index).simulateFrameTransaction tx)

variable {gateway}

/-- When none of the endpoints left answers, the last of them decides. -/
theorem result_simulateFrom (tx : FrameTransaction) {rest : List (Fin gateway.endpoints.length)}
    (lastError : Option GatewayError)
    (silent : ∀ index ∈ rest, NoAnswer ((gateway.endpoints.get index).simulateFrameTransaction tx))
    {index : Fin gateway.endpoints.length} (last : rest.getLast? = some index) :
    (simulateFrom tx rest none lastError).result =
      (gateway.endpoints.get index).simulateFrameTransaction tx := by
  induction rest generalizing lastError with
  | nil => cases last
  | cons first rest ih =>
    obtain ⟨error, failed, noAnswer⟩ := silent first List.mem_cons_self
    have goesOn : (simulateFrom tx (first :: rest) none lastError).result =
        (simulateFrom tx rest none (some error)).result := by
      rw [simulateFrom, failed]
      simp only [noAnswer, if_true]
      rfl
    rw [goesOn]
    cases rest with
    | nil =>
      have same : first = index := by simpa using last
      rw [← same, failed]
      rfl
    | cons second rest =>
      rw [List.getLast?_cons_cons] at last
      exact ih (some error) (fun other member => silent other (List.mem_cons_of_mem _ member)) last

/-- When nobody answers, the endpoint that is asked last decides. -/
theorem result_of_nobodyAnswers {tx : FrameTransaction} (silent : gateway.NobodyAnswers tx)
    {index : Fin gateway.endpoints.length} (last : gateway.order.getLast? = some index) :
    (gateway.simulateFrameTransaction tx).result =
      (gateway.endpoints.get index).simulateFrameTransaction tx :=
  result_simulateFrom tx none (fun _ _ => silent _ (List.get_mem _ _)) last

/-- Somebody is asked last. -/
theorem exists_getLast?_order (gateway : FailoverGateway) :
    ∃ index, gateway.order.getLast? = some index := by
  cases last : gateway.order.getLast? with
  | some index => exact ⟨index, rfl⟩
  | none =>
    have empty := List.getLast?_eq_none_iff.mp last
    have first : (⟨0, gateway.nonempty⟩ : Fin gateway.endpoints.length) ∈ gateway.order :=
      mem_order _
    rw [empty] at first
    cases first

/-- A missing method is reported exactly if nobody answers and the endpoint that is asked last has
no simulation. -/
theorem unsupported_iff (gateway : FailoverGateway) (tx : FrameTransaction) :
    Unsupported (gateway.simulateFrameTransaction tx).result ↔
      gateway.NobodyAnswers tx ∧ gateway.LastUnsupported tx := by
  constructor
  · intro missing
    have kind := (simulationKind_eq_nonAnswer _).mpr ((noAnswer_iff _).mpr (.inl missing))
    rw [kind_simulateFrameTransaction, SimulationKind.overall_eq_nonAnswer] at kind
    have silent : gateway.NobodyAnswers tx := fun endpoint listed =>
      (simulationKind_eq_nonAnswer _).mp (kind _ (List.mem_map_of_mem listed))
    obtain ⟨index, last⟩ := exists_getLast?_order gateway
    rw [result_of_nobodyAnswers silent last] at missing
    exact ⟨silent, index, last, missing⟩
  · rintro ⟨silent, index, last, missing⟩
    rw [result_of_nobodyAnswers silent last]
    exact missing

end FailoverGateway

end OpenEngine.Core

namespace OpenEngine.Compiler.FrameCompiler

open OpenEngine.Core

variable {σ : Type}

/-- The compiler goes on without a simulation because the method is missing. -/
def SkipsForMissing (compiler : FrameCompiler σ) (tx : FrameTransaction) : Prop :=
  compiler.ReachesSimulation tx ∧
    Unsupported (compiler.gateway.simulateFrameTransaction tx) ∧ compiler.simulate tx = .ok ()

/-- The compiler on a failover gateway: the nonces are read as before, and the simulation is asked
of the gateway's endpoints from where its index stands. -/
def onGateway (compiler : FrameCompiler σ) (gateway : FailoverGateway) (tx : FrameTransaction) :
    FrameCompiler σ :=
  compiler.reporting (gateway.simulateFrameTransaction tx).result

/-- A missing method is reported, and a simulation skipped for it, only if no endpoint has one; an
endpoint that is not reached has the transaction tried again. -/
structure SkipsOnlyUnsupported (compiler : FrameCompiler σ) (gateway : FailoverGateway)
    (tx : FrameTransaction) : Prop where
  reported : Unsupported (gateway.simulateFrameTransaction tx).result → gateway.NobodySupports tx
  skipped : (compiler.onGateway gateway tx).SkipsForMissing tx → gateway.NobodySupports tx
  retried : compiler.ReachesSimulation tx → gateway.NobodyAnswers tx →
    gateway.SomeoneUnreachable tx →
      ∃ reason, (compiler.onGateway gateway tx).simulate tx = .error (.unavailable reason)

/-- Simulation is skipped only when nobody supports it, exactly if it is not so that nobody answers,
someone is unreachable, and the endpoint that is asked last has no simulation. -/
theorem skipsOnlyUnsupported_iff (compiler : FrameCompiler σ) (gateway : FailoverGateway)
    (tx : FrameTransaction) :
    compiler.SkipsOnlyUnsupported gateway tx ↔
      ¬ (gateway.NobodyAnswers tx ∧ gateway.SomeoneUnreachable tx ∧
        gateway.LastUnsupported tx) := by
  constructor
  · rintro skips ⟨silent, ⟨endpoint, listed, unreachable⟩, last⟩
    have missing := (gateway.unsupported_iff tx).mpr ⟨silent, last⟩
    exact unreachable.not_unsupported (skips.reported missing endpoint listed)
  · intro clear
    have reported : Unsupported (gateway.simulateFrameTransaction tx).result →
        gateway.NobodySupports tx := by
      intro missing endpoint listed
      obtain ⟨silent, last⟩ := (gateway.unsupported_iff tx).mp missing
      obtain supported | unreachable := (noAnswer_iff _).mp (silent endpoint listed)
      · exact supported
      · exact absurd ⟨silent, ⟨endpoint, listed, unreachable⟩, last⟩ clear
    refine ⟨reported, fun skips => reported skips.2.1, ?_⟩
    intro reaches silent someone
    obtain ⟨index, last⟩ := FailoverGateway.exists_getLast?_order gateway
    have decides := FailoverGateway.result_of_nobodyAnswers silent last
    obtain supported | ⟨message, unreachable⟩ :=
      (noAnswer_iff _).mp (silent _ (List.get_mem gateway.endpoints index))
    · exact absurd ⟨silent, someone, index, last, supported⟩ clear
    · refine ⟨(GatewayError.transport message).text, ?_⟩
      rw [onGateway, simulate_reporting reaches, decides, unreachable]
      rfl

/-- A gateway over an unreachable node and one without a simulation. -/
def unreachableThenLacking : FailoverGateway where
  endpoints := [
    { getKeyedNonceSeq := fun _ _ => .ok 0
      simulateFrameTransaction := fun _ => .error (.transport "connection refused") },
    { getKeyedNonceSeq := fun _ _ => .ok 0
      simulateFrameTransaction := fun _ =>
        .error (.unsupportedMethod "ethrex_simulateFrameTransaction") }]
  current := 0
  nonempty := by decide

/-- The second node, which lacks the method, hides that the first was not reached. -/
theorem unreachable_node_skipped :
    ¬ (sponsoringEngine none).SkipsOnlyUnsupported unreachableThenLacking (sponsoredTx "") := by
  intro skips
  have supported := skips.reported ⟨_, rfl⟩ _ List.mem_cons_self
  exact Unreachable.not_unsupported ⟨_, rfl⟩ supported

end OpenEngine.Compiler.FrameCompiler
