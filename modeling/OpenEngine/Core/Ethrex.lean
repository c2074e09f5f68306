import Mathlib.Data.List.Infix
import OpenEngine.Core.Gateway

/-!
# The ethrex dialect

`gateway/ethrex.rs`: the wire response of the node's simulation and its reading into the
vendor-neutral `Simulation`. The prefix and the execution are read from different fields, each
without regard to the other.
-/

namespace OpenEngine.Core

/-- `FrameOutcome`. -/
structure FrameOutcome where
  gasUsed : UInt64
  succeeded : Bool
deriving DecidableEq

/-- `Simulation` with what is carried for the logs only. -/
structure LoggedSimulation extends Simulation where
  prefixShape : Option String
  payer : Option Address
  maxCost : U256
  gasUsed : Option UInt64
  frames : List FrameOutcome

namespace Ethrex

/-- `EXECUTION_STATUS_REVERTED`. -/
def executionStatusReverted : String := "reverted"

/-- `EXECUTION_STATUS_SUCCESS`. -/
def executionStatusSuccess : String := "success"

/-- `SimulatedFrame`. -/
structure SimulatedFrame where
  gasUsed : UInt64
  succeeded : Bool
deriving DecidableEq

/-- `FrameSimulation`: the wire response. -/
structure FrameSimulation where
  valid : Bool
  prefixShape : Option String
  payer : Option Address
  maxCost : U256
  violation : Option String
  gasUsed : Option UInt64
  frames : Option (List SimulatedFrame)
  executionStatus : Option String
  executionError : Option String
deriving DecidableEq

/-- `declined_to_simulate`. -/
def declinedToSimulate (violation : String) : Bool :=
  "not simulated".toList <:+: violation.toList

/-- The prefix of `to_domain`. -/
def prefixOutcome (wire : FrameSimulation) : PrefixOutcome :=
  if wire.valid then .passed
  else
    let violation := wire.violation.getD "no violation reported"
    if declinedToSimulate violation then .declined violation else .violated violation

/-- The execution of `to_domain`. -/
def execution (wire : FrameSimulation) (frames : List FrameOutcome) : Option Execution :=
  match wire.executionError with
  | some error => some (.errored error)
  | none =>
    match wire.executionStatus with
    | none => none
    | some status =>
      if status = executionStatusSuccess then some .succeeded
      else if status = executionStatusReverted then
        some (.reverted (frames.zipIdx.filterMap fun (frame, index) =>
          if frame.succeeded then none else some index))
      else some (.unrecognized status)

/-- `to_domain`. -/
def toDomain (wire : FrameSimulation) : LoggedSimulation :=
  let frames := (wire.frames.getD []).map fun frame => ⟨frame.gasUsed, frame.succeeded⟩
  { outcome := prefixOutcome wire
    execution := execution wire frames
    prefixShape := wire.prefixShape
    payer := wire.payer
    maxCost := wire.maxCost
    gasUsed := wire.gasUsed
    frames }

/-- The node says that it did not run the prefix. -/
def Declined (wire : FrameSimulation) : Prop :=
  wire.valid = false ∧ ∃ violation ∈ wire.violation, declinedToSimulate violation = true

/-- A response is read as declined exactly if the node says so. -/
theorem declined_iff (wire : FrameSimulation) :
    (∃ reason, (toDomain wire).outcome = .declined reason) ↔ Declined wire := by
  change (∃ reason, prefixOutcome wire = .declined reason) ↔ _
  have unreported : declinedToSimulate "no violation reported" = false := by decide +kernel
  unfold prefixOutcome Declined
  cases wire.valid with
  | true => simp
  | false =>
    cases wire.violation with
    | none => simp [unreported]
    | some violation =>
      cases refuses : declinedToSimulate violation <;> simp [refuses]

/-- An execution is read as errored exactly if the node reports an error. -/
theorem errored_iff (wire : FrameSimulation) (reason : String) :
    (toDomain wire).execution = some (.errored reason) ↔ wire.executionError = some reason := by
  change execution wire _ = _ ↔ _
  unfold execution
  cases wire.executionError with
  | some error => simp
  | none =>
    cases wire.executionStatus with
    | none => simp
    | some status =>
      dsimp only
      split
      · simp
      · split <;> simp

end Ethrex

/-- What a simulation gives as a reason to refuse: the violation if there is one, and else the error
of the execution. -/
theorem Simulation.rejectionReason_of_violated {sim : Simulation} {violation : String}
    (violated : sim.outcome = .violated violation) : sim.rejectionReason = some violation := by
  rw [Simulation.rejectionReason, violated]

/-- Without a violation only an error of the execution is a reason to refuse. -/
theorem Simulation.rejectionReason_of_not_violated {sim : Simulation}
    (passes : ∀ violation, sim.outcome ≠ .violated violation) :
    sim.rejectionReason = none ↔ ∀ reason, sim.execution ≠ some (.errored reason) := by
  unfold Simulation.rejectionReason
  cases outcome : sim.outcome with
  | violated violation => exact absurd outcome (passes violation)
  | passed =>
    cases sim.execution with
    | none => simp
    | some execution => cases execution <;> simp
  | declined reason =>
    cases sim.execution with
    | none => simp
    | some execution => cases execution <;> simp

end OpenEngine.Core
