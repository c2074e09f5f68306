import OpenEngine.Core.Ethrex
import OpenEngine.Compiler.Reports

/-!
# What a declined simulation says

A node that declines to run the prefix has not judged the transaction, and the compiler passes it.
`rejection_reason` looks at the execution too: an error reported beside the refusal comes out as a
reason to refuse, which the broadcaster would put into a failed job.
-/

namespace OpenEngine.Compiler

open OpenEngine.Core Ethrex

/-- A response that declines is no reason to refuse and passes the transaction; one that finds a
violation is that reason and refuses it. -/
structure ReadAsMeant (wire : FrameSimulation) : Prop where
  declined : ∀ reason, (toDomain wire).outcome = .declined reason →
    (toDomain wire).rejectionReason = none ∧
    ∀ {σ : Type} (compiler : FrameCompiler σ) (tx : FrameTransaction),
      compiler.ReachesSimulation tx →
        (compiler.reporting (.ok (toDomain wire).toSimulation)).simulate tx = .ok ()
  violated : ∀ violation, (toDomain wire).outcome = .violated violation →
    (toDomain wire).rejectionReason = some violation ∧
    ∀ {σ : Type} (compiler : FrameCompiler σ) (tx : FrameTransaction),
      compiler.ReachesSimulation tx →
        (compiler.reporting (.ok (toDomain wire).toSimulation)).simulate tx =
          .error (.simulation s!"node rejected the validation prefix: {violation}")

/-- A response is read as meant exactly if it does not decline and report an error of the execution
at once. -/
theorem readAsMeant_iff (wire : FrameSimulation) :
    ReadAsMeant wire ↔ ¬ (Declined wire ∧ ∃ error, wire.executionError = some error) := by
  have noReason {reason : String} (isDeclined : (toDomain wire).outcome = .declined reason) :
      (toDomain wire).rejectionReason = none ↔ ¬ ∃ error, wire.executionError = some error := by
    rw [Simulation.rejectionReason_of_not_violated (by simp [isDeclined])]
    simp only [Ne, errored_iff, not_exists]
  constructor
  · rintro meant ⟨declines, errs⟩
    obtain ⟨reason, isDeclined⟩ := (declined_iff wire).mpr declines
    exact (noReason isDeclined).mp (meant.declined reason isDeclined).1 errs
  · intro clear
    refine ⟨?_, ?_⟩
    · intro reason isDeclined
      have declines := (declined_iff wire).mp ⟨reason, isDeclined⟩
      refine ⟨(noReason isDeclined).mpr fun errs => clear ⟨declines, errs⟩, ?_⟩
      intro σ compiler tx reaches
      rw [FrameCompiler.simulate_reporting reaches, FrameCompiler.judgeReport,
        FrameCompiler.judgeSimulation, isDeclined]
    · intro violation isViolated
      refine ⟨Simulation.rejectionReason_of_violated isViolated, ?_⟩
      intro σ compiler tx reaches
      rw [FrameCompiler.simulate_reporting reaches, FrameCompiler.judgeReport,
        FrameCompiler.judgeSimulation, isViolated]

/-- A node that stops at its gas ceiling and reports that as the error of the execution too. -/
def overCeiling : FrameSimulation where
  valid := false
  prefixShape := some "OnlyVerifyPay"
  payer := none
  maxCost := 1
  violation := some "total gas limit exceeds the per-transaction gas cap; not simulated"
  gasUsed := none
  frames := none
  executionStatus := none
  executionError := some "per-transaction gas cap exceeded"

/-- The refusal to look comes out as a reason to refuse. -/
theorem overCeiling_not_readAsMeant : ¬ ReadAsMeant overCeiling := by
  intro meant
  have refuses : declinedToSimulate
      "total gas limit exceeds the per-transaction gas cap; not simulated" = true := by
    decide +kernel
  exact (readAsMeant_iff overCeiling).mp meant ⟨⟨rfl, _, rfl, refuses⟩, _, rfl⟩

end OpenEngine.Compiler
