import Mathlib.Data.List.Perm.Basic
import Mathlib.Data.List.FinRange
import Mathlib.Data.Nat.ModEq
import OpenEngine.Core.Gateway

/-!
# Ordered redundancy across several endpoints

`gateway/failover.rs`. A simulation is asked of one endpoint after the other, from the last one that
answered and around the list, until one judges the transaction. A refusal to look and an endpoint
that does not answer both move on; what is left of them decides the answer only when nobody judged.
So the kind of the answer depends on which answers the endpoints have, not on where they stand.
-/

namespace OpenEngine.Core

/-- `FailoverGateway`: the endpoints, of some type, highest priority first, and the index of the
last one that answered, which may be stale. -/
structure FailoverGateway (G : Type := ChainGateway) where
  endpoints : List G
  current : Nat
  nonempty : 0 < endpoints.length

namespace FailoverGateway

section Generic

variable {G α : Type}

/-- `FailoverGateway::new`. -/
def new (endpoints : List G) : Except GatewayError (FailoverGateway G) :=
  if nonempty : 0 < endpoints.length then .ok { endpoints, current := 0, nonempty }
  else .error (.rpcError "a failover gateway needs at least one endpoint")

variable (gateway : FailoverGateway G)

/-- `order`: the endpoints from the last one that answered, wrapping around the list. -/
def order : List (Fin gateway.endpoints.length) :=
  let start := gateway.current % gateway.endpoints.length
  (List.range gateway.endpoints.length).map fun offset =>
    ⟨(start + offset) % gateway.endpoints.length, Nat.mod_lt _ gateway.nonempty⟩

/-- What a call on several endpoints ends with: its result, the index it leaves as the last that
answered, and the endpoints it asked, in order. -/
structure Called (gateway : FailoverGateway G) (α : Type) where
  result : Except GatewayError α
  current : Nat
  asked : List (Fin gateway.endpoints.length)

variable {gateway}

/-- An endpoint was asked before the rest of the call. -/
def Called.after (index : Fin gateway.endpoints.length) (call : Called gateway α) :
    Called gateway α :=
  { call with asked := index :: call.asked }

/-- The loop of `attempt` over the endpoints left, with the last non-answer so far. -/
def attemptFrom (operation : String) (op : G → Except GatewayError α) :
    List (Fin gateway.endpoints.length) → Option GatewayError → Called gateway α
  | [], last =>
    { result := .error (last.getD (.transport s!"no endpoint answered {operation}"))
      current := gateway.current
      asked := [] }
  | index :: rest, _ =>
    match op (gateway.endpoints.get index) with
    | .ok value => { result := .ok value, current := index, asked := [index] }
    | .error error =>
      if error.isNonAnswer then (attemptFrom operation op rest (some error)).after index
      else { result := .error error, current := gateway.current, asked := [index] }

variable (gateway)

/-- `attempt`: the operation asked of one endpoint after the other. -/
def attempt (operation : String) (op : G → Except GatewayError α) :
    Called gateway α :=
  attemptFrom operation op gateway.order none

end Generic

variable {gateway : FailoverGateway}

/-- The loop of `simulate_frame_transaction` over the endpoints left, with the last decline and the
last non-answer so far. -/
def simulateFrom (tx : FrameTransaction) :
    List (Fin gateway.endpoints.length) → Option Simulation → Option GatewayError →
      Called gateway Simulation
  | [], some simulation, _ =>
    { result := .ok simulation, current := gateway.current, asked := [] }
  | [], none, lastError =>
    { result := .error
        (lastError.getD (.transport "no endpoint answered simulate_frame_transaction"))
      current := gateway.current
      asked := [] }
  | index :: rest, declined, lastError =>
    match (gateway.endpoints.get index).simulateFrameTransaction tx with
    | .ok simulation =>
      match simulation.outcome with
      | .declined _ => (simulateFrom tx rest (some simulation) lastError).after index
      | _ => { result := .ok simulation, current := index, asked := [index] }
    | .error error =>
      if error.isNonAnswer then (simulateFrom tx rest declined (some error)).after index
      else { result := .error error, current := gateway.current, asked := [index] }

variable (gateway)

/-- `simulate_frame_transaction`. -/
def simulateFrameTransaction (tx : FrameTransaction) : Called gateway Simulation :=
  simulateFrom tx gateway.order none none

/-- `get_keyed_nonce_seq`. -/
def getKeyedNonceSeq (sender : Address) (nonceKey : U256) : Called gateway UInt64 :=
  gateway.attempt "get_keyed_nonce_seq" (·.getKeyedNonceSeq sender nonceKey)

end FailoverGateway

/-- What an answer to a simulation says: a judgment of the transaction, a refusal to look, or
nothing about the transaction at all. -/
inductive SimulationKind where
  | verdict
  | declined
  | nonAnswer
deriving DecidableEq

/-- What two answers come to: a judgment decides, and a refusal to look outranks no answer. -/
def SimulationKind.or : SimulationKind → SimulationKind → SimulationKind
  | .verdict, _ | _, .verdict => .verdict
  | .declined, _ | _, .declined => .declined
  | .nonAnswer, .nonAnswer => .nonAnswer

instance : LeftCommutative SimulationKind.or where
  left_comm left middle right := by cases left <;> cases middle <;> cases right <;> rfl

/-- What several answers come to. -/
def SimulationKind.overall (kinds : List SimulationKind) : SimulationKind :=
  kinds.foldr SimulationKind.or .nonAnswer

/-- The kind of an answer. -/
def simulationKind : Except GatewayError Simulation → SimulationKind
  | .ok simulation => if simulation.outcome.isAnswer then .verdict else .declined
  | .error error => if error.isNonAnswer then .nonAnswer else .verdict

namespace SimulationKind

/-- A judgment comes of several answers exactly when one of them is a judgment. -/
theorem overall_eq_verdict (kinds : List SimulationKind) :
    overall kinds = .verdict ↔ .verdict ∈ kinds := by
  induction kinds with
  | nil => simp [overall]
  | cons kind kinds ih =>
    rw [List.mem_cons, ← ih]
    change kind.or (overall kinds) = .verdict ↔ _
    cases kind <;> cases overall kinds <;> decide

/-- No answer comes of several exactly when none of them is one. -/
theorem overall_eq_nonAnswer (kinds : List SimulationKind) :
    overall kinds = .nonAnswer ↔ ∀ kind ∈ kinds, kind = .nonAnswer := by
  induction kinds with
  | nil => simp [overall]
  | cons kind kinds ih =>
    rw [List.forall_mem_cons, ← ih]
    change kind.or (overall kinds) = .nonAnswer ↔ _
    cases kind <;> cases overall kinds <;> decide

/-- A refusal to look comes of several answers exactly when there is one and no judgment. -/
theorem overall_eq_declined (kinds : List SimulationKind) :
    overall kinds = .declined ↔ .verdict ∉ kinds ∧ .declined ∈ kinds := by
  induction kinds with
  | nil => simp [overall]
  | cons kind kinds ih =>
    have judged := overall_eq_verdict kinds
    change kind.or (overall kinds) = .declined ↔ _
    cases kind <;> cases total : overall kinds <;> simp_all [SimulationKind.or]

/-- The order of the answers does not matter. -/
theorem overall_perm {kinds others : List SimulationKind} (reordered : kinds.Perm others) :
    overall kinds = overall others :=
  List.Perm.foldr_eq reordered SimulationKind.nonAnswer

end SimulationKind

/-- A call was not answered. -/
def NoAnswer {α : Type} (answer : Except GatewayError α) : Prop :=
  ∃ error, answer = .error error ∧ error.isNonAnswer = true

namespace FailoverGateway

section Order

variable {G : Type} {gateway : FailoverGateway G}

/-- No endpoint comes up twice. -/
theorem order_nodup : gateway.order.Nodup := by
  refine List.Nodup.map_on ?_ List.nodup_range
  intro left inLeft right inRight same
  have sameRest : Nat.ModEq gateway.endpoints.length left right :=
    Nat.ModEq.add_left_cancel' _ (Fin.val_eq_of_eq same)
  have leftRest := Nat.mod_eq_of_lt (List.mem_range.mp inLeft)
  have rightRest := Nat.mod_eq_of_lt (List.mem_range.mp inRight)
  rw [← leftRest, ← rightRest]
  exact sameRest

/-- Every endpoint comes up. -/
theorem mem_order (index : Fin gateway.endpoints.length) : index ∈ gateway.order := by
  have below := Nat.mod_lt gateway.current gateway.nonempty
  have inList := index.isLt
  rw [order, List.mem_map]
  by_cases later : gateway.current % gateway.endpoints.length ≤ index
  · refine ⟨index - gateway.current % gateway.endpoints.length, ?_, Fin.ext ?_⟩
    · rw [List.mem_range]
      omega
    · change (gateway.current % gateway.endpoints.length +
        (index - gateway.current % gateway.endpoints.length)) % gateway.endpoints.length = index
      rw [Nat.add_sub_cancel' later, Nat.mod_eq_of_lt inList]
  · refine ⟨index + gateway.endpoints.length -
      gateway.current % gateway.endpoints.length, ?_, Fin.ext ?_⟩
    · rw [List.mem_range]
      omega
    · change (gateway.current % gateway.endpoints.length +
        (index + gateway.endpoints.length - gateway.current % gateway.endpoints.length)) %
          gateway.endpoints.length = index
      rw [Nat.add_sub_cancel' (by omega), Nat.add_mod_right, Nat.mod_eq_of_lt inList]

/-- Every endpoint comes up exactly once. -/
theorem order_perm : gateway.order.Perm (List.finRange gateway.endpoints.length) := by
  rw [List.perm_ext_iff_of_nodup order_nodup (List.nodup_finRange _)]
  intro index
  simp only [mem_order, List.mem_finRange]

end Order

variable {gateway : FailoverGateway}

/-- The kind of an endpoint's answer to a simulation. -/
def kindAt (gateway : FailoverGateway) (tx : FrameTransaction)
    (index : Fin gateway.endpoints.length) : SimulationKind :=
  simulationKind ((gateway.endpoints.get index).simulateFrameTransaction tx)

/-- The kinds of all endpoints' answers to a simulation, highest priority first. -/
def kinds (gateway : FailoverGateway) (tx : FrameTransaction) : List SimulationKind :=
  gateway.endpoints.map fun endpoint => simulationKind (endpoint.simulateFrameTransaction tx)

/-- The answers in the order they are asked for are the endpoints' answers. -/
theorem kinds_perm (tx : FrameTransaction) :
    (gateway.order.map (gateway.kindAt tx)).Perm (gateway.kinds tx) := by
  have listed : (List.finRange gateway.endpoints.length).map (gateway.kindAt tx) =
      gateway.kinds tx := by
    refine List.ext_get (by simp [kinds]) ?_
    intro position _ _
    simp [kinds, kindAt]
  rw [← listed]
  exact order_perm.map _

/-- One pass of the loop: a judgment ends it, and leaves the index at the endpoint if it was no
error; after a refusal to look or no answer the loop goes on and holds it. -/
theorem simulateFrom_cons (tx : FrameTransaction) (index : Fin gateway.endpoints.length)
    (rest : List (Fin gateway.endpoints.length)) (declined : Option Simulation)
    (lastError : Option GatewayError) :
    (gateway.kindAt tx index = .verdict ∧ ∃ current,
      simulateFrom tx (index :: rest) declined lastError =
        { result := (gateway.endpoints.get index).simulateFrameTransaction tx
          current
          asked := [index] } ∧
      (current = gateway.current ∨ current = index ∧ ∃ simulation,
        (gateway.endpoints.get index).simulateFrameTransaction tx = .ok simulation ∧
          simulation.outcome.isAnswer = true)) ∨
    (gateway.kindAt tx index = .declined ∧ ∃ simulation,
      simulation.outcome.isAnswer = false ∧
      simulateFrom tx (index :: rest) declined lastError =
        (simulateFrom tx rest (some simulation) lastError).after index) ∨
    (gateway.kindAt tx index = .nonAnswer ∧ ∃ error : GatewayError,
      error.isNonAnswer = true ∧
      simulateFrom tx (index :: rest) declined lastError =
        (simulateFrom tx rest declined (some error)).after index) := by
  unfold kindAt
  rw [simulateFrom]
  cases (gateway.endpoints.get index).simulateFrameTransaction tx with
  | ok simulation =>
    cases outcome : simulation.outcome with
    | declined reason =>
      have noJudgment : simulation.outcome.isAnswer = false := by
        rw [outcome]
        rfl
      refine .inr (.inl ⟨?_, simulation, noJudgment, ?_⟩)
      · simp [simulationKind, noJudgment]
      · simp only [outcome]
    | passed =>
      have judgment : simulation.outcome.isAnswer = true := by
        rw [outcome]
        rfl
      refine .inl ⟨?_, index, ?_, .inr ⟨rfl, simulation, rfl, judgment⟩⟩
      · simp [simulationKind, judgment]
      · simp only [outcome]
    | violated violation =>
      have judgment : simulation.outcome.isAnswer = true := by
        rw [outcome]
        rfl
      refine .inl ⟨?_, index, ?_, .inr ⟨rfl, simulation, rfl, judgment⟩⟩
      · simp [simulationKind, judgment]
      · simp only [outcome]
  | error error =>
    cases noAnswer : error.isNonAnswer with
    | true =>
      refine .inr (.inr ⟨?_, error, noAnswer, ?_⟩)
      · simp [simulationKind, noAnswer]
      · simp [noAnswer]
    | false =>
      refine .inl ⟨?_, gateway.current, ?_, .inl rfl⟩
      · simp [simulationKind, noAnswer]
      · simp [noAnswer]

/-- What the loop holds when no endpoint is left: a decline, or no answer. -/
def heldKind : Option Simulation → SimulationKind
  | some _ => .declined
  | none => .nonAnswer

/-- The kind of a simulation's answer is what the answers of the endpoints left come to, together
with what the loop holds. -/
theorem kind_simulateFrom (tx : FrameTransaction) (rest : List (Fin gateway.endpoints.length))
    (declined : Option Simulation) (lastError : Option GatewayError)
    (isDecline : ∀ simulation ∈ declined, simulation.outcome.isAnswer = false)
    (isNonAnswer : ∀ error ∈ lastError, error.isNonAnswer = true) :
    simulationKind (simulateFrom tx rest declined lastError).result =
      (heldKind declined).or (SimulationKind.overall (rest.map (gateway.kindAt tx))) := by
  induction rest generalizing declined lastError with
  | nil =>
    cases declined with
    | some simulation =>
      have noJudgment := isDecline simulation rfl
      simp [simulateFrom, simulationKind, noJudgment, heldKind, SimulationKind.overall,
        SimulationKind.or]
    | none =>
      cases lastError with
      | none => rfl
      | some error =>
        have noAnswer := isNonAnswer error rfl
        simp [simulateFrom, simulationKind, noAnswer, heldKind, SimulationKind.overall,
          SimulationKind.or]
  | cons index rest ih =>
    have next : SimulationKind.overall ((index :: rest).map (gateway.kindAt tx)) =
        (gateway.kindAt tx index).or (SimulationKind.overall (rest.map (gateway.kindAt tx))) := rfl
    rw [next]
    obtain ⟨kind, current, ended, -⟩ | ⟨kind, simulation, noJudgment, goesOn⟩ |
      ⟨kind, error, noAnswer, goesOn⟩ := simulateFrom_cons tx index rest declined lastError
    · have answered : simulationKind (simulateFrom tx (index :: rest) declined lastError).result =
          gateway.kindAt tx index := by
        rw [ended]
        rfl
      rw [answered, kind]
      cases declined <;> rfl
    · have held : ∀ other ∈ some simulation, other.outcome.isAnswer = false := by
        intro other same
        cases same
        exact noJudgment
      have left := ih (some simulation) lastError held isNonAnswer
      rw [goesOn, kind]
      change simulationKind (simulateFrom tx rest (some simulation) lastError).result = _
      rw [left]
      cases declined <;> cases SimulationKind.overall (rest.map (gateway.kindAt tx)) <;> rfl
    · have held : ∀ other ∈ some error, other.isNonAnswer = true := by
        intro other same
        cases same
        exact noAnswer
      have left := ih declined (some error) isDecline held
      rw [goesOn, kind]
      change simulationKind (simulateFrom tx rest declined (some error)).result = _
      rw [left]
      cases declined <;> cases SimulationKind.overall (rest.map (gateway.kindAt tx)) <;> rfl

/-- The loop asks the endpoints left in order, and none after one that judges. -/
theorem asked_simulateFrom (tx : FrameTransaction) (rest : List (Fin gateway.endpoints.length))
    (declined : Option Simulation) (lastError : Option GatewayError) :
    (simulateFrom tx rest declined lastError).asked <+: rest ∧
      ∀ index ∈ (simulateFrom tx rest declined lastError).asked.dropLast,
        gateway.kindAt tx index ≠ .verdict := by
  have goOn (index : Fin gateway.endpoints.length) (rest : List _)
      (call : Called gateway Simulation) (noJudgment : gateway.kindAt tx index ≠ .verdict)
      (left : call.asked <+: rest ∧
        ∀ index ∈ call.asked.dropLast, gateway.kindAt tx index ≠ .verdict) :
      (call.after index).asked <+: index :: rest ∧
        ∀ other ∈ (call.after index).asked.dropLast, gateway.kindAt tx other ≠ .verdict := by
    refine ⟨(List.prefix_cons_inj index).mpr left.1, ?_⟩
    intro other earlier
    change other ∈ (index :: call.asked).dropLast at earlier
    cases more : call.asked with
    | nil =>
      rw [more] at earlier
      simp at earlier
    | cons next asked =>
      rw [more, List.dropLast_cons_cons, ← more] at earlier
      obtain rfl | later := List.mem_cons.mp earlier
      · exact noJudgment
      · exact left.2 other later
  induction rest generalizing declined lastError with
  | nil => cases declined <;> exact ⟨List.prefix_refl _, by simp [simulateFrom]⟩
  | cons index rest ih =>
    obtain ⟨kind, current, ended, -⟩ | ⟨kind, simulation, noJudgment, goesOn⟩ |
      ⟨kind, error, noAnswer, goesOn⟩ := simulateFrom_cons tx index rest declined lastError
    · rw [ended]
      exact ⟨⟨rest, rfl⟩, by simp⟩
    · rw [goesOn]
      exact goOn index rest _ (by simp [kind]) (ih (some simulation) lastError)
    · rw [goesOn]
      exact goOn index rest _ (by simp [kind]) (ih declined (some error))

/-- The index moves only to an asked endpoint whose answer was a judgment and no error. -/
theorem current_simulateFrom (tx : FrameTransaction) (rest : List (Fin gateway.endpoints.length))
    (declined : Option Simulation) (lastError : Option GatewayError) :
    (simulateFrom tx rest declined lastError).current = gateway.current ∨
      ∃ index ∈ (simulateFrom tx rest declined lastError).asked,
        (simulateFrom tx rest declined lastError).current = index ∧ ∃ simulation,
          (gateway.endpoints.get index).simulateFrameTransaction tx = .ok simulation ∧
            simulation.outcome.isAnswer = true := by
  induction rest generalizing declined lastError with
  | nil => cases declined <;> exact .inl rfl
  | cons index rest ih =>
    obtain ⟨-, current, ended, moved⟩ | ⟨-, simulation, -, goesOn⟩ | ⟨-, error, -, goesOn⟩ :=
      simulateFrom_cons tx index rest declined lastError
    · rw [ended]
      obtain stayed | ⟨moved, simulation, answer, judgment⟩ := moved
      · exact .inl stayed
      · exact .inr ⟨index, List.mem_singleton_self index, moved, simulation, answer, judgment⟩
    · rw [goesOn]
      obtain stayed | ⟨other, asked, moved⟩ := ih (some simulation) lastError
      · exact .inl stayed
      · exact .inr ⟨other, List.mem_cons_of_mem index asked, moved⟩
    · rw [goesOn]
      obtain stayed | ⟨other, asked, moved⟩ := ih declined (some error)
      · exact .inl stayed
      · exact .inr ⟨other, List.mem_cons_of_mem index asked, moved⟩

/-- The kind of a simulation's answer is what all the endpoints' answers come to. -/
theorem kind_simulateFrameTransaction (gateway : FailoverGateway) (tx : FrameTransaction) :
    simulationKind (gateway.simulateFrameTransaction tx).result =
      SimulationKind.overall (gateway.kinds tx) := by
  have looped := kind_simulateFrom tx gateway.order none none (by simp) (by simp)
  rw [simulateFrameTransaction, looped, SimulationKind.overall_perm (kinds_perm tx)]
  cases SimulationKind.overall (gateway.kinds tx) <;> rfl

/-- The kind of a simulation's answer follows from the endpoints' answers, however the endpoints are
ordered and wherever the call starts: a judgment when one of them judges, else a refusal to look
when one refuses, else no answer. No endpoint is asked twice or after one that judged, and the index
moves only to an endpoint whose answer was a judgment and no error. -/
theorem simulate_ignores_order (gateway : FailoverGateway) (tx : FrameTransaction) :
    let call := gateway.simulateFrameTransaction tx
    (simulationKind call.result = .verdict ↔ .verdict ∈ gateway.kinds tx) ∧
    (simulationKind call.result = .declined ↔
      .verdict ∉ gateway.kinds tx ∧ .declined ∈ gateway.kinds tx) ∧
    (simulationKind call.result = .nonAnswer ↔ ∀ kind ∈ gateway.kinds tx, kind = .nonAnswer) ∧
    (∀ other : FailoverGateway, other.endpoints.Perm gateway.endpoints →
      simulationKind (other.simulateFrameTransaction tx).result = simulationKind call.result) ∧
    call.asked.Nodup ∧
    (∀ index ∈ call.asked.dropLast, gateway.kindAt tx index ≠ .verdict) ∧
    (call.current = gateway.current ∨ ∃ index ∈ call.asked, call.current = index ∧ ∃ simulation,
      (gateway.endpoints.get index).simulateFrameTransaction tx = .ok simulation ∧
        simulation.outcome.isAnswer = true) := by
  intro call
  have kind := kind_simulateFrameTransaction gateway tx
  have asked := asked_simulateFrom tx gateway.order none none
  refine ⟨?_, ?_, ?_, ?_, order_nodup.sublist asked.1.sublist, asked.2,
    current_simulateFrom tx gateway.order none none⟩
  · rw [kind]
    exact SimulationKind.overall_eq_verdict _
  · rw [kind]
    exact SimulationKind.overall_eq_declined _
  · rw [kind]
    exact SimulationKind.overall_eq_nonAnswer _
  · intro other reordered
    rw [kind, kind_simulateFrameTransaction]
    exact SimulationKind.overall_perm (reordered.map _)

/-- The other calls' loop comes to no answer exactly when none of the endpoints left answers. -/
theorem noAnswer_attemptFrom {G α : Type} {gateway : FailoverGateway G} (operation : String)
    (op : G → Except GatewayError α) (rest : List (Fin gateway.endpoints.length))
    (last : Option GatewayError) (isNonAnswer : ∀ error ∈ last, error.isNonAnswer = true) :
    NoAnswer (attemptFrom operation op rest last).result ↔
      ∀ index ∈ rest, NoAnswer (op (gateway.endpoints.get index)) := by
  induction rest generalizing last with
  | nil =>
    have silent : NoAnswer (attemptFrom operation op
        ([] : List (Fin gateway.endpoints.length)) last).result := by
      cases last with
      | none => exact ⟨_, rfl, rfl⟩
      | some error => exact ⟨error, rfl, isNonAnswer error rfl⟩
    simp [silent]
  | cons index rest ih =>
    rw [List.forall_mem_cons, attemptFrom]
    cases op (gateway.endpoints.get index) with
    | ok value => simp [NoAnswer]
    | error error =>
      cases noAnswer : error.isNonAnswer with
      | false => simp [NoAnswer, noAnswer]
      | true =>
        have held : ∀ other ∈ some error, other.isNonAnswer = true := by
          intro other same
          cases same
          exact noAnswer
        have left := ih (some error) held
        have silent : NoAnswer (.error error : Except GatewayError α) := ⟨error, rfl, noAnswer⟩
        simpa [Called.after, noAnswer, silent] using left

/-- Any other call comes to no answer exactly when no endpoint answers it, however the endpoints are
ordered and wherever the call starts. -/
theorem noAnswer_attempt {G α : Type} (gateway : FailoverGateway G) (operation : String)
    (op : G → Except GatewayError α) :
    NoAnswer (gateway.attempt operation op).result ↔
      ∀ endpoint ∈ gateway.endpoints, NoAnswer (op endpoint) := by
  rw [attempt, noAnswer_attemptFrom operation op gateway.order none (by simp)]
  constructor
  · intro silent endpoint listed
    obtain ⟨index, rfl⟩ := List.get_of_mem listed
    exact silent index (mem_order index)
  · intro silent index _
    exact silent _ (List.get_mem _ _)

end FailoverGateway

end OpenEngine.Core
