import OpenEngine.Transition
import OpenEngine.Core.FailoverOrder

/-!
# Where the next call starts

Runs of calls on one `FailoverGateway`. The index is meant to name the endpoint that answered last,
so that a sequence of calls stays on one node. Both loops store it when they return a value; when
they return a node's verdict as an error they do not. The index then lags behind, unless the verdict
comes from the endpoint the call starts at.
-/

namespace OpenEngine.Core

open Redundancy

/-- `ChainGateway` with all its methods. -/
structure Node extends ChainGateway where
  getTransactionCount : Address → Except GatewayError UInt64
  sendRawTransaction : Bytes → Except GatewayError B256

/-- A call of a `ChainGateway`. -/
inductive NodeCall where
  | getTransactionCount (address : Address)
  | getKeyedNonceSeq (sender : Address) (nonceKey : U256)
  | simulateFrameTransaction (tx : FrameTransaction)
  | sendRawTransaction (bytes : Bytes)

/-- What the answer of a node to a call does to the search for an answer. -/
def Node.reply (node : Node) : NodeCall → Reply
  | .getTransactionCount address => attemptReply (node.getTransactionCount address)
  | .getKeyedNonceSeq sender nonceKey => attemptReply (node.getKeyedNonceSeq sender nonceKey)
  | .simulateFrameTransaction tx => simulationReply (node.simulateFrameTransaction tx)
  | .sendRawTransaction bytes => attemptReply (node.sendRawTransaction bytes)

/-- A call at some time: what the nodes behind the endpoints answer then, and what is asked. -/
structure TimedCall (G : Type) where
  nodes : G → Node
  call : NodeCall

namespace FailoverGateway

variable {G : Type}

/-- The gateway over the nodes behind its endpoints. -/
def overNodes (gateway : FailoverGateway G) (nodes : G → Node) : FailoverGateway where
  endpoints := gateway.endpoints.map fun endpoint => (nodes endpoint).toChainGateway
  current := gateway.current
  nonempty := by
    rw [List.length_map]
    exact gateway.nonempty

/-- There are as many nodes as endpoints. -/
theorem length_overNodes (gateway : FailoverGateway G) (nodes : G → Node) :
    (gateway.overNodes nodes).endpoints.length = gateway.endpoints.length := by
  rw [overNodes, List.length_map]

/-- The index a call leaves, and the endpoints it asks. -/
def called (gateway : FailoverGateway G) (timed : TimedCall G) :
    Nat × List (Fin gateway.endpoints.length) :=
  match timed.call with
  | .getTransactionCount address =>
    let attempted := gateway.attempt "get_transaction_count" fun endpoint =>
      (timed.nodes endpoint).getTransactionCount address
    (attempted.current, attempted.asked)
  | .getKeyedNonceSeq sender nonceKey =>
    let attempted := gateway.attempt "get_keyed_nonce_seq" fun endpoint =>
      (timed.nodes endpoint).getKeyedNonceSeq sender nonceKey
    (attempted.current, attempted.asked)
  | .simulateFrameTransaction tx =>
    let simulated := (gateway.overNodes timed.nodes).simulateFrameTransaction tx
    (simulated.current, simulated.asked.map (Fin.cast (gateway.length_overNodes timed.nodes)))
  | .sendRawTransaction bytes =>
    let attempted := gateway.attempt "send_raw_transaction" fun endpoint =>
      (timed.nodes endpoint).sendRawTransaction bytes
    (attempted.current, attempted.asked)

/-- What the endpoints' answers to a call do to its search. -/
def replies (gateway : FailoverGateway G) (timed : TimedCall G)
    (index : Fin gateway.endpoints.length) : Reply :=
  (timed.nodes (gateway.endpoints.get index)).reply timed.call

/-- The endpoint that answered a call: of those asked, the one with an answer. -/
def answeredBy (gateway : FailoverGateway G) (timed : TimedCall G) :
    Option (Fin gateway.endpoints.length) :=
  (gateway.called timed).2.find? fun index => (gateway.replies timed index).isAnswer

/-- The first endpoint to answer a call, from where it starts, answers with a value or is the one it
starts at. -/
def VerdictAtStart (gateway : FailoverGateway G) (timed : TimedCall G) : Prop :=
  ∀ index, gateway.order.find? (fun index => (gateway.replies timed index).isAnswer) = some index →
    gateway.replies timed index = .verdict → index = gateway.start

end FailoverGateway

/-- A gateway, and the index of the endpoint that gave the most recent answer. -/
structure Followed (G : Type) where
  gateway : FailoverGateway G
  answered : Nat

namespace Followed

variable {G : Type}

/-- A new gateway, of which no endpoint has answered. -/
def fresh (gateway : FailoverGateway G) : Followed G where
  gateway := gateway
  answered := 0

/-- A call is made. -/
def step (followed : Followed G) (timed : TimedCall G) : Followed G where
  gateway := { followed.gateway with current := (followed.gateway.called timed).1 }
  answered := match followed.gateway.answeredBy timed with
    | some index => index
    | none => followed.answered

/-- The next call starts at the endpoint that gave the most recent answer. -/
def StartsAtAnswered (followed : Followed G) : Prop :=
  (followed.gateway.start : Nat) = followed.answered

end Followed

namespace FailoverGateway

variable {G : Type} (gateway : FailoverGateway G)

/-- The nodes come up in the order of their endpoints. -/
theorem order_overNodes (nodes : G → Node) :
    (gateway.overNodes nodes).order.map (Fin.cast (gateway.length_overNodes nodes)) =
      gateway.order := by
  simp only [order, List.map_map, length_overNodes]
  exact List.map_congr_left fun offset _ => Fin.ext rfl

/-- The node behind an endpoint. -/
theorem get_overNodes (nodes : G → Node)
    (index : Fin (gateway.overNodes nodes).endpoints.length) :
    (gateway.overNodes nodes).endpoints.get index =
      (nodes (gateway.endpoints.get
        (Fin.cast (gateway.length_overNodes nodes) index))).toChainGateway :=
  List.getElem_map _

/-- What a call does is what the search does: it asks the same endpoints, and the index moves to the
one that answers if it answers with a value. -/
theorem called_spec (timed : TimedCall G) :
    (gateway.called timed).2 = asked (gateway.replies timed) gateway.order ∧
    (∀ index, answerer (gateway.replies timed) gateway.order = some index →
      (gateway.called timed).1 =
        if gateway.replies timed index = .value then (index : Nat) else gateway.current) ∧
    (answerer (gateway.replies timed) gateway.order = none →
      (gateway.called timed).1 = gateway.current) := by
  obtain ⟨nodes, call⟩ := timed
  cases call with
  | getTransactionCount address =>
    have searched := searched_attemptFrom "get_transaction_count"
      (fun endpoint => (nodes endpoint).getTransactionCount address) gateway.order none
    exact ⟨searched.asked, searched.moved, searched.stays⟩
  | getKeyedNonceSeq sender nonceKey =>
    have searched := searched_attemptFrom "get_keyed_nonce_seq"
      (fun endpoint => (nodes endpoint).getKeyedNonceSeq sender nonceKey) gateway.order none
    exact ⟨searched.asked, searched.moved, searched.stays⟩
  | sendRawTransaction bytes =>
    have searched := searched_attemptFrom "send_raw_transaction"
      (fun endpoint => (nodes endpoint).sendRawTransaction bytes) gateway.order none
    exact ⟨searched.asked, searched.moved, searched.stays⟩
  | simulateFrameTransaction tx =>
    have searched := searched_simulateFrom tx (gateway.overNodes nodes).order none none
    -- The nodes are the endpoints under another name.
    have same : (fun index => simulationReply
        (((gateway.overNodes nodes).endpoints.get index).simulateFrameTransaction tx)) =
        fun index => gateway.replies ⟨nodes, .simulateFrameTransaction tx⟩
          (Fin.cast (gateway.length_overNodes nodes) index) := by
      funext index
      rw [get_overNodes]
      rfl
    rw [← order_overNodes gateway nodes, asked_map, answerer_map]
    have asks := searched.asked
    have moved := searched.moved
    have stays := searched.stays
    rw [same] at asks moved stays
    refine ⟨?_, ?_, ?_⟩
    · exact congrArg (List.map (Fin.cast (gateway.length_overNodes nodes))) asks
    · intro index found
      obtain ⟨node, answers, rfl⟩ := Option.map_eq_some_iff.mp found
      have kind := congrFun same node
      exact (moved node answers).trans (by rw [kind]; rfl)
    · intro nobody
      exact stays (Option.map_eq_none_iff.mp nobody)

/-- The endpoint that answered a call is the first in its order to answer. -/
theorem answeredBy_eq (timed : TimedCall G) :
    gateway.answeredBy timed = answerer (gateway.replies timed) gateway.order := by
  rw [answeredBy, (gateway.called_spec timed).1]
  exact answerer_asked gateway.order

/-- An index in the list is where the next call starts. -/
theorem start_of_current (index : Fin gateway.endpoints.length) :
    ({ gateway with current := index } : FailoverGateway G).start = index :=
  Fin.ext (Nat.mod_eq_of_lt index.isLt)

end FailoverGateway

namespace Followed

variable {G : Type}

/-- After a call the next one starts at the endpoint that gave the most recent answer, if it did
before, exactly if a verdict came from where the call started. -/
theorem startsAtAnswered_step (followed : Followed G) (timed : TimedCall G)
    (starts : followed.StartsAtAnswered) :
    (followed.step timed).StartsAtAnswered ↔ followed.gateway.VerdictAtStart timed := by
  obtain ⟨-, moved, stays⟩ := followed.gateway.called_spec timed
  have by' := followed.gateway.answeredBy_eq timed
  unfold StartsAtAnswered step FailoverGateway.VerdictAtStart
  dsimp only
  cases found : answerer (followed.gateway.replies timed) followed.gateway.order with
  | none =>
    rw [by', found, stays found]
    refine iff_of_true starts fun index first => ?_
    rw [answerer] at found
    rw [found] at first
    cases first
  | some index =>
    rw [by', found, moved index found]
    rw [answerer] at found
    rw [found]
    by_cases value : followed.gateway.replies timed index = .value
    · rw [if_pos value, FailoverGateway.start_of_current]
      refine iff_of_true rfl fun other same verdict => ?_
      rw [← Option.some.inj same, value] at verdict
      cases verdict
    · have verdict : followed.gateway.replies timed index = .verdict := by
        have answers := List.find?_some found
        cases said : followed.gateway.replies timed index with
        | silent => rw [said] at answers; cases answers
        | verdict => rfl
        | value => exact absurd said value
      rw [if_neg value]
      constructor
      · rintro same other here -
        cases here
        exact Fin.ext same.symm
      · intro atStart
        exact congrArg Fin.val (atStart index rfl verdict).symm

/-- In a run of calls on a new gateway the next call always starts at the endpoint that gave the
most recent answer, exactly if every verdict came from where its call started. -/
theorem sticky_iff {endpoints : List G} {gateway : FailoverGateway G}
    (created : FailoverGateway.new endpoints = .ok gateway) (calls : List (TimedCall G)) :
    (∀ first, first <+: calls →
      (Transition.run step (fresh gateway) first).StartsAtAnswered) ↔
      Transition.Along step (fun followed timed => followed.gateway.VerdictAtStart timed)
        (fresh gateway) calls := by
  have initial : (fresh gateway).StartsAtAnswered := by
    unfold FailoverGateway.new at created
    split at created
    · cases created
      exact Nat.zero_mod _
    · cases created
  exact (Transition.along_iff_prefixes StartsAtAnswered startsAtAnswered_step (fresh gateway) calls
    initial).symm

end Followed

/-- A node that cannot be reached. -/
def downNode : Node where
  getTransactionCount _ := .error (.transport "connection refused")
  getKeyedNonceSeq _ _ := .error (.transport "connection refused")
  simulateFrameTransaction _ := .error (.transport "connection refused")
  sendRawTransaction _ := .error (.transport "connection refused")

/-- A node that reads sequences and refuses every transaction. -/
def refusingNode : Node where
  getTransactionCount _ := .ok 7
  getKeyedNonceSeq _ _ := .ok 7
  simulateFrameTransaction _ := .ok ⟨.violated "nonce too low", none⟩
  sendRawTransaction _ := .error (.rpcError "nonce too low")

/-- A gateway over an unreachable node and one that refuses every transaction. -/
def downThenRefusing : FailoverGateway Node where
  endpoints := [downNode, refusingNode]
  current := 0
  nonempty := by decide

/-- A nonce read, and a send after it. -/
def readThenSend : List (TimedCall Node) :=
  [⟨id, .getKeyedNonceSeq ⟨List.replicate 20 0x44, rfl⟩ 0⟩, ⟨id, .sendRawTransaction [0x06]⟩]

namespace Followed

/-- Once the second node has read a sequence, its refusal is from where the call starts. -/
theorem sticky_afterRead :
    (∀ first, first <+: readThenSend →
      (Transition.run step (fresh downThenRefusing) first).StartsAtAnswered) ∧
      Transition.Along step (fun followed timed => followed.gateway.VerdictAtStart timed)
        (fresh downThenRefusing) readThenSend := by
  have created : FailoverGateway.new [downNode, refusingNode] = .ok downThenRefusing := rfl
  have along : Transition.Along step
      (fun followed timed => followed.gateway.VerdictAtStart timed) (fresh downThenRefusing)
      readThenSend := by
    refine ⟨?_, ?_, trivial⟩
    · intro index first verdict
      cases first
      cases verdict
    · intro index first _
      cases first
      rfl
  exact ⟨(sticky_iff created readThenSend).mpr along, along⟩

/-- A refusal that comes from the second node leaves the next call at the first. -/
theorem refusal_not_followed :
    ¬ (Transition.run step (fresh downThenRefusing)
      [⟨id, .sendRawTransaction [0x06]⟩]).StartsAtAnswered :=
  Nat.zero_ne_one

end Followed

end OpenEngine.Core
