import Mathlib.Data.List.Rotate
import OpenEngine.Redundancy
import OpenEngine.Core.Failover

/-!
# Who is asked after the current endpoint

Both loops of `gateway/failover.rs` are searches for an endpoint that answers, along the order that
starts at the current one. The order goes on behind the current endpoint and comes to the head of
the list last. So where the current endpoint is neither the first nor the last, what is asked next
is not the endpoint of highest priority.
-/

namespace OpenEngine.Core

open Redundancy

/-- What an answer to any call but a simulation does to the loop of `attempt`. -/
def attemptReply {α : Type} : Except GatewayError α → Reply
  | .ok _ => .value
  | .error error => if error.isNonAnswer then .silent else .verdict

/-- What an answer to a simulation does to the loop of `simulate_frame_transaction`: a refusal to
look counts as silence. -/
def simulationReply : Except GatewayError Simulation → Reply
  | .ok simulation => if simulation.outcome.isAnswer then .value else .silent
  | .error error => if error.isNonAnswer then .silent else .verdict

namespace FailoverGateway

variable {G α : Type} {gateway : FailoverGateway G}

/-- A call is a search along an order: it asks whom the search asks, returns what the endpoint that
answers said, and moves the index there if that is a value. -/
structure Called.Searched (call : Called gateway α) (kind : Except GatewayError α → Reply)
    (answer : Fin gateway.endpoints.length → Except GatewayError α)
    (order : List (Fin gateway.endpoints.length)) : Prop where
  asked : call.asked = Redundancy.asked (fun index => kind (answer index)) order
  result : ∀ index, answerer (fun index => kind (answer index)) order = some index →
    call.result = answer index
  moved : ∀ index, answerer (fun index => kind (answer index)) order = some index →
    call.current = if kind (answer index) = .value then (index : Nat) else gateway.current
  stays : answerer (fun index => kind (answer index)) order = none →
    call.current = gateway.current

/-- An endpoint that is silent is passed over. -/
theorem Called.Searched.after {call : Called gateway α} {kind : Except GatewayError α → Reply}
    {answer : Fin gateway.endpoints.length → Except GatewayError α}
    {rest : List (Fin gateway.endpoints.length)} (searched : call.Searched kind answer rest)
    {index : Fin gateway.endpoints.length} (silent : kind (answer index) = .silent) :
    (call.after index).Searched kind answer (index :: rest) := by
  have quiet : (kind (answer index)).isAnswer = false := by rw [silent]; rfl
  have next : answerer (fun index => kind (answer index)) (index :: rest) =
      answerer (fun index => kind (answer index)) rest :=
    List.find?_cons_of_neg (by simp [quiet])
  have asks := @asked_of_silent _ (fun index => kind (answer index)) index quiet rest
  refine ⟨?_, ?_, ?_, ?_⟩
  · rw [asks, ← searched.asked]
    rfl
  · rw [next]
    exact searched.result
  · rw [next]
    exact searched.moved
  · rw [next]
    exact searched.stays

/-- An endpoint that answers ends the search. -/
theorem Called.searched_of_answer {kind : Except GatewayError α → Reply}
    {answer : Fin gateway.endpoints.length → Except GatewayError α}
    {index : Fin gateway.endpoints.length} (answers : kind (answer index) ≠ .silent) {current : Nat}
    (moves : current = if kind (answer index) = .value then (index : Nat) else gateway.current)
    (rest : List (Fin gateway.endpoints.length)) :
    ({ result := answer index, current, asked := [index] } : Called gateway α).Searched kind answer
      (index :: rest) := by
  have loud : (kind (answer index)).isAnswer = true := by
    cases said : kind (answer index) with
    | silent => exact absurd said answers
    | verdict => rfl
    | value => rfl
  have here : answerer (fun index => kind (answer index)) (index :: rest) = some index :=
    List.find?_cons_of_pos loud
  have asks := @asked_of_answer _ (fun index => kind (answer index)) index loud rest
  refine ⟨asks.symm, ?_, ?_, ?_⟩
  · intro other found
    rw [here] at found
    cases found
    rfl
  · intro other found
    rw [here] at found
    cases found
    exact moves
  · intro nobody
    rw [here] at nobody
    cases nobody

/-- A search among no endpoints leaves the index where it is. -/
theorem Called.searched_nil (kind : Except GatewayError α → Reply)
    (answer : Fin gateway.endpoints.length → Except GatewayError α)
    (result : Except GatewayError α) :
    ({ result, current := gateway.current, asked := [] } : Called gateway α).Searched kind answer
      [] := by
  refine ⟨rfl, ?_, ?_, fun _ => rfl⟩
  · intro index found
    cases found
  · intro index found
    cases found

/-- The loop of `attempt` is a search. -/
theorem searched_attemptFrom (operation : String) (op : G → Except GatewayError α)
    (rest : List (Fin gateway.endpoints.length)) (last : Option GatewayError) :
    (attemptFrom operation op rest last).Searched attemptReply
      (fun index => op (gateway.endpoints.get index)) rest := by
  induction rest generalizing last with
  | nil => exact Called.searched_nil _ _ _
  | cons index rest ih =>
    have ended (current : Nat) (answers : attemptReply (op (gateway.endpoints.get index)) ≠ .silent)
        (moves : current = if attemptReply (op (gateway.endpoints.get index)) = .value
          then (index : Nat) else gateway.current) :=
      @Called.searched_of_answer G α gateway attemptReply
        (fun index => op (gateway.endpoints.get index)) index answers current moves rest
    have goesOn (error : GatewayError)
        (silent : attemptReply (op (gateway.endpoints.get index)) = .silent) :=
      (ih (some error)).after silent
    rw [attemptFrom]
    cases answer : op (gateway.endpoints.get index) with
    | ok value =>
      rw [answer] at ended
      exact ended index (by simp [attemptReply]) (by simp [attemptReply])
    | error error =>
      rw [answer] at ended goesOn
      cases noAnswer : error.isNonAnswer with
      | true =>
        simp only [noAnswer, if_true]
        exact goesOn error (by simp [attemptReply, noAnswer])
      | false =>
        simp only [noAnswer, Bool.false_eq_true, if_false]
        exact ended gateway.current (by simp [attemptReply, noAnswer])
          (by simp [attemptReply, noAnswer])

/-- The loop of `simulate_frame_transaction` is a search. -/
theorem searched_simulateFrom {gateway : FailoverGateway} (tx : FrameTransaction)
    (rest : List (Fin gateway.endpoints.length)) (declined : Option Simulation)
    (lastError : Option GatewayError) :
    (simulateFrom tx rest declined lastError).Searched simulationReply
      (fun index => (gateway.endpoints.get index).simulateFrameTransaction tx) rest := by
  induction rest generalizing declined lastError with
  | nil => cases declined <;> exact Called.searched_nil _ _ _
  | cons index rest ih =>
    have ended (current : Nat)
        (answers : simulationReply
          ((gateway.endpoints.get index).simulateFrameTransaction tx) ≠ .silent)
        (moves : current =
          if simulationReply ((gateway.endpoints.get index).simulateFrameTransaction tx) = .value
          then (index : Nat) else gateway.current) :=
      @Called.searched_of_answer ChainGateway Simulation gateway simulationReply
        (fun index => (gateway.endpoints.get index).simulateFrameTransaction tx) index answers
        current moves rest
    have goesOn (declined : Option Simulation) (lastError : Option GatewayError)
        (silent : simulationReply
          ((gateway.endpoints.get index).simulateFrameTransaction tx) = .silent) :=
      (ih declined lastError).after silent
    rw [simulateFrom]
    cases answer : (gateway.endpoints.get index).simulateFrameTransaction tx with
    | ok simulation =>
      rw [answer] at ended goesOn
      cases outcome : simulation.outcome with
      | declined reason =>
        simp only [outcome]
        exact goesOn (some simulation) lastError
          (by simp [simulationReply, outcome, PrefixOutcome.isAnswer])
      | passed =>
        simp only [outcome]
        exact ended index (by simp [simulationReply, outcome, PrefixOutcome.isAnswer])
          (by simp [simulationReply, outcome, PrefixOutcome.isAnswer])
      | violated violation =>
        simp only [outcome]
        exact ended index (by simp [simulationReply, outcome, PrefixOutcome.isAnswer])
          (by simp [simulationReply, outcome, PrefixOutcome.isAnswer])
    | error error =>
      rw [answer] at ended goesOn
      cases noAnswer : error.isNonAnswer with
      | true =>
        simp only [noAnswer, if_true]
        exact goesOn declined (some error) (by simp [simulationReply, noAnswer])
      | false =>
        simp only [noAnswer, Bool.false_eq_true, if_false]
        exact ended gateway.current (by simp [simulationReply, noAnswer])
          (by simp [simulationReply, noAnswer])

/-- The endpoint a call starts at. -/
def start (gateway : FailoverGateway G) : Fin gateway.endpoints.length :=
  ⟨gateway.current % gateway.endpoints.length, Nat.mod_lt _ gateway.nonempty⟩

/-- The endpoints other than the one a call starts at, highest priority first. -/
def remaining (gateway : FailoverGateway G) : List (Fin gateway.endpoints.length) :=
  (List.finRange gateway.endpoints.length).filter fun index => index ≠ gateway.start

/-- The priorities, split where a call starts. -/
theorem finRange_split (gateway : FailoverGateway G) :
    List.finRange gateway.endpoints.length =
      (List.finRange gateway.endpoints.length).take gateway.start ++
        gateway.start :: (List.finRange gateway.endpoints.length).drop (gateway.start + 1) := by
  have inList : (gateway.start : Nat) < (List.finRange gateway.endpoints.length).length := by
    rw [List.length_finRange]
    exact gateway.start.isLt
  have here : (List.finRange gateway.endpoints.length)[(gateway.start : Nat)] = gateway.start := by
    rw [List.getElem_finRange]
    rfl
  conv_lhs => rw [← List.take_append_drop gateway.start (List.finRange gateway.endpoints.length),
    List.drop_eq_getElem_cons inList, here]

/-- The order of a call: the start, the endpoints behind it, and then those before it. -/
theorem order_eq (gateway : FailoverGateway G) :
    gateway.order = gateway.start ::
      ((List.finRange gateway.endpoints.length).drop (gateway.start + 1) ++
        (List.finRange gateway.endpoints.length).take gateway.start) := by
  have rotated : gateway.order =
      (List.finRange gateway.endpoints.length).rotate gateway.start := by
    refine List.ext_getElem (by simp [order]) fun position _ _ => Fin.ext ?_
    simp [order, start, List.getElem_rotate, Nat.add_comm]
  have within : (gateway.start : Nat) ≤ (List.finRange gateway.endpoints.length).length := by
    rw [List.length_finRange]
    exact gateway.start.isLt.le
  have behind : (List.finRange gateway.endpoints.length).drop gateway.start =
      gateway.start :: (List.finRange gateway.endpoints.length).drop (gateway.start + 1) := by
    have split := congrArg (List.drop gateway.start) (finRange_split gateway)
    rwa [List.drop_left' (List.length_take_of_le within)] at split
  rw [rotated, List.rotate_eq_drop_append_take within, behind, List.cons_append]

/-- The other endpoints, highest priority first: those before the start and then those behind it. -/
theorem remaining_eq (gateway : FailoverGateway G) :
    gateway.remaining =
      (List.finRange gateway.endpoints.length).take gateway.start ++
        (List.finRange gateway.endpoints.length).drop (gateway.start + 1) := by
  have distinct := List.nodup_finRange gateway.endpoints.length
  rw [finRange_split gateway] at distinct
  obtain ⟨-, behind, apart⟩ := List.nodup_append.mp distinct
  rw [remaining]
  conv_lhs => rw [finRange_split gateway]
  rw [List.filter_append, List.filter_cons_of_neg (by simp), List.filter_eq_self.mpr,
    List.filter_eq_self.mpr]
  · intro index later
    rw [decide_eq_true_eq]
    rintro rfl
    exact (List.nodup_cons.mp behind).1 later
  · intro index earlier
    rw [decide_eq_true_eq]
    exact apart index earlier gateway.start List.mem_cons_self

/-- A call asks the endpoint it starts at and then the others by priority, and of those that answer
it is the one of highest priority that does. -/
structure Called.FromTop (call : Called gateway α) (kind : Except GatewayError α → Reply)
    (answer : Fin gateway.endpoints.length → Except GatewayError α) : Prop where
  byPriority : call.asked <+: gateway.start :: gateway.remaining
  answered : ∀ top, top ≠ gateway.start → (kind (answer top)).isAnswer = true →
    (∀ other, other ≠ gateway.start → (kind (answer other)).isAnswer = true → top ≤ other) →
      call.asked.getLast? = some top ∧ call.result = answer top

/-- A call whose first endpoint does not answer re-enters the list from the top. -/
def Called.ReentersFromTop (call : Called gateway α) (kind : Except GatewayError α → Reply)
    (answer : Fin gateway.endpoints.length → Except GatewayError α) : Prop :=
  (kind (answer gateway.start)).isAnswer = false → call.FromTop kind answer

/-- The current endpoint of a call answers, or is the first or the last of the list. -/
def EndsOrAnswers (gateway : FailoverGateway G) (kind : Except GatewayError α → Reply)
    (answer : Fin gateway.endpoints.length → Except GatewayError α) : Prop :=
  (kind (answer gateway.start)).isAnswer = true ∨ (gateway.start : Nat) = 0 ∨
    (gateway.start : Nat) + 1 = gateway.endpoints.length

/-- From the first or the last endpoint the order is that of the priorities. -/
theorem order_of_end (atEnd : (gateway.start : Nat) = 0 ∨
    (gateway.start : Nat) + 1 = gateway.endpoints.length) :
    gateway.order = gateway.start :: gateway.remaining := by
  rw [order_eq, remaining_eq]
  rcases atEnd with first | last
  · rw [first, List.take_zero, List.append_nil, List.nil_append]
  · rw [last, List.drop_of_length_le (by simp), List.nil_append, List.append_nil]

/-- A search along the order re-enters the list from the top exactly if the current endpoint answers
or is the first or the last. -/
theorem Called.Searched.reentersFromTop_iff {call : Called gateway α}
    {kind : Except GatewayError α → Reply}
    {answer : Fin gateway.endpoints.length → Except GatewayError α}
    (searched : call.Searched kind answer gateway.order) :
    call.ReentersFromTop kind answer ↔ gateway.EndsOrAnswers kind answer := by
  constructor
  · intro reenters
    by_contra wraps
    obtain ⟨silent, notFirst, notLast⟩ :
        (kind (answer gateway.start)).isAnswer = false ∧ (gateway.start : Nat) ≠ 0 ∧
          (gateway.start : Nat) + 1 ≠ gateway.endpoints.length := by
      simpa [EndsOrAnswers] using wraps
    have byPriority := (reenters silent).byPriority
    have asks := @asked_of_silent _ (fun index => kind (answer index)) gateway.start silent
      ((List.finRange gateway.endpoints.length).drop (gateway.start + 1) ++
        (List.finRange gateway.endpoints.length).take gateway.start)
    rw [searched.asked, order_eq, asks, List.prefix_cons_inj] at byPriority
    -- The endpoint behind the current one is asked next, and the first one is not.
    have below := gateway.start.isLt
    have next := @head?_asked _ (fun index => kind (answer index))
      ((List.finRange gateway.endpoints.length).drop (gateway.start + 1) ++
        (List.finRange gateway.endpoints.length).take gateway.start)
    rw [List.drop_eq_getElem_cons (by rw [List.length_finRange]; omega), List.cons_append,
      List.head?_cons] at next
    obtain ⟨rest, whole⟩ := byPriority
    have same := congrArg List.head? whole
    rw [List.head?_append, List.drop_eq_getElem_cons (by rw [List.length_finRange]; omega),
      List.cons_append, next, Option.some_or, remaining_eq,
      List.head?_append, List.head?_take, if_neg notFirst,
      List.head?_eq_getElem?, List.getElem?_eq_getElem (by rw [List.length_finRange]; omega),
      Option.some_or, Option.some.injEq, List.getElem_finRange, List.getElem_finRange] at same
    exact absurd (Fin.val_eq_of_eq same) (Nat.succ_ne_zero _)
  · rintro holds silent
    have order := order_of_end (holds.resolve_left (by simp [silent]))
    rw [order] at searched
    refine ⟨?_, ?_⟩
    · rw [searched.asked]
      exact asked_prefix _
    · intro top other answers highest
      have skips :
          answerer (fun index => kind (answer index)) (gateway.start :: gateway.remaining) =
          answerer (fun index => kind (answer index)) gateway.remaining :=
        List.find?_cons_of_neg (by simp [silent])
      have found : answerer (fun index => kind (answer index)) gateway.remaining = some top := by
        refine answerer_of_least ?_ ?_ answers ?_
        · exact (List.pairwise_lt_finRange _).filter _
        · exact List.mem_filter.mpr ⟨List.mem_finRange top, by simp [other]⟩
        · intro another listed replied
          have elsewhere : another ≠ gateway.start := by
            simpa using (List.mem_filter.mp listed).2
          exact (highest another elsewhere replied).not_gt
      rw [searched.asked]
      exact ⟨getLast?_asked (skips.trans found), searched.result top (skips.trans found)⟩

/-- A call whose current endpoint does not answer asks the others by priority, and is answered by
the highest of them that answers, exactly if the current endpoint is the first or the last of the
list. This is so of every call, simulations included. -/
theorem reenters_from_top_iff (gateway : FailoverGateway G) (operation : String)
    (op : G → Except GatewayError α) (nodes : FailoverGateway) (tx : FrameTransaction) :
    ((gateway.attempt operation op).ReentersFromTop attemptReply
        (fun index => op (gateway.endpoints.get index)) ↔
      gateway.EndsOrAnswers attemptReply (fun index => op (gateway.endpoints.get index))) ∧
    ((nodes.simulateFrameTransaction tx).ReentersFromTop simulationReply
        (fun index => (nodes.endpoints.get index).simulateFrameTransaction tx) ↔
      nodes.EndsOrAnswers simulationReply
        (fun index => (nodes.endpoints.get index).simulateFrameTransaction tx)) :=
  ⟨(searched_attemptFrom operation op gateway.order none).reentersFromTop_iff,
    (searched_simulateFrom tx nodes.order none none).reentersFromTop_iff⟩

/-- Three endpoints at sequence 10, of which the second answered last and is down since. -/
def secondDown : FailoverGateway (Option UInt64) where
  endpoints := [some 10, none, some 10]
  current := 1
  nonempty := by decide

/-- What an endpoint that is up reads. -/
def readSequence : Option UInt64 → Except GatewayError UInt64
  | some sequence => .ok sequence
  | none => .error (.transport "connection refused")

/-- When the second of three endpoints does not answer, the third is asked and not the first. -/
theorem secondDown_skips_first :
    ¬ (secondDown.attempt "get_keyed_nonce_seq" readSequence).ReentersFromTop attemptReply
      (fun index => readSequence (secondDown.endpoints.get index)) := by
  intro reenters
  have first := ((reenters (by decide)).answered ⟨0, by decide⟩ (by decide) (by decide)
    (fun other _ _ => Nat.zero_le other)).1
  exact absurd first (by decide)

end FailoverGateway

end OpenEngine.Core
