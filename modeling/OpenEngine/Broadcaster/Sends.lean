import OpenEngine.Broadcaster.Worker

/-!
# What `process` sends

`process` sends at most once, and what it sends is the encoding of its job's transaction. The hash
it reports is the one the node returned for those bytes, and a transaction it drops as superseded
was not sent.
-/

namespace OpenEngine.Broadcaster

open OpenEngine.Core Queue

variable {ι : Type} {alloy : Alloy} {gateway : BroadcastGateway}
  {job : BorrowedJob ι FrameTransaction}

/-- The bytes `process` sends to the node, if it comes to that. -/
def sentBytes (alloy : Alloy) (gateway : BroadcastGateway) (job : BorrowedJob ι FrameTransaction) :
    Option Bytes :=
  match alloy.parseAddress job.job.data.sender, job.job.data.nonceSeq with
  | some sender, some seq =>
    match resolveSeqState gateway.toChainGateway sender job.job.data seq,
      job.job.data.validateWireFormat alloy with
    | .ok .executable, .ok _ => some (job.job.data.encodeTransaction alloy)
    | _, _ => none
  | _, _ => none

/-- Two gateways that answer alike but for sends that `process` does not make are the same to it. -/
theorem process_of_sentBytes (other : BroadcastGateway)
    (alike : other.toChainGateway = gateway.toChainGateway)
    (answers : ∀ bytes, sentBytes alloy gateway job = some bytes →
      other.sendRawTransaction bytes = gateway.sendRawTransaction bytes) (now : Nat) :
    process alloy other now job = process alloy gateway now job := by
  unfold process
  unfold sentBytes at answers
  rw [alike]
  cases named : alloy.parseAddress job.job.data.sender with
  | none => rfl
  | some sender =>
    cases numbered : job.job.data.nonceSeq with
    | none => rfl
    | some seq =>
      simp only [named, numbered] at answers
      dsimp only
      cases resolved : resolveSeqState gateway.toChainGateway sender job.job.data seq with
      | error e => rfl
      | ok state =>
        cases state with
        | superseded => rfl
        | future => rfl
        | executable =>
          simp only [resolved] at answers
          unfold broadcast
          dsimp only
          cases valid : job.job.data.validateWireFormat alloy with
          | error e => rfl
          | ok checked =>
            simp only [valid] at answers
            have same := answers _ rfl
            dsimp only
            rw [same, alike]

/-- An executable transaction that encodes faithfully is sent. -/
theorem sentBytes_of_executable {sender : Address} {seq : UInt64}
    (named : alloy.parseAddress job.job.data.sender = some sender)
    (numbered : job.job.data.nonceSeq = some seq)
    (resolved : resolveSeqState gateway.toChainGateway sender job.job.data seq = .ok .executable)
    (valid : job.job.data.validateWireFormat alloy = .ok ()) :
    sentBytes alloy gateway job = some (job.job.data.encodeTransaction alloy) := by
  simp [sentBytes, named, numbered, resolved, valid]

/-- What is sent is the encoding of a transaction that encodes faithfully. -/
theorem valid_of_sentBytes {bytes : Bytes} (sends : sentBytes alloy gateway job = some bytes) :
    job.job.data.validateWireFormat alloy = .ok () ∧
      bytes = job.job.data.encodeTransaction alloy := by
  unfold sentBytes at sends
  split at sends
  · split at sends
    · next valid => exact ⟨valid, (Option.some.inj sends).symm⟩
    · cases sends
  · cases sends

/-- A broadcast succeeds with the hash of the node's reply. -/
theorem broadcast_eq_ok {outcome : BroadcastOutcome}
    (succeeds : broadcast alloy gateway job = .ok outcome) :
    job.job.data.validateWireFormat alloy = .ok () ∧
      ∃ reply, gateway.sendRawTransaction (job.job.data.encodeTransaction alloy) = .ok reply ∧
        outcome = .broadcast ("0x" ++ alloy.hexEncode reply.val) := by
  unfold broadcast at succeeds
  dsimp only at succeeds
  split at succeeds
  · cases succeeds
  · next valid =>
    split at succeeds
    · next reply sent => exact ⟨valid, reply, sent, (Except.ok.inj succeeds).symm⟩
    · split at succeeds
      · split at succeeds <;> cases succeeds
      · cases succeeds

/-- `process` succeeds in two ways: the transaction is superseded, or its broadcast succeeds. -/
theorem process_eq_ok {now : Nat} {outcome : BroadcastOutcome}
    (succeeds : process alloy gateway now job = .ok outcome) :
    ∃ sender seq, alloy.parseAddress job.job.data.sender = some sender ∧
      job.job.data.nonceSeq = some seq ∧
      (resolveSeqState gateway.toChainGateway sender job.job.data seq = .ok .superseded ∧
          outcome = .superseded seq ∨
        resolveSeqState gateway.toChainGateway sender job.job.data seq = .ok .executable ∧
          broadcast alloy gateway job = .ok outcome) := by
  unfold process at succeeds
  cases named : alloy.parseAddress job.job.data.sender with
  | none => simp [named] at succeeds
  | some sender =>
    cases numbered : job.job.data.nonceSeq with
    | none => simp [named, numbered] at succeeds
    | some seq =>
      simp only [named, numbered] at succeeds
      refine ⟨sender, seq, rfl, rfl, ?_⟩
      cases resolved : resolveSeqState gateway.toChainGateway sender job.job.data seq with
      | error e => simp [resolved] at succeeds
      | ok state =>
        simp only [resolved] at succeeds
        cases state with
        | superseded => exact .inl ⟨rfl, (Except.ok.inj succeeds).symm⟩
        | executable => exact .inr ⟨rfl, succeeds⟩
        | future =>
          simp only [holdFuture] at succeeds
          split at succeeds <;> cases succeeds

/-- The hash reported is the one the node returned for the bytes sent. -/
theorem sent_of_broadcast {now : Nat} {hash : String}
    (succeeds : process alloy gateway now job = .ok (.broadcast hash)) :
    ∃ bytes reply, sentBytes alloy gateway job = some bytes ∧
      gateway.sendRawTransaction bytes = .ok reply ∧
      hash = "0x" ++ alloy.hexEncode reply.val := by
  obtain ⟨sender, seq, named, numbered, ends⟩ := process_eq_ok succeeds
  cases ends with
  | inl superseded => cases superseded.2
  | inr broadcasts =>
    obtain ⟨resolved, succeeds⟩ := broadcasts
    obtain ⟨valid, reply, sent, same⟩ := broadcast_eq_ok succeeds
    have sends := sentBytes_of_executable named numbered resolved valid
    exact ⟨_, reply, sends, sent, BroadcastOutcome.broadcast.inj same⟩

/-- The nonce loop reports a sequence as superseded once a key is past it. -/
theorem passed_of_resolveKeys {chain : ChainGateway} {sender : Address} {seq : UInt64}
    {superseded allReady : Bool} {keys : List U256}
    (resolved : resolveKeys chain sender seq superseded allReady keys = .ok .superseded) :
    superseded = true ∨ ∃ key ∈ keys, ∃ current,
      chain.getKeyedNonceSeq sender key = .ok current ∧ seq < current := by
  induction keys generalizing superseded allReady with
  | nil =>
    cases superseded with
    | true => exact .inl rfl
    | false =>
      unfold resolveKeys at resolved
      split at resolved
      · contradiction
      · split at resolved <;> cases resolved
  | cons key rest ih =>
    unfold resolveKeys at resolved
    cases answer : chain.getKeyedNonceSeq sender key with
    | error e => simp [answer] at resolved
    | ok current =>
      simp only [answer] at resolved
      cases ih resolved with
      | inl flagged =>
        cases superseded with
        | true => exact .inl rfl
        | false =>
          have past : seq < current := by simpa using flagged
          exact .inr ⟨key, List.mem_cons_self, current, answer, past⟩
      | inr later =>
        obtain ⟨other, member, found⟩ := later
        exact .inr ⟨other, List.mem_cons_of_mem _ member, found⟩

/-- A superseded transaction was not sent, and a key was read past its sequence. -/
theorem unsent_of_superseded {now : Nat} {stated : UInt64}
    (succeeds : process alloy gateway now job = .ok (.superseded stated)) :
    sentBytes alloy gateway job = none ∧ job.job.data.nonceSeq = some stated ∧
      ∃ sender, alloy.parseAddress job.job.data.sender = some sender ∧
        ∃ key ∈ job.job.data.effectiveNonceKeys, ∃ current,
          gateway.getKeyedNonceSeq sender key = .ok current ∧ stated < current := by
  obtain ⟨sender, seq, named, numbered, ends⟩ := process_eq_ok succeeds
  cases ends with
  | inl superseded =>
    obtain ⟨resolved, outcome⟩ := superseded
    have same : stated = seq := BroadcastOutcome.superseded.inj outcome
    subst same
    have unsent : sentBytes alloy gateway job = none := by
      simp [sentBytes, named, numbered, resolved]
    have passed := (passed_of_resolveKeys resolved).resolve_left Bool.false_ne_true
    exact ⟨unsent, numbered, sender, named, passed⟩
  | inr broadcasts =>
    obtain ⟨-, reply, -, same⟩ := broadcast_eq_ok broadcasts.2
    cases same

end OpenEngine.Broadcaster
