import OpenEngine.Broadcaster.Worker
import OpenEngine.Compiler.Reports

/-!
# The nonce, judged twice

The compiler and the broadcaster compare the transaction's sequence with the current sequence of
every key. One loop ends at the first key that is ahead, the other keeps two flags over all keys.
Both find the same state of the sequence among the keys.
-/

namespace OpenEngine.Broadcaster

open OpenEngine.Core Compiler

/-- Where a sequence stands among the current sequences of its keys. -/
def SeqState.among (seq : UInt64) (currents : List UInt64) : SeqState :=
  if currents.any (seq < ·) then .superseded
  else if currents.all (seq = ·) then .executable
  else .future

/-- What `simulate` says of a transaction whose sequence a key has passed. -/
def behindText (seq : UInt64) (key : U256) (current : UInt64) : String :=
  let number := key.toNat
  let stated := seq.toNat
  let reached := current.toNat
  s!"nonce_seq {stated} is already behind key {number} " ++
    s!"(current sequence {reached}); the transaction can never become executable"

variable {σ : Type}

/-- The compiler rejects the transaction because a key is ahead of it, and asks for no simulation.
-/
def RejectsAsBehind (compiler : FrameCompiler σ) (sequences : U256 → UInt64) (seq : UInt64)
    (tx : FrameTransaction) : Prop :=
  ∃ key ∈ tx.effectiveNonceKeys, seq < sequences key ∧
    ∀ report, (compiler.reporting report).simulate tx =
      .error (.simulation (behindText seq key (sequences key)))

/-- The compiler leaves the transaction to the broadcast, and asks for no simulation. -/
def DefersToBroadcast (compiler : FrameCompiler σ) (tx : FrameTransaction) : Prop :=
  ∀ report, (compiler.reporting report).simulate tx = .ok ()

/-- The compiler judges the transaction by a simulation. -/
def GoesOnToSimulate (compiler : FrameCompiler σ) (tx : FrameTransaction) : Prop :=
  ∀ report, (compiler.reporting report).simulate tx = FrameCompiler.judgeReport report

/-- The broadcaster's loop, with what its flags hold, finds where the sequence stands. -/
theorem resolveKeys_eq {gateway : ChainGateway} {sender : Address} {sequences : U256 → UInt64}
    (seq : UInt64) (superseded allReady : Bool) {keys : List U256}
    (reads : ∀ key ∈ keys, gateway.getKeyedNonceSeq sender key = .ok (sequences key)) :
    resolveKeys gateway sender seq superseded allReady keys =
      .ok (if superseded || (keys.map sequences).any (seq < ·) then .superseded
        else if allReady && (keys.map sequences).all (seq = ·) then .executable
        else .future) := by
  induction keys generalizing superseded allReady with
  | nil => cases superseded <;> cases allReady <;> simp [resolveKeys]
  | cons key rest ih =>
    rw [resolveKeys, reads key List.mem_cons_self]
    dsimp only
    rw [ih _ _ fun other member => reads other (List.mem_cons_of_mem _ member)]
    simp only [List.map_cons, List.any_cons, List.all_cons, Bool.or_assoc, Bool.and_assoc]

/-- `resolve_seq_state` finds where the sequence stands. -/
theorem resolveSeqState_eq {gateway : ChainGateway} {sender : Address}
    {sequences : U256 → UInt64} {tx : FrameTransaction} (seq : UInt64)
    (reads : ∀ key ∈ tx.effectiveNonceKeys,
      gateway.getKeyedNonceSeq sender key = .ok (sequences key)) :
    resolveSeqState gateway sender tx seq =
      .ok (SeqState.among seq (tx.effectiveNonceKeys.map sequences)) := by
  rw [resolveSeqState, resolveKeys_eq seq false true reads]
  simp [SeqState.among]

/-- The compiler's loop ends at a key that is ahead, if there is one, and else says whether one has
not reached the sequence. -/
theorem readNonces_eq {compiler : FrameCompiler σ} {sender : Address}
    {sequences : U256 → UInt64} (seq : UInt64) {keys : List U256}
    (reads : ∀ key ∈ keys, compiler.gateway.getKeyedNonceSeq sender key = .ok (sequences key)) :
    (∃ key ∈ keys, seq < sequences key ∧ compiler.readNonces sender seq keys =
      .error (.simulation (behindText seq key (sequences key)))) ∨
    (∀ key ∈ keys, ¬ seq < sequences key) ∧
      ∃ future, compiler.readNonces sender seq keys = .ok future ∧
        (future = true ↔ ∃ key ∈ keys, sequences key < seq) := by
  induction keys with
  | nil => exact .inr ⟨by simp, false, rfl, by simp⟩
  | cons key rest ih =>
    have answer := reads key List.mem_cons_self
    have later := ih fun other member => reads other (List.mem_cons_of_mem _ member)
    by_cases ahead : seq < sequences key
    · refine .inl ⟨key, List.mem_cons_self, ahead, ?_⟩
      rw [FrameCompiler.readNonces, answer]
      simp only [Except.mapError, Check.refuseIf, bind, Except.bind, if_pos ahead]
      rfl
    · rw [FrameCompiler.readNonces_cons rest answer ahead]
      obtain ⟨other, member, passed, ends⟩ | ⟨none, future, ends, waits⟩ := later
      · exact .inl ⟨other, List.mem_cons_of_mem _ member, passed, by rw [ends]; rfl⟩
      · refine .inr ⟨List.forall_mem_cons.mpr ⟨ahead, none⟩, future || sequences key < seq, ?_, ?_⟩
        · rw [ends]
          rfl
        · rw [Bool.or_eq_true, decide_eq_true_eq, waits, List.exists_mem_cons_iff, or_comm]

/-- What the compiler does with a transaction in each state of its sequence. -/
def Judges (compiler : FrameCompiler σ) (sequences : U256 → UInt64) (seq : UInt64)
    (tx : FrameTransaction) : SeqState → Prop
  | .superseded => RejectsAsBehind compiler sequences seq tx
  | .future => DefersToBroadcast compiler tx
  | .executable => GoesOnToSimulate compiler tx

/-- The compiler does what the state of the sequence asks for. -/
theorem judges_among {compiler : FrameCompiler σ} {sender : Address} {sequences : U256 → UInt64}
    {seq : UInt64} {tx : FrameTransaction} (numbered : tx.nonceSeq = some seq)
    (named : compiler.alloy.parseAddress tx.sender = some sender)
    (reads : ∀ key ∈ tx.effectiveNonceKeys,
      compiler.gateway.getKeyedNonceSeq sender key = .ok (sequences key)) :
    Judges compiler sequences seq tx
      (SeqState.among seq (tx.effectiveNonceKeys.map sequences)) := by
  have simulates := FrameCompiler.simulate_reporting_of_readNonces numbered named
  obtain ⟨key, member, passed, ends⟩ | ⟨nonePassed, future, ends, waits⟩ := readNonces_eq seq reads
  · have behind : (tx.effectiveNonceKeys.map sequences).any (seq < ·) = true :=
      List.any_eq_true.mpr ⟨sequences key, List.mem_map_of_mem member, decide_eq_true passed⟩
    rw [SeqState.among, if_pos behind]
    exact ⟨key, member, passed, fun report => by rw [simulates, ends]⟩
  · have notBehind : ¬(tx.effectiveNonceKeys.map sequences).any (seq < ·) = true := by
      simpa using nonePassed
    rw [SeqState.among, if_neg notBehind]
    by_cases ready : (tx.effectiveNonceKeys.map sequences).all (seq = ·)
    · have reached : future = false := by
        rw [Bool.eq_false_iff, Ne, waits]
        rintro ⟨key, member, short⟩
        have same := List.all_eq_true.mp ready (sequences key) (List.mem_map_of_mem member)
        rw [of_decide_eq_true same] at short
        exact UInt64.lt_irrefl _ short
      rw [if_pos ready]
      intro report
      rw [simulates, ends, reached]
    · have short : future = true := by
        rw [waits]
        obtain ⟨key, member, differs⟩ : ∃ key ∈ tx.effectiveNonceKeys, seq ≠ sequences key := by
          simpa using ready
        exact ⟨key, member,
          UInt64.lt_of_le_of_ne (UInt64.not_lt.mp (nonePassed key member)) (Ne.symm differs)⟩
      rw [if_neg ready]
      intro report
      rw [simulates, ends, short]

/-- The compiler does one of the three things only. -/
theorem judges_unique {compiler : FrameCompiler σ} {sequences : U256 → UInt64} {seq : UInt64}
    {tx : FrameTransaction} {one other : SeqState} (first : Judges compiler sequences seq tx one)
    (second : Judges compiler sequences seq tx other) : one = other := by
  have rejects (behind : RejectsAsBehind compiler sequences seq tx)
      (passes : (compiler.reporting (.ok ⟨.passed, none⟩)).simulate tx = .ok ()) : False := by
    obtain ⟨_, _, _, refused⟩ := behind
    rw [refused] at passes
    cases passes
  have simulates (goesOn : GoesOnToSimulate compiler tx)
      (deferred : DefersToBroadcast compiler tx) : False := by
    have refused := goesOn (.error (.rpcError ""))
    rw [deferred] at refused
    cases refused
  cases one with
  | executable =>
    cases other with
    | executable => rfl
    | future => exact (simulates first second).elim
    | superseded => exact (rejects second (first _)).elim
  | future =>
    cases other with
    | executable => exact (simulates second first).elim
    | future => rfl
    | superseded => exact (rejects second (first _)).elim
  | superseded =>
    cases other with
    | executable => exact (rejects first (second _)).elim
    | future => exact (rejects first (second _)).elim
    | superseded => rfl

/-- Over the same sequences the compiler rejects a transaction as behind exactly if the broadcaster
drops it as superseded, defers it exactly if the broadcaster holds it, and goes on to simulate
exactly if the broadcaster would send it. -/
theorem nonce_judged_alike {compiler : FrameCompiler σ} {gateway : ChainGateway} {sender : Address}
    {sequences : U256 → UInt64} {seq : UInt64} {tx : FrameTransaction}
    (numbered : tx.nonceSeq = some seq)
    (named : compiler.alloy.parseAddress tx.sender = some sender)
    (compilerReads : ∀ key ∈ tx.effectiveNonceKeys,
      compiler.gateway.getKeyedNonceSeq sender key = .ok (sequences key))
    (broadcasterReads : ∀ key ∈ tx.effectiveNonceKeys,
      gateway.getKeyedNonceSeq sender key = .ok (sequences key)) :
    (RejectsAsBehind compiler sequences seq tx ↔
      resolveSeqState gateway sender tx seq = .ok .superseded) ∧
    (DefersToBroadcast compiler tx ↔ resolveSeqState gateway sender tx seq = .ok .future) ∧
    (GoesOnToSimulate compiler tx ↔
      resolveSeqState gateway sender tx seq = .ok .executable) := by
  have judged := judges_among numbered named compilerReads
  have agrees (state : SeqState) : Judges compiler sequences seq tx state ↔
      resolveSeqState gateway sender tx seq = .ok state := by
    rw [resolveSeqState_eq seq broadcasterReads, Except.ok.injEq]
    constructor
    · exact judges_unique judged
    · rintro rfl
      exact judged
  exact ⟨agrees .superseded, agrees .future, agrees .executable⟩

/-- The first key stands at 10, the second at 9 and the third at 11. -/
def mixedSequences (key : U256) : UInt64 :=
  if key = 0 then 10 else if key = 1 then 9 else 11

/-- A node with these sequences. -/
def mixedGateway : ChainGateway where
  getKeyedNonceSeq _ key := .ok (mixedSequences key)
  simulateFrameTransaction _ := .ok ⟨.passed, some .succeeded⟩

/-- A transaction with one key at its sequence, one that has not reached it, and one ahead. -/
def mixedTx : FrameTransaction :=
  { sponsoredTx "" with nonceKeys := [0, 1, 2], nonceSeq := some 10 }

/-- The engine of `sponsoringEngine` on the node of `mixedGateway`. -/
def mixedEngine : FrameCompiler Unit :=
  { sponsoringEngine none with gateway := mixedGateway }

/-- `mixedTx` is behind to both. -/
theorem mixedTx_judged_alike :
    RejectsAsBehind mixedEngine mixedSequences 10 mixedTx ∧
      resolveSeqState mixedGateway ⟨List.replicate 20 0x11, rfl⟩ mixedTx 10 = .ok .superseded := by
  have superseded : resolveSeqState mixedGateway ⟨List.replicate 20 0x11, rfl⟩ mixedTx 10 =
      .ok .superseded := by decide
  have named : mixedEngine.alloy.parseAddress mixedTx.sender =
      some ⟨List.replicate 20 0x11, rfl⟩ := by decide +kernel
  have compilerReads : ∀ key ∈ mixedTx.effectiveNonceKeys,
      mixedEngine.gateway.getKeyedNonceSeq ⟨List.replicate 20 0x11, rfl⟩ key =
        .ok (mixedSequences key) := fun _ _ => rfl
  have broadcasterReads : ∀ key ∈ mixedTx.effectiveNonceKeys,
      mixedGateway.getKeyedNonceSeq ⟨List.replicate 20 0x11, rfl⟩ key =
        .ok (mixedSequences key) := fun _ _ => rfl
  have judged := nonce_judged_alike rfl named compilerReads broadcasterReads
  exact ⟨judged.1.mpr superseded, superseded⟩

end OpenEngine.Broadcaster
