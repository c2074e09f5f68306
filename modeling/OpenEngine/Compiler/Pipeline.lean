import OpenEngine.Compiler.Structure
import OpenEngine.Core.Gateway
import OpenEngine.Core.Policy

/-!
# The compiler

`FrameCompiler::compile_and_validate`: structural validation, payer resolution, sponsorship
injection, simulation and the reservation of sponsor spend. Log lines are left out.
-/

namespace OpenEngine.Compiler

open OpenEngine.Core

/-- `ResolvedPayer`. -/
inductive ResolvedPayer where
  | selfPaid
  | sponsor
  | external (target : String)
deriving DecidableEq

/-- `ResolvedPayer::intent`. -/
def ResolvedPayer.intent : ResolvedPayer → PayerIntent
  | .selfPaid => .selfPaid
  | .sponsor => .sponsor
  | .external _ => .external

/-- `ResolvedPayer::describe`. -/
def ResolvedPayer.describe : ResolvedPayer → String
  | .selfPaid => "the prefix has no pay frame, so the sender approves its own payment"
  | .sponsor => "the pay frame targets this engine's sponsor signer"
  | .external target => s!"the pay frame targets {target}, which this engine holds no key for"

/-- `classify_gateway_error`. -/
def classifyGatewayError (error : GatewayError) : CompilerError :=
  if error.isTransient then .unavailable error.text else .simulation error.text

/-- `classify_signer_error`. -/
def classifySignerError : SignerError → CompilerError
  | .refused detail => .policy detail
  | .unavailable detail => .unavailable detail
  | other => .signing other.text

/-- `classify_policy_error`. -/
def classifyPolicyError (alloy : Alloy) : PolicyError → CompilerError
  | .refused detail => .policy detail
  | .unavailable detail | .store detail => .unavailable detail
  | other => .policy (other.text alloy)

/-- `FrameCompiler`; the store's state has type `σ`. -/
structure FrameCompiler (σ : Type) where
  alloy : Alloy
  gateway : ChainGateway
  sponsorSigner : Option Signer
  policy : SponsorPolicy σ

namespace FrameCompiler

variable {σ : Type}

/-- `sponsor_address`. -/
def sponsorAddress (compiler : FrameCompiler σ) : Option String :=
  compiler.sponsorSigner.map fun signer => compiler.alloy.lowerHex signer.address

/-- `resolve_payer`. -/
def resolvePayer (compiler : FrameCompiler σ) (tx : FrameTransaction) : ResolvedPayer :=
  match tx.payFrame with
  | none => .selfPaid
  | some (_, frame) =>
    let target := toLowercase (frame.target.getD "")
    if compiler.sponsorAddress = some target then .sponsor else .external target

/-- A text in double quotes. -/
def quoted (text : String) : String := "\"" ++ text ++ "\""

/-- `check_declared_intent`. -/
def checkDeclaredIntent (compiler : FrameCompiler σ) (tx : FrameTransaction)
    (resolved : ResolvedPayer) : Except CompilerError Unit :=
  let found := quoted resolved.intent.asStr
  let shape := resolved.describe
  match tx.payer with
  | none =>
    .error (.payerIntent ("payer must be declared (\"self\", \"sponsor\", or \"external\"); " ++
      s!"this transaction's frames resolve to {found} ({shape})"))
  | some declared =>
    let claimed := quoted declared.asStr
    if declared = resolved.intent then .ok ()
    else if declared = .sponsor ∧ compiler.sponsorSigner.isNone then
      .error (.payerIntent ("payer \"sponsor\" was declared, but this engine is relay-only and " ++
        "holds no sponsor key; declare \"self\" or \"external\", or point at a sponsoring instance"))
    else
      .error (.payerIntent
        s!"payer {claimed} was declared, but the frames resolve to {found}: {shape}")

/-- Overwrites the signature of the first entry of a signer, if there is one. -/
def fillSignature (sponsorAddress signature : String) :
    List FrameSignature → Option (List FrameSignature)
  | [] => none
  | sig :: rest =>
    if toLowercase sig.signer = sponsorAddress then
      some ({ sig with signature := signature } :: rest)
    else (fillSignature sponsorAddress signature rest).map fun filled => sig :: filled

/-- The part of `inject_sponsor_signature` before the placeholder is filled: both policy stages and
the signature over the hash of the transaction as submitted. -/
def signSponsorFrame (compiler : FrameCompiler σ) (signer : Signer) (tx : FrameTransaction) :
    Except CompilerError Bytes := do
  (compiler.policy.checkStateless compiler.alloy tx).mapError (classifyPolicyError compiler.alloy)
  (compiler.policy.decide signer.address tx).mapError (classifyPolicyError compiler.alloy)
  let sigHash := tx.computeSigHash compiler.alloy
  (signer.signSponsorFrame tx sigHash).mapError classifySignerError

/-- `inject_sponsor_signature`. -/
def injectSponsorSignature (compiler : FrameCompiler σ) (tx : FrameTransaction) :
    Except CompilerError FrameTransaction :=
  match compiler.sponsorSigner, compiler.sponsorAddress with
  | some signer, some sponsorAddress => do
    let signature ← compiler.signSponsorFrame signer tx
    match fillSignature sponsorAddress (compiler.alloy.hexEncode signature) tx.signatures with
    | some signatures =>
      return { tx with signatures := signatures }
    | none =>
      .error (.signing (s!"sponsor signature entry for {sponsorAddress} is missing; the " ++
        "transaction must pre-allocate the signature placeholder so the canonical hash is stable"))
  | _, _ => .error (.signing "sponsor signature required but this compiler holds no signer")

/-- The nonce loop of `simulate`: whether some key has not reached the sequence yet. -/
def readNonces (compiler : FrameCompiler σ) (sender : Address) (seq : UInt64) :
    List U256 → Except CompilerError Bool
  | [] => .ok false
  | key :: rest => do
    let current ← (compiler.gateway.getKeyedNonceSeq sender key).mapError classifyGatewayError
    let number := key.toNat
    let stated := seq.toNat
    let reached := current.toNat
    Check.refuseIf (seq < current)
      (.simulation (s!"nonce_seq {stated} is already behind key {number} " ++
        s!"(current sequence {reached}); the transaction can never become executable"))
    let future ← readNonces compiler sender seq rest
    return future || current < seq

/-- How `simulate` judges the node's report. -/
def judgeSimulation (sim : Simulation) : Except CompilerError Unit :=
  match sim.outcome with
  | .violated violation =>
    .error (.simulation s!"node rejected the validation prefix: {violation}")
  | .declined _ => .ok ()
  | .passed =>
    match sim.execution with
    | some (.errored error) => .error (.simulation s!"full execution failed: {error}")
    | some (.reverted failedFrames) =>
      let indices := ", ".intercalate (failedFrames.map toString)
      .error (.simulation s!"execution reverted at frame(s) [{indices}]")
    | none | some .succeeded | some (.unrecognized _) => .ok ()

/-- `simulate`. -/
def simulate (compiler : FrameCompiler σ) (tx : FrameTransaction) : Except CompilerError Unit :=
  match tx.nonceSeq with
  | none => .ok ()
  | some seq =>
    match compiler.alloy.parseAddress tx.sender with
    | none => .error (.validation "Invalid sender address")
    | some sender => do
      if ← compiler.readNonces sender seq tx.effectiveNonceKeys then .ok ()
      else
        match compiler.gateway.simulateFrameTransaction tx with
        | .ok sim => judgeSimulation sim
        | .error (.unsupportedMethod _) => .ok ()
        | .error e => .error (classifyGatewayError e)

/-- Step 3 of `compile_and_validate`: only a sponsored transaction is changed. -/
def applySponsorship (compiler : FrameCompiler σ) (payer : ResolvedPayer) (tx : FrameTransaction) :
    Except CompilerError (FrameTransaction × Bool) :=
  match payer with
  | .sponsor => do
    let filled ← compiler.injectSponsorSignature tx
    return (filled, true)
  | .external _ | .selfPaid => .ok (tx, false)

/-- Steps 1 to 4 of `compile_and_validate`: the transaction to return and whether it is
sponsored. -/
def prepare (compiler : FrameCompiler σ) (tx : FrameTransaction) :
    Except CompilerError (FrameTransaction × Bool) := do
  validateStructure compiler.alloy tx
  let payer := compiler.resolvePayer tx
  compiler.checkDeclaredIntent tx payer
  let (tx, sponsored) ← compiler.applySponsorship payer tx
  compiler.simulate tx
  return (tx, sponsored)

/-- `compile_and_validate`; only the reservation touches the store. -/
def compileAndValidate (compiler : FrameCompiler σ) (state : σ) (tx : FrameTransaction) :
    Except CompilerError FrameTransaction × σ :=
  match compiler.prepare tx with
  | .error e => (.error e, state)
  | .ok (tx, sponsored) =>
    if sponsored then
      match compiler.policy.reserve compiler.alloy state tx with
      | (.ok _, state) => (.ok tx, state)
      | (.error e, state) => (.error (classifyPolicyError compiler.alloy e), state)
    else (.ok tx, state)

/-- The entry that receives the sponsor's signature. -/
def sponsorEntry (compiler : FrameCompiler σ) (tx : FrameTransaction) : Option FrameSignature :=
  tx.signatures.find? fun sig => compiler.sponsorAddress = some (toLowercase sig.signer)

/-- Filling touches the first entry of the signer and nothing else. -/
theorem fillSignature_eq_some {sponsorAddress signature : String}
    {signatures filled : List FrameSignature}
    (fills : fillSignature sponsorAddress signature signatures = some filled) :
    ∃ before entry after, signatures = before ++ entry :: after ∧
      filled = before ++ { entry with signature := signature } :: after ∧
      signatures.find? (fun sig => sponsorAddress = toLowercase sig.signer) = some entry := by
  induction signatures generalizing filled with
  | nil => cases fills
  | cons sig rest ih =>
    unfold fillSignature at fills
    by_cases named : toLowercase sig.signer = sponsorAddress
    · rw [if_pos named] at fills
      refine ⟨[], sig, rest, rfl, (Option.some.inj fills).symm, ?_⟩
      rw [List.find?_cons_of_pos (by simp [named])]
    · rw [if_neg named, Option.map_eq_some_iff] at fills
      obtain ⟨later, fillsRest, whole⟩ := fills
      obtain ⟨before, entry, after, parts, laterParts, found⟩ := ih fillsRest
      refine ⟨sig :: before, entry, after, by rw [parts]; rfl, by rw [← whole, laterParts]; rfl, ?_⟩
      rw [List.find?_cons_of_neg (by simpa using Ne.symm named)]
      exact found

/-- What an injection did: the guards passed on the transaction as submitted, the signer signed the
hash of it as submitted, and one entry was filled. -/
structure Injected (compiler : FrameCompiler σ) (tx returned : FrameTransaction) (signer : Signer)
    (signature : Bytes) (signatures : List FrameSignature) : Prop where
  held : compiler.sponsorSigner = some signer
  guarded : compiler.policy.checkStateless compiler.alloy tx = .ok ()
  signed : signer.signSponsorFrame tx (tx.computeSigHash compiler.alloy) = .ok signature
  fills : fillSignature (compiler.alloy.lowerHex signer.address)
    (compiler.alloy.hexEncode signature) tx.signatures = some signatures
  whole : returned = { tx with signatures := signatures }

/-- The sponsor's address is its signer's. -/
theorem sponsorAddress_of_held {compiler : FrameCompiler σ} {signer : Signer}
    (held : compiler.sponsorSigner = some signer) :
    compiler.sponsorAddress = some (compiler.alloy.lowerHex signer.address) := by
  rw [sponsorAddress, held, Option.map_some]

/-- An injection that succeeds did its three parts. -/
theorem injectSponsorSignature_eq_ok {compiler : FrameCompiler σ} {tx injected : FrameTransaction}
    (injects : compiler.injectSponsorSignature tx = .ok injected) :
    ∃ signer signature signatures,
      compiler.Injected tx injected signer signature signatures := by
  unfold injectSponsorSignature at injects
  cases held : compiler.sponsorSigner with
  | none =>
    rw [held] at injects
    cases injects
  | some signer =>
    rw [held, sponsorAddress_of_held held] at injects
    obtain ⟨signature, signs, rest⟩ := Check.bind_eq_ok.mp injects
    obtain ⟨_, guards, signs⟩ := Check.bind_eq_ok.mp signs
    obtain ⟨_, _, signs⟩ := Check.bind_eq_ok.mp signs
    cases fills : fillSignature (compiler.alloy.lowerHex signer.address)
        (compiler.alloy.hexEncode signature) tx.signatures with
    | none =>
      rw [fills] at rest
      cases rest
    | some signatures =>
      rw [fills] at rest
      exact ⟨signer, signature, signatures, held, Check.mapError_eq_ok.mp guards,
        Check.mapError_eq_ok.mp signs, fills, (Except.ok.inj rest).symm⟩

/-- A transaction is prepared when it is valid, declares its payer, is sponsored if need be, and
passes the simulation in the end. -/
theorem prepare_eq_ok {compiler : FrameCompiler σ} {tx returned : FrameTransaction}
    {sponsored : Bool} : compiler.prepare tx = .ok (returned, sponsored) ↔
      validateStructure compiler.alloy tx = .ok () ∧
        compiler.checkDeclaredIntent tx (compiler.resolvePayer tx) = .ok () ∧
        compiler.applySponsorship (compiler.resolvePayer tx) tx = .ok (returned, sponsored) ∧
        compiler.simulate returned = .ok () := by
  unfold prepare
  rw [Check.seq_eq_ok, Check.seq_eq_ok, Check.bind_eq_ok]
  refine and_congr_right fun _ => and_congr_right fun _ => ?_
  constructor
  · rintro ⟨⟨filled, flag⟩, applied, rest⟩
    obtain ⟨simulated, finished⟩ := Check.seq_eq_ok.mp rest
    have same : (filled, flag) = (returned, sponsored) := Except.ok.inj finished
    cases same
    exact ⟨applied, simulated⟩
  · rintro ⟨applied, simulated⟩
    exact ⟨(returned, sponsored), applied, Check.seq_eq_ok.mpr ⟨simulated, rfl⟩⟩

/-- A transaction that is returned was prepared. -/
theorem prepare_of_compile {compiler : FrameCompiler σ} {state later : σ}
    {tx returned : FrameTransaction}
    (compiled : compiler.compileAndValidate state tx = (.ok returned, later)) :
    ∃ sponsored, compiler.prepare tx = .ok (returned, sponsored) := by
  unfold compileAndValidate at compiled
  cases prepared : compiler.prepare tx with
  | error failure =>
    rw [prepared] at compiled
    cases compiled
  | ok outcome =>
    obtain ⟨ready, sponsored⟩ := outcome
    rw [prepared] at compiled
    dsimp only at compiled
    have same : ready = returned := by
      split at compiled
      · split at compiled
        · exact Except.ok.inj (congrArg Prod.fst compiled)
        · cases congrArg Prod.fst compiled
      · exact Except.ok.inj (congrArg Prod.fst compiled)
    exact ⟨sponsored, by rw [same]⟩

/-- A sponsored transaction that is returned was injected and not changed since. -/
theorem compileAndValidate_sponsored {compiler : FrameCompiler σ} {state later : σ}
    {tx returned : FrameTransaction}
    (compiled : compiler.compileAndValidate state tx = (.ok returned, later))
    (sponsored : compiler.resolvePayer tx = .sponsor) :
    ∃ signer signature signatures,
      compiler.Injected tx returned signer signature signatures := by
  obtain ⟨flag, prepared⟩ := prepare_of_compile compiled
  obtain ⟨-, -, applied, -⟩ := prepare_eq_ok.mp prepared
  rw [sponsored] at applied
  obtain ⟨injected, injects, pair⟩ := Check.bind_eq_ok.mp applied
  have same : injected = returned := congrArg Prod.fst (Except.ok.inj pair)
  subst same
  exact injectSponsorSignature_eq_ok injects

/-- A transaction that is returned unsponsored is the one that was submitted. -/
theorem compileAndValidate_unsponsored {compiler : FrameCompiler σ} {state later : σ}
    {tx returned : FrameTransaction}
    (compiled : compiler.compileAndValidate state tx = (.ok returned, later))
    (unsponsored : compiler.resolvePayer tx ≠ .sponsor) : returned = tx := by
  obtain ⟨flag, prepared⟩ := prepare_of_compile compiled
  obtain ⟨-, -, applied, -⟩ := prepare_eq_ok.mp prepared
  unfold applySponsorship at applied
  split at applied
  · next sponsored => exact absurd sponsored unsponsored
  · exact (congrArg Prod.fst (Except.ok.inj applied)).symm
  · exact (congrArg Prod.fst (Except.ok.inj applied)).symm

/-- A transaction is prepared as sponsored exactly if its payer resolves to the sponsor. -/
theorem prepare_sponsored {compiler : FrameCompiler σ} {tx returned : FrameTransaction}
    {sponsored : Bool} (prepared : compiler.prepare tx = .ok (returned, sponsored)) :
    sponsored = true ↔ compiler.resolvePayer tx = .sponsor := by
  obtain ⟨-, -, applied, -⟩ := prepare_eq_ok.mp prepared
  unfold applySponsorship at applied
  split at applied
  · next isSponsor =>
    obtain ⟨filled, _, pair⟩ := Check.bind_eq_ok.mp applied
    have flag : true = sponsored := congrArg Prod.snd (Except.ok.inj pair)
    exact ⟨fun _ => isSponsor, fun _ => flag.symm⟩
  · next isExternal =>
    have flag : false = sponsored := congrArg Prod.snd (Except.ok.inj applied)
    rw [← flag, isExternal]
    exact iff_of_false Bool.false_ne_true ResolvedPayer.noConfusion
  · next isSelf =>
    have flag : false = sponsored := congrArg Prod.snd (Except.ok.inj applied)
    rw [← flag, isSelf]
    exact iff_of_false Bool.false_ne_true ResolvedPayer.noConfusion

/-- A call that succeeds left the store alone or reserved what it returned. -/
theorem reserved_of_ok {compiler : FrameCompiler σ} {state later : σ}
    {tx returned : FrameTransaction}
    (compiled : compiler.compileAndValidate state tx = (.ok returned, later)) :
    (compiler.resolvePayer tx ≠ .sponsor ∧ later = state) ∨
      (compiler.resolvePayer tx = .sponsor ∧
        compiler.policy.reserve compiler.alloy state returned = (.ok (), later)) := by
  obtain ⟨sponsored, prepared⟩ := prepare_of_compile compiled
  have payer := prepare_sponsored prepared
  unfold compileAndValidate at compiled
  rw [prepared] at compiled
  dsimp only at compiled
  split at compiled
  · next isSponsored =>
    split at compiled
    · next after reserved =>
      have ends : after = later := congrArg Prod.snd compiled
      rw [ends] at reserved
      exact .inr ⟨payer.mp isSponsored, reserved⟩
    · cases congrArg Prod.fst compiled
  · next notSponsored =>
    exact .inl ⟨fun claimed => notSponsored (payer.mpr claimed),
      (congrArg Prod.snd compiled).symm⟩

/-- A sponsored transaction that is prepared and reserved is returned. -/
theorem compile_of_reserved {compiler : FrameCompiler σ} {state later : σ}
    {tx filled : FrameTransaction} (prepared : compiler.prepare tx = .ok (filled, true))
    (reserved : compiler.policy.reserve compiler.alloy state filled = (.ok (), later)) :
    compiler.compileAndValidate state tx = (.ok filled, later) := by
  unfold compileAndValidate
  rw [prepared]
  dsimp only
  rw [if_pos rfl, reserved]

section Policy

variable {τ : Type} {alloy : Alloy} {gateway : ChainGateway} {signer : Option Signer}
  {policy : SponsorPolicy σ} {other : SponsorPolicy τ} {tx : FrameTransaction}

/-- The nonce loop does not read the policy. -/
theorem readNonces_policy (sender : Address) (seq : UInt64) (keys : List U256) :
    (mk alloy gateway signer policy).readNonces sender seq keys =
      (mk alloy gateway signer other).readNonces sender seq keys := by
  induction keys with
  | nil => rfl
  | cons key rest ih =>
    unfold readNonces
    rw [ih]

/-- Only the guards and the authority of a policy matter before the reservation. -/
theorem prepare_policy (guards : policy.checkStateless alloy tx = other.checkStateless alloy tx)
    (authority : policy.authority = other.authority) :
    (mk alloy gateway signer policy).prepare tx = (mk alloy gateway signer other).prepare tx := by
  have signs : ∀ held, (mk alloy gateway signer policy).signSponsorFrame held tx =
      (mk alloy gateway signer other).signSponsorFrame held tx := by
    intro held
    unfold FrameCompiler.signSponsorFrame SponsorPolicy.decide
    dsimp only
    rw [guards, authority]
  have injects : (mk alloy gateway signer policy).injectSponsorSignature tx =
      (mk alloy gateway signer other).injectSponsorSignature tx := by
    unfold injectSponsorSignature
    simp only [signs]
    rfl
  have simulates : ∀ filled, (mk alloy gateway signer policy).simulate filled =
      (mk alloy gateway signer other).simulate filled := by
    intro filled
    unfold simulate
    simp only [@readNonces_policy _ τ _ _ _ policy other]
  unfold prepare applySponsorship
  simp only [injects, simulates]
  rfl

/-- A ceiling changes nothing for a transaction whose submitted cost is within it. -/
theorem prepare_limited {ceiling : U256} (unlimited : policy.maxCostWei = none)
    (within : tx.maxCost alloy ≤ ceiling) :
    (mk alloy gateway signer { policy with maxCostWei := some ceiling }).prepare tx =
      (mk alloy gateway signer policy).prepare tx := by
  refine prepare_policy ?_ rfl
  have passes : SponsorPolicy.checkCeiling { policy with maxCostWei := some ceiling } alloy tx =
      policy.checkCeiling alloy tx := by
    unfold SponsorPolicy.checkCeiling
    rw [unlimited]
    dsimp only
    rw [if_neg (BitVec.not_lt.mpr within)]
  unfold SponsorPolicy.checkStateless
  rw [passes]
  rfl

end Policy

/-- A call that fails left the store alone or failed in the reservation. -/
theorem reserved_of_error {compiler : FrameCompiler σ} {state later : σ} {tx : FrameTransaction}
    {failure : CompilerError}
    (compiled : compiler.compileAndValidate state tx = (.error failure, later)) :
    later = state ∨ ∃ filled refusal,
      compiler.policy.reserve compiler.alloy state filled = (.error refusal, later) := by
  unfold compileAndValidate at compiled
  split at compiled
  · exact .inl (congrArg Prod.snd compiled).symm
  · next filled sponsored prepared =>
    split at compiled
    · split at compiled
      · cases congrArg Prod.fst compiled
      · next refusal after refused =>
        have ends : after = later := congrArg Prod.snd compiled
        rw [ends] at refused
        exact .inr ⟨filled, refusal, refused⟩
    · cases congrArg Prod.fst compiled

end FrameCompiler

/-- A transaction with a paymaster prefix and an unfilled placeholder for the sponsor. -/
def sponsoredTx (msg : String) : FrameTransaction where
  chainId := 1
  nonceKeys := [0]
  nonceSeq := some 0
  sender := "0x1111111111111111111111111111111111111111"
  maxPriorityFeePerGas := some 10
  maxFeePerGas := some 20
  maxFeePerBlobGas := none
  blobVersionedHashes := []
  recentRootReferences := []
  frames := [
    { mode := .verify
      flags := 0x02
      target := none
      gasLimit := 50000
      value := "0"
      data := "0x" },
    { mode := .verify
      flags := 0x01
      target := some "0x2222222222222222222222222222222222222222"
      gasLimit := 50000
      value := "0"
      data := "0x" }]
  signatures := [
    { scheme := frameSigSchemeSecp256k1
      signer := "0x2222222222222222222222222222222222222222"
      msg := msg
      signature := "" }]
  payer := some .sponsor

/-- The Keccak-256 hash of the signature preimage of `sponsoredTx`, with either blank `msg`. -/
def sponsoredDigest : B256 :=
  ⟨[0xa9, 0x66, 0x24, 0x75, 0x25, 0x2d, 0x43, 0x1e, 0x2f, 0x60, 0x9d, 0x3a, 0xa0, 0xed, 0xb9, 0xb5,
    0x3c, 0xf5, 0x3d, 0x67, 0xcb, 0xac, 0xe9, 0xe6, 0x21, 0xdd, 0x12, 0x94, 0x54, 0x69, 0xd9, 0xd1],
    rfl⟩

/-- An engine with a sponsor key, a reachable node at sequence 0 and at most a spend ceiling. -/
def sponsoringEngine (maxCostWei : Option U256) : FrameCompiler Unit where
  alloy := Alloy.reference sponsoredDigest
  gateway :=
    { getKeyedNonceSeq := fun _ _ => .ok 0
      simulateFrameTransaction := fun _ => .ok ⟨.passed, some .succeeded⟩ }
  sponsorSigner := some
    { address := ⟨List.replicate 20 0x22, rfl⟩
      signSponsorFrame := fun _ _ => .ok (0x00 :: List.replicate 64 0x11) }
  policy :=
    { maxCostWei := maxCostWei
      senderAllowlist := none
      store := none
      authority := none }

/-- `sponsoredTx` with the placeholder filled by `sponsoringEngine`. -/
def filledTx (msg : String) : FrameTransaction :=
  { sponsoredTx msg with
    signatures := [
      { scheme := frameSigSchemeSecp256k1
        signer := "0x2222222222222222222222222222222222222222"
        msg := msg
        signature := Hex.encode (0x00 :: List.replicate 64 0x11) }] }

/-- `sponsoredTx` passes everything but the reservation. -/
theorem sponsoredTx_prepared :
    (sponsoringEngine none).prepare (sponsoredTx "") = .ok (filledTx "", true) := by
  decide +kernel

/-- `sponsoredTx` is returned filled. -/
theorem sponsoredTx_compiled : (sponsoringEngine none).compileAndValidate () (sponsoredTx "") =
    (.ok (filledTx ""), ()) :=
  FrameCompiler.compile_of_reserved sponsoredTx_prepared rfl

/-- The sponsor pays for `sponsoredTx`. -/
theorem sponsoredTx_sponsored :
    (sponsoringEngine none).resolvePayer (sponsoredTx "") = .sponsor :=
  (FrameCompiler.prepare_sponsored sponsoredTx_prepared).mp rfl

example : ({ sponsoringEngine none with sponsorSigner := none } :
    FrameCompiler Unit).resolvePayer (sponsoredTx "") =
      .external "0x2222222222222222222222222222222222222222" := by
  decide +kernel

end OpenEngine.Compiler
