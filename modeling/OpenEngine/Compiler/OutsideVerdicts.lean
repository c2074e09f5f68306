import OpenEngine.Compiler.Pipeline
import OpenEngine.Core.OutsideParty

/-!
# What the outside parties decide

The compiler with the signer and the webhook the engine has. Whoever is asked, a refusal ends the
compile as a verdict in the party's words, and an answer that is no decision tells the caller to
come back. A sponsored transaction is returned only after everyone asked said yes to it.
-/

namespace OpenEngine.Compiler

open OpenEngine.Core

/-- The signer and the webhook of an engine, and the seconds they are asked at. -/
structure Parties where
  web : Web
  sponsor : SponsorSigner
  webhook : Option PolicyAuthority
  decidedAt : UInt64
  signedAt : UInt64

/-- What the webhook is heard to say about a transaction. -/
def Parties.hearWebhook (parties : Parties) (alloy : Alloy) (webhook : PolicyAuthority)
    (tx : FrameTransaction) : Hearing :=
  hear parties.web webhook.url
    (webhook.reply parties.web alloy parties.decidedAt parties.sponsor.address tx)

/-- What the sponsor authority is heard to say about a transaction and its hash. -/
def Parties.hearSigner (parties : Parties) (alloy : Alloy) (signer : RemoteSigner)
    (tx : FrameTransaction) : Hearing :=
  hear parties.web signer.url
    (signer.reply parties.web alloy parties.signedAt (some tx) (tx.computeSigHash alloy))

/-- How a compile ends that hears no success: whoever was asked, a refusal is a verdict in the
party's words and the rest is no verdict, and either way nothing is reserved. -/
structure EndsWith {σ : Type} (hearing : Hearing) (state : σ)
    (outcome : Except CompilerError FrameTransaction × σ) : Prop where
  refusal : ∀ detail, hearing = .refusal detail → outcome = (.error (.policy detail), state)
  noAnswer : ∀ detail, hearing = .noAnswer detail → outcome = (.error (.unavailable detail), state)

/-- The webhook, if there is one, was heard and did not say no. -/
def Parties.Approved (parties : Parties) (alloy : Alloy) (tx : FrameTransaction) : Prop :=
  ∀ webhook, parties.webhook = some webhook → ∃ response bytes,
    parties.hearWebhook alloy webhook tx = .success response ∧ response.body = .ok bytes ∧
      (trim (parties.web.text bytes) = "" ∨ ∃ explanation,
        parties.web.decodeExplanation (utf8 (parties.web.text bytes)) = .ok explanation ∧
          explanation.isExplicitRefusal = false)

namespace FrameCompiler

variable {σ : Type}

/-- The compiler that asks the parties. -/
def asking (compiler : FrameCompiler σ) (parties : Parties) : FrameCompiler σ :=
  { compiler with
    sponsorSigner := some (parties.sponsor.signer parties.web compiler.alloy parties.signedAt)
    policy :=
      { compiler.policy with
        authority := parties.webhook.map fun webhook =>
          webhook.decide parties.web compiler.alloy parties.decidedAt } }

/-- The transaction is sponsored, and passes everything before the parties are asked. -/
structure Asks (compiler : FrameCompiler σ) (tx : FrameTransaction) : Prop where
  valid : validateStructure compiler.alloy tx = .ok ()
  sponsored : compiler.resolvePayer tx = .sponsor
  declared : compiler.checkDeclaredIntent tx .sponsor = .ok ()
  guarded : compiler.policy.checkStateless compiler.alloy tx = .ok ()

variable {compiler : FrameCompiler σ} {parties : Parties} {tx : FrameTransaction}

/-- A failure of the signing ends the compile, and nothing is reserved. -/
theorem compile_of_unsigned {signer : Signer} (held : compiler.sponsorSigner = some signer)
    (asks : compiler.Asks tx) {failure : CompilerError}
    (unsigned : compiler.signSponsorFrame signer tx = .error failure) (state : σ) :
    compiler.compileAndValidate state tx = (.error failure, state) := by
  have injects : compiler.injectSponsorSignature tx = .error failure := by
    unfold injectSponsorSignature
    rw [held, sponsorAddress_of_held held]
    dsimp only
    rw [unsigned]
    rfl
  have applied : compiler.applySponsorship .sponsor tx = .error failure := by
    unfold applySponsorship
    dsimp only
    rw [injects]
    rfl
  have prepared : compiler.prepare tx = .error failure := by
    unfold prepare
    rw [asks.valid, asks.sponsored]
    dsimp only [bind, Except.bind]
    rw [asks.declared]
    dsimp only
    rw [applied]
  unfold compileAndValidate
  rw [prepared]

/-- Behind the local guards the parties are asked in turn. -/
theorem signSponsorFrame_asking (asks : (compiler.asking parties).Asks tx) :
    (compiler.asking parties).signSponsorFrame
        (parties.sponsor.signer parties.web compiler.alloy parties.signedAt) tx = (do
      ((compiler.asking parties).policy.decide parties.sponsor.address tx).mapError
        (classifyPolicyError compiler.alloy)
      (parties.sponsor.signSponsorFrame parties.web compiler.alloy parties.signedAt tx
        (tx.computeSigHash compiler.alloy)).mapError classifySignerError) := by
  unfold signSponsorFrame
  rw [asks.guarded]
  rfl

/-- A webhook that is not heard to say yes ends the compile. -/
theorem compile_of_undecided (asks : (compiler.asking parties).Asks tx) {webhook : PolicyAuthority}
    (configured : parties.webhook = some webhook) {error : PolicyError}
    (undecided : webhook.decide parties.web compiler.alloy parties.decidedAt
      parties.sponsor.address tx = .error error) (state : σ) :
    (compiler.asking parties).compileAndValidate state tx =
      (.error (classifyPolicyError compiler.alloy error), state) := by
  refine compile_of_unsigned rfl asks ?_ state
  rw [signSponsorFrame_asking asks]
  have decided : (compiler.asking parties).policy.decide parties.sponsor.address tx =
      .error error := by
    unfold SponsorPolicy.decide asking
    rw [configured]
    exact undecided
  rw [decided]
  rfl

/-- The webhook said yes exactly if the policy's decision passes. -/
theorem approved_iff : parties.Approved compiler.alloy tx ↔
    (compiler.asking parties).policy.decide parties.sponsor.address tx = .ok () := by
  unfold Parties.Approved SponsorPolicy.decide asking
  cases configured : parties.webhook with
  | none => simp
  | some webhook =>
    show _ ↔ (parties.hearWebhook compiler.alloy webhook tx).answer PolicyError.refused
      PolicyError.unavailable (webhook.readDecision parties.web) = .ok ()
    cases heard : parties.hearWebhook compiler.alloy webhook tx with
    | refusal detail => simp [heard, Hearing.answer]
    | noAnswer detail => simp [heard, Hearing.answer]
    | success response => simp [heard, Hearing.answer, PolicyAuthority.readDecision_eq_ok]

/-- A signer that does not sign ends the compile, once the webhook said yes. -/
theorem compile_of_signer_error (asks : (compiler.asking parties).Asks tx)
    (approved : parties.Approved compiler.alloy tx) {error : SignerError}
    (unsigned : parties.sponsor.signSponsorFrame parties.web compiler.alloy parties.signedAt tx
      (tx.computeSigHash compiler.alloy) = .error error) (state : σ) :
    (compiler.asking parties).compileAndValidate state tx =
      (.error (classifySignerError error), state) := by
  refine compile_of_unsigned rfl asks ?_ state
  rw [signSponsorFrame_asking asks, approved_iff.mp approved, unsigned]
  rfl

/-- Both parties are heard alike. The webhook: a refusal, or a success that says no, ends the compile
as a verdict in its words; no answer, or a success that cannot be read, tells the caller to come
back. The sponsor authority, once the webhook said yes: the same for a refusal and for no answer, and
a success without 65 bytes of signature is a broken authority, no verdict. -/
theorem hearing_decides (asks : (compiler.asking parties).Asks tx) (state : σ) :
    (∀ webhook, parties.webhook = some webhook →
      EndsWith (parties.hearWebhook compiler.alloy webhook tx) state
        ((compiler.asking parties).compileAndValidate state tx) ∧
      ∀ response, parties.hearWebhook compiler.alloy webhook tx = .success response →
        (¬parties.web.ReadsDecision response → ∃ detail,
          (compiler.asking parties).compileAndValidate state tx =
            (.error (.unavailable detail), state)) ∧
        ∀ bytes explanation, response.body = .ok bytes → trim (parties.web.text bytes) ≠ "" →
          parties.web.decodeExplanation (utf8 (parties.web.text bytes)) = .ok explanation →
          explanation.isExplicitRefusal = true →
            (compiler.asking parties).compileAndValidate state tx =
              (.error (.policy (explanation.detail.getD "sponsorship declined")), state)) ∧
    (parties.Approved compiler.alloy tx → ∀ signer, parties.sponsor = .remote signer →
      EndsWith (parties.hearSigner compiler.alloy signer tx) state
        ((compiler.asking parties).compileAndValidate state tx) ∧
      ∀ response, parties.hearSigner compiler.alloy signer tx = .success response →
        (¬parties.web.ReadsSignature response → ∃ detail,
          (compiler.asking parties).compileAndValidate state tx =
            (.error (.unavailable detail), state)) ∧
        (parties.web.ReadsSignature response →
          (∀ signature, signer.readApproval parties.web compiler.alloy response ≠ .ok signature) →
            ∃ reason, (compiler.asking parties).compileAndValidate state tx =
              (.error (.signing reason), state))) := by
  constructor
  · intro webhook configured
    have ends (error : PolicyError)
        (undecided : (parties.hearWebhook compiler.alloy webhook tx).answer .refused .unavailable
          (webhook.readDecision parties.web) = .error error) :
        (compiler.asking parties).compileAndValidate state tx =
          (.error (classifyPolicyError compiler.alloy error), state) :=
      compile_of_undecided asks configured undecided state
    refine ⟨⟨fun detail heard => ?_, fun detail heard => ?_⟩, fun response heard => ⟨?_, ?_⟩⟩
    · exact ends (.refused detail) (by rw [heard]; rfl)
    · exact ends (.unavailable detail) (by rw [heard]; rfl)
    · intro unread
      obtain ⟨detail, read⟩ := webhook.readDecision_of_unread unread
      exact ⟨detail, ends (.unavailable detail) (by rw [heard]; exact read)⟩
    · intro bytes explanation body said read no
      exact ends (.refused _) (by rw [heard]; exact webhook.readDecision_of_no body said read no)
  · intro approved signer remote
    have ends (error : SignerError)
        (unsigned : (parties.hearSigner compiler.alloy signer tx).answer .refused .unavailable
          (signer.readApproval parties.web compiler.alloy) = .error error) :
        (compiler.asking parties).compileAndValidate state tx =
          (.error (classifySignerError error), state) := by
      apply compile_of_signer_error asks approved
      rw [remote]
      exact unsigned
    refine ⟨⟨fun detail heard => ?_, fun detail heard => ?_⟩, fun response heard => ⟨?_, ?_⟩⟩
    · exact ends (.refused detail) (by rw [heard]; rfl)
    · exact ends (.unavailable detail) (by rw [heard]; rfl)
    · intro unread
      have broken : ∃ detail, signer.readApproval parties.web compiler.alloy response =
          .error (.unavailable detail) := signer.readApproval_of_unread unread
      obtain ⟨detail, read⟩ := broken
      exact ⟨detail, ends (.unavailable detail) (by rw [heard]; exact read)⟩
    · intro reads broken
      obtain ⟨detail, read⟩ := signer.readApproval_of_broken reads broken
      exact ⟨_, ends (.signError detail) (by rw [heard]; exact read)⟩

/-- The authority was sent a request that names the transaction, its hash and the sponsor, and its
answer is a success that holds the signature. -/
def Signed (parties : Parties) (alloy : Alloy) (signer : RemoteSigner) (tx : FrameTransaction)
    (signature : Bytes) : Prop :=
  ∃ payload response text,
    parties.web.encodeSign
      { sigHash := "0x" ++ alloy.hexEncode (tx.computeSigHash alloy).val
        sponsor := alloy.lowerHex signer.address
        transaction := some tx } = .ok payload ∧
    parties.web.send (signedRequest parties.web alloy parties.signedAt signer.url payload
      signer.credentials) = .ok response ∧
    response.isSuccess = true ∧ response.body.bind parties.web.decodeSign = .ok text ∧
    alloy.hexDecode ((stripPrefix "0x" text).getD text) = .ok signature

/-- A signature of an authority was asked for and given. -/
theorem signed_of_requestSignature {signer : RemoteSigner} {signature : Bytes}
    (asked : signer.requestSignature parties.web compiler.alloy parties.signedAt (some tx)
      (tx.computeSigHash compiler.alloy) = .ok signature) :
    Signed parties compiler.alloy signer tx signature := by
  unfold RemoteSigner.requestSignature at asked
  cases answered : signer.reply parties.web compiler.alloy parties.signedAt (some tx)
      (tx.computeSigHash compiler.alloy) with
  | error failure =>
    rw [answered] at asked
    cases asked
  | ok response =>
    rw [answered] at asked
    obtain ⟨payload, encoded, sent⟩ := Check.bind_eq_ok.mp answered
    unfold hear at asked
    dsimp only at asked
    split at asked
    · cases asked
    · split at asked
      · next success =>
        obtain ⟨text, read, decoded, -⟩ := RemoteSigner.readApproval_eq_ok.mp asked
        exact ⟨payload, response, text, Check.mapError_eq_ok.mp encoded,
          Check.mapError_eq_ok.mp sent, success, read, decoded⟩
      · cases asked

/-- A sponsored transaction is returned only if the webhook said yes, the signature in it is one of
65 bytes that the sponsor's key or authority made over the hash of the transaction as submitted, and
an authority that made it answered with a success to a request that named this transaction. -/
theorem returned_approved {state later : σ} {returned : FrameTransaction}
    (compiled : (compiler.asking parties).compileAndValidate state tx = (.ok returned, later))
    (sponsored : (compiler.asking parties).resolvePayer tx = .sponsor) :
    parties.Approved compiler.alloy tx ∧ ∃ signature signatures,
      parties.sponsor.signSponsorFrame parties.web compiler.alloy parties.signedAt tx
        (tx.computeSigHash compiler.alloy) = .ok signature ∧
      signature.length = 65 ∧
      (∀ signer, parties.sponsor = .remote signer →
        Signed parties compiler.alloy signer tx signature) ∧
      fillSignature (compiler.alloy.lowerHex parties.sponsor.address)
        (compiler.alloy.hexEncode signature) tx.signatures = some signatures ∧
      returned = { tx with signatures := signatures } := by
  obtain ⟨signer, signature, signatures, injected⟩ :=
    compileAndValidate_sponsored compiled sponsored
  obtain ⟨flag, prepared⟩ := prepare_of_compile compiled
  obtain ⟨valid, declared, -, -⟩ := prepare_eq_ok.mp prepared
  rw [sponsored] at declared
  have asks : (compiler.asking parties).Asks tx := ⟨valid, sponsored, declared, injected.guarded⟩
  have same : parties.sponsor.signer parties.web compiler.alloy parties.signedAt = signer :=
    Option.some.inj injected.held
  subst same
  have signed : parties.sponsor.signSponsorFrame parties.web compiler.alloy parties.signedAt tx
      (tx.computeSigHash compiler.alloy) = .ok signature := injected.signed
  refine ⟨?_, signature, signatures, signed, SponsorSigner.length_of_signed signed, ?_,
    injected.fills, injected.whole⟩
  · cases decided : (compiler.asking parties).policy.decide parties.sponsor.address tx with
    | ok done => exact approved_iff.mpr decided
    | error failure =>
      have refused := compile_of_unsigned rfl asks
        (by rw [signSponsorFrame_asking asks, decided]; rfl) state
      rw [refused] at compiled
      cases congrArg Prod.fst compiled
  · intro remote backend
    rw [backend] at signed
    exact signed_of_requestSignature signed

end FrameCompiler

/-- `sponsoredTx` as it is posted. -/
def sponsoredJson : String :=
  "\x7b\"chain_id\":1,\"nonce_keys\":[\"0x0\"],\"nonce_seq\":0," ++
  "\"sender\":\"0x1111111111111111111111111111111111111111\"," ++
  "\"max_priority_fee_per_gas\":10,\"max_fee_per_gas\":20,\"max_fee_per_blob_gas\":null," ++
  "\"blob_versioned_hashes\":[],\"recent_root_references\":[],\"frames\":[" ++
  "\x7b\"mode\":\"Verify\",\"flags\":2,\"target\":null,\"gas_limit\":50000," ++
  "\"value\":\"0\",\"data\":\"0x\"\x7d,\x7b\"mode\":\"Verify\",\"flags\":1," ++
  "\"target\":\"0x2222222222222222222222222222222222222222\",\"gas_limit\":50000," ++
  "\"value\":\"0\",\"data\":\"0x\"\x7d],\"signatures\":[\x7b\"scheme\":1," ++
  "\"signer\":\"0x2222222222222222222222222222222222222222\",\"msg\":\"\"," ++
  "\"signature\":\"\"\x7d],\"payer\":\"sponsor\"\x7d"

/-- The signature of `sponsoringEngine`. -/
def sponsoredSignature : String := Hex.encode (0x00 :: List.replicate 64 0x11)

/-- An approval of the sponsor authority. -/
def approvalJson : String := "\x7b\"signature\":\"" ++ sponsoredSignature ++ "\"\x7d"

/-- A network on which the webhook answers with a status and no body, and the authority signs
`sponsoredTx`. -/
def sponsoredWeb (status : Nat) (displayed : String) : Web where
  send request :=
    .ok (if request.url = "https://policy.example/decide" then ⟨status, .ok []⟩
      else ⟨200, .ok (utf8 approvalJson)⟩)
  displayStatus code := if code = 200 then "200 OK" else displayed
  hmacSha256 _ _ := []
  encodeSign _ := .ok (utf8 ("\x7b\"sigHash\":\"0x" ++ Hex.encode sponsoredDigest.val ++
    "\",\"sponsor\":\"0x2222222222222222222222222222222222222222\",\"transaction\":" ++
    sponsoredJson ++ "\x7d"))
  encodeDecision _ := .ok (utf8 ("\x7b\"sponsor\":" ++
    "\"0x2222222222222222222222222222222222222222\"," ++
    "\"sender\":\"0x1111111111111111111111111111111111111111\",\"maxCost\":\"2395800\"," ++
    "\"transaction\":" ++ sponsoredJson ++ "\x7d"))
  decodeSign bytes :=
    if bytes = utf8 approvalJson then .ok sponsoredSignature
    else .error "expected value at line 1 column 1"
  decodeExplanation _ := .error "EOF while parsing a value at line 1 column 0"
  text _ := ""

/-- The sponsor's address has 20 bytes. -/
theorem length_sponsorBytes : (List.replicate 20 0x22 : Bytes).length = 20 := rfl

/-- A webhook and a sponsor authority without credentials. -/
def sponsoredParties (status : Nat) (displayed : String) : Parties where
  web := sponsoredWeb status displayed
  sponsor := .remote
    { url := "https://sponsor.example/sign"
      address := ⟨List.replicate 20 0x22, length_sponsorBytes⟩
      credentials := ⟨none, none⟩ }
  webhook := some { url := "https://policy.example/decide", credentials := ⟨none, none⟩ }
  decidedAt := 5
  signedAt := 6

/-- `sponsoredTx` reaches the parties. -/
theorem sponsoredTx_asks (status : Nat) (displayed : String) :
    ((sponsoringEngine none).asking (sponsoredParties status displayed)).Asks (sponsoredTx "") := by
  obtain ⟨valid, -, applied, -⟩ := FrameCompiler.prepare_eq_ok.mp sponsoredTx_prepared
  have address : ((sponsoringEngine none).asking
      (sponsoredParties status displayed)).sponsorAddress =
        (sponsoringEngine none).sponsorAddress := by
    simp only [FrameCompiler.sponsorAddress, FrameCompiler.asking, SponsorSigner.signer,
      SponsorSigner.address, sponsoredParties, sponsoringEngine, Option.map_some]
  constructor
  · exact valid
  · have resolved := sponsoredTx_sponsored
    unfold FrameCompiler.resolvePayer at resolved ⊢
    rw [address]
    exact resolved
  · rfl
  · show (sponsoringEngine none).policy.checkStateless (sponsoringEngine none).alloy
      (sponsoredTx "") = .ok ()
    decide +kernel

/-- A webhook that answers 403 without a word ends the compile with the status for a reason. -/
theorem hearing_decides_forbidden :
    ((sponsoringEngine none).asking (sponsoredParties 403 "403 Forbidden")).compileAndValidate ()
      (sponsoredTx "") = (.error (.policy "HTTP 403 Forbidden"), ()) :=
  ((FrameCompiler.hearing_decides (sponsoredTx_asks 403 "403 Forbidden") ()).1 _ rfl).1.refusal _
    rfl

/-- A webhook that answers 200 without a word lets the authority's signature into the transaction. -/
theorem returned_approved_sponsoredTx :
    (sponsoredParties 200 "200 OK").Approved (Alloy.reference sponsoredDigest)
      (sponsoredTx "") := by
  have prepared : ((sponsoringEngine none).asking (sponsoredParties 200 "200 OK")).prepare
      (sponsoredTx "") = .ok (filledTx "", true) := by decide +kernel
  have compiled : ((sponsoringEngine none).asking
      (sponsoredParties 200 "200 OK")).compileAndValidate () (sponsoredTx "") =
        (.ok (filledTx ""), ()) := FrameCompiler.compile_of_reserved prepared rfl
  exact (FrameCompiler.returned_approved compiled (sponsoredTx_asks 200 "200 OK").sponsored).1

end OpenEngine.Compiler
