import OpenEngine.Core.Endpoint
import OpenEngine.Core.Gateway
import OpenEngine.Core.Policy

/-!
# The outside parties

`http.rs` and the two parties that are asked in the middle of a compile: the sponsor authority that
signs, and the policy webhook that only decides. Both must read an answer the same way: a client
error is a verdict on the transaction, and anything that is neither that nor a readable success is
no verdict at all.
-/

namespace OpenEngine.Core

/-- `TIMESTAMP_HEADER`. -/
def timestampHeader : String := "X-Open-Engine-Timestamp"

/-- `SIGNATURE_HEADER`. -/
def signatureHeader : String := "X-Open-Engine-Signature"

/-- `Credentials`. -/
structure Credentials where
  bearerToken : Option String
  hmacSecret : Option String

/-- `Credentials::new`: an empty text is no credential. -/
def Credentials.new (bearerToken hmacSecret : Option String) : Credentials where
  bearerToken := bearerToken.filter (· ≠ "")
  hmacSecret := hmacSecret.filter (· ≠ "")

/-- A request as it goes on the wire. -/
structure Request where
  url : String
  headers : List (String × String)
  body : Bytes

/-- `reqwest::Response`: the status, and the body or why it could not be read. -/
structure Response where
  status : Nat
  body : Except String Bytes

/-- `StatusCode::is_client_error`. -/
def Response.isClientError (response : Response) : Bool :=
  400 ≤ response.status && response.status < 500

/-- `StatusCode::is_success`. -/
def Response.isSuccess (response : Response) : Bool :=
  200 ≤ response.status && response.status < 300

/-- `Explanation`. -/
structure Explanation where
  error : Option String := none
  reason : Option String := none
  approved : Option Bool := none

/-- `Explanation::is_explicit_refusal`. -/
def Explanation.isExplicitRefusal (explanation : Explanation) : Bool :=
  explanation.approved == some false

/-- `Explanation::detail`. -/
def Explanation.detail (explanation : Explanation) : Option String :=
  explanation.error.or explanation.reason

/-- `SignRequest`. -/
structure SignRequest where
  sigHash : String
  sponsor : String
  transaction : Option FrameTransaction

/-- `DecisionRequest`. -/
structure DecisionRequest where
  sponsor : String
  sender : String
  maxCost : String
  transaction : FrameTransaction

/-- What the engine calls in `reqwest`, `serde_json` and `hmac`, and what the network answers.
Errors are their displayed texts. -/
structure Web where
  /-- `Request::send`. -/
  send : Request → Except String Response
  /-- `Display` of `StatusCode`. -/
  displayStatus : Nat → String
  /-- `Hmac::<Sha256>` of a message under a key. -/
  hmacSha256 : Bytes → Bytes → Bytes
  /-- `serde_json::to_vec` of a `SignRequest`. -/
  encodeSign : SignRequest → Except String Bytes
  /-- `serde_json::to_vec` of a `DecisionRequest`. -/
  encodeDecision : DecisionRequest → Except String Bytes
  /-- `serde_json` reading the signature of a `SignResponse`. -/
  decodeSign : Bytes → Except String String
  /-- `serde_json` reading an `Explanation`. -/
  decodeExplanation : Bytes → Except String Explanation
  /-- `Response::text` of a body. -/
  text : Bytes → String

/-- `str::as_bytes`. -/
def utf8 (value : String) : Bytes := value.toUTF8.data.toList

/-- What `sign` digests: the timestamp, a dot and the body. -/
def signedMessage (timestamp : UInt64) (body : Bytes) : Bytes :=
  utf8 (toString timestamp.toNat) ++ '.'.toUInt8 :: body

section Asking

variable (web : Web) (alloy : Alloy)

/-- `sign`. -/
def sign (secret : String) (timestamp : UInt64) (body : Bytes) : String :=
  alloy.hexEncode (web.hmacSha256 (utf8 secret) (signedMessage timestamp body))

/-- `bearer_auth`, with a token. -/
def Credentials.bearerHeaders (credentials : Credentials) : List (String × String) :=
  match credentials.bearerToken with
  | some token => [("authorization", "Bearer " ++ token)]
  | none => []

/-- The two headers of a signed request, with a secret. -/
def Credentials.signatureHeaders (credentials : Credentials) (now : UInt64) (payload : Bytes) :
    List (String × String) :=
  match credentials.hmacSecret with
  | some secret =>
    [(timestampHeader, toString now.toNat),
      (signatureHeader, "sha256=" ++ sign web alloy secret now payload)]
  | none => []

/-- The request of `post_signed` at a second. -/
def signedRequest (now : UInt64) (url : String) (payload : Bytes) (credentials : Credentials) :
    Request where
  url
  headers :=
    ("content-type", "application/json") :: credentials.bearerHeaders ++
      credentials.signatureHeaders web alloy now payload
  body := payload

/-- `post_signed`. -/
def postSigned (now : UInt64) (url : String) (encoded : Except String Bytes)
    (credentials : Credentials) : Except String Response := do
  let payload ← encoded.mapError fun e => s!"could not encode the request body: {e}"
  (web.send (signedRequest web alloy now url payload credentials)).mapError fun e =>
    s!"{url} did not answer: {e}"

/-- `refusal_detail`. -/
def refusalDetail (response : Response) : String :=
  let explanation := (response.body.bind web.decodeExplanation).toOption
  let status := web.displayStatus response.status
  (explanation.bind Explanation.detail).getD s!"HTTP {status}"

/-- How both askers sort what `post_signed` returns. -/
inductive Hearing where
  /-- The party judged the transaction and said no. -/
  | refusal (detail : String)
  /-- The party reached no decision. -/
  | noAnswer (detail : String)
  /-- A success, whose body is still to be read. -/
  | success (response : Response)

/-- The common part of `request_signature` and `decide`. -/
def hear (url : String) : Except String Response → Hearing
  | .error e => .noAnswer e
  | .ok response =>
    let status := web.displayStatus response.status
    if response.isClientError then .refusal (refusalDetail web response)
    else if response.isSuccess then .success response
    else .noAnswer s!"{url} answered HTTP {status}"

/-- What an asker makes of a hearing: its own two errors, or what it reads in the body. -/
def Hearing.answer {ε α : Type} (refused unavailable : String → ε)
    (read : Response → Except ε α) : Hearing → Except ε α
  | .refusal detail => .error (refused detail)
  | .noAnswer detail => .error (unavailable detail)
  | .success response => read response

/-- `RemoteSigner`. -/
structure RemoteSigner where
  url : String
  address : Address
  credentials : Credentials

/-- The body that `request_signature` posts. -/
def RemoteSigner.body (signer : RemoteSigner) (transaction : Option FrameTransaction)
    (hash : B256) : SignRequest where
  sigHash := "0x" ++ alloy.hexEncode hash.val
  sponsor := alloy.lowerHex signer.address
  transaction

/-- What the sponsor authority answers. -/
def RemoteSigner.reply (signer : RemoteSigner) (now : UInt64)
    (transaction : Option FrameTransaction) (hash : B256) : Except String Response :=
  postSigned web alloy now signer.url (web.encodeSign (signer.body alloy transaction hash))
    signer.credentials

/-- How `request_signature` reads a successful answer. -/
def RemoteSigner.readApproval (signer : RemoteSigner) (response : Response) :
    Except SignerError Bytes := do
  let url := signer.url
  let approved ← (response.body.bind web.decodeSign).mapError fun e =>
    .unavailable s!"{url} returned an unreadable body: {e}"
  let raw := (stripPrefix "0x" approved).getD approved
  let bytes ← (alloy.hexDecode raw).mapError fun e =>
    .signError s!"{url} returned a malformed signature: {e}"
  let length := bytes.length
  Check.refuseIf (length ≠ 65)
    (.signError s!"{url} returned a {length}-byte signature, expected 65 (v || r || s)")
  return bytes

/-- `request_signature`. -/
def RemoteSigner.requestSignature (signer : RemoteSigner) (now : UInt64)
    (transaction : Option FrameTransaction) (hash : B256) : Except SignerError Bytes :=
  (hear web signer.url (signer.reply web alloy now transaction hash)).answer .refused .unavailable
    (signer.readApproval web alloy)

/-- `PolicyAuthority`. -/
structure PolicyAuthority where
  url : String
  credentials : Credentials

/-- The body that `decide` posts. -/
def PolicyAuthority.body (sponsor : Address) (tx : FrameTransaction) : DecisionRequest where
  sponsor := alloy.lowerHex sponsor
  sender := tx.sender
  maxCost := toString (tx.maxCost alloy).toNat
  transaction := tx

/-- What the policy webhook answers. -/
def PolicyAuthority.reply (authority : PolicyAuthority) (now : UInt64) (sponsor : Address)
    (tx : FrameTransaction) : Except String Response :=
  postSigned web alloy now authority.url
    (web.encodeDecision (PolicyAuthority.body alloy sponsor tx)) authority.credentials

/-- How `decide` reads a successful answer. -/
def PolicyAuthority.readDecision (authority : PolicyAuthority) (response : Response) :
    Except PolicyError Unit := do
  let url := authority.url
  let bytes ← response.body.mapError fun e =>
    .unavailable s!"{url} returned an unreadable body: {e}"
  let payload := web.text bytes
  if trim payload = "" then return ()
  let explanation ← (web.decodeExplanation (utf8 payload)).mapError fun e =>
    .unavailable s!"{url} returned a body that is neither empty nor a decision: {e}"
  Check.refuseIf explanation.isExplicitRefusal
    (.refused (explanation.detail.getD "sponsorship declined"))

/-- `PolicyAuthority::decide`. -/
def PolicyAuthority.decide (authority : PolicyAuthority) (now : UInt64) (sponsor : Address)
    (tx : FrameTransaction) : Except PolicyError Unit :=
  (hear web authority.url (authority.reply web alloy now sponsor tx)).answer .refused .unavailable
    (authority.readDecision web)

end Asking

/-- `alloy::primitives::Signature`. -/
structure Signature where
  r : B256
  s : B256
  yParity : Bool

/-- `Signature::as_rsy`. -/
def Signature.asRsy (signature : Signature) : Bytes :=
  signature.r.val ++ signature.s.val ++ [signature.yParity.toUInt8]

/-- `to_frame_signature`. -/
def toFrameSignature (signature : Signature) : Bytes :=
  let rsy := signature.asRsy
  rsy.getD 64 0 :: rsy.take 64

/-- `AlloyAdapter`. -/
structure AlloyAdapter where
  address : Address
  /-- `sign_hash` of the wrapped signer. -/
  inner : B256 → Except String Signature

/-- `sign_hash` of an `AlloyAdapter`. -/
def AlloyAdapter.signHash (adapter : AlloyAdapter) (hash : B256) : Except SignerError Bytes :=
  match adapter.inner hash with
  | .ok signature => .ok (toFrameSignature signature)
  | .error e => .error (.signError e)

/-- `SponsorSigner`. -/
inductive SponsorSigner where
  | inMemory (adapter : AlloyAdapter)
  | awsKms (adapter : AlloyAdapter)
  | gcpKms (adapter : AlloyAdapter)
  | remote (signer : RemoteSigner)

/-- `address` of a `SponsorSigner`. -/
def SponsorSigner.address : SponsorSigner → Address
  | .inMemory adapter | .awsKms adapter | .gcpKms adapter => adapter.address
  | .remote signer => signer.address

/-- `sign_sponsor_frame` of a `SponsorSigner`. -/
def SponsorSigner.signSponsorFrame (web : Web) (alloy : Alloy) (now : UInt64) :
    SponsorSigner → FrameTransaction → B256 → Except SignerError Bytes
  | .inMemory adapter, _, hash | .awsKms adapter, _, hash | .gcpKms adapter, _, hash =>
    adapter.signHash hash
  | .remote signer, tx, hash => signer.requestSignature web alloy now (some tx) hash

/-- A `SponsorSigner` as the compiler asks it at a second. -/
def SponsorSigner.signer (web : Web) (alloy : Alloy) (now : UInt64) (sponsor : SponsorSigner) :
    Signer where
  address := sponsor.address
  signSponsorFrame := sponsor.signSponsorFrame web alloy now

/-- The frame signature is the recovery id before the two words. -/
theorem toFrameSignature_eq (signature : Signature) :
    toFrameSignature signature =
      signature.yParity.toUInt8 :: (signature.r.val ++ signature.s.val) := by
  have words : (signature.r.val ++ signature.s.val).length = 64 := by
    rw [List.length_append, signature.r.2, signature.s.2]
  unfold toFrameSignature Signature.asRsy
  generalize signature.r.val ++ signature.s.val = both at words ⊢
  show (both ++ [signature.yParity.toUInt8]).getD 64 0 ::
    (both ++ [signature.yParity.toUInt8]).take 64 = _
  rw [← words, List.take_left, List.getD_eq_getElem?_getD, List.getElem?_concat_length]
  rfl

/-- Texts are told apart by their bytes. -/
theorem utf8_injective {left right : String} (same : utf8 left = utf8 right) : left = right := by
  unfold utf8 at same
  rw [String.toUTF8_eq_toByteArray, String.toUTF8_eq_toByteArray, Array.toList_inj] at same
  exact String.toByteArray_inj.mp (ByteArray.ext same)

/-- No decimal digit is a dot. -/
theorem dot_notMem_utf8 (value : Nat) : '.'.toUInt8 ∉ utf8 (toString value) := by
  unfold utf8
  rw [Nat.toString_eq_ofList_toDigits, String.toUTF8_eq_toByteArray, String.toByteArray_ofList]
  unfold List.utf8Encode
  rw [List.data_toByteArray]
  intro member
  obtain ⟨char, listed, byte⟩ := List.mem_flatMap.mp (by simpa using member)
  have digit := Nat.isDigit_of_mem_toDigits (by decide) (by decide) listed
  simp only [Char.isDigit, Bool.and_eq_true, decide_eq_true_eq, ge_iff_le, UInt32.le_iff_toNat_le]
    at digit
  have low : 48 ≤ char.val.toNat := digit.1
  have high : char.val.toNat ≤ 57 := digit.2
  have narrow : char.utf8Size = 1 := Char.utf8Size_eq_one_iff.mpr (by
    rw [UInt32.le_iff_toNat_le]
    show char.val.toNat ≤ 127
    omega)
  rw [String.utf8EncodeChar_eq_singleton narrow, List.mem_singleton] at byte
  have value := congrArg UInt8.toNat byte
  rw [UInt32.toNat_toUInt8] at value
  have dot : '.'.toUInt8.toNat = 46 := rfl
  omega

/-- A digested message determines its timestamp and its body. -/
theorem signedMessage_inj {timestamp other : UInt64} {body later : Bytes} :
    signedMessage timestamp body = signedMessage other later ↔
      timestamp = other ∧ body = later := by
  unfold signedMessage
  rw [Delimited.free_append_cons_inj (dot_notMem_utf8 _) (dot_notMem_utf8 _)]
  refine and_congr_left fun _ => ?_
  constructor
  · intro same
    exact UInt64.toNat_inj.mp (toString_injective (congrArg String.toList (utf8_injective same)))
  · rintro rfl
    rfl

/-- The request names a second, and carries the signature over it and the body: what a receiver
that knows the secret checks. -/
def Request.Authentic (web : Web) (alloy : Alloy) (secret : String) (request : Request)
    (timestamp : UInt64) : Prop :=
  (timestampHeader, toString timestamp.toNat) ∈ request.headers ∧
    (signatureHeader, "sha256=" ++ sign web alloy secret timestamp request.body) ∈ request.headers

/-- A message has the digest of another one under the secret. -/
def Web.SecondPreimage (web : Web) (secret : String) (message other : Bytes) : Prop :=
  other ≠ message ∧ web.hmacSha256 (utf8 secret) other = web.hmacSha256 (utf8 secret) message

/-- A captured signature proves nothing but the request it was captured from: every request the
engine signs is authentic, and one that carries no other signature is authentic for its second and
its body only, unless its message is a second preimage of the one that was signed. -/
theorem Request.replay_bound {web : Web} {alloy : Alloy} {credentials : Credentials}
    {secret : String} (held : credentials.hmacSecret = some secret) (now : UInt64) (url : String)
    (payload : Bytes) (forged : Request) (timestamp : UInt64)
    (authentic : forged.Authentic web alloy secret timestamp)
    (captured : ∀ value, (signatureHeader, value) ∈ forged.headers →
      (signatureHeader, value) ∈ (signedRequest web alloy now url payload credentials).headers) :
    (signedRequest web alloy now url payload credentials).Authentic web alloy secret now ∧
      (timestamp = now ∧ forged.body = payload ∨
        web.SecondPreimage secret (signedMessage now payload)
          (signedMessage timestamp forged.body)) := by
  have carried : credentials.signatureHeaders web alloy now payload =
      [(timestampHeader, toString now.toNat),
        (signatureHeader, "sha256=" ++ sign web alloy secret now payload)] := by
    unfold Credentials.signatureHeaders
    rw [held]
  have bare (value : String) : (signatureHeader, value) ∉ credentials.bearerHeaders := by
    unfold Credentials.bearerHeaders
    split <;> simp [signatureHeader]
  refine ⟨⟨?_, ?_⟩, ?_⟩
  · simp [signedRequest, carried]
  · simp [signedRequest, carried]
  · have same := captured _ authentic.2
    simp only [signedRequest, carried, List.cons_append, List.mem_cons, List.mem_append, bare,
      false_or, List.not_mem_nil, or_false, Prod.mk.injEq] at same
    have digests : sign web alloy secret timestamp forged.body =
        sign web alloy secret now payload := by
      simpa [signatureHeader, timestampHeader] using same
    by_cases equal : signedMessage timestamp forged.body = signedMessage now payload
    · exact .inl (signedMessage_inj.mp equal)
    · refine .inr ⟨equal, ?_⟩
      have decoded := congrArg alloy.hexDecode digests
      unfold sign at decoded
      rw [alloy.hexDecode_hexEncode, alloy.hexDecode_hexEncode] at decoded
      exact Except.ok.inj decoded

/-- A network that is down, and the digest of one message. -/
def silentWeb : Web where
  send _ := .error "error sending request"
  displayStatus status := toString status
  hmacSha256 key message :=
    if key = [0x73] ∧ message = [0x35, 0x2e, 0x7b, 0x7d] then
      [0x77, 0x3b, 0xda, 0x49, 0x3d, 0xbd, 0x21, 0xf7, 0xba, 0x12, 0x41, 0x52, 0xaf, 0xde, 0x2f,
        0xfc, 0x93, 0x15, 0x5f, 0x8f, 0x65, 0x99, 0x51, 0x1f, 0x49, 0xb7, 0xbf, 0x46, 0x41, 0xbd,
        0xa3, 0x3e]
    else []
  encodeSign _ := .error "no body"
  encodeDecision _ := .error "no body"
  decodeSign _ := .error "EOF while parsing a value"
  decodeExplanation _ := .error "EOF while parsing a value"
  text _ := ""

/-- The reference primitives; nothing here asks for a keccak hash. -/
def silentAlloy : Alloy := .reference ⟨List.replicate 32 0, by decide⟩

/-- The headers of a captured request, sent to another place. -/
def resentRequest : Request where
  url := "https://other.example"
  headers :=
    [(signatureHeader,
        "sha256=773bda493dbd21f7ba124152afde2ffc93155f8f6599511f49b7bf4641bda33e"),
      (timestampHeader, "5")]
  body := [0x7b, 0x7d]

/-- What was captured is authentic elsewhere too, for the second and the body it was signed for. -/
theorem replay_bound_resentRequest :
    (signedRequest silentWeb silentAlloy 5 "https://sign.example" [0x7b, 0x7d]
        ⟨none, some "s"⟩).Authentic silentWeb silentAlloy "s" 5 ∧
      ((5 : UInt64) = 5 ∧ resentRequest.body = [0x7b, 0x7d] ∨
        silentWeb.SecondPreimage "s" (signedMessage 5 [0x7b, 0x7d])
          (signedMessage 5 resentRequest.body)) := by
  have digest : sign silentWeb silentAlloy "s" 5 [0x7b, 0x7d] =
      "773bda493dbd21f7ba124152afde2ffc93155f8f6599511f49b7bf4641bda33e" := by
    decide
  refine Request.replay_bound rfl 5 "https://sign.example" [0x7b, 0x7d] resentRequest 5 ⟨?_, ?_⟩
    fun value listed => ?_
  · exact List.mem_cons_of_mem _ List.mem_cons_self
  · rw [show resentRequest.body = [0x7b, 0x7d] from rfl, digest]
    exact List.mem_cons_self
  · have same : value = "sha256=" ++ sign silentWeb silentAlloy "s" 5 [0x7b, 0x7d] := by
      rw [digest]
      simpa [resentRequest, signatureHeader, timestampHeader] using listed
    rw [same]
    simp [signedRequest, Credentials.signatureHeaders]

section Asking

variable {web : Web} {alloy : Alloy} {response : Response}

/-- An approval is read if it holds a text that decodes to 65 bytes. -/
theorem RemoteSigner.readApproval_eq_ok {signer : RemoteSigner} {signature : Bytes} :
    signer.readApproval web alloy response = .ok signature ↔
      ∃ text, response.body.bind web.decodeSign = .ok text ∧
        alloy.hexDecode ((stripPrefix "0x" text).getD text) = .ok signature ∧
        signature.length = 65 := by
  unfold RemoteSigner.readApproval
  simp only [Check.bind_eq_ok, Check.mapError_eq_ok]
  constructor
  · rintro ⟨text, read, bytes, decoded, _, sized, same⟩
    have equal : bytes = signature := Except.ok.inj same
    subst equal
    exact ⟨text, read, decoded, not_not.mp (Check.refuseIf_eq_ok.mp sized)⟩
  · rintro ⟨text, read, decoded, sized⟩
    exact ⟨text, read, signature, decoded, (), Check.refuseIf_eq_ok.mpr (not_not.mpr sized), rfl⟩

/-- A decision is read as an approval if it says nothing, or something that does not say no. -/
theorem PolicyAuthority.readDecision_eq_ok {authority : PolicyAuthority} :
    authority.readDecision web response = .ok () ↔
      ∃ bytes, response.body = .ok bytes ∧ (trim (web.text bytes) = "" ∨
        ∃ explanation, web.decodeExplanation (utf8 (web.text bytes)) = .ok explanation ∧
          explanation.isExplicitRefusal = false) := by
  unfold PolicyAuthority.readDecision
  simp only [Check.bind_eq_ok, Check.mapError_eq_ok]
  refine exists_congr fun bytes => and_congr_right fun _ => ?_
  by_cases blank : trim (web.text bytes) = ""
  · rw [if_pos blank]
    exact iff_of_true rfl (.inl blank)
  · rw [if_neg blank, Check.bind_eq_ok, or_iff_right blank]
    refine exists_congr fun explanation => ?_
    rw [Check.mapError_eq_ok, Check.refuseIf_eq_ok, Bool.not_eq_true]

/-- The body of a success holds a signature. -/
def Web.ReadsSignature (web : Web) (response : Response) : Prop :=
  ∃ text, response.body.bind web.decodeSign = .ok text

/-- The body of a success says nothing, or holds a decision. -/
def Web.ReadsDecision (web : Web) (response : Response) : Prop :=
  ∃ bytes, response.body = .ok bytes ∧ (trim (web.text bytes) = "" ∨
    ∃ explanation, web.decodeExplanation (utf8 (web.text bytes)) = .ok explanation)

/-- An approval without a signature in it is no answer. -/
theorem RemoteSigner.readApproval_of_unread (signer : RemoteSigner)
    (unread : ¬web.ReadsSignature response) :
    ∃ detail, signer.readApproval web alloy response = .error (.unavailable detail) := by
  unfold RemoteSigner.readApproval
  cases read : response.body.bind web.decodeSign with
  | ok text => exact absurd ⟨text, read⟩ unread
  | error failure => exact ⟨_, rfl⟩

/-- An approval with a signature that is not 65 bytes is none. -/
theorem RemoteSigner.readApproval_of_broken (signer : RemoteSigner)
    (reads : web.ReadsSignature response)
    (broken : ∀ signature, signer.readApproval web alloy response ≠ .ok signature) :
    ∃ detail, signer.readApproval web alloy response = .error (.signError detail) := by
  obtain ⟨text, read⟩ := reads
  unfold RemoteSigner.readApproval at broken ⊢
  rw [read] at broken ⊢
  dsimp only [Except.mapError, bind, Except.bind] at broken ⊢
  cases decoded : alloy.hexDecode ((stripPrefix "0x" text).getD text) with
  | error failure => exact ⟨_, rfl⟩
  | ok bytes =>
    rw [decoded] at broken
    dsimp only at broken ⊢
    by_cases sized : bytes.length = 65
    · refine absurd ?_ (broken bytes)
      simp [Check.refuseIf, sized]
      rfl
    · simp only [Check.refuseIf, sized, not_false_eq_true, ne_eq, ↓reduceIte]
      exact ⟨_, rfl⟩

/-- A success that holds no decision is no answer. -/
theorem PolicyAuthority.readDecision_of_unread (authority : PolicyAuthority)
    (unread : ¬web.ReadsDecision response) :
    ∃ detail, authority.readDecision web response = .error (.unavailable detail) := by
  unfold PolicyAuthority.readDecision
  cases body : response.body with
  | error failure => exact ⟨_, rfl⟩
  | ok bytes =>
    have said : trim (web.text bytes) ≠ "" := fun blank => unread ⟨bytes, body, .inl blank⟩
    cases read : web.decodeExplanation (utf8 (web.text bytes)) with
    | ok explanation => exact absurd ⟨bytes, body, .inr ⟨explanation, read⟩⟩ unread
    | error failure =>
      simp only [Except.mapError, bind, Except.bind, if_neg said, read]
      exact ⟨_, rfl⟩

/-- A success that says no is a refusal. -/
theorem PolicyAuthority.readDecision_of_no (authority : PolicyAuthority) {bytes : Bytes}
    {explanation : Explanation} (body : response.body = .ok bytes)
    (said : trim (web.text bytes) ≠ "")
    (read : web.decodeExplanation (utf8 (web.text bytes)) = .ok explanation)
    (no : explanation.isExplicitRefusal = true) :
    authority.readDecision web response =
      .error (.refused (explanation.detail.getD "sponsorship declined")) := by
  unfold PolicyAuthority.readDecision
  simp [body, Except.mapError, bind, Except.bind, said, read, Check.refuseIf, no]

/-- Every signature of a `SponsorSigner` has 65 bytes, whichever backend made it. -/
theorem SponsorSigner.length_of_signed {sponsor : SponsorSigner} {now : UInt64}
    {tx : FrameTransaction} {hash : B256} {signature : Bytes}
    (signed : sponsor.signSponsorFrame web alloy now tx hash = .ok signature) :
    signature.length = 65 := by
  have adapted (adapter : AlloyAdapter) (signs : adapter.signHash hash = .ok signature) :
      signature.length = 65 := by
    unfold AlloyAdapter.signHash at signs
    split at signs
    · next made _ =>
      rw [← Except.ok.inj signs, toFrameSignature_eq, List.length_cons, List.length_append, made.r.2,
        made.s.2]
    · cases signs
  cases sponsor with
  | inMemory adapter => exact adapted adapter signed
  | awsKms adapter => exact adapted adapter signed
  | gcpKms adapter => exact adapted adapter signed
  | remote signer =>
    show signature.length = 65
    have asked : signer.requestSignature web alloy now (some tx) hash = .ok signature := signed
    unfold RemoteSigner.requestSignature at asked
    cases heard : hear web signer.url
        (signer.reply web alloy now (some tx) hash) with
    | refusal detail =>
      rw [heard] at asked
      cases asked
    | noAnswer detail =>
      rw [heard] at asked
      cases asked
    | success response =>
      rw [heard] at asked
      obtain ⟨text, -, -, sized⟩ := RemoteSigner.readApproval_eq_ok.mp asked
      exact sized

end Asking

end OpenEngine.Core
