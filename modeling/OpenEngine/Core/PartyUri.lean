import OpenEngine.Core.Numeral
import OpenEngine.Core.OutsideParty

/-!
# The URIs of the outside parties

How a `SPONSOR_SIGNER` URI and a policy webhook's URI become the party that is asked. What stands
behind the question mark configures the engine and is never sent: the address a signer signs as, and
how long an answer may take. A timeout in milliseconds becomes whole seconds, rounded up and at
least one, because a client takes zero for no timeout at all.
-/

namespace OpenEngine.Core

open Delimited

/-- `split_endpoint`. -/
def splitEndpoint (uri : String) : String × Option String :=
  match splitOnce '?' uri.toList with
  | some (endpoint, query) => (String.ofList endpoint, some (String.ofList query))
  | none => (uri, none)

/-- `parse_query_value`: the first part that names the key decides, and an empty value is none. -/
def parseQueryValue (query key : String) : Option String :=
  ((query.toList.splitOn '&').findSome? fun part =>
    stripPrefix (key ++ "=") (String.ofList part)).filter (· ≠ "")

/-- `Display` of `ParseIntError`. -/
def parseIntError (value : String) : String :=
  if value = "" then "cannot parse integer from empty string"
  else if unsignedPart value ≠ [] ∧ (unsignedPart value).all Char.isDigit then
    "number too large to fit in target type"
  else "invalid digit found in string"

/-- `timeout_secs_from_query`. -/
def timeoutSecsFromQuery (query : Option String) (defaultSecs : Nat) : Except String Nat :=
  match query.bind (parseQueryValue · "timeout_ms") with
  | none => .ok defaultSecs
  | some raw =>
    match parseUnsigned (2 ^ 64) raw with
    | none => .error s!"timeout_ms must be a positive integer: {parseIntError raw}"
    | some millis => .ok (max ((millis + 999) / 1000) 1)

/-- What a party's configuration finds outside its URI. Errors are their displayed texts. -/
structure Surroundings where
  /-- The value of `PLAINTEXT_OPT_OUT`. -/
  optOut : Option String
  /-- The values of the variables that hold the credentials. -/
  token : Option String
  secret : Option String
  /-- `build_client`. -/
  buildClient : Nat → Except String Unit
  /-- Why a text is no address. -/
  badAddress : String → String
  /-- `InMemorySigner::new`. -/
  rawKey : String → Except SignerError AlloyAdapter
  /-- `from_aws_kms` and `from_gcp_kms`, which a build without their features refuses. -/
  awsKms : String → Except SignerError AlloyAdapter
  gcpKms : String → Except SignerError AlloyAdapter

/-- `Credentials::from_env`. -/
def Surroundings.credentials (around : Surroundings) : Credentials := .new around.token around.secret

/-- `REMOTE_SIGNER_DEFAULT_TIMEOUT_SECS`. -/
def remoteSignerDefaultTimeoutSecs : Nat := 5

/-- `POLICY_WEBHOOK_DEFAULT_TIMEOUT_SECS`. -/
def policyWebhookDefaultTimeoutSecs : Nat := 5

/-- A party, and the timeout of its client. -/
structure Timed (α : Type) where
  party : α
  timeoutSecs : Nat

/-- `RemoteSigner::new`. -/
def RemoteSigner.new (around : Surroundings) (url : String) (address : Address)
    (credentials : Credentials) (timeoutSecs : Nat) : Except SignerError (Timed RemoteSigner) := do
  (around.buildClient timeoutSecs).mapError .initError
  (validateEndpoint around.optOut url "The sponsor authority").mapError .initError
  return ⟨{ url, address, credentials }, timeoutSecs⟩

/-- `from_remote`. -/
def SponsorSigner.fromRemote (around : Surroundings) (alloy : Alloy) (uri : String) :
    Except SignerError (Timed RemoteSigner) :=
  let (endpoint, query) := splitEndpoint uri
  match query.bind (parseQueryValue · "address") with
  | none =>
    .error (.initError
      "a remote SPONSOR_SIGNER needs ?address=0x<20-bytes>: the address it signs as")
  | some text =>
    match alloy.parseAddress text with
    | none =>
      let e := around.badAddress text
      .error (.initError s!"remote SPONSOR_SIGNER address is invalid: {e}")
    | some address => do
      let timeoutSecs ← (timeoutSecsFromQuery query remoteSignerDefaultTimeoutSecs).mapError
        fun e => .initError s!"remote SPONSOR_SIGNER {e}"
      RemoteSigner.new around endpoint address around.credentials timeoutSecs

/-- `SponsorSigner::from_uri`. -/
def SponsorSigner.fromUri (around : Surroundings) (alloy : Alloy) (uri : String) :
    Except SignerError SponsorSigner :=
  match splitOnce ':' uri.toList with
  | none =>
    .error (.initError
      "SPONSOR_SIGNER must be '<scheme>:<value>' (raw:, aws-kms:, gcp-kms:, https:)")
  | some (scheme, value) =>
    let value := String.ofList value
    match String.ofList scheme with
    | "raw" => (around.rawKey value).map .inMemory
    | "aws-kms" => (around.awsKms value).map .awsKms
    | "gcp-kms" => (around.gcpKms value).map .gcpKms
    | "https" | "http" => (fromRemote around alloy uri).map fun timed => .remote timed.party
    | other =>
      .error (.initError (s!"unknown SPONSOR_SIGNER scheme '{other}' " ++
        "(expected raw, aws-kms, gcp-kms, https, or http)"))

/-- `PolicyAuthority::from_uri`. -/
def PolicyAuthority.fromUri (around : Surroundings) (uri : String) (credentials : Credentials) :
    Except String (Timed PolicyAuthority) := do
  let (endpoint, query) := splitEndpoint uri
  let timeoutSecs ← timeoutSecsFromQuery query policyWebhookDefaultTimeoutSecs
  around.buildClient timeoutSecs
  validateEndpoint around.optOut endpoint "The sponsor policy webhook"
  return ⟨{ url := endpoint, credentials }, timeoutSecs⟩

/-- A query as it is written: the parameters in order. -/
def writeQuery (params : List (String × String)) : String :=
  String.ofList (['&'].intercalate (params.map fun param =>
    param.1.toList ++ '=' :: param.2.toList))

/-- Parameters that can be written in a query: no value is empty, and no separator stands where it
would be read as one. -/
structure Writable (params : List (String × String)) : Prop where
  some_ : params ≠ []
  keys : ∀ param ∈ params, '=' ∉ param.1.toList ∧ '&' ∉ param.1.toList
  values : ∀ param ∈ params, param.2 ≠ "" ∧ '&' ∉ param.2.toList

/-- The value written under a key, the first one if there are more. -/
def writtenValue (params : List (String × String)) (key : String) : Option String :=
  params.findSome? fun param => if param.1 = key then some param.2 else none

/-- A timeout covers what was asked for in milliseconds, and no shorter one of at least a second
does; without a question it is the default. -/
def Covers (asked : Option String) (defaultSecs secs : Nat) : Prop :=
  match asked with
  | none => secs = defaultSecs
  | some raw => ∃ millis, parseUnsigned (2 ^ 64) raw = some millis ∧ 1 ≤ secs ∧
      millis ≤ 1000 * secs ∧ ∀ other, 1 ≤ other → millis ≤ 1000 * other → secs ≤ other

/-- A parameter is found under its own key only. -/
theorem stripPrefix_param {key name : String} (keyFree : '=' ∉ key.toList)
    (nameFree : '=' ∉ name.toList) (value : String) :
    stripPrefix (key ++ "=") (String.ofList (name.toList ++ '=' :: value.toList)) =
      if name = key then some value else none := by
  unfold stripPrefix
  rw [String.toList_append, String.toList_ofList, String.toList_ofList]
  by_cases same : name = key
  · subst same
    have split : name.toList ++ '=' :: value.toList = (name.toList ++ ['=']) ++ value.toList := by
      simp
    rw [if_pos rfl, split, if_pos (List.isPrefixOf_iff_prefix.mpr (List.prefix_append _ _)),
      List.drop_left, String.ofList_toList]
  · rw [if_neg same, if_neg]
    intro starts
    obtain ⟨rest, whole⟩ := List.isPrefixOf_iff_prefix.mp starts
    rw [List.append_assoc, List.singleton_append] at whole
    exact same (String.toList_inj.mp ((free_append_cons_inj keyFree nameFree).mp whole).1.symm)

/-- What was written under a key is read back. -/
theorem parseQueryValue_writeQuery {params : List (String × String)} (writable : Writable params)
    {key : String} (free : '=' ∉ key.toList) :
    parseQueryValue (writeQuery params) key = writtenValue params key := by
  have parts : (writeQuery params).toList.splitOn '&' =
      params.map fun param => param.1.toList ++ '=' :: param.2.toList := by
    unfold writeQuery
    rw [String.toList_ofList]
    refine List.splitOn_intercalate '&' (fun part member => ?_) (by simpa using writable.some_)
    obtain ⟨param, listed, rfl⟩ := List.mem_map.mp member
    have name := (writable.keys param listed).2
    have value := (writable.values param listed).2
    simp [name, value]
  have found : ∀ params : List (String × String), (∀ param ∈ params, '=' ∉ param.1.toList) →
      ((params.map fun param => param.1.toList ++ '=' :: param.2.toList).findSome? fun part =>
        stripPrefix (key ++ "=") (String.ofList part)) = writtenValue params key := by
    intro params named
    induction params with
    | nil => rfl
    | cons param rest ih =>
      have later := ih fun other member => named other (List.mem_cons_of_mem _ member)
      have here := stripPrefix_param free (named param List.mem_cons_self)
      rw [List.map_cons, List.findSome?_cons, here, later, writtenValue, writtenValue,
        List.findSome?_cons]
  unfold parseQueryValue
  rw [parts, found params fun param member => (writable.keys param member).1]
  cases written : writtenValue params key with
  | none => rfl
  | some value =>
    obtain ⟨param, listed, here⟩ := List.exists_of_findSome?_eq_some written
    split at here
    · rw [← Option.some.inj here]
      simp [(writable.values param listed).1]
    · cases here

/-- A URI splits at its question mark. -/
theorem splitEndpoint_written {endpoint : String} (bare : '?' ∉ endpoint.toList) (query : String) :
    splitEndpoint (endpoint ++ "?" ++ query) = (endpoint, some query) := by
  have whole : (endpoint ++ "?" ++ query).toList = endpoint.toList ++ '?' :: query.toList := by
    simp
  unfold splitEndpoint
  rw [whole, splitOnce_of_free bare]
  simp

/-- The timeout is the one that covers what was asked for. -/
theorem timeoutSecsFromQuery_eq_ok {query : Option String} {defaultSecs secs : Nat} :
    timeoutSecsFromQuery query defaultSecs = .ok secs ↔
      Covers (query.bind (parseQueryValue · "timeout_ms")) defaultSecs secs := by
  unfold timeoutSecsFromQuery Covers
  cases query.bind (parseQueryValue · "timeout_ms") with
  | none => simp [eq_comm]
  | some raw =>
    dsimp only
    cases parseUnsigned (2 ^ 64) raw with
    | none => simp
    | some millis =>
      constructor
      · intro same
        have secs_ : max ((millis + 999) / 1000) 1 = secs := Except.ok.inj same
        exact ⟨millis, rfl, by omega, by omega, fun other positive covers => by omega⟩
      · rintro ⟨asked, same, positive, covers, least⟩
        rw [Option.some.inj same] at *
        have exact_ := least (max ((asked + 999) / 1000) 1) (by omega) (by omega)
        exact congrArg Except.ok (by omega)

/-- `RemoteSigner::new` builds what it is told, if there is a client and the endpoint is fit. -/
theorem RemoteSigner.new_eq_ok {around : Surroundings} {url : String} {address : Address}
    {credentials : Credentials} {secs : Nat} {timed : Timed RemoteSigner} :
    RemoteSigner.new around url address credentials secs = .ok timed ↔
      timed = ⟨{ url, address, credentials }, secs⟩ ∧ around.buildClient secs = .ok () ∧
        validateEndpoint around.optOut url "The sponsor authority" = .ok () := by
  unfold RemoteSigner.new
  simp only [Check.bind_eq_ok, Check.mapError_eq_ok]
  constructor
  · rintro ⟨_, built, _, fit, same⟩
    exact ⟨(Except.ok.inj same).symm, built, fit⟩
  · rintro ⟨rfl, built, fit⟩
    exact ⟨(), built, (), fit, rfl⟩

section Written

variable {params : List (String × String)} {endpoint : String}

/-- A signer's URI is read as it was written: the endpoint is what stands before the question mark
and nothing else, the address and the timeout are the ones of the query, and the URI is refused only
for an address or a timeout that does not read, an endpoint that is not fit for credentials, or
without a client. -/
theorem SponsorSigner.fromRemote_written (writable : Writable params)
    (bare : '?' ∉ endpoint.toList) (around : Surroundings) (alloy : Alloy)
    (timed : Timed RemoteSigner) :
    fromRemote around alloy (endpoint ++ "?" ++ writeQuery params) = .ok timed ↔
      timed.party.url = endpoint ∧ timed.party.credentials = around.credentials ∧
        (∃ text, writtenValue params "address" = some text ∧
          alloy.parseAddress text = some timed.party.address) ∧
        Covers (writtenValue params "timeout_ms") remoteSignerDefaultTimeoutSecs
          timed.timeoutSecs ∧
        around.buildClient timed.timeoutSecs = .ok () ∧
        validateEndpoint around.optOut endpoint "The sponsor authority" = .ok () := by
  have address : (some (writeQuery params)).bind (parseQueryValue · "address") =
      writtenValue params "address" := parseQueryValue_writeQuery writable (by decide)
  have timeout : (some (writeQuery params)).bind (parseQueryValue · "timeout_ms") =
      writtenValue params "timeout_ms" := parseQueryValue_writeQuery writable (by decide)
  unfold fromRemote
  rw [splitEndpoint_written bare]
  dsimp only
  rw [address]
  cases written : writtenValue params "address" with
  | none => simp
  | some text =>
    dsimp only
    cases parsed : alloy.parseAddress text with
    | none => simp [parsed]
    | some found =>
      simp only [Check.bind_eq_ok, Check.mapError_eq_ok, timeoutSecsFromQuery_eq_ok, timeout,
        RemoteSigner.new_eq_ok]
      constructor
      · rintro ⟨secs, covers, rfl, built, fit⟩
        exact ⟨rfl, rfl, ⟨text, rfl, parsed⟩, covers, built, fit⟩
      · rintro ⟨url, credentials, ⟨other, same, read⟩, covers, built, fit⟩
        rw [← Option.some.inj same, parsed] at read
        refine ⟨timed.timeoutSecs, covers, ?_, built, fit⟩
        rw [← url, ← credentials, Option.some.inj read]

/-- An engine that reaches nothing and holds a secret. -/
def quietSurroundings : Surroundings where
  optOut := none
  token := some ""
  secret := some "s"
  buildClient _ := .ok ()
  badAddress _ := "invalid string length"
  rawKey _ := .error (.signError "Invalid private key: signature error")
  awsKms _ := .error (.initError
    "SPONSOR_SIGNER scheme 'aws-kms' requires building with --features signer-aws")
  gcpKms _ := .error (.initError
    "SPONSOR_SIGNER scheme 'gcp-kms' requires building with --features signer-gcp")

/-- The parameters may stand in any order, and a second and a half is two. -/
theorem fromRemote_written_twoSeconds :
    SponsorSigner.fromRemote quietSurroundings silentAlloy
        ("https://sign.example/v1" ++ "?" ++ writeQuery
          [("timeout_ms", "1500"), ("address", "0x1111111111111111111111111111111111111111")]) =
      .ok ⟨⟨"https://sign.example/v1", repeatByte 0x11, ⟨none, some "s"⟩⟩, 2⟩ := by
  have writable : Writable
      [("timeout_ms", "1500"), ("address", "0x1111111111111111111111111111111111111111")] :=
    ⟨by simp, by decide, by decide⟩
  have covers : Covers (some "1500") remoteSignerDefaultTimeoutSecs 2 :=
    ⟨1500, by decide, by decide, by decide, fun other _ covers => by omega⟩
  exact (SponsorSigner.fromRemote_written writable (by decide) quietSurroundings silentAlloy
    _).mpr ⟨rfl, rfl, ⟨_, rfl, by decide⟩, covers, rfl, rfl⟩

/-- The webhook's URI is read as it was written. -/
theorem PolicyAuthority.fromUri_written (writable : Writable params)
    (bare : '?' ∉ endpoint.toList) (around : Surroundings) (credentials : Credentials)
    (timed : Timed PolicyAuthority) :
    fromUri around (endpoint ++ "?" ++ writeQuery params) credentials = .ok timed ↔
      timed.party = ⟨endpoint, credentials⟩ ∧
        Covers (writtenValue params "timeout_ms") policyWebhookDefaultTimeoutSecs
          timed.timeoutSecs ∧
        around.buildClient timed.timeoutSecs = .ok () ∧
        validateEndpoint around.optOut endpoint "The sponsor policy webhook" = .ok () := by
  have timeout : (some (writeQuery params)).bind (parseQueryValue · "timeout_ms") =
      writtenValue params "timeout_ms" := parseQueryValue_writeQuery writable (by decide)
  unfold fromUri
  rw [splitEndpoint_written bare]
  simp only [Check.bind_eq_ok, timeoutSecsFromQuery_eq_ok, timeout]
  constructor
  · rintro ⟨secs, covers, _, built, _, fit, same⟩
    rw [← Except.ok.inj same]
    exact ⟨rfl, covers, built, fit⟩
  · rintro ⟨party, covers, built, fit⟩
    refine ⟨timed.timeoutSecs, covers, (), built, (), fit, ?_⟩
    rw [← party]
    rfl

end Written

/-- A URI of a web address names a remote signer or nothing. -/
theorem SponsorSigner.fromUri_of_web {uri : String} {scheme : String}
    (web : scheme = "https" ∨ scheme = "http") {rest : List Char}
    (whole : uri.toList = scheme.toList ++ ':' :: rest) (around : Surroundings) (alloy : Alloy) :
    fromUri around alloy uri =
      (fromRemote around alloy uri).map fun timed => .remote timed.party := by
  have free : ':' ∉ scheme.toList := by
    rcases web with rfl | rfl <;> decide
  unfold fromUri
  rw [whole, splitOnce_of_free free]
  rcases web with rfl | rfl <;> rfl

end OpenEngine.Core
