import Mathlib.Data.List.Infix
import OpenEngine.Core.Gateway

/-!
# Broadcasting over JSON-RPC

`AlloyGateway::send_raw_transaction` of `gateway.rs`. A node that rejects a transaction it already
has says so in prose, and the gateway then reports the transaction as sent; it searches the
displayed error for a few phrases. A phrase that is only the end of a longer word, as in "unknown
transaction", is found too, and so is one in the data the node attached.
-/

namespace OpenEngine.Core

/-- `ErrorPayload` of `alloy`: the error object of a JSON-RPC response. -/
structure ErrorPayload where
  code : Int
  message : String
  data : Option String
deriving DecidableEq

/-- `RpcError` of `alloy`, as `as_error_resp` tells its cases apart: the node answered with an
error, or there is only a text. -/
inductive RpcError where
  | errorResp (payload : ErrorPayload)
  | other (text : String)
deriving DecidableEq

/-- `classify_rpc_error`; `display` is the `Display` of `ErrorPayload`. -/
def classifyRpcError (display : ErrorPayload → String) : RpcError → GatewayError
  | .errorResp resp =>
    if resp.code = -32601 then .unsupportedMethod resp.message else .rpcError (display resp)
  | .other text => .transport text

/-- `char::to_lowercase` as an ASCII phrase can tell: beside the ASCII letters, only the Kelvin sign
and the dotted capital I have ASCII in their lowercase. -/
def lowerChar (char : Char) : List Char :=
  if char.toNat = 0x212a then ['k']
  else if char.toNat = 0x130 then ['i', Char.ofNat 0x307]
  else [char.toLower]

/-- `str::to_lowercase` as an ASCII phrase can tell. -/
def lowercase (text : List Char) : List Char := text.flatMap lowerChar

/-- The phrases `is_already_known` looks for. -/
def knownPhrases : List (List Char) :=
  ["already known", "already imported", "alreadyknown", "known transaction"].map String.toList

/-- `is_already_known`. -/
def isAlreadyKnown (message : String) : Bool :=
  knownPhrases.any fun needle => needle <:+: lowercase message.toList

/-- `AlloyGateway::send_raw_transaction`; `request` is what the RPC client answers. -/
def sendRawTransaction (keccak256 : Bytes → B256) (display : ErrorPayload → String)
    (request : String → Bytes → Except RpcError B256) (bytes : Bytes) : Except GatewayError B256 :=
  let localHash := keccak256 bytes
  match request "eth_sendRawTransaction" bytes with
  | .ok hash => .ok hash
  | .error e =>
    match classifyRpcError display e with
    | .rpcError message =>
      if isAlreadyKnown message then .ok localHash else .error (.rpcError message)
    | other => .error other

/-- The text `alloy` documents for an `ErrorPayload`. -/
def ErrorPayload.text (payload : ErrorPayload) : String :=
  "error code " ++ toString payload.code ++ ": " ++ payload.message ++
    (payload.data.map fun data => ", data: " ++ data).getD ""

/-- One of the phrases stands in a message, in either case and not as the end of a longer word. -/
def FreeStanding (letter : Char → Bool) (message : String) : Prop :=
  ∃ position < message.toList.length,
    (∀ char ∈ (message.toList.take position).getLast?, letter char = false) ∧
    ∃ needle ∈ knownPhrases, needle <+: lowercase (message.toList.drop position)

instance (letter : Char → Bool) (message : String) : Decidable (FreeStanding letter message) :=
  decidable_of_iff
    ((List.range message.toList.length).any (fun position =>
      (message.toList.take position).getLast?.all (fun char => letter char == false) &&
        knownPhrases.any fun needle =>
          needle.isPrefixOf (lowercase (message.toList.drop position))) = true) (by
      simp [FreeStanding, Option.all_eq_true])

section

variable {α : Type} {needle : List α}

/-- What starts a text before a separator that it does not have starts the part before it. -/
theorem prefix_of_prefix_append {separator : α} (absent : separator ∉ needle) {left right : List α}
    (starts : needle <+: left ++ separator :: right) : needle <+: left := by
  induction left generalizing needle with
  | nil =>
    cases needle with
    | nil => exact List.prefix_refl _
    | cons head needle =>
      obtain ⟨same, -⟩ := List.cons_prefix_cons.mp starts
      exact absurd (same ▸ List.mem_cons_self) absent
  | cons char left ih =>
    cases needle with
    | nil => exact List.nil_prefix
    | cons head needle =>
      obtain ⟨same, rest⟩ := List.cons_prefix_cons.mp starts
      have later := ih (fun mem => absent (List.mem_cons_of_mem head mem)) rest
      exact List.cons_prefix_cons.mpr ⟨same, later⟩

/-- What is searched for in two parts with a separator between that it does not have is in one of
them. -/
theorem infix_append_cons {separator : α} (absent : separator ∉ needle) (left right : List α) :
    needle <:+: left ++ separator :: right ↔ needle <:+: left ∨ needle <:+: right := by
  constructor
  · intro found
    induction left with
    | nil =>
      obtain starts | later := List.infix_cons_iff.mp found
      · exact .inl (prefix_of_prefix_append absent starts).isInfix
      · exact .inr later
    | cons char left ih =>
      obtain starts | later := List.infix_cons_iff.mp found
      · have starts : needle <+: (char :: left) ++ separator :: right := starts
        exact .inl (prefix_of_prefix_append absent starts).isInfix
      · obtain inLeft | inRight := ih later
        · exact .inl (List.infix_cons inLeft)
        · exact .inr inRight
  · rintro (inLeft | inRight)
    · exact inLeft.trans (List.prefix_append left _).isInfix
    · exact inRight.trans ((List.suffix_cons separator right).trans
        (List.suffix_append left _)).isInfix

end

/-- Lowercase parts side by side. -/
@[simp] theorem lowercase_append (left right : List Char) :
    lowercase (left ++ right) = lowercase left ++ lowercase right :=
  List.flatMap_append

/-- A digit is its own lowercase. -/
theorem lowerChar_of_isDigit {char : Char} (isDigit : char.isDigit = true) :
    lowerChar char = [char] := by
  have bounds : 48 ≤ char.toNat ∧ char.toNat ≤ 57 := by
    simpa [Char.isDigit, UInt32.le_iff_toNat_le] using isDigit
  have notUpper : char.toLower = char := by
    unfold Char.toLower
    rw [dif_neg]
    rintro ⟨above, below⟩
    have above : 65 ≤ char.toNat := by simpa [UInt32.le_iff_toNat_le] using above
    omega
  rw [lowerChar, if_neg (by omega), if_neg (by omega), notUpper]

/-- The digits of a code and its sign have no letter. -/
theorem letter_not_mem_code (code : Int) : 'a' ∉ lowercase (toString code).toList := by
  have digits (number : Nat) : 'a' ∉ lowercase number.repr.toList := by
    intro listed
    obtain ⟨char, digit, lowered⟩ := List.mem_flatMap.mp listed
    rw [Nat.repr, String.toList_ofList] at digit
    have isDigit := Nat.isDigit_of_mem_toDigits (by decide) (by decide) digit
    rw [lowerChar_of_isDigit isDigit, List.mem_singleton] at lowered
    rw [← lowered] at isDigit
    exact absurd isDigit (by decide)
  rw [Int.toString_eq_repr, Int.repr_eq_if]
  split
  · exact digits _
  · rw [String.toList_append, lowercase_append, List.mem_append]
    rintro (sign | digit)
    · exact absurd sign (by decide)
    · exact digits _ digit

/-- The phrases all have the letter `a`, are longer than the label of the data, start with no blank
and have no punctuation. -/
theorem knownPhrases_shape {needle : List Char} (phrase : needle ∈ knownPhrases) :
    'a' ∈ needle ∧ 5 < needle.length ∧ needle.head? ≠ some ' ' ∧ ':' ∉ needle ∧ ',' ∉ needle := by
  have every : knownPhrases.all fun needle => decide ('a' ∈ needle ∧ 5 < needle.length ∧
      needle.head? ≠ some ' ' ∧ ':' ∉ needle ∧ ',' ∉ needle) := by decide +kernel
  simpa using List.all_eq_true.mp every needle phrase

/-- A phrase behind a blank is found behind the blank only. -/
theorem infix_blank {needle : List Char} (phrase : needle ∈ knownPhrases) (text : List Char) :
    needle <:+: ' ' :: text ↔ needle <:+: text := by
  obtain ⟨letter, -, head, -, -⟩ := knownPhrases_shape phrase
  rw [List.infix_cons_iff, or_iff_right]
  intro starts
  cases needle with
  | nil => simp at letter
  | cons first needle =>
    obtain ⟨same, -⟩ := List.cons_prefix_cons.mp starts
    simp [same] at head

/-- The displayed error has a phrase exactly when the node's message or its data has it. -/
theorem infix_display {display : ErrorPayload → String}
    (shows : ∀ payload, display payload = payload.text) (payload : ErrorPayload)
    {needle : List Char} (phrase : needle ∈ knownPhrases) :
    needle <:+: lowercase (display payload).toList ↔
      needle <:+: lowercase payload.message.toList ∨
        ∃ data ∈ payload.data, needle <:+: lowercase data.toList := by
  obtain ⟨letter, longer, -, noColon, noComma⟩ := knownPhrases_shape phrase
  have inCode :
      ¬ needle <:+: lowercase ("error code ".toList ++ (toString payload.code).toList) := by
    intro found
    have listed := found.subset letter
    rw [lowercase_append, List.mem_append] at listed
    obtain inLabel | inDigits := listed
    · exact absurd inLabel (by decide)
    · exact letter_not_mem_code payload.code inDigits
  have inLabel : ¬ needle <:+: lowercase " data".toList := by
    intro found
    have short : (lowercase " data".toList).length = 5 := by decide
    have fits := found.length_le
    omega
  have afterCode (text : List Char) :
      needle <:+: lowercase ("error code ".toList ++ (toString payload.code).toList ++
        ": ".toList ++ text) ↔ needle <:+: lowercase text := by
    have parts : lowercase ("error code ".toList ++ (toString payload.code).toList ++ ": ".toList ++
        text) = lowercase ("error code ".toList ++ (toString payload.code).toList) ++
          ':' :: ' ' :: lowercase text := by
      simp only [lowercase_append, List.append_assoc]
      rfl
    rw [parts, infix_append_cons noColon, infix_blank phrase, or_iff_right inCode]
  have afterLabel (text data : List Char) :
      needle <:+: lowercase (text ++ (", data: ".toList ++ data)) ↔
        needle <:+: lowercase text ∨ needle <:+: lowercase data := by
    have parts : lowercase (text ++ (", data: ".toList ++ data)) =
        lowercase text ++ ',' :: (lowercase " data".toList ++ ':' :: ' ' :: lowercase data) := by
      simp only [lowercase_append]
      rfl
    rw [parts, infix_append_cons noComma, infix_append_cons noColon, infix_blank phrase,
      or_iff_right inLabel]
  rw [shows payload]
  delta ErrorPayload.text
  cases payload.data with
  | none =>
    simp only [String.toList_append, Option.map_none, Option.getD_none]
    rw [List.append_assoc, afterCode]
    simp
  | some data =>
    simp only [String.toList_append, Option.map_some, Option.getD_some]
    rw [List.append_assoc, afterCode, afterLabel]
    simp

/-- Whether a message has one of the phrases. -/
theorem isAlreadyKnown_iff (message : String) :
    isAlreadyKnown message = true ↔
      ∃ needle ∈ knownPhrases, needle <:+: lowercase message.toList := by
  rw [isAlreadyKnown, List.any_eq_true]
  simp only [decide_eq_true_eq]

/-- The gateway finds a phrase exactly when the node's message or its data has one. -/
theorem isAlreadyKnown_display {display : ErrorPayload → String}
    (shows : ∀ payload, display payload = payload.text) (payload : ErrorPayload) :
    isAlreadyKnown (display payload) = true ↔
      isAlreadyKnown payload.message = true ∨
        ∃ data ∈ payload.data, isAlreadyKnown data = true := by
  simp only [isAlreadyKnown_iff]
  constructor
  · rintro ⟨needle, phrase, found⟩
    obtain inMessage | ⟨data, attached, inData⟩ := (infix_display shows payload phrase).mp found
    · exact .inl ⟨needle, phrase, inMessage⟩
    · exact .inr ⟨data, attached, needle, phrase, inData⟩
  · rintro (⟨needle, phrase, inMessage⟩ | ⟨data, attached, needle, phrase, inData⟩)
    · exact ⟨needle, phrase, (infix_display shows payload phrase).mpr (.inl inMessage)⟩
    · have found := (infix_display shows payload phrase).mpr (.inr ⟨data, attached, inData⟩)
      exact ⟨needle, phrase, found⟩

/-- A node's error makes the gateway report the transaction as sent when it is no missing method and
its message or its data has one of the phrases; no other error does. -/
theorem sendRawTransaction_ok (keccak256 : Bytes → B256) {display : ErrorPayload → String}
    (shows : ∀ payload, display payload = payload.text)
    (request : String → Bytes → Except RpcError B256) (bytes : Bytes) (error : RpcError)
    (failed : request "eth_sendRawTransaction" bytes = .error error) :
    (∃ hash, sendRawTransaction keccak256 display request bytes = .ok hash) ↔
      ∃ payload, error = .errorResp payload ∧ payload.code ≠ -32601 ∧
        (isAlreadyKnown payload.message = true ∨
          ∃ data ∈ payload.data, isAlreadyKnown data = true) := by
  rw [sendRawTransaction, failed]
  cases error with
  | other text => simp [classifyRpcError]
  | errorResp payload =>
    by_cases missing : payload.code = -32601
    · simp [classifyRpcError, missing]
    · have found := isAlreadyKnown_display shows payload
      cases known : isAlreadyKnown (display payload) with
      | true =>
        have mentioned := found.mp known
        simpa [classifyRpcError, missing, known] using mentioned
      | false =>
        have unmentioned := mt found.mpr (by simp [known])
        simpa [classifyRpcError, missing, known] using unmentioned

/-- A transaction is reported as sent only when the node returned a hash or said, in a phrase of its
own, that it has the transaction. -/
def SentOnlyIfSaid (letter : Char → Bool) (keccak256 : Bytes → B256)
    (display : ErrorPayload → String) (request : String → Bytes → Except RpcError B256)
    (bytes : Bytes) : Prop :=
  (∃ hash, sendRawTransaction keccak256 display request bytes = .ok hash) →
    (∃ hash, request "eth_sendRawTransaction" bytes = .ok hash) ∨
    ∃ payload, request "eth_sendRawTransaction" bytes = .error (.errorResp payload) ∧
      FreeStanding letter payload.message

/-- The node's answers after which only what the node said is reported as sent: those that are no
error of the node, say that the method is missing, have a phrase of its own in the message, or have
none of the phrases anywhere, neither as the end of a longer word nor in the data. -/
theorem sentOnlyIfSaid_iff (letter : Char → Bool) (keccak256 : Bytes → B256)
    (display : ErrorPayload → String) (shows : ∀ payload, display payload = payload.text)
    (request : String → Bytes → Except RpcError B256) (bytes : Bytes) :
    SentOnlyIfSaid letter keccak256 display request bytes ↔
      ∀ payload, request "eth_sendRawTransaction" bytes = .error (.errorResp payload) →
        payload.code = -32601 ∨ FreeStanding letter payload.message ∨
          isAlreadyKnown payload.message = false ∧
            ∀ data ∈ payload.data, isAlreadyKnown data = false := by
  unfold SentOnlyIfSaid
  cases answer : request "eth_sendRawTransaction" bytes with
  | ok hash =>
    simp
  | error error =>
    rw [sendRawTransaction_ok keccak256 shows request bytes error answer]
    constructor
    · intro said payload isResp
      by_cases missing : payload.code = -32601
      · exact .inl missing
      · by_cases mentioned : isAlreadyKnown payload.message = true ∨
            ∃ data ∈ payload.data, isAlreadyKnown data = true
        · obtain ⟨hash, isHash⟩ | ⟨other, isOther, standing⟩ :=
            said ⟨payload, by simpa using isResp, missing, mentioned⟩
          · simp at isHash
          · rw [isResp] at isOther
            cases isOther
            exact .inr (.inl standing)
        · simp only [not_or, not_exists, not_and, Bool.not_eq_true] at mentioned
          exact .inr (.inr mentioned)
    · rintro plain ⟨payload, rfl, present, mentioned⟩
      obtain missing | standing | ⟨silent, noData⟩ := plain payload rfl
      · exact absurd missing present
      · exact .inr ⟨payload, rfl, standing⟩
      · obtain inMessage | ⟨data, attached, inData⟩ := mentioned
        · simp [silent] at inMessage
        · simp [noData data attached] at inData

/-- A node that answers every request with one error. -/
def rejecting (message : String) (_ : String) (_ : Bytes) : Except RpcError B256 :=
  .error (.errorResp ⟨-32000, message, none⟩)

/-- The hash of everything. -/
def constantHash (_ : Bytes) : B256 := ⟨List.replicate 32 0x2a, rfl⟩

/-- A node that says that it has the transaction. -/
theorem sentOnlyIfSaid_alreadyImported :
    SentOnlyIfSaid Char.isAlpha constantHash ErrorPayload.text
      (rejecting "txpool: transaction Already Imported") [6] := by
  refine (sentOnlyIfSaid_iff Char.isAlpha constantHash ErrorPayload.text (fun _ => rfl)
    (rejecting "txpool: transaction Already Imported") [6]).mpr ?_
  intro payload answered
  cases answered
  exact .inr (.inl (by decide +kernel))

/-- A rejected transaction is reported as sent when the node's reason ends a longer word in one of
the phrases. -/
theorem unknown_transaction_type_sent :
    ¬ SentOnlyIfSaid Char.isAlpha constantHash ErrorPayload.text
      (rejecting "unknown transaction type") [6] := by
  intro onlyIfSaid
  have sent : sendRawTransaction constantHash ErrorPayload.text
      (rejecting "unknown transaction type") [6] = .ok (constantHash [6]) := by decide +kernel
  obtain ⟨hash, isHash⟩ | ⟨payload, answered, standing⟩ := onlyIfSaid ⟨_, sent⟩
  · cases isHash
  · cases answered
    exact absurd standing (by decide +kernel)

end OpenEngine.Core
