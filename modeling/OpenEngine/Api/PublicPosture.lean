import OpenEngine.Api.SpendLaw
import OpenEngine.Core.Numeral

/-!
# The public posture

`build_sponsor_policy` reads the guards from the environment and lets the process start only if they
are enough for the posture. The check takes a policy store for both a spend and an admission guard,
whichever of its two counters is configured.
-/

namespace OpenEngine.Api

open OpenEngine.Core OpenEngine.Compiler Redis

/-- `Posture`. -/
inductive Posture where
  | gated
  | public_
deriving DecidableEq

/-- `SponsorPolicy` as the engine builds it: the store is the Redis one, and of the webhook only
whether there is one is decided at boot. -/
structure ConfiguredPolicy where
  maxCostWei : Option U256
  senderAllowlist : Option (List Address)
  store : Option RedisPolicyStore
  authority : Bool

namespace ConfiguredPolicy

/-- `has_spend_guard`. -/
def hasSpendGuard (policy : ConfiguredPolicy) : Bool :=
  policy.maxCostWei.isSome || policy.store.isSome

/-- `has_admission_guard`. -/
def hasAdmissionGuard (policy : ConfiguredPolicy) : Bool :=
  policy.senderAllowlist.isSome || policy.store.isSome

/-- `validate_for`. -/
def validateFor (policy : ConfiguredPolicy) (posture : Posture) (sponsoring : Bool) :
    Except String Unit :=
  if sponsoring = false then .ok ()
  else
    match posture with
    | .gated => .ok ()
    | .public_ =>
      if policy.hasSpendGuard = false then
        .error ("OPEN_ENGINE_MODE=public requires a spend bound: set SPONSOR_MAX_COST_WEI or a " ++
          "per-sender quota/global budget")
      else if policy.hasAdmissionGuard = false then
        .error ("OPEN_ENGINE_MODE=public requires an admission bound: set " ++
          "SPONSOR_SENDER_ALLOWLIST or a per-sender quota")
      else .ok ()

end ConfiguredPolicy

/-- What `build_sponsor_policy` depends on. -/
structure Host where
  /-- `std::env::var`. -/
  var : String → Option String
  /-- Whether `RedisPolicyStore::connect` reaches Redis. -/
  connects : Bool
  /-- Whether `PolicyAuthority::from_uri` takes a URI. -/
  usable : String → Bool

/-- A variable that may be unset; one that is set has to be read. -/
def Host.setting {α : Type} (host : Host) (name : String) (read : String → Option α) :
    Option (Option α) :=
  match host.var name with
  | none => some none
  | some value => (read value).map some

/-- `parse_wei`. -/
def parseWei (alloy : Alloy) (value : String) : Option U256 := (alloy.parseU256 value).toOption

/-- The addresses of `SPONSOR_SENDER_ALLOWLIST`. -/
def parseAllowlist (alloy : Alloy) (value : String) : Option (List Address) :=
  let entries := (value.toList.splitOn ',').map fun entry => trim (String.ofList entry)
  (entries.filter fun entry => entry ≠ "").mapM alloy.parseAddress

/-- The store `build_sponsor_policy` connects when a limit is configured. -/
def Host.buildStore (host : Host) (perSender : Option U256) (windowSecs : Nat)
    (globalBudget : Option U256) (budgetWindowSecs : Nat) : Option (Option RedisPolicyStore) :=
  if perSender.isSome ∨ globalBudget.isSome then
    if host.connects then
      some (some (RedisPolicyStore.connect perSender windowSecs globalBudget budgetWindowSecs))
    else none
  else some none

/-- Whether `build_sponsor_policy` configures the webhook. -/
def Host.buildAuthority (host : Host) : Option Bool :=
  match (host.var "SPONSOR_POLICY_WEBHOOK").filter (· ≠ "") with
  | none => some false
  | some uri => if host.usable uri then some true else none

/-- `build_sponsor_policy`; where it panics the process does not start. -/
def Host.buildSponsorPolicy (host : Host) (alloy : Alloy) (posture : Posture)
    (sponsoring : Bool) : Option ConfiguredPolicy := do
  let maxCostWei ← host.setting "SPONSOR_MAX_COST_WEI" (parseWei alloy)
  let senderAllowlist ← host.setting "SPONSOR_SENDER_ALLOWLIST" (parseAllowlist alloy)
  let perSender ← host.setting "SPONSOR_PER_SENDER_MAX_COST_PER_WINDOW" (parseWei alloy)
  let globalBudget ← host.setting "SPONSOR_GLOBAL_BUDGET_WEI" (parseWei alloy)
  let windowSecs :=
    (← host.setting "SPONSOR_QUOTA_WINDOW_SECS" (parseUnsigned (2 ^ 64))).getD 3600
  let budgetWindowSecs :=
    (← host.setting "SPONSOR_BUDGET_WINDOW_SECS" (parseUnsigned (2 ^ 64))).getD windowSecs
  let store ← host.buildStore perSender windowSecs globalBudget budgetWindowSecs
  let authority ← host.buildAuthority
  let policy : ConfiguredPolicy := { maxCostWei, senderAllowlist, store, authority }
  match policy.validateFor posture sponsoring with
  | .ok _ => some policy
  | .error _ => none

/-- A store that is connected has a limit. -/
theorem Host.guarded_of_buildStore {host : Host} {perSender globalBudget : Option U256}
    {windowSecs budgetWindowSecs : Nat} {store : Option RedisPolicyStore}
    (built : host.buildStore perSender windowSecs globalBudget budgetWindowSecs = some store) :
    ∀ redis ∈ store, redis.Guarded := by
  unfold buildStore at built
  split at built
  · next limited =>
    split at built
    · rw [← Option.some.inj built]
      rintro redis isStore
      rw [← Option.some.inj isStore]
      unfold RedisPolicyStore.Guarded RedisPolicyStore.connect
      simpa only [ne_eq, Option.map_eq_none_iff, Option.isSome_iff_ne_none] using limited
    · cases built
  · rw [← Option.some.inj built]
    intro redis isStore
    cases isStore

/-- A policy that is built passed the check, and its store has a limit. -/
theorem Host.checked_of_built {host : Host} {alloy : Alloy} {posture : Posture} {sponsoring : Bool}
    {policy : ConfiguredPolicy}
    (built : host.buildSponsorPolicy alloy posture sponsoring = some policy) :
    policy.validateFor posture sponsoring = .ok () ∧ ∀ redis ∈ policy.store, redis.Guarded := by
  unfold buildSponsorPolicy at built
  simp only [Option.bind_eq_bind, Option.bind_eq_some_iff] at built
  obtain ⟨maxCostWei, -, senderAllowlist, -, perSender, -, globalBudget, -, windowSecs, -,
    budgetWindowSecs, -, store, isStore, authority, -, checked⟩ := built
  split at checked
  · next valid =>
    rw [← Option.some.inj checked]
    exact ⟨valid, guarded_of_buildStore isStore⟩
  · cases checked

/-- What the check for the public posture sees to: some spend guard and some admission guard, a
store being both. -/
theorem ConfiguredPolicy.validateFor_public {policy : ConfiguredPolicy} :
    policy.validateFor .public_ true = .ok () ↔
      (policy.maxCostWei.isSome ∨ policy.store.isSome) ∧
        (policy.senderAllowlist.isSome ∨ policy.store.isSome) := by
  unfold validateFor hasSpendGuard hasAdmissionGuard
  cases policy.maxCostWei <;> cases policy.senderAllowlist <;> cases policy.store <;> simp

/-- One `compile_and_validate` of an engine that sponsors, with all that is outside the engine as it
behaves in the meantime. -/
structure Compilation where
  now : Nat
  /-- Why the policy store cannot be reached, if it cannot. -/
  outage : Option String
  gateway : ChainGateway
  signer : Signer
  /-- What the webhook answers, if there is one. -/
  webhook : Address → FrameTransaction → Except PolicyError Unit
  payload : FrameTransaction

/-- A sponsored request that was compiled: what it returned, for which sender, and the counters
before and after it. -/
structure Grant where
  compilation : Compilation
  sender : Address
  returned : FrameTransaction
  before : Counters String
  after : Counters String

namespace Compilation

/-- The compiler a request meets. -/
def compiler (call : Compilation) (alloy : Alloy) (policy : ConfiguredPolicy) :
    FrameCompiler Unit where
  alloy := alloy
  gateway := call.gateway
  sponsorSigner := some call.signer
  policy :=
    { maxCostWei := policy.maxCostWei
      senderAllowlist := policy.senderAllowlist
      store := none
      authority := if policy.authority then some call.webhook else none }

/-- The request itself. -/
def compile (call : Compilation) (alloy : Alloy) (policy : ConfiguredPolicy)
    (counters : Counters String) : Except CompilerError FrameTransaction × Counters String :=
  ((call.compiler alloy policy).withStore policy.store call.now call.outage).compileAndValidate
    counters call.payload

/-- The counters after a request. -/
def step (alloy : Alloy) (policy : ConfiguredPolicy) (counters : Counters String)
    (call : Compilation) : Counters String :=
  (call.compile alloy policy counters).2

/-- The grant of a request, if it is sponsored and compiles. -/
def grants (alloy : Alloy) (policy : ConfiguredPolicy) (counters : Counters String)
    (call : Compilation) : List Grant :=
  match call.compile alloy policy counters, alloy.parseAddress call.payload.sender with
  | (.ok returned, after), some sender =>
    if (call.compiler alloy policy).resolvePayer call.payload = .sponsor then
      [{ compilation := call, sender, returned, before := counters, after }]
    else []
  | _, _ => []

/-- What there is to a grant. -/
theorem mem_grants {alloy : Alloy} {policy : ConfiguredPolicy} {counters : Counters String}
    {call : Compilation} {grant : Grant} :
    grant ∈ call.grants alloy policy counters ↔
      grant.compilation = call ∧ grant.before = counters ∧
        call.compile alloy policy counters = (.ok grant.returned, grant.after) ∧
        (call.compiler alloy policy).resolvePayer call.payload = .sponsor ∧
        alloy.parseAddress call.payload.sender = some grant.sender := by
  unfold grants
  constructor
  · intro granted
    split at granted
    · next returned after sender compiled parsed =>
      split at granted
      · next sponsored =>
        rw [List.mem_singleton.mp granted]
        exact ⟨rfl, rfl, compiled, sponsored, parsed⟩
      · cases granted
    · cases granted
  · rintro ⟨isCall, before, compiled, sponsored, parsed⟩
    rw [compiled, parsed]
    dsimp only
    rw [if_pos sponsored, ← isCall, ← before]
    exact List.mem_singleton_self grant

/-- Every sponsored request that compiles is granted. -/
theorem exists_grant {alloy : Alloy} {policy : ConfiguredPolicy} {counters after : Counters String}
    {call : Compilation} {returned : FrameTransaction}
    (compiled : call.compile alloy policy counters = (.ok returned, after))
    (sponsored : (call.compiler alloy policy).resolvePayer call.payload = .sponsor) :
    ∃ grant ∈ call.grants alloy policy counters, grant.returned = returned := by
  obtain ⟨sender, parsed, -⟩ := FrameCompiler.sender_of_sponsored compiled sponsored
  exact ⟨⟨call, sender, returned, counters, after⟩,
    mem_grants.mpr ⟨rfl, rfl, compiled, sponsored, parsed⟩, rfl⟩

end Compilation

/-- A cost in gwei, rounded up. -/
def inGwei (cost : U256) : Nat := (cost.toNat + 999999999) / 1000000000

/-- Only a cost of nothing is no gwei. -/
theorem inGwei_eq_zero {cost : U256} : inGwei cost = 0 ↔ cost = 0 := by
  have free : cost = 0 ↔ cost.toNat = (0 : U256).toNat := BitVec.toNat_eq
  rw [free, show (0 : U256).toNat = 0 from rfl]
  unfold inGwei
  omega

/-- An enabled guard's counter has grown by at least a cost. -/
def Guard.ChargedInFull (guard : Guard) (now : Nat) (cost : U256)
    (before after : Counters String) : Prop :=
  guard.limit.isSome ∧ before.read now guard.key + inGwei cost ≤ after.read now guard.key

/-- A guard charges a cost in full: it lasts and neither the conversion nor the script's rounding
takes any gwei away, or there is nothing to charge and nothing on its counter. -/
def Guard.ChargesInFull (guard : Guard) (now : Nat) (counters : Counters String) (cost : U256) :
    Prop :=
  (guard.Lasts ∧ inGwei cost ≤ Binary64.round (weiToGweiCeil cost)) ∨
    (cost = 0 ∧ counters.read now guard.key = 0)

/-- A guard's counter has grown by at least a cost if and only if the guard charges it in full. -/
theorem Guard.covered_iff {guards : List Guard} {guard : Guard} {now : Nat} {cost : U256}
    {counters later : Counters String}
    (settles : RedisPolicyStore.Settles guards now (weiToGweiCeil cost) counters later)
    (listed : guard ∈ guards) :
    counters.read now guard.key + inGwei cost ≤ later.read now guard.key ↔
      guard.ChargesInFull now counters cost := by
  have free := @inGwei_eq_zero cost
  rw [settles.read_of_mem listed]
  unfold Guard.ChargesInFull
  by_cases lasts : guard.Lasts
  · simp only [lasts, if_true, true_and, ← free]
    omega
  · simp only [lasts, if_false, false_and, false_or, ← free]
    omega

namespace Grant

/-- The sender is on the allowlist, or its quota was charged. -/
def AdmissionBounded (grant : Grant) (alloy : Alloy) (policy : ConfiguredPolicy) : Prop :=
  (∃ allowlist ∈ policy.senderAllowlist, grant.sender ∈ allowlist) ∨
    ∃ redis ∈ policy.store,
      (redis.quotaGuard alloy grant.compilation.now grant.sender).ChargedInFull
        grant.compilation.now (grant.returned.maxCost alloy) grant.before grant.after

/-- The cost is within the ceiling, or the budget or the sender's quota was charged. -/
def SpendBounded (grant : Grant) (alloy : Alloy) (policy : ConfiguredPolicy) : Prop :=
  (∃ ceiling ∈ policy.maxCostWei, grant.compilation.payload.maxCost alloy ≤ ceiling) ∨
    ∃ redis ∈ policy.store, ∃ guard,
      (guard = redis.budgetGuard grant.compilation.now ∨
        guard = redis.quotaGuard alloy grant.compilation.now grant.sender) ∧
      guard.ChargedInFull grant.compilation.now (grant.returned.maxCost alloy) grant.before
        grant.after

end Grant

/-- An enabled guard charges the cost of the transaction with the sponsor's signature filled in, in
full. -/
def Compilation.IsChargedBy (call : Compilation) (alloy : Alloy) (counters : Counters String)
    (guard : Guard) : Prop :=
  guard.limit.isSome ∧ ∃ signature signatures,
    call.signer.signSponsorFrame call.payload (call.payload.computeSigHash alloy) =
        .ok signature ∧
      FrameCompiler.fillSignature (alloy.lowerHex call.signer.address) (alloy.hexEncode signature)
        call.payload.signatures = some signatures ∧
      guard.ChargesInFull call.now counters
        (({ call.payload with signatures := signatures } : FrameTransaction).maxCost alloy)

/-- Admission rests on an allowlist, or on the sender's quota charging in full; spend on a ceiling,
or on one of the two guards charging in full. -/
def ConfiguredPolicy.Bounds (policy : ConfiguredPolicy) (alloy : Alloy)
    (counters : Counters String) (call : Compilation) (sender : Address) : Prop :=
  (policy.senderAllowlist.isSome ∨
      ∃ redis ∈ policy.store,
        call.IsChargedBy alloy counters (redis.quotaGuard alloy call.now sender)) ∧
    (policy.maxCostWei.isSome ∨
      ∃ redis ∈ policy.store, ∃ guard,
        (guard = redis.budgetGuard call.now ∨ guard = redis.quotaGuard alloy call.now sender) ∧
        call.IsChargedBy alloy counters guard)

section Granted

variable {alloy : Alloy} {policy : ConfiguredPolicy} {counters : Counters String}
  {call : Compilation} {grant : Grant}

/-- A grant passed the guards on the transaction as submitted. -/
theorem Compilation.guarded_of_granted (granted : grant ∈ call.grants alloy policy counters) :
    (∀ allowlist ∈ policy.senderAllowlist, grant.sender ∈ allowlist) ∧
      ∀ ceiling ∈ policy.maxCostWei, call.payload.maxCost alloy ≤ ceiling := by
  obtain ⟨-, -, compiled, sponsored, parsed⟩ := mem_grants.mp granted
  obtain ⟨signer, signature, signatures, injected⟩ :=
    FrameCompiler.compileAndValidate_sponsored compiled sponsored
  have checked := injected.guarded
  refine ⟨fun allowlist listed => ?_, fun ceiling limited => ?_⟩
  · obtain ⟨sender, isSender, rest⟩ := Check.bind_eq_ok.mp checked
    obtain ⟨_, admitted, -⟩ := Check.bind_eq_ok.mp rest
    have same : sender = grant.sender := by
      change parseSender alloy call.payload = .ok sender at isSender
      unfold parseSender at isSender
      rw [parsed] at isSender
      exact (Except.ok.inj isSender).symm
    change SponsorPolicy.checkAllowlist _ sender = _ at admitted
    unfold SponsorPolicy.checkAllowlist at admitted
    dsimp only [FrameCompiler.withStore, compiler] at admitted
    rw [show policy.senderAllowlist = some allowlist from listed] at admitted
    dsimp only at admitted
    split at admitted
    · next member => exact same ▸ member
    · cases admitted
  · exact FrameCompiler.maxCost_le_of_guarded limited checked

/-- Of a grant the condition speaks about the transaction that is returned. -/
theorem Compilation.isChargedBy_iff (granted : grant ∈ call.grants alloy policy counters)
    (guard : Guard) :
    call.IsChargedBy alloy counters guard ↔ guard.limit.isSome ∧
      guard.ChargesInFull call.now counters (grant.returned.maxCost alloy) := by
  obtain ⟨-, -, compiled, sponsored, -⟩ := mem_grants.mp granted
  obtain ⟨signer, signature, signatures, injected⟩ :=
    FrameCompiler.compileAndValidate_sponsored compiled sponsored
  have isSigner : call.signer = signer := Option.some.inj injected.held
  subst isSigner
  have signed : call.signer.signSponsorFrame call.payload (call.payload.computeSigHash alloy) =
      .ok signature := injected.signed
  have fills : FrameCompiler.fillSignature (alloy.lowerHex call.signer.address)
      (alloy.hexEncode signature) call.payload.signatures = some signatures := injected.fills
  rw [injected.whole]
  unfold IsChargedBy
  simp only [signed, Except.ok.injEq, exists_and_left, exists_eq_left', fills, Option.some.injEq]

/-- A guard of a grant has been charged in full exactly if it is enabled and charges in full. -/
theorem Compilation.chargedInFull_iff (granted : grant ∈ call.grants alloy policy counters)
    {redis : RedisPolicyStore} (isStore : redis ∈ policy.store) {guard : Guard}
    (isGuard : guard = redis.quotaGuard alloy call.now grant.sender ∨
      guard = redis.budgetGuard call.now) :
    guard.ChargedInFull call.now (grant.returned.maxCost alloy) grant.before grant.after ↔
      call.IsChargedBy alloy counters guard := by
  rw [isChargedBy_iff granted]
  refine and_congr_right fun enabled => ?_
  obtain ⟨-, before, compiled, sponsored, parsed⟩ := mem_grants.mp granted
  have settles := FrameCompiler.settles_of_ok compiled
  have listed : guard ∈ redis.enabledGuards alloy call.now grant.sender :=
    RedisPolicyStore.mem_enabledGuards.mpr ⟨isGuard, enabled⟩
  have reserved : (call.compiler alloy policy).reservedGuards policy.store call.now call.payload =
      redis.enabledGuards alloy call.now grant.sender := by
    rw [show policy.store = some redis from isStore]
    exact FrameCompiler.reservedGuards_of_sponsored parsed sponsored
  rw [reserved] at settles
  rw [before]
  exact Guard.covered_iff settles listed

/-- A grant is bounded exactly if its bounds hold. -/
theorem Compilation.bounded_iff (granted : grant ∈ call.grants alloy policy counters) :
    grant.AdmissionBounded alloy policy ∧ grant.SpendBounded alloy policy ↔
      policy.Bounds alloy counters call grant.sender := by
  obtain ⟨listed, within⟩ := guarded_of_granted granted
  obtain ⟨isCall, -⟩ := mem_grants.mp granted
  refine and_congr ?_ ?_
  · unfold Grant.AdmissionBounded
    rw [isCall, Option.isSome_iff_exists]
    refine or_congr ?_ ?_
    · exact ⟨fun ⟨allowlist, found, _⟩ => ⟨allowlist, found⟩,
        fun ⟨allowlist, found⟩ => ⟨allowlist, found, listed allowlist found⟩⟩
    · refine exists_congr fun redis => and_congr_right fun isStore => ?_
      exact chargedInFull_iff granted isStore (.inl rfl)
  · unfold Grant.SpendBounded
    rw [isCall, Option.isSome_iff_exists]
    refine or_congr ?_ ?_
    · exact ⟨fun ⟨ceiling, found, _⟩ => ⟨ceiling, found⟩,
        fun ⟨ceiling, found⟩ => ⟨ceiling, found, within ceiling found⟩⟩
    · refine exists_congr fun redis => and_congr_right fun isStore => ?_
      refine exists_congr fun guard => and_congr_right fun isGuard => ?_
      exact chargedInFull_iff granted isStore isGuard.symm

end Granted

/-- Every policy that starts in the public posture with a sponsor key has a guard of each kind
configured, if a store counts as both. In every run under it a sponsored request that compiles is
admission-bounded and spend-bounded exactly if its bounds hold. -/
theorem public_grants_bounded (host : Host) (alloy : Alloy) (policy : ConfiguredPolicy)
    (built : host.buildSponsorPolicy alloy .public_ true = some policy)
    (counters : Counters String) (calls : List Compilation) :
    ((policy.maxCostWei.isSome ∨ policy.store.isSome) ∧
        (policy.senderAllowlist.isSome ∨ policy.store.isSome) ∧
        ∀ redis ∈ policy.store, redis.Guarded) ∧
      ∀ grant ∈ Transition.trace (Compilation.step alloy policy)
          (Compilation.grants alloy policy) counters calls,
        (grant.AdmissionBounded alloy policy ∧ grant.SpendBounded alloy policy ↔
          policy.Bounds alloy grant.before grant.compilation grant.sender) := by
  obtain ⟨checked, limited⟩ := Host.checked_of_built built
  obtain ⟨spend, admission⟩ := ConfiguredPolicy.validateFor_public.mp checked
  refine ⟨⟨spend, admission, limited⟩, fun grant traced => ?_⟩
  obtain ⟨first, call, rest, -, granted⟩ := Transition.mem_trace traced
  obtain ⟨isCall, before, -⟩ := Compilation.mem_grants.mp granted
  rw [isCall, before]
  exact Compilation.bounded_iff granted

/-- An environment with these variables, in which Redis is reached. -/
def Host.ofVars (vars : List (String × String)) : Host where
  var name := vars.lookup name
  connects := true
  usable _ := true

/-- A request for `sponsoredTx`. -/
def sponsoredCall : Compilation where
  now := 1000
  outage := none
  gateway := (sponsoringEngine none).gateway
  signer :=
    { address := repeatByte 0x22
      signSponsorFrame := fun _ _ => .ok (0x00 :: List.replicate 64 0x11) }
  webhook _ _ := .ok ()
  payload := sponsoredTx ""

/-- A policy with nothing but a store. -/
def ConfiguredPolicy.ofStore (store : RedisPolicyStore) : ConfiguredPolicy where
  maxCostWei := none
  senderAllowlist := none
  store := some store
  authority := false

/-- The grant of `sponsoredCall` with fresh counters. -/
def sponsoredGrant (store : RedisPolicyStore) : Grant where
  compilation := sponsoredCall
  sender := repeatByte 0x11
  returned := filledTx ""
  before := Counters.empty
  after := (store.call (sponsoringEngine none).alloy 1000 none Counters.empty (repeatByte 0x11)
    2417320).2

/-- It is granted where the store grants it. -/
theorem sponsoredCall_granted {store : RedisPolicyStore}
    (granted : (store.call (sponsoringEngine none).alloy 1000 none Counters.empty
      (repeatByte 0x11) 2417320).1 = .ok ()) :
    sponsoredGrant store ∈ sponsoredCall.grants (sponsoringEngine none).alloy
      (ConfiguredPolicy.ofStore store) Counters.empty := by
  have parsed : (sponsoringEngine none).alloy.parseAddress (sponsoredTx "").sender =
      some (repeatByte 0x11) := by
    decide +kernel
  refine Compilation.mem_grants.mpr ⟨rfl, rfl, ?_, sponsoredTx_sponsored, parsed⟩
  apply FrameCompiler.compile_of_reserved
  · rw [FrameCompiler.prepare_withStore]
    exact sponsoredTx_prepared
  · change SponsorPolicy.reserve _ (sponsoringEngine none).alloy Counters.empty (filledTx "") = _
    have returned : parseSender (sponsoringEngine none).alloy (filledTx "") =
        .ok (repeatByte 0x11) := by
      unfold parseSender
      rw [show (filledTx "").sender = (sponsoredTx "").sender from rfl, parsed]
    unfold SponsorPolicy.reserve
    rw [returned, filledTx_maxCost]
    exact Prod.ext granted rfl

/-- A quota of 5 gwei and a budget of 8 gwei. -/
def quotaHost : Host :=
  Host.ofVars [("SPONSOR_PER_SENDER_MAX_COST_PER_WINDOW", "5000000000"),
    ("SPONSOR_GLOBAL_BUDGET_WEI", "8000000000")]

/-- The policy it starts with. -/
def quotaPolicy : ConfiguredPolicy :=
  .ofStore (RedisPolicyStore.connect (some 5000000000) 3600 (some 8000000000) 3600)

/-- A request under a quota is bounded. -/
theorem quota_grant_bounded :
    ∃ grant ∈ Transition.trace (Compilation.step (sponsoringEngine none).alloy quotaPolicy)
        (Compilation.grants (sponsoringEngine none).alloy quotaPolicy) Counters.empty
        [sponsoredCall],
      grant.AdmissionBounded (sponsoringEngine none).alloy quotaPolicy ∧
        grant.SpendBounded (sponsoringEngine none).alloy quotaPolicy := by
  have granted := @sponsoredCall_granted
    (RedisPolicyStore.connect (some 5000000000) 3600 (some 8000000000) 3600) (by decide +kernel)
  have traced : sponsoredGrant (RedisPolicyStore.connect (some 5000000000) 3600 (some 8000000000)
      3600) ∈ Transition.trace (Compilation.step (sponsoringEngine none).alloy quotaPolicy)
        (Compilation.grants (sponsoringEngine none).alloy quotaPolicy) Counters.empty
        [sponsoredCall] :=
    List.mem_append_left _ granted
  have full (guard : Guard) (enabled : guard.limit.isSome) (lasts : guard.Lasts) :
      sponsoredCall.IsChargedBy (sponsoringEngine none).alloy Counters.empty guard := by
    rw [Compilation.isChargedBy_iff granted, show (sponsoredGrant _).returned = filledTx ""
      from rfl, filledTx_maxCost]
    exact ⟨enabled, .inl ⟨lasts, by decide⟩⟩
  refine ⟨_, traced, ((public_grants_bounded quotaHost (sponsoringEngine none).alloy quotaPolicy rfl
    Counters.empty [sponsoredCall]).2 _ traced).mpr ⟨.inr ⟨_, rfl, full _ rfl ?_⟩,
      .inr ⟨_, rfl, _, .inl rfl, full _ rfl ?_⟩⟩⟩
  · decide
  · decide

/-- A budget of 8 gwei alone. -/
def budgetHost : Host := Host.ofVars [("SPONSOR_GLOBAL_BUDGET_WEI", "8000000000")]

/-- The policy it starts with. -/
def budgetPolicy : ConfiguredPolicy :=
  .ofStore (RedisPolicyStore.connect none 3600 (some 8000000000) 3600)

/-- With a budget alone the public posture starts, and sponsors a sender that no guard admitted. -/
theorem budget_admits_anyone :
    budgetHost.buildSponsorPolicy (sponsoringEngine none).alloy .public_ true = some budgetPolicy ∧
      ∃ grant ∈ Transition.trace (Compilation.step (sponsoringEngine none).alloy budgetPolicy)
          (Compilation.grants (sponsoringEngine none).alloy budgetPolicy) Counters.empty
          [sponsoredCall],
        ¬ grant.AdmissionBounded (sponsoringEngine none).alloy budgetPolicy := by
  refine ⟨rfl, _, List.mem_append_left _ (@sponsoredCall_granted
    (RedisPolicyStore.connect none 3600 (some 8000000000) 3600) (by decide +kernel)), ?_⟩
  rintro (⟨allowlist, listed, -⟩ | ⟨redis, isStore, enabled, -⟩)
  · cases listed
  · rw [← Option.some.inj isStore] at enabled
    cases enabled

end OpenEngine.Api
