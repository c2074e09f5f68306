import OpenEngine.Core.Cost

/-!
# Sponsor policy

`core/src/policy.rs`: the stateless guards, the webhook's decision and the reservation. The store's
own state is a parameter that only the reservation passes on.
-/

namespace OpenEngine.Core

/-- `PolicyError`. -/
inductive PolicyError where
  | maxCostExceeded (maxCost ceiling : U256)
  | senderNotAllowed (sender : Address)
  | invalidSender (sender : String)
  | quotaExceeded (sender : Address)
  | globalBudgetExhausted
  | store (detail : String)
  | refused (detail : String)
  | unavailable (detail : String)
deriving DecidableEq

/-- `PolicyError::to_string`. -/
def PolicyError.text (alloy : Alloy) : PolicyError → String
  | .maxCostExceeded maxCost ceiling =>
    let cost := maxCost.toNat
    let limit := ceiling.toNat
    s!"sponsor spend ceiling exceeded: max_cost {cost} exceeds ceiling {limit}"
  | .senderNotAllowed sender =>
    let name := alloy.displayAddress sender
    s!"sender {name} is not on the sponsor allowlist"
  | .invalidSender sender => s!"invalid sender address: {sender}"
  | .quotaExceeded sender =>
    let name := alloy.displayAddress sender
    s!"per-sender sponsor quota exceeded for {name}"
  | .globalBudgetExhausted => "global sponsor budget exhausted"
  | .store detail => s!"policy store error: {detail}"
  | .refused detail => detail
  | .unavailable detail => s!"sponsor policy webhook unreachable: {detail}"

/-- `SponsorPolicy`. -/
structure SponsorPolicy (σ : Type) where
  maxCostWei : Option U256
  senderAllowlist : Option (List Address)
  /-- `PolicyStore::try_reserve`. -/
  store : Option (σ → Address → U256 → Except PolicyError Unit × σ)
  /-- `PolicyAuthority::decide`. -/
  authority : Option (Address → FrameTransaction → Except PolicyError Unit)

/-- `parse_sender`. -/
def parseSender (alloy : Alloy) (tx : FrameTransaction) : Except PolicyError Address :=
  match alloy.parseAddress tx.sender with
  | some sender => .ok sender
  | none => .error (.invalidSender tx.sender)

namespace SponsorPolicy

variable {σ : Type}

/-- The allowlist guard of `check_stateless`. -/
def checkAllowlist (policy : SponsorPolicy σ) (sender : Address) : Except PolicyError Unit :=
  match policy.senderAllowlist with
  | some allowlist => if sender ∈ allowlist then .ok () else .error (.senderNotAllowed sender)
  | none => .ok ()

/-- The ceiling guard of `check_stateless`. -/
def checkCeiling (policy : SponsorPolicy σ) (alloy : Alloy) (tx : FrameTransaction) :
    Except PolicyError Unit :=
  match policy.maxCostWei with
  | some ceiling =>
    let maxCost := tx.maxCost alloy
    if ceiling < maxCost then .error (.maxCostExceeded maxCost ceiling) else .ok ()
  | none => .ok ()

/-- `check_stateless`. -/
def checkStateless (policy : SponsorPolicy σ) (alloy : Alloy) (tx : FrameTransaction) :
    Except PolicyError Unit := do
  let sender ← parseSender alloy tx
  policy.checkAllowlist sender
  policy.checkCeiling alloy tx

/-- `decide`. -/
def decide (policy : SponsorPolicy σ) (sponsor : Address) (tx : FrameTransaction) :
    Except PolicyError Unit :=
  match policy.authority with
  | some authority => authority sponsor tx
  | none => .ok ()

/-- `reserve`. -/
def reserve (policy : SponsorPolicy σ) (alloy : Alloy) (state : σ) (tx : FrameTransaction) :
    Except PolicyError Unit × σ :=
  match policy.store with
  | none => (.ok (), state)
  | some tryReserve =>
    match parseSender alloy tx with
    | .error failure => (.error failure, state)
    | .ok sender => tryReserve state sender (tx.maxCost alloy)

end SponsorPolicy

end OpenEngine.Core
