import OpenEngine.Api.PolicyStore
import OpenEngine.Delimited

/-!
# What the reserve script does

The keys of different senders, windows and guards are different strings, and a run of the script
does to the key of each guard one of two things: nothing, or a charge that stays within the guard's
limit. A guard whose window the cast to `i64` makes negative deletes its key after charging it.
-/

namespace OpenEngine.Api

open OpenEngine.Core Redis

/-- An address has no colon in it. -/
theorem colon_notMem_lowerHex (alloy : Alloy) (address : Address) :
    ':' ∉ (alloy.lowerHex address).toList := by
  unfold Alloy.lowerHex
  rw [String.toList_append]
  intro member
  rcases List.mem_append.mp member with marker | digits
  · exact absurd marker (by decide)
  · exact absurd (alloy.hexEncode_digits address.val ':' digits) (by decide)

/-- Addresses are told apart by their text. -/
theorem lowerHex_injective {alloy : Alloy} {left right : Address}
    (same : alloy.lowerHex left = alloy.lowerHex right) : left = right := by
  unfold Alloy.lowerHex at same
  have digits : alloy.hexEncode left.val = alloy.hexEncode right.val := by
    simpa using same
  have decoded := alloy.hexDecode_hexEncode left.val
  rw [digits, alloy.hexDecode_hexEncode] at decoded
  exact Subtype.ext (Except.ok.inj decoded).symm

/-- Senders and windows are told apart by the quota key. -/
theorem senderKey_injective {alloy : Alloy} {left right : Address} {window other : Nat}
    (same : senderKey alloy left window = senderKey alloy right other) :
    left = right ∧ window = other := by
  have chars := congrArg String.toList same
  unfold senderKey at chars
  simp only [String.toList_append, List.append_assoc] at chars
  have text := List.append_cancel_left chars
  have parts := (Delimited.free_append_cons_inj (colon_notMem_lowerHex alloy left)
    (colon_notMem_lowerHex alloy right)).mp text
  exact ⟨lowerHex_injective (String.toList_inj.mp parts.1), toString_injective parts.2⟩

/-- Budget windows are told apart by their key. -/
theorem globalKey_injective {window other : Nat} (same : globalKey window = globalKey other) :
    window = other := by
  have chars := congrArg String.toList same
  unfold globalKey at chars
  simp only [String.toList_append] at chars
  exact toString_injective (List.append_cancel_left chars)

/-- A quota key is no budget key. -/
theorem senderKey_ne_globalKey (alloy : Alloy) (sender : Address) (window other : Nat) :
    senderKey alloy sender window ≠ globalKey other := by
  intro same
  have chars := congrArg (fun text => text.toList.take 9) same
  unfold senderKey globalKey at chars
  simp only [String.toList_append, List.append_assoc] at chars
  rw [List.take_append_of_le_length (by decide), List.take_append_of_le_length (by decide)] at chars
  exact absurd chars (by decide)

/-- The seconds a guard's key is told to live are positive, so `EXPIRE` does not delete it. -/
def Guard.Lasts (guard : Guard) : Prop := 0 < guard.ttl

instance (guard : Guard) : Decidable guard.Lasts := inferInstanceAs (Decidable (_ < _))

/-- What the commands of a guard that lasts do to its key: the amount is added, and the expiry is
kept or set to one window from now. -/
def Guard.Charged (guard : Guard) (now amount : Nat) (before after : Counters String) : Prop :=
  ∃ counter, after guard.key = some counter ∧
    counter.value = before.get guard.key + Binary64.round amount ∧
    (counter.expiresAt = (before guard.key).bind Counter.expiresAt ∨
      counter.expiresAt = some (now + 1000 * (Binary64.roundInt guard.ttl).toNat))

/-- What the commands of an enabled guard do to its key: it is charged, and all of them run only if
the guard lasts; or the guard does not last, and the key is deleted. -/
def Guard.Committed (guard : Guard) (now amount : Nat) (before after : Counters String)
    (ran : Prop) : Prop :=
  (guard.Charged now amount before after ∧ (ran → guard.Lasts)) ∨
    (¬guard.Lasts ∧ after guard.key = none)

/-- The key of a guard that lasts is charged. -/
theorem Guard.Committed.charged {guard : Guard} {now amount : Nat} {before after : Counters String}
    {ran : Prop} (committed : guard.Committed now amount before after ran) (lasts : guard.Lasts) :
    guard.Charged now amount before after := by
  rcases committed with ⟨charged, _⟩ | ⟨brief, _⟩
  · exact charged
  · exact absurd lasts brief

/-- The key of a guard that does not last is deleted, if all commands ran. -/
theorem Guard.Committed.deleted {guard : Guard} {now amount : Nat} {before after : Counters String}
    {ran : Prop} (committed : guard.Committed now amount before after ran) (isRun : ran)
    (brief : ¬guard.Lasts) : after guard.key = none := by
  rcases committed with ⟨_, lasts⟩ | ⟨_, deleted⟩
  · exact absurd (lasts isRun) brief
  · exact deleted

/-- A guard leaves every key but its own alone. -/
theorem Guard.commit_of_ne {guard : Guard} {now amount : Nat} {counters : Counters String}
    {key : String} (different : key ≠ guard.key) :
    (guard.commit now counters amount).1 key = counters key := by
  unfold Guard.commit
  split
  · rfl
  · split
    · rfl
    · next added increments =>
      split
      · exact Counters.incrBy_of_ne increments different
      · next kept expires =>
        exact (Counters.expire_of_ne expires different).trans
          (Counters.incrBy_of_ne increments different)

/-- A guard's key is left alone or committed, and committed if the commands of an enabled guard ran.
-/
theorem Guard.commit_self (guard : Guard) (now amount : Nat) (counters : Counters String) :
    ((guard.commit now counters amount).1 guard.key = counters guard.key ∧
      ((guard.commit now counters amount).2 = true → guard.limit = none)) ∨
    (guard.limit ≠ none ∧
      guard.Committed now amount counters (guard.commit now counters amount).1
        ((guard.commit now counters amount).2 = true)) := by
  unfold Guard.commit
  split
  · next disabled => exact .inl ⟨rfl, fun _ => disabled⟩
  · next limit enabled =>
    have present : guard.limit ≠ none := by
      rw [enabled]
      exact Option.some_ne_none limit
    split
    · exact .inl ⟨rfl, fun ran => absurd ran Bool.false_ne_true⟩
    · next added increments =>
      have sum := Counters.incrBy_self increments
      split
      · exact .inr ⟨present,
          .inl ⟨⟨_, sum, rfl, .inl rfl⟩, fun ran => absurd ran Bool.false_ne_true⟩⟩
      · next kept expires =>
        refine .inr ⟨present, ?_⟩
        by_cases lasts : guard.Lasts
        · have positive : 0 < Binary64.roundInt guard.ttl := Binary64.roundInt_pos.mpr lasts
          exact .inl ⟨⟨_, Counters.expire_self positive expires sum, rfl, .inr rfl⟩, fun _ => lasts⟩
        · have past : ¬ 0 < Binary64.roundInt guard.ttl := mt Binary64.roundInt_pos.mp lasts
          exact .inr ⟨lasts, Counters.expire_deletes (Int.not_lt.mp past) expires⟩

/-- What a run of the script amounts to: a refusal changes nothing; otherwise both checks passed and
the guards were committed in order, up to the first command that failed. -/
inductive ReserveRun (quota budget : Guard) (now amount : Nat) (before : Counters String) :
    Status → Counters String → Prop where
  | refused {status : Status} (refusal : status = .quota ∨ status = .budget) :
      ReserveRun quota budget now amount before status before
  | stopped {charged : Counters String} (underQuota : quota.exceeded before amount = false)
      (underBudget : budget.exceeded before amount = false)
      (first : quota.commit now before amount = (charged, false)) :
      ReserveRun quota budget now amount before .failed charged
  | committed {charged after : Counters String} {ran : Bool}
      (underQuota : quota.exceeded before amount = false)
      (underBudget : budget.exceeded before amount = false)
      (first : quota.commit now before amount = (charged, true))
      (second : budget.commit now charged amount = (after, ran)) :
      ReserveRun quota budget now amount before (if ran then .ok else .failed) after

/-- The script runs as described. -/
theorem reserveScript_run (quota budget : Guard) (now amount : Nat) (counters : Counters String) :
    ReserveRun quota budget now amount counters
      (reserveScript quota budget now counters amount).1
      (reserveScript quota budget now counters amount).2 := by
  unfold reserveScript
  by_cases overQuota : quota.exceeded counters amount = true
  · rw [if_pos overQuota]
    exact .refused (.inl rfl)
  rw [if_neg overQuota]
  by_cases overBudget : budget.exceeded counters amount = true
  · rw [if_pos overBudget]
    exact .refused (.inr rfl)
  rw [if_neg overBudget]
  have underQuota := Bool.eq_false_iff.mpr overQuota
  have underBudget := Bool.eq_false_iff.mpr overBudget
  split
  · next charged first => exact .stopped underQuota underBudget first
  · next charged first =>
    split
    · next after second => exact .committed underQuota underBudget first second
    · next after second => exact .committed underQuota underBudget first second

/-- `try_reserve` succeeds exactly if the script granted the amount. -/
theorem Status.toResult_eq_ok {sender : Address} {status : Status} :
    status.toResult sender = .ok () ↔ status = .ok := by
  cases status with
  | ok => exact iff_of_true rfl rfl
  | quota => simp [toResult]
  | budget => simp [toResult]
  | failed => simp [toResult]

variable {quota budget : Guard} {now amount : Nat} {before after : Counters String}
  {status : Status}

/-- The script leaves every key but those of its guards alone. -/
theorem ReserveRun.of_ne (run : ReserveRun quota budget now amount before status after)
    {key : String} (notQuota : key ≠ quota.key) (notBudget : key ≠ budget.key) :
    after key = before key := by
  cases run with
  | refused => rfl
  | stopped _ _ first =>
    have same := @Guard.commit_of_ne quota now amount before key notQuota
    rwa [first] at same
  | @committed charged _ _ _ _ first second =>
    have firstSame := @Guard.commit_of_ne quota now amount before key notQuota
    have secondSame := @Guard.commit_of_ne budget now amount charged key notBudget
    rw [first] at firstSame
    rw [second] at secondSame
    exact secondSame.trans firstSame

/-- A refusal changes nothing. -/
theorem ReserveRun.after_of_refused (run : ReserveRun quota budget now amount before status after)
    (refusal : status = .quota ∨ status = .budget) : after = before := by
  cases run with
  | refused => rfl
  | stopped => rcases refusal with same | same <;> cases same
  | @committed _ _ ran =>
    cases ran with
    | false => rcases refusal with same | same <;> cases same
    | true => rcases refusal with same | same <;> cases same

/-- A guard's key is left alone or committed within its limit, and committed if the script granted
the amount and the guard is enabled. -/
def Guard.Bound (guard : Guard) (now amount : Nat) (before : Counters String) (status : Status)
    (after : Counters String) : Prop :=
  (after guard.key = before guard.key ∧ (status = .ok → guard.limit = none)) ∨
    (guard.limit ≠ none ∧ guard.exceeded before amount = false ∧
      guard.Committed now amount before after (status = .ok))

/-- A commit only depends on the guard's own key. -/
theorem Guard.Committed.congr {guard : Guard} {other later : Counters String} {ran granted : Prop}
    (committed : guard.Committed now amount before after ran)
    (start : other guard.key = before guard.key) (result : later guard.key = after guard.key)
    (whole : granted → ran) : guard.Committed now amount other later granted := by
  unfold Guard.Committed Guard.Charged Counters.get at committed ⊢
  rw [start, result]
  exact committed.imp_left fun charged => ⟨charged.1, fun isGranted => charged.2 (whole isGranted)⟩

/-- The script binds its per-sender guard. -/
theorem ReserveRun.binds_quota (run : ReserveRun quota budget now amount before status after)
    (distinct : quota.key ≠ budget.key) : quota.Bound now amount before status after := by
  cases run with
  | refused refusal =>
    refine .inl ⟨rfl, fun granted => ?_⟩
    rw [granted] at refusal
    rcases refusal with same | same <;> cases same
  | stopped underQuota _ first =>
    have effect := quota.commit_self now amount before
    rw [first] at effect
    rcases effect with ⟨same, _⟩ | ⟨enabled, committed⟩
    · exact .inl ⟨same, fun granted => by cases granted⟩
    · exact .inr ⟨enabled, underQuota, committed.congr rfl rfl fun granted => by cases granted⟩
  | @committed charged _ _ underQuota _ first second =>
    have later := @Guard.commit_of_ne budget now amount charged quota.key distinct
    rw [second] at later
    have effect := quota.commit_self now amount before
    rw [first] at effect
    rcases effect with ⟨same, disabled⟩ | ⟨enabled, committed⟩
    · exact .inl ⟨later.trans same, fun _ => disabled rfl⟩
    · exact .inr ⟨enabled, underQuota, committed.congr rfl later fun _ => rfl⟩

/-- The script binds its global guard. -/
theorem ReserveRun.binds_budget (run : ReserveRun quota budget now amount before status after)
    (distinct : quota.key ≠ budget.key) : budget.Bound now amount before status after := by
  cases run with
  | refused refusal =>
    refine .inl ⟨rfl, fun granted => ?_⟩
    rw [granted] at refusal
    rcases refusal with same | same <;> cases same
  | stopped _ _ first =>
    have same := @Guard.commit_of_ne quota now amount before budget.key distinct.symm
    rw [first] at same
    exact .inl ⟨same, fun granted => by cases granted⟩
  | @committed charged _ ran _ underBudget first second =>
    have earlier := @Guard.commit_of_ne quota now amount before budget.key distinct.symm
    rw [first] at earlier
    have effect := budget.commit_self now amount charged
    rw [second] at effect
    have whole : (if ran then Status.ok else .failed) = .ok → ran = true := by
      cases ran with
      | false => exact fun granted => by cases granted
      | true => exact fun _ => rfl
    rcases effect with ⟨same, disabled⟩ | ⟨enabled, committed⟩
    · exact .inl ⟨same.trans earlier, fun granted => disabled (whole granted)⟩
    · exact .inr ⟨enabled, underBudget, committed.congr earlier.symm rfl whole⟩

/-- A guard with a limit below `2 ^ 53` that does not refuse an amount has room for it. -/
theorem Guard.fits {guard : Guard} {limit : Nat} (enabled : guard.limit = some limit)
    (exact : limit < Binary64.exactBound) (under : guard.exceeded before amount = false) :
    before.get guard.key + amount ≤ limit := by
  unfold Guard.exceeded at under
  rw [enabled, Option.any_some] at under
  have rounded := Nat.not_lt.mp (of_decide_eq_false under)
  exact (Binary64.round_sum_le_iff exact).mp rounded

/-- A charge within such a limit adds exactly the amount. -/
theorem Guard.Charged.get_eq {guard : Guard} {limit : Nat} (enabled : guard.limit = some limit)
    (exact : limit < Binary64.exactBound) (under : guard.exceeded before amount = false)
    (charged : guard.Charged now amount before after) :
    after.get guard.key = before.get guard.key + amount := by
  have room := guard.fits enabled exact under
  obtain ⟨counter, held, value, _⟩ := charged
  have representable : Binary64.round amount = amount := Binary64.round_of_le (by omega)
  rw [representable] at value
  rw [Counters.get, held, Option.map_some, Option.getD_some, value]

/-- A script that grants an amount charges every enabled guard that lasts with it. -/
theorem Guard.Bound.get_of_granted {guard : Guard} {limit : Nat}
    (bound : guard.Bound now amount before .ok after) (enabled : guard.limit = some limit)
    (exact : limit < Binary64.exactBound) (lasts : guard.Lasts) :
    after.get guard.key = before.get guard.key + amount := by
  rcases bound with ⟨_, disabled⟩ | ⟨_, under, committed⟩
  · rw [disabled rfl] at enabled
    cases enabled
  · exact (committed.charged lasts).get_eq enabled exact under

/-- The commands of a guard with a limit below `2 ^ 53` run when the amount was not refused. -/
theorem Guard.commit_runs {guard : Guard}
    (bounded : ∀ limit ∈ guard.limit, limit < Binary64.exactBound)
    (timely : Counters.Expirable now (Binary64.roundInt guard.ttl))
    (under : guard.exceeded before amount = false) :
    (guard.commit now before amount).2 = true := by
  unfold Guard.commit
  split
  · rfl
  · next limit enabled =>
    have exact := bounded limit enabled
    have room := guard.fits enabled exact under
    unfold Binary64.exactBound at exact
    have representable : Binary64.round amount = amount :=
      Binary64.round_of_le (by unfold Binary64.exactBound; omega)
    have increments : before.incrBy guard.key (Binary64.round amount) = some
        (before.set guard.key ⟨before.get guard.key + Binary64.round amount,
          (before guard.key).bind Counter.expiresAt⟩) := by
      unfold Counters.incrBy
      dsimp only
      rw [if_pos (by omega)]
    obtain ⟨kept, expires⟩ := Counters.exists_expire (before.set guard.key
      ⟨before.get guard.key + Binary64.round amount, (before guard.key).bind Counter.expiresAt⟩)
      guard.key timely
    rw [increments]
    dsimp only
    rw [expires]

/-- Whether a guard refuses an amount only depends on its own key. -/
theorem Guard.exceeded_congr {guard : Guard} (same : after guard.key = before guard.key) :
    guard.exceeded after amount = guard.exceeded before amount := by
  unfold Guard.exceeded Counters.get
  rw [same]

/-- A script whose guards have limits below `2 ^ 53` runs to its end. -/
theorem ReserveRun.status_ne_failed (run : ReserveRun quota budget now amount before status after)
    (distinct : quota.key ≠ budget.key)
    (quotaBounded : ∀ limit ∈ quota.limit, limit < Binary64.exactBound)
    (budgetBounded : ∀ limit ∈ budget.limit, limit < Binary64.exactBound)
    (quotaTimely : Counters.Expirable now (Binary64.roundInt quota.ttl))
    (budgetTimely : Counters.Expirable now (Binary64.roundInt budget.ttl)) :
    status ≠ .failed := by
  intro failed
  cases run with
  | refused refusal =>
    rw [failed] at refusal
    rcases refusal with same | same <;> cases same
  | stopped underQuota _ first =>
    have ran := quota.commit_runs quotaBounded quotaTimely underQuota
    rw [first] at ran
    cases ran
  | @committed charged _ ran _ underBudget first second =>
    have earlier := @Guard.commit_of_ne quota now amount before budget.key distinct.symm
    rw [first] at earlier
    have under := (budget.exceeded_congr earlier).trans underBudget
    have finished := budget.commit_runs budgetBounded budgetTimely under
    rw [second] at finished
    change ran = true at finished
    rw [finished] at failed
    cases failed

end OpenEngine.Api
