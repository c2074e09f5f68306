import OpenEngine.Delimited
import OpenEngine.Transition
import OpenEngine.Api.ReserveScript

/-!
# The rate limit

`rate_limit.rs`, and whom `handle_transaction` counts a request for: the bearer token if there is
one, the address of the client otherwise. Every caller has one counter a second, and any number of
engines that share a Redis count on it. As long as a request reaches Redis within half a second of
the time its engine read, by the clock of Redis, no counter is dropped while its second is still
counted anywhere. So of the requests of one
caller in one second exactly the first ones pass, up to the limit, whatever other callers do.
-/

namespace OpenEngine.Api

open OpenEngine.Core Redis Delimited Transition

/-- What `handle_transaction` reads of a request before its payload. A header that is no text counts
as missing. -/
structure Origin where
  authorization : Option String
  forwardedFor : Option String
  peer : Option String
deriving DecidableEq

/-- The `api_key` of a request. -/
def Origin.apiKey (origin : Origin) : Option String :=
  origin.authorization.bind (stripPrefix "Bearer ")

/-- The `ip` of a request. -/
def Origin.ip (origin : Origin) : String :=
  match origin.forwardedFor with
  | some hops => trim (String.ofList (before [','] hops.toList))
  | none => origin.peer.getD "unknown"

/-- Whom a request is counted for. -/
inductive Caller where
  | apiKey (key : String)
  | ip (address : String)
deriving DecidableEq

/-- The caller that `check` is told. -/
def Caller.of (ip : String) : Option String → Caller
  | some key => .apiKey key
  | none => .ip ip

/-- The caller of a request. -/
def Origin.caller (origin : Origin) : Caller := .of origin.ip origin.apiKey

/-- The key of a caller. -/
def Caller.key : Caller → String
  | .apiKey key => "rate_limit:api_key:" ++ key
  | .ip address => "rate_limit:ip:" ++ address

/-- The key of a caller's counter of a second. -/
def Caller.redisKey (caller : Caller) (second : Nat) : String :=
  caller.key ++ ":" ++ toString second

/-- `RateLimiter` without its connection. -/
structure RateLimiter where
  enabled : Bool
  ipRps : Nat
  apiKeyRps : Nat

/-- The limit of a caller. -/
def RateLimiter.limit (limiter : RateLimiter) : Caller → Nat
  | .apiKey _ => limiter.apiKeyRps
  | .ip _ => limiter.ipRps

/-- `INCR` and `EXPIRE` in one transaction: what the counter holds, if both succeed. Redis runs the
second command also after the first one failed. -/
def countVisit (arrival : Nat) (counters : Counters String) (key : String) :
    Option Nat × Counters String :=
  match counters.incrBy key 1 with
  | none => (none, (counters.expire arrival key 2).getD counters)
  | some added =>
    match added.expire arrival key 2 with
    | none => (none, added)
    | some kept => (some (added.get key), kept)

/-- `RateLimiter::check`, with the text of a Redis error. The clock of the engine names the second,
the clock of Redis drops what has expired. -/
def RateLimiter.check (limiter : RateLimiter) (fault : String) (now arrival : Nat)
    (counters : Counters String) (ip : String) (apiKey : Option String) :
    Except String Unit × Counters String :=
  if limiter.enabled = false then (.ok (), counters)
  else
    let caller := Caller.of ip apiKey
    match countVisit arrival (counters.evict arrival) (caller.redisKey (nowSecs now)) with
    | (none, later) => (.error s!"Redis error: {fault}", later)
    | (some count, later) =>
      if limiter.limit caller < count then (.error "Rate limit exceeded", later) else (.ok (), later)

/-- A request: the time of the engine that takes it and of Redis, in milliseconds. -/
structure Visit where
  now : Nat
  arrival : Nat
  origin : Origin
deriving DecidableEq

namespace Visit

/-- The second a request is counted in. -/
def second (visit : Visit) : Nat := nowSecs visit.now

/-- The key a request is counted under. -/
def key (visit : Visit) : String := visit.origin.caller.redisKey visit.second

/-- Whether a request is of a caller and in a second. -/
def Of (caller : Caller) (second : Nat) (visit : Visit) : Prop :=
  visit.origin.caller = caller ∧ visit.second = second

instance (caller : Caller) (second : Nat) : DecidablePred (Of caller second) :=
  fun _ => inferInstanceAs (Decidable (_ ∧ _))

/-- A request reaches Redis within half a second of the time its engine read, before or after it by
the clock of Redis: the difference of the clocks and the way there together. Redis can add to its
clock. -/
structure Punctual (visit : Visit) : Prop where
  early : visit.now ≤ visit.arrival + 500
  late : visit.arrival ≤ visit.now + 500
  fits : visit.arrival + 2000 < 2 ^ 63

end Visit

namespace RateLimiter

/-- What `check` answers a request. -/
def answer (limiter : RateLimiter) (fault : String) (counters : Counters String) (visit : Visit) :
    Except String Unit :=
  (limiter.check fault visit.now visit.arrival counters visit.origin.ip visit.origin.apiKey).1

/-- The counters after a request. -/
def step (limiter : RateLimiter) (fault : String) (counters : Counters String) (visit : Visit) :
    Counters String :=
  (limiter.check fault visit.now visit.arrival counters visit.origin.ip visit.origin.apiKey).2

/-- The request, if it passes. -/
def admits (limiter : RateLimiter) (fault : String) (counters : Counters String) (visit : Visit) :
    List Visit :=
  match limiter.answer fault counters visit with
  | .ok _ => [visit]
  | .error _ => []

end RateLimiter

/-- The key of a token is no key of an address. -/
theorem Caller.key_apiKey_ne_key_ip (token address : String) :
    key (.apiKey token) ≠ key (.ip address) := by
  intro same
  have chars := congrArg (fun text => text.toList.take 12) same
  unfold key at chars
  simp only [String.toList_append] at chars
  rw [List.take_append_of_le_length (by decide), List.take_append_of_le_length (by decide)] at chars
  exact absurd chars (by decide)

/-- Callers are told apart by their keys. -/
theorem Caller.key_injective {left right : Caller} (same : left.key = right.key) : left = right := by
  have texts := congrArg String.toList same
  cases left with
  | apiKey token =>
    cases right with
    | apiKey other =>
      unfold key at texts
      simp only [String.toList_append] at texts
      rw [String.toList_inj.mp (List.append_cancel_left texts)]
    | ip address => exact absurd same (key_apiKey_ne_key_ip token address)
  | ip address =>
    cases right with
    | apiKey token => exact absurd same.symm (key_apiKey_ne_key_ip token address)
    | ip other =>
      unfold key at texts
      simp only [String.toList_append] at texts
      rw [String.toList_inj.mp (List.append_cancel_left texts)]

/-- Callers and seconds are told apart by the key of the counter. -/
theorem Caller.redisKey_injective {left right : Caller} {second other : Nat}
    (same : left.redisKey second = right.redisKey other) : left = right ∧ second = other := by
  have chars := congrArg String.toList same
  unfold Caller.redisKey at chars
  simp only [String.toList_append, List.append_assoc] at chars
  have free (value : Nat) : ':' ∉ (toString value).toList := notMem_toString (by decide) value
  have parts := (append_cons_inj (free second) (free other)).mp chars
  exact ⟨key_injective (String.toList_inj.mp parts.1), toString_injective parts.2⟩

/-- Only the requests of a caller in a second are counted under their key. -/
theorem Visit.of_of_key {visit : Visit} {caller : Caller} {second : Nat}
    (same : caller.redisKey second = visit.key) : visit.Of caller second :=
  have parts := Caller.redisKey_injective same
  ⟨parts.1.symm, parts.2.symm⟩

/-- `INCR` and `EXPIRE` count one more and keep the counter for two seconds, if both stay in
`i64`. -/
theorem countVisit_eq (arrival : Nat) (counters : Counters String) (key : String)
    (small : counters.get key + 1 < 2 ^ 63) (fits : arrival + 2000 < 2 ^ 63) :
    ∃ later, countVisit arrival counters key = (some (counters.get key + 1), later) ∧
      later key = some ⟨counters.get key + 1, some (arrival + 2000)⟩ ∧
      ∀ other, other ≠ key → later other = counters other := by
  have increments : counters.incrBy key 1 = some (counters.set key
      ⟨counters.get key + 1, (counters key).bind Counter.expiresAt⟩) := if_pos small
  have held := Counters.incrBy_self increments
  have value := congrArg (fun found => (found.map Counter.value).getD 0) held
  generalize counters.set key _ = added at increments held value
  have timely : Counters.Expirable arrival 2 := Counters.expirable_natCast fits
  obtain ⟨kept, expires⟩ := Counters.exists_expire added key timely
  have lives := Counters.expire_self (by decide) expires held
  have twoSeconds : 1000 * Int.toNat 2 = 2000 := by decide
  rw [twoSeconds] at lives
  refine ⟨kept, ?_, lives, fun other different => ?_⟩
  · unfold countVisit
    rw [increments]
    dsimp only
    rw [expires, show added.get key = counters.get key + 1 from value]
  · rw [Counters.expire_of_ne expires different, Counters.incrBy_of_ne increments different]

namespace RateLimiter

variable {limiter : RateLimiter} {fault : String} {counters : Counters String}
  {visit : Visit} {visits : List Visit} {clock : Nat}

/-- From when on no request is counted in a second any more. -/
def closes (second : Nat) : Nat := 1000 * (second + 1) + 500

/-- A punctual request arrives before its second closes, and what lives for two more seconds
outlives it. -/
theorem closes_second (punctual : visit.Punctual) :
    visit.arrival < closes visit.second ∧ closes visit.second ≤ visit.arrival + 2000 := by
  have early := punctual.early
  have late := punctual.late
  unfold closes Visit.second nowSecs
  omega

/-- The limiter has counted nothing yet. -/
def Fresh (counters : Counters String) : Prop :=
  ∀ (caller : Caller) (second : Nat), counters (caller.redisKey second) = none

/-- The requests of a caller in a second. -/
def visitsOf (caller : Caller) (second : Nat) (visits : List Visit) : List Visit :=
  visits.filter fun visit => decide (visit.Of caller second)

/-- What holds of the counters after some requests: while a second can still be counted in, the
counter of each caller is the number of its requests in that second, and is not dropped before the
second closes. -/
def Counted (counters : Counters String) (clock : Nat) (visits : List Visit) : Prop :=
  ∀ caller second, clock < closes second →
    counters.get (caller.redisKey second) = (visitsOf caller second visits).length ∧
      ∀ counter, counters (caller.redisKey second) = some counter →
        ∀ expiry ∈ counter.expiresAt, closes second ≤ expiry

/-- The counter of an open second is not dropped. -/
theorem Counted.evict (counted : Counted counters clock visits) {caller : Caller}
    {second arrival : Nat} (forward : clock ≤ arrival) (early : arrival < closes second) :
    counters.evict arrival (caller.redisKey second) = counters (caller.redisKey second) := by
  apply Counters.evict_of_live
  intro counter held
  unfold Counter.live
  rw [Option.all_eq_true]
  intro expiry expires
  have later := (counted caller second (by omega)).2 counter held expiry expires
  exact decide_eq_true (by omega)

/-- A request adds to the requests of its own caller and second only. -/
theorem length_visitsOf_append (caller : Caller) (second : Nat) (visits : List Visit)
    (visit : Visit) : (visitsOf caller second (visits ++ [visit])).length =
      (visitsOf caller second visits).length + if visit.Of caller second then 1 else 0 := by
  unfold visitsOf
  rw [List.filter_append, List.length_append]
  by_cases own : visit.Of caller second
  · rw [if_pos own, List.filter_cons_of_pos (by simpa using own)]
    rfl
  · rw [if_neg own, List.filter_cons_of_neg (by simpa using own)]
    rfl

/-- A request is answered by the number of requests of its caller in its second so far, and is
counted. -/
theorem check_spec (enabled : limiter.enabled = true) (counted : Counted counters clock visits)
    (forward : clock ≤ visit.arrival) (punctual : visit.Punctual)
    (few : visits.length + 1 < 2 ^ 63) :
    limiter.answer fault counters visit =
        (if limiter.limit visit.origin.caller <
            (visitsOf visit.origin.caller visit.second visits).length + 1
          then .error "Rate limit exceeded" else .ok ()) ∧
      Counted (limiter.step fault counters visit) visit.arrival (visits ++ [visit]) := by
  obtain ⟨isOpen, outlives⟩ := closes_second punctual
  have value : (counters.evict visit.arrival).get visit.key =
      (visitsOf visit.origin.caller visit.second visits).length := by
    have held : counters.evict visit.arrival visit.key = counters visit.key :=
      counted.evict forward isOpen
    rw [Counters.get, held]
    exact (counted visit.origin.caller visit.second (by omega)).1
  have short : (visitsOf visit.origin.caller visit.second visits).length ≤ visits.length :=
    List.length_filter_le _ _
  obtain ⟨later, counts, own, others⟩ := countVisit_eq visit.arrival
    (counters.evict visit.arrival) visit.key (by omega) punctual.fits
  rw [value] at counts own
  have checked : limiter.check fault visit.now visit.arrival counters visit.origin.ip
      visit.origin.apiKey = (if limiter.limit visit.origin.caller <
          (visitsOf visit.origin.caller visit.second visits).length + 1
        then .error "Rate limit exceeded" else .ok (), later) := by
    change countVisit visit.arrival (counters.evict visit.arrival)
      ((Caller.of visit.origin.ip visit.origin.apiKey).redisKey (nowSecs visit.now)) = _ at counts
    unfold check
    rw [if_neg (by simp [enabled])]
    dsimp only
    rw [counts]
    change (if limiter.limit visit.origin.caller < _ then _ else _) = _
    split <;> rfl
  constructor
  · unfold answer
    rw [checked]
  · unfold step
    rw [checked]
    dsimp only
    intro caller second early
    rw [length_visitsOf_append]
    by_cases same : caller.redisKey second = visit.key
    · obtain ⟨rfl, rfl⟩ := Visit.of_of_key same
      rw [if_pos ⟨rfl, rfl⟩, same, Counters.get, own]
      refine ⟨rfl, fun counter held expiry expires => ?_⟩
      rw [← Option.some.inj held] at expires
      have set : visit.arrival + 2000 = expiry := Option.some.inj expires
      omega
    · have other : ¬visit.Of caller second := fun of => same (by rw [← of.1, ← of.2]; rfl)
      rw [if_neg other, Nat.add_zero, Counters.get, others _ same, counted.evict forward early]
      exact counted caller second (by omega)

/-- At first no request is counted. -/
theorem Fresh.counted (fresh : Fresh counters) (clock : Nat) : Counted counters clock [] := by
  intro caller second _
  rw [Counters.get, fresh]
  exact ⟨rfl, fun counter held => by cases held⟩

/-- Requests that Redis serves one after the other are all counted. -/
theorem counted_run (enabled : limiter.enabled = true) (fresh : Fresh counters)
    (ordered : visits.Pairwise fun first second => first.arrival ≤ second.arrival)
    (punctual : ∀ visit ∈ visits, visit.Punctual) (few : visits.length < 2 ^ 63)
    (later : ∀ visit ∈ visits, visit.arrival ≤ clock) :
    Counted (run (limiter.step fault) counters visits) clock visits := by
  induction visits using List.reverseRecOn generalizing clock with
  | nil => exact fresh.counted clock
  | append_singleton visits visit ih =>
    rw [List.length_append, List.length_singleton] at few
    have parts := List.pairwise_append.mp ordered
    have counted := ih parts.1
      (fun earlier member => punctual earlier (List.mem_append_left _ member)) (by omega)
      fun earlier member => parts.2.2 earlier member visit List.mem_cons_self
    have last : visit ∈ visits ++ [visit] := by simp
    have now : Counted (limiter.step fault (run (limiter.step fault) counters visits) visit)
        visit.arrival (visits ++ [visit]) :=
      (check_spec enabled counted (Nat.le_refl _) (punctual visit last) few).2
    rw [run_append]
    exact fun caller second early => now caller second (Nat.lt_of_le_of_lt (later visit last) early)

/-- The requests of one caller in one second that pass are the first ones, up to the limit. -/
theorem visitsOf_admitted (enabled : limiter.enabled = true) (fresh : Fresh counters)
    (ordered : visits.Pairwise fun first second => first.arrival ≤ second.arrival)
    (punctual : ∀ visit ∈ visits, visit.Punctual) (few : visits.length < 2 ^ 63)
    (caller : Caller) (second : Nat) :
    visitsOf caller second
        (trace (limiter.step fault) (limiter.admits fault) counters visits) =
      (visitsOf caller second visits).take (limiter.limit caller) := by
  induction visits using List.reverseRecOn with
  | nil => exact List.take_nil.symm
  | append_singleton visits visit ih =>
    rw [List.length_append, List.length_singleton] at few
    have parts := List.pairwise_append.mp ordered
    have earlier : ∀ visit ∈ visits, visit.Punctual :=
      fun earlier member => punctual earlier (List.mem_append_left _ member)
    have before : ∀ first ∈ visits, first.arrival ≤ visit.arrival :=
      fun first member => parts.2.2 first member visit List.mem_cons_self
    have counted : Counted (run (limiter.step fault) counters visits) visit.arrival visits :=
      counted_run enabled fresh parts.1 earlier (by omega) before
    have answered : limiter.answer fault (run (limiter.step fault) counters visits) visit = _ :=
      (check_spec enabled counted (Nat.le_refl _) (punctual visit (by simp)) few).1
    have first := ih parts.1 earlier (by omega)
    have last : trace (limiter.step fault) (limiter.admits fault)
        (run (limiter.step fault) counters visits) [visit] =
          limiter.admits fault (run (limiter.step fault) counters visits) visit := List.append_nil _
    rw [trace_append, last]
    unfold visitsOf at first ⊢
    rw [List.filter_append, List.filter_append, first]
    unfold admits
    rw [answered]
    by_cases own : visit.Of caller second
    · obtain ⟨rfl, rfl⟩ := own
      rw [List.filter_cons_of_pos (by simp [Visit.Of]), List.filter_nil, List.take_append]
      unfold visitsOf
      by_cases full : limiter.limit visit.origin.caller <
          (visits.filter fun other => other.Of visit.origin.caller visit.second).length + 1
      · rw [if_pos full, List.filter_nil, Nat.sub_eq_zero_of_le (Nat.le_of_lt_succ full),
          List.take_zero]
      · have room : [visit].length ≤ limiter.limit visit.origin.caller -
            (visits.filter fun other => other.Of visit.origin.caller visit.second).length := by
          rw [List.length_singleton]
          omega
        rw [if_neg full, List.filter_cons_of_pos (by simp [Visit.Of]), List.filter_nil,
          List.take_of_length_le room]
    · rw [List.filter_cons_of_neg (by simpa using own), List.filter_nil, List.append_nil]
      split
      · rw [List.filter_cons_of_neg (by simpa using own), List.filter_nil, List.append_nil]
      · rw [List.filter_nil, List.append_nil]

/-- Of the requests of one caller in one second exactly the first ones pass, up to the limit, and the
counter they are counted on does not expire while another request can still be counted in that
second. -/
theorem admitted_eq_take (enabled : limiter.enabled = true) (fresh : Fresh counters)
    (ordered : visits.Pairwise fun first second => first.arrival ≤ second.arrival)
    (punctual : ∀ visit ∈ visits, visit.Punctual) (few : visits.length < 2 ^ 63)
    (caller : Caller) (second : Nat) :
    visitsOf caller second
        (trace (limiter.step fault) (limiter.admits fault) counters visits) =
      (visitsOf caller second visits).take (limiter.limit caller) ∧
    ∀ arrival, (∀ visit ∈ visits, visit.arrival ≤ arrival) → arrival < closes second →
      (run (limiter.step fault) counters visits).evict arrival (caller.redisKey second) =
        run (limiter.step fault) counters visits (caller.redisKey second) := by
  refine ⟨visitsOf_admitted enabled fresh ordered punctual few caller second, ?_⟩
  intro arrival later early
  exact (counted_run enabled fresh ordered punctual few later).evict (Nat.le_refl _) early

/-- A token and an address, counted by two engines whose clocks are half a second apart. -/
def sharedVisits : List Visit :=
  [⟨5200, 5000, ⟨some "Bearer a", some "1.1.1.1, 2.2.2.2", none⟩⟩,
    ⟨4950, 5100, ⟨some "Bearer a", none, none⟩⟩,
    ⟨5300, 5100, ⟨none, some " 1.1.1.1 ,2.2.2.2", none⟩⟩,
    ⟨5900, 5700, ⟨some "Bearer a", none, some "3.3.3.3"⟩⟩,
    ⟨5600, 5800, ⟨some "Bearer a", none, none⟩⟩]

/-- Two requests of the token pass in the sixth second, whose counter is there to its end. -/
theorem admitted_eq_take_sharedVisits :
    visitsOf (.apiKey "a") 5
        (trace (step ⟨true, 1, 2⟩ "") (admits ⟨true, 1, 2⟩ "") Counters.empty sharedVisits) =
      [⟨5200, 5000, ⟨some "Bearer a", some "1.1.1.1, 2.2.2.2", none⟩⟩,
        ⟨5900, 5700, ⟨some "Bearer a", none, some "3.3.3.3"⟩⟩] ∧
    (run (step ⟨true, 1, 2⟩ "") Counters.empty sharedVisits).evict 6499
        ((Caller.apiKey "a").redisKey 5) =
      run (step ⟨true, 1, 2⟩ "") Counters.empty sharedVisits ((Caller.apiKey "a").redisKey 5) := by
  have punctual : ∀ visit ∈ sharedVisits, visit.Punctual := by
    intro visit member
    have near : ∀ visit ∈ sharedVisits, visit.now ≤ visit.arrival + 500 ∧
        visit.arrival ≤ visit.now + 500 ∧ visit.arrival + 2000 < 2 ^ 63 := by
      decide
    exact ⟨(near visit member).1, (near visit member).2.1, (near visit member).2.2⟩
  have fresh : Fresh Counters.empty := fun _ _ => rfl
  obtain ⟨first, stays⟩ := @admitted_eq_take ⟨true, 1, 2⟩ "" Counters.empty sharedVisits rfl fresh
    (by decide) punctual (by decide) (.apiKey "a") 5
  refine ⟨?_, stays 6499 (by decide) (by decide)⟩
  rw [first]
  decide

end RateLimiter

end OpenEngine.Api
