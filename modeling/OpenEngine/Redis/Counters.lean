import Mathlib.Algebra.Order.Ring.Nat

/-!
# Counters that expire

String keys that hold integers, with `GET`, `INCRBY` and `EXPIRE`. Time is in milliseconds. A key
lives up to and including the millisecond it expires at, and is gone for good after it; one that is
told to expire at once or in the past is deleted.
-/

namespace Redis

variable {κ : Type}

/-- An integer value and, if one is set, the time it expires at. -/
structure Counter where
  value : Nat
  expiresAt : Option Nat
deriving DecidableEq

/-- Counters by key. -/
def Counters (κ : Type) : Type := κ → Option Counter

/-- Whether a counter has not expired. -/
def Counter.live (counter : Counter) (now : Nat) : Bool :=
  counter.expiresAt.all fun expiry => now ≤ expiry

namespace Counters

/-- No key exists. -/
def empty : Counters κ := fun _ => none

/-- Drops every counter that has expired. -/
def evict (counters : Counters κ) (now : Nat) : Counters κ :=
  fun key => (counters key).filter fun counter => counter.live now

/-- `GET`, with a missing key as zero. -/
def get (counters : Counters κ) (key : κ) : Nat := ((counters key).map Counter.value).getD 0

/-- A counter that has not expired is not dropped. -/
theorem evict_of_live {counters : Counters κ} {now : Nat} {key : κ}
    (live : ∀ counter, counters key = some counter → counter.live now = true) :
    counters.evict now key = counters key := by
  unfold evict
  cases held : counters key with
  | none => rfl
  | some counter => simp [Option.filter_some, live counter held]

/-- What a key reads as at a time. -/
def read (counters : Counters κ) (now : Nat) (key : κ) : Nat := (counters.evict now).get key

/-- Nothing more is dropped at the same time. -/
theorem evict_evict (counters : Counters κ) (now : Nat) :
    (counters.evict now).evict now = counters.evict now := by
  funext key
  apply evict_of_live
  intro counter held
  unfold evict at held
  rw [Option.filter_eq_some_iff] at held
  exact held.2

/-- Counters that hold the same at a key read the same there. -/
theorem read_congr {left right : Counters κ} {now : Nat} {key : κ} (same : left key = right key) :
    left.read now key = right.read now key := by
  unfold read get evict
  rw [same]

/-- Counters that were cleared of what has expired read the same. -/
theorem read_of_evicted {counters later : Counters κ} {now : Nat} {key : κ}
    (same : later key = counters.evict now key) : later.read now key = counters.read now key := by
  rw [read_congr same, read, evict_evict, read]

variable [DecidableEq κ]

/-- Writes one key. -/
def set (counters : Counters κ) (key : κ) (counter : Counter) : Counters κ :=
  fun other => if other = key then some counter else counters other

/-- `INCRBY`: keeps the expiry, and fails when the result leaves `i64`. -/
def incrBy (counters : Counters κ) (key : κ) (amount : Nat) : Option (Counters κ) :=
  let value := counters.get key + amount
  if value < 2 ^ 63 then some (counters.set key ⟨value, (counters key).bind Counter.expiresAt⟩)
  else none

/-- Deletes one key. -/
def delete (counters : Counters κ) (key : κ) : Counters κ :=
  fun other => if other = key then none else counters other

/-- Whether `EXPIRE` takes a number of seconds: neither they nor the time they lead to leave `i64` in
milliseconds. -/
def Expirable (now : Nat) (seconds : Int) : Prop :=
  -2 ^ 63 ≤ 1000 * seconds ∧ now + 1000 * seconds.toNat < 2 ^ 63

instance (now : Nat) (seconds : Int) : Decidable (Expirable now seconds) :=
  inferInstanceAs (Decidable (_ ∧ _))

/-- A number of seconds is in range if the time it leads to is. -/
theorem expirable_natCast {now seconds : Nat} (soon : now + 1000 * seconds < 2 ^ 63) :
    Expirable now seconds := by
  unfold Expirable
  omega

/-- `EXPIRE` in seconds from now, which fails for a number out of range. -/
def expire (counters : Counters κ) (now : Nat) (key : κ) (seconds : Int) : Option (Counters κ) :=
  if Expirable now seconds then
    if seconds ≤ 0 then some (counters.delete key)
    else
      match counters key with
      | some counter =>
        some (counters.set key ⟨counter.value, some (now + 1000 * seconds.toNat)⟩)
      | none => some counters
  else none

/-- A written key reads back. -/
@[simp]
theorem set_self (counters : Counters κ) (key : κ) (counter : Counter) :
    counters.set key counter key = some counter := by
  simp [set]

/-- Other keys keep what they hold. -/
theorem set_of_ne {counters : Counters κ} {key other : κ} {counter : Counter}
    (different : other ≠ key) : counters.set key counter other = counters other := by
  simp [set, different]

/-- A deleted key is gone. -/
@[simp]
theorem delete_self (counters : Counters κ) (key : κ) : counters.delete key key = none := by
  simp [delete]

/-- Other keys stay. -/
theorem delete_of_ne {counters : Counters κ} {key other : κ} (different : other ≠ key) :
    counters.delete key other = counters other := by
  simp [delete, different]

/-- `INCRBY` leaves other keys alone. -/
theorem incrBy_of_ne {counters added : Counters κ} {key other : κ} {amount : Nat}
    (increments : counters.incrBy key amount = some added) (different : other ≠ key) :
    added other = counters other := by
  unfold incrBy at increments
  dsimp only at increments
  split at increments
  · rw [← Option.some.inj increments, set_of_ne different]
  · cases increments

/-- `INCRBY` adds to its key and keeps the expiry. -/
theorem incrBy_self {counters added : Counters κ} {key : κ} {amount : Nat}
    (increments : counters.incrBy key amount = some added) :
    added key = some ⟨counters.get key + amount, (counters key).bind Counter.expiresAt⟩ := by
  unfold incrBy at increments
  dsimp only at increments
  split at increments
  · rw [← Option.some.inj increments, set_self]
  · cases increments

/-- `EXPIRE` carries out every number in range. -/
theorem exists_expire (counters : Counters κ) (key : κ) {now : Nat} {seconds : Int}
    (timely : Expirable now seconds) : ∃ kept, counters.expire now key seconds = some kept := by
  unfold expire
  rw [if_pos timely]
  split
  · exact ⟨_, rfl⟩
  · split
    · exact ⟨_, rfl⟩
    · exact ⟨_, rfl⟩

/-- `EXPIRE` leaves other keys alone. -/
theorem expire_of_ne {counters kept : Counters κ} {now : Nat} {seconds : Int} {key other : κ}
    (expires : counters.expire now key seconds = some kept) (different : other ≠ key) :
    kept other = counters other := by
  unfold expire at expires
  split at expires
  · split at expires
    · rw [← Option.some.inj expires, delete_of_ne different]
    · split at expires
      · rw [← Option.some.inj expires, set_of_ne different]
      · rw [← Option.some.inj expires]
  · cases expires

/-- `EXPIRE` with a positive number sets the expiry of an existing key and keeps its value. -/
theorem expire_self {counters kept : Counters κ} {now : Nat} {seconds : Int} {key : κ}
    {counter : Counter} (positive : 0 < seconds)
    (expires : counters.expire now key seconds = some kept)
    (present : counters key = some counter) :
    kept key = some ⟨counter.value, some (now + 1000 * seconds.toNat)⟩ := by
  unfold expire at expires
  rw [present, if_neg (show ¬ seconds ≤ 0 by omega)] at expires
  split at expires
  · rw [← Option.some.inj expires, set_self]
  · cases expires

/-- `EXPIRE` with any other number deletes its key. -/
theorem expire_deletes {counters kept : Counters κ} {now : Nat} {seconds : Int} {key : κ}
    (past : seconds ≤ 0) (expires : counters.expire now key seconds = some kept) :
    kept key = none := by
  unfold expire at expires
  rw [if_pos past] at expires
  split at expires
  · rw [← Option.some.inj expires, delete_self]
  · cases expires

end Counters

end Redis
