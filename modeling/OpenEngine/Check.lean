import Mathlib.Data.List.Basic

/-!
# Checks that stop at the first error

Loops over an indexed list whose body can refuse an element. A loop passes when its body passes on
every element, and a second loop that computes a value wherever the first one passes succeeds too.
-/

namespace Check

variable {ε α β : Type}

/-- A sequence succeeds when both of its parts do. -/
theorem bind_eq_ok {first : Except ε α} {next : α → Except ε β} {result : β} :
    (first >>= next) = .ok result ↔ ∃ value, first = .ok value ∧ next value = .ok result := by
  cases first with
  | error failure => simp [bind, Except.bind]
  | ok value => simp [bind, Except.bind]

/-- A check before the rest passes when both do. -/
theorem seq_eq_ok {first : Except ε Unit} {next : Except ε β} {result : β} :
    (first >>= fun _ => next) = .ok result ↔ first = .ok () ∧ next = .ok result := by
  rw [bind_eq_ok]
  constructor
  · rintro ⟨_, passed, rest⟩
    exact ⟨passed, rest⟩
  · rintro ⟨passed, rest⟩
    exact ⟨(), passed, rest⟩

/-- Relabelling errors changes no success. -/
theorem mapError_eq_ok {δ : Type} {result : Except ε α} {relabel : ε → δ} {value : α} :
    result.mapError relabel = .ok value ↔ result = .ok value := by
  cases result with
  | error failure => simp [Except.mapError]
  | ok found => simp [Except.mapError]

/-- An early return of an error. -/
def refuseIf (bad : Prop) [Decidable bad] (failure : ε) : Except ε Unit :=
  if bad then .error failure else .ok ()

/-- What is refused is exactly the bad case. -/
theorem refuseIf_eq_ok {bad : Prop} [Decidable bad] {failure : ε} :
    refuseIf bad failure = .ok () ↔ ¬bad := by
  unfold refuseIf
  split
  · next found => simp [found]
  · next fine => simp [fine]

/-- Checks every element in order, each with its index. -/
def each (check : Nat → α → Except ε Unit) : Nat → List α → Except ε Unit
  | _, [] => .ok ()
  | index, value :: rest => do
    check index value
    each check (index + 1) rest

/-- Computes a result for every element in order, each with its index. -/
def mapEach (compute : Nat → α → Except ε β) : Nat → List α → Except ε (List β)
  | _, [] => .ok []
  | index, value :: rest => do
    let result ← compute index value
    let results ← mapEach compute (index + 1) rest
    return result :: results

/-- Every element of a passed loop passed under some index. -/
theorem each_mem {check : Nat → α → Except ε Unit} {start : Nat} {values : List α} {value : α}
    (passed : each check start values = .ok ()) (valueMem : value ∈ values) :
    ∃ index, check index value = .ok () := by
  induction values generalizing start with
  | nil => exact absurd valueMem List.not_mem_nil
  | cons first rest ih =>
    obtain ⟨_, front, back⟩ := bind_eq_ok.mp passed
    rcases List.mem_cons.mp valueMem with rfl | later
    · exact ⟨start, front⟩
    · exact ih back later

/-- A loop passes exactly if its body passes on every element under its index. -/
theorem each_eq_ok_iff {check : Nat → α → Except ε Unit} {start : Nat} {values : List α} :
    each check start values = .ok () ↔
      ∀ index value, values[index]? = some value → check (start + index) value = .ok () := by
  induction values generalizing start with
  | nil => simp [each]
  | cons first rest ih =>
    rw [each, seq_eq_ok, ih]
    constructor
    · rintro ⟨front, back⟩ index value found
      cases index with
      | zero =>
        rw [← Option.some.inj found]
        exact front
      | succ index =>
        have here := back index value (by simpa using found)
        rwa [Nat.add_right_comm, Nat.add_assoc] at here
    · intro every
      refine ⟨every 0 first rfl, ?_⟩
      intro index value found
      have here := every (index + 1) value (by simpa using found)
      rwa [Nat.add_right_comm, Nat.add_assoc]

/-- A loop that does not look at the index passes exactly if its body passes on every element. -/
theorem each_eq_ok_iff_forall {check : Nat → α → Except ε Unit} {passes : α → Prop}
    (spec : ∀ index value, check index value = .ok () ↔ passes value) {start : Nat}
    {values : List α} : each check start values = .ok () ↔ ∀ value ∈ values, passes value := by
  rw [each_eq_ok_iff]
  constructor
  · intro every value member
    obtain ⟨index, found⟩ := List.getElem?_of_mem member
    exact (spec _ _).mp (every index value found)
  · intro every index value found
    exact (spec _ _).mpr (every value (List.mem_of_getElem? found))

/-- A loop that passed passes again when one element is replaced by one that passes wherever the old
one did. -/
theorem each_replace {check : Nat → α → Except ε Unit} {before after : List α} {old new : α}
    {start : Nat} (passed : each check start (before ++ old :: after) = .ok ())
    (kept : ∀ index, check index old = .ok () → check index new = .ok ()) :
    each check start (before ++ new :: after) = .ok () := by
  induction before generalizing start with
  | nil =>
    rw [List.nil_append, each, seq_eq_ok] at passed ⊢
    exact ⟨kept _ passed.1, passed.2⟩
  | cons first rest ih =>
    rw [List.cons_append, each, seq_eq_ok] at passed ⊢
    exact ⟨passed.1, ih passed.2⟩

/-- Results that exist wherever a check passes exist for a list that passes. -/
theorem mapEach_of_each {check : Nat → α → Except ε Unit} {compute : Nat → α → Except ε β}
    {result : α → β} {start : Nat} {values : List α}
    (computes : ∀ index value, check index value = .ok () →
      compute index value = .ok (result value))
    (passed : each check start values = .ok ()) :
    mapEach compute start values = .ok (values.map result) := by
  induction values generalizing start with
  | nil => rfl
  | cons first rest ih =>
    obtain ⟨_, front, back⟩ := bind_eq_ok.mp passed
    rw [mapEach, computes start first front, ih back]
    rfl

end Check
