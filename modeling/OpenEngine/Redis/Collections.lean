import Mathlib.Data.List.AList
import Mathlib.Data.List.Sort
import Mathlib.Data.List.Count
import Mathlib.Data.Finset.Basic

/-!
# Redis collections

Lists, hashes and sorted sets with the command semantics Redis documents. A list is a `List` with
its head on the left. A hash and a sorted set are association lists without repeated keys; the
order of a hash stands for the unspecified order of `HGETALL`, and a sorted set is put in score
order, then member order, when it is read. `Reply` keeps the part of a reply's type that a Lua
script can observe.
-/

namespace Redis

variable {α β : Type*}

/-- `LRANGE key start stop`: both ends inclusive, negative indices counted from the tail. -/
def lrange (list : List α) (start stop : Int) : List α :=
  let length : Int := list.length
  let first := max 0 (if start < 0 then start + length else start)
  let last := if stop < 0 then stop + length else stop
  if last < first then [] else (list.drop first.toNat).take (last - first + 1).toNat

/-- `LTRIM key start stop` keeps what `LRANGE` with the same ends returns. -/
def ltrim (list : List α) (start stop : Int) : List α := lrange list start stop

/-- `LRANGE key n -1` is everything from index `n` on. -/
@[simp] theorem lrange_from (list : List α) (n : Nat) : lrange list n (-1) = list.drop n := by
  unfold lrange
  simp only [Int.reduceLT, ↓reduceIte, show ¬((n : Int) < 0) by omega]
  rw [max_eq_right (by omega : (0 : Int) ≤ n)]
  split
  · rename_i short
    rw [List.drop_eq_nil_of_le (by omega)]
  · rename_i enough
    rw [Int.toNat_natCast, List.take_of_length_le]
    rw [List.length_drop]
    omega

/-- `LTRIM key 0 n-1` keeps the first `n` entries, for every bound but zero. -/
theorem ltrim_to (list : List α) (n : Nat) (positive : 0 < n) :
    ltrim list 0 ((n : Int) - 1) = list.take n := by
  unfold ltrim lrange
  simp only [lt_self_iff_false, ↓reduceIte, max_self, show ¬((n : Int) - 1 < 0) by omega]
  have : ((n : Int) - 1 - 0 + 1).toNat = n := by omega
  rw [this]
  rfl

/-- `LTRIM key 0 -1`, the bound of a list whose limit is zero, keeps everything. -/
theorem ltrim_zero (list : List α) : ltrim list 0 (((0 : Nat) : Int) - 1) = list :=
  lrange_from list 0

/-- A list trimmed to a bound is within it, unless the bound is zero and the list is not empty. -/
theorem length_ltrim_le_iff (list : List α) (n : Nat) :
    (ltrim list 0 ((n : Int) - 1)).length ≤ n ↔ 0 < n ∨ list = [] := by
  cases n with
  | zero => rw [ltrim_zero, Nat.le_zero, List.length_eq_zero_iff, or_iff_right (lt_irrefl 0)]
  | succ n =>
    rw [ltrim_to list (n + 1) n.succ_pos]
    exact iff_of_true (List.length_take_le _ _) (.inl n.succ_pos)

/-- Trimming keeps the order and adds nothing, whatever the indices. -/
theorem ltrim_sublist (list : List α) (start stop : Int) :
    (ltrim list start stop).Sublist list := by
  unfold ltrim lrange
  extract_lets length first last
  by_cases empty : last < first
  · rw [if_pos empty]
    exact List.nil_sublist _
  · rw [if_neg empty]
    exact (List.take_sublist _ _).trans (List.drop_sublist _ _)

/-- A trim from the left end keeps the first element, also with the bound zero. -/
theorem head?_ltrim (element : α) (list : List α) (n : Nat) :
    (ltrim (element :: list) 0 ((n : Int) - 1)).head? = some element := by
  cases n with
  | zero => rw [ltrim_zero, List.head?_cons]
  | succ n => rw [ltrim_to _ (n + 1) n.succ_pos, List.take_succ_cons, List.head?_cons]

/-- Trimming adds no entry, whatever the indices. -/
theorem length_ltrim_le (list : List α) (start stop : Int) :
    (ltrim list start stop).length ≤ list.length := (ltrim_sublist list start stop).length_le

/-- A list trimmed to a bound and the tail past the bound share the entries, unless the bound is
zero. -/
theorem count_ltrim [DecidableEq α] (list : List α) (n : Nat) (element : α) (positive : 0 < n) :
    (ltrim list 0 ((n : Int) - 1)).count element + (list.drop n).count element =
      list.count element := by
  rw [ltrim_to list n positive, ← List.count_append, List.take_append_drop]

/-- Trimming to a bound adds no entry. -/
theorem count_ltrim_le [DecidableEq α] (list : List α) (n : Nat) (element : α) :
    (ltrim list 0 ((n : Int) - 1)).count element ≤ list.count element := by
  cases n with
  | zero => rw [ltrim_zero]
  | succ n => have := count_ltrim list (n + 1) element n.succ_pos; omega

/-- Trimming to a bound keeps every entry of an element that is not in the tail. -/
theorem count_ltrim_of_not_mem [DecidableEq α] (list : List α) (n : Nat) (element : α)
    (absent : element ∉ list.drop n) :
    (ltrim list 0 ((n : Int) - 1)).count element = list.count element := by
  cases n with
  | zero => rw [ltrim_zero]
  | succ n =>
    have split := count_ltrim list (n + 1) element n.succ_pos
    rw [List.count_eq_zero_of_not_mem absent] at split
    exact split

/-- The type of a reply as a Lua script sees it: integers become numbers, bulk replies become
strings and a nil reply becomes `false`. -/
inductive Reply where
  /-- An integer reply. -/
  | integer (value : Int)
  /-- A bulk reply, here a number in its printed form. -/
  | bulk (printed : Nat)
  /-- A nil reply. -/
  | nil
deriving DecidableEq

/-- `type(reply) == "number"` in a script. -/
def Reply.isNumber : Reply → Bool
  | .integer _ => true
  | .bulk _ => false
  | .nil => false

/-- `reply ~= nil` in a script: a nil reply arrives as `false`, so no reply is `nil`. -/
def Reply.isNotNil : Reply → Bool
  | .integer _ => true
  | .bulk _ => true
  | .nil => true

/-- `LPOS key element`: the index of the first match as an integer reply. -/
def lpos [DecidableEq α] (list : List α) (element : α) : Reply :=
  match list.idxOf? element with
  | some index => .integer index
  | none => .nil

/-- A list position is a number exactly when the element is in the list. -/
@[simp] theorem lpos_isNumber [DecidableEq α] (list : List α) (element : α) :
    (lpos list element).isNumber = decide (element ∈ list) := by
  unfold lpos
  cases found : list.idxOf? element with
  | none =>
    have absent : element ∉ list := by simpa using found
    simp [Reply.isNumber, absent]
  | some index =>
    have present : element ∈ list := by
      by_contra absent
      rw [List.idxOf?_eq_none_iff.mpr absent] at found
      contradiction
    simp [Reply.isNumber, present]

/-- A hash, or a sorted set read as member and score. -/
abbrev Hash (α β : Type*) := AList (fun _ : α => β)

/-- `ZSCORE key member`: the score as a bulk reply. -/
def zscore [DecidableEq α] (set : Hash α Nat) (member : α) : Reply :=
  match set.lookup member with
  | some score => .bulk score
  | none => .nil

/-- A score is never a Lua number. -/
@[simp] theorem zscore_isNumber [DecidableEq α] (set : Hash α Nat) (member : α) :
    (zscore set member).isNumber = false := by
  unfold zscore
  cases set.lookup member <;> rfl

/-- Sorted-set order: by score, members of one score in member order. -/
def scoreOrder [LinearOrder α] (left right : (_ : α) × Nat) : Prop :=
  left.2 < right.2 ∨ left.2 = right.2 ∧ left.1 ≤ right.1

instance [LinearOrder α] : DecidableRel (scoreOrder (α := α)) :=
  fun _ _ => inferInstanceAs (Decidable (_ ∨ _))

/-- `ZRANGE key 0 -1 WITHSCORES`: every member with its score, in sorted-set order. -/
def zrange [LinearOrder α] (set : Hash α Nat) : List (α × Nat) :=
  (set.entries.insertionSort scoreOrder).map fun entry => (entry.1, entry.2)

/-- What `ZRANGE` lists is what the set holds. -/
theorem mem_zrange [LinearOrder α] {set : Hash α Nat} {member : α} {score : Nat} :
    (member, score) ∈ zrange set ↔ set.lookup member = some score := by
  unfold zrange
  rw [← Option.mem_def, AList.mem_lookup_iff, List.mem_map]
  constructor
  · rintro ⟨entry, inside, same⟩
    rw [List.mem_insertionSort] at inside
    obtain ⟨rfl, rfl⟩ := Prod.mk.injEq _ _ _ _ ▸ same
    exact inside
  · intro inside
    exact ⟨⟨member, score⟩, (List.mem_insertionSort _).mpr inside, rfl⟩

/-- The members `ZRANGE` lists are the keys of the set, in some order. -/
theorem zrange_perm [LinearOrder α] (set : Hash α Nat) :
    ((zrange set).map Prod.fst).Perm set.keys := by
  unfold zrange
  rw [List.map_map]
  exact (List.perm_insertionSort scoreOrder set.entries).map Sigma.fst

/-- `ZRANGE` lists by score, members of one score in member order. -/
theorem pairwise_zrange [LinearOrder α] (set : Hash α Nat) :
    (zrange set).Pairwise fun left right =>
      left.2 < right.2 ∨ left.2 = right.2 ∧ left.1 ≤ right.1 := by
  have total : Std.Total (scoreOrder (α := α)) := ⟨fun left right => by
    rcases lt_trichotomy left.2 right.2 with less | same | more
    · exact .inl (.inl less)
    · rcases le_total left.1 right.1 with below | above
      · exact .inl (.inr ⟨same, below⟩)
      · exact .inr (.inr ⟨same.symm, above⟩)
    · exact .inr (.inl more)⟩
  have trans : IsTrans _ (scoreOrder (α := α)) := ⟨fun first second third before after => by
    rcases before with less | ⟨same, below⟩ <;> rcases after with more | ⟨equal, above⟩
    · exact .inl (less.trans more)
    · exact .inl (equal ▸ less)
    · exact .inl (same ▸ more)
    · exact .inr ⟨same.trans equal, below.trans above⟩⟩
  exact (List.pairwise_insertionSort scoreOrder set.entries).map _ fun _ _ ordered => ordered

/-- `ZADD key NX score member`: a member keeps the score it has. -/
def zaddNx [DecidableEq α] (set : Hash α Nat) (member : α) (score : Nat) : Hash α Nat :=
  if member ∈ set then set else set.insert member score

/-- `ZRANGEBYSCORE key 0 top`: the members of score at most `top`, in sorted-set order. -/
def zrangeByScore [LinearOrder α] (set : Hash α Nat) (top : Nat) : List α :=
  ((set.entries.filter fun entry => entry.2 ≤ top).insertionSort scoreOrder).map Sigma.fst

/-- The members of a score range are in the set under a score in the range. -/
theorem lookup_of_mem_zrangeByScore [LinearOrder α] {set : Hash α Nat} {top : Nat} {member : α}
    (due : member ∈ zrangeByScore set top) : ∃ score ≤ top, set.lookup member = some score := by
  unfold zrangeByScore at due
  obtain ⟨entry, inside, rfl⟩ := List.mem_map.mp due
  have kept := (List.perm_insertionSort scoreOrder _).mem_iff.mp inside
  obtain ⟨present, low⟩ := List.mem_filter.mp kept
  exact ⟨entry.2, of_decide_eq_true low, AList.mem_lookup_iff.mpr present⟩

/-- A member under a score in the range is among those of the range. -/
theorem mem_zrangeByScore_of_lookup [LinearOrder α] {set : Hash α Nat} {top score : Nat} {member : α}
    (found : set.lookup member = some score) (low : score ≤ top) :
    member ∈ zrangeByScore set top := by
  have present : (⟨member, score⟩ : Sigma fun _ : α => Nat) ∈ set.entries :=
    AList.mem_lookup_iff.mp found
  refine List.mem_map.mpr ⟨⟨member, score⟩, ?_, rfl⟩
  exact (List.perm_insertionSort scoreOrder _).mem_iff.mpr
    (List.mem_filter.mpr ⟨present, decide_eq_true low⟩)

/-- The members of a score range are members of the set. -/
theorem mem_of_mem_zrangeByScore [LinearOrder α] {set : Hash α Nat} {top : Nat} {member : α}
    (due : member ∈ zrangeByScore set top) : member ∈ set := by
  obtain ⟨score, -, found⟩ := lookup_of_mem_zrangeByScore due
  exact AList.lookup_isSome.mp (by rw [found]; rfl)

/-- A score range names no member twice. -/
theorem nodup_zrangeByScore [LinearOrder α] (set : Hash α Nat) (top : Nat) :
    (zrangeByScore set top).Nodup := by
  unfold zrangeByScore
  have sorted := (List.perm_insertionSort scoreOrder
    (set.entries.filter fun entry => entry.2 ≤ top)).map Sigma.fst
  rw [sorted.nodup_iff]
  exact set.keys_nodup.sublist (List.filter_sublist.map Sigma.fst)

end Redis
