import Mathlib.Algebra.GroupWithZero.Nat
import Mathlib.Data.List.Count
import Mathlib.Data.List.Pairwise
import Mathlib.Order.Lattice.Nat

/-!
# Round robin

Lanes that hold some items each are served one item at a time, in turn. A lane without an item
leaves the turn, one that gave an item goes to its end. The turn is complete: it serves as many
items as it is asked for, or all there are. And it is level: of two lanes that still hold items,
none was served more than once more than the other.
-/

namespace RoundRobin

variable {κ : Type*}

/-- The lanes a turn serves, in order, when it is asked for so many items. -/
def serve : Nat → List (κ × Nat) → List κ
  | 0, _ => []
  | _ + 1, [] => []
  | wanted + 1, (_, 0) :: rest => serve (wanted + 1) rest
  | wanted + 1, (lane, held + 1) :: rest => lane :: serve wanted (rest ++ [(lane, held)])
termination_by wanted lanes => (wanted, lanes.length)

/-- Each lane of the turn was served as often as those after it, or once less. -/
def Level (served : κ → Nat) (lanes : List (κ × Nat)) : Prop :=
  lanes.Pairwise fun first second =>
    served first.1 ≤ served second.1 ∧ served second.1 ≤ served first.1 + 1

/-- A turn serves what it is asked for, or all there is. -/
theorem length_serve (wanted : Nat) (lanes : List (κ × Nat)) :
    (serve wanted lanes).length = min wanted (lanes.map Prod.snd).sum := by
  induction wanted, lanes using serve.induct with
  | case1 lanes => simp [serve]
  | case2 wanted => simp [serve]
  | case3 wanted lane rest ih =>
    rw [serve, ih]
    simp
  | case4 wanted lane held rest ih =>
    rw [serve, List.length_cons, ih]
    simp only [List.map_append, List.map_cons, List.map_nil, List.sum_append, List.sum_cons,
      List.sum_nil]
    omega

/-- Lanes that were served equally often are level. -/
theorem Level.of_const (count : Nat) (lanes : List (κ × Nat)) : Level (fun _ => count) lanes :=
  List.pairwise_of_forall fun _ _ => ⟨Nat.le_refl _, Nat.le_succ _⟩

/-- Two lanes of a level turn, whichever comes first. -/
theorem Level.le_succ {served : κ → Nat} {lanes : List (κ × Nat)} (level : Level served lanes)
    {one two : κ × Nat} (first : one ∈ lanes) (second : two ∈ lanes) :
    served one.1 ≤ served two.1 + 1 := by
  have symmetric : Std.Symm fun left right : κ × Nat =>
      served left.1 ≤ served right.1 + 1 ∧ served right.1 ≤ served left.1 + 1 :=
    ⟨fun _ _ near => ⟨near.2, near.1⟩⟩
  have near : lanes.Pairwise fun left right =>
      served left.1 ≤ served right.1 + 1 ∧ served right.1 ≤ served left.1 + 1 :=
    level.imp fun ordered => ⟨Nat.le_succ_of_le ordered.1, ordered.2⟩
  exact (near.forall_of_forall (fun _ _ => ⟨Nat.le_succ _, Nat.le_succ _⟩) first second).1

variable [DecidableEq κ]

/-- A turn stays level when its first lane is served and goes to the end. -/
theorem Level.rotate {served : κ → Nat} {lane : κ} {held : Nat} {rest : List (κ × Nat)}
    (level : Level served ((lane, held + 1) :: rest)) (absent : lane ∉ rest.map Prod.fst) :
    Level (fun other => if other = lane then served other + 1 else served other)
      (rest ++ [(lane, held)]) := by
  obtain ⟨ahead, later⟩ := List.pairwise_cons.mp level
  have others (entry : κ × Nat) (member : entry ∈ rest) :
      (if entry.1 = lane then served entry.1 + 1 else served entry.1) = served entry.1 := by
    rw [if_neg]
    intro same
    exact absent (same ▸ List.mem_map_of_mem member)
  refine List.pairwise_append.mpr ⟨?_, List.pairwise_singleton _ _, ?_⟩
  · refine List.Pairwise.imp_of_mem ?_ later
    intro first second one two ordered
    dsimp only
    rw [others first one, others second two]
    exact ordered
  · intro entry member last isLast
    rw [List.mem_singleton.mp isLast]
    have order := ahead entry member
    dsimp only at order ⊢
    rw [others entry member, if_pos rfl]
    omega

/-- Two lanes that still hold items after a turn were served equally often, or one of them once
more. -/
theorem serve_level (wanted : Nat) (lanes : List (κ × Nat)) (served : κ → Nat)
    (distinct : (lanes.map Prod.fst).Nodup) (level : Level served lanes) {one two : κ × Nat}
    (first : one ∈ lanes) (second : two ∈ lanes)
    (oneHolds : (serve wanted lanes).count one.1 < one.2)
    (twoHolds : (serve wanted lanes).count two.1 < two.2) :
    served one.1 + (serve wanted lanes).count one.1 ≤
      served two.1 + (serve wanted lanes).count two.1 + 1 := by
  induction wanted, lanes using serve.induct generalizing served one two with
  | case1 lanes =>
    have order := level.le_succ first second
    simpa [serve] using order
  | case2 wanted => exact absurd first List.not_mem_nil
  | case3 wanted lane rest ih =>
    rw [serve] at oneHolds twoHolds ⊢
    have remains {entry : κ × Nat} (member : entry ∈ (lane, 0) :: rest)
        (holds : (serve (wanted + 1) rest).count entry.1 < entry.2) : entry ∈ rest := by
      rcases List.mem_cons.mp member with rfl | later
      · exact absurd holds (Nat.not_lt_zero _)
      · exact later
    exact ih served (List.nodup_cons.mp distinct).2 (List.pairwise_cons.mp level).2
      (remains first oneHolds) (remains second twoHolds) oneHolds twoHolds
  | case4 wanted lane held rest ih =>
    obtain ⟨absent, restDistinct⟩ := List.nodup_cons.mp distinct
    have moved : ((rest ++ [(lane, held)]).map Prod.fst).Nodup := by
      rw [List.map_append, List.nodup_append]
      refine ⟨restDistinct, List.nodup_singleton _, ?_⟩
      intro name member last isLast same
      rw [List.map_singleton, List.mem_singleton] at isLast
      exact absent (isLast ▸ same ▸ member)
    rw [serve] at oneHolds twoHolds ⊢
    set later := serve wanted (rest ++ [(lane, held)]) with isLater
    set counted := fun other => if other = lane then served other + 1 else served other
      with isCounted
    have follows {entry : κ × Nat} (member : entry ∈ (lane, held + 1) :: rest)
        (holds : (lane :: later).count entry.1 < entry.2) :
        ∃ left, (entry.1, left) ∈ rest ++ [(lane, held)] ∧ later.count entry.1 < left ∧
          counted entry.1 + later.count entry.1 =
            served entry.1 + (lane :: later).count entry.1 := by
      rcases List.mem_cons.mp member with rfl | inRest
      · rw [List.count_cons_self] at holds ⊢
        refine ⟨held, List.mem_append_right _ List.mem_cons_self, by omega, ?_⟩
        simp only [isCounted, ↓reduceIte]
        omega
      · have different : entry.1 ≠ lane := fun same =>
          absent (List.mem_map.mpr ⟨entry, inRest, same⟩)
        rw [List.count_cons_of_ne different.symm] at holds ⊢
        refine ⟨entry.2, List.mem_append_left _ inRest, holds, ?_⟩
        simp only [isCounted, if_neg different]
    obtain ⟨oneLeft, oneStays, oneMore, oneSum⟩ := follows first oneHolds
    obtain ⟨twoLeft, twoStays, twoMore, twoSum⟩ := follows second twoHolds
    have order := ih counted moved (level.rotate absent) oneStays twoStays oneMore twoMore
    dsimp only at order
    omega

end RoundRobin
