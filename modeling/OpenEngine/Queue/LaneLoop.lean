import Mathlib.Data.List.ReduceOption
import Mathlib.Data.List.Rotate
import OpenEngine.Queue.LaneTurns

/-!
# The lane loop of a batch

Step 2 of the multilane pop is a `while` loop over a table of lanes. A lane that gave no job is
overwritten with nil and skipped from then on without being counted again, and the index starts over
after the last entry. The loop ends for every table, and what it does is what `popLanes` does with
the entries that are left, taken in turn.
-/

namespace OpenEngine.Queue

variable {ι δ ο ε : Type}

/-- The local variables of the loop. -/
structure LaneLoop (ι δ ο ε : Type) where
  /-- The store and the tables the script returns. -/
  popping : LanePopState ι δ ο ε
  /-- `lanes_with_scores`, lane and score side by side; nil for a lane marked as empty. -/
  lanesWithScores : List (Option (String × Nat))
  /-- `lane_index`, counted from zero. -/
  laneIndex : Nat := 0
  jobsPopped : Nat := 0
  emptyLanesCount : Nat := 0

/-- `lane_index + 1`, or the first again after `total_lanes`. -/
def LaneLoop.nextIndex (loop : LaneLoop ι δ ο ε) : Nat :=
  let laneIndex := loop.laneIndex + 1
  if loop.lanesWithScores.length ≤ laneIndex then 0 else laneIndex

/-- The entries of the table in the order of the coming visits. -/
def LaneLoop.coming (loop : LaneLoop ι δ ο ε) : List (Option (String × Nat)) :=
  loop.lanesWithScores.rotate loop.laneIndex

/-- The loop's variables belong together: the index is one of the table, the empty lanes are the
nils, and no more jobs were popped than asked for. -/
structure LaneLoop.Consistent (batchSize : Nat) (loop : LaneLoop ι δ ο ε) : Prop where
  index : loop.lanesWithScores ≠ [] → loop.laneIndex < loop.lanesWithScores.length
  empty : loop.emptyLanesCount + loop.coming.reduceOption.length = loop.lanesWithScores.length
  popped : loop.jobsPopped ≤ batchSize

variable [LinearOrder ι]

section Loop

variable (options : QueueOptions) (now : Nat)

/-- A visit to one lane: clean it up and promote unless that was done in this second, then pop a job
from it. Whether it gave one, and the state; a lane that gave none may be retired. -/
def LanePopState.visitLane (state : LanePopState ι δ ο ε) (laneId : String) (lastScore : Nat) :
    Bool × LanePopState ι δ ο ε :=
  let visited := if lastScore ≠ now then state.refreshLane now laneId else state
  match visited.store.popJobFromLane options now laneId with
  | (some job, store) =>
    (true, { visited with store, resultJobs := visited.resultJobs ++ [(laneId, job)] })
  | (none, store) => (false, { visited with store := store.retireLane laneId })

/-- The body of the loop. -/
def LaneLoop.turn (loop : LaneLoop ι δ ο ε) : LaneLoop ι δ ο ε :=
  match loop.lanesWithScores[loop.laneIndex]?.join with
  | none => { loop with laneIndex := loop.nextIndex }
  | some (laneId, lastScore) =>
    let scored :=
      if lastScore ≠ now then loop.lanesWithScores.set loop.laneIndex (some (laneId, now))
      else loop.lanesWithScores
    match loop.popping.visitLane options now laneId lastScore with
    | (true, popping) =>
      { popping
        lanesWithScores := scored
        laneIndex := loop.nextIndex
        jobsPopped := loop.jobsPopped + 1
        emptyLanesCount := loop.emptyLanesCount }
    | (false, popping) =>
      { popping
        lanesWithScores := scored.set loop.laneIndex none
        laneIndex := loop.nextIndex
        jobsPopped := loop.jobsPopped
        emptyLanesCount := loop.emptyLanesCount + 1 }

/-- The loop, given up without a result when it has not ended after so many turns. -/
def LaneLoop.run (batchSize : Nat) : Nat → LaneLoop ι δ ο ε → Option (LanePopState ι δ ο ε)
  | 0, _ => none
  | turns + 1, loop =>
    if loop.jobsPopped < batchSize ∧ loop.emptyLanesCount < loop.lanesWithScores.length then
      run batchSize turns (loop.turn options now)
    else some loop.popping

/-- The loop ends in a state, however many turns more it is given. -/
def LaneLoop.Ends (batchSize : Nat) (loop : LaneLoop ι δ ο ε) (final : LanePopState ι δ ο ε) :
    Prop :=
  ∃ enough, ∀ turns ≥ enough, loop.run options now batchSize turns = some final

/-- `pop_batch_jobs` with its loop: the script's final state, unless the loop is given up. -/
def MultilaneStore.runBatchPop (store : MultilaneStore ι δ ο ε) (batchSize turns : Nat) :
    Option (LanePopState ι δ ο ε) :=
  let swept := store.pendingCancellations.keys.foldl (LanePopState.sweepCancellation now) { store }
  LaneLoop.run options now batchSize turns
    { popping := swept, lanesWithScores := (Redis.zrange swept.store.lanes).map some }

/-- A turn visits the next lane. The lane that gives a job goes to the end. -/
theorem LanePopState.seekJob_visitLane (state : LanePopState ι δ ο ε) (laneId : String)
    (lastScore : Nat) (rest : List (String × Nat)) :
    state.seekJob options now ((laneId, lastScore) :: rest) =
      match state.visitLane options now laneId lastScore with
      | (true, after) => (after, some (rest ++ [(laneId, now)]))
      | (false, after) => after.seekJob options now rest := by
  rw [seekJob, visitLane]
  set visited := if lastScore ≠ now then state.refreshLane now laneId else state
  cases visited.store.popJobFromLane options now laneId with
  | mk popped store => cases popped <;> rfl

/-- A batch goes on behind a lane that gave a job, one job short. -/
theorem LanePopState.popLanes_gave {state after : LanePopState ι δ ο ε} {laneId : String}
    {lastScore : Nat} (visit : state.visitLane options now laneId lastScore = (true, after))
    (wanted : Nat) (rest : List (String × Nat)) :
    state.popLanes options now (wanted + 1) ((laneId, lastScore) :: rest) =
      after.popLanes options now wanted (rest ++ [(laneId, now)]) := by
  rw [popLanes, seekJob_visitLane, visit]

/-- A batch goes on without a lane that gave no job. -/
theorem LanePopState.popLanes_passed {state after : LanePopState ι δ ο ε} {laneId : String}
    {lastScore : Nat} (visit : state.visitLane options now laneId lastScore = (false, after))
    (wanted : Nat) (rest : List (String × Nat)) :
    state.popLanes options now (wanted + 1) ((laneId, lastScore) :: rest) =
      after.popLanes options now (wanted + 1) rest := by
  rw [popLanes, seekJob_visitLane, visit, popLanes]

/-- Without a lane a batch is over. -/
theorem LanePopState.popLanes_nil (state : LanePopState ι δ ο ε) (wanted : Nat) :
    state.popLanes options now wanted [] = state := by
  cases wanted <;> rfl

end Loop

section Table

variable {α : Type}

/-- A table written at one index, read on from the next. -/
theorem rotate_set_next (table : List α) {index : Nat} (inside : index < table.length)
    (entry : α) : (table.set index entry).rotate (index + 1) =
      (table.rotate index).tail ++ [entry] := by
  have whole : index + 1 ≤ (table.set index entry).length := by
    rw [List.length_set]
    exact inside
  rw [List.rotate_eq_drop_append_take whole, List.rotate_eq_drop_append_take (by omega),
    List.drop_set_of_lt (Nat.lt_succ_self index), List.drop_eq_getElem_cons inside,
    List.cons_append, List.tail_cons, List.append_assoc]
  congr 1
  rw [List.take_succ_eq_append_getElem (by simpa using inside), List.getElem_set_self,
    List.take_set_of_le (Nat.le_refl index)]

/-- A table begins with nils up to an entry, or has no entry. -/
theorem nils_or_entry (table : List (Option α)) :
    table.reduceOption = [] ∨
      ∃ gap entry rest, table = List.replicate gap none ++ some entry :: rest := by
  induction table with
  | nil => exact .inl rfl
  | cons head rest ih =>
    cases head with
    | some entry => exact .inr ⟨0, entry, rest, rfl⟩
    | none =>
      rcases ih with empty | ⟨gap, entry, later, same⟩
      · exact .inl empty
      · exact .inr ⟨gap + 1, entry, later, by rw [same, List.replicate_succ, List.cons_append]⟩

end Table

section Turns

variable (options : QueueOptions) (now : Nat) {batchSize : Nat}

omit [LinearOrder ι] in
/-- Reading on from the next index is reading on from one entry further. -/
theorem LaneLoop.rotate_nextIndex {α : Type} (loop : LaneLoop ι δ ο ε) (table : List α)
    (same : table.length = loop.lanesWithScores.length)
    (inside : loop.laneIndex < loop.lanesWithScores.length) :
    table.rotate loop.nextIndex = table.rotate (loop.laneIndex + 1) := by
  unfold nextIndex
  dsimp only
  split
  · have last : loop.laneIndex + 1 = table.length := by omega
    rw [last, List.rotate_length, List.rotate_zero]
  · rfl

omit [LinearOrder ι] in
/-- The next index is one of the table. -/
theorem LaneLoop.nextIndex_lt (loop : LaneLoop ι δ ο ε)
    (inside : loop.laneIndex < loop.lanesWithScores.length) :
    loop.nextIndex < loop.lanesWithScores.length := by
  unfold nextIndex
  dsimp only
  split <;> omega

omit [LinearOrder ι] in
/-- The entry under the index comes first. -/
theorem LaneLoop.entry_of_coming {loop : LaneLoop ι δ ο ε} {head : Option (String × Nat)}
    {rest : List (Option (String × Nat))}
    (inside : loop.laneIndex < loop.lanesWithScores.length)
    (coming : loop.coming = head :: rest) :
    loop.lanesWithScores[loop.laneIndex]?.join = head := by
  rw [← List.head?_rotate inside, show loop.lanesWithScores.rotate loop.laneIndex = head :: rest
    from coming]
  rfl

omit [LinearOrder ι] in
/-- Behind the first entry come the others, and it again. -/
theorem LaneLoop.rotate_of_coming {loop : LaneLoop ι δ ο ε} {head : Option (String × Nat)}
    {rest : List (Option (String × Nat))} (coming : loop.coming = head :: rest) :
    loop.lanesWithScores.rotate (loop.laneIndex + 1) = rest ++ [head] := by
  have here : loop.lanesWithScores.rotate loop.laneIndex = head :: rest := coming
  rw [← List.rotate_rotate, here, List.rotate_cons_succ, List.rotate_zero]

omit [LinearOrder ι] in
/-- Behind the first entry come the others, and what it is overwritten with. -/
theorem LaneLoop.rotate_set_of_coming {loop : LaneLoop ι δ ο ε} {head : Option (String × Nat)}
    {rest : List (Option (String × Nat))}
    (inside : loop.laneIndex < loop.lanesWithScores.length) (coming : loop.coming = head :: rest)
    (entry : Option (String × Nat)) :
    (loop.lanesWithScores.set loop.laneIndex entry).rotate (loop.laneIndex + 1) =
      rest ++ [entry] := by
  have here : loop.lanesWithScores.rotate loop.laneIndex = head :: rest := coming
  rw [rotate_set_next _ inside, here, List.tail_cons]

/-- A nil is skipped. -/
theorem LaneLoop.turn_nil {loop : LaneLoop ι δ ο ε} {rest : List (Option (String × Nat))}
    (inside : loop.laneIndex < loop.lanesWithScores.length) (coming : loop.coming = none :: rest) :
    loop.turn options now = { loop with laneIndex := loop.nextIndex } ∧
      (loop.turn options now).coming = rest ++ [none] := by
  have skipped : loop.turn options now = { loop with laneIndex := loop.nextIndex } := by
    rw [turn, loop.entry_of_coming inside coming]
  refine ⟨skipped, ?_⟩
  rw [skipped]
  exact (loop.rotate_nextIndex _ rfl inside).trans (loop.rotate_of_coming coming)

/-- A lane that gives a job is visited again behind the others. -/
theorem LaneLoop.turn_gave {loop : LaneLoop ι δ ο ε} {after : LanePopState ι δ ο ε}
    {laneId : String} {lastScore : Nat} {rest : List (Option (String × Nat))}
    (inside : loop.laneIndex < loop.lanesWithScores.length)
    (coming : loop.coming = some (laneId, lastScore) :: rest)
    (visit : loop.popping.visitLane options now laneId lastScore = (true, after)) :
    ∃ next, loop.turn options now = next ∧ next.popping = after ∧
      next.jobsPopped = loop.jobsPopped + 1 ∧ next.emptyLanesCount = loop.emptyLanesCount ∧
      next.lanesWithScores.length = loop.lanesWithScores.length ∧
      next.laneIndex < next.lanesWithScores.length ∧
      next.coming = rest ++ [some (laneId, now)] := by
  refine ⟨_, rfl, ?_⟩
  rw [turn, loop.entry_of_coming inside coming]
  dsimp only
  rw [visit]
  dsimp only
  have length : (if lastScore ≠ now then
      loop.lanesWithScores.set loop.laneIndex (some (laneId, now))
      else loop.lanesWithScores).length = loop.lanesWithScores.length := by
    split
    · exact List.length_set
    · rfl
  refine ⟨rfl, rfl, rfl, length, (loop.nextIndex_lt inside).trans_eq length.symm, ?_⟩
  unfold LaneLoop.coming
  dsimp only
  rw [loop.rotate_nextIndex _ length inside]
  split
  · exact loop.rotate_set_of_coming inside coming _
  · rename_i visited
    rw [loop.rotate_of_coming coming, not_not.mp visited]

/-- A lane that gives no job is overwritten with nil and counted. -/
theorem LaneLoop.turn_passed {loop : LaneLoop ι δ ο ε} {after : LanePopState ι δ ο ε}
    {laneId : String} {lastScore : Nat} {rest : List (Option (String × Nat))}
    (inside : loop.laneIndex < loop.lanesWithScores.length)
    (coming : loop.coming = some (laneId, lastScore) :: rest)
    (visit : loop.popping.visitLane options now laneId lastScore = (false, after)) :
    ∃ next, loop.turn options now = next ∧ next.popping = after ∧
      next.jobsPopped = loop.jobsPopped ∧ next.emptyLanesCount = loop.emptyLanesCount + 1 ∧
      next.lanesWithScores.length = loop.lanesWithScores.length ∧
      next.laneIndex < next.lanesWithScores.length ∧ next.coming = rest ++ [none] := by
  refine ⟨_, rfl, ?_⟩
  rw [turn, loop.entry_of_coming inside coming]
  dsimp only
  rw [visit]
  dsimp only
  have overwritten : (if lastScore ≠ now then
      loop.lanesWithScores.set loop.laneIndex (some (laneId, now))
      else loop.lanesWithScores).set loop.laneIndex none =
        loop.lanesWithScores.set loop.laneIndex none := by
    split
    · exact List.set_set ..
    · rfl
  rw [overwritten]
  refine ⟨rfl, rfl, rfl, List.length_set,
    (loop.nextIndex_lt inside).trans_eq List.length_set.symm, ?_⟩
  unfold LaneLoop.coming
  dsimp only
  rw [loop.rotate_nextIndex _ List.length_set inside]
  exact loop.rotate_set_of_coming inside coming none

/-- A loop that goes on ends where it ends after its next turn. -/
theorem LaneLoop.ends_of_turn {loop : LaneLoop ι δ ο ε} {final : LanePopState ι δ ο ε}
    (goes : loop.jobsPopped < batchSize ∧
      loop.emptyLanesCount < loop.lanesWithScores.length)
    (ends : (loop.turn options now).Ends options now batchSize final) :
    loop.Ends options now batchSize final := by
  obtain ⟨enough, run⟩ := ends
  refine ⟨enough + 1, fun turns more => ?_⟩
  obtain ⟨turns, rfl⟩ := Nat.exists_eq_add_of_le' more
  rw [← Nat.add_assoc, LaneLoop.run, if_pos goes]
  exact run _ (Nat.le_add_left _ _)

/-- A loop that goes on skips the nils before the next entry. -/
theorem LaneLoop.skip_nils (gap : Nat) (loop : LaneLoop ι δ ο ε) {entry : String × Nat}
    {rest : List (Option (String × Nat))}
    (inside : loop.laneIndex < loop.lanesWithScores.length)
    (coming : loop.coming = List.replicate gap none ++ some entry :: rest)
    (goes : loop.jobsPopped < batchSize ∧
      loop.emptyLanesCount < loop.lanesWithScores.length) :
    ∃ index, index < loop.lanesWithScores.length ∧
      ({ loop with laneIndex := index } : LaneLoop ι δ ο ε).coming =
        some entry :: (rest ++ List.replicate gap none) ∧
      ∀ final, LaneLoop.Ends options now batchSize { loop with laneIndex := index } final →
        loop.Ends options now batchSize final := by
  induction gap generalizing loop rest with
  | zero => exact ⟨loop.laneIndex, inside, by simpa using coming, fun _ ends => ends⟩
  | succ gap ih =>
    obtain ⟨skipped, later⟩ := loop.turn_nil options now inside coming
    rw [skipped] at later
    have behind : ({ loop with laneIndex := loop.nextIndex } : LaneLoop ι δ ο ε).coming =
        List.replicate gap none ++ some entry :: (rest ++ [none]) := by
      rw [later]
      simp
    obtain ⟨index, within, found, back⟩ := ih _ (loop.nextIndex_lt inside) behind goes
    refine ⟨index, within, ?_, fun final ends => ?_⟩
    · refine found.trans ?_
      rw [List.replicate_succ, List.append_assoc, List.singleton_append]
    · refine LaneLoop.ends_of_turn options now goes ?_
      rw [skipped]
      exact back final ends

/-- The loop ends, and what it has done then is a batch over the entries that were left, in turn. -/
theorem LaneLoop.ends (loop : LaneLoop ι δ ο ε) (consistent : loop.Consistent batchSize) :
    loop.Ends options now batchSize
      (loop.popping.popLanes options now (batchSize - loop.jobsPopped)
        loop.coming.reduceOption) := by
  obtain ⟨work, isWork⟩ : ∃ work,
      work = batchSize - loop.jobsPopped + loop.coming.reduceOption.length := ⟨_, rfl⟩
  induction work using Nat.strong_induction_on generalizing loop with
  | _ work ih =>
  have count := consistent.empty
  by_cases goes : loop.jobsPopped < batchSize ∧
      loop.emptyLanesCount < loop.lanesWithScores.length
  case neg =>
    have ended : loop.popping.popLanes options now (batchSize - loop.jobsPopped)
        loop.coming.reduceOption = loop.popping := by
      rcases not_and_or.mp goes with full | emptied
      · rw [show batchSize - loop.jobsPopped = 0 by omega, LanePopState.popLanes]
      · rw [List.eq_nil_of_length_eq_zero (by omega : loop.coming.reduceOption.length = 0),
          LanePopState.popLanes_nil]
    refine ⟨1, fun turns enough => ?_⟩
    obtain ⟨turns, rfl⟩ := Nat.exists_eq_add_of_le' enough
    rw [run, if_neg goes, ended]
  case pos =>
    rcases nils_or_entry loop.coming with none | ⟨gap, ⟨laneId, lastScore⟩, rest, same⟩
    · rw [none, List.length_nil] at count
      omega
    have inside : loop.laneIndex < loop.lanesWithScores.length :=
      consistent.index (List.ne_nil_of_length_pos (by omega))
    obtain ⟨index, within, found, back⟩ := loop.skip_nils options now gap inside same goes
    refine back _ (LaneLoop.ends_of_turn options now goes ?_)
    have left : loop.coming.reduceOption = (laneId, lastScore) :: rest.reduceOption := by
      rw [same, List.reduceOption_append, List.reduceOption_replicate_none, List.nil_append,
        List.reduceOption_cons_of_some]
    rw [left, List.length_cons] at count isWork
    obtain ⟨wanted, isWanted⟩ : ∃ wanted, batchSize - loop.jobsPopped = wanted + 1 :=
      ⟨batchSize - loop.jobsPopped - 1, by omega⟩
    rw [left, isWanted]
    cases visit : loop.popping.visitLane options now laneId lastScore with
    | mk gave after =>
    cases gave with
    | true =>
      obtain ⟨next, turned, popping, popped, emptied, total, index, coming⟩ :=
        LaneLoop.turn_gave options now within found visit
      have reduced : next.coming.reduceOption = rest.reduceOption ++ [(laneId, now)] := by
        rw [coming]
        simp [List.reduceOption_append]
      have length : next.coming.reduceOption.length = rest.reduceOption.length + 1 := by
        rw [reduced, List.length_append, List.length_singleton]
      dsimp only at popped emptied total
      have ends := ih _ (by omega) next ⟨fun _ => index, by omega, by omega⟩ rfl
      rw [popping, reduced, show batchSize - next.jobsPopped = wanted by omega] at ends
      rw [turned, LanePopState.popLanes_gave options now visit]
      exact ends
    | false =>
      obtain ⟨next, turned, popping, popped, emptied, total, index, coming⟩ :=
        LaneLoop.turn_passed options now within found visit
      have reduced : next.coming.reduceOption = rest.reduceOption := by
        rw [coming]
        simp [List.reduceOption_append]
      have length := congrArg List.length reduced
      dsimp only at popped emptied total
      have ends := ih _ (by omega) next ⟨fun _ => index, by omega, by omega⟩ rfl
      rw [popping, reduced, show batchSize - next.jobsPopped = wanted + 1 by omega] at ends
      rw [turned, LanePopState.popLanes_passed options now visit]
      exact ends

end Turns

/-- The batch pop ends with the state `popBatchJobs` gives it. -/
theorem MultilaneStore.runBatchPop_eq (options : QueueOptions) (now : Nat)
    (store : MultilaneStore ι δ ο ε) (batchSize : Nat) :
    ∃ enough, ∀ turns ≥ enough, store.runBatchPop options now batchSize turns =
      some (store.popBatchJobs options now batchSize) := by
  unfold runBatchPop popBatchJobs
  dsimp only
  set swept := store.pendingCancellations.keys.foldl (LanePopState.sweepCancellation now) { store }
  have entries : ((Redis.zrange swept.store.lanes).map some).reduceOption =
      Redis.zrange swept.store.lanes := by
    rw [List.reduceOption, List.filterMap_map]
    exact List.filterMap_some
  have consistent : LaneLoop.Consistent batchSize
      { popping := swept, lanesWithScores := (Redis.zrange swept.store.lanes).map some } := by
    refine ⟨List.length_pos_iff.mpr, ?_, Nat.zero_le batchSize⟩
    rw [LaneLoop.coming, List.rotate_zero, entries, List.length_map, Nat.zero_add]
  have ended := LaneLoop.ends options now _ consistent
  rw [LaneLoop.coming, List.rotate_zero, entries] at ended
  exact ended

end OpenEngine.Queue
