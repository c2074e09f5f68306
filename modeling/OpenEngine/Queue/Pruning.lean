import OpenEngine.Queue.Conservation

/-!
# Pruning and live jobs

The prune scripts ask three containers whether an id of the trimmed tail is still in use. Two of the
answers are read as they come; the score of a delayed id comes as a string and is never the number
the scripts look for. So a prune spares every live job exactly when its tail holds no delayed id
that still has a record and is in neither of the other two.
-/

namespace OpenEngine.Queue

variable {ι δ ο ε : Type} [LinearOrder ι]

/-- An id in pending, active or delayed. -/
def Store.Live (store : Store ι δ ο ε) (id : ι) : Prop :=
  id ∈ store.pending ∨ id ∈ store.active ∨ id ∈ store.delayed

/-- What a prune deletes of an id is the same in both stores. -/
structure Store.SameRecord (before after : Store ι δ ο ε) (id : ι) : Prop where
  data : after.jobData id = before.jobData id
  info : after.jobMeta id = before.jobMeta id
  errors : after.jobErrors id = before.jobErrors id
  deduped : id ∈ after.dedupe ↔ id ∈ before.dedupe

/-- Nothing a prune could delete is left of an id. -/
def Store.NoRecord (store : Store ι δ ο ε) (id : ι) : Prop :=
  (store.jobData id).isNone ∧ store.jobMeta id = {} ∧ (store.jobErrors id).isEmpty ∧
    id ∉ store.dedupe

instance (store : Store ι δ ο ε) (id : ι) : Decidable (store.NoRecord id) :=
  inferInstanceAs (Decidable (_ ∧ _ ∧ _ ∧ _))

/-- A prune deletes nothing of a live id. -/
def Store.SparesLive (options : QueueOptions) (store : Store ι δ ο ε) (op : Op ι δ ο ε) : Prop :=
  match op with
  | .postSuccess | .postFail =>
    ∀ id, store.Live id → Store.SameRecord store (store.step options op) id
  | _ => True

/-- A delayed id of the tail is active or pending too, or has no record left. -/
def Store.TailClear (store : Store ι δ ο ε) (tail : List ι) : Prop :=
  ∀ id ∈ tail, id ∈ store.delayed →
    id ∈ store.active ∨ id ∈ store.pending ∨ store.NoRecord id

instance (store : Store ι δ ο ε) (tail : List ι) : Decidable (store.TailClear tail) :=
  inferInstanceAs (Decidable (∀ id ∈ tail, _ → _ ∨ _ ∨ _))

/-- The tail a prune trims is clear. -/
def Store.PrunesClearTail (options : QueueOptions) (store : Store ι δ ο ε) :
    Op ι δ ο ε → Prop
  | .postSuccess => store.TailClear (store.success.drop options.maxSuccess)
  | .postFail => store.TailClear (store.failed.drop options.maxFailed)
  | _ => True

/-- A job whose keys differ in the finished lists and the result at most keeps its record. -/
theorem Store.sameRecord_of_view {before after : Store ι δ ο ε} {id : ι} {success failed : Nat}
    {result : Option ο}
    (view : after.view id = { before.view id with success, failed, result }) :
    Store.SameRecord before after id where
  data := congrArg JobView.data view
  info := congrArg JobView.info view
  errors := congrArg JobView.errors view
  deduped := iff_of_eq (congrArg JobView.deduped view)

/-- A forgotten job keeps its record exactly if it had none. -/
theorem Store.sameRecord_of_forget {before after : Store ι δ ο ε} {id : ι} {success failed : Nat}
    {result : Option ο}
    (view : after.view id = { (before.view id).forget with success, failed, result }) :
    Store.SameRecord before after id ↔ before.NoRecord id := by
  have data : after.jobData id = none := congrArg JobView.data view
  have info : after.jobMeta id = {} := congrArg JobView.info view
  have errors : after.jobErrors id = [] := congrArg JobView.errors view
  have unknown : id ∉ after.dedupe := by
    have deduped : (id ∈ after.dedupe) = False := congrArg JobView.deduped view
    exact fun known => deduped.mp known
  unfold Store.NoRecord
  constructor
  · intro same
    rw [← same.data, ← same.info, ← same.errors, ← same.deduped, data, info, errors]
    exact ⟨rfl, rfl, rfl, unknown⟩
  · rintro ⟨noData, noInfo, noErrors, fresh⟩
    constructor
    · rw [data, Option.isNone_iff_eq_none.mp noData]
    · rw [info, noInfo]
    · rw [errors, List.isEmpty_iff.mp noErrors]
    · exact iff_of_false unknown fresh

/-- A prune that forgets the ids of a tail that are neither active nor pending spares the live jobs
exactly if the tail is clear. -/
theorem Store.spares_iff_tailClear {before after : Store ι δ ο ε} (tail : List ι)
    (kept : ∀ id, id ∉ tail ∨ before.isLive id → Store.SameRecord before after id)
    (forgotten : ∀ id ∈ tail, before.isLive id = false →
      (Store.SameRecord before after id ↔ before.NoRecord id)) :
    (∀ id, before.Live id → Store.SameRecord before after id) ↔ before.TailClear tail := by
  have seen (id : ι) : before.isLive id ↔ id ∈ before.active ∨ id ∈ before.pending := by
    rw [before.isLive_view]
    simp [JobView.isLive, Store.view, isSome_lookup, List.count_pos_iff]
  constructor
  · intro spares id trimmed delayed
    by_cases live : before.isLive id
    · rcases (seen id).mp live with active | pending
      · exact .inl active
      · exact .inr (.inl pending)
    · have same := spares id (.inr (.inr delayed))
      exact .inr (.inr ((forgotten id trimmed (by simpa using live)).mp same))
  · intro clear id live
    by_cases trimmed : id ∈ tail
    · by_cases found : before.isLive id
      · exact kept id (.inr found)
      · refine (forgotten id trimmed (by simpa using found)).mpr ?_
        have unseen := mt (seen id).mpr found
        rcases live with pending | active | delayed
        · exact absurd (.inr pending) unseen
        · exact absurd (.inl active) unseen
        · rcases clear id trimmed delayed with active | pending | none
          · exact absurd (.inl active) unseen
          · exact absurd (.inr pending) unseen
          · exact none
    · exact kept id (.inl trimmed)

/-- One operation spares the live jobs exactly if the tail it trims is clear. -/
theorem Store.sparesLive_iff (options : QueueOptions) (store : Store ι δ ο ε) (op : Op ι δ ο ε) :
    store.SparesLive options op ↔ store.PrunesClearTail options op := by
  cases op with
  | postSuccess =>
    refine Store.spares_iff_tailClear _ ?_ ?_
    · intro id unpruned
      have view := store.view_postSuccess options id
      by_cases trimmed : id ∈ store.success.drop options.maxSuccess
      · have live := unpruned.resolve_left (not_not_intro trimmed)
        rw [store.isLive_view] at live
        rw [if_pos trimmed, JobView.apply, JobView.settleSucceeded, if_pos live] at view
        exact Store.sameRecord_of_view view
      · rw [if_neg trimmed] at view
        exact Store.sameRecord_of_view view
    · intro id trimmed dead
      have view := store.view_postSuccess options id
      rw [store.isLive_view] at dead
      rw [if_pos trimmed, JobView.apply, JobView.settleSucceeded, if_neg (by simp [dead])] at view
      exact Store.sameRecord_of_forget view
  | postFail =>
    refine Store.spares_iff_tailClear _ ?_ ?_
    · intro id unpruned
      have view := store.view_postFail options id
      by_cases trimmed : id ∈ store.failed.drop options.maxFailed
      · have live := unpruned.resolve_left (not_not_intro trimmed)
        rw [store.isLive_view] at live
        rw [if_pos trimmed, JobView.apply, JobView.settleFailed, if_pos live] at view
        exact Store.sameRecord_of_view view
      · rw [if_neg trimmed] at view
        exact Store.sameRecord_of_view view
    · intro id trimmed dead
      have view := store.view_postFail options id
      rw [store.isLive_view] at dead
      rw [if_pos trimmed, JobView.apply, JobView.settleFailed, if_neg (by simp [dead])] at view
      exact Store.sameRecord_of_forget view
  | _ => exact Iff.rfl

/-- In every run, whatever the mode, the bounds and the operations, every prune spares the live jobs
exactly if every prune trims a clear tail. -/
theorem Store.prunes_spare_live_iff (options : QueueOptions) (ops : List (Op ι δ ο ε)) :
    Transition.Along (Store.step options) (Store.SparesLive options) Store.empty ops ↔
      Transition.Along (Store.step options) (Store.PrunesClearTail options) Store.empty ops :=
  Transition.along_congr (Store.sparesLive_iff options) Store.empty ops

/-- In active mode job 7 succeeds and is pushed again with a delay; when job 8 succeeds, the prune
meets the old entry of 7 in its tail. -/
def pruneDelayed : List (Op Nat String Nat String) :=
  [.push 0 { data := "tx", id := 7 },
    .pop 0 "a" 1,
    .complete 1 (borrowedAt 7 0 1 "a") (.ok 5),
    .push 2 { data := "tx", id := 7, delay := some ⟨.fromSecs 10, .last⟩ },
    .push 2 { data := "tx", id := 8 },
    .pop 3 "b" 1,
    .complete 4 (borrowedAt 8 3 1 "b") (.ok 6),
    .postSuccess]

/-- The last step of `pruneDelayed` deletes the data of the delayed job 7. -/
theorem Store.prune_takes_delayed :
    let options : QueueOptions := { maxSuccess := 1, idempotencyMode := .active }
    let store := Transition.run (Store.step options) Store.empty (pruneDelayed.take 7)
    7 ∈ store.delayed ∧ store.jobData 7 = some "tx" ∧
      (store.step options .postSuccess).jobData 7 = none ∧
      ¬Transition.Along (Store.step options) (Store.SparesLive options) Store.empty
        pruneDelayed := by
  intro options store
  have delayed : 7 ∈ store.delayed := by decide +kernel
  have stored : store.jobData 7 = some "tx" := by decide +kernel
  have deleted : (store.step options .postSuccess).jobData 7 = none := by decide +kernel
  refine ⟨delayed, stored, deleted, fun along => ?_⟩
  have parts : pruneDelayed = pruneDelayed.take 7 ++ [.postSuccess] := rfl
  rw [parts, Transition.along_append] at along
  have spared : ∀ id, store.Live id → Store.SameRecord store (store.step options .postSuccess) id :=
    along.2.1
  clear_value store
  have same := (spared 7 (.inr (.inr delayed))).data
  rw [deleted, stored] at same
  cases same

end OpenEngine.Queue
