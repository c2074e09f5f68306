import OpenEngine.Core.Text
import OpenEngine.Delimited
import OpenEngine.Queue.Job

/-!
# The names of the queue's keys

Redis is one flat map from texts to values. The queues put a job id and a lane id, both chosen by a
caller, between fixed parts of a key's name, and a lease key ends in a token that repeats the job
id. No two keys of one queue have one name, so the separate maps the stores are modelled as are
separate. Two queues share a key only where the name of one continues the other's by the part that
introduces a job, or a lane.
-/

namespace OpenEngine.Queue

open OpenEngine.Core

/-- The name of a key: the kind of queue, its own name, and the key's part. -/
def keyName (space name part : String) : String := space ++ ":" ++ name ++ ":" ++ part

/-- What stands behind the queue's name in a key that belongs to one job, or one lane. -/
def entryPart (word id part : String) : String := word ++ ":" ++ id ++ ":" ++ part

/-- What stands behind the queue's name in a job's key. -/
def jobPart (jobId part : String) : String := entryPart "job" jobId part

/-- What stands behind the queue's name in a lane's key. -/
def lanePart (laneId part : String) : String := entryPart "lane" laneId part

/-- The four characters of `nanoid!(4)`. -/
abbrev PopId := { text : String // text.length = 4 }

/-- `now .. '_' .. job_id .. '_' .. attempts`, the token of the multilane pop. Lua prints a second
below 10^14 by its digits. -/
def laneTokenText (now : Nat) (jobId : String) (attempts : Int) : String :=
  toString now ++ "_" ++ jobId ++ "_" ++ toString attempts

/-- `now .. '_' .. job_id .. '_' .. attempts .. '_' .. pop_id`, the token of the single-lane pop. -/
def tokenText (now : Nat) (jobId : String) (attempts : Int) (popId : PopId) : String :=
  laneTokenText now jobId attempts ++ "_" ++ popId.val

/-! The keys of `Queue`. -/

namespace SingleLane

def pendingListName (name : String) : String := keyName "queue" name "pending"
def activeHashName (name : String) : String := keyName "queue" name "active"
def delayedZsetName (name : String) : String := keyName "queue" name "delayed"
def successListName (name : String) : String := keyName "queue" name "success"
def failedListName (name : String) : String := keyName "queue" name "failed"
def jobDataHashName (name : String) : String := keyName "queue" name "jobs:data"
def jobMetaHashName (name jobId : String) : String := keyName "queue" name (jobPart jobId "meta")
def jobErrorsListName (name jobId : String) : String :=
  keyName "queue" name (jobPart jobId "errors")
def jobResultHashName (name : String) : String := keyName "queue" name "jobs:result"
def dedupeSetName (name : String) : String := keyName "queue" name "dedup"
def pendingCancellationSetName (name : String) : String :=
  keyName "queue" name "pending_cancellations"
def leaseKeyName (name jobId leaseToken : String) : String :=
  keyName "queue" name (jobPart jobId ("lease:" ++ leaseToken))

end SingleLane

/-! The keys of `MultilaneQueue`. -/

namespace Multilane

def lanesZsetName (queueId : String) : String := keyName "queue_multilane" queueId "lanes"
def lanePendingListName (queueId laneId : String) : String :=
  keyName "queue_multilane" queueId (lanePart laneId "pending")
def laneDelayedZsetName (queueId laneId : String) : String :=
  keyName "queue_multilane" queueId (lanePart laneId "delayed")
def laneActiveHashName (queueId laneId : String) : String :=
  keyName "queue_multilane" queueId (lanePart laneId "active")
def successListName (queueId : String) : String := keyName "queue_multilane" queueId "success"
def failedListName (queueId : String) : String := keyName "queue_multilane" queueId "failed"
def jobDataHashName (queueId : String) : String := keyName "queue_multilane" queueId "jobs:data"
def jobMetaHashName (queueId jobId : String) : String :=
  keyName "queue_multilane" queueId (jobPart jobId "meta")
def jobErrorsListName (queueId jobId : String) : String :=
  keyName "queue_multilane" queueId (jobPart jobId "errors")
def jobResultHashName (queueId : String) : String :=
  keyName "queue_multilane" queueId "jobs:result"
def dedupeSetName (queueId : String) : String := keyName "queue_multilane" queueId "dedup"
def pendingCancellationSetName (queueId : String) : String :=
  keyName "queue_multilane" queueId "pending_cancellations"
def leaseKeyName (queueId jobId leaseToken : String) : String :=
  keyName "queue_multilane" queueId (jobPart jobId ("lease:" ++ leaseToken))

end Multilane

/-- The keys a `Queue` has once. -/
inductive QueueKey where
  | pendingList
  | activeHash
  | delayedZset
  | successList
  | failedList
  | jobDataHash
  | jobResultHash
  | dedupeSet
  | pendingCancellationSet
deriving DecidableEq

/-- The keys a `MultilaneQueue` has once. -/
inductive MultilaneKey where
  | lanesZset
  | successList
  | failedList
  | jobDataHash
  | jobResultHash
  | dedupeSet
  | pendingCancellationSet
deriving DecidableEq

/-- A key of a `Queue`. A lease key carries the token a pop built for the job. -/
inductive SingleKey where
  | queue (key : QueueKey)
  | jobMetaHash (jobId : String)
  | jobErrorsList (jobId : String)
  | leaseKey (jobId : String) (now : Nat) (attempts : Int) (popId : PopId)

/-- A key of a `MultilaneQueue`. -/
inductive LaneKey where
  | queue (key : MultilaneKey)
  | lanePendingList (laneId : String)
  | laneDelayedZset (laneId : String)
  | laneActiveHash (laneId : String)
  | jobMetaHash (jobId : String)
  | jobErrorsList (jobId : String)
  | leaseKey (jobId : String) (now : Nat) (attempts : Int)

/-- The name of a key of the queue called `name`. -/
def SingleKey.text (name : String) : SingleKey → String
  | .queue .pendingList => SingleLane.pendingListName name
  | .queue .activeHash => SingleLane.activeHashName name
  | .queue .delayedZset => SingleLane.delayedZsetName name
  | .queue .successList => SingleLane.successListName name
  | .queue .failedList => SingleLane.failedListName name
  | .queue .jobDataHash => SingleLane.jobDataHashName name
  | .queue .jobResultHash => SingleLane.jobResultHashName name
  | .queue .dedupeSet => SingleLane.dedupeSetName name
  | .queue .pendingCancellationSet => SingleLane.pendingCancellationSetName name
  | .jobMetaHash jobId => SingleLane.jobMetaHashName name jobId
  | .jobErrorsList jobId => SingleLane.jobErrorsListName name jobId
  | .leaseKey jobId now attempts popId =>
    SingleLane.leaseKeyName name jobId (tokenText now jobId attempts popId)

/-- The name of a key of the multilane queue `queueId`. -/
def LaneKey.text (queueId : String) : LaneKey → String
  | .queue .lanesZset => Multilane.lanesZsetName queueId
  | .queue .successList => Multilane.successListName queueId
  | .queue .failedList => Multilane.failedListName queueId
  | .queue .jobDataHash => Multilane.jobDataHashName queueId
  | .queue .jobResultHash => Multilane.jobResultHashName queueId
  | .queue .dedupeSet => Multilane.dedupeSetName queueId
  | .queue .pendingCancellationSet => Multilane.pendingCancellationSetName queueId
  | .lanePendingList laneId => Multilane.lanePendingListName queueId laneId
  | .laneDelayedZset laneId => Multilane.laneDelayedZsetName queueId laneId
  | .laneActiveHash laneId => Multilane.laneActiveHashName queueId laneId
  | .jobMetaHash jobId => Multilane.jobMetaHashName queueId jobId
  | .jobErrorsList jobId => Multilane.jobErrorsListName queueId jobId
  | .leaseKey jobId now attempts =>
    Multilane.leaseKeyName queueId jobId (laneTokenText now jobId attempts)

/-! Printed numbers. -/

/-- An integer is printed as its digits, behind a sign if it is negative. -/
theorem toList_int (number : Int) :
    (toString number).toList =
      if 0 ≤ number then (toString number.toNat).toList
      else '-' :: (toString (-number).toNat).toList := by
  rw [Int.toString_eq_repr, Int.repr_eq_if]
  split
  · rfl
  · simp

/-- A printed integer is digits and a sign. -/
theorem notMem_int {char : Char} (other : char.isDigit = false) (unsigned : char ≠ '-')
    (number : Int) : char ∉ (toString number).toList := by
  rw [toList_int]
  split
  · exact notMem_toString other _
  · rw [List.mem_cons, not_or]
    exact ⟨unsigned, notMem_toString other _⟩

/-- Something is printed of an integer. -/
theorem toList_int_ne_nil (number : Int) : (toString number).toList ≠ [] := by
  rw [toList_int]
  split
  · rw [Nat.toString_eq_ofList_toDigits, String.toList_ofList]
    exact Nat.toDigits_ne_nil
  · exact List.cons_ne_nil _ _

/-- Integers are told apart by their text. -/
theorem int_toString_injective {left right : Int}
    (same : (toString left).toList = (toString right).toList) : left = right := by
  rw [toList_int, toList_int] at same
  have signed {number : Nat} {text : List Char} :
      (toString number).toList ≠ '-' :: text := by
    intro equal
    exact notMem_toString (by decide) number (equal ▸ List.mem_cons_self)
  split at same <;> split at same
  · have digits := toString_injective same
    omega
  · exact absurd same signed
  · exact absurd same.symm signed
  · have digits := toString_injective (List.cons.inj same).2
    omega

/-! The keys of jobs and lanes. -/

section Entries

variable {word id other part rest : String}

/-- The characters of an entry's part. -/
theorem toList_entryPart (word id part : String) :
    (entryPart word id part).toList =
      word.toList ++ ':' :: (id.toList ++ ':' :: part.toList) := by
  simp [entryPart]

/-- One key of two entries tells them apart. -/
theorem entryPart_inj : entryPart word id part = entryPart word other part ↔ id = other := by
  simp [entryPart, ← String.toList_inj]

/-- Keys that differ at one place from the end are of no two entries the same. -/
theorem entryPart_ne (place : Nat)
    (differs : (':' :: part.toList).reverse[place]? ≠ (':' :: rest.toList).reverse[place]?)
    (inside : place ≤ part.toList.length) (within : place ≤ rest.toList.length) :
    entryPart word id part ≠ entryPart word other rest := by
  intro same
  have chars := congrArg String.toList same
  simp only [toList_entryPart] at chars
  have cut (id part : String) :
      (id.toList ++ ':' :: part.toList).reverse =
        (':' :: part.toList).reverse ++ id.toList.reverse := by
    simp
  have mirrored := (List.cons.inj (List.append_cancel_left chars)).2
  have ends := congrArg (fun text => text.reverse[place]?) mirrored
  simp only [cut] at ends
  have width (part : String) (inside : place ≤ part.toList.length) :
      place < (':' :: part.toList).reverse.length := by
    rw [List.length_reverse, List.length_cons]
    omega
  rw [List.getElem?_append_left (width part inside),
    List.getElem?_append_left (width rest within)] at ends
  exact differs ends

end Entries

section Jobs

variable {jobId other : String} {now later : Nat} {attempts count : Int} {popId nanoid : PopId}

/-- The characters of a token. -/
theorem toList_tokenText :
    (tokenText now jobId attempts popId).toList =
      (laneTokenText now jobId attempts).toList ++ '_' :: popId.val.toList := by
  simp [tokenText]

/-- The characters of a multilane token. -/
theorem toList_laneTokenText :
    (laneTokenText now jobId attempts).toList =
      ((toString now).toList ++ '_' :: jobId.toList) ++ '_' :: (toString attempts).toList := by
  simp [laneTokenText]

/-- The multilane lease keys of a queue are told apart. -/
theorem laneLease_inj :
    jobPart jobId ("lease:" ++ laneTokenText now jobId attempts) =
        jobPart other ("lease:" ++ laneTokenText later other count) ↔
      jobId = other ∧ now = later ∧ attempts = count := by
  constructor
  · intro same
    have chars := congrArg String.toList same
    simp only [jobPart, toList_entryPart, String.toList_append, toList_laneTokenText] at chars
    have inner := (List.cons.inj (List.append_cancel_left chars)).2
    have split :
        (jobId.toList ++ (":lease:".toList ++ ((toString now).toList ++ '_' :: jobId.toList))) ++
            '_' :: (toString attempts).toList =
          (other.toList ++ (":lease:".toList ++
            ((toString later).toList ++ '_' :: other.toList))) ++
            '_' :: (toString count).toList := by
      simpa [List.append_assoc] using inner
    obtain ⟨front, digits⟩ := (Delimited.append_cons_inj
      (notMem_int (by decide) (by decide) attempts) (notMem_int (by decide) (by decide) count)).mp
      split
    obtain ⟨ids, seconds⟩ := (Delimited.repeated_inj (notMem_toString (by decide) now)
      (notMem_toString (by decide) later)).mp front
    exact ⟨String.toList_inj.mp ids, toString_injective seconds, int_toString_injective digits⟩
  · rintro ⟨rfl, rfl, rfl⟩
    rfl

/-- The lease keys of a queue are told apart. -/
theorem lease_inj :
    jobPart jobId ("lease:" ++ tokenText now jobId attempts popId) =
        jobPart other ("lease:" ++ tokenText later other count nanoid) ↔
      jobId = other ∧ now = later ∧ attempts = count ∧ popId = nanoid := by
  constructor
  · intro same
    have chars := congrArg String.toList same
    have cut (jobId : String) (now : Nat) (attempts : Int) (popId : PopId) :
        (jobPart jobId ("lease:" ++ tokenText now jobId attempts popId)).toList =
          ((jobPart jobId ("lease:" ++ laneTokenText now jobId attempts)).toList ++ ['_']) ++
            popId.val.toList := by
      simp [jobPart, toList_entryPart, toList_tokenText]
    have widths : popId.val.toList.length = nanoid.val.toList.length := by
      rw [String.length_toList, String.length_toList, popId.property, nanoid.property]
    rw [cut, cut] at chars
    obtain ⟨front, ids⟩ := List.append_inj' chars widths
    have parts := String.toList_inj.mp (List.append_cancel_right front)
    obtain ⟨sameJob, sameSecond, sameCount⟩ := laneLease_inj.mp parts
    exact ⟨sameJob, sameSecond, sameCount, Subtype.ext (String.toList_inj.mp ids)⟩
  · rintro ⟨rfl, rfl, rfl, rfl⟩
    rfl

/-- A metadata hash is no error list. -/
theorem meta_ne_errors : jobPart jobId "meta" ≠ jobPart other "errors" :=
  entryPart_ne 0 (by decide) (by decide) (by decide)

/-- The character that ends a multilane token is no letter. -/
theorem last_laneToken {letter : Char} (other : letter.isDigit = false) (unsigned : letter ≠ '-') :
    (':' :: ("lease:" ++ laneTokenText now jobId attempts).toList).reverse[0]? ≠ some letter := by
  intro ends
  have digits := toList_int_ne_nil attempts
  simp only [String.toList_append, toList_laneTokenText, List.reverse_cons, List.reverse_append,
    List.append_assoc] at ends
  rw [List.getElem?_append_left (by simpa [List.length_pos_iff] using digits)] at ends
  exact notMem_int other unsigned attempts (List.mem_reverse.mp (List.mem_of_getElem? ends))

/-- A multilane lease key is no metadata hash. -/
theorem meta_ne_laneLease :
    jobPart jobId "meta" ≠ jobPart other ("lease:" ++ laneTokenText now other attempts) :=
  entryPart_ne 0 (last_laneToken (by decide) (by decide)).symm (by decide) (Nat.zero_le _)

/-- A multilane lease key is no error list. -/
theorem errors_ne_laneLease :
    jobPart jobId "errors" ≠ jobPart other ("lease:" ++ laneTokenText now other attempts) :=
  entryPart_ne 0 (last_laneToken (by decide) (by decide)).symm (by decide) (Nat.zero_le _)

/-- The underscore before the pop id is the fifth character from the end. -/
theorem fifth_token :
    (':' :: ("lease:" ++ tokenText now jobId attempts popId).toList).reverse[4]? = some '_' := by
  have width : popId.val.toList.reverse.length = 4 := by
    rw [List.length_reverse, String.length_toList, popId.property]
  simp only [String.toList_append, toList_tokenText, List.reverse_cons, List.reverse_append,
    List.append_assoc]
  rw [List.getElem?_append_right (by omega), width]
  rfl

/-- A token has at least its pop id. -/
theorem four_le_token : 4 ≤ ("lease:" ++ tokenText now jobId attempts popId).toList.length := by
  rw [String.toList_append, List.length_append]
  exact Nat.le_trans (by decide) (Nat.le_add_right _ _)

/-- A lease key is no metadata hash. -/
theorem meta_ne_lease :
    jobPart jobId "meta" ≠ jobPart other ("lease:" ++ tokenText now other attempts popId) :=
  entryPart_ne 4 (by rw [fifth_token]; decide) (by decide) four_le_token

/-- A lease key is no error list. -/
theorem errors_ne_lease :
    jobPart jobId "errors" ≠ jobPart other ("lease:" ++ tokenText now other attempts popId) :=
  entryPart_ne 4 (by rw [fifth_token]; decide) (by decide) four_le_token

end Jobs

/-! Whole keys. -/

/-- What stands behind the queue's name in a key it has once. -/
def QueueKey.part : QueueKey → String
  | .pendingList => "pending"
  | .activeHash => "active"
  | .delayedZset => "delayed"
  | .successList => "success"
  | .failedList => "failed"
  | .jobDataHash => "jobs:data"
  | .jobResultHash => "jobs:result"
  | .dedupeSet => "dedup"
  | .pendingCancellationSet => "pending_cancellations"

/-- What stands behind the queue's name in a key it has once. -/
def MultilaneKey.part : MultilaneKey → String
  | .lanesZset => "lanes"
  | .successList => "success"
  | .failedList => "failed"
  | .jobDataHash => "jobs:data"
  | .jobResultHash => "jobs:result"
  | .dedupeSet => "dedup"
  | .pendingCancellationSet => "pending_cancellations"

/-- What stands behind the queue's name. -/
def SingleKey.part : SingleKey → String
  | .queue key => key.part
  | .jobMetaHash jobId => jobPart jobId "meta"
  | .jobErrorsList jobId => jobPart jobId "errors"
  | .leaseKey jobId now attempts popId =>
    jobPart jobId ("lease:" ++ tokenText now jobId attempts popId)

/-- What stands behind the queue's name. -/
def LaneKey.part : LaneKey → String
  | .queue key => key.part
  | .lanePendingList laneId => lanePart laneId "pending"
  | .laneDelayedZset laneId => lanePart laneId "delayed"
  | .laneActiveHash laneId => lanePart laneId "active"
  | .jobMetaHash jobId => jobPart jobId "meta"
  | .jobErrorsList jobId => jobPart jobId "errors"
  | .leaseKey jobId now attempts => jobPart jobId ("lease:" ++ laneTokenText now jobId attempts)

/-- A key's name is the queue's with the key's part behind it. -/
theorem SingleKey.text_eq (name : String) (key : SingleKey) :
    key.text name = keyName "queue" name key.part := by
  cases key with
  | queue key => cases key <;> rfl
  | _ => rfl

/-- A key's name is the queue's with the key's part behind it. -/
theorem LaneKey.text_eq (queueId : String) (key : LaneKey) :
    key.text queueId = keyName "queue_multilane" queueId key.part := by
  cases key with
  | queue key => cases key <;> rfl
  | _ => rfl

/-- The keys of one queue are told apart by their parts. -/
theorem keyName_inj {space name part rest : String} :
    keyName space name part = keyName space name rest ↔ part = rest := by
  simp [keyName, ← String.toList_inj]

/-- The word a key starts with and the colon behind it. -/
theorem take_entryPart (word id part : String) :
    (entryPart word id part).toList.take (word.toList.length + 1) = word.toList ++ [':'] := by
  rw [toList_entryPart, List.append_cons, List.take_left' (by simp)]

/-- A key the queue has once is no job's. -/
theorem QueueKey.part_ne_jobPart (key : QueueKey) (jobId part : String) :
    key.part ≠ jobPart jobId part := by
  intro same
  have word := take_entryPart "job" jobId part
  rw [← jobPart, ← same] at word
  cases key <;> exact absurd word (by decide)

/-- A key the queue has once is no job's. -/
theorem MultilaneKey.part_ne_jobPart (key : MultilaneKey) (jobId part : String) :
    key.part ≠ jobPart jobId part := by
  intro same
  have word := take_entryPart "job" jobId part
  rw [← jobPart, ← same] at word
  cases key <;> exact absurd word (by decide)

/-- A key the queue has once is no lane's. -/
theorem MultilaneKey.part_ne_lanePart (key : MultilaneKey) (laneId part : String) :
    key.part ≠ lanePart laneId part := by
  intro same
  have word := take_entryPart "lane" laneId part
  rw [← lanePart, ← same] at word
  cases key <;> exact absurd word (by decide)

/-- A lane's key is no job's. -/
theorem lanePart_ne_jobPart (laneId part jobId rest : String) :
    lanePart laneId part ≠ jobPart jobId rest := by
  intro same
  have first := congrArg (fun text => text.toList.head?) same
  simp [lanePart, jobPart, toList_entryPart] at first

/-- The keys a queue has once are different. -/
theorem QueueKey.part_injective : Function.Injective QueueKey.part := by
  intro key other same
  cases key <;> cases other <;> first | rfl | exact absurd same (by decide)

/-- The keys a multilane queue has once are different. -/
theorem MultilaneKey.part_injective : Function.Injective MultilaneKey.part := by
  intro key other same
  cases key <;> cases other <;> first | rfl | exact absurd same (by decide)

/-- No two keys of a queue have one name. -/
theorem SingleKey.names_apart (name : String) : Function.Injective (SingleKey.text name) := by
  intro key other same
  rw [text_eq, text_eq, keyName_inj] at same
  cases key with
  | queue key =>
    cases other with
    | queue other => rw [QueueKey.part_injective same]
    | _ => exact absurd same (key.part_ne_jobPart _ _)
  | jobMetaHash jobId =>
    cases other with
    | queue other => exact absurd same.symm (other.part_ne_jobPart _ _)
    | jobMetaHash other => rw [entryPart_inj.mp same]
    | jobErrorsList other => exact absurd same meta_ne_errors
    | leaseKey other now attempts popId => exact absurd same meta_ne_lease
  | jobErrorsList jobId =>
    cases other with
    | queue other => exact absurd same.symm (other.part_ne_jobPart _ _)
    | jobMetaHash other => exact absurd same.symm meta_ne_errors
    | jobErrorsList other => rw [entryPart_inj.mp same]
    | leaseKey other now attempts popId => exact absurd same errors_ne_lease
  | leaseKey jobId now attempts popId =>
    cases other with
    | queue other => exact absurd same.symm (other.part_ne_jobPart _ _)
    | jobMetaHash other => exact absurd same.symm meta_ne_lease
    | jobErrorsList other => exact absurd same.symm errors_ne_lease
    | leaseKey other later count nanoid =>
      obtain ⟨rfl, rfl, rfl, rfl⟩ := lease_inj.mp same
      rfl

/-- No two keys of a multilane queue have one name. -/
theorem LaneKey.lane_names_apart (queueId : String) :
    Function.Injective (LaneKey.text queueId) := by
  have pending_ne_delayed {laneId other : String} :
      lanePart laneId "pending" ≠ lanePart other "delayed" :=
    entryPart_ne 0 (by decide) (by decide) (by decide)
  have pending_ne_active {laneId other : String} :
      lanePart laneId "pending" ≠ lanePart other "active" :=
    entryPart_ne 0 (by decide) (by decide) (by decide)
  have delayed_ne_active {laneId other : String} :
      lanePart laneId "delayed" ≠ lanePart other "active" :=
    entryPart_ne 0 (by decide) (by decide) (by decide)
  intro key other same
  rw [text_eq, text_eq, keyName_inj] at same
  cases key with
  | queue key =>
    cases other with
    | queue other => rw [MultilaneKey.part_injective same]
    | lanePendingList _ | laneDelayedZset _ | laneActiveHash _ =>
      exact absurd same (key.part_ne_lanePart _ _)
    | jobMetaHash _ | jobErrorsList _ | leaseKey _ _ _ =>
      exact absurd same (key.part_ne_jobPart _ _)
  | lanePendingList laneId =>
    cases other with
    | queue other => exact absurd same.symm (other.part_ne_lanePart _ _)
    | lanePendingList other => rw [entryPart_inj.mp same]
    | laneDelayedZset other => exact absurd same pending_ne_delayed
    | laneActiveHash other => exact absurd same pending_ne_active
    | jobMetaHash _ | jobErrorsList _ | leaseKey _ _ _ =>
      exact absurd same (lanePart_ne_jobPart _ _ _ _)
  | laneDelayedZset laneId =>
    cases other with
    | queue other => exact absurd same.symm (other.part_ne_lanePart _ _)
    | lanePendingList other => exact absurd same.symm pending_ne_delayed
    | laneDelayedZset other => rw [entryPart_inj.mp same]
    | laneActiveHash other => exact absurd same delayed_ne_active
    | jobMetaHash _ | jobErrorsList _ | leaseKey _ _ _ =>
      exact absurd same (lanePart_ne_jobPart _ _ _ _)
  | laneActiveHash laneId =>
    cases other with
    | queue other => exact absurd same.symm (other.part_ne_lanePart _ _)
    | lanePendingList other => exact absurd same.symm pending_ne_active
    | laneDelayedZset other => exact absurd same.symm delayed_ne_active
    | laneActiveHash other => rw [entryPart_inj.mp same]
    | jobMetaHash _ | jobErrorsList _ | leaseKey _ _ _ =>
      exact absurd same (lanePart_ne_jobPart _ _ _ _)
  | jobMetaHash jobId =>
    cases other with
    | queue other => exact absurd same.symm (other.part_ne_jobPart _ _)
    | lanePendingList _ | laneDelayedZset _ | laneActiveHash _ =>
      exact absurd same.symm (lanePart_ne_jobPart _ _ _ _)
    | jobMetaHash other => rw [entryPart_inj.mp same]
    | jobErrorsList other => exact absurd same meta_ne_errors
    | leaseKey other now attempts => exact absurd same meta_ne_laneLease
  | jobErrorsList jobId =>
    cases other with
    | queue other => exact absurd same.symm (other.part_ne_jobPart _ _)
    | lanePendingList _ | laneDelayedZset _ | laneActiveHash _ =>
      exact absurd same.symm (lanePart_ne_jobPart _ _ _ _)
    | jobMetaHash other => exact absurd same.symm meta_ne_errors
    | jobErrorsList other => rw [entryPart_inj.mp same]
    | leaseKey other now attempts => exact absurd same errors_ne_laneLease
  | leaseKey jobId now attempts =>
    cases other with
    | queue other => exact absurd same.symm (other.part_ne_jobPart _ _)
    | lanePendingList _ | laneDelayedZset _ | laneActiveHash _ =>
      exact absurd same.symm (lanePart_ne_jobPart _ _ _ _)
    | jobMetaHash other => exact absurd same.symm meta_ne_laneLease
    | jobErrorsList other => exact absurd same.symm errors_ne_laneLease
    | leaseKey other later count =>
      obtain ⟨rfl, rfl, rfl⟩ := laneLease_inj.mp same
      rfl

/-! Keys of two queues. -/

/-- The name of one queue continues the other's with what introduces one of its entries. -/
def Continues (word name other : String) : Prop :=
  (name ++ ":" ++ word ++ ":").toList <+: (other ++ ":").toList

instance (word name other : String) : Decidable (Continues word name other) :=
  inferInstanceAs (Decidable (_ <+: _))

section TwoQueues

variable {space word name other part rest : String}

/-- Keys of two queues have one name where the queues have, or where the one queue's part spells out
the other's name. -/
theorem keyName_eq_keyName (same : keyName space name part = keyName space other rest) :
    name = other ∨
      (∃ gap, other = name ++ ":" ++ gap ∧ part = gap ++ ":" ++ rest) ∨
      ∃ gap, name = other ++ ":" ++ gap ∧ rest = gap ++ ":" ++ part := by
  have chars := congrArg String.toList same
  have cut (name part : String) : (keyName space name part).toList =
      (space ++ ":").toList ++ (name.toList ++ ':' :: part.toList) := by
    simp [keyName]
  rw [cut, cut] at chars
  have whole (name gap : String) (chars : List Char)
      (equal : name.toList = gap.toList ++ ':' :: chars) :
      name = gap ++ ":" ++ String.ofList chars := by
    rw [← String.toList_inj, equal]
    simp
  obtain ⟨names, -⟩ | ⟨gap, longer, behind⟩ | ⟨gap, longer, behind⟩ :=
    Delimited.append_cons_eq_append_cons.mp (List.append_cancel_left chars)
  · exact .inl (String.toList_inj.mp names)
  · exact .inr (.inl ⟨String.ofList gap, whole other name gap longer,
      String.toList_inj.mp (by simp [behind])⟩)
  · exact .inr (.inr ⟨String.ofList gap, whole name other gap longer,
      String.toList_inj.mp (by simp [behind])⟩)

/-- Where an entry's part spells out a longer queue's name, that name continues with the entry's
word. -/
theorem Continues.of_entryPart {id gap : String} (free : ':' ∉ word.toList)
    (spelled : entryPart word id part = gap ++ ":" ++ rest) :
    Continues word name (name ++ ":" ++ gap) := by
  have chars := congrArg String.toList spelled
  rw [toList_entryPart] at chars
  obtain ⟨tail, continued⟩ := Delimited.prefix_of_free free
    (chars.trans (show (gap ++ ":" ++ rest).toList = gap.toList ++ ':' :: rest.toList by simp))
  exact ⟨tail, by simp [← continued]⟩

/-- A longer queue's job keys are keys of the queue whose name it continues. -/
theorem Continues.shared (jobId : String) (continues : Continues word name other) :
    ∃ id, keyName space name (entryPart word id part) =
      keyName space other (entryPart word jobId part) := by
  obtain ⟨tail, continued⟩ := continues
  refine ⟨String.ofList tail ++ word ++ ":" ++ jobId, String.toList_inj.mp ?_⟩
  have cut : (keyName space other (entryPart word jobId part)).toList =
      (space ++ ":").toList ++ ((other ++ ":").toList ++ (entryPart word jobId part).toList) := by
    simp [keyName]
  rw [cut, ← continued]
  simp [keyName, entryPart]

/-- A part a queue has once spells out a longer queue's name in `jobs:data` and `jobs:result`
alone. -/
theorem jobs_of_spelled {gap fixed : String} (front : ':' ∉ fixed.toList) (back : ':' ∉ part.toList)
    (spelled : fixed ++ ":" ++ part = gap ++ ":" ++ rest) : rest = part := by
  have chars := congrArg String.toList spelled
  have cut (front back : String) :
      (front ++ ":" ++ back).toList = front.toList ++ ':' :: back.toList := by
    simp
  rw [cut, cut] at chars
  obtain ⟨-, same⟩ | ⟨middle, -, same⟩ | ⟨middle, same, -⟩ :=
    Delimited.append_cons_eq_append_cons.mp chars
  · exact (String.toList_inj.mp same).symm
  · exact absurd (by simp [same]) back
  · exact absurd (by simp [same]) front

/-- A part without a colon spells out no queue's name. -/
theorem ne_spelled {gap : String} (free : ':' ∉ part.toList) : part ≠ gap ++ ":" ++ rest := by
  rintro rfl
  exact free (by simp)

end TwoQueues

/-- No key of a queue is what stands behind `jobs:`. -/
theorem SingleKey.part_ne_jobs (key : SingleKey) : key.part ≠ "data" ∧ key.part ≠ "result" := by
  have entry (jobId part : String) :
      jobPart jobId part ≠ "data" ∧ jobPart jobId part ≠ "result" := by
    constructor <;> intro same <;>
      simpa [jobPart, toList_entryPart] using congrArg (fun text => text.toList.head?) same
  cases key with
  | queue key => cases key <;> decide
  | _ => exact entry _ _

/-- No key of a multilane queue is what stands behind `jobs:`. -/
theorem LaneKey.part_ne_jobs (key : LaneKey) : key.part ≠ "data" ∧ key.part ≠ "result" := by
  have entry {first : Char} (word id part : String) (starts : word.toList.head? = some first)
      (other : first ≠ 'd' ∧ first ≠ 'r') :
      entryPart word id part ≠ "data" ∧ entryPart word id part ≠ "result" := by
    constructor <;> intro same
    · have heads := congrArg (fun text => text.toList.head?) same
      rw [toList_entryPart, List.head?_append, starts] at heads
      exact other.1 (Option.some.inj heads)
    · have heads := congrArg (fun text => text.toList.head?) same
      rw [toList_entryPart, List.head?_append, starts] at heads
      exact other.2 (Option.some.inj heads)
  cases key with
  | queue key => cases key <;> decide
  | lanePendingList _ | laneDelayedZset _ | laneActiveHash _ =>
    exact entry "lane" _ _ rfl (by decide)
  | _ => exact entry "job" _ _ rfl (by decide)

/-- A key that spells out a longer queue's name is a job's. -/
theorem SingleKey.continues {key rest : SingleKey} {name gap : String}
    (spelled : key.part = gap ++ ":" ++ rest.part) :
    Continues "job" name (name ++ ":" ++ gap) := by
  have fixed : "jobs:data" = "jobs" ++ ":" ++ "data" ∧
      "jobs:result" = "jobs" ++ ":" ++ "result" := by decide
  cases key with
  | queue key =>
    cases key with
    | jobDataHash =>
      exact absurd (jobs_of_spelled (by decide) (by decide) (fixed.1.symm.trans spelled))
        rest.part_ne_jobs.1
    | jobResultHash =>
      exact absurd (jobs_of_spelled (by decide) (by decide) (fixed.2.symm.trans spelled))
        rest.part_ne_jobs.2
    | _ => exact absurd spelled (ne_spelled (by decide))
  | _ => exact Continues.of_entryPart (by decide) spelled

/-- A key that spells out a longer queue's name is a job's or a lane's. -/
theorem LaneKey.continues {key rest : LaneKey} {queueId gap : String}
    (spelled : key.part = gap ++ ":" ++ rest.part) :
    Continues "job" queueId (queueId ++ ":" ++ gap) ∨
      Continues "lane" queueId (queueId ++ ":" ++ gap) := by
  have fixed : "jobs:data" = "jobs" ++ ":" ++ "data" ∧
      "jobs:result" = "jobs" ++ ":" ++ "result" := by decide
  cases key with
  | queue key =>
    cases key with
    | jobDataHash =>
      exact absurd (jobs_of_spelled (by decide) (by decide) (fixed.1.symm.trans spelled))
        rest.part_ne_jobs.1
    | jobResultHash =>
      exact absurd (jobs_of_spelled (by decide) (by decide) (fixed.2.symm.trans spelled))
        rest.part_ne_jobs.2
    | _ => exact absurd spelled (ne_spelled (by decide))
  | lanePendingList _ | laneDelayedZset _ | laneActiveHash _ =>
    exact .inr (Continues.of_entryPart (by decide) spelled)
  | _ => exact .inl (Continues.of_entryPart (by decide) spelled)

/-- Two queues have a key in common where they have one name, or the one's name continues the
other's by `:job:`, and nowhere else. -/
theorem SingleKey.queues_share_iff (name other : String) :
    (∃ key rest : SingleKey, key.text name = rest.text other) ↔
      name = other ∨ Continues "job" name other ∨ Continues "job" other name := by
  constructor
  · rintro ⟨key, rest, same⟩
    rw [text_eq, text_eq] at same
    obtain rfl | ⟨gap, rfl, spelled⟩ | ⟨gap, rfl, spelled⟩ := keyName_eq_keyName same
    · exact .inl rfl
    · exact .inr (.inl (continues spelled))
    · exact .inr (.inr (continues spelled))
  · have jobs {name other : String} (longer : Continues "job" name other) :
        ∃ id, (SingleKey.jobMetaHash id).text name = (SingleKey.jobMetaHash "").text other :=
      longer.shared ""
    rintro (rfl | longer | longer)
    · exact ⟨.queue .pendingList, .queue .pendingList, rfl⟩
    · obtain ⟨id, same⟩ := jobs longer
      exact ⟨_, _, same⟩
    · obtain ⟨id, same⟩ := jobs longer
      exact ⟨_, _, same.symm⟩

/-- Two multilane queues have a key in common where they have one name, or the one's name continues
the other's by `:job:` or `:lane:`, and nowhere else. -/
theorem LaneKey.lane_queues_share_iff (queueId other : String) :
    (∃ key rest : LaneKey, key.text queueId = rest.text other) ↔
      queueId = other ∨ (Continues "job" queueId other ∨ Continues "lane" queueId other) ∨
        (Continues "job" other queueId ∨ Continues "lane" other queueId) := by
  constructor
  · rintro ⟨key, rest, same⟩
    rw [text_eq, text_eq] at same
    obtain rfl | ⟨gap, rfl, spelled⟩ | ⟨gap, rfl, spelled⟩ := keyName_eq_keyName same
    · exact .inl rfl
    · exact .inr (.inl (continues spelled))
    · exact .inr (.inr (continues spelled))
  · have jobs {queueId other : String} (longer : Continues "job" queueId other) :
        ∃ id, (LaneKey.jobMetaHash id).text queueId = (LaneKey.jobMetaHash "").text other :=
      longer.shared ""
    have lanes {queueId other : String} (longer : Continues "lane" queueId other) :
        ∃ id, (LaneKey.lanePendingList id).text queueId =
          (LaneKey.lanePendingList "").text other :=
      longer.shared ""
    rintro (rfl | (longer | longer) | (longer | longer))
    · exact ⟨.queue .successList, .queue .successList, rfl⟩
    · obtain ⟨id, same⟩ := jobs longer
      exact ⟨_, _, same⟩
    · obtain ⟨id, same⟩ := lanes longer
      exact ⟨_, _, same⟩
    · obtain ⟨id, same⟩ := jobs longer
      exact ⟨_, _, same.symm⟩
    · obtain ⟨id, same⟩ := lanes longer
      exact ⟨_, _, same.symm⟩

end OpenEngine.Queue
