import OpenEngine.Core.Numeral
import OpenEngine.Queue.KeyNames
import OpenEngine.Queue.LaneLeases
import OpenEngine.Queue.WorkLoop

/-!
# How a pop script answers

A pop script returns three texts that `cjson` makes of Lua tables, and `lua_json_array` reads each
of them. Lua has one kind of table, so `cjson` writes a table without entries as an object, at any
depth. `normalize` makes an array of every object whose keys are all numbers, and that of an object
without keys too, so what a script inserted is what a worker reads.
-/

namespace OpenEngine.Queue

open OpenEngine.Core

/-- What the scripts put into a reply: texts, and tables filled by `table.insert`. -/
inductive Lua where
  | text (value : String)
  | table (entries : List Lua)

/-- `serde_json::Value`. A number is its text, and the entries of an object are in the order of
their keys. -/
inductive Json where
  | null
  | bool (value : Bool)
  | number (literal : String)
  | string (value : String)
  | array (values : List Json)
  | object (entries : List (String × Json))

mutual

/-- `cjson.encode`, as `serde_json` reads it back. -/
def Lua.encode : Lua → Json
  | .text value => .string value
  | .table entries => if entries.isEmpty then .object [] else .array (Lua.encodeAll entries)

/-- The entries of a table. -/
def Lua.encodeAll : List Lua → List Json
  | [] => []
  | entry :: rest => entry.encode :: Lua.encodeAll rest

end

/-- The index a key of an object stands for. -/
def indexOf (key : String) : Option Nat := parseUnsigned (2 ^ 64) key

mutual

/-- `normalize`. -/
def Json.normalize : Json → Json
  | .null => .null
  | .bool value => .bool value
  | .number literal => .number literal
  | .string value => .string value
  | .array values => .array (Json.normalizeAll values)
  | .object entries =>
    if entries.all fun entry => (indexOf entry.1).isSome then
      .array (((Json.normalizeEntries entries).insertionSort fun left right =>
        (indexOf left.1).getD 0 ≤ (indexOf right.1).getD 0).map Prod.snd)
    else .object (Json.normalizeEntries entries)

/-- The values of an array. -/
def Json.normalizeAll : List Json → List Json
  | [] => []
  | value :: rest => value.normalize :: Json.normalizeAll rest

/-- The values of an object under their keys. -/
def Json.normalizeEntries : List (String × Json) → List (String × Json)
  | [] => []
  | (key, value) :: rest => (key, value.normalize) :: Json.normalizeEntries rest

end

/-- `lua_json_array`, for entries that `read` takes. -/
def luaJsonArray {α : Type} (read : Json → Option α) (json : Json) : Option (List α) :=
  match json.normalize with
  | .array values => values.mapM read
  | _ => none

/-- The texts of a popped job, in the order the scripts insert them. -/
structure PoppedRow where
  jobId : String
  jobData : String
  attempts : String
  createdAt : String
  processedAt : String
  leaseToken : String

/-- A string. -/
def Json.readText : Json → Option String
  | .string value => some value
  | _ => none

/-- A pair of strings. -/
def Json.readPair : Json → Option (String × String)
  | .array [.string laneId, .string jobId] => some (laneId, jobId)
  | _ => none

/-- A popped job of `Queue`: six strings. -/
def PoppedRow.read : Json → Option PoppedRow
  | .array [.string jobId, .string jobData, .string attempts, .string createdAt,
      .string processedAt, .string leaseToken] =>
    some { jobId, jobData, attempts, createdAt, processedAt, leaseToken }
  | _ => none

/-- A popped job of `MultilaneQueue`: seven strings, the lane first. -/
def PoppedRow.readInLane : Json → Option (String × PoppedRow)
  | .array [.string laneId, .string jobId, .string jobData, .string attempts, .string createdAt,
      .string processedAt, .string leaseToken] =>
    some (laneId, { jobId, jobData, attempts, createdAt, processedAt, leaseToken })
  | _ => none

/-- The job of a row, its data still a text, and the text of its lease token. -/
def PoppedRow.job (now : Nat) (row : PoppedRow) : Job String String × String :=
  ({ id := row.jobId
     data := row.jobData
     attempts := (parseUnsigned (2 ^ 32) row.attempts).getD 1
     createdAt := (parseUnsigned (2 ^ 64) row.createdAt).getD now
     processedAt := some ((parseUnsigned (2 ^ 64) row.processedAt).getD now)
     finishedAt := none },
    row.leaseToken)

/-- The three texts a script returns. -/
structure PopReply where
  jobResults : Json
  cancelledJobs : Json
  timedOutJobs : Json

/-- What a worker makes of a reply: the popped jobs, and the cancelled and timed out ones. -/
structure Answer (κ ρ : Type) where
  jobs : List ρ
  cancelled : List κ
  timedOut : List κ

/-- How `pop_batch_jobs` of `Queue` reads a reply. -/
def PopReply.read (now : Nat) (reply : PopReply) :
    Option (Answer String (Job String String × String)) := do
  let results ← luaJsonArray PoppedRow.read reply.jobResults
  let cancelled ← luaJsonArray Json.readText reply.cancelledJobs
  let timedOut ← luaJsonArray Json.readText reply.timedOutJobs
  return { jobs := results.map (PoppedRow.job now), cancelled, timedOut }

/-- How `pop_batch_jobs` of `MultilaneQueue` reads a reply. -/
def PopReply.readInLanes (now : Nat) (reply : PopReply) :
    Option (Answer (String × String) (String × Job String String × String)) := do
  let results ← luaJsonArray PoppedRow.readInLane reply.jobResults
  let cancelled ← luaJsonArray Json.readPair reply.cancelledJobs
  let timedOut ← luaJsonArray Json.readPair reply.timedOutJobs
  return { jobs := results.map fun result => (result.1, result.2.job now), cancelled, timedOut }

/-- The text of a lease token. -/
def LeaseToken.text (token : LeaseToken String) : String :=
  match token.popId with
  | none => laneTokenText token.now token.jobId token.attempts
  | some popId => laneTokenText token.now token.jobId token.attempts ++ "_" ++ popId

/-- What the scripts insert for a job they lease. The count of attempts and the clock are numbers,
which Lua prints by their digits below 10^14. -/
def BorrowedJob.row (borrowed : BorrowedJob String String) : PoppedRow where
  jobId := borrowed.job.id
  jobData := borrowed.job.data
  attempts := toString borrowed.leaseToken.attempts
  createdAt := toString borrowed.job.createdAt
  processedAt := toString borrowed.leaseToken.now
  leaseToken := borrowed.leaseToken.text

/-- The entries of a row's table. -/
def PoppedRow.entries (row : PoppedRow) : List Lua :=
  [.text row.jobId, .text row.jobData, .text row.attempts, .text row.createdAt,
    .text row.processedAt, .text row.leaseToken]

/-- An id in its lane. -/
def laneRow (entry : String × String) : Lua := .table [.text entry.1, .text entry.2]

/-- What the pop script returns. -/
def PopState.reply {ο ε : Type} (final : PopState String String ο ε) : PopReply where
  jobResults := (Lua.table (final.resultJobs.map fun job => .table job.row.entries)).encode
  cancelledJobs := (Lua.table (final.cancelledJobs.map .text)).encode
  timedOutJobs := (Lua.table (final.timedOutJobs.map .text)).encode

/-- What the multilane pop script returns. -/
def LanePopState.reply {ο ε : Type} (final : LanePopState String String ο ε) : PopReply where
  jobResults :=
    (Lua.table (final.resultJobs.map fun entry =>
      .table (.text entry.1 :: entry.2.row.entries))).encode
  cancelledJobs := (Lua.table (final.cancelledJobs.map laneRow)).encode
  timedOutJobs := (Lua.table (final.timedOutJobs.map laneRow)).encode

mutual

/-- What a table is meant to be: an array at any depth, with entries or without. -/
def Lua.plain : Lua → Json
  | .text value => .string value
  | .table entries => .array (Lua.plainAll entries)

/-- The entries of a table. -/
def Lua.plainAll : List Lua → List Json
  | [] => []
  | entry :: rest => entry.plain :: Lua.plainAll rest

end

mutual

/-- Normalizing what `cjson` writes of a table gives what the table is meant to be. -/
theorem Lua.normalize_encode (value : Lua) : value.encode.normalize = value.plain := by
  cases value with
  | text value => rfl
  | table entries =>
    unfold Lua.encode Lua.plain
    cases entries with
    | nil => rfl
    | cons entry rest =>
      rw [if_neg (by simp), Json.normalize, Lua.normalizeAll_encodeAll]

/-- Normalizing the entries of a table one by one gives what they are meant to be. -/
theorem Lua.normalizeAll_encodeAll (entries : List Lua) :
    Json.normalizeAll (Lua.encodeAll entries) = Lua.plainAll entries := by
  cases entries with
  | nil => rfl
  | cons entry rest =>
    rw [Lua.encodeAll, Json.normalizeAll, Lua.normalize_encode, Lua.normalizeAll_encodeAll,
      Lua.plainAll]

end

/-- A list of tables of one kind is read entry by entry. -/
theorem luaJsonArray_encode {α β : Type} {read : Json → Option β} {write : α → Lua} {made : α → β}
    {values : List α} (reads : ∀ value ∈ values, read (write value).plain = some (made value)) :
    luaJsonArray read (Lua.table (values.map write)).encode = some (values.map made) := by
  unfold luaJsonArray
  rw [Lua.normalize_encode, Lua.plain]
  dsimp only
  induction values with
  | nil => rfl
  | cons value rest ih =>
    have here := reads value List.mem_cons_self
    have later := ih fun other member => reads other (List.mem_cons_of_mem _ member)
    rw [List.map_cons, Lua.plainAll, List.mapM_cons, here, later]
    rfl

/-- A count of attempts is read as `u32`, as it is from the store. -/
theorem parseUnsigned_int (attempts : Int) :
    parseUnsigned (2 ^ 32) (toString attempts) = parseU32 attempts := by
  unfold parseU32
  by_cases positive : 0 ≤ attempts
  · obtain ⟨count, rfl⟩ := Int.eq_ofNat_of_zero_le positive
    have same : toString (count : Int) = toString count := rfl
    rw [same, parseUnsigned_toString, Int.toNat_natCast]
    refine if_congr ?_ rfl rfl
    omega
  · have unsigned : '+' ∉ (toString attempts).toList := notMem_int (by decide) (by decide) attempts
    have minus : '-' ∈ (toString attempts).toList := by
      rw [toList_int, if_neg positive]
      exact List.mem_cons_self
    have broken : ¬ (toString attempts).toList.all Char.isDigit = true := by
      intro digits
      exact absurd (List.all_eq_true.mp digits '-' minus) (by decide)
    rw [if_neg fun both => positive both.1, parseUnsigned, unsignedPart_of_notMem unsigned]
    exact if_neg fun both => broken both.2.1

/-! What a pop hands out. -/

/-- A job as a pop at a second fills it in when it leases it. -/
structure BorrowedJob.LeasedAt {ι δ : Type} (now : Nat) (borrowed : BorrowedJob ι δ) : Prop where
  second : borrowed.leaseToken.now = now
  attempts : borrowed.job.attempts = (parseU32 borrowed.leaseToken.attempts).getD 1
  processed : borrowed.job.processedAt = some now
  unfinished : borrowed.job.finishedAt = none

section Pops

variable {ι δ ο ε : Type} [LinearOrder ι]

/-- A pop fills in every job it hands out. -/
theorem Store.leasedAt_popBatchJobs (store : Store ι δ ο ε) (options : QueueOptions) (now : Nat)
    (popId : String) (batchSize : Nat) :
    ∀ job ∈ (store.popBatchJobs options now popId batchSize).resultJobs, job.LeasedAt now := by
  intro job handed
  obtain ⟨at_, under, size, first, rest, same, -, -, issued⟩ :=
    store.handedOut_lease options (.pop now popId batchSize) handed
  cases same
  simp only [JobView.handed] at issued
  split at issued
  · simp at issued
  · rw [List.mem_singleton.mp issued]
    exact ⟨rfl, rfl, rfl, rfl⟩

/-- A multilane pop fills in every job it hands out. -/
theorem MultilaneStore.leasedAt_popBatchJobs (store : MultilaneStore ι δ ο ε)
    (options : QueueOptions) (now : Nat) (batchSize : Nat) :
    ∀ entry ∈ (store.popBatchJobs options now batchSize).resultJobs, entry.2.LeasedAt now := by
  refine store.popBatchJobs_keeps options now
    (fun state => ∀ entry ∈ state.resultJobs, entry.2.LeasedAt now) ?_ ?_ ?_ ?_ batchSize (by simp)
  · intro state target leased
    have told : (state.sweepCancellation now target).resultJobs = state.resultJobs := by
      unfold LanePopState.sweepCancellation
      dsimp only
      split
      · rfl
      · split
        · rfl
        · split <;> rfl
    rwa [told]
  · exact fun state laneId leased => leased
  · intro state laneId job after popped leased entry member
    rcases List.mem_append.mp member with earlier | added
    · exact leased entry earlier
    · rw [List.mem_singleton.mp added]
      rcases state.store.popJobFromLane_cases options now laneId with
        ⟨-, given⟩ | ⟨first, target, -, -, given⟩ | ⟨first, target, data, -, -, given⟩
      · rw [given] at popped
        cases congrArg Prod.fst popped
      · rw [given] at popped
        cases congrArg Prod.fst popped
      · rw [given] at popped
        have same := Option.some.inj (congrArg Prod.fst popped)
        rw [← same]
        exact ⟨rfl, rfl, rfl, rfl⟩
  · exact fun state laneId after _ leased => leased

end Pops

/-- The job a worker reads from the row of a leased job is that job. -/
theorem BorrowedJob.LeasedAt.job_row {borrowed : BorrowedJob String String} {now : Nat}
    (leased : borrowed.LeasedAt now) (early : now < 2 ^ 64)
    (created : borrowed.job.createdAt < 2 ^ 64) :
    borrowed.row.job now = (borrowed.job, borrowed.leaseToken.text) := by
  unfold PoppedRow.job BorrowedJob.row
  dsimp only
  rw [parseUnsigned_int, parseUnsigned_toString, parseUnsigned_toString, leased.second,
    if_pos created, if_pos early, ← leased.attempts, Option.getD_some, Option.getD_some,
    ← leased.processed, ← leased.unfinished]

section Replies

variable {ο ε : Type}

/-- What the script of a single-lane pop found is what the worker reads, job by job and list by
list, the empty lists included. -/
theorem Store.reply_read (store : Store String String ο ε) (options : QueueOptions) (now : Nat)
    (popId : String) (batchSize : Nat) (early : now < 2 ^ 64)
    (created : ∀ job ∈ (store.popBatchJobs options now popId batchSize).resultJobs,
      job.job.createdAt < 2 ^ 64) :
    (store.popBatchJobs options now popId batchSize).reply.read now =
      some
        { jobs := (store.popBatchJobs options now popId batchSize).resultJobs.map fun job =>
            (job.job, job.leaseToken.text)
          cancelled := (store.popBatchJobs options now popId batchSize).cancelledJobs
          timedOut := (store.popBatchJobs options now popId batchSize).timedOutJobs } := by
  have leased := store.leasedAt_popBatchJobs options now popId batchSize
  generalize store.popBatchJobs options now popId batchSize = final at created leased ⊢
  have rows : luaJsonArray PoppedRow.read final.reply.jobResults =
      some (final.resultJobs.map BorrowedJob.row) := luaJsonArray_encode fun _ _ => rfl
  have ids (listed : List String) :
      luaJsonArray Json.readText (Lua.table (listed.map .text)).encode = some (listed.map id) :=
    luaJsonArray_encode fun _ _ => rfl
  have jobs : (final.resultJobs.map BorrowedJob.row).map (PoppedRow.job now) =
      final.resultJobs.map fun job => (job.job, job.leaseToken.text) := by
    rw [List.map_map]
    refine List.map_congr_left fun job member => ?_
    exact (leased job member).job_row early (created job member)
  unfold PopReply.read
  rw [rows, show luaJsonArray Json.readText final.reply.cancelledJobs = some _ from ids _,
    show luaJsonArray Json.readText final.reply.timedOutJobs = some _ from ids _]
  simp only [bind, Option.bind, jobs, List.map_id]
  rfl

/-- A queue with one job, whose data is a text, and one id without data. -/
def oneStored : Store String String Unit Unit :=
  { (Store.empty : Store String String Unit Unit) with
    pending := ["b", "a"]
    jobData := fun id => if id = "a" then some "[5]" else none
    jobMeta := fun _ => { createdAt := some 4 } }

/-- One job is handed out, and the two empty lists are read as such. -/
theorem reply_read_oneStored :
    (oneStored.popBatchJobs {} 9 "abcd" 3).reply.read 9 =
      some
        { jobs := [(⟨"a", "[5]", 1, 4, some 9, none⟩, "9_a_1_abcd")]
          cancelled := []
          timedOut := [] } :=
  (oneStored.reply_read {} 9 "abcd" 3 (by decide) (by decide)).trans (by
    rfl)

/-- What the script of a multilane pop found is what the worker reads, each entry with its lane. -/
theorem MultilaneStore.reply_readInLanes (store : MultilaneStore String String ο ε)
    (options : QueueOptions) (now : Nat) (batchSize : Nat) (early : now < 2 ^ 64)
    (created : ∀ entry ∈ (store.popBatchJobs options now batchSize).resultJobs,
      entry.2.job.createdAt < 2 ^ 64) :
    (store.popBatchJobs options now batchSize).reply.readInLanes now =
      some
        { jobs := (store.popBatchJobs options now batchSize).resultJobs.map fun entry =>
            (entry.1, entry.2.job, entry.2.leaseToken.text)
          cancelled := (store.popBatchJobs options now batchSize).cancelledJobs
          timedOut := (store.popBatchJobs options now batchSize).timedOutJobs } := by
  have leased := store.leasedAt_popBatchJobs options now batchSize
  generalize store.popBatchJobs options now batchSize = final at created leased ⊢
  have rows : luaJsonArray PoppedRow.readInLane final.reply.jobResults =
      some (final.resultJobs.map fun entry => (entry.1, entry.2.row)) :=
    luaJsonArray_encode fun _ _ => rfl
  have ids (listed : List (String × String)) :
      luaJsonArray Json.readPair (Lua.table (listed.map laneRow)).encode = some (listed.map id) :=
    luaJsonArray_encode fun _ _ => rfl
  have jobs : (final.resultJobs.map fun entry => (entry.1, entry.2.row)).map
      (fun result => (result.1, result.2.job now)) =
      final.resultJobs.map fun entry => (entry.1, entry.2.job, entry.2.leaseToken.text) := by
    rw [List.map_map]
    refine List.map_congr_left fun entry member => ?_
    exact congrArg (Prod.mk entry.1) ((leased entry member).job_row early (created entry member))
  unfold PopReply.readInLanes
  rw [rows, show luaJsonArray Json.readPair final.reply.cancelledJobs = some _ from ids _,
    show luaJsonArray Json.readPair final.reply.timedOutJobs = some _ from ids _]
  simp only [bind, Option.bind, jobs, List.map_id]
  rfl

/-- A queue with one job in one lane, whose lease has lapsed. -/
def oneLapsed : MultilaneStore String String Unit Unit :=
  { (MultilaneStore.empty : MultilaneStore String String Unit Unit) with
    lanes := Redis.zaddNx ∅ "l" 4
    lane := fun laneId =>
      if laneId = "l" then { active := (∅ : Redis.Hash String Int).insert "a" 1 } else {}
    jobData := fun id => if id = "a" then some "[5]" else none
    jobMeta := fun _ => { createdAt := some 4, attempts := some 1, laneId := some "l" } }

/-- The job is reported as timed out with its lane, and handed out again. -/
theorem reply_readInLanes_oneLapsed :
    (oneLapsed.popBatchJobs {} 9 2).reply.readInLanes 9 =
      some
        { jobs := [("l", ⟨"a", "[5]", 3, 4, some 9, none⟩, "9_a_3")]
          cancelled := []
          timedOut := [("l", "a")] } :=
  (oneLapsed.reply_readInLanes {} 9 2 (by decide) (by decide)).trans rfl

end Replies

end OpenEngine.Queue
