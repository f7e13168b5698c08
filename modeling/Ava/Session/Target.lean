/-
  Ava.Session.Target
  **THE APPEND AUTHORITY** (`session/session_store_authority.cpp`).

  A `SessionAppendTarget` keeps the assistant-output state of its session in a cache, checks
  every entry against it, and writes.  Several targets may share one session; a shared epoch
  tells each of them when its cache is out of date.  After a write whose outcome is unknown
  the target is latched until `recover` succeeds.

  An operation is modelled by the list of its effects in program order (`Act`) and by what it
  returns; the list is empty where the code returns before it touches anything.

    - §1 storage, targets, effects; §2 reading the history; §3 one append and its settlement;
    - §4 the two conditional appends; §5 the batch; §6 `recover`; §7 all mutations.
-/
import Ava.Session.Recovery

namespace Ava.Session

open Ava.Core Ava.Core.Json

/-! ## §1. Storage, targets, effects. -/

/-- Where the records are: in the leased file, or in the memory of an ephemeral store. -/
inductive Storage where
  | file (content : Bytes)
  | memory (entries : List SessionEntry)
deriving DecidableEq

/-- The storage with one more whole entry. -/
def Storage.push : Storage → SessionEntry → Storage
  | .file content, entry => .file (content ++ entryPayload entry)
  | .memory entries, entry => .memory (entries ++ [entry])

/-- What all targets of one session share. -/
structure Shared where
  storage : Storage
  appendEpoch : UInt64 := 0
deriving DecidableEq

/-- `SessionAppendTarget`. -/
structure Target where
  lease : Option SessionLease
  readLimits : SessionReadLimits := {}
  assistantOutputState : AppendState := {}
  lastSeenAppendEpoch : UInt64 := 0
  recoveryRequired : Bool := false
deriving DecidableEq

/-- One effect of an operation. -/
inductive Act where
  | store (s : Storage)
  | publish (s : AppendState)
  | see (epoch : UInt64)
  | observe
  | bump
  | advance
  | latch
  | unlatch
deriving DecidableEq

/-- `advance` is `advance_append_epoch`, `bump` is `bump_append_epoch`, and `observe` loads the
    shared epoch as the one the cache represents. -/
def Act.exec (t : Target) (sh : Shared) : Act → Target × Shared
  | .store s => (t, { sh with storage := s })
  | .publish s => ({ t with assistantOutputState := s }, sh)
  | .see epoch => ({ t with lastSeenAppendEpoch := epoch }, sh)
  | .observe => ({ t with lastSeenAppendEpoch := sh.appendEpoch }, sh)
  | .bump => (t, { sh with appendEpoch := sh.appendEpoch + 1 })
  | .advance =>
    ({ t with lastSeenAppendEpoch := sh.appendEpoch + 1 },
      { sh with appendEpoch := sh.appendEpoch + 1 })
  | .latch => ({ t with recoveryRequired := true }, sh)
  | .unlatch => ({ t with recoveryRequired := false }, sh)

def execAll : List Act → Target → Shared → Target × Shared
  | [], t, sh => (t, sh)
  | a :: acts, t, sh => execAll acts (a.exec t sh).1 (a.exec t sh).2

/-- An operation: its effects, and what it returns unless a C++ exception leaves it. -/
structure Op (ρ : Type) where
  acts : List Act := []
  returned : Option ρ

def Op.ret {ρ : Type} (r : ρ) : Op ρ := { returned := some r }

def Op.thrown {ρ : Type} : Op ρ := { returned := none }

/-- The operation with effects in front. -/
def Op.prepend {ρ : Type} (acts : List Act) (op : Op ρ) : Op ρ := { op with acts := acts ++ op.acts }

def Op.map {ρ σ : Type} (f : ρ → σ) (op : Op ρ) : Op σ :=
  { acts := op.acts, returned := op.returned.map f }

/-- Target and shared state when the operation has ended. -/
def Op.after {ρ : Type} (op : Op ρ) (t : Target) (sh : Shared) : Target × Shared :=
  execAll op.acts t sh

/-! ## §2. Reading the history. -/

/-- The ways the system can spoil a read of the session. -/
inductive ReadFault where
  | io (message cause : Bytes)
  | changed (message : Bytes)
  | canceled
deriving Repr, DecidableEq

def readError (path : Bytes) : ReadFault → Error
  | .io message cause => pathIoError message path (some cause)
  | .changed message => ({ category := .session, message } : Error).withContext "path" path
  | .canceled =>
    { category := .unknown, message := ascii "session read canceled", code := .canceled }

variable (cfg : StoreConfig)

/-- `load_bounded` with a lease. -/
def loadLeased (lease : SessionLease) (limits : SessionReadLimits) (fault : Option ReadFault)
    (content : Bytes) : Result (List SessionEntry) :=
  match validateReadLimits limits with
  | .error e => .error e
  | .ok () =>
    match validateSessionId cfg.sessionId with
    | .error e => .error e
    | .ok () =>
      if !lease.active then
        .error { category := .invalidArgument
                 message := ascii "lease-bound session read requires an active session lease" }
      else if cfg.canonicalPath ≠ lease.canonicalPath then
        .error ((appendAuthorityError
            "session lease does not exactly match the persistent read target"
            cfg.canonicalPath).withContext "lease_path" lease.canonicalPath)
      else if cfg.sessionName.isEmpty then
        .error (pathIoError (ascii "lease-bound session read target has no basename")
          cfg.canonicalPath none)
      else
        match fault with
        | some f => .error (readError cfg.canonicalPath f)
        | none => loadBounded cfg.sax cfg.canonicalPath limits content

/-- `load_bounded` without a lease. -/
def loadUnleased (limits : SessionReadLimits) (fault : Option ReadFault) (storage : Storage) :
    Result (List SessionEntry) :=
  match validateReadLimits limits with
  | .error e => .error e
  | .ok () =>
    match validateSessionId cfg.sessionId with
    | .error e => .error e
    | .ok () =>
      match fault with
      | some f => .error (readError cfg.path f)
      | none =>
        match storage with
        | .file content => loadBounded cfg.sax cfg.path limits content
        | .memory entries => loadBoundedEphemeral limits entries

variable (t : Target) (io : MutationIo) (sh : Shared)

/-- `lease_ ? store_.load_bounded(*lease_, ...) : store_.load_bounded(...)`. -/
def Target.load (fault : Option ReadFault) (storage : Storage) : Result (List SessionEntry) :=
  match t.lease, storage with
  | some lease, .file content => loadLeased cfg lease t.readLimits fault content
  | some _, .memory _ =>
    .error { category := .invalidArgument
             message := ascii "lease-bound reads require a persistent session store" }
  | none, storage => loadUnleased cfg t.readLimits fault storage

/-- The history folded into a state, as every rebuild of the cache does it. -/
def Target.rebuild (fault : Option ReadFault) (storage : Storage) :
    Result (List SessionEntry × AppendState) :=
  match t.load cfg fault storage with
  | .error e => .error e
  | .ok history => (AppendState.fromValidatedHistory history).map fun state => (history, state)

/-- Where a C++ exception can leave an operation outside `append_impl`: while the history is
    loaded and folded, while the entry is applied to a copy of the state, or while the result
    is built after everything was published. -/
inductive OpPoint where
  | history | preflight | reply
deriving Repr, DecidableEq

/-- What the system does during one mutation; `appends i` is for the `i`-th record written. -/
structure MutationIo where
  read : Option ReadFault := none
  canceled : Bool := false
  thrown : Option OpPoint := none
  what : Option Bytes := none
  appends : Nat → AppendIo := fun _ => {}

/-- `refresh_state_if_stale`: the state to check against, and the effects of getting it. -/
def refreshStateIfStale : Option (Result (AppendState × List Act)) :=
  if sh.appendEpoch = t.lastSeenAppendEpoch then some (.ok (t.assistantOutputState, []))
  else if io.thrown = some .history then none
  else
    some ((t.rebuild cfg io.read sh.storage).map fun r =>
      (r.2, [.publish r.2, .see sh.appendEpoch]))

/-- `create_persistent`, from its load on; the checks of the leased inode before it are faults
    of the read. -/
def createPersistent (lease : SessionLease) (limits : SessionReadLimits) (fault : Option ReadFault)
    (content : Bytes) : Result Target :=
  match loadLeased cfg lease limits fault content with
  | .error e => .error e
  | .ok history =>
    (AppendState.fromValidatedHistory history).map fun state =>
      { lease := some lease, readLimits := limits, assistantOutputState := state }

/-! ## §3. One append and its settlement. -/

/-- What `append_impl` leaves and returns. -/
structure StoreOutcome where
  storage : Storage
  returned : Option (Result Unit)

/-- `append_impl` with the storage it is called on. -/
def appendStore (lease : Option SessionLease) (io : AppendIo) (entry : SessionEntry) :
    Storage → StoreOutcome
  | .file content =>
    let out := appendImpl cfg lease io content entry
    { storage := .file out.content, returned := out.returned }
  | .memory entries =>
    if io.thrown = some .beforeWrite then { storage := .memory entries, returned := none }
    else
      match appendImplEphemeral cfg entries entry with
      | .error e => { storage := .memory entries, returned := some (.error e) }
      | .ok entries' =>
        if lease.isSome then
          { storage := .memory entries
            returned := some (.error
              { category := .invalidArgument
                message := ascii "ephemeral session append must not receive a lease" }) }
        else { storage := .memory entries', returned := some (.ok ()) }

/-- `append_target_recovery_required_error`. -/
def appendTargetRecoveryRequiredError (path : Bytes) : Error :=
  ((sessionError
      "session append target requires explicit recovery after a partially persisted batch").withContext
    "recovery" (ascii "call SessionAppendTarget::recover before any later append or append_batch")).withContext
    "path" path

/-- The error of a persistent append that carries no commit state was raised before any write. -/
def orNotStarted (lease : Option SessionLease) (e : Error) : Error :=
  if lease.isSome && !hasAppendCommitState e then withAppendCommitState e .notStarted cfg.path else e

/-- What `append` and both conditional appends do with the answer of `append_impl`. -/
def settle (lease : Option SessionLease) (next : AppendState) (out : StoreOutcome) :
    Op (Result Unit) :=
  match out.returned with
  | none => { acts := [.store out.storage], returned := none }
  | some (.ok ()) =>
    { acts := [.store out.storage, .publish next, .advance], returned := some (.ok ()) }
  | some (.error e) =>
    let e := orNotStarted cfg lease e
    if appendPartialOrUnknown e then
      { acts := [.store out.storage, .latch, .bump], returned := some (.error e) }
    else if appendCommittedToLeasedInode e then
      { acts := [.store out.storage, .publish next, .advance], returned := some (.error e) }
    else { acts := [.store out.storage], returned := some (.error e) }

/-- The part of `append` from the refreshed state on. -/
def appendLocked (entry : SessionEntry) (state : AppendState) : Op (Result Unit) :=
  if io.thrown = some .preflight then
    .ret (.error { category := .unknown
                   message := ascii "failed to preflight assistant-output append state" })
  else
    match state.applyCandidate entry with
    | .error e => .ret (.error e)
    | .ok next => settle cfg t.lease next (appendStore cfg t.lease (io.appends 0) entry sh.storage)

/-- `SessionAppendTarget::append`. -/
def append (entry : SessionEntry) : Op (Result Unit) :=
  if t.recoveryRequired then .ret (.error (appendTargetRecoveryRequiredError cfg.path))
  else
    match refreshStateIfStale cfg t io sh with
    | none => .thrown
    | some (.error e) => .ret (.error e)
    | some (.ok (state, acts)) => Op.prepend acts (appendLocked cfg t io sh entry state)

/-! ## §4. The two conditional appends. -/

inductive ConditionalAppendCompletion where
  | succeeded | rejectedBeforeAppend | appendFailed
deriving Repr, DecidableEq

/-- `ConditionalAppendOutcome` and `CompactionAppendOutcome`. -/
structure ConditionalAppendOutcome (α : Type) where
  completion : ConditionalAppendCompletion
  result : Option α := none
  error : Option Error := none

def rejected {α : Type} (e : Error) : ConditionalAppendOutcome α :=
  { completion := .rejectedBeforeAppend, error := some e }

def appendFailed {α : Type} (e : Error) : ConditionalAppendOutcome α :=
  { completion := .appendFailed, error := some e }

def succeeded {α : Type} (a : α) : ConditionalAppendOutcome α :=
  { completion := .succeeded, result := some a }

/-- How both public functions turn the classified outcome into a result. -/
def ConditionalAppendOutcome.toResult {α : Type} (noOutcome : String)
    (out : ConditionalAppendOutcome α) : Result α :=
  match out.completion, out.result, out.error with
  | .succeeded, some a, _ => .ok a
  | _, _, some e => .error e
  | _, _, none => .error { category := .unknown, message := ascii noOutcome }

/-- The error of a catch block; the cause is the text of a `std::exception`. -/
def unexpectedError (message : String) (what : Option Bytes) : Error :=
  let e : Error := { category := .unknown, message := ascii message }
  match what with
  | none => e
  | some text => e.withContext "cause" text

/-- `BranchSummaryIdentity`. -/
structure BranchSummaryIdentity where
  source : Bytes
  root : Bytes
  tip : Bytes

/-- `branch_summary_identity`. -/
def branchSummaryIdentity (entry : SessionEntry) : Result BranchSummaryIdentity :=
  if entry.type ≠ .branchSummary then
    .error { category := .invalidArgument
             message := ascii "conditional branch summary append requires a BranchSummary entry" }
  else
    let source := stringFieldOrEmpty entry.dataJson "source_session_id"
    let root := stringFieldOrEmpty entry.dataJson "branch_root_entry_id"
    let tip := stringFieldOrEmpty entry.dataJson "branch_tip_entry_id"
    if source.isEmpty ∨ root.isEmpty ∨ tip.isEmpty then
      .error { category := .invalidArgument
               message := ascii
                "conditional branch summary append requires a complete final identity" }
    else .ok { source, root, tip }

/-- `matches_branch_summary_identity`. -/
def matchesBranchSummaryIdentity (identity : BranchSummaryIdentity) (entry : SessionEntry) : Bool :=
  entry.type = .branchSummary &&
    stringField entry.dataJson "source_session_id" = some identity.source &&
    stringField entry.dataJson "branch_root_entry_id" = some identity.root &&
    stringField entry.dataJson "branch_tip_entry_id" = some identity.tip

/-- `validate_branch_summary_range`. -/
def validateBranchSummaryRange (history : List SessionEntry) (identity : BranchSummaryIdentity) :
    Result Unit :=
  match history.findIdx? (·.id = identity.root), history.findIdx? (·.id = identity.tip) with
  | some root, some tip =>
    if tip < root then
      .error { category := .invalidArgument
               message := ascii "branch summary root must not be after tip" }
    else .ok ()
  | _, _ => .error (sessionError "branch summary source range changed before append")

/-- The summary of the same branch that already covers the history from the parent on. -/
def existingBranchSummary (history : List SessionEntry) (identity : BranchSummaryIdentity)
    (parentId : Bytes) : Option SessionEntry :=
  match history.findIdx? (matchesBranchSummaryIdentity identity),
      history.findIdx? (·.id = parentId) with
  | some existing, some parent =>
    if parent < existing ∧ (history.drop (parent + 1)).all (·.type = .branchSummary) then
      history[existing]?
    else none
  | _, _ => none

inductive SessionAppendDisposition where
  | appended | existing
deriving Repr, DecidableEq

/-- `SessionConditionalAppendResult`. -/
structure SessionConditionalAppendResult where
  entry : SessionEntry
  disposition : SessionAppendDisposition := .appended
deriving DecidableEq

/-- What the last `match` of a conditional append makes of the settled append. -/
def classifySettled {α : Type} (op : Op (Result Unit)) (reply : Option α) :
    Op (ConditionalAppendOutcome α) :=
  { acts := op.acts
    returned :=
      match op.returned with
      | none => none
      | some (.error e) => some (appendFailed e)
      | some (.ok ()) => reply.map succeeded }

/-- The checks under the lock against the loaded history, and the append. -/
def branchSummaryLocked (entry : SessionEntry) (identity : BranchSummaryIdentity)
    (history : List SessionEntry) (last : SessionEntry) (state : AppendState) :
    Op (ConditionalAppendOutcome SessionConditionalAppendResult) :=
  match validateBranchSummaryRange history identity with
  | .error e => .ret (rejected e)
  | .ok () =>
    match existingBranchSummary history identity entry.parentId with
    | some existing => .ret (succeeded { entry := existing, disposition := .existing })
    | none =>
      if entry.parentId ≠ last.id then
        .ret (rejected (((sessionError
            "source session changed before branch summary append").withContext
          "expected_parent_id" entry.parentId).withContext "actual_parent_id" last.id))
      else if io.canceled then
        .ret (rejected { category := .unknown, code := .canceled
                         message := ascii "conditional branch summary append canceled" })
      else if io.thrown = some .preflight then .thrown
      else
        match state.applyCandidate entry with
        | .error e => .ret (rejected e)
        | .ok next =>
          -- copying the entry into the result may throw after everything is published
          classifySettled
            (settle cfg t.lease next (appendStore cfg t.lease (io.appends 0) entry sh.storage))
            (if io.thrown = some .reply then none else some { entry })

/-- The try block of `append_branch_summary_if_absent_classified`. -/
def branchSummaryTry (entry : SessionEntry) :
    Op (ConditionalAppendOutcome SessionConditionalAppendResult) :=
  if t.recoveryRequired then .ret (rejected (appendTargetRecoveryRequiredError cfg.path))
  else if t.lease.isNone then
    .ret (rejected
      { category := .invalidArgument
        message := ascii "conditional branch summary append requires a persistent append target" })
  else
    match branchSummaryIdentity entry with
    | .error e => .ret (rejected e)
    | .ok identity =>
      if identity.source ≠ cfg.sessionId then
        .ret (rejected
          { category := .invalidArgument
            message := ascii
              "conditional branch summary source identity does not match the append target" })
      else if io.thrown = some .history then .thrown
      else
        match t.load cfg io.read sh.storage with
        | .error e => .ret (rejected e)
        | .ok history =>
          match history.getLast? with
          | none =>
            .ret (rejected (sessionError
              "source session has no entries before branch summary append"))
          | some last =>
            match AppendState.fromValidatedHistory history with
            | .error e => .ret (rejected e)
            | .ok state =>
              Op.prepend [.publish state, .observe]
                (branchSummaryLocked cfg t io sh entry identity history last state)

/-- `append_branch_summary_if_absent_classified`: the catch block reports an unknown outcome
    and leaves the target as it is. -/
def appendBranchSummaryIfAbsentClassified (entry : SessionEntry) :
    Op (ConditionalAppendOutcome SessionConditionalAppendResult) :=
  let body := branchSummaryTry cfg t io sh entry
  match body.returned with
  | some out => { acts := body.acts, returned := some out }
  | none =>
    { acts := body.acts
      returned := some (appendFailed (withAppendCommitState
        (unexpectedError "conditional branch summary append failed unexpectedly" io.what)
        .partialOrUnknown cfg.path)) }

/-- `append_branch_summary_if_absent`. -/
def appendBranchSummaryIfAbsent (entry : SessionEntry) :
    Op (Result SessionConditionalAppendResult) :=
  (appendBranchSummaryIfAbsentClassified cfg t io sh entry).map
    (ConditionalAppendOutcome.toResult "conditional branch summary append produced no outcome")

/-- Whether a trailing entry is the automatic title that a compaction may be overtaken by. -/
def isAutoTitle (entry : SessionEntry) : Bool :=
  entry.type = .sessionMetadata &&
    stringFieldOrEmpty entry.dataJson "actor" = ascii "auto-title" &&
    (stringField entry.dataJson "generated_title").isSome &&
    !(["name", "labels", "archived", "parent_session_id", "source_session_id",
      "branch_from_entry_id", "branch_origin", "original_cwd"].any (hasField entry.dataJson))

/-- `compaction_snapshot_matches`. -/
def compactionSnapshotMatches (expected actual : List SessionEntry) : Bool :=
  actual.take expected.length = expected && (actual.drop expected.length).all isAutoTitle

inductive SessionCompactionAppendResult where
  | appended | snapshotMismatch
deriving Repr, DecidableEq

/-- The part of the compaction append before `append_attempted`: the state to publish, or the
    outcome it already has. -/
def compactionPrepare (entry : SessionEntry) (expected : List SessionEntry) :
    Option (Except (ConditionalAppendOutcome SessionCompactionAppendResult) AppendState) :=
  if t.recoveryRequired then
    some (.error (rejected (appendTargetRecoveryRequiredError cfg.path)))
  else if entry.type ≠ .compaction then
    some (.error (rejected
      { category := .invalidArgument
        message := ascii "conditional compaction append requires a Compaction entry" }))
  else if io.thrown = some .history then none
  else
    match t.load cfg io.read sh.storage with
    | .error e => some (.error (rejected e))
    | .ok history =>
      if !compactionSnapshotMatches expected history then
        some (.error (succeeded .snapshotMismatch))
      else if io.canceled then
        some (.error (rejected
          { category := .unknown, code := .canceled
            message := ascii "conditional compaction append canceled" }))
      else
        match AppendState.fromValidatedHistory history with
        | .error e => some (.error (rejected e))
        | .ok state =>
          if io.thrown = some .preflight then none
          else
            match state.applyCandidate entry with
            | .error e => some (.error (rejected e))
            | .ok next => some (.ok next)

/-- `append_compaction_if_snapshot_matches_classified`: its catch block latches the target once
    the append was attempted. -/
def appendCompactionIfSnapshotMatchesClassified (entry : SessionEntry)
    (expected : List SessionEntry) : Op (ConditionalAppendOutcome SessionCompactionAppendResult) :=
  let unexpected :=
    unexpectedError "conditional compaction append failed unexpectedly" io.what
  match compactionPrepare cfg t io sh entry expected with
  | none => .ret (rejected unexpected)
  | some (.error out) => .ret out
  | some (.ok next) =>
    let op := classifySettled
      (settle cfg t.lease next (appendStore cfg t.lease (io.appends 0) entry sh.storage))
      (some .appended)
    match op.returned with
    | some out => { acts := op.acts, returned := some out }
    | none =>
      { acts := op.acts ++ [.latch, .bump]
        returned := some (appendFailed
          (withAppendCommitState unexpected .partialOrUnknown cfg.path)) }

/-- `append_compaction_if_snapshot_matches`. -/
def appendCompactionIfSnapshotMatches (entry : SessionEntry) (expected : List SessionEntry) :
    Op (Result SessionCompactionAppendResult) :=
  (appendCompactionIfSnapshotMatchesClassified cfg t io sh entry expected).map
    (ConditionalAppendOutcome.toResult "conditional compaction append produced no outcome")

/-! ## §5. The batch. -/

/-- `kMaxSessionAppendBatchEntries`. -/
def maxSessionAppendBatchEntries : Nat := maxAssistantOutputItemsPerTurn + 1

/-- `kMaxSessionAppendBatchBytes`. -/
def maxSessionAppendBatchBytes : Nat := 4 * 1024 * 1024

/-- The loop over the rendered entries of a batch, with the octets counted so far. -/
def batchSerialized (cfg : StoreConfig) : Nat → List SessionEntry → Result Unit
  | _, [] => .ok ()
  | total, entry :: entries =>
    match serializeSessionEntryLine entry with
    | .error e => .error e
    | .ok line =>
      match parseStrictSessionRecord cfg.sax line cfg.path false with
      | .error e => .error e
      | .ok _ =>
        if maxSessionAppendBatchBytes ≤ line.length ∨ maxSessionAppendBatchBytes ≤ total ∨
            maxSessionAppendBatchBytes - total - 1 < line.length then
          .error (({ category := .invalidArgument
                     message := ascii "session append batch exceeds serialized byte limit" } :
              Error).withContext "max_bytes" (decimal maxSessionAppendBatchBytes))
        else batchSerialized cfg (total + line.length + 1) entries

/-- The checks of `append_batch` before the session lock is taken. -/
def batchChecks (entries : List SessionEntry) : Result Unit :=
  match entries.getLast? with
  | none =>
    .error { category := .invalidArgument
             message := ascii "session append batch must not be empty" }
  | some last =>
    if maxSessionAppendBatchEntries < entries.length then
      .error (({ category := .invalidArgument
                 message := ascii "session append batch exceeds record limit" } : Error).withContext
        "max_records" (decimal maxSessionAppendBatchEntries))
    else if last.type ≠ .assistantTurnCommit then
      .error { category := .invalidArgument
               message := ascii "session append batch must end with one assistant_turn_commit" }
    else if entries.dropLast.any (·.type ≠ .assistantOutputItem) then
      .error { category := .invalidArgument
               message := ascii
                "session append batch may contain only assistant_output_item records before its final commit" }
    else batchSerialized cfg 0 entries

/-- `batch_partial_failure`. -/
def batchPartialFailure (failure : Error) (path : Bytes) (persisted : Nat) : Error :=
  let normalized : Error :=
    { category := failure.category, message := failure.message
      context := failure.context.filter fun item =>
        item.1 ≠ ascii "append_commit_state" ∧ item.1 ≠ ascii "recovery" }
  ((withAppendCommitState normalized .partialOrUnknown path).withContext
    "batch_persisted_entries" (decimal persisted)).withContext
    "staged_prefix_recovery" (ascii
      "a batch prefix may be durable; retain the append authority and call SessionAppendTarget::recover to repair torn bytes plus any valid incomplete assistant-output suffix before accepting another mutation")

/-- What `append_batch` does when a write fails after `persisted` written records. -/
def batchFailure (lease : Option SessionLease) (persisted : Nat) (storage : Storage) (e : Error) :
    Op (Result Unit) :=
  let e := orNotStarted cfg lease e
  let persisted := if appendCommittedToLeasedInode e then persisted + 1 else persisted
  if appendPartialOrUnknown e ∨ persisted ≠ 0 then
    { acts := [.store storage, .latch, .bump]
      returned := some (.error (batchPartialFailure e cfg.path persisted)) }
  else { acts := [.store storage], returned := some (.error e) }

/-- The write loop of `append_batch`; `persisted` records are written already. -/
def batchWrites (cfg : StoreConfig) (lease : Option SessionLease) (io : MutationIo) :
    Nat → Storage → List SessionEntry → Op (Result Unit)
  | _, _, [] => .ret (.ok ())
  | persisted, storage, entry :: entries =>
    let out := appendStore cfg lease (io.appends persisted) entry storage
    match out.returned with
    | none => { acts := [.store out.storage], returned := none }
    | some (.ok ()) =>
      Op.prepend [.store out.storage, .bump]
        (batchWrites cfg lease io (persisted + 1) out.storage entries)
    | some (.error e) => batchFailure cfg lease persisted out.storage e

/-- The part of `append_batch` under the lock, from the refreshed state on. -/
def batchLocked (entries : List SessionEntry) (state : AppendState) : Op (Result Unit) :=
  if !state.ready then
    .ret (.error (sessionError
      "session append batch requires a ready assistant-output state with no staged transaction"))
  else if io.thrown = some .preflight then
    .ret (.error { category := .unknown
                   message := ascii "failed to preflight assistant-output append batch state" })
  else
    match state.applyCandidates entries with
    | .error e => .ret (.error e)
    | .ok final =>
      if !final.ready then
        .ret (.error (sessionError
          "session append batch must complete its assistant-output transaction before writing"))
      else
        let written := batchWrites cfg t.lease io 0 sh.storage entries
        match written.returned with
        | some (.ok ()) =>
          { acts := written.acts ++ [.publish final, .observe], returned := some (.ok ()) }
        | _ => written

/-- `SessionAppendTarget::append_batch`. -/
def appendBatch (entries : List SessionEntry) : Op (Result Unit) :=
  if t.recoveryRequired then .ret (.error (appendTargetRecoveryRequiredError cfg.path))
  else
    match batchChecks cfg entries with
    | .error e => .ret (.error e)
    | .ok () =>
      match refreshStateIfStale cfg t io sh with
      | none => .thrown
      | some (.error e) => .ret (.error e)
      | some (.ok (state, acts)) => Op.prepend acts (batchLocked cfg t io sh entries state)

/-! ## §6. `recover`. -/

/-- What the system does during one `recover`. -/
structure RecoveryIo where
  torn : RecoverIo := {}
  staged : RecoverIo := {}
  read : Option ReadFault := none

/-- The repairs of the storage: what they leave, how often they advance the epoch, and the
    error that stops them. -/
def repairStorage (io : RecoveryIo) (storage : Storage) : List Act × Storage × Option Error :=
  match t.lease, storage with
  | some lease, .file content =>
    let torn := recoverTornTail cfg lease t.readLimits io.torn content
    let repaired : List Act := [.store (.file torn.content)]
    match torn.result with
    | .error e => (repaired, .file torn.content, some e)
    | .ok _ =>
      let staged := recoverIncompleteAssistantOutputSuffix cfg lease t.readLimits io.staged
        torn.content
      (repaired ++ List.replicate staged.epochBumps .bump ++ [.store (.file staged.content)],
        .file staged.content, match staged.result with | .error e => some e | .ok _ => none)
  | none, .memory entries =>
    let staged := recoverIncompleteAssistantOutputSuffixEphemeral t.readLimits entries
    (List.replicate staged.epochBumps .bump ++ [.store (.memory staged.entries)],
      .memory staged.entries, match staged.result with | .error e => some e | .ok _ => none)
  | some _, .memory _ =>
    ([], storage, some
      { category := .invalidArgument
        message := ascii "ephemeral sessions do not support torn tail recovery" })
  | none, .file _ =>
    ([], storage, some
      { category := .invalidArgument
        message := ascii
          "in-memory assistant-output suffix recovery requires an ephemeral session" })

/-- `SessionAppendTarget::recover`. -/
def recover (io : RecoveryIo) (sh : Shared) : Op (Result Unit) :=
  match repairStorage cfg t io sh.storage with
  | (acts, _, some e) => { acts, returned := some (.error e) }
  | (acts, storage, none) =>
    match t.rebuild cfg io.read storage with
    | .error e => { acts, returned := some (.error e) }
    | .ok (_, state) =>
      { acts := acts ++ [.publish state, .unlatch, .advance], returned := some (.ok ()) }

/-! ## §7. All mutations. -/

/-- The four mutations of a target. -/
inductive Mutation where
  | append (entry : SessionEntry)
  | appendBatch (entries : List SessionEntry)
  | appendBranchSummaryIfAbsent (entry : SessionEntry)
  | appendCompactionIfSnapshotMatches (entry : SessionEntry) (expected : List SessionEntry)

/-- The entries a mutation would write. -/
def Mutation.entries : Mutation → List SessionEntry
  | .append entry => [entry]
  | .appendBatch entries => entries
  | .appendBranchSummaryIfAbsent entry => [entry]
  | .appendCompactionIfSnapshotMatches entry _ => [entry]

/-- A mutation, with its reply reduced to success or error. -/
def mutate :
    Mutation → Op (Result Unit)
  | .append entry => append cfg t io sh entry
  | .appendBatch entries => appendBatch cfg t io sh entries
  | .appendBranchSummaryIfAbsent entry =>
    (appendBranchSummaryIfAbsent cfg t io sh entry).map (Except.map fun _ => ())
  | .appendCompactionIfSnapshotMatches entry expected =>
    (appendCompactionIfSnapshotMatches cfg t io sh entry expected).map (Except.map fun _ => ())

end Ava.Session
