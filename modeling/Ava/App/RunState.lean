/-
  Ava.App.RunState
  **THE STATE OF A RUN CONTROLLER** (`app/session_run_controller.cpp`): the queue of append
  tickets, the active run and its outcome, and the sections that hold the state mutex.

  A section is a function here, with the checks in the order of the source.  What runs between
  two sections (the append target, stop callbacks, waiting) is in the modules that follow.

  The fields after `completed` are not in the code.  They record what the threads did.

    - §1 phases, reasons, outcomes; §2 tickets; §3 the state; §4 append sections;
    - §5 run sections; §6 maintenance, recovery, shutdown;
    - §7 what the append sections do to the queue; §8 what the other sections have found.
-/
import Ava.Session.Target

namespace Ava.App

open Ava.Core Ava.Core.Json Ava.Session

/-! ## §1. Phases, reasons, outcomes. -/

/-- `RunPhase`. -/
inductive RunPhase where
  | admitted | buildingContext | awaitingProvider | persistingAssistant | preparingTools
  | executingTools | settlingTools | compacting | completing | canceling | failed
deriving Repr, DecidableEq

/-- `to_string(RunPhase)`. -/
def RunPhase.toBytes : RunPhase → Bytes
  | .admitted => ascii "admitted"
  | .buildingContext => ascii "building_context"
  | .awaitingProvider => ascii "awaiting_provider"
  | .persistingAssistant => ascii "persisting_assistant"
  | .preparingTools => ascii "preparing_tools"
  | .executingTools => ascii "executing_tools"
  | .settlingTools => ascii "settling_tools"
  | .compacting => ascii "compacting"
  | .completing => ascii "completing"
  | .canceling => ascii "canceling"
  | .failed => ascii "failed"

/-- The phases a phase leads to, itself apart. -/
def RunPhase.successors : RunPhase → List RunPhase
  | .admitted => [.buildingContext, .canceling, .failed]
  | .buildingContext => [.awaitingProvider, .compacting, .canceling, .failed]
  | .awaitingProvider =>
    [.persistingAssistant, .preparingTools, .compacting, .completing, .canceling, .failed]
  | .persistingAssistant => [.preparingTools, .awaitingProvider, .completing, .canceling, .failed]
  | .preparingTools => [.executingTools, .canceling, .failed]
  | .executingTools => [.settlingTools, .canceling, .failed]
  | .settlingTools => [.awaitingProvider, .completing, .canceling, .failed]
  | .compacting => [.buildingContext, .awaitingProvider, .canceling, .failed]
  | .completing | .canceling | .failed => []

/-- `legal_transition`. -/
def legalTransition (source target : RunPhase) : Bool :=
  source == target || source.successors.contains target

/-- `StopReason`. -/
inductive StopReason where
  | completed | userCanceled | deadline | maxTurns | maxToolCalls | noProgress | providerError
  | toolError | persistenceError
deriving Repr, DecidableEq

/-- `to_string(StopReason)`. -/
def StopReason.toBytes : StopReason → Bytes
  | .completed => ascii "completed"
  | .userCanceled => ascii "user_canceled"
  | .deadline => ascii "deadline"
  | .maxTurns => ascii "max_turns"
  | .maxToolCalls => ascii "max_tool_calls"
  | .noProgress => ascii "no_progress"
  | .providerError => ascii "provider_error"
  | .toolError => ascii "tool_error"
  | .persistenceError => ascii "persistence_error"

/-- `RunOutcome`. -/
structure RunOutcome where
  runId : Bytes
  reason : StopReason := .completed
  error : Option Error := none
deriving Repr, DecidableEq

def invalidArgument (message : String) : Error :=
  { category := .invalidArgument, message := ascii message }

def transitionError (source target : RunPhase) : Error :=
  (invalidArgument "invalid run phase transition").withContext "from" source.toBytes
    |>.withContext "to" target.toBytes

def inactiveError : Error := invalidArgument "session has no active run"

def staleError : Error := invalidArgument "stale run route"

/-- `stop_requested_error`. -/
def stopRequestedError (reason : StopReason) : Error :=
  let e : Error :=
    if reason = .userCanceled then
      { category := .unknown, message := ascii "agent loop canceled", code := .canceled }
    else { category := .unknown, message := ascii "run stop requested" }
  e.withContext "stop_reason" reason.toBytes

def maintenanceReservationError (reason : String) : Error :=
  (invalidArgument "runtime session is reserved for exclusive maintenance").withContext
    "maintenance_conflict" (ascii reason)

def retiredAuthorityError : Error :=
  ({ category := .permissionDenied
     message := ascii "runtime session authority was retired" } : Error).withContext
    "recovery" (ascii "reopen the session before running or writing")

/-! ## §2. Tickets. -/

/-- `SessionAppendRequestKind`. -/
inductive RequestKind where
  | ordinary | branchSummary | compaction
deriving Repr, DecidableEq

def maxSessionAppendQueueEntries : Nat := 256
def maxSessionAppendQueueBytes : Nat := 4 * 1024 * 1024
def maxRetainedRunOutcomes : Nat := 64

/-- The largest `std::size_t`. -/
def maxSize : Nat := 2 ^ 64 - 1

/-- The loop of `entry_byte_count`. -/
def addSizes : Nat → List Nat → Result Nat
  | bytes, [] => .ok bytes
  | bytes, size :: sizes =>
    if maxSize - bytes < size then
      .error (invalidArgument "session append byte accounting overflow")
    else addSizes (bytes + size) sizes

/-- `entry_byte_count`. -/
def entryByteCount (e : SessionEntry) : Result Nat :=
  addSizes 32 [e.id.length, e.parentId.length, e.timestamp.length, e.dataJson.length]

/-- The loop of `batch_entry_byte_count`. -/
def addEntries : Nat → List SessionEntry → Result Nat
  | bytes, [] => .ok bytes
  | bytes, e :: entries =>
    match entryByteCount e with
    | .error error => .error error
    | .ok size =>
      if maxSize - bytes < size then
        .error (invalidArgument "session append batch byte accounting overflow")
      else addEntries (bytes + size) entries

/-- `batch_entry_byte_count`. -/
def batchEntryByteCount (entries : List SessionEntry) : Result Nat :=
  if entries.isEmpty then .error (invalidArgument "session append batch must not be empty")
  else addEntries 0 entries

/-- The arguments of `append_for_generation`; `none` is the owner route. -/
structure Request where
  entries : List SessionEntry
  expected : List SessionEntry := []
  kind : RequestKind := .ordinary
  route : Option Nat := none

/-- `AppendItem`.  `id` counts the tickets in the order they enter the queue; what becomes of a
    ticket is in the state, under its `id`. -/
structure Ticket where
  id : Nat
  bytes : Nat
  request : Request

def Ticket.isCompaction (t : Ticket) : Bool := t.request.kind == .compaction

/-- The result an item keeps for its caller. -/
inductive Written where
  | entries
  | branchSummary (result : SessionConditionalAppendResult)
  | compaction (result : SessionCompactionAppendResult)
deriving DecidableEq

/-- `AppendItem::Completion` with the item's failure or result. -/
inductive Completion where
  | pending
  | succeeded (written : Written)
  | rejected (failure : Error)
  | persistenceFailed (failure : Error)
  | closing
deriving DecidableEq

/-- What the append target did with a ticket. -/
inductive Reply where
  | ordinary (result : Result Unit)
  | branchSummary (outcome : ConditionalAppendOutcome SessionConditionalAppendResult)
  | compaction (outcome : ConditionalAppendOutcome SessionCompactionAppendResult)
  | threw (what : Option Bytes)

/-- The calls the kinds of tickets make.  Any of them may throw. -/
def Reply.fits : Reply → RequestKind → Bool
  | .ordinary _, .ordinary => true
  | .branchSummary _, .branchSummary => true
  | .compaction _, .compaction => true
  | .threw _, _ => true
  | _, _ => false

/-- `make_append_exception_fallback`. -/
def appendExceptionFallback : Error :=
  ({ category := .io
     message := ascii "session append threw an unexpected exception" } : Error).withContext
    "append_commit_state" (ascii "partial_or_unknown") |>.withContext
    "recovery" (ascii "run explicit session persistence recovery before any later append")

/-- `make_conditional_rejection_fallback`. -/
def conditionalRejectionFallback : Error :=
  { category := .unknown
    message := ascii "conditional branch summary was rejected before append" }

/-- What the driver makes of a reply: `failure`, `rejection` or neither. -/
inductive Verdict where
  | written (result : Written)
  | rejection (error : Error)
  | failure (error : Error)

/-- The catch blocks.  A failure whose text cannot be allocated is the one made in advance. -/
def exceptionVerdict (short : Bool) (what : Option Bytes) : Verdict :=
  match short, what with
  | false, some text =>
    .failure (({ category := .io
                 message := ascii "session append threw an unexpected exception" } : Error)
      |>.withContext "cause" text
      |>.withContext "append_commit_state" (ascii "partial_or_unknown")
      |>.withContext "recovery"
        (ascii "run explicit session persistence recovery before any later append"))
  | _, _ => .failure appendExceptionFallback

def failureVerdict (short : Bool) (error : Error) : Verdict :=
  .failure (if short then appendExceptionFallback else error)

/-- Both conditional appends. -/
def conditionalVerdict {α : Type} (short : Bool) (noResult noError : String) (keep : α → Written)
    (o : ConditionalAppendOutcome α) : Verdict :=
  match o.completion with
  | .succeeded =>
    match o.result with
    | none => exceptionVerdict short (some (ascii noResult))
    | some result => .written (keep result)
  | .rejectedBeforeAppend =>
    .rejection (if short then conditionalRejectionFallback
      else o.error.getD conditionalRejectionFallback)
  | .appendFailed =>
    failureVerdict short
      (o.error.getD { category := .unknown, message := ascii noError })

/-- The `try` of the driver.  `short` is an allocation that fails on the way to an error. -/
def Reply.verdict (short : Bool) : Reply → Verdict
  | .ordinary (.ok ()) => .written .entries
  | .ordinary (.error e) => failureVerdict short e
  | .branchSummary o =>
    conditionalVerdict short "successful conditional append has no result"
      "conditional branch summary append failed without a stable error" .branchSummary o
  | .compaction o =>
    conditionalVerdict short "successful conditional compaction append has no result"
      "conditional compaction append failed without a stable error" .compaction o
  | .threw what => exceptionVerdict short what

/-- What the caller of a completed ticket returns. -/
def Completion.result : Completion → Result Written
  | .succeeded written => .ok written
  | .rejected failure => .error failure
  | .persistenceFailed failure => .error failure
  | .closing => .error inactiveError
  | .pending => .error appendExceptionFallback

/-! ## §3. The state. -/

/-- `ActiveRunGuard::State`.  There is a stop source to each generation, and one before the first
    run.  `published` has the outcome cells that hold a value and `completed` the tickets that
    are not pending any more, both with the latest write first. -/
structure State where
  active : Bool := false
  maintenanceReserved : Bool := false
  authorityRetired : Bool := false
  closing : Bool := false
  shuttingDown : Bool := false
  generation : Nat := 0
  maintenanceGeneration : Nat := 0
  runId : Bytes := []
  phase : RunPhase := .admitted
  requestedStop : Option StopReason := none
  stopped : Nat → Bool := fun _ => false
  published : List (Nat × RunOutcome) := []
  outcomes : List (Bytes × RunOutcome) := []
  outcomeOrder : List Bytes := []
  persistenceFailure : Option Error := none
  persistenceFailureGeneration : Nat := 0
  appendTarget : Bool := true
  appends : List Ticket := []
  appendBytes : Nat := 0
  admitted : Nat := 0
  completed : List (Nat × Completion) := []
  /-- Tickets the target was called with. -/
  received : List Nat := []
  /-- Callers that have returned. -/
  returned : List (Nat × Completion) := []
  /-- Successful `request_stop` calls. -/
  asked : List (Nat × StopReason) := []
  /-- Generations in which an append failed for good. -/
  failures : List Nat := []
  /-- Generations that `shutdown` found active. -/
  cut : List Nat := []
  /-- Generations whose guard was released while a stop was recorded and not fired. -/
  hasty : List Nat := []
  /-- What `wait_outcome` returned to those that found a run. -/
  waits : List (Nat × RunOutcome) := []
  /-- The guard is in `complete` or `release`. -/
  guardBusy : Bool := false

namespace State

variable (s : State)

/-- `item->completion`. -/
def completionOf (n : Nat) : Completion := (s.completed.lookup n).getD .pending

/-! ## §4. Append sections. -/

/-- The admission of a ticket. -/
def submit (r : Request) (bytes : Nat) : Result State :=
  if s.authorityRetired then .error retiredAuthorityError
  else match s.persistenceFailure with
  | some failure => .error failure
  | none =>
    if s.maintenanceReserved then .error (maintenanceReservationError "owner_append_admission")
    else if s.shuttingDown ∨ s.appendTarget = false then .error inactiveError
    else if r.route.any (fun g => !s.active || s.closing || s.generation != g) then
      .error staleError
    else if maxSessionAppendQueueEntries ≤ s.appends.length then
      .error ((invalidArgument "session run queue limit exceeded").withContext "queue"
        (ascii "appends") |>.withContext "limit" (decimal maxSessionAppendQueueEntries))
    else if maxSessionAppendQueueBytes < bytes ∨ maxSessionAppendQueueBytes - bytes < s.appendBytes then
      .error ((invalidArgument "session run queue limit exceeded").withContext "queue"
        (ascii "append_bytes") |>.withContext "limit" (decimal maxSessionAppendQueueBytes))
    else if r.kind = .compaction ∧ s.appends.any Ticket.isCompaction then
      .error ((invalidArgument "session already has a pending compaction append").withContext
        "queue" (ascii "compaction") |>.withContext "recovery" (ascii
          "wait for the pending compaction append to resolve, then retry with a fresh authoritative snapshot"))
    else
      .ok { s with appends := s.appends ++ [⟨s.admitted, bytes, r⟩]
                   appendBytes := s.appendBytes + bytes, admitted := s.admitted + 1 }

/-- `pop_front` with the bytes and the completion of the ticket. -/
def pop (c : Completion) (s : State) (t : Ticket) : State :=
  { s with appends := s.appends.tail, appendBytes := s.appendBytes - t.bytes
           completed := (t.id, c) :: s.completed }

/-- `drain_locked`. -/
def drain (c : Completion) (s : State) : State := s.appends.foldl (pop c) s

/-- The deferred shutdown of every holder of the append mutex. -/
def closeDown : State :=
  if s.shuttingDown then
    { (if s.persistenceFailure.isSome then s else s.drain .closing) with appendTarget := false }
  else s

/-- A verdict on a ticket that is not in the queue any more. -/
def heldVerdict (head : Ticket) (v : Verdict) : Verdict :=
  match v with
  | .written result =>
    if s.appends.any (·.id == head.id) then .written result else .failure appendExceptionFallback
  | v => v

/-- Erasing the head from the queue. -/
def erase (head : Ticket) : State :=
  if s.appends.any (·.id == head.id) then
    { s with appends := s.appends.eraseP (·.id == head.id)
             appendBytes := s.appendBytes - head.bytes }
  else s

/-- Completing a ticket. -/
def finish (head : Ticket) (c : Completion) : State :=
  { s with completed := (head.id, c) :: s.completed }

/-- The latch. -/
def latch (failure : Error) : State :=
  { s with
    persistenceFailure := some failure
    persistenceFailureGeneration := s.persistenceFailureGeneration + 1
    requestedStop := if s.active then some .persistenceError else s.requestedStop
    failures := if s.active then s.generation :: s.failures else s.failures }

/-- The section after the target call. -/
def settle (head : Ticket) (v : Verdict) : State :=
  (match s.heldVerdict head v with
  | .failure e =>
    ((s.erase head).finish head (.persistenceFailed e)).latch e |>.drain (.persistenceFailed e)
  | .rejection e => (s.erase head).finish head (.rejected e)
  | .written result => (s.erase head).finish head (.succeeded result)).closeDown

/-- The stop source the driver fires after that section. -/
def settleStop (head : Ticket) (v : Verdict) : Option Nat :=
  match s.heldVerdict head v with
  | .failure _ => if s.active then some s.generation else none
  | _ => none

/-- `source.request_stop()`. -/
def fire : Option Nat → State
  | some source => { s with stopped := Function.update s.stopped source true }
  | none => s

/-! ## §5. Run sections. -/

/-- `admit`. -/
def admitRun (requestId : Bytes) : Result State :=
  if requestId.isEmpty then .error (invalidArgument "run request id is required")
  else if s.authorityRetired then .error retiredAuthorityError
  else if s.shuttingDown ∨ s.appendTarget = false then
    .error (invalidArgument "runtime session is closing")
  else match s.persistenceFailure with
  | some failure => .error failure
  | none =>
    if s.maintenanceReserved then .error (maintenanceReservationError "run_admission")
    else if s.active then
      .error ((invalidArgument "session already has an active run").withContext "active_run_id"
        s.runId |>.withContext "admission" (ascii (if requestId = s.runId then
          "join_existing_outcome" else "rejected_different_prompt")))
    else
      .ok { s with
        active := true, closing := false, generation := s.generation + 1, runId := requestId
        phase := .admitted, requestedStop := none
        stopped := Function.update s.stopped (s.generation + 1) false }

/-- `request_stop`: the state in which the request has won, if it has. -/
def requestStop (reason : StopReason) : Result (Option State) :=
  if s.authorityRetired then .error retiredAuthorityError
  else if s.active = false ∨ s.closing = true ∨ s.phase = .completing ∨ s.requestedStop.isSome then
    .ok none
  else .ok (some { s with requestedStop := some reason, asked := (s.generation, reason) :: s.asked })

/-- `ActiveRunGuard::transition` of the guard of a generation. -/
def transition (generation : Nat) (next : RunPhase) : Result State :=
  if s.active = false ∨ s.generation ≠ generation then .error staleError
  else match (if next = .completing then s.requestedStop else none) with
  | some reason => .error (stopRequestedError reason)
  | none =>
    if legalTransition s.phase next then .ok { s with phase := next }
    else .error (transitionError s.phase next)

/-- The outcome cell of a generation. -/
def outcomeOf (generation : Nat) : Option RunOutcome := s.published.lookup generation

/-- The phase of a run with this reason, `Completed` apart. -/
def stoppedPhase (reason : StopReason) : RunPhase :=
  if reason = .userCanceled ∨ reason = .deadline then .canceling else .failed

/-- The outcome `complete` works with: a run without an id gets the active one, and a stop request
    decides unless the run is completing already. -/
def proposedOutcome (outcome : RunOutcome) : RunOutcome :=
  let outcome := if outcome.runId.isEmpty then { outcome with runId := s.runId } else outcome
  match (if s.phase = .completing then none else s.requestedStop) with
  | some reason => { outcome with reason, error := none }
  | none => outcome

/-- `ActiveRunGuard::complete` before it waits. -/
def completeEnter (generation : Nat) (outcome : RunOutcome) : Result (State × RunOutcome) :=
  if s.active = false ∨ s.generation ≠ generation ∨ (s.outcomeOf generation).isSome then
    .error staleError
  else if (s.proposedOutcome outcome).runId ≠ s.runId then .error staleError
  else if (s.proposedOutcome outcome).reason = .completed then
    if s.phase ≠ .completing then .error (transitionError s.phase .completing)
    else .ok ({ s with closing := true, guardBusy := true }, s.proposedOutcome outcome)
  else
    .ok ({ s with closing := true, guardBusy := true
                  phase := stoppedPhase (s.proposedOutcome outcome).reason },
      s.proposedOutcome outcome)

/-- The reason `release` finds. -/
def releaseReason : StopReason :=
  if s.stopped s.generation then s.requestedStop.getD .userCanceled else .providerError

/-- `ActiveRunGuard::release` before it waits. -/
def releaseEnter : State × RunOutcome :=
  ({ s with
      closing := true, guardBusy := true, phase := stoppedPhase s.releaseReason
      hasty :=
        if s.requestedStop.isSome && !s.stopped s.generation then s.generation :: s.hasty
        else s.hasty },
    { runId := s.runId, reason := s.releaseReason
      error :=
        if s.releaseReason = .providerError then
          some { category := .unknown
                 message := ascii "active run guard released before terminal outcome" }
        else none })

/-- The outcome with the persistence failure in it. -/
def effectiveOutcome (outcome : RunOutcome) : RunOutcome :=
  match s.persistenceFailure with
  | some failure => { outcome with reason := .persistenceError, error := some failure }
  | none => outcome

/-- Both insertions into `outcomes` with the eviction of the oldest. -/
def retain (outcome : RunOutcome) : State :=
  let order :=
    if s.outcomes.any (·.1 == outcome.runId) then s.outcomeOrder
    else s.outcomeOrder ++ [outcome.runId]
  let outcomes := (outcome.runId, outcome) :: s.outcomes.filter (·.1 != outcome.runId)
  let evicted := order.take (order.length - maxRetainedRunOutcomes)
  { s with outcomes := outcomes.filter (fun p => !evicted.contains p.1)
           outcomeOrder := order.drop (order.length - maxRetainedRunOutcomes) }

/-- `complete` and `release` once the queue is empty. -/
def publish (outcome : RunOutcome) : State :=
  { s.retain (s.effectiveOutcome outcome) with
    published := (s.generation, s.effectiveOutcome outcome) :: s.published
    phase := if s.persistenceFailure.isSome then .failed else s.phase
    active := false, guardBusy := false }

/-! ## §6. Maintenance, recovery, shutdown. -/

/-- `reserve_maintenance` under both locks. -/
def reserveMaintenance : Result State :=
  if s.authorityRetired then .error retiredAuthorityError
  else if s.shuttingDown ∨ s.appendTarget = false then
    .error (maintenanceReservationError "closing")
  else match s.persistenceFailure with
  | some failure => .error failure
  | none =>
    if s.active then .error (maintenanceReservationError "active_run")
    else if s.maintenanceReserved then .error (maintenanceReservationError "already_reserved")
    else if s.appends.isEmpty = false then
      .error (maintenanceReservationError "append_queued_or_in_flight")
    else
      .ok { s with maintenanceReserved := true, maintenanceGeneration := s.maintenanceGeneration + 1 }

/-- `retire_authority` with a reservation of this generation. -/
def retireAuthority (reservation : Nat) : Result State :=
  if s.maintenanceReserved = false ∨ s.maintenanceGeneration ≠ reservation then
    .error (maintenanceReservationError "reservation_unavailable")
  else if s.active = true ∨ s.appends.isEmpty = false then
    .error (maintenanceReservationError "work_active")
  else .ok { s with authorityRetired := true, closing := true, appendTarget := false }

/-- `SessionMaintenanceReservation::release`. -/
def releaseReservation (reservation : Nat) : State :=
  if s.maintenanceReserved = true ∧ s.maintenanceGeneration = reservation then
    { s with maintenanceReserved := false }
  else s

/-- The first section of `reset_persistence_failure`: the generation of the failure. -/
def resetCheck : Result Nat :=
  if s.authorityRetired then .error retiredAuthorityError
  else if s.active = true ∨ s.maintenanceReserved = true ∨ s.appends.isEmpty = false then
    .error (invalidArgument "cannot recover append failure during active run or maintenance")
  else if s.shuttingDown ∨ s.appendTarget = false then
    .error (invalidArgument "cannot recover persistence for a closing runtime session")
  else if s.persistenceFailure.isNone then
    .error (invalidArgument "session has no latched persistence failure to recover")
  else .ok s.persistenceFailureGeneration

/-- Its second section, after a recovery. -/
def resetClear (failureGeneration : Nat) : Result State :=
  if s.active = true ∨ s.maintenanceReserved = true ∨ s.appends.isEmpty = false ∨
      s.shuttingDown = true ∨ s.appendTarget = false ∨ s.persistenceFailure.isNone ∨
      s.persistenceFailureGeneration ≠ failureGeneration then
    .error (invalidArgument
      "persistence recovery completed after runtime session authority changed")
  else .ok { s with persistenceFailure := none }

/-- The terminal drain of `shutdown`. -/
def shutdownDrain : State := { s.drain .closing with appendTarget := false }

/-- The last section of `reset_persistence_failure`. -/
def resetEnd : State := if s.shuttingDown then s.shutdownDrain else s

/-- The first section of `shutdown`. -/
def markShutdown : State :=
  if s.shuttingDown then s
  else
    { s with shuttingDown := true, closing := true, requestedStop := some .userCanceled
             cut := if s.active then s.generation :: s.cut else s.cut }

/-- The stop source `shutdown` fires. -/
def shutdownStop : Option Nat := if s.shuttingDown then none else some s.generation

/-! ## §7. What the append sections do to the queue. -/

variable {s : State}

/-- **DRAINING** takes one ticket after the other from the front. -/
theorem drain_induction {P : State → Prop} {c : Completion}
    (hpop : ∀ s t rest, s.appends = t :: rest → P s → P (s.pop c t)) (h : P s) :
    P (s.drain c) := by
  have hloop : ∀ (l : List Ticket) (s : State), s.appends = l → P s → P (l.foldl (pop c) s) := by
    intro l
    induction l with
    | nil =>
      intro s _ h
      exact h
    | cons t rest ih =>
      intro s hs h
      apply ih (s.pop c t)
      · show s.appends.tail = rest
        rw [hs]
        rfl
      · exact hpop s t rest hs h
  exact hloop s.appends s rfl h

theorem foldl_pop (c : Completion) (l : List Ticket) (s : State) :
    l.foldl (pop c) s =
      { s with appends := s.appends.drop l.length
               appendBytes := s.appendBytes - (l.map Ticket.bytes).sum
               completed := (l.map fun t => (t.id, c)).reverse ++ s.completed } := by
  induction l generalizing s with
  | nil => rfl
  | cons t rest ih =>
    rw [List.foldl_cons, ih]
    simp only [pop, List.drop_tail, List.length_cons, List.map_cons, List.sum_cons,
      List.reverse_cons, List.append_assoc, List.singleton_append, Nat.sub_sub]

theorem drain_eq (c : Completion) (s : State) :
    s.drain c =
      { s with appends := []
               appendBytes := s.appendBytes - (s.appends.map Ticket.bytes).sum
               completed := (s.appends.map fun t => (t.id, c)).reverse ++ s.completed } := by
  unfold drain
  rw [foldl_pop, List.drop_length]

variable {head : Ticket} {rest : List Ticket}

/-- The head is at the front, so erasing it and completing it is popping it. -/
theorem erase_finish_eq_pop (h : s.appends = head :: rest) (c : Completion) :
    (s.erase head).finish head c = s.pop c head := by
  have hany : s.appends.any (·.id == head.id) = true := by
    rw [h, List.any_cons, beq_self_eq_true, Bool.true_or]
  have herase : s.appends.eraseP (·.id == head.id) = s.appends.tail := by
    rw [h]
    exact List.eraseP_cons_of_pos (beq_self_eq_true head.id)
  simp only [erase, finish, pop, hany, if_true, herase]

theorem heldVerdict_of_head (h : s.appends = head :: rest) (v : Verdict) :
    s.heldVerdict head v = v := by
  have hany : s.appends.any (·.id == head.id) = true := by
    rw [h, List.any_cons, beq_self_eq_true, Bool.true_or]
  cases v with
  | written result => simp only [heldVerdict, hany, if_true]
  | rejection e | failure e => rfl

/-- What a verdict makes of the head, before a shutdown is looked for. -/
def settled (s : State) (head : Ticket) : Verdict → State
  | .failure e => ((s.pop (.persistenceFailed e) head).latch e).drain (.persistenceFailed e)
  | .rejection e => s.pop (.rejected e) head
  | .written result => s.pop (.succeeded result) head

theorem settle_of_head (h : s.appends = head :: rest) (v : Verdict) :
    s.settle head v = (s.settled head v).closeDown := by
  unfold settle
  rw [heldVerdict_of_head h]
  cases v with
  | written result | rejection e | failure e => simp only [settled, erase_finish_eq_pop h]

variable {s' : State}

/-- A ticket that was admitted: the checks it passed and the queue it entered. -/
theorem submit_eq_ok {r : Request} {bytes : Nat} (h : s.submit r bytes = .ok s') :
    s.persistenceFailure = none ∧ s.maintenanceReserved = false ∧
      (∀ g ∈ r.route, s.active = true ∧ s.closing = false ∧ s.generation = g) ∧
      (r.kind = .compaction → s.appends.any Ticket.isCompaction = false) ∧
      s' = { s with appends := s.appends ++ [⟨s.admitted, bytes, r⟩]
                    appendBytes := s.appendBytes + bytes, admitted := s.admitted + 1 } := by
  rw [submit, ite_error_eq_ok] at h
  obtain ⟨-, h⟩ := h
  split at h
  · cases h
  rename_i hfailure
  simp only [ite_error_eq_ok] at h
  obtain ⟨hreserved, -, hroute, -, -, hcompaction, h⟩ := h
  refine ⟨hfailure, Bool.eq_false_iff.mpr hreserved, ?_, ?_, (Except.ok.inj h).symm⟩
  · intro g hg
    rw [Option.mem_def] at hg
    simpa [hg, and_assoc] using hroute
  · intro hkind
    exact Bool.eq_false_iff.mpr fun hany => hcompaction ⟨hkind, hany⟩

/-! ## §8. What the other sections have found. -/

theorem admitRun_eq_ok {requestId : Bytes} (h : s.admitRun requestId = .ok s') :
    s.persistenceFailure = none ∧ s.maintenanceReserved = false ∧ s.active = false ∧
      s.shuttingDown = false ∧
      s' = { s with
        active := true, closing := false, generation := s.generation + 1, runId := requestId
        phase := .admitted, requestedStop := none
        stopped := Function.update s.stopped (s.generation + 1) false } := by
  simp only [admitRun, ite_error_eq_ok] at h
  obtain ⟨-, -, hopen, h⟩ := h
  split at h
  · cases h
  rename_i hfailure
  simp only [ite_error_eq_ok] at h
  obtain ⟨hreserved, hactive, h⟩ := h
  refine ⟨hfailure, Bool.eq_false_iff.mpr hreserved, Bool.eq_false_iff.mpr hactive, ?_,
    (Except.ok.inj h).symm⟩
  exact Bool.eq_false_iff.mpr fun hshut => hopen (.inl hshut)

theorem requestStop_eq_ok {reason : StopReason} (h : s.requestStop reason = .ok (some s')) :
    s.active = true ∧ s.closing = false ∧ s.phase ≠ .completing ∧ s.requestedStop = none ∧
      s' = { s with requestedStop := some reason, asked := (s.generation, reason) :: s.asked } := by
  unfold requestStop at h
  split at h
  · exact absurd h (by simp)
  split at h
  · exact absurd h (by simp)
  rename_i hwins
  simp only [not_or, Bool.not_eq_false, Bool.not_eq_true, Option.isSome_eq_false_iff,
    Option.isNone_iff_eq_none] at hwins
  obtain ⟨hactive, hclosing, hphase, hstop⟩ := hwins
  exact ⟨hactive, hclosing, hphase, hstop, (Option.some.inj (Except.ok.inj h)).symm⟩

theorem transition_eq_ok {generation : Nat} {next : RunPhase}
    (h : s.transition generation next = .ok s') :
    s.active = true ∧ (next = .completing → s.requestedStop = none) ∧
      legalTransition s.phase next = true ∧ s' = { s with phase := next } := by
  unfold transition at h
  split at h
  · exact absurd h (by simp)
  rename_i hcurrent
  split at h
  · exact absurd h (by simp)
  rename_i hstop
  split at h
  · rename_i hlegal
    refine ⟨?_, ?_, hlegal, (Except.ok.inj h).symm⟩
    · exact Bool.not_eq_false _ ▸ fun hinactive => hcurrent (.inl hinactive)
    · intro hnext
      rw [if_pos hnext] at hstop
      exact hstop
  · exact absurd h (by simp)

/-- A stop request decides, unless the run is completing already. -/
theorem proposedOutcome_reason {reason : StopReason} (hstop : s.requestedStop = some reason)
    (hphase : s.phase ≠ .completing) (outcome : RunOutcome) :
    (s.proposedOutcome outcome).reason = reason := by
  unfold proposedOutcome
  rw [if_neg hphase, hstop]

theorem completeEnter_eq_ok {generation : Nat} {outcome result : RunOutcome}
    (h : s.completeEnter generation outcome = .ok (s', result)) :
    s.active = true ∧ result = s.proposedOutcome outcome ∧
      ∃ phase, s' = { s with closing := true, guardBusy := true, phase } := by
  rw [completeEnter, ite_error_eq_ok] at h
  obtain ⟨hcurrent, h⟩ := h
  have hactive : s.active = true := by
    rw [← Bool.not_eq_false]
    exact fun hinactive => hcurrent (.inl hinactive)
  split at h
  · exact absurd h (by simp)
  split at h
  · split at h
    · exact absurd h (by simp)
    · obtain ⟨rfl, rfl⟩ := Prod.mk.inj (Except.ok.inj h)
      exact ⟨hactive, rfl, s.phase, rfl⟩
  · obtain ⟨rfl, rfl⟩ := Prod.mk.inj (Except.ok.inj h)
    exact ⟨hactive, rfl, _, rfl⟩

theorem reserveMaintenance_eq_ok (h : s.reserveMaintenance = .ok s') :
    s.active = false ∧ s.appends = [] ∧
      s' = { s with maintenanceReserved := true
                    maintenanceGeneration := s.maintenanceGeneration + 1 } := by
  simp only [reserveMaintenance, ite_error_eq_ok] at h
  obtain ⟨-, -, h⟩ := h
  split at h
  · cases h
  simp only [ite_error_eq_ok] at h
  obtain ⟨hactive, -, hempty, h⟩ := h
  refine ⟨Bool.eq_false_iff.mpr hactive, ?_, (Except.ok.inj h).symm⟩
  rw [Bool.not_eq_false, List.isEmpty_iff] at hempty
  exact hempty

theorem retireAuthority_eq_ok {reservation : Nat} (h : s.retireAuthority reservation = .ok s') :
    s.active = false ∧ s.appends = [] ∧
      s' = { s with authorityRetired := true, closing := true, appendTarget := false } := by
  simp only [retireAuthority, ite_error_eq_ok] at h
  obtain ⟨-, hidle, h⟩ := h
  simp only [not_or, Bool.not_eq_true, Bool.not_eq_false, List.isEmpty_iff] at hidle
  exact ⟨hidle.1, hidle.2, (Except.ok.inj h).symm⟩

theorem resetClear_eq_ok {failureGeneration : Nat} (h : s.resetClear failureGeneration = .ok s') :
    s.active = false ∧ s' = { s with persistenceFailure := none } := by
  rw [resetClear, ite_error_eq_ok] at h
  obtain ⟨hidle, h⟩ := h
  simp only [not_or, Bool.not_eq_true] at hidle
  exact ⟨hidle.1, (Except.ok.inj h).symm⟩

end State

end Ava.App
