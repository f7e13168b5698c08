/-
  Ava.Agent.ToolScheduler
  **RUNNING A SCHEDULE OF TOOL CALLS** (`agent/tool_scheduler.cpp`).

  The sequential scheduler runs one slot after the other and stops at the first failure.  The
  parallel one cuts the schedule into epochs of slots that may overlap and runs each epoch on
  worker threads: the main thread launches workers in provider order, a worker stores its result
  and lowers the mark behind which nothing is wanted any more, and the main thread stops the
  workers behind the mark, takes away the finished ones and sleeps.

  The epoch is modelled at the grain of its shared accesses.  The mark, the completion counter
  and the cancellation flag are read without the mutex, so a main thread may see any of them in
  the middle of a worker's section.

    - §1 slots; §2 the sequential scheduler; §3 an epoch; §4 workers; §5 the main thread;
    - §6 the parallel scheduler.
-/
import Ava.Core.Prelude
import Mathlib.Logic.Function.Basic

namespace Ava.Agent.Scheduler

open Ava.Core Function

/-! ## §1. Slots. -/

inductive ToolScheduleEligibility where
  | readOnlyCandidate | barrier | deferred
deriving Repr, DecidableEq

inductive ToolScheduleParallelReadiness where
  | sequentialOnly | preflightProvenNonInteractive
deriving Repr, DecidableEq

structure ToolScheduleClassification where
  eligibility : ToolScheduleEligibility := .deferred
  reason : Bytes := ascii "unknown_tool"
deriving Repr, DecidableEq

structure ProviderToolCall where
  id : Bytes
  name : Bytes
  argumentsJson : Bytes
deriving Repr, DecidableEq

structure ToolScheduleSlot where
  providerIndex : Nat := 0
  call : ProviderToolCall
  classification : ToolScheduleClassification := {}
  parallelReadiness : ToolScheduleParallelReadiness := .sequentialOnly
deriving Repr, DecidableEq

/-- `ToolScheduleOutcome`; what a tool answers is a parameter. -/
structure ToolScheduleOutcome (β : Type) where
  slot : ToolScheduleSlot
  result : β
deriving Repr, DecidableEq

/-- `can_run_in_parallel_epoch`. -/
def canRunInParallelEpoch (slot : ToolScheduleSlot) : Bool :=
  slot.classification.eligibility == .readOnlyCandidate &&
    slot.parallelReadiness == .preflightProvenNonInteractive

/-! ## §2. The sequential scheduler. -/

/-- How a call of the executor ends. -/
inductive Execution (β : Type) where
  | returned (result : Result β)
  | threw (cause : Bytes)
  | threwUnknown

/-- An executor whose answer depends on the slot alone. -/
abbrev Executor (β : Type) := ToolScheduleSlot → Execution β

/-- `scheduler_canceled_error`. -/
def schedulerCanceledError (phase : String) : Error :=
  (({ category := .unknown, message := ascii "tool schedule canceled", code := .canceled } :
    Error).withContext "canceled" (ascii "true")).withContext "phase" (ascii phase)

/-- `worker_exception_error`. -/
def workerExceptionError (slot : ToolScheduleSlot) (cause : Bytes) : Error :=
  (((({ category := .tool, message := ascii "tool schedule executor threw" } :
    Error).withContext "tool" slot.call.name).withContext "call_id" slot.call.id).withContext
      "provider_index" (decimal slot.providerIndex)).withContext "cause" cause

/-- The refusals both schedulers start with. -/
def executorRequired : Error :=
  { category := .invalidArgument, message := ascii "tool schedule executor is required" }

def maxWorkersRequired : Error :=
  { category := .invalidArgument
    message := ascii "tool schedule max_workers must be greater than zero" }

section

variable {β : Type}

/-- `execute_guarded_worker`. -/
def executeGuardedWorker (executor : Executor β) (slot : ToolScheduleSlot) : Result β :=
  match executor slot with
  | .returned result => result
  | .threw cause => .error (workerExceptionError slot cause)
  | .threwUnknown => .error (workerExceptionError slot (ascii "unknown exception"))

/-- The loop of `run_sequential_tool_schedule`. -/
def sequentialLoop (executor : Executor β) :
    List (ToolScheduleOutcome β) → List ToolScheduleSlot → Result (List (ToolScheduleOutcome β))
  | outcomes, [] => .ok outcomes
  | outcomes, slot :: rest =>
    match executeGuardedWorker executor slot with
    | .error e => .error e
    | .ok result => sequentialLoop executor (outcomes ++ [{ slot, result }]) rest

/-- `run_sequential_tool_schedule`. -/
def runSequentialToolSchedule (executor : Option (Executor β)) (schedule : List ToolScheduleSlot) :
    Result (List (ToolScheduleOutcome β)) :=
  match executor with
  | none => .error executorRequired
  | some executor => sequentialLoop executor [] schedule

end

/-! ## §3. An epoch. -/

/-- Where a worker is.  From `stored` until `unlocked` it holds the mutex. -/
inductive Worker (β : Type) where
  | unborn
  | started
  | running
  | finishing (result : Result β)
  | stored (failed : Bool)
  | lowered
  | unlocked
  | gone

/-- The two passes of one round over the active workers. -/
inductive Pass where
  | first | second
deriving Repr, DecidableEq

/-- Whom a pass of stop requests is for: everybody, or the workers behind a mark. -/
inductive StopKind where
  | everybody
  | behind (mark : Option Nat)
deriving Repr, DecidableEq

/-- What follows a pass of stop requests. -/
inductive Afterwards where
  | canceled | round (pass : Pass) | failed | left
deriving Repr, DecidableEq

/-- Where the main thread is. -/
inductive Main where
  | head
  | retire (pass : Pass) (todo kept : List Nat)
  | pollStop
  | pollCancel
  | loadMark (pass : Pass)
  | stopping (kind : StopKind) (todo : List Nat) (afterwards : Afterwards)
  | launch
  | spawn
  | check
  | relaunch
  | idleCheck
  | enter
  | asleep (observedCompleted : Nat) (observedStopAfter : Option Nat)
  | awake (observedCompleted : Nat) (observedStopAfter : Option Nat)
  | leaving
  | joining
  | exited
deriving Repr, DecidableEq

/-- `ParallelEpochState`, the locals of `run_parallel_epoch` and the threads.  A mark that is
    `none` is the largest `size_t`. -/
structure Epoch (β : Type) where
  results : Nat → Option (Result β) := fun _ => none
  completed : Nat := 0
  stopAfter : Option Nat := none
  cancelRequested : Bool := false
  lock : Option Nat := none
  worker : Nat → Worker β := fun _ => .unborn
  stop : Nat → Bool := fun _ => false
  active : List Nat := []
  nextToLaunch : Nat := 0
  launchError : Option Error := none
  main : Main := .head

/-- `offset <= stop_after`. -/
def wanted : Option Nat → Nat → Bool
  | none, _ => true
  | some mark, offset => offset ≤ mark

/-- Whether a pass of stop requests is for the worker. -/
def StopKind.isFor : StopKind → Nat → Bool
  | .everybody, _ => true
  | .behind mark, offset => !wanted mark offset

/-- The new `stop_after` when `offset` fails. -/
def lowerMark : Option Nat → Nat → Option Nat
  | none, offset => some offset
  | some mark, offset => some (min offset mark)

namespace Epoch

variable {β : Type} (e : Epoch β)

def goto (main : Main) : Epoch β := { e with main }

/-- The epoch with the worker `k` somewhere else. -/
def move (k : Nat) (place : Worker β) : Epoch β :=
  { e with worker := update e.worker k place }

/-- Whether the cut-offs let the next slot start. -/
def mayLaunch (size : Nat) : Bool :=
  !e.cancelRequested && decide (e.nextToLaunch < size) && wanted e.stopAfter e.nextToLaunch

/-- Whether the next slot starts now. -/
def canLaunch (maxWorkers size : Nat) : Bool :=
  e.mayLaunch size && decide (e.active.length < maxWorkers)

/-- The predicate of the wait. -/
def wakes (observedCompleted : Nat) (observedStopAfter : Option Nat) : Bool :=
  e.completed != observedCompleted || e.stopAfter != observedStopAfter || e.cancelRequested ||
    e.active.any fun offset => (e.results offset).isSome

/-- `changed.notify_all()`: the main thread is the only one that waits. -/
def notify : Epoch β :=
  match e.main with
  | .asleep completed mark => e.goto (.awake completed mark)
  | _ => e

/-- `failed to start tool schedule worker`. -/
def launchFailure (slot : ToolScheduleSlot) (cause : Bytes) : Error :=
  (({ category := .unknown, message := ascii "failed to start tool schedule worker" } :
    Error).withContext "provider_index" (decimal slot.providerIndex)).withContext "cause" cause

end Epoch

/-- The loop of `collect_epoch_outcomes`. -/
def collectFrom {β : Type} (results : Nat → Option (Result β)) : Nat → List ToolScheduleSlot →
    List (ToolScheduleOutcome β) → Result (List (ToolScheduleOutcome β))
  | _, [], outcomes => .ok outcomes
  | offset, slot :: rest, outcomes =>
    match results offset with
    | none => .error (schedulerCanceledError "parallel_epoch")
    | some (.error e) => .error e
    | some (.ok result) => collectFrom results (offset + 1) rest (outcomes ++ [{ slot, result }])

/-- `collect_epoch_outcomes`. -/
def collectEpochOutcomes {β : Type} (slots : List ToolScheduleSlot)
    (results : Nat → Option (Result β)) : Result (List (ToolScheduleOutcome β)) :=
  collectFrom results 0 slots []

/-- What `run_parallel_epoch` returns once its threads are joined. -/
def Epoch.answer {β : Type} (e : Epoch β) (external : Bool) (slots : List ToolScheduleSlot) :
    Result (List (ToolScheduleOutcome β)) :=
  match e.launchError with
  | some error => .error error
  | none =>
    if e.cancelRequested || external then .error (schedulerCanceledError "parallel_epoch")
    else collectEpochOutcomes slots e.results

/-! ## §4. Workers. -/

def Worker.isGone {β : Type} : Worker β → Bool
  | .gone => true
  | _ => false

/-- A step of the worker `k`, if it can take one: it looks at its stop token, runs the tool,
    stores the result under the mutex, lowers the mark if it failed, counts itself and
    notifies. -/
def workerStep {β : Type} (executor : Executor β) (slots : List ToolScheduleSlot) (k : Nat)
    (e : Epoch β) : Option (Epoch β) :=
  match e.worker k with
  | .unborn | .gone => none
  | .started =>
    -- `execute_parallel_worker` refuses a worker that was stopped before it began.
    if e.stop k then some (e.move k (.finishing (.error (schedulerCanceledError "worker_start"))))
    else some (e.move k .running)
  | .running =>
    (slots[k]?).map fun slot => e.move k (.finishing (executeGuardedWorker executor slot))
  | .finishing result =>
    if e.lock = none then
      some { e.move k (.stored (!result.isOk)) with
        lock := some k, results := update e.results k (some result) }
    else none
  | .stored failed =>
    some { e.move k .lowered with
      stopAfter := if failed then lowerMark e.stopAfter k else e.stopAfter }
  | .lowered => some { e.move k .unlocked with lock := none, completed := e.completed + 1 }
  | .unlocked => some (e.move k .gone).notify

/-! ## §5. The main thread. -/

/-- Where a pass over the active workers leads. -/
def Pass.next : Pass → Main
  | .first => .pollStop
  | .second => .loadMark .second

def Afterwards.next : Afterwards → Main
  | .canceled => .loadMark .first
  | .round .first => .launch
  | .round .second => .check
  | .failed => .leaving
  | .left => .joining

/-- A step of the main thread in `run_parallel_epoch`, if it can take one. -/
def mainStep {β : Type} (maxWorkers size : Nat) (external : Bool) (e : Epoch β) :
    Option (Epoch β) :=
  match e.main with
  | .head => some (e.goto (if e.completed < size then .retire .first e.active [] else .leaving))
  | .retire pass [] kept => some { e with active := kept, main := pass.next }
  | .retire pass (k :: todo) kept =>
    -- `retire_completed_workers` takes the mutex for each worker, and joins what it takes away.
    if e.lock ≠ none then none
    else if (e.results k).isNone then some (e.goto (.retire pass todo (kept ++ [k])))
    else if (e.worker k).isGone then some (e.goto (.retire pass todo kept))
    else none
  | .pollStop =>
    if external then
      if e.lock = none then some { e with cancelRequested := true, main := .pollCancel } else none
    else some (e.goto .pollCancel)
  | .pollCancel =>
    some (e.goto (if e.cancelRequested then .stopping .everybody e.active .canceled
      else .loadMark .first))
  | .loadMark pass => some (e.goto (.stopping (.behind e.stopAfter) e.active (.round pass)))
  | .stopping _ [] afterwards => some (e.goto afterwards.next)
  | .stopping kind (k :: todo) afterwards =>
    some { e with
      stop := if kind.isFor k then update e.stop k true else e.stop
      main := .stopping kind todo afterwards }
  | .launch =>
    some (e.goto (if e.canLaunch maxWorkers size then .spawn else .retire .second e.active []))
  | .spawn =>
    some { e.move e.nextToLaunch .started with
      active := e.active ++ [e.nextToLaunch], nextToLaunch := e.nextToLaunch + 1
      main := .launch }
  | .check => some (e.goto (if size ≤ e.completed then .leaving else .relaunch))
  | .relaunch => some (e.goto (if e.canLaunch maxWorkers size then .head else .idleCheck))
  | .idleCheck =>
    some (e.goto (if e.active ≠ [] then .enter
      else if e.mayLaunch size then .head else .leaving))
  | .enter =>
    -- The wait takes the mutex, looks at the state and sleeps if there is nothing new.
    if e.lock = none then
      some (e.goto (if e.wakes e.completed e.stopAfter then .head
        else .asleep e.completed e.stopAfter))
    else none
  | .asleep _ _ => none
  | .awake completed mark =>
    if e.lock = none then
      some (e.goto (if e.wakes completed mark then .head else .asleep completed mark))
    else none
  | .leaving => some (e.goto (.stopping .everybody e.active .left))
  | .joining =>
    if e.active.all fun k => (e.worker k).isGone then some { e with active := [], main := .exited }
    else none
  | .exited => none

/-- A spurious wake-up that finds something new.  One that finds nothing changes nothing. -/
def spuriousStep {β : Type} (e : Epoch β) : Option (Epoch β) :=
  match e.main with
  | .asleep completed mark =>
    if e.lock = none ∧ e.wakes completed mark = true then some (e.goto .head) else none
  | _ => none

/-! ## §6. The parallel scheduler. -/

/-- Where `run_parallel_tool_schedule` is: between two slots, in an epoch, or done. -/
inductive Phase (β : Type) where
  | between (outcomes : List (ToolScheduleOutcome β)) (rest : List ToolScheduleSlot)
  | epoch (outcomes : List (ToolScheduleOutcome β)) (slots rest : List ToolScheduleSlot)
      (e : Epoch β)
  | returned (answer : Result (List (ToolScheduleOutcome β)))

/-- The stop token of the options, and where the call is. -/
structure World (β : Type) where
  external : Bool := false
  phase : Phase β

section

variable {β : Type}

/-- The start of `run_parallel_tool_schedule`. -/
def started (executor : Option (Executor β)) (maxWorkers : Nat) (schedule : List ToolScheduleSlot) :
    World β :=
  { phase :=
      if executor.isNone then .returned (.error executorRequired)
      else if maxWorkers = 0 then .returned (.error maxWorkersRequired)
      else .between [] schedule }

def World.goto (w : World β) (phase : Phase β) : World β := { w with phase }

/-- What the loop does between two slots. -/
def advance (executor : Executor β) (external : Bool) (outcomes : List (ToolScheduleOutcome β)) :
    List ToolScheduleSlot → Phase β
  | [] => .returned (.ok outcomes)
  | slot :: rest =>
    if external then .returned (.error (schedulerCanceledError "before_slot"))
    else if canRunInParallelEpoch slot then
      .epoch outcomes (slot :: rest.takeWhile canRunInParallelEpoch)
        (rest.dropWhile canRunInParallelEpoch) {}
    else
      match executeGuardedWorker executor slot with
      | .error e => .returned (.error e)
      | .ok result => .between (outcomes ++ [{ slot, result }]) rest

/-- What the loop does with the answer of an epoch. -/
def resume (outcomes : List (ToolScheduleOutcome β)) (rest : List ToolScheduleSlot) :
    Result (List (ToolScheduleOutcome β)) → Phase β
  | .error e => .returned (.error e)
  | .ok more => .between (outcomes ++ more) rest

variable (executor : Executor β) (maxWorkers : Nat)

/-- A step of the program. -/
inductive Step : World β → World β → Prop
  | advance (w : World β) (outcomes : List (ToolScheduleOutcome β)) (rest : List ToolScheduleSlot)
      (hphase : w.phase = .between outcomes rest) :
      Step w (w.goto (advance executor w.external outcomes rest))
  | main (w : World β) (outcomes : List (ToolScheduleOutcome β)) (slots rest : List ToolScheduleSlot)
      (e e' : Epoch β) (hphase : w.phase = .epoch outcomes slots rest e)
      (hstep : mainStep maxWorkers slots.length w.external e = some e') :
      Step w (w.goto (.epoch outcomes slots rest e'))
  | worker (w : World β) (outcomes : List (ToolScheduleOutcome β))
      (slots rest : List ToolScheduleSlot) (e e' : Epoch β) (k : Nat)
      (hphase : w.phase = .epoch outcomes slots rest e)
      (hstep : workerStep executor slots k e = some e') :
      Step w (w.goto (.epoch outcomes slots rest e'))
  | resume (w : World β) (outcomes : List (ToolScheduleOutcome β))
      (slots rest : List ToolScheduleSlot) (e : Epoch β)
      (hphase : w.phase = .epoch outcomes slots rest e) (hexited : e.main = .exited) :
      Step w (w.goto (resume outcomes rest (e.answer w.external slots)))

/-- A step that the program does not control. -/
inductive Disturbance : World β → World β → Prop
  | spurious (w : World β) (outcomes : List (ToolScheduleOutcome β))
      (slots rest : List ToolScheduleSlot) (e e' : Epoch β)
      (hphase : w.phase = .epoch outcomes slots rest e) (hstep : spuriousStep e = some e') :
      Disturbance w (w.goto (.epoch outcomes slots rest e'))

/-- A fault: the caller asks to stop, or a thread cannot be started. -/
inductive Fault : World β → World β → Prop
  | stop (w : World β) : Fault w { w with external := true }
  /-- The stop callback takes the mutex, sets the flag and notifies. -/
  | callback (w : World β) (outcomes : List (ToolScheduleOutcome β))
      (slots rest : List ToolScheduleSlot) (e : Epoch β)
      (hphase : w.phase = .epoch outcomes slots rest e) (hstop : w.external = true)
      (hfree : e.lock = none) :
      Fault w (w.goto (.epoch outcomes slots rest (Epoch.notify { e with cancelRequested := true })))
  | launch (w : World β) (outcomes : List (ToolScheduleOutcome β))
      (slots rest : List ToolScheduleSlot) (e : Epoch β) (slot : ToolScheduleSlot) (cause : Bytes)
      (hphase : w.phase = .epoch outcomes slots rest e) (hplace : e.main = .spawn)
      (hslot : slots[e.nextToLaunch]? = some slot) :
      Fault w (w.goto (.epoch outcomes slots rest { e with
        launchError := some (Epoch.launchFailure slot cause)
        main := .stopping .everybody e.active .failed }))

end

end Ava.Agent.Scheduler
