/-
  Ava.App.SubagentDelivery
  **THE DELIVERY OF A SUBAGENT'S RESULT** (`app/subagent_delivery_manager.cpp`).

  One worker thread takes queued jobs and calls `deliver`.  A call looks the job up, reads the
  parent's history for a turn an earlier attempt already committed, and only then records a new
  attempt and runs the parent once more, with a prompt that no user wrote.  It can fail after
  every step, and what failed is queued again.

  Whether an attempt has come through is never stored: it is read off the history by the
  delivery id and the fingerprint of the prompt.  That works because the prompt is a function of
  a result that is written once.

    - §1 prompts; §2 looking for a committed turn; §3 the coordinator's calls; §4 steps.
-/
import Ava.Agent.SubagentResult
import Ava.Lib.LogWindow
import Ava.Lib.Transition
import Ava.Session.AssistantOutput
import Ava.Session.Provenance

namespace Ava.App.Delivery

open Ava.Core Ava.Core.Json Ava.Lib Ava.Session Ava.Agent

/-! ## §1. Prompts. -/

/-- `content_fingerprint`. -/
def contentFingerprint (text : Bytes) : UInt64 :=
  text.foldl (fun fingerprint c => (fingerprint ^^^ c.toUInt64) * 1099511628211)
    14695981039346656037

/-- `prompt_fingerprint`: sixteen hexadecimal digits. -/
def promptFingerprint (prompt : Bytes) : Bytes :=
  (List.range 16).reverse.map fun k => hexDigit ((contentFingerprint prompt).toNat / 16 ^ k % 16)

/-- `to_string(SubagentExecutionState)`. -/
def executionText : SubagentExecutionState → Bytes
  | .starting => ascii "starting"
  | .running => ascii "running"
  | .completed => ascii "completed"
  | .failed => ascii "failed"
  | .canceled => ascii "canceled"
  | .interrupted => ascii "interrupted"

def boolText (b : Bool) : Bytes := if b then ascii "true" else ascii "false"

/-- `delivery_marker`. -/
def deliveryMarker (deliveryId : Bytes) : Bytes :=
  ascii "[AVA_SUBAGENT_DELIVERY_V1 delivery_id=" ++ deliveryId ++ ascii "]"

/-- `delivery_prompt`. -/
def deliveryPrompt (j : SubagentJob) : Bytes :=
  deliveryMarker j.state.deliveryId ++
  ascii "\nAutomatic subagent completion delivery. Integrate this result into the parent conversation exactly once. " ++
  ascii "If this delivery marker already appears earlier, do not duplicate work; briefly acknowledge the existing integration.\n" ++
  ascii "delivery_id: " ++ j.state.deliveryId ++
  ascii "\njob_id: " ++ j.state.jobId ++
  ascii "\ntask_id: " ++ j.report.taskId ++
  ascii "\nchild_session_id: " ++ j.report.childSessionId ++
  ascii "\nstate: " ++ executionText j.state.execution ++
  ascii "\nsummary_truncated: " ++ boolText j.report.summaryTruncated ++
  ascii "\nerror_truncated: " ++ boolText j.report.errorTruncated ++
  ascii "\nstop_reason_truncated: " ++ boolText j.report.stopReasonTruncated ++
  ascii "\nprovider_iterations: " ++ decimal j.report.providerIterations ++
  ascii "\ntool_calls: " ++ decimal j.report.toolCalls ++
  ascii "\ntool_iterations: " ++ decimal j.report.toolIterations ++
  if j.state.execution = .completed then
    ascii "\ncompleted_summary:\n" ++
      j.report.summary.getD (ascii "(completed without a summary)")
  else
    ascii "\nstatus: The child did not complete successfully. Refer to child session " ++
      j.report.childSessionId ++
      ascii " for the canonical explicit result; no raw provider or tool error is included in this delivery."

/-- The fingerprint `deliver` works with. -/
def fingerprint (j : SubagentJob) : Bytes := promptFingerprint (deliveryPrompt j)

/-- The fingerprint of the last recorded attempt. -/
def lastFingerprint (j : SubagentJob) : Bytes :=
  match j.state.deliveryAttemptHistory.getLast? with
  | some attempt => attempt.promptFingerprint
  | none => []

/-! ## §2. Looking for a committed turn. -/

section

variable (sax : SaxParser)

/-- Whether an entry is the user message of an attempt with this fingerprint. -/
def isDeliveryMessage (deliveryId promptFingerprint : Bytes) (entry : SessionEntry) : Bool :=
  match parseSyntheticDeliveryProvenance sax entry with
  | .ok (some provenance) =>
    entry.type == .userMessage && provenance.source == syntheticSubagentDeliverySource &&
      provenance.deliveryId == deliveryId && provenance.promptFingerprint == promptFingerprint
  | _ => false

/-- Whether an entry is a function call of the turn. -/
def isFunctionCallOf (assistantTurnId : Bytes) (entry : SessionEntry) : Bool :=
  entry.type == .assistantOutputItem &&
    match parseAssistantOutputItem entry with
    | .ok { assistantTurnId := turn, payload := .functionCall _, .. } => turn == assistantTurnId
    | _ => false

/-- Whether an entry commits a turn that calls no function; `since` is what stands between it
    and the user message. -/
def commitsAnswer (since : List SessionEntry) (entry : SessionEntry) : Bool :=
  entry.type == .assistantTurnCommit &&
    match parseAssistantTurnCommit entry with
    | .ok commit =>
      commit.finishReason != ascii "tool_calls" &&
        !since.any (isFunctionCallOf commit.assistantTurnId)
    | .error _ => false

/-- The inner loop of `committed_delivery_turn`. -/
def committedAfter : List SessionEntry → List SessionEntry → Option Bytes
  | _, [] => none
  | since, entry :: rest =>
    if isPrompt entry then none
    else if commitsAnswer since entry then some entry.id
    else committedAfter (since ++ [entry]) rest

/-- `committed_delivery_turn`. -/
def committedDeliveryTurn (deliveryId promptFingerprint : Bytes) :
    List SessionEntry → Option Bytes
  | [] => none
  | entry :: rest =>
    if isDeliveryMessage sax deliveryId promptFingerprint entry then
      match committedAfter [] rest with
      | some turn => some turn
      | none => committedDeliveryTurn deliveryId promptFingerprint rest
    else committedDeliveryTurn deliveryId promptFingerprint rest

end

/-! ## §3. The coordinator's calls. -/

/-- Where the worker is in `deliver`. -/
inductive Place where
  | idle
  /-- The job is looked up and waits for its delivery. -/
  | loading (snapshot : SubagentJob)
  | acknowledging (snapshot : SubagentJob) (attemptId committedTurnId : Bytes)
  | exhausting (snapshot : SubagentJob) (attemptId : Bytes)
  /-- No committed turn was found; the parent is awaited, no attempt is recorded yet. -/
  | preparing (snapshot : SubagentJob)
  /-- The attempt is recorded; admission and the provider bundle are still to come. -/
  | recorded (snapshot : SubagentJob) (attemptId : Bytes)
  /-- `run_admitted_prompt`, after its user message. -/
  | running (snapshot : SubagentJob) (attemptId : Bytes)
deriving Repr, DecidableEq

/-- The job, whether the coordinator still has it, the parent's history and the worker. -/
structure World where
  job : SubagentJob
  present : Bool
  history : List SessionEntry
  place : Place
deriving Repr, DecidableEq

namespace World

/-- `find_owned_locked`. -/
def findOwned (w : World) (parentSessionId jobId : Bytes) : Result SubagentJob :=
  if w.present ∧ w.job.state.published ∧ w.job.state.jobId = jobId ∧
      w.job.state.parentSessionId = parentSessionId then .ok w.job
  else .error (notFound jobId)

/-- `record_delivery_attempt`. -/
def recordDeliveryAttempt (w : World) (parentSessionId jobId : Bytes) (attempt : DeliveryAttempt) :
    Result World := do
  validateIdentifier "attempt_id" attempt.attemptId jobId
  validateIdentifier "prompt_fingerprint" attempt.promptFingerprint jobId
  let job ← w.findOwned parentSessionId jobId
  let state ← job.state.recordDeliveryAttempt attempt
  return { w with job := { job with state } }

/-- `acknowledge_delivery`. -/
def acknowledgeDelivery (w : World) (parentSessionId jobId attemptId committedTurnId : Bytes) :
    Result World := do
  validateIdentifier "attempt_id" attemptId jobId
  validateIdentifier "committed_turn_id" committedTurnId jobId
  let job ← w.findOwned parentSessionId jobId
  let state ← job.state.acknowledgeDelivery attemptId committedTurnId
  return { w with job := { job with state } }

/-- `exhaust_delivery`. -/
def exhaustDelivery (w : World) (parentSessionId jobId attemptId : Bytes) : Result World := do
  validateIdentifier "attempt_id" attemptId jobId
  let job ← w.findOwned parentSessionId jobId
  let state ← job.state.exhaustDelivery attemptId
  return { w with job := { job with state } }

/-- The start of `deliver`: the queued snapshot is replaced by the current one if there is
    one. -/
def called (w : World) (queued : SubagentJob) : Place :=
  let snapshot := match w.findOwned queued.state.parentSessionId queued.state.jobId with
    | .ok current => current
    | .error _ => queued
  if snapshot.state.delivery.isPending then .loading snapshot else .idle

end World

/-- What `deliver` does next once it has the history. -/
def decided (sax : SaxParser) (maxDeliveryAttempts : Nat) (history : List SessionEntry)
    (snapshot : SubagentJob) : Place :=
  match committedDeliveryTurn sax snapshot.state.deliveryId (lastFingerprint snapshot) history,
      snapshot.state.deliveryAttemptHistory.getLast? with
  | some turn, some attempt => .acknowledging snapshot attempt.attemptId turn
  | some _, none => .idle
  | none, latest =>
    if maxDeliveryAttempts ≤ snapshot.state.deliveryAttempts then
      match latest with
      | some attempt => .exhausting snapshot attempt.attemptId
      | none => .idle
    else .preparing snapshot

/-! ## §4. Steps. -/

/-- A turn that a user message of the delivery gets: its commit calls no function. -/
def CommitsAnswer (since : List SessionEntry) (entry : SessionEntry) : Prop :=
  entry.type = .assistantTurnCommit ∧
    ∃ commit, parseAssistantTurnCommit entry = .ok commit ∧
      commit.finishReason ≠ ascii "tool_calls" ∧
      ∀ x ∈ since, isFunctionCallOf commit.assistantTurnId x = false

/-- **INTEGRATIONS OF A DELIVERY**: the synthetic user messages of the delivery id ask, every
    user message that is no internal replay closes, and a committed turn without function calls
    answers. -/
def integration (sax : SaxParser) (deliveryId : Bytes) : Dialogue SessionEntry where
  asks entry := ∃ provenance, parseSyntheticDeliveryProvenance sax entry = .ok (some provenance) ∧
    provenance.deliveryId = deliveryId
  closes entry := isPrompt entry = true
  answers := CommitsAnswer

namespace World

variable (w : World)

/-- The integrations the parent's history is about. -/
def dialogue (sax : SaxParser) : Dialogue SessionEntry := integration sax w.job.state.deliveryId

/-- The history with one more entry. -/
def append (entry : SessionEntry) : World := { w with history := w.history ++ [entry] }

def goto (place : Place) : World := { w with place }

end World

/-- A snapshot in the queue: only snapshots of a published job are ever queued, by the terminal
    notification, by `pending_deliveries` and by `deliver` itself. -/
structure Queued (w : World) (queued : SubagentJob) : Prop where
  published : w.job.state.published = true
  jobId : w.job.state.jobId = queued.state.jobId
  parentSessionId : w.job.state.parentSessionId = queued.state.parentSessionId

/-- One step of `deliver`, of the job, or of somebody else. -/
inductive Step (sax : SaxParser) (maxDeliveryAttempts : Nat) : World → World → Prop
  | call (w : World) (queued : SubagentJob) (hplace : w.place = .idle) (hqueued : Queued w queued) :
      Step sax maxDeliveryAttempts w (w.goto (w.called queued))
  | load (w : World) (snapshot : SubagentJob) (hplace : w.place = .loading snapshot) :
      Step sax maxDeliveryAttempts w
        (w.goto (decided sax maxDeliveryAttempts w.history snapshot))
  | acknowledge (w w' : World) (snapshot : SubagentJob) (attemptId committedTurnId : Bytes)
      (hplace : w.place = .acknowledging snapshot attemptId committedTurnId)
      (hok : w.acknowledgeDelivery snapshot.state.parentSessionId snapshot.state.jobId attemptId
        committedTurnId = .ok w') :
      Step sax maxDeliveryAttempts w (w'.goto .idle)
  | exhaust (w w' : World) (snapshot : SubagentJob) (attemptId : Bytes)
      (hplace : w.place = .exhausting snapshot attemptId)
      (hok : w.exhaustDelivery snapshot.state.parentSessionId snapshot.state.jobId attemptId
        = .ok w') :
      Step sax maxDeliveryAttempts w (w'.goto .idle)
  | record (w w' : World) (snapshot : SubagentJob) (attemptId : Bytes)
      (hplace : w.place = .preparing snapshot)
      (hok : w.recordDeliveryAttempt snapshot.state.parentSessionId snapshot.state.jobId
        { attemptId, promptFingerprint := fingerprint snapshot } = .ok w') :
      Step sax maxDeliveryAttempts w (w'.goto (.recorded snapshot attemptId))
  /-- The run appends its user message. -/
  | post (w : World) (snapshot : SubagentJob) (attemptId : Bytes) (entry : SessionEntry)
      (hplace : w.place = .recorded snapshot attemptId)
      (hprovenance : parseSyntheticDeliveryProvenance sax entry = .ok (some
        { deliveryId := snapshot.state.deliveryId, promptFingerprint := fingerprint snapshot }))
      (hprompt : isPrompt entry = true) :
      Step sax maxDeliveryAttempts w ((w.append entry).goto (.running snapshot attemptId))
  /-- The run appends anything that starts no turn. -/
  | write (w : World) (snapshot : SubagentJob) (attemptId : Bytes) (entry : SessionEntry)
      (hplace : w.place = .running snapshot attemptId) (hturn : isPrompt entry = false)
      (hplain : ¬ (w.dialogue sax).asks entry) :
      Step sax maxDeliveryAttempts w (w.append entry)
  | finish (w : World) (snapshot : SubagentJob) (attemptId committedTurnId : Bytes)
      (hplace : w.place = .running snapshot attemptId) :
      Step sax maxDeliveryAttempts w (w.goto (.acknowledging snapshot attemptId committedTurnId))
  /-- Any call fails, the deadline passes, or the worker is stopped. -/
  | leave (w : World) : Step sax maxDeliveryAttempts w (w.goto .idle)
  | job (w : World) (j : SubagentJob) (hsection : SubagentJob.Section w.job j) :
      Step sax maxDeliveryAttempts w { w with job := j }
  /-- The coordinator prunes the job. -/
  | prune (w : World) : Step sax maxDeliveryAttempts w { w with present := false }
  /-- Somebody else writes to the parent; the turns they commit answer messages of their own. -/
  | other (w : World) (entry : SessionEntry) (hforeign : ¬ (w.dialogue sax).asks entry)
      (hcommit : entry.type = .assistantTurnCommit → ∀ i, ¬ (w.dialogue sax).OpenAt w.history i) :
      Step sax maxDeliveryAttempts w (w.append entry)

/-- A job that was just started, and a parent that has not heard of the delivery. -/
structure Init (sax : SaxParser) (w : World) : Prop where
  sound : w.job.state.Sound
  attempts : w.job.state.deliveryAttempts = 0
  history : w.job.state.deliveryAttemptHistory = []
  unheard : ∀ entry ∈ w.history, ¬ (w.dialogue sax).asks entry
  idle : w.place = .idle

end Ava.App.Delivery
