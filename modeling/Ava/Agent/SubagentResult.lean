/-
  Ava.Agent.SubagentResult
  **THE RESULT OF A SUBAGENT JOB** (`complete` of `agent/subagent_coordinator.cpp`).  A job
  snapshot holds, beside the state of `Ava.Agent.SubagentJob`, what the child left behind: a
  bounded summary, which texts were cut, and the accounting.  `complete` writes all of it in
  the section that makes the job terminal, and nothing writes it again.

    - §1 bounded texts; §2 completions; §3 the snapshot; §4 a result is written once.
-/
import Ava.Agent.SubagentJob
import Ava.Core.Json

namespace Ava.Agent

open Ava.Core Ava.Core.Json

/-! ## §1. Bounded texts. -/

/-- The loop of `utf8_prefix_size`, at a position `index` of the text; `skip` octets of the
    last scalar are still to be passed. -/
def utf8PrefixFrom (maxBytes : Nat) : Nat → Nat → Bytes → Nat
  | _, index, [] => index
  | skip + 1, index, _ :: s => utf8PrefixFrom maxBytes skip index s
  | 0, index, c :: s =>
    if index < maxBytes then
      let width := match decodeUtf8Scalar (c :: s) with
        | some (_, length) => length
        | none => 1
      if maxBytes - index < width then index
      else utf8PrefixFrom maxBytes (width - 1) (index + width) s
    else index

/-- `utf8_prefix_size`. -/
def utf8PrefixSize (text : Bytes) (maxBytes : Nat) : Nat := utf8PrefixFrom maxBytes 0 0 text

/-- `truncate_utf8`: the text and whether it was cut. -/
def truncateUtf8 (value : Bytes) (maxBytes : Nat) : Bytes × Bool :=
  if value.length ≤ maxBytes then (value, false)
  else (value.take (utf8PrefixSize value maxBytes), true)

/-- `has_forbidden_text_control`. -/
def hasForbiddenTextControl (value : Bytes) : Bool :=
  value.any fun c => c < 32 && c != lf && c != cr && c != 9

/-- `normalize_text`. -/
def normalizeText (value : Bytes) (maxBytes : Nat) (fallback : Bytes) : Bytes × Bool :=
  let changed := !isValidUtf8 value || hasForbiddenTextControl value
  let (text, cut) := truncateUtf8 (if changed then fallback else value) maxBytes
  (text, cut || changed)

/-! ## §2. Completions. -/

/-- `kMaxSummaryBytes`, `kMaxErrorBytes`, `kMaxStopReasonBytes`, `kMaxAccountingValue`. -/
def maxSummaryBytes : Nat := 16 * 1024
def maxErrorBytes : Nat := 4 * 1024
def maxStopReasonBytes : Nat := 1024
def maxAccountingValue : Nat := 1024 * 1024

/-- `BackgroundJobCompletion`. -/
structure BackgroundJobCompletion where
  state : BackgroundJobState := .completed
  finalText : Bytes := []
  stopReason : Bytes := []
  error : Option Error := none
  providerIterations : Nat := 0
  toolCalls : Nat := 0
  toolIterations : Nat := 0
deriving Repr, DecidableEq

/-- `completion.stop_reason` with its default. -/
def stopReasonOr (stopReason : Bytes) (fallback : String) : Bytes :=
  if stopReason.isEmpty then ascii fallback else stopReason

/-- The tail of `normalize_completion` for a failure. -/
def normalizeFailure (jobId : Bytes) (c : BackgroundJobCompletion) : BackgroundJobCompletion :=
  { c with
    finalText := [], stopReason := stopReasonOr c.stopReason "failed"
    error := some (c.error.getD
      (({ category := .unknown, message := ascii "background job failed without an error" } :
        Error).withContext "job_id" jobId)) }

/-- `normalize_completion`. -/
def normalizeCompletion (jobId : Bytes) (c : BackgroundJobCompletion) : BackgroundJobCompletion :=
  match c.state with
  | .completed => { c with error := none, stopReason := stopReasonOr c.stopReason "completed" }
  | .canceled =>
    { c with finalText := [], error := none, stopReason := stopReasonOr c.stopReason "canceled" }
  | .failed => normalizeFailure jobId c
  | .running =>
    -- The whole completion is replaced: its accounting is dropped with it.
    normalizeFailure jobId
      { state := .failed, stopReason := ascii "failed"
        error := some (({ category := .unknown
                          message := ascii "background job completed with a non-terminal state" } :
          Error).withContext "job_id" jobId) }

/-! ## §3. The snapshot. -/

/-- The part of `SubagentJobSnapshot` that says what the child was and what it left behind. -/
structure SubagentReport where
  taskId : Bytes
  childSessionId : Bytes
  summary : Option Bytes := none
  summaryTruncated : Bool := false
  errorTruncated : Bool := false
  stopReasonTruncated : Bool := false
  providerIterations : Nat := 0
  toolCalls : Nat := 0
  toolIterations : Nat := 0
deriving Repr, DecidableEq

/-- What a normalised completion writes into the snapshot. -/
def SubagentReport.withResult (r : SubagentReport) (c : BackgroundJobCompletion) : SubagentReport :=
  let counted := { r with
    providerIterations := min c.providerIterations maxAccountingValue
    toolCalls := min c.toolCalls maxAccountingValue
    toolIterations := min c.toolIterations maxAccountingValue }
  match c.state with
  | .completed =>
    let (summary, cut) :=
      normalizeText c.finalText maxSummaryBytes (ascii "subagent output unavailable")
    { counted with
      summary := some summary, summaryTruncated := cut
      stopReasonTruncated :=
        (normalizeText c.stopReason maxStopReasonBytes (ascii "completed")).2 }
  | .canceled =>
    { counted with
      stopReasonTruncated :=
        (normalizeText c.stopReason maxStopReasonBytes (ascii "canceled")).2 }
  | .failed | .running =>
    -- `safe_subagent_error_message` says the same of every error.
    { counted with
      errorTruncated :=
        (normalizeText (ascii "subagent job failed") maxErrorBytes
          (ascii "subagent job failed")).2 }

/-- `SubagentJobSnapshot`, with the parts of `JobState` beside it. -/
structure SubagentJob where
  state : JobState
  report : SubagentReport
deriving Repr, DecidableEq

namespace SubagentJob

/-- The section of `complete` that makes the job terminal. -/
def complete (j : SubagentJob) (completion : BackgroundJobCompletion) : SubagentJob :=
  if j.state.execution.terminal then j
  else
    let c := normalizeCompletion j.state.jobId completion
    { state := j.state.finish c.state, report := j.report.withResult c }

/-- A section of `start`, `complete`, `cancel`, `promote` or the terminal notification. -/
inductive Section : SubagentJob → SubagentJob → Prop
  | publish (j : SubagentJob) : Section j { j with state := j.state.publish }
  | complete (j : SubagentJob) (completion : BackgroundJobCompletion) :
      Section j (j.complete completion)
  | arm (j : SubagentJob) : Section j { j with state := j.state.arm }
  | notify (j : SubagentJob) (sink : Bool) : Section j { j with state := j.state.notify sink }
  | requestCancel (j : SubagentJob) : Section j { j with state := j.state.requestCancel }
  | promote (j : SubagentJob) : Section j { j with state := j.state.promote }

end SubagentJob

/-! ## §4. A result is written once. -/

/-- What no section but a recorded attempt touches. -/
structure JobState.Kept (s s' : JobState) : Prop where
  jobId : s'.jobId = s.jobId
  deliveryId : s'.deliveryId = s.deliveryId
  attempts : s'.deliveryAttempts = s.deliveryAttempts
  history : s'.deliveryAttemptHistory = s.deliveryAttemptHistory
  execution : s.execution.terminal = true → s'.execution = s.execution

namespace JobState

theorem Kept.refl (s : JobState) : Kept s s := ⟨rfl, rfl, rfl, rfl, fun _ => rfl⟩

theorem kept_publish (s : JobState) : Kept s s.publish := by
  refine ⟨rfl, rfl, rfl, rfl, fun hterminal => ?_⟩
  apply if_neg
  intro hstarting
  rw [hstarting] at hterminal
  cases hterminal

theorem kept_finish (s : JobState) (completion : BackgroundJobState) :
    Kept s (s.finish completion) := by
  by_cases hterminal : s.execution.terminal = true
  · rw [finish_of_terminal hterminal]
    exact .refl s
  · rw [finish_of_open (by rw [← Bool.not_eq_true]; exact hterminal)]
    split
    next => exact ⟨rfl, rfl, rfl, rfl, fun hnow => absurd hnow hterminal⟩
    next => exact ⟨rfl, rfl, rfl, rfl, fun hnow => absurd hnow hterminal⟩

theorem kept_notify (s : JobState) (sink : Bool) : Kept s (s.notify sink) := by
  unfold notify
  split
  next => exact ⟨rfl, rfl, rfl, rfl, fun _ => rfl⟩
  next => exact .refl s

theorem kept_requestCancel (s : JobState) : Kept s s.requestCancel := by
  unfold requestCancel
  split
  next => exact .refl s
  next => exact ⟨rfl, rfl, rfl, rfl, fun _ => rfl⟩

theorem kept_promote (s : JobState) : Kept s s.promote := by
  unfold promote
  split
  next =>
    split
    next => exact .refl s
    next => exact ⟨rfl, rfl, rfl, rfl, fun _ => rfl⟩
  next => exact .refl s
  next => exact .refl s

end JobState

/-- What the sections of a job keep. -/
structure SubagentJob.Kept (j j' : SubagentJob) : Prop where
  state : j.state.Kept j'.state
  sound : j.state.Sound → j'.state.Sound
  report : j.state.execution.terminal = true → j'.report = j.report

/-- **A TERMINAL JOB KEEPS ITS RESULT.** -/
theorem SubagentJob.Section.kept {j j' : SubagentJob} (h : SubagentJob.Section j j') :
    j.Kept j' := by
  cases h with
  | publish => exact ⟨j.state.kept_publish, JobState.Sound.publish, fun _ => rfl⟩
  | complete completion =>
    unfold SubagentJob.complete
    by_cases hterminal : j.state.execution.terminal = true
    · rw [if_pos hterminal]
      exact ⟨.refl _, id, fun _ => rfl⟩
    · rw [if_neg hterminal]
      exact ⟨j.state.kept_finish _, fun hs => hs.finish _, fun hnow => absurd hnow hterminal⟩
  | arm =>
    exact ⟨⟨rfl, rfl, rfl, rfl, fun _ => rfl⟩, (JobState.Section.arm j.state).sound, fun _ => rfl⟩
  | notify sink =>
    exact ⟨j.state.kept_notify sink, (JobState.Section.notify j.state sink).sound, fun _ => rfl⟩
  | requestCancel =>
    exact ⟨j.state.kept_requestCancel, (JobState.Section.requestCancel j.state).sound,
      fun _ => rfl⟩
  | promote => exact ⟨j.state.kept_promote, JobState.Sound.promote, fun _ => rfl⟩

end Ava.Agent
