/-
  Ava.Agent.SubagentJob
  **THE LIFE OF ONE SUBAGENT JOB.**  The state a coordinator keeps for a job, and the sections
  of its functions that run under the job's mutex: publication, completion, arming, the
  terminal notification, cancellation, promotion, and the three delivery calls.  Every section
  is a function of the job state; whoever runs them, a job only moves forward.

  Clock readings, the result texts of a completion and the display fields are not part of the
  state: they are written here and read by nobody but the caller.

    - §1 states; §2 identifiers; §3 sections; §4 forward moves; §5 what every job satisfies.
-/
import Ava.Core.Prelude

namespace Ava.Agent

open Ava.Core

/-! ## §1. States. -/

inductive SubagentJobMode where
  | foreground | background
deriving Repr, DecidableEq

inductive SubagentExecutionState where
  | starting | running | completed | failed | canceled | interrupted
deriving Repr, DecidableEq

inductive SubagentDeliveryState where
  | direct | pending | attempting | acknowledged
deriving Repr, DecidableEq

/-- `terminal`. -/
def SubagentExecutionState.terminal : SubagentExecutionState → Bool
  | .completed | .failed | .canceled | .interrupted => true
  | .starting | .running => false

/-- `delivery_pending`. -/
def SubagentDeliveryState.isPending : SubagentDeliveryState → Bool
  | .pending | .attempting => true
  | .direct | .acknowledged => false

/-- `SubagentDeliveryAttemptSnapshot`. -/
structure DeliveryAttempt where
  attemptId : Bytes
  promptFingerprint : Bytes
deriving Repr, DecidableEq

/-- `kMaxSubagentDeliveryAttemptHistory`. -/
def maxSubagentDeliveryAttemptHistory : Nat := 64

/-- `JobState` with the snapshot inside it. -/
structure JobState where
  jobId : Bytes
  parentSessionId : Bytes
  deliveryId : Bytes
  mode : SubagentJobMode
  execution : SubagentExecutionState := .starting
  delivery : SubagentDeliveryState := .direct
  wasPromoted : Bool := false
  cancelRequested : Bool := false
  deliveryAttempts : Nat := 0
  deliveryAttemptHistory : List DeliveryAttempt := []
  acknowledgedAttemptId : Option Bytes := none
  committedTurnId : Option Bytes := none
  published : Bool := false
  terminalNotificationPending : Bool := false
  terminalNotificationEmitted : Bool := false
  deliveryExhausted : Bool := false
  deliveryArmReady : Bool := true
  sequence : Nat := 0
deriving Repr, DecidableEq

/-! ## §2. Identifiers. -/

/-- `kMaxIdBytes`. -/
def maxIdBytes : Nat := 96

def isIdentifierByte (c : UInt8) : Bool :=
  (97 ≤ c && c ≤ 122) || (65 ≤ c && c ≤ 90) || isDigit c || c == 95 || c == 45 || c == 46 ||
    c == colon

/-- `valid_identifier`. -/
def validIdentifier (value : Bytes) : Bool :=
  !value.isEmpty && value.length ≤ maxIdBytes && value.all isIdentifierByte

/-- `validate_identifier`. -/
def validateIdentifier (field : String) (value jobId : Bytes) : Result Unit :=
  if validIdentifier value then .ok ()
  else
    let e : Error := (({ category := .invalidArgument
                         message := ascii
                          "subagent job identifier is empty, too long, or contains a forbidden character" } :
        Error).withContext "field" (ascii field)).withContext "max_bytes" (decimal maxIdBytes)
    .error (if jobId.isEmpty then e else e.withContext "job_id" jobId)

/-- `not_found`. -/
def notFound (jobId : Bytes) : Error :=
  ({ category := .notFound, message := ascii "subagent job not found" } : Error).withContext
    "job_id" jobId

/-- `invalid_transition`. -/
def invalidTransition (message : String) (jobId : Bytes) : Error :=
  ({ category := .tool, message := ascii message } : Error).withContext "job_id" jobId

/-! ## §3. Sections. -/

/-- How a worker's completion reads after `normalize_completion`. -/
inductive BackgroundJobState where
  | running | completed | failed | canceled
deriving Repr, DecidableEq

/-- The execution state of a completion: what is not terminal counts as a failure. -/
def BackgroundJobState.execution : BackgroundJobState → SubagentExecutionState
  | .completed => .completed
  | .canceled => .canceled
  | .failed | .running => .failed

namespace JobState

variable (s : JobState)

/-- The section of `start` that makes the job visible. -/
def publish : JobState :=
  { s with
    execution := if s.execution = .starting then .running else s.execution
    published := true }

/-- The section of `complete` that makes the job terminal. -/
def finish (completion : BackgroundJobState) : JobState :=
  if s.execution.terminal then s
  else if s.mode = .background then
    { s with
      execution := completion.execution, delivery := .pending
      terminalNotificationPending := true, deliveryArmReady := false }
  else { s with execution := completion.execution }

/-- The section of `complete` after the history append. -/
def arm : JobState := { s with deliveryArmReady := true }

/-- Whether the terminal notification is due. -/
def due : Bool :=
  s.published && s.deliveryArmReady && s.terminalNotificationPending &&
    !s.terminalNotificationEmitted && !s.deliveryExhausted

/-- The section of `publish_terminal_notification`. -/
def notify (sink : Bool) : JobState :=
  if s.due && sink then { s with terminalNotificationEmitted := true } else s

/-- The first section of `cancel`. -/
def requestCancel : JobState :=
  if s.execution.terminal then s else { s with cancelRequested := true }

/-- What the first section of `promote` answers, if it does not go on. -/
def promoteCheck : Option (Result JobState) :=
  if s.execution.terminal || s.wasPromoted then some (.ok s)
  else if s.mode ≠ .foreground then
    some (.error (invalidTransition "only a running foreground subagent can be promoted" s.jobId))
  else if s.cancelRequested then
    some (.error (invalidTransition "cannot promote a subagent after cancellation was requested"
      s.jobId))
  else none

/-- What the second section of `promote` decides. -/
inductive PromoteDecision where
  | terminal | canceled | promoted
deriving Repr, DecidableEq

def promoteDecision : PromoteDecision :=
  if s.execution.terminal then .terminal
  else if s.cancelRequested then .canceled
  else .promoted

/-- The second section of `promote`. -/
def promote : JobState :=
  match s.promoteDecision with
  | .promoted => if s.wasPromoted then s else { s with mode := .background, wasPromoted := true }
  | .terminal | .canceled => s

/-- The section of `record_delivery_attempt`. -/
def recordDeliveryAttempt (attempt : DeliveryAttempt) : Result JobState :=
  if !s.execution.terminal || !s.delivery.isPending || !s.deliveryArmReady || s.deliveryExhausted then
    .error (invalidTransition "subagent delivery is not pending" s.jobId)
  else if s.deliveryAttemptHistory.getLast?.map DeliveryAttempt.attemptId = some attempt.attemptId then
    if s.deliveryAttemptHistory.getLast?.map DeliveryAttempt.promptFingerprint
        ≠ some attempt.promptFingerprint then
      .error (invalidTransition
        "subagent delivery attempt identity was reused with different content" s.jobId)
    else .ok s
  else if maxSubagentDeliveryAttemptHistory ≤ s.deliveryAttemptHistory.length then
    .error (invalidTransition "subagent delivery attempt history limit reached" s.jobId)
  else
    .ok { s with
      delivery := .attempting
      deliveryAttempts := s.deliveryAttempts + 1
      deliveryAttemptHistory := s.deliveryAttemptHistory ++ [attempt] }

/-- The section of `acknowledge_delivery`. -/
def acknowledgeDelivery (attemptId committedTurnId : Bytes) : Result JobState :=
  if s.delivery = .acknowledged then
    if s.acknowledgedAttemptId = some attemptId ∧ s.committedTurnId = some committedTurnId then .ok s
    else .error (invalidTransition
      "subagent delivery was already acknowledged by another attempt" s.jobId)
  else if s.deliveryExhausted ∨ s.delivery ≠ .attempting ∨
      s.deliveryAttemptHistory.getLast?.map DeliveryAttempt.attemptId ≠ some attemptId then
    .error (invalidTransition
      "subagent delivery acknowledgement does not match the latest attempt" s.jobId)
  else
    .ok { s with
      delivery := .acknowledged, acknowledgedAttemptId := some attemptId
      committedTurnId := some committedTurnId }

/-- The section of `exhaust_delivery`. -/
def exhaustDelivery (attemptId : Bytes) : Result JobState :=
  let mismatch : Result JobState := .error (invalidTransition
    "subagent delivery exhaustion does not match the latest attempt" s.jobId)
  if s.deliveryExhausted then
    if s.deliveryAttemptHistory.getLast?.map DeliveryAttempt.attemptId = some attemptId then .ok s
    else mismatch
  else if s.delivery ≠ .attempting ∨
      s.deliveryAttemptHistory.getLast?.map DeliveryAttempt.attemptId ≠ some attemptId then mismatch
  else .ok { s with deliveryExhausted := true, terminalNotificationPending := false }

/-- Whether pruning may take the job. -/
def eligible : Bool :=
  s.published && s.deliveryArmReady && s.execution.terminal &&
    (s.delivery == .direct || s.delivery == .acknowledged || s.deliveryExhausted)

/-! ## §4. Forward moves. -/

/-- One section of any function, whatever it answers. -/
inductive Section : JobState → JobState → Prop
  | publish (s : JobState) : Section s s.publish
  | finish (s : JobState) (completion : BackgroundJobState) : Section s (s.finish completion)
  | arm (s : JobState) : Section s s.arm
  | notify (s : JobState) (sink : Bool) : Section s (s.notify sink)
  | requestCancel (s : JobState) : Section s s.requestCancel
  | promote (s : JobState) : Section s s.promote
  | record {s s' : JobState} (attempt : DeliveryAttempt)
      (h : s.recordDeliveryAttempt attempt = .ok s') : Section s s'
  | acknowledge {s s' : JobState} (attemptId committedTurnId : Bytes)
      (h : s.acknowledgeDelivery attemptId committedTurnId = .ok s') : Section s s'
  | exhaust {s s' : JobState} (attemptId : Bytes)
      (h : s.exhaustDelivery attemptId = .ok s') : Section s s'

/-- The attempt a delivery call has to name. -/
def latestAttempt : Option Bytes :=
  s.deliveryAttemptHistory.getLast?.map DeliveryAttempt.attemptId

/-- **A FORWARD MOVE.** -/
structure Moves (s s' : JobState) : Prop where
  execution : s'.execution = s.execution ∨ (s.execution = .starting ∧ s'.execution = .running) ∨
    (s.execution.terminal = false ∧ s'.execution.terminal = true)
  delivery : s'.delivery = s.delivery ∨ (s.delivery = .direct ∧ s'.delivery = .pending) ∨
    (s.delivery = .pending ∧ s'.delivery = .attempting) ∨
    (s.delivery = .attempting ∧ s'.delivery = .acknowledged)
  settled : s.delivery = .acknowledged ∨ s.deliveryExhausted = true →
    s'.deliveryAttemptHistory = s.deliveryAttemptHistory
  acknowledges : s'.delivery = .acknowledged → s.delivery ≠ .acknowledged →
    s'.acknowledgedAttemptId = s.latestAttempt ∧ s'.latestAttempt = s.latestAttempt
  emitted : s.terminalNotificationEmitted = true → s'.terminalNotificationEmitted = true

theorem Moves.refl : Moves s s :=
  ⟨.inl rfl, .inl rfl, fun _ => rfl, fun h hne => absurd h hne, id⟩

variable {s s' : JobState}

/-- A section that touches neither execution nor delivery. -/
theorem Moves.of_same (hexecution : s'.execution = s.execution)
    (hdelivery : s'.delivery = s.delivery)
    (hhistory : s'.deliveryAttemptHistory = s.deliveryAttemptHistory)
    (hemitted : s.terminalNotificationEmitted = true → s'.terminalNotificationEmitted = true) :
    Moves s s' :=
  ⟨.inl hexecution, .inl hdelivery, fun _ => hhistory,
    fun h hne => absurd (hdelivery.symm.trans h) hne, hemitted⟩

theorem terminal_execution (c : BackgroundJobState) : c.execution.terminal = true := by
  cases c <;> rfl

theorem moves_publish (s : JobState) : Moves s s.publish := by
  refine ⟨?_, .inl rfl, fun _ => rfl, fun h hne => absurd h hne, id⟩
  by_cases hstarting : s.execution = .starting
  · exact .inr (.inl ⟨hstarting, if_pos hstarting⟩)
  · exact .inl (if_neg hstarting)

/-- What `finish` does to a job that was still open. -/
theorem finish_of_open (hopen : s.execution.terminal = false) (completion : BackgroundJobState) :
    s.finish completion =
      if s.mode = .background then
        { s with
          execution := completion.execution, delivery := .pending
          terminalNotificationPending := true, deliveryArmReady := false }
      else { s with execution := completion.execution } := by
  unfold finish
  rw [hopen]
  rfl

theorem finish_of_terminal (hterminal : s.execution.terminal = true)
    (completion : BackgroundJobState) : s.finish completion = s := by
  unfold finish
  rw [if_pos hterminal]

/-- What a recorded attempt changes: nothing, or it is the new latest attempt of a job that
    waits for its delivery. -/
theorem recordDeliveryAttempt_cases {attempt : DeliveryAttempt}
    (h : s.recordDeliveryAttempt attempt = .ok s') :
    s' = s ∨ (s.execution.terminal = true ∧ s.delivery.isPending = true ∧
      s.deliveryArmReady = true ∧ s.deliveryExhausted = false ∧
      s.deliveryAttemptHistory.length < maxSubagentDeliveryAttemptHistory ∧
      s' = { s with
        delivery := .attempting
        deliveryAttempts := s.deliveryAttempts + 1
        deliveryAttemptHistory := s.deliveryAttemptHistory ++ [attempt] }) := by
  unfold recordDeliveryAttempt at h
  split at h
  next => cases h
  next hpending =>
    split at h
    next =>
      split at h
      next => cases h
      next => exact .inl (Except.ok.inj h).symm
    split at h
    next => cases h
    next hroom =>
      simp only [Bool.or_eq_true, Bool.not_eq_true', not_or, Bool.not_eq_false,
        Bool.not_eq_true] at hpending
      obtain ⟨⟨⟨hterminal, hdelivery⟩, harmed⟩, hexhausted⟩ := hpending
      exact .inr ⟨hterminal, hdelivery, harmed, hexhausted, Nat.not_le.mp hroom,
        (Except.ok.inj h).symm⟩

/-- An acknowledgement changes nothing, or it settles the latest attempt. -/
theorem acknowledgeDelivery_cases {attemptId committedTurnId : Bytes}
    (h : s.acknowledgeDelivery attemptId committedTurnId = .ok s') :
    s' = s ∨ (s.deliveryExhausted = false ∧ s.delivery = .attempting ∧
      s.latestAttempt = some attemptId ∧
      s' = { s with
        delivery := .acknowledged, acknowledgedAttemptId := some attemptId
        committedTurnId := some committedTurnId }) := by
  unfold acknowledgeDelivery at h
  split at h
  next =>
    split at h
    next => exact .inl (Except.ok.inj h).symm
    next => cases h
  split at h
  next => cases h
  next hmatches =>
    simp only [not_or, not_not, Bool.not_eq_true] at hmatches
    exact .inr ⟨hmatches.1, hmatches.2.1, hmatches.2.2, (Except.ok.inj h).symm⟩

/-- So does a report of exhaustion. -/
theorem exhaustDelivery_cases {attemptId : Bytes} (h : s.exhaustDelivery attemptId = .ok s') :
    s' = s ∨ (s.delivery = .attempting ∧
      s' = { s with deliveryExhausted := true, terminalNotificationPending := false }) := by
  unfold exhaustDelivery at h
  dsimp only at h
  split at h
  next =>
    split at h
    next => exact .inl (Except.ok.inj h).symm
    next => cases h
  split at h
  next => cases h
  next hmatches => exact .inr ⟨not_not.mp (not_or.mp hmatches).1, (Except.ok.inj h).symm⟩

/-! ## §5. What every job satisfies. -/

/-- **SOUND JOBS.**  Nothing about delivery happens before the job is terminal; a terminal
    background job owes its notification until its delivery is given up; and an
    acknowledgement names the latest attempt. -/
structure Sound (s : JobState) : Prop where
  unfinished : s.execution.terminal = false → s.delivery = .direct ∧
    s.terminalNotificationPending = false ∧ s.deliveryExhausted = false ∧ s.deliveryArmReady = true
  owes : s.execution.terminal = true → s.mode = .background →
    s.terminalNotificationPending = true ∨ s.deliveryExhausted = true
  acknowledged : s.delivery = .acknowledged → s.acknowledgedAttemptId = s.latestAttempt ∧
    s.latestAttempt ≠ none

/-- A section that touches none of the fields a sound job is about. -/
theorem Sound.of_same (h : Sound s) (hexecution : s'.execution = s.execution)
    (hdelivery : s'.delivery = s.delivery) (hmode : s'.mode = s.mode)
    (hpending : s'.terminalNotificationPending = s.terminalNotificationPending)
    (hexhausted : s'.deliveryExhausted = s.deliveryExhausted)
    (harm : s.deliveryArmReady = true → s'.deliveryArmReady = true)
    (hattempt : s'.acknowledgedAttemptId = s.acknowledgedAttemptId)
    (hlatest : s'.latestAttempt = s.latestAttempt) : Sound s' := by
  constructor
  · intro hopen
    rw [hexecution] at hopen
    obtain ⟨hdirect, hquiet, hliving, harmed⟩ := h.unfinished hopen
    exact ⟨hdelivery.trans hdirect, hpending.trans hquiet, hexhausted.trans hliving, harm harmed⟩
  · rw [hexecution, hmode, hpending, hexhausted]
    exact h.owes
  · rw [hdelivery, hattempt, hlatest]
    exact h.acknowledged

theorem Sound.publish (h : Sound s) : Sound s.publish := by
  unfold JobState.publish
  by_cases hstarting : s.execution = .starting
  · have hopen : s.execution.terminal = false := by
      rw [hstarting]
      rfl
    rw [if_pos hstarting]
    refine ⟨fun _ => h.unfinished hopen, ?_, ?_⟩
    · intro hterminal
      cases hterminal
    · exact h.acknowledged
  · rw [if_neg hstarting]
    exact h.of_same rfl rfl rfl rfl rfl id rfl rfl

theorem Sound.finish (h : Sound s) (completion : BackgroundJobState) :
    Sound (s.finish completion) := by
  by_cases hterminal : s.execution.terminal = true
  · rw [finish_of_terminal hterminal]
    exact h
  · rw [Bool.not_eq_true] at hterminal
    obtain ⟨hdirect, -⟩ := h.unfinished hterminal
    rw [finish_of_open hterminal]
    split
    next =>
      refine ⟨?_, fun _ _ => .inl rfl, ?_⟩
      · intro hopen
        exact absurd (terminal_execution completion) (by rw [hopen]; decide)
      · intro hacknowledged
        cases hacknowledged
    next hforeground =>
      refine ⟨?_, ?_, ?_⟩
      · intro hopen
        exact absurd (terminal_execution completion) (by rw [hopen]; decide)
      · intro _ hmode
        exact absurd hmode hforeground
      · intro hacknowledged
        exact absurd (hdirect.symm.trans hacknowledged) (by decide)

theorem Sound.promote (h : Sound s) : Sound s.promote := by
  unfold JobState.promote promoteDecision
  by_cases hterminal : s.execution.terminal = true
  · rw [if_pos hterminal]
    exact h
  · rw [if_neg hterminal]
    split
    next =>
      split
      next => exact h
      -- The mode changes, and an unfinished job owes nothing yet.
      refine ⟨h.unfinished, ?_, h.acknowledged⟩
      intro hnow
      exact absurd hnow hterminal
    next => exact h
    next => exact h

/-- **EVERY SECTION KEEPS A JOB SOUND.** -/
theorem Section.sound (h : Section s s') (hs : Sound s) : Sound s' := by
  cases h with
  | publish => exact hs.publish
  | finish completion => exact hs.finish completion
  | arm => exact hs.of_same rfl rfl rfl rfl rfl (fun _ => rfl) rfl rfl
  | notify sink =>
    unfold JobState.notify
    split
    next => exact hs.of_same rfl rfl rfl rfl rfl id rfl rfl
    next => exact hs
  | requestCancel =>
    unfold JobState.requestCancel
    split
    next => exact hs
    next => exact hs.of_same rfl rfl rfl rfl rfl id rfl rfl
  | promote => exact hs.promote
  | record attempt h =>
    obtain rfl | ⟨hterminal, -, -, -, -, rfl⟩ := recordDeliveryAttempt_cases h
    · exact hs
    · refine ⟨?_, hs.owes, ?_⟩
      · intro hopen
        exact absurd (hopen.symm.trans hterminal) (by decide)
      · intro hacknowledged
        cases hacknowledged
  | acknowledge attemptId committedTurnId h =>
    obtain rfl | ⟨-, hattempting, hlatest, rfl⟩ := acknowledgeDelivery_cases h
    · exact hs
    · refine ⟨?_, hs.owes, ?_⟩
      · intro hopen
        exact absurd (hattempting.symm.trans (hs.unfinished hopen).1) (by decide)
      · intro _
        show some attemptId = s.latestAttempt ∧ s.latestAttempt ≠ none
        rw [hlatest]
        exact ⟨rfl, by simp⟩
  | exhaust attemptId h =>
    obtain rfl | ⟨hattempting, rfl⟩ := exhaustDelivery_cases h
    · exact hs
    · refine ⟨?_, fun _ _ => .inr rfl, hs.acknowledged⟩
      intro hopen
      exact absurd (hattempting.symm.trans (hs.unfinished hopen).1) (by decide)

/-- **EVERY SECTION MOVES A SOUND JOB FORWARD.** -/
theorem Section.moves (h : Section s s') (hs : Sound s) : Moves s s' := by
  cases h with
  | publish => exact moves_publish s
  | finish completion =>
    by_cases hterminal : s.execution.terminal = true
    · rw [finish_of_terminal hterminal]
      exact .refl s
    · rw [Bool.not_eq_true] at hterminal
      obtain ⟨hdirect, -⟩ := hs.unfinished hterminal
      have hfinished : s.execution.terminal = false ∧ completion.execution.terminal = true :=
        ⟨hterminal, terminal_execution completion⟩
      rw [finish_of_open hterminal]
      split
      next =>
        refine ⟨.inr (.inr hfinished), .inr (.inl ⟨hdirect, rfl⟩), fun _ => rfl, ?_, id⟩
        intro hacknowledged
        cases hacknowledged
      exact ⟨.inr (.inr hfinished), .inl rfl, fun _ => rfl, fun h hne => absurd h hne, id⟩
  | arm => exact .of_same rfl rfl rfl id
  | notify sink =>
    unfold JobState.notify
    split
    next => exact .of_same rfl rfl rfl fun _ => rfl
    next => exact .refl s
  | requestCancel =>
    unfold JobState.requestCancel
    split
    next => exact .refl s
    next => exact .of_same rfl rfl rfl id
  | promote =>
    unfold JobState.promote
    split
    next =>
      split
      next => exact .refl s
      next => exact .of_same rfl rfl rfl id
    next => exact .refl s
    next => exact .refl s
  | record attempt h =>
    obtain rfl | ⟨-, hpending, -, hexhausted, -, rfl⟩ := recordDeliveryAttempt_cases h
    · exact .refl _
    · refine ⟨.inl rfl, ?_, ?_, ?_, id⟩
      · cases hdelivery : s.delivery with
        | direct | acknowledged => rw [hdelivery] at hpending; cases hpending
        | pending => exact .inr (.inr (.inl ⟨rfl, rfl⟩))
        | attempting => exact .inl rfl
      · rintro (hsettled | hsettled)
        · rw [hsettled] at hpending
          cases hpending
        · exact absurd (hsettled.symm.trans hexhausted) (by decide)
      · intro hacknowledged
        cases hacknowledged
  | acknowledge attemptId committedTurnId h =>
    obtain rfl | ⟨-, hattempting, hlatest, rfl⟩ := acknowledgeDelivery_cases h
    · exact .refl _
    · exact ⟨.inl rfl, .inr (.inr (.inr ⟨hattempting, rfl⟩)), fun _ => rfl,
        fun _ _ => ⟨hlatest.symm, rfl⟩, id⟩
  | exhaust attemptId h =>
    obtain rfl | ⟨hattempting, rfl⟩ := exhaustDelivery_cases h
    · exact .refl _
    · exact .of_same rfl rfl rfl id

end JobState

end Ava.Agent
