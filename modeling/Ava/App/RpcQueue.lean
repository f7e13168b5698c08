/-
  Ava.App.RpcQueue
  **THE MESSAGE QUEUES OF AN RPC RUN** (`app/rpc/run_state.{h,cpp}`).  While a prompt runs, a client
  may queue steering messages and follow-ups.  Cancellation, the end of input and the publication
  of a terminal response overlap, and put off clearing the queues to one another.

  Every function of the source is one critical section, so an interleaving is a sequence of calls;
  a call that waits for a publication to end is not possible before.

    - §1 the state and its functions; §2 `Ledger` : what was accepted and what was handed out;
    - §3 the invariant `Accounted`, one call at a time;
    - §4 `rpc_messages_have_one_fate`.
-/
import Mathlib.Data.Finset.Basic
import Ava.Core.Prelude
import Ava.Lib.Transition

namespace Ava.App.Rpc

open Ava.Core Ava.Lib

/-! ## §1. The source. -/

/-- `QueuedRpcMessage`. -/
structure QueuedRpcMessage where
  requestId : Bytes
  correlationId : Bytes
  message : Bytes
deriving Repr, DecidableEq

/-- `RpcRunKind`. -/
inductive RpcRunKind where
  | none | prompt | directCommand | compaction
deriving Repr, DecidableEq

/-- `RpcInputTerminalOutcome`. -/
inductive RpcInputTerminalOutcome where
  | eof | eofWithFinalRecord | canceled | error
deriving Repr, DecidableEq

/-- The two queues, each with the command that fills it. -/
inductive Lane where
  | steer | followUp
deriving Repr, DecidableEq

def Lane.commandType : Lane → Bytes
  | .steer => ascii "steer"
  | .followUp => ascii "follow_up"

/-- `RpcRunState`, without the mutex, its condition variable and the error slot of the workers. -/
structure RpcRunState where
  cancelRequested : Bool := false
  terminalPublicationInProgress : Bool := false
  activeRunKind : RpcRunKind := .none
  inputTerminalObserved : Bool := false
  inputClosed : Bool := false
  activeRequestId : Bytes := []
  outstandingRequestIds : Finset Bytes := ∅
  steeringMessages : List QueuedRpcMessage := []
  followUpMessages : List QueuedRpcMessage := []

/-- `ClearedRpcQueues`. -/
structure ClearedRpcQueues where
  steeringMessages : List QueuedRpcMessage := []
  followUpMessages : List QueuedRpcMessage := []

def maxRpcQueuedMessages : Nat := 64
def maxRpcQueuedMessageBytes : Nat := 64 * 1024

/-- `invalid_rpc`. -/
def invalidRpc (message : String) : Error :=
  Error.withContext { category := .invalidArgument, message := ascii message } "rpc_error_code"
    (ascii "invalid_request")

/-- `canceled_error`. -/
def canceledError : Error :=
  Error.withContext { category := .unknown, message := ascii "agent loop canceled", code := .canceled }
    "rpc_error_code" (ascii "canceled")

/-- `active_run_reject_error`. -/
def activeRunRejectError (commandType : Bytes) : Error :=
  ((invalidRpc "RPC command is unavailable while a prompt is active").withContext "rpc_error_code"
    (ascii "active_run")).withContext "type" commandType

/-- `queue_limit_error`. -/
def queueLimitError (commandType : Bytes) : Error :=
  (((invalidRpc "RPC queued message limit exceeded").withContext "type" commandType).withContext
    "max_entries" (decimal maxRpcQueuedMessages)).withContext "max_message_bytes"
      (decimal maxRpcQueuedMessageBytes)

namespace RpcRunState

variable (s : RpcRunState)

/-- The queue of a lane. -/
def queue : Lane → List QueuedRpcMessage
  | .steer => s.steeringMessages
  | .followUp => s.followUpMessages

/-- What `publication_cv` waits for. -/
def published : Bool := !s.terminalPublicationInProgress || s.inputClosed

/-- `clear_queued_messages_locked`: what is handed out; the queues are empty afterwards. -/
def clearedQueues : ClearedRpcQueues := ⟨s.steeringMessages, s.followUpMessages⟩

def withoutQueued : RpcRunState := { s with steeringMessages := [], followUpMessages := [] }

def deactivated : RpcRunState := { s with activeRunKind := .none, activeRequestId := [] }

/-- `transition_input_terminal_locked`. -/
def inputTerminal (outcome : RpcInputTerminalOutcome) : RpcRunState :=
  match outcome with
  | .eofWithFinalRecord => { s with inputTerminalObserved := true }
  | _ => { s with inputTerminalObserved := true, inputClosed := true, cancelRequested := true }

/-- `set_active_run`, once nothing is being published. -/
def setActiveRun (kind : RpcRunKind) (requestId : Bytes) : RpcRunState :=
  let outstanding :=
    if s.activeRunKind ≠ .none ∧ s.activeRequestId ≠ [] then
      s.outstandingRequestIds.erase s.activeRequestId
    else s.outstandingRequestIds
  if kind = .none then
    { s with activeRunKind := .none, activeRequestId := [], outstandingRequestIds := outstanding }
  else
    { s with
      activeRunKind := kind
      cancelRequested := false
      activeRequestId := requestId
      outstandingRequestIds := if requestId = [] then outstanding else insert requestId outstanding }

/-- `complete_outstanding_request`. -/
def completeOutstandingRequest (requestId : Bytes) : RpcRunState :=
  { s with outstandingRequestIds := s.outstandingRequestIds.erase requestId }

/-- `queue_rpc_message`, once nothing is being published. -/
def queueRpcMessage (lane : Lane) (requestId message : Bytes) :
    Result (QueuedRpcMessage × RpcRunState) :=
  let requiresActivePrompt :=
    (invalidRpc "RPC command requires an active prompt").withContext "type" lane.commandType
  if s.inputClosed then
    .error ((invalidRpc "RPC input is closed").withContext "type" lane.commandType)
  else if s.cancelRequested then .error canceledError
  else if s.activeRunKind ≠ .prompt then
    if s.activeRunKind ≠ .none then .error (activeRunRejectError lane.commandType)
    else .error requiresActivePrompt
  else if s.activeRequestId = [] then .error requiresActivePrompt
  else if requestId ∈ s.outstandingRequestIds then
    .error ((invalidRpc "RPC request id is already outstanding").withContext "request_id" requestId)
  else if maxRpcQueuedMessages ≤ (s.queue lane).length ∨ maxRpcQueuedMessageBytes < message.length ∨
      maxRpcQueuedMessageBytes <
        ((s.queue lane).map fun queued => queued.message.length).sum + message.length then
    .error (queueLimitError lane.commandType)
  else
    let queued : QueuedRpcMessage := ⟨requestId, s.activeRequestId, message⟩
    .ok (queued,
      match lane with
      | .steer => { s with steeringMessages := s.steeringMessages ++ [queued] }
      | .followUp =>
        { s with
          followUpMessages := s.followUpMessages ++ [queued]
          outstandingRequestIds := insert requestId s.outstandingRequestIds })

end RpcRunState

/-- The calls of the program, with their arguments. -/
inductive Call where
  | queueRpcMessage (lane : Lane) (requestId message : Bytes)
  | takeQueuedSteeringMessages (correlationId : Bytes)
  | beginPromptTerminalPublication
  | transitionAfterPromptTerminalResponse
  | beginTerminalPublication
  | completeTerminalPublication (requestId : Bytes)
  | completeOutstandingRequest (requestId : Bytes)
  | beginCancellation
  | closeInputAndCancel
  | observeInputTerminal (outcome : RpcInputTerminalOutcome)
  | setActiveRun (kind : RpcRunKind) (requestId : Bytes)
  | clearQueuedSteeringMessages
  | deactivateAndClearQueuedMessages
deriving DecidableEq

/-- What a call leaves, accepts and hands out. -/
structure Outcome where
  state : RpcRunState
  accepted : Lane → List QueuedRpcMessage := fun _ => []
  returned : ClearedRpcQueues := {}

/-- One call; `none` while it waits. -/
def RpcRunState.call (s : RpcRunState) : Call → Option Outcome
  | .queueRpcMessage lane requestId message =>
    if s.published then
      match s.queueRpcMessage lane requestId message with
      | .error _ => some { state := s }
      | .ok (queued, s') =>
        some { state := s', accepted := fun l => if l = lane then [queued] else [] }
    else none
  | .takeQueuedSteeringMessages correlationId =>
    some
      { state := { s with steeringMessages := s.steeringMessages.filter fun queued =>
          queued.correlationId ≠ correlationId }
        returned := { steeringMessages := s.steeringMessages.filter fun queued =>
          queued.correlationId = correlationId } }
  | .beginPromptTerminalPublication => some { state := { s with terminalPublicationInProgress := true } }
  | .transitionAfterPromptTerminalResponse =>
    if s.cancelRequested || s.inputClosed || s.inputTerminalObserved then
      some { state := s.deactivated.withoutQueued, returned := s.clearedQueues }
    else
      match s.followUpMessages with
      | queued :: rest =>
        some
          { state := { s with followUpMessages := rest, activeRunKind := .prompt,
                              activeRequestId := queued.requestId }
            returned := { followUpMessages := [queued] } }
      | [] => some { state := s.deactivated.withoutQueued, returned := s.clearedQueues }
  | .beginTerminalPublication =>
    some { state := { s.deactivated.withoutQueued with terminalPublicationInProgress := true }
           returned := s.clearedQueues }
  | .completeTerminalPublication requestId =>
    some { state := { s.completeOutstandingRequest requestId with
                      terminalPublicationInProgress := false } }
  | .completeOutstandingRequest requestId => some { state := s.completeOutstandingRequest requestId }
  | .beginCancellation =>
    -- the queues are left to the publication in progress, if there is one
    if s.terminalPublicationInProgress then some { state := { s with cancelRequested := true } }
    else some { state := { s.withoutQueued with cancelRequested := true }, returned := s.clearedQueues }
  | .closeInputAndCancel =>
    if s.terminalPublicationInProgress then some { state := s.inputTerminal .eof }
    else some { state := (s.inputTerminal .eof).withoutQueued, returned := s.clearedQueues }
  | .observeInputTerminal outcome => some { state := s.inputTerminal outcome }
  | .setActiveRun kind requestId =>
    if s.published then some { state := s.setActiveRun kind requestId } else none
  | .clearQueuedSteeringMessages =>
    some { state := { s with steeringMessages := [] }
           returned := { steeringMessages := s.steeringMessages } }
  | .deactivateAndClearQueuedMessages =>
    some { state := { s.deactivated.withoutQueued with
                      outstandingRequestIds := if s.activeRequestId = [] then s.outstandingRequestIds
                        else s.outstandingRequestIds.erase s.activeRequestId }
           returned := s.clearedQueues }

/-! ## §2. What was accepted and what was handed out. -/

/-- The state, with all messages ever accepted and ever handed out, in this order. -/
structure Ledger where
  state : RpcRunState := {}
  accepted : Lane → List QueuedRpcMessage := fun _ => []
  steeringReturned : List QueuedRpcMessage := []
  followUpsReturned : List QueuedRpcMessage := []

def Ledger.after (w : Ledger) (outcome : Outcome) : Ledger :=
  { state := outcome.state
    accepted := fun lane => w.accepted lane ++ outcome.accepted lane
    steeringReturned := w.steeringReturned ++ outcome.returned.steeringMessages
    followUpsReturned := w.followUpsReturned ++ outcome.returned.followUpMessages }

def Ledger.next (w : Ledger) (c : Call) : Option Ledger := (w.state.call c).map w.after

/-- The id is that of a follow-up in the queue. -/
def RpcRunState.FollowUpQueued (s : RpcRunState) (requestId : Bytes) : Prop :=
  ∃ queued ∈ s.followUpMessages, queued.requestId = requestId

/-- What callers keep to: a run starts under an id that is not outstanding, and no follow-up is
    completed while it is queued. -/
def RpcRunState.Permits (s : RpcRunState) : Call → Prop
  | .setActiveRun _ requestId => requestId ∉ s.outstandingRequestIds
  | .completeTerminalPublication requestId | .completeOutstandingRequest requestId =>
    ¬ s.FollowUpQueued requestId
  | _ => True

/-- A run that was completed while it was active may leave its id to a follow-up; `set_active_run`
    must not replace it then, because it completes the id of the run it replaces. -/
def RpcRunState.Replaceable (s : RpcRunState) : Call → Prop
  | .setActiveRun _ _ => s.activeRunKind = .none ∨ ¬ s.FollowUpQueued s.activeRequestId
  | _ => True

/-- Interleavings of permitted calls. -/
def Permitted (w w' : Ledger) : Prop := ∃ c, w.state.Permits c ∧ w.next c = some w'

/-- Interleavings in which no run is replaced whose id a follow-up has. -/
def Step (w w' : Ledger) : Prop :=
  ∃ c, w.state.Permits c ∧ w.state.Replaceable c ∧ w.next c = some w'

/-- Steps other than `set_active_run`. -/
def StepWithin (w w' : Ledger) : Prop :=
  ∃ c, (∀ kind requestId, c ≠ .setActiveRun kind requestId) ∧ w.next c = some w'

/-! ## §3. One call at a time. -/

open RpcRunState

/-- The messages of one correlation id. -/
def ofRun (correlationId : Bytes) (messages : List QueuedRpcMessage) : List QueuedRpcMessage :=
  messages.filter fun queued => queued.correlationId = correlationId

/-- **The account of a ledger**: what was accepted was handed out or is still queued, and the
    queued follow-ups are outstanding. -/
structure Accounted (w : Ledger) : Prop where
  followUps : w.accepted .followUp = w.followUpsReturned ++ w.state.followUpMessages
  steering : ∀ id, ofRun id (w.accepted .steer) =
    ofRun id w.steeringReturned ++ ofRun id w.state.steeringMessages
  outstanding : ∀ queued ∈ w.state.followUpMessages,
    queued.requestId ∈ w.state.outstandingRequestIds

/-- **An accepted message** goes to the end of its queue, and only while the input is open and
    nothing is cancelled. -/
theorem queueRpcMessage_eq_ok {s s' : RpcRunState} {lane : Lane} {requestId message : Bytes}
    {queued : QueuedRpcMessage} (h : s.queueRpcMessage lane requestId message = .ok (queued, s')) :
    s.inputClosed = false ∧ s.cancelRequested = false ∧
      (lane = .steer ∧ s' = { s with steeringMessages := s.steeringMessages ++ [queued] } ∨
        lane = .followUp ∧ s' = { s with
          followUpMessages := s.followUpMessages ++ [queued]
          outstandingRequestIds := insert queued.requestId s.outstandingRequestIds }) := by
  unfold queueRpcMessage at h
  repeat' split at h
  all_goals grind

/-- Clearing hands out what is queued. -/
theorem Accounted.clear {w : Ledger} (h : Accounted w) {s : RpcRunState}
    (hsteer : s.steeringMessages = []) (hfollow : s.followUpMessages = []) :
    Accounted (w.after { state := s, returned := w.state.clearedQueues }) where
  followUps := by simp [Ledger.after, clearedQueues, hfollow, h.followUps]
  steering id := by
    simpa [Ledger.after, clearedQueues, hsteer, ofRun] using h.steering id
  outstanding := by simp [Ledger.after, hfollow]

/-- A call that leaves the queues alone and completes no queued follow-up. -/
theorem Accounted.keep {w : Ledger} (h : Accounted w) {s : RpcRunState}
    (hsteer : s.steeringMessages = w.state.steeringMessages)
    (hfollow : s.followUpMessages = w.state.followUpMessages)
    (hids : ∀ queued ∈ w.state.followUpMessages, queued.requestId ∈ s.outstandingRequestIds) :
    Accounted (w.after { state := s }) where
  followUps := by simp [Ledger.after, hfollow, h.followUps]
  steering id := by simp [Ledger.after, hsteer, h.steering]
  outstanding := by simpa [Ledger.after, hfollow] using hids

/-- A run's messages are taken as a whole or not at all. -/
theorem ofRun_take (id correlationId : Bytes) (l : List QueuedRpcMessage) :
    ofRun id (ofRun correlationId l) ++
      ofRun id (l.filter fun queued => queued.correlationId ≠ correlationId) = ofRun id l := by
  unfold ofRun
  by_cases hid : id = correlationId
  · simp [hid, List.filter_filter]
  · have hnone : (l.filter fun queued => queued.correlationId = correlationId).filter
        (fun queued => queued.correlationId = id) = [] := by
      simp only [List.filter_eq_nil_iff, List.mem_filter, decide_eq_true_eq]
      grind
    rw [hnone, List.nil_append, List.filter_filter]
    exact List.filter_congr (by grind)

theorem inputTerminal_queues (s : RpcRunState) (outcome : RpcInputTerminalOutcome) :
    (s.inputTerminal outcome).steeringMessages = s.steeringMessages ∧
      (s.inputTerminal outcome).followUpMessages = s.followUpMessages ∧
      (s.inputTerminal outcome).outstandingRequestIds = s.outstandingRequestIds := by
  cases outcome <;> exact ⟨rfl, rfl, rfl⟩

variable {w w' : Ledger}

/-- **One call keeps the account.** -/
theorem Accounted.step (h : Accounted w) (hstep : Step w w') : Accounted w' := by
  obtain ⟨c, hpermits, hreplace, hnext⟩ := hstep
  obtain ⟨outcome, hcall, rfl⟩ := Option.map_eq_some_iff.mp hnext
  have hcomplete : ∀ id, ¬ w.state.FollowUpQueued id → ∀ queued ∈ w.state.followUpMessages,
      queued.requestId ∈ w.state.outstandingRequestIds.erase id := by
    intro id hid queued hqueued
    exact Finset.mem_erase.mpr ⟨fun heq => hid ⟨queued, hqueued, heq⟩, h.outstanding queued hqueued⟩
  cases c with
  | queueRpcMessage lane requestId message =>
    simp only [call] at hcall
    split at hcall
    next =>
      split at hcall
      next =>
        cases hcall
        exact h.keep rfl rfl h.outstanding
      next queued s' hqueued =>
        cases hcall
        obtain ⟨-, -, ⟨rfl, rfl⟩ | ⟨rfl, rfl⟩⟩ := queueRpcMessage_eq_ok hqueued
        · refine ⟨by simpa [Ledger.after] using h.followUps, fun id => ?_, h.outstanding⟩
          have hsteering := h.steering id
          simp only [ofRun] at hsteering
          simp [Ledger.after, ofRun, hsteering]
        · have houtstanding := h.outstanding
          exact ⟨by simp [Ledger.after, h.followUps], by simpa [Ledger.after] using h.steering,
            by simp only [Ledger.after]; grind⟩
    next => cases hcall
  | takeQueuedSteeringMessages correlationId =>
    cases hcall
    refine ⟨by simpa [Ledger.after] using h.followUps, fun id => ?_, h.outstanding⟩
    have htake := ofRun_take id correlationId w.state.steeringMessages
    have hsteering := h.steering id
    simp only [Ledger.after, ofRun, List.append_nil, List.filter_append, List.append_assoc] at *
    rw [hsteering, htake]
  | transitionAfterPromptTerminalResponse =>
    simp only [call] at hcall
    split at hcall
    next =>
      cases hcall
      exact h.clear rfl rfl
    split at hcall
    next queued rest hqueue =>
      cases hcall
      have houtstanding := h.outstanding
      exact ⟨by simp [Ledger.after, h.followUps, hqueue], by simpa [Ledger.after] using h.steering,
        by simp only [Ledger.after]; grind⟩
    cases hcall
    exact h.clear rfl rfl
  | beginCancellation | closeInputAndCancel =>
    simp only [call] at hcall
    split at hcall
    · cases hcall
      exact h.keep rfl rfl h.outstanding
    · cases hcall
      exact h.clear rfl rfl
  | completeTerminalPublication requestId | completeOutstandingRequest requestId =>
    cases hcall
    exact h.keep rfl rfl (hcomplete requestId hpermits)
  | beginPromptTerminalPublication =>
    cases hcall
    exact h.keep rfl rfl h.outstanding
  | beginTerminalPublication | deactivateAndClearQueuedMessages =>
    cases hcall
    exact h.clear rfl rfl
  | observeInputTerminal kind =>
    cases hcall
    obtain ⟨hsteer, hfollow, hids⟩ := inputTerminal_queues w.state kind
    exact h.keep hsteer hfollow (hids ▸ h.outstanding)
  | setActiveRun kind requestId =>
    simp only [call] at hcall
    split at hcall
    next =>
      cases hcall
      have hids : ∀ queued ∈ w.state.followUpMessages, queued.requestId ∈
          (w.state.setActiveRun kind requestId).outstandingRequestIds := by
        intro queued hqueued
        have hold := h.outstanding queued hqueued
        have herase := hcomplete w.state.activeRequestId
        unfold setActiveRun
        simp only [RpcRunState.Replaceable] at hreplace
        grind
      refine h.keep ?_ ?_ hids <;> unfold setActiveRun <;> grind
    next => cases hcall
  | clearQueuedSteeringMessages =>
    cases hcall
    exact ⟨by simpa [Ledger.after] using h.followUps, fun id => by
      simpa [Ledger.after, ofRun] using h.steering id, h.outstanding⟩

/-- Closed input and a cancellation keep messages out. -/
theorem accepted_eq_of_shut {c : Call} (hnext : w.next c = some w')
    (hshut : w.state.inputClosed = true ∨ w.state.cancelRequested = true) :
    w'.accepted = w.accepted := by
  obtain ⟨outcome, hcall, rfl⟩ := Option.map_eq_some_iff.mp hnext
  have hnone : outcome.accepted = fun _ => [] := by
    cases c with
    | queueRpcMessage lane requestId message =>
      simp only [call] at hcall
      have hopen := @queueRpcMessage_eq_ok w.state
      grind
    | _ =>
      simp only [call] at hcall
      repeat' split at hcall
      all_goals cases hcall
      all_goals rfl
  funext lane
  simp [Ledger.after, hnone]

/-- Input that is closed stays closed, and only `set_active_run` takes back a cancellation. -/
theorem flags_step {c : Call} (hnext : w.next c = some w') :
    (w.state.inputClosed = true → w'.state.inputClosed = true) ∧
      ((∀ kind requestId, c ≠ .setActiveRun kind requestId) → w.state.cancelRequested = true →
        w'.state.cancelRequested = true) := by
  obtain ⟨outcome, hcall, rfl⟩ := Option.map_eq_some_iff.mp hnext
  simp only [Ledger.after]
  cases c with
  | queueRpcMessage lane requestId message =>
    simp only [call] at hcall
    have hopen := @queueRpcMessage_eq_ok w.state
    grind
  | observeInputTerminal kind =>
    cases hcall
    cases kind <;> simp [inputTerminal]
  | setActiveRun kind requestId =>
    simp only [call] at hcall
    unfold setActiveRun at hcall
    grind
  | _ =>
    simp only [call] at hcall
    repeat' split at hcall
    all_goals cases hcall
    all_goals simp_all [deactivated, withoutQueued,
      completeOutstandingRequest, inputTerminal]

/-! ## §4. One fate. -/

/-- Lists that agree for every correlation id hold the same messages equally often. -/
theorem perm_of_ofRun_eq {l l' : List QueuedRpcMessage} (h : ∀ id, ofRun id l = ofRun id l') :
    l.Perm l' := by
  rw [List.perm_iff_count]
  intro m
  have hcount : ∀ l : List QueuedRpcMessage, l.count m = (ofRun m.correlationId l).count m := by
    intro l
    rw [ofRun, List.count_filter (by simp)]
  rw [hcount l, hcount l', h]

/-- **One fate for every accepted message.**  The follow-ups accepted are those handed out and
    those still queued, in the order of acceptance, and so are the steering messages of each run;
    every queued follow-up is outstanding; and nothing is accepted after the input was closed, or
    after a cancellation and before the next run. -/
structure OneFate (w : Ledger) : Prop extends Accounted w where
  once : (w.accepted .steer).Perm (w.steeringReturned ++ w.state.steeringMessages)
  closed : w.state.inputClosed = true → ∀ w', Reach (· = w) Step w' → w'.accepted = w.accepted
  canceled : w.state.cancelRequested = true → ∀ w', Reach (· = w) StepWithin w' →
    w'.accepted = w.accepted

/-- Nothing is accepted along steps that keep a flag which keeps messages out. -/
theorem accepted_kept {R : Ledger → Ledger → Prop} {f : RpcRunState → Bool}
    (hstep : ∀ v v', f v.state = true → R v v' → f v'.state = true ∧ v'.accepted = v.accepted)
    (hflag : f w.state = true) (hreach : Reach (· = w) R w') :
    w'.accepted = w.accepted := by
  refine (hreach.invariant (P := fun v => f v.state = true ∧ v.accepted = w.accepted) ?_ ?_).2
  · rintro v rfl
    exact ⟨hflag, rfl⟩
  · rintro v v' ⟨hv, haccepted⟩ hR
    obtain ⟨hv', hkept⟩ := hstep v v' hv hR
    exact ⟨hv', hkept.trans haccepted⟩

/-- **EVERY ACCEPTED MESSAGE HAS ONE FATE**, in every interleaving. -/
theorem rpc_messages_have_one_fate {w : Ledger} (h : Reach (· = {}) Step w) : OneFate w := by
  have haccounted : Accounted w := by
    refine h.invariant (P := Accounted) ?_ fun w w' hw hstep => hw.step hstep
    rintro w rfl
    exact ⟨rfl, fun _ => rfl, nofun⟩
  refine ⟨haccounted, perm_of_ofRun_eq fun id => ?_, fun hclosed w' => ?_, fun hcancel w' => ?_⟩
  · simpa [ofRun] using haccounted.steering id
  · refine accepted_kept (f := inputClosed) ?_ hclosed
    rintro v v' hv ⟨c, -, -, hnext⟩
    exact ⟨(flags_step hnext).1 hv, accepted_eq_of_shut hnext (.inl hv)⟩
  · refine accepted_kept (f := cancelRequested) ?_ hcancel
    rintro v v' hv ⟨c, hc, hnext⟩
    exact ⟨(flags_step hnext).2 hc hv, accepted_eq_of_shut hnext (.inr hv)⟩

/-- A follow-up is activated, and a steering message of the run before it is handed out after it. -/
theorem activated_follow_up_has_one_fate : ∃ w, w.followUpsReturned ≠ [] ∧ OneFate w := by
  have h₀ : Reach (· = {}) Step {} := .start rfl
  have h₁ := h₀.step ⟨.setActiveRun .prompt (ascii "a"), by
    simp only [RpcRunState.Permits]; decide, .inl rfl, rfl⟩
  have h₂ := h₁.step ⟨.queueRpcMessage .followUp (ascii "f") (ascii "next"), trivial, trivial, rfl⟩
  have h₃ := h₂.step ⟨.queueRpcMessage .steer (ascii "s") (ascii "faster"), trivial, trivial, rfl⟩
  have h₄ := h₃.step ⟨.beginPromptTerminalPublication, trivial, trivial, rfl⟩
  have h₅ := h₄.step ⟨.transitionAfterPromptTerminalResponse, trivial, trivial, rfl⟩
  have h₆ := h₅.step ⟨.takeQueuedSteeringMessages (ascii "a"), trivial, trivial, rfl⟩
  exact ⟨_, by decide, rpc_messages_have_one_fate h₆⟩

/-- The run of request `a` is completed before it ends, a follow-up takes its id, and the next run
    completes that id a second time: the follow-up stays in its queue and is not outstanding. -/
theorem replaced_run_completes_follow_up :
    ∃ w, Reach (· = {}) Permitted w ∧
      ∃ queued ∈ w.state.followUpMessages, queued.requestId ∉ w.state.outstandingRequestIds := by
  have h₀ : Reach (· = {}) Permitted {} := .start rfl
  have h₁ := h₀.step ⟨.setActiveRun .prompt (ascii "a"), by
    simp only [RpcRunState.Permits]; decide, rfl⟩
  have h₂ := h₁.step ⟨.completeOutstandingRequest (ascii "a"), nofun, rfl⟩
  have h₃ := h₂.step ⟨.queueRpcMessage .followUp (ascii "a") (ascii "next"), trivial, rfl⟩
  have h₄ := h₃.step ⟨.setActiveRun .prompt (ascii "b"), by
    simp only [RpcRunState.Permits]; decide, rfl⟩
  exact ⟨_, h₄, _, List.mem_singleton_self _, by decide⟩

end Ava.App.Rpc
