/-
  Ava.App.InteractiveQueue
  ────────────────────────
  **THE MESSAGE QUEUES OF AN INTERACTIVE RUN** (`app/interactive_run_queue.{h,cpp}`).  The user may
  steer a running turn or queue a follow-up.  Every change of the queues is announced to an event
  sink, and any announcement may fail.

  Every function of the source is one critical section, so a history is a sequence of calls; each
  call comes with the sink's answers to the events it emits.

    - §1 the source; §2 the ledger of a history;
    - §3 what the loops do to a queue; §4 `queued_messages_have_one_fate`.
-/
import Ava.Core.Prelude
import Ava.Lib.Transition

namespace Ava.App.Interactive

open Ava.Core Ava.Lib

/-! ## §1. The source. -/

/-- `InteractiveQueuedMessage`. -/
structure QueuedMessage where
  requestId : Bytes
  correlationId : Bytes
  message : Bytes
  sequence : Nat
deriving Repr, DecidableEq

/-- The events of the queue, by their names. -/
inductive EventName where
  | steerQueued | followUpQueued | steerApplied | steerSkipped | followUpSkipped | followUpStarted
deriving Repr, DecidableEq

/-- An event as `emit_event` fills it, with its payload not yet rendered. -/
structure QueueEvent where
  name : EventName
  message : QueuedMessage
  reason : Bytes := []
deriving Repr, DecidableEq

/-- `InteractiveRunQueue`, without its mutex, its session id and its sink. -/
structure RunQueue where
  activeRequestId : Bytes
  active : Bool := true
  nextSequence : Nat := 1
  steeringMessages : List QueuedMessage := []
  followUpMessages : List QueuedMessage := []

def kMaxInteractiveQueuedMessages : Nat := 64
def kMaxInteractiveQueuedMessageBytes : Nat := 64 * 1024

def queueError (message : String) : Error := { category := .invalidArgument, message := ascii message }

/-- `inactive_error`. -/
def inactiveError : Error := queueError "interactive queue requires an active backend run"

/-- `empty_message_error`. -/
def emptyMessageError : Error := queueError "interactive queued message is empty"

/-- `queue_limit_error`. -/
def queueLimitError : Error :=
  ((queueError "interactive queued message limit exceeded").withContext "max_entries"
    (decimal kMaxInteractiveQueuedMessages)).withContext "max_message_bytes"
      (decimal kMaxInteractiveQueuedMessageBytes)

/-- `no_queued_messages_error`. -/
def noQueuedMessagesError : Error := queueError "no active queued message to restore"

/-- `queued_message_bytes`. -/
def queuedMessageBytes (messages : List QueuedMessage) : Nat :=
  (messages.map fun queued => queued.message.length).sum

/-- What the sink answers to the events of one call, in order.  Without a sink every event is
    accepted. -/
abbrev Sink := Nat → Option Error

/-- What one call leaves: the queue, the events the sink accepted, the messages it was given and
    accepted, the messages it hands to its caller, and its error if it fails. -/
structure Outcome where
  queue : RunQueue
  emitted : List QueueEvent := []
  accepted : List QueuedMessage := []
  returned : List QueuedMessage := []
  error : Option Error := none

/-- The queue a message goes to. -/
inductive Lane where
  | steering | followUp
deriving Repr, DecidableEq

namespace RunQueue

variable (q : RunQueue) (sink : Sink)

def lane : Lane → List QueuedMessage
  | .steering => q.steeringMessages
  | .followUp => q.followUpMessages

def withLane : Lane → List QueuedMessage → RunQueue
  | .steering, messages => { q with steeringMessages := messages }
  | .followUp, messages => { q with followUpMessages := messages }

/-- `queue_message_locked`; `requestId` is the id that `make_id` gives. -/
def queueMessageLocked (lane : Lane) (name : EventName) (requestId message : Bytes) : Outcome :=
  if message = [] then { queue := q, error := some emptyMessageError }
  else if !q.active then { queue := q, error := some inactiveError }
  else if kMaxInteractiveQueuedMessages ≤ (q.lane lane).length ∨
      kMaxInteractiveQueuedMessageBytes < message.length ∨
      kMaxInteractiveQueuedMessageBytes < queuedMessageBytes (q.lane lane) + message.length then
    { queue := q, error := some queueLimitError }
  else
    let queued : QueuedMessage :=
      { requestId, correlationId := q.activeRequestId, message, sequence := q.nextSequence }
    let numbered := { q with nextSequence := q.nextSequence + 1 }
    match sink 0 with
    | some e => { queue := numbered, error := some e }
    | none =>
      { queue := numbered.withLane lane (q.lane lane ++ [queued])
        emitted := [{ name, message := queued }], accepted := [queued] }

/-- How the loop over the steering messages ends: what it has not looked at, what it put into
    `remaining`, what it announced, and the sink's error. -/
structure Drain where
  left : List QueuedMessage := []
  remaining : List QueuedMessage := []
  announced : List QueuedMessage := []
  error : Option Error := none

/-- The loop `take_steering_messages` and `skip_active_steering` share. -/
def drainActive (activeRequestId : Bytes) (sink : Sink) : Nat → List QueuedMessage → Drain
  | _, [] => {}
  | k, item :: rest =>
    if item.correlationId = activeRequestId then
      match sink k with
      | some e => { left := rest, error := some e }
      | none =>
        let out := drainActive activeRequestId sink (k + 1) rest
        { out with announced := item :: out.announced }
    else
      let out := drainActive activeRequestId sink k rest
      { out with remaining := item :: out.remaining }

/-- The loop on the steering messages of the queue. -/
def drainSteering : Drain := drainActive q.activeRequestId sink 0 q.steeringMessages

/-- The body both functions share; only the first hands out what it announced. -/
def drainWith (name : EventName) (reason : Bytes) (handsOut : Bool) : Outcome :=
  let out := q.drainSteering sink
  let emitted := out.announced.map fun message => { name, message, reason }
  match out.error with
  | some e => { queue := { q with steeringMessages := out.left }, emitted, error := some e }
  | none =>
    { queue := { q with steeringMessages := out.remaining }, emitted
      returned := if handsOut then out.announced else [] }

/-- `take_steering_messages`. -/
def takeSteeringMessages : Outcome := q.drainWith sink .steerApplied [] true

/-- `skip_active_steering`. -/
def skipActiveSteering (reason : Bytes) : Outcome := q.drainWith sink .steerSkipped reason false

/-- `take_next_follow_up`. -/
def takeNextFollowUp : Outcome :=
  match q.active, q.followUpMessages with
  | true, next :: rest => { queue := { q with followUpMessages := rest }, returned := [next] }
  | _, _ => { queue := q }

/-- `mark_follow_up_started`. -/
def markFollowUpStarted (message : QueuedMessage) : Outcome :=
  if !q.active then { queue := q, error := some inactiveError }
  else
    let queue := { q with activeRequestId := message.requestId }
    match sink 0 with
    | some e => { queue, error := some e }
    | none =>
      { queue
        emitted := [{ name := .followUpStarted
                      message := { message with correlationId := message.requestId } }] }

/-- The lane `restore_latest` takes its message from. -/
def latestLane : Lane :=
  match q.steeringMessages.getLast?, q.followUpMessages.getLast? with
  | some _, none => .steering
  | some steering, some followUp =>
    if followUp.sequence < steering.sequence then .steering else .followUp
  | none, _ => .followUp

def Lane.skipped : Lane → EventName
  | .steering => .steerSkipped
  | .followUp => .followUpSkipped

/-- `restore_latest`. -/
def restoreLatest : Outcome :=
  if !q.active then { queue := q, error := some inactiveError }
  else
    match (q.lane q.latestLane).getLast? with
    | none => { queue := q, error := some noQueuedMessagesError }
    | some restored =>
      match sink 0 with
      | some e => { queue := q, error := some e }
      | none =>
        { queue := q.withLane q.latestLane (q.lane q.latestLane).dropLast
          emitted := [{ name := Lane.skipped q.latestLane, message := restored
                        reason := ascii "restored_to_composer" }]
          returned := [restored] }

/-- A loop of `finish`: what stays queued, what was announced, and the sink's error. -/
def finishLoop (sink : Sink) :
    Nat → List QueuedMessage → List QueuedMessage × List QueuedMessage × Option Error
  | _, [] => ([], [], none)
  | k, item :: rest =>
    match sink k with
    | some e => (item :: rest, [], some e)
    | none =>
      let (left, announced, error) := finishLoop sink (k + 1) rest
      (left, item :: announced, error)

/-- `finish`. -/
def finish (canceled : Bool) : Outcome :=
  let reason := ascii (if canceled then "canceled" else "run_completed_before_safe_point")
  let (steering, steered, error) := finishLoop sink 0 q.steeringMessages
  let steered := steered.map fun message => { name := .steerSkipped, message, reason }
  match error with
  | some e =>
    { queue := { q with active := false, steeringMessages := steering }, emitted := steered
      error := some e }
  | none =>
    let (followUps, followed, error) := finishLoop sink q.steeringMessages.length q.followUpMessages
    { queue := { q with active := false, steeringMessages := steering, followUpMessages := followUps }
      emitted := steered ++ followed.map fun message => { name := .followUpSkipped, message, reason }
      error }

end RunQueue

/-- The calls, with their arguments. -/
inductive Call where
  | queueSteering (requestId message : Bytes)
  | queueFollowUp (requestId message : Bytes)
  | takeSteeringMessages
  | skipActiveSteering (reason : Bytes)
  | takeNextFollowUp
  | markFollowUpStarted (message : QueuedMessage)
  | restoreLatest
  | finish (canceled : Bool)

def RunQueue.call (q : RunQueue) (sink : Sink) : Call → Outcome
  | .queueSteering requestId message =>
    q.queueMessageLocked sink .steering .steerQueued requestId message
  | .queueFollowUp requestId message =>
    q.queueMessageLocked sink .followUp .followUpQueued requestId message
  | .takeSteeringMessages => q.takeSteeringMessages sink
  | .skipActiveSteering reason => q.skipActiveSteering sink reason
  | .takeNextFollowUp => q.takeNextFollowUp
  | .markFollowUpStarted message => q.markFollowUpStarted sink message
  | .restoreLatest => q.restoreLatest sink
  | .finish canceled => q.finish sink canceled

/-! ## §2. The ledger of a history. -/

/-- The events that announce the end of a message's stay in the queue. -/
def EventName.settles : EventName → Bool
  | .steerApplied | .steerSkipped | .followUpSkipped => true
  | .steerQueued | .followUpQueued | .followUpStarted => false

/-- The messages a call announced and did not hand to its caller. -/
def Outcome.announced (out : Outcome) : List QueuedMessage :=
  ((out.emitted.filter fun event => event.name.settles).map QueueEvent.message).filter
    (· ∉ out.returned)

/-- The queue, with all messages ever accepted, handed out and announced. -/
structure Ledger where
  queue : RunQueue
  accepted : List QueuedMessage := []
  returned : List QueuedMessage := []
  announced : List QueuedMessage := []

def Ledger.next (w : Ledger) (sink : Sink) (c : Call) : Ledger :=
  let out := w.queue.call sink c
  { queue := out.queue
    accepted := w.accepted ++ out.accepted
    returned := w.returned ++ out.returned
    announced := w.announced ++ out.announced }

def RunQueue.queued (q : RunQueue) : List QueuedMessage :=
  q.steeringMessages ++ q.followUpMessages

/-- **Every accepted message is exactly one of still queued, handed out and announced**: the three
    lists together are the accepted messages, and no two of these are the same. -/
structure OneFate (w : Ledger) : Prop where
  accounted : (w.queue.queued ++ (w.returned ++ w.announced)).Perm w.accepted
  distinct : (w.accepted.map QueuedMessage.sequence).Nodup

/-- The sink accepts the event of every steering message that the call takes out of the queue to
    announce it.  Only `take_steering_messages` and `skip_active_steering` take it out first. -/
def RunQueue.Reliable (q : RunQueue) (sink : Sink) : Call → Prop
  | .takeSteeringMessages | .skipActiveSteering _ =>
    ∀ k < q.steeringMessages.countP (·.correlationId = q.activeRequestId), sink k = none
  | _ => True

def Init (w : Ledger) : Prop := ∃ id, w = { queue := { activeRequestId := id } }

/-- Histories of such calls. -/
def Step (w w' : Ledger) : Prop := ∃ sink c, w.queue.Reliable sink c ∧ w' = w.next sink c

/-! ## §3. What one call does to the messages. -/

namespace RunQueue

variable {q : RunQueue} {sink : Sink}

/-- The loop fails at the first message of the active request that the sink does not accept. -/
theorem drainActive_error {id : Bytes} : ∀ (l : List QueuedMessage) (k : Nat),
    (drainActive id sink k l).error = none ↔
      ∀ j < l.countP (·.correlationId = id), sink (k + j) = none := by
  intro l
  induction l with
  | nil => simp [drainActive]
  | cons item rest ih =>
    intro k
    unfold drainActive
    by_cases hactive : item.correlationId = id
    · rw [if_pos hactive, List.countP_cons_of_pos (by simpa using hactive)]
      -- the event of this message is number k, and those of the others follow
      rw [Nat.forall_lt_succ_left]
      cases hsink : sink k with
      | some e => simp
      | none =>
        simp only [ih (k + 1), true_and]
        refine forall₂_congr fun j _ => ?_
        rw [show k + 1 + j = k + (j + 1) by omega]
    · rw [if_neg hactive, List.countP_cons_of_neg (by simpa using hactive)]
      exact ih k

/-- A loop that keeps its sink announces a part of the messages and puts the others aside. -/
theorem drainActive_perm {id : Bytes} : ∀ (l : List QueuedMessage) (k : Nat),
    (drainActive id sink k l).error = none →
    ((drainActive id sink k l).remaining ++ (drainActive id sink k l).announced).Perm l := by
  intro l
  induction l with
  | nil => simp [drainActive]
  | cons item rest ih =>
    intro k h
    unfold drainActive at h ⊢
    split at h
    next hactive =>
      rw [if_pos hactive]
      split at h
      next => cases h
      next => exact List.perm_middle.trans ((ih (k + 1) h).cons item)
    next hother =>
      rw [if_neg hother]
      exact (ih k h).cons item

/-- A loop that loses its sink loses the message it was announcing. -/
theorem drainActive_lost {id : Bytes} : ∀ (l : List QueuedMessage) (k : Nat),
    (drainActive id sink k l).error ≠ none →
    (drainActive id sink k l).left.length + (drainActive id sink k l).announced.length < l.length := by
  intro l
  induction l with
  | nil => simp [drainActive]
  | cons item rest ih =>
    intro k h
    unfold drainActive at h ⊢
    split at h
    next hactive =>
      rw [if_pos hactive]
      split at h
      next => simp
      next =>
        have hrest := ih (k + 1) h
        simp only [List.length_cons]
        omega
    next hother =>
      have hrest := ih k h
      simp only [if_neg hother, List.length_cons]
      omega

/-- `finish` takes a message off the queue once it is announced. -/
theorem finishLoop_append (sink : Sink) : ∀ (l : List QueuedMessage) (k : Nat),
    (finishLoop sink k l).2.1 ++ (finishLoop sink k l).1 = l := by
  intro l
  induction l with
  | nil => simp [finishLoop]
  | cons item rest ih =>
    intro k
    unfold finishLoop
    split
    next => rfl
    next => exact congrArg (item :: ·) (ih (k + 1))

/-- No message is lost. -/
def Conserves (q : RunQueue) (out : Outcome) : Prop :=
  (out.queue.queued ++ (out.returned ++ out.announced)).Perm (q.queued ++ out.accepted)

variable {name : EventName}

theorem settled_events (h : name.settles = true) (reason : Bytes) (l : List QueuedMessage) :
    ((l.map fun message => ({ name, message, reason } : QueueEvent)).filter fun event =>
      event.name.settles).map QueueEvent.message = l := by
  induction l with
  | nil => rfl
  | cons m l ih =>
    rw [List.map_cons, List.filter_cons, if_pos h, List.map_cons, ih]

/-- The messages of events that settle them, without those that are handed out. -/
theorem announced_eq {out : Outcome} {reason : Bytes} {l : List QueuedMessage}
    (h : out.emitted = l.map fun message => { name, message, reason }) (hname : name.settles = true) :
    out.announced = l.filter (· ∉ out.returned) := by
  rw [Outcome.announced, h, settled_events hname]

/-- A call that takes messages out of one lane, and hands out or announces what it takes. -/
theorem conserves_of_moved (lane : Lane) (moved : List QueuedMessage) {l : List QueuedMessage}
    {out : Outcome} {reason : Bytes} (hqueue : out.queue.queued = (q.withLane lane l).queued)
    (hemitted : out.emitted = moved.map fun message => { name, message, reason })
    (hname : name.settles = true) (haccepted : out.accepted = [])
    (hreturned : out.returned = moved ∨ out.returned = [])
    (h : (l ++ moved).Perm (q.lane lane)) : q.Conserves out := by
  have hsettled : out.returned ++ out.announced = moved := by
    rw [announced_eq hemitted hname]
    obtain h | h := hreturned
    · simp [h]
    · simp [h]
  rw [Conserves, hqueue, hsettled, haccepted, List.append_nil]
  rw [List.perm_iff_count] at h ⊢
  intro m
  have hm := h m
  cases lane
  all_goals
    simp only [queued, withLane, RunQueue.lane, List.count_append] at hm ⊢
    omega

theorem drainWith_conserves (hname : name.settles = true) (reason : Bytes)
    (handsOut : Bool) (h : (q.drainSteering sink).error = none) :
    q.Conserves (q.drainWith sink name reason handsOut) := by
  unfold drainWith
  simp only [h]
  refine conserves_of_moved .steering _ rfl rfl hname rfl ?_
    (drainActive_perm q.steeringMessages 0 h)
  cases handsOut with
  | true => exact .inl rfl
  | false => exact .inr rfl

theorem drainWith_lost (hname : name.settles = true) (reason : Bytes)
    (handsOut : Bool) (h : (q.drainSteering sink).error ≠ none) :
    ¬ q.Conserves (q.drainWith sink name reason handsOut) := by
  have hlost := drainActive_lost q.steeringMessages 0 h
  obtain ⟨e, he⟩ := Option.ne_none_iff_exists'.mp h
  intro hperm
  have hlength := hperm.length_eq
  simp only [drainWith, he] at hlength
  rw [announced_eq rfl hname] at hlength
  simp [queued, drainSteering] at hlength
  omega

theorem restoreLatest_conserves : q.Conserves (q.restoreLatest sink) := by
  unfold restoreLatest
  split
  next => simp [Conserves, Outcome.announced]
  split
  next => simp [Conserves, Outcome.announced]
  next restored hlast =>
    split
    next => simp [Conserves, Outcome.announced]
    next =>
      refine conserves_of_moved q.latestLane [restored] rfl rfl ?_ rfl (.inl rfl) ?_
      · cases q.latestLane <;> rfl
      · rw [List.dropLast_append_getLast? restored hlast]

theorem finish_conserves (canceled : Bool) : q.Conserves (q.finish sink canceled) := by
  have hsteering := finishLoop_append sink q.steeringMessages 0
  have hfollow := finishLoop_append sink q.followUpMessages q.steeringMessages.length
  unfold finish
  generalize finishLoop sink 0 q.steeringMessages = steered at hsteering ⊢
  generalize finishLoop sink _ q.followUpMessages = followed at hfollow ⊢
  obtain ⟨left, announced, _ | e⟩ := steered
  obtain ⟨followLeft, followAnnounced, error⟩ := followed
  · rw [Conserves, Outcome.announced, List.filter_append, List.map_append, settled_events rfl,
      settled_events rfl, List.perm_iff_count]
    intro m
    have hm := congrArg (List.count m) hsteering
    have hm' := congrArg (List.count m) hfollow
    simp [queued, List.count_append] at hm hm' ⊢
    omega
  · exact conserves_of_moved .steering announced rfl rfl rfl rfl (.inr rfl)
      (List.perm_append_comm.trans (List.Perm.of_eq hsteering))

/-- **A CALL KEEPS EVERY MESSAGE EXACTLY WHEN IT IS RELIABLE.** -/
theorem call_conserves_iff (c : Call) : q.Conserves (q.call sink c) ↔ q.Reliable sink c := by
  have hdrain : ∀ {name : EventName} (reason : Bytes) (handsOut : Bool), name.settles = true →
      (q.Conserves (q.drainWith sink name reason handsOut) ↔
        q.Reliable sink .takeSteeringMessages) := by
    intro name reason handsOut hname
    have hreliable : q.Reliable sink .takeSteeringMessages ↔ (q.drainSteering sink).error = none := by
      simp [drainSteering, drainActive_error, Reliable]
    rw [hreliable]
    by_cases herror : (q.drainSteering sink).error = none
    · exact iff_of_true (drainWith_conserves hname reason handsOut herror) herror
    · exact iff_of_false (drainWith_lost hname reason handsOut herror) herror
  cases c with
  | takeSteeringMessages => exact hdrain [] true rfl
  | skipActiveSteering reason => exact hdrain reason false rfl
  | restoreLatest => exact iff_of_true restoreLatest_conserves trivial
  | finish canceled => exact iff_of_true (finish_conserves canceled) trivial
  | queueSteering requestId message | queueFollowUp requestId message =>
    refine iff_of_true ?_ trivial
    unfold Conserves call queueMessageLocked
    grind [queued, lane, withLane, Outcome.announced, EventName.settles]
  | takeNextFollowUp | markFollowUpStarted message =>
    refine iff_of_true ?_ trivial
    unfold Conserves call takeNextFollowUp markFollowUpStarted
    grind [queued, Outcome.announced, EventName.settles]

/-- What is accepted gets the next number. -/
theorem call_accepted (q : RunQueue) (sink : Sink) (c : Call) :
    q.nextSequence ≤ (q.call sink c).queue.nextSequence ∧
      ((q.call sink c).accepted = [] ∨ ∃ m, (q.call sink c).accepted = [m] ∧
        m.sequence = q.nextSequence ∧ (q.call sink c).queue.nextSequence = q.nextSequence + 1) := by
  cases c with
  | queueSteering requestId message | queueFollowUp requestId message =>
    unfold call queueMessageLocked
    grind [withLane]
  | takeSteeringMessages | skipActiveSteering reason =>
    unfold call takeSteeringMessages skipActiveSteering drainWith
    grind
  | takeNextFollowUp | markFollowUpStarted message | finish canceled =>
    unfold call takeNextFollowUp markFollowUpStarted finish
    grind
  | restoreLatest =>
    have hlane : ∀ lane l, (q.withLane lane l).nextSequence = q.nextSequence := by
      intro lane l
      cases lane <;> rfl
    unfold call restoreLatest
    grind

end RunQueue

/-! ## §4. One fate. -/

/-- The account, and that the accepted messages have been numbered. -/
structure Accounted (w : Ledger) : Prop extends OneFate w where
  numbered : ∀ m ∈ w.accepted, m.sequence < w.queue.nextSequence

variable {w : Ledger}

/-- A call that no message gets lost in keeps the account, and only such a call does. -/
theorem Accounted.next_iff (h : Accounted w) (sink : Sink) (c : Call) :
    OneFate (w.next sink c) ↔ w.queue.Reliable sink c := by
  have hbefore := h.accounted
  rw [← RunQueue.call_conserves_iff]
  constructor
  · intro hnext
    have hafter := hnext.accounted
    rw [RunQueue.Conserves]
    rw [List.perm_iff_count] at hbefore hafter ⊢
    intro m
    have hm := hbefore m
    have hm' := hafter m
    simp only [Ledger.next, List.count_append] at hm hm' ⊢
    omega
  · intro hcall
    refine ⟨?_, ?_⟩
    · rw [RunQueue.Conserves] at hcall
      rw [List.perm_iff_count] at hbefore hcall ⊢
      intro m
      have hm := hbefore m
      have hm' := hcall m
      simp only [Ledger.next, List.count_append] at hm hm' ⊢
      omega
    · obtain ⟨-, hnone | ⟨m, hone, hsequence, -⟩⟩ := w.queue.call_accepted sink c
      · simpa [Ledger.next, hnone] using h.distinct
      · have hfresh : ∀ m' ∈ w.accepted, m'.sequence ≠ m.sequence := by
          intro m' hm'
          have := h.numbered m' hm'
          omega
        simpa [Ledger.next, hone, List.nodup_append, h.distinct] using hfresh

theorem Accounted.step {w' : Ledger} (h : Accounted w) (hstep : Step w w') : Accounted w' := by
  obtain ⟨sink, c, hreliable, rfl⟩ := hstep
  refine ⟨(h.next_iff sink c).mpr hreliable, ?_⟩
  obtain ⟨hle, haccepted⟩ := w.queue.call_accepted sink c
  intro m hm
  obtain hm | hm := List.mem_append.mp hm
  · exact Nat.lt_of_lt_of_le (h.numbered m hm) hle
  · obtain hnone | ⟨m', hone, hsequence, hnext⟩ := haccepted
    · simp [hnone] at hm
    · rw [hone, List.mem_singleton] at hm
      show m.sequence < (w.queue.call sink c).queue.nextSequence
      rw [hnext, hm, hsequence]
      exact Nat.lt_succ_self _

theorem Accounted.of_init (h : Init w) : Accounted w := by
  obtain ⟨id, rfl⟩ := h
  exact ⟨⟨List.Perm.refl _, List.nodup_nil⟩, by simp⟩

/-- **EVERY ACCEPTED MESSAGE HAS ONE FATE** in a history whose calls are reliable, and the next call
    keeps it so exactly when it is reliable, too. -/
theorem queued_messages_have_one_fate (w : Ledger) (h : Reach Init Step w) :
    OneFate w ∧ ∀ sink c, OneFate (w.next sink c) ↔ w.queue.Reliable sink c := by
  have haccounted : Accounted w :=
    h.invariant (fun _ => Accounted.of_init) fun _ _ hw hstep => hw.step hstep
  exact ⟨haccounted.toOneFate, haccounted.next_iff⟩

/-- A history of one accepted message. -/
def oneSteered : Ledger :=
  ({ queue := { activeRequestId := [1] } } : Ledger).next (fun _ => none) (.queueSteering [2] [97])

theorem oneSteered_reachable : Reach Init Step oneSteered :=
  .step (.start ⟨[1], rfl⟩) ⟨fun _ => none, .queueSteering [2] [97], trivial, rfl⟩

/-- The message is accepted, and taking it with a working sink keeps the account. -/
theorem one_steered_has_one_fate :
    oneSteered.accepted ≠ [] ∧ OneFate (oneSteered.next (fun _ => none) .takeSteeringMessages) :=
  ⟨by decide, ((queued_messages_have_one_fate oneSteered oneSteered_reachable).2 _ _).mpr fun _ _ => rfl⟩

/-- A sink that fails while a message is taken: the message is accepted, and it is neither queued
    nor handed out nor announced, although the call has failed. -/
theorem take_with_failed_sink_loses_message :
    let lost := oneSteered.next (fun _ => some inactiveError) .takeSteeringMessages
    lost.accepted.map QueuedMessage.message = [[97]] ∧ lost.queue.queued = [] ∧
      lost.returned = [] ∧ lost.announced = [] := by
  decide

end Ava.App.Interactive
