/-
  Ava.Agent.SubagentInspector
  **THE FRAMES OF A LIVE INSPECTION** (`agent/subagent_inspector.cpp` and `inspect`, `complete`,
  `shutdown` of `agent/subagent_coordinator.cpp`).

  `inspect` captures the source of a job, looks again, takes a fingerprint and a projection of
  the child session without any lock, and stores a new frame if nobody has stored one in the
  meantime.  `complete` takes the source away and stores the last frame; `shutdown` and eviction
  only take it away.  The child session grows while all this goes on.

  Frames are numbered by a 64-bit generation.  It cannot come round: a live frame is stored only
  when the fingerprint has changed since the last one, so only when the file has grown, and a
  file of more than a mebibyte is not projected.

    - §1 frames; §2 the source; §3 programs; §4 steps;
    - §5 the generation; §6 what is kept; §7 each step keeps it; §8 frames never go back.
-/
import Ava.Lib.Transition
import Ava.Session.Read
import Mathlib.Data.List.Basic

namespace Ava.Agent.Inspector

open Ava.Core Ava.Core.Json Ava.Lib Ava.Session Function

/-! ## §1. Frames. -/

/-- `SubagentInspectorFrame`. -/
structure Frame (μ : Type) where
  generation : UInt64
  notModified : Bool := false
  terminal : Bool
  freezePending : Bool
  unavailable : Bool := false
  refreshUnavailable : Bool := false
  messages : List μ := []

/-- `advance_content_generation`. -/
def advanceContentGeneration (current : UInt64) : UInt64 :=
  if current + 1 = 0 then 1 else current + 1

/-- The part of `JobState` that `inspect` works on.  There is one source, and it is only ever
    taken away. -/
structure State (μ φ : Type) where
  source : Bool
  published : Option (Frame μ) := none
  publishedFingerprint : Option φ := none
  sourceEpoch : UInt64 := 1
  contentGeneration : UInt64 := 0
  freezePending : Bool := false
  terminal : Bool := false

section

variable {μ φ : Type}

/-- `stamp_inspection_frame`. -/
def stampInspectionFrame (generation : UInt64) (terminal freezePending unavailable
    refreshUnavailable : Bool) (messages : List μ) : Frame μ :=
  { generation, terminal, freezePending, unavailable, refreshUnavailable, messages }

/-- `view_published_frame`. -/
def viewPublishedFrame (f : Frame μ) (terminal freezePending : Bool) : Frame μ :=
  if f.terminal = terminal ∧ f.freezePending = freezePending ∧ f.notModified = false then f
  else
    stampInspectionFrame f.generation terminal freezePending f.unavailable f.refreshUnavailable
      f.messages

/-- `make_unavailable_inspection_frame`. -/
def unavailableFrame (generation : UInt64) (terminal freezePending : Bool) : Frame μ :=
  { generation, terminal, freezePending, unavailable := true }

/-- `make_not_modified_inspection_frame`. -/
def notModifiedFrame (generation : UInt64) (terminal freezePending : Bool) : Frame μ :=
  { generation, terminal, freezePending, notModified := true }

/-- `make_refresh_unavailable_inspection_frame`. -/
def refreshUnavailableFrame (generation : UInt64) (terminal freezePending : Bool)
    (messages : List μ) : Frame μ :=
  { generation, terminal, freezePending, refreshUnavailable := true
    unavailable := messages.isEmpty, messages }

/-- The published frame with these flags, or a frame that says there is none. -/
def frameOr (published : Option (Frame μ)) (generation : UInt64) (terminal freezePending : Bool) :
    Frame μ :=
  match published with
  | some f => viewPublishedFrame f terminal freezePending
  | none => unavailableFrame generation terminal freezePending

/-- `current_frame_locked`. -/
def State.currentFrame (s : State μ φ) : Frame μ :=
  frameOr s.published s.contentGeneration s.terminal s.freezePending

/-- The answer when the source cannot be read. -/
def State.failedFrame (s : State μ φ) : Frame μ :=
  match s.published with
  | some f => refreshUnavailableFrame f.generation s.terminal s.freezePending f.messages
  | none => refreshUnavailableFrame s.contentGeneration s.terminal s.freezePending []

/-- The invalidation of a source: by `complete`, `shutdown` and eviction. -/
def State.detach (s : State μ φ) : State μ φ :=
  { s with source := false, freezePending := false
           sourceEpoch := if s.sourceEpoch + 1 = 0 then 1 else s.sourceEpoch + 1 }

/-- The handoff inside `complete`. -/
def State.finish (s : State μ φ) : State μ φ :=
  { s.detach with terminal := true, freezePending := s.source }

end

/-! ## §2. The source. -/

/-- `subagent_inspector_read_limits`. -/
def subagentInspectorReadLimits : SessionReadLimits :=
  { maxFileBytes := some (1024 * 1024), maxLineBytes := 256 * 1024, maxEntries := some 1000 }

/-- The smaller of two limits, `none` being the largest `size_t`. -/
def minLimit : Option Nat → Option Nat → Option Nat
  | none, b => b
  | some a, none => some a
  | some a, some b => some (min a b)

/-- `SessionReadAuthority::clamp_limits`. -/
def clampLimits (policy request : SessionReadLimits) : SessionReadLimits :=
  { maxFileBytes := minLimit policy.maxFileBytes request.maxFileBytes
    maxLineBytes := min policy.maxLineBytes request.maxLineBytes
    maxEntries := minLimit policy.maxEntries request.maxEntries }

/-- `SubagentLiveInspectionSource`: the lease on the child's file.  `transcript` is what
    `project_transcript` makes of the entries.  `print` is `fstat`: the file only changes by
    appending, so in one run there is one fingerprint to each content. -/
structure Source (μ φ : Type) where
  sax : SaxParser
  path : Bytes
  policy : SessionReadLimits
  transcript : List SessionEntry → Option (List μ)
  print : Bytes → φ

section

variable {μ φ : Type}

/-- `project_messages` of a file with this content. -/
def Source.projectMessages (src : Source μ φ) (content : Bytes) : Option (List μ) :=
  match loadBounded src.sax src.path (clampLimits src.policy subagentInspectorReadLimits) content with
  | .ok entries => src.transcript entries
  | .error _ => none

theorem exceeds_minLimit {a : Option Nat} {b n : Nat} (h : exceeds (minLimit a (some b)) n = false) :
    n ≤ b := by
  cases a with
  | none => exact exceeds_false_iff.mp h b rfl
  | some a =>
    have hmin : n ≤ min a b := exceeds_false_iff.mp h _ rfl
    omega

/-- Whatever the policy, a file of more than a mebibyte has no projection. -/
theorem Source.length_of_projectMessages {src : Source μ φ} {content : Bytes} {messages : List μ}
    (h : src.projectMessages content = some messages) : content.length ≤ 1024 * 1024 := by
  unfold Source.projectMessages loadBounded at h
  cases hlimits : validateReadLimits (clampLimits src.policy subagentInspectorReadLimits) with
  | error e => simp only [hlimits, reduceCtorEq] at h
  | ok u =>
    simp only [hlimits] at h
    by_cases hfile : exceeds (clampLimits src.policy subagentInspectorReadLimits).maxFileBytes
        content.length = true
    · simp only [hfile, if_true, reduceCtorEq] at h
    · exact exceeds_minLimit (Bool.eq_false_iff.mpr hfile)

end

/-! ## §3. Programs. -/

/-- What an `inspect` carries from its second look to the lock under which it may store.
    `at_` and `upTo` are not in the code: how many frames had been stored at the second look, and
    how long the file was when the fingerprint was taken. -/
structure Reading (φ : Type) where
  known : Option UInt64
  epoch : UInt64
  generation : UInt64
  print : φ
  at_ : Nat
  upTo : Nat

/-- Where a call of `inspect` is.  `seen` is the length of the file that was projected. -/
inductive Phase (μ φ : Type) where
  | idle
  | settled (known : Option UInt64) (published : Option (Frame μ)) (generation : UInt64)
      (terminal freezePending : Bool)
  | captured (known : Option UInt64) (epoch : UInt64)
  | rechecked (known : Option UInt64) (epoch : UInt64) (published : Option (Frame μ))
      (fingerprint : Option φ) (generation : UInt64) (at_ : Nat)
  | comparing (known : Option UInt64) (epoch : UInt64) (print : φ)
  | printed (r : Reading φ)
  | projected (r : Reading φ) (messages : List μ) (seen : Nat)
  | failed (known : Option UInt64) (epoch : UInt64)

/-- Where `complete` is with its final projection. -/
inductive Freeze (μ φ : Type) where
  | idle
  | projecting (epoch : UInt64)
  | printing (epoch : UInt64) (messages : Option (List μ)) (seen : Nat)
  | storing (epoch : UInt64) (messages : Option (List μ)) (print : Option φ) (seen : Nat)

/-- A frame that was stored: by a live inspection or by the freeze, and whether the source epoch
    had been advanced before. -/
structure Stored (μ : Type) where
  frame : Frame μ
  seen : Nat
  upTo : Nat
  live : Bool
  advanced : Bool

/-- An answer of `inspect` with the frame that was stored at that moment. -/
structure Answer (μ : Type) where
  known : Option UInt64
  frame : Frame μ
  stored : Option (Frame μ)

/-- `log` and `answers` have the newest first. -/
structure World (μ φ : Type) where
  history : Bytes := []
  state : State μ φ
  inspectors : Nat → Phase μ φ := fun _ => .idle
  freeze : Freeze μ φ := .idle
  advanced : Bool := false
  log : List (Stored μ) := []
  answers : List (Answer μ) := []

section

variable {μ φ : Type}

def World.goto (w : World μ φ) (i : Nat) (phase : Phase μ φ) : World μ φ :=
  { w with inspectors := update w.inspectors i phase }

def World.answer (w : World μ φ) (i : Nat) (known : Option UInt64) (frame : Frame μ) : World μ φ :=
  { w with answers := ⟨known, frame, w.state.published⟩ :: w.answers
           inspectors := update w.inspectors i .idle }

/-- The answer of an `inspect` that found no source. -/
def settledFrame (known : Option UInt64) (published : Option (Frame μ)) (generation : UInt64)
    (terminal freezePending : Bool) : Frame μ :=
  if terminal = true ∧ freezePending = false then
    match published with
    | some f =>
      if known = some f.generation then notModifiedFrame f.generation true false
      else viewPublishedFrame f true false
    | none => unavailableFrame generation true false
  else if freezePending then frameOr published generation true true
  else frameOr published generation terminal freezePending

/-- Whether the source an `inspect` captured is still the job's. -/
def State.holds (s : State μ φ) (epoch : UInt64) : Bool := s.source && s.sourceEpoch == epoch

/-- The frame of a live projection. -/
def State.liveFrame (s : State μ φ) (messages : List μ) : Frame μ :=
  stampInspectionFrame (advanceContentGeneration s.contentGeneration) s.terminal s.freezePending
    false false messages

/-- The store of a live projection. -/
def State.publish (s : State μ φ) (print : φ) (messages : List μ) : State μ φ :=
  { s with contentGeneration := advanceContentGeneration s.contentGeneration
           published := some (s.liveFrame messages), publishedFingerprint := some print }

/-- The frame of the freeze.  A projection that failed keeps the messages there are. -/
def State.frozenFrame (s : State μ φ) (messages : Option (List μ)) : Frame μ :=
  match messages, s.published with
  | some messages, _ =>
    stampInspectionFrame (advanceContentGeneration s.contentGeneration) true false false false
      messages
  | none, some f =>
    stampInspectionFrame (advanceContentGeneration s.contentGeneration) true false false true
      f.messages
  | none, none => unavailableFrame (advanceContentGeneration s.contentGeneration) true false

/-- The store of the freeze. -/
def State.frozen (s : State μ φ) (messages : Option (List μ)) (print : Option φ) : State μ φ :=
  { s with
    contentGeneration := advanceContentGeneration s.contentGeneration
    published := some (s.frozenFrame messages)
    publishedFingerprint :=
      match messages, s.published with
      | some _, _ => print.or s.publishedFingerprint
      | none, some _ => s.publishedFingerprint
      | none, none => none
    freezePending := false }

variable [DecidableEq φ]

/-- Whether the published frame is the known one and the content has not changed. -/
def unchanged (known : Option UInt64) (published : Option (Frame μ)) (fingerprint : Option φ)
    (print : φ) : Bool :=
  match published with
  | some f => known == some f.generation && fingerprint == some print
  | none => false

/-- The locked comparison of an `inspect` that saw the known fingerprint.  The answer carries the
    generation of the frame that is published now, not the counter. -/
def State.comparedFrame (s : State μ φ) (known : Option UInt64) (print : φ) : Frame μ :=
  match s.published with
  | some f =>
    if unchanged known (some f) s.publishedFingerprint print then
      notModifiedFrame f.generation s.terminal s.freezePending
    else viewPublishedFrame f s.terminal s.freezePending
  | none => s.currentFrame

/-- Whether a projection is stored: the source is the captured one, the fingerprint is not the
    published one, and no frame has been stored since the second look. -/
def State.publishes (s : State μ φ) (r : Reading φ) : Bool :=
  s.holds r.epoch && !(s.publishedFingerprint == some r.print && s.published.isSome) &&
    s.contentGeneration == r.generation

end

/-! ## §4. Steps. -/

section

variable {μ φ : Type} [DecidableEq φ]

/-- The moves of an `inspect` that store nothing and do not answer.  The source may fail to be
    read at any time. -/
inductive Look (src : Source μ φ) (w : World μ φ) : Phase μ φ → Phase μ φ → Prop
  | settle (known : Option UInt64) (hsource : w.state.source = false) :
      Look src w .idle
        (.settled known w.state.published w.state.contentGeneration w.state.terminal
          w.state.freezePending)
  | capture (known : Option UInt64) (hsource : w.state.source = true) :
      Look src w .idle (.captured known w.state.sourceEpoch)
  | recheck (known : Option UInt64) (epoch : UInt64) (hholds : w.state.holds epoch = true) :
      Look src w (.captured known epoch)
        (.rechecked known epoch w.state.published w.state.publishedFingerprint
          w.state.contentGeneration w.log.length)
  | printFails (known : Option UInt64) (epoch : UInt64) (published : Option (Frame μ))
      (fingerprint : Option φ) (generation : UInt64) (at_ : Nat) :
      Look src w (.rechecked known epoch published fingerprint generation at_) (.failed known epoch)
  | same (known : Option UInt64) (epoch : UInt64) (published : Option (Frame μ))
      (fingerprint : Option φ) (generation : UInt64) (at_ : Nat)
      (hsame : unchanged known published fingerprint (src.print w.history) = true) :
      Look src w (.rechecked known epoch published fingerprint generation at_)
        (.comparing known epoch (src.print w.history))
  | print (known : Option UInt64) (epoch : UInt64) (published : Option (Frame μ))
      (fingerprint : Option φ) (generation : UInt64) (at_ : Nat)
      (hnew : unchanged known published fingerprint (src.print w.history) = false) :
      Look src w (.rechecked known epoch published fingerprint generation at_)
        (.printed ⟨known, epoch, generation, src.print w.history, at_, w.history.length⟩)
  | projectFails (r : Reading φ) : Look src w (.printed r) (.failed r.known r.epoch)
  | project (r : Reading φ) (messages : List μ)
      (hproject : src.projectMessages w.history = some messages) :
      Look src w (.printed r) (.projected r messages w.history.length)

/-- The answers of an `inspect` that stores nothing.  The three refusals of a projection all give
    the current frame. -/
inductive Reply (w : World μ φ) : Phase μ φ → Option UInt64 → Frame μ → Prop
  | settled (known : Option UInt64) (published : Option (Frame μ)) (generation : UInt64)
      (terminal freezePending : Bool) :
      Reply w (.settled known published generation terminal freezePending) known
        (settledFrame known published generation terminal freezePending)
  | stale (known : Option UInt64) (epoch : UInt64) (hstale : w.state.holds epoch = false) :
      Reply w (.captured known epoch) known w.state.currentFrame
  | failed (known : Option UInt64) (epoch : UInt64) :
      Reply w (.failed known epoch) known
        (if w.state.holds epoch then w.state.failedFrame else w.state.currentFrame)
  | compare (known : Option UInt64) (epoch : UInt64) (print : φ) :
      Reply w (.comparing known epoch print) known
        (if w.state.holds epoch then w.state.comparedFrame known print else w.state.currentFrame)
  | discard (r : Reading φ) (messages : List μ) (seen : Nat)
      (hrefused : w.state.publishes r = false) :
      Reply w (.projected r messages seen) r.known w.state.currentFrame

/-- A frame enters `published_inspection`. -/
def World.store (w : World μ φ) (state : State μ φ) (e : Stored μ) : World μ φ :=
  { w with state, log := e :: w.log }

/-- How long the history of a frozen frame is: a projection that failed keeps the old one. -/
def World.frozenSeen (w : World μ φ) (messages : Option (List μ)) (seen : Nat) : Nat :=
  match messages with
  | some _ => seen
  | none => (w.log.head?.map Stored.seen).getD 0

/-- `detach` is a section of `shutdown` or an eviction. -/
inductive Step (src : Source μ φ) (w : World μ φ) : World μ φ → Prop
  | append (chunk : Bytes) : Step src w { w with history := w.history ++ chunk }
  | look (i : Nat) (p q : Phase μ φ) (hphase : w.inspectors i = p) (hlook : Look src w p q) :
      Step src w (w.goto i q)
  | reply (i : Nat) (p : Phase μ φ) (known : Option UInt64) (frame : Frame μ)
      (hphase : w.inspectors i = p) (hreply : Reply w p known frame) :
      Step src w (w.answer i known frame)
  | publish (i : Nat) (r : Reading φ) (messages : List μ) (seen : Nat)
      (hphase : w.inspectors i = .projected r messages seen)
      (hpublishes : w.state.publishes r = true) :
      Step src w
        ((w.store (w.state.publish r.print messages)
          ⟨w.state.liveFrame messages, seen, r.upTo, true, w.advanced⟩).answer i r.known
            (w.state.liveFrame messages))
  | finish (hopen : w.state.terminal = false) :
      Step src w
        { w with
          state := w.state.finish, advanced := true
          freeze := if w.state.source then .projecting w.state.finish.sourceEpoch else w.freeze }
  | freezeProject (epoch : UInt64) (messages : Option (List μ))
      (hfreeze : w.freeze = .projecting epoch)
      (hmessages : messages = none ∨ messages = src.projectMessages w.history) :
      Step src w { w with freeze := .printing epoch messages w.history.length }
  | freezePrint (epoch : UInt64) (messages : Option (List μ)) (seen : Nat) (print : Option φ)
      (hfreeze : w.freeze = .printing epoch messages seen)
      (hprint : print = none ∨ print = some (src.print w.history)) :
      Step src w { w with freeze := .storing epoch messages print seen }
  | freezeStore (epoch : UInt64) (messages : Option (List μ)) (print : Option φ) (seen : Nat)
      (hfreeze : w.freeze = .storing epoch messages print seen)
      (hpending : w.state.freezePending = true) (hepoch : w.state.sourceEpoch = epoch) :
      Step src w
        { w.store (w.state.frozen messages print)
            ⟨w.state.frozenFrame messages, w.frozenSeen messages seen, 0, false, w.advanced⟩ with
          freeze := .idle }
  | freezeDiscard (epoch : UInt64) (messages : Option (List μ)) (print : Option φ) (seen : Nat)
      (hfreeze : w.freeze = .storing epoch messages print seen)
      (hgone : w.state.freezePending = false ∨ w.state.sourceEpoch ≠ epoch) :
      Step src w { w with freeze := .idle }
  | detach : Step src w { w with state := w.state.detach, advanced := true }

/-- A job that was just inserted, with a source or without one. -/
def Init (w : World μ φ) : Prop := ∃ source, w = { state := { source } }

end

/-! ## §5. The generation. -/

theorem advance_toNat {g : UInt64} (h : g.toNat + 1 < 2 ^ 64) :
    (advanceContentGeneration g).toNat = g.toNat + 1 := by
  have hnext : (g + 1).toNat = g.toNat + 1 := by
    rw [UInt64.toNat_add]
    exact Nat.mod_eq_of_lt h
  have hne : g + 1 ≠ 0 := by
    intro hzero
    rw [hzero] at hnext
    exact absurd hnext.symm (Nat.succ_ne_zero _)
  rw [advanceContentGeneration, if_neg hne, hnext]

/-! ## §6. What is kept. -/

section

variable {μ φ : Type}

/-- Nothing will be stored any more. -/
def State.Settled (s : State μ φ) : Prop :=
  s.source = false ∧ s.terminal = true ∧ s.freezePending = false

/-- A newer frame has a higher number and is of a file at least as long. -/
def Newer (new old : Stored μ) : Prop :=
  old.frame.generation < new.frame.generation ∧ old.seen ≤ new.seen

/-- What the newest live frame says about the file: there are no more frames than octets, and one,
    up to where its fingerprint was taken. -/
def Tip (src : Source μ φ) (w : World μ φ) (e : Stored μ) : Prop :=
  w.log.length ≤ e.upTo + 1 ∧
    w.state.publishedFingerprint = some (src.print (w.history.take e.upTo))

/-- The stored frames against the state and the file. -/
structure Kept (src : Source μ φ) (w : World μ φ) : Prop where
  published : w.state.published = w.log.head?.map Stored.frame
  generation : w.state.contentGeneration.toNat = w.log.length
  below : ∀ e ∈ w.log, e.frame.generation ≤ w.state.contentGeneration
  newer : w.log.Pairwise Newer
  seen : ∀ e ∈ w.log, e.seen ≤ w.history.length
  upTo : ∀ e ∈ w.log, e.upTo ≤ w.history.length
  projection : ∀ e ∈ w.log, e.frame.unavailable = false →
    src.projectMessages (w.history.take e.seen) = some e.frame.messages
  live : ∀ e ∈ w.log, e.live = true → e.advanced = false
  tip : w.state.source = true → ∀ e ∈ w.log.head?, Tip src w e

/-- The flags of the state, and how many frames they leave room for. -/
structure Flags (w : World μ φ) : Prop where
  attached : w.state.source = true → w.advanced = false ∧ w.state.terminal = false
  pending : w.state.freezePending = true → w.state.terminal = true ∧ w.state.source = false
  available : (w.state.terminal = false ∨ w.state.freezePending = true) →
    w.log.length ≤ 1024 * 1024 + 1 ∧ ∀ e ∈ w.log, e.frame.unavailable = false
  room : w.log.length ≤ 1024 * 1024 + 2

/-- What a fingerprint is worth.  If no frame was stored since the second look, none was taken
    later. -/
structure Reading.Ok (src : Source μ φ) (w : World μ φ) (r : Reading φ) : Prop where
  generation : r.generation.toNat = r.at_
  at_le : r.at_ ≤ w.log.length
  upTo_le : r.upTo ≤ w.history.length
  print : r.print = src.print (w.history.take r.upTo)
  last : w.log.length = r.at_ → ∀ e ∈ w.log, e.upTo ≤ r.upTo

/-- What a projection is worth. -/
structure Taken (src : Source μ φ) (w : World μ φ) (messages : Option (List μ)) (seen : Nat) :
    Prop where
  seen_le : seen ≤ w.history.length
  messages : ∀ m, messages = some m → src.projectMessages (w.history.take seen) = some m

def PhaseOk (src : Source μ φ) (w : World μ φ) : Phase μ φ → Prop
  | .settled _ published _ terminal freezePending =>
    terminal = true → freezePending = false → w.state.Settled ∧ w.state.published = published
  | .rechecked _ _ _ _ generation at_ => generation.toNat = at_ ∧ at_ ≤ w.log.length
  | .printed r => r.Ok src w
  | .projected r messages seen =>
    r.Ok src w ∧ Taken src w (some messages) seen ∧ r.upTo ≤ seen ∧
      (w.log.length = r.at_ → ∀ e ∈ w.log, e.seen ≤ seen)
  | _ => True

def FreezeOk (src : Source μ φ) (w : World μ φ) : Freeze μ φ → Prop
  | .idle => True
  | .projecting _ => w.state.source = false
  | .printing _ messages seen | .storing _ messages _ seen =>
    w.state.source = false ∧ Taken src w messages seen ∧ ∀ e ∈ w.log, e.seen ≤ seen

/-- An answer without content is about the frame that was stored. -/
def AnswerOk (a : Answer μ) : Prop :=
  a.frame.notModified = true →
    ∃ f, a.stored = some f ∧ a.known = some f.generation ∧ a.frame.generation = f.generation

structure Inv (src : Source μ φ) (w : World μ φ) : Prop where
  kept : Kept src w
  flags : Flags w
  phases : ∀ i, PhaseOk src w (w.inspectors i)
  freeze : FreezeOk src w w.freeze
  answers : ∀ a ∈ w.answers, AnswerOk a

/-- The file grows, frames are added, and a settled state stays. -/
structure Later (w w' : World μ φ) : Prop where
  history : w.history <+: w'.history
  log : w.log <:+ w'.log
  settled : w.state.Settled → w'.state.Settled ∧ w'.state.published = w.state.published

theorem take_of_later {h h' : Bytes} (hgrow : h <+: h') {n : Nat} (hn : n ≤ h.length) :
    h'.take n = h.take n := by
  obtain ⟨t, rfl⟩ := hgrow
  exact List.take_append_of_le_length hn

variable {src : Source μ φ} {w w' : World μ φ}

theorem Taken.later {messages : Option (List μ)} {seen : Nat}
    (h : Taken src w messages seen) (hgrow : w.history <+: w'.history) :
    Taken src w' messages seen where
  seen_le := Nat.le_trans h.seen_le hgrow.length_le
  messages m hm := by
    rw [take_of_later hgrow h.seen_le]
    exact h.messages m hm

/-- If there are no more frames than before, they are the same. -/
theorem Later.log_eq (h : Later w w') {n : Nat} (hn : n ≤ w.log.length)
    (hsame : w'.log.length = n) : w.log = w'.log ∧ w.log.length = n := by
  have hle : w.log.length ≤ w'.log.length := h.log.length_le
  have heq : w.log.length = w'.log.length := by omega
  exact ⟨h.log.eq_of_length heq, by omega⟩

theorem Reading.Ok.later {r : Reading φ} (h : r.Ok src w) (hl : Later w w') : r.Ok src w' where
  generation := h.generation
  at_le := Nat.le_trans h.at_le hl.log.length_le
  upTo_le := Nat.le_trans h.upTo_le hl.history.length_le
  print := by
    rw [take_of_later hl.history h.upTo_le]
    exact h.print
  last := by
    intro hsame
    obtain ⟨hlog, hlen⟩ := hl.log_eq h.at_le hsame
    rw [← hlog]
    exact h.last hlen

/-- **WHAT AN INSPECT KNOWS STAYS TRUE.** -/
theorem PhaseOk.later {p : Phase μ φ}
    (h : PhaseOk src w p) (hl : Later w w') : PhaseOk src w' p := by
  cases p with
  | settled known published generation terminal freezePending =>
    intro hterminal hfreeze
    obtain ⟨hsettled, hpublished⟩ := h hterminal hfreeze
    obtain ⟨hsettled', hkept⟩ := hl.settled hsettled
    exact ⟨hsettled', hkept.trans hpublished⟩
  | rechecked known epoch published fingerprint generation at_ =>
    exact ⟨h.1, Nat.le_trans h.2 hl.log.length_le⟩
  | printed r => exact Reading.Ok.later h hl
  | projected r messages seen =>
    obtain ⟨hr, htaken, hupTo, hlast⟩ := h
    refine ⟨hr.later hl, htaken.later hl.history, hupTo, ?_⟩
    intro hsame
    obtain ⟨hlog, hlen⟩ := hl.log_eq hr.at_le hsame
    rw [← hlog]
    exact hlast hlen
  | idle | captured | comparing | failed => trivial

/-- The freeze only has to fear other stores, and there are none without a source. -/
theorem FreezeOk.later {f : Freeze μ φ}
    (h : FreezeOk src w f) (hgrow : w.history <+: w'.history) (hlog : w'.log = w.log)
    (hsource : w.state.source = false → w'.state.source = false) : FreezeOk src w' f := by
  cases f with
  | idle => trivial
  | projecting epoch => exact hsource h
  | printing epoch messages seen | storing epoch messages print seen =>
    refine ⟨hsource h.1, h.2.1.later hgrow, ?_⟩
    rw [hlog]
    exact h.2.2

end

/-! ## §7. Each step keeps it. -/

section

variable {μ φ : Type} {src : Source μ φ} {w w' : World μ φ}

/-- Steps that store nothing. -/
theorem Kept.quiet (h : Kept src w) (hgrow : w.history <+: w'.history) (hlog : w'.log = w.log)
    (hpublished : w'.state.published = w.state.published)
    (hgeneration : w'.state.contentGeneration = w.state.contentGeneration)
    (hsource : w'.state.source = true →
      w.state.source = true ∧ w'.state.publishedFingerprint = w.state.publishedFingerprint) :
    Kept src w' where
  published := by rw [hpublished, hlog, h.published]
  generation := by rw [hgeneration, hlog, h.generation]
  below := by rw [hgeneration, hlog]; exact h.below
  newer := by rw [hlog]; exact h.newer
  seen := by
    rw [hlog]
    intro e he
    exact Nat.le_trans (h.seen e he) hgrow.length_le
  upTo := by
    rw [hlog]
    intro e he
    exact Nat.le_trans (h.upTo e he) hgrow.length_le
  projection := by
    rw [hlog]
    intro e he havailable
    rw [take_of_later hgrow (h.seen e he)]
    exact h.projection e he havailable
  live := by rw [hlog]; exact h.live
  tip := by
    intro hattached e he
    obtain ⟨hsource, hprint⟩ := hsource hattached
    rw [hlog] at he
    obtain ⟨hcount, htip⟩ := h.tip hsource e he
    refine ⟨by rw [hlog]; exact hcount, ?_⟩
    rw [hprint, htip, take_of_later hgrow (h.upTo e (List.mem_of_mem_head? he))]

/-- A store with the next number, of a file no shorter than any before. -/
theorem Kept.store (h : Kept src w) {s : State μ φ} {e : Stored μ}
    (hroom : w.log.length + 1 < 2 ^ 64)
    (hgeneration : s.contentGeneration = advanceContentGeneration w.state.contentGeneration)
    (hframe : e.frame.generation = s.contentGeneration) (hpublished : s.published = some e.frame)
    (hseen : ∀ old ∈ w.log, old.seen ≤ e.seen)
    (hprojection : e.frame.unavailable = false →
      src.projectMessages (w.history.take e.seen) = some e.frame.messages)
    (hlength : e.seen ≤ w.history.length) (hupTo : e.upTo ≤ w.history.length) (hlive : e.live = true → e.advanced = false)
    (htip : s.source = true → Tip src (w.store s e) e) : Kept src (w.store s e) := by
  have hnext : s.contentGeneration.toNat = w.log.length + 1 := by
    rw [hgeneration, advance_toNat (by rw [h.generation]; exact hroom), h.generation]
  have hlt : ∀ old ∈ w.log, old.frame.generation < s.contentGeneration := by
    intro old hold
    have hle : old.frame.generation.toNat ≤ w.state.contentGeneration.toNat :=
      UInt64.le_iff_toNat_le.mp (h.below old hold)
    rw [h.generation] at hle
    exact UInt64.lt_iff_toNat_lt.mpr (by omega)
  exact {
    published := hpublished
    generation := hnext
    below := by
      refine List.forall_mem_cons.mpr ⟨UInt64.le_of_eq hframe, ?_⟩
      exact fun old hold => UInt64.le_of_lt (hlt old hold)
    newer := by
      refine List.pairwise_cons.mpr ⟨?_, h.newer⟩
      intro old hold
      exact ⟨by rw [hframe]; exact hlt old hold, hseen old hold⟩
    seen := List.forall_mem_cons.mpr ⟨hlength, h.seen⟩
    upTo := List.forall_mem_cons.mpr ⟨hupTo, h.upTo⟩
    projection := List.forall_mem_cons.mpr ⟨hprojection, h.projection⟩
    live := List.forall_mem_cons.mpr ⟨hlive, h.live⟩
    tip := by
      intro hsource e' he'
      cases he'
      exact htip hsource }

/-- The first frame of the list is of the longest file. -/
theorem Kept.seen_head (h : Kept src w) :
    ∀ e ∈ w.log, e.seen ≤ (w.log.head?.map Stored.seen).getD 0 := by
  intro e he
  have hnewer := h.newer
  cases hlog : w.log with
  | nil =>
    rw [hlog] at he
    exact absurd he List.not_mem_nil
  | cons top rest =>
    rw [hlog] at he hnewer
    rcases List.mem_cons.mp he with rfl | he
    · exact Nat.le_refl _
    · exact ((List.pairwise_cons.mp hnewer).1 e he).2

theorem viewPublishedFrame_notModified (f : Frame μ) (terminal freezePending : Bool) :
    (viewPublishedFrame f terminal freezePending).notModified = false := by
  unfold viewPublishedFrame
  split
  · rename_i h
    exact h.2.2
  · rfl

theorem frameOr_notModified (published : Option (Frame μ)) (generation : UInt64)
    (terminal freezePending : Bool) :
    (frameOr published generation terminal freezePending).notModified = false := by
  cases published with
  | none => rfl
  | some f => exact viewPublishedFrame_notModified f terminal freezePending

theorem failedFrame_notModified (s : State μ φ) : s.failedFrame.notModified = false := by
  unfold State.failedFrame
  split <;> rfl

variable {known : Option UInt64}

/-- A frame with content answers anything. -/
theorem AnswerOk.of_content {frame : Frame μ} {stored : Option (Frame μ)}
    (h : frame.notModified = false) : AnswerOk ⟨known, frame, stored⟩ := by
  intro hnot
  exact absurd (h.symm.trans hnot) Bool.false_ne_true

theorem settledFrame_answerOk {published stored : Option (Frame μ)}
    {generation : UInt64} {terminal freezePending : Bool}
    (h : terminal = true → freezePending = false → stored = published) :
    AnswerOk ⟨known, settledFrame known published generation terminal freezePending, stored⟩ := by
  unfold settledFrame
  by_cases hdone : terminal = true ∧ freezePending = false
  · rw [if_pos hdone]
    have hstored := h hdone.1 hdone.2
    cases published with
    | none => exact .of_content rfl
    | some f =>
      by_cases hknown : known = some f.generation
      · simp only [if_pos hknown]
        intro _
        exact ⟨f, hstored, hknown, rfl⟩
      · simp only [if_neg hknown]
        exact .of_content (viewPublishedFrame_notModified f true false)
  · rw [if_neg hdone]
    split
    · exact .of_content (frameOr_notModified _ _ _ _)
    · exact .of_content (frameOr_notModified _ _ _ _)

theorem comparedFrame_answerOk [DecidableEq φ] (s : State μ φ) (known : Option UInt64) (print : φ) :
    AnswerOk ⟨known, s.comparedFrame known print, s.published⟩ := by
  unfold State.comparedFrame
  cases hpublished : s.published with
  | none =>
    refine .of_content ?_
    exact frameOr_notModified _ _ _ _
  | some f =>
    by_cases hsame : unchanged known (some f) s.publishedFingerprint print = true
    · simp only [if_pos hsame]
      intro _
      have hknown : known = some f.generation := by
        unfold unchanged at hsame
        exact eq_of_beq (Bool.and_eq_true_iff.mp hsame).1
      exact ⟨f, rfl, hknown, rfl⟩
    · simp only [if_neg hsame]
      exact .of_content (viewPublishedFrame_notModified _ _ _)

/-- **EVERY ANSWER WITHOUT A STORE.** -/
theorem Reply.answerOk [DecidableEq φ] {p : Phase μ φ} {frame : Frame μ}
    (h : Reply w p known frame) (hp : PhaseOk src w p) :
    AnswerOk ⟨known, frame, w.state.published⟩ := by
  cases h with
  | settled published generation terminal freezePending =>
    apply settledFrame_answerOk
    intro hterminal hfreeze
    exact (hp hterminal hfreeze).2
  | stale epoch hstale => exact .of_content (frameOr_notModified _ _ _ _)
  | failed epoch =>
    split
    · exact .of_content (failedFrame_notModified _)
    · exact .of_content (frameOr_notModified _ _ _ _)
  | compare epoch print =>
    split
    · exact comparedFrame_answerOk _ _ _
    · exact .of_content (frameOr_notModified _ _ _ _)
  | discard r messages seen hrefused => exact .of_content (frameOr_notModified _ _ _ _)

/-- What an `inspect` learns is true when it learns it. -/
theorem Look.phaseOk [DecidableEq φ] {p q : Phase μ φ} (h : Look src w p q) (hkept : Kept src w)
    (hp : PhaseOk src w p) : PhaseOk src w q := by
  cases h with
  | settle known hsource =>
    intro hterminal hfreeze
    exact ⟨⟨hsource, hterminal, hfreeze⟩, rfl⟩
  | capture | printFails | same | projectFails => trivial
  | recheck known epoch hholds => exact ⟨hkept.generation, Nat.le_refl _⟩
  | print known epoch published fingerprint generation at_ hnew =>
    exact {
      generation := hp.1
      at_le := hp.2
      upTo_le := Nat.le_refl _
      print := by rw [List.take_length]
      last := fun _ => hkept.upTo }
  | project r messages hproject =>
    have hr : r.Ok src w := hp
    refine ⟨hr, ⟨Nat.le_refl _, ?_⟩, hr.upTo_le, fun _ => hkept.seen⟩
    intro m hm
    rw [List.take_length, hproject, hm]

/-- What the lock tells an `inspect` that may store. -/
theorem publishes_cases [DecidableEq φ] {s : State μ φ} {r : Reading φ} (h : s.publishes r = true) :
    s.source = true ∧ s.contentGeneration = r.generation ∧
      (s.published.isSome = true → s.publishedFingerprint ≠ some r.print) := by
  simp only [State.publishes, State.holds, Bool.and_eq_true, beq_iff_eq] at h
  obtain ⟨⟨⟨hsource, -⟩, hprint⟩, hgeneration⟩ := h
  refine ⟨hsource, hgeneration, ?_⟩
  intro hsome hsame
  rw [hsome, hsame, beq_self_eq_true] at hprint
  exact absurd hprint Bool.false_ne_true

/-- **ONE FRAME FOR EACH LENGTH.**  A reading that may be stored took its fingerprint of a longer
    file than the newest frame did, so there are not more frames than octets. -/
theorem Kept.length_le_upTo [DecidableEq φ] (h : Kept src w) {r : Reading φ} (hr : r.Ok src w)
    (hat : w.log.length = r.at_) (hpublishes : w.state.publishes r = true) :
    w.log.length ≤ r.upTo := by
  obtain ⟨hsource, -, hprint⟩ := publishes_cases hpublishes
  cases hlog : w.log with
  | nil => exact Nat.zero_le _
  | cons top rest =>
    have hmem : top ∈ w.log := by rw [hlog]; exact List.mem_cons_self
    obtain ⟨hcount, htip⟩ := h.tip hsource top (by rw [hlog]; rfl)
    have hsome : w.state.published.isSome = true := by rw [h.published, hlog]; rfl
    have hle : top.upTo ≤ r.upTo := hr.last hat top hmem
    -- the same length would give the same fingerprint
    have hne : top.upTo ≠ r.upTo := by
      intro heq
      apply hprint hsome
      rw [htip, heq, hr.print]
    rw [hlog] at hcount
    omega

/-- **NO STEP TAKES ANYTHING BACK.** -/
theorem Step.later [DecidableEq φ] (h : Step src w w') : Later w w' := by
  cases h with
  | append chunk => exact ⟨List.prefix_append _ _, List.suffix_refl _, fun hs => ⟨hs, rfl⟩⟩
  | look | reply | freezeProject | freezePrint | freezeDiscard =>
    exact ⟨List.prefix_refl _, List.suffix_refl _, fun hs => ⟨hs, rfl⟩⟩
  | publish i r messages seen hphase hpublishes =>
    refine ⟨List.prefix_refl _, List.suffix_cons _ _, ?_⟩
    intro hsettled
    have hsource := (publishes_cases hpublishes).1
    exact absurd (hsettled.1.symm.trans hsource) Bool.false_ne_true
  | finish hopen =>
    refine ⟨List.prefix_refl _, List.suffix_refl _, ?_⟩
    intro hsettled
    exact absurd (hopen.symm.trans hsettled.2.1) Bool.false_ne_true
  | freezeStore epoch messages print seen hfreeze hpending hepoch =>
    refine ⟨List.prefix_refl _, List.suffix_cons _ _, ?_⟩
    intro hsettled
    exact absurd (hsettled.2.2.symm.trans hpending) Bool.false_ne_true
  | detach =>
    refine ⟨List.prefix_refl _, List.suffix_refl _, ?_⟩
    intro hsettled
    exact ⟨⟨rfl, hsettled.2.1, rfl⟩, rfl⟩

variable {seen : Nat}

/-- **A LIVE STORE.** -/
theorem Inv.publish [DecidableEq φ] (h : Inv src w) {i : Nat} {r : Reading φ} {messages : List μ}
    (hphase : w.inspectors i = .projected r messages seen)
    (hpublishes : w.state.publishes r = true) :
    let w' := w.store (w.state.publish r.print messages)
      ⟨w.state.liveFrame messages, seen, r.upTo, true, w.advanced⟩
    Kept src w' ∧ Flags w' := by
  intro w'
  have hp := h.phases i
  rw [hphase] at hp
  obtain ⟨hr, htaken, hupTo, hlast⟩ := hp
  obtain ⟨hsource, hgeneration, -⟩ := publishes_cases hpublishes
  obtain ⟨hadvanced, hterminal⟩ := h.flags.attached hsource
  have hat : w.log.length = r.at_ := by rw [← h.kept.generation, hgeneration, hr.generation]
  have hcount : w.log.length ≤ r.upTo := h.kept.length_le_upTo hr hat hpublishes
  have hproject := htaken.messages messages rfl
  have hsmall : seen ≤ 1024 * 1024 := by
    have hlen := Source.length_of_projectMessages hproject
    rwa [List.length_take, Nat.min_eq_left htaken.seen_le] at hlen
  have hlength : w'.log.length = w.log.length + 1 := rfl
  constructor
  · refine h.kept.store ?_ rfl rfl rfl (hlast hat) (fun _ => hproject) htaken.seen_le hr.upTo_le
      (fun _ => hadvanced) ?_
    · omega
    · intro _
      refine ⟨?_, congrArg some hr.print⟩
      show w.log.length + 1 ≤ r.upTo + 1
      omega
  · exact {
      attached := h.flags.attached
      pending := h.flags.pending
      available := by
        intro _
        refine ⟨by omega, List.forall_mem_cons.mpr ⟨rfl, ?_⟩⟩
        exact (h.flags.available (.inl hterminal)).2
      room := by omega }

variable {messages : Option (List μ)}

/-- The frozen frame has the projection, the one there was, or says it has none. -/
theorem Inv.frozen_projection (h : Inv src w)
    (htaken : Taken src w messages seen) (hpending : w.state.freezePending = true)
    (havailable : (w.state.frozenFrame messages).unavailable = false) :
    src.projectMessages (w.history.take (w.frozenSeen messages seen)) =
      some (w.state.frozenFrame messages).messages := by
  cases messages with
  | some m => exact htaken.messages m rfl
  | none =>
    have hpublished := h.kept.published
    cases hlog : w.log with
    | nil =>
      -- without a frame there is nothing to keep
      rw [hlog] at hpublished
      simp only [State.frozenFrame, hpublished, List.head?_nil, Option.map_none, unavailableFrame,
        reduceCtorEq] at havailable
    | cons top rest =>
      have hmem : top ∈ w.log := by rw [hlog]; exact List.mem_cons_self
      have htop := h.kept.projection top hmem ((h.flags.available (.inr hpending)).2 top hmem)
      rw [hlog] at hpublished
      simp only [World.frozenSeen, State.frozenFrame, hlog, hpublished, List.head?_cons,
        Option.map_some, Option.getD_some, stampInspectionFrame]
      exact htop

theorem Inv.frozenSeen_bounds (h : Inv src w)
    (htaken : Taken src w messages seen) (hseen : ∀ e ∈ w.log, e.seen ≤ seen) :
    w.frozenSeen messages seen ≤ w.history.length ∧
      ∀ e ∈ w.log, e.seen ≤ w.frozenSeen messages seen := by
  cases messages with
  | some m => exact ⟨htaken.seen_le, hseen⟩
  | none =>
    refine ⟨?_, h.kept.seen_head⟩
    show (w.log.head?.map Stored.seen).getD 0 ≤ w.history.length
    cases hlog : w.log with
    | nil => exact Nat.zero_le _
    | cons top rest => exact h.kept.seen top (by rw [hlog]; exact List.mem_cons_self)

theorem frozenFrame_generation (s : State μ φ) (messages : Option (List μ)) :
    (s.frozenFrame messages).generation = advanceContentGeneration s.contentGeneration := by
  unfold State.frozenFrame
  split <;> rfl

/-- **THE STORE OF THE FREEZE.** -/
theorem Inv.frozen (h : Inv src w) {epoch : UInt64} {print : Option φ}
    (hfreeze : w.freeze = .storing epoch messages print seen)
    (hpending : w.state.freezePending = true) :
    let w' := w.store (w.state.frozen messages print)
      ⟨w.state.frozenFrame messages, w.frozenSeen messages seen, 0, false, w.advanced⟩
    Kept src w' ∧ Flags w' := by
  intro w'
  have hf := h.freeze
  rw [hfreeze] at hf
  obtain ⟨hsource, htaken, hseen⟩ := hf
  obtain ⟨hterminal, -⟩ := h.flags.pending hpending
  obtain ⟨hroom, -⟩ := h.flags.available (.inr hpending)
  obtain ⟨hlength, hlonger⟩ := h.frozenSeen_bounds htaken hseen
  have hdetached : w'.state.source ≠ true := by
    intro hattached
    exact absurd (hsource.symm.trans hattached) Bool.false_ne_true
  constructor
  · refine h.kept.store ?_ rfl (frozenFrame_generation _ _) rfl hlonger
      (h.frozen_projection htaken hpending) hlength (Nat.zero_le _)
      nofun (fun hattached => absurd hattached hdetached)
    omega
  · have hcount : w'.log.length = w.log.length + 1 := rfl
    exact {
      attached := fun hattached => absurd hattached hdetached
      pending := nofun
      available := by
        intro hopen
        rcases hopen with hopen | hopen
        · exact absurd (hopen.symm.trans hterminal) Bool.false_ne_true
        · exact absurd hopen Bool.false_ne_true
      room := by omega }

/-- A step that leaves the job alone. -/
theorem Inv.quiet (h : Inv src w) (hgrow : w.history <+: w'.history) (hlog : w'.log = w.log)
    (hstate : w'.state = w.state) (hadvanced : w'.advanced = w.advanced)
    (hphases : ∀ i, PhaseOk src w' (w'.inspectors i)) (hfreeze : FreezeOk src w' w'.freeze)
    (hanswers : ∀ a ∈ w'.answers, AnswerOk a) : Inv src w' where
  kept := h.kept.quiet hgrow hlog (by rw [hstate]) (by rw [hstate])
    (by rw [hstate]; exact fun hs => ⟨hs, rfl⟩)
  flags := by
    refine ⟨?_, ?_, ?_, ?_⟩ <;> simp only [hstate, hlog, hadvanced]
    exacts [h.flags.attached, h.flags.pending, h.flags.available, h.flags.room]
  phases := hphases
  freeze := hfreeze
  answers := hanswers

/-- **EVERY STEP**, by what it touches. -/
theorem Inv.step [DecidableEq φ] (h : Inv src w) (hstep : Step src w w') : Inv src w' := by
  have hlater : Later w w' := hstep.later
  have hphases : ∀ i, PhaseOk src w' (w.inspectors i) := fun i => (h.phases i).later hlater
  -- one inspect moves, the others stay
  have hmoved : ∀ (i : Nat) (q : Phase μ φ), PhaseOk src w' q →
      ∀ j, PhaseOk src w' (update w.inspectors i q j) := by
    intro i q hq j
    by_cases hj : j = i
    · rw [hj, update_self]
      exact hq
    · rw [update_of_ne hj]
      exact hphases j
  cases hstep with
  | append chunk =>
    exact h.quiet hlater.history rfl rfl rfl hphases (h.freeze.later hlater.history rfl id) h.answers
  | look i p q hphase hlook =>
    have hq : PhaseOk src w q := hlook.phaseOk h.kept (hphase ▸ h.phases i)
    exact h.quiet hlater.history rfl rfl rfl (hmoved i q (hq.later hlater))
      (h.freeze.later hlater.history rfl id) h.answers
  | reply i p known frame hphase hreply =>
    have hanswer := hreply.answerOk (hphase ▸ h.phases i : PhaseOk src w p)
    exact h.quiet hlater.history rfl rfl rfl (hmoved i .idle trivial)
      (h.freeze.later hlater.history rfl id) (List.forall_mem_cons.mpr ⟨hanswer, h.answers⟩)
  | publish i r messages seen hphase hpublishes =>
    obtain ⟨hkept, hflags⟩ := h.publish hphase hpublishes
    have hsource := (publishes_cases hpublishes).1
    exact {
      kept := hkept.quiet (List.prefix_refl _) rfl rfl rfl (fun hs => ⟨hs, rfl⟩)
      flags := { hflags with }
      phases := hmoved i .idle trivial
      freeze := by
        -- while there is a source, no freeze has begun
        have hf := h.freeze
        show FreezeOk src _ w.freeze
        cases hfreeze : w.freeze with
        | idle => trivial
        | projecting epoch =>
          rw [hfreeze] at hf
          exact absurd (Eq.symm hf |>.trans hsource) Bool.false_ne_true
        | printing epoch m n | storing epoch m print n =>
          rw [hfreeze] at hf
          exact absurd (hf.1.symm.trans hsource) Bool.false_ne_true
      answers := List.forall_mem_cons.mpr ⟨.of_content rfl, h.answers⟩ }
  | finish hopen =>
    obtain ⟨hroom, havailable⟩ := h.flags.available (.inl hopen)
    exact {
      kept := h.kept.quiet hlater.history rfl rfl rfl nofun
      flags := ⟨nofun, fun _ => ⟨rfl, rfl⟩,
        fun _ => ⟨hroom, havailable⟩, h.flags.room⟩
      phases := hphases
      freeze := by
        show FreezeOk src _ (if w.state.source then _ else w.freeze)
        split
        · rfl
        · exact h.freeze.later hlater.history rfl (fun _ => rfl)
      answers := h.answers }
  | freezeProject epoch messages hfreeze hmessages =>
    have hf := h.freeze
    rw [hfreeze] at hf
    refine h.quiet hlater.history rfl rfl rfl hphases ⟨hf, ⟨Nat.le_refl _, ?_⟩, h.kept.seen⟩ h.answers
    intro m hm
    rcases hmessages with hnone | hproject
    · exact absurd (hnone.symm.trans hm) (by simp)
    · show src.projectMessages (w.history.take w.history.length) = some m
      rw [List.take_length, ← hproject, hm]
  | freezePrint epoch messages seen print hfreeze hprint =>
    have hf := h.freeze
    rw [hfreeze] at hf
    exact h.quiet hlater.history rfl rfl rfl hphases ⟨hf.1, hf.2.1.later hlater.history, hf.2.2⟩
      h.answers
  | freezeStore epoch messages print seen hfreeze hpending hepoch =>
    obtain ⟨hkept, hflags⟩ := h.frozen hfreeze hpending
    exact {
      kept := hkept.quiet (List.prefix_refl _) rfl rfl rfl (fun hs => ⟨hs, rfl⟩)
      flags := { hflags with }
      phases := hphases
      freeze := trivial
      answers := h.answers }
  | freezeDiscard epoch messages print seen hfreeze hgone =>
    exact h.quiet hlater.history rfl rfl rfl hphases trivial h.answers
  | detach =>
    exact {
      kept := h.kept.quiet hlater.history rfl rfl rfl nofun
      flags := by
        refine ⟨nofun, nofun, ?_,
          h.flags.room⟩
        intro hopen
        rcases hopen with hopen | hopen
        · exact h.flags.available (.inl hopen)
        · exact absurd hopen Bool.false_ne_true
      phases := hphases
      freeze := h.freeze.later hlater.history rfl (fun _ => rfl)
      answers := h.answers }

theorem Init.inv (h : Init w) : Inv src w := by
  obtain ⟨source, rfl⟩ := h
  exact {
    kept := {
      published := rfl
      generation := rfl
      below := List.forall_mem_nil _
      newer := List.Pairwise.nil
      seen := List.forall_mem_nil _
      upTo := List.forall_mem_nil _
      projection := List.forall_mem_nil _
      live := List.forall_mem_nil _
      tip := fun _ _ he => absurd he (by simp) }
    flags := {
      attached := fun _ => ⟨rfl, rfl⟩
      pending := nofun
      available := fun _ => ⟨Nat.zero_le _, List.forall_mem_nil _⟩
      room := Nat.zero_le _ }
    phases := fun _ => trivial
    freeze := trivial
    answers := List.forall_mem_nil _ }

end

/-! ## §8. Frames never go back. -/

section

variable {μ φ : Type} [DecidableEq φ]

/-- **FRAMES NEVER GO BACK.**  In every state that inspections, appends, `complete` and `shutdown`
    lead to, in whatever order: the stored frames, of which the published one is the newest, have
    strictly increasing generations and are projections of ever longer prefixes of the file; a
    live one was stored only before the source epoch was advanced; and an answer without content
    names the generation that was stored. -/
theorem inspector_frames_never_go_back (src : Source μ φ) (w : World μ φ)
    (h : Reach Init (Step src) w) :
    w.state.published = w.log.head?.map Stored.frame ∧
    (w.log.Pairwise fun new old =>
      old.frame.generation < new.frame.generation ∧ old.seen ≤ new.seen) ∧
    (∀ e ∈ w.log, e.seen ≤ w.history.length ∧ (e.frame.unavailable = false →
      src.projectMessages (w.history.take e.seen) = some e.frame.messages)) ∧
    (∀ e ∈ w.log, e.live = true → e.advanced = false) ∧
    (∀ a ∈ w.answers, a.frame.notModified = true →
      ∃ f, a.stored = some f ∧ a.known = some f.generation ∧
        a.frame.generation = f.generation) := by
  have hinv : Inv src w :=
    h.invariant (P := Inv src) (fun _ hinit => Init.inv hinit) (fun _ _ hs hstep => hs.step hstep)
  refine ⟨hinv.kept.published, hinv.kept.newer, ?_, hinv.kept.live, hinv.answers⟩
  intro e he
  exact ⟨hinv.kept.seen e he, hinv.kept.projection e he⟩

end

/-- A source whose projection counts the entries and whose fingerprint is the length. -/
def countingSource : Source Nat Nat where
  sax := fun _ => { events := [], ok := false }
  path := []
  policy := {}
  transcript := fun entries => some [entries.length]
  print := List.length

/-- An empty file is projected once live and once more by the freeze.  Whoever knows the second
    frame is told that nothing changed. -/
theorem inspector_frames_never_go_back_frozen :
    ∃ w : World Nat Nat, Reach Init (Step countingSource) w ∧
      w.log.map (fun e => (e.frame.generation, e.frame.messages, e.live)) =
        [(2, [0], false), (1, [0], true)] ∧
      w.answers.map (fun a => (a.known, a.frame.notModified)) = [(some 2, true), (none, false)] ∧
      (w.log.Pairwise fun new old =>
        old.frame.generation < new.frame.generation ∧ old.seen ≤ new.seen) ∧
      ∀ a ∈ w.answers, a.frame.notModified = true →
        ∃ f, a.stored = some f ∧ a.known = some f.generation ∧
          a.frame.generation = f.generation := by
  have hproject : countingSource.projectMessages [] = some [0] := by decide
  have hstart : Reach Init (Step countingSource) { state := { source := true } } :=
    .start ⟨true, rfl⟩
  -- the live inspection
  have hcapture := hstart.step (.look 0 .idle _ rfl (.capture none rfl))
  have hrecheck := hcapture.step (.look 0 (.captured none 1) _ rfl (.recheck none 1 rfl))
  have hprint := hrecheck.step
    (.look 0 (.rechecked none 1 none none 0 0) _ rfl (.print none 1 none none 0 0 rfl))
  have hread := hprint.step
    (.look 0 (.printed ⟨none, 1, 0, 0, 0, 0⟩) _ rfl (.project ⟨none, 1, 0, 0, 0, 0⟩ [0] hproject))
  have hlive := hread.step (.publish 0 ⟨none, 1, 0, 0, 0, 0⟩ [0] 0 rfl (by decide))
  -- the freeze
  have hfinish := hlive.step (.finish rfl)
  have hfinal := hfinish.step (.freezeProject 2 (some [0]) rfl (.inr hproject.symm))
  have hstoring := hfinal.step (.freezePrint 2 (some [0]) 0 (some 0) rfl (.inr rfl))
  have hfrozen := hstoring.step (.freezeStore 2 (some [0]) (some 0) 0 rfl rfl rfl)
  -- the inspection afterwards
  have hsettled := hfrozen.step (.look 0 .idle _ rfl (.settle (some 2) rfl))
  have hreply := hsettled.step (.reply 0 _ _ _ rfl (.settled (some 2) _ _ _ _))
  obtain ⟨-, hnewer, -, -, hanswers⟩ := inspector_frames_never_go_back countingSource _ hreply
  exact ⟨_, hreply, rfl, by decide, hnewer, hanswers⟩

end Ava.Agent.Inspector
