/-
  Ava.App.RunController
  **THE THREADS OF A RUN CONTROLLER** (`app/session_run_controller.cpp`).  Any number of threads
  are in calls of one controller.  A step is a section under the state mutex, a call of the append
  target, the firing of a stop source, or taking or giving back the append mutex, which is held
  across several sections.

  A call from inside a callback of the same controller is a call of its own thread here, with
  what such a call may do: it appends nothing and resets nothing, and its `shutdown` only marks.

    - §1 where a thread is; §2 steps without, with, into and out of the append mutex;
    - §3 worlds; §4 who holds the append mutex.
-/
import Ava.App.RunState
import Ava.Lib.Transition

namespace Ava.App

open Ava.Core Ava.Core.Json Ava.Session Ava.Lib Function

/-! ## §1. Where a thread is. -/

/-- Where `shutdown` is called: inside a callback of this controller, inside a run observer, or
    anywhere else. -/
inductive CallSite where
  | reentrant | observer | ordinary
deriving Repr, DecidableEq

/-- The place of a thread in its call. -/
inductive Place where
  | idle
  /-- An append from a run observer that has got the append mutex. -/
  | entering (r : Request)
  /-- Its ticket is admitted; it waits for the append mutex. -/
  | queued (n : Nat)
  /-- The top of the driver's loop. -/
  | driving (n : Nat)
  | calling (n : Nat) (head : Ticket)
  | answering (n : Nat) (head : Ticket)
  | firing (n : Nat) (source : Option Nat)
  | rechecking (n : Nat)
  | leaving (n : Nat)
  | returning (n : Nat) (c : Completion)
  | stopping (site : CallSite) (source : Option Nat)
  /-- `shutdown` in front of the append mutex. -/
  | closing (site : CallSite)
  | draining
  | resetting
  | resetChecking
  | recovering (failureGeneration : Nat)
  | clearing (failureGeneration : Nat)
  | resetEnding (result : Result Unit)
  | reserving
  /-- Nothing left to do but to unlock. -/
  | unlocking
  | signalling (source : Nat)
  /-- `complete` or `release` waits for the queue. -/
  | awaiting (outcome : RunOutcome)
  | waiting (generation : Nat)

/-- The places inside the append mutex. -/
def Place.holds : Place → Bool
  | .entering _ | .driving _ | .calling _ _ | .answering _ _ | .firing _ _ | .rechecking _
  | .leaving _ | .returning _ _ | .draining | .resetChecking | .recovering _ | .clearing _
  | .resetEnding _ | .reserving | .unlocking => true
  | _ => false

/-- The ticket of the call, from its admission to its return. -/
def Place.ticket : Place → Option Nat
  | .queued n | .driving n | .calling n _ | .answering n _ | .firing n _ | .rechecking n
  | .leaving n | .returning n _ => some n
  | _ => none

/-! ## §2. Steps. -/

/-- The release of a guard, and whatever is published at once because the queue is empty. -/
def State.enterWait (s : State) (outcome : RunOutcome) : State × Place :=
  if s.appends.isEmpty then (s.publish outcome, .idle) else (s, .awaiting outcome)

/-- Steps of a thread that does not have the append mutex. -/
inductive Free (s : State) : Place → State → Place → Prop
  | submit (r : Request) (bytes : Nat) (s' : State)
      (hbytes : batchEntryByteCount r.entries = .ok bytes) (hsubmit : s.submit r bytes = .ok s') :
      Free s .idle s' (.queued s.admitted)
  | shutdown (site : CallSite) : Free s .idle s.markShutdown (.stopping site s.shutdownStop)
  | stop (site : CallSite) (source : Option Nat) :
      Free s (.stopping site source) (s.fire source)
        (if site = .reentrant then .idle else .closing site)
  -- `try_lock` may also fail while nobody has the mutex
  | giveUp : Free s (.closing .observer) s .idle
  | reset : Free s .idle s .resetting
  | retire (reservation : Nat) (s' : State) (hretire : s.retireAuthority reservation = .ok s') :
      Free s .idle s' .idle
  | releaseReservation (reservation : Nat) : Free s .idle (s.releaseReservation reservation) .idle
  | admitRun (requestId : Bytes) (s' : State) (hadmission : s.admitRun requestId = .ok s') :
      Free s .idle s' .idle
  | requestStop (reason : StopReason) (s' : State)
      (hstop : s.requestStop reason = .ok (some s')) : Free s .idle s' (.signalling s.generation)
  | signal (source : Nat) : Free s (.signalling source) (s.fire (some source)) .idle
  | transition (generation : Nat) (next : RunPhase) (s' : State)
      (htransition : s.transition generation next = .ok s') : Free s .idle s' .idle
  | complete (generation : Nat) (outcome result : RunOutcome) (s' : State)
      (hguard : s.guardBusy = false)
      (hcomplete : s.completeEnter generation outcome = .ok (s', result)) :
      Free s .idle (s'.enterWait result).1 (s'.enterWait result).2
  | release (hguard : s.guardBusy = false) (hactive : s.active = true) :
      Free s .idle (s.releaseEnter.1.enterWait s.releaseEnter.2).1
        (s.releaseEnter.1.enterWait s.releaseEnter.2).2
  | publish (outcome : RunOutcome) (hdrained : s.appends = []) :
      Free s (.awaiting outcome) (s.publish outcome) .idle
  | waitOutcome (correlationId : Bytes) (hid : correlationId ≠ []) (hactive : s.active = true)
      (hrun : s.runId = correlationId) : Free s .idle s (.waiting s.generation)
  | waited (generation : Nat) (outcome : RunOutcome)
      (houtcome : s.outcomeOf generation = some outcome) :
      Free s (.waiting generation) { s with waits := (generation, outcome) :: s.waits } .idle

/-- Taking the append mutex: waiting for it, or trying. -/
inductive Lock : Place → Place → Prop
  | enter (r : Request) : Lock .idle (.entering r)
  | drive (n : Nat) : Lock (.queued n) (.driving n)
  | drain (site : CallSite) : Lock (.closing site) .draining
  | reset : Lock .resetting .resetChecking
  | reserve : Lock .idle .reserving

/-- Steps inside the append mutex. -/
inductive Held (s : State) : Place → State → Place → Prop
  | submit (r : Request) (bytes : Nat) (s' : State)
      (hbytes : batchEntryByteCount r.entries = .ok bytes) (hsubmit : s.submit r bytes = .ok s') :
      Held s (.entering r) s' (.driving s.admitted)
  | done (n : Nat) (hdone : s.completionOf n ≠ .pending) : Held s (.driving n) s (.leaving n)
  | closed (n : Nat) (hpending : s.completionOf n = .pending)
      (hclosed : s.shuttingDown = true ∨ s.appendTarget = false) :
      Held s (.driving n) s.shutdownDrain (.driving n)
  | latched (n : Nat) (failure : Error) (hpending : s.completionOf n = .pending)
      (hopen : s.shuttingDown = false ∧ s.appendTarget = true)
      (hfailure : s.persistenceFailure = some failure) :
      Held s (.driving n) (s.drain (.persistenceFailed failure)) (.driving n)
  | head (n : Nat) (head : Ticket) (hpending : s.completionOf n = .pending)
      (hopen : s.shuttingDown = false ∧ s.appendTarget = true)
      (hfailure : s.persistenceFailure = none) (hhead : s.appends.head? = some head) :
      Held s (.driving n) s (.calling n head)
  | call (n : Nat) (head : Ticket) :
      Held s (.calling n head) { s with received := head.id :: s.received } (.answering n head)
  | settle (n : Nat) (head : Ticket) (reply : Reply) (short : Bool)
      (hfits : reply.fits head.request.kind = true) :
      Held s (.answering n head) (s.settle head (reply.verdict short))
        (.firing n (s.settleStop head (reply.verdict short)))
  | fire (n : Nat) (source : Option Nat) :
      Held s (.firing n source) (s.fire source) (.rechecking n)
  | recheck (n : Nat) : Held s (.rechecking n) s.closeDown (.driving n)
  | leave (n : Nat) : Held s (.leaving n) s.closeDown (.returning n (s.closeDown.completionOf n))
  | again (n : Nat) (c : Completion) (hshut : s.shuttingDown = true)
      (htarget : s.appendTarget = true) : Held s (.returning n c) s.closeDown (.returning n c)
  | drain : Held s .draining s.shutdownDrain .unlocking
  | resetRefused (e : Error) (hcheck : s.resetCheck = .error e) :
      Held s .resetChecking s (.resetEnding (.error e))
  | resetCheck (failureGeneration : Nat) (hcheck : s.resetCheck = .ok failureGeneration) :
      Held s .resetChecking s (.recovering failureGeneration)
  | recovered (failureGeneration : Nat) :
      Held s (.recovering failureGeneration) s (.clearing failureGeneration)
  | recoverFails (failureGeneration : Nat) (e : Error) :
      Held s (.recovering failureGeneration) s (.resetEnding (.error e))
  | clear (failureGeneration : Nat) (s' : State)
      (hclear : s.resetClear failureGeneration = .ok s') :
      Held s (.clearing failureGeneration) s' (.resetEnding (.ok ()))
  | clearRefused (failureGeneration : Nat) (e : Error)
      (hclear : s.resetClear failureGeneration = .error e) :
      Held s (.clearing failureGeneration) s (.resetEnding (.error e))
  | resetEnd (result : Result Unit) : Held s (.resetEnding result) s.resetEnd .unlocking
  | reserve (s' : State) (hreserve : s.reserveMaintenance = .ok s') :
      Held s .reserving s' .unlocking
  | reserveRefused (e : Error) (hreserve : s.reserveMaintenance = .error e) :
      Held s .reserving s .unlocking

/-- Giving the append mutex back.  A recovery that throws skips the end of its call. -/
inductive Unlock (s : State) : Place → State → Prop
  | uncountable (r : Request) (e : Error) (hbytes : batchEntryByteCount r.entries = .error e) :
      Unlock s (.entering r) s
  | refused (r : Request) (bytes : Nat) (e : Error)
      (hbytes : batchEntryByteCount r.entries = .ok bytes) (hsubmit : s.submit r bytes = .error e) :
      Unlock s (.entering r) s
  | returned (n : Nat) (c : Completion) (hreleased : s.shuttingDown = false ∨ s.appendTarget = false) :
      Unlock s (.returning n c) { s.closeDown with returned := (n, c) :: s.closeDown.returned }
  | recoverThrows (failureGeneration : Nat) : Unlock s (.recovering failureGeneration) s
  | unlock : Unlock s .unlocking s

/-! ## §3. Worlds. -/

/-- `holder` has the append mutex. -/
structure World where
  state : State := {}
  holder : Option Nat := none
  threads : Nat → Place := fun _ => .idle

/-- The steps of thread `t`. -/
inductive StepOf (t : Nat) (w : World) : World → Prop
  | free (s : State) (p : Place) (hnot : w.holder ≠ some t)
      (hfree : Free w.state (w.threads t) s p) :
      StepOf t w { w with state := s, threads := update w.threads t p }
  | lock (p : Place) (hnone : w.holder = none) (hlock : Lock (w.threads t) p) :
      StepOf t w { w with holder := some t, threads := update w.threads t p }
  | held (s : State) (p : Place) (hholder : w.holder = some t)
      (hheld : Held w.state (w.threads t) s p) :
      StepOf t w { w with state := s, threads := update w.threads t p }
  | unlock (s : State) (hholder : w.holder = some t) (hunlock : Unlock w.state (w.threads t) s) :
      StepOf t w { state := s, holder := none, threads := update w.threads t .idle }

def Step (w w' : World) : Prop := ∃ t, StepOf t w w'

/-- A new controller, with an append target or without one. -/
def Init (w : World) : Prop := ∃ appendTarget, w = { state := { appendTarget } }

/-! ## §4. Who holds the append mutex. -/

/-- A thread is inside the append mutex if and only if it has it. -/
def Locked (w : World) : Prop := ∀ t, (w.threads t).holds = true ↔ w.holder = some t

theorem Free.holds {s s' : State} {p p' : Place} (h : Free s p s' p') :
    p.holds = false ∧ p'.holds = false := by
  cases h with
  | stop site source => cases site <;> exact ⟨rfl, rfl⟩
  | complete generation outcome result s' hguard hcomplete | release hguard hactive =>
    refine ⟨rfl, ?_⟩
    unfold State.enterWait
    split <;> rfl
  | _ => exact ⟨rfl, rfl⟩

theorem Lock.holds {p p' : Place} (h : Lock p p') : p.holds = false ∧ p'.holds = true := by
  cases h <;> exact ⟨rfl, rfl⟩

theorem Held.holds {s s' : State} {p p' : Place} (h : Held s p s' p') :
    p.holds = true ∧ p'.holds = true := by
  cases h <;> exact ⟨rfl, rfl⟩

theorem Locked.step {w w' : World} (h : Locked w) {t : Nat} (hstep : StepOf t w w') :
    Locked w' := by
  cases hstep with
  | free s p hnot hfree =>
    refine (forall_update_iff _ fun u p => Place.holds p = true ↔ w.holder = some u).mpr ⟨?_, ?_⟩
    · rw [hfree.holds.2]
      exact ⟨nofun, fun hmine => absurd hmine hnot⟩
    · intro u _
      exact h u
  | lock p hnone hlock =>
    refine (forall_update_iff _ fun u p => Place.holds p = true ↔ some t = some u).mpr ⟨?_, ?_⟩
    · exact ⟨fun _ => rfl, fun _ => hlock.holds.2⟩
    · intro u hu
      rw [h u, hnone]
      exact ⟨fun hother => (by cases hother), fun hother => absurd (Option.some.inj hother).symm hu⟩
  | held s p hholder hheld =>
    refine (forall_update_iff _ fun u p => Place.holds p = true ↔ w.holder = some u).mpr ⟨?_, ?_⟩
    · exact ⟨fun _ => hholder, fun _ => hheld.holds.2⟩
    · intro u _
      exact h u
  | unlock s hholder hunlock =>
    refine (forall_update_iff _ fun u p => Place.holds p = true ↔ none = some u).mpr ⟨?_, ?_⟩
    · exact ⟨nofun, fun hother => (by cases hother)⟩
    · intro u hu
      rw [h u, hholder]
      exact ⟨fun hother => absurd (Option.some.inj hother).symm hu, fun hother => (by cases hother)⟩

theorem Locked.init {w : World} (h : Init w) : Locked w := by
  obtain ⟨target, rfl⟩ := h
  intro t
  exact ⟨nofun, fun hother => (by cases hother)⟩

/-- Whoever is outside stays outside while another one is inside. -/
theorem Locked.others {w : World} (h : Locked w) {t u : Nat} (hholder : w.holder = some t)
    (hu : u ≠ t) : (w.threads u).holds = false := by
  rw [Bool.eq_false_iff]
  intro hholds
  rw [h u, hholder] at hholds
  exact hu (Option.some.inj hholds).symm

end Ava.App
