/-
  Ava.Agent.SubagentCoordinator
  **ALL JOBS OF A COORDINATOR.**  The map of retained jobs, the terminal sink, the workers, and
  every call that is in progress, each with the program point it has reached.  A step is one
  section under the coordinator's mutex or the mutex of one job; whatever the functions do
  without a lock (identifiers, history appends, the registry, the interaction gate) may take
  any time and turn out either way.

  Publication, arming and the installation of a sink come in any order.  Whoever is last finds
  the other two done and sends the notification.

    - §1 pruning; §2 program points; §3 steps; §4 what pruning removes; §5 what a step does;
      §6 jobs under every step; §7 notifications; §8 the life of all jobs.
-/
import Ava.Agent.SubagentJob
import Ava.Lib.Transition
import Mathlib.Data.List.Nodup

namespace Ava.Agent.Coordinator

open Ava.Core Ava.Lib Function

/-! ## §1. Pruning. -/

/-- `BackgroundJobRegistryOptions`, as far as the coordinator reads them. -/
structure Limits where
  maxRunningJobs : Nat
  maxRetainedFinishedJobs : Nat

def Limits.hardCap (limits : Limits) : Nat := limits.maxRunningJobs + limits.maxRetainedFinishedJobs

/-- Job objects by the order in which they were made. -/
abbrev Store := Nat → Option JobState

def Store.eligible (σ : Store) (r : Nat) : Bool :=
  match σ r with
  | some s => s.eligible
  | none => false

def Store.sequence (σ : Store) (r : Nat) : Nat :=
  match σ r with
  | some s => s.sequence
  | none => 0

/-- The search of `erase_oldest_eligible_locked`: an eligible job with the smallest sequence. -/
def oldestEligible (σ : Store) : List Nat → Option Nat
  | [] => none
  | r :: jobs =>
    match oldestEligible σ jobs with
    | none => if σ.eligible r then some r else none
    | some o => if σ.eligible r && σ.sequence r ≤ σ.sequence o then some r else some o

/-- `erase_oldest_eligible_locked`. -/
def eraseOldestEligible (σ : Store) (jobs : List Nat) : Option (List Nat) :=
  (oldestEligible σ jobs).map jobs.erase

/-- At most `n` rounds of a loop that erases the oldest eligible job while it may. -/
def eraseRounds (σ : Store) (more : List Nat → Bool) : Nat → List Nat → List Nat
  | 0, jobs => jobs
  | n + 1, jobs =>
    if more jobs then
      match eraseOldestEligible σ jobs with
      | none => jobs
      | some jobs' => eraseRounds σ more n jobs'
    else jobs

/-- `prune_eligible_locked`: the count goes down by one with every round. -/
def pruneEligible (σ : Store) (limits : Limits) (jobs : List Nat) : List Nat :=
  eraseRounds σ (fun _ => true) (jobs.countP σ.eligible - limits.maxRetainedFinishedJobs) jobs

/-- `require_capacity_locked`: what it leaves, and whether there is room.  Each round of its loop
    takes a job away, so the number of jobs bounds the rounds. -/
def requireCapacity (σ : Store) (limits : Limits) (jobs : List Nat) : List Nat × Bool :=
  let pruned := pruneEligible σ limits jobs
  let jobs' := eraseRounds σ (fun jobs => limits.hardCap ≤ jobs.length) pruned.length pruned
  (jobs', jobs'.length < limits.hardCap)

/-! ## §2. Program points. -/

/-- What a call does next. -/
inductive Task where
  -- `start`
  | capacity (parent : Bytes) (mode : SubagentJobMode)
  | insert (parent : Bytes) (mode : SubagentJobMode) (attempt : Nat)
  | persist (r : Nat)
  | launch (r : Nat)
  | withdraw (r : Nat)
  | publish (r : Nat)
  | pruneNotify (r : Nat)
  | notify (r : Nat)
  -- `complete`
  | finish (r : Nat) (completion : BackgroundJobState)
  | arm (r : Nat)
  | notifyPrune (r : Nat)
  | prune
  -- `set_terminal_sink`
  | notifyAll (rs : List Nat)
  -- `cancel`, `promote` and the delivery calls
  | cancel (r : Nat)
  | check (r : Nat)
  | decide (r : Nat)
  | record (r : Nat) (attempt : DeliveryAttempt)
  | acknowledge (r : Nat) (attemptId committedTurnId : Bytes)
  | exhaust (r : Nat) (attemptId : Bytes)
deriving DecidableEq

/-- `kMaxIdentityGenerationAttempts`. -/
def maxIdentityGenerationAttempts : Nat := 8

structure World where
  states : Store := fun _ => none
  jobs : List Nat := []
  made : Nat := 0
  nextJobSequence : Nat := 1
  sink : Bool := false
  workers : List Nat := []
  tasks : Nat → Option Task := fun _ => none
  sent : List Nat := []

/-- `find_owned_locked`. -/
def World.findOwned (w : World) (parent jobId : Bytes) : Option Nat :=
  w.jobs.find? fun r =>
    match w.states r with
    | some s => s.published && s.parentSessionId == parent && s.jobId == jobId
    | none => false

/-- Whether a new job would repeat an identifier of a retained one. -/
def World.taken (w : World) (jobs : List Nat) (jobId deliveryId : Bytes) : Bool :=
  jobs.any fun r =>
    match w.states r with
    | some s => s.jobId == jobId || s.deliveryId == deliveryId
    | none => false

/-- The thread `t` goes on with `y`, or returns. -/
def World.goto (w : World) (t : Nat) (y : Option Task) : World :=
  { w with tasks := update w.tasks t y }

/-! ## §3. Steps. -/

/-- The calls that look a job up and go on with it. -/
inductive Lookup (r : Nat) : Task → Prop
  | cancel : Lookup r (.cancel r)
  | check : Lookup r (.check r)
  | record (attempt : DeliveryAttempt)
      (hattempt : validIdentifier attempt.attemptId = true)
      (hfingerprint : validIdentifier attempt.promptFingerprint = true) :
      Lookup r (.record r attempt)
  | acknowledge (attemptId committedTurnId : Bytes) (hattempt : validIdentifier attemptId = true)
      (hturn : validIdentifier committedTurnId = true) :
      Lookup r (.acknowledge r attemptId committedTurnId)
  | exhaust (attemptId : Bytes) (hattempt : validIdentifier attemptId = true) :
      Lookup r (.exhaust r attemptId)

/-- The parts that run without a lock, or that do nothing under it. -/
inductive Unlocked : Task → Option Task → Prop
  | idsFailed (parent : Bytes) (mode : SubagentJobMode) (attempt : Nat) :
      Unlocked (.insert parent mode attempt) none
  | persisted (r : Nat) : Unlocked (.persist r) (some (.launch r))
  | notPersisted (r : Nat) : Unlocked (.persist r) (some (.withdraw r))
  | notLaunched (r : Nat) : Unlocked (.launch r) (some (.withdraw r))
  | notPrepared (r : Nat) : Unlocked (.decide r) none
  | allNotified : Unlocked (.notifyAll []) none

/-- The sections on one job, with what the call does afterwards. -/
inductive Acts (r : Nat) : Task → JobState → JobState → Option Task → Prop
  | publish (s : JobState) : Acts r (.publish r) s s.publish (some (.pruneNotify r))
  | finish (s : JobState) (c : BackgroundJobState) (hopen : s.execution.terminal = false) :
      Acts r (.finish r c) s (s.finish c) (some (.arm r))
  | finished (s : JobState) (c : BackgroundJobState) (hterminal : s.execution.terminal = true) :
      Acts r (.finish r c) s (s.finish c) none
  | arm (s : JobState) : Acts r (.arm r) s s.arm (some (.notifyPrune r))
  | cancel (s : JobState) : Acts r (.cancel r) s s.requestCancel none
  | check (s : JobState) (hcheck : s.promoteCheck = none) : Acts r (.check r) s s (some (.decide r))
  | checked (s : JobState) (hcheck : s.promoteCheck ≠ none) : Acts r (.check r) s s none
  | decide (s : JobState) : Acts r (.decide r) s s.promote none
  | record (s s' : JobState) (attempt : DeliveryAttempt)
      (h : s.recordDeliveryAttempt attempt = .ok s') : Acts r (.record r attempt) s s' none
  | notRecorded (s : JobState) (attempt : DeliveryAttempt) (e : Error)
      (h : s.recordDeliveryAttempt attempt = .error e) : Acts r (.record r attempt) s s none
  | acknowledge (s s' : JobState) (attemptId committedTurnId : Bytes)
      (h : s.acknowledgeDelivery attemptId committedTurnId = .ok s') :
      Acts r (.acknowledge r attemptId committedTurnId) s s'
        (if s.delivery = .acknowledged then none else some .prune)
  | notAcknowledged (s : JobState) (attemptId committedTurnId : Bytes) (e : Error)
      (h : s.acknowledgeDelivery attemptId committedTurnId = .error e) :
      Acts r (.acknowledge r attemptId committedTurnId) s s none
  | exhaust (s s' : JobState) (attemptId : Bytes) (h : s.exhaustDelivery attemptId = .ok s') :
      Acts r (.exhaust r attemptId) s s' (if s.deliveryExhausted then none else some .prune)
  | notExhausted (s : JobState) (attemptId : Bytes) (e : Error)
      (h : s.exhaustDelivery attemptId = .error e) : Acts r (.exhaust r attemptId) s s none

/-- The calls of `publish_terminal_notification`. -/
inductive Notifies (r : Nat) : Task → Option Task → Prop
  | start : Notifies r (.notify r) none
  | complete : Notifies r (.notifyPrune r) (some .prune)
  | sink (rs : List Nat) : Notifies r (.notifyAll (r :: rs)) (some (.notifyAll rs))

/-- The calls of `prune_eligible_locked`. -/
inductive Prunes : Task → Option Task → Prop
  | start (r : Nat) : Prunes (.pruneNotify r) (some (.notify r))
  | last : Prunes .prune none

/-- The jobs that `set_terminal_sink` finds waiting. -/
def World.waiting (w : World) : List Nat :=
  w.jobs.filter fun r =>
    match w.states r with
    | some s => s.due
    | none => false

/-- A job as `start` makes it. -/
def newJob (parent jobId deliveryId : Bytes) (mode : SubagentJobMode) (sequence : Nat) : JobState :=
  { jobId, parentSessionId := parent, deliveryId, mode, sequence }

/-- **ONE STEP** of any thread. -/
inductive Step (limits : Limits) (w : World) : World → Prop
  | start (t : Nat) (parent : Bytes) (mode : SubagentJobMode) (hidle : w.tasks t = none)
      (hparent : validIdentifier parent = true) :
      Step limits w (w.goto t (some (.capacity parent mode)))
  | complete (t r : Nat) (c : BackgroundJobState) (hidle : w.tasks t = none) (hworker : r ∈ w.workers) :
      Step limits w ({ w with workers := w.workers.erase r }.goto t (some (.finish r c)))
  | lookup (t r : Nat) (y : Task) (parent jobId : Bytes) (hidle : w.tasks t = none)
      (hfound : w.findOwned parent jobId = some r) (hlookup : Lookup r y) :
      Step limits w (w.goto t (some y))
  | setTerminalSink (t : Nat) (hidle : w.tasks t = none) :
      Step limits w ({ w with sink := true }.goto t (some (.notifyAll w.waiting)))
  | clearTerminalSink : Step limits w { w with sink := false }
  | unlocked (t : Nat) (x : Task) (y : Option Task) (htask : w.tasks t = some x)
      (hunlocked : Unlocked x y) : Step limits w (w.goto t y)
  | launched (t r : Nat) (htask : w.tasks t = some (.launch r)) :
      Step limits w ({ w with workers := r :: w.workers }.goto t (some (.publish r)))
  | capacity (t : Nat) (parent : Bytes) (mode : SubagentJobMode)
      (htask : w.tasks t = some (.capacity parent mode)) :
      Step limits w
        ({ w with jobs := (requireCapacity w.states limits w.jobs).1 }.goto t
          (if (requireCapacity w.states limits w.jobs).2 then some (.insert parent mode 0) else none))
  | full (t : Nat) (parent : Bytes) (mode : SubagentJobMode) (attempt : Nat)
      (htask : w.tasks t = some (.insert parent mode attempt))
      (hfull : (requireCapacity w.states limits w.jobs).2 = false) :
      Step limits w ({ w with jobs := (requireCapacity w.states limits w.jobs).1 }.goto t none)
  | collision (t : Nat) (parent jobId deliveryId : Bytes) (mode : SubagentJobMode) (attempt : Nat)
      (htask : w.tasks t = some (.insert parent mode attempt))
      (hroom : (requireCapacity w.states limits w.jobs).2 = true)
      (htaken : w.taken (requireCapacity w.states limits w.jobs).1 jobId deliveryId = true) :
      Step limits w
        ({ w with jobs := (requireCapacity w.states limits w.jobs).1 }.goto t
          (if attempt + 1 < maxIdentityGenerationAttempts then some (.insert parent mode (attempt + 1))
          else none))
  | insert (t : Nat) (parent jobId deliveryId : Bytes) (mode : SubagentJobMode) (attempt : Nat)
      (htask : w.tasks t = some (.insert parent mode attempt))
      (hroom : (requireCapacity w.states limits w.jobs).2 = true)
      (hfree : w.taken (requireCapacity w.states limits w.jobs).1 jobId deliveryId = false) :
      Step limits w
        ({ w with
          states := update w.states w.made
            (some (newJob parent jobId deliveryId mode w.nextJobSequence))
          jobs := (requireCapacity w.states limits w.jobs).1 ++ [w.made]
          made := w.made + 1
          nextJobSequence := w.nextJobSequence + 1 }.goto t (some (.persist w.made)))
  | withdraw (t r : Nat) (htask : w.tasks t = some (.withdraw r)) :
      Step limits w ({ w with jobs := w.jobs.erase r }.goto t none)
  | act (t r : Nat) (x : Task) (y : Option Task) (s s' : JobState) (htask : w.tasks t = some x)
      (hstate : w.states r = some s) (hacts : Acts r x s s' y) :
      Step limits w ({ w with states := update w.states r (some s') }.goto t y)
  | notify (t r : Nat) (x : Task) (y : Option Task) (s : JobState) (htask : w.tasks t = some x)
      (hstate : w.states r = some s) (hnotifies : Notifies r x y) :
      Step limits w
        ({ w with
          states := update w.states r (some (s.notify w.sink))
          sent := if s.due && w.sink then r :: w.sent else w.sent }.goto t y)
  | prune (t : Nat) (x : Task) (y : Option Task) (htask : w.tasks t = some x) (hprunes : Prunes x y) :
      Step limits w ({ w with jobs := pruneEligible w.states limits w.jobs }.goto t y)

/-- A coordinator that was just created. -/
def Init (w : World) : Prop := w = {}

/-! ## §4. What pruning removes. -/

section

variable {σ : Store} {limits : Limits} {jobs : List Nat}

theorem oldestEligible_mem :
    ∀ {jobs : List Nat} {r : Nat}, oldestEligible σ jobs = some r → r ∈ jobs ∧ σ.eligible r = true := by
  intro jobs
  induction jobs with
  | nil =>
    intro r h
    cases h
  | cons q jobs ih =>
    intro r h
    rw [oldestEligible] at h
    split at h
    next =>
      split at h
      next heligible =>
        cases h
        exact ⟨List.mem_cons_self, heligible⟩
      next => cases h
    next o ho =>
      split at h
      next heligible =>
        cases h
        exact ⟨List.mem_cons_self, (Bool.and_eq_true _ _ ▸ heligible).1⟩
      cases h
      exact ⟨List.mem_cons_of_mem _ (ih ho).1, (ih ho).2⟩

/-- A loop that erases keeps the order and takes eligible jobs only. -/
theorem eraseRounds_spec (more : List Nat → Bool) :
    ∀ (n : Nat) (jobs : List Nat), (eraseRounds σ more n jobs).Sublist jobs ∧
      ∀ r ∈ jobs, r ∉ eraseRounds σ more n jobs → σ.eligible r = true := by
  intro n
  induction n with
  | zero =>
    intro jobs
    exact ⟨List.Sublist.refl _, fun r hr hgone => absurd hr hgone⟩
  | succ n ih =>
    intro jobs
    rw [eraseRounds]
    split
    next =>
      unfold eraseOldestEligible
      cases hold : oldestEligible σ jobs with
      | none => exact ⟨List.Sublist.refl _, fun r hr hgone => absurd hr hgone⟩
      | some o =>
        obtain ⟨hsub, hgone⟩ := ih (jobs.erase o)
        refine ⟨hsub.trans List.erase_sublist, ?_⟩
        intro r hr hout
        by_cases hro : r = o
        · rw [hro]
          exact (oldestEligible_mem hold).2
        · exact hgone r ((List.mem_erase_of_ne hro).mpr hr) hout
    next => exact ⟨List.Sublist.refl _, fun r hr hgone => absurd hr hgone⟩

theorem pruneEligible_spec (σ : Store) (limits : Limits) (jobs : List Nat) :
    (pruneEligible σ limits jobs).Sublist jobs ∧
      ∀ r ∈ jobs, r ∉ pruneEligible σ limits jobs → σ.eligible r = true :=
  eraseRounds_spec _ _ _

theorem requireCapacity_spec (σ : Store) (limits : Limits) (jobs : List Nat) :
    (requireCapacity σ limits jobs).1.Sublist jobs ∧
      ∀ r ∈ jobs, r ∉ (requireCapacity σ limits jobs).1 → σ.eligible r = true := by
  obtain ⟨hpruned, hgone⟩ := pruneEligible_spec σ limits jobs
  obtain ⟨herased, hgone'⟩ := eraseRounds_spec (σ := σ)
    (fun jobs => decide (limits.hardCap ≤ jobs.length)) (pruneEligible σ limits jobs).length
    (pruneEligible σ limits jobs)
  refine ⟨herased.trans hpruned, ?_⟩
  intro r hr hout
  by_cases hkept : r ∈ pruneEligible σ limits jobs
  · exact hgone' r hkept hout
  · exact hgone r hr hkept

theorem requireCapacity_room (h : (requireCapacity σ limits jobs).2 = true) :
    (requireCapacity σ limits jobs).1.length < limits.hardCap := of_decide_eq_true h

end

/-! ## §5. What a step does. -/

/-- The tasks that will call `publish_terminal_notification` for a job. -/
def Task.Owes (r : Nat) : Task → Prop
  | .pruneNotify q => q = r
  | .notify q => q = r
  | .notifyPrune q => q = r
  | .notifyAll rs => r ∈ rs
  | _ => False

/-- The program points of `start` before the job is visible. -/
def Task.Starts (r : Nat) : Task → Prop
  | .persist q => q = r
  | .launch q => q = r
  | .withdraw q => q = r
  | .publish q => q = r
  | _ => False

/-- A section that touches no job; the map may lose some. -/
structure Calm (w v : World) : Prop where
  states : v.states = w.states
  tasks : v.tasks = w.tasks
  made : v.made = w.made
  sink : v.sink = w.sink
  sent : v.sent = w.sent
  jobs : v.jobs.Sublist w.jobs

/-- A call goes on without having armed a job: it passes on what it owes and starts what it was
    starting. -/
structure Passes (x y : Option Task) : Prop where
  arms : ∀ r, x ≠ some (.arm r)
  owes : ∀ r z, x = some z → z.Owes r → ∃ z', y = some z' ∧ z'.Owes r
  starts : ∀ r z, y = some z → z.Starts r → ∃ z', x = some z' ∧ z'.Starts r

/-- **WHAT A STEP DOES.**  It installs or removes the sink, makes a job, is a section on one, or
    touches none of them. -/
inductive Effect (limits : Limits) (w : World) : World → Prop
  | calm {v : World} {t : Nat} {y : Option Task} (hcalm : Calm w v) (hpasses : Passes (w.tasks t) y) :
      Effect limits w (v.goto t y)
  | setSink (t : Nat) (hidle : w.tasks t = none) :
      Effect limits w ({ w with sink := true }.goto t (some (.notifyAll w.waiting)))
  | clearSink : Effect limits w { w with sink := false }
  | insert (t : Nat) (parent jobId deliveryId : Bytes) (mode : SubagentJobMode) (attempt : Nat)
      (htask : w.tasks t = some (.insert parent mode attempt))
      (hroom : (requireCapacity w.states limits w.jobs).2 = true) :
      Effect limits w
        ({ w with
          states := update w.states w.made
            (some (newJob parent jobId deliveryId mode w.nextJobSequence))
          jobs := (requireCapacity w.states limits w.jobs).1 ++ [w.made]
          made := w.made + 1
          nextJobSequence := w.nextJobSequence + 1 }.goto t (some (.persist w.made)))
  | act (t r : Nat) (x : Task) (y : Option Task) (s s' : JobState) (htask : w.tasks t = some x)
      (hstate : w.states r = some s) (hacts : Acts r x s s' y) :
      Effect limits w ({ w with states := update w.states r (some s') }.goto t y)
  | notify (t r : Nat) (x : Task) (y : Option Task) (s : JobState) (htask : w.tasks t = some x)
      (hstate : w.states r = some s) (hnotifies : Notifies r x y) :
      Effect limits w
        ({ w with
          states := update w.states r (some (s.notify w.sink))
          sent := if s.due && w.sink then r :: w.sent else w.sent }.goto t y)

variable {limits : Limits} {w w' : World}

theorem Step.effect (hstep : Step limits w w') : Effect limits w w' := by
  have hsame : Calm w w := ⟨rfl, rfl, rfl, rfl, rfl, .refl _⟩
  have hroom : Calm w { w with jobs := (requireCapacity w.states limits w.jobs).1 } :=
    ⟨rfl, rfl, rfl, rfl, rfl, (requireCapacity_spec _ _ _).1⟩
  cases hstep with
  | start t parent mode hidle =>
    exact .calm hsame (by constructor <;> simp [hidle, Task.Starts])
  | complete t r c hidle =>
    exact .calm ⟨rfl, rfl, rfl, rfl, rfl, .refl _⟩ (by constructor <;> simp [hidle, Task.Starts])
  | lookup t r y parent jobId hidle hfound hlookup =>
    refine .calm hsame ?_
    cases hlookup <;> constructor <;> simp [hidle, Task.Starts]
  | setTerminalSink t hidle => exact .setSink t hidle
  | clearTerminalSink => exact .clearSink
  | unlocked t x y htask hunlocked =>
    refine .calm hsame ?_
    cases hunlocked <;> constructor <;> simp [htask, Task.Owes, Task.Starts]
  | launched t r htask =>
    exact .calm ⟨rfl, rfl, rfl, rfl, rfl, .refl _⟩
      (by constructor <;> simp [htask, Task.Owes, Task.Starts])
  | capacity t parent mode htask | collision t parent jobId deliveryId mode attempt htask =>
    exact .calm hroom (by constructor <;> simp [htask, Task.Owes, Task.Starts])
  | full t parent mode attempt htask =>
    exact .calm hroom (by constructor <;> simp [htask, Task.Owes])
  | insert t parent jobId deliveryId mode attempt htask hroom =>
    exact .insert t parent jobId deliveryId mode attempt htask hroom
  | withdraw t r htask =>
    exact .calm ⟨rfl, rfl, rfl, rfl, rfl, List.erase_sublist⟩
      (by constructor <;> simp [htask, Task.Owes])
  | act t r x y s s' htask hstate hacts => exact .act t r x y s s' htask hstate hacts
  | notify t r x y s htask hstate hnotifies => exact .notify t r x y s htask hstate hnotifies
  | prune t x y htask hprunes =>
    refine .calm ⟨rfl, rfl, rfl, rfl, rfl, (pruneEligible_spec _ _ _).1⟩ ?_
    cases hprunes <;> constructor <;> simp [htask, Task.Owes, Task.Starts]

/-! ## §6. Jobs under every step. -/

variable {r : Nat} {x : Task} {s s' : JobState} {y : Option Task}

/-- A section on a job is one of the sections of its life, or it only looks. -/
theorem Acts.section (h : Acts r x s s' y) : s' = s ∨ JobState.Section s s' := by
  cases h with
  | publish => exact .inr (.publish s)
  | finish _ c | finished _ c => exact .inr (.finish s c)
  | arm => exact .inr (.arm s)
  | cancel => exact .inr (.requestCancel s)
  | check | checked | notRecorded | notAcknowledged | notExhausted => exact .inl rfl
  | decide => exact .inr (.promote s)
  | record _ _ attempt h => exact .inr (.record attempt h)
  | acknowledge _ _ attemptId committedTurnId h =>
    exact .inr (.acknowledge attemptId committedTurnId h)
  | exhaust _ _ attemptId h => exact .inr (.exhaust attemptId h)

/-- The bookkeeping of the job objects. -/
structure Made (w : World) : Prop where
  unmade : ∀ r, w.made ≤ r → w.states r = none
  known : ∀ r, r < w.made → w.states r ≠ none
  retained : ∀ r ∈ w.jobs, r < w.made
  sound : ∀ r s, w.states r = some s → s.Sound

theorem Made.lt (h : Made w) (hs : w.states r = some s) :
    r < w.made := by
  by_contra hge
  rw [h.unmade r (Nat.not_lt.mp hge)] at hs
  cases hs

/-- A job is still there after a section on one of the jobs. -/
theorem exists_update {σ : Store} {q : Nat} {u : JobState} {P : JobState → Prop}
    (hs : σ r = some s) (hself : r = q → P u) (hother : r ≠ q → P s) :
    ∃ s', update σ q (some u) r = some s' ∧ P s' := by
  by_cases hr : r = q
  · exact ⟨u, by rw [hr, update_self], hself hr⟩
  · exact ⟨s, by rw [update_of_ne hr, hs], hother hr⟩

/-- **WHAT A STEP DOES TO A JOB**: nothing, or one section of its life. -/
theorem Step.job (hstep : Step limits w w') (hmade : Made w) (hs : w.states r = some s) :
    ∃ s', w'.states r = some s' ∧ (s' = s ∨ JobState.Section s s') := by
  cases hstep.effect with
  | calm hcalm => exact ⟨s, hcalm.states ▸ hs, .inl rfl⟩
  | setSink | clearSink => exact ⟨s, hs, .inl rfl⟩
  | insert t parent jobId deliveryId mode attempt htask hroom =>
    have hne : r ≠ w.made := Nat.ne_of_lt (hmade.lt hs)
    exact exists_update hs (fun hr => absurd hr hne) fun _ => .inl rfl
  | act t q x y u u' htask hstate hacts =>
    refine exists_update hs ?_ fun _ => .inl rfl
    rintro rfl
    cases hs.symm.trans hstate
    exact hacts.section
  | notify t q x y u htask hstate hnotifies =>
    refine exists_update hs ?_ fun _ => .inl rfl
    rintro rfl
    cases hs.symm.trans hstate
    exact .inr (.notify s w.sink)

theorem sound_newJob (parent jobId deliveryId : Bytes) (mode : SubagentJobMode) (sequence : Nat) :
    (newJob parent jobId deliveryId mode sequence).Sound := by
  refine ⟨fun _ => ⟨rfl, rfl, rfl, rfl⟩, ?_, ?_⟩
  · intro hterminal
    cases hterminal
  · intro hacknowledged
    cases hacknowledged

/-- The jobs of the next world: an old one, or the one that was just made. -/
theorem Step.job_of (hstep : Step limits w w') (hs' : w'.states r = some s') :
    (∃ s, w.states r = some s ∧ (s' = s ∨ JobState.Section s s')) ∨
      (w'.made = w.made + 1 ∧ r = w.made ∧ s'.Sound) := by
  cases hstep.effect with
  | calm hcalm => exact .inl ⟨s', hcalm.states ▸ hs', .inl rfl⟩
  | setSink | clearSink => exact .inl ⟨s', hs', .inl rfl⟩
  | insert t parent jobId deliveryId mode attempt htask hroom =>
    obtain ⟨rfl, ⟨⟩⟩ | ⟨-, hold⟩ := update_eq_cases hs'
    · exact .inr ⟨rfl, rfl, sound_newJob _ _ _ _ _⟩
    · exact .inl ⟨s', hold, .inl rfl⟩
  | act t q x y u u' htask hstate hacts =>
    obtain ⟨rfl, ⟨⟩⟩ | ⟨-, hold⟩ := update_eq_cases hs'
    · exact .inl ⟨u, hstate, hacts.section⟩
    · exact .inl ⟨s', hold, .inl rfl⟩
  | notify t q x y u htask hstate hnotifies =>
    obtain ⟨rfl, ⟨⟩⟩ | ⟨-, hold⟩ := update_eq_cases hs'
    · exact .inl ⟨u, hstate, .inr (.notify u w.sink)⟩
    · exact .inl ⟨s', hold, .inl rfl⟩

/-- What a step does to the map: it makes no job, and the map is what is left of it, or it makes
    one and there was room. -/
theorem Step.map (hstep : Step limits w w') :
    (w'.made = w.made ∧ w'.jobs.Sublist w.jobs) ∨
      (w'.made = w.made + 1 ∧ w'.states w.made ≠ none ∧
        (∀ r ∈ w'.jobs, r ∈ w.jobs ∨ r = w.made) ∧ w'.jobs.length ≤ limits.hardCap ∧
        ∀ r ∈ w.jobs, r ∉ w'.jobs → w.states.eligible r = true) := by
  cases hstep.effect with
  | calm hcalm => exact .inl ⟨hcalm.made, hcalm.jobs⟩
  | setSink | clearSink | act | notify => exact .inl ⟨rfl, List.Sublist.refl _⟩
  | insert t parent jobId deliveryId mode attempt htask hroom =>
    obtain ⟨hsub, hgone⟩ := requireCapacity_spec w.states limits w.jobs
    refine .inr ⟨rfl, ?_, ?_, ?_, ?_⟩
    · show update w.states w.made _ w.made ≠ none
      rw [update_self]
      exact Option.some_ne_none _
    · intro r hr
      change r ∈ (requireCapacity w.states limits w.jobs).1 ++ [w.made] at hr
      obtain hr | hr := List.mem_append.mp hr
      · exact .inl (hsub.subset hr)
      · exact .inr (List.mem_singleton.mp hr)
    · show ((requireCapacity w.states limits w.jobs).1 ++ [w.made]).length ≤ limits.hardCap
      rw [List.length_append, List.length_singleton]
      exact requireCapacity_room hroom
    · intro r hr hout
      refine hgone r hr fun hkept => hout ?_
      exact List.mem_append_left [w.made] hkept

theorem Made.start : Made {} :=
  ⟨fun _ _ => rfl, fun r hr => absurd hr (Nat.not_lt_zero r), by simp, by simp⟩

theorem Made.step (h : Made w) (hstep : Step limits w w') :
    Made w' := by
  have hmap := hstep.map
  have hmono : w.made ≤ w'.made := by
    obtain ⟨hmade, -⟩ | ⟨hmade, -⟩ := hmap <;> omega
  refine ⟨?_, ?_, ?_, ?_⟩
  · intro r hr
    by_contra hsome
    obtain ⟨s', hs'⟩ := Option.ne_none_iff_exists'.mp hsome
    obtain ⟨s, hs, -⟩ | ⟨hmade, hnew, -⟩ := hstep.job_of hs'
    · have hlt := h.lt hs
      omega
    · omega
  · intro r hr
    by_cases hold : r < w.made
    · obtain ⟨s, hs⟩ := Option.ne_none_iff_exists'.mp (h.known r hold)
      obtain ⟨s', hs', -⟩ := hstep.job h hs
      rw [hs']
      exact Option.some_ne_none s'
    · obtain ⟨hmade, -⟩ | ⟨hmade, hnew, -⟩ := hmap
      · omega
      · have hr' : r = w.made := by omega
        rw [hr']
        exact hnew
  · intro r hr
    obtain ⟨hmade, hsub⟩ | ⟨hmade, -, hjobs, -⟩ := hmap
    · rw [hmade]
      exact h.retained r (hsub.subset hr)
    · obtain hold | hnew := hjobs r hr
      · have hlt := h.retained r hold
        omega
      · omega
  · intro r s' hs'
    obtain ⟨s, hs, hsame | hsection⟩ | ⟨-, -, hsound⟩ := hstep.job_of hs'
    · rw [hsame]
      exact h.sound r s hs
    · exact hsection.sound (h.sound r s hs)
    · exact hsound

/-- The map never outgrows its cap. -/
theorem length_step (h : w.jobs.length ≤ limits.hardCap) (hstep : Step limits w w') :
    w'.jobs.length ≤ limits.hardCap := by
  obtain ⟨-, hsub⟩ | ⟨-, -, -, hroom, -⟩ := hstep.map
  · exact Nat.le_trans hsub.length_le h
  · exact hroom

/-! ## §7. Notifications. -/

variable {t : Nat}

/-- A task that some thread has stays there unless this thread gives it up. -/
theorem exists_goto {v : World} {P : Task → Prop} (hv : v.tasks = w.tasks)
    (h : ∃ u x, w.tasks u = some x ∧ P x)
    (hgives : ∀ x, w.tasks t = some x → P x → ∃ z, y = some z ∧ P z) :
    ∃ u x, (v.goto t y).tasks u = some x ∧ P x := by
  obtain ⟨u, x, hx, hP⟩ := h
  by_cases hu : u = t
  · subst hu
    obtain ⟨z, rfl, hz⟩ := hgives x hx hP
    exact ⟨u, z, update_self _ _ _, hz⟩
  · exact ⟨u, x, (update_of_ne hu _ _).trans (by rw [hv, hx]), hP⟩

/-- The new task of a thread is there. -/
theorem exists_goto_self {z : Task} {P : Task → Prop} (hz : P z) :
    ∃ u x, (w.goto t (some z)).tasks u = some x ∧ P x :=
  ⟨t, z, update_self _ _ _, hz⟩

/-- A job that is not armed is being armed. -/
def Arming (w : World) : Prop :=
  ∀ r s, w.states r = some s → s.deliveryArmReady = false → ∃ u x, w.tasks u = some x ∧ x = .arm r

/-- A job whose notification is due is being notified, once there is a sink. -/
def Notifying (w : World) : Prop :=
  w.sink = true → ∀ r ∈ w.jobs, ∀ s, w.states r = some s → s.due = true →
    ∃ u x, w.tasks u = some x ∧ x.Owes r

/-- What a section leaves alone that neither publishes, ends nor arms its job. -/
structure Leaves (s s' : JobState) : Prop where
  published : s'.published = s.published
  armed : s'.deliveryArmReady = s.deliveryArmReady
  emitted : s'.terminalNotificationEmitted = s.terminalNotificationEmitted
  due : s'.due = true → s.due = true

theorem Leaves.refl (s : JobState) : Leaves s s := ⟨rfl, rfl, rfl, id⟩

/-- **WHAT A SECTION DOES TO THE FLAGS OF ITS JOB**: it publishes the job, ends it, arms it, or
    leaves the flags alone. -/
inductive Flags (r : Nat) : Task → JobState → JobState → Option Task → Prop
  | publish (s : JobState) : Flags r (.publish r) s s.publish (some (.pruneNotify r))
  | finish {x : Task} {s s' : JobState} (hpublished : s'.published = s.published)
      (hemitted : s'.terminalNotificationEmitted = s.terminalNotificationEmitted)
      (hdue : s'.due = true → s.due = true) : Flags r x s s' (some (.arm r))
  | arm (s : JobState) : Flags r (.arm r) s s.arm (some (.notifyPrune r))
  | leaves {x : Task} {s s' : JobState} {y : Option Task} (hx : x ≠ .arm r) (h : Leaves s s') :
      Flags r x s s' y

theorem Acts.flags (h : Acts r x s s' y) : Flags r x s s' y := by
  cases h with
  | publish => exact .publish s
  | arm => exact .arm s
  | check | checked | notRecorded | notAcknowledged | notExhausted => exact .leaves (by simp) (.refl s)
  | finish _ c hopen =>
    -- What ends in the background has its notification still to come, once it is armed.
    rw [JobState.finish_of_open hopen]
    refine .finish ?_ ?_ ?_
    · split <;> rfl
    · split <;> rfl
    · split
      next => simp [JobState.due]
      next => exact id
  | finished _ c hterminal =>
    rw [JobState.finish_of_terminal hterminal]
    exact .leaves (by simp) (.refl s)
  | cancel =>
    unfold JobState.requestCancel
    split <;> exact .leaves (by simp) ⟨rfl, rfl, rfl, id⟩
  | decide =>
    unfold JobState.promote
    split
    next => split <;> exact .leaves (by simp) ⟨rfl, rfl, rfl, id⟩
    next => exact .leaves (by simp) ⟨rfl, rfl, rfl, id⟩
    next => exact .leaves (by simp) ⟨rfl, rfl, rfl, id⟩
  | record _ _ attempt h =>
    obtain rfl | ⟨-, -, -, -, -, rfl⟩ := JobState.recordDeliveryAttempt_cases h
    · exact .leaves (by simp) (.refl _)
    · exact .leaves (by simp) ⟨rfl, rfl, rfl, id⟩
  | acknowledge _ _ attemptId committedTurnId h =>
    obtain rfl | ⟨-, -, -, rfl⟩ := JobState.acknowledgeDelivery_cases h
    · exact .leaves (by simp) (.refl _)
    · exact .leaves (by simp) ⟨rfl, rfl, rfl, id⟩
  | exhaust _ _ attemptId h =>
    obtain rfl | ⟨-, rfl⟩ := JobState.exhaustDelivery_cases h
    · exact .leaves (by simp) (.refl _)
    · exact .leaves (by simp) ⟨rfl, rfl, rfl, by simp [JobState.due]⟩

/-- Only the terminal section disarms a job. -/
theorem Acts.disarms (h : Acts r x s s' y) (harmed : s'.deliveryArmReady = false) :
    (s.deliveryArmReady = false ∧ x ≠ .arm r) ∨ y = some (.arm r) := by
  cases h.flags with
  | publish => exact .inl ⟨harmed, by simp⟩
  | finish => exact .inr rfl
  | arm => cases harmed
  | leaves hx hleaves => exact .inl ⟨hleaves.armed.symm.trans harmed, hx⟩

variable {q : Nat}

/-- The section on `r` belongs to a task of `r`. -/
theorem Acts.arm_eq (h : Acts q (.arm r) s s' y) : r = q := by
  cases h with
  | arm => rfl

/-- A task that acts on a job is not one that notifies. -/
theorem Acts.not_owes (h : Acts q x s s' y) : ¬ x.Owes r := by
  cases h <;> exact id

/-- Whether the notification is due after a section: then it was before, or the task will see
    to it. -/
theorem Acts.due (h : Acts r x s s' y) (hdue : s'.due = true) :
    s.due = true ∨ ∃ z, y = some z ∧ z.Owes r := by
  cases h.flags with
  | publish | arm => exact .inr ⟨_, rfl, rfl⟩
  | finish _ _ hbefore => exact .inl (hbefore hdue)
  | leaves _ hleaves => exact .inl (hleaves.due hdue)

/-- With a sink a notification is sent, and then it is not due any more. -/
theorem due_notify (s : JobState) : (s.notify true).due = false := by
  unfold JobState.notify
  rw [Bool.and_true]
  split
  next => simp [JobState.due]
  next hdue => exact Bool.eq_false_iff.mpr hdue

theorem notify_deliveryArmReady (s : JobState) (sink : Bool) :
    (s.notify sink).deliveryArmReady = s.deliveryArmReady := by
  unfold JobState.notify
  split <;> rfl

theorem Arming.step (h : Arming w) (hstep : Step limits w w') : Arming w' := by
  intro r s' hs' harmed
  -- Where the job was not armed before, its task is still there unless the thread was arming it.
  have hkeep : ∀ {v : World} {t : Nat} {y : Option Task} {s : JobState}, v.tasks = w.tasks →
      w.states r = some s → s.deliveryArmReady = false → w.tasks t ≠ some (.arm r) →
      ∃ u x, (v.goto t y).tasks u = some x ∧ x = .arm r := by
    intro v t y s hv hs hbefore hnot
    refine exists_goto (P := (· = .arm r)) hv (h r s hs hbefore) ?_
    rintro x hx rfl
    exact absurd hx hnot
  cases hstep.effect with
  | calm hcalm hpasses => exact hkeep hcalm.tasks (hcalm.states ▸ hs') harmed (hpasses.arms r)
  | setSink t hidle => exact hkeep rfl hs' harmed (by simp [hidle])
  | clearSink => exact h r s' hs' harmed
  | insert t parent jobId deliveryId mode attempt htask =>
    obtain ⟨-, ⟨⟩⟩ | ⟨-, hold⟩ := update_eq_cases hs'
    · cases harmed
    · exact hkeep rfl hold harmed (by simp [htask])
  | act t q x y s u htask hstate hacts =>
    obtain ⟨rfl, ⟨⟩⟩ | ⟨hr, hold⟩ := update_eq_cases hs'
    · obtain ⟨hbefore, hx⟩ | rfl := hacts.disarms harmed
      · exact hkeep rfl hstate hbefore (by simpa [htask] using hx)
      · exact exists_goto_self rfl
    · refine hkeep rfl hold harmed ?_
      intro harm
      cases htask.symm.trans harm
      exact hr hacts.arm_eq
  | notify t q x y s htask hstate hnotifies =>
    have hx : w.tasks t ≠ some (.arm r) := by
      rw [htask]
      cases hnotifies <;> simp
    obtain ⟨rfl, ⟨⟩⟩ | ⟨-, hold⟩ := update_eq_cases hs'
    · exact hkeep rfl hstate (notify_deliveryArmReady s w.sink ▸ harmed) hx
    · exact hkeep rfl hold harmed hx

/-- Every job in the map that is to be notified. -/
theorem mem_waiting (hr : r ∈ w.jobs) (hs : w.states r = some s) (hdue : s.due = true) :
    r ∈ w.waiting := by
  unfold World.waiting
  rw [List.mem_filter]
  refine ⟨hr, ?_⟩
  rw [hs]
  exact hdue

theorem Notifying.step (h : Notifying w) (hstep : Step limits w w') : Notifying w' := by
  intro hsink r hr s' hs' hdue
  -- The debt of an earlier world, if the thread has nothing to do with it.
  have hkeep : ∀ {v : World} {t : Nat} {y : Option Task} {x : Task} {s : JobState},
      v.tasks = w.tasks → w.sink = true → r ∈ w.jobs → w.states r = some s → s.due = true →
      w.tasks t = some x → ¬ x.Owes r → ∃ u x, (v.goto t y).tasks u = some x ∧ x.Owes r := by
    intro v t y x s hv hsink hr hs hbefore htask hnot
    refine exists_goto hv (h hsink r hr s hs hbefore) ?_
    intro z hz howes
    cases htask.symm.trans hz
    exact absurd howes hnot
  cases hstep.effect with
  | calm hcalm hpasses =>
    exact exists_goto hcalm.tasks (h (hcalm.sink ▸ hsink) r (hcalm.jobs.subset hr) s'
      (hcalm.states ▸ hs') hdue) (hpasses.owes r)
  | setSink t hidle => exact exists_goto_self (mem_waiting hr hs' hdue)
  | clearSink => cases hsink
  | insert t parent jobId deliveryId mode attempt htask =>
    obtain ⟨rfl, ⟨⟩⟩ | ⟨hnew, hold⟩ := update_eq_cases hs'
    · cases hdue
    · obtain hr | hr := List.mem_append.mp hr
      · have hroom := (requireCapacity_spec w.states limits w.jobs).1
        exact hkeep rfl hsink (hroom.subset hr) hold hdue htask id
      · exact absurd (List.mem_singleton.mp hr) hnew
  | act t q x y s u htask hstate hacts =>
    obtain ⟨rfl, ⟨⟩⟩ | ⟨-, hold⟩ := update_eq_cases hs'
    · obtain hbefore | ⟨z, rfl, hz⟩ := hacts.due hdue
      · exact hkeep rfl hsink hr hstate hbefore htask hacts.not_owes
      · exact exists_goto_self hz
    · exact hkeep rfl hsink hr hold hdue htask hacts.not_owes
  | notify t q x y s htask hstate hnotifies =>
    obtain ⟨rfl, ⟨⟩⟩ | ⟨hq, hold⟩ := update_eq_cases hs'
    · have hon : w.sink = true := hsink
      rw [hon, due_notify] at hdue
      cases hdue
    · refine exists_goto rfl (h hsink r hr s' hold hdue) ?_
      intro z hz howes
      cases htask.symm.trans hz
      cases hnotifies with
      | start | complete => exact absurd howes.symm hq
      | sink rs => exact ⟨_, rfl, (List.mem_cons.mp howes).resolve_left hq⟩

/-- Only `publish_terminal_notification` sets the mark of a sent notification. -/
theorem Acts.emitted (h : Acts r x s s' y) :
    s'.terminalNotificationEmitted = s.terminalNotificationEmitted := by
  cases h.flags with
  | publish => rfl
  | finish _ hemitted _ => exact hemitted
  | arm => rfl
  | leaves _ hleaves => exact hleaves.emitted

/-- The notifications that were sent, each once, are those of the marked jobs. -/
structure Sent (w : World) : Prop where
  once : w.sent.Nodup
  marked : ∀ r, r ∈ w.sent ↔ ∃ s, w.states r = some s ∧ s.terminalNotificationEmitted = true

theorem Sent.start : Sent {} := ⟨List.nodup_nil, by simp⟩

/-- A section that leaves the mark alone. -/
theorem Sent.replace (h : Sent w) (hs : w.states q = some s)
    (hmark : s'.terminalNotificationEmitted = s.terminalNotificationEmitted) {v : World}
    (hstates : v.states = update w.states q (some s')) (hsent : v.sent = w.sent) :
    Sent v := by
  refine ⟨by rw [hsent]; exact h.once, ?_⟩
  intro r
  rw [hsent, h.marked r, hstates]
  by_cases hr : r = q
  · subst hr
    rw [update_self, hs]
    simp [hmark]
  · rw [update_of_ne hr]

theorem Sent.step (h : Sent w) (hmade : Made w) (hstep : Step limits w w') : Sent w' := by
  cases hstep.effect with
  | calm hcalm =>
    obtain ⟨hstates, -, -, -, hsent, -⟩ := hcalm
    exact ⟨hsent ▸ h.once, hsent ▸ hstates ▸ h.marked⟩
  | setSink | clearSink => exact ⟨h.once, h.marked⟩
  | insert t parent jobId deliveryId mode attempt htask hroom =>
    refine ⟨h.once, ?_⟩
    intro r
    show r ∈ w.sent ↔ ∃ s, update w.states w.made _ r = some s ∧ _
    rw [h.marked r]
    by_cases hr : r = w.made
    · subst hr
      rw [update_self, hmade.unmade w.made (Nat.le_refl _)]
      simp [newJob]
    · rw [update_of_ne hr]
  | act t q x y s u htask hstate hacts => exact h.replace hstate hacts.emitted rfl rfl
  | notify t q x y s htask hstate hnotifies =>
    by_cases hsends : (s.due && w.sink) = true
    · have hdue : s.terminalNotificationEmitted = false := by
        simp only [JobState.due, Bool.and_eq_true, Bool.not_eq_true'] at hsends
        exact hsends.1.1.2
      have hnew : q ∉ w.sent := by
        rw [h.marked q]
        rintro ⟨s', hs', hmark⟩
        cases hstate.symm.trans hs'
        exact absurd (hdue.symm.trans hmark) (by decide)
      have hnotified : s.notify w.sink = { s with terminalNotificationEmitted := true } :=
        if_pos hsends
      constructor
      · show (if (s.due && w.sink) = true then q :: w.sent else w.sent).Nodup
        rw [if_pos hsends]
        exact List.nodup_cons.mpr ⟨hnew, h.once⟩
      · intro r
        show r ∈ (if (s.due && w.sink) = true then q :: w.sent else w.sent) ↔
          ∃ s', update w.states q (some (s.notify w.sink)) r = some s' ∧ _
        rw [if_pos hsends, List.mem_cons, h.marked r, hnotified]
        by_cases hr : r = q
        · subst hr
          rw [update_self]
          simp
        · rw [update_of_ne hr]
          simp [hr]
    · have hquiet : s.notify w.sink = s := if_neg hsends
      refine h.replace hstate (by rw [hquiet]) rfl ?_
      show (if (s.due && w.sink) = true then q :: w.sent else w.sent) = w.sent
      rw [if_neg hsends]

/-! ### Jobs that are still being started -/

/-- A job whose `start` has not come to its publication is unpublished, and only that call is
    concerned with it. -/
structure Fresh (w : World) : Prop where
  unpublished : ∀ t x r, w.tasks t = some x → x.Starts r →
    ∃ s, w.states r = some s ∧ s.published = false
  alone : ∀ t t' x x' r, w.tasks t = some x → x.Starts r → w.tasks t' = some x' → x'.Starts r → t = t'

theorem goto_cases {u : Nat} (h : (w.goto t y).tasks u = some x) :
    (u ≠ t ∧ w.tasks u = some x) ∨ (u = t ∧ y = some x) := by
  obtain hself | hother := update_eq_cases h
  · exact .inr hself
  · exact .inl hother

/-- A thread moves on; what it starts it was starting before, and the jobs that others start are
    as unpublished as they were. -/
theorem Fresh.goto {v : World} (h : Fresh w) (hv : v.tasks = w.tasks)
    (hfrom : ∀ z r, y = some z → z.Starts r → ∃ x, w.tasks t = some x ∧ x.Starts r)
    (hkeep : ∀ u x r s, (v.goto t y).tasks u = some x → x.Starts r → w.states r = some s →
      s.published = false → ∃ s', v.states r = some s' ∧ s'.published = false) :
    Fresh (v.goto t y) := by
  have hback : ∀ u x r, (v.goto t y).tasks u = some x → x.Starts r →
      ∃ x', w.tasks u = some x' ∧ x'.Starts r := by
    intro u x r hu hx
    obtain ⟨-, hold⟩ | ⟨rfl, hnew⟩ := goto_cases hu
    · rw [hv] at hold
      exact ⟨x, hold, hx⟩
    · exact hfrom x r hnew hx
  constructor
  · intro u x r hu hx
    obtain ⟨x', hu', hx'⟩ := hback u x r hu hx
    obtain ⟨s, hs, hp⟩ := h.unpublished u x' r hu' hx'
    exact hkeep u x r s hu hx hs hp
  · intro u u' x x' r hu hx hu' hx'
    obtain ⟨z, hz, hzr⟩ := hback u x r hu hx
    obtain ⟨z', hz', hzr'⟩ := hback u' x' r hu' hx'
    exact h.alone u u' z z' r hz hzr hz' hzr'

/-- Only the publication publishes. -/
theorem Acts.published (h : Acts r x s s' y) :
    s'.published = s.published ∨ (x = .publish r ∧ y = some (.pruneNotify r)) := by
  cases h.flags with
  | publish => exact .inr ⟨rfl, rfl⟩
  | finish hpublished _ _ => exact .inl hpublished
  | arm => exact .inl rfl
  | leaves _ hleaves => exact .inl hleaves.published

/-- No section starts a job. -/
theorem Acts.not_starts {z : Task} (h : Acts q x s s' (some z)) : ¬ z.Starts r := by
  generalize hy : some z = y at h
  cases h with
  | publish | finish | arm | check =>
    cases hy
    exact id
  | acknowledge | exhaust =>
    split at hy
    next => cases hy
    cases hy
    exact id
  | finished | cancel | checked | decide | record | notRecorded | notAcknowledged | notExhausted =>
    cases hy

theorem Fresh.start : Fresh {} := ⟨by simp, by simp⟩

theorem Fresh.step (h : Fresh w) (hmade : Made w) (hstep : Step limits w w') : Fresh w' := by
  cases hstep.effect with
  | calm hcalm hpasses =>
    refine h.goto hcalm.tasks (fun z r => hpasses.starts r z) ?_
    intro u x r s _ _ hs hp
    exact ⟨s, hcalm.states ▸ hs, hp⟩
  | setSink t hidle =>
    refine h.goto rfl ?_ fun u x r s _ _ hs hp => ⟨s, hs, hp⟩
    rintro z r ⟨⟩ hz
    exact absurd hz id
  | clearSink => exact ⟨h.unpublished, h.alone⟩
  | insert t parent jobId deliveryId mode attempt htask hroom =>
    -- The new job belongs to this thread alone, because nobody knows of it yet.
    have hunknown : ∀ u x, w.tasks u = some x → ¬ x.Starts w.made := by
      intro u x hu hx
      obtain ⟨s, hs, -⟩ := h.unpublished u x w.made hu hx
      exact absurd (hmade.lt hs) (Nat.lt_irrefl _)
    constructor
    · intro u x r hu hx
      obtain ⟨-, hold⟩ | ⟨rfl, hnew⟩ := goto_cases hu
      · have hne : r ≠ w.made := by
          rintro rfl
          exact hunknown u x hold hx
        obtain ⟨s, hs, hp⟩ := h.unpublished u x r hold hx
        exact exists_update hs (fun hr => absurd hr hne) fun _ => hp
      · cases hnew
        obtain rfl : w.made = r := hx
        exact ⟨_, update_self _ _ _, rfl⟩
    · intro u u' x x' r hu hx hu' hx'
      obtain ⟨-, hold⟩ | ⟨rfl, hnew⟩ := goto_cases hu
      · obtain ⟨-, hold'⟩ | ⟨rfl, hnew'⟩ := goto_cases hu'
        · exact h.alone u u' x x' r hold hx hold' hx'
        · cases hnew'
          obtain rfl : w.made = r := hx'
          exact absurd hx (hunknown u x hold)
      · obtain ⟨-, hold'⟩ | ⟨rfl, hnew'⟩ := goto_cases hu'
        · cases hnew
          obtain rfl : w.made = r := hx
          exact absurd hx' (hunknown u' x' hold')
        · rfl
  | act t q x y s u htask hstate hacts =>
    refine h.goto rfl ?_ ?_
    · rintro z r rfl hz
      exact absurd hz hacts.not_starts
    · intro t' z r s₀ ht' hz hs₀ hp
      refine exists_update hs₀ ?_ fun _ => hp
      rintro rfl
      cases hstate.symm.trans hs₀
      obtain hsame | ⟨rfl, rfl⟩ := hacts.published
      · exact hsame.trans hp
      · -- The publishing thread was the only one that was starting the job.
        obtain ⟨hne, hold⟩ | ⟨rfl, hnew⟩ := goto_cases ht'
        · exact absurd (h.alone t' t z _ r hold hz htask rfl) hne
        · cases hnew
          exact absurd hz id
  | notify t q x y s htask hstate hnotifies =>
    refine h.goto rfl ?_ ?_
    · intro z r hz hstarts
      cases hnotifies with
      | start => cases hz
      | complete | sink rs =>
        cases hz
        exact absurd hstarts id
    · intro t' z r s₀ ht' hz hs₀ hp
      refine exists_update hs₀ ?_ fun _ => hp
      rintro rfl
      cases hstate.symm.trans hs₀
      unfold JobState.notify
      split <;> exact hp

/-! ## §8. The life of all jobs. -/

/-- **THE LIFE OF ALL JOBS.**  Every step moves every job forward or leaves it alone.  A sent
    notification is sent once, and when no call is in progress and a sink is installed, every
    retained and published background job that is finished and not given up has had its own.
    The map is bounded, and what leaves it was finished with nothing left to deliver, or was
    never visible. -/
structure Lifecycle (limits : Limits) (w : World) : Prop where
  moves : ∀ w', Step limits w w' → ∀ r s, w.states r = some s →
    ∃ s', w'.states r = some s' ∧ JobState.Moves s s'
  acknowledged : ∀ r s, w.states r = some s → s.delivery = .acknowledged →
    s.acknowledgedAttemptId = s.latestAttempt ∧ s.latestAttempt ≠ none
  once : w.sent.Nodup
  notified : (∀ t, w.tasks t = none) → w.sink = true → ∀ r ∈ w.jobs, ∀ s, w.states r = some s →
    s.published = true → s.execution.terminal = true → s.mode = .background →
    s.deliveryExhausted = false → r ∈ w.sent
  bounded : w.jobs.length ≤ limits.hardCap
  removed : ∀ w', Step limits w w' → ∀ r ∈ w.jobs, r ∉ w'.jobs → ∃ s, w.states r = some s ∧
    (s.published = false ∨ (s.execution.terminal = true ∧
      (s.delivery.isPending = false ∨ s.deliveryExhausted = true)))

/-- Everything a run keeps. -/
structure Inv (limits : Limits) (w : World) : Prop where
  made : Made w
  room : w.jobs.length ≤ limits.hardCap
  arming : Arming w
  notifying : Notifying w
  sent : Sent w
  fresh : Fresh w

theorem Inv.reach (h : Reach Init (Step limits) w) :
    Inv limits w := by
  refine h.invariant ?_ ?_
  · rintro w rfl
    refine ⟨.start, Nat.zero_le _, ?_, ?_, .start, .start⟩
    · intro r s hs
      cases hs
    · intro hsink
      cases hsink
  · intro w w' hw hstep
    exact ⟨hw.made.step hstep, length_step hw.room hstep, hw.arming.step hstep,
      hw.notifying.step hstep, hw.sent.step hw.made hstep, hw.fresh.step hw.made hstep⟩

/-- An eligible job has nothing left to do. -/
theorem eligible_settled {σ : Store} (h : σ.eligible r = true) :
    ∃ s, σ r = some s ∧ s.execution.terminal = true ∧
      (s.delivery.isPending = false ∨ s.deliveryExhausted = true) := by
  unfold Store.eligible at h
  split at h
  next s hs =>
    simp only [JobState.eligible, Bool.and_eq_true, Bool.or_eq_true, beq_iff_eq] at h
    refine ⟨s, hs, h.1.2, ?_⟩
    obtain ⟨-, (hdirect | hacknowledged) | hexhausted⟩ := h
    · rw [hdirect]
      exact .inl rfl
    · rw [hacknowledged]
      exact .inl rfl
    · exact .inr hexhausted
  next => cases h

/-- A step removes eligible jobs, and the job of a `start` that failed. -/
theorem Step.removed (hstep : Step limits w w') (hr : r ∈ w.jobs) (hout : r ∉ w'.jobs) :
    w.states.eligible r = true ∨ ∃ t, w.tasks t = some (.withdraw r) := by
  cases hstep with
  | start | complete | lookup | setTerminalSink | clearTerminalSink | unlocked | launched | act
  | notify => exact absurd hr hout
  | capacity | full | collision =>
    exact .inl ((requireCapacity_spec w.states limits w.jobs).2 r hr hout)
  | insert =>
    refine .inl ((requireCapacity_spec w.states limits w.jobs).2 r hr ?_)
    exact fun hkept => hout (List.mem_append_left _ hkept)
  | withdraw t q htask =>
    by_cases hq : r = q
    · exact .inr ⟨t, by rw [htask, hq]⟩
    · exact absurd ((List.mem_erase_of_ne hq).mpr hr) hout
  | prune => exact .inl ((pruneEligible_spec w.states limits w.jobs).2 r hr hout)

end Ava.Agent.Coordinator
