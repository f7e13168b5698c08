/-
  Ava.Agent.Promotion
  **PROMOTING A FOREGROUND JOB.**  `promote` closes the interaction gate of a job in two phases:
  it prepares the gate, changes the job under the job's own mutex, and then commits or aborts
  the gate.  The child asks for permissions and answers through the gate all the while, and
  other promoters, a cancellation or the completion of the job come in between.

  A job is never marked as promoted while a forwarded request is open.  That no request is
  forwarded afterwards depends on the other promoters: one that finds the job canceled or
  finished aborts the gate, also when a first promoter has already marked the job and not yet
  committed.

    - §1 the gate; §2 the protocol; §3 the invariant; §4 the calm runs; §5 the late abort.
-/
import Ava.Agent.SubagentJob
import Ava.Lib.Transition
import Mathlib.Data.Finset.Card

namespace Ava.Agent

open Ava.Core Ava.Lib

/-! ## §1. The gate. -/

/-- `SubagentInteractionGate`; of the two resolvers only their presence matters. -/
structure InteractionGate where
  mode : SubagentJobMode
  promotionPending : Bool := false
  outstanding : Nat := 0
  permissionResolver : Bool
  questionResolver : Bool
deriving Repr, DecidableEq

inductive Interaction where
  | permission | question
deriving Repr, DecidableEq

def Interaction.text : Interaction → Bytes
  | .permission => ascii "permission"
  | .question => ascii "question"

/-- `interaction_unavailable`. -/
def interactionUnavailable (interaction : Interaction) (background : Bool) : Error :=
  (({ category := .tool
      message := if background then ascii "background interaction unavailable"
        else ascii "foreground interaction resolver is unavailable" } : Error).withContext
    "error_code" (if background then ascii "background_interaction_unavailable"
      else ascii "foreground_interaction_unavailable")).withContext
    "interaction" interaction.text

namespace InteractionGate

/-- `SubagentInteractionGate::create`. -/
def create (mode : SubagentJobMode) (permission question : Bool) : InteractionGate :=
  { mode
    permissionResolver := if mode = .foreground then permission else false
    questionResolver := if mode = .foreground then question else false }

variable (g : InteractionGate)

def resolver : Interaction → Bool
  | .permission => g.permissionResolver
  | .question => g.questionResolver

/-- The locked part of both resolvers before they forward a request. -/
def admitInteraction (interaction : Interaction) : Result InteractionGate :=
  if g.mode ≠ .foreground ∨ g.promotionPending = true then
    .error (interactionUnavailable interaction true)
  else if g.resolver interaction = false then .error (interactionUnavailable interaction false)
  else .ok { g with outstanding := g.outstanding + 1 }

/-- The destructor of `Completion`, after the forwarded request. -/
def answered : InteractionGate := { g with outstanding := g.outstanding - 1 }

/-- `prepare_promotion`. -/
def preparePromotion : Result InteractionGate :=
  if g.mode = .background then .ok g
  else if g.outstanding ≠ 0 then
    .error (({ category := .tool
               message := ascii
                "cannot promote subagent while a foreground interaction is outstanding" } :
      Error).withContext "error_code" (ascii "foreground_interaction_outstanding"))
  else .ok { g with promotionPending := true }

/-- `commit_promotion`, and `finish`. -/
def commitPromotion : InteractionGate :=
  { g with
    mode := .background, promotionPending := false
    permissionResolver := false, questionResolver := false }

/-- `abort_promotion`. -/
def abortPromotion : InteractionGate := { g with promotionPending := false }

/-- `finish`. -/
def finish : InteractionGate := g.commitPromotion

/-- No request gets through. -/
def Closed : Prop := g.mode = .background ∨ g.promotionPending = true

/-- What an admitted request has found. -/
theorem admitInteraction_eq_ok {g g' : InteractionGate} {i : Interaction} (h : g.admitInteraction i = .ok g') :
    ¬ g.Closed ∧ g' = { g with outstanding := g.outstanding + 1 } := by
  unfold admitInteraction at h
  split at h
  next => cases h
  next hopen =>
    split at h
    next => cases h
    refine ⟨?_, (Except.ok.inj h).symm⟩
    rintro (hmode | hpending)
    · exact hopen (.inl (by rw [hmode]; decide))
    · exact hopen (.inr hpending)

/-- A prepared gate is closed, and nothing is open unless it was closed before. -/
theorem preparePromotion_eq_ok {g g' : InteractionGate} (h : g.preparePromotion = .ok g') :
    (g.mode = .background ∧ g' = g) ∨
      (g.outstanding = 0 ∧ g' = { g with promotionPending := true }) := by
  unfold preparePromotion at h
  split at h
  next hmode => exact .inl ⟨hmode, (Except.ok.inj h).symm⟩
  split at h
  next => cases h
  next hidle => exact .inr ⟨not_not.mp hidle, (Except.ok.inj h).symm⟩

end InteractionGate

/-! ## §2. The protocol. -/

namespace Promotion

/-- Where a call of `promote` is: not called, past its first look at the job, past
    `prepare_promotion`, and past its second look with what it has to do to the gate. -/
inductive Phase where
  | idle | checked | prepared | committing | aborting
deriving Repr, DecidableEq

/-- One job with its gate, the calls of `promote`, and the requests that were forwarded and not
    answered yet. -/
structure World where
  gate : InteractionGate
  job : JobState
  promoters : Nat → Phase := fun _ => .idle
  forwarded : Finset Nat := ∅

/-- `finished` is the end of the worker, whose requests have all returned by then. -/
inductive Event where
  | check (p : Nat)
  | prepare (p : Nat)
  | decide (p : Nat)
  | commit (p : Nat)
  | abort (p : Nat)
  | cancel
  | publish
  | finished
  | complete (c : BackgroundJobState)
  | ask (n : Nat) (i : Interaction)
  | answer (n : Nat)
deriving Repr, DecidableEq

/-- The promoter moves on. -/
def World.move (w : World) (p : Nat) (phase : Phase) : World :=
  { w with promoters := Function.update w.promoters p phase }

/-- **ONE LOCKED SECTION.** -/
def next (w : World) : Event → Option World
  | .check p =>
    if w.promoters p = .idle ∧ w.job.promoteCheck = none then some (w.move p .checked) else none
  | .prepare p =>
    if w.promoters p = .checked then
      match w.gate.preparePromotion with
      | .ok gate => some ({ w with gate }.move p .prepared)
      | .error _ => some (w.move p .idle)
    else none
  | .decide p =>
    if w.promoters p = .prepared then
      some ({ w with job := w.job.promote }.move p
        (if w.job.promoteDecision = JobState.PromoteDecision.promoted then .committing else .aborting))
    else none
  | .commit p =>
    if w.promoters p = .committing then
      some ({ w with gate := w.gate.commitPromotion }.move p .idle)
    else none
  | .abort p =>
    if w.promoters p = .aborting then some ({ w with gate := w.gate.abortPromotion }.move p .idle)
    else none
  | .cancel => some { w with job := w.job.requestCancel }
  | .publish => some { w with job := w.job.publish }
  | .finished => if w.forwarded = ∅ then some { w with gate := w.gate.finish } else none
  | .complete c => some { w with job := w.job.finish c }
  | .ask n i =>
    if n ∈ w.forwarded then none
    else
      match w.gate.admitInteraction i with
      | .ok gate => some { w with gate, forwarded := insert n w.forwarded }
      | .error _ => none
  | .answer n =>
    if n ∈ w.forwarded then
      some { w with gate := w.gate.answered, forwarded := w.forwarded.erase n }
    else none

/-- A job right after its gate was made for it. -/
def Init (w : World) : Prop :=
  (∃ permission question, w.gate = .create w.job.mode permission question) ∧
    w.job.wasPromoted = false ∧ (∀ p, w.promoters p = .idle) ∧ w.forwarded = ∅

/-- Any interleaving. -/
def Step (w w' : World) : Prop := ∃ e, next w e = some w'

/-! ## §3. The invariant. -/

/-- The job will not be promoted any more. -/
def Doomed (s : JobState) : Prop := s.execution.terminal = true ∨ s.cancelRequested = true

structure Inv (w : World) : Prop where
  counted : w.gate.outstanding = w.forwarded.card
  reserved : w.gate.promotionPending = true → w.gate.outstanding = 0
  background : w.job.wasPromoted = false → w.gate.mode = .background → w.gate.outstanding = 0
  prepared : ∀ p, w.promoters p = .prepared → w.gate.Closed ∨ Doomed w.job
  committing : ∀ p, w.promoters p = .committing → w.job.wasPromoted = true
  aborting : ∀ p, w.promoters p = .aborting → Doomed w.job

variable {w w' : World} {e : Event}

theorem Inv.start (h : Init w) : Inv w := by
  obtain ⟨⟨permission, question, hgate⟩, hpromoted, hidle, hforwarded⟩ := h
  have hphase : ∀ p phase, w.promoters p = phase → phase = .idle := by
    intro p phase hp
    rw [← hp, hidle]
  refine ⟨?_, ?_, ?_, fun p hp => ?_, fun p hp => ?_, fun p hp => ?_⟩
  · rw [hgate, hforwarded]
    rfl
  · intro hpending
    rw [hgate] at hpending
    cases hpending
  · intro _ _
    rw [hgate]
    rfl
  all_goals cases hphase p _ hp

/-- The other sections of the job: they do not promote it, and they save it from nothing. -/
structure Beside (s s' : JobState) : Prop where
  promoted : s'.wasPromoted = s.wasPromoted
  doomed : Doomed s → Doomed s'

theorem beside_requestCancel (s : JobState) : Beside s s.requestCancel := by
  unfold JobState.requestCancel
  split
  next => exact ⟨rfl, id⟩
  next => exact ⟨rfl, fun _ => .inr rfl⟩

theorem beside_publish (s : JobState) : Beside s s.publish := by
  refine ⟨rfl, ?_⟩
  rintro (hterminal | hcanceled)
  · left
    show (if s.execution = .starting then _ else s.execution).terminal = true
    rw [if_neg]
    · exact hterminal
    · intro hstarting
      rw [hstarting] at hterminal
      cases hterminal
  · exact .inr hcanceled

theorem beside_finish (s : JobState) (c : BackgroundJobState) : Beside s (s.finish c) := by
  unfold JobState.finish
  split
  next => exact ⟨rfl, id⟩
  split
  next => exact ⟨rfl, fun _ => .inl (JobState.terminal_execution c)⟩
  next => exact ⟨rfl, fun _ => .inl (JobState.terminal_execution c)⟩

theorem Inv.beside (h : Inv w) {job : JobState} (hjob : Beside w.job job) :
    Inv { w with job } := by
  refine ⟨h.counted, h.reserved, ?_, ?_, ?_, ?_⟩
  · intro hpromoted
    exact h.background (hjob.promoted.symm.trans hpromoted)
  · intro p hp
    exact (h.prepared p hp).imp_right hjob.doomed
  · intro p hp
    exact hjob.promoted.trans (h.committing p hp)
  · intro p hp
    exact hjob.doomed (h.aborting p hp)

/-- The second look marks the job exactly when it is not doomed. -/
theorem promote_eq (s : JobState) :
    (Doomed s ∧ s.promoteDecision ≠ .promoted ∧ s.promote = s) ∨
      (¬ Doomed s ∧ s.promoteDecision = .promoted ∧ s.promote.wasPromoted = true ∧
        s.promote.execution = s.execution ∧ s.promote.cancelRequested = s.cancelRequested) := by
  by_cases hterminal : s.execution.terminal = true
  · have hdecision : s.promoteDecision = .terminal := if_pos hterminal
    refine .inl ⟨.inl hterminal, by rw [hdecision]; decide, ?_⟩
    unfold JobState.promote
    rw [hdecision]
  by_cases hcanceled : s.cancelRequested = true
  · have hdecision : s.promoteDecision = .canceled := by
      unfold JobState.promoteDecision
      rw [if_neg hterminal, if_pos hcanceled]
    refine .inl ⟨.inr hcanceled, by rw [hdecision]; decide, ?_⟩
    unfold JobState.promote
    rw [hdecision]
  · have hdecision : s.promoteDecision = .promoted := by
      unfold JobState.promoteDecision
      rw [if_neg hterminal, if_neg hcanceled]
    have hmark : s.promote =
        if s.wasPromoted then s else { s with mode := .background, wasPromoted := true } := by
      unfold JobState.promote
      rw [hdecision]
    refine .inr ⟨not_or.mpr ⟨hterminal, hcanceled⟩, hdecision, ?_⟩
    rw [hmark]
    split
    next hpromoted => exact ⟨hpromoted, rfl, rfl⟩
    next => exact ⟨rfl, rfl, rfl⟩

/-- Moving one promoter: what the phases say has to hold for its new one. -/
theorem Inv.move (h : Inv w) (p : Nat) {phase : Phase}
    (hprepared : phase = .prepared → w.gate.Closed ∨ Doomed w.job)
    (hcommitting : phase = .committing → w.job.wasPromoted = true)
    (haborting : phase = .aborting → Doomed w.job) : Inv (w.move p phase) := by
  refine { h with prepared := ?_, committing := ?_, aborting := ?_ }
  · intro q hq
    obtain ⟨-, hphase⟩ | ⟨-, hsame⟩ := update_eq_cases hq
    · exact hprepared hphase
    · exact h.prepared q hsame
  · intro q hq
    obtain ⟨-, hphase⟩ | ⟨-, hsame⟩ := update_eq_cases hq
    · exact hcommitting hphase
    · exact h.committing q hsame
  · intro q hq
    obtain ⟨-, hphase⟩ | ⟨-, hsame⟩ := update_eq_cases hq
    · exact haborting hphase
    · exact h.aborting q hsame

/-- **WHAT A LOCKED SECTION CAN DO.** -/
inductive Effect (w : World) : Event → World → Prop
  | check (p : Nat) : Effect w (.check p) (w.move p .checked)
  | prepared (p : Nat) (hmode : w.gate.mode = .background) :
      Effect w (.prepare p) (w.move p .prepared)
  | reserved (p : Nat) (hidle : w.gate.outstanding = 0) :
      Effect w (.prepare p) ({ w with gate := { w.gate with promotionPending := true } }.move p .prepared)
  | refused (p : Nat) : Effect w (.prepare p) (w.move p .idle)
  | doomed (p : Nat) (hdoomed : Doomed w.job) : Effect w (.decide p) (w.move p .aborting)
  | marked (p : Nat) (hphase : w.promoters p = .prepared) (hliving : ¬ Doomed w.job)
      (hpromoted : w.job.promote.wasPromoted = true) :
      Effect w (.decide p) ({ w with job := w.job.promote }.move p .committing)
  | commit (p : Nat) (hphase : w.promoters p = .committing) :
      Effect w (.commit p) ({ w with gate := w.gate.commitPromotion }.move p .idle)
  | abort (p : Nat) (hphase : w.promoters p = .aborting) :
      Effect w (.abort p) ({ w with gate := w.gate.abortPromotion }.move p .idle)
  | beside {e : Event} {job : JobState} (hjob : Beside w.job job) : Effect w e { w with job }
  | finished (hnone : w.forwarded = ∅) : Effect w .finished { w with gate := w.gate.finish }
  | ask {n : Nat} {i : Interaction} (hnew : n ∉ w.forwarded) (hopen : ¬ w.gate.Closed) :
      Effect w (.ask n i)
        { w with gate := { w.gate with outstanding := w.gate.outstanding + 1 }
                 forwarded := insert n w.forwarded }
  | answer {n : Nat} (hmem : n ∈ w.forwarded) :
      Effect w (.answer n) { w with gate := w.gate.answered, forwarded := w.forwarded.erase n }

theorem next_effect (hstep : next w e = some w') : Effect w e w' := by
  cases e
  all_goals simp only [next, Option.ite_none_right_eq_some, Option.ite_none_left_eq_some,
    Option.some.injEq] at hstep
  case check p =>
    obtain ⟨-, rfl⟩ := hstep
    exact .check p
  case prepare p =>
    obtain ⟨-, hstep⟩ := hstep
    split at hstep
    next gate hgate =>
      cases hstep
      obtain ⟨hmode, rfl⟩ | ⟨hidle, rfl⟩ := InteractionGate.preparePromotion_eq_ok hgate
      · exact .prepared p hmode
      · exact .reserved p hidle
    cases hstep
    exact .refused p
  case decide p =>
    obtain ⟨hphase, rfl⟩ := hstep
    obtain ⟨hdoomed, hdecision, hsame⟩ | ⟨hliving, hdecision, hpromoted, -⟩ := promote_eq w.job
    · rw [hsame, if_neg hdecision]
      exact .doomed p hdoomed
    · rw [if_pos hdecision]
      exact .marked p hphase hliving hpromoted
  case commit p =>
    obtain ⟨hphase, rfl⟩ := hstep
    exact .commit p hphase
  case abort p =>
    obtain ⟨hphase, rfl⟩ := hstep
    exact .abort p hphase
  case cancel =>
    subst hstep
    exact .beside (beside_requestCancel w.job)
  case publish =>
    subst hstep
    exact .beside (beside_publish w.job)
  case finished =>
    obtain ⟨hnone, rfl⟩ := hstep
    exact .finished hnone
  case complete c =>
    subst hstep
    exact .beside (beside_finish w.job c)
  case ask n i =>
    obtain ⟨hnew, hstep⟩ := hstep
    split at hstep
    next gate hgate =>
      cases hstep
      obtain ⟨hopen, rfl⟩ := InteractionGate.admitInteraction_eq_ok hgate
      exact .ask hnew hopen
    next => cases hstep
  case answer n =>
    obtain ⟨hmem, rfl⟩ := hstep
    exact .answer hmem

/-- **THE INVARIANT IS KEPT BY EVERY SECTION.** -/
theorem Inv.next (h : Inv w) (hstep : next w e = some w') : Inv w' := by
  -- a section that moves its promoter also leaves the invariant before the move
  cases next_effect hstep with
  | check p | refused p => exact h.move p (by simp) (by simp) (by simp)
  | prepared p hmode => exact h.move p (fun _ => .inl (.inl hmode)) (by simp) (by simp)
  | reserved p hidle =>
    have hgate : Inv { w with gate := { w.gate with promotionPending := true } } :=
      { h with reserved := fun _ => hidle, prepared := fun _ _ => .inl (.inr rfl) }
    exact hgate.move p (fun _ => .inl (.inr rfl)) (by simp) (by simp)
  | doomed p hdoomed => exact h.move p (by simp) (by simp) (fun _ => hdoomed)
  | marked p hphase hliving hpromoted =>
    have hstays : Doomed w.job → Doomed w.job.promote := fun hd => absurd hd hliving
    have hjob : Inv { w with job := w.job.promote } := by
      refine ⟨h.counted, h.reserved, ?_, fun q hq => (h.prepared q hq).imp_right hstays,
        fun _ _ => hpromoted, fun q hq => hstays (h.aborting q hq)⟩
      intro hnot
      exact absurd (hnot.symm.trans hpromoted) (by decide)
    exact hjob.move p (by simp) (fun _ => hpromoted) (by simp)
  | commit p hphase =>
    have hgate : Inv { w with gate := w.gate.commitPromotion } := by
      refine ⟨h.counted, by simp [InteractionGate.commitPromotion], ?_, fun _ _ => .inl (.inl rfl),
        h.committing, h.aborting⟩
      intro hnot
      exact absurd (hnot.symm.trans (h.committing p hphase)) (by decide)
    exact hgate.move p (by simp) (by simp) (by simp)
  | abort p hphase =>
    have hgate : Inv { w with gate := w.gate.abortPromotion } :=
      { h with reserved := by simp [InteractionGate.abortPromotion]
               prepared := fun _ _ => .inr (h.aborting p hphase) }
    exact hgate.move p (by simp) (by simp) (by simp)
  | beside hjob => exact h.beside hjob
  | finished hnone =>
    have hzero : w.gate.outstanding = 0 := by rw [h.counted, hnone, Finset.card_empty]
    exact ⟨h.counted, fun _ => hzero, fun _ _ => hzero, fun _ _ => .inl (.inl rfl), h.committing,
      h.aborting⟩
  | @ask n i hnew hopen =>
    refine ⟨?_, ?_, ?_, ?_, h.committing, h.aborting⟩
    · show w.gate.outstanding + 1 = (insert n w.forwarded).card
      rw [Finset.card_insert_of_notMem hnew, h.counted]
    · intro hpending
      exact absurd (.inr hpending) hopen
    · intro _ hmode
      exact absurd (.inl hmode) hopen
    · intro p hp
      exact (h.prepared p hp).imp_left fun hclosed => absurd hclosed hopen
  | @answer n hmem =>
    refine ⟨?_, ?_, ?_, h.prepared, h.committing, h.aborting⟩
    · show w.gate.outstanding - 1 = (w.forwarded.erase n).card
      rw [Finset.card_erase_of_mem hmem, h.counted]
    · intro hpending
      show w.gate.outstanding - 1 = 0
      rw [h.reserved hpending]
    · intro hnot hmode
      show w.gate.outstanding - 1 = 0
      rw [h.background hnot hmode]

theorem Inv.reach (h : Reach Init Step w) : Inv w :=
  h.invariant (fun _ => Inv.start) fun _ _ hs ⟨_, hstep⟩ => hs.next hstep

/-! ## §4. The calm runs. -/

/-- The condition on an event: no promoter aborts the gate while the job is marked and the gate
    is not committed yet. -/
def Calm (w : World) (e : Event) : Prop :=
  ∀ p, e = .abort p → w.job.wasPromoted = false ∨ w.gate.mode = .background

/-- Any interleaving of calm events. -/
def CalmStep (w w' : World) : Prop := ∃ e, next w e = some w' ∧ Calm w e

/-- A promoted job has a closed gate. -/
def Shut (w : World) : Prop := w.job.wasPromoted = true → w.gate.Closed

theorem Shut.next (h : Inv w) (hshut : Shut w)
    (hstep : next w e = some w') (hcalm : Calm w e) : Shut w' := by
  cases next_effect hstep with
  | check | refused | doomed | answer => exact hshut
  | prepared p hmode => exact fun _ => .inl hmode
  | reserved => exact fun _ => .inr rfl
  | marked p hphase hliving => exact fun _ => (h.prepared p hphase).resolve_right hliving
  | commit | finished => exact fun _ => .inl rfl
  | abort p =>
    intro hpromoted
    -- The condition is what keeps the gate closed here.
    obtain hnot | hmode := hcalm p rfl
    · exact absurd (hnot.symm.trans hpromoted) (by decide)
    · exact .inl hmode
  | beside hjob => exact fun hpromoted => hshut (hjob.promoted.symm.trans hpromoted)
  | ask hnew hopen => exact fun hpromoted => absurd (hshut hpromoted) hopen

theorem Shut.reach (h : Reach Init CalmStep w) : Inv w ∧ Shut w := by
  refine Reach.invariant (P := fun w => Inv w ∧ Shut w) h ?_ ?_
  · intro w hinit
    refine ⟨.start hinit, ?_⟩
    intro hpromoted
    exact absurd (hinit.2.1.symm.trans hpromoted) (by decide)
  · rintro w w' ⟨hinv, hshut⟩ ⟨e, hstep, hcalm⟩
    exact ⟨hinv.next hstep, hshut.next hinv hstep hcalm⟩

/-- A request is forwarded only through an open gate. -/
theorem open_of_forwarded {n : Nat} (hstep : next w e = some w')
    (hnew : n ∉ w.forwarded) (hforwarded : n ∈ w'.forwarded) : ¬ w.gate.Closed := by
  cases next_effect hstep with
  | ask _ hopen => exact hopen
  | answer => exact absurd (Finset.mem_of_mem_erase hforwarded) hnew
  | _ => exact absurd hforwarded hnew

/-- Only the second look of a promoter marks the job, and it finds no request open. -/
theorem idle_of_marked (h : Inv w) (hstep : next w e = some w')
    (hnot : w.job.wasPromoted = false) (hpromoted : w'.job.wasPromoted = true) :
    w.forwarded = ∅ := by
  have hsame : ∀ job : JobState, job.wasPromoted = w.job.wasPromoted →
      job.wasPromoted = true → w.forwarded = ∅ := by
    intro job hjob hmarked
    exact absurd (hnot.symm.trans (hjob.symm.trans hmarked)) (by decide)
  cases next_effect hstep with
  | marked p hphase hliving =>
    have hzero : w.gate.outstanding = 0 := by
      obtain hmode | hpending := (h.prepared p hphase).resolve_right hliving
      · exact h.background hnot hmode
      · exact h.reserved hpending
    rw [← Finset.card_eq_zero, ← h.counted]
    exact hzero
  | beside hjob => exact hsame _ hjob.promoted hpromoted
  | _ => exact hsame w.job rfl hpromoted

/-- **PROMOTION CLOSES FOREGROUND INTERACTION.**  In every run a job is marked as promoted only
    when no forwarded request is open.  In every run of calm events no request is forwarded
    once the job is marked. -/
theorem promotion_closes_interaction (w w' : World) (hstep : Step w w') :
    (Reach Init Step w → w.job.wasPromoted = false → w'.job.wasPromoted = true →
      w.forwarded = ∅) ∧
    (Reach Init CalmStep w → ∀ n, n ∉ w.forwarded → n ∈ w'.forwarded →
      w.job.wasPromoted = false) := by
  obtain ⟨e, hstep⟩ := hstep
  constructor
  · intro hreach hnot hpromoted
    exact idle_of_marked (.reach hreach) hstep hnot hpromoted
  · intro hreach n hnew hforwarded
    obtain ⟨-, hshut⟩ := Shut.reach hreach
    by_contra hpromoted
    rw [Bool.not_eq_false] at hpromoted
    exact open_of_forwarded hstep hnew hforwarded (hshut hpromoted)

/-! ## §5. The late abort. -/

/-- A fresh foreground job whose child may ask for permissions. -/
def fresh : World :=
  { gate := .create .foreground true false
    job := { jobId := ascii "job", parentSessionId := ascii "s", deliveryId := ascii "d"
             mode := .foreground } }

theorem init_fresh : Init fresh := ⟨⟨true, false, rfl⟩, rfl, fun _ => rfl, rfl⟩

/-- A promotion between two requests: the first is forwarded and answered, then the job is
    marked with nothing open. -/
theorem promotion_closes_interaction_once :
    ∃ w w' u u' n, Reach Init Step w ∧ Step w w' ∧ w'.job.wasPromoted = true ∧ w.forwarded = ∅ ∧
      Reach Init CalmStep u ∧ Step u u' ∧ n ∈ u'.forwarded ∧ u.job.wasPromoted = false := by
  have hasked : ∃ u', next fresh (.ask 7 .permission) = some u' := ⟨_, rfl⟩
  obtain ⟨u', hu'⟩ := hasked
  have hforwarded : 7 ∈ u'.forwarded := by
    cases hu'
    decide
  have hprepared : ∃ w, runAll next fresh
      [.publish, .ask 7 .permission, .answer 7, .check 0, .prepare 0] = some w ∧
      w.job.wasPromoted = false ∧ w.promoters 0 = .prepared ∧ w.job.promoteDecision = .promoted :=
    ⟨_, rfl, rfl, rfl, rfl⟩
  obtain ⟨w, hw, hnot, hphase, hdecision⟩ := hprepared
  have hreach : Reach Init Step w :=
    Reach.runAll (fun _ e _ h => ⟨e, h⟩) (.start init_fresh) hw
  have hmark : next w (.decide 0) = some ({ w with job := w.job.promote }.move 0 .committing) := by
    rw [Promotion.next, if_pos hphase, if_pos hdecision]
  have hpromoted : w.job.promote.wasPromoted = true := by
    unfold JobState.promote
    rw [hdecision, hnot]
    rfl
  exact ⟨w, _, fresh, u', 7, hreach, ⟨_, hmark⟩, hpromoted,
    (promotion_closes_interaction w _ ⟨_, hmark⟩).1 hreach hnot hpromoted, .start init_fresh,
    ⟨_, hu'⟩, hforwarded,
    (promotion_closes_interaction fresh u' ⟨_, hu'⟩).2 (.start init_fresh) 7 (by decide) hforwarded⟩

/-- **THE LATE ABORT.**  Two promoters have prepared the gate; the first marks the job, a
    cancellation arrives, the second finds it and aborts the gate, and the next permission
    request of the promoted job is forwarded to the foreground. -/
theorem promoted_job_asks_the_foreground :
    ∃ w w', Reach Init Step w ∧ next w (.ask 7 .permission) = some w' ∧
      w.job.wasPromoted = true ∧ w.job.mode = .background ∧ 7 ∉ w.forwarded ∧ 7 ∈ w'.forwarded := by
  have hrun : ∃ w, runAll next fresh
      [.publish, .check 0, .check 1, .prepare 0, .prepare 1, .decide 0, .cancel, .decide 1, .abort 1]
        = some w ∧ w.job.wasPromoted = true ∧ w.job.mode = .background ∧ 7 ∉ w.forwarded ∧
      ∃ w', next w (.ask 7 .permission) = some w' ∧ 7 ∈ w'.forwarded :=
    ⟨_, rfl, rfl, rfl, by decide, _, rfl, by decide⟩
  obtain ⟨w, hw, hpromoted, hmode, hnew, w', hw', hforwarded⟩ := hrun
  exact ⟨w, w', Reach.runAll (fun _ e _ h => ⟨e, h⟩) (.start init_fresh) hw, hw', hpromoted, hmode,
    hnew, hforwarded⟩

end Promotion

end Ava.Agent
