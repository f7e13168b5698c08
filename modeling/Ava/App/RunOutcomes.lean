/-
  Ava.App.RunOutcomes
  **THE OUTCOMES OF RUNS.**  A generation is admitted, may be asked to stop, and ends by `complete`
  or by the release of its guard, either of which waits for the queue of appends and then
  publishes the outcome.

  `complete` takes the reason of a stop request from where it was recorded.  `release` asks the
  stop source first, and that is fired only after the request has been recorded and the mutex
  given back.  A release in between publishes a provider error for a run that was stopped.

    - §1 what is kept; §2 the append side; §3 the run sections; §4 each step;
    - §5 the result; §6 the release in between.
-/
import Ava.App.AppendTickets

namespace Ava.App

open Ava.Core Ava.Core.Json Ava.Session Ava.Lib Function State

/-! ## §1. What is kept. -/

/-- How many generations have ended. -/
def State.finished (s : State) : Nat := if s.active then s.generation - 1 else s.generation

/-- The reason of an outcome of a generation that was asked to stop.  After a hasty release it is
    a provider error. -/
def Obeys (s : State) (g : Nat) (reason : StopReason) (outcome : RunOutcome) : Prop :=
  g ∈ s.failures ∨ g ∈ s.cut ∨
    ((g ∉ s.hasty → outcome.reason = reason) ∧ (g ∈ s.hasty → outcome.reason = .providerError))

/-- The same before the outcome is published. -/
def AwaitOk (s : State) (outcome : RunOutcome) : Prop :=
  ∀ reason, (s.generation, reason) ∈ s.asked → Obeys s s.generation reason outcome

structure RunOk (s : State) : Prop where
  sequence : (s.published.map Prod.fst).reverse = List.range' 1 s.finished
  started : s.active = true → 0 < s.generation
  routes : ∀ k ∈ s.appends, ∀ g ∈ k.request.route, s.active = true ∧ s.generation = g
  failures : ∀ g ∈ s.failures, (∃ o, (g, o) ∈ s.published ∧ o.reason = .persistenceError) ∨
    (s.active = true ∧ g = s.generation ∧ s.persistenceFailure.isSome = true)
  latched : s.active = true → s.persistenceFailure.isSome = true → s.generation ∈ s.failures
  asked : ∀ x ∈ s.asked, (∃ o, (x.1, o) ∈ s.published ∧ Obeys s x.1 x.2 o) ∨
    (s.active = true ∧ x.1 = s.generation ∧ s.requestedStop.isSome = true ∧
      (s.guardBusy = false → s.phase ≠ .completing) ∧
      (s.requestedStop = some x.2 ∨ x.1 ∈ s.failures ∨ x.1 ∈ s.cut))
  hasty : ∀ g ∈ s.hasty, g ≤ s.generation ∧ (g = s.generation → s.active = true → s.guardBusy = true)
  busy : s.guardBusy = true → s.active = true ∧ s.closing = true
  waits : ∀ x ∈ s.waits, x ∈ s.published

structure RunInv (w : World) : Prop where
  run : RunOk w.state
  awaiting : ∀ t o, w.threads t = .awaiting o → w.state.guardBusy = true ∧ AwaitOk w.state o
  single : ∀ t u o o', w.threads t = .awaiting o → w.threads u = .awaiting o' → t = u

variable {g : Nat} {o : RunOutcome}

section

variable {s s' : State}

/-- A published generation has ended. -/
theorem RunOk.published_le (h : RunOk s) (hg : (g, o) ∈ s.published) :
    1 ≤ g ∧ g ≤ s.finished := by
  have hmem : g ∈ (s.published.map Prod.fst).reverse :=
    List.mem_reverse.mpr (List.mem_map_of_mem hg)
  rw [h.sequence, List.mem_range'_1] at hmem
  omega

/-- So it is not the active one. -/
theorem RunOk.published_ne (h : RunOk s) (hg : (g, o) ∈ s.published) (hactive : s.active = true) :
    g < s.generation := by
  have hle := (h.published_le hg).2
  have hpos := h.started hactive
  rw [finished, if_pos hactive] at hle
  omega

theorem RunOk.published_nodup (h : RunOk s) : (s.published.map Prod.fst).Nodup := by
  rw [← List.nodup_reverse, h.sequence]
  exact List.nodup_range'

variable {reason : StopReason}

theorem subset_ite_cons {α : Type} {c : Prop} [Decidable c] (a : α) (l : List α) :
    l ⊆ if c then a :: l else l := by
  split
  · exact List.subset_cons_self _ _
  · exact List.Subset.refl _

/-- Failures and shutdowns excuse an outcome; no other generation is released hastily. -/
theorem Obeys.mono (ho : Obeys s g reason o) (hfailures : s.failures ⊆ s'.failures)
    (hcut : s.cut ⊆ s'.cut) (hhasty : g ∈ s'.hasty ↔ g ∈ s.hasty) : Obeys s' g reason o := by
  rcases ho with hfailed | hc | hreason
  · exact .inl (hfailures hfailed)
  · exact .inr (.inl (hcut hc))
  · rw [← hhasty] at hreason
    exact .inr (.inr hreason)

/-! ## §2. The append side. -/

/-- What sections that do not belong to a run do to one. -/
structure Aside (s s' : State) : Prop where
  active : s'.active = s.active
  generation : s'.generation = s.generation
  closing : s.closing = true → s'.closing = true
  phase : s'.phase = s.phase
  published : s'.published = s.published
  asked : s'.asked = s.asked
  cut : s'.cut = s.cut
  hasty : s'.hasty = s.hasty
  waits : s'.waits = s.waits
  guardBusy : s'.guardBusy = s.guardBusy
  routes : ∀ k ∈ s'.appends, k ∈ s.appends ∨
    ∀ g ∈ k.request.route, s.active = true ∧ s.generation = g
  latch : (s'.requestedStop = s.requestedStop ∧ s'.failures = s.failures ∧
      (s.active = true → s'.persistenceFailure.isSome = s.persistenceFailure.isSome)) ∨
    (s'.persistenceFailure.isSome = true ∧
      s'.requestedStop = (if s.active then some .persistenceError else s.requestedStop) ∧
      s'.failures = if s.active then s.generation :: s.failures else s.failures)

theorem Aside.failures_subset (h : Aside s s') : s.failures ⊆ s'.failures := by
  rcases h.latch with ⟨-, hsame, -⟩ | ⟨-, -, hlatch⟩
  · rw [hsame]
    exact List.Subset.refl _
  · rw [hlatch]
    exact subset_ite_cons _ _

theorem Aside.obeys (h : Aside s s') (ho : Obeys s g reason o) : Obeys s' g reason o := by
  refine ho.mono h.failures_subset ?_ (by rw [h.hasty])
  rw [h.cut]
  exact List.Subset.refl _

theorem Aside.await (h : Aside s s') (ho : AwaitOk s o) : AwaitOk s' o := by
  intro reason hasked
  rw [h.generation, h.asked] at hasked
  rw [h.generation]
  exact h.obeys (ho reason hasked)

theorem RunOk.aside (h : RunOk s) (ha : Aside s s') : RunOk s' where
  sequence := by
    rw [ha.published, finished, ha.active, ha.generation]
    exact h.sequence
  started := by
    rw [ha.active, ha.generation]
    exact h.started
  routes := by
    rw [ha.active, ha.generation]
    intro k hk
    rcases ha.routes k hk with hold | hnew
    · exact h.routes k hold
    · exact hnew
  failures := by
    rw [ha.published, ha.active, ha.generation]
    intro g hg
    rcases ha.latch with ⟨-, hsame, hfailure⟩ | ⟨hsome, -, hlatch⟩
    · rw [hsame] at hg
      rcases h.failures g hg with hdone | ⟨hactive, hgen, hlatched⟩
      · exact .inl hdone
      · exact .inr ⟨hactive, hgen, (hfailure hactive).trans hlatched⟩
    · rw [hlatch] at hg
      split at hg
      · rename_i hactive
        rcases List.mem_cons.mp hg with hgen | hg
        · exact .inr ⟨hactive, hgen, hsome⟩
        · rcases h.failures g hg with hdone | ⟨-, hgen, -⟩
          · exact .inl hdone
          · exact .inr ⟨hactive, hgen, hsome⟩
      · rename_i hinactive
        rcases h.failures g hg with hdone | ⟨hactive, -, -⟩
        · exact .inl hdone
        · exact absurd hactive hinactive
  latched := by
    rw [ha.active, ha.generation]
    intro hactive hlatched
    rcases ha.latch with ⟨-, hsame, hfailure⟩ | ⟨-, -, hlatch⟩
    · rw [hfailure hactive] at hlatched
      rw [hsame]
      exact h.latched hactive hlatched
    · rw [hlatch, if_pos hactive]
      exact List.mem_cons_self
  asked := by
    rw [ha.published, ha.active, ha.generation, ha.phase, ha.guardBusy, ha.cut, ha.asked]
    intro x hx
    rcases h.asked x hx with ⟨o, ho, hobeys⟩ | ⟨hactive, hgen, hstop, hphase, hreason⟩
    · exact .inl ⟨o, ho, ha.obeys hobeys⟩
    · rcases ha.latch with ⟨hsame, hfailures, -⟩ | ⟨-, hlatch, hfailures⟩
      · rw [hsame, hfailures]
        exact .inr ⟨hactive, hgen, hstop, hphase, hreason⟩
      · rw [hlatch, hfailures, if_pos hactive, if_pos hactive]
        exact .inr ⟨hactive, hgen, rfl, hphase, .inr (.inl (hgen ▸ List.mem_cons_self))⟩
  hasty := by
    rw [ha.hasty, ha.generation, ha.active, ha.guardBusy]
    exact h.hasty
  busy := by
    rw [ha.guardBusy, ha.active]
    intro hbusy
    exact ⟨(h.busy hbusy).1, ha.closing (h.busy hbusy).2⟩
  waits := by
    rw [ha.waits, ha.published]
    exact h.waits

/-- Sections that only take tickets from the queue, if that. -/
structure Plain (s s' : State) : Prop where
  active : s'.active = s.active
  generation : s'.generation = s.generation
  closing : s'.closing = s.closing
  phase : s'.phase = s.phase
  published : s'.published = s.published
  asked : s'.asked = s.asked
  cut : s'.cut = s.cut
  hasty : s'.hasty = s.hasty
  waits : s'.waits = s.waits
  guardBusy : s'.guardBusy = s.guardBusy
  requestedStop : s'.requestedStop = s.requestedStop
  failures : s'.failures = s.failures
  persistenceFailure : s'.persistenceFailure = s.persistenceFailure
  appends : s'.appends ⊆ s.appends

theorem Plain.refl (s : State) : Plain s s :=
  ⟨rfl, rfl, rfl, rfl, rfl, rfl, rfl, rfl, rfl, rfl, rfl, rfl, rfl, List.Subset.refl _⟩

theorem Plain.drain (s : State) (c : Completion) : Plain s (s.drain c) := by
  rw [drain_eq]
  exact { Plain.refl s with appends := List.nil_subset _ }

theorem Plain.pop (s : State) (c : Completion) (t : Ticket) : Plain s (s.pop c t) :=
  { Plain.refl s with appends := List.tail_subset _ }

theorem Sweep.plain (h : Sweep s s') : Plain s s' := by
  cases h with
  | keep stopped target => exact { Plain.refl s with }
  | drain target => exact { Plain.drain s .closing with }

theorem Plain.aside (h : Plain s s') : Aside s s' where
  __ := h
  closing := by rw [h.closing]; exact id
  routes k hk := .inl (h.appends hk)
  latch := .inl ⟨h.requestedStop, h.failures, fun _ => by rw [h.persistenceFailure]⟩

theorem Aside.andThen {s'' : State} (h : Aside s s') (h' : Plain s' s'') : Aside s s'' where
  active := h'.active.trans h.active
  generation := h'.generation.trans h.generation
  closing := by rw [h'.closing]; exact h.closing
  phase := h'.phase.trans h.phase
  published := h'.published.trans h.published
  asked := h'.asked.trans h.asked
  cut := h'.cut.trans h.cut
  hasty := h'.hasty.trans h.hasty
  waits := h'.waits.trans h.waits
  guardBusy := h'.guardBusy.trans h.guardBusy
  routes k hk := h.routes k (h'.appends hk)
  latch := by
    rw [h'.requestedStop, h'.failures, h'.persistenceFailure]
    exact h.latch

theorem Aside.submit {r : Request} {bytes : Nat} (h : s.submit r bytes = .ok s') : Aside s s' := by
  obtain ⟨-, -, hroute, -, rfl⟩ := submit_eq_ok h
  refine { (Plain.refl s).aside with routes := ?_ }
  intro k hk
  rcases List.mem_append.mp hk with hold | hnew
  · exact .inl hold
  · rw [List.mem_singleton] at hnew
    subst hnew
    refine .inr fun g hg => ?_
    obtain ⟨hactive, -, hgeneration⟩ := hroute g hg
    exact ⟨hactive, hgeneration⟩

theorem Aside.settle {head : Ticket} {rest : List Ticket} (happends : s.appends = head :: rest)
    (v : Verdict) : Aside s (s.settle head v) := by
  rw [settle_of_head happends]
  refine Aside.andThen ?_ (Sweep.closeDown _).plain
  cases v with
  | written | rejection => exact (Plain.pop s _ head).aside
  | failure e =>
    have hlatch : Aside s ((s.pop (.persistenceFailed e) head).latch e) :=
      { (Plain.pop s (.persistenceFailed e) head).aside with latch := .inr ⟨rfl, rfl, rfl⟩ }
    exact hlatch.andThen (Plain.drain _ _)

/-- **THE HOLDER OF THE APPEND MUTEX** does nothing to a run but stop it when an append fails. -/
theorem Effect.aside {p p' : Place} (h : Effect s p s' p') (hok : PlaceOk s p) : Aside s s' := by
  cases h with
  | submit r bytes s' hsubmit => exact Aside.submit hsubmit
  | settle n head v source => exact Aside.settle (head_cons hok.1) _
  | clear g hinactive =>
    refine { (Plain.refl s).aside with latch := .inl ⟨rfl, rfl, ?_⟩ }
    intro hactive
    exact absurd (hinactive.symm.trans hactive) Bool.false_ne_true
  | sweep hsweep hticket hflight hplace => exact hsweep.plain.aside
  | _ =>
    apply Plain.aside
    exact { Plain.refl s with }

theorem Unlock.aside {p : Place} (h : Unlock s p s') : Aside s s' := by
  rcases h.effect with ⟨n, c, -, rfl⟩ | ⟨rfl, -, -⟩
  · refine (Sweep.closeDown s).plain.aside.andThen ?_
    exact { Plain.refl _ with }
  · exact (Plain.refl s').aside

/-! ## §3. The run sections. -/

/-- A release is hasty when a stop has been recorded and its source is silent. -/
theorem mem_releaseEnter_hasty : g ∈ s.releaseEnter.1.hasty ↔
    (g = s.generation ∧ (s.requestedStop.isSome && !s.stopped s.generation) = true) ∨
      g ∈ s.hasty := by
  unfold releaseEnter
  dsimp only
  split
  · rename_i hhasty
    rw [List.mem_cons, and_iff_left hhasty]
  · rename_i hcalm
    exact ⟨.inr, fun hg => hg.resolve_left fun hg => hcalm hg.2⟩

variable (h : RunOk s)

include h

theorem RunOk.admitRun {requestId : Bytes} (hadmission : s.admitRun requestId = .ok s') :
    RunOk s' := by
  obtain ⟨hfailure, -, hinactive, -, rfl⟩ := admitRun_eq_ok hadmission
  have hnot : ¬ s.active = true := by rw [hinactive]; exact Bool.false_ne_true
  have hidle : s.guardBusy = false := by
    rw [Bool.eq_false_iff]
    intro hbusy
    exact hnot (h.busy hbusy).1
  exact {
    sequence := by
      rw [h.sequence, finished, finished, if_neg hnot, if_pos rfl]
      rfl
    started := fun _ => Nat.succ_pos _
    routes := by
      intro k hk g hg
      exact absurd (h.routes k hk g hg).1 hnot
    failures := by
      intro g hg
      rcases h.failures g hg with hdone | ⟨hactive, -, -⟩
      · exact .inl hdone
      · exact absurd hactive hnot
    latched := by
      intro _ hlatched
      rw [show s.persistenceFailure = none from hfailure] at hlatched
      exact absurd hlatched Bool.false_ne_true
    asked := by
      intro x hx
      rcases h.asked x hx with hdone | ⟨hactive, -⟩
      · exact .inl hdone
      · exact absurd hactive hnot
    hasty := by
      intro g hg
      have hle := (h.hasty g hg).1
      refine ⟨Nat.le_succ_of_le hle, ?_⟩
      intro hgen
      exact absurd hgen (Nat.ne_of_lt (Nat.lt_succ_of_le hle))
    busy := by
      intro hbusy
      exact absurd (hidle.symm.trans hbusy) Bool.false_ne_true
    waits := h.waits }

theorem RunOk.requestStop (hstop : s.requestStop reason = .ok (some s')) :
    RunOk s' := by
  obtain ⟨hactive, hopen, hphase, hnone, rfl⟩ := requestStop_eq_ok hstop
  refine { h with asked := ?_ }
  intro x hx
  rcases List.mem_cons.mp hx with rfl | hx
  · exact .inr ⟨hactive, rfl, rfl, fun _ => hphase, .inl rfl⟩
  · rcases h.asked x hx with hdone | ⟨-, -, hsome, -⟩
    · exact .inl hdone
    · -- a second request does not win
      rw [hnone] at hsome
      exact absurd hsome Bool.false_ne_true

theorem RunOk.transition {generation : Nat} {next : RunPhase}
    (htransition : s.transition generation next = .ok s') : RunOk s' := by
  obtain ⟨-, hstop, -, rfl⟩ := transition_eq_ok htransition
  refine { h with asked := ?_ }
  intro x hx
  rcases h.asked x hx with hdone | ⟨hactive, hgen, hsome, hphase, hreason⟩
  · exact .inl hdone
  · refine .inr ⟨hactive, hgen, hsome, fun _ => ?_, hreason⟩
    intro hnext
    rw [hstop hnext] at hsome
    exact absurd hsome Bool.false_ne_true

theorem RunOk.markShutdown : RunOk s.markShutdown := by
  unfold State.markShutdown
  split
  · exact h
  · refine { h with asked := ?_, busy := fun hbusy => ⟨(h.busy hbusy).1, rfl⟩ }
    intro x hx
    rcases h.asked x hx with ⟨o, ho, hobeys⟩ | ⟨hactive, hgen, -, hphase, -⟩
    · exact .inl ⟨o, ho, hobeys.mono (List.Subset.refl _) (subset_ite_cons _ _) Iff.rfl⟩
    · refine .inr ⟨hactive, hgen, rfl, hphase, .inr (.inr ?_)⟩
      show x.1 ∈ (if s.active then s.generation :: s.cut else s.cut)
      rw [if_pos hactive, hgen]
      exact List.mem_cons_self

/-- Entering `complete` or `release`, whatever the phase becomes. -/
theorem RunOk.enter (hactive : s.active = true) (phase : RunPhase) :
    RunOk { s with closing := true, guardBusy := true, phase } := by
  refine { h with asked := ?_, hasty := ?_, busy := fun _ => ⟨hactive, rfl⟩ }
  · intro x hx
    rcases h.asked x hx with hdone | ⟨-, hgen, hsome, -, hreason⟩
    · exact .inl hdone
    · exact .inr ⟨hactive, hgen, hsome, fun hbusy => absurd hbusy.symm Bool.false_ne_true, hreason⟩
  · intro g hg
    exact ⟨(h.hasty g hg).1, fun _ _ => rfl⟩

/-- The reason that was recorded, if nothing else has stopped the run. -/
theorem RunOk.recorded (hactive : s.active = true)
    (hasked : (s.generation, reason) ∈ s.asked) :
    s.requestedStop.isSome = true ∧ (s.guardBusy = false → s.phase ≠ .completing) ∧
      (s.requestedStop = some reason ∨ s.generation ∈ s.failures ∨ s.generation ∈ s.cut) := by
  rcases h.asked _ hasked with ⟨o, ho, -⟩ | ⟨-, -, hsome, hphase, hreason⟩
  · exact absurd (h.published_ne ho hactive) (Nat.lt_irrefl _)
  · exact ⟨hsome, hphase, hreason⟩

/-- While its guard is held, a generation has not been released. -/
theorem RunOk.not_hasty (hactive : s.active = true) (hfree : s.guardBusy = false) :
    s.generation ∉ s.hasty := by
  intro hhasty
  have hbusy := (h.hasty _ hhasty).2 rfl hactive
  exact absurd (hfree.symm.trans hbusy) Bool.false_ne_true

/-- **COMPLETE** obeys a stop request. -/
theorem RunOk.complete (hfree : s.guardBusy = false) {generation : Nat}
    {outcome result : RunOutcome} (hcomplete : s.completeEnter generation outcome = .ok (s', result)) :
    RunOk s' ∧ s'.guardBusy = true ∧ AwaitOk s' result := by
  obtain ⟨hactive, rfl, phase, rfl⟩ := completeEnter_eq_ok hcomplete
  refine ⟨h.enter hactive phase, rfl, ?_⟩
  intro reason hasked
  obtain ⟨-, hphase, hrecorded | hfailed | hcut⟩ := h.recorded hactive hasked
  · refine .inr (.inr ⟨fun _ => ?_, fun hhasty => absurd hhasty (h.not_hasty hactive hfree)⟩)
    exact proposedOutcome_reason hrecorded (hphase hfree) outcome
  · exact .inl hfailed
  · exact .inr (.inl hcut)

/-- **RELEASE** obeys a stop request that has been fired. -/
theorem RunOk.release (hfree : s.guardBusy = false) (hactive : s.active = true) :
    RunOk s.releaseEnter.1 ∧ s.releaseEnter.1.guardBusy = true ∧
      AwaitOk s.releaseEnter.1 s.releaseEnter.2 := by
  have hnot := h.not_hasty hactive hfree
  have hentered := h.enter hactive (stoppedPhase s.releaseReason)
  refine ⟨?_, rfl, ?_⟩
  · refine { hentered with asked := ?_, hasty := ?_ }
    · intro x hx
      rcases hentered.asked x hx with ⟨o, ho, hobeys⟩ | hpending
      · -- an earlier generation is not the one that is released
        have hne : x.1 ≠ s.generation := Nat.ne_of_lt (h.published_ne ho hactive)
        refine .inl ⟨o, ho, hobeys.mono (List.Subset.refl _) (List.Subset.refl _) ?_⟩
        rw [mem_releaseEnter_hasty]
        exact or_iff_right fun hx => hne hx.1
      · exact .inr hpending
    · intro g hg
      rcases mem_releaseEnter_hasty.mp hg with ⟨rfl, -⟩ | hg
      · exact ⟨Nat.le_refl _, fun _ _ => rfl⟩
      · exact ⟨(h.hasty g hg).1, fun _ _ => rfl⟩
  · intro reason hasked
    obtain ⟨hsome, -, hrecorded | hfailed | hcut⟩ := h.recorded hactive hasked
    · refine .inr (.inr ?_)
      show (s.generation ∉ s.releaseEnter.1.hasty → s.releaseReason = reason) ∧
        (s.generation ∈ s.releaseEnter.1.hasty → s.releaseReason = .providerError)
      cases hfired : s.stopped s.generation with
      | true =>
        -- the stop source answers, and the recorded reason decides
        have hreason : s.releaseReason = reason := by
          unfold releaseReason
          rw [hfired, hrecorded]
          rfl
        refine ⟨fun _ => hreason, ?_⟩
        intro hmem
        rw [mem_releaseEnter_hasty, hfired, Bool.not_true, Bool.and_false] at hmem
        exact absurd (hmem.resolve_left fun hg => Bool.false_ne_true hg.2) hnot
      | false =>
        have hreason : s.releaseReason = .providerError := by
          unfold releaseReason
          rw [hfired]
          rfl
        refine ⟨?_, fun _ => hreason⟩
        intro hmem
        exact absurd (mem_releaseEnter_hasty.mpr (.inl ⟨rfl, by rw [hfired, hsome]; rfl⟩)) hmem
    · exact .inl hfailed
    · exact .inr (.inl hcut)

/-- **PUBLISHING.**  A latched failure decides over everything else. -/
theorem RunOk.publish (hbusy : s.guardBusy = true) (hdrained : s.appends = [])
    {outcome : RunOutcome} (hawait : AwaitOk s outcome) : RunOk (s.publish outcome) := by
  obtain ⟨hactive, -⟩ := h.busy hbusy
  have hpos := h.started hactive
  have hlatched : s.persistenceFailure.isSome = true →
      (s.effectiveOutcome outcome).reason = .persistenceError := by
    intro hsome
    obtain ⟨failure, hfailure⟩ := Option.isSome_iff_exists.mp hsome
    unfold effectiveOutcome
    rw [hfailure]
  have hobeys : ∀ reason, (s.generation, reason) ∈ s.asked →
      Obeys s s.generation reason (s.effectiveOutcome outcome) := by
    intro reason hasked
    cases hfailure : s.persistenceFailure with
    | some failure => exact .inl (h.latched hactive (by rw [hfailure]; rfl))
    | none =>
      have hsame : s.effectiveOutcome outcome = outcome := by
        unfold effectiveOutcome
        rw [hfailure]
      rw [hsame]
      exact hawait reason hasked
  exact {
    sequence := by
      show (((s.generation, _) :: s.published).map Prod.fst).reverse = List.range' 1 s.generation
      have hseq := h.sequence
      rw [finished, if_pos hactive] at hseq
      rw [List.map_cons, List.reverse_cons, hseq]
      obtain ⟨g, hg⟩ := Nat.exists_eq_succ_of_ne_zero (Nat.pos_iff_ne_zero.mp hpos)
      rw [hg, Nat.succ_eq_add_one, Nat.add_sub_cancel, List.range'_concat, Nat.one_mul,
        Nat.add_comm 1 g]
    started := nofun
    routes := by
      intro k hk
      have hnil : k ∈ s.appends := hk
      rw [hdrained] at hnil
      exact absurd hnil List.not_mem_nil
    failures := by
      intro g hg
      rcases h.failures g hg with ⟨o, ho, hreason⟩ | ⟨-, hgen, hsome⟩
      · exact .inl ⟨o, List.mem_cons_of_mem _ ho, hreason⟩
      · exact .inl ⟨_, hgen ▸ List.mem_cons_self, hlatched hsome⟩
    latched := nofun
    asked := by
      intro x hx
      rcases h.asked x hx with ⟨o, ho, hold⟩ | ⟨-, hgen, -⟩
      · exact .inl ⟨o, List.mem_cons_of_mem _ ho, hold⟩
      · refine .inl ⟨s.effectiveOutcome outcome, by rw [hgen]; exact List.mem_cons_self, ?_⟩
        have hx' : (s.generation, x.2) ∈ s.asked := by
          rw [← hgen]
          exact hx
        rw [hgen]
        exact hobeys x.2 hx'
    hasty := by
      intro g hg
      exact ⟨(h.hasty g hg).1, fun _ hactive' => absurd hactive' Bool.false_ne_true⟩
    busy := nofun
    waits := fun x hx => List.mem_cons_of_mem _ (h.waits x hx) }

end

/-! ## §4. Each step. -/

section

variable {w w' : World} {s s' : State} {t : Nat} {p : Place}

/-- A step that changes no waiting guard. -/
theorem RunInv.beside (h : RunInv w) {holder : Option Nat} (hrun : RunOk s')
    (hplace : ∀ o, p ≠ .awaiting o)
    (hguards : ∀ o, w.state.guardBusy = true → AwaitOk w.state o →
      s'.guardBusy = true ∧ AwaitOk s' o) :
    RunInv ⟨s', holder, update w.threads t p⟩ := by
  have hold : ∀ u o, update w.threads t p u = .awaiting o → w.threads u = .awaiting o := by
    intro u o hu
    obtain ⟨-, hnew⟩ | ⟨-, hother⟩ := update_eq_cases hu
    · exact absurd hnew (hplace o)
    · exact hother
  refine ⟨hrun, ?_, ?_⟩
  · intro u o hu
    obtain ⟨hbusy, hawait⟩ := h.awaiting u o (hold u o hu)
    exact hguards o hbusy hawait
  · intro u v o o' hu hv
    exact h.single u v o o' (hold u o hu) (hold v o' hv)

theorem RunInv.aside (h : RunInv w) {holder : Option Nat} (ha : Aside w.state s')
    (hplace : ∀ o, p ≠ .awaiting o) : RunInv ⟨s', holder, update w.threads t p⟩ := by
  refine h.beside (h.run.aside ha) hplace ?_
  intro o hbusy hawait
  exact ⟨ha.guardBusy.trans hbusy, ha.await hawait⟩

theorem holds_ne_awaiting (h : p.holds = true) (o : RunOutcome) : p ≠ .awaiting o := by
  intro heq
  rw [heq] at h
  cases h

/-- While no guard is in `complete` or `release`, nobody waits. -/
theorem RunInv.nobody (h : RunInv w) (hfree : w.state.guardBusy = false) (u : Nat) (o : RunOutcome) :
    w.threads u ≠ .awaiting o := by
  intro hu
  exact absurd (hfree.symm.trans (h.awaiting u o hu).1) Bool.false_ne_true

/-- `complete` and `release` publish at once or wait. -/
theorem RunInv.enter (h : RunInv w) (hfree : w.state.guardBusy = false) (hrun : RunOk s')
    (hbusy : s'.guardBusy = true) (hawait : AwaitOk s' o) :
    RunInv ⟨(s'.enterWait o).1, w.holder, update w.threads t (s'.enterWait o).2⟩ := by
  unfold enterWait
  split
  · rename_i hempty
    have hdrained : s'.appends = [] := List.isEmpty_iff.mp hempty
    refine h.beside (hrun.publish hbusy hdrained hawait) (fun _ => Place.noConfusion) ?_
    intro o hb
    exact absurd (hfree.symm.trans hb) Bool.false_ne_true
  · have honly : ∀ u o', update w.threads t (.awaiting o) u = .awaiting o' →
        u = t ∧ o' = o := by
      intro u o' hu
      obtain ⟨hut, ⟨⟩⟩ | ⟨-, hother⟩ := update_eq_cases hu
      · exact ⟨hut, rfl⟩
      · exact absurd hother (h.nobody hfree u o')
    refine ⟨hrun, ?_, ?_⟩
    · intro u o' hu
      obtain ⟨-, rfl⟩ := honly u o' hu
      exact ⟨hbusy, hawait⟩
    · intro u v o₁ o₂ hu hv
      rw [(honly u o₁ hu).1, (honly v o₂ hv).1]

theorem AwaitOk.markShutdown (h : AwaitOk s o) : AwaitOk s.markShutdown o := by
  unfold State.markShutdown
  split
  · exact h
  · intro reason hasked
    exact (h reason hasked).mono (List.Subset.refl _) (subset_ite_cons _ _) Iff.rfl

theorem markShutdown_guardBusy (s : State) : s.markShutdown.guardBusy = s.guardBusy := by
  unfold markShutdown
  split <;> rfl

/-- **OUTSIDE THE APPEND MUTEX.** -/
theorem RunInv.free (h : RunInv w) {p' : Place} (hfree : Free w.state (w.threads t) s' p') :
    RunInv ⟨s', w.holder, update w.threads t p'⟩ := by
  generalize hp : w.threads t = q at hfree
  have hinactive : w.state.active = false → w.state.guardBusy ≠ true := by
    intro hinactive hbusy
    exact absurd (hinactive.symm.trans (h.run.busy hbusy).1) Bool.false_ne_true
  cases hfree with
  | submit r bytes s' hbytes hsubmit => exact h.aside (Aside.submit hsubmit) fun _ => Place.noConfusion
  | shutdown site =>
    refine h.beside h.run.markShutdown (fun _ => Place.noConfusion) ?_
    intro o hbusy hawait
    exact ⟨(markShutdown_guardBusy _).trans hbusy, hawait.markShutdown⟩
  | stop site source =>
    refine h.aside (Sweep.fire _ source).plain.aside ?_
    intro o
    cases site <;> exact Place.noConfusion
  | giveUp | reset | waitOutcome => exact h.aside (Plain.refl _).aside fun _ => Place.noConfusion
  | retire reservation s' hretire =>
    obtain ⟨-, -, rfl⟩ := retireAuthority_eq_ok hretire
    refine h.aside ?_ fun _ => Place.noConfusion
    exact { (Plain.refl _).aside with closing := fun _ => rfl }
  | releaseReservation reservation =>
    refine h.aside ?_ fun _ => Place.noConfusion
    unfold releaseReservation
    split
    · apply Plain.aside
      exact { Plain.refl _ with }
    · exact (Plain.refl _).aside
  | admitRun requestId s' hadmission =>
    refine h.beside (h.run.admitRun hadmission) (fun _ => Place.noConfusion) ?_
    intro o hbusy
    exact absurd hbusy (hinactive (admitRun_eq_ok hadmission).2.2.1)
  | requestStop reason s' hstop =>
    refine h.beside (h.run.requestStop hstop) (fun _ => Place.noConfusion) ?_
    intro o hbusy
    -- a guard that is on its way out has closed the run to stop requests
    have hopen := (requestStop_eq_ok hstop).2.1
    exact absurd (hopen.symm.trans (h.run.busy hbusy).2) Bool.false_ne_true
  | signal source => exact h.aside (Sweep.fire _ _).plain.aside fun _ => Place.noConfusion
  | transition generation next s' htransition =>
    refine h.beside (h.run.transition htransition) (fun _ => Place.noConfusion) ?_
    intro o hbusy hawait
    obtain ⟨-, -, -, rfl⟩ := transition_eq_ok htransition
    exact ⟨hbusy, hawait⟩
  | complete generation outcome result s' hguard hcomplete =>
    obtain ⟨hrun, hbusy, hawait⟩ := h.run.complete hguard hcomplete
    exact h.enter hguard hrun hbusy hawait
  | release hguard hactive =>
    obtain ⟨hrun, hbusy, hawait⟩ := h.run.release hguard hactive
    exact h.enter hguard hrun hbusy hawait
  | publish outcome hdrained =>
    obtain ⟨hbusy, hawait⟩ := h.awaiting t outcome hp
    have hrun := h.run.publish hbusy hdrained hawait
    have hnone : ∀ u o, update w.threads t .idle u ≠ .awaiting o := by
      intro u o hu
      obtain ⟨-, ⟨⟩⟩ | ⟨hut, hother⟩ := update_eq_cases hu
      exact hut (h.single u t o outcome hother hp)
    exact ⟨hrun, fun u o hu => absurd hu (hnone u o), fun u _ o _ hu => absurd hu (hnone u o)⟩
  | waited generation outcome houtcome =>
    refine h.beside ?_ (fun _ => Place.noConfusion) fun o hbusy hawait => ⟨hbusy, hawait⟩
    exact { h.run with waits := List.forall_mem_cons.mpr ⟨mem_of_lookup houtcome, h.run.waits⟩ }

theorem RunInv.step (h : RunInv w) (htickets : TicketInv w) (hstep : StepOf t w w') :
    RunInv w' := by
  cases hstep with
  | free s p hnot hfree => exact h.free hfree
  | lock p hnone hlock => exact h.aside (Plain.refl _).aside (holds_ne_awaiting hlock.holds.2)
  | held s p hholder hheld =>
    have heffect := hheld.effect htickets.queue (htickets.places t)
    exact h.aside (heffect.aside (htickets.places t)) (holds_ne_awaiting hheld.holds.2)
  | unlock s hholder hunlock => exact h.aside hunlock.aside fun _ => Place.noConfusion

theorem RunInv.init (h : Init w) : RunInv w := by
  obtain ⟨target, rfl⟩ := h
  exact {
    run := {
      sequence := rfl
      started := nofun
      routes := List.forall_mem_nil _
      failures := List.forall_mem_nil _
      latched := nofun
      asked := List.forall_mem_nil _
      hasty := List.forall_mem_nil _
      busy := nofun
      waits := List.forall_mem_nil _ }
    awaiting := fun _ _ ht => by cases ht
    single := fun _ _ _ _ ht => by cases ht }

theorem RunInv.reach (h : Reach Init Step w) : TicketInv w ∧ RunInv w :=
  h.invariant (P := fun w => TicketInv w ∧ RunInv w)
    (fun _ hinit => ⟨TicketInv.init hinit, RunInv.init hinit⟩)
    fun _ _ ⟨htickets, hrun⟩ ⟨_, hstep⟩ => ⟨htickets.step hstep, hrun.step htickets hstep⟩

end

/-! ## §5. The result. -/

/-- What holds of the outcomes of a controller in every state. -/
structure RunOutcomes (w : World) : Prop where
  /-- Every admitted generation but the active one has published, and none has published twice. -/
  once : (w.state.published.map Prod.fst).Nodup
  every : ∀ g, 1 ≤ g → g ≤ w.state.generation →
    (∃ o, (g, o) ∈ w.state.published) ∨ (w.state.active = true ∧ g = w.state.generation)
  /-- A guard that waits for the queue does not wait in vain: some call in progress can go on. -/
  progress : ∀ t o, w.threads t = .awaiting o → ∃ u w', w.threads u ≠ .idle ∧ StepOf u w w'
  /-- Once a generation has published, none of its tickets is pending and none is accepted. -/
  pending : ∀ g o, (g, o) ∈ w.state.published → ∀ k ∈ w.state.appends, k.request.route ≠ some g
  accepted : ∀ g o, (g, o) ∈ w.state.published → ∀ r bytes s',
    r.route = some g → w.state.submit r bytes ≠ .ok s'
  failed : ∀ g o, (g, o) ∈ w.state.published → g ∈ w.state.failures → o.reason = .persistenceError
  /-- Without a failed append and without a shutdown the outcome has the reason of a successful
      stop request if and only if the guard was not released between the two halves of it. -/
  stopped : ∀ g reason o, (g, reason) ∈ w.state.asked → (g, o) ∈ w.state.published →
    g ∉ w.state.failures → g ∉ w.state.cut →
    (o.reason = reason ↔ g ∉ w.state.hasty ∨ reason = .providerError)
  waited : ∀ x ∈ w.state.waits, x ∈ w.state.published

/-- Two outcomes of one generation are one. -/
theorem RunOk.outcome_unique {s : State} (h : RunOk s) {o' : RunOutcome}
    (ho : (g, o) ∈ s.published) (ho' : (g, o') ∈ s.published) : o = o' := by
  have heq := List.inj_on_of_nodup_map h.published_nodup ho ho' rfl
  exact (Prod.mk.inj heq).2

/-- **THE OUTCOMES OF RUNS.** -/
theorem run_outcomes (w : World) (h : Reach Init Step w) : RunOutcomes w := by
  obtain ⟨htickets, hinv⟩ := RunInv.reach h
  have hrun := hinv.run
  have hactive : ∀ g o, (g, o) ∈ w.state.published → ¬(w.state.active = true ∧ w.state.generation = g) := by
    rintro g o ho ⟨hactive, rfl⟩
    exact Nat.lt_irrefl _ (hrun.published_ne ho hactive)
  exact {
    once := hrun.published_nodup
    every := by
      intro g hpos hle
      by_cases hlast : w.state.active = true ∧ g = w.state.generation
      · exact .inr hlast
      · have hfinished : g ≤ w.state.finished := by
          unfold finished
          split
          · rename_i hact
            have hne : g ≠ w.state.generation := fun heq => hlast ⟨hact, heq⟩
            omega
          · exact hle
        have hmem : g ∈ (w.state.published.map Prod.fst).reverse := by
          rw [hrun.sequence, List.mem_range'_1]
          omega
        obtain ⟨x, hx, rfl⟩ := List.mem_map.mp (List.mem_reverse.mp hmem)
        exact .inl ⟨x.2, hx⟩
    progress := by
      intro t o ht
      by_cases hdrained : w.state.appends = []
      · have hnot : w.holder ≠ some t := by
          intro hholder
          have hholds := (htickets.locked t).mpr hholder
          rw [ht] at hholds
          cases hholds
        refine ⟨t, _, by rw [ht]; exact Place.noConfusion, .free (w.state.publish o) .idle hnot ?_⟩
        rw [ht]
        exact .publish o hdrained
      · exact htickets.progress hdrained
    pending := by
      intro g o ho k hk hroute
      exact hactive g o ho (hrun.routes k hk g hroute)
    accepted := by
      intro g o ho r bytes s' hroute hsubmit
      obtain ⟨hact, -, hgen⟩ := (submit_eq_ok hsubmit).2.2.1 g hroute
      exact hactive g o ho ⟨hact, hgen⟩
    failed := by
      intro g o ho hfailed
      rcases hrun.failures g hfailed with ⟨o', ho', hreason⟩ | ⟨hact, hgen, -⟩
      · rw [hrun.outcome_unique ho ho']
        exact hreason
      · exact absurd ⟨hact, hgen.symm⟩ (hactive g o ho)
    stopped := by
      intro g reason o hasked ho hfailed hcut
      rcases hrun.asked _ hasked with ⟨o', ho', hobeys⟩ | ⟨hact, hgen, -⟩
      · rw [hrun.outcome_unique ho ho']
        rcases hobeys with hfailed' | hcut' | ⟨hreason, hprovider⟩
        · exact absurd hfailed' hfailed
        · exact absurd hcut' hcut
        · by_cases hhasty : g ∈ w.state.hasty
          · rw [hprovider hhasty]
            exact ⟨fun heq => .inr heq.symm,
              fun hor => hor.elim (absurd hhasty) fun heq => heq.symm⟩
          · exact ⟨fun _ => .inl hhasty, fun _ => hreason hhasty⟩
      · exact absurd ⟨hact, hgen.symm⟩ (hactive g o ho)
    waited := hrun.waits }

/-- A run that is asked to stop, is told so, and is released; a thread that found it active gets
    its outcome. -/
theorem run_outcomes_stopped :
    ∃ w, Reach Init Step w ∧ w.state.asked = [(1, .userCanceled)] ∧ w.state.hasty = [] ∧
      w.state.published.map (fun x => (x.1, x.2.reason)) = [(1, .userCanceled)] ∧
      w.state.waits = w.state.published ∧ RunOutcomes w := by
  have hstart : Reach Init Step { state := { appendTarget := true } } := .start ⟨true, rfl⟩
  have hrun := hstart.step ⟨0, .free _ _ (by simp) (.admitRun (ascii "r") _ rfl)⟩
  have hwait := hrun.step ⟨2, .free _ _ (by simp) (.waitOutcome (ascii "r") (by decide) rfl rfl)⟩
  have hasked := hwait.step ⟨1, .free _ _ (by simp) (.requestStop .userCanceled _ rfl)⟩
  have hfired := hasked.step ⟨1, .free _ _ (by simp) (.signal 1)⟩
  have hreleased := hfired.step ⟨0, .free _ _ (by simp) (.release rfl rfl)⟩
  have hlast := hreleased.step ⟨2, .free _ _ (by simp) (.waited 1 _ rfl)⟩
  exact ⟨_, hlast, rfl, rfl, rfl, rfl, run_outcomes _ hlast⟩

/-! ## §6. The release in between. -/

/-- **THE RELEASE IN BETWEEN.**  A stop request has recorded its reason; before it fires the stop
    source, the guard is released and finds the source silent.  The request succeeds and the
    outcome says provider error. -/
theorem released_before_the_stop_fires :
    ∃ w, Reach Init Step w ∧ (∀ t, w.threads t = .idle) ∧ (1, .userCanceled) ∈ w.state.asked ∧
      w.state.failures = [] ∧ w.state.shuttingDown = false ∧
      ∃ o, (1, o) ∈ w.state.published ∧ o.reason = .providerError := by
  have hstart : Reach Init Step { state := { appendTarget := true } } := .start ⟨true, rfl⟩
  have hrun := hstart.step ⟨0, .free _ _ (by simp) (.admitRun (ascii "r") _ rfl)⟩
  have hasked := hrun.step ⟨1, .free _ _ (by simp) (.requestStop .userCanceled _ rfl)⟩
  have hreleased := hasked.step ⟨0, .free _ _ (by simp) (.release rfl rfl)⟩
  have hlast := hreleased.step ⟨1, .free _ _ (by simp) (.signal 1)⟩
  refine ⟨_, hlast, ?_, List.mem_cons_self, rfl, rfl, _, List.mem_cons_self, rfl⟩
  refine (forall_update_iff _ fun _ p => p = Place.idle).mpr ⟨rfl, ?_⟩
  intro t ht
  -- only two threads were ever busy
  by_cases hzero : t = 0
  · rw [hzero]
    rfl
  · simp only [update_of_ne hzero, update_of_ne ht]

end Ava.App
