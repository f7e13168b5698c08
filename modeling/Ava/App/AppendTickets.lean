/-
  Ava.App.AppendTickets
  **THE TICKETS OF A RUN CONTROLLER.**  Callers put tickets into a queue and drive it themselves,
  one of them at a time, each until its own ticket is complete.

  Everything rests on one equation: the completed tickets, oldest first, followed by the queued
  ones are the tickets `0, 1, 2, …` that were admitted.  Tickets leave the queue only at the front
  and are completed as they leave.

    - §1 the queue; §2 each section keeps it; §3 what the places know;
    - §4 each step keeps it; §5 the latch; §6 progress; §7 the result; §8 retired authority.
-/
import Ava.App.RunController
import Mathlib.Data.List.Nodup
import Mathlib.Data.List.Range

namespace Ava.App

open Ava.Core Ava.Core.Json Ava.Session Ava.Lib Function State

/-! ## §1. The queue. -/

/-- The queue in every state. -/
structure QueueOk (s : State) : Prop where
  order : (s.completed.map Prod.fst).reverse ++ s.appends.map Ticket.id = List.range s.admitted
  terminal : ∀ p ∈ s.completed, p.2 ≠ .pending
  bytes : s.appendBytes = (s.appends.map Ticket.bytes).sum
  compaction : s.appends.countP Ticket.isCompaction ≤ 1
  latched : s.persistenceFailure.isSome = true → s.appends = []
  reserved : s.maintenanceReserved = true → s.active = false ∧ s.appends = []

variable {n : Nat} {c : Completion} {rest : List Ticket} {head : Ticket}

section

variable {s s' : State}

theorem QueueOk.nodup (h : QueueOk s) :
    ((s.completed.map Prod.fst).reverse ++ s.appends.map Ticket.id).Nodup := by
  rw [h.order]
  exact List.nodup_range

/-- A ticket is admitted if and only if it is complete or queued. -/
theorem QueueOk.admitted_iff (h : QueueOk s) (n : Nat) :
    n < s.admitted ↔ n ∈ s.completed.map Prod.fst ∨ n ∈ s.appends.map Ticket.id := by
  rw [← List.mem_range, ← h.order, List.mem_append, List.mem_reverse]

/-- What is complete was admitted before what is queued. -/
theorem QueueOk.completed_lt (h : QueueOk s) {m : Nat} {t : Ticket}
    (hm : m ∈ s.completed.map Prod.fst) (ht : t ∈ s.appends) : m < t.id := by
  have hsorted : ((s.completed.map Prod.fst).reverse ++ s.appends.map Ticket.id).Pairwise (· < ·) := by
    rw [h.order]
    exact List.pairwise_lt_range
  exact (List.pairwise_append.mp hsorted).2.2 m (List.mem_reverse.mpr hm) t.id
    (List.mem_map_of_mem ht)

theorem mem_of_lookup {α : Type} {l : List (Nat × α)} {a : α} (h : l.lookup n = some a) :
    (n, a) ∈ l := by
  obtain ⟨before, after, rfl, -⟩ := List.lookup_eq_some_iff.mp h
  exact List.mem_append_right _ List.mem_cons_self

/-- `completionOf` reads the log. -/
theorem mem_of_completionOf (h : s.completionOf n ≠ .pending) :
    (n, s.completionOf n) ∈ s.completed := by
  unfold completionOf at h ⊢
  cases hlookup : s.completed.lookup n with
  | none =>
    rw [hlookup] at h
    exact absurd rfl h
  | some c => exact mem_of_lookup hlookup

theorem not_mem_of_completionOf (h : QueueOk s) (hpending : s.completionOf n = .pending) :
    n ∉ s.completed.map Prod.fst := by
  intro hmem
  unfold completionOf at hpending
  cases hlookup : s.completed.lookup n with
  | none =>
    obtain ⟨p, hp, hn⟩ := List.mem_map.mp hmem
    have hne := List.lookup_eq_none_iff.mp hlookup p hp
    exact absurd hn.symm (by simpa using hne)
  | some c =>
    rw [hlookup] at hpending
    exact h.terminal _ (mem_of_lookup hlookup) hpending

/-! ## §2. Each section keeps it. -/

section

variable (h : QueueOk s)

include h

theorem QueueOk.of_same (happends : s'.appends = s.appends)
    (hbytes : s'.appendBytes = s.appendBytes) (hadmitted : s'.admitted = s.admitted)
    (hcompleted : s'.completed = s.completed)
    (hlatched : s'.persistenceFailure.isSome = true → s.appends = [])
    (hreserved : s'.maintenanceReserved = true → s'.active = false ∧ s.appends = []) :
    QueueOk s' where
  order := by rw [hcompleted, happends, hadmitted, h.order]
  terminal := by rw [hcompleted]; exact h.terminal
  bytes := by rw [hbytes, happends, h.bytes]
  compaction := by rw [happends]; exact h.compaction
  latched := by rw [happends]; exact hlatched
  reserved := by rw [happends]; exact hreserved

theorem QueueOk.submit {r : Request} {bytes : Nat}
    (hsubmit : s.submit r bytes = .ok s') : QueueOk s' := by
  obtain ⟨hfailure, hreserved, -, hcompaction, rfl⟩ := submit_eq_ok hsubmit
  exact {
    order := by
      show (s.completed.map Prod.fst).reverse ++ (s.appends ++ [_]).map Ticket.id = _
      rw [List.map_append, ← List.append_assoc, h.order, List.range_succ]
      rfl
    terminal := h.terminal
    bytes := by
      show s.appendBytes + bytes = ((s.appends ++ [_]).map Ticket.bytes).sum
      rw [List.map_append, List.sum_append, ← h.bytes]
      rfl
    compaction := by
      show (s.appends ++ [_]).countP Ticket.isCompaction ≤ 1
      rw [List.countP_append]
      by_cases hkind : r.kind = .compaction
      · -- the lane was empty
        have hnone : s.appends.countP Ticket.isCompaction = 0 := by
          rw [List.countP_eq_zero]
          intro t ht hcomp
          exact List.any_eq_false.mp (hcompaction hkind) t ht hcomp
        have hone := List.countP_le_length (p := Ticket.isCompaction) (l := [⟨s.admitted, bytes, r⟩])
        simp only [List.length_singleton] at hone
        omega
      · have hzero : [(⟨s.admitted, bytes, r⟩ : Ticket)].countP Ticket.isCompaction = 0 := by
          simp [Ticket.isCompaction, hkind]
        have hold := h.compaction
        omega
    latched := by
      intro hsome
      rw [show s.persistenceFailure = none from hfailure] at hsome
      exact absurd hsome Bool.false_ne_true
    reserved := by
      intro hres
      exact absurd (hreserved.symm.trans hres) Bool.false_ne_true }

theorem QueueOk.pop (hc : c ≠ .pending) {t : Ticket}
    (happends : s.appends = t :: rest) : QueueOk (s.pop c t) where
  order := by
    show (((t.id, c) :: s.completed).map Prod.fst).reverse ++ s.appends.tail.map Ticket.id = _
    have horder := h.order
    rw [happends] at horder ⊢
    rw [List.map_cons, List.reverse_cons, List.append_assoc]
    exact horder
  terminal := List.forall_mem_cons.mpr ⟨hc, h.terminal⟩
  bytes := by
    show s.appendBytes - t.bytes = (s.appends.tail.map Ticket.bytes).sum
    rw [h.bytes, happends, List.map_cons, List.sum_cons, List.tail_cons]
    omega
  compaction := by
    have hcount := h.compaction
    rw [happends, List.countP_cons] at hcount
    show s.appends.tail.countP _ ≤ 1
    rw [happends, List.tail_cons]
    omega
  latched hsome := by
    have hnil := h.latched hsome
    rw [happends] at hnil
    cases hnil
  reserved hres := by
    obtain ⟨-, hnil⟩ := h.reserved hres
    rw [happends] at hnil
    cases hnil

theorem QueueOk.drain (hc : c ≠ .pending) : QueueOk (s.drain c) :=
  drain_induction (P := QueueOk) (fun _ _ _ happends hs => hs.pop hc happends) h

end

/-- **SWEEPS**: the sections that end the queue or leave it alone.  Beside it they only fire stop
    sources and take the target away. -/
inductive Sweep (s : State) : State → Prop
  | keep (stopped : Nat → Bool) (appendTarget : Bool) : Sweep s { s with stopped, appendTarget }
  | drain (appendTarget : Bool) : Sweep s { s.drain .closing with appendTarget }

theorem Sweep.refl (s : State) : Sweep s s := .keep s.stopped s.appendTarget

theorem Sweep.fire (s : State) (source : Option Nat) : Sweep s (s.fire source) := by
  cases source with
  | none => exact Sweep.refl s
  | some n => exact .keep _ s.appendTarget

theorem Sweep.closeDown (s : State) : Sweep s s.closeDown := by
  unfold State.closeDown
  split
  · split
    · exact .keep s.stopped false
    · exact .drain false
  · exact Sweep.refl s

theorem Sweep.resetEnd (s : State) : Sweep s s.resetEnd := by
  unfold State.resetEnd
  split
  · exact .drain false
  · exact Sweep.refl s

theorem QueueOk.sweep (h : QueueOk s) (hsweep : Sweep s s') : QueueOk s' := by
  cases hsweep with
  | keep stopped target => exact { h with }
  | drain target =>
    have hdrain : QueueOk (s.drain .closing) := h.drain (by simp)
    exact { hdrain with }

theorem Sweep.failure (h : Sweep s s') : s'.persistenceFailure = s.persistenceFailure := by
  cases h with
  | keep stopped target => rfl
  | drain target => rw [drain_eq]

/-- A sweep completes tickets as closed. -/
theorem Sweep.completed (h : Sweep s s') {x : Nat × Completion} (hx : x ∈ s'.completed) :
    x ∈ s.completed ∨ x.2 = .closing := by
  cases h with
  | keep stopped target => exact .inl hx
  | drain target =>
    rw [drain_eq] at hx
    rcases List.mem_append.mp hx with hnew | hold
    · obtain ⟨k, -, rfl⟩ := List.mem_map.mp (List.mem_reverse.mp hnew)
      exact .inr rfl
    · exact .inl hold

theorem QueueOk.settled (h : QueueOk s) (happends : s.appends = head :: rest) (v : Verdict) :
    QueueOk (s.settled head v) := by
  cases v with
  | written | rejection => exact h.pop (by simp) happends
  | failure e =>
    have hpop : QueueOk (s.pop (.persistenceFailed e) head) := h.pop (by simp) happends
    -- the queue is latched and full until the drain is over, so the fields go one by one
    have hempty : (s.settled head (.failure e)).appends = [] := by
      simp only [State.settled, State.drain_eq]
    have hreserved : s.maintenanceReserved ≠ true := by
      intro hres
      have hnil := (h.reserved hres).2
      rw [happends] at hnil
      cases hnil
    have hdrain : QueueOk ((s.pop (.persistenceFailed e) head).drain (.persistenceFailed e)) :=
      hpop.drain (by simp)
    have hsame : s.settled head (.failure e) =
        ((s.pop (.persistenceFailed e) head).drain (.persistenceFailed e)).latch e := by
      simp only [State.settled, State.drain_eq, State.latch]
    rw [hsame] at hempty ⊢
    exact { hdrain with
      latched := fun _ => hempty
      reserved := by
        intro hres
        refine absurd ?_ hreserved
        rw [drain_eq] at hres
        exact hres }

theorem QueueOk.settle (h : QueueOk s) (happends : s.appends = head :: rest) (v : Verdict) :
    QueueOk (s.settle head v) := by
  rw [settle_of_head happends]
  exact (h.settled happends v).sweep (Sweep.closeDown _)

/-- Sections that do not touch the queue. -/
structure Quiet (s s' : State) : Prop where
  appends : s'.appends = s.appends
  appendBytes : s'.appendBytes = s.appendBytes
  admitted : s'.admitted = s.admitted
  completed : s'.completed = s.completed
  received : s'.received = s.received
  returned : s'.returned = s.returned
  failure : s'.persistenceFailure = s.persistenceFailure
  reserved : s'.maintenanceReserved = true →
    s.maintenanceReserved = true ∧ (s.active = false → s'.active = false)

theorem QueueOk.quiet (h : QueueOk s) (hq : Quiet s s') : QueueOk s' := by
  apply h.of_same hq.appends hq.appendBytes hq.admitted hq.completed
  · intro hlatched
    rw [hq.failure] at hlatched
    exact h.latched hlatched
  · intro hreserved
    obtain ⟨hold, hinactive⟩ := hq.reserved hreserved
    obtain ⟨hactive, hempty⟩ := h.reserved hold
    exact ⟨hinactive hactive, hempty⟩

theorem Quiet.refl (s : State) : Quiet s s := ⟨rfl, rfl, rfl, rfl, rfl, rfl, rfl, fun h => ⟨h, id⟩⟩

theorem Quiet.fire (s : State) (source : Option Nat) : Quiet s (s.fire source) := by
  cases source with
  | none => exact Quiet.refl s
  | some n => exact { Quiet.refl s with }

theorem Quiet.publish (s : State) (outcome : RunOutcome) : Quiet s (s.publish outcome) :=
  { Quiet.refl s with reserved := fun h => ⟨h, fun _ => rfl⟩ }

theorem Quiet.trans {s'' : State} (h : Quiet s s') (h' : Quiet s' s'') : Quiet s s'' where
  appends := h'.appends.trans h.appends
  appendBytes := h'.appendBytes.trans h.appendBytes
  admitted := h'.admitted.trans h.admitted
  completed := h'.completed.trans h.completed
  received := h'.received.trans h.received
  returned := h'.returned.trans h.returned
  failure := h'.failure.trans h.failure
  reserved hres := ⟨(h.reserved (h'.reserved hres).1).1,
    fun hinactive => (h'.reserved hres).2 ((h.reserved (h'.reserved hres).1).2 hinactive)⟩

theorem Quiet.enterWait (s : State) (outcome : RunOutcome) :
    Quiet s (s.enterWait outcome).1 := by
  unfold State.enterWait
  split
  · exact Quiet.publish s outcome
  · exact Quiet.refl s

theorem enterWait_ticket (s : State) (outcome : RunOutcome) :
    (s.enterWait outcome).2.ticket = none := by
  unfold enterWait
  split <;> rfl

/-- **OUTSIDE THE APPEND MUTEX** a thread adds a ticket to the queue or leaves it alone. -/
theorem Free.effect {p p' : Place} (h : Free s p s' p') :
    (p = .idle ∧ p' = .queued s.admitted ∧ ∃ r bytes, s.submit r bytes = .ok s') ∨
    (p.ticket = none ∧ p'.ticket = none ∧ Quiet s s') := by
  cases h with
  | submit r bytes s' hbytes hsubmit => exact .inl ⟨rfl, rfl, r, bytes, hsubmit⟩
  | shutdown site =>
    refine .inr ⟨rfl, rfl, ?_⟩
    unfold markShutdown
    split
    · exact Quiet.refl s
    · exact { Quiet.refl s with }
  | stop site source =>
    refine .inr ⟨rfl, ?_, Quiet.fire s source⟩
    cases site <;> rfl
  | giveUp | reset | waitOutcome => exact .inr ⟨rfl, rfl, Quiet.refl s⟩
  | retire reservation s' hretire =>
    obtain ⟨-, -, rfl⟩ := retireAuthority_eq_ok hretire
    exact .inr ⟨rfl, rfl, { Quiet.refl s with }⟩
  | releaseReservation reservation =>
    refine .inr ⟨rfl, rfl, ?_⟩
    unfold State.releaseReservation
    split
    · exact { Quiet.refl s with reserved := nofun }
    · exact Quiet.refl s
  | admitRun requestId s' hadmission =>
    obtain ⟨-, hreserved, -, -, rfl⟩ := admitRun_eq_ok hadmission
    refine .inr ⟨rfl, rfl, { Quiet.refl s with reserved := ?_ }⟩
    intro hres
    exact absurd (hreserved.symm.trans hres) Bool.false_ne_true
  | requestStop reason s' hstop =>
    obtain ⟨-, -, -, -, rfl⟩ := requestStop_eq_ok hstop
    exact .inr ⟨rfl, rfl, { Quiet.refl s with }⟩
  | signal source => exact .inr ⟨rfl, rfl, Quiet.fire s (some source)⟩
  | transition generation next s' htransition =>
    obtain ⟨-, -, -, rfl⟩ := transition_eq_ok htransition
    exact .inr ⟨rfl, rfl, { Quiet.refl s with }⟩
  | complete generation outcome result s' hguard hcomplete =>
    obtain ⟨-, -, phase, rfl⟩ := completeEnter_eq_ok hcomplete
    refine .inr ⟨rfl, enterWait_ticket _ _, Quiet.trans ?_ (Quiet.enterWait _ _)⟩
    exact { Quiet.refl s with }
  | release hguard hactive =>
    refine .inr ⟨rfl, enterWait_ticket _ _, Quiet.trans ?_ (Quiet.enterWait _ _)⟩
    exact { Quiet.refl s with }
  | publish outcome hdrained => exact .inr ⟨rfl, rfl, Quiet.publish s outcome⟩
  | waited generation outcome houtcome =>
    exact .inr ⟨rfl, rfl, { Quiet.refl s with }⟩

/-- Sections that take tickets from the front, if any, and complete them. -/
structure Popped (s s' : State) : Prop where
  appends : s'.appends <:+ s.appends
  completed : s.completed <:+ s'.completed
  admitted : s'.admitted = s.admitted
  received : s'.received = s.received
  returned : s'.returned = s.returned

theorem Quiet.popped (h : Quiet s s') : Popped s s' where
  __ := h
  appends := by rw [h.appends]
  completed := by rw [h.completed]

theorem Popped.trans {s'' : State} (h : Popped s s') (h' : Popped s' s'') : Popped s s'' where
  appends := h'.appends.trans h.appends
  completed := h.completed.trans h'.completed
  admitted := h'.admitted.trans h.admitted
  received := h'.received.trans h.received
  returned := h'.returned.trans h.returned

theorem Popped.pop (s : State) (c : Completion) (t : Ticket) : Popped s (s.pop c t) :=
  ⟨List.tail_suffix _, List.suffix_cons _ _, rfl, rfl, rfl⟩

theorem Popped.drain (s : State) (c : Completion) : Popped s (s.drain c) := by
  rw [drain_eq]
  exact ⟨List.nil_suffix, List.suffix_append _ _, rfl, rfl, rfl⟩

theorem Sweep.popped (h : Sweep s s') : Popped s s' := by
  cases h with
  | keep stopped target => exact ⟨List.suffix_refl _, List.suffix_refl _, rfl, rfl, rfl⟩
  | drain target =>
    obtain ⟨happends, hcompleted, hadmitted, hreceived, hreturned⟩ := Popped.drain s .closing
    exact ⟨happends, hcompleted, hadmitted, hreceived, hreturned⟩

theorem Popped.settle (happends : s.appends = head :: rest) (v : Verdict) :
    Popped s (s.settle head v) := by
  rw [settle_of_head happends]
  refine Popped.trans ?_ (Sweep.closeDown _).popped
  cases v with
  | written | rejection => exact Popped.pop s _ head
  | failure e =>
    have hlatch : ∀ s : State, Popped s (s.latch e) := fun _ =>
      ⟨List.suffix_refl _, List.suffix_refl _, rfl, rfl, rfl⟩
    exact ((Popped.pop s _ head).trans (hlatch _)).trans (Popped.drain _ _)

/-- The head is complete afterwards. -/
theorem settle_completes (happends : s.appends = head :: rest) (v : Verdict) :
    head.id ∈ (s.settle head v).completed.map Prod.fst := by
  rw [settle_of_head happends]
  refine ((Sweep.closeDown (s.settled head v)).popped.completed.map Prod.fst).subset ?_
  cases v with
  | written | rejection => exact List.mem_cons_self
  | failure e =>
    simp only [settled, drain_eq, latch, pop, List.map_append,
      List.map_cons, List.mem_append, List.mem_cons, true_or, or_true]

end

/-! ## §3. What the places know. -/

/-- Whoever is at the target has the head of a queue that is not latched; whoever is about to
    return has a complete ticket. -/
def PlaceOk (s : State) : Place → Prop
  | .calling _ head | .answering _ head =>
    s.appends.head? = some head ∧ s.persistenceFailure = none
  | .leaving n => n ∈ s.completed.map Prod.fst
  | .returning n c => (n, c) ∈ s.completed
  | _ => True

/-- The ticket the target is called with. -/
def Place.inFlight : Place → Option Nat
  | .answering _ head => some head.id
  | _ => none

/-- Tickets and their callers. -/
structure Callers (s : State) (tickets : Nat → Option Nat) : Prop where
  caller : ∀ k ∈ s.appends, ∃ t, tickets t = some k.id
  owned : ∀ t n, tickets t = some n → n < s.admitted ∧ n ∉ s.returned.map Prod.fst
  single : ∀ t u n, tickets t = some n → tickets u = some n → t = u
  returned : ∀ p ∈ s.returned, p ∈ s.completed
  once : (s.returned.map Prod.fst).Nodup

/-- Calls of the target. -/
structure Calls (s : State) (flights : Nat → Option Nat) : Prop where
  ordered : s.received.Pairwise (· > ·)
  settled : ∀ m ∈ s.received, m ∈ s.completed.map Prod.fst ∨ ∃ t, flights t = some m

structure TicketInv (w : World) : Prop where
  locked : Locked w
  queue : QueueOk w.state
  places : ∀ t, PlaceOk w.state (w.threads t)
  callers : Callers w.state fun t => (w.threads t).ticket
  calls : Calls w.state fun t => (w.threads t).inFlight

section

variable {s s' : State} {tickets flights : Nat → Option Nat}

theorem Callers.popped (h : Callers s tickets) (hp : Popped s s') : Callers s' tickets where
  caller k hk := h.caller k (hp.appends.subset hk)
  owned t n hn := by
    rw [hp.admitted, hp.returned]
    exact h.owned t n hn
  single := h.single
  returned := by
    rw [hp.returned]
    intro p hp'
    exact hp.completed.subset (h.returned p hp')
  once := by rw [hp.returned]; exact h.once

/-- A new ticket belongs to the thread that submitted it. -/
theorem Callers.submit (h : Callers s tickets) {r : Request} {bytes : Nat}
    (hsubmit : s.submit r bytes = .ok s') {t : Nat} (ht : tickets t = none)
    (hq : QueueOk s) : Callers s' (update tickets t (some s.admitted)) := by
  obtain ⟨-, -, -, -, rfl⟩ := submit_eq_ok hsubmit
  have hfresh : ∀ u n, tickets u = some n → n ≠ s.admitted := by
    intro u n hn
    exact Nat.ne_of_lt (h.owned u n hn).1
  have hsame : ∀ u n, tickets u = some n → u ≠ t := by
    intro u n hn hut
    rw [hut, ht] at hn
    cases hn
  exact {
    caller := by
      intro k hk
      rcases List.mem_append.mp hk with hold | hnew
      · obtain ⟨u, hu⟩ := h.caller k hold
        exact ⟨u, by rw [update_of_ne (hsame u _ hu)]; exact hu⟩
      · rw [List.mem_singleton] at hnew
        exact ⟨t, by rw [update_self, hnew]⟩
    owned := by
      intro u n hn
      obtain ⟨-, ⟨⟩⟩ | ⟨-, hold⟩ := update_eq_cases hn
      · refine ⟨Nat.lt_succ_self _, ?_⟩
        intro hreturned
        -- a returned ticket is complete, so it was admitted before
        obtain ⟨p, hp, hid⟩ := List.mem_map.mp hreturned
        have hlt : p.1 < s.admitted :=
          (hq.admitted_iff p.1).mpr (.inl (List.mem_map_of_mem (h.returned p hp)))
        omega
      · obtain ⟨hlt, hnot⟩ := h.owned u n hold
        exact ⟨Nat.lt_succ_of_lt hlt, hnot⟩
    single := by
      intro u v n hu hv
      obtain ⟨rfl, ⟨⟩⟩ | ⟨-, hu'⟩ := update_eq_cases hu
      · obtain ⟨rfl, -⟩ | ⟨-, hv'⟩ := update_eq_cases hv
        · rfl
        · exact absurd rfl (hfresh v _ hv')
      · obtain ⟨-, ⟨⟩⟩ | ⟨-, hv'⟩ := update_eq_cases hv
        · exact absurd rfl (hfresh u _ hu')
        · exact h.single u v n hu' hv'
    returned := h.returned
    once := h.once }

/-- A caller returns what its ticket was completed with. -/
theorem Callers.return (h : Callers s tickets) (hq : QueueOk s) {t : Nat}
    (ht : tickets t = some n) (hc : (n, c) ∈ s.completed) :
    Callers { s with returned := (n, c) :: s.returned } (update tickets t none) := by
  have hother : ∀ u m, update tickets t none u = some m → tickets u = some m ∧ m ≠ n := by
    intro u m hm
    obtain ⟨-, ⟨⟩⟩ | ⟨hu, hold⟩ := update_eq_cases hm
    refine ⟨hold, ?_⟩
    rintro rfl
    exact hu (h.single u t m hold ht)
  exact {
    caller := by
      intro k hk
      obtain ⟨u, hu⟩ := h.caller k hk
      have hlt : n < k.id := hq.completed_lt (List.mem_map_of_mem hc) hk
      refine ⟨u, ?_⟩
      rw [update_of_ne ?_]
      · exact hu
      · intro hut
        rw [hut, ht] at hu
        have := Option.some.inj hu
        omega
    owned := by
      intro u m hm
      obtain ⟨hm, hne⟩ := hother u m hm
      obtain ⟨hlt, hnot⟩ := h.owned u m hm
      refine ⟨hlt, ?_⟩
      intro hmem
      rcases List.mem_cons.mp hmem with heq | hmem
      · exact hne heq
      · exact hnot hmem
    single := by
      intro u v m hu hv
      exact h.single u v m (hother u m hu).1 (hother v m hv).1
    returned := List.forall_mem_cons.mpr ⟨hc, h.returned⟩
    once := List.nodup_cons.mpr ⟨(h.owned t n ht).2, h.once⟩ }

theorem Calls.popped (h : Calls s flights) (hp : Popped s s') : Calls s' flights where
  ordered := by rw [hp.received]; exact h.ordered
  settled := by
    rw [hp.received]
    intro m hm
    rcases h.settled m hm with hdone | hflight
    · exact .inl ((hp.completed.map Prod.fst).subset hdone)
    · exact .inr hflight

end

/-! ## §4. Each step keeps it. -/

section

variable {w : World} {s s' : State} {t : Nat} {p p' : Place}

theorem ticket_update (threads : Nat → Place) (t : Nat) (p : Place) :
    (fun u => (update threads t p u).ticket) =
      update (fun u => (threads u).ticket) t p.ticket := by
  funext u
  exact apply_update (fun _ => Place.ticket) threads t p u

theorem inFlight_update (threads : Nat → Place) (t : Nat) (p : Place) :
    (fun u => (update threads t p u).inFlight) =
      update (fun u => (threads u).inFlight) t p.inFlight := by
  funext u
  exact apply_update (fun _ => Place.inFlight) threads t p u

/-- Outside the append mutex a place knows nothing that could change. -/
theorem placeOk_of_outside (h : p.holds = false) (s : State) : PlaceOk s p := by
  cases p <;> trivial

theorem inFlight_of_outside (h : p.holds = false) : p.inFlight = none := by
  cases p <;> first | rfl | exact absurd h Bool.noConfusion

/-- What a place knows is not changed from outside: tickets come in at the end. -/
theorem PlaceOk.grow (h : PlaceOk s p) {l : List Ticket} (happends : s'.appends = s.appends ++ l)
    (hfailure : s'.persistenceFailure = s.persistenceFailure)
    (hcompleted : s'.completed = s.completed) : PlaceOk s' p := by
  have hhead : ∀ head, s.appends.head? = some head → s'.appends.head? = some head := by
    intro head hhead
    rw [happends, List.head?_append, hhead]
    rfl
  cases p with
  | calling n head | answering n head => exact ⟨hhead head h.1, hfailure.trans h.2⟩
  | leaving n =>
    show n ∈ s'.completed.map Prod.fst
    rw [hcompleted]
    exact h
  | returning n c =>
    show (n, c) ∈ s'.completed
    rw [hcompleted]
    exact h
  | _ => trivial

/-- Steps that complete tickets, if anything, and keep the one of their own call. -/
theorem TicketInv.popped (h : TicketInv w) {holder : Option Nat}
    (hlocked : Locked ⟨s', holder, update w.threads t p'⟩)
    (hpopped : Popped w.state s') (hqueue : QueueOk s') (hplace : PlaceOk s' p')
    (hothers : ∀ u, u ≠ t → PlaceOk s' (w.threads u))
    (hticket : p'.ticket = (w.threads t).ticket)
    (hflight : ∀ m, (w.threads t).inFlight = some m →
      m ∈ s'.completed.map Prod.fst ∨ p'.inFlight = some m) :
    TicketInv ⟨s', holder, update w.threads t p'⟩ where
  locked := hlocked
  queue := hqueue
  places := (forall_update_iff _ fun _ p => PlaceOk s' p).mpr ⟨hplace, hothers⟩
  callers := by
    rw [ticket_update, hticket, update_eq_self t fun u => (w.threads u).ticket]
    exact h.callers.popped hpopped
  calls := by
    obtain ⟨hordered, hsettled⟩ := h.calls.popped hpopped
    rw [inFlight_update]
    refine ⟨hordered, ?_⟩
    intro m hm
    rcases hsettled m hm with hdone | ⟨u, hu⟩
    · exact .inl hdone
    · by_cases hut : u = t
      · rw [hut] at hu
        rcases hflight m hu with hdone | hstill
        · exact .inl hdone
        · exact .inr ⟨t, by rw [update_self]; exact hstill⟩
      · exact .inr ⟨u, by rw [update_of_ne hut]; exact hu⟩

/-- A ticket is admitted, to a caller inside or outside the append mutex. -/
theorem TicketInv.submitted (h : TicketInv w) {r : Request} {bytes : Nat}
    (hsubmit : w.state.submit r bytes = .ok s')
    (hlocked : Locked ⟨s', w.holder, update w.threads t p'⟩)
    (hbefore : (w.threads t).ticket = none) (hafter : p'.ticket = some w.state.admitted)
    (hflight : p'.inFlight = (w.threads t).inFlight) (hplace : PlaceOk s' p') :
    TicketInv ⟨s', w.holder, update w.threads t p'⟩ := by
  have hqueue := h.queue.submit hsubmit
  have hcallers := h.callers.submit hsubmit hbefore h.queue
  obtain ⟨-, -, -, -, rfl⟩ := submit_eq_ok hsubmit
  refine ⟨hlocked, hqueue, ?_, ?_, ?_⟩
  · refine (forall_update_iff _ fun _ p => PlaceOk _ p).mpr ⟨hplace, fun u _ => ?_⟩
    exact (h.places u).grow rfl rfl rfl
  · rw [ticket_update, hafter]
    exact hcallers
  · rw [inFlight_update, hflight, update_eq_self t fun u => (w.threads u).inFlight]
    exact ⟨h.calls.ordered, h.calls.settled⟩

/-- A thread outside moves. -/
theorem TicketInv.free (h : TicketInv w)
    (hlocked : Locked ⟨s', w.holder, update w.threads t p'⟩)
    (hfree : Free w.state (w.threads t) s' p') :
    TicketInv ⟨s', w.holder, update w.threads t p'⟩ := by
  have hbefore := inFlight_of_outside hfree.holds.1
  have hplace := placeOk_of_outside hfree.holds.2 s'
  rcases hfree.effect with ⟨hidle, hqueued, r, bytes, hsubmit⟩ | ⟨hticket, hticket', hquiet⟩
  · refine h.submitted hsubmit hlocked (by rw [hidle]; rfl) (by rw [hqueued]; rfl) ?_ hplace
    rw [hbefore, inFlight_of_outside hfree.holds.2]
  · refine h.popped hlocked hquiet.popped (h.queue.quiet hquiet) hplace (fun u _ => ?_)
      (hticket'.trans hticket.symm) (by rw [hbefore]; intro m hm; cases hm)
    have happends : s'.appends = w.state.appends ++ [] := by
      rw [hquiet.appends, List.append_nil]
    exact (h.places u).grow happends hquiet.failure hquiet.completed

theorem head_cons {s : State} (h : s.appends.head? = some head) :
    s.appends = head :: s.appends.tail := (List.cons_head?_tail h).symm

/-- **WHAT THE HOLDER DOES** to the queue, the target and the latch. -/
inductive Effect (s : State) : Place → State → Place → Prop
  | submit (r : Request) (bytes : Nat) (s' : State) (hsubmit : s.submit r bytes = .ok s') :
      Effect s (.entering r) s' (.driving s.admitted)
  | call (n : Nat) (head : Ticket) :
      Effect s (.calling n head) { s with received := head.id :: s.received } (.answering n head)
  | settle (n : Nat) (head : Ticket) (v : Verdict) (source : Option Nat) :
      Effect s (.answering n head) (s.settle head v) (.firing n source)
  | clear (g : Nat) (hactive : s.active = false) :
      Effect s (.clearing g) { s with persistenceFailure := none } (.resetEnding (.ok ()))
  | reserve (g : Nat) (hactive : s.active = false) (hempty : s.appends = []) :
      Effect s .reserving { s with maintenanceReserved := true, maintenanceGeneration := g } .unlocking
  | sweep {s' : State} {p p' : Place} (hsweep : Sweep s s') (hticket : p'.ticket = p.ticket)
      (hflight : p.inFlight = none) (hplace : PlaceOk s' p') : Effect s p s' p'

theorem Held.effect (h : Held s p s' p') (hqueue : QueueOk s) (hok : PlaceOk s p) :
    Effect s p s' p' := by
  cases h with
  | submit r bytes s' hbytes hsubmit => exact .submit r bytes s' hsubmit
  | done n hdone => exact .sweep (.refl s) rfl rfl (List.mem_map_of_mem (mem_of_completionOf hdone))
  | closed n hpending hclosed | drain => exact .sweep (.drain false) rfl rfl trivial
  | latched n failure hpending hopen hfailure =>
    -- a latched queue is empty, so nothing is drained here
    have hempty : s.appends = [] := hqueue.latched (by rw [hfailure]; rfl)
    have hsame : s.drain (.persistenceFailed failure) = s := by
      rw [State.drain, hempty]
      rfl
    rw [hsame]
    exact .sweep (.refl s) rfl rfl trivial
  | head n head hpending hopen hfailure hhead => exact .sweep (.refl s) rfl rfl ⟨hhead, hfailure⟩
  | call n head => exact .call n head
  | settle n head reply short hfits => exact .settle n head _ _
  | fire n source => exact .sweep (.fire s source) rfl rfl trivial
  | recheck n => exact .sweep (.closeDown s) rfl rfl trivial
  | leave n =>
    refine .sweep (.closeDown s) rfl rfl (mem_of_completionOf ?_)
    have hmem := ((Sweep.closeDown s).popped.completed.map Prod.fst).subset hok
    intro hpending
    exact not_mem_of_completionOf (hqueue.sweep (.closeDown s)) hpending hmem
  | again n c hshut htarget =>
    exact .sweep (.closeDown s) rfl rfl ((Sweep.closeDown s).popped.completed.subset hok)
  | clear g s' hclear =>
    obtain ⟨hactive, rfl⟩ := resetClear_eq_ok hclear
    exact .clear g hactive
  | resetEnd result => exact .sweep (.resetEnd s) rfl rfl trivial
  | reserve s' hreserve =>
    obtain ⟨hactive, hempty, rfl⟩ := reserveMaintenance_eq_ok hreserve
    exact .reserve _ hactive hempty
  | _ => exact .sweep (.refl s) rfl rfl trivial

/-- **THE HOLDER'S STEPS**: everybody else is outside. -/
theorem TicketInv.held (h : TicketInv w) (hholder : w.holder = some t)
    (hheld : Held w.state (w.threads t) s' p')
    (hlocked : Locked ⟨s', w.holder, update w.threads t p'⟩) :
    TicketInv ⟨s', w.holder, update w.threads t p'⟩ := by
  have hok := h.places t
  have hothers : ∀ s u, u ≠ t → PlaceOk s (w.threads u) :=
    fun s u hu => placeOk_of_outside (h.locked.others hholder hu) s
  have heffect := hheld.effect h.queue hok
  have hnone : ∀ m, none = some m →
      m ∈ s'.completed.map Prod.fst ∨ p'.inFlight = some m := fun m hm => by cases hm
  generalize hp : w.threads t = p at heffect hok
  cases heffect with
  | submit r bytes s' hsubmit =>
    exact h.submitted hsubmit hlocked (by rw [hp]; rfl) rfl (by rw [hp]; rfl) trivial
  | call n head =>
    have hmem : head ∈ w.state.appends := List.mem_of_mem_head? hok.1
    -- nothing is in flight, so everything received so far is complete
    have hdone : ∀ m ∈ w.state.received, m ∈ w.state.completed.map Prod.fst := by
      intro m hm
      rcases h.calls.settled m hm with hdone | ⟨u, hu⟩
      · exact hdone
      · by_cases hut : u = t
        · rw [hut, hp] at hu
          cases hu
        · rw [inFlight_of_outside (h.locked.others hholder hut)] at hu
          cases hu
    refine ⟨hlocked, ?_, ?_, ?_, ?_⟩
    · exact { h.queue with }
    · exact (forall_update_iff _ fun _ p => PlaceOk _ p).mpr ⟨hok, hothers _⟩
    · have hsame : (Place.answering n head).ticket = (w.threads t).ticket := by rw [hp]; rfl
      rw [ticket_update, hsame, update_eq_self t fun u => (w.threads u).ticket]
      exact { h.callers with }
    · rw [inFlight_update]
      refine ⟨List.pairwise_cons.mpr ⟨?_, h.calls.ordered⟩, ?_⟩
      · intro m hm
        exact h.queue.completed_lt (hdone m hm) hmem
      · intro m hm
        rcases List.mem_cons.mp hm with rfl | hm
        · exact .inr ⟨t, by rw [update_self]; rfl⟩
        · exact .inl (hdone m hm)
  | settle n head v source =>
    have happends := head_cons hok.1
    refine h.popped hlocked (Popped.settle happends _) (h.queue.settle happends _) trivial
      (hothers _) (by rw [hp]; rfl) ?_
    intro m hm
    rw [hp] at hm
    cases hm
    exact .inl (settle_completes happends _)
  | clear g hactive =>
    refine h.popped hlocked ⟨List.suffix_refl _, List.suffix_refl _, rfl, rfl, rfl⟩ ?_ trivial
      (hothers _) (by rw [hp]; rfl) (by rw [hp]; exact hnone)
    exact h.queue.of_same rfl rfl rfl rfl nofun
      h.queue.reserved
  | reserve g hactive hempty =>
    refine h.popped hlocked ⟨List.suffix_refl _, List.suffix_refl _, rfl, rfl, rfl⟩ ?_ trivial
      (hothers _) (by rw [hp]; rfl) (by rw [hp]; exact hnone)
    exact h.queue.of_same rfl rfl rfl rfl h.queue.latched fun _ => ⟨hactive, hempty⟩
  | sweep hsweep hticket hflight hplace =>
    exact h.popped hlocked hsweep.popped (h.queue.sweep hsweep) hplace (hothers _)
      (by rw [hp]; exact hticket) (by rw [hp, hflight]; exact hnone)

theorem Lock.keeps (h : Lock p p') (s : State) :
    p'.ticket = p.ticket ∧ p'.inFlight = p.inFlight ∧ PlaceOk s p' := by
  cases h <;> exact ⟨rfl, rfl, trivial⟩

/-- Whoever gives the append mutex back returns to the caller of a ticket, or has none. -/
theorem Unlock.effect (h : Unlock s p s') :
    (∃ n c, p = .returning n c ∧
      s' = { s.closeDown with returned := (n, c) :: s.closeDown.returned }) ∨
    (s' = s ∧ p.ticket = none ∧ p.inFlight = none) := by
  cases h with
  | returned n c hreleased => exact .inl ⟨n, c, rfl, rfl⟩
  | _ => exact .inr ⟨rfl, rfl, rfl⟩

/-- The append mutex is given back, with the result of a caller or without. -/
theorem TicketInv.unlock (h : TicketInv w) (hholder : w.holder = some t)
    (hunlock : Unlock w.state (w.threads t) s')
    (hlocked : Locked ⟨s', none, update w.threads t .idle⟩) :
    TicketInv ⟨s', none, update w.threads t .idle⟩ := by
  have hothers : ∀ s u, u ≠ t → PlaceOk s (w.threads u) :=
    fun s u hu => placeOk_of_outside (h.locked.others hholder hu) s
  rcases hunlock.effect with ⟨n, c, hp, rfl⟩ | ⟨rfl, hticket, hflight⟩
  · have hok := h.places t
    rw [hp] at hok
    have hpopped := (Sweep.closeDown w.state).popped
    have hqueue := h.queue.sweep (.closeDown w.state)
    have hmem : (n, c) ∈ w.state.closeDown.completed := hpopped.completed.subset hok
    refine ⟨hlocked, ?_, ?_, ?_, ?_⟩
    · exact { hqueue with }
    · exact (forall_update_iff _ fun _ p => PlaceOk _ p).mpr ⟨trivial, hothers _⟩
    · rw [ticket_update]
      exact (h.callers.popped hpopped).return hqueue (by rw [hp]; rfl) hmem
    · have hnone : Place.idle.inFlight = (w.threads t).inFlight := by rw [hp]; rfl
      rw [inFlight_update, hnone, update_eq_self t fun u => (w.threads u).inFlight]
      obtain ⟨hordered, hsettled⟩ := h.calls.popped hpopped
      exact ⟨hordered, hsettled⟩
  · exact h.popped hlocked (Quiet.refl _).popped h.queue trivial (hothers _) hticket.symm
      (by rw [hflight]; intro m hm; cases hm)

theorem TicketInv.step {w' : World} (h : TicketInv w) (hstep : StepOf t w w') : TicketInv w' := by
  have hlocked := h.locked.step hstep
  cases hstep with
  | free s p hnot hfree => exact h.free hlocked hfree
  | lock p hnone hlock =>
    obtain ⟨hticket, hflight, hplace⟩ := hlock.keeps w.state
    refine h.popped hlocked (Quiet.refl _).popped h.queue hplace (fun u _ => h.places u) hticket ?_
    intro m hm
    exact .inr (hflight.trans hm)
  | held s p hholder hheld => exact h.held hholder hheld hlocked
  | unlock s hholder hunlock => exact h.unlock hholder hunlock hlocked

theorem TicketInv.init (h : Init w) : TicketInv w := by
  have hlocked := Locked.init h
  obtain ⟨target, rfl⟩ := h
  exact {
    locked := hlocked
    queue := ⟨rfl, List.forall_mem_nil _, rfl, Nat.zero_le _, fun _ => rfl,
      nofun⟩
    places := fun _ => trivial
    callers := ⟨List.forall_mem_nil _, fun _ _ hn => absurd hn (by simp [Place.ticket]),
      fun _ _ _ hn => absurd hn (by simp [Place.ticket]), List.forall_mem_nil _,
      List.nodup_nil⟩
    calls := ⟨List.Pairwise.nil, List.forall_mem_nil _⟩ }

theorem TicketInv.reach (h : Reach Init Step w) : TicketInv w :=
  h.invariant (P := TicketInv) (fun _ => TicketInv.init) fun _ _ hinv ⟨_, hstep⟩ => hinv.step hstep

end

/-! ## §5. The latch. -/

section

variable {w w' : World} {s s' : State} {t : Nat} {p p' : Place}

/-- With a latched failure a deferred shutdown completes nothing. -/
theorem closeDown_of_latched (h : s.persistenceFailure.isSome = true) :
    s.closeDown.completed = s.completed ∧ s.closeDown.appends = s.appends := by
  unfold closeDown
  rw [if_pos h]
  split
  · exact ⟨rfl, rfl⟩
  · exact ⟨rfl, rfl⟩

variable {failure : Error}

/-- While a failure is latched no ticket reaches the target.  At the target there is no failure
    latched, and only a recovery takes it off. -/
theorem TicketInv.latch_keeps (h : TicketInv w) (hstep : StepOf t w w')
    (hlatched : w.state.persistenceFailure = some failure) :
    w'.state.received = w.state.received ∧
      (w'.state.persistenceFailure = some failure ∨
        ∃ g, w.threads t = .clearing g ∧ w'.threads t = .resetEnding (.ok ())) := by
  have hnot : w.state.persistenceFailure ≠ none := by rw [hlatched]; exact Option.some_ne_none _
  cases hstep with
  | free s p hnot' hfree =>
    rcases hfree.effect with ⟨-, -, r, bytes, hsubmit⟩ | ⟨-, -, hquiet⟩
    · exact absurd (submit_eq_ok hsubmit).1 hnot
    · exact ⟨hquiet.received, .inl (hquiet.failure.trans hlatched)⟩
  | lock p hnone hlock => exact ⟨rfl, .inl hlatched⟩
  | held s p hholder hheld =>
    have hok := h.places t
    have heffect := hheld.effect h.queue hok
    generalize hp : w.threads t = q at heffect hok
    cases heffect with
    | submit r bytes s' hsubmit => exact absurd (submit_eq_ok hsubmit).1 hnot
    | call | settle => exact absurd hok.2 hnot
    | clear g hactive => exact ⟨rfl, .inr ⟨g, rfl, update_self ..⟩⟩
    | reserve g hactive hempty => exact ⟨rfl, .inl hlatched⟩
    | sweep hsweep hticket hflight hplace =>
      exact ⟨hsweep.popped.received, .inl (hsweep.failure.trans hlatched)⟩
  | unlock s hholder hunlock =>
    rcases hunlock.effect with ⟨n, c, -, rfl⟩ | ⟨rfl, -, -⟩
    · have hsweep := Sweep.closeDown w.state
      exact ⟨hsweep.popped.received, .inl (hsweep.failure.trans hlatched)⟩
    · exact ⟨rfl, .inl hlatched⟩

/-- What a ticket that fails for good leaves behind: the latch, an empty queue, and the same
    failure for everything that was queued. -/
structure FailedWith (s s' : State) (failure : Error) : Prop where
  latched : s'.persistenceFailure = some failure
  drained : s'.appends = []
  shared : ∀ k ∈ s.appends, (k.id, .persistenceFailed failure) ∈ s'.completed

theorem settle_failed (happends : s.appends = head :: rest) {v : Verdict}
    (hnew : (n, .persistenceFailed failure) ∈ (s.settle head v).completed)
    (hold : (n, .persistenceFailed failure) ∉ s.completed) :
    FailedWith s (s.settle head v) failure := by
  rw [settle_of_head happends] at hnew ⊢
  have hpop : ∀ c, c ≠ .persistenceFailed failure →
      (n, .persistenceFailed failure) ∉ (s.pop c head).closeDown.completed := by
    intro c hc hmem
    rcases (Sweep.closeDown _).completed hmem with hmem | hclosing
    · rcases List.mem_cons.mp hmem with heq | hmem
      · exact hc (Prod.mk.inj heq).2.symm
      · exact hold hmem
    · cases hclosing
  cases v with
  | written | rejection => exact absurd hnew (hpop _ (by simp))
  | failure e =>
    -- head and queue get the failure, and nothing is left for the shutdown
    have hcompleted : (s.settled head (.failure e)).completed =
        (rest.map fun k => (k.id, .persistenceFailed e)).reverse ++
          (head.id, .persistenceFailed e) :: s.completed := by
      simp only [settled, drain_eq, latch, pop, happends, List.tail_cons]
    have hlatched : (s.settled head (.failure e)).persistenceFailure = some e := by
      simp only [settled, drain_eq, latch]
    have hdrained : (s.settled head (.failure e)).appends = [] := by
      simp only [settled, drain_eq]
    obtain ⟨hsame, hempty⟩ := closeDown_of_latched (s := s.settled head (.failure e))
      (by rw [hlatched]; rfl)
    rw [hsame, hcompleted] at hnew
    have hfailure : failure = e := by
      rcases List.mem_append.mp hnew with hqueue | hhead
      · obtain ⟨k, -, heq⟩ := List.mem_map.mp (List.mem_reverse.mp hqueue)
        cases heq
        rfl
      · rcases List.mem_cons.mp hhead with heq | hmem
        · cases heq
          rfl
        · exact absurd hmem hold
    subst hfailure
    refine ⟨(Sweep.closeDown _).failure.trans hlatched, hempty.trans hdrained, ?_⟩
    intro k hk
    rw [hsame, hcompleted]
    rw [happends] at hk
    rcases List.mem_cons.mp hk with rfl | hk
    · exact List.mem_append_right _ List.mem_cons_self
    · exact List.mem_append_left _
        (List.mem_reverse.mpr (List.mem_map_of_mem (f := fun k => (k.id, Completion.persistenceFailed failure)) hk))

/-- **FAILING FOR GOOD.** -/
theorem TicketInv.failed_with (h : TicketInv w) (hstep : StepOf t w w')
    (hnew : (n, .persistenceFailed failure) ∈ w'.state.completed)
    (hold : (n, .persistenceFailed failure) ∉ w.state.completed) :
    FailedWith w.state w'.state failure := by
  have hsweeps : ∀ s, Sweep w.state s → (n, .persistenceFailed failure) ∉ s.completed := by
    intro s hsweep hmem
    rcases hsweep.completed hmem with hmem | hclosing
    · exact hold hmem
    · cases hclosing
  cases hstep with
  | free s p hnot hfree =>
    rcases hfree.effect with ⟨-, -, r, bytes, hsubmit⟩ | ⟨-, -, hquiet⟩
    · obtain ⟨-, -, -, -, rfl⟩ := submit_eq_ok hsubmit
      exact absurd hnew hold
    · rw [show s.completed = w.state.completed from hquiet.completed] at hnew
      exact absurd hnew hold
  | lock p hnone hlock => exact absurd hnew hold
  | unlock s hholder hunlock =>
    rcases hunlock.effect with ⟨m, c, -, rfl⟩ | ⟨rfl, -, -⟩
    · exact absurd hnew (hsweeps w.state.closeDown (.closeDown _))
    · exact absurd hnew hold
  | held s p hholder hheld =>
    have hok := h.places t
    have heffect := hheld.effect h.queue hok
    generalize w.threads t = q at heffect hok
    cases heffect with
    | submit r bytes s' hsubmit =>
      obtain ⟨-, -, -, -, rfl⟩ := submit_eq_ok hsubmit
      exact absurd hnew hold
    | settle m head v source => exact settle_failed (head_cons hok.1) hnew hold
    | sweep hsweep hticket hflight hplace => exact absurd hnew (hsweeps _ hsweep)
    | _ => exact absurd hnew hold

end

/-! ## §6. Progress. -/

section

variable {w : World}

/-- The holder can always move. -/
theorem holder_moves {s : State} {p : Place} (hholds : p.holds = true) (hqueued : s.appends ≠ []) :
    (∃ s' p', Held s p s' p') ∨ ∃ s', Unlock s p s' := by
  cases p with
  | entering r =>
    cases hbytes : batchEntryByteCount r.entries with
    | error e => exact .inr ⟨s, .uncountable r e hbytes⟩
    | ok bytes =>
      cases hsubmit : s.submit r bytes with
      | error e => exact .inr ⟨s, .refused r bytes e hbytes hsubmit⟩
      | ok s' => exact .inl ⟨s', _, .submit r bytes s' hbytes hsubmit⟩
  | driving n =>
    by_cases hpending : s.completionOf n = .pending
    · by_cases hclosed : s.shuttingDown = true ∨ s.appendTarget = false
      · exact .inl ⟨_, _, .closed n hpending hclosed⟩
      · have hopen : s.shuttingDown = false ∧ s.appendTarget = true := by
          rw [not_or, Bool.not_eq_true, Bool.not_eq_false] at hclosed
          exact hclosed
        cases hfailure : s.persistenceFailure with
        | some failure => exact .inl ⟨_, _, .latched n failure hpending hopen hfailure⟩
        | none =>
          obtain ⟨head, rest, happends⟩ := List.exists_cons_of_ne_nil hqueued
          exact .inl ⟨_, _, .head n head hpending hopen hfailure (by rw [happends]; rfl)⟩
    · exact .inl ⟨_, _, .done n hpending⟩
  | calling n head => exact .inl ⟨_, _, .call n head⟩
  | answering n head => exact .inl ⟨_, _, .settle n head (.threw none) false (by rfl)⟩
  | firing n source => exact .inl ⟨_, _, .fire n source⟩
  | rechecking n => exact .inl ⟨_, _, .recheck n⟩
  | leaving n => exact .inl ⟨_, _, .leave n⟩
  | returning n c =>
    by_cases hreleased : s.shuttingDown = false ∨ s.appendTarget = false
    · exact .inr ⟨_, .returned n c hreleased⟩
    · rw [not_or, Bool.not_eq_false, Bool.not_eq_false] at hreleased
      exact .inl ⟨_, _, .again n c hreleased.1 hreleased.2⟩
  | draining => exact .inl ⟨_, _, .drain⟩
  | resetChecking =>
    cases hcheck : s.resetCheck with
    | error e => exact .inl ⟨_, _, .resetRefused e hcheck⟩
    | ok g => exact .inl ⟨_, _, .resetCheck g hcheck⟩
  | recovering g => exact .inl ⟨_, _, .recovered g⟩
  | clearing g =>
    cases hclear : s.resetClear g with
    | error e => exact .inl ⟨_, _, .clearRefused g e hclear⟩
    | ok s' => exact .inl ⟨_, _, .clear g s' hclear⟩
  | resetEnding result => exact .inl ⟨_, _, .resetEnd result⟩
  | reserving =>
    cases hreserve : s.reserveMaintenance with
    | error e => exact .inl ⟨_, _, .reserveRefused e hreserve⟩
    | ok s' => exact .inl ⟨_, _, .reserve s' hreserve⟩
  | unlocking => exact .inr ⟨s, .unlock⟩
  | _ => exact absurd hholds Bool.noConfusion

/-- **NO DEADLOCK.**  While a ticket is queued, a call in progress can go on: the one that has the
    append mutex, or the caller of the ticket, who can take it. -/
theorem TicketInv.progress (h : TicketInv w) (hqueued : w.state.appends ≠ []) :
    ∃ t w', w.threads t ≠ .idle ∧ StepOf t w w' := by
  cases hholder : w.holder with
  | some t =>
    have hholds : (w.threads t).holds = true := (h.locked t).mpr hholder
    have hbusy : w.threads t ≠ .idle := by
      intro hidle
      rw [hidle] at hholds
      cases hholds
    rcases holder_moves hholds hqueued with ⟨s', p', hheld⟩ | ⟨s', hunlock⟩
    · exact ⟨t, _, hbusy, .held s' p' hholder hheld⟩
    · exact ⟨t, _, hbusy, .unlock s' hholder hunlock⟩
  | none =>
    obtain ⟨k, rest, happends⟩ := List.exists_cons_of_ne_nil hqueued
    obtain ⟨t, ht⟩ := h.callers.caller k (by rw [happends]; exact List.mem_cons_self)
    have houtside : (w.threads t).holds = false := by
      rw [Bool.eq_false_iff]
      intro hholds
      rw [h.locked t, hholder] at hholds
      cases hholds
    have hplace : w.threads t = .queued k.id := by
      cases hp : w.threads t <;> rw [hp] at ht houtside <;> cases ht <;>
        first | rfl | cases houtside
    refine ⟨t, _, ?_, .lock (.driving k.id) hholder ?_⟩
    · rw [hplace]
      exact Place.noConfusion
    · rw [hplace]
      exact .drive k.id

end

/-! ## §7. The result. -/

/-- What holds of the tickets of a controller in every state. -/
structure AppendTickets (w : World) : Prop where
  /-- The target receives the tickets in the order of their admission, each at most once. -/
  order : w.state.received.Pairwise (· > ·)
  /-- A completion is terminal, and there are not two of them. -/
  terminal : ∀ x ∈ w.state.completed, x.2 ≠ .pending
  once : (w.state.completed.map Prod.fst).Nodup
  /-- An admitted ticket is complete, or it is queued and its caller still in the call. -/
  every : ∀ n < w.state.admitted, (∃ c, (n, c) ∈ w.state.completed) ∨
    (n ∈ w.state.appends.map Ticket.id ∧ ∃ t, (w.threads t).ticket = some n)
  /-- As long as one is queued, a call in progress can go on. -/
  progress : w.state.appends ≠ [] → ∃ t w', w.threads t ≠ .idle ∧ StepOf t w w'
  /-- A caller returns once, with the completion of its ticket. -/
  returned : ∀ x ∈ w.state.returned, x ∈ w.state.completed
  returnedOnce : (w.state.returned.map Prod.fst).Nodup
  bytes : w.state.appendBytes = (w.state.appends.map Ticket.bytes).sum
  /-- A ticket that fails for good takes all queued ones with it. -/
  failed : ∀ t w', StepOf t w w' → ∀ n failure,
    (n, .persistenceFailed failure) ∈ w'.state.completed →
    (n, .persistenceFailed failure) ∉ w.state.completed → FailedWith w.state w'.state failure
  /-- From then on no ticket reaches the target, until a reset succeeds. -/
  latched : ∀ t w', StepOf t w w' → ∀ failure, w.state.persistenceFailure = some failure →
    w'.state.received = w.state.received ∧
      (w'.state.persistenceFailure = some failure ∨
        ∃ g, w.threads t = .clearing g ∧ w'.threads t = .resetEnding (.ok ()))
  compaction : w.state.appends.countP Ticket.isCompaction ≤ 1
  reserved : w.state.maintenanceReserved = true →
    w.state.active = false ∧ w.state.appends = []

/-- A request to append one entry. -/
def oneEntry : Request :=
  { entries := [{ id := ascii "e", parentId := [], type := .userMessage, timestamp := []
                  dataJson := ascii "\x7b\x7d" }] }

/-- `s` is retired and idle, and nothing was taken up since `s₀`. -/
structure Retired (s₀ s : State) : Prop where
  retired : s.authorityRetired = true
  drained : s.appends = []
  inactive : s.active = false
  admitted : s.admitted = s₀.admitted
  generation : s.generation = s₀.generation
  received : s.received = s₀.received

section

variable {w w' : World} {s₀ s s' : State} {t : Nat} {p p' : Place}

theorem Retired.sweep (h : Retired s₀ s) (hsweep : Sweep s s') : Retired s₀ s' := by
  cases hsweep with
  | keep stopped target => exact { h with }
  | drain target =>
    rw [State.drain, h.drained]
    exact { h with }

theorem Retired.submit_ne_ok (h : Retired s₀ s) (r : Request) (bytes : Nat) :
    s.submit r bytes ≠ .ok s' := by
  simp [State.submit, h.retired]

theorem Retired.free (h : Retired s₀ s) (hfree : Free s p s' p') : Retired s₀ s' := by
  have hidle : s.active ≠ true := by
    rw [h.inactive]
    exact Bool.false_ne_true
  cases hfree with
  | submit r bytes _ _ hsubmit => exact absurd hsubmit (h.submit_ne_ok r bytes)
  | shutdown site =>
    unfold markShutdown
    split
    · exact h
    · exact { h with }
  | stop _ source | signal source => exact h.sweep (.fire s source)
  | retire reservation _ hretire =>
    obtain ⟨-, -, rfl⟩ := retireAuthority_eq_ok hretire
    exact { h with retired := rfl }
  | releaseReservation reservation =>
    unfold State.releaseReservation
    split
    · exact { h with }
    · exact h
  | admitRun requestId _ hadmission =>
    simp [State.admitRun, ite_error_eq_ok, h.retired] at hadmission
  | requestStop _ _ hstop => exact absurd (requestStop_eq_ok hstop).1 hidle
  | transition _ _ _ htransition => exact absurd (transition_eq_ok htransition).1 hidle
  | complete _ _ _ _ _ hcomplete => exact absurd (completeEnter_eq_ok hcomplete).1 hidle
  | release _ hactive => exact absurd hactive hidle
  | publish => exact { h with inactive := rfl }
  | waited => exact { h with }
  | giveUp | reset | waitOutcome => exact h

theorem Retired.step (h : Retired s₀ w.state) (htickets : TicketInv w) (hstep : StepOf t w w') :
    Retired s₀ w'.state := by
  cases hstep with
  | free s p _ hfree => exact h.free hfree
  | lock => exact h
  | held s p _ hheld =>
    have hok := htickets.places t
    have heffect := hheld.effect htickets.queue hok
    generalize w.threads t = q at heffect hok
    cases heffect with
    | submit r bytes _ hsubmit => exact absurd hsubmit (h.submit_ne_ok r bytes)
    | call | settle =>
      -- nobody is at the target, for the queue is empty
      have hhead := hok.1
      rw [h.drained] at hhead
      cases hhead
    | clear | reserve => exact { h with }
    | sweep hsweep => exact h.sweep hsweep
  | unlock s _ hunlock =>
    rcases hunlock.effect with ⟨n, c, -, rfl⟩ | ⟨rfl, -, -⟩
    · exact { h.sweep (.closeDown _) with }
    · exact h

end

end Ava.App
