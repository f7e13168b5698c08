/-
  Ava.Agent.SchedulerEnds
  **AN EPOCH ENDS.**  The workers have only so many steps to take.  While none of them moves, the
  main thread can go round its loop once more at most: at the head it takes away everybody who
  has finished, and then it launches somebody or has nothing left to do but sleep.

  No fairness is assumed: there is no infinite run at all, however the threads interleave and
  however often the wait wakes up for no reason.

    - §1 the work that is left; §2 undisturbed epochs;
    - §3 the way of the main thread; §4 the measure.
-/
import Ava.Agent.SchedulerEpoch
import Mathlib.Algebra.BigOperators.Group.Finset.Basic
import Mathlib.Algebra.Order.BigOperators.Group.Finset
import Mathlib.Data.Prod.Lex

namespace Ava.Agent.Scheduler

open Ava.Core Function

variable {β : Type}

/-! ## §1. The work that is left. -/

/-- How many steps a worker has left, its launch included. -/
def Worker.left : Worker β → Nat
  | .unborn => 7
  | .started => 6
  | .running => 5
  | .finishing _ => 4
  | .stored _ => 3
  | .lowered => 2
  | .unlocked => 1
  | .gone => 0

/-- How many steps the workers have left. -/
def work (size : Nat) (e : Epoch β) : Nat := ∑ k ∈ Finset.range size, (e.worker k).left

variable {size maxWorkers : Nat}

section

variable {executor : Executor β} {slots : List ToolScheduleSlot} {k : Nat} {e e' : Epoch β}

/-- A worker that moves on has less left to do, and so has the epoch. -/
theorem work_update_lt {worker : Nat → Worker β} {place : Worker β} (hk : k < size)
    (hleft : place.left < (worker k).left) :
    ∑ j ∈ Finset.range size, (update worker k place j).left <
      ∑ j ∈ Finset.range size, (worker j).left := by
  apply Finset.sum_lt_sum
  · intro j _
    by_cases hj : j = k
    · subst hj
      rw [update_self]
      exact Nat.le_of_lt hleft
    · rw [update_of_ne hj]
  · exact ⟨k, Finset.mem_range.mpr hk, by rw [update_self]; exact hleft⟩

theorem work_worker_lt (h : Shape size e) (hstep : workerStep executor slots k e = some e') :
    work size e' < work size e := by
  have hlt : ∀ {place : Worker β}, e.worker k = place → place ≠ .unborn → k < size := by
    intro place hplace hborn
    exact h.lt_of_born (by rw [hplace]; exact hborn)
  cases workerStep_effect hstep with
  | refuse hplace hstop => exact work_update_lt (hlt hplace nofun) (by simp [hplace, Worker.left])
  | begin hplace => exact work_update_lt (hlt hplace nofun) (by simp [hplace, Worker.left])
  | run slot hplace hslot => exact work_update_lt (hlt hplace nofun) (by simp [hplace, Worker.left])
  | store result hplace hfree => exact work_update_lt (hlt hplace nofun) (by simp [hplace, Worker.left])
  | lower failed hplace => exact work_update_lt (hlt hplace nofun) (by simp [hplace, Worker.left])
  | count hplace => exact work_update_lt (hlt hplace nofun) (by simp [hplace, Worker.left])
  | notify hplace =>
    have hworker : (e.move k .gone).notify.worker = update e.worker k .gone := by
      unfold Epoch.notify
      split <;> rfl
    unfold work
    rw [hworker]
    exact work_update_lt (hlt hplace nofun) (by simp [hplace, Worker.left])

/-- A step of the main thread that launches nobody leaves the workers alone. -/
theorem mainStep_worker {external : Bool} (hspawn : e.main ≠ .spawn)
    (hstep : mainStep maxWorkers size external e = some e') : e'.worker = e.worker := by
  obtain ⟨hm, -⟩ | ⟨main, active, stop, cancel, rfl, -⟩ := mainStep_effect hstep
  · exact absurd hm hspawn
  · rfl

end

/-! ## §2. Undisturbed epochs. -/

/-- A step of an epoch that nobody asks to stop. -/
inductive EpochMove (maxWorkers : Nat) (executor : Executor β) (slots : List ToolScheduleSlot)
    (e e' : Epoch β) : Prop
  | main (hstep : mainStep maxWorkers slots.length false e = some e')
  | worker (k : Nat) (hstep : workerStep executor slots k e = some e')
  | spurious (hstep : spuriousStep e = some e')

/-- What the end of an epoch rests on. -/
structure Undisturbed (slots : List ToolScheduleSlot) (e : Epoch β) : Prop where
  shape : Shape slots.length e
  calm : e.cancelRequested = false

variable {e e' : Epoch β}

theorem mainStep_cancelRequested (hstep : mainStep maxWorkers size false e = some e') :
    e'.cancelRequested = e.cancelRequested := by
  obtain ⟨-, rfl⟩ | ⟨main, active, stop, cancel, rfl, hcancel⟩ := mainStep_effect hstep
  · rfl
  · exact hcancel rfl

variable {executor : Executor β} {slots : List ToolScheduleSlot}

theorem workerStep_cancelRequested {k : Nat} (hstep : workerStep executor slots k e = some e') :
    e'.cancelRequested = e.cancelRequested := by
  cases workerStep_effect hstep with
  | notify hplace =>
    unfold Epoch.notify
    split <;> rfl
  | _ => rfl

theorem spuriousStep_eq (hstep : spuriousStep e = some e') :
    e' = e.goto .head ∧ ∃ completed mark, e.main = .asleep completed mark ∧
      e.wakes completed mark = true := by
  unfold spuriousStep at hstep
  split at hstep
  next completed mark hm =>
    split at hstep
    next hwakes => exact ⟨(Option.some.inj hstep).symm, completed, mark, hm, hwakes.2⟩
    next => cases hstep
  next => cases hstep

theorem Undisturbed.move
    (h : Undisturbed slots e) (hmove : EpochMove maxWorkers executor slots e e') :
    Undisturbed slots e' := by
  cases hmove with
  | main hstep => exact ⟨h.shape.main hstep, (mainStep_cancelRequested hstep).trans h.calm⟩
  | worker k hstep => exact ⟨h.shape.worker hstep, (workerStep_cancelRequested hstep).trans h.calm⟩
  | spurious hstep =>
    refine ⟨h.shape.spurious hstep, ?_⟩
    rw [(spuriousStep_eq hstep).1]
    exact h.calm

/-! ## §3. The way of the main thread. -/

/-- The places of the main thread in the order it goes through them, backwards: its loop from the
    head to the wait, and below it the way out. -/
def Main.rank : Main → Nat
  | .awake _ _ => 22
  | .head => 21
  | .retire .first _ _ => 20
  | .pollStop => 19
  | .pollCancel => 18
  | .stopping _ _ .canceled => 17
  | .loadMark .first => 16
  | .stopping _ _ (.round .first) => 15
  | .launch => 14
  | .spawn => 13
  | .retire .second _ _ => 12
  | .loadMark .second => 11
  | .stopping _ _ (.round .second) => 10
  | .check => 9
  | .relaunch => 8
  | .idleCheck => 7
  | .enter => 6
  | .asleep _ _ => 5
  | .stopping _ _ .failed => 4
  | .leaving => 3
  | .stopping _ _ .left => 2
  | .joining => 1
  | .exited => 0

/-- How many workers the pass at this place has still to look at. -/
def Main.todo : Main → Nat
  | .retire _ todo _ | .stopping _ todo _ => todo.length
  | _ => 0

/-- Nobody the main thread looks after has finished. -/
def Clean (e : Epoch β) : Prop := ∀ k ∈ e.active, e.results k = none

/-- Nor can anybody be launched. -/
def Still (maxWorkers size : Nat) (e : Epoch β) : Prop :=
  Clean e ∧ e.canLaunch maxWorkers size = false

@[simp] theorem goto_main (e : Epoch β) (main : Main) : (e.goto main).main = main := rfl

@[simp] theorem clean_goto {main : Main} : Clean (e.goto main) ↔ Clean e := Iff.rfl

@[simp] theorem still_goto {main : Main} :
    Still maxWorkers size (e.goto main) ↔ Still maxWorkers size e := Iff.rfl

/-- What the main thread has seen to on the round it is on: the first pass takes away everybody who
    has finished, and behind `launch` nobody can be launched.  A round that has seen to that
    does not come back to the head before a worker moves. -/
def Settled (maxWorkers size : Nat) (e : Epoch β) : Prop :=
  match e.main with
  | .retire .first _ kept => ∀ k ∈ kept, e.results k = none
  | .pollStop | .pollCancel | .stopping _ _ .canceled | .loadMark .first
  | .stopping _ _ (.round .first) | .launch => Clean e
  | .retire .second todo kept => kept ++ todo = e.active ∧ Still maxWorkers size e
  | .loadMark .second | .stopping _ _ (.round .second) | .check | .relaunch | .idleCheck
  | .enter => Still maxWorkers size e
  | .asleep completed mark => e.wakes completed mark = false
  | .awake _ _ => False
  | _ => True

/-- The main thread goes on, and stays settled. -/
def Onward (maxWorkers size : Nat) (e e' : Epoch β) : Prop :=
  (e'.main.rank < e.main.rank ∨ e'.main.rank = e.main.rank ∧ e'.main.todo < e.main.todo) ∧
    (Settled maxWorkers size e → Settled maxWorkers size e')

/-- The main thread starts a new round, which it only does unsettled. -/
def Again (maxWorkers size : Nat) (e e' : Epoch β) : Prop :=
  e'.main = .head ∧ 5 ≤ e.main.rank ∧ ¬ Settled maxWorkers size e

/-- With nothing finished and nothing asked for, the wait does not wake up. -/
theorem Clean.not_wakes (h : Clean e) (hcalm : e.cancelRequested = false) :
    e.wakes e.completed e.stopAfter = false := by
  unfold Epoch.wakes
  rw [hcalm, bne_self_eq_false, bne_self_eq_false, Bool.false_or, Bool.false_or, Bool.false_or,
    List.any_eq_false]
  intro k hk
  rw [h k hk]
  nofun

/-- With nobody active there is room, so it is the cut-offs that forbid a launch. -/
theorem Still.not_mayLaunch (h : Still maxWorkers size e) (hmax : 0 < maxWorkers)
    (hactive : e.active = []) : e.mayLaunch size = false := by
  have hcan := h.2
  unfold Epoch.canLaunch at hcan
  rw [hactive, List.length_nil, decide_eq_true hmax, Bool.and_true] at hcan
  exact hcan

/-- **THE MAIN THREAD GOES ON**, or starts a round in which it has something to see to. -/
theorem mainStep_onward (hmax : 0 < maxWorkers) (hcalm : e.cancelRequested = false)
    (hspawn : e.main ≠ .spawn) (hstep : mainStep maxWorkers size false e = some e') :
    Onward maxWorkers size e e' ∨ Again maxWorkers size e e' := by
  unfold Onward Again Settled
  cases hm : e.main
  -- a thread that sleeps or has exited does not step
  all_goals simp only [mainStep, hm, Bool.false_eq_true, if_false, Option.ite_none_right_eq_some,
    Option.some.injEq, reduceCtorEq] at hstep
  case spawn => exact absurd hm hspawn
  case pollStop | leaving =>
    subst hstep
    simp [Main.rank]
  case head | pollCancel | check =>
    subst hstep
    split <;> simp [Main.rank]
  case loadMark pass =>
    subst hstep
    cases pass <;> simp [Main.rank]
  case launch =>
    subst hstep
    split
    next => simp [Main.rank]
    next hcan =>
      rw [Bool.not_eq_true] at hcan
      exact .inl ⟨.inl (by simp [Main.rank]), fun hclean => ⟨rfl, hclean, hcan⟩⟩
  case relaunch =>
    subst hstep
    split
    next hcan => simp [Main.rank, Still, hcan]
    next => simp [Main.rank]
  case idleCheck =>
    subst hstep
    split
    next => simp [Main.rank]
    next hactive =>
      split
      next hmay =>
        refine .inr ⟨rfl, by decide, fun hstill => ?_⟩
        rw [hstill.not_mayLaunch hmax (not_not.mp hactive)] at hmay
        cases hmay
      next => simp [Main.rank]
  case enter =>
    obtain ⟨-, rfl⟩ := hstep
    split
    next hwakes =>
      refine .inr ⟨rfl, by decide, fun hstill => ?_⟩
      rw [hstill.1.not_wakes hcalm] at hwakes
      cases hwakes
    next hquiet =>
      rw [Bool.not_eq_true] at hquiet
      exact .inl ⟨.inl (by simp [Main.rank]), fun _ => hquiet⟩
  case awake completed mark =>
    obtain ⟨-, rfl⟩ := hstep
    split <;> simp [Main.rank]
  case joining =>
    obtain ⟨-, rfl⟩ := hstep
    simp [Main.rank]
  case stopping kind todo afterwards =>
    left
    cases todo with
    | nil =>
      cases hstep
      rcases afterwards with _ | (_ | _) | _ | _
      all_goals simp [Afterwards.next, Main.rank]
    | cons k todo =>
      cases hstep
      refine ⟨.inr ⟨by rcases afterwards with _ | (_ | _) | _ | _ <;> rfl, by simp [Main.todo]⟩, ?_⟩
      rcases afterwards with _ | (_ | _) | _ | _
      all_goals exact id
  case retire pass todo kept =>
    left
    cases todo with
    | nil =>
      cases hstep
      cases pass with
      | first => simp [Pass.next, Main.rank, Clean]
      | second =>
        refine ⟨.inl (by simp [Pass.next, Main.rank]), ?_⟩
        rintro ⟨hactive, hstill⟩
        rw [List.append_nil] at hactive
        subst hactive
        exact hstill
    | cons k todo =>
      dsimp only at hstep
      split at hstep
      next => cases hstep
      split at hstep
      next hnone =>
        obtain rfl := Option.some.inj hstep
        refine ⟨.inr ⟨by cases pass <;> rfl, by simp [Main.todo]⟩, ?_⟩
        cases pass with
        | first =>
          intro hkept j hj
          obtain hold | hnew := List.mem_append.mp hj
          · exact hkept j hold
          · rw [List.mem_singleton.mp hnew]
            exact Option.isNone_iff_eq_none.mp hnone
        | second =>
          rintro ⟨hactive, hstill⟩
          exact ⟨(List.append_assoc kept [k] todo).trans hactive, hstill⟩
      next hsome =>
        simp only [Option.ite_none_right_eq_some, Option.some.injEq] at hstep
        obtain ⟨-, rfl⟩ := hstep
        refine ⟨.inr ⟨by cases pass <;> rfl, by simp [Main.todo]⟩, ?_⟩
        cases pass with
        | first => exact id
        | second =>
          rintro ⟨hactive, hclean, -⟩
          have hk := hclean k (by simp [← hactive])
          simp [hk] at hsome

/-! ## §4. The measure. -/

open Classical in
/-- The way that is left: a round that is not settled comes after all that are. -/
noncomputable def way (maxWorkers size : Nat) (e : Epoch β) : Nat :=
  e.main.rank + if Settled maxWorkers size e then 0 else 17

/-- What is left of an epoch: the work of the workers, and while they stand still the way of the
    main thread. -/
noncomputable def remaining (maxWorkers size : Nat) (e : Epoch β) : ℕ ×ₗ ℕ ×ₗ ℕ :=
  toLex (work size e, toLex (way maxWorkers size e, e.main.todo))

theorem remaining_lt_of_work (h : work size e' < work size e) :
    remaining maxWorkers size e' < remaining maxWorkers size e :=
  Prod.Lex.toLex_lt_toLex.mpr (.inl h)

theorem remaining_lt_of_way (hwork : e'.worker = e.worker)
    (h : Onward maxWorkers size e e' ∨ Again maxWorkers size e e') :
    remaining maxWorkers size e' < remaining maxWorkers size e := by
  refine Prod.Lex.toLex_lt_toLex.mpr (.inr ⟨by simp only [work, hwork], ?_⟩)
  rw [Prod.Lex.toLex_lt_toLex]
  unfold way
  obtain ⟨hrank, hsettled⟩ | ⟨hhead, hrank, hsettled⟩ := h
  · by_cases h : Settled maxWorkers size e
    · simp only [if_pos h, if_pos (hsettled h)]
      omega
    · rw [if_neg h]
      split <;> simp only <;> omega
  · have hfresh : Settled maxWorkers size e' := by simp [Settled, hhead]
    rw [if_neg hsettled, if_pos hfresh, hhead]
    left
    show 21 + 0 < _
    omega

/-- **EVERY MOVE LEAVES LESS.** -/
theorem remaining_lt (hmax : 0 < maxWorkers)
    (h : Undisturbed slots e) (hmove : EpochMove maxWorkers executor slots e e') :
    remaining maxWorkers slots.length e' < remaining maxWorkers slots.length e := by
  cases hmove with
  | main hstep =>
    by_cases hm : e.main = .spawn
    · simp only [mainStep, hm, Option.some.injEq] at hstep
      subst hstep
      refine remaining_lt_of_work (work_update_lt (h.shape.spawning hm) ?_)
      rw [(h.shape.unborn _).mpr (Nat.le_refl _)]
      simp [Worker.left]
    · exact remaining_lt_of_way (mainStep_worker hm hstep) (mainStep_onward hmax h.calm hm hstep)
  | worker k hstep => exact remaining_lt_of_work (work_worker_lt h.shape hstep)
  | spurious hstep =>
    obtain ⟨rfl, completed, mark, hm, hwakes⟩ := spuriousStep_eq hstep
    refine remaining_lt_of_way rfl (.inr ⟨rfl, by simp [hm, Main.rank], ?_⟩)
    simp [Settled, hm, hwakes]

/-- **AN EPOCH ENDS**, whatever its threads do. -/
theorem epoch_ends {maxWorkers : Nat} {e : Epoch β}
    (executor : Executor β) (hmax : 0 < maxWorkers) (h : Undisturbed slots e) :
    Acc (fun e' e => EpochMove maxWorkers executor slots e e') e := by
  induction hleft : remaining maxWorkers slots.length e using WellFoundedLT.induction
    generalizing e with
  | ind left ih =>
    constructor
    intro e' hmove
    exact ih _ (hleft ▸ remaining_lt hmax h hmove) (h.move hmove) rfl

end Ava.Agent.Scheduler
