/-
  Ava.Lib.Transition
  **RUNS OF A STEP RELATION.**  States that are reached from an initial one by steps, the rule
  that an inductive property holds in all of them, runs of a step function along a list of
  events, and states from which every run comes to a goal.  Of many threads one moves at a time.
-/
import Mathlib.Logic.Function.Basic

namespace Ava.Lib

/-- One of many parts has moved: it is that one, or another one that is as it was. -/
theorem update_eq_cases {ι α : Type*} [DecidableEq ι] {f : ι → α} {i j : ι} {a b : α}
    (h : Function.update f i a j = b) : (j = i ∧ a = b) ∨ (j ≠ i ∧ f j = b) := by
  rw [Function.update_apply] at h
  split at h
  next hj => exact .inl ⟨hj, h⟩
  next hj => exact .inr ⟨hj, h⟩

/-- The states that steps lead to from an initial one. -/
inductive Reach {σ : Type*} (init : σ → Prop) (step : σ → σ → Prop) : σ → Prop
  | start {s : σ} (hinit : init s) : Reach init step s
  | step {s s' : σ} (hreach : Reach init step s) (hstep : step s s') : Reach init step s'

section

variable {σ : Type*} {init : σ → Prop} {step : σ → σ → Prop} {P : σ → Prop} {s : σ}

/-- **THE INVARIANT RULE.** -/
theorem Reach.invariant (h : Reach init step s) (hinit : ∀ s, init s → P s)
    (hkeep : ∀ s s', P s → step s s' → P s') : P s := by
  induction h with
  | start h => exact hinit _ h
  | step hreach hstep ih => exact hkeep _ _ ih hstep

end

/-- A list of events, each of which has to be possible. -/
def runAll {σ ε : Type*} (next : σ → ε → Option σ) : σ → List ε → Option σ
  | s, [] => some s
  | s, e :: events => (next s e).bind fun s' => runAll next s' events

/-- Where a list of events leads is reached. -/
theorem Reach.runAll {σ ε : Type*} {init : σ → Prop} {step : σ → σ → Prop}
    {next : σ → ε → Option σ} (hnext : ∀ s e s', next s e = some s' → step s s') :
    ∀ {events : List ε} {s s' : σ}, Reach init step s → Lib.runAll next s events = some s' →
      Reach init step s' := by
  intro events
  induction events with
  | nil =>
    intro s s' hs hrun
    cases hrun
    exact hs
  | cons e events ih =>
    intro s s' hs hrun
    rw [Lib.runAll, Option.bind_eq_some_iff] at hrun
    obtain ⟨t, ht, hrest⟩ := hrun
    exact ih (hs.step (hnext _ _ _ ht)) hrest

/-- **EVERY RUN COMES TO A GOAL.**  Before it does, the system can take a step of its own, and
    no sequence of steps, its own or not, goes on for ever. -/
inductive Inevitably {σ : Type*} (own step : σ → σ → Prop) (goal : σ → Prop) : σ → Prop
  | goal {s : σ} (hgoal : goal s) : Inevitably own step goal s
  | step {s : σ} (hown : ∃ s', own s s') (hnext : ∀ s', step s s' → Inevitably own step goal s') :
      Inevitably own step goal s

/-- The rule: an invariant under which there is always a step, and no infinite run. -/
theorem Inevitably.of_acc {σ : Type*} {own step : σ → σ → Prop} {goal I : σ → Prop} {s : σ}
    (hacc : Acc (fun s' s => step s s') s) (hinv : I s) (hkeep : ∀ s s', I s → step s s' → I s')
    (hprogress : ∀ s, I s → goal s ∨ ∃ s', own s s') : Inevitably own step goal s := by
  induction hacc with
  | intro s _ ih =>
    rcases hprogress s hinv with hgoal | hown
    · exact .goal hgoal
    · exact .step hown fun s' hstep => ih s' hstep (hkeep s s' hinv hstep)

end Ava.Lib
