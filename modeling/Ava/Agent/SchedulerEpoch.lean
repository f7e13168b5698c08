/-
  Ava.Agent.SchedulerEpoch
  **ONE EPOCH OF THE PARALLEL SCHEDULER.**  How the counters, the lists and the mutex of an
  epoch go together with its threads, however these interleave, and that an epoch never gets
  stuck: a sleeping main thread always has a worker left that will notify it.

    - §1 where workers are; §2 the shape of an epoch; §3 each step keeps the shape;
    - §4 an epoch is never stuck.
-/
import Ava.Agent.ToolScheduler
import Mathlib.Data.Finset.Card

namespace Ava.Agent.Scheduler

open Ava.Core Function

variable {β : Type}

/-! ## §1. Where workers are. -/

namespace Worker

/-- The result is in the shared vector. -/
def published : Worker β → Bool
  | .stored _ | .lowered | .unlocked | .gone => true
  | .unborn | .started | .running | .finishing _ => false

/-- The worker holds the mutex. -/
def holds : Worker β → Bool
  | .stored _ | .lowered => true
  | _ => false

/-- The worker has counted itself. -/
def counted : Worker β → Bool
  | .unlocked | .gone => true
  | _ => false

theorem published_of_counted {p : Worker β} (h : p.counted = true) : p.published = true := by
  cases p <;> first | rfl | cases h

theorem isGone_iff {p : Worker β} : p.isGone = true ↔ p = .gone := by
  cases p <;> simp [isGone]

end Worker

/-- What the main thread still has to look after. -/
def trackedOf : Main → List Nat → List Nat
  | .retire _ todo kept, _ => kept ++ todo
  | _, active => active

/-- The main thread is in its wait. -/
def Main.waits : Main → Bool
  | .enter | .asleep _ _ | .awake _ _ => true
  | _ => false

/-! ## §2. The shape of an epoch. -/

/-- **THE SHAPE OF AN EPOCH**: what the counters and lists say about the workers. -/
structure Shape (size : Nat) (e : Epoch β) : Prop where
  unborn : ∀ k, e.worker k = .unborn ↔ e.nextToLaunch ≤ k
  bound : e.nextToLaunch ≤ size
  spawning : e.main = .spawn → e.nextToLaunch < size
  stored : ∀ k, (e.results k).isSome = (e.worker k).published
  locked : ∀ k, (e.worker k).holds = true ↔ e.lock = some k
  completed : e.completed = ((Finset.range size).filter fun k => (e.worker k).counted).card
  tracked_lt : ∀ k ∈ trackedOf e.main e.active, k < e.nextToLaunch
  tracked : ∀ k < e.nextToLaunch, k ∈ trackedOf e.main e.active ∨ (e.results k).isSome = true
  waits : e.main.waits = true → e.active ≠ []
  asleep : ∀ completed mark, e.main = .asleep completed mark →
    ∃ k ∈ e.active, e.worker k ≠ .gone

theorem Shape.initial (size : Nat) : Shape size ({} : Epoch β) where
  unborn := fun k => ⟨fun _ => Nat.zero_le k, fun _ => rfl⟩
  bound := Nat.zero_le size
  spawning := nofun
  stored := fun _ => rfl
  locked := fun k => ⟨nofun, nofun⟩
  completed := by
    rw [Finset.filter_false_of_mem]
    · rfl
    · intro k _ hcounted
      cases hcounted
  tracked_lt := List.forall_mem_nil _
  tracked := fun k hk => absurd hk (Nat.not_lt_zero k)
  waits := nofun
  asleep := nofun

variable {maxWorkers : Nat} {external : Bool}

section

variable {size : Nat} {e : Epoch β}

variable {k : Nat}

/-- A worker that was launched is one of the epoch's. -/
theorem Shape.lt_of_born (h : Shape size e) (hborn : e.worker k ≠ .unborn) : k < size := by
  have hnext : ¬ e.nextToLaunch ≤ k := fun hle => hborn ((h.unborn k).mpr hle)
  have hbound := h.bound
  omega

/-- Once all are counted, all results are there. -/
theorem Shape.published_of_completed (h : Shape size e) (hfull : size ≤ e.completed)
    (hk : k < size) : (e.results k).isSome = true := by
  have hall : (Finset.range size).filter (fun k => (e.worker k).counted = true) = Finset.range size := by
    apply Finset.eq_of_subset_of_card_le (Finset.filter_subset _ _)
    rw [Finset.card_range, ← h.completed]
    exact hfull
  have hmem : k ∈ (Finset.range size).filter (fun k => (e.worker k).counted = true) := by
    rw [hall]
    exact Finset.mem_range.mpr hk
  rw [h.stored]
  exact Worker.published_of_counted (Finset.mem_filter.mp hmem).2

/-! ## §3. Each step keeps the shape. -/

/-- The jumps of the main thread: steps that change nothing but its place. -/
inductive Jump (maxWorkers size : Nat) (e : Epoch β) : Main → Prop
  | round (hm : e.main = .head) : Jump maxWorkers size e (.retire .first e.active [])
  | full (hm : e.main = .head) (hfull : size ≤ e.completed) : Jump maxWorkers size e .leaving
  | keep {pass : Pass} {k : Nat} {todo kept : List Nat} (hm : e.main = .retire pass (k :: todo) kept) :
      Jump maxWorkers size e (.retire pass todo (kept ++ [k]))
  | drop {pass : Pass} {k : Nat} {todo kept : List Nat} (hm : e.main = .retire pass (k :: todo) kept)
      (hsome : (e.results k).isSome = true) : Jump maxWorkers size e (.retire pass todo kept)
  | polled (hm : e.main = .pollStop) : Jump maxWorkers size e .pollCancel
  | canceled (hm : e.main = .pollCancel) (hcancel : e.cancelRequested = true) :
      Jump maxWorkers size e (.stopping .everybody e.active .canceled)
  | calm (hm : e.main = .pollCancel) : Jump maxWorkers size e (.loadMark .first)
  | load {pass : Pass} (hm : e.main = .loadMark pass) :
      Jump maxWorkers size e (.stopping (.behind e.stopAfter) e.active (.round pass))
  | stopped {kind : StopKind} {afterwards : Afterwards} (hm : e.main = .stopping kind [] afterwards) :
      Jump maxWorkers size e afterwards.next
  | launch (hm : e.main = .launch) (hcan : e.canLaunch maxWorkers size = true) :
      Jump maxWorkers size e .spawn
  | launched (hm : e.main = .launch) : Jump maxWorkers size e (.retire .second e.active [])
  | counted (hm : e.main = .check) (hfull : size ≤ e.completed) : Jump maxWorkers size e .leaving
  | unfinished (hm : e.main = .check) : Jump maxWorkers size e .relaunch
  | relaunch (hm : e.main = .relaunch) : Jump maxWorkers size e .head
  | idle (hm : e.main = .relaunch) : Jump maxWorkers size e .idleCheck
  | wait (hm : e.main = .idleCheck) (hactive : e.active ≠ []) : Jump maxWorkers size e .enter
  | again (hm : e.main = .idleCheck) : Jump maxWorkers size e .head
  | finished (hm : e.main = .idleCheck) (hactive : e.active = []) (hmay : e.mayLaunch size = false) :
      Jump maxWorkers size e .leaving
  | look {completed : Nat} {mark : Option Nat}
      (hm : e.main = .enter ∨ e.main = .awake completed mark) :
      Jump maxWorkers size e (if e.wakes completed mark then .head else .asleep completed mark)
  | leave (hm : e.main = .leaving) : Jump maxWorkers size e (.stopping .everybody e.active .left)

/-- **WHAT A STEP OF THE MAIN THREAD CAN BE.** -/
inductive MainEffect (maxWorkers size : Nat) (external : Bool) (e : Epoch β) : Epoch β → Prop
  | jump {main : Main} (hjump : Jump maxWorkers size e main) :
      MainEffect maxWorkers size external e (e.goto main)
  | endPass {pass : Pass} {kept : List Nat} (hm : e.main = .retire pass [] kept) :
      MainEffect maxWorkers size external e { e with active := kept, main := pass.next }
  | cancel (hm : e.main = .pollStop) (hexternal : external = true) :
      MainEffect maxWorkers size external e { e with cancelRequested := true, main := .pollCancel }
  | stopOne {kind : StopKind} {k : Nat} {todo : List Nat} {afterwards : Afterwards}
      (hm : e.main = .stopping kind (k :: todo) afterwards) :
      MainEffect maxWorkers size external e { e with
        stop := if kind.isFor k then update e.stop k true else e.stop
        main := .stopping kind todo afterwards }
  | spawn (hm : e.main = .spawn) :
      MainEffect maxWorkers size external e { e.move e.nextToLaunch .started with
        active := e.active ++ [e.nextToLaunch], nextToLaunch := e.nextToLaunch + 1
        main := .launch }
  | join (hm : e.main = .joining) (hgone : e.active.all (fun k => (e.worker k).isGone) = true) :
      MainEffect maxWorkers size external e { e with active := [], main := .exited }

variable {maxWorkers : Nat}

theorem mainStep_inv {external : Bool} {e' : Epoch β}
    (h : mainStep maxWorkers size external e = some e') :
    MainEffect maxWorkers size external e e' := by
  unfold mainStep at h
  split at h
  any_goals simp only [Option.ite_none_left_eq_some, Option.ite_none_right_eq_some,
    Option.some.injEq, reduceCtorEq] at h
  case h_3 hm =>
    obtain ⟨-, h⟩ := h
    split at h
    next =>
      obtain rfl := Option.some.inj h
      exact .jump (.keep hm)
    next hsome =>
      obtain ⟨-, ⟨⟩⟩ := Option.ite_none_right_eq_some.mp h
      exact .jump (.drop hm (by simpa [Option.isSome_iff_ne_none] using hsome))
  case h_4 hm =>
    split at h
    next hexternal =>
      obtain ⟨-, ⟨⟩⟩ := Option.ite_none_right_eq_some.mp h
      exact .cancel hm hexternal
    obtain rfl := Option.some.inj h
    exact .jump (.polled hm)
  case h_14 hm =>
    obtain ⟨-, rfl⟩ := h
    exact .jump (.look (.inl hm))
  case h_16 hm =>
    obtain ⟨-, rfl⟩ := h
    exact .jump (.look (.inr hm))
  case h_18 hm =>
    obtain ⟨hgone, rfl⟩ := h
    exact .join hm hgone
  all_goals subst h
  case h_1 hm =>
    split
    next => exact .jump (.round hm)
    next hfull => exact .jump (.full hm (Nat.not_lt.mp hfull))
  case h_2 hm => exact .endPass hm
  case h_5 hm =>
    split
    next hcancel => exact .jump (.canceled hm hcancel)
    next => exact .jump (.calm hm)
  case h_6 hm => exact .jump (.load hm)
  case h_7 hm => exact .jump (.stopped hm)
  case h_8 hm => exact .stopOne hm
  case h_9 hm =>
    split
    next hcan => exact .jump (.launch hm hcan)
    next => exact .jump (.launched hm)
  case h_10 hm => exact .spawn hm
  case h_11 hm =>
    split
    next hfull => exact .jump (.counted hm hfull)
    next => exact .jump (.unfinished hm)
  case h_12 hm =>
    split
    next => exact .jump (.relaunch hm)
    next => exact .jump (.idle hm)
  case h_13 hm =>
    split
    next hactive => exact .jump (.wait hm hactive)
    next hactive =>
      split
      next => exact .jump (.again hm)
      next hmay => exact .jump (.finished hm (not_not.mp hactive) (Bool.not_eq_true _ ▸ hmay))
  case h_17 hm => exact .jump (.leave hm)

variable (h : Shape size e)

include h

/-- A step of the main thread that launches nobody. -/
theorem Shape.of_main (e' : Epoch β) (hresults : e'.results = e.results)
    (hworker : e'.worker = e.worker) (hlock : e'.lock = e.lock)
    (hcompleted : e'.completed = e.completed) (hnext : e'.nextToLaunch = e.nextToLaunch)
    (hspawn : e'.main = .spawn → e.nextToLaunch < size)
    (hsub : ∀ k ∈ trackedOf e'.main e'.active, k ∈ trackedOf e.main e.active)
    (hcover : ∀ k ∈ trackedOf e.main e.active,
      k ∈ trackedOf e'.main e'.active ∨ (e.results k).isSome = true)
    (hwaits : e'.main.waits = true → e'.active ≠ [])
    (hasleep : ∀ completed mark, e'.main = .asleep completed mark →
      ∃ k ∈ e'.active, e.worker k ≠ .gone) : Shape size e' := by
  refine ⟨?_, ?_, ?_, ?_, ?_, ?_, ?_, ?_, hwaits, ?_⟩
  · rw [hworker, hnext]
    exact h.unborn
  · rw [hnext]
    exact h.bound
  · rw [hnext]
    exact hspawn
  · rw [hworker, hresults]
    exact h.stored
  · rw [hworker, hlock]
    exact h.locked
  · rw [hworker, hcompleted]
    exact h.completed
  · intro k hk
    rw [hnext]
    exact h.tracked_lt k (hsub k hk)
  · intro k hk
    rw [hnext] at hk
    rw [hresults]
    rcases h.tracked k hk with hmem | hsome
    · exact hcover k hmem
    · exact .inr hsome
  · rw [hworker]
    exact hasleep

/-- A jump that changes nothing the main thread looks after. -/
theorem Shape.goto {main : Main}
    (hspawn : main = .spawn → e.nextToLaunch < size)
    (hsame : trackedOf main e.active = trackedOf e.main e.active)
    (hwaits : main.waits = true → e.active ≠ [])
    (hasleep : ∀ completed mark, main = .asleep completed mark → ∃ k ∈ e.active, e.worker k ≠ .gone) :
    Shape size (e.goto main) := by
  refine h.of_main _ rfl rfl rfl rfl rfl hspawn ?_ ?_ hwaits hasleep
  · intro k hk
    rw [← hsame]
    exact hk
  · intro k hk
    rw [← hsame] at hk
    exact .inl hk

/-- Nothing new for the wait means that somebody is still at work. -/
theorem Shape.somebody_of_not_wakes {completed : Nat} {mark : Option Nat}
    (hquiet : e.wakes completed mark = false) (hactive : e.active ≠ []) :
    ∃ k ∈ e.active, e.worker k ≠ .gone := by
  obtain ⟨k, hk⟩ := List.exists_mem_of_ne_nil _ hactive
  refine ⟨k, hk, fun hgone => ?_⟩
  unfold Epoch.wakes at hquiet
  rw [Bool.or_eq_false_iff, List.any_eq_false] at hquiet
  apply hquiet.2 k hk
  rw [h.stored, hgone]
  rfl

/-- Two threads do not hold the mutex at once, and a free mutex is held by nobody. -/
theorem Shape.not_holds_of_free (hfree : e.lock = none) (k : Nat) :
    (e.worker k).holds = false := by
  by_contra hholds
  rw [Bool.not_eq_false, h.locked, hfree] at hholds
  cases hholds

/-- The look at the state in the wait. -/
theorem Shape.look {completed : Nat} {mark : Option Nat}
    (hplain : trackedOf e.main e.active = e.active) (hactive : e.active ≠ []) :
    Shape size (e.goto (if e.wakes completed mark then .head else .asleep completed mark)) := by
  split
  next => exact h.goto nofun hplain.symm nofun nofun
  next hquiet =>
    rw [Bool.not_eq_true] at hquiet
    exact h.goto nofun hplain.symm (fun _ => hactive)
      fun _ _ _ => h.somebody_of_not_wakes hquiet hactive

/-- The launch of a worker. -/
theorem Shape.spawn (hm : e.main = .spawn) :
    Shape size { e.move e.nextToLaunch .started with
      active := e.active ++ [e.nextToLaunch], nextToLaunch := e.nextToLaunch + 1
      main := .launch } := by
  have hunborn : e.worker e.nextToLaunch = .unborn := (h.unborn _).mpr (Nat.le_refl _)
  have hlt := h.spawning hm
  have hold : ∀ j, j ≠ e.nextToLaunch →
      (e.move e.nextToLaunch .started).worker j = e.worker j :=
    fun j hj => update_of_ne hj _ _
  have hnew : (e.move e.nextToLaunch .started).worker e.nextToLaunch = .started :=
    update_self _ _ _
  -- A worker that has just started looks like an unborn one, except that it is born.
  have hsame : ∀ (f : Worker β → Bool), f .started = f .unborn →
      ∀ j, f ((e.move e.nextToLaunch .started).worker j) = f (e.worker j) := by
    intro f hf j
    by_cases hj : j = e.nextToLaunch
    · rw [hj, hnew, hunborn, hf]
    · rw [hold j hj]
  refine ⟨?_, hlt, nofun, ?_, ?_, ?_, ?_, ?_, nofun, nofun⟩
  · intro j
    show (e.move e.nextToLaunch .started).worker j = _ ↔ e.nextToLaunch + 1 ≤ j
    by_cases hj : j = e.nextToLaunch
    · rw [hj, hnew]
      constructor
      · intro hstarted
        cases hstarted
      · intro hle
        omega
    · rw [hold j hj, h.unborn]
      omega
  · intro j
    show (e.results j).isSome = _
    rw [h.stored]
    exact (hsame Worker.published rfl j).symm
  · intro j
    show Worker.holds ((e.move e.nextToLaunch .started).worker j) = true ↔ _
    rw [hsame Worker.holds rfl j]
    exact h.locked j
  · show e.completed = ((Finset.range size).filter fun k =>
      Worker.counted ((e.move e.nextToLaunch .started).worker k) = true).card
    rw [h.completed]
    simp only [hsame Worker.counted rfl]
  · intro j hj
    show j < e.nextToLaunch + 1
    rcases List.mem_append.mp hj with hactive | hnext
    · have := h.tracked_lt j (by rw [hm]; exact hactive)
      omega
    · rw [List.mem_singleton] at hnext
      omega
  · intro j hj
    by_cases hj' : j = e.nextToLaunch
    · exact .inl (List.mem_append_right _ (by rw [hj']; exact List.mem_singleton_self _))
    · have hlt' : j < e.nextToLaunch := by
        change j < e.nextToLaunch + 1 at hj
        omega
      rcases h.tracked j hlt' with hmem | hsome
      · rw [hm] at hmem
        exact .inl (List.mem_append_left _ hmem)
      · exact .inr hsome

/-- A jump of the main thread keeps the shape. -/
theorem Shape.jump {main : Main}
    (hjump : Jump maxWorkers size e main) : Shape size (e.goto main) := by
  cases hjump with
  | keep hm => exact h.goto nofun (by rw [hm]; simp [trackedOf]) nofun nofun
  | drop hm hsome =>
    -- The worker that is taken away has a result, so it need not be looked after any more.
    refine h.of_main _ rfl rfl rfl rfl rfl nofun ?_ ?_ nofun nofun
    · intro j hj
      rw [hm]
      rcases List.mem_append.mp hj with hkept | htodo
      · exact List.mem_append_left _ hkept
      · exact List.mem_append_right _ (List.mem_cons_of_mem _ htodo)
    · intro j hj
      rw [hm] at hj
      rcases List.mem_append.mp hj with hkept | htodo
      · exact .inl (List.mem_append_left _ hkept)
      · rcases List.mem_cons.mp htodo with rfl | htodo
        · exact .inr hsome
        · exact .inl (List.mem_append_right _ htodo)
  | @stopped kind afterwards hm =>
    obtain ⟨hspawn, htracked, hwaits, hasleep⟩ : afterwards.next ≠ .spawn ∧
        trackedOf afterwards.next e.active = e.active ∧ ¬ afterwards.next.waits = true ∧
        ∀ completed mark, afterwards.next ≠ .asleep completed mark := by
      rcases afterwards with _ | (_ | _) | _ | _
      all_goals exact ⟨nofun, rfl, nofun, nofun⟩
    exact h.goto (fun hs => absurd hs hspawn) (by rw [hm]; exact htracked)
      (fun hw => absurd hw hwaits) fun completed mark hs => absurd hs (hasleep completed mark)
  | launch hm hcan =>
    refine h.goto (fun _ => ?_) (by rw [hm]; rfl) nofun nofun
    unfold Epoch.canLaunch Epoch.mayLaunch at hcan
    simp only [Bool.and_eq_true, decide_eq_true_eq] at hcan
    exact hcan.1.1.2
  | wait hm hactive => exact h.goto nofun (by rw [hm]; rfl) (fun _ => hactive) nofun
  | look hm =>
    rcases hm with hm | hm
    all_goals exact h.look (by rw [hm]; rfl) (h.waits (by rw [hm]; rfl))
  | round hm | full hm | polled hm | canceled hm | calm hm | load hm | launched hm | counted hm
  | unfinished hm | relaunch hm | idle hm | again hm | finished hm | leave hm =>
    exact h.goto nofun (by rw [hm]; rfl) nofun nofun

/-- **A STEP OF THE MAIN THREAD KEEPS THE SHAPE.** -/
theorem Shape.main {external : Bool} {e' : Epoch β}
    (hstep : mainStep maxWorkers size external e = some e') : Shape size e' := by
  cases mainStep_inv hstep with
  | jump hjump => exact h.jump hjump
  | @endPass pass kept hm =>
    have htracked : trackedOf e.main e.active = kept := by
      rw [hm]
      exact List.append_nil kept
    have hnext : trackedOf pass.next kept = kept := by cases pass <;> rfl
    refine h.of_main _ rfl rfl rfl rfl rfl ?_ ?_ ?_ ?_ ?_
    · intro hspawn
      cases pass <;> cases hspawn
    · intro k hk
      rw [htracked]
      exact hnext ▸ hk
    · intro k hk
      rw [htracked] at hk
      exact .inl (hnext.symm ▸ hk)
    · intro hwaits
      cases pass <;> cases hwaits
    · intro completed mark hasleep
      cases pass <;> cases hasleep
  | cancel hm | stopOne hm =>
    refine h.of_main _ rfl rfl rfl rfl rfl nofun ?_ ?_ nofun nofun
    · rw [hm]
      exact fun k hk => hk
    · rw [hm]
      exact fun k hk => .inl hk
  | spawn hm => exact h.spawn hm
  | join hm hgone =>
    refine h.of_main _ rfl rfl rfl rfl rfl nofun nofun ?_ nofun nofun
    -- Everybody who is joined has a result.
    rw [hm]
    intro k hk
    refine .inr ?_
    rw [h.stored, Worker.isGone_iff.mp (List.all_eq_true.mp hgone k hk)]
    rfl

/-- A step of a worker, by what it does to the mutex, the counter and its result. -/
theorem Shape.of_worker (k : Nat) (place : Worker β) (e' : Epoch β)
    (hborn : e.worker k ≠ .unborn) (hplace : place ≠ .unborn)
    (hworker : e'.worker = update e.worker k place)
    (hnext : e'.nextToLaunch = e.nextToLaunch) (hactive : e'.active = e.active)
    (hspawn : e'.main = .spawn → e.main = .spawn)
    (htracked : trackedOf e'.main e.active = trackedOf e.main e.active)
    (hwaits : e'.main.waits = true → e.main.waits = true)
    (hresult : (e'.results k).isSome = place.published)
    (hresults : ∀ j, j ≠ k → e'.results j = e.results j)
    (hgrows : (e.worker k).published = true → place.published = true)
    (hlocked : ∀ j, (update e.worker k place j).holds = true ↔ e'.lock = some j)
    (hcompleted : e'.completed =
      ((Finset.range size).filter fun j => (update e.worker k place j).counted).card)
    (hasleep : ∀ completed mark, e'.main = .asleep completed mark →
      e.main = .asleep completed mark ∧ place ≠ .gone) : Shape size e' := by
  have hself : update e.worker k place k = place := update_self _ _ _
  have hold : ∀ j, j ≠ k → update e.worker k place j = e.worker j :=
    fun j hj => update_of_ne hj _ _
  refine ⟨?_, ?_, ?_, ?_, ?_, ?_, ?_, ?_, ?_, ?_⟩
  · intro j
    rw [hworker, hnext]
    by_cases hj : j = k
    · subst hj
      rw [hself, ← h.unborn]
      exact ⟨fun hunborn => absurd hunborn hplace, fun hunborn => absurd hunborn hborn⟩
    · rw [hold j hj]
      exact h.unborn j
  · rw [hnext]
    exact h.bound
  · intro hm
    rw [hnext]
    exact h.spawning (hspawn hm)
  · intro j
    rw [hworker]
    by_cases hj : j = k
    · subst hj
      rw [hself, hresult]
    · rw [hold j hj, hresults j hj]
      exact h.stored j
  · rw [hworker]
    exact hlocked
  · rw [hworker]
    exact hcompleted
  · intro j hj
    rw [hactive, htracked] at hj
    rw [hnext]
    exact h.tracked_lt j hj
  · intro j hj
    rw [hnext] at hj
    rw [hactive, htracked]
    rcases h.tracked j hj with hmem | hsome
    · exact .inl hmem
    · by_cases hjk : j = k
      · subst hjk
        rw [h.stored] at hsome
        exact .inr (hresult.trans (hgrows hsome))
      · rw [hresults j hjk]
        exact .inr hsome
  · intro hm
    rw [hactive]
    exact h.waits (hwaits hm)
  · intro completed mark hm
    obtain ⟨hbefore, hnot⟩ := hasleep completed mark hm
    obtain ⟨j, hj, hjgone⟩ := h.asleep completed mark hbefore
    refine ⟨j, by rw [hactive]; exact hj, ?_⟩
    rw [hworker]
    by_cases hjk : j = k
    · subst hjk
      rw [hself]
      exact hnot
    · rw [hold j hjk]
      exact hjgone

omit h in
/-- A flag of the workers that a step does not change. -/
theorem flag_update (f : Worker β → Bool) (worker : Nat → Worker β) {place : Worker β}
    (hf : f place = f (worker k)) (j : Nat) :
    f (update worker k place j) = f (worker j) := by
  by_cases hj : j = k
  · subst hj
    rw [update_self, hf]
  · rw [update_of_ne hj]

/-- A step of a worker outside the mutex, or within it. -/
theorem Shape.move (k : Nat) (place : Worker β) (mark : Option Nat)
    (hborn : e.worker k ≠ .unborn) (hplace : place ≠ .unborn) (hgone : place ≠ .gone)
    (hpublished : place.published = (e.worker k).published)
    (hholds : place.holds = (e.worker k).holds) (hcounted : place.counted = (e.worker k).counted) :
    Shape size { e.move k place with stopAfter := mark } := by
  refine h.of_worker k place _ hborn hplace rfl rfl rfl id rfl id ?_ (fun _ _ => rfl) ?_ ?_ ?_ ?_
  · rw [hpublished]
    exact h.stored k
  · intro hbefore
    exact hpublished.trans hbefore
  · intro j
    rw [flag_update Worker.holds e.worker hholds]
    exact h.locked j
  · simp only [flag_update Worker.counted e.worker hcounted]
    exact h.completed
  · exact fun _ _ hm => ⟨hm, hgone⟩

/-- The worker takes the mutex and stores its result. -/
theorem Shape.store {result : Result β}
    (hfinishing : e.worker k = .finishing result) (hfree : e.lock = none) :
    Shape size { e.move k (.stored (!result.isOk)) with
      lock := some k, results := update e.results k (some result) } := by
  refine h.of_worker k (.stored (!result.isOk)) _ (by rw [hfinishing]; nofun) nofun rfl rfl rfl id rfl
    id ?_ ?_ ?_ ?_ ?_ ?_
  · show (update e.results k (some result) k).isSome = true
    rw [update_self]
    rfl
  · exact fun j hj => update_of_ne hj _ _
  · exact fun _ => rfl
  · intro j
    show _ ↔ some k = some j
    by_cases hj : j = k
    · subst hj
      rw [update_self]
      exact ⟨fun _ => rfl, fun _ => rfl⟩
    · -- The mutex was free, so nobody else is inside.
      rw [update_of_ne hj, h.not_holds_of_free hfree j]
      exact ⟨nofun, fun hk => absurd (Option.some.inj hk).symm hj⟩
  · have hcounted : (Worker.stored (!result.isOk) : Worker β).counted = (e.worker k).counted := by
      rw [hfinishing]
      rfl
    simp only [flag_update Worker.counted e.worker hcounted]
    exact h.completed
  · exact fun _ _ hm => ⟨hm, nofun⟩

/-- The worker counts itself and leaves the mutex. -/
theorem Shape.count (hlowered : e.worker k = .lowered) :
    Shape size { e.move k .unlocked with lock := none, completed := e.completed + 1 } := by
  have hborn : e.worker k ≠ .unborn := by
    rw [hlowered]
    nofun
  have hlock : e.lock = some k := (h.locked k).mp (by rw [hlowered]; rfl)
  refine h.of_worker k .unlocked _ hborn nofun rfl rfl rfl id rfl id ?_ (fun _ _ => rfl)
    (fun _ => rfl) ?_ ?_ (fun _ _ hm => ⟨hm, nofun⟩)
  · show (e.results k).isSome = true
    rw [h.stored, hlowered]
    rfl
  · intro j
    show _ ↔ none = some j
    by_cases hj : j = k
    · subst hj
      rw [update_self]
      exact ⟨nofun, nofun⟩
    · rw [update_of_ne hj, h.locked, hlock]
      exact ⟨fun hk => absurd (Option.some.inj hk).symm hj, nofun⟩
  · -- One more is counted: `k` was not.
    have hset : (Finset.range size).filter (fun j =>
          (update e.worker k .unlocked j).counted = true) =
        insert k ((Finset.range size).filter fun j => (e.worker j).counted = true) := by
      ext j
      rw [Finset.mem_insert, Finset.mem_filter, Finset.mem_filter]
      by_cases hj : j = k
      · subst hj
        rw [update_self]
        exact ⟨fun _ => .inl rfl, fun _ => ⟨Finset.mem_range.mpr (h.lt_of_born hborn), rfl⟩⟩
      · rw [update_of_ne hj]
        exact ⟨.inr, fun hmem => hmem.resolve_left hj⟩
    rw [hset, Finset.card_insert_of_notMem, ← h.completed]
    intro hmem
    rw [Finset.mem_filter, hlowered] at hmem
    cases hmem.2

/-- The worker notifies and is gone: a main thread that slept is awake. -/
theorem Shape.notify (hunlocked : e.worker k = .unlocked) :
    Shape size (e.move k .gone).notify := by
  obtain ⟨main, hnotify, hspawn, htracked, hwaits, hasleep⟩ : ∃ main,
      (e.move k .gone).notify = (e.move k .gone).goto main ∧ (main = .spawn → e.main = .spawn) ∧
        trackedOf main e.active = trackedOf e.main e.active ∧
        (main.waits = true → e.main.waits = true) ∧
        ∀ completed mark, main ≠ .asleep completed mark := by
    unfold Epoch.notify
    split
    next completed mark hm =>
      have hm : e.main = .asleep completed mark := hm
      exact ⟨_, rfl, nofun, by rw [hm]; rfl, fun _ => by rw [hm]; rfl, nofun⟩
    next hother => exact ⟨e.main, rfl, id, rfl, id, hother⟩
  rw [hnotify]
  refine h.of_worker k .gone _ (by rw [hunlocked]; nofun) nofun rfl rfl rfl hspawn htracked hwaits
    ?_ (fun _ _ => rfl) (fun _ => rfl) ?_ ?_ fun completed mark hm => absurd hm (hasleep completed mark)
  · show (e.results k).isSome = true
    rw [h.stored, hunlocked]
    rfl
  · intro j
    rw [flag_update Worker.holds e.worker (by rw [hunlocked]; rfl)]
    exact h.locked j
  · simp only [flag_update Worker.counted e.worker
      (show (Worker.gone : Worker β).counted = (e.worker k).counted by rw [hunlocked]; rfl)]
    exact h.completed

end

variable {size : Nat}

/-- A step of the main thread is a launch, or touches nothing the workers read or write but
    their stop tokens and the cancellation flag. -/
theorem mainStep_effect {maxWorkers size : Nat} {external : Bool} {e e' : Epoch β}
    (hstep : mainStep maxWorkers size external e = some e') :
    (e.main = .spawn ∧ e' = { e.move e.nextToLaunch .started with
        active := e.active ++ [e.nextToLaunch], nextToLaunch := e.nextToLaunch + 1
        main := .launch }) ∨
      ∃ main active stop cancel,
        e' = { e with main, active, stop, cancelRequested := cancel } ∧
          (external = false → cancel = e.cancelRequested) := by
  cases mainStep_inv hstep with
  | spawn hm => exact .inl ⟨hm, rfl⟩
  | cancel hm hexternal =>
    refine .inr ⟨_, e.active, e.stop, true, rfl, fun hfalse => ?_⟩
    rw [hfalse] at hexternal
    cases hexternal
  | jump | endPass | stopOne | join =>
    exact .inr ⟨_, _, _, e.cancelRequested, rfl, fun _ => rfl⟩

/-- **WHAT A STEP OF A WORKER CAN BE.** -/
inductive WorkerEffect (executor : Executor β) (slots : List ToolScheduleSlot) (k : Nat)
    (e : Epoch β) : Epoch β → Prop
  | refuse (hplace : e.worker k = .started) (hstop : e.stop k = true) :
      WorkerEffect executor slots k e
        (e.move k (.finishing (.error (schedulerCanceledError "worker_start"))))
  | begin (hplace : e.worker k = .started) :
      WorkerEffect executor slots k e (e.move k .running)
  | run (slot : ToolScheduleSlot) (hplace : e.worker k = .running) (hslot : slots[k]? = some slot) :
      WorkerEffect executor slots k e (e.move k (.finishing (executeGuardedWorker executor slot)))
  | store (result : Result β) (hplace : e.worker k = .finishing result) (hfree : e.lock = none) :
      WorkerEffect executor slots k e { e.move k (.stored (!result.isOk)) with
        lock := some k, results := update e.results k (some result) }
  | lower (failed : Bool) (hplace : e.worker k = .stored failed) :
      WorkerEffect executor slots k e { e.move k .lowered with
        stopAfter := if failed then lowerMark e.stopAfter k else e.stopAfter }
  | count (hplace : e.worker k = .lowered) :
      WorkerEffect executor slots k e
        { e.move k .unlocked with lock := none, completed := e.completed + 1 }
  | notify (hplace : e.worker k = .unlocked) :
      WorkerEffect executor slots k e (e.move k .gone).notify

section

variable {executor : Executor β} {slots : List ToolScheduleSlot} {k : Nat} {e e' : Epoch β}

theorem workerStep_effect (h : workerStep executor slots k e = some e') :
    WorkerEffect executor slots k e e' := by
  unfold workerStep at h
  split at h
  any_goals simp only [Option.ite_none_right_eq_some, Option.some.injEq, reduceCtorEq] at h
  next hplace =>
    split at h
    next hstop =>
      obtain rfl := Option.some.inj h
      exact .refuse hplace hstop
    obtain rfl := Option.some.inj h
    exact .begin hplace
  next hplace =>
    rw [Option.map_eq_some_iff] at h
    obtain ⟨slot, hslot, rfl⟩ := h
    exact .run slot hplace hslot
  next result hplace =>
    obtain ⟨hfree, rfl⟩ := h
    exact .store result hplace hfree
  next failed hplace =>
    subst h
    exact .lower failed hplace
  next hplace =>
    subst h
    exact .count hplace
  next hplace =>
    subst h
    exact .notify hplace

/-- **A STEP OF A WORKER KEEPS THE SHAPE.** -/
theorem Shape.worker (h : Shape size e) (hstep : workerStep executor slots k e = some e') :
    Shape size e' := by
  cases workerStep_effect hstep with
  | refuse hplace | begin hplace | run slot hplace =>
    exact h.move k _ e.stopAfter (by rw [hplace]; nofun) nofun nofun (by rw [hplace]; rfl)
      (by rw [hplace]; rfl) (by rw [hplace]; rfl)
  | store result hplace hfree => exact h.store hplace hfree
  | lower failed hplace =>
    exact h.move k _ _ (by rw [hplace]; nofun) nofun nofun (by rw [hplace]; rfl)
      (by rw [hplace]; rfl) (by rw [hplace]; rfl)
  | count hplace => exact h.count hplace
  | notify hplace => exact h.notify hplace

/-- A spurious wake-up keeps the shape. -/
theorem Shape.spurious (h : Shape size e) (hstep : spuriousStep e = some e') :
    Shape size e' := by
  unfold spuriousStep at hstep
  split at hstep
  next completed mark hm =>
    obtain ⟨-, ⟨⟩⟩ := Option.ite_none_right_eq_some.mp hstep
    exact h.goto nofun (by rw [hm]; rfl) nofun nofun
  next => cases hstep

/-! ## §4. An epoch is never stuck. -/

/-- A worker that is neither unborn nor gone can take a step, unless it waits for the mutex. -/
theorem workerStep_of_live (hborn : e.worker k ≠ .unborn) (hgone : e.worker k ≠ .gone)
    (hk : k < slots.length) (hlocked : (e.worker k).holds = true ∨ e.lock = none) :
    ∃ e', workerStep executor slots k e = some e' := by
  unfold workerStep
  cases hplace : e.worker k with
  | unborn => exact absurd hplace hborn
  | started =>
    by_cases hstop : e.stop k = true
    · exact ⟨_, if_pos hstop⟩
    · exact ⟨_, if_neg hstop⟩
  | running =>
    rw [List.getElem?_eq_getElem hk]
    exact ⟨_, rfl⟩
  | finishing result =>
    rcases hlocked with hholds | hlock
    · rw [hplace] at hholds
      cases hholds
    · exact ⟨_, if_pos hlock⟩
  | stored | lowered | unlocked => exact ⟨_, rfl⟩
  | gone => exact absurd hplace hgone

/-- With the mutex free and every worker gone, the main thread goes on. -/
theorem mainStep_of_all_gone (h : Shape slots.length e) (hfree : e.lock = none)
    (hall : ∀ j < e.nextToLaunch, e.worker j = .gone) (hopen : e.main ≠ .exited) :
    ∃ e', mainStep maxWorkers slots.length external e = some e' := by
  unfold mainStep
  cases hm : e.main with
  | head | pollCancel | loadMark | launch | spawn | check | relaunch | idleCheck | leaving =>
    exact ⟨_, rfl⟩
  | retire pass todo kept =>
    cases todo with
    | nil => exact ⟨_, rfl⟩
    | cons j todo =>
      have hgone : e.worker j = .gone := by
        refine hall j (h.tracked_lt j ?_)
        rw [hm]
        exact List.mem_append_right _ List.mem_cons_self
      dsimp only
      rw [if_neg (fun hlock => hlock hfree), hgone]
      split
      next => exact ⟨_, rfl⟩
      next => exact ⟨_, rfl⟩
  | pollStop =>
    dsimp only
    rw [if_pos hfree]
    split
    next => exact ⟨_, rfl⟩
    next => exact ⟨_, rfl⟩
  | stopping kind todo afterwards =>
    cases todo with
    | nil | cons j todo => exact ⟨_, rfl⟩
  | enter | awake completed mark => exact ⟨_, if_pos hfree⟩
  | asleep completed mark =>
    -- Somebody has not notified yet, and would be gone if they had.
    obtain ⟨j, hj, hnot⟩ := h.asleep completed mark hm
    exact absurd (hall j (h.tracked_lt j (by rw [hm]; exact hj))) hnot
  | joining =>
    refine ⟨_, if_pos ?_⟩
    rw [List.all_eq_true]
    intro j hj
    exact Worker.isGone_iff.mpr (hall j (h.tracked_lt j (by rw [hm]; exact hj)))
  | exited => exact absurd hm hopen

/-- **AN EPOCH IS NEVER STUCK.** -/
theorem Shape.progress (executor : Executor β) (h : Shape slots.length e)
    (hopen : e.main ≠ .exited) :
    (∃ e', mainStep maxWorkers slots.length external e = some e') ∨
      ∃ k e', workerStep executor slots k e = some e' := by
  cases hlock : e.lock with
  | some k =>
    -- Whoever holds the mutex goes on.
    have hholds : (e.worker k).holds = true := (h.locked k).mpr hlock
    have hborn : e.worker k ≠ .unborn := fun hp => by rw [hp] at hholds; cases hholds
    have hgone : e.worker k ≠ .gone := fun hp => by rw [hp] at hholds; cases hholds
    exact .inr ⟨k, workerStep_of_live hborn hgone (h.lt_of_born hborn) (.inl hholds)⟩
  | none =>
    by_cases hall : ∀ j < e.nextToLaunch, e.worker j = .gone
    · exact .inl (mainStep_of_all_gone h hlock hall hopen)
    · rw [not_forall] at hall
      obtain ⟨k, hk⟩ := hall
      rw [Classical.not_imp] at hk
      have hborn : e.worker k ≠ .unborn := fun hp => by
        have := (h.unborn k).mp hp
        omega
      exact .inr ⟨k, workerStep_of_live hborn hk.2 (h.lt_of_born hborn) (.inr hlock)⟩

end

end Ava.Agent.Scheduler
