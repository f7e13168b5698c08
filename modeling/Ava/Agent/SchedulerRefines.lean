/-
  Ava.Agent.SchedulerRefines
  **THE PARALLEL SCHEDULER RETURNS WHAT THE SEQUENTIAL ONE RETURNS.**  However the threads of
  its epochs interleave, it comes to an end with the outcomes in provider order, or with the
  error of the first slot that fails.

  In an epoch results may be missing or be cancellations, but never in front of the first
  failure: a worker is stopped, or not launched, only behind a slot that has failed.

    - §1 what the results of an epoch are; §2 each step keeps it; §3 collecting;
    - §4 whole schedules; §5 the refinement; §6 runs with faults; §7 threads.
-/
import Ava.Agent.SchedulerEnds
import Ava.Lib.Transition

namespace Ava.Agent.Scheduler

open Ava.Core Ava.Lib Function

variable {β : Type}

/-! ## §1. What the results of an epoch are. -/

section

variable (executor : Executor β) (slots : List ToolScheduleSlot)
  (results : Nat → Option (Result β))

/-- The slot has failed. -/
def FailedAt (k : Nat) : Prop := ∃ error, results k = some (.error error)

/-- An earlier slot has failed. -/
def Behind (k : Nat) : Prop := ∃ j < k, FailedAt results j

/-- A result is the tool's own, or a failure behind an earlier failure. -/
def Honest (k : Nat) (result : Result β) : Prop :=
  (∃ slot, slots[k]? = some slot ∧ result = executeGuardedWorker executor slot) ∨
    (result.isOk = false ∧ Behind results k)

/-- Every missing result stands behind a failure. -/
def Closed : Prop := ∀ k < slots.length, results k = none → Behind results k

/-- What holds on the way out of the loop. -/
def LeavingOk (active : List Nat) : Main → Prop
  | .leaving => Closed slots results ∧ ∀ k ∈ active, (results k).isSome = true
  | .stopping .everybody todo afterwards =>
    afterwards = .left ∧ Closed slots results ∧ ∀ k ∈ todo, (results k).isSome = true
  | .joining | .exited => Closed slots results
  | _ => True

/-- A pass of stop requests for the workers behind a mark is made behind a failure. -/
def StoppingOk : Main → Prop
  | .stopping (.behind mark) _ afterwards =>
    (∃ pass, afterwards = .round pass) ∧ ∀ s, mark = some s → FailedAt results s
  | _ => True

end

/-- **WHAT NO INTERLEAVING CHANGES.** -/
structure Faithful (executor : Executor β) (slots : List ToolScheduleSlot) (e : Epoch β) : Prop
    extends Undisturbed slots e where
  launched : e.launchError = none
  honest : ∀ k result, e.results k = some result → Honest executor slots e.results k result
  pending : ∀ k result, e.worker k = .finishing result → Honest executor slots e.results k result
  failed : ∀ k, e.worker k = .stored true → FailedAt e.results k
  stopped : ∀ k, e.stop k = true → Behind e.results k ∨ (e.results k).isSome = true
  mark : ∀ s, e.stopAfter = some s → FailedAt e.results s
  stopping : StoppingOk e.results e.main
  leaving : LeavingOk slots e.results e.active e.main

variable {k : Nat} {outcomes : List (ToolScheduleOutcome β)}

section

variable {executor : Executor β} {slots : List ToolScheduleSlot} {maxWorkers : Nat}
  {e e' : Epoch β}

theorem Faithful.initial : Faithful executor slots ({} : Epoch β) where
  shape := .initial slots.length
  calm := rfl
  launched := rfl
  honest := nofun
  pending := nofun
  failed := nofun
  stopped := nofun
  mark := nofun
  stopping := trivial
  leaving := trivial

/-! ## §2. Each step keeps it. -/

section

variable (h : Faithful executor slots e)

include h

/-- A step of the main thread: results and workers' answers stay. -/
theorem Faithful.of_main (hgood : Undisturbed slots e')
    (hresults : e'.results = e.results) (hlaunch : e'.launchError = e.launchError)
    (hmark : e'.stopAfter = e.stopAfter)
    (hworker : ∀ k, e'.worker k = .started ∨ e'.worker k = e.worker k)
    (hstopped : ∀ k, e'.stop k = true → Behind e.results k ∨ (e.results k).isSome = true)
    (hstopping : StoppingOk e.results e'.main)
    (hleaving : LeavingOk slots e.results e'.active e'.main) : Faithful executor slots e' := by
  refine ⟨hgood, hlaunch.trans h.launched, ?_, ?_, ?_, ?_, ?_, ?_, ?_⟩
  · rw [hresults]
    exact h.honest
  · intro k result hk
    rw [hresults]
    rcases hworker k with hstarted | hsame
    · rw [hstarted] at hk
      cases hk
    · exact h.pending k result (hsame.symm.trans hk)
  · intro k hk
    rw [hresults]
    rcases hworker k with hstarted | hsame
    · rw [hstarted] at hk
      cases hk
    · exact h.failed k (hsame.symm.trans hk)
  · rw [hresults]
    exact hstopped
  · rw [hresults, hmark]
    exact h.mark
  · rw [hresults]
    exact hstopping
  · rw [hresults]
    exact hleaving

/-- A jump of the main thread. -/
theorem Faithful.goto {main : Main}
    (hgood : Undisturbed slots (e.goto main)) (hstopping : StoppingOk e.results main)
    (hleaving : LeavingOk slots e.results e.active main) : Faithful executor slots (e.goto main) :=
  h.of_main hgood rfl rfl rfl (fun _ => .inr rfl) h.stopped hstopping hleaving

/-- The loop is left because everybody has finished. -/
theorem Faithful.leave_completed (hfull : slots.length ≤ e.completed)
    (hplain : trackedOf e.main e.active = e.active) :
    LeavingOk slots e.results e.active .leaving := by
  constructor
  · intro k hk hnone
    have hsome := h.shape.published_of_completed hfull hk
    rw [hnone] at hsome
    cases hsome
  · intro k hk
    have hlt := h.shape.tracked_lt k (by rw [hplain]; exact hk)
    have hbound := h.shape.bound
    exact h.shape.published_of_completed hfull (by omega)

/-- The loop is left because nobody is active and nobody may be launched: the next slot is the
    end of the epoch, or stands behind the mark. -/
theorem Faithful.leave_idle (hactive : e.active = [])
    (hplain : trackedOf e.main e.active = e.active) (hmay : e.mayLaunch slots.length = false) :
    LeavingOk slots e.results e.active .leaving := by
  have hlaunched : ∀ k < e.nextToLaunch, (e.results k).isSome = true := by
    intro k hk
    rcases h.shape.tracked k hk with hmem | hsome
    · rw [hplain, hactive] at hmem
      exact absurd hmem List.not_mem_nil
    · exact hsome
  refine ⟨?_, by rw [hactive]; nofun⟩
  intro k hk hnone
  have hnext : e.nextToLaunch ≤ k := by
    by_contra hlt
    have hsome := hlaunched k (by omega)
    rw [hnone] at hsome
    cases hsome
  unfold Epoch.mayLaunch at hmay
  rw [h.calm, decide_eq_true (by omega : e.nextToLaunch < slots.length), Bool.not_false,
    Bool.true_and, Bool.true_and] at hmay
  -- The mark forbids the launch, so it names a failure before `k`.
  cases hmark : e.stopAfter with
  | none =>
    rw [hmark] at hmay
    cases hmay
  | some s =>
    rw [hmark] at hmay
    have hs : ¬ e.nextToLaunch ≤ s := of_decide_eq_false hmay
    exact ⟨s, by omega, h.mark s hmark⟩

/-- A jump of the main thread keeps an epoch faithful. -/
theorem Faithful.jump {main : Main}
    (hgood : Undisturbed slots (e.goto main)) (hjump : Jump maxWorkers slots.length e main) :
    Faithful executor slots (e.goto main) := by
  have hstopping := h.stopping
  have hleaving := h.leaving
  cases hjump with
  | full hm hfull | counted hm hfull =>
    exact h.goto hgood trivial (h.leave_completed hfull (by rw [hm]; rfl))
  | finished hm hactive hmay =>
    exact h.goto hgood trivial (h.leave_idle hactive (by rw [hm]; rfl) hmay)
  | canceled hm hcancel =>
    rw [h.calm] at hcancel
    cases hcancel
  | load hm => exact h.goto hgood ⟨⟨_, rfl⟩, h.mark⟩ trivial
  | @stopped kind afterwards hm =>
    rw [hm] at hstopping hleaving
    cases kind with
    | everybody =>
      obtain ⟨rfl, hclosed, -⟩ := hleaving
      exact h.goto hgood trivial hclosed
    | behind mark =>
      obtain ⟨⟨pass, rfl⟩, -⟩ := hstopping
      refine h.goto hgood ?_ ?_
      · cases pass <;> trivial
      · cases pass <;> trivial
  | look hm =>
    refine h.goto hgood ?_ ?_
    · split <;> trivial
    · split <;> trivial
  | leave hm =>
    rw [hm] at hleaving
    exact h.goto hgood trivial ⟨rfl, hleaving⟩
  | round | keep | drop | polled | calm | launch | launched | unfinished | relaunch | idle | wait
  | again => exact h.goto hgood trivial trivial

/-- **A STEP OF THE MAIN THREAD KEEPS AN EPOCH FAITHFUL.** -/
theorem Faithful.main
    (hstep : mainStep maxWorkers slots.length false e = some e') : Faithful executor slots e' := by
  have hgood : Undisturbed slots e' :=
    h.toUndisturbed.move (.main hstep : EpochMove maxWorkers executor slots e e')
  have hstopping := h.stopping
  have hleaving := h.leaving
  cases mainStep_inv hstep with
  | jump hjump => exact h.jump hgood hjump
  | @endPass pass kept hm =>
    refine h.of_main hgood rfl rfl rfl (fun _ => .inr rfl) h.stopped ?_ ?_
    · cases pass <;> trivial
    · cases pass <;> trivial
  | cancel hm hexternal => cases hexternal
  | @stopOne kind k todo afterwards hm =>
    rw [hm] at hstopping hleaving
    refine h.of_main hgood rfl rfl rfl (fun _ => .inr rfl) ?_ ?_ ?_
    · intro j hj
      change (if kind.isFor k = true then update e.stop k true else e.stop) j = true at hj
      by_cases hfor : kind.isFor k = true
      · rw [if_pos hfor] at hj
        by_cases hjk : j = k
        · subst hjk
          cases kind with
          | everybody => exact .inr (hleaving.2.2 j List.mem_cons_self)
          | behind mark =>
            -- Whoever stands behind the mark stands behind a failure.
            cases mark with
            | none => cases hfor
            | some s =>
              have hs : ¬ j ≤ s := by
                simpa [StopKind.isFor, wanted] using hfor
              exact .inl ⟨s, by omega, hstopping.2 s rfl⟩
        · rw [update_of_ne hjk] at hj
          exact h.stopped j hj
      · rw [if_neg hfor] at hj
        exact h.stopped j hj
    · cases kind with
      | everybody => trivial
      | behind mark => exact hstopping
    · cases kind with
      | everybody =>
        exact ⟨hleaving.1, hleaving.2.1, fun j hj => hleaving.2.2 j (List.mem_cons_of_mem k hj)⟩
      | behind mark => trivial
  | spawn hm =>
    refine h.of_main hgood rfl rfl rfl ?_ h.stopped trivial trivial
    intro k
    by_cases hk : k = e.nextToLaunch
    · subst hk
      exact .inl (update_self _ _ _)
    · exact .inr (update_of_ne hk _ _)
  | join hm hgone =>
    rw [hm] at hleaving
    exact h.of_main hgood rfl rfl rfl (fun _ => .inr rfl) h.stopped trivial hleaving

end

/-- Results only ever come in. -/
def Grows (before after : Nat → Option (Result β)) : Prop :=
  ∀ k result, before k = some result → after k = some result

section

variable {before after : Nat → Option (Result β)} (hgrows : Grows before after)

include hgrows

theorem FailedAt.grows (h : FailedAt before k) :
    FailedAt after k := by
  obtain ⟨error, herror⟩ := h
  exact ⟨error, hgrows k _ herror⟩

theorem Behind.grows (h : Behind before k) :
    Behind after k := by
  obtain ⟨j, hj, hfailed⟩ := h
  exact ⟨j, hj, hfailed.grows hgrows⟩

theorem Honest.grows {result : Result β}
    (h : Honest executor slots before k result) : Honest executor slots after k result := by
  rcases h with hown | ⟨hfailed, hbehind⟩
  · exact .inl hown
  · exact .inr ⟨hfailed, hbehind.grows hgrows⟩

theorem isSome_grows (h : (before k).isSome = true) :
    (after k).isSome = true := by
  obtain ⟨result, hresult⟩ := Option.isSome_iff_exists.mp h
  rw [hgrows k result hresult]
  rfl

theorem Closed.grows (h : Closed slots before) :
    Closed slots after := by
  intro k hk hnone
  refine (h k hk ?_).grows hgrows
  cases hbefore : before k with
  | none => rfl
  | some result =>
    rw [hgrows k result hbefore] at hnone
    cases hnone

theorem LeavingOk.grows {active : List Nat} {main : Main}
    (h : LeavingOk slots before active main) : LeavingOk slots after active main := by
  unfold LeavingOk at h ⊢
  split
  next => exact ⟨h.1.grows hgrows, fun k hk => isSome_grows hgrows (h.2 k hk)⟩
  next => exact ⟨h.1, h.2.1.grows hgrows, fun k hk => isSome_grows hgrows (h.2.2 k hk)⟩
  next => exact h.grows hgrows
  next => exact h.grows hgrows
  next => trivial

theorem StoppingOk.grows {main : Main}
    (h : StoppingOk before main) : StoppingOk after main := by
  unfold StoppingOk at h ⊢
  split
  next => exact ⟨h.1, fun s hs => (h.2 s hs).grows hgrows⟩
  next => trivial

end

/-- A step of a worker: what it brings, and what it leaves alone. -/
theorem Faithful.of_worker (h : Faithful executor slots e) (hgood : Undisturbed slots e')
    (k : Nat) (place : Worker β) (hworker : e'.worker = update e.worker k place)
    (hgrows : Grows e.results e'.results) (hlaunch : e'.launchError = e.launchError)
    (hstop : e'.stop = e.stop)
    (hmain : StoppingOk e.results e'.main ∧ LeavingOk slots e.results e'.active e'.main)
    (hhonest : ∀ j result, e'.results j = some result → Honest executor slots e'.results j result)
    (hpending : ∀ result, place = .finishing result → Honest executor slots e.results k result)
    (hfailed : place = .stored true → FailedAt e'.results k)
    (hmark : ∀ s, e'.stopAfter = some s → FailedAt e'.results s) :
    Faithful executor slots e' := by
  refine ⟨hgood, hlaunch.trans h.launched, hhonest, ?_, ?_, ?_, hmark, hmain.1.grows hgrows,
    hmain.2.grows hgrows⟩
  · intro j result hj
    rw [hworker] at hj
    obtain ⟨rfl, hplace⟩ | ⟨-, hold⟩ := update_eq_cases hj
    · exact (hpending result hplace).grows hgrows
    · exact (h.pending j result hold).grows hgrows
  · intro j hj
    rw [hworker] at hj
    obtain ⟨rfl, hplace⟩ | ⟨-, hold⟩ := update_eq_cases hj
    · exact hfailed hplace
    · exact (h.failed j hold).grows hgrows
  · intro j hj
    rw [hstop] at hj
    rcases h.stopped j hj with hbehind | hsome
    · exact .inl (hbehind.grows hgrows)
    · exact .inr (isSome_grows hgrows hsome)

theorem failedAt_of_not_isOk {results : Nat → Option (Result β)} {result : Result β}
    (hresult : results k = some result) (hfailed : (!result.isOk) = true) : FailedAt results k := by
  cases result with
  | ok value => cases hfailed
  | error error => exact ⟨error, hresult⟩

/-- **A STEP OF A WORKER KEEPS AN EPOCH FAITHFUL.** -/
theorem Faithful.worker (h : Faithful executor slots e)
    (hstep : workerStep executor slots k e = some e') : Faithful executor slots e' := by
  have hgood : Undisturbed slots e' :=
    h.toUndisturbed.move (.worker k hstep : EpochMove 0 executor slots e e')
  have hsame : Grows e.results e.results := fun _ _ hr => hr
  cases workerStep_effect hstep with
  | refuse hplace hstop =>
    refine h.of_worker hgood k _ rfl hsame rfl rfl ⟨h.stopping, h.leaving⟩ h.honest ?_ nofun h.mark
    -- A worker that has no result yet was stopped behind a failure.
    intro result hresult
    injection hresult with hresult
    subst hresult
    refine .inr ⟨rfl, ?_⟩
    rcases h.stopped k hstop with hbehind | hsome
    · exact hbehind
    · rw [h.shape.stored, hplace] at hsome
      cases hsome
  | run slot hplace hslot =>
    refine h.of_worker hgood k _ rfl hsame rfl rfl ⟨h.stopping, h.leaving⟩ h.honest ?_ nofun h.mark
    intro result hresult
    injection hresult with hresult
    exact .inl ⟨slot, hslot, hresult.symm⟩
  | store result hplace hfree =>
    have hnone : e.results k = none := by
      have hstored := h.shape.stored k
      rw [hplace] at hstored
      exact Option.not_isSome_iff_eq_none.mp (by rw [hstored]; exact Bool.false_ne_true)
    have hnew : update e.results k (some result) k = some result :=
      update_self _ _ _
    have hgrows : Grows e.results (update e.results k (some result)) := by
      intro j r hj
      by_cases hjk : j = k
      · rw [hjk, hnone] at hj
        cases hj
      · rw [update_of_ne hjk]
        exact hj
    refine h.of_worker hgood k _ rfl hgrows rfl rfl ⟨h.stopping, h.leaving⟩ ?_ nofun ?_ ?_
    · intro j r hj
      obtain ⟨rfl, ⟨⟩⟩ | ⟨-, hold⟩ := update_eq_cases hj
      · exact (h.pending j result hplace).grows hgrows
      · exact (h.honest j r hold).grows hgrows
    · intro hfailed
      injection hfailed with hfailed
      exact failedAt_of_not_isOk hnew hfailed
    · exact fun s hs => (h.mark s hs).grows hgrows
  | lower failed hplace =>
    refine h.of_worker hgood k _ rfl hsame rfl rfl ⟨h.stopping, h.leaving⟩ h.honest nofun nofun ?_
    intro s hs
    change (if failed = true then lowerMark e.stopAfter k else e.stopAfter) = some s at hs
    cases failed with
    | false => exact h.mark s hs
    | true =>
      -- The new mark is the worker's own slot or the old mark.
      rw [if_pos rfl] at hs
      have hk := h.failed k hplace
      cases hmark : e.stopAfter with
      | none =>
        rw [hmark] at hs
        obtain rfl := Option.some.inj hs
        exact hk
      | some old =>
        rw [hmark] at hs
        obtain rfl := Option.some.inj hs
        rcases Nat.le_total k old with hle | hle
        · rw [Nat.min_eq_left hle]
          exact hk
        · rw [Nat.min_eq_right hle]
          exact h.mark old hmark
  | begin hplace | count hplace =>
    exact h.of_worker hgood k _ rfl hsame rfl rfl ⟨h.stopping, h.leaving⟩ h.honest nofun nofun h.mark
  | notify hplace =>
    unfold Epoch.notify at hgood ⊢
    split at hgood
    next completed mark hm =>
      exact h.of_worker hgood k .gone rfl hsame rfl rfl ⟨trivial, trivial⟩ h.honest nofun nofun h.mark
    exact h.of_worker hgood k .gone rfl hsame rfl rfl ⟨h.stopping, h.leaving⟩ h.honest nofun nofun
      h.mark

/-- **EVERY STEP KEEPS AN EPOCH FAITHFUL.** -/
theorem Faithful.move (h : Faithful executor slots e)
    (hmove : EpochMove maxWorkers executor slots e e') : Faithful executor slots e' := by
  have hgood := h.toUndisturbed.move hmove
  cases hmove with
  | main hstep => exact h.main hstep
  | worker k hstep => exact h.worker hstep
  | spurious hstep =>
    obtain ⟨rfl, -⟩ := spuriousStep_eq hstep
    exact h.goto hgood trivial trivial

/-! ## §3. Collecting. -/

/-- **COLLECTING GIVES THE SEQUENTIAL ANSWER**: up to the first failure the results are the
    tools' own, and what is missing comes after it. -/
theorem collectFrom_eq {results : Nat → Option (Result β)} {n : Nat}
    (hhonest : ∀ k result, results k = some result → Honest executor slots results k result)
    (hclosed : ∀ k < slots.length, results k = none → Behind results k) :
    ∀ (rest : List ToolScheduleSlot) (outcomes : List (ToolScheduleOutcome β)),
      slots.drop n = rest → n ≤ slots.length → (∀ j < n, ¬ FailedAt results j) →
      collectFrom results n rest outcomes = sequentialLoop executor outcomes rest := by
  intro rest
  induction rest generalizing n with
  | nil =>
    intro outcomes _ _ _
    rfl
  | cons slot rest ih =>
    intro outcomes hdrop hn hclean
    have hlt : n < slots.length := by
      by_contra hge
      rw [List.drop_eq_nil_of_le (by omega)] at hdrop
      cases hdrop
    have hslot : slots[n]? = some slot := by
      rw [← List.head?_drop, hdrop]
      rfl
    -- Nothing before `n` has failed, so nothing at `n` is a cancellation or missing.
    have hfront : ¬ Behind results n := fun ⟨j, hj, hfailed⟩ => hclean j hj hfailed
    rw [collectFrom, sequentialLoop]
    cases hresult : results n with
    | none => exact absurd (hclosed n hlt hresult) hfront
    | some result =>
      have hown : result = executeGuardedWorker executor slot := by
        rcases hhonest n result hresult with ⟨slot', hslot', hown⟩ | ⟨-, hbehind⟩
        · rw [hslot] at hslot'
          obtain rfl := Option.some.inj hslot'
          exact hown
        · exact absurd hbehind hfront
      rw [← hown]
      cases result with
      | error error => rfl
      | ok value =>
        refine ih (n := n + 1) (outcomes ++ [{ slot, result := value }]) ?_ hlt ?_
        · rw [← List.drop_drop, hdrop]
          rfl
        · intro j hj
          by_cases hjn : j = n
          · rintro ⟨error, herror⟩
            rw [hjn, hresult] at herror
            cases herror
          · exact hclean j (by omega)

/-- What an epoch answers. -/
theorem Faithful.answer (h : Faithful executor slots e) (hexited : e.main = .exited) :
    e.answer false slots = sequentialLoop executor [] slots := by
  have hleaving := h.leaving
  rw [hexited] at hleaving
  unfold Epoch.answer collectEpochOutcomes
  rw [h.launched, h.calm]
  exact collectFrom_eq h.honest hleaving slots [] rfl (Nat.zero_le _) nofun

/-! ## §4. Whole schedules. -/

/-- The sequential loop only adds to what it has. -/
theorem sequentialLoop_append (executor : Executor β) (rest : List ToolScheduleSlot) :
    ∀ (outcomes more : List (ToolScheduleOutcome β)),
      sequentialLoop executor (outcomes ++ more) rest =
        (sequentialLoop executor more rest).map (outcomes ++ ·) := by
  induction rest with
  | nil => intro outcomes more; rfl
  | cons slot rest ih =>
    intro outcomes more
    rw [sequentialLoop, sequentialLoop]
    cases executeGuardedWorker executor slot with
    | error error => rfl
    | ok result =>
      dsimp only
      rw [List.append_assoc, ih]

/-- Two stretches of slots one after the other. -/
theorem sequentialLoop_slots (executor : Executor β) (first second : List ToolScheduleSlot) :
    ∀ outcomes : List (ToolScheduleOutcome β),
      sequentialLoop executor outcomes (first ++ second) =
        match sequentialLoop executor outcomes first with
        | .error e => .error e
        | .ok more => sequentialLoop executor more second := by
  induction first with
  | nil => intro outcomes; rfl
  | cons slot first ih =>
    intro outcomes
    rw [List.cons_append, sequentialLoop, sequentialLoop]
    cases executeGuardedWorker executor slot with
    | error error => rfl
    | ok result => exact ih _

/-- What holds between two steps of the scheduler. -/
inductive On (executor : Executor β) (answer : Result (List (ToolScheduleOutcome β))) :
    World β → Prop
  | between (outcomes : List (ToolScheduleOutcome β)) (rest : List ToolScheduleSlot)
      (hrest : sequentialLoop executor outcomes rest = answer) :
      On executor answer { phase := .between outcomes rest }
  | epoch (outcomes : List (ToolScheduleOutcome β)) (slots rest : List ToolScheduleSlot)
      (e : Epoch β) (hfaithful : Faithful executor slots e)
      (hrest : sequentialLoop executor outcomes (slots ++ rest) = answer) :
      On executor answer { phase := .epoch outcomes slots rest e }
  | returned : On executor answer { phase := .returned answer }

section

variable {answer : Result (List (ToolScheduleOutcome β))} {w w' : World β}

theorem On.advance :
    ∀ {rest : List ToolScheduleSlot}, sequentialLoop executor outcomes rest = answer →
      On executor answer { phase := Scheduler.advance executor false outcomes rest }
  | [], hrest => by
    rw [← hrest]
    exact .returned
  | slot :: rest, hrest => by
    rw [Scheduler.advance, if_neg Bool.false_ne_true]
    by_cases hparallel : canRunInParallelEpoch slot = true
    · rw [if_pos hparallel]
      refine .epoch _ _ _ _ .initial ?_
      rw [List.cons_append, List.takeWhile_append_dropWhile]
      exact hrest
    · rw [if_neg hparallel]
      rw [sequentialLoop] at hrest
      cases hresult : executeGuardedWorker executor slot with
      | error error =>
        rw [hresult] at hrest
        rw [← hrest]
        exact .returned
      | ok value =>
        rw [hresult] at hrest
        exact .between _ _ hrest

/-- **WHAT A STEP WITHOUT FAULTS CAN BE**, by the phase that it starts from. -/
inductive PhaseMove (executor : Executor β) (maxWorkers : Nat) : Phase β → World β → Prop
  | advance {outcomes : List (ToolScheduleOutcome β)} {rest : List ToolScheduleSlot} :
      PhaseMove executor maxWorkers (.between outcomes rest)
        { phase := Scheduler.advance executor false outcomes rest }
  | epoch {outcomes : List (ToolScheduleOutcome β)} {slots rest : List ToolScheduleSlot}
      {e : Epoch β} (e' : Epoch β) (hmove : EpochMove maxWorkers executor slots e e') :
      PhaseMove executor maxWorkers (.epoch outcomes slots rest e)
        { phase := .epoch outcomes slots rest e' }
  | resume {outcomes : List (ToolScheduleOutcome β)} {slots rest : List ToolScheduleSlot}
      {e : Epoch β} (hexited : e.main = .exited) :
      PhaseMove executor maxWorkers (.epoch outcomes slots rest e)
        { phase := Scheduler.resume outcomes rest (e.answer false slots) }

theorem phaseMove_of_step {phase : Phase β}
    (h : Step executor maxWorkers { phase } w' ∨ Disturbance { phase } w') :
    PhaseMove executor maxWorkers phase w' := by
  rcases h with hstep | hstep
  · cases hstep with
    | advance outcomes rest hphase =>
      obtain rfl : phase = _ := hphase
      exact .advance
    | main outcomes slots rest e e' hphase hstep =>
      obtain rfl : phase = _ := hphase
      exact .epoch e' (.main hstep)
    | worker outcomes slots rest e e' k hphase hstep =>
      obtain rfl : phase = _ := hphase
      exact .epoch e' (.worker k hstep)
    | resume outcomes slots rest e hphase hexited =>
      obtain rfl : phase = _ := hphase
      exact .resume hexited
  · cases hstep with
    | spurious outcomes slots rest e e' hphase hstep =>
      obtain rfl : phase = _ := hphase
      exact .epoch e' (.spurious hstep)

/-- **EVERY STEP KEEPS THE ANSWER.** -/
theorem On.step (h : On executor answer w)
    (hstep : Step executor maxWorkers w w' ∨ Disturbance w w') : On executor answer w' := by
  cases h with
  | between outcomes rest hrest =>
    cases phaseMove_of_step hstep with
    | advance => exact .advance hrest
  | epoch outcomes slots rest e hfaithful hrest =>
    cases phaseMove_of_step hstep with
    | epoch e' hmove => exact .epoch _ _ _ _ (hfaithful.move hmove) hrest
    | resume hexited =>
      rw [hfaithful.answer hexited]
      -- The epoch's outcomes go behind the ones that were there.
      rw [sequentialLoop_slots] at hrest
      have happend := sequentialLoop_append executor slots outcomes []
      rw [List.append_nil] at happend
      rw [happend] at hrest
      cases hepoch : sequentialLoop executor [] slots with
      | error error =>
        rw [hepoch] at hrest
        rw [← hrest]
        exact .returned
      | ok more =>
        rw [hepoch] at hrest
        exact .between _ _ hrest
  | returned => cases phaseMove_of_step hstep

/-- The scheduler is never stuck before it returns. -/
theorem On.progress (h : On executor answer w) :
    w.phase = .returned answer ∨ ∃ w', Step executor maxWorkers w w' := by
  cases h with
  | between outcomes rest hrest => exact .inr ⟨_, .advance _ outcomes rest rfl⟩
  | epoch outcomes slots rest e hfaithful hrest =>
    by_cases hexited : e.main = .exited
    · exact .inr ⟨_, .resume _ outcomes slots rest e rfl hexited⟩
    · have hnext : (∃ e', mainStep maxWorkers slots.length false e = some e') ∨
          ∃ k e', workerStep executor slots k e = some e' :=
        hfaithful.shape.progress executor hexited
      rcases hnext with ⟨e', hstep⟩ | ⟨k, e', hstep⟩
      · exact .inr ⟨_, .main _ outcomes slots rest e e' rfl hstep⟩
      · exact .inr ⟨_, .worker _ outcomes slots rest e e' k rfl hstep⟩
  | returned => exact .inl rfl

end

/-- A scheduler that has returned does nothing more. -/
theorem acc_returned (answer : Result (List (ToolScheduleOutcome β))) :
    Acc (fun w' w => Step executor maxWorkers w w' ∨ Disturbance w w')
      ({ phase := .returned answer } : World β) := by
  constructor
  intro w' hstep
  cases phaseMove_of_step hstep

/-- An epoch ends, and the schedule goes on behind it. -/
theorem acc_epoch {rest : List ToolScheduleSlot}
    (hrest : ∀ outcomes, Acc (fun w' w => Step executor maxWorkers w w' ∨ Disturbance w w')
      ({ phase := .between outcomes rest } : World β))
    (hends : Acc (fun e' e => EpochMove maxWorkers executor slots e e') e) :
    Acc (fun w' w => Step executor maxWorkers w w' ∨ Disturbance w w')
      ({ phase := .epoch outcomes slots rest e } : World β) := by
  induction hends with
  | intro e _ ih =>
    constructor
    intro w' hstep
    cases phaseMove_of_step hstep with
    | epoch e' hmove => exact ih e' hmove
    | resume hexited =>
      cases hanswer : e.answer false slots with
      | error error => exact acc_returned _
      | ok more => exact hrest _

/-- The induction is on the slots that are left: every epoch takes at least one away. -/
theorem acc_between (executor : Executor β) (hmax : 0 < maxWorkers) :
    ∀ (n : Nat) (rest : List ToolScheduleSlot), rest.length < n → ∀ outcomes,
      Acc (fun w' w => Step executor maxWorkers w w' ∨ Disturbance w w')
        ({ phase := .between outcomes rest } : World β) := by
  intro n
  induction n with
  | zero => exact fun rest hlength => absurd hlength (Nat.not_lt_zero _)
  | succ n ih =>
    intro rest hlength outcomes
    constructor
    intro w' hstep
    cases phaseMove_of_step hstep with
    | advance =>
      cases rest with
      | nil => exact acc_returned _
      | cons slot rest =>
        have hshorter : rest.length < n := Nat.lt_of_succ_lt_succ hlength
        rw [Scheduler.advance, if_neg Bool.false_ne_true]
        by_cases hparallel : canRunInParallelEpoch slot = true
        · rw [if_pos hparallel]
          refine acc_epoch (ih _ ?_) (epoch_ends executor hmax ⟨.initial _, rfl⟩)
          exact (List.dropWhile_sublist _).length_le.trans_lt hshorter
        · rw [if_neg hparallel]
          cases executeGuardedWorker executor slot with
          | error error => exact acc_returned _
          | ok value => exact ih rest hshorter _

end

/-! ## §5. The refinement. -/

/-- A step of the program with the executor it was given. -/
def Own (executor : Option (Executor β)) (maxWorkers : Nat) (w w' : World β) : Prop :=
  ∃ f, executor = some f ∧ Step f maxWorkers w w'

/-- Any step of a run that nobody stops and in which every thread can be started. -/
def Move (executor : Option (Executor β)) (maxWorkers : Nat) (w w' : World β) : Prop :=
  Own executor maxWorkers w w' ∨ Disturbance w w'

/-- **PARALLEL SCHEDULING REFINES SEQUENTIAL SCHEDULING.**  Every run comes to an end, and it
    ends with what `run_sequential_tool_schedule` returns. -/
theorem parallel_schedule_refines_sequential (executor : Option (Executor β)) (maxWorkers : Nat)
    (hmax : 0 < maxWorkers) (schedule : List ToolScheduleSlot) :
    Inevitably (Own executor maxWorkers) (Move executor maxWorkers)
        (fun w => w.phase = .returned (runSequentialToolSchedule executor schedule))
        (started executor maxWorkers schedule) ∧
      ∀ w, Reach (· = started executor maxWorkers schedule) (Move executor maxWorkers) w →
        ∀ answer, w.phase = .returned answer → answer = runSequentialToolSchedule executor schedule := by
  cases executor with
  | none =>
    have hstuck : ∀ w' : World β, ¬ Disturbance (started (none : Option (Executor β)) maxWorkers
        schedule) w' := by
      intro w' hstep
      cases hstep with
      | spurious _ _ _ _ _ hphase => cases hphase
    refine ⟨.goal rfl, ?_⟩
    intro w hreach
    have hw : w = started none maxWorkers schedule := by
      refine hreach.invariant (P := (· = started none maxWorkers schedule)) (fun _ h => h) ?_
      rintro _ w' rfl (⟨f, hf, -⟩ | hstep)
      · cases hf
      · exact absurd hstep (hstuck w')
    rintro answer hanswer
    rw [hw] at hanswer
    injection hanswer with hanswer
    exact hanswer.symm
  | some f =>
    have hstart : started (some f) maxWorkers schedule = { phase := .between [] schedule } := by
      unfold started
      rw [if_neg (by rw [Option.isNone_some]; exact Bool.false_ne_true), if_neg (by omega)]
    have hinit : On f (runSequentialToolSchedule (some f) schedule)
        (started (some f) maxWorkers schedule) := by
      rw [hstart]
      exact .between [] schedule rfl
    have hkeep : ∀ w w', On f (runSequentialToolSchedule (some f) schedule) w →
        Move (some f) maxWorkers w w' → On f (runSequentialToolSchedule (some f) schedule) w' := by
      rintro w w' hon (⟨f', hf', hstep⟩ | hstep)
      · obtain rfl := Option.some.inj hf'
        exact hon.step (.inl hstep)
      · exact hon.step (.inr hstep : Step f maxWorkers w w' ∨ Disturbance w w')
    constructor
    · refine Inevitably.of_acc (I := On f (runSequentialToolSchedule (some f) schedule)) ?_ hinit hkeep ?_
      · rw [hstart]
        have hacc := acc_between f hmax _ schedule (Nat.lt_succ_self _) []
        refine Subrelation.accessible ?_ hacc
        rintro w' w (⟨f', hf', hstep⟩ | hstep)
        · obtain rfl := Option.some.inj hf'
          exact .inl hstep
        · exact .inr hstep
      · intro w hon
        have hnext : _ ∨ ∃ w', Step f maxWorkers w w' := hon.progress
        rcases hnext with hdone | ⟨w', hstep⟩
        · exact .inl hdone
        · exact .inr ⟨w', f, rfl, hstep⟩
    · intro w hreach answer hanswer
      have hon := hreach.invariant (P := On f (runSequentialToolSchedule (some f) schedule))
        (fun _ h => h ▸ hinit) hkeep
      cases hon with
      | between | epoch => cases hanswer
      | returned =>
        injection hanswer with hanswer
        exact hanswer.symm

/-- Two reads that may overlap. -/
def overlappingReads : List ToolScheduleSlot :=
  [0, 1].map fun index =>
    { providerIndex := index
      call := { id := decimal index, name := ascii "read_file", argumentsJson := ascii "\x7b\x7d" }
      classification := { eligibility := .readOnlyCandidate, reason := ascii "read_search_candidate" }
      parallelReadiness := .preflightProvenNonInteractive }

/-- An executor that throws on the second of them. -/
def throwsOnSecond : Executor Nat := fun slot =>
  if slot.providerIndex = 1 then .threwUnknown else .returned (.ok slot.providerIndex)

theorem parallel_schedule_refines_sequential_throwing :
    runSequentialToolSchedule (some throwsOnSecond) overlappingReads =
        .error (workerExceptionError
          { providerIndex := 1
            call := { id := ascii "1", name := ascii "read_file"
                      argumentsJson := ascii "\x7b\x7d" } } (ascii "unknown exception")) ∧
      Inevitably (Own (some throwsOnSecond) 2) (Move (some throwsOnSecond) 2)
        (fun w => w.phase = .returned (runSequentialToolSchedule (some throwsOnSecond) overlappingReads))
        (started (some throwsOnSecond) 2 overlappingReads) :=
  ⟨by decide,
    (parallel_schedule_refines_sequential (some throwsOnSecond) 2 (by decide) overlappingReads).1⟩

/-! ## §6. Runs with faults.

    A caller that stops the schedule, or a thread that cannot be started, may end it with another
    error.  It never makes it return other outcomes. -/

section

variable {executor : Executor β} {slots : List ToolScheduleSlot} {e e' : Epoch β}

/-- A value that a worker brings is the tool's. -/
structure Sincere (executor : Executor β) (slots : List ToolScheduleSlot) (e : Epoch β) : Prop where
  stored : ∀ k value, e.results k = some (.ok value) →
    ∃ slot, slots[k]? = some slot ∧ executeGuardedWorker executor slot = .ok value
  pending : ∀ k value, e.worker k = .finishing (.ok value) →
    ∃ slot, slots[k]? = some slot ∧ executeGuardedWorker executor slot = .ok value

theorem Sincere.of_same (h : Sincere executor slots e) (hresults : e'.results = e.results)
    (hworker : e'.worker = e.worker) : Sincere executor slots e' := by
  constructor
  · rw [hresults]
    exact h.stored
  · rw [hworker]
    exact h.pending

/-- A worker that moves on, without a result to store. -/
theorem Sincere.move (h : Sincere executor slots e) (k : Nat) (place : Worker β)
    (hplace : ∀ value, place = .finishing (.ok value) →
      ∃ slot, slots[k]? = some slot ∧ executeGuardedWorker executor slot = .ok value) :
    Sincere executor slots (e.move k place) := by
  refine ⟨h.stored, ?_⟩
  intro j value hj
  obtain ⟨rfl, hnew⟩ | ⟨-, hold⟩ := update_eq_cases hj
  · exact hplace value hnew
  · exact h.pending j value hold

theorem notify_same (e : Epoch β) : e.notify.results = e.results ∧ e.notify.worker = e.worker := by
  unfold Epoch.notify
  split
  next => exact ⟨rfl, rfl⟩
  next => exact ⟨rfl, rfl⟩

theorem Sincere.main {maxWorkers : Nat} {external : Bool} (h : Sincere executor slots e)
    (hstep : mainStep maxWorkers slots.length external e = some e') :
    Sincere executor slots e' := by
  obtain ⟨-, rfl⟩ | ⟨main, active, stop, cancel, rfl, -⟩ := mainStep_effect hstep
  · exact (h.move e.nextToLaunch .started nofun).of_same rfl rfl
  · exact h.of_same rfl rfl

theorem Sincere.worker (h : Sincere executor slots e)
    (hstep : workerStep executor slots k e = some e') : Sincere executor slots e' := by
  cases workerStep_effect hstep with
  | refuse | begin => exact h.move k _ nofun
  | run slot hplace hslot =>
    refine h.move k _ fun value hvalue => ⟨slot, hslot, ?_⟩
    injection hvalue
  | store result hplace hfree =>
    refine ⟨?_, (h.move k (.stored (!result.isOk)) nofun).pending⟩
    intro j value hj
    obtain ⟨rfl, ⟨⟩⟩ | ⟨-, hold⟩ := update_eq_cases hj
    · exact h.pending j value hplace
    · exact h.stored j value hold
  | lower failed hplace => exact (h.move k .lowered nofun).of_same rfl rfl
  | count hplace => exact (h.move k .unlocked nofun).of_same rfl rfl
  | notify hplace =>
    obtain ⟨hresults, hworker⟩ := notify_same (e.move k .gone)
    exact (h.move k .gone nofun).of_same hresults hworker

/-- Outcomes that are collected are the sequential ones. -/
theorem Sincere.collect (h : Sincere executor slots e) {n : Nat} :
    ∀ (rest : List ToolScheduleSlot) (outcomes all : List (ToolScheduleOutcome β)),
      slots.drop n = rest → collectFrom e.results n rest outcomes = .ok all →
      sequentialLoop executor outcomes rest = .ok all := by
  intro rest
  induction rest generalizing n with
  | nil =>
    intro outcomes all _ hall
    exact hall
  | cons slot rest ih =>
    intro outcomes all hdrop hall
    have hslot : slots[n]? = some slot := by
      rw [← List.head?_drop, hdrop]
      rfl
    rw [collectFrom] at hall
    split at hall
    next => cases hall
    next => cases hall
    next value hvalue =>
      obtain ⟨slot', hslot', hown⟩ := h.stored n value hvalue
      rw [hslot] at hslot'
      obtain rfl := Option.some.inj hslot'
      rw [sequentialLoop, hown]
      refine ih (n := n + 1) _ all ?_ hall
      rw [← List.drop_drop, hdrop]
      rfl

/-- What holds in a run with faults. -/
inductive Under (executor : Executor β) (answer : Result (List (ToolScheduleOutcome β))) :
    Phase β → Prop
  | between (outcomes : List (ToolScheduleOutcome β)) (rest : List ToolScheduleSlot)
      (hrest : sequentialLoop executor outcomes rest = answer) :
      Under executor answer (.between outcomes rest)
  | epoch (outcomes : List (ToolScheduleOutcome β)) (slots rest : List ToolScheduleSlot)
      (e : Epoch β) (hsincere : Sincere executor slots e)
      (hrest : sequentialLoop executor outcomes (slots ++ rest) = answer) :
      Under executor answer (.epoch outcomes slots rest e)
  | returned (returned : Result (List (ToolScheduleOutcome β)))
      (hok : ∀ outcomes, returned = .ok outcomes → answer = .ok outcomes) :
      Under executor answer (.returned returned)

variable {answer : Result (List (ToolScheduleOutcome β))} {maxWorkers : Nat} {w w' : World β}

theorem Under.advance (external : Bool) :
    ∀ {rest : List ToolScheduleSlot}, sequentialLoop executor outcomes rest = answer →
      Under executor answer (Scheduler.advance executor external outcomes rest)
  | [], hrest => by
    refine .returned _ ?_
    intro all hall
    rw [← hrest]
    exact hall
  | slot :: rest, hrest => by
    rw [Scheduler.advance]
    by_cases hexternal : external = true
    · rw [if_pos hexternal]
      exact .returned _ nofun
    · rw [if_neg hexternal]
      by_cases hparallel : canRunInParallelEpoch slot = true
      · rw [if_pos hparallel]
        refine .epoch _ _ _ _ ⟨nofun, nofun⟩ ?_
        rw [List.cons_append, List.takeWhile_append_dropWhile]
        exact hrest
      · rw [if_neg hparallel]
        rw [sequentialLoop] at hrest
        cases hresult : executeGuardedWorker executor slot with
        | error error => exact .returned _ nofun
        | ok value =>
          rw [hresult] at hrest
          exact .between _ _ hrest

theorem Under.resume {rest : List ToolScheduleSlot} {external : Bool}
    (h : Sincere executor slots e)
    (hrest : sequentialLoop executor outcomes (slots ++ rest) = answer) :
    Under executor answer (Scheduler.resume outcomes rest (e.answer external slots)) := by
  cases hanswer : e.answer external slots with
  | error error => exact .returned _ nofun
  | ok more =>
    refine .between _ _ ?_
    have hcollected : sequentialLoop executor [] slots = .ok more := by
      unfold Epoch.answer at hanswer
      split at hanswer
      next => cases hanswer
      split at hanswer
      next => cases hanswer
      next => exact h.collect slots [] more rfl hanswer
    have happend := sequentialLoop_append executor slots outcomes []
    rw [List.append_nil, hcollected] at happend
    rw [sequentialLoop_slots, happend] at hrest
    exact hrest

/-- Any step of a run: of the program, or one that it does not control. -/
def FaultyMove (executor : Executor β) (maxWorkers : Nat) (w w' : World β) : Prop :=
  Step executor maxWorkers w w' ∨ Disturbance w w' ∨ Fault w w'

theorem Under.step (h : Under executor answer w.phase)
    (hstep : FaultyMove executor maxWorkers w w') : Under executor answer w'.phase := by
  rcases hstep with hstep | hstep | hstep
  · cases hstep with
    | advance outcomes rest hphase =>
      rw [hphase] at h
      cases h with
      | between _ _ hrest => exact .advance w.external hrest
    | main outcomes slots rest e e' hphase hstep =>
      rw [hphase] at h
      cases h with
      | epoch _ _ _ _ hsincere hrest => exact .epoch _ _ _ _ (hsincere.main hstep) hrest
    | worker outcomes slots rest e e' k hphase hstep =>
      rw [hphase] at h
      cases h with
      | epoch _ _ _ _ hsincere hrest => exact .epoch _ _ _ _ (hsincere.worker hstep) hrest
    | resume outcomes slots rest e hphase hexited =>
      rw [hphase] at h
      cases h with
      | epoch _ _ _ _ hsincere hrest => exact .resume hsincere hrest
  · cases hstep with
    | spurious outcomes slots rest e e' hphase hstep =>
      rw [hphase] at h
      obtain ⟨rfl, -⟩ := spuriousStep_eq hstep
      cases h with
      | epoch _ _ _ _ hsincere hrest => exact .epoch _ _ _ _ (hsincere.of_same rfl rfl) hrest
  · cases hstep with
    | stop => exact h
    | callback outcomes slots rest e hphase hstop hfree =>
      rw [hphase] at h
      cases h with
      | epoch _ _ _ _ hsincere hrest =>
        obtain ⟨hresults, hworker⟩ := notify_same { e with cancelRequested := true }
        exact .epoch _ _ _ _ (hsincere.of_same hresults hworker) hrest
    | launch outcomes slots rest e slot cause hphase hplace hslot =>
      rw [hphase] at h
      cases h with
      | epoch _ _ _ _ hsincere hrest => exact .epoch _ _ _ _ (hsincere.of_same rfl rfl) hrest

/-- A slot that runs alone. -/
def aloneSlot : ToolScheduleSlot := { call := { id := [], name := [], argumentsJson := [] } }

/-- The thread was started and is not over. -/
def Worker.alive : Worker β → Bool
  | .unborn | .gone => false
  | _ => true

/-- The main thread looks after every live worker, and after at most `maxWorkers`. -/
structure Within (maxWorkers : Nat) (e : Epoch β) : Prop where
  alive : ∀ k, (e.worker k).alive = true → k ∈ trackedOf e.main e.active
  few : (trackedOf e.main e.active).length ≤ maxWorkers
  room : e.main = .spawn → e.active.length < maxWorkers
  left : e.main = .exited → e.active = []

/-- The main thread is on its way. -/
def Main.between : Main → Bool
  | .spawn | .exited => false
  | _ => true

theorem Within.of_between (hm : e.main.between = true)
    (halive : ∀ k, (e.worker k).alive = true → k ∈ trackedOf e.main e.active)
    (hfew : (trackedOf e.main e.active).length ≤ maxWorkers) : Within maxWorkers e where
  alive := halive
  few := hfew
  room := fun hspawn => by rw [hspawn] at hm; cases hm
  left := fun hexited => by rw [hexited] at hm; cases hm

/-- A step that starts no worker and leaves out none. -/
theorem Within.of_same (h : Within maxWorkers e) (hworker : e'.worker = e.worker)
    (hm : e'.main.between = true)
    (hsame : trackedOf e'.main e'.active = trackedOf e.main e.active) : Within maxWorkers e' :=
  .of_between hm (fun k hk => hsame ▸ h.alive k (hworker ▸ hk)) (hsame ▸ h.few)

/-- A pass leaves out only a worker whose thread it has joined. -/
theorem mainStep_drop {size k : Nat} {external : Bool} {pass : Pass} {todo kept : List Nat}
    (hm : e.main = .retire pass (k :: todo) kept)
    (hstep : mainStep maxWorkers size external e = some (e.goto (.retire pass todo kept))) :
    e.worker k = .gone := by
  simp only [mainStep, hm, Option.ite_none_left_eq_some] at hstep
  split at hstep
  · simp [Epoch.goto] at hstep
  · exact Worker.isGone_iff.mp (Option.ite_none_right_eq_some.mp hstep.2).1

theorem Within.main {size : Nat} {external : Bool} (h : Within maxWorkers e)
    (hstep : mainStep maxWorkers size external e = some e') : Within maxWorkers e' := by
  have halive := h.alive
  cases mainStep_inv hstep with
  | jump hjump =>
    cases hjump with
    | keep hm => exact h.of_same rfl rfl (by simp [hm, trackedOf, Epoch.goto])
    | @drop pass j todo kept hm =>
      -- whoever is left out here has been joined
      have hgone := mainStep_drop hm hstep
      have hfew := h.few
      simp only [hm, trackedOf, List.mem_append, List.mem_cons, List.length_append,
        List.length_cons] at halive hfew
      refine .of_between rfl (fun k hk => List.mem_append.mpr ?_) ?_
      · rcases halive k hk with hkept | rfl | htodo
        · exact .inl hkept
        · rw [Epoch.goto, hgone] at hk
          cases hk
        · exact .inr htodo
      · rw [Epoch.goto, trackedOf, List.length_append]
        omega
    | @stopped kind afterwards hm =>
      rcases afterwards with _ | (_ | _) | _ | _
      all_goals exact h.of_same rfl rfl (by rw [hm]; rfl)
    | launch hm hcan =>
      have hroom := of_decide_eq_true (Bool.and_eq_true_iff.mp hcan).2
      rw [hm] at halive
      exact ⟨halive, hroom.le, fun _ => hroom, Main.noConfusion⟩
    | look hm =>
      rcases hm with hm | hm
      all_goals split <;> exact h.of_same rfl rfl (by rw [hm]; rfl)
    | _ hm => exact h.of_same rfl rfl (by rw [hm]; rfl)
  | @endPass pass kept hm =>
    cases pass
    all_goals exact h.of_same rfl rfl (by rw [hm]; exact (List.append_nil kept).symm)
  | cancel hm | stopOne hm => exact h.of_same rfl rfl (by rw [hm]; rfl)
  | spawn hm =>
    -- there was room when the main thread decided to start it
    rw [hm] at halive
    refine .of_between rfl (fun k hk => ?_) (by simpa [trackedOf] using Nat.succ_le_of_lt (h.room hm))
    by_cases hnew : k = e.nextToLaunch
    · exact List.mem_append_right _ (List.mem_singleton.mpr hnew)
    · exact List.mem_append_left _ (halive k (by simpa [Epoch.move, hnew] using hk))
  | join hm hgone =>
    refine ⟨fun k hk => ?_, Nat.zero_le _, Main.noConfusion, fun _ => rfl⟩
    replace hk : (e.worker k).alive = true := hk
    rw [hm] at halive
    rw [Worker.isGone_iff.mp (List.all_eq_true.mp hgone k (halive k hk))] at hk
    cases hk

theorem Within.notify (h : Within maxWorkers e) : Within maxWorkers e.notify := by
  unfold Epoch.notify
  split
  next hm => exact h.of_same rfl rfl (by rw [hm]; rfl)
  next => exact h

theorem Within.worker {k : Nat} (h : Within maxWorkers e)
    (hstep : workerStep executor slots k e = some e') : Within maxWorkers e' := by
  have hmove : (e.worker k).alive = true → ∀ place, Within maxWorkers (e.move k place) := by
    refine fun hk place => { h with alive := fun j hj => h.alive j ?_ }
    by_cases heq : j = k
    · exact heq ▸ hk
    · simpa [Epoch.move, heq] using hj
  cases workerStep_effect hstep with
  | notify hplace => exact (hmove (by rw [hplace]; rfl) _).notify
  | refuse hplace | begin hplace | run _ hplace | store _ hplace | lower _ hplace | count hplace =>
    exact { hmove (by rw [hplace]; rfl) _ with }

/-- The epoch a run is in keeps within its bounds. -/
def Bounded (maxWorkers : Nat) : Phase β → Prop
  | .epoch _ _ _ e => Within maxWorkers e
  | _ => True

theorem Bounded.advance (external : Bool) (outcomes : List (ToolScheduleOutcome β))
    (rest : List ToolScheduleSlot) :
    Bounded maxWorkers (Scheduler.advance executor external outcomes rest) := by
  unfold Scheduler.advance
  repeat' split
  any_goals trivial
  exact .of_between rfl (fun _ hk => by cases hk) (Nat.zero_le _)

theorem Bounded.step (h : Bounded maxWorkers w.phase)
    (hstep : FaultyMove executor maxWorkers w w') : Bounded maxWorkers w'.phase := by
  rcases hstep with hstep | hstep | hstep
  · cases hstep with
    | advance outcomes rest => exact .advance _ outcomes rest
    | main _ _ _ _ _ hphase hstep => rw [hphase] at h; exact Within.main h hstep
    | worker _ _ _ _ _ _ hphase hstep => rw [hphase] at h; exact Within.worker h hstep
    | resume _ slots _ e => unfold World.goto Scheduler.resume; split <;> trivial
  · cases hstep with
    | spurious _ _ _ e _ hphase hstep =>
      rw [hphase] at h
      obtain ⟨rfl, completed, mark, hm, -⟩ := spuriousStep_eq hstep
      exact Within.of_same h rfl rfl (by rw [hm]; rfl)
  · cases hstep with
    | stop => exact h
    | callback _ _ _ e hphase =>
      rw [hphase] at h
      exact Within.notify { h with }
    | launch _ _ _ e _ _ hphase hm =>
      rw [hphase] at h
      exact Within.of_same h rfl rfl (by rw [hm]; rfl)

/-- **THREADS ARE FEW, AND NONE IS LEFT BEHIND.**  However the threads interleave, whatever is
    stopped and whichever thread cannot be started: at most `max_workers` workers are alive at
    once, and none is when the epoch is over. -/
theorem workers_bounded_and_joined (executor : Executor β) (maxWorkers : Nat)
    (schedule : List ToolScheduleSlot) (h : Reach (· = started (some executor) maxWorkers schedule)
      (FaultyMove executor maxWorkers) w)
    {outcomes : List (ToolScheduleOutcome β)} {rest : List ToolScheduleSlot}
    (hphase : w.phase = .epoch outcomes slots rest e) :
    (∀ s : Finset Nat, (∀ k ∈ s, (e.worker k).alive = true) → s.card ≤ maxWorkers) ∧
      (e.main = .exited → ∀ k, (e.worker k).alive = false) := by
  have hbounded : Bounded maxWorkers w.phase := by
    refine h.invariant (P := fun w => Bounded maxWorkers w.phase) ?_ fun _ _ => Bounded.step
    rintro w rfl
    unfold started
    repeat' split
    all_goals trivial
  rw [hphase] at hbounded
  obtain ⟨halive, hfew, -, hleft⟩ := hbounded
  constructor
  · intro s hs
    have hsub : s ⊆ (trackedOf e.main e.active).toFinset :=
      fun k hk => List.mem_toFinset.mpr (halive k (hs k hk))
    exact (Finset.card_le_card hsub).trans ((List.toFinset_card_le _).trans hfew)
  · intro hexited k
    by_contra hk
    have hmem := halive k (Bool.eq_true_of_not_eq_false hk)
    rw [hexited, trackedOf, hleft hexited] at hmem
    · exact absurd hmem List.not_mem_nil
    · exact fun _ _ _ => Main.noConfusion

/-- One worker at a time: the first read has been started. -/
theorem workers_bounded_and_joined_launched :
    ∃ w e, Reach (· = started (some throwsOnSecond) 1 overlappingReads) (FaultyMove throwsOnSecond 1) w ∧
      w.phase = .epoch [] overlappingReads [] e ∧ (e.worker 0).alive = true ∧
      ∀ s : Finset Nat, (∀ k ∈ s, (e.worker k).alive = true) → s.card ≤ 1 := by
  have hstart : Reach (· = started (some throwsOnSecond) 1 overlappingReads)
    (FaultyMove throwsOnSecond 1) _ := .start rfl
  have h := hstart.step (.inl (.advance _ [] overlappingReads rfl))
  iterate 8 replace h := h.step (.inl (.main _ [] overlappingReads [] _ _ rfl rfl))
  exact ⟨_, _, h, rfl, rfl, (workers_bounded_and_joined _ _ _ h rfl).1⟩

end

end Ava.Agent.Scheduler
