/-
  Ava.Session.Coherence
  **THE CACHES OF ALL TARGETS OF A SESSION.**

  Targets that share a persistent session run their operations under the append lock of its
  path; `create_persistent` and two steps of `recover` do without it.  A world is the file, the
  shared epoch, the targets, where each `recover` is, and the operation that holds the lock
  with the effects it has still to make.  A step is one of those effects, or a part of a
  write, or one of the things that happen beside the lock.

  `recover` reloads the file without the lock and claims an epoch for it later.  As long as
  nobody writes in between, a target that has refreshed its state has the guard state of the
  records in the file.

    - §1 worlds; §2 steps; §3 quiet windows; §4 the invariant;
    - §5 one effect; §6 every step; §7 the result; §8 a write inside the window.
-/
import Ava.Session.Reopen
import Ava.Session.Scripts

namespace Ava.Session

open Ava.Core Ava.Core.Json Ava.Lib

/-! ## §1. Worlds. -/

/-- Where the `recover` of a target is.  Its own mutex is held until it is idle again. -/
inductive Stage where
  | idle
  | tornRepaired
  | stagedRepaired
  | reloaded (state : AppendState)
deriving DecidableEq

/-- The stage after a repair that succeeded. -/
def Stage.next : Stage → Stage
  | .idle => .tornRepaired
  | .tornRepaired => .stagedRepaired
  | s => s

/-- The stage after the reload. -/
def Stage.afterReload : Result (List SessionEntry × AppendState) → Stage
  | .ok (_, state) => .reloaded state
  | .error _ => .idle

/-- Whose operation holds the append lock: an operation of the store itself, a mutation of a
    target (just refreshed, with nothing written yet, or not), or a repair of its `recover`. -/
inductive Owner where
  | store
  | target (i : Nat) (refreshed : Bool)
  | recovery (i : Nat) (ok : Bool)
deriving DecidableEq

/-- The owner once it has begun to have effects. -/
def Owner.touched : Owner → Owner
  | .target i _ => .target i false
  | o => o

/-- The append lock of the path: just taken by a mutation of a target, or held by an operation
    with these effects still to come. -/
inductive Held where
  | entered (i : Nat)
  | running (owner : Owner) (rest : List Act)
deriving DecidableEq

structure World where
  content : Bytes
  epoch : UInt64 := 0
  targets : Nat → Option Target := fun _ => none
  stages : Nat → Stage := fun _ => .idle
  lock : Option Held := none

def World.shared (w : World) : Shared := { storage := .file w.content, appendEpoch := w.epoch }

/-- The effects the lock holder has still to make. -/
def World.rest (w : World) : List Act :=
  match w.lock with
  | some (.running _ rest) => rest
  | _ => []

/-- The target whose mutation is running. -/
def World.runner (w : World) : Option Nat :=
  match w.lock with
  | some (.running (.target i _) _) => some i
  | _ => none

def withStage (stages : Nat → Stage) (i : Nat) (s : Stage) : Nat → Stage :=
  fun j => if j = i then s else stages j

/-! ## §2. Steps. -/

/-- The refresh inside a mutation that has passed: the state and the effects of getting it.
    Only `append` and `append_batch` refresh; the conditional appends always load. -/
def refreshed (cfg : StoreConfig) (t : Target) (io : MutationIo) (sh : Shared) :
    Mutation → Option (AppendState × List Act)
  | .append _ =>
    if t.recoveryRequired then none
    else
      match refreshStateIfStale cfg t io sh with
      | some (.ok r) => some r
      | _ => none
  | .appendBatch entries =>
    if t.recoveryRequired then none
    else
      match batchChecks cfg entries with
      | .error _ => none
      | .ok () =>
        match refreshStateIfStale cfg t io sh with
        | some (.ok r) => some r
        | _ => none
  | .appendBranchSummaryIfAbsent _ => none
  | .appendCompactionIfSnapshotMatches _ _ => none

/-- What the release of the lock means to the `recover` of a target. -/
def Owner.release (stages : Nat → Stage) : Owner → Nat → Stage
  | .recovery i ok => withStage stages i (if ok then (stages i).next else .idle)
  | _ => stages

/-- **ONE STEP.**  `acquire`, `mutate`, `call`, `repairTorn` and `repairStaged` take the lock,
    `effect`, `storeEffect` and `write` are the operation under it, and `create`, `reload` and
    `claim` do not ask for it. -/
inductive Step (cfg : StoreConfig) (w : World) : World → Prop
  | create (i : Nat) (lease : SessionLease) (limits : SessionReadLimits) (fault : Option ReadFault)
      (t : Target) (hnew : w.targets i = none)
      (hcreated : createPersistent cfg lease limits fault w.content = .ok t) :
      Step cfg w { w with targets := withTarget w.targets i t }
  | acquire (i : Nat) (t : Target) (htarget : w.targets i = some t) (hidle : w.stages i = .idle)
      (hlock : w.lock = none) :
      Step cfg w { w with lock := some (.entered i) }
  | mutateRefreshed (i : Nat) (t : Target) (io : MutationIo) (m : Mutation) (state : AppendState)
      (acts : List Act) (htarget : w.targets i = some t) (hlock : w.lock = some (.entered i))
      (hquiet : io.Quiet) (hrefreshed : refreshed cfg t io w.shared m = some (state, acts)) :
      Step cfg w
        { w with
          targets := withTarget w.targets i (execAll acts t w.shared).1
          lock := some (.running (.target i true)
            ((mutate cfg t io w.shared m).acts.drop acts.length)) }
  | mutate (i : Nat) (t : Target) (io : MutationIo) (m : Mutation) (htarget : w.targets i = some t)
      (hlock : w.lock = some (.entered i)) (hquiet : io.Quiet)
      (hrefreshed : refreshed cfg t io w.shared m = none) :
      Step cfg w
        { w with lock := some (.running (.target i false) (mutate cfg t io w.shared m).acts) }
  | call (c : StoreCall) (hlock : w.lock = none) :
      Step cfg w { w with lock := some (.running .store (c.acts cfg w.content)) }
  | repairTorn (i : Nat) (t : Target) (lease : SessionLease) (io : RecoverIo)
      (htarget : w.targets i = some t) (hlease : t.lease = some lease) (hidle : w.stages i = .idle)
      (hlock : w.lock = none) :
      Step cfg w
        { w with lock := some (.running
            (.recovery i (recoverTornTail cfg lease t.readLimits io w.content).result.isOk)
            ((StoreCall.recoverTornTail lease t.readLimits io).acts cfg w.content)) }
  | repairStaged (i : Nat) (t : Target) (lease : SessionLease) (io : RecoverIo)
      (htarget : w.targets i = some t) (hlease : t.lease = some lease)
      (hstage : w.stages i = .tornRepaired) (hlock : w.lock = none) :
      Step cfg w
        { w with lock := some (.running
            (.recovery i (recoverIncompleteAssistantOutputSuffix cfg lease t.readLimits io
              w.content).result.isOk)
            ((StoreCall.recoverIncompleteAssistantOutputSuffix lease t.readLimits io).acts cfg
              w.content)) }
  | reload (i : Nat) (t : Target) (fault : Option ReadFault) (htarget : w.targets i = some t)
      (hstage : w.stages i = .stagedRepaired) :
      Step cfg w
        { w with
          stages := withStage w.stages i (.afterReload (t.rebuild cfg fault (.file w.content))) }
  | claim (i : Nat) (t : Target) (state : AppendState) (htarget : w.targets i = some t)
      (hstage : w.stages i = .reloaded state) :
      Step cfg w
        { w with
          targets := withTarget w.targets i
            (execAll [.publish state, .unlatch, .advance] t w.shared).1
          epoch := (execAll [.publish state, .unlatch, .advance] t w.shared).2.appendEpoch
          stages := withStage w.stages i .idle }
  | effect (i : Nat) (r : Bool) (a : Act) (rest : List Act) (t : Target) (c : Bytes) (e : UInt64)
      (hlock : w.lock = some (.running (.target i r) (a :: rest))) (htarget : w.targets i = some t)
      (hexec : (a.exec t w.shared).2 = { storage := .file c, appendEpoch := e }) :
      Step cfg w
        { w with
          content := c
          epoch := e
          targets := withTarget w.targets i (a.exec t w.shared).1
          lock := some (.running (.target i false) rest) }
  | storeEffect (owner : Owner) (a : Act) (rest : List Act) (t : Target) (c : Bytes) (e : UInt64)
      (howner : ∀ i r, owner ≠ .target i r) (hlock : w.lock = some (.running owner (a :: rest)))
      (hexec : (a.exec t w.shared).2 = { storage := .file c, appendEpoch := e }) :
      Step cfg w { w with content := c, epoch := e, lock := some (.running owner rest) }
  | write (owner : Owner) (y c : Bytes) (rest : List Act)
      (hlock : w.lock = some (.running owner (.store (.file c) :: rest)))
      (hgrown : w.content <+: y) (hahead : y <+: c) :
      Step cfg w
        { w with content := y, lock := some (.running owner.touched (.store (.file c) :: rest)) }
  | release (owner : Owner) (hlock : w.lock = some (.running owner [])) :
      Step cfg w { w with lock := none, stages := owner.release w.stages }

/-! ## §3. Quiet windows. -/

/-- The condition on a step: while a `recover` is between its reload and its claim the records
    in the file do not change; at the claim the lock holder has no write ahead, or will still
    advance the epoch; and the epoch does not wrap around. -/
structure Calm (cfg : StoreConfig) (w w' : World) : Prop where
  window : ∀ i s, w.stages i = .reloaded s → recordsIn cfg w'.content = recordsIn cfg w.content
  claims : ∀ i s, w.stages i = .reloaded s → w'.stages i = .idle →
    (∀ st, .store st ∉ w.rest) ∨ Due w.rest = true
  room : w.epoch.toNat + 1 < 2 ^ 64

/-- The worlds that are reached from any file, before there is a target, by steps that meet the
    condition. -/
inductive Run (cfg : StoreConfig) (meets : World → World → Prop) : World → Prop
  | start (content : Bytes) : Run cfg meets { content }
  | step {w w' : World} (hrun : Run cfg meets w) (hstep : Step cfg w w') (hmeets : meets w w') :
      Run cfg meets w'

/-! ## §4. The invariant. -/

/-- What a target that owns the current epoch may count on beside the running operation. -/
def Current (cfg : StoreConfig) (w : World) (t : Target) : Prop :=
  Due w.rest = true ∨
    (guardIn cfg w.content = .ok t.assistantOutputState ∧ Harmless cfg w.content w.rest)

/-- The running mutation of a target: where its script leads, which epochs it still records,
    and its cache as long as it is only refreshed. -/
structure Runs (cfg : StoreConfig) (x : Bytes) (epoch : UInt64) (t : Target) (r : Bool)
    (rest : List Act) : Prop where
  ends : Ends cfg x t epoch rest
  sees : ∀ e, .see e ∈ rest → e.toNat ≤ epoch.toNat
  cached : r = true → guardIn cfg x = .ok t.assistantOutputState

structure Inv (cfg : StoreConfig) (w : World) : Prop where
  seen : ∀ i t, w.targets i = some t → t.lastSeenAppendEpoch.toNat ≤ w.epoch.toNat
  current : ∀ i t, w.targets i = some t → w.runner ≠ some i → t.recoveryRequired = false →
    t.lastSeenAppendEpoch = w.epoch → Current cfg w t
  visible : w.epoch = 0 → Due w.rest = true ∨ Harmless cfg w.content w.rest
  reloaded : ∀ i s, w.stages i = .reloaded s → guardIn cfg w.content = .ok s
  runs : ∀ i r rest t, w.lock = some (.running (.target i r) rest) → w.targets i = some t →
    Runs cfg w.content w.epoch t r rest
  busy : ∀ i, w.lock = some (.entered i) ∨ w.runner = some i →
    w.stages i = .idle ∧ w.targets i ≠ none

theorem inv_start (cfg : StoreConfig) (content : Bytes) : Inv cfg { content } := by
  refine ⟨?_, ?_, fun _ => .inr trivial, ?_, ?_, ?_⟩
  · intro i t ht
    cases ht
  · intro i t ht
    cases ht
  · intro i s hs
    cases hs
  · intro i r rest t hlock
    cases hlock
  · intro i hi
    obtain hi | hi := hi <;> cases hi

/-! ## §5. One effect. -/

variable {t : Target}

section

variable {cfg : StoreConfig} {x c : Bytes} {e e' : UInt64} {a : Act} {rest : List Act}

theorem epoch_succ (h : e.toNat + 1 < 2 ^ 64) : (e + 1).toNat = e.toNat + 1 := by
  rw [UInt64.toNat_add]
  exact Nat.mod_eq_of_lt h

theorem Harmless.tail (hstore : ∀ s, a ≠ .store s) (h : Harmless cfg x (a :: rest)) :
    Harmless cfg x rest := by
  cases a with
  | store s => exact absurd rfl (hstore s)
  | publish | see | observe | bump | advance | latch | unlatch => exact h

-- One effect, from the file `x` and the epoch `e`.
variable (h : (a.exec t { storage := .file x, appendEpoch := e }).2
  = { storage := .file c, appendEpoch := e' })

include h

/-- What one effect does to the file and the epoch. -/
theorem exec_cases :
    (a = .store (.file c) ∧ e' = e) ∨ (a.advances = true ∧ c = x ∧ e' = e + 1) ∨
      ((∀ s, a ≠ .store s) ∧ a.advances = false ∧ c = x ∧ e' = e) := by
  cases a with
  | store s =>
    cases h
    exact .inl ⟨rfl, rfl⟩
  | bump | advance =>
    cases h
    exact .inr (.inl ⟨rfl, rfl, rfl⟩)
  | publish | see | observe | latch | unlatch =>
    cases h
    exact .inr (.inr ⟨by simp, rfl, rfl, rfl⟩)

/-- The epoch never goes back. -/
theorem exec_epoch_le (hroom : e.toNat + 1 < 2 ^ 64) : e.toNat ≤ e'.toNat := by
  obtain ⟨-, rfl⟩ | ⟨-, -, rfl⟩ | ⟨-, -, -, rfl⟩ := exec_cases h
  · exact Nat.le_refl _
  · rw [epoch_succ hroom]
    exact Nat.le_succ _
  · exact Nat.le_refl _

/-- Who relied on the script before an effect may rely on the rest of it afterwards, unless the
    effect advanced the epoch. -/
theorem visible_effect {g : Result AppendState}
    (hbefore : Due (a :: rest) = true ∨ (guardIn cfg x = g ∧ Harmless cfg x (a :: rest))) :
    e' = e + 1 ∨
      (e' = e ∧ (Due rest = true ∨ (guardIn cfg c = g ∧ Harmless cfg c rest))) := by
  obtain ⟨rfl, rfl⟩ | ⟨-, -, rfl⟩ | ⟨hstore, hplain, rfl, rfl⟩ := exec_cases h
  · refine .inr ⟨rfl, ?_⟩
    obtain hdue | ⟨hguard, hsame, hrest⟩ := hbefore
    · exact .inl hdue
    · exact .inr ⟨(hsame c (.inl rfl)).trans hguard, hrest⟩
  · exact .inl rfl
  · refine .inr ⟨rfl, ?_⟩
    obtain hdue | ⟨hguard, hharmless⟩ := hbefore
    · left
      unfold Due at hdue ⊢
      rw [List.any_cons, hplain, Bool.false_or] at hdue
      exact hdue
    · exact .inr ⟨hguard, hharmless.tail hstore⟩

/-- A target stays on the way its script leads. -/
theorem Ends.effect (hle : e.toNat ≤ e'.toNat) (hends : Ends cfg x t e (a :: rest)) :
    Ends cfg c (a.exec t { storage := .file x, appendEpoch := e }).1 e' rest := by
  obtain hlatched | ⟨d, hstorage, hguard⟩ | ⟨hstale, hclaims⟩ := hends
  · left
    cases a <;> exact hlatched
  · right
    left
    refine ⟨d, ?_, ?_⟩
    · cases a with
      | store s | publish | see | observe | bump | advance | latch | unlatch =>
        cases h
        exact hstorage
    · cases a <;> exact hguard
  · right
    right
    rw [List.any_cons, Bool.or_eq_false_iff] at hclaims
    -- Only an effect that claims an epoch changes the one the target has seen.
    have hkept : (a.exec t { storage := .file x, appendEpoch := e }).1.lastSeenAppendEpoch =
        t.lastSeenAppendEpoch := by
      cases a with
      | see | observe | advance => exact absurd hclaims.1 Bool.true_eq_false.mp
      | store | publish | bump | latch | unlatch => rfl
    rw [hkept]
    exact ⟨Nat.lt_of_lt_of_le hstale hle, hclaims.2⟩

/-- An effect records no epoch from the future. -/
theorem exec_seen (hroom : e.toNat + 1 < 2 ^ 64) (hsees : ∀ k, a = .see k → k.toNat ≤ e.toNat)
    (hseen : t.lastSeenAppendEpoch.toNat ≤ e.toNat) :
    (a.exec t { storage := .file x, appendEpoch := e }).1.lastSeenAppendEpoch.toNat ≤ e'.toNat := by
  have hle := exec_epoch_le h hroom
  cases a with
  | see k => exact Nat.le_trans (hsees k rfl) hle
  | observe => exact hle
  | advance =>
    cases h
    exact Nat.le_refl _
  | store | publish | bump | latch | unlatch => exact Nat.le_trans hseen hle

end

/-! ## §6. Every step. -/

variable {rest acts : List Act} {a : Act} {c : Bytes} {e : UInt64}

section

variable {cfg : StoreConfig} {w : World}

theorem rest_of_free (h : w.lock = none) : w.rest = [] := by
  unfold World.rest
  rw [h]

variable {i : Nat}

theorem rest_of_entered (h : w.lock = some (.entered i)) : w.rest = [] := by
  unfold World.rest
  rw [h]

variable {owner : Owner}

theorem rest_of_running (h : w.lock = some (.running owner rest)) :
    w.rest = rest := by
  unfold World.rest
  rw [h]

theorem runner_of_free (h : w.lock = none) : w.runner = none := by
  unfold World.runner
  rw [h]

theorem runner_of_entered (h : w.lock = some (.entered i)) : w.runner = none := by
  unfold World.runner
  rw [h]

theorem runner_of_running {r : Bool} (h : w.lock = some (.running (.target i r) rest)) :
    w.runner = some i := by
  unfold World.runner
  rw [h]

theorem lock_of_runner (h : w.runner = some i) :
    ∃ r rest, w.lock = some (.running (.target i r) rest) := by
  unfold World.runner at h
  split at h
  next j r rest hlock =>
    cases h
    exact ⟨r, rest, hlock⟩
  next => cases h

/-- With no operation running, who owns the epoch has the guard state of the file. -/
theorem Current.guard (h : Current cfg w t) (hrest : w.rest = []) :
    guardIn cfg w.content = .ok t.assistantOutputState := by
  unfold Current at h
  rw [hrest] at h
  obtain hdue | ⟨hguard, -⟩ := h
  · cases hdue
  · exact hguard

theorem withStage_eq {stages : Nat → Stage} {j : Nat} {s s' : Stage}
    (h : withStage stages i s j = s') : (j = i ∧ s' = s) ∨ (j ≠ i ∧ stages j = s') := by
  unfold withStage at h
  by_cases hj : j = i
  · rw [if_pos hj] at h
    exact .inl ⟨hj, h.symm⟩
  · rw [if_neg hj] at h
    exact .inr ⟨hj, h⟩

theorem withStage_of_ne {stages : Nat → Stage} {j : Nat} {s : Stage} (h : j ≠ i) :
    withStage stages i s j = stages j := if_neg h

theorem withTarget_of_ne {ts : Nat → Option Target} {j : Nat} {u : Target} (h : j ≠ i) :
    withTarget ts i u j = ts j := if_neg h

section

variable (h : Inv cfg w)

include h

/-- The target of an operation that has just taken the lock. -/
theorem Inv.ends (htarget : w.targets i = some t)
    (hlock : w.lock = some (.entered i)) : Ends cfg w.content t w.epoch [] := by
  by_cases hlatched : t.recoveryRequired = true
  · exact .inl hlatched
  · rw [Bool.not_eq_true] at hlatched
    have hseen := h.seen i t htarget
    by_cases hnow : t.lastSeenAppendEpoch = w.epoch
    · refine .inr (.inl ⟨w.content, rfl, ?_⟩)
      refine (h.current i t htarget ?_ hlatched hnow).guard (rest_of_entered hlock)
      rw [runner_of_entered hlock]
      simp
    · refine .inr (.inr ⟨Nat.lt_of_le_of_ne hseen ?_, rfl⟩)
      intro heq
      exact hnow (UInt64.toNat_inj.mp heq)

theorem Inv.create {lease : SessionLease} {limits : SessionReadLimits}
    {fault : Option ReadFault} (hnew : w.targets i = none)
    (hcreated : createPersistent cfg lease limits fault w.content = .ok t) :
    Inv cfg { w with targets := withTarget w.targets i t } := by
  have ht : t.lastSeenAppendEpoch = 0 ∧ guardIn cfg w.content = .ok t.assistantOutputState := by
    unfold createPersistent at hcreated
    split at hcreated
    next => cases hcreated
    next history hload =>
      obtain ⟨state, hstate, rfl⟩ := map_eq_ok_iff.mp hcreated
      exact ⟨rfl, guardIn_eq_ok_iff.mpr ⟨history, recordsIn_of_loadLeased hload, hstate⟩⟩
  have hbusy : ∀ j, w.lock = some (.entered j) ∨ w.runner = some j → j ≠ i := by
    rintro j hj rfl
    exact (h.busy j hj).2 hnew
  refine ⟨?_, ?_, h.visible, h.reloaded, ?_, ?_⟩
  · intro j u hu
    obtain ⟨-, rfl⟩ | ⟨-, hu⟩ := withTarget_eq_some hu
    · rw [ht.1]
      exact Nat.zero_le _
    · exact h.seen j u hu
  · intro j u hu hrunner hlatched hnow
    obtain ⟨-, rfl⟩ | ⟨-, hu⟩ := withTarget_eq_some hu
    · -- it has seen no epoch at all, so nobody has advanced it yet
      rw [ht.1] at hnow
      obtain hdue | hharmless := h.visible hnow.symm
      · exact .inl hdue
      · exact .inr ⟨ht.2, hharmless⟩
    · exact h.current j u hu hrunner hlatched hnow
  · intro j r rest u hlock hu
    obtain ⟨rfl, -⟩ | ⟨-, hu⟩ := withTarget_eq_some hu
    · exact absurd rfl (hbusy j (.inr (runner_of_running hlock)))
    · exact h.runs j r rest u hlock hu
  · intro j hj
    obtain ⟨hidle, htarget⟩ := h.busy j hj
    exact ⟨hidle, (withTarget_of_ne (hbusy j hj)).trans_ne htarget⟩

theorem Inv.acquire (htarget : w.targets i = some t) (hidle : w.stages i = .idle)
    (hlock : w.lock = none) :
    Inv cfg { w with lock := some (.entered i) } := by
  refine ⟨h.seen, ?_, fun _ => .inr trivial, h.reloaded, ?_, ?_⟩
  · intro j u hu _ hlatched hnow
    have hcurrent := h.current j u hu (by rw [runner_of_free hlock]; simp) hlatched hnow
    exact .inr ⟨hcurrent.guard (rest_of_free hlock), trivial⟩
  · intro j r rest u hrunning
    cases hrunning
  · intro j hj
    obtain hj | hj := hj
    · cases hj
      exact ⟨hidle, by rw [htarget]; simp⟩
    · cases hj

/-- An operation that begins: its script tells the others, and its own target comes out right. -/
theorem Inv.begin (hrest : w.rest = []) (hrunner : w.runner = none)
    {targets : Nat → Option Target} (hvisible : Due acts = true ∨ Harmless cfg w.content acts)
    (hothers : ∀ j u, targets j = some u → w.targets j = some u ∨ ∃ r, owner = .target j r)
    (hown : ∀ j r, owner = .target j r → w.stages j = .idle ∧
      ∃ u, targets j = some u ∧ u.lastSeenAppendEpoch.toNat ≤ w.epoch.toNat ∧
        Ends cfg w.content u w.epoch acts ∧ (∀ e, .see e ∈ acts → e = w.epoch) ∧
        (r = true → guardIn cfg w.content = .ok u.assistantOutputState)) :
    Inv cfg { w with targets := targets, lock := some (.running owner acts) } := by
  refine ⟨?_, ?_, fun _ => hvisible, h.reloaded, ?_, ?_⟩
  · intro j u hu
    obtain hu' | ⟨r, howner⟩ := hothers j u hu
    · exact h.seen j u hu'
    · obtain ⟨-, v, hv, hseen, -⟩ := hown j r howner
      rw [show targets j = some u from hu] at hv
      cases hv
      exact hseen
  · intro j u hu hnot hlatched hnow
    obtain hu' | ⟨r, rfl⟩ := hothers j u hu
    · have hcurrent := h.current j u hu' (by rw [hrunner]; simp) hlatched hnow
      have hguard := hcurrent.guard hrest
      obtain hdue | hharmless := hvisible
      · exact .inl hdue
      · exact .inr ⟨hguard, hharmless⟩
    · exact absurd rfl hnot
  · intro j r rest u hlock hu
    cases hlock
    obtain ⟨-, v, hv, -, hends, hsees, hcached⟩ := hown j r rfl
    rw [show targets j = some u from hu] at hv
    cases hv
    exact ⟨hends, fun e he => by rw [hsees e he], hcached⟩
  · intro j hj
    obtain hj | hj := hj
    · cases hj
    · obtain ⟨r, rest, hlock⟩ := lock_of_runner hj
      cases hlock
      obtain ⟨hidle, u, hu, -⟩ := hown j r rfl
      refine ⟨hidle, ?_⟩
      show targets j ≠ none
      rw [hu]
      simp

variable {io : MutationIo} {m : Mutation}

theorem Inv.mutate (hsax : SaxContract cfg.sax) (htarget : w.targets i = some t)
    (hlock : w.lock = some (.entered i)) (hquiet : io.Quiet) :
    Inv cfg
      { w with
        lock := some (.running (.target i false) (Session.mutate cfg t io w.shared m).acts) } := by
  have hplan : Plan cfg w.content t w.shared.appendEpoch (Session.mutate cfg t io w.shared m).acts :=
    mutate_plan hsax hquiet rfl (h.ends htarget hlock) m
  refine h.begin (rest_of_entered hlock) (runner_of_entered hlock) hplan.visible
    (fun j u hu => .inl hu) ?_
  intro j r howner
  cases howner
  exact ⟨(h.busy i (.inl hlock)).1, t, htarget, h.seen i t htarget, hplan.ends, hplan.seen,
    by simp⟩

variable {state : AppendState}

omit h in
/-- A mutation that has passed its refresh continues from the refreshed target. -/
theorem mutate_of_refreshed (hsax : SaxContract cfg.sax) {x : Bytes} {sh : Shared}
    (hquiet : io.Quiet) (hsh : sh.storage = .file x) (hends : Ends cfg x t sh.appendEpoch [])
    (h : refreshed cfg t io sh m = some (state, acts)) :
    guardIn cfg x = .ok state ∧
      execAll acts t sh =
        ({ t with assistantOutputState := state, lastSeenAppendEpoch := sh.appendEpoch }, sh) ∧
      Plan cfg x { t with assistantOutputState := state, lastSeenAppendEpoch := sh.appendEpoch }
        sh.appendEpoch ((Session.mutate cfg t io sh m).acts.drop acts.length) := by
  cases m with
  | append entry =>
    unfold refreshed at h
    dsimp only at h
    split at h
    next => cases h
    next hopen =>
      split at h
      next r hrefresh =>
        cases h
        have hopen' : t.recoveryRequired = false := by simpa using hopen
        obtain ⟨hguard, hexec⟩ := refreshStateIfStale_guard hsh hopen' hends hrefresh
        have hacts : (Session.mutate cfg t io sh (.append entry)).acts =
            acts ++ (appendLocked cfg t io sh entry state).acts := by
          show (Session.append cfg t io sh entry).acts = _
          unfold Session.append
          rw [if_neg hopen, hrefresh]
          rfl
        rw [hacts, List.drop_left]
        exact ⟨hguard, hexec, appendLocked_plan hsax hquiet hsh hguard (.of_guard hguard)⟩
      next => cases h
  | appendBatch entries =>
    unfold refreshed at h
    dsimp only at h
    split at h
    next => cases h
    next hopen =>
      split at h
      next => cases h
      next hchecks =>
        split at h
        next r hrefresh =>
          cases h
          have hopen' : t.recoveryRequired = false := by simpa using hopen
          obtain ⟨hguard, hexec⟩ := refreshStateIfStale_guard hsh hopen' hends hrefresh
          have hacts : (Session.mutate cfg t io sh (.appendBatch entries)).acts =
              acts ++ (batchLocked cfg t io sh entries state).acts := by
            show (Session.appendBatch cfg t io sh entries).acts = _
            unfold Session.appendBatch
            rw [if_neg hopen, hchecks, hrefresh]
            rfl
          rw [hacts, List.drop_left]
          exact ⟨hguard, hexec, batchLocked_plan hsax hquiet hsh hguard (.of_guard hguard)⟩
        next => cases h
  | appendBranchSummaryIfAbsent entry | appendCompactionIfSnapshotMatches entry expected => cases h

theorem Inv.mutateRefreshed (hsax : SaxContract cfg.sax) (htarget : w.targets i = some t)
    (hlock : w.lock = some (.entered i)) (hquiet : io.Quiet)
    (hrefreshed : refreshed cfg t io w.shared m = some (state, acts)) :
    Inv cfg
      { w with
        targets := withTarget w.targets i (execAll acts t w.shared).1
        lock := some (.running (.target i true)
          ((Session.mutate cfg t io w.shared m).acts.drop acts.length)) } := by
  obtain ⟨hguard, hexec, hplan⟩ :=
    mutate_of_refreshed hsax hquiet rfl (h.ends htarget hlock) hrefreshed
  rw [hexec]
  refine h.begin (rest_of_entered hlock) (runner_of_entered hlock) hplan.visible ?_ ?_
  · intro j u hu
    obtain ⟨rfl, -⟩ | ⟨-, hu⟩ := withTarget_eq_some hu
    · exact .inr ⟨true, rfl⟩
    · exact .inl hu
  · intro j r howner
    cases howner
    refine ⟨(h.busy i (.inl hlock)).1, _, if_pos rfl, Nat.le_refl _, hplan.ends, hplan.seen,
      fun _ => hguard⟩

/-- An operation of the store, or a repair of a `recover`. -/
theorem Inv.call (hsax : SaxContract cfg.sax) (hlock : w.lock = none)
    (howner : ∀ i r, owner ≠ .target i r) (c : StoreCall) :
    Inv cfg { w with lock := some (.running owner (c.acts cfg w.content)) } := by
  refine h.begin (rest_of_free hlock) (runner_of_free hlock) (c.visible hsax)
    (fun j u hu => .inl hu) ?_
  intro j r heq
  exact absurd heq (howner j r)

theorem Inv.reload {fault : Option ReadFault} (hstage : w.stages i = .stagedRepaired) :
    Inv cfg
      { w with
        stages := withStage w.stages i (.afterReload (t.rebuild cfg fault (.file w.content))) } := by
  refine { h with reloaded := ?_, busy := ?_ }
  · intro j s hs
    obtain ⟨-, hs⟩ | ⟨-, hs⟩ := withStage_eq hs
    · unfold Target.rebuild at hs
      split at hs
      next => cases hs
      next history hload =>
        cases hstate : AppendState.fromValidatedHistory history with
        | error e =>
          rw [hstate] at hs
          cases hs
        | ok state =>
          rw [hstate] at hs
          cases hs
          exact guardIn_of_load hload hstate
    · exact h.reloaded j s hs
  · intro j hj
    obtain ⟨hidle, htarget⟩ := h.busy j hj
    refine ⟨(withStage_of_ne ?_).trans hidle, htarget⟩
    rintro rfl
    rw [hstage] at hidle
    cases hidle

theorem Inv.claim (hstage : w.stages i = .reloaded state)
    (hroom : w.epoch.toNat + 1 < 2 ^ 64) (hahead : (∀ st, .store st ∉ w.rest) ∨ Due w.rest = true) :
    Inv cfg
      { w with
        targets := withTarget w.targets i
          (execAll [.publish state, .unlatch, .advance] t w.shared).1
        epoch := (execAll [.publish state, .unlatch, .advance] t w.shared).2.appendEpoch
        stages := withStage w.stages i .idle } := by
  have hepoch : (w.epoch + 1).toNat = w.epoch.toNat + 1 := epoch_succ hroom
  -- the claiming target is not the one whose mutation is running
  have hother : ∀ j, w.lock = some (.entered j) ∨ w.runner = some j → j ≠ i := by
    rintro j hj rfl
    have hidle := (h.busy j hj).1
    rw [hstage] at hidle
    cases hidle
  refine ⟨?_, ?_, ?_, ?_, ?_, ?_⟩
  · intro j u hu
    show u.lastSeenAppendEpoch.toNat ≤ (w.epoch + 1).toNat
    obtain ⟨-, rfl⟩ | ⟨-, hu⟩ := withTarget_eq_some hu
    · exact Nat.le_refl _
    · have hseen := h.seen j u hu
      omega
  · intro j u hu hrunner hlatched hnow
    obtain ⟨-, rfl⟩ | ⟨-, hu⟩ := withTarget_eq_some hu
    · obtain hfree | hdue := hahead
      · exact .inr ⟨h.reloaded i state hstage, .of_no_store hfree⟩
      · exact .inl hdue
    · -- nobody else has seen the new epoch
      have hseen := h.seen j u hu
      rw [show u.lastSeenAppendEpoch = w.epoch + 1 from hnow] at hseen
      omega
  · intro hzero
    have hnat : (w.epoch + 1).toNat = 0 := by
      rw [show w.epoch + 1 = 0 from hzero]
      rfl
    omega
  · intro j s hs
    obtain ⟨-, hs⟩ | ⟨-, hs⟩ := withStage_eq hs
    · cases hs
    · exact h.reloaded j s hs
  · intro j r rest u hlock hu
    have hj : j ≠ i := hother j (.inr (runner_of_running hlock))
    obtain ⟨hij, -⟩ | ⟨-, hu⟩ := withTarget_eq_some hu
    · exact absurd hij hj
    · obtain ⟨hends, hsees, hcached⟩ := h.runs j r rest u hlock hu
      refine ⟨?_, ?_, hcached⟩
      · obtain hlatched | hguard | ⟨hstale, hclaims⟩ := hends
        · exact .inl hlatched
        · exact .inr (.inl hguard)
        · refine .inr (.inr ⟨?_, hclaims⟩)
          show u.lastSeenAppendEpoch.toNat < (w.epoch + 1).toNat
          omega
      · intro e he
        have hle := hsees e he
        show e.toNat ≤ (w.epoch + 1).toNat
        omega
  · intro j hj
    obtain ⟨hidle, htarget⟩ := h.busy j hj
    have hne := hother j hj
    exact ⟨(withStage_of_ne hne).trans hidle, (withTarget_of_ne hne).trans_ne htarget⟩

section

variable (hexec : (a.exec t w.shared).2 = { storage := .file c, appendEpoch := e })
  (hroom : w.epoch.toNat + 1 < 2 ^ 64)
  (hwindow : ∀ j s, w.stages j = .reloaded s → recordsIn cfg c = recordsIn cfg w.content)

include hexec hroom hwindow

/-- **ONE EFFECT OF THE LOCK HOLDER.**  The others keep what they rely on; what the effect does
    to its own target is given. -/
theorem Inv.afterEffect {owner' : Owner} {targets : Nat → Option Target}
    (hlock : w.lock = some (.running owner (a :: rest)))
    (hsame : ∀ j, (∃ r, owner' = .target j r) ↔ ∃ r, owner = .target j r)
    (hothers : ∀ j u, targets j = some u → w.targets j = some u ∨ ∃ r, owner' = .target j r)
    (hown : ∀ j r, owner' = .target j r → ∃ u, targets j = some u ∧
      u.lastSeenAppendEpoch.toNat ≤ e.toNat ∧ Runs cfg c e u r rest) :
    Inv cfg { w with content := c, epoch := e, targets := targets,
                     lock := some (.running owner' rest) } := by
  have hrest := rest_of_running hlock
  have hle := exec_epoch_le hexec hroom
  refine ⟨?_, ?_, ?_, ?_, ?_, ?_⟩
  · intro j u hu
    obtain hu' | ⟨r, howner⟩ := hothers j u hu
    · exact Nat.le_trans (h.seen j u hu') hle
    · obtain ⟨v, hv, hseen, -⟩ := hown j r howner
      rw [show targets j = some u from hu] at hv
      cases hv
      exact hseen
  · intro j u hu hnot hlatched hnow
    obtain hu' | ⟨r, rfl⟩ := hothers j u hu
    · have hseen := h.seen j u hu'
      have hfree : w.runner ≠ some j := by
        intro hrun
        obtain ⟨r, rest', hlock'⟩ := lock_of_runner hrun
        rw [hlock] at hlock'
        cases hlock'
        obtain ⟨r', rfl⟩ := (hsame j).mpr ⟨r, rfl⟩
        exact hnot rfl
      by_cases hbefore : u.lastSeenAppendEpoch = w.epoch
      · have hcurrent := h.current j u hu' hfree hlatched hbefore
        unfold Current at hcurrent
        rw [hrest] at hcurrent
        obtain hnext | ⟨-, hvisible⟩ := visible_effect hexec hcurrent
        · have hsucc := epoch_succ hroom
          rw [← hnext, ← show u.lastSeenAppendEpoch = e from hnow, hbefore] at hsucc
          omega
        · exact hvisible
      · -- its epoch was out of date, and the epoch only grows
        have hnext : u.lastSeenAppendEpoch = e := hnow
        obtain ⟨-, hsame'⟩ | ⟨-, -, hsucc⟩ | ⟨-, -, -, hsame'⟩ := exec_cases hexec
        · exact absurd (hnext.trans hsame') hbefore
        · rw [hnext, hsucc, epoch_succ hroom] at hseen
          omega
        · exact absurd (hnext.trans hsame') hbefore
    · exact absurd rfl hnot
  · intro hzero
    have hzero' : e = 0 := hzero
    by_cases hbefore : w.epoch = 0
    · have hvisible := h.visible hbefore
      rw [hrest] at hvisible
      have hguarded : Due (a :: rest) = true ∨
          (guardIn cfg w.content = guardIn cfg w.content ∧ Harmless cfg w.content (a :: rest)) :=
        hvisible.imp_right fun hharmless => ⟨rfl, hharmless⟩
      obtain hnext | ⟨-, hafter⟩ := visible_effect hexec hguarded
      · have hsucc := epoch_succ hroom
        rw [← hnext, hzero'] at hsucc
        cases hsucc
      · exact hafter.imp_right And.right
    · refine absurd (UInt64.toNat_inj.mp ?_) hbefore
      rw [hzero'] at hle
      exact Nat.le_zero.mp hle
  · intro j s hs
    rw [show guardIn cfg c = guardIn cfg w.content from guardIn_congr (hwindow j s hs)]
    exact h.reloaded j s hs
  · intro j r rest' u hlock' hu
    cases hlock'
    obtain ⟨v, hv, -, hruns⟩ := hown j r rfl
    rw [show targets j = some u from hu] at hv
    cases hv
    exact hruns
  · intro j hj
    obtain hj | hj := hj
    · cases hj
    · obtain ⟨r, rest', hlock'⟩ := lock_of_runner hj
      cases hlock'
      obtain ⟨r', rfl⟩ := (hsame j).mp ⟨r, rfl⟩
      have hidle := (h.busy j (.inr (runner_of_running hlock))).1
      refine ⟨hidle, ?_⟩
      obtain ⟨v, hv, -⟩ := hown j r rfl
      show targets j ≠ none
      rw [hv]
      simp

theorem Inv.effect {r : Bool}
    (hlock : w.lock = some (.running (.target i r) (a :: rest))) (htarget : w.targets i = some t) :
    Inv cfg
      { w with
        content := c
        epoch := e
        targets := withTarget w.targets i (a.exec t w.shared).1
        lock := some (.running (.target i false) rest) } := by
  obtain ⟨hends, hsees, -⟩ := h.runs i r _ t hlock htarget
  have hle := exec_epoch_le hexec hroom
  have hseen : (a.exec t w.shared).1.lastSeenAppendEpoch.toNat ≤ e.toNat :=
    exec_seen hexec hroom (fun k hk => hsees k (by rw [hk]; exact List.mem_cons_self))
      (h.seen i t htarget)
  refine h.afterEffect hexec hroom hwindow hlock ?_ ?_ ?_
  · intro j
    constructor
    · rintro ⟨_, heq⟩
      cases heq
      exact ⟨r, rfl⟩
    · rintro ⟨_, heq⟩
      cases heq
      exact ⟨false, rfl⟩
  · intro j u hu
    obtain ⟨rfl, -⟩ | ⟨-, hu⟩ := withTarget_eq_some hu
    · exact .inr ⟨false, rfl⟩
    · exact .inl hu
  · intro j r' howner
    cases howner
    refine ⟨_, if_pos rfl, hseen, hends.effect hexec hle, ?_, by simp⟩
    intro k hk
    exact Nat.le_trans (hsees k (List.mem_cons_of_mem _ hk)) hle

theorem Inv.storeEffect (howner : ∀ i r, owner ≠ .target i r)
    (hlock : w.lock = some (.running owner (a :: rest))) :
    Inv cfg { w with content := c, epoch := e, lock := some (.running owner rest) } := by
  refine h.afterEffect hexec hroom hwindow hlock (fun _ => Iff.rfl) (fun j u hu => .inl hu) ?_
  intro j r heq
  exact absurd heq (howner j r)

end

/-- A part of a write: whoever may rely on the whole of it may rely on a part. -/
theorem Inv.write {y : Bytes}
    (hlock : w.lock = some (.running owner (.store (.file c) :: rest))) (hgrown : w.content <+: y)
    (hahead : y <+: c)
    (hwindow : ∀ j s, w.stages j = .reloaded s → recordsIn cfg y = recordsIn cfg w.content) :
    Inv cfg
      { w with content := y, lock := some (.running owner.touched (.store (.file c) :: rest)) } := by
  have hrest := rest_of_running hlock
  have hbusy : ∀ j, (∃ r, owner.touched = .target j r) → ∃ r, owner = .target j r := by
    rintro j ⟨r, hr⟩
    cases owner with
    | store | recovery i ok => cases hr
    | target i r' =>
      cases hr
      exact ⟨r', rfl⟩
  have hrunner : ∀ j, w.runner = some j → ∃ r, owner.touched = .target j r := by
    intro j hj
    obtain ⟨r, rest', hlock'⟩ := lock_of_runner hj
    rw [hlock] at hlock'
    cases hlock'
    exact ⟨false, rfl⟩
  refine ⟨h.seen, ?_, ?_, ?_, ?_, ?_⟩
  · intro j u hu hnot hlatched hnow
    have hfree : w.runner ≠ some j := by
      intro hrun
      obtain ⟨r, hr⟩ := hrunner j hrun
      refine hnot ?_
      unfold World.runner
      dsimp only
      rw [hr]
    have hcurrent := h.current j u hu hfree hlatched hnow
    unfold Current at hcurrent
    rw [hrest] at hcurrent
    obtain hdue | ⟨hguard, hharmless⟩ := hcurrent
    · exact .inl hdue
    · exact .inr ⟨(hharmless.1 y (.inr ⟨hgrown, hahead⟩)).trans hguard,
        hharmless.between hgrown hahead⟩
  · intro hzero
    have hvisible := h.visible hzero
    rw [hrest] at hvisible
    exact hvisible.imp_right fun hharmless => hharmless.between hgrown hahead
  · intro j s hs
    rw [show guardIn cfg y = guardIn cfg w.content from guardIn_congr (hwindow j s hs)]
    exact h.reloaded j s hs
  · intro j r rest' u hlock' hu
    obtain ⟨howner, rfl⟩ := Held.running.inj (Option.some.inj hlock')
    obtain ⟨r', rfl⟩ := hbusy j ⟨r, howner⟩
    cases howner
    obtain ⟨hends, hsees, -⟩ := h.runs j r' _ u hlock hu
    exact ⟨hends, hsees, by simp⟩
  · intro j hj
    obtain hj | hj := hj
    · cases hj
    · obtain ⟨r, rest', hlock'⟩ := lock_of_runner hj
      obtain ⟨howner, -⟩ := Held.running.inj (Option.some.inj hlock')
      obtain ⟨r', rfl⟩ := hbusy j ⟨r, howner⟩
      exact h.busy j (.inr (runner_of_running hlock))

theorem Inv.release (hlock : w.lock = some (.running owner [])) :
    Inv cfg { w with lock := none, stages := owner.release w.stages } := by
  have hrest := rest_of_running hlock
  refine ⟨h.seen, ?_, fun _ => .inr trivial, ?_, ?_, ?_⟩
  · intro j u hu _ hlatched hnow
    by_cases hrun : w.runner = some j
    · -- the target whose mutation has ended
      obtain ⟨r, rest, hlock'⟩ := lock_of_runner hrun
      have hsame := hlock'
      rw [hlock] at hsame
      cases hsame
      obtain hlatched' | ⟨c, hstorage, hguard⟩ | ⟨hstale, -⟩ := (h.runs j r [] u hlock' hu).ends
      · rw [latchedAfter, hlatched] at hlatched'
        cases hlatched'
      · cases hstorage
        exact .inr ⟨hguard, trivial⟩
      · rw [hnow] at hstale
        exact absurd hstale (Nat.lt_irrefl _)
    · exact .inr ⟨(h.current j u hu hrun hlatched hnow).guard hrest, trivial⟩
  · intro j s hs
    have hstages : w.stages j = .reloaded s := by
      cases owner with
      | store | target => exact hs
      | recovery i ok =>
        obtain ⟨rfl, hs⟩ | ⟨-, hs⟩ := withStage_eq hs
        · cases ok with
          | false => cases hs
          | true =>
            cases hstage : w.stages j with
            | idle | tornRepaired | stagedRepaired =>
              rw [hstage] at hs
              cases hs
            | reloaded s' =>
              rw [hstage] at hs
              exact hs.symm
        · exact hs
    exact h.reloaded j s hstages
  · intro j r rest u hlock'
    cases hlock'
  · intro j hj
    obtain hj | hj := hj <;> cases hj

theorem Inv.step (hsax : SaxContract cfg.sax) {w' : World} (hstep : Step cfg w w')
    (hcalm : Calm cfg w w') : Inv cfg w' := by
  have hroom := hcalm.room
  cases hstep with
  | create i lease limits fault t hnew hcreated => exact h.create hnew hcreated
  | acquire i t htarget hidle hlock => exact h.acquire htarget hidle hlock
  | mutateRefreshed i t io m state acts htarget hlock hquiet hrefreshed =>
    exact h.mutateRefreshed hsax htarget hlock hquiet hrefreshed
  | mutate i t io m htarget hlock hquiet hrefreshed => exact h.mutate hsax htarget hlock hquiet
  | call c hlock => exact h.call hsax hlock (by simp) c
  | repairTorn i t lease io htarget hlease hidle hlock => exact h.call hsax hlock (by simp) _
  | repairStaged i t lease io htarget hlease hstage hlock => exact h.call hsax hlock (by simp) _
  | reload i t fault htarget hstage => exact h.reload hstage
  | claim i t state htarget hstage =>
    exact h.claim hstage hroom (hcalm.claims i state hstage (if_pos rfl))
  | effect i r a rest t c e hlock htarget hexec =>
    exact h.effect hexec hroom hcalm.window hlock htarget
  | storeEffect owner a rest t c e howner hlock hexec =>
    exact h.storeEffect hexec hroom hcalm.window howner hlock
  | write owner y c rest hlock hgrown hahead => exact h.write hlock hgrown hahead hcalm.window
  | release owner hlock => exact h.release hlock

end

theorem Run.inv (hsax : SaxContract cfg.sax) (h : Run cfg (Calm cfg) w) : Inv cfg w := by
  induction h with
  | start content => exact inv_start cfg content
  | step hrun hstep hcalm ih => exact ih.step hsax hstep hcalm

/-! ## §7. The caches are coherent. -/

/-- **COHERENCE OF THE APPEND CACHES.**  A mutation that has passed its refresh works on the
    guard state of the records in the file; so does every target that owns the current epoch
    while nobody holds the lock; and no file a mutation leaves makes the classifier report an
    error. -/
structure CacheCoherent (cfg : StoreConfig) (w : World) : Prop where
  refreshed : ∀ i rest t, w.lock = some (.running (.target i true) rest) → w.targets i = some t →
    ∃ records, recordsIn cfg w.content = .ok records ∧
      AppendState.fromValidatedHistory records = .ok t.assistantOutputState
  current : ∀ i t, w.lock = none → w.targets i = some t → t.recoveryRequired = false →
    t.lastSeenAppendEpoch = w.epoch →
    ∃ records, recordsIn cfg w.content = .ok records ∧
      AppendState.fromValidatedHistory records = .ok t.assistantOutputState
  accepts : ∀ i t io m, w.lock = some (.entered i) → w.targets i = some t → io.Quiet →
    ∀ c, .store (.file c) ∈ (Session.mutate cfg t io w.shared m).acts → c = w.content ∨
      ∃ records, recordsIn cfg c = .ok records ∧
        (classifyAssistantOutput records).errorFree = true

/-- In every world that is reached by calm steps the append caches are coherent. -/
theorem caches_coherent_of_calm (hsax : SaxContract cfg.sax) (hrun : Run cfg (Calm cfg) w) :
    CacheCoherent cfg w := by
  have hinv := hrun.inv hsax
  refine ⟨?_, ?_, ?_⟩
  · intro i rest t hlock htarget
    exact guardIn_eq_ok_iff.mp ((hinv.runs i true rest t hlock htarget).cached rfl)
  · intro i t hlock htarget hlatched hnow
    have hrunner : w.runner ≠ some i := by
      rw [runner_of_free hlock]
      simp
    have hcurrent := hinv.current i t htarget hrunner hlatched hnow
    exact guardIn_eq_ok_iff.mp (hcurrent.guard (rest_of_free hlock))
  · intro i t io m hlock htarget hquiet c hstore
    have hplan : Plan cfg w.content t w.shared.appendEpoch (Session.mutate cfg t io w.shared m).acts :=
      mutate_plan hsax hquiet rfl (hinv.ends htarget hlock) m
    obtain hsame | ⟨d, g, hfile, hguard⟩ := hplan.valid _ hstore
    · cases hsame
      exact .inl rfl
    · cases hfile
      obtain ⟨records, hrecords, hstate⟩ := guardIn_eq_ok_iff.mp hguard
      refine .inr ⟨records, hrecords, ?_⟩
      exact (errorFree_iff_clean _).mpr (fromValidatedHistory_eq_ok_iff.mp hstate).1

end

variable {w : World}

/-- The step is calm as long as no `recover` is on its way. -/
theorem calm_of_idle {cfg : StoreConfig} {w' : World} (hidle : ∀ i, w.stages i = .idle)
    (hroom : w.epoch = 0) : Calm cfg w w' := by
  refine ⟨?_, ?_, by rw [hroom]; decide⟩
  · intro i s hs
    rw [hidle] at hs
    cases hs
  · intro i s hs
    rw [hidle] at hs
    cases hs

/-- A target that has just been created and appends: its refresh passes on the guard state of
    the empty file. -/
theorem caches_coherent_first_append :
    ∃ w t rest, Run cutLineStore (Calm cutLineStore) w ∧
      w.lock = some (.running (.target 0 true) rest) ∧ w.targets 0 = some t ∧
      ∃ records, recordsIn cutLineStore w.content = .ok records ∧
        AppendState.fromValidatedHistory records = .ok t.assistantOutputState := by
  have hcreated : createPersistent cutLineStore twoLineLease {} none [] = .ok firstTarget := by
    decide
  have hrefreshed : refreshed cutLineStore firstTarget {} { storage := .file [] } (.append plainEntry)
      = some ({}, []) := by
    decide
  have hcreate : Run cutLineStore (Calm cutLineStore) _ :=
    .step (.start []) (.create 0 twoLineLease {} none firstTarget rfl hcreated)
      (calm_of_idle (fun _ => rfl) rfl)
  have hacquire := Run.step hcreate (.acquire 0 firstTarget rfl rfl rfl)
    (calm_of_idle (fun _ => rfl) rfl)
  have hmutate := Run.step hacquire (.mutateRefreshed 0 firstTarget {} (.append plainEntry) {} []
    rfl rfl ⟨rfl, fun _ => rfl⟩ hrefreshed) (calm_of_idle (fun _ => rfl) rfl)
  exact ⟨_, firstTarget, _, hmutate, rfl, rfl,
    (caches_coherent_of_calm cutLineSax_contract hmutate).refreshed 0 _ firstTarget rfl rfl⟩

/-! ## §8. A write inside the window. -/

set_option maxRecDepth 1024

/-- What the external parser reports on a staged call and on a message. -/
def stagedCallSax : SaxParser := fun value =>
  if value = sessionEntryLineText stagedCall then
    { events := envelopeEvents ++
        [.startObject, .key (ascii "schema_version"), .other, .key (ascii "assistant_turn_id"),
         .other, .key (ascii "sequence"), .other, .key (ascii "kind"), .other,
         .key (ascii "call_id"), .other, .key (ascii "name"), .other, .key (ascii "arguments"),
         .other, .endObject, .endObject]
      ok := true }
  else if value = sessionEntryLineText replyEntry then
    { events := envelopeEvents ++ [.startObject, .endObject, .endObject], ok := true }
  else { events := [], ok := false }

def stagedCallStore : StoreConfig := { twoLineStore with sax := stagedCallSax }

/-- What a run of two targets needs to know of a world. -/
structure Scene (w : World) (content : Bytes) (epoch : UInt64) (first second : Target)
    (stage : Stage) (lock : Option Held) : Prop where
  content : w.content = content
  epoch : w.epoch = epoch
  first : w.targets 0 = some first
  second : w.targets 1 = some second
  stage : w.stages 0 = stage
  idle : w.stages 1 = .idle
  lock : w.lock = lock

/-- A run without a condition on its steps. -/
def AnyRun : World → Prop := Run stagedCallStore fun _ _ => True

/-- What the append of the staged call publishes. -/
def stagedState : AppendState :=
  ((AppendState.fromValidatedHistory stagedCallHistory).toOption).getD {}

/-- The second target after it has staged the call. -/
def stagedTarget : Target :=
  { firstTarget with assistantOutputState := stagedState, lastSeenAppendEpoch := 0 + 1 }

/-- Two targets are created on an empty file. -/
theorem scene_created :
    ∃ w, AnyRun w ∧ Scene w [] 0 firstTarget firstTarget .idle none := by
  have hcreated : createPersistent stagedCallStore twoLineLease {} none [] = .ok firstTarget := by
    decide
  refine ⟨_, .step (.step (.start []) (.create 0 twoLineLease {} none firstTarget rfl hcreated)
    trivial) (.create 1 twoLineLease {} none firstTarget rfl hcreated) trivial, ?_⟩
  exact ⟨rfl, rfl, rfl, rfl, rfl, rfl, rfl⟩

variable {stage : Stage}

/-- The first target runs a repair that changes nothing. -/
theorem scene_repaired {ok : Bool} (hw : Scene w [] 0 firstTarget firstTarget stage none)
    (hok : ok = true) (hacts : acts = [.store (.file [])])
    (hrepair : Step stagedCallStore w { w with lock := some (.running (.recovery 0 ok) acts) })
    (hrun : AnyRun w) :
    ∃ w', AnyRun w' ∧ Scene w' [] 0 firstTarget firstTarget stage.next none := by
  subst hok hacts
  have hbegun := Run.step hrun hrepair trivial
  have hstored := Run.step hbegun (.storeEffect (.recovery 0 true) (.store (.file [])) []
    firstTarget [] 0 (by simp) rfl (by show Shared.mk _ w.epoch = _; rw [hw.epoch])) trivial
  refine ⟨_, Run.step hstored (.release (.recovery 0 true) rfl) trivial, ?_⟩
  refine { hw with content := rfl, epoch := rfl, stage := ?_, lock := rfl }
  show withStage w.stages 0 (w.stages 0).next 0 = stage.next
  rw [hw.stage]
  rfl

/-- Its `recover` has repaired and reloaded the file, and has not claimed an epoch yet. -/
theorem scene_reloaded :
    ∃ w, AnyRun w ∧ Scene w [] 0 firstTarget firstTarget (.reloaded {}) none := by
  obtain ⟨w, hrun, hw⟩ := scene_created
  obtain ⟨w, hrun, hw⟩ := scene_repaired hw (by rw [hw.content]; decide)
    (by rw [hw.content]; decide)
    (.repairTorn 0 firstTarget twoLineLease {} hw.first rfl hw.stage hw.lock) hrun
  obtain ⟨w, hrun, hw⟩ := scene_repaired hw (by rw [hw.content]; decide)
    (by rw [hw.content]; decide)
    (.repairStaged 0 firstTarget twoLineLease {} hw.first rfl hw.stage hw.lock) hrun
  refine ⟨_, Run.step hrun (.reload 0 firstTarget none hw.first hw.stage) trivial, ?_⟩
  refine { hw with stage := ?_ }
  show withStage w.stages 0 (.afterReload (firstTarget.rebuild stagedCallStore none (.file w.content))) 0
    = _
  unfold withStage
  rw [if_pos rfl, hw.content]
  decide

theorem Scene.shared {content : Bytes} {epoch : UInt64} {first second : Target}
    {lock : Option Held} (hw : Scene w content epoch first second stage lock) :
    w.shared = { storage := .file content, appendEpoch := epoch } := by
  unfold World.shared
  rw [hw.content, hw.epoch]

/-- The second target carries out the next effect of its mutation. -/
theorem scene_effect {c' : Bytes} {e' : UInt64} {first t' : Target} {r : Bool}
    (hw : Scene w c e first t stage (some (.running (.target 1 r) (a :: rest))))
    (hexec : a.exec t { storage := .file c, appendEpoch := e } =
      (t', { storage := .file c', appendEpoch := e' })) (hrun : AnyRun w) :
    ∃ w', AnyRun w' ∧
      Scene w' c' e' first t' stage (some (.running (.target 1 false) rest)) := by
  have hshared : a.exec t w.shared = (t', { storage := .file c', appendEpoch := e' }) := by
    rw [hw.shared, hexec]
  refine ⟨_, Run.step hrun (.effect 1 r a rest t c' e' hw.lock hw.second
    (congrArg Prod.snd hshared)) trivial, rfl, rfl, hw.first, ?_, hw.stage, hw.idle, rfl⟩
  show some (a.exec t w.shared).1 = some t'
  rw [hshared]

/-- The second target stages a call in the meantime. -/
theorem scene_staged :
    ∃ w, AnyRun w ∧
      Scene w (entryPayload stagedCall) 1 firstTarget stagedTarget (.reloaded {}) none := by
  obtain ⟨w, hrun, hw⟩ := scene_reloaded
  have hentered := Run.step hrun (.acquire 1 firstTarget hw.second hw.idle hw.lock) trivial
  have hrefreshed : refreshed stagedCallStore firstTarget {} w.shared (.append stagedCall)
      = some ({}, []) := by
    rw [hw.shared]
    decide
  have hbegun := Run.step hentered (.mutateRefreshed 1 firstTarget {} (.append stagedCall) {} []
    hw.second rfl ⟨rfl, fun _ => rfl⟩ hrefreshed) trivial
  have hacts : (mutate stagedCallStore firstTarget {} w.shared (.append stagedCall)).acts.drop 0 =
      [.store (.file (entryPayload stagedCall)), .publish stagedState,
        .advance] := by
    rw [hw.shared]
    decide
  -- The three effects of the append: the line, the published state, the epoch.
  obtain ⟨w₀, hrun₀, hw₀⟩ : ∃ w', AnyRun w' ∧ Scene w' [] 0 firstTarget firstTarget (.reloaded {})
      (some (.running (.target 1 true) [.store (.file (entryPayload stagedCall)),
        .publish stagedState, .advance])) :=
    ⟨_, hbegun, hw.content, hw.epoch, hw.first, rfl, hw.stage, hw.idle,
      congrArg (fun acts => some (Held.running (.target 1 true) acts)) hacts⟩
  obtain ⟨w₁, hrun₁, hw₁⟩ := scene_effect hw₀ rfl hrun₀
  obtain ⟨w₂, hrun₂, hw₂⟩ := scene_effect hw₁ rfl hrun₁
  have hadvance : Act.exec { firstTarget with assistantOutputState := stagedState }
      { storage := .file (entryPayload stagedCall) } .advance =
      (stagedTarget, { storage := .file (entryPayload stagedCall), appendEpoch := 1 }) := by
    decide
  obtain ⟨w₃, hrun₃, hw₃⟩ := scene_effect hw₂ hadvance hrun₂
  refine ⟨_, Run.step hrun₃ (.release (.target 1 false) hw₃.lock) trivial, ?_⟩
  exact { hw₃ with lock := rfl }

/-- The first target claims an epoch for the file it had reloaded before. -/
theorem scene_claimed :
    ∃ w, AnyRun w ∧
      Scene w (entryPayload stagedCall) 2 { firstTarget with lastSeenAppendEpoch := 2 } stagedTarget
        .idle none := by
  obtain ⟨w, hrun, hw⟩ := scene_staged
  refine ⟨_, Run.step hrun (.claim 0 firstTarget {} hw.first hw.stage) trivial, ?_⟩
  refine { hw with epoch := ?_, first := ?_, stage := rfl }
  · show w.epoch + 1 = 2
    rw [hw.epoch]
    rfl
  · show some ({ firstTarget with assistantOutputState := {}, recoveryRequired := false
                                  lastSeenAppendEpoch := w.epoch + 1 } : Target) = _
    rw [hw.epoch]
    rfl

/-- **THE STALE CLAIM.**  The first target takes the lock, owns the current epoch and passes its
    refresh with a state in which no turn is staged, while the file ends in a staged call; it
    then appends a message, and the classifier reports an error for the file. -/
theorem recover_claims_a_stale_cache :
    ∃ w t, AnyRun w ∧ w.lock = some (.entered 0) ∧ w.targets 0 = some t ∧
      t.recoveryRequired = false ∧ t.lastSeenAppendEpoch = w.epoch ∧
      guardIn stagedCallStore w.content ≠ .ok t.assistantOutputState ∧
      (mutate stagedCallStore t {} w.shared (.append replyEntry)).returned = some (.ok ()) ∧
      .store (.file (entryPayload stagedCall ++ entryPayload replyEntry)) ∈
        (mutate stagedCallStore t {} w.shared (.append replyEntry)).acts ∧
      recordsIn stagedCallStore (entryPayload stagedCall ++ entryPayload replyEntry) =
        .ok [stagedCall, replyEntry] ∧
      (classifyAssistantOutput [stagedCall, replyEntry]).errorFree = false := by
  obtain ⟨w, hrun, hw⟩ := scene_claimed
  have hshared : w.shared = { storage := .file (entryPayload stagedCall), appendEpoch := 2 } := by
    unfold World.shared
    rw [hw.content, hw.epoch]
  refine ⟨_, { firstTarget with lastSeenAppendEpoch := 2 },
    Run.step hrun (.acquire 0 _ hw.first hw.stage hw.lock) trivial, rfl, hw.first, rfl,
    hw.epoch.symm, ?_, ?_, ?_, by decide, by decide⟩
  · show guardIn stagedCallStore w.content ≠ _
    rw [hw.content]
    decide
  · show (mutate stagedCallStore _ {} w.shared (.append replyEntry)).returned = _
    rw [hshared]
    decide
  · show _ ∈ (mutate stagedCallStore _ {} w.shared (.append replyEntry)).acts
    rw [hshared]
    decide

end Ava.Session
