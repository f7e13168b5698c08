/-
  Ava.Session.Scripts
  **WHAT THE EFFECTS OF AN OPERATION DO TO THE CACHES OF A SESSION.**

  Each mutation of a target is a script of effects.  Three things about it matter to the
  targets of the session: whether the others are told (the epoch will still be advanced, or
  the guard state of the file never changes); whether every file it leaves can be classified
  without an error; and whether its own target ends with a cache that matches the file, or
  latched, or out of date and aware of it.

    - §1 scripts; §2 one settled append; §3 the mutations of a target;
    - §4 the writers beside the targets (`SessionStore::append`, `append_validated_copy`);
    - §5 their scripts and those of the repairs.
-/
import Ava.Session.History

namespace Ava.Session

open Ava.Core Ava.Core.Json Ava.Lib

/-! ## §1. Scripts. -/

/-- The effects that advance the shared epoch. -/
def Act.advances : Act → Bool
  | .bump | .advance => true
  | _ => false

/-- The effects that record an epoch as the one the cache represents. -/
def Act.claims : Act → Bool
  | .see _ | .observe | .advance => true
  | _ => false

/-- The epoch will still be advanced. -/
def Due (acts : List Act) : Bool := acts.any Act.advances

/-- The files another thread can see while `c` is written over `x`: a growing file passes
    through every length. -/
def Between (x y c : Bytes) : Prop := y = c ∨ (x <+: y ∧ y <+: c)

/-- No file the script goes through has another guard state. -/
def Harmless (cfg : StoreConfig) : Bytes → List Act → Prop
  | _, [] => True
  | x, .store (.file c) :: acts =>
    (∀ y, Between x y c → guardIn cfg y = guardIn cfg x) ∧ Harmless cfg c acts
  | _, .store (.memory _) :: _ => False
  | x, _ :: acts => Harmless cfg x acts

def cacheAfter : List Act → AppendState → AppendState
  | [], s => s
  | .publish s' :: acts, _ => cacheAfter acts s'
  | _ :: acts, s => cacheAfter acts s

def latchedAfter : List Act → Bool → Bool
  | [], b => b
  | .latch :: acts, _ => latchedAfter acts true
  | .unlatch :: acts, _ => latchedAfter acts false
  | _ :: acts, b => latchedAfter acts b

/-- **HOW A TARGET COMES OUT OF ITS OWN SCRIPT**: latched, with the guard state of the file it
    leaves, or with an epoch that is out of date and stays so. -/
def Ends (cfg : StoreConfig) (x : Bytes) (t : Target) (epoch : UInt64) (acts : List Act) : Prop :=
  latchedAfter acts t.recoveryRequired = true ∨
  (∃ c, storageAfter acts (.file x) = .file c ∧
    guardIn cfg c = .ok (cacheAfter acts t.assistantOutputState)) ∨
  (t.lastSeenAppendEpoch.toNat < epoch.toNat ∧ acts.any Act.claims = false)

/-- What the targets of a session may rely on in a script of one of them. -/
structure Plan (cfg : StoreConfig) (x : Bytes) (t : Target) (epoch : UInt64) (acts : List Act) :
    Prop where
  visible : Due acts = true ∨ Harmless cfg x acts
  valid : ∀ s, .store s ∈ acts → s = .file x ∨ ∃ c g, s = .file c ∧ guardIn cfg c = .ok g
  ends : Ends cfg x t epoch acts
  seen : ∀ e, .see e ∈ acts → e = epoch

variable {x y : Bytes}

theorem between_self (h : Between x y x) : y = x := by
  obtain h | ⟨h₁, h₂⟩ := h
  · exact h
  · exact h₂.eq_of_length_le h₁.length_le

variable {c : Bytes}

/-- A file in between is no further from the target file. -/
theorem Between.trans {z : Bytes} (hy : x <+: y) (hyc : y <+: c) (hz : Between y z c) :
    Between x z c := by
  obtain rfl | ⟨hyz, hzc⟩ := hz
  · exact .inl rfl
  · exact .inr ⟨hy.trans hyz, hzc⟩

variable {cfg : StoreConfig}

theorem Harmless.between {acts : List Act} (hy : x <+: y) (hyc : y <+: c)
    (h : Harmless cfg x (.store (.file c) :: acts)) :
    Harmless cfg y (.store (.file c) :: acts) := by
  obtain ⟨hguard, hrest⟩ := h
  refine ⟨?_, hrest⟩
  intro z hz
  rw [hguard z (hz.trans hy hyc), hguard y (.inr ⟨hy, hyc⟩)]

/-- Without a store nothing changes. -/
theorem Harmless.of_no_store {acts : List Act} (h : ∀ s, .store s ∉ acts) :
    Harmless cfg x acts := by
  induction acts with
  | nil => trivial
  | cons a acts ih =>
    have hrest := ih fun s hs => h s (List.mem_cons_of_mem _ hs)
    cases a with
    | store s => exact absurd List.mem_cons_self (h s)
    | publish | see | observe | bump | advance | latch | unlatch => exact hrest

theorem Harmless.store_self (cfg : StoreConfig) (x : Bytes) :
    Harmless cfg x [.store (.file x)] := by
  refine ⟨?_, trivial⟩
  intro y hy
  rw [between_self hy]

variable {t : Target} {epoch : UInt64}

/-- The script of a rejection: nothing, or the file as it was. -/
theorem Plan.quiet {acts : List Act} (ht : Ends cfg x t epoch [])
    (hacts : acts = [] ∨ acts = [.store (.file x)]) :
    Plan cfg x t epoch acts := by
  obtain rfl | rfl := hacts
  · exact ⟨.inr trivial, by simp, ht, by simp⟩
  · refine ⟨.inr (.store_self cfg x), ?_, ht, by simp⟩
    intro s hs
    rw [List.mem_singleton] at hs
    cases hs
    exact .inl rfl

/-- A target that has just taken the guard state of the file. -/
theorem Ends.of_guard (h : guardIn cfg x = .ok t.assistantOutputState) : Ends cfg x t epoch [] :=
  .inr (.inl ⟨x, rfl, h⟩)

variable {state : AppendState}

/-- Taking the guard state of the file first: the rest of the script starts from there. -/
theorem Plan.prepend {a : Act} {acts : List Act} (ha : a = .see epoch ∨ a = .observe)
    (hguard : guardIn cfg x = .ok state)
    (hplan : ∀ t' : Target, Ends cfg x t' epoch [] → Plan cfg x t' epoch acts) :
    Plan cfg x t epoch ([.publish state, a] ++ acts) := by
  have h : Plan cfg x { t with assistantOutputState := state, lastSeenAppendEpoch := epoch }
      epoch acts := hplan _ (.of_guard hguard)
  have hends : Ends cfg x t epoch ([.publish state, a] ++ acts) := by
    obtain hlatched | ⟨c, hstorage, hguard⟩ | ⟨hstale, -⟩ := h.ends
    · left
      obtain rfl | rfl := ha <;> exact hlatched
    · right
      left
      obtain rfl | rfl := ha <;> exact ⟨c, hstorage, hguard⟩
    · exact absurd hstale (Nat.lt_irrefl _)
  refine ⟨?_, ?_, hends, ?_⟩
  · obtain rfl | rfl := ha <;> exact h.visible
  · intro s hmem
    refine h.valid s ?_
    obtain rfl | rfl := ha <;> simpa using hmem
  · intro e hmem
    obtain hmem | hmem := List.mem_append.mp hmem
    · obtain rfl | rfl := ha
      · simpa using hmem
      · simp at hmem
    · exact h.seen e hmem

/-! ## §2. One settled append. -/

/-- No C++ exception leaves a part of the mutation. -/
def MutationIo.Quiet (io : MutationIo) : Prop :=
  io.thrown = none ∧ ∀ k, (io.appends k).thrown = none

theorem entryPayload_long (entry : SessionEntry) :
    ¬ (entryPayload entry).length < (sessionEntryLineText entry).length := by
  rw [entryPayload, List.length_append]
  omega

variable {entry : SessionEntry}

section

variable {cfg : StoreConfig} {x : Bytes} {t : Target} {epoch : UInt64}

variable {lease : Option SessionLease}

/-- An append that was checked against the guard state of the file. -/
theorem settle_plan (hsax : SaxContract cfg.sax) {io : AppendIo} {next : AppendState}
    (hquiet : io.thrown = none) (hguard : guardIn cfg x = .ok state)
    (happly : state.applyCandidate entry = .ok next) (ht : Ends cfg x t epoch []) :
    Plan cfg x t epoch
      (settle cfg lease next (appendStore cfg lease io entry (.file x))).acts := by
  have hreturned : (settle cfg lease next (appendStore cfg lease io entry (.file x))).returned
      ≠ none := fun h => appendStore_threw (settle_threw h) hquiet
  have hsettled := settle_settled cfg lease io entry (.file x) next
  generalize settle cfg lease next (appendStore cfg lease io entry (.file x)) = op at hreturned hsettled ⊢
  cases hsettled with
  | thrown s => exact absurd rfl hreturned
  | refused e htorn => exact .quiet ht (.inr rfl)
  | torn content n e hfile haccepted hframed htorn =>
    cases hfile
    have hcut := guardIn_append hsax haccepted hframed (List.take_prefix n _) hguard happly
    refine ⟨.inl rfl, ?_, .inl rfl, by simp⟩
    intro s hs
    simp only [List.mem_cons, Act.store.injEq, reduceCtorEq, List.not_mem_nil, or_false] at hs
    exact .inr ⟨_, _, hs, hcut⟩
  | whole result haccepted hframed htorn =>
    have hwhole := guardIn_append hsax haccepted hframed (List.prefix_refl _) hguard happly
    rw [if_neg (entryPayload_long entry)] at hwhole
    refine ⟨.inl rfl, ?_, .inr (.inl ⟨_, rfl, hwhole⟩), by simp⟩
    intro s hs
    simp only [List.mem_cons, Act.store.injEq, reduceCtorEq, List.not_mem_nil, or_false] at hs
    exact .inr ⟨_, _, hs, hwhole⟩

/-- How the write loop of a batch ends after `persisted` written records, on the file `y`: with
    the state that was checked, with the latch, or at once and with nothing written. -/
inductive BatchEnd (cfg : StoreConfig) (y : Bytes) (final : AppendState) (persisted : Nat)
    (op : Op (Result Unit)) : Prop
  | written (c : Bytes) (hok : op.returned = some (.ok ())) (hdue : Due op.acts = true ∨ op.acts = [])
      (hstorage : storageAfter op.acts (.file y) = .file c) (hguard : guardIn cfg c = .ok final)
  | latched (hfailed : op.returned ≠ some (.ok ())) (hdue : Due op.acts = true)
      (hlatch : ∀ b, latchedAfter op.acts b = true)
  | untouched (hfailed : op.returned ≠ some (.ok ())) (hfirst : persisted = 0)
      (hacts : op.acts = [.store (.file y)])

/-- The stores of a script leave files with a guard state, and it claims no earlier epoch. -/
structure Guarded (cfg : StoreConfig) (acts : List Act) : Prop where
  stores : ∀ s, .store s ∈ acts → ∃ c g, s = .file c ∧ guardIn cfg c = .ok g
  noSee : ∀ e, .see e ∉ acts

theorem Guarded.store {g : AppendState} (h : guardIn cfg c = .ok g) {acts : List Act}
    (hacts : Guarded cfg acts) :
    Guarded cfg (.store (.file c) :: acts) := by
  refine ⟨?_, ?_⟩
  · intro s hs
    obtain heq | hs := List.mem_cons.mp hs
    · cases heq
      exact ⟨c, g, rfl, h⟩
    · exact hacts.stores s hs
  · intro e he
    obtain heq | he := List.mem_cons.mp he
    · cases heq
    · exact hacts.noSee e he

theorem Guarded.of_plain {acts : List Act} (hstore : ∀ s, .store s ∉ acts)
    (hsee : ∀ e, .see e ∉ acts) : Guarded cfg acts :=
  ⟨fun s hs => absurd hs (hstore s), hsee⟩

theorem Guarded.append {as bs : List Act} (ha : Guarded cfg as) (hb : Guarded cfg bs) :
    Guarded cfg (as ++ bs) := by
  refine ⟨?_, ?_⟩
  · intro s hs
    obtain hs | hs := List.mem_append.mp hs
    · exact ha.stores s hs
    · exact hb.stores s hs
  · intro e he
    obtain he | he := List.mem_append.mp he
    · exact ha.noSee e he
    · exact hb.noSee e he

/-- A write that fails: only the first one of a batch, if it wrote nothing, goes unlatched. -/
theorem batchFailure_plan {persisted : Nat} {g final : AppendState} {e : Error}
    (hguard : guardIn cfg c = .ok g)
    (hsame : appendPartialOrUnknown (orNotStarted cfg lease e) = false →
      appendCommittedToLeasedInode (orNotStarted cfg lease e) = false → c = y) :
    Guarded cfg (batchFailure cfg lease persisted (.file c) e).acts ∧
      BatchEnd cfg y final persisted (batchFailure cfg lease persisted (.file c) e) := by
  obtain ⟨e', -, hop⟩ | ⟨htorn, hcommitted, hfirst, hop⟩ :=
    batchFailure_cases cfg lease persisted (.file c) e
  · rw [hop]
    exact ⟨.store hguard (.of_plain (by simp) (by simp)),
      .latched (by simp) rfl fun _ => rfl⟩
  · rw [hop]
    refine ⟨.store hguard (.of_plain (by simp) (by simp)), ?_⟩
    rw [hsame htorn hcommitted]
    exact .untouched (by simp) hfirst rfl

/-- **THE WRITE LOOP OF A BATCH** that was checked as a whole. -/
theorem batchWrites_plan (hsax : SaxContract cfg.sax) {io : MutationIo}
    (hquiet : ∀ k, (io.appends k).thrown = none) {final : AppendState} :
    ∀ {entries : List SessionEntry} {persisted : Nat} {y : Bytes} {g : AppendState},
      guardIn cfg y = .ok g → g.applyCandidates entries = .ok final →
      Guarded cfg (batchWrites cfg lease io persisted (.file y) entries).acts ∧
        BatchEnd cfg y final persisted (batchWrites cfg lease io persisted (.file y) entries) := by
  intro entries
  induction entries with
  | nil =>
    intro persisted y g hguard happly
    cases happly
    exact ⟨.of_plain (by simp [batchWrites, Op.ret]) (by simp [batchWrites, Op.ret]),
      .written y rfl (.inr rfl) rfl hguard⟩
  | cons entry entries ih =>
    intro persisted y g hguard happly
    rw [AppendState.applyCandidates] at happly
    cases hone : g.applyCandidate entry with
    | error e =>
      rw [hone] at happly
      cases happly
    | ok g₁ =>
      rw [hone] at happly
      have hthrow : (appendStore cfg lease (io.appends persisted) entry (.file y)).returned ≠ none :=
        fun h => appendStore_threw h (hquiet persisted)
      have heffect := appendStore_effect cfg lease (io.appends persisted) entry (.file y)
      rw [batchWrites]
      generalize appendStore cfg lease (io.appends persisted) entry (.file y) = out
        at hthrow heffect ⊢
      cases heffect with
      | thrownEarly | thrownLate content n hfile haccepted hframed => exact absurd rfl hthrow
      | refused e htorn hcommitted => exact batchFailure_plan hguard fun _ _ => rfl
      | torn content n e hfile haccepted hframed htorn =>
        cases hfile
        have hcut := guardIn_append hsax haccepted hframed (List.take_prefix n _) hguard hone
        refine batchFailure_plan hcut fun hno _ => ?_
        rw [orNotStarted_of_reports cfg lease htorn, htorn] at hno
        cases hno
      | committed e haccepted hframed htorn hcommitted =>
        have hwhole := guardIn_append hsax haccepted hframed (List.prefix_refl _) hguard hone
        refine batchFailure_plan hwhole fun _ hno => ?_
        rw [orNotStarted_of_reports cfg lease hcommitted, hcommitted] at hno
        cases hno
      | appended haccepted hframed =>
        have hwhole := guardIn_append hsax haccepted hframed (List.prefix_refl _) hguard hone
        rw [if_neg (entryPayload_long entry)] at hwhole
        have hrest : Guarded cfg (batchWrites cfg lease io (persisted + 1)
              (.file (y ++ entryPayload entry)) entries).acts ∧
            BatchEnd cfg (y ++ entryPayload entry) final (persisted + 1)
              (batchWrites cfg lease io (persisted + 1) (.file (y ++ entryPayload entry)) entries) :=
          ih hwhole happly
        have hbump : Guarded cfg [.bump] := .of_plain (by simp) (by simp)
        obtain ⟨hguarded, hend⟩ := hrest
        refine ⟨.store hwhole (hbump.append hguarded), ?_⟩
        cases hend with
        | written c hok hdue hstorage hfinal => exact .written c hok (.inl rfl) hstorage hfinal
        | latched hfailed hdue hlatch => exact .latched hfailed rfl hlatch
        | untouched hfailed hfirst hacts => exact absurd hfirst (Nat.succ_ne_zero persisted)

end

/-! ## §3. The mutations of a target. -/

theorem cacheAfter_append (as bs : List Act) (s : AppendState) :
    cacheAfter (as ++ bs) s = cacheAfter bs (cacheAfter as s) := by
  induction as generalizing s with
  | nil => rfl
  | cons a as ih => cases a <;> exact ih _

theorem due_append (as bs : List Act) : Due (as ++ bs) = (Due as || Due bs) := List.any_append

section

variable {cfg : StoreConfig} {x : Bytes} {t t' : Target} {epoch : UInt64} {io : MutationIo}
  {sh : Shared}

variable (hsax : SaxContract cfg.sax) (hquiet : io.Quiet) (hsh : sh.storage = .file x)

include hsax hquiet hsh

/-- `append` from the refreshed state on, where that is the guard state of the file. -/
theorem appendLocked_plan (hguard : guardIn cfg x = .ok state)
    (ht : Ends cfg x t' epoch []) :
    Plan cfg x t' epoch (appendLocked cfg t io sh entry state).acts := by
  unfold appendLocked
  split
  next => exact .quiet ht (.inl rfl)
  split
  next => exact .quiet ht (.inl rfl)
  next next' happly =>
    rw [hsh]
    exact settle_plan hsax (hquiet.2 0) hguard happly ht

/-- `append_batch` from the refreshed state on. -/
theorem batchLocked_plan {entries : List SessionEntry}
    (hguard : guardIn cfg x = .ok state) (ht : Ends cfg x t' epoch []) :
    Plan cfg x t' epoch (batchLocked cfg t io sh entries state).acts := by
  unfold batchLocked
  split
  next => exact .quiet ht (.inl rfl)
  split
  next => exact .quiet ht (.inl rfl)
  split
  next => exact .quiet ht (.inl rfl)
  next final happly =>
    split
    next => exact .quiet ht (.inl rfl)
    rw [hsh]
    have hwrites : Guarded cfg (batchWrites cfg t.lease io 0 (.file x) entries).acts ∧
        BatchEnd cfg x final 0 (batchWrites cfg t.lease io 0 (.file x) entries) :=
      batchWrites_plan hsax hquiet.2 hguard happly
    obtain ⟨hguarded, hend⟩ := hwrites
    generalize batchWrites cfg t.lease io 0 (.file x) entries = written at hguarded hend ⊢
    dsimp only
    cases hend with
    | written c hok hdue hstorage hfinal =>
      rw [hok]
      dsimp only
      have hpublish : Guarded cfg [.publish final, .observe] :=
        .of_plain (by simp) (by simp)
      have hall := hguarded.append hpublish
      refine ⟨?_, fun s hs => .inr (hall.stores s hs), .inr (.inl ⟨c, ?_, ?_⟩),
        fun e he => absurd he (hall.noSee e)⟩
      · obtain hdue | hnone := hdue
        · left
          rw [due_append, hdue]
          rfl
        · right
          rw [hnone]
          exact .of_no_store (by simp)
      · rw [storageAfter_append, hstorage]
        rfl
      · rw [cacheAfter_append]
        exact hfinal
    | latched hfailed hdue hlatch =>
      split
      next hok => exact absurd hok hfailed
      exact ⟨.inl hdue, fun s hs => .inr (hguarded.stores s hs), .inl (hlatch _),
        fun e he => absurd he (hguarded.noSee e)⟩
    | untouched hfailed hfirst hacts =>
      split
      next hok => exact absurd hok hfailed
      next => exact .quiet ht (.inr hacts)

omit hsax hquiet hsh in
/-- A load that succeeds gives the guard state of the file. -/
theorem guardIn_of_load {fault : Option ReadFault} {history : List SessionEntry}
    (hload : t.load cfg fault (.file x) = .ok history)
    (hstate : AppendState.fromValidatedHistory history = .ok state) : guardIn cfg x = .ok state :=
  guardIn_eq_ok_iff.mpr ⟨history, recordsIn_of_load hload, hstate⟩

omit hsax hquiet in
/-- **A REFRESH THAT PASSES** leaves the target with the guard state of the file and with the
    current epoch, whether it had to reload or not. -/
theorem refreshStateIfStale_guard (hopen : t.recoveryRequired = false) (hends : Ends cfg x t sh.appendEpoch [])
    {acts : List Act} (h : refreshStateIfStale cfg t io sh = some (.ok (state, acts))) :
    guardIn cfg x = .ok state ∧
      execAll acts t sh =
        ({ t with assistantOutputState := state, lastSeenAppendEpoch := sh.appendEpoch }, sh) := by
  obtain ⟨rfl, rfl, hfresh⟩ | ⟨rfl, history, hload, hstate⟩ := refreshStateIfStale_acts h
  · refine ⟨?_, ?_⟩
    · obtain hlatched | ⟨c, hstorage, hguard⟩ | ⟨hstale, -⟩ := hends
      · rw [latchedAfter, hopen] at hlatched
        cases hlatched
      · cases hstorage
        exact hguard
      · rw [hfresh] at hstale
        exact absurd hstale (Nat.lt_irrefl _)
    · rw [hfresh]
      rfl
  · rw [hsh] at hload
    exact ⟨guardIn_of_load hload hstate, rfl⟩

omit hsax hquiet in
/-- What follows a refresh may start from the guard state of the file. -/
theorem Plan.after_refresh (hopen : t.recoveryRequired = false)
    (hends : Ends cfg x t sh.appendEpoch []) {acts main : List Act}
    (h : refreshStateIfStale cfg t io sh = some (.ok (state, acts)))
    (hmain : ∀ t' : Target, Ends cfg x t' sh.appendEpoch [] → Plan cfg x t' sh.appendEpoch main) :
    Plan cfg x t sh.appendEpoch (acts ++ main) := by
  obtain ⟨hguard, -⟩ := refreshStateIfStale_guard hsh hopen hends h
  obtain ⟨rfl, -, -⟩ | ⟨rfl, -⟩ := refreshStateIfStale_acts h
  · exact hmain t hends
  · exact .prepend (.inl rfl) hguard hmain

variable (hends : Ends cfg x t sh.appendEpoch [])

include hends

theorem append_plan (entry : SessionEntry) :
    Plan cfg x t sh.appendEpoch (append cfg t io sh entry).acts := by
  unfold append
  split
  next => exact .quiet hends (.inl rfl)
  next hopen =>
    rw [Bool.not_eq_true] at hopen
    split
    next => exact .quiet hends (.inl rfl)
    next => exact .quiet hends (.inl rfl)
    next state acts hrefresh =>
      have hguard := (refreshStateIfStale_guard hsh hopen hends hrefresh).1
      exact .after_refresh hsh hopen hends hrefresh fun t' ht' =>
        appendLocked_plan hsax hquiet hsh hguard ht'

theorem appendBatch_plan (entries : List SessionEntry) :
    Plan cfg x t sh.appendEpoch (appendBatch cfg t io sh entries).acts := by
  unfold appendBatch
  split
  next => exact .quiet hends (.inl rfl)
  next hopen =>
    rw [Bool.not_eq_true] at hopen
    split
    next => exact .quiet hends (.inl rfl)
    split
    next => exact .quiet hends (.inl rfl)
    next => exact .quiet hends (.inl rfl)
    next state acts hrefresh =>
      have hguard := (refreshStateIfStale_guard hsh hopen hends hrefresh).1
      exact .after_refresh hsh hopen hends hrefresh fun t' ht' =>
        batchLocked_plan hsax hquiet hsh hguard ht'

omit hsax hquiet hends in
/-- The compaction append checks against a fresh load and publishes nothing before it. -/
theorem compactionPrepare_guard {expected : List SessionEntry}
    {next : AppendState} (h : compactionPrepare cfg t io sh entry expected = some (.ok next)) :
    ∃ state, guardIn cfg x = .ok state ∧ state.applyCandidate entry = .ok next := by
  unfold compactionPrepare at h
  iterate 3
    split at h
    next => cases h
  split at h
  next => cases h
  next history hload =>
    split at h
    next => cases h
    split at h
    next => cases h
    split at h
    next => cases h
    next state hstate =>
      split at h
      next => cases h
      split at h
      next => cases h
      next next' happly =>
        cases h
        rw [hsh] at hload
        exact ⟨state, guardIn_of_load hload hstate, happly⟩

theorem compaction_plan (entry : SessionEntry)
    (expected : List SessionEntry) :
    Plan cfg x t sh.appendEpoch
      (appendCompactionIfSnapshotMatchesClassified cfg t io sh entry expected).acts := by
  unfold appendCompactionIfSnapshotMatchesClassified
  dsimp only
  split
  next => exact .quiet hends (.inl rfl)
  next => exact .quiet hends (.inl rfl)
  next next' hprepare =>
    obtain ⟨state, hguard, happly⟩ := compactionPrepare_guard hsh hprepare
    have hsettle : Plan cfg x t sh.appendEpoch (settle cfg t.lease next'
        (appendStore cfg t.lease (io.appends 0) entry (.file x))).acts :=
      settle_plan hsax (hquiet.2 0) hguard happly hends
    rw [hsh]
    split
    next => exact hsettle
    next hnone =>
      -- no exception, so the settled append has returned
      unfold classifySettled at hnone
      dsimp only at hnone
      split at hnone
      next hthrown => exact absurd (hquiet.2 0) (appendStore_threw (settle_threw hthrown))
      next => cases hnone
      next => cases hnone

theorem branchSummary_plan (entry : SessionEntry) :
    Plan cfg x t sh.appendEpoch (branchSummaryTry cfg t io sh entry).acts := by
  have hcases := branchSummaryTry_cases cfg t io sh entry
  generalize branchSummaryTry cfg t io sh entry = op at hcases ⊢
  cases hcases with
  | refused | threw => exact .quiet hends (.inl rfl)
  | locked history state hload hstate hop =>
    rw [hsh] at hload
    have hguard := guardIn_of_load hload hstate
    refine .prepend (.inr rfl) hguard fun t' hrefreshed => ?_
    cases hop with
    | refused | found | threw => exact .quiet hrefreshed (.inl rfl)
    | settled next reply happly =>
      rw [hsh]
      exact settle_plan hsax (hquiet.2 0) hguard happly hrefreshed

/-- **THE SCRIPT OF EVERY MUTATION** keeps what the targets rely on. -/
theorem mutate_plan (m : Mutation) :
    Plan cfg x t sh.appendEpoch (mutate cfg t io sh m).acts := by
  cases m with
  | append entry => exact append_plan hsax hquiet hsh hends entry
  | appendBatch entries => exact appendBatch_plan hsax hquiet hsh hends entries
  | appendBranchSummaryIfAbsent entry =>
    have hacts : (mutate cfg t io sh (.appendBranchSummaryIfAbsent entry)).acts =
        (branchSummaryTry cfg t io sh entry).acts := by
      unfold mutate appendBranchSummaryIfAbsent appendBranchSummaryIfAbsentClassified Op.map
      dsimp only
      split <;> rfl
    rw [hacts]
    exact branchSummary_plan hsax hquiet hsh hends entry
  | appendCompactionIfSnapshotMatches entry expected =>
    exact compaction_plan hsax hquiet hsh hends entry expected

end

/-! ## §4. The writers beside the targets. -/

variable (cfg : StoreConfig)

/-- What `SessionStore::append` makes of the answer of `append_impl`. -/
def storeSettle (lease : SessionLease) (out : AppendOutcome) : Op (Result Unit) :=
  { acts := [.store (.file out.content)]
    returned := out.returned.map fun r =>
      match r with
      | .ok () => .ok ()
      | .error e => .error (orNotStarted cfg (some lease) e) }

/-- `SessionStore::append` of a persistent store. -/
def storeAppend (lease : SessionLease) (read : Option ReadFault) (io : AppendIo) (content : Bytes)
    (entry : SessionEntry) : Op (Result Unit) :=
  let notStarted (e : Error) : Op (Result Unit) :=
    .ret (.error (withAppendCommitState e .notStarted cfg.path))
  if entry.type = .assistantOutputItem ∨ entry.type = .assistantTurnCommit then
    notStarted (({ category := .invalidArgument
                   message := ascii
                    "raw SessionStore append cannot mutate v4 assistant-output records; use SessionAppendTarget or append_validated_copy" } :
      Error).withContext "entry_type" entry.type.toBytes)
  else if !lease.active ∨ cfg.canonicalPath ≠ lease.canonicalPath then
    storeSettle cfg lease (appendImpl cfg (some lease) io content entry)
  else
    match loadLeased cfg lease legacyUnboundedSessionReadLimits read content with
    | .error e => notStarted e
    | .ok history =>
      match AppendState.fromValidatedHistory history with
      | .error e => notStarted e
      | .ok state =>
        match state.applyCandidate entry with
        | .error e => notStarted e
        | .ok _ => storeSettle cfg lease (appendImpl cfg (some lease) io content entry)

/-- The loop of `append_validated_copy` that renders every entry. -/
def copySerialized (cfg : StoreConfig) : List SessionEntry → Result Unit
  | [] => .ok ()
  | entry :: entries =>
    match serializeSessionEntryLine entry with
    | .error e => .error e
    | .ok line =>
      match parseStrictSessionRecord cfg.sax line cfg.path false with
      | .error e => .error e
      | .ok _ => copySerialized cfg entries

/-- Its write loop: the epoch is advanced before each write. -/
def copyWrites (cfg : StoreConfig) (lease : SessionLease) (io : Nat → AppendIo) :
    Nat → Bytes → List SessionEntry → Op (Result Unit)
  | _, _, [] => .ret (.ok ())
  | n, content, entry :: entries =>
    let out := appendImpl cfg (some lease) (io n) content entry
    match out.returned with
    | some (.ok ()) =>
      Op.prepend [.bump, .store (.file out.content)]
        (copyWrites cfg lease io (n + 1) out.content entries)
    | r => { acts := [.bump, .store (.file out.content)], returned := r }

/-- `append_validated_copy`; `replay` is the error of a failed `validate_session_replay`. -/
def appendValidatedCopy (lease : SessionLease) (replay : Option Error) (read : Option ReadFault)
    (io : Nat → AppendIo) (content : Bytes) (entries : List SessionEntry) : Op (Result Unit) :=
  if !lease.active ∨ !lease.created then
    .ret (.error
      { category := .invalidArgument
        message := ascii
          "validated session copy requires the active creating SessionLease for a new destination" })
  else if cfg.canonicalPath ≠ lease.canonicalPath then
    .ret (.error ((appendAuthorityError
      "validated session copy lease does not exactly match its destination"
      cfg.canonicalPath).withContext "lease_path" lease.canonicalPath))
  else
    match copySerialized cfg entries with
    | .error e => .ret (.error e)
    | .ok () =>
      match replay with
      | some e => .ret (.error e)
      | none =>
        match (classifyAssistantOutput entries).diagnostics with
        | d :: _ =>
          .ret (.error ((((sessionError
              "validated session copy history contains an assistant-output diagnostic and cannot be copied").withContext
            "diagnostic_kind" d.kind.toBytes).withContext
            "diagnostic_entry_id" d.entryId).withContext "diagnostic" d.message))
        | [] =>
          match loadLeased cfg lease legacyUnboundedSessionReadLimits read content with
          | .error e => .ret (.error e)
          | .ok existing =>
            if existing ≠ [] then
              .ret (.error ((({ category := .invalidArgument
                                message := ascii
                                  "validated session copy destination must be newly created and empty" } :
                  Error).withContext "path" cfg.path).withContext
                "existing_entries" (decimal existing.length)))
            else copyWrites cfg lease io 0 content entries

/-- The operations of a store that take the session's append lock on their own. -/
inductive StoreCall where
  | append (lease : SessionLease) (read : Option ReadFault) (io : AppendIo) (entry : SessionEntry)
  | appendValidatedCopy (lease : SessionLease) (replay : Option Error) (read : Option ReadFault)
      (io : Nat → AppendIo) (entries : List SessionEntry)
  | recoverTornTail (lease : SessionLease) (limits : SessionReadLimits) (io : RecoverIo)
  | recoverIncompleteAssistantOutputSuffix (lease : SessionLease) (limits : SessionReadLimits)
      (io : RecoverIo)

/-- Their effects under the lock. -/
def StoreCall.acts (content : Bytes) : StoreCall → List Act
  | .append lease read io entry => (storeAppend cfg lease read io content entry).acts
  | .appendValidatedCopy lease replay read io entries =>
    (Session.appendValidatedCopy cfg lease replay read io content entries).acts
  | .recoverTornTail lease limits io =>
    [.store (.file (Session.recoverTornTail cfg lease limits io content).content)]
  | .recoverIncompleteAssistantOutputSuffix lease limits io =>
    let out := Session.recoverIncompleteAssistantOutputSuffix cfg lease limits io content
    List.replicate out.epochBumps .bump ++ [.store (.file out.content)]

/-! ## §5. Their scripts. -/

section

variable {cfg : StoreConfig} {content : Bytes}

/-- An append that does not move the guard can be seen at any length. -/
theorem Harmless.append (hsax : SaxContract cfg.sax) {s : AppendState}
    (haccepted : Accepted cfg entry) (hframed : content = [] ∨ content.getLast? = some lf)
    (hguard : guardIn cfg content = .ok s) (happly : s.applyCandidate entry = .ok s) {p : Bytes}
    (hp : p <+: entryPayload entry) : Harmless cfg content [.store (.file (content ++ p))] := by
  refine ⟨?_, trivial⟩
  have hany : ∀ q, q <+: entryPayload entry → guardIn cfg (content ++ q) = guardIn cfg content := by
    intro q hq
    rw [guardIn_append hsax haccepted hframed hq hguard happly, hguard, ite_self]
  intro y hy
  obtain rfl | ⟨⟨q, rfl⟩, hyc⟩ := hy
  · exact hany p hp
  · exact hany q (((List.prefix_append_right_inj content).mp hyc).trans hp)

/-- An ordinary record does not move the guard. -/
theorem applyCandidate_ordinary {s s' : AppendState} (hitem : entry.type ≠ .assistantOutputItem)
    (hcommit : entry.type ≠ .assistantTurnCommit) (h : s.applyCandidate entry = .ok s') :
    s' = s := by
  rw [applyCandidate_of_other hitem hcommit] at h
  unfold AppendState.applyOther at h
  split at h
  next => exact (Except.ok.inj h).symm
  next => cases h

/-- Without its lease an append writes nothing. -/
theorem appendImpl_unleased {lease : SessionLease} {io : AppendIo}
    (h : !lease.active ∨ cfg.canonicalPath ≠ lease.canonicalPath) :
    (appendImpl cfg (some lease) io content entry).content = content := by
  have hfault : ∃ e, leaseFault cfg (some lease) = some e := by
    unfold leaseFault
    dsimp only
    split
    next => exact ⟨_, rfl⟩
    next hactive =>
      rw [if_pos (h.resolve_left hactive)]
      exact ⟨_, rfl⟩
  obtain ⟨e, he⟩ := hfault
  unfold appendImpl
  split
  next => rfl
  split
  next => rfl
  rw [he]

/-- `SessionStore::append` tells nobody, and need not: it writes ordinary records only. -/
theorem storeAppend_harmless (hsax : SaxContract cfg.sax) (lease : SessionLease)
    (read : Option ReadFault) (io : AppendIo) (entry : SessionEntry) :
    Harmless cfg content (storeAppend cfg lease read io content entry).acts := by
  unfold storeAppend
  dsimp only
  split
  next => trivial
  next htype =>
    obtain ⟨hitem, hcommit⟩ := not_or.mp htype
    split
    next hlease =>
      unfold storeSettle
      rw [appendImpl_unleased hlease]
      exact .store_self cfg content
    split
    next => trivial
    next history hload =>
      split
      next => trivial
      next state hstate =>
        split
        next => trivial
        next next' happly =>
          have hguard : guardIn cfg content = .ok state :=
            guardIn_eq_ok_iff.mpr ⟨history, recordsIn_of_loadLeased hload, hstate⟩
          cases applyCandidate_ordinary hitem hcommit happly
          have heffect := appendImpl_effect cfg (some lease) io content entry
          unfold storeSettle
          generalize appendImpl cfg (some lease) io content entry = out at heffect ⊢
          cases heffect with
          | thrownEarly | refused => exact .store_self cfg content
          | thrownLate n haccepted hframed | torn n e haccepted hframed =>
            exact .append hsax haccepted hframed hguard happly (List.take_prefix _ _)
          | committed e haccepted hframed | appended haccepted hframed =>
            exact .append hsax haccepted hframed hguard happly (List.prefix_refl _)

/-- The torn-tail repair changes the file, but not the records in it. -/
theorem TornEffect.recordsIn_eq {out : RecoverOutcome (Option Bytes)}
    (h : TornEffect cfg content out) : recordsIn cfg out.content = recordsIn cfg content := by
  have hfree := unframe_sep_free lf content
  cases h with
  | unchanged quarantined result => rfl
  | completed entry result hopen hrecord =>
    have hpieces : unframe lf (content ++ [lf]) =
        ((unframe lf content).1 ++ [(unframe lf content).2], []) := by
      rw [unframe_append, unframe_line _ hfree.2]
      rfl
    have hopen' : (unframe lf content).2.isEmpty = false := by
      simpa using hopen
    rw [recordsIn_framed (by rw [hpieces]), hpieces, parseLines_append_singleton]
    unfold recordsIn
    cases parseLines cfg.sax cfg.path (unframe lf content).1 with
    | error e => rfl
    | ok entries =>
      dsimp only
      rw [hopen', hrecord, parseStrictSessionRecord_path cfg.path false hrecord]
      rfl
  | truncated result hopen hinvalid =>
    have hpieces := unframe_frame (t := []) List.not_mem_nil hfree.1
    rw [List.append_nil] at hpieces
    have hopen' : (unframe lf content).2.isEmpty = false := by
      simpa using hopen
    have hrefused : ∃ e, parseStrictSessionRecord cfg.sax (unframe lf content).2 cfg.path true
        = .error e := by
      unfold parseStrictSessionRecord
      rw [hinvalid]
      exact ⟨_, rfl⟩
    obtain ⟨e, he⟩ := hrefused
    rw [recordsIn_framed (by rw [hpieces]), hpieces]
    unfold recordsIn
    rw [hopen', he]
    cases parseLines cfg.sax cfg.path (unframe lf content).1 with
    | error e | ok entries => rfl

theorem guardIn_congr (h : recordsIn cfg x = recordsIn cfg y) :
    guardIn cfg x = guardIn cfg y := by
  unfold guardIn
  rw [h]

/-- The torn-tail repair makes one change: it adds one octet, or it cuts some off. -/
theorem TornEffect.harmless {out : RecoverOutcome (Option Bytes)} (h : TornEffect cfg content out) :
    Harmless cfg content [.store (.file out.content)] := by
  have hguard := guardIn_congr h.recordsIn_eq
  refine ⟨?_, trivial⟩
  intro y hy
  have hy' : y = out.content ∨ y = content := by
    obtain heq | ⟨hxy, hyc⟩ := hy
    · exact .inl heq
    · cases h with
      | unchanged quarantined result => exact .inl (hyc.eq_of_length_le hxy.length_le)
      | completed entry result hopen hrecord =>
        obtain heq | hyx := List.prefix_concat_iff.mp hyc
        · exact .inl heq
        · exact .inr (hyx.eq_of_length_le hxy.length_le)
      | truncated result hopen hinvalid =>
        have hlen : content.length ≤ (frame lf (unframe lf content).1).length :=
          (hxy.trans hyc).length_le
        have hwhole : (frame lf (unframe lf content).1).length + (unframe lf content).2.length
            = content.length := by
          rw [← List.length_append, frame_unframe]
        have hnone : (unframe lf content).2 = [] := by
          rw [← List.length_eq_zero_iff]
          omega
        exact absurd hnone hopen
  obtain rfl | rfl := hy'
  · exact hguard
  · rfl

section

variable (cfg : StoreConfig) (content : Bytes) (lease : SessionLease)

/-- The staged-suffix repair advances the epoch whenever it may truncate. -/
theorem recoverIncomplete_bumps (limits : SessionReadLimits) (io : RecoverIo) :
    0 < (recoverIncompleteAssistantOutputSuffix cfg lease limits io content).epochBumps ∨
      (recoverIncompleteAssistantOutputSuffix cfg lease limits io content).content = content := by
  unfold recoverIncompleteAssistantOutputSuffix
  iterate 3
    split
    next => exact .inr rfl
  split
  next => exact .inr rfl
  next line st _ =>
    unfold repairStaged
    split
    next => exact .inr rfl
    dsimp only
    split
    next => exact .inr rfl
    next => exact .inr rfl
    next index _ =>
      split
      next => exact .inr rfl
      unfold quarantineSuffix
      split
      next => exact .inr rfl
      split
      next => exact .inr rfl
      dsimp only
      split
      next => exact .inr rfl
      next => split <;> exact .inl Nat.one_pos

theorem copyWrites_visible (io : Nat → AppendIo) (n : Nat) (entries : List SessionEntry) :
    Due (copyWrites cfg lease io n content entries).acts = true ∨
      (copyWrites cfg lease io n content entries).acts = [] := by
  cases entries with
  | nil => exact .inr rfl
  | cons entry entries =>
    left
    rw [copyWrites]
    split <;> rfl

theorem appendValidatedCopy_visible (replay : Option Error) (read : Option ReadFault)
    (io : Nat → AppendIo) (entries : List SessionEntry) :
    Due (appendValidatedCopy cfg lease replay read io content entries).acts = true ∨
      (appendValidatedCopy cfg lease replay read io content entries).acts = [] := by
  unfold appendValidatedCopy
  iterate 7
    split
    next => exact .inr rfl
  exact copyWrites_visible cfg content lease io 0 entries

end

/-- **EVERY WRITER BESIDE THE TARGETS** advances the epoch or leaves the guard state alone. -/
theorem StoreCall.visible (hsax : SaxContract cfg.sax) (call : StoreCall) :
    Due (call.acts cfg content) = true ∨ Harmless cfg content (call.acts cfg content) := by
  cases call with
  | append lease read io entry => exact .inr (storeAppend_harmless hsax lease read io entry)
  | appendValidatedCopy lease replay read io entries =>
    obtain hdue | hnone := appendValidatedCopy_visible cfg content lease replay read io entries
    · exact .inl hdue
    · right
      rw [StoreCall.acts, hnone]
      trivial
  | recoverTornTail lease limits io =>
    exact .inr (recoverTornTail_effect cfg lease limits io content).harmless
  | recoverIncompleteAssistantOutputSuffix lease limits io =>
    rw [StoreCall.acts]
    have hbumps := recoverIncomplete_bumps cfg content lease limits io
    generalize Session.recoverIncompleteAssistantOutputSuffix cfg lease limits io content = out
      at hbumps ⊢
    cases hcount : out.epochBumps with
    | succ k => exact .inl rfl
    | zero =>
      right
      have hsame : out.content = content := hbumps.resolve_left (by rw [hcount]; exact Nat.lt_irrefl 0)
      rw [hsame]
      exact .store_self cfg content

end

end Ava.Session
