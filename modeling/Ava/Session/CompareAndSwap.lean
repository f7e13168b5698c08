/-
  Ava.Session.CompareAndSwap
  **A COMPACTION IS A COMPARE-AND-SWAP.**

  `append_compaction_if_snapshot_matches` takes the target's mutex and the lock of the session,
  loads the history, compares it with the snapshot its summary was made from, asks for a
  cancellation, rebuilds the append state, and writes.  Here each of these is a step of its own,
  and the steps of all other writers of the session come in between wherever the two locks let
  them: `create` and the last step of a persistent `recover` take no session lock.

  What the write relies on, the comparison with an earlier load, is still true when it happens.
  What it leaves behind is the snapshot, the automatic titles and the entry, as long as the
  entry is one that a persistent store reads back as it was.

    - §1 the stored history; §2 the call, phase by phase; §3 all writers of a session;
    - §4 what a phase has established; §5 every step; §6 the result;
    - §7 an entry that comes back changed.
-/
import Ava.Session.Reopen
import Ava.Session.Scripts

namespace Ava.Session.Cas

open Ava.Core Ava.Core.Json Ava.Lib

/-! ## §1. The stored history. -/

/-- The history a storage holds. -/
def stored (cfg : StoreConfig) : Storage → Result (List SessionEntry)
  | .file content => recordsIn cfg content
  | .memory entries => .ok entries

/-- A title that was generated while the summary was: metadata of the actor `auto-title` with a
    `generated_title` and no field that a user or a branch could have set. -/
structure AutoTitle (entry : SessionEntry) : Prop where
  metadata : entry.type = .sessionMetadata
  actor : stringFieldOrEmpty entry.dataJson "actor" = ascii "auto-title"
  title : (stringField entry.dataJson "generated_title").isSome = true
  nothingElse : ∀ field ∈ ["name", "labels", "archived", "parent_session_id", "source_session_id",
    "branch_from_entry_id", "branch_origin", "original_cwd"], hasField entry.dataJson field = false

theorem isAutoTitle_iff {entry : SessionEntry} : isAutoTitle entry = true ↔ AutoTitle entry := by
  unfold isAutoTitle
  rw [Bool.and_eq_true, Bool.and_eq_true, Bool.and_eq_true, decide_eq_true_eq, decide_eq_true_eq,
    Bool.not_eq_true', List.any_eq_false]
  constructor
  · rintro ⟨⟨⟨hmetadata, hactor⟩, htitle⟩, hnothing⟩
    exact ⟨hmetadata, hactor, htitle, fun field hfield => by simpa using hnothing field hfield⟩
  · rintro ⟨hmetadata, hactor, htitle, hnothing⟩
    exact ⟨⟨⟨hmetadata, hactor⟩, htitle⟩, fun field hfield => by simpa using hnothing field hfield⟩

/-- The snapshot still stands: behind it there are automatic titles only. -/
def Stands (cfg : StoreConfig) (expected : List SessionEntry) (storage : Storage)
    (titles : List SessionEntry) : Prop :=
  stored cfg storage = .ok (expected ++ titles) ∧ ∀ entry ∈ titles, AutoTitle entry

theorem compactionSnapshotMatches_iff {expected actual : List SessionEntry} :
    compactionSnapshotMatches expected actual = true ↔
      ∃ titles, actual = expected ++ titles ∧ ∀ entry ∈ titles, AutoTitle entry := by
  unfold compactionSnapshotMatches
  rw [Bool.and_eq_true, decide_eq_true_eq, List.all_eq_true]
  constructor
  · rintro ⟨htake, hdrop⟩
    refine ⟨actual.drop expected.length, ?_, fun entry hentry =>
      isAutoTitle_iff.mp (hdrop entry hentry)⟩
    nth_rewrite 1 [← htake]
    exact (List.take_append_drop _ _).symm
  · rintro ⟨titles, rfl, htitles⟩
    rw [List.take_left, List.drop_left]
    exact ⟨rfl, fun entry hentry => isAutoTitle_iff.mpr (htitles entry hentry)⟩

/-- The bounded read of an ephemeral store gives all entries or an error. -/
theorem loadBoundedEphemeral_eq_ok {limits : SessionReadLimits} {entries history : List SessionEntry}
    (h : loadBoundedEphemeral limits entries = .ok history) :
    (.ok entries : Result (List SessionEntry)) = .ok history := by
  unfold loadBoundedEphemeral at h
  iterate 3
    split at h
    next => cases h
  exact h

/-- A load is of the whole history. -/
theorem stored_of_load {cfg : StoreConfig} {t : Target} {fault : Option ReadFault}
    {storage : Storage} {history : List SessionEntry}
    (h : t.load cfg fault storage = .ok history) : stored cfg storage = .ok history := by
  cases storage with
  | file content => exact recordsIn_of_load h
  | memory entries =>
    unfold Target.load at h
    cases hlease : t.lease with
    | some lease =>
      rw [hlease] at h
      cases h
    | none =>
      rw [hlease] at h
      change loadUnleased cfg t.readLimits fault (.memory entries) = .ok history at h
      unfold loadUnleased at h
      iterate 3
        split at h
        next => cases h
      exact loadBoundedEphemeral_eq_ok h

/-- Whether the storage gives the entry back as it was. -/
def GivesBack (entry : SessionEntry) : Storage → Prop
  | .file _ => closesAtEnd entry.dataJson = true
  | .memory _ => True

/-- One more whole entry in the storage. -/
theorem stored_push {cfg : StoreConfig} {entry : SessionEntry} {storage : Storage}
    {history : List SessionEntry} (haccepted : Accepted cfg entry) (hframed : storage.Framed)
    (h : stored cfg storage = .ok history) :
    stored cfg (storage.push entry) = .ok (history ++ [entry]) ↔ GivesBack entry storage := by
  cases storage with
  | file content =>
    show recordsIn cfg (content ++ entryPayload entry) = _ ↔ closesAtEnd entry.dataJson = true
    have hrecords : recordsIn cfg content = .ok history := h
    rw [recordsIn_append_whole haccepted hframed, hrecords, ← haccepted.stored_eq_iff]
    show Except.ok (history ++ [storedEntry cfg entry]) = .ok (history ++ [entry]) ↔ _
    rw [Except.ok.injEq, List.append_cancel_left_eq, List.cons.injEq]
    exact and_iff_left rfl
  | memory entries =>
    cases h
    exact iff_of_true rfl trivial

/-! ## §2. The call, phase by phase. -/

/-- One call of `append_compaction_if_snapshot_matches`. -/
structure Call where
  target : Nat
  io : MutationIo
  entry : SessionEntry
  expected : List SessionEntry

/-- What the call has behind it while it holds the locks: nothing yet, the load, all checks, or
    its outcome, with the effects still to come. -/
inductive Phase where
  | entered
  | loaded (history : List SessionEntry)
  | admitted (next : AppendState)
  | settling (out : ConditionalAppendOutcome SessionCompactionAppendResult) (rest : List Act)

/-- The end of a call without any effect. -/
def Phase.refused (out : ConditionalAppendOutcome SessionCompactionAppendResult) : Phase :=
  .settling out []

def Call.unexpected (c : Call) : Error :=
  unexpectedError "conditional compaction append failed unexpectedly" c.io.what

/-- The next phase: first the load, then comparison, cancellation and preflight, then the
    append, each on the storage it finds. -/
def Call.proceed (cfg : StoreConfig) (c : Call) (t : Target) (storage : Storage) : Phase → Phase
  | .entered =>
    if t.recoveryRequired then .refused (rejected (appendTargetRecoveryRequiredError cfg.path))
    else if c.entry.type ≠ .compaction then
      .refused (rejected
        { category := .invalidArgument
          message := ascii "conditional compaction append requires a Compaction entry" })
    else if c.io.thrown = some .history then .refused (rejected c.unexpected)
    else
      match t.load cfg c.io.read storage with
      | .error e => .refused (rejected e)
      | .ok history => .loaded history
  | .loaded history =>
    if !compactionSnapshotMatches c.expected history then .refused (succeeded .snapshotMismatch)
    else if c.io.canceled then
      .refused (rejected
        { category := .unknown, code := .canceled
          message := ascii "conditional compaction append canceled" })
    else
      match AppendState.fromValidatedHistory history with
      | .error e => .refused (rejected e)
      | .ok state =>
        if c.io.thrown = some .preflight then .refused (rejected c.unexpected)
        else
          match state.applyCandidate c.entry with
          | .error e => .refused (rejected e)
          | .ok next => .admitted next
  | .admitted next =>
    let op := classifySettled
      (settle cfg t.lease next (appendStore cfg t.lease (c.io.appends 0) c.entry storage))
      (some .appended)
    match op.returned with
    | some out => .settling out op.acts
    | none =>
      .settling (appendFailed (withAppendCommitState c.unexpected .partialOrUnknown cfg.path))
        (op.acts ++ [.latch, .bump])
  | .settling out rest => .settling out rest

section

variable {cfg : StoreConfig} {c : Call} {t : Target} {storage : Storage}

/-- The first two phases are the part of the function before `append_attempted`. -/
theorem proceed_prepare (cfg : StoreConfig) (c : Call) (t : Target) (sh : Shared) :
    c.proceed cfg t sh.storage (c.proceed cfg t sh.storage .entered) =
      match compactionPrepare cfg t c.io sh c.entry c.expected with
      | none => .refused (rejected c.unexpected)
      | some (.error out) => .refused out
      | some (.ok next) => .admitted next := by
  unfold compactionPrepare
  by_cases hlatched : t.recoveryRequired = true
  · simp [Call.proceed, Phase.refused, hlatched]
  by_cases htype : c.entry.type = .compaction
  swap
  · simp [Call.proceed, Phase.refused, hlatched, htype]
  by_cases hthrown : c.io.thrown = some .history
  · simp [Call.proceed, Phase.refused, hlatched, htype, hthrown]
  cases hload : t.load cfg c.io.read sh.storage with
  | error e => simp [Call.proceed, Phase.refused, hlatched, htype, hthrown, hload]
  | ok history =>
    have hloaded : c.proceed cfg t sh.storage .entered = .loaded history := by
      simp [Call.proceed, hlatched, htype, hthrown, hload]
    rw [hloaded, if_neg hlatched, if_neg (not_not.mpr htype), if_neg hthrown]
    -- From here on both sides ask the same questions about the history.
    dsimp only [Call.proceed]
    split
    next => rfl
    split
    next => rfl
    cases AppendState.fromValidatedHistory history with
    | error e => rfl
    | ok state =>
      dsimp only
      split
      next => rfl
      cases state.applyCandidate c.entry with
      | error e | ok next' => rfl

/-- **THE PHASES ARE THE FUNCTION.**  Run without interruption they end with the outcome and the
    effects of `append_compaction_if_snapshot_matches_classified`. -/
theorem proceed_classified (cfg : StoreConfig) (c : Call) (t : Target) (sh : Shared) :
    ∃ out, (appendCompactionIfSnapshotMatchesClassified cfg t c.io sh c.entry c.expected).returned
        = some out ∧
      c.proceed cfg t sh.storage (c.proceed cfg t sh.storage (c.proceed cfg t sh.storage .entered))
        = .settling out
          (appendCompactionIfSnapshotMatchesClassified cfg t c.io sh c.entry c.expected).acts := by
  rw [proceed_prepare]
  unfold appendCompactionIfSnapshotMatchesClassified
  cases compactionPrepare cfg t c.io sh c.entry c.expected with
  | none => exact ⟨_, rfl, rfl⟩
  | some prepared =>
    cases prepared with
    | error out => exact ⟨_, rfl, rfl⟩
    | ok next =>
      dsimp only [Call.proceed]
      cases (classifySettled (settle cfg t.lease next
          (appendStore cfg t.lease (c.io.appends 0) c.entry sh.storage))
          (some SessionCompactionAppendResult.appended)).returned with
      | some out => exact ⟨out, rfl, rfl⟩
      | none => exact ⟨_, rfl, rfl⟩

end

/-! ## §3. All writers of a session. -/

variable (cfg : StoreConfig)

/-- `append_ephemeral` of the store itself. -/
def appendEphemeral (io : AppendIo) (storage : Storage) (entry : SessionEntry) : Op (Result Unit) :=
  if entry.type = .assistantOutputItem ∨ entry.type = .assistantTurnCommit then
    .ret (.error (({ category := .invalidArgument
                     message := ascii
                      "raw SessionStore append cannot mutate v4 assistant-output records; use SessionAppendTarget" } :
      Error).withContext "entry_type" entry.type.toBytes))
  else
    match storage with
    | .file _ =>
      .ret (.error
        { category := .invalidArgument
          message := ascii "persistent session append requires an active exact SessionLease" })
    | .memory entries =>
      match AppendState.fromValidatedHistory entries with
      | .error e => .ret (.error e)
      | .ok state =>
        match state.applyCandidate entry with
        | .error e => .ret (.error e)
        | .ok _ =>
          let out := appendStore cfg none io entry storage
          { acts := [.store out.storage], returned := out.returned }

/-- The other operations that write under the session's lock.  A persistent `recover` is the
    two repairs, each of them a call of the store, and `Step.claim`. -/
inductive Writer where
  | mutation (target : Nat) (io : MutationIo) (m : Mutation)
  | store (call : StoreCall)
  | appendEphemeral (io : AppendIo) (entry : SessionEntry)
  | recoverEphemeral (target : Nat) (io : RecoveryIo)

/-- The target whose mutex the operation holds. -/
def Writer.target : Writer → Option Nat
  | .mutation i _ _ => some i
  | .recoverEphemeral i _ => some i
  | .store _ => none
  | .appendEphemeral _ _ => none

/-- The effects of an operation on the target `t`, from the state in which it takes the lock. -/
def Writer.acts (t : Target) (sh : Shared) : Writer → List Act
  | .mutation _ io m => (mutate cfg t io sh m).acts
  | .store call =>
    match sh.storage with
    | .file content => call.acts cfg content
    | .memory _ => []
  | .appendEphemeral io entry => (Cas.appendEphemeral cfg io sh.storage entry).acts
  | .recoverEphemeral _ io => if t.lease.isNone then (recover cfg t io sh).acts else []

/-- One effect of a compaction call, with what it found and what it left. -/
structure Effect where
  act : Act
  before : Shared
  after : Shared
deriving DecidableEq

def Effect.writes (e : Effect) : Bool :=
  match e.act with
  | .store _ => true
  | _ => false

/-- A compaction call in flight; `own` is every effect it has had so far. -/
structure Active where
  call : Call
  phase : Phase := .entered
  own : List Effect := []

/-- Who holds the session's lock. -/
inductive Holder where
  | writer (target : Option Nat) (rest : List Act)
  | compaction (a : Active)

structure World where
  shared : Shared
  targets : Nat → Option Target := fun _ => none
  lock : Option Holder := none

/-- The target, if any, as the effects of an operation leave it. -/
def World.retarget (w : World) (i : Option Nat) (f : Target → Target) : Nat → Option Target :=
  match i with
  | none => w.targets
  | some i => fun j => if j = i then (w.targets i).map f else w.targets j

/-- **ONE STEP.**  `create` and `claim` do without the lock; a target that is created may have
    loaded the session at any time before. -/
inductive Step (cfg : StoreConfig) (w : World) : World → Prop
  | create (i : Nat) (t : Target) (hnew : w.targets i = none) :
      Step cfg w { w with targets := withTarget w.targets i t }
  | claim (i : Nat) (t : Target) (state : AppendState) (htarget : w.targets i = some t)
      (hfree : ∀ a, w.lock = some (.compaction a) → a.call.target ≠ i) :
      Step cfg w
        { w with
          targets := withTarget w.targets i
            (execAll [.publish state, .unlatch, .advance] t w.shared).1
          shared := (execAll [.publish state, .unlatch, .advance] t w.shared).2 }
  | enter (o : Writer) (t : Target) (htarget : ∀ i, o.target = some i → w.targets i = some t)
      (hlock : w.lock = none) :
      Step cfg w { w with lock := some (.writer o.target (o.acts cfg t w.shared)) }
  | write (i : Option Nat) (act : Act) (rest : List Act) (t : Target)
      (hlock : w.lock = some (.writer i (act :: rest))) :
      Step cfg w
        { shared := (act.exec t w.shared).2
          targets := w.retarget i fun u => (act.exec u w.shared).1
          lock := some (.writer i rest) }
  | leave (i : Option Nat) (hlock : w.lock = some (.writer i [])) : Step cfg w { w with lock := none }
  | compact (c : Call) (t : Target) (htarget : w.targets c.target = some t)
      (hlock : w.lock = none) :
      Step cfg w { w with lock := some (.compaction { call := c }) }
  | proceed (a : Active) (t : Target) (hlock : w.lock = some (.compaction a))
      (htarget : w.targets a.call.target = some t) :
      Step cfg w
        { w with
          lock := some (.compaction { a with phase := a.call.proceed cfg t w.shared.storage a.phase }) }
  | effect (a : Active) (t : Target) (out : ConditionalAppendOutcome SessionCompactionAppendResult)
      (act : Act) (rest : List Act) (hlock : w.lock = some (.compaction a))
      (htarget : w.targets a.call.target = some t) (hphase : a.phase = .settling out (act :: rest)) :
      Step cfg w
        { shared := (act.exec t w.shared).2
          targets := withTarget w.targets a.call.target (act.exec t w.shared).1
          lock := some (.compaction
            { a with
              phase := .settling out rest
              own := a.own ++ [⟨act, w.shared, (act.exec t w.shared).2⟩] }) }
  | finish (a : Active) (out : ConditionalAppendOutcome SessionCompactionAppendResult)
      (hlock : w.lock = some (.compaction a)) (hphase : a.phase = .settling out []) :
      Step cfg w { w with lock := none }

/-- The worlds that are reached from any storage, before there is a target. -/
inductive Run (cfg : StoreConfig) : World → Prop
  | start (shared : Shared) : Run cfg { shared }
  | step {w w' : World} (hrun : Run cfg w) (hstep : Step cfg w w') : Run cfg w'

/-! ## §4. What a phase has established. -/

/-- The write of the call, once it has happened. -/
def Swapped (c : Call) (e : Effect) : Prop :=
  ∃ titles, Stands cfg c.expected e.before.storage titles ∧
    (stored cfg e.after.storage = .ok (c.expected ++ titles ++ [c.entry]) ↔
      GivesBack c.entry e.before.storage)

/-- The effects of a call that reports `Appended`: the write is still ahead and the snapshot
    stands, or it is the only write there has been. -/
inductive Appending (cfg : StoreConfig) (c : Call) (storage : Storage) :
    List Act → List Effect → Prop
  | ahead (titles : List SessionEntry) (next : AppendState)
      (hstands : Stands cfg c.expected storage titles) (haccepted : Accepted cfg c.entry)
      (hframed : storage.Framed) :
      Appending cfg c storage [.store (storage.push c.entry), .publish next, .advance] []
  | done (e : Effect) (rest : List Act) (own : List Effect) (hswapped : Swapped cfg c e)
      (hrest : ∀ s, .store s ∉ rest) (hown : own.filter Effect.writes = [e]) :
      Appending cfg c storage rest own

/-- What the call has established in its phase. -/
def Established (storage : Storage) (a : Active) : Prop :=
  match a.phase with
  | .entered => a.own = []
  | .loaded history => a.own = [] ∧ stored cfg storage = .ok history
  | .admitted _ => a.own = [] ∧ ∃ titles, Stands cfg a.call.expected storage titles
  | .settling out rest =>
    match out.completion, out.result with
    | .rejectedBeforeAppend, _ => rest = [] ∧ a.own = []
    | .succeeded, some .snapshotMismatch => rest = [] ∧ a.own = []
    | .succeeded, some .appended => Appending cfg a.call storage rest a.own
    | .succeeded, none => False
    | .appendFailed, _ => True

section

variable {cfg : StoreConfig} {storage : Storage} {a : Active} {t : Target}

/-- A rejection has no effect. -/
theorem Established.rejected {c : Call} (e : Error) :
    Established cfg storage { call := c, phase := .refused (rejected e) } := ⟨rfl, rfl⟩

/-- An error of `append_impl` stays an error. -/
theorem settle_failed (cfg : StoreConfig) (lease : Option SessionLease) (next : AppendState)
    (storage : Storage) (e : Error) :
    ∃ acts e', settle cfg lease next { storage, returned := some (.error e) } =
      { acts, returned := some (.error e') } := by
  unfold settle
  dsimp only
  split
  next => exact ⟨_, _, rfl⟩
  split
  next => exact ⟨_, _, rfl⟩
  next => exact ⟨_, _, rfl⟩

/-- The answer of `append_impl` decides what the call has to do. -/
theorem Established.settled {c : Call} {titles : List SessionEntry} {next : AppendState}
    (hstands : Stands cfg c.expected storage titles) :
    Established cfg storage
      { call := c, phase := c.proceed cfg t storage (.admitted next) } := by
  have heffect := appendStore_effect cfg t.lease (c.io.appends 0) c.entry storage
  rw [Call.proceed]
  generalize appendStore cfg t.lease (c.io.appends 0) c.entry storage = out at heffect ⊢
  -- Only an append that succeeded promises anything.
  obtain ⟨written, returned⟩ := out
  cases returned with
  | none => trivial
  | some result =>
    cases result with
    | error e =>
      obtain ⟨acts, e', hfailed⟩ := settle_failed cfg t.lease next written e
      rw [hfailed]
      trivial
    | ok =>
      cases heffect with
      | appended haccepted hframed => exact .ahead titles next hstands haccepted hframed

/-- **A PHASE KEEPS ITS WORD.**  Whatever the next phase does, it finds the storage of which the
    earlier ones spoke. -/
theorem Established.proceed (h : Established cfg storage a) :
    Established cfg storage { a with phase := a.call.proceed cfg t storage a.phase } := by
  obtain ⟨c, phase, own⟩ := a
  cases phase with
  | entered =>
    obtain rfl : own = [] := h
    show Established cfg storage { call := c, phase := c.proceed cfg t storage .entered }
    rw [Call.proceed]
    iterate 3
      split
      next => exact .rejected _
    split
    next => exact .rejected _
    next history hload => exact ⟨rfl, stored_of_load hload⟩
  | loaded history =>
    obtain ⟨rfl, hstored⟩ : own = [] ∧ stored cfg storage = .ok history := h
    show Established cfg storage { call := c, phase := c.proceed cfg t storage (.loaded history) }
    rw [Call.proceed]
    split
    next => exact ⟨rfl, rfl⟩
    next hmatches =>
      split
      next => exact .rejected _
      split
      next => exact .rejected _
      next state hstate =>
        split
        next => exact .rejected _
        split
        next => exact .rejected _
        next next' happly =>
          have hmatches' : compactionSnapshotMatches c.expected history = true := by
            simpa using hmatches
          obtain ⟨titles, rfl, htitles⟩ := compactionSnapshotMatches_iff.mp hmatches'
          exact ⟨rfl, titles, hstored, htitles⟩
  | admitted next =>
    obtain ⟨rfl, titles, hstands⟩ : own = [] ∧ ∃ titles, Stands cfg c.expected storage titles := h
    exact .settled hstands
  | settling out rest => exact h

/-- The effects of a call that reports `Appended`, one at a time. -/
theorem Appending.effect {c : Call} {act : Act} {rest : List Act} {own : List Effect} {sh : Shared}
    (h : Appending cfg c sh.storage (act :: rest) own) :
    Appending cfg c (act.exec t sh).2.storage rest
      (own ++ [⟨act, sh, (act.exec t sh).2⟩]) := by
  cases h with
  | ahead titles next hstands haccepted hframed =>
    refine .done ⟨_, sh, _⟩ _ _ ⟨titles, hstands, ?_⟩ (by simp) rfl
    exact stored_push haccepted hframed hstands.1
  | done e _ _ hswapped hrest hown =>
    refine .done e _ _ hswapped (fun s hs => hrest s (List.mem_cons_of_mem _ hs)) ?_
    have hquiet : Effect.writes ⟨act, sh, (act.exec t sh).2⟩ = false := by
      cases act with
      | store s => exact absurd List.mem_cons_self (hrest s)
      | publish | see | observe | bump | advance | latch | unlatch => rfl
    rw [List.filter_append, hown, List.filter_cons_of_neg (by simp [hquiet]), List.filter_nil,
      List.append_nil]

theorem Established.effect {sh : Shared}
    {out : ConditionalAppendOutcome SessionCompactionAppendResult} {act : Act} {rest : List Act}
    (h : Established cfg sh.storage a) (hphase : a.phase = .settling out (act :: rest)) :
    Established cfg (act.exec t sh).2.storage
      { a with
        phase := .settling out rest
        own := a.own ++ [⟨act, sh, (act.exec t sh).2⟩] } := by
  unfold Established at h ⊢
  rw [hphase] at h
  dsimp only at h ⊢
  split at h
  next => cases h.1
  next => cases h.1
  next hcompletion hresult => exact h.effect
  next => exact h
  next => trivial

end

/-! ## §5. Every step. -/

/-- The lock keeps what its holder has established. -/
def Inv (cfg : StoreConfig) (w : World) : Prop :=
  ∀ a, w.lock = some (.compaction a) → Established cfg w.shared.storage a

section

variable {cfg : StoreConfig} {w w' : World}

/-- The last step of a `recover` publishes and takes an epoch; the storage is not touched. -/
theorem storage_claim (state : AppendState) (t : Target) (sh : Shared) :
    (execAll [.publish state, .unlatch, .advance] t sh).2.storage = sh.storage := rfl

theorem Inv.step (h : Inv cfg w) (hstep : Step cfg w w') : Inv cfg w' := by
  intro a ha
  cases hstep with
  | create i t hnew => exact h a ha
  | claim i t state htarget hfree =>
    rw [storage_claim]
    exact h a ha
  | enter o t htarget hlock | write i act rest t hlock | leave i hlock => cases ha
  | compact c t htarget hlock =>
    cases ha
    exact rfl
  | proceed b t hlock htarget =>
    cases ha
    exact (h b hlock).proceed
  | effect b t out act rest hlock htarget hphase =>
    cases ha
    exact (h b hlock).effect hphase
  | finish b out hlock hphase => cases ha

theorem Run.inv (h : Run cfg w) : Inv cfg w := by
  induction h with
  | start shared =>
    intro a ha
    cases ha
  | step hrun hstep ih => exact ih.step hstep

end

/-! ## §6. The result. -/

/-- **COMPARE AND SWAP.**  In every run, when a call is about to return: if it reports `Appended`
    it has written once, and right before that write the history was the snapshot followed by
    automatic titles only; right after it, it was that list followed by the entry, exactly when
    the storage gives the entry back as it was.  If it reports a mismatch or a rejection it has
    had no effect at all, neither on the storage nor on the epoch. -/
theorem compaction_compare_and_swap {cfg : StoreConfig} {w : World} {a : Active}
    {out : ConditionalAppendOutcome SessionCompactionAppendResult} (hrun : Run cfg w)
    (hlock : w.lock = some (.compaction a)) (hphase : a.phase = .settling out []) :
    (out.completion = .succeeded → out.result = some .appended →
      ∃ e titles, a.own.filter Effect.writes = [e] ∧
        stored cfg e.before.storage = .ok (a.call.expected ++ titles) ∧
        (∀ entry ∈ titles, AutoTitle entry) ∧
        (stored cfg e.after.storage = .ok (a.call.expected ++ titles ++ [a.call.entry]) ↔
          GivesBack a.call.entry e.before.storage)) ∧
    (out.completion = .rejectedBeforeAppend ∨
      (out.completion = .succeeded ∧ out.result = some .snapshotMismatch) → a.own = []) := by
  have hestablished := hrun.inv a hlock
  unfold Established at hestablished
  rw [hphase] at hestablished
  dsimp only at hestablished
  constructor
  · intro hcompletion hresult
    rw [hcompletion, hresult] at hestablished
    cases hestablished with
    | done e _ _ hswapped hrest hown =>
      obtain ⟨titles, hstands, hafter⟩ := hswapped
      exact ⟨e, titles, hown, hstands.1, hstands.2, hafter⟩
  · rintro (hcompletion | ⟨hcompletion, hresult⟩)
    · rw [hcompletion] at hestablished
      exact hestablished.2
    · rw [hcompletion, hresult] at hestablished
      exact hestablished.2

/-! ## §7. An entry that comes back changed. -/

/-- The effects of a script with what each one finds and leaves. -/
def trail (t : Target) (sh : Shared) : List Act → List Effect
  | [] => []
  | act :: acts =>
    ⟨act, sh, (act.exec t sh).2⟩ :: trail (act.exec t sh).1 (act.exec t sh).2 acts

/-- The effects of a call nobody interrupts. -/
theorem run_effects {cfg : StoreConfig} {c : Call}
    {out : ConditionalAppendOutcome SessionCompactionAppendResult} :
    ∀ {acts : List Act} {own : List Effect} {w : World} {t : Target}, Run cfg w →
      w.targets c.target = some t →
      w.lock = some (.compaction { call := c, phase := .settling out acts, own }) →
      ∃ w', Run cfg w' ∧ w'.lock = some (.compaction
        { call := c, phase := .settling out [], own := own ++ trail t w.shared acts }) := by
  intro acts
  induction acts with
  | nil =>
    intro own w t hrun htarget hlock
    rw [trail, List.append_nil]
    exact ⟨w, hrun, hlock⟩
  | cons act acts ih =>
    intro own w t hrun htarget hlock
    have hstep := Run.step hrun (.effect _ t out act acts hlock htarget rfl)
    obtain ⟨w', hrun', hlock'⟩ := ih hstep (if_pos rfl) rfl
    refine ⟨w', hrun', ?_⟩
    rw [hlock', List.append_assoc]
    rfl

/-- A call on a fresh target of a session with this storage, run without interruption. -/
theorem run_alone (cfg : StoreConfig) (c : Call) (t : Target) (sh : Shared) :
    let op := appendCompactionIfSnapshotMatchesClassified cfg t c.io sh c.entry c.expected
    ∃ w out, op.returned = some out ∧ Run cfg w ∧ w.lock = some (.compaction
      { call := c, phase := .settling out [], own := trail t sh op.acts }) := by
  obtain ⟨out, hout, hphases⟩ := proceed_classified cfg c t sh
  have htarget : withTarget (fun _ => none) c.target t c.target = some t := if_pos rfl
  have hcreated : Run cfg { shared := sh, targets := withTarget (fun _ => none) c.target t } :=
    .step (.start sh) (.create c.target t rfl)
  have hentered := Run.step hcreated (.compact c t htarget rfl)
  have hloaded := Run.step hentered (.proceed _ t rfl htarget)
  have hadmitted := Run.step hloaded (.proceed _ t rfl htarget)
  have hsettling := Run.step hadmitted (.proceed _ t rfl htarget)
  obtain ⟨w, hrun, hlock⟩ := run_effects hsettling htarget
    (congrArg (fun phase => some (Holder.compaction { call := c, phase })) hphases)
  exact ⟨w, out, hout, hrun, hlock⟩

/-- A compaction entry, and the same with a second member spliced in behind its data. -/
def compactionEntry : SessionEntry := { plainEntry with type := .compaction }

def splicedCompaction : SessionEntry := { splicedEntry with type := .compaction }

/-- What the external parser reports on the two lines; it is asked about no other text. -/
def compactionSax : SaxParser := fun value =>
  if value = sessionEntryLineText compactionEntry then
    { events := envelopeEvents ++ [.startObject, .endObject, .endObject], ok := true }
  else if value = sessionEntryLineText splicedCompaction then
    { events := envelopeEvents ++
        [.startObject, .endObject, .key (ascii "x"), .startObject, .endObject, .endObject]
      ok := true }
  else { events := [], ok := false }

def compactionStore : StoreConfig := { twoLineStore with sax := compactionSax }

/-- The first compaction of an empty session. -/
def firstCall (entry : SessionEntry) : Call := { target := 0, io := {}, entry, expected := [] }

/-- The effects of that call. -/
def firstActs (entry : SessionEntry) : List Act :=
  (appendCompactionIfSnapshotMatchesClassified compactionStore firstTarget {}
    { storage := .file [] } entry []).acts

/-- It reports `Appended` when the entry is one of the two. -/
theorem run_first (entry : SessionEntry)
    (hreply : (appendCompactionIfSnapshotMatchesClassified compactionStore firstTarget {}
        { storage := .file [] } entry []).returned.map (fun out => (out.completion, out.result))
      = some (.succeeded, some .appended)) :
    ∃ w a out, Run compactionStore w ∧ w.lock = some (.compaction a) ∧
      a.phase = .settling out [] ∧ out.completion = .succeeded ∧ out.result = some .appended ∧
      a.call = firstCall entry ∧ a.own = trail firstTarget { storage := .file [] } (firstActs entry) := by
  obtain ⟨w, out, hout, hrun, hlock⟩ :=
    run_alone compactionStore (firstCall entry) firstTarget { storage := .file [] }
  have hout' : (appendCompactionIfSnapshotMatchesClassified compactionStore firstTarget {}
      { storage := .file [] } entry []).returned = some out := hout
  rw [hout', Option.map_some, Option.some.injEq, Prod.mk.injEq] at hreply
  exact ⟨w, _, out, hrun, hlock, rfl, hreply.1, hreply.2, rfl, rfl⟩

/-- The plain entry is swapped in as it is. -/
theorem compaction_compare_and_swap_plain :
    ∃ (e : Effect) (titles : List SessionEntry), stored compactionStore e.before.storage = .ok titles ∧
      (∀ entry ∈ titles, AutoTitle entry) ∧ GivesBack compactionEntry e.before.storage ∧
      stored compactionStore e.after.storage = .ok (titles ++ [compactionEntry]) := by
  obtain ⟨w, a, out, hrun, hlock, hphase, hcompletion, hresult, hcall, hown⟩ :=
    run_first compactionEntry (by decide)
  obtain ⟨e, titles, hwrites, hbefore, htitles, hafter⟩ :=
    (compaction_compare_and_swap hrun hlock hphase).1 hcompletion hresult
  rw [hcall] at hbefore hafter
  have hwrite : (trail firstTarget { storage := .file [] } (firstActs compactionEntry)).filter
      Effect.writes = [⟨.store (.file (entryPayload compactionEntry)), { storage := .file [] },
        { storage := .file (entryPayload compactionEntry) }⟩] := by
    decide
  rw [hown, hwrite, List.cons.injEq] at hwrites
  have hgives : GivesBack compactionEntry e.before.storage := by
    rw [← hwrites.1]
    show closesAtEnd compactionEntry.dataJson = true
    decide
  exact ⟨e, titles, hbefore, htitles, hgives, hafter.mpr hgives⟩

/-- **THE SPLICED SUMMARY.**  The call reports `Appended` on an empty session, and the history
    right after its write is another entry than the one it was given. -/
theorem compaction_stores_another_entry :
    ∃ w a out e, Run compactionStore w ∧ w.lock = some (.compaction a) ∧
      a.phase = .settling out [] ∧ out.completion = .succeeded ∧ out.result = some .appended ∧
      a.call = firstCall splicedCompaction ∧ a.own.filter Effect.writes = [e] ∧
      stored compactionStore e.before.storage = .ok [] ∧
      stored compactionStore e.after.storage = .ok [compactionEntry] ∧
      compactionEntry ≠ splicedCompaction := by
  obtain ⟨w, a, out, hrun, hlock, hphase, hcompletion, hresult, hcall, hown⟩ :=
    run_first splicedCompaction (by decide)
  have hwrite : (trail firstTarget { storage := .file [] } (firstActs splicedCompaction)).filter
      Effect.writes = [⟨.store (.file (entryPayload splicedCompaction)), { storage := .file [] },
        { storage := .file (entryPayload splicedCompaction) }⟩] := by
    decide
  rw [← hown] at hwrite
  exact ⟨w, a, out, _, hrun, hlock, hphase, hcompletion, hresult, hcall, hwrite,
    by decide, by decide, by decide⟩

end Ava.Session.Cas
