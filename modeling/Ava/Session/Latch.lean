/-
  Ava.Session.Latch
  **AN UNKNOWN WRITE LATCHES ITS TARGET.**

  Every mutation of a target classifies the failure of its write by the commit state in the
  error.  The results here say what the caller may conclude from that error: an unknown
  outcome has latched the target, and any other error leaves whole records behind.

    - §1 running effects; §2 errors without a commit state; §3 one settled append;
    - §4 the classification of each mutation; §5 the branch summary's catch block;
    - §6 a latched target; §7 the result.
-/
import Ava.Session.Target

namespace Ava.Session

open Ava.Core Ava.Core.Json Ava.Lib AppendState

/-! ## §1. Running effects. -/

theorem execAll_append (as bs : List Act) (t : Target) (sh : Shared) :
    execAll (as ++ bs) t sh = execAll bs (execAll as t sh).1 (execAll as t sh).2 := by
  induction as generalizing t sh with
  | nil => rfl
  | cons a as ih => exact ih _ _

/-- The storage a list of effects leaves. -/
def storageAfter : List Act → Storage → Storage
  | [], s => s
  | .store s' :: acts, _ => storageAfter acts s'
  | _ :: acts, s => storageAfter acts s

theorem storageAfter_append (as bs : List Act) (s : Storage) :
    storageAfter (as ++ bs) s = storageAfter bs (storageAfter as s) := by
  induction as generalizing s with
  | nil => rfl
  | cons a as ih => cases a <;> exact ih _

theorem storage_execAll (acts : List Act) (t : Target) (sh : Shared) :
    (execAll acts t sh).2.storage = storageAfter acts sh.storage := by
  induction acts generalizing t sh with
  | nil => rfl
  | cons a acts ih =>
    cases a <;> exact ih _ _

variable {acts : List Act}

/-- Nothing but `recover` releases the latch. -/
theorem recoveryRequired_execAll (h : .unlatch ∉ acts) (t : Target) (sh : Shared) :
    (execAll acts t sh).1.recoveryRequired = (t.recoveryRequired || decide (.latch ∈ acts)) := by
  induction acts generalizing t sh with
  | nil => simp [execAll]
  | cons a acts ih =>
    obtain ⟨ha, hrest⟩ := not_or.mp (mt List.mem_cons.mpr h)
    rw [execAll, ih hrest]
    cases a with
    | unlatch => exact absurd rfl ha
    | latch | store | publish | see | observe | bump | advance => simp [Act.exec]

/-! ## §2. Errors without a commit state. -/

variable (cfg : StoreConfig) (limits : SessionReadLimits) (entries : List SessionEntry)
  (entry : SessionEntry) (storage : Storage) (s : AppendState) (t : Target)
  (fault : Option ReadFault) (lease : Option SessionLease) (path : Bytes)

theorem plainErrors_validateReadLimits :
    PlainErrors (validateReadLimits limits) := by
  unfold validateReadLimits
  exact .guard (by simp) (.ok ())

theorem plainErrors_consumeLine (r : SnapshotReader) (line : Bytes) (fin : Bool) (count : Nat) :
    PlainErrors (consumeLine r line fin count) := by
  unfold consumeLine
  refine .ite (.ok _) (.ite ?_ (.ite ?_ ?_))
  · exact .error (by simp [strictSessionRecordError])
  · exact .error (by simp [entryCountError])
  · cases r.decoding with
    | strict => exact .map (plainErrors_parseStrictSessionRecord _ _ _ _) _
    | compatibility => exact .map (plainErrors_parseSessionEntryLine _ _) _

theorem plainErrors_visitSnapshot (r : SnapshotReader) (rest : Bytes) :
    ∀ (line : Bytes) (count : Nat), PlainErrors (visitSnapshot r line count rest) := by
  induction rest with
  | nil =>
    intro line count
    rw [visitSnapshot]
    exact .ite (.ok _) (.map (plainErrors_consumeLine _ _ _ _) _)
  | cons c rest ih =>
    intro line count
    rw [visitSnapshot]
    refine .ite ?_ (.guard (by simp [lineLimitError]) (ih _ _))
    split
    next e h => exact .error (plainErrors_consumeLine _ _ _ _ e h)
    next => exact .ok _
    next => exact .map (ih _ _) _

theorem plainErrors_loadBounded (sax : SaxParser) (path : Bytes) (limits : SessionReadLimits)
    (content : Bytes) : PlainErrors (loadBounded sax path limits content) := by
  unfold loadBounded
  split
  next e h => exact .error (plainErrors_validateReadLimits _ e h)
  exact .guard (by simp [fileLimitError]) (plainErrors_visitSnapshot _ _ _ _)

theorem plainErrors_ephemeralBytesWithin :
    ∀ total, PlainErrors (ephemeralBytesWithin limits total entries) := by
  induction entries with
  | nil =>
    intro total
    exact .ok ()
  | cons entry entries ih =>
    intro total
    rw [ephemeralBytesWithin]
    split
    next e h => exact .error (plainErrors_serializeSessionEntryLine _ e h)
    exact .guard (by simp) (.guard (by simp) (ih _))

theorem plainErrors_loadBoundedEphemeral :
    PlainErrors (loadBoundedEphemeral limits entries) := by
  unfold loadBoundedEphemeral
  split
  next e h => exact .error (plainErrors_validateReadLimits _ e h)
  refine .guard (by simp) ?_
  split
  next e h => exact .error (plainErrors_ephemeralBytesWithin _ _ _ e h)
  next => exact .ok _

@[simp] theorem hasAppendCommitState_readError (f : ReadFault) :
    hasAppendCommitState (readError path f) = false := by
  cases f <;> simp [readError]

theorem plainErrors_loadLeased (lease : SessionLease) (limits : SessionReadLimits)
    (fault : Option ReadFault) (content : Bytes) :
    PlainErrors (loadLeased cfg lease limits fault content) := by
  unfold loadLeased
  split
  next e h => exact .error (plainErrors_validateReadLimits _ e h)
  split
  next e h => exact .error (plainErrors_validateSessionId _ e h)
  refine .guard (by simp) (.guard (by simp)
      (.guard (by simp) ?_))
  split
  next => exact .error (by simp)
  next => exact plainErrors_loadBounded _ _ _ _

theorem plainErrors_loadUnleased (storage : Storage) :
    PlainErrors (loadUnleased cfg limits fault storage) := by
  unfold loadUnleased
  split
  next e h => exact .error (plainErrors_validateReadLimits _ e h)
  split
  next e h => exact .error (plainErrors_validateSessionId _ e h)
  split
  next => exact .error (by simp)
  split
  next => exact plainErrors_loadBounded _ _ _ _
  next => exact plainErrors_loadBoundedEphemeral _ _

theorem plainErrors_load (storage : Storage) : PlainErrors (t.load cfg fault storage) := by
  unfold Target.load
  split
  next => exact plainErrors_loadLeased _ _ _ _ _
  next => exact .error (by simp)
  next => exact plainErrors_loadUnleased _ _ _ _

@[simp] theorem hasAppendCommitState_appendStateError (message : String) :
    hasAppendCommitState (appendStateError message) = false := rfl

theorem plainErrors_addIdentities (id : Bytes) (item : AssistantOutputItem) :
    PlainErrors (s.addIdentities id item) := by
  unfold addIdentities
  exact .guard (by simp) (.guard (by simp) (.ok _))

theorem plainErrors_applyItem (entry : SessionEntry) :
    PlainErrors (s.applyItem entry) := by
  unfold applyItem
  split
  next => exact .error (by simp)
  refine .guard (by simp) ?_
  split
  next =>
    exact .guard (by simp)
      (.guard (by simp) (plainErrors_addIdentities _ _ _))
  next => exact .guard (by simp) (plainErrors_addIdentities _ _ _)

theorem plainErrors_applyCommit (entry : SessionEntry) :
    PlainErrors (s.applyCommit entry) := by
  unfold applyCommit
  split
  next => exact .error (by simp)
  dsimp only
  split
  next =>
    exact .guard (by simp) (.guard (by simp) (.ok _))
  exact .guard (by simp) (.guard (by simp) (.ok _))

theorem plainErrors_applyOther : PlainErrors s.applyOther := by
  unfold applyOther
  split
  next => exact .ok _
  next => exact .error (by simp)

theorem plainErrors_applyCandidate (entry : SessionEntry) :
    PlainErrors (s.applyCandidate entry) := by
  unfold applyCandidate
  split
  next => exact plainErrors_applyItem _ _
  next => exact plainErrors_applyCommit _ _
  next => exact plainErrors_applyOther _

theorem plainErrors_applyCandidates :
    ∀ s : AppendState, PlainErrors (s.applyCandidates entries) := by
  induction entries with
  | nil =>
    intro s
    exact .ok _
  | cons entry entries ih =>
    intro s
    rw [applyCandidates]
    split
    next e h => exact .error (plainErrors_applyCandidate _ _ e h)
    next => exact ih _

theorem plainErrors_addCommittedItems (items : List CommittedItem) :
    ∀ s : AppendState, PlainErrors (s.addCommittedItems items) := by
  induction items with
  | nil =>
    intro s
    exact .ok _
  | cons item items ih =>
    intro s
    rw [addCommittedItems]
    exact .guard (by simp) (ih _)

theorem plainErrors_addCommittedTurns (turns : List CommittedTurn) :
    ∀ s : AppendState, PlainErrors (s.addCommittedTurns turns) := by
  induction turns with
  | nil =>
    intro s
    exact .ok _
  | cons turn turns ih =>
    intro s
    rw [addCommittedTurns]
    refine .guard (by simp) ?_
    split
    next e h => exact .error (plainErrors_addCommittedItems _ _ e h)
    next => exact ih _

theorem plainErrors_fromValidatedHistory :
    PlainErrors (fromValidatedHistory entries) := by
  unfold fromValidatedHistory
  dsimp only
  split
  next => exact .error (by simp)
  split
  next e h => exact .error (plainErrors_addCommittedTurns _ _ e h)
  refine .ite (.ok _) (.guard (by simp) ?_)
  split
  next e h => exact .error (plainErrors_applyCandidates _ _ e h)
  next => exact .guard (by simp) (.ok _)

theorem plainErrors_rebuild (storage : Storage) : PlainErrors (t.rebuild cfg fault storage) := by
  unfold Target.rebuild
  split
  next e h => exact .error (plainErrors_load _ _ _ _ e h)
  next => exact .map (plainErrors_fromValidatedHistory _) _

theorem plainErrors_branchSummaryIdentity :
    PlainErrors (branchSummaryIdentity entry) := by
  unfold branchSummaryIdentity
  exact .guard (by simp) (.guard (by simp) (.ok _))

theorem plainErrors_validateBranchSummaryRange (history : List SessionEntry)
    (identity : BranchSummaryIdentity) :
    PlainErrors (validateBranchSummaryRange history identity) := by
  unfold validateBranchSummaryRange
  split
  next => exact .guard (by simp) (.ok _)
  next => exact .error (by simp)

theorem plainErrors_batchSerialized :
    ∀ total, PlainErrors (batchSerialized cfg total entries) := by
  induction entries with
  | nil =>
    intro total
    exact .ok _
  | cons entry entries ih =>
    intro total
    rw [batchSerialized]
    split
    next e h => exact .error (plainErrors_serializeSessionEntryLine _ e h)
    split
    next e h => exact .error (plainErrors_parseStrictSessionRecord _ _ _ _ e h)
    next => exact .guard (by simp) (ih _)

theorem plainErrors_batchChecks :
    PlainErrors (batchChecks cfg entries) := by
  unfold batchChecks
  split
  next => exact .error (by simp)
  exact .guard (by simp) (.guard (by simp)
    (.guard (by simp) (plainErrors_batchSerialized _ _ _)))

/-! ## §3. One settled append. -/

/-- A file that may be appended to, or any memory. -/
def Storage.Framed : Storage → Prop
  | .file content => content = [] ∨ content.getLast? = some lf
  | .memory _ => True

/-- Everything one call of `append_impl` can do, whatever the storage. -/
inductive StoreEffect (cfg : StoreConfig) (entry : SessionEntry) (storage : Storage) :
    StoreOutcome → Prop
  | thrownEarly : StoreEffect cfg entry storage { storage, returned := none }
  | refused (e : Error) (htorn : appendPartialOrUnknown e = false)
      (hcommitted : appendCommittedToLeasedInode e = false) :
      StoreEffect cfg entry storage { storage, returned := some (.error e) }
  | thrownLate (content : Bytes) (n : Nat) (hfile : storage = .file content)
      (haccepted : Accepted cfg entry) (hframed : storage.Framed) :
      StoreEffect cfg entry storage
        { storage := .file (content ++ (entryPayload entry).take n), returned := none }
  | torn (content : Bytes) (n : Nat) (e : Error) (hfile : storage = .file content)
      (haccepted : Accepted cfg entry) (hframed : storage.Framed)
      (htorn : appendPartialOrUnknown e = true) :
      StoreEffect cfg entry storage
        { storage := .file (content ++ (entryPayload entry).take n), returned := some (.error e) }
  | committed (e : Error) (haccepted : Accepted cfg entry) (hframed : storage.Framed)
      (htorn : appendPartialOrUnknown e = false)
      (hcommitted : appendCommittedToLeasedInode e = true) :
      StoreEffect cfg entry storage { storage := storage.push entry, returned := some (.error e) }
  | appended (haccepted : Accepted cfg entry) (hframed : storage.Framed) :
      StoreEffect cfg entry storage { storage := storage.push entry, returned := some (.ok ()) }

theorem appendStore_effect (io : AppendIo) (entry : SessionEntry) (storage : Storage) :
    StoreEffect cfg entry storage (appendStore cfg lease io entry storage) := by
  cases storage with
  | file content =>
    unfold appendStore
    dsimp only
    have heffect := appendImpl_effect cfg lease io content entry
    generalize appendImpl cfg lease io content entry = out at heffect
    cases heffect with
    | thrownEarly => exact .thrownEarly
    | refused e htorn hcommitted => exact .refused e htorn hcommitted
    | thrownLate n haccepted hframed hn => exact .thrownLate content n rfl haccepted hframed
    | torn n e haccepted hframed hn htorn => exact .torn content n e rfl haccepted hframed htorn
    | committed e haccepted hframed htorn hcommitted =>
      exact .committed e haccepted hframed htorn hcommitted
    | appended haccepted hframed => exact .appended haccepted hframed
  | memory entries =>
    unfold appendStore
    dsimp only
    split
    next => exact .thrownEarly
    unfold appendImplEphemeral
    cases hchecks : appendChecks cfg entry with
    | error e =>
      have hplain := plainErrors_appendChecks cfg entry e hchecks
      exact .refused e (reportsCommitState_of_plain hplain _) (reportsCommitState_of_plain hplain _)
    | ok line =>
      dsimp only
      split
      next => exact .refused _ rfl rfl
      next => exact .appended (appendChecks_eq_ok hchecks).1 trivial

variable {e : Error}

theorem hasAppendCommitState_of_reports {state : AppendCommitState}
    (h : reportsCommitState state e = true) : hasAppendCommitState e = true := by
  by_contra hplain
  rw [Bool.not_eq_true] at hplain
  rw [reportsCommitState_of_plain hplain] at h
  cases h

/-- Marking an error as not started changes nothing about what it reports. -/
theorem orNotStarted_of_reports {state : AppendCommitState}
    (h : reportsCommitState state e = true) :
    orNotStarted cfg lease e = e := by
  unfold orNotStarted
  rw [hasAppendCommitState_of_reports h]
  simp

theorem orNotStarted_of_refused (htorn : appendPartialOrUnknown e = false)
    (hcommitted : appendCommittedToLeasedInode e = false) :
    appendPartialOrUnknown (orNotStarted cfg lease e) = false ∧
      appendCommittedToLeasedInode (orNotStarted cfg lease e) = false := by
  unfold orNotStarted
  split
  next h =>
    rw [Bool.and_eq_true, Bool.not_eq_true'] at h
    exact reports_attached h.2 .notStarted cfg.path
  next => exact ⟨htorn, hcommitted⟩

/-- Everything a settled append can be. -/
inductive Settled (cfg : StoreConfig) (entry : SessionEntry) (storage : Storage)
    (next : AppendState) : Op (Result Unit) → Prop
  | thrown (s : Storage) :
      Settled cfg entry storage next { acts := [.store s], returned := none }
  | refused (e : Error) (htorn : appendPartialOrUnknown e = false) :
      Settled cfg entry storage next { acts := [.store storage], returned := some (.error e) }
  | torn (content : Bytes) (n : Nat) (e : Error) (hfile : storage = .file content)
      (haccepted : Accepted cfg entry) (hframed : storage.Framed)
      (htorn : appendPartialOrUnknown e = true) :
      Settled cfg entry storage next
        { acts := [.store (.file (content ++ (entryPayload entry).take n)), .latch, .bump]
          returned := some (.error e) }
  | whole (result : Result Unit) (haccepted : Accepted cfg entry) (hframed : storage.Framed)
      (htorn : ∀ e, result = .error e → appendPartialOrUnknown e = false) :
      Settled cfg entry storage next
        { acts := [.store (storage.push entry), .publish next, .advance], returned := some result }

theorem settle_settled (io : AppendIo) (entry : SessionEntry) (storage : Storage)
    (next : AppendState) :
    Settled cfg entry storage next
      (settle cfg lease next (appendStore cfg lease io entry storage)) := by
  have heffect := appendStore_effect cfg lease io entry storage
  generalize appendStore cfg lease io entry storage = out at heffect
  unfold settle
  cases heffect with
  | thrownEarly => exact .thrown storage
  | thrownLate content n hfile haccepted hframed => exact .thrown _
  | refused e htorn hcommitted =>
    obtain ⟨htorn', hcommitted'⟩ := orNotStarted_of_refused cfg lease htorn hcommitted
    dsimp only
    rw [htorn', hcommitted']
    exact .refused _ htorn'
  | torn content n e hfile haccepted hframed htorn =>
    dsimp only
    rw [orNotStarted_of_reports cfg lease htorn, if_pos htorn]
    exact .torn content n e hfile haccepted hframed htorn
  | committed e haccepted hframed htorn hcommitted =>
    dsimp only
    rw [orNotStarted_of_reports cfg lease hcommitted, htorn, hcommitted]
    refine .whole (.error e) haccepted hframed ?_
    intro e' he
    cases he
    exact htorn
  | appended haccepted hframed =>
    refine .whole (.ok ()) haccepted hframed ?_
    intro e he
    cases he

/-! ## §4. The classification of each mutation. -/

/-- What a caller may conclude from the error an operation returns: an unknown outcome was
    latched; any other error left the storage as it was, or with the one whole entry. -/
structure Classified {α : Type} (storage : Storage) (entries : List SessionEntry)
    (op : Op (Result α)) : Prop where
  noUnlatch : .unlatch ∉ op.acts
  latches : ∀ e, op.returned = some (.error e) → appendPartialOrUnknown e = true → .latch ∈ op.acts
  whole : ∀ e, op.returned = some (.error e) → appendPartialOrUnknown e = false →
    storageAfter op.acts storage = storage ∨
      ∃ entry, entries = [entry] ∧ storageAfter op.acts storage = storage.push entry

section

variable {α : Type} {storage : Storage} {entries : List SessionEntry}

/-- A rejection that says nothing about a write. -/
theorem Classified.error (h : hasAppendCommitState e = false) :
    Classified storage entries (Op.ret (.error e) : Op (Result α)) := by
  refine ⟨List.not_mem_nil, ?_, ?_⟩
  · intro e' he htorn
    cases he
    rw [appendPartialOrUnknown, reportsCommitState_of_plain h] at htorn
    cases htorn
  · intro e' _ _
    exact .inl rfl

/-- An operation that returns no error. -/
theorem Classified.of_no_error {op : Op (Result α)} (hacts : .unlatch ∉ op.acts)
    (h : ∀ e, op.returned ≠ some (.error e)) : Classified storage entries op :=
  ⟨hacts, fun e he => absurd he (h e), fun e he => absurd he (h e)⟩

theorem Classified.ok (a : α) : Classified storage entries (Op.ret (.ok a) : Op (Result α)) :=
  .of_no_error List.not_mem_nil (by simp [Op.ret])

/-- An operation that throws returns no error. -/
theorem Classified.thrown {op : Op (Result α)} (hacts : .unlatch ∉ op.acts)
    (h : op.returned = none) : Classified storage entries op :=
  .of_no_error hacts (by simp [h])

variable {op : Op (Result α)} (h : Classified storage entries op)

include h

/-- The same effects with the same errors. -/
theorem Classified.of_errors {β : Type} {op' : Op (Result β)} (hacts : op'.acts = op.acts)
    (herror : ∀ e, op'.returned = some (.error e) → op.returned = some (.error e)) :
    Classified storage entries op' := by
  refine ⟨?_, ?_, ?_⟩
  all_goals rw [hacts]
  · exact h.noUnlatch
  · exact fun e he => h.latches e (herror e he)
  · exact fun e he => h.whole e (herror e he)

/-- Publishing a rebuilt state beforehand does not touch the storage. -/
theorem Classified.prepend (hunlatch : .unlatch ∉ acts)
    (hstore : storageAfter acts storage = storage) :
    Classified storage entries (op.prepend acts) := by
  refine ⟨?_, ?_, ?_⟩
  · intro hmem
    obtain hmem | hmem := List.mem_append.mp hmem
    · exact hunlatch hmem
    · exact h.noUnlatch hmem
  · intro e he htorn
    exact List.mem_append_right _ (h.latches e he htorn)
  · intro e he htorn
    show storageAfter (acts ++ op.acts) storage = storage ∨
      ∃ entry, entries = [entry] ∧ storageAfter (acts ++ op.acts) storage = storage.push entry
    rw [storageAfter_append, hstore]
    exact h.whole e he htorn

end

variable {cfg : StoreConfig} {entry : SessionEntry} {storage : Storage} {next : AppendState}
  {op : Op (Result Unit)}

theorem Settled.classified (h : Settled cfg entry storage next op) :
    Classified storage [entry] op := by
  cases h with
  | thrown s => exact .thrown (by simp) rfl
  | refused e htorn =>
    refine ⟨by simp, ?_, fun _ _ _ => .inl rfl⟩
    intro e' he htorn'
    cases he
    rw [htorn] at htorn'
    cases htorn'
  | torn content n e hfile haccepted hframed htorn =>
    refine ⟨by simp, fun _ _ _ => by simp, ?_⟩
    intro e' he htorn'
    cases he
    rw [htorn] at htorn'
    cases htorn'
  | whole result haccepted hframed htorn =>
    refine ⟨by simp, ?_, fun _ _ _ => .inr ⟨entry, rfl, rfl⟩⟩
    intro e he htorn'
    cases he
    rw [htorn e rfl] at htorn'
    cases htorn'

variable {t : Target} {io : MutationIo} {sh : Shared} {state : AppendState}

/-- A refresh publishes a state and an epoch, nothing else. -/
theorem refreshStateIfStale_acts (h : refreshStateIfStale cfg t io sh = some (.ok (state, acts))) :
    (acts = [] ∧ state = t.assistantOutputState ∧ sh.appendEpoch = t.lastSeenAppendEpoch) ∨
      (acts = [.publish state, .see sh.appendEpoch] ∧
        ∃ history, t.load cfg io.read sh.storage = .ok history ∧
          fromValidatedHistory history = .ok state) := by
  unfold refreshStateIfStale at h
  split at h
  next hfresh =>
    cases h
    exact .inl ⟨rfl, rfl, hfresh⟩
  split at h
  next => cases h
  obtain ⟨⟨history, state'⟩, hrebuild, heq⟩ := map_eq_ok_iff.mp (Option.some.inj h)
  cases heq
  right
  refine ⟨rfl, history, ?_⟩
  unfold Target.rebuild at hrebuild
  split at hrebuild
  next => cases hrebuild
  next history' hload =>
    obtain ⟨s, hs, heq⟩ := map_eq_ok_iff.mp hrebuild
    cases heq
    exact ⟨hload, hs⟩

/-- The error of a failed refresh says nothing about a write. -/
theorem refreshStateIfStale_error (h : refreshStateIfStale cfg t io sh = some (.error e)) :
    hasAppendCommitState e = false := by
  unfold refreshStateIfStale at h
  split at h
  next => cases h
  split at h
  next => cases h
  next => exact PlainErrors.map (plainErrors_rebuild _ _ _ _) _ e (Option.some.inj h)

variable {α : Type}

/-- What stands behind a refresh is classified if it is from the refreshed state. -/
theorem Classified.after_refresh {entries : List SessionEntry} {op : Op (Result α)}
    (hop : Classified sh.storage entries op)
    (h : refreshStateIfStale cfg t io sh = some (.ok (state, acts))) :
    Classified sh.storage entries (op.prepend acts) := by
  obtain ⟨rfl, -⟩ | ⟨rfl, -⟩ := refreshStateIfStale_acts h
  · exact hop.prepend List.not_mem_nil rfl
  · exact hop.prepend (by simp) rfl

variable (cfg t io sh) in
theorem append_classified (entry : SessionEntry) :
    Classified sh.storage [entry] (append cfg t io sh entry) := by
  unfold append
  split
  next => exact .error (by simp [appendTargetRecoveryRequiredError])
  split
  next => exact .thrown List.not_mem_nil rfl
  next e h => exact .error (refreshStateIfStale_error h)
  next state acts h =>
    refine Classified.after_refresh ?_ h
    unfold appendLocked
    split
    next => exact .error (by simp)
    split
    next e h => exact .error (plainErrors_applyCandidate _ _ e h)
    next next' _ => exact (settle_settled cfg t.lease (io.appends 0) entry sh.storage next').classified

theorem appendPartialOrUnknown_withContext (h : appendPartialOrUnknown e = true) (key : String)
    (value : Bytes) : appendPartialOrUnknown (e.withContext key value) = true := by
  unfold appendPartialOrUnknown reportsCommitState at h ⊢
  rw [Error.withContext, List.any_append, h, Bool.true_or]

/-- The normalised batch error reports an unknown outcome, whatever it was made from. -/
theorem batchPartialFailure_torn (failure : Error) (path : Bytes) (persisted : Nat) :
    appendPartialOrUnknown (batchPartialFailure failure path persisted) = true := by
  unfold batchPartialFailure
  refine appendPartialOrUnknown_withContext (appendPartialOrUnknown_withContext ?_ _ _) _ _
  apply partial_reports
  unfold hasAppendCommitState
  rw [List.any_eq_false]
  intro item hitem
  have hkept := (List.mem_filter.mp hitem).2
  rw [decide_eq_true_eq] at hkept
  simpa using hkept.1

/-- A failed write is latched as an unknown outcome, or it was the first and wrote nothing. -/
theorem batchFailure_cases (cfg : StoreConfig) (lease : Option SessionLease) (persisted : Nat)
    (storage : Storage) (e : Error) :
    (∃ e', appendPartialOrUnknown e' = true ∧
      batchFailure cfg lease persisted storage e =
        { acts := [.store storage, .latch, .bump], returned := some (.error e') }) ∨
    (appendPartialOrUnknown (orNotStarted cfg lease e) = false ∧
      appendCommittedToLeasedInode (orNotStarted cfg lease e) = false ∧ persisted = 0 ∧
      batchFailure cfg lease persisted storage e =
        { acts := [.store storage], returned := some (.error (orNotStarted cfg lease e)) }) := by
  unfold batchFailure
  dsimp only
  generalize orNotStarted cfg lease e = e'
  by_cases hunknown : appendPartialOrUnknown e' = true ∨
      (if appendCommittedToLeasedInode e' = true then persisted + 1 else persisted) ≠ 0
  · left
    rw [if_pos hunknown]
    exact ⟨_, batchPartialFailure_torn _ _ _, rfl⟩
  · right
    rw [if_neg hunknown]
    obtain ⟨htorn, hnone⟩ := not_or.mp hunknown
    rw [not_not] at hnone
    have hcommitted : ¬ appendCommittedToLeasedInode e' = true := by
      intro hcommitted
      rw [if_pos hcommitted] at hnone
      exact absurd hnone (Nat.succ_ne_zero persisted)
    rw [if_neg hcommitted] at hnone
    exact ⟨by simpa using htorn, by simpa using hcommitted, hnone, rfl⟩

variable {lease : Option SessionLease}

/-- An error that reports neither a torn nor a committed write has left the storage as it was. -/
theorem StoreEffect.kept {written : Storage}
    (h : StoreEffect cfg entry storage { storage := written, returned := some (.error e) })
    (htorn : appendPartialOrUnknown (orNotStarted cfg lease e) = false)
    (hcommitted : appendCommittedToLeasedInode (orNotStarted cfg lease e) = false) :
    written = storage := by
  cases h with
  | refused => rfl
  | torn content n e hfile haccepted hframed hreports =>
    rw [orNotStarted_of_reports cfg lease hreports, hreports] at htorn
    cases htorn
  | committed e haccepted hframed hplain hreports =>
    rw [orNotStarted_of_reports cfg lease hreports, hreports] at hcommitted
    cases hcommitted

/-- **THE WRITE LOOP OF A BATCH.**  Every error after the first record is an unknown outcome. -/
theorem batchWrites_spec (cfg : StoreConfig) (lease : Option SessionLease) (io : MutationIo)
    (entries : List SessionEntry) : ∀ (persisted : Nat) (storage : Storage),
    .unlatch ∉ (batchWrites cfg lease io persisted storage entries).acts ∧
    ∀ e, (batchWrites cfg lease io persisted storage entries).returned = some (.error e) →
      (appendPartialOrUnknown e = true ∧
        .latch ∈ (batchWrites cfg lease io persisted storage entries).acts) ∨
      (appendPartialOrUnknown e = false ∧ persisted = 0 ∧
        storageAfter (batchWrites cfg lease io persisted storage entries).acts storage
          = storage) := by
  induction entries with
  | nil =>
    intro persisted storage
    refine ⟨List.not_mem_nil, ?_⟩
    intro e he
    cases he
  | cons entry entries ih =>
    intro persisted storage
    have heffect := appendStore_effect cfg lease (io.appends persisted) entry storage
    rw [batchWrites]
    generalize appendStore cfg lease (io.appends persisted) entry storage = out at heffect
    obtain ⟨written, returned⟩ := out
    cases returned with
    | none =>
      refine ⟨by simp, ?_⟩
      intro e he
      cases he
    | some result =>
      cases result with
      | error e =>
        dsimp only
        obtain ⟨e', htorn, hop⟩ | ⟨htorn, hcommitted, hfirst, hop⟩ :=
          batchFailure_cases cfg lease persisted written e
        · rw [hop]
          refine ⟨by simp, fun e₁ he => .inl ⟨?_, by simp⟩⟩
          cases he
          exact htorn
        · rw [hop]
          refine ⟨by simp, fun e₁ he => .inr ⟨?_, hfirst, heffect.kept htorn hcommitted⟩⟩
          cases he
          exact htorn
      | ok =>
        obtain ⟨hunlatch, herror⟩ := ih (persisted + 1) written
        refine ⟨by simpa [Op.prepend] using hunlatch, ?_⟩
        intro e he
        obtain h | h := herror e he
        · exact .inl ⟨h.1, by simpa [Op.prepend] using h.2⟩
        · exact absurd h.2.1 (Nat.succ_ne_zero persisted)

theorem batchWrites_classified (cfg : StoreConfig) (lease : Option SessionLease) (io : MutationIo)
    (entries : List SessionEntry) (storage : Storage) :
    Classified storage entries (batchWrites cfg lease io 0 storage entries) := by
  obtain ⟨hunlatch, herror⟩ := batchWrites_spec cfg lease io entries 0 storage
  refine ⟨hunlatch, ?_, ?_⟩
  · intro e he htorn
    obtain h | h := herror e he
    · exact h.2
    · rw [h.1] at htorn
      cases htorn
  · intro e he htorn
    obtain h | h := herror e he
    · rw [h.1] at htorn
      cases htorn
    · exact .inl h.2.2

variable (cfg t io sh) in
theorem batchLocked_classified (entries : List SessionEntry) (state : AppendState) :
    Classified sh.storage entries (batchLocked cfg t io sh entries state) := by
  unfold batchLocked
  split
  next => exact .error (by simp)
  split
  next => exact .error (by simp)
  split
  next e h => exact .error (plainErrors_applyCandidates _ _ e h)
  split
  next => exact .error (by simp)
  have hwrites := batchWrites_classified cfg t.lease io entries sh.storage
  dsimp only
  split
  next => exact .of_no_error (by simpa using hwrites.noUnlatch) (by simp)
  next => exact hwrites

variable (cfg t io sh) in
theorem appendBatch_classified (entries : List SessionEntry) :
    Classified sh.storage entries (appendBatch cfg t io sh entries) := by
  unfold appendBatch
  split
  next => exact .error (by simp [appendTargetRecoveryRequiredError])
  split
  next e h => exact .error (plainErrors_batchChecks _ _ e h)
  split
  next => exact .thrown List.not_mem_nil rfl
  next e h => exact .error (refreshStateIfStale_error h)
  next state acts h => exact (batchLocked_classified cfg t io sh entries state).after_refresh h

/-- The classification of a conditional append, read off its outcome. -/
def ClassifiedOutcome {α : Type} (storage : Storage) (entry : SessionEntry)
    (op : Op (ConditionalAppendOutcome α)) : Prop :=
  ∀ noOutcome, Classified storage [entry] (op.map (ConditionalAppendOutcome.toResult noOutcome))

section

variable {α : Type}

theorem ClassifiedOutcome.rejected (h : hasAppendCommitState e = false) :
    ClassifiedOutcome storage entry (Op.ret (rejected e) : Op (ConditionalAppendOutcome α)) :=
  fun _ => .error h

theorem ClassifiedOutcome.succeeded (a : α) :
    ClassifiedOutcome storage entry (Op.ret (succeeded a)) :=
  fun _ => .ok a

theorem ClassifiedOutcome.prepend {op : Op (ConditionalAppendOutcome α)}
    (h : ClassifiedOutcome storage entry op) (hunlatch : .unlatch ∉ acts)
    (hstore : storageAfter acts storage = storage) :
    ClassifiedOutcome storage entry (op.prepend acts) :=
  fun noOutcome => (h noOutcome).prepend hunlatch hstore

/-- A classified append stays classified as the outcome of a conditional one. -/
theorem classifySettled_classified (h : Classified storage [entry] op) (reply : Option α) :
    ClassifiedOutcome storage entry (classifySettled op reply) := by
  intro noOutcome
  refine h.of_errors rfl ?_
  intro e he
  obtain ⟨out, hout, htoResult⟩ := Option.map_eq_some_iff.mp he
  unfold classifySettled at hout
  dsimp only at hout
  split at hout
  next => cases hout
  next e' hop =>
    cases hout
    cases htoResult
    exact hop
  next =>
    obtain ⟨a, -, rfl⟩ := Option.map_eq_some_iff.mp hout
    cases htoResult

end

theorem unexpectedError_plain (message : String) (what : Option Bytes) :
    hasAppendCommitState (unexpectedError message what) = false := by
  unfold unexpectedError
  cases what <;> simp

variable (cfg t io sh) in
theorem compaction_classified (entry : SessionEntry) (expected : List SessionEntry) :
    ClassifiedOutcome sh.storage entry
      (appendCompactionIfSnapshotMatchesClassified cfg t io sh entry expected) := by
  have hunexpected :=
    unexpectedError_plain "conditional compaction append failed unexpectedly" io.what
  unfold appendCompactionIfSnapshotMatchesClassified
  dsimp only
  split
  next => exact .rejected hunexpected
  next out hprepare =>
    unfold compactionPrepare at hprepare
    split at hprepare
    next =>
      cases hprepare
      exact .rejected (by simp [appendTargetRecoveryRequiredError])
    split at hprepare
    next =>
      cases hprepare
      exact .rejected (by simp)
    split at hprepare
    next => cases hprepare
    split at hprepare
    next e h =>
      cases hprepare
      exact .rejected (plainErrors_load _ _ _ _ e h)
    split at hprepare
    next =>
      cases hprepare
      exact .succeeded _
    split at hprepare
    next =>
      cases hprepare
      exact .rejected (by simp)
    split at hprepare
    next e h =>
      cases hprepare
      exact .rejected (plainErrors_fromValidatedHistory _ e h)
    split at hprepare
    next => cases hprepare
    split at hprepare
    next e h =>
      cases hprepare
      exact .rejected (plainErrors_applyCandidate _ _ e h)
    next => cases hprepare
  next next' _ =>
    have hsettled := (settle_settled cfg t.lease (io.appends 0) entry sh.storage next').classified
    have hclassified := classifySettled_classified hsettled
      (some SessionCompactionAppendResult.appended)
    split
    next out hout =>
      rw [← hout]
      exact hclassified
    next hthrown =>
      -- the catch block after an attempted append latches by itself
      intro noOutcome
      refine ⟨?_, fun _ _ _ => by simp [Op.map], ?_⟩
      · simpa [Op.map, classifySettled] using hsettled.noUnlatch
      · intro e he htorn
        cases he
        rw [partial_reports hunexpected] at htorn
        cases htorn

/-! ## §5. The branch summary's catch block. -/

theorem ClassifiedOutcome.thrown :
    ClassifiedOutcome storage entry (Op.thrown : Op (ConditionalAppendOutcome α)) :=
  fun _ => .thrown List.not_mem_nil rfl

/-- What the branch summary append does under the lock: it rejects the entry without a write, finds
    the summary, runs into an exception of the system, or settles the append. -/
inductive SummaryLocked (cfg : StoreConfig) (t : Target) (io : MutationIo) (sh : Shared)
    (entry : SessionEntry) (state : AppendState) :
    Op (ConditionalAppendOutcome SessionConditionalAppendResult) → Prop
  | refused (e : Error) (hplain : hasAppendCommitState e = false) :
      SummaryLocked cfg t io sh entry state (.ret (rejected e))
  | found (result : SessionConditionalAppendResult) :
      SummaryLocked cfg t io sh entry state (.ret (succeeded result))
  | threw (hthrown : io.thrown ≠ none) : SummaryLocked cfg t io sh entry state .thrown
  | settled (next : AppendState) (reply : Option SessionConditionalAppendResult)
      (happly : state.applyCandidate entry = .ok next) (hreply : io.thrown = none → reply ≠ none) :
      SummaryLocked cfg t io sh entry state (classifySettled
        (settle cfg t.lease next (appendStore cfg t.lease (io.appends 0) entry sh.storage)) reply)

variable (cfg t io sh) in
theorem branchSummaryLocked_cases (entry : SessionEntry) (identity : BranchSummaryIdentity)
    (history : List SessionEntry) (last : SessionEntry) (state : AppendState) :
    SummaryLocked cfg t io sh entry state
      (branchSummaryLocked cfg t io sh entry identity history last state) := by
  unfold branchSummaryLocked
  split
  next e h => exact .refused e (plainErrors_validateBranchSummaryRange _ _ e h)
  split
  next => exact .found _
  split
  next => exact .refused _ (by simp)
  split
  next => exact .refused _ (by simp)
  split
  next hthrown => exact .threw (by simp [hthrown])
  split
  next e h => exact .refused e (plainErrors_applyCandidate _ _ e h)
  next next' happly => exact .settled next' _ happly fun hquiet => by simp [hquiet]

/-- What the try block does: it ends before the lock, or works on the history it has read. -/
inductive SummaryTry (cfg : StoreConfig) (t : Target) (io : MutationIo) (sh : Shared)
    (entry : SessionEntry) : Op (ConditionalAppendOutcome SessionConditionalAppendResult) → Prop
  | refused (e : Error) (hplain : hasAppendCommitState e = false) :
      SummaryTry cfg t io sh entry (.ret (rejected e))
  | threw (hthrown : io.thrown ≠ none) : SummaryTry cfg t io sh entry .thrown
  | locked (history : List SessionEntry) (state : AppendState)
      {op : Op (ConditionalAppendOutcome SessionConditionalAppendResult)}
      (hload : t.load cfg io.read sh.storage = .ok history)
      (hstate : fromValidatedHistory history = .ok state)
      (hop : SummaryLocked cfg t io sh entry state op) :
      SummaryTry cfg t io sh entry (op.prepend [.publish state, .observe])

variable (cfg t io sh) in
theorem branchSummaryTry_cases (entry : SessionEntry) :
    SummaryTry cfg t io sh entry (branchSummaryTry cfg t io sh entry) := by
  unfold branchSummaryTry
  split
  next => exact .refused _ (by simp [appendTargetRecoveryRequiredError])
  split
  next => exact .refused _ (by simp)
  split
  next e h => exact .refused e (plainErrors_branchSummaryIdentity _ e h)
  split
  next => exact .refused _ (by simp)
  split
  next hthrown => exact .threw (by simp [hthrown])
  split
  next e h => exact .refused e (plainErrors_load _ _ _ _ e h)
  next history hload =>
    split
    next => exact .refused _ (by simp)
    split
    next e h => exact .refused e (plainErrors_fromValidatedHistory _ e h)
    next state hstate =>
      exact .locked history state hload hstate (branchSummaryLocked_cases ..)

variable (cfg t io sh) in
/-- What the try block returns is classified; only its exceptions are not. -/
theorem branchSummaryTry_classified (entry : SessionEntry) :
    ClassifiedOutcome sh.storage entry (branchSummaryTry cfg t io sh entry) := by
  have hcases := branchSummaryTry_cases cfg t io sh entry
  generalize branchSummaryTry cfg t io sh entry = op at hcases ⊢
  cases hcases with
  | refused e hplain => exact .rejected hplain
  | threw => exact .thrown
  | locked history state hload hstate hop =>
    refine ClassifiedOutcome.prepend ?_ (by simp) rfl
    cases hop with
    | refused e hplain => exact .rejected hplain
    | found => exact .succeeded _
    | threw => exact .thrown
    | settled next reply =>
      exact classifySettled_classified
        (settle_settled cfg t.lease (io.appends 0) entry sh.storage next).classified reply

/-- An exception that leaves the operation has latched nothing. -/
def ThrowsUnlatched {ρ : Type} (op : Op ρ) : Prop := op.returned = none → .latch ∉ op.acts

theorem ThrowsUnlatched.ret {ρ : Type} (r : ρ) : ThrowsUnlatched (Op.ret r) := by
  intro h
  cases h

theorem ThrowsUnlatched.thrown {ρ : Type} : ThrowsUnlatched (Op.thrown : Op ρ) :=
  fun _ => List.not_mem_nil

theorem ThrowsUnlatched.prepend {ρ : Type} {op : Op ρ} (h : ThrowsUnlatched op)
    (hacts : .latch ∉ acts) : ThrowsUnlatched (op.prepend acts) := by
  intro hnone hmem
  obtain hmem | hmem := List.mem_append.mp hmem
  · exact hacts hmem
  · exact h hnone hmem

theorem classifySettled_throwsUnlatched (hsettled : Settled cfg entry storage next op)
    (reply : Option α) :
    ThrowsUnlatched (classifySettled op reply) := by
  intro h
  cases hsettled with
  | thrown s | whole result haccepted hframed htorn => simp [classifySettled]
  | refused e htorn | torn content n e hfile haccepted hframed htorn => cases h

variable (cfg t io sh) in
theorem branchSummaryTry_throwsUnlatched (entry : SessionEntry) :
    ThrowsUnlatched (branchSummaryTry cfg t io sh entry) := by
  have hcases := branchSummaryTry_cases cfg t io sh entry
  generalize branchSummaryTry cfg t io sh entry = op at hcases ⊢
  cases hcases with
  | refused => exact .ret _
  | threw => exact .thrown
  | locked history state hload hstate hop =>
    refine ThrowsUnlatched.prepend ?_ (by simp)
    cases hop with
    | refused | found => exact .ret _
    | threw => exact .thrown
    | settled next reply =>
      exact classifySettled_throwsUnlatched
        (settle_settled cfg t.lease (io.appends 0) entry sh.storage next) reply

theorem not_recoveryRequired_of_threw (h : (branchSummaryTry cfg t io sh entry).returned = none) :
    t.recoveryRequired = false := by
  by_contra hlatched
  rw [branchSummaryTry, if_pos (by simpa using hlatched)] at h
  cases h

/-- The try block of the branch summary append is left by a C++ exception. -/
def BranchSummaryThrows (cfg : StoreConfig) (t : Target) (io : MutationIo) (sh : Shared) :
    Mutation → Prop
  | .appendBranchSummaryIfAbsent entry => (branchSummaryTry cfg t io sh entry).returned = none
  | _ => False

/-- Reducing the reply of a mutation to success keeps its classification. -/
theorem Classified.map {entries : List SessionEntry} {op : Op (Result α)}
    (h : Classified storage entries op) :
    Classified storage entries (op.map (Except.map fun _ => ())) := by
  refine h.of_errors rfl ?_
  intro e he
  obtain ⟨r, hr, heq⟩ := Option.map_eq_some_iff.mp he
  cases r with
  | error e' =>
    cases heq
    exact hr
  | ok a => cases heq

variable (cfg t io sh) in
/-- **EVERY MUTATION IS CLASSIFIED**, unless the branch summary append runs into an exception. -/
theorem mutate_classified (m : Mutation) (h : ¬ BranchSummaryThrows cfg t io sh m) :
    Classified sh.storage m.entries (mutate cfg t io sh m) := by
  cases m with
  | append entry => exact append_classified cfg t io sh entry
  | appendBatch entries => exact appendBatch_classified cfg t io sh entries
  | appendBranchSummaryIfAbsent entry =>
    refine Classified.map ?_
    unfold appendBranchSummaryIfAbsent appendBranchSummaryIfAbsentClassified
    dsimp only
    split
    next out hout =>
      rw [← hout]
      exact branchSummaryTry_classified cfg t io sh entry _
    next hnone => exact absurd hnone h
  | appendCompactionIfSnapshotMatches entry expected =>
    exact (compaction_classified cfg t io sh entry expected _).map

/-- The catch block of the branch summary append reports an unknown outcome and leaves the
    target open. -/
theorem mutate_of_branchSummaryThrows {m : Mutation} (h : BranchSummaryThrows cfg t io sh m) :
    ∃ e, (mutate cfg t io sh m).returned = some (.error e) ∧ appendPartialOrUnknown e = true ∧
      ((mutate cfg t io sh m).after t sh).1.recoveryRequired = false := by
  cases m with
  | append entry | appendBatch entries | appendCompactionIfSnapshotMatches entry expected => cases h
  | appendBranchSummaryIfAbsent entry =>
    have hnone : (branchSummaryTry cfg t io sh entry).returned = none := h
    have hunexpected :=
      unexpectedError_plain "conditional branch summary append failed unexpectedly" io.what
    have hop : mutate cfg t io sh (.appendBranchSummaryIfAbsent entry) =
        { acts := (branchSummaryTry cfg t io sh entry).acts
          returned := some (.error (withAppendCommitState
            (unexpectedError "conditional branch summary append failed unexpectedly" io.what)
            .partialOrUnknown cfg.path)) } := by
      unfold mutate appendBranchSummaryIfAbsent appendBranchSummaryIfAbsentClassified
      dsimp only
      rw [hnone]
      rfl
    refine ⟨_, by rw [hop], partial_reports hunexpected cfg.path, ?_⟩
    have hunlatch : .unlatch ∉ (branchSummaryTry cfg t io sh entry).acts :=
      (branchSummaryTry_classified cfg t io sh entry "").noUnlatch
    have hlatch := branchSummaryTry_throwsUnlatched cfg t io sh entry hnone
    rw [hop]
    show (execAll (branchSummaryTry cfg t io sh entry).acts t sh).1.recoveryRequired = false
    rw [recoveryRequired_execAll hunlatch, not_recoveryRequired_of_threw hnone,
      decide_eq_false hlatch]
    rfl

/-- An append throws only where the system does. -/
theorem appendStore_threw {io : AppendIo}
    (h : (appendStore cfg lease io entry storage).returned = none) : io.thrown ≠ none := by
  intro hquiet
  cases storage with
  | file content =>
    unfold appendStore appendImpl at h
    dsimp only at h
    rw [hquiet, if_neg (by simp)] at h
    iterate 3
      split at h
      next => cases h
    dsimp only at h
    rw [if_neg (by simp)] at h
    cases h
  | memory entries =>
    unfold appendStore at h
    dsimp only at h
    rw [hquiet, if_neg (by simp)] at h
    split at h
    next => cases h
    next => split at h <;> cases h

theorem settle_threw {out : StoreOutcome}
    (h : (settle cfg lease next out).returned = none) : out.returned = none := by
  unfold settle at h
  split at h
  next hnone => exact hnone
  next => cases h
  dsimp only at h
  split at h
  next => cases h
  next => split at h <;> cases h

/-- The exceptions of the branch summary append are the system's. -/
theorem branchSummaryThrows_of_system {m : Mutation} (h : BranchSummaryThrows cfg t io sh m) :
    io.thrown ≠ none ∨ (io.appends 0).thrown ≠ none := by
  cases m with
  | append entry | appendBatch entries | appendCompactionIfSnapshotMatches entry expected => cases h
  | appendBranchSummaryIfAbsent entry =>
    have hnone : (branchSummaryTry cfg t io sh entry).returned = none := h
    have hcases := branchSummaryTry_cases cfg t io sh entry
    generalize branchSummaryTry cfg t io sh entry = op at hcases hnone
    cases hcases with
    | refused => cases hnone
    | threw hthrown => exact .inl hthrown
    | locked history state hload hstate hop =>
      cases hop with
      | refused | found => cases hnone
      | threw hthrown => exact .inl hthrown
      | settled next reply happly hreply =>
        -- a settled append that has returned is answered, unless there is no reply to give
        by_cases hquiet : io.thrown = none
        · right
          have hanswer := hreply hquiet
          change (classifySettled _ reply).returned = none at hnone
          unfold classifySettled at hnone
          dsimp only at hnone
          split at hnone
          next hsettle => exact appendStore_threw (settle_threw hsettle)
          next => cases hnone
          next => exact absurd (by simpa using hnone) hanswer
        · exact .inl hquiet

/-! ## §6. A latched target. -/

/-- A latched target rejects every mutation before it looks at anything. -/
theorem mutate_of_latched (cfg : StoreConfig) (h : t.recoveryRequired = true) (io : MutationIo)
    (sh : Shared) (m : Mutation) :
    mutate cfg t io sh m = .ret (.error (appendTargetRecoveryRequiredError cfg.path)) := by
  cases m with
  | append entry =>
    show append cfg t io sh entry = _
    rw [append, if_pos h]
  | appendBatch entries =>
    show appendBatch cfg t io sh entries = _
    rw [appendBatch, if_pos h]
  | appendBranchSummaryIfAbsent entry =>
    show Op.map _ (appendBranchSummaryIfAbsent cfg t io sh entry) = _
    rw [appendBranchSummaryIfAbsent, appendBranchSummaryIfAbsentClassified, branchSummaryTry, if_pos h]
    rfl
  | appendCompactionIfSnapshotMatches entry expected =>
    show Op.map _ (appendCompactionIfSnapshotMatches cfg t io sh entry expected) = _
    rw [appendCompactionIfSnapshotMatches, appendCompactionIfSnapshotMatchesClassified,
      compactionPrepare, if_pos h]
    rfl

/-- A recovery that does not succeed leaves the latch. -/
theorem recover_keeps_latch (cfg : StoreConfig) (h : t.recoveryRequired = true) (io : RecoveryIo)
    (sh : Shared) (hfails : (recover cfg t io sh).returned ≠ some (.ok ())) :
    ((recover cfg t io sh).after t sh).1.recoveryRequired = true := by
  have hrepair : .unlatch ∉ (repairStorage cfg t io sh.storage).1 := by
    unfold repairStorage
    dsimp only
    split
    next =>
      split
      next => simp
      next => simp [List.mem_replicate]
    next => simp [List.mem_replicate]
    next => simp
    next => simp
  have hkeeps : ((execAll (repairStorage cfg t io sh.storage).1 t sh).1.recoveryRequired) = true := by
    rw [recoveryRequired_execAll hrepair, h, Bool.true_or]
  unfold recover at hfails ⊢
  generalize repairStorage cfg t io sh.storage = repaired at hkeeps hfails ⊢
  obtain ⟨acts, storage, e⟩ := repaired
  cases e with
  | some e => exact hkeeps
  | none =>
    dsimp only at hfails ⊢
    cases hrebuild : t.rebuild cfg io.read storage with
    | error e => exact hkeeps
    | ok r =>
      rw [hrebuild] at hfails
      exact absurd rfl hfails

/-- One call of the owner of a target. -/
inductive Call where
  | mutation (m : Mutation) (io : MutationIo)
  | recovery (io : RecoveryIo)

/-- Until a recovery succeeds every mutation is rejected and has no effect.  The state in front
    of each call is arbitrary: other writers may have changed the session in between. -/
def RejectsUntilRecovered (cfg : StoreConfig) : Target → List (Shared × Call) → Prop
  | _, [] => True
  | t, (sh, .mutation m io) :: calls =>
    mutate cfg t io sh m = .ret (.error (appendTargetRecoveryRequiredError cfg.path)) ∧
      RejectsUntilRecovered cfg ((mutate cfg t io sh m).after t sh).1 calls
  | t, (sh, .recovery io) :: calls =>
    (recover cfg t io sh).returned = some (.ok ()) ∨
      RejectsUntilRecovered cfg ((recover cfg t io sh).after t sh).1 calls

theorem rejectsUntilRecovered_of_latched (cfg : StoreConfig) (calls : List (Shared × Call)) :
    ∀ t : Target, t.recoveryRequired = true → RejectsUntilRecovered cfg t calls := by
  induction calls with
  | nil =>
    intro t _
    trivial
  | cons call calls ih =>
    intro t h
    obtain ⟨sh, call⟩ := call
    cases call with
    | mutation m io =>
      have hreject := mutate_of_latched cfg h io sh m
      refine ⟨hreject, ih _ ?_⟩
      rw [hreject]
      exact h
    | recovery io =>
      by_cases hok : (recover cfg t io sh).returned = some (.ok ())
      · exact .inl hok
      · exact .inr (ih _ (recover_keeps_latch cfg h io sh hok))

/-! ## §7. The result. -/

/-- **INDETERMINATE WRITES LATCH**, exactly unless the branch summary append runs into a C++
    exception.  A latched target rejects every mutation without any effect until a recovery
    succeeds, and every other error leaves the old storage or the old one with the whole entry. -/
theorem indeterminate_write_latches_iff (cfg : StoreConfig) (t : Target) (io : MutationIo)
    (sh : Shared) (m : Mutation) :
    ((∀ e, (mutate cfg t io sh m).returned = some (.error e) → appendPartialOrUnknown e = true →
        ((mutate cfg t io sh m).after t sh).1.recoveryRequired = true ∧
        ∀ calls, RejectsUntilRecovered cfg ((mutate cfg t io sh m).after t sh).1 calls) ↔
      ¬ BranchSummaryThrows cfg t io sh m) ∧
    (∀ e, (mutate cfg t io sh m).returned = some (.error e) → appendPartialOrUnknown e = false →
      ((mutate cfg t io sh m).after t sh).2.storage = sh.storage ∨
      ∃ entry, m.entries = [entry] ∧
        ((mutate cfg t io sh m).after t sh).2.storage = sh.storage.push entry) ∧
    (BranchSummaryThrows cfg t io sh m → io.thrown ≠ none ∨ (io.appends 0).thrown ≠ none) := by
  refine ⟨⟨?_, ?_⟩, ?_, branchSummaryThrows_of_system⟩
  · intro hlatches hthrows
    obtain ⟨e, he, htorn, hopen⟩ := mutate_of_branchSummaryThrows hthrows
    rw [(hlatches e he htorn).1] at hopen
    cases hopen
  · intro hquiet e he htorn
    have hclassified := mutate_classified cfg t io sh m hquiet
    have hlatched : ((mutate cfg t io sh m).after t sh).1.recoveryRequired = true := by
      rw [Op.after, recoveryRequired_execAll hclassified.noUnlatch,
        decide_eq_true (hclassified.latches e he htorn), Bool.or_true]
    exact ⟨hlatched, fun calls => rejectsUntilRecovered_of_latched cfg calls _ hlatched⟩
  · intro e he htorn
    have hquiet : ¬ BranchSummaryThrows cfg t io sh m := by
      intro hthrows
      obtain ⟨e', he', htorn', -⟩ := mutate_of_branchSummaryThrows hthrows
      rw [he] at he'
      cases he'
      rw [htorn] at htorn'
      cases htorn'
    rw [Op.after, storage_execAll]
    exact (mutate_classified cfg t io sh m hquiet).whole e he htorn

set_option maxRecDepth 1024

/-- A summary of the branch that consists of the first message alone. -/
def summaryEntry : SessionEntry :=
  { id := ascii "b1", parentId := ascii "e1", type := .branchSummary, timestamp := ascii "t"
    dataJson := ascii
      "\x7b\"source_session_id\":\"s\",\"branch_root_entry_id\":\"e1\",\"branch_tip_entry_id\":\"e1\"\x7d" }

/-- What the external parser reports on the message and on its summary. -/
def summarySax : SaxParser := fun value =>
  if value = sessionEntryLineText plainEntry then
    { events := envelopeEvents ++ [.startObject, .endObject, .endObject], ok := true }
  else if value = sessionEntryLineText summaryEntry then
    { events := envelopeEvents ++
        [.startObject, .key (ascii "source_session_id"), .other,
         .key (ascii "branch_root_entry_id"), .other, .key (ascii "branch_tip_entry_id"), .other,
         .endObject, .endObject]
      ok := true }
  else { events := [], ok := false }

def summaryStore : StoreConfig := { twoLineStore with sax := summarySax }

/-- The disk fills up after five octets, and the memory for the error runs out as well. -/
def summaryIo : MutationIo :=
  { what := some (ascii "std::bad_alloc")
    appends := fun _ =>
      { writes := [.wrote 5, .failed (ascii "No space left on device")]
        thrown := some .afterWriteLoop } }

/-- The caller is told that the outcome is unknown, five octets of the summary are in the file,
    and the target takes further mutations. -/
theorem branch_summary_exception_leaves_target_open :
    let t : Target := { lease := some twoLineLease }
    let sh : Shared := { storage := .file (entryPayload plainEntry) }
    let op := mutate summaryStore t summaryIo sh (.appendBranchSummaryIfAbsent summaryEntry)
    (match op.returned with
      | some (.error e) => appendPartialOrUnknown e
      | _ => false) = true ∧
    (op.after t sh).1.recoveryRequired = false ∧
    (op.after t sh).2.storage =
      .file (entryPayload plainEntry ++ (entryPayload summaryEntry).take 5) := by
  decide

end Ava.Session
