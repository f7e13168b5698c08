/-
  Ava.Session.Reopen
  **WHAT WAS APPENDED, REOPENED.**

  The append path and the repairs that run when a session is opened check different things.
  An append checks the entry and its place in the assistant output; the repairs also ask for
  distinct ids and for parents that are earlier records.  A session grown by successful
  appends and batches alone opens exactly when its entries are well linked.

    - §1 the staged-suffix scan over whole lines; §2 where a staged run begins;
    - §3 the repair of a file of clean records; §4 successful appends and batches;
    - §5 sessions grown by them; §6 the result.
-/
import Ava.Session.History

namespace Ava.Session

open Ava.Core Ava.Core.Json Ava.Lib

/-! ## §1. The staged-suffix scan over whole lines. -/

variable {cfg : StoreConfig} {limits : SessionReadLimits}

theorem stagedLine_eq_ok_iff {stop : Nat} {st st' : StagedScan} {line : Bytes} :
    stagedLine cfg limits stop st line = .ok st' ↔
      ∃ entry, parseStrictSessionRecord cfg.sax line cfg.path false = .ok entry ∧
        exceeds limits.maxEntries (st.records.length + 1) = false ∧ entry.id ∉ st.entryIds ∧
        (entry.parentId = [] ∨ entry.parentId ∈ st.entryIds) ∧
        st' = { lineStart := stop, entryIds := insert entry.id st.entryIds
                records := st.records ++ [{ start := st.lineStart, stop, entry }] } := by
  unfold stagedLine
  by_cases hcount : exceeds limits.maxEntries (st.records.length + 1) = true
  · simp [hcount]
  · rw [if_neg hcount]
    cases parseStrictSessionRecord cfg.sax line cfg.path false with
    | error e => simp
    | ok entry =>
      dsimp only
      by_cases hbad : entry.id ∈ st.entryIds ∨ (entry.parentId ≠ [] ∧ entry.parentId ∉ st.entryIds)
      · rw [if_pos hbad]
        simp only [reduceCtorEq, Except.ok.injEq, exists_eq_left', false_iff]
        tauto
      · rw [if_neg hbad]
        have hgood : entry.id ∉ st.entryIds ∧
            (entry.parentId = [] ∨ entry.parentId ∈ st.entryIds) := by
          tauto
        simp [hcount, hgood.1, hgood.2, eq_comm]

/-- The staged-suffix scan collects the records in order. -/
theorem stagedRules_reads : ReadsRecords cfg limits (stagedRules cfg limits)
    (fun _ es st => st.entryIds = (es.map SessionEntry.id).toFinset ∧
      st.records.map PhysicalRecord.entry = es)
    (fun stop st e =>
      { lineStart := stop, entryIds := insert e.id st.entryIds
        records := st.records ++ [{ start := st.lineStart, stop, entry := e }] }) where
  onLine := by
    rintro pos es st ⟨hids, rfl⟩ stop line st'
    rw [← hids, List.length_map]
    exact stagedLine_eq_ok_iff
  advance := by
    rintro pos es st ⟨hids, rfl⟩ stop e
    simp [hids]

/-! ## §2. Where a staged run begins. -/

/-- On a history without reports a staged run consists of the last records, all of them items. -/
theorem staged_run_is_suffix (entries : List SessionEntry) :
    (classified entries).diagnostics = [] → ∀ g, (classified entries).pending = some g →
      g.first.entryIndex < entries.length ∧
        ∀ e ∈ entries.drop g.first.entryIndex, e.type = .assistantOutputItem := by
  refine classified_induction
    (P := fun es st => st.diagnostics = [] → ∀ g, st.pending = some g →
      g.first.entryIndex < es.length ∧
        ∀ e ∈ es.drop g.first.entryIndex, e.type = .assistantOutputItem) ?_ ?_ entries
  · intro _ g hg
    cases hg
  · intro es e st' ih hcase hsilent g hg
    cases hcase with
    | fault ds pending hne herr =>
      exact absurd (List.append_eq_nil_iff.mp hsilent).2 hne
    | openGroup item htype hparse hturn hid hpend =>
      cases hg
      refine ⟨by simp, ?_⟩
      intro x hx
      rw [List.drop_append_of_le_length (Nat.le_refl _), List.drop_length, List.nil_append,
        List.mem_singleton] at hx
      rw [hx]
      exact htype
    | extendGroup item g' htype hparse hturn hid hpend hsame hlen =>
      cases hg
      obtain ⟨hindex, hitems⟩ := ih hsilent g' hpend
      have hfirst : (g'.push ⟨item, es.length, e.id⟩).first = g'.first := rfl
      rw [hfirst]
      refine ⟨by rw [List.length_append]; omega, ?_⟩
      intro x hx
      rw [List.drop_append_of_le_length (Nat.le_of_lt hindex), List.mem_append,
        List.mem_singleton] at hx
      obtain hx | rfl := hx
      · exact hitems x hx
      · exact htype
    | commitEmpty commit htype hparse hpend hcount hturn | pass hitem hcommit hpend =>
      rw [hpend] at hg
      cases hg
    | commitGroup commit g' htype hparse hpend hds => cases hg

variable {entries : List SessionEntry}

/-- The diagnostics loop accepts every clean history, and finds the start of its staged run. -/
theorem stagedSuffixStart_of_clean (hclean : Clean (classified entries)) :
    stagedSuffixStart entries.length none (classifyAssistantOutput entries).diagnostics =
      .ok ((classified entries).pending.map fun g => g.first.entryIndex) := by
  rw [classifyAssistantOutput_eq, hclean.silent, List.nil_append]
  cases hpend : (classified entries).pending with
  | none => rfl
  | some g =>
    obtain ⟨hindex, -⟩ := staged_run_is_suffix entries hclean.silent g hpend
    rw [finalDiagnostics, if_pos (hclean.staged g hpend)]
    unfold stagedSuffixStart suffixStart
    simp [Diagnostic.isIncomplete, Nat.not_le.mpr hindex, suffixStart]

/-! ## §3. The repair of a file of clean records. -/

section

variable {cfg : StoreConfig} {lease : SessionLease} {limits : SessionReadLimits} {io : RecoverIo}

/-- Without faults the suffix is saved and cut off. -/
theorem quarantineSuffix_ok {α : Type} (h : Repairable cfg lease limits io) (content : Bytes)
    (keep : Nat) (saved : Bytes) (epochBumps : Nat) (report : Bytes → α) :
    (quarantineSuffix io content keep saved epochBumps report).result.isOk = true := by
  obtain ⟨path, hpath⟩ := h.quarantine
  unfold quarantineSuffix
  rw [h.beforeRepair, hpath, h.afterQuarantine, h.change, h.afterChange]
  rfl

/-- The repair after a scan that found at least one record and only clean ones. -/
theorem repairStaged_ok (h : Repairable cfg lease limits io) {content : Bytes} {st : StagedScan}
    (hne : st.records ≠ [])
    (hclean : Clean (classified (st.records.map PhysicalRecord.entry))) :
    (repairStaged io content [] st).result.isOk = true := by
  have hstart := stagedSuffixStart_of_clean hclean
  rw [List.length_map] at hstart
  unfold repairStaged
  rw [if_neg (by simpa using hne)]
  dsimp only
  rw [hstart]
  cases hpend : (classified (st.records.map PhysicalRecord.entry)).pending with
  | none => rfl
  | some g =>
    obtain ⟨-, hitems⟩ := staged_run_is_suffix _ hclean.silent g hpend
    have hsuffix : ¬ ((st.records.drop g.first.entryIndex).any
        fun r => r.entry.type ≠ .assistantOutputItem) = true := by
      rw [List.any_eq_true]
      intro hany
      obtain ⟨r, hr, hother⟩ := hany
      rw [decide_eq_true_eq] at hother
      refine hother (hitems r.entry ?_)
      rw [← List.map_drop]
      exact List.mem_map_of_mem hr
    dsimp only [Option.map_some]
    rw [if_neg hsuffix]
    exact quarantineSuffix_ok h _ _ _ _ _

/-- **THE REPAIR OF CLEAN RECORDS**: a framed file of clean records is accepted exactly when
    its records are well linked. -/
theorem recoverIncomplete_ok_iff (h : Repairable cfg lease limits io) {content : Bytes}
    (hframed : content = [] ∨ content.getLast? = some lf)
    (hwithin : WithinRecovery limits content entries.length)
    (hrecords : parseLines cfg.sax cfg.path (unframe lf content).1 = .ok entries)
    (hclean : Clean (classified entries)) :
    (recoverIncompleteAssistantOutputSuffix cfg lease limits io content).result.isOk = true ↔
      WellLinked entries := by
  obtain ⟨hsize, hlines, hcount⟩ := hwithin
  unfold recoverIncompleteAssistantOutputSuffix
  rw [h.no_refusal stagedTexts hsize]
  dsimp only
  by_cases hempty : content = []
  · -- an empty file is accepted at once, and has no records
    subst hempty
    cases hrecords
    simp only [List.isEmpty_nil, if_true, Result.isOk, true_iff]
    exact ⟨List.nodup_nil, by simp⟩
  · have hlast := hframed.resolve_left hempty
    have htail : (unframe lf content).2 = [] := (unframe_snd_eq_nil_iff lf content).mpr hframed
    rw [if_neg (by simpa using hempty), if_neg (not_not.mpr hlast)]
    have hfit : (stagedRules cfg limits).AllFit (unframe lf content) := by
      refine ⟨fun l hl => (fits_of_length (hlines l ?_)).2, (fits_of_length (hlines _ ?_)).2⟩
      · exact List.mem_append_left _ hl
      · exact List.mem_append_right _ List.mem_cons_self
    have hscan : ∀ line st, scanFile (pathIoError
          (ascii "failed while scanning session for assistant-output suffix recovery") cfg.path
          (some (ascii "Input/output error"))) io (stagedRules cfg limits) {} content
            = .ok (line, st) ↔
          line = [] ∧ (stagedRules cfg limits).foldLines 0 {} (unframe lf content).1 = .ok st := by
      intro line st
      rw [scanFile_eq_ok_iff h.readable, ← htail]
      exact ⟨fun hs => hs.2, fun hs => ⟨hfit, hs⟩⟩
    constructor
    · intro hok
      split at hok
      next => cases hok
      next line st hs =>
        obtain ⟨es, hes, hlinked, -⟩ :=
          stagedRules_reads.of_ok ⟨rfl, rfl⟩ ((hscan line st).mp hs).2
        rw [hrecords] at hes
        cases hes
        exact hlinked
    · intro hlinked
      obtain ⟨st, hst, -, hmap⟩ := stagedRules_reads.ok {} ⟨rfl, rfl⟩ hrecords hlinked hcount
      rw [(hscan [] st).mpr ⟨rfl, hst⟩]
      refine repairStaged_ok h ?_ ?_
      · -- the file has at least one line, so it has a record
        intro hnil
        rw [hnil] at hmap
        have hnone : entries = [] := by simpa using hmap.symm
        subst hnone
        have hF := frame_of_framed htail
        cases hlines' : (unframe lf content).1 with
        | nil =>
          rw [hlines'] at hF
          exact hempty hF.symm
        | cons l ls =>
          rw [hlines'] at hrecords
          obtain ⟨e, es, -, -, hcons⟩ := parseLines_cons.mp hrecords
          cases hcons
      · rw [hmap]
        exact hclean

end

/-! ## §4. Successful appends and batches. -/

/-- The storage with several more entries. -/
def Storage.pushAll (storage : Storage) (entries : List SessionEntry) : Storage :=
  entries.foldl Storage.push storage

theorem pushAll_file (content : Bytes) (entries : List SessionEntry) :
    Storage.pushAll (.file content) entries = .file (content ++ entriesText entries) := by
  induction entries generalizing content with
  | nil => simp [Storage.pushAll, entriesText]
  | cons e entries ih =>
    have hrest := ih (content ++ entryPayload e)
    unfold Storage.pushAll at hrest ⊢
    rw [List.foldl_cons, Storage.push, hrest]
    simp [entriesText, entryPayload]

theorem batchFailure_ne_ok (cfg : StoreConfig) (lease : Option SessionLease) (persisted : Nat)
    (storage : Storage) (e : Error) :
    (batchFailure cfg lease persisted storage e).returned ≠ some (.ok ()) := by
  obtain ⟨e', -, hop⟩ | ⟨-, -, -, hop⟩ := batchFailure_cases cfg lease persisted storage e
  · rw [hop]
    simp
  · rw [hop]
    simp

variable {io : MutationIo}

/-- The write loop of a batch that succeeds stores every entry and advances the epoch once for
    each of them. -/
theorem batchWrites_ok {lease : Option SessionLease} :
    ∀ {entries : List SessionEntry} {persisted : Nat} {storage : Storage},
      (batchWrites cfg lease io persisted storage entries).returned = some (.ok ()) →
      (∀ e ∈ entries, Accepted cfg e) ∧
      ∀ t sh, sh.storage = storage →
        execAll (batchWrites cfg lease io persisted storage entries).acts t sh =
          (t, { storage := storage.pushAll entries
                appendEpoch := sh.appendEpoch + UInt64.ofNat entries.length }) := by
  intro entries
  induction entries with
  | nil =>
    intro persisted storage _
    refine ⟨List.forall_mem_nil _, ?_⟩
    intro t sh hstorage
    subst hstorage
    simp [batchWrites, Op.ret, execAll, Storage.pushAll]
  | cons entry entries ih =>
    intro persisted storage h
    have heffect := appendStore_effect cfg lease (io.appends persisted) entry storage
    rw [batchWrites] at h ⊢
    generalize appendStore cfg lease (io.appends persisted) entry storage = out at heffect h ⊢
    cases heffect with
    | thrownEarly | thrownLate => cases h
    | refused | torn | committed => exact absurd h (batchFailure_ne_ok _ _ _ _ _)
    | appended haccepted hframed =>
      obtain ⟨hall, hexec⟩ := ih h
      refine ⟨List.forall_mem_cons.mpr ⟨haccepted, hall⟩, ?_⟩
      intro t sh hstorage
      show execAll ([.store (storage.push entry), .bump] ++
        (batchWrites cfg lease io (persisted + 1) (storage.push entry) entries).acts) t sh = _
      rw [execAll_append]
      show execAll (batchWrites cfg lease io (persisted + 1) (storage.push entry) entries).acts t
        { storage := storage.push entry, appendEpoch := sh.appendEpoch + 1 } = _
      rw [hexec t _ rfl, List.length_cons, UInt64.ofNat_add, UInt64.add_assoc,
        UInt64.add_comm 1]
      rfl

/-- **WHAT A SUCCESSFUL APPEND OR BATCH DOES.**  From the refreshed state it checks all entries,
    stores them, publishes the state they lead to and owns the epoch it leaves. -/
structure Extends (cfg : StoreConfig) (t : Target) (sh : Shared) (entries : List SessionEntry)
    (t' : Target) (sh' : Shared) : Prop where
  nonempty : entries ≠ []
  accepted : ∀ e ∈ entries, Accepted cfg e
  checked : ∃ state, state.applyCandidates entries = .ok t'.assistantOutputState ∧
    ((sh.appendEpoch = t.lastSeenAppendEpoch ∧ state = t.assistantOutputState) ∨
      ∃ fault history, t.load cfg fault sh.storage = .ok history ∧
        AppendState.fromValidatedHistory history = .ok state)
  stored : sh'.storage = sh.storage.pushAll entries
  epoch : sh'.appendEpoch = sh.appendEpoch + UInt64.ofNat entries.length
  seen : t'.lastSeenAppendEpoch = sh'.appendEpoch

variable {t : Target} {sh : Shared}

/-- A refresh, and a script that stores the entries and publishes the state they lead to. -/
theorem Extends.of_refresh {state final : AppendState} {acts main : List Act}
    (hrefresh : refreshStateIfStale cfg t io sh = some (.ok (state, acts))) (hne : entries ≠ [])
    (haccepted : ∀ e ∈ entries, Accepted cfg e)
    (happly : state.applyCandidates entries = .ok final)
    (hexec : ∀ t' : Target, execAll main t' sh =
      ({ t' with assistantOutputState := final
                 lastSeenAppendEpoch := sh.appendEpoch + UInt64.ofNat entries.length },
        { storage := sh.storage.pushAll entries
          appendEpoch := sh.appendEpoch + UInt64.ofNat entries.length })) :
    Extends cfg t sh entries (execAll (acts ++ main) t sh).1 (execAll (acts ++ main) t sh).2 := by
  rw [execAll_append]
  obtain ⟨rfl, rfl, hfresh⟩ | ⟨rfl, history, hload, hstate⟩ := refreshStateIfStale_acts hrefresh
  · rw [execAll, hexec t]
    exact ⟨hne, haccepted, ⟨_, happly, .inl ⟨hfresh, rfl⟩⟩, rfl, rfl, rfl⟩
  · have hrun := hexec
      { t with assistantOutputState := state, lastSeenAppendEpoch := sh.appendEpoch }
    rw [show execAll [.publish state, .see sh.appendEpoch] t sh =
      ({ t with assistantOutputState := state, lastSeenAppendEpoch := sh.appendEpoch }, sh) from rfl,
      hrun]
    exact ⟨hne, haccepted, ⟨_, happly, .inr ⟨io.read, history, hload, hstate⟩⟩, rfl, rfl, rfl⟩

theorem append_extends {entry : SessionEntry}
    (h : (append cfg t io sh entry).returned = some (.ok ())) :
    Extends cfg t sh [entry] ((append cfg t io sh entry).after t sh).1
      ((append cfg t io sh entry).after t sh).2 := by
  unfold append at h ⊢
  split at h
  next => cases h
  next hopen =>
    rw [if_neg hopen]
    split at h
    next => cases h
    next => cases h
    next state acts hrefresh =>
      unfold appendLocked at h ⊢
      split at h
      next => cases h
      next hnothrow =>
        rw [if_neg hnothrow]
        split at h
        next => cases h
        next next' happly =>
          have hsettled := settle_settled cfg t.lease (io.appends 0) entry sh.storage next'
          generalize settle cfg t.lease next' (appendStore cfg t.lease (io.appends 0) entry sh.storage)
            = op at hsettled h ⊢
          cases hsettled with
          | thrown | refused | torn => cases h
          | whole result haccepted hframed htorn =>
            have hone : state.applyCandidates [entry] = .ok next' := by
              unfold AppendState.applyCandidates
              rw [happly]
              rfl
            exact .of_refresh hrefresh (by simp) (by simpa using haccepted) hone fun _ => rfl

/-- The acts of a successful batch after its refresh. -/
theorem batchLocked_ok {state : AppendState}
    (h : (batchLocked cfg t io sh entries state).returned = some (.ok ())) :
    (∀ e ∈ entries, Accepted cfg e) ∧ ∃ final, state.applyCandidates entries = .ok final ∧
      ∀ t' : Target, execAll (batchLocked cfg t io sh entries state).acts t' sh =
        ({ t' with assistantOutputState := final
                   lastSeenAppendEpoch := sh.appendEpoch + UInt64.ofNat entries.length },
          { storage := sh.storage.pushAll entries
            appendEpoch := sh.appendEpoch + UInt64.ofNat entries.length }) := by
  unfold batchLocked at h ⊢
  split at h
  next => cases h
  next hready =>
    rw [if_neg hready]
    split at h
    next => cases h
    next hnothrow =>
      rw [if_neg hnothrow]
      split at h
      next => cases h
      next final happly =>
        split at h
        next => cases h
        next hfinal =>
          rw [if_neg hfinal]
          dsimp only at h ⊢
          split at h
          next hwritten =>
            obtain ⟨haccepted, hexec⟩ := batchWrites_ok hwritten
            refine ⟨haccepted, final, happly, ?_⟩
            intro t'
            dsimp only
            rw [execAll_append, hexec t' sh rfl]
            rfl
          next hfailed => exact absurd h hfailed

theorem appendBatch_extends (h : (appendBatch cfg t io sh entries).returned = some (.ok ())) :
    Extends cfg t sh entries ((appendBatch cfg t io sh entries).after t sh).1
      ((appendBatch cfg t io sh entries).after t sh).2 := by
  unfold appendBatch at h ⊢
  split at h
  next => cases h
  next hopen =>
    rw [if_neg hopen]
    split at h
    next => cases h
    next hchecks =>
      have hne : entries ≠ [] := by
        rintro rfl
        cases hchecks
      split at h
      next => cases h
      next => cases h
      next state acts hrefresh =>
        obtain ⟨haccepted, final, happly, hexec⟩ := batchLocked_ok h
        exact .of_refresh hrefresh hne haccepted happly hexec

/-! ## §5. Sessions grown by appends and batches. -/

/-- The targets of one session, by number. -/
def withTarget (ts : Nat → Option Target) (i : Nat) (t : Target) : Nat → Option Target :=
  fun j => if j = i then some t else ts j

variable {ts : Nat → Option Target}

theorem withTarget_eq_some {i j : Nat} {u : Target} (h : withTarget ts i t j = some u) :
    (j = i ∧ u = t) ∨ (j ≠ i ∧ ts j = some u) := by
  unfold withTarget at h
  by_cases hj : j = i
  · rw [if_pos hj] at h
    exact .inl ⟨hj, (Option.some.inj h).symm⟩
  · rw [if_neg hj] at h
    exact .inr ⟨hj, h⟩

/-- **A SESSION GROWN FROM AN EMPTY FILE**, with the entries written so far: targets are created
    at any time, and each call is a successful `append` or `append_batch` of one of them. -/
inductive Grown (cfg : StoreConfig) : Shared → (Nat → Option Target) → List SessionEntry → Prop
  | empty : Grown cfg { storage := .file [] } (fun _ => none) []
  | create {sh : Shared} {ts : Nat → Option Target} {es : List SessionEntry} (i : Nat)
      (lease : SessionLease) (limits : SessionReadLimits) (fault : Option ReadFault)
      (content : Bytes) (t : Target) (hgrown : Grown cfg sh ts es)
      (hfile : sh.storage = .file content)
      (hcreated : createPersistent cfg lease limits fault content = .ok t) :
      Grown cfg sh (withTarget ts i t) es
  | append {sh : Shared} {ts : Nat → Option Target} {es : List SessionEntry} (i : Nat)
      (t : Target) (io : MutationIo) (entry : SessionEntry) (hgrown : Grown cfg sh ts es)
      (htarget : ts i = some t)
      (hok : (append cfg t io sh entry).returned = some (.ok ())) :
      Grown cfg ((append cfg t io sh entry).after t sh).2
        (withTarget ts i ((append cfg t io sh entry).after t sh).1) (es ++ [entry])
  | appendBatch {sh : Shared} {ts : Nat → Option Target} {es : List SessionEntry} (i : Nat)
      (t : Target) (io : MutationIo) (entries : List SessionEntry) (hgrown : Grown cfg sh ts es)
      (htarget : ts i = some t)
      (hok : (appendBatch cfg t io sh entries).returned = some (.ok ())) :
      Grown cfg ((appendBatch cfg t io sh entries).after t sh).2
        (withTarget ts i ((appendBatch cfg t io sh entries).after t sh).1) (es ++ entries)

section

variable {cfg : StoreConfig}

variable {es : List SessionEntry}

/-- The records of a file of accepted lines. -/
theorem parseLines_entriesText (h : ∀ e ∈ es, Accepted cfg e) :
    parseLines cfg.sax cfg.path (unframe lf (entriesText es)).1
      = .ok (es.map (storedEntry cfg)) := by
  rw [unframe_entriesText h]
  induction es with
  | nil => rfl
  | cons e es ih =>
    obtain ⟨he, hrest⟩ := List.forall_mem_cons.mp h
    exact parseLines_cons.mpr ⟨_, _, he.parses_stored cfg.path false, ih hrest, rfl⟩

theorem recordsIn_entriesText (h : ∀ e ∈ es, Accepted cfg e) :
    recordsIn cfg (entriesText es) = .ok (es.map (storedEntry cfg)) := by
  rw [recordsIn_framed (by rw [unframe_entriesText h])]
  exact parseLines_entriesText h

/-- The file of a grown session holds its entries, one line each. -/
theorem Grown.storage (h : Grown cfg sh ts es) : sh.storage = .file (entriesText es) := by
  have hpush : ∀ es entries : List SessionEntry,
      Storage.pushAll (.file (entriesText es)) entries = .file (entriesText (es ++ entries)) := by
    intro es entries
    rw [pushAll_file]
    simp [entriesText]
  induction h with
  | empty => rfl
  | create i lease limits fault content t hgrown hfile hcreated ih => exact ih
  | append i t io entry hgrown htarget hok ih => rw [(append_extends hok).stored, ih, hpush]
  | appendBatch i t io entries hgrown htarget hok ih =>
    rw [(appendBatch_extends hok).stored, ih, hpush]

/-- What holds of a grown session.  The epoch counts the entries, and a target that owns the
    current epoch has the state of the stored records. -/
structure GrownInv (cfg : StoreConfig) (sh : Shared) (ts : Nat → Option Target)
    (es : List SessionEntry) : Prop where
  accepted : ∀ e ∈ es, Accepted cfg e
  epoch : sh.appendEpoch = UInt64.ofNat es.length
  guard : ∃ s, AppendState.fromValidatedHistory (es.map (storedEntry cfg)) = .ok s ∧
    ∀ i t, ts i = some t → t.lastSeenAppendEpoch.toNat ≤ es.length ∧
      (t.lastSeenAppendEpoch = sh.appendEpoch → t.assistantOutputState = s)

theorem GrownInv.empty : GrownInv cfg { storage := .file [] } (fun _ => none) [] := by
  refine ⟨List.forall_mem_nil _, rfl, {}, rfl, ?_⟩
  intro i t ht
  cases ht

/-- A new target has seen epoch zero and has loaded the records. -/
theorem GrownInv.create (h : GrownInv cfg sh ts es) {lease : SessionLease}
    {fault : Option ReadFault} (i : Nat)
    (hcreated : createPersistent cfg lease limits fault (entriesText es) = .ok t) :
    GrownInv cfg sh (withTarget ts i t) es := by
  obtain ⟨s, hs, htargets⟩ := h.guard
  refine ⟨h.accepted, h.epoch, s, hs, ?_⟩
  intro j t' ht'
  obtain ⟨-, rfl⟩ | ⟨-, ht'⟩ := withTarget_eq_some ht'
  · unfold createPersistent at hcreated
    split at hcreated
    next => cases hcreated
    next history hload =>
      obtain ⟨state, hstate, rfl⟩ := map_eq_ok_iff.mp hcreated
      have hrecords := recordsIn_of_loadLeased hload
      rw [recordsIn_entriesText h.accepted] at hrecords
      cases hrecords
      rw [hs] at hstate
      cases hstate
      exact ⟨Nat.zero_le _, fun _ => rfl⟩
  · exact htargets j t' ht'

/-- **ONE SUCCESSFUL CALL.**  The caller starts from the state of the stored records, whether it
    was refreshed or not, and the epoch moves past every other target. -/
theorem GrownInv.extend {sh' : Shared} {t' : Target} {i : Nat} (h : GrownInv cfg sh ts es)
    (hstorage : sh.storage = .file (entriesText es)) (htarget : ts i = some t)
    (hext : Extends cfg t sh entries t' sh') (hsmall : (es ++ entries).length < 2 ^ 64) :
    GrownInv cfg sh' (withTarget ts i t') (es ++ entries) := by
  obtain ⟨s, hs, htargets⟩ := h.guard
  obtain ⟨state, happly, hfrom⟩ := hext.checked
  have hstate : state = s := by
    obtain ⟨hfresh, rfl⟩ | ⟨fault, history, hload, hstate⟩ := hfrom
    · exact (htargets i t htarget).2 hfresh.symm
    · rw [hstorage] at hload
      have hrecords := recordsIn_of_load hload
      rw [recordsIn_entriesText h.accepted] at hrecords
      cases hrecords
      rw [hs] at hstate
      cases hstate
      rfl
  subst hstate
  rw [List.length_append] at hsmall
  have hcount : 0 < entries.length := List.length_pos_iff.mpr hext.nonempty
  have hepoch : sh'.appendEpoch = UInt64.ofNat (es ++ entries).length := by
    rw [hext.epoch, h.epoch, List.length_append, UInt64.ofNat_add]
  have hepochNat : sh'.appendEpoch.toNat = es.length + entries.length := by
    rw [hepoch, List.length_append]
    exact UInt64.toNat_ofNat_of_lt' hsmall
  refine ⟨List.forall_mem_append.mpr ⟨h.accepted, hext.accepted⟩, hepoch, t'.assistantOutputState,
    ?_, ?_⟩
  · rw [List.map_append]
    exact fromValidatedHistory_stored hs hext.accepted happly
  · intro j u hu
    obtain ⟨-, rfl⟩ | ⟨-, hu⟩ := withTarget_eq_some hu
    · rw [hext.seen, hepochNat, List.length_append]
      exact ⟨Nat.le_refl _, fun _ => rfl⟩
    · -- another target has not seen the new epoch
      have hseen := (htargets j u hu).1
      refine ⟨by rw [List.length_append]; omega, ?_⟩
      intro heq
      rw [heq, hepochNat] at hseen
      omega

theorem Grown.inv (h : Grown cfg sh ts es) : es.length < 2 ^ 64 → GrownInv cfg sh ts es := by
  induction h with
  | empty => exact fun _ => .empty
  | create i lease limits fault content t hgrown hfile hcreated ih =>
    intro hsmall
    rw [hgrown.storage] at hfile
    cases hfile
    exact (ih hsmall).create i hcreated
  | append i t io entry hgrown htarget hok ih =>
    intro hsmall
    have hprev := hsmall
    rw [List.length_append] at hprev
    exact (ih (by omega)).extend hgrown.storage htarget (append_extends hok) hsmall
  | appendBatch i t io entries hgrown htarget hok ih =>
    intro hsmall
    have hprev := hsmall
    rw [List.length_append] at hprev
    exact (ih (by omega)).extend hgrown.storage htarget (appendBatch_extends hok) hsmall

/-! ## §6. What was appended, reopened. -/

/-- The repairs in the order in which a session is opened or resumed, and what they leave. -/
def reopen (cfg : StoreConfig) (lease : SessionLease) (limits : SessionReadLimits)
    (io : RecoveryIo) (content : Bytes) : Result Bytes :=
  let torn := recoverTornTail cfg lease limits io.torn content
  match torn.result with
  | .error e => .error e
  | .ok _ =>
    let staged := recoverIncompleteAssistantOutputSuffix cfg lease limits io.staged torn.content
    staged.result.map fun _ => staged.content

/-- The records of accepted entries are linked as the entries are. -/
theorem wellLinked_stored (h : ∀ e ∈ es, Accepted cfg e) :
    WellLinked (es.map (storedEntry cfg)) ↔ WellLinked es := by
  rw [wellLinked_iff, wellLinked_iff]
  generalize (∅ : Finset Bytes) = ids
  induction es generalizing ids with
  | nil => rfl
  | cons e es ih =>
    obtain ⟨he, hrest⟩ := List.forall_mem_cons.mp h
    obtain ⟨hid, hparent, -⟩ := he.stored_envelope
    rw [List.map_cons, LineageFrom, LineageFrom, hid, hparent, ih hrest]

/-- Every accepted line is an octet shorter than `kMaxSessionLineBytes`. -/
theorem withinRecovery_entriesText (haccepted : ∀ e ∈ es, Accepted cfg e)
    (hwithin : WithinLimits limits (entriesText es) es.length) :
    WithinRecovery limits (entriesText es) es.length := by
  obtain ⟨hsize, ⟨hlines, htail⟩, hcount⟩ := hwithin
  refine ⟨hsize, ?_, hcount⟩
  rw [unframe_entriesText haccepted] at hlines htail ⊢
  intro line hline
  obtain hline | hline := List.mem_append.mp hline
  · obtain ⟨e, he, rfl⟩ := List.mem_map.mp hline
    exact ⟨hlines _ hline, (haccepted e he).short⟩
  · rw [List.mem_singleton] at hline
    rw [hline]
    exact ⟨Nat.zero_le _, Nat.zero_lt_of_lt (Nat.lt_succ_self _)⟩

/-- Each entry takes at least its newline. -/
theorem length_le_entriesText (es : List SessionEntry) : es.length ≤ (entriesText es).length := by
  induction es with
  | nil => exact Nat.zero_le _
  | cons e es ih =>
    have hcons : entriesText (e :: es) = entryPayload e ++ entriesText es := by
      simp [entriesText, entryPayload]
    rw [hcons, List.length_append, entryPayload, List.length_append, List.length_cons,
      List.length_singleton]
    omega

/-- **WHAT WAS APPENDED OPENS EXACTLY WHEN IT IS WELL LINKED.**  A session grown from an empty
    file by successful appends and batches, within the read limits, passes both repairs if and
    only if its entries have distinct ids and every parent names an earlier entry.  Its
    assistant output is never the reason of a rejection. -/
theorem reopen_isOk_iff_wellLinked {sh : Shared} {ts : Nat → Option Target}
    {es : List SessionEntry} {content : Bytes} {lease : SessionLease} {limits : SessionReadLimits}
    {io : RecoveryIo} (hgrown : Grown cfg sh ts es) (hfile : sh.storage = .file content)
    (hsize : content.length < 2 ^ 64) (hwithin : WithinLimits limits content es.length)
    (htorn : Repairable cfg lease limits io.torn) (hstaged : Repairable cfg lease limits io.staged) :
    (reopen cfg lease limits io content).isOk = true ↔ WellLinked es := by
  rw [hgrown.storage] at hfile
  cases hfile
  -- the epoch counts the entries, and a file of this size has too few to wrap it around
  have hinv := hgrown.inv (Nat.lt_of_le_of_lt (length_le_entriesText es) hsize)
  obtain ⟨s, hguard, -⟩ := hinv.guard
  have hclean : Clean (classified (es.map (storedEntry cfg))) :=
    (fromValidatedHistory_eq_ok_iff.mp hguard).1
  have hframed : entriesText es = [] ∨ (entriesText es).getLast? = some lf := by
    rw [← unframe_snd_eq_nil_iff, unframe_entriesText hinv.accepted]
  have hrecovery := withinRecovery_entriesText hinv.accepted hwithin
  have hstep : (reopen cfg lease limits io (entriesText es)).isOk =
      (recoverIncompleteAssistantOutputSuffix cfg lease limits io.staged
        (entriesText es)).result.isOk := by
    unfold reopen
    rw [recoverTornTail_framed_ok htorn hframed hwithin.1]
    dsimp only
    cases (recoverIncompleteAssistantOutputSuffix cfg lease limits io.staged
      (entriesText es)).result with
    | error e => rfl
    | ok r => rfl
  rw [← List.length_map (storedEntry cfg)] at hrecovery
  rw [hstep, recoverIncomplete_ok_iff hstaged hframed hrecovery
    (parseLines_entriesText hinv.accepted) hclean]
  exact wellLinked_stored hinv.accepted

end

set_option maxRecDepth 1024

/-- The first target of an empty session. -/
def firstTarget : Target := { lease := some twoLineLease }

/-- Its session after the plain message. -/
def plainOnce : Target × Shared :=
  (append twoLineStore firstTarget {} { storage := .file [] } plainEntry).after firstTarget
    { storage := .file [] }

theorem grown_plainOnce :
    ∃ ts, ts 0 = some plainOnce.1 ∧ Grown twoLineStore plainOnce.2 ts [plainEntry] := by
  have hcreated : Grown twoLineStore { storage := .file [] }
      (withTarget (fun _ => none) 0 firstTarget) [] :=
    .create 0 twoLineLease {} none [] firstTarget .empty rfl (by decide)
  exact ⟨_, rfl, .append 0 firstTarget {} plainEntry hcreated rfl (by decide)⟩

theorem repairable_twoLineStore : Repairable twoLineStore twoLineLease {} {} :=
  ⟨by decide, by decide, rfl, by decide, rfl, by simp, rfl, rfl,
    ⟨_, rfl⟩, rfl, rfl, rfl⟩

/-- One plain message opens again. -/
theorem reopen_plain :
    (reopen twoLineStore twoLineLease {} {} (entriesText [plainEntry])).isOk = true := by
  obtain ⟨ts, -, hgrown⟩ := grown_plainOnce
  have hwithin : WithinLimits {} (entriesText [plainEntry]) [plainEntry].length := by
    unfold WithinLimits WithinLine
    decide
  exact (reopen_isOk_iff_wellLinked hgrown hgrown.storage (by decide) hwithin
    repairable_twoLineStore repairable_twoLineStore).mpr (by decide)

/-- The same message is appended twice, both times with success, and the session does not open
    any more because its ids are not distinct. -/
theorem reopen_rejects_duplicate_id :
    (∃ sh ts, Grown twoLineStore sh ts [plainEntry, plainEntry] ∧
      sh.storage = .file (entriesText [plainEntry, plainEntry])) ∧
    WithinLimits {} (entriesText [plainEntry, plainEntry]) 2 ∧
    Repairable twoLineStore twoLineLease {} {} ∧
    (reopen twoLineStore twoLineLease {} {} (entriesText [plainEntry, plainEntry])).isOk
      = false := by
  refine ⟨?_, ?_, repairable_twoLineStore, by decide⟩
  · obtain ⟨ts, htarget, hgrown⟩ := grown_plainOnce
    have htwice := Grown.append 0 plainOnce.1 {} plainEntry hgrown htarget (by decide)
    exact ⟨_, _, htwice, htwice.storage⟩
  · unfold WithinLimits WithinLine
    decide

end Ava.Session
