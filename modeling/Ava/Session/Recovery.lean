/-
  Ava.Session.Recovery
  **REPAIRING A SESSION FILE** (`session/session_store_recovery.cpp`).

  Two repairs run when a session is opened.  The first looks at the end of the file: a final
  record without newline is completed if it is a whole record and moved to a quarantine file
  if it is no JSON.  The second looks at the records: a staged assistant turn without commit
  is moved to quarantine.  Both scan the file once through an 8 KiB buffer, and both refuse a
  file whose record ids repeat or whose parents are not earlier records.

    - §1 the shared parts; §2 `recoverTornTail`; §3 `recoverIncompleteAssistantOutputSuffix`;
    - §4 the torn-tail scan over whole lines; §5 a cut record is invalid JSON;
    - §6 what the torn-tail repair can do to a file; §7 a torn append is repaired.
-/
import Ava.Core.JsonGrammar
import Ava.Lib.LineScan
import Ava.Session.Append
import Ava.Session.AppendGuard

namespace Ava.Session

open Ava.Core Ava.Core.Json Ava.Lib

/-! ## §1. The shared parts. -/

/-- What the operating system answers during one repair: the sizes of the reads, and the
    first fault of each phase (opening, identity and cancellation checks before the scan; the
    checks before the file is touched; the publication of the quarantine file; the checks
    after it; the change of the file; everything after the change). -/
structure RecoverIo where
  reads : List Nat := []
  beforeScan : Option Error := none
  beforeRepair : Option Error := none
  quarantine : Result Bytes := .ok (ascii "quarantine")
  afterQuarantine : Option Error := none
  change : Option Error := none
  afterChange : Option Error := none

/-- How a repair ends: the file, what was moved to quarantine, by how much the shared append
    epoch was advanced, and the returned result. -/
structure RecoverOutcome (α : Type) where
  content : Bytes
  quarantined : Option Bytes := none
  epochBumps : Nat := 0
  result : Result α

/-- The size of the read buffer. -/
def recoveryBufferSize : Nat := 8192

/-- The line limit of both scans: the read limit, and one octet less than a line may have. -/
def recoveryLineFull (limits : SessionReadLimits) (line : Bytes) : Bool :=
  limits.maxLineBytes ≤ line.length || maxSessionLineBytes ≤ line.length + 1

/-- The buffered scan of a file, from an empty line buffer. -/
def scanFile {σ : Type} (unreadable : Error) (io : RecoverIo) (rules : LineRules UInt8 σ Error)
    (start : σ) (content : Bytes) : Result (Bytes × σ) :=
  chunkedFold recoveryBufferSize unreadable rules.step content.length io.reads 0 ([], start) content

/-- The texts in which the two repairs differ before they scan. -/
structure RecoveryTexts where
  inactive : String
  mismatch : String
  tooLarge : String

variable (cfg : StoreConfig)

/-- What both repairs refuse before they look into the file, in their common order. -/
def recoveryRefusal (lease : SessionLease) (limits : SessionReadLimits) (io : RecoverIo)
    (texts : RecoveryTexts) (content : Bytes) : Option Error :=
  match validateReadLimits limits with
  | .error e => some e
  | .ok () =>
    match validateSessionId cfg.sessionId with
    | .error e => some e
    | .ok () =>
      if !lease.active || lease.canonicalPath.isEmpty then
        some { category := .invalidArgument, message := ascii texts.inactive }
      else if cfg.canonicalPath ≠ lease.canonicalPath then
        some (((sessionError texts.mismatch).withContext "path" cfg.path).withContext
          "lease_path" lease.canonicalPath)
      else
        match io.beforeScan with
        | some e => some e
        | none =>
          if exceeds limits.maxFileBytes content.length then
            some (((sessionError texts.tooLarge).withContext "path" cfg.path).withContext
              "max_file_bytes" (decimal (limits.maxFileBytes.getD 0)))
          else none

/-! ## §2. The torn tail. -/

/-- The loop variables of the torn-tail scan beside the line buffer. -/
structure TornScan where
  entryIds : Finset Bytes := ∅
  entryCount : Nat := 0
  lastValidatedNewline : Nat := 0

/-- `validate_entry_integrity`. -/
def validateEntryIntegrity (path : Bytes) (limits : SessionReadLimits) (st : TornScan)
    (entry : SessionEntry) : Result TornScan :=
  if exceeds limits.maxEntries (st.entryCount + 1) then
    .error (((sessionError "session entry count exceeds torn tail recovery limit")
      |>.withContext "path" path)
      |>.withContext "max_entries" (decimal (limits.maxEntries.getD 0)))
  else if entry.id ∈ st.entryIds then
    .error (((sessionError "session recovery found a duplicate entry id")
      |>.withContext "path" path)
      |>.withContext "entry_id" entry.id)
  else if entry.parentId ≠ [] ∧ entry.parentId ∉ st.entryIds then
    .error ((((sessionError
        "session recovery found a parent id that does not name an earlier record")
      |>.withContext "path" path)
      |>.withContext "entry_id" entry.id)
      |>.withContext "parent_id" entry.parentId)
  else
    .ok { st with entryIds := insert entry.id st.entryIds, entryCount := st.entryCount + 1 }

/-- A terminated line of the torn-tail scan; `stop` is the offset after its newline. -/
def tornLine (limits : SessionReadLimits) (stop : Nat) (st : TornScan) (line : Bytes) :
    Result TornScan :=
  match parseStrictSessionRecord cfg.sax line cfg.path false with
  | .error e => .error (e.withContext "record_end_offset" (decimal stop))
  | .ok entry =>
    match validateEntryIntegrity cfg.path limits st entry with
    | .error e => .error (e.withContext "record_end_offset" (decimal stop))
    | .ok st => .ok { st with lastValidatedNewline := stop }

/-- The torn-tail scan. -/
def tornRules (limits : SessionReadLimits) : LineRules UInt8 TornScan Error where
  sep := lf
  full := recoveryLineFull limits
  tooLong := ((sessionError "session line exceeds torn tail recovery scan limit").withContext
    "path" cfg.path).withContext "max_line_bytes" (decimal limits.maxLineBytes)
  onLine := tornLine cfg limits

/-- The repair that completes a whole final record with its newline. -/
def completeTail (io : RecoverIo) (content : Bytes) : RecoverOutcome (Option Bytes) :=
  match io.beforeRepair with
  | some e => { content, result := .error e }
  | none =>
    match io.change with
    | some e => { content, result := .error e }
    | none =>
      { content := content ++ [lf]
        result := match io.afterChange with
          | some e => .error e
          | none => .ok none }

/-- The repair that saves octets in a quarantine file and truncates the session file.  The
    staged-suffix repair advances the append epoch right before it truncates. -/
def quarantineSuffix {α : Type} (io : RecoverIo) (content : Bytes) (keep : Nat) (saved : Bytes)
    (epochBumps : Nat) (report : Bytes → α) : RecoverOutcome α :=
  match io.beforeRepair with
  | some e => { content, result := .error e }
  | none =>
    match io.quarantine with
    | .error e => { content, result := .error e }
    | .ok path =>
      let quarantined := some saved
      match io.afterQuarantine with
      | some e => { content, quarantined, result := .error e }
      | none =>
        match io.change with
        | some e => { content, quarantined, epochBumps, result := .error e }
        | none =>
          { content := content.take keep
            quarantined
            epochBumps
            result := match io.afterChange with
              | some e => .error e
              | none => .ok (report path) }

/-- The part of `recover_torn_tail` after the scan, with what the line buffer holds. -/
def repairTail (limits : SessionReadLimits) (io : RecoverIo) (content : Bytes) (line : Bytes)
    (st : TornScan) : RecoverOutcome (Option Bytes) :=
  if line.isEmpty then { content, result := .ok none }
  else
    match validateStrictJson cfg.sax line maxNestingDepth with
    | .valid =>
      match parseStrictSessionRecord cfg.sax line cfg.path true with
      | .error e => { content, result := .error e }
      | .ok entry =>
        match validateEntryIntegrity cfg.path limits st entry with
        | .error e => { content, result := .error e }
        | .ok _ => completeTail io content
    | .invalid => quarantineSuffix io content st.lastValidatedNewline line 0 some
    | status => { content, result := .error (strictSessionRecordError status cfg.path true) }

def tornTexts : RecoveryTexts where
  inactive := "torn tail recovery requires an active session lease"
  mismatch := "torn tail recovery lease does not match the store's exact path"
  tooLarge := "session file exceeds torn tail recovery byte limit"

/-- `recover_torn_tail` of a persistent store. -/
def recoverTornTail (lease : SessionLease) (limits : SessionReadLimits) (io : RecoverIo)
    (content : Bytes) : RecoverOutcome (Option Bytes) :=
  match recoveryRefusal cfg lease limits io tornTexts content with
  | some e => { content, result := .error e }
  | none =>
    if content.isEmpty ∨ content.getLast? = some lf then { content, result := .ok none }
    else
      match scanFile (pathIoError
          (ascii "session became unreadable while scanning for torn tail recovery") cfg.path none)
          io (tornRules cfg limits) {} content with
      | .error e => { content, result := .error e }
      | .ok (line, st) => repairTail cfg limits io content line st

/-! ## §3. The staged assistant turn. -/

/-- A record with the offsets of its line and of what follows its newline. -/
structure PhysicalRecord where
  start : Nat
  stop : Nat
  entry : SessionEntry

/-- The loop variables of the staged-suffix scan beside the line buffer. -/
structure StagedScan where
  lineStart : Nat := 0
  entryIds : Finset Bytes := ∅
  records : List PhysicalRecord := []

/-- A terminated line of the staged-suffix scan. -/
def stagedLine (limits : SessionReadLimits) (stop : Nat) (st : StagedScan) (line : Bytes) :
    Result StagedScan :=
  if exceeds limits.maxEntries (st.records.length + 1) then
    .error (((sessionError "session entry count exceeds assistant-output suffix recovery limit")
      |>.withContext "path" cfg.path)
      |>.withContext "max_entries" (decimal (limits.maxEntries.getD 0)))
  else
    match parseStrictSessionRecord cfg.sax line cfg.path false with
    | .error e => .error (e.withContext "record_end_offset" (decimal stop))
    | .ok entry =>
      if entry.id ∈ st.entryIds ∨ (entry.parentId ≠ [] ∧ entry.parentId ∉ st.entryIds) then
        .error (((sessionError
            "assistant-output suffix recovery found malformed session entry identity history")
          |>.withContext "entry_id" entry.id)
          |>.withContext "record_end_offset" (decimal stop))
      else
        .ok { lineStart := stop, entryIds := insert entry.id st.entryIds
              records := st.records ++ [{ start := st.lineStart, stop, entry }] }

/-- The staged-suffix scan. -/
def stagedRules (limits : SessionReadLimits) : LineRules UInt8 StagedScan Error where
  sep := lf
  full := recoveryLineFull limits
  tooLong := ((sessionError
    "session line exceeds assistant-output suffix recovery scan limit").withContext
    "path" cfg.path).withContext "max_line_bytes" (decimal limits.maxLineBytes)
  onLine := stagedLine cfg limits

/-- The loop over the diagnostics, with the two texts in which its copies differ: one incomplete
    turn may be recovered, anything else is refused. -/
def suffixStart (ambiguous malformed : String) (recordCount : Nat) :
    Option Nat → List Diagnostic → Result (Option Nat)
  | found, [] => .ok found
  | found, d :: ds =>
    if d.isIncomplete then
      if found.isSome || decide (recordCount ≤ d.entryIndex) then
        .error (sessionError ambiguous)
      else suffixStart ambiguous malformed recordCount (some d.entryIndex) ds
    else
      .error ((((sessionError malformed)
        |>.withContext "diagnostic_kind" d.kind.toBytes)
        |>.withContext "diagnostic_entry_id" d.entryId)
        |>.withContext "diagnostic" d.message)

/-- The copy of a persistent store. -/
def stagedSuffixStart : Nat → Option Nat → List Diagnostic → Result (Option Nat) :=
  suffixStart "assistant-output suffix recovery found an ambiguous final staging suffix"
    "assistant-output history is malformed; refusing suffix recovery"

/-- The copy of an ephemeral store. -/
def ephemeralSuffixStart : Nat → Option Nat → List Diagnostic → Result (Option Nat) :=
  suffixStart "ephemeral assistant-output recovery found an ambiguous staging suffix"
    "ephemeral assistant-output history is malformed; refusing suffix recovery"

/-- `AssistantOutputSuffixRecovery`. -/
structure SuffixRecovery where
  quarantinePath : Option Bytes
  removedEntryCount : Nat
  removedByteCount : Nat
deriving Repr, DecidableEq

/-- The part of `recover_incomplete_assistant_output_suffix` after the scan. -/
def repairStaged (io : RecoverIo) (content line : Bytes) (st : StagedScan) :
    RecoverOutcome (Option SuffixRecovery) :=
  if line ≠ [] ∨ st.records.isEmpty then
    { content
      result := .error (sessionError
        "assistant-output suffix recovery could not establish a complete framed session history") }
  else
    let entries := st.records.map PhysicalRecord.entry
    match stagedSuffixStart st.records.length none (classifyAssistantOutput entries).diagnostics with
    | .error e => { content, result := .error e }
    | .ok none => { content, result := .ok none }
    | .ok (some index) =>
      if (st.records.drop index).any fun r => r.entry.type ≠ .assistantOutputItem then
        { content
          result := .error (sessionError
            "assistant-output recovery suffix contains an unrelated session entry") }
      else
        let start := ((st.records.drop index).head?.map PhysicalRecord.start).getD content.length
        quarantineSuffix io content start (content.drop start) 1 fun path =>
          some { quarantinePath := some path, removedEntryCount := st.records.length - index
                 removedByteCount := content.length - start }

def stagedTexts : RecoveryTexts where
  inactive := "assistant-output suffix recovery requires an active session lease"
  mismatch := "assistant-output suffix recovery lease does not exactly match the store"
  tooLarge := "session file exceeds assistant-output suffix recovery byte limit"

/-- `recover_incomplete_assistant_output_suffix` of a persistent store. -/
def recoverIncompleteAssistantOutputSuffix (lease : SessionLease) (limits : SessionReadLimits)
    (io : RecoverIo) (content : Bytes) : RecoverOutcome (Option SuffixRecovery) :=
  match recoveryRefusal cfg lease limits io stagedTexts content with
  | some e => { content, result := .error e }
  | none =>
    if content.isEmpty then { content, result := .ok none }
    else if content.getLast? ≠ some lf then
      { content
        result := .error ((sessionError
            "assistant-output suffix recovery requires torn-tail recovery before scanning complete records").withContext
          "path" cfg.path) }
    else
      match scanFile (pathIoError
          (ascii "failed while scanning session for assistant-output suffix recovery") cfg.path
          (some (ascii "Input/output error"))) io (stagedRules cfg limits) {} content with
      | .error e => { content, result := .error e }
      | .ok (line, st) => repairStaged io content line st

/-- The loop of the in-memory recovery over the entries, with the ids and octets seen so far. -/
def ephemeralSuffixChecks (limits : SessionReadLimits) :
    Finset Bytes → Nat → Nat → List SessionEntry → Result Unit
  | _, _, _, [] => .ok ()
  | ids, index, total, entry :: entries =>
    if exceeds limits.maxEntries (index + 1) then
      .error ((sessionError
          "ephemeral session entry count exceeds assistant-output recovery limit").withContext
        "max_entries" (decimal (limits.maxEntries.getD 0)))
    else if entry.id ∈ ids ∨ (entry.parentId ≠ [] ∧ entry.parentId ∉ ids) then
      .error ((sessionError
          "ephemeral assistant-output recovery found malformed session entry identity history").withContext
        "entry_id" entry.id)
    else
      match serializeSessionEntryLine entry with
      | .error e => .error e
      | .ok line =>
        if limits.maxLineBytes < line.length ∨
            exceeds limits.maxFileBytes (total + (line.length + 1)) then
          .error (((sessionError
              "ephemeral session exceeds assistant-output recovery read limit").withContext
            "max_file_bytes" (decimal (limits.maxFileBytes.getD 0))).withContext
            "max_line_bytes" (decimal limits.maxLineBytes))
        else
          ephemeralSuffixChecks limits (insert entry.id ids) (index + 1)
            (total + (line.length + 1)) entries

/-- What the in-memory recovery leaves: the entries, how often the epoch was advanced, and the
    returned result. -/
structure EphemeralRecovery where
  entries : List SessionEntry
  epochBumps : Nat := 0
  result : Result (Option SuffixRecovery)

/-- `recover_incomplete_assistant_output_suffix_ephemeral_impl`, without cancellation. -/
def recoverIncompleteAssistantOutputSuffixEphemeral (limits : SessionReadLimits)
    (entries : List SessionEntry) : EphemeralRecovery :=
  match validateReadLimits limits with
  | .error e => { entries, result := .error e }
  | .ok () =>
    match ephemeralSuffixChecks limits ∅ 0 0 entries with
    | .error e => { entries, result := .error e }
    | .ok () =>
      match ephemeralSuffixStart entries.length none
          (classifyAssistantOutput entries).diagnostics with
      | .error e => { entries, result := .error e }
      | .ok none => { entries, result := .ok none }
      | .ok (some start) =>
        if (entries.drop start).any fun e => e.type ≠ .assistantOutputItem then
          { entries
            result := .error (sessionError
              "ephemeral assistant-output recovery suffix contains an unrelated entry") }
        else
          { entries := entries.take start
            epochBumps := 1
            result := .ok (some
              { quarantinePath := none, removedEntryCount := entries.length - start
                removedByteCount :=
                  ((entries.drop start).map fun e => (sessionEntryLineText e).length + 1).sum }) }

/-! ## §4. The scans over whole lines. -/

/-- Ids that are new and parents that were seen, entry by entry. -/
def LineageFrom : Finset Bytes → List SessionEntry → Prop
  | _, [] => True
  | ids, e :: es =>
    e.id ∉ ids ∧ (e.parentId = [] ∨ e.parentId ∈ ids) ∧ LineageFrom (insert e.id ids) es

/-- Distinct ids, and every non-empty parent id names an earlier entry. -/
structure WellLinked (entries : List SessionEntry) : Prop where
  distinct : (entries.map SessionEntry.id).Nodup
  earlier : ∀ before e after, entries = before ++ e :: after →
    e.parentId = [] ∨ e.parentId ∈ before.map SessionEntry.id

/-- One more record is linked to those before it. -/
theorem wellLinked_append_singleton (es : List SessionEntry) (e : SessionEntry) :
    WellLinked (es ++ [e]) ↔ WellLinked es ∧ e.id ∉ es.map SessionEntry.id ∧
      (e.parentId = [] ∨ e.parentId ∈ es.map SessionEntry.id) := by
  have hdistinct : ((es ++ [e]).map SessionEntry.id).Nodup ↔
      (es.map SessionEntry.id).Nodup ∧ e.id ∉ es.map SessionEntry.id := by
    rw [List.map_append, List.map_singleton, ← List.concat_eq_append, List.nodup_concat, and_comm]
  constructor
  · intro h
    obtain ⟨hes, hnew⟩ := hdistinct.mp h.distinct
    refine ⟨⟨hes, fun before x after hsplit => ?_⟩, hnew, h.earlier es e [] rfl⟩
    exact h.earlier before x (after ++ [e]) (by rw [hsplit]; simp)
  · rintro ⟨h, hnew, hparent⟩
    refine ⟨hdistinct.mpr ⟨h.distinct, hnew⟩, fun before x after hsplit => ?_⟩
    rcases List.eq_nil_or_concat after with rfl | ⟨after, y, rfl⟩
    · obtain ⟨rfl, hlast⟩ := List.append_inj' hsplit rfl
      obtain rfl : e = x := by simpa using hlast
      exact hparent
    · rw [List.concat_eq_append, ← List.cons_append, ← List.append_assoc] at hsplit
      exact h.earlier before x after (List.append_inj' hsplit rfl).1

/-- The ids after one more record and then a list of them. -/
theorem insert_union_ids (ids : Finset Bytes) (e : SessionEntry) (es : List SessionEntry) :
    insert e.id ids ∪ (es.map SessionEntry.id).toFinset =
      ids ∪ ((e :: es).map SessionEntry.id).toFinset := by
  ext x
  simp only [Finset.mem_union, Finset.mem_insert, List.mem_toFinset, List.map_cons, List.mem_cons]
  tauto

theorem lineageFrom_append (es fs : List SessionEntry) (ids : Finset Bytes) :
    LineageFrom ids (es ++ fs) ↔
      LineageFrom ids es ∧ LineageFrom (ids ∪ (es.map SessionEntry.id).toFinset) fs := by
  induction es generalizing ids with
  | nil => simp [LineageFrom]
  | cons e es ih =>
    rw [List.cons_append, LineageFrom, LineageFrom, ih, insert_union_ids]
    tauto

variable {entries : List SessionEntry}

theorem wellLinked_iff :
    WellLinked entries ↔ LineageFrom ∅ entries := by
  induction entries using List.reverseRecOn with
  | nil => exact ⟨fun _ => trivial, fun _ => ⟨List.nodup_nil, by simp⟩⟩
  | append_singleton es e ih =>
    rw [wellLinked_append_singleton, lineageFrom_append, ih]
    simp [LineageFrom]

instance decidableLineageFrom : ∀ (ids : Finset Bytes) (entries : List SessionEntry),
    Decidable (LineageFrom ids entries)
  | _, [] => .isTrue trivial
  | ids, e :: es =>
    have := decidableLineageFrom (insert e.id ids) es
    inferInstanceAs (Decidable (e.id ∉ ids ∧ (e.parentId = [] ∨ e.parentId ∈ ids) ∧ _))

instance (entries : List SessionEntry) : Decidable (WellLinked entries) :=
  decidable_of_iff _ wellLinked_iff.symm

variable {limits : SessionReadLimits} {st : TornScan}

theorem validateEntryIntegrity_eq_ok_iff {path : Bytes} {st' : TornScan} {entry : SessionEntry} :
    validateEntryIntegrity path limits st entry = .ok st' ↔
      exceeds limits.maxEntries (st.entryCount + 1) = false ∧ entry.id ∉ st.entryIds ∧
      (entry.parentId = [] ∨ entry.parentId ∈ st.entryIds) ∧
      st' = { st with entryIds := insert entry.id st.entryIds, entryCount := st.entryCount + 1 } := by
  unfold validateEntryIntegrity
  by_cases hcount : exceeds limits.maxEntries (st.entryCount + 1) = true
  · simp [hcount]
  · by_cases hid : entry.id ∈ st.entryIds
    · simp [hcount, hid]
    · by_cases hparent : entry.parentId ≠ [] ∧ entry.parentId ∉ st.entryIds
      · rw [if_neg hcount, if_neg hid, if_pos hparent]
        simp [hparent]
      · rw [if_neg hcount, if_neg hid, if_neg hparent]
        have hparent' : entry.parentId = [] ∨ entry.parentId ∈ st.entryIds := by tauto
        simp [hcount, hid, hparent', eq_comm]

variable {cfg : StoreConfig} {line : Bytes}

theorem tornLine_eq_ok_iff {stop : Nat} {st' : TornScan} :
    tornLine cfg limits stop st line = .ok st' ↔
      ∃ entry, parseStrictSessionRecord cfg.sax line cfg.path false = .ok entry ∧
        exceeds limits.maxEntries (st.entryCount + 1) = false ∧ entry.id ∉ st.entryIds ∧
        (entry.parentId = [] ∨ entry.parentId ∈ st.entryIds) ∧
        st' = { entryIds := insert entry.id st.entryIds, entryCount := st.entryCount + 1
                lastValidatedNewline := stop } := by
  unfold tornLine
  cases parseStrictSessionRecord cfg.sax line cfg.path false with
  | error e => simp
  | ok entry =>
    dsimp only
    constructor
    · intro h
      cases hintegrity : validateEntryIntegrity cfg.path limits st entry with
      | error e =>
        rw [hintegrity] at h
        cases h
      | ok st₁ =>
        rw [hintegrity] at h
        obtain ⟨hcount, hid, hparent, rfl⟩ := validateEntryIntegrity_eq_ok_iff.mp hintegrity
        cases h
        exact ⟨entry, rfl, hcount, hid, hparent, rfl⟩
    · intro h
      obtain ⟨entry', heq, hcount, hid, hparent, rfl⟩ := h
      cases heq
      rw [validateEntryIntegrity_eq_ok_iff.mpr ⟨hcount, hid, hparent, rfl⟩]

theorem parseLines_cons {sax : SaxParser} {path : Bytes} {lines : List Bytes} :
    parseLines sax path (line :: lines) = .ok entries ↔
      ∃ e es, parseStrictSessionRecord sax line path false = .ok e ∧
        parseLines sax path lines = .ok es ∧ entries = e :: es := by
  rw [parseLines]
  cases parseStrictSessionRecord sax line path false with
  | error e => simp
  | ok e =>
    dsimp only
    rw [map_eq_ok_iff]
    simp [eq_comm]

section

variable {σ : Type} {R : LineRules UInt8 σ Error} {I : Nat → List SessionEntry → σ → Prop}
  {next : Nat → σ → SessionEntry → σ}

/-- A scan that wants a record on every line: `I pos es st` says that it is in `st` at `pos`,
    after the records `es`, and one more takes it on with `next`. -/
structure ReadsRecords (cfg : StoreConfig) (limits : SessionReadLimits) (R : LineRules UInt8 σ Error)
    (I : Nat → List SessionEntry → σ → Prop) (next : Nat → σ → SessionEntry → σ) : Prop where
  onLine : ∀ {pos es st}, I pos es st → ∀ stop line st', R.onLine stop st line = .ok st' ↔
    ∃ e, parseStrictSessionRecord cfg.sax line cfg.path false = .ok e ∧
      exceeds limits.maxEntries (es.length + 1) = false ∧ e.id ∉ (es.map SessionEntry.id).toFinset ∧
      (e.parentId = [] ∨ e.parentId ∈ (es.map SessionEntry.id).toFinset) ∧ st' = next stop st e
  advance : ∀ {pos es st}, I pos es st → ∀ stop e, I stop (es ++ [e]) (next stop st e)

/-- Such a scan over lines: it ends when every line is a record and the records are well linked
    and not too many. -/
theorem ReadsRecords.foldLines (h : ReadsRecords cfg limits R I next) :
    ∀ (lines : List Bytes) (pos : Nat) (es : List SessionEntry) (st : σ), I pos es st →
      (∀ st', R.foldLines pos st lines = .ok st' →
        ∃ fs, parseLines cfg.sax cfg.path lines = .ok fs ∧
          LineageFrom (es.map SessionEntry.id).toFinset fs ∧
          I (pos + (frame lf lines).length) (es ++ fs) st') ∧
      (∀ fs, parseLines cfg.sax cfg.path lines = .ok fs →
        LineageFrom (es.map SessionEntry.id).toFinset fs →
        exceeds limits.maxEntries (es.length + fs.length) = false →
        ∃ st', R.foldLines pos st lines = .ok st') := by
  intro lines
  induction lines with
  | nil =>
    intro pos es st hst
    refine ⟨?_, fun fs _ _ _ => ⟨st, rfl⟩⟩
    intro st' hfold
    cases hfold
    refine ⟨[], rfl, trivial, ?_⟩
    rwa [List.append_nil]
  | cons line lines ih =>
    intro pos es st hst
    have hids : ∀ e : SessionEntry, ((es ++ [e]).map SessionEntry.id).toFinset =
        insert e.id (es.map SessionEntry.id).toFinset := by
      intro e
      simp
    constructor
    · intro st' hfold
      rw [LineRules.foldLines] at hfold
      cases hline : R.onLine (pos + line.length + 1) st line with
      | error e =>
        rw [hline] at hfold
        cases hfold
      | ok st₁ =>
        rw [hline] at hfold
        obtain ⟨e, hparse, -, hid, hparent, rfl⟩ := (h.onLine hst _ _ _).mp hline
        obtain ⟨fs, hfs, hlineage, hlast⟩ := (ih _ _ _ (h.advance hst _ e)).1 st' hfold
        rw [hids] at hlineage
        refine ⟨e :: fs, parseLines_cons.mpr ⟨e, fs, hparse, hfs, rfl⟩, ⟨hid, hparent, hlineage⟩, ?_⟩
        have hlength : pos + (frame lf (line :: lines)).length =
            pos + line.length + 1 + (frame lf lines).length := by
          rw [frame_cons, List.length_append, List.length_cons]
          omega
        rwa [hlength, List.append_cons]
    · intro entries hentries hlineage hmany
      obtain ⟨e, fs, hparse, hfs, rfl⟩ := parseLines_cons.mp hentries
      obtain ⟨hid, hparent, hlineage⟩ := hlineage
      rw [List.length_cons, Nat.add_comm fs.length, ← Nat.add_assoc] at hmany
      have hone : exceeds limits.maxEntries (es.length + 1) = false :=
        exceeds_false_of_le (Nat.le_add_right _ _) hmany
      rw [LineRules.foldLines, (h.onLine hst _ _ _).mpr ⟨e, hparse, hone, hid, hparent, rfl⟩]
      refine (ih _ _ _ (h.advance hst _ e)).2 fs hfs ?_ ?_
      · rwa [hids]
      · rwa [List.length_append]

variable {lines : List Bytes} {start st : σ}

theorem ReadsRecords.of_ok (h : ReadsRecords cfg limits R I next) (hstart : I 0 [] start)
    (hfold : R.foldLines 0 start lines = .ok st) :
    ∃ es, parseLines cfg.sax cfg.path lines = .ok es ∧ WellLinked es ∧
      I (frame lf lines).length es st := by
  obtain ⟨es, hes, hlineage, hlast⟩ := (h.foldLines lines 0 [] start hstart).1 st hfold
  rw [Nat.zero_add] at hlast
  exact ⟨es, hes, wellLinked_iff.mpr hlineage, hlast⟩

theorem ReadsRecords.ok (h : ReadsRecords cfg limits R I next) (start : σ) (hstart : I 0 [] start)
    (hes : parseLines cfg.sax cfg.path lines = .ok entries) (hlinked : WellLinked entries)
    (hroom : exceeds limits.maxEntries entries.length = false) :
    ∃ st, R.foldLines 0 start lines = .ok st ∧ I (frame lf lines).length entries st := by
  obtain ⟨st, hst⟩ := (h.foldLines lines 0 [] start hstart).2 entries hes
    (wellLinked_iff.mp hlinked) (by rwa [List.length_nil, Nat.zero_add])
  obtain ⟨es, hes', -, hlast⟩ := h.of_ok hstart hst
  rw [hes] at hes'
  cases hes'
  exact ⟨st, hst, hlast⟩

end

/-- The torn-tail scan, in the state its position and its records give. -/
theorem tornRules_reads : ReadsRecords cfg limits (tornRules cfg limits)
    (fun pos es st => st =
      { entryIds := (es.map SessionEntry.id).toFinset, entryCount := es.length
        lastValidatedNewline := pos })
    (fun stop st e =>
      { entryIds := insert e.id st.entryIds, entryCount := st.entryCount + 1
        lastValidatedNewline := stop }) where
  onLine := by
    rintro pos es st rfl stop line st'
    exact tornLine_eq_ok_iff
  advance := by
    rintro pos es st rfl stop e
    simp

variable {unreadable : Error} {io : RecoverIo} {content : Bytes}

/-- A scan that starts with an empty buffer at the start of the file. -/
theorem scanFile_eq_ok_iff {σ : Type} (hreads : ∀ r ∈ io.reads, r ≠ 0)
    {rules : LineRules UInt8 σ Error} {start s : σ} :
    scanFile unreadable io rules start content = .ok (line, s) ↔
      rules.AllFit (unframe rules.sep content) ∧ line = (unframe rules.sep content).2 ∧
      rules.foldLines 0 start (unframe rules.sep content).1 = .ok s := by
  unfold scanFile
  rw [chunkedFold_eq_foldFrom (by decide) _ _ _ _ _ _ _ (Nat.le_refl _) hreads]
  have hscan := rules.scan_eq_ok_iff content [] 0 start line s List.not_mem_nil
    (fun k hk => absurd hk (Nat.not_lt_zero k))
  rwa [List.length_nil, Nat.add_zero, List.nil_append] at hscan

/-- The same in one direction when reads may come back empty. -/
theorem scanFile_eq_ok {σ : Type} {rules : LineRules UInt8 σ Error} {start s : σ}
    (h : scanFile unreadable io rules start content = .ok (line, s)) :
    line = (unframe rules.sep content).2 ∧
      rules.foldLines 0 start (unframe rules.sep content).1 = .ok s := by
  have hfold := foldFrom_of_chunkedFold (Nat.le_refl _) h
  have hscan := rules.scan_eq_ok_iff content [] 0 start line s List.not_mem_nil
    (fun k hk => absurd hk (Nat.not_lt_zero k))
  rw [List.length_nil, Nat.add_zero, List.nil_append] at hscan
  exact (hscan.mp hfold).2

/-! ## §5. What the torn-tail repair can do to a file. -/

/-- Every way `recover_torn_tail` can leave the file: as it was, with a newline after a final
    record that parses, or without a final suffix that is no JSON. -/
inductive TornEffect (cfg : StoreConfig) (content : Bytes) : RecoverOutcome (Option Bytes) → Prop
  | unchanged (quarantined : Option Bytes) (result : Result (Option Bytes)) :
      TornEffect cfg content { content, quarantined, result }
  | completed (entry : SessionEntry) (result : Result (Option Bytes))
      (hopen : (unframe lf content).2 ≠ [])
      (hrecord : parseStrictSessionRecord cfg.sax (unframe lf content).2 cfg.path true = .ok entry) :
      TornEffect cfg content { content := content ++ [lf], result }
  | truncated (result : Result (Option Bytes)) (hopen : (unframe lf content).2 ≠ [])
      (hinvalid : validateStrictJson cfg.sax (unframe lf content).2 maxNestingDepth = .invalid) :
      TornEffect cfg content
        { content := frame lf (unframe lf content).1
          quarantined := some (unframe lf content).2, result }

theorem completeTail_effect (io : RecoverIo) {entry : SessionEntry}
    (hopen : (unframe lf content).2 ≠ [])
    (hrecord : parseStrictSessionRecord cfg.sax (unframe lf content).2 cfg.path true = .ok entry) :
    TornEffect cfg content (completeTail io content) := by
  unfold completeTail
  cases io.beforeRepair with
  | some e => exact .unchanged none (.error e)
  | none =>
    cases io.change with
    | some e => exact .unchanged none (.error e)
    | none => exact .completed entry _ hopen hrecord

theorem quarantineTail_effect (io : RecoverIo) (hopen : (unframe lf content).2 ≠ [])
    (hinvalid : validateStrictJson cfg.sax (unframe lf content).2 maxNestingDepth = .invalid) :
    TornEffect cfg content
      (quarantineSuffix io content (frame lf (unframe lf content).1).length (unframe lf content).2
        0 some) := by
  unfold quarantineSuffix
  rw [take_frame_unframe]
  cases io.beforeRepair with
  | some e => exact .unchanged none (.error e)
  | none =>
    cases io.quarantine with
    | error e => exact .unchanged none (.error e)
    | ok path =>
      cases io.afterQuarantine with
      | some e => exact .unchanged _ (.error e)
      | none =>
        cases io.change with
        | some e => exact .unchanged _ (.error e)
        | none => exact .truncated _ hopen hinvalid

/-- What a finished torn-tail scan has established. -/
theorem tornScan_eq_ok
    (h : scanFile unreadable io (tornRules cfg limits) {} content = .ok (line, st)) :
    line = (unframe lf content).2 ∧
      st.lastValidatedNewline = (frame lf (unframe lf content).1).length := by
  obtain ⟨hline, hfold⟩ := scanFile_eq_ok h
  obtain ⟨entries, -, -, rfl⟩ := tornRules_reads.of_ok rfl hfold
  exact ⟨hline, rfl⟩

theorem repairTail_effect (limits : SessionReadLimits) (io : RecoverIo)
    (hline : line = (unframe lf content).2)
    (hlast : st.lastValidatedNewline = (frame lf (unframe lf content).1).length) :
    TornEffect cfg content (repairTail cfg limits io content line st) := by
  subst hline
  unfold repairTail
  split
  next => exact .unchanged none (.ok none)
  next hempty =>
    have hopen : (unframe lf content).2 ≠ [] := by
      intro hnil
      rw [hnil] at hempty
      exact hempty rfl
    split
    next =>
      split
      next e _ => exact .unchanged none (.error e)
      next entry hrecord =>
        split
        next e _ => exact .unchanged none (.error e)
        next => exact completeTail_effect io hopen hrecord
    next hinvalid =>
      rw [hlast]
      exact quarantineTail_effect io hopen hinvalid
    next => exact .unchanged none _

/-- **ONE TORN-TAIL REPAIR**, whatever the system answers. -/
theorem recoverTornTail_effect (cfg : StoreConfig) (lease : SessionLease)
    (limits : SessionReadLimits) (io : RecoverIo) (content : Bytes) :
    TornEffect cfg content (recoverTornTail cfg lease limits io content) := by
  unfold recoverTornTail
  split
  next e _ => exact .unchanged none (.error e)
  split
  next => exact .unchanged none (.ok none)
  split
  next e _ => exact .unchanged none (.error e)
  next line st hscan =>
    obtain ⟨hline, hlast⟩ := tornScan_eq_ok hscan
    exact repairTail_effect limits io hline hlast

/-- A file that is empty or ends with a newline is left alone. -/
theorem recoverTornTail_framed {lease : SessionLease}
    (hframed : content = [] ∨ content.getLast? = some lf) :
    (recoverTornTail cfg lease limits io content).content = content ∧
      (recoverTornTail cfg lease limits io content).quarantined = none := by
  unfold recoverTornTail
  cases recoveryRefusal cfg lease limits io tornTexts content with
  | some e => exact ⟨rfl, rfl⟩
  | none =>
    rw [← List.isEmpty_iff] at hframed
    dsimp only
    rw [if_pos hframed]
    exact ⟨rfl, rfl⟩

/-- No terminated record is removed or altered. -/
theorem TornEffect.keeps_lines {out : RecoverOutcome (Option Bytes)}
    (h : TornEffect cfg content out) :
    (unframe lf content).1 <+: (unframe lf out.content).1 := by
  have hfree := unframe_sep_free lf content
  cases h with
  | unchanged quarantined result => exact List.prefix_refl _
  | completed entry result hopen hrecord =>
    rw [unframe_append]
    exact List.prefix_append _ _
  | truncated result hopen hinvalid =>
    have hframe := unframe_frame (t := []) List.not_mem_nil hfree.1
    rw [List.append_nil] at hframe
    rw [hframe]

/-! ## §6. A torn append is repaired. -/

/-- The limits a repair enforces on a file of `count` records: its size, and for every line the
    read limit and one octet less than `kMaxSessionLineBytes`. -/
def WithinRecovery (limits : SessionReadLimits) (content : Bytes) (count : Nat) : Prop :=
  exceeds limits.maxFileBytes content.length = false ∧
  (∀ line ∈ (unframe lf content).1 ++ [(unframe lf content).2],
    line.length ≤ limits.maxLineBytes ∧ line.length < maxSessionLineBytes) ∧
  exceeds limits.maxEntries count = false

instance (limits : SessionReadLimits) (content : Bytes) (count : Nat) :
    Decidable (WithinRecovery limits content count) :=
  inferInstanceAs (Decidable (_ ∧ _ ∧ _))

theorem recoveryLineFull_false_iff :
    recoveryLineFull limits line = false ↔
      line.length < limits.maxLineBytes ∧ line.length + 1 < maxSessionLineBytes := by
  unfold recoveryLineFull
  simp

/-- A line within the limits finds room in the scan buffer. -/
theorem fits_of_length (h : line.length ≤ limits.maxLineBytes ∧ line.length < maxSessionLineBytes) :
    (tornRules cfg limits).Fits line ∧ (stagedRules cfg limits).Fits line := by
  have hfull : ∀ k < line.length, recoveryLineFull limits (line.take k) = false := by
    intro k hk
    rw [recoveryLineFull_false_iff, List.length_take]
    omega
  exact ⟨hfull, hfull⟩

/-- A repair whose lease and options are in order and during which nothing fails. -/
structure Repairable (cfg : StoreConfig) (lease : SessionLease) (limits : SessionReadLimits)
    (io : RecoverIo) : Prop where
  limits : validateReadLimits limits = .ok ()
  sessionId : validateSessionId cfg.sessionId = .ok ()
  active : lease.active = true
  named : lease.canonicalPath ≠ []
  path : cfg.canonicalPath = lease.canonicalPath
  readable : ∀ r ∈ io.reads, r ≠ 0
  beforeScan : io.beforeScan = none
  beforeRepair : io.beforeRepair = none
  quarantine : ∃ path, io.quarantine = .ok path
  afterQuarantine : io.afterQuarantine = none
  change : io.change = none
  afterChange : io.afterChange = none

theorem Repairable.no_refusal {lease : SessionLease} (h : Repairable cfg lease limits io)
    (texts : RecoveryTexts) (hsize : exceeds limits.maxFileBytes content.length = false) :
    recoveryRefusal cfg lease limits io texts content = none := by
  unfold recoveryRefusal
  have hnamed : lease.canonicalPath.isEmpty = false := by
    simpa using h.named
  simp [h.limits, h.sessionId, h.active, hnamed, h.path, h.beforeScan, hsize]

section

variable {cfg : StoreConfig} {lease : SessionLease} {limits : SessionReadLimits} {io : RecoverIo}

/-- The state of the torn-tail scan after these records. -/
def tornScanOf (lines : List Bytes) (entries : List SessionEntry) : TornScan where
  entryIds := (entries.map SessionEntry.id).toFinset
  entryCount := entries.length
  lastValidatedNewline := (frame lf lines).length

/-- Without faults an invalid tail is moved to quarantine. -/
theorem repairTail_invalid (h : Repairable cfg lease limits io) (hne : line ≠ [])
    (hinvalid : validateStrictJson cfg.sax line maxNestingDepth = .invalid) :
    ∃ path, repairTail cfg limits io content line st =
      { content := content.take st.lastValidatedNewline, quarantined := some line
        result := .ok (some path) } := by
  obtain ⟨path, hpath⟩ := h.quarantine
  refine ⟨path, ?_⟩
  unfold repairTail
  rw [if_neg (by simpa using hne), hinvalid]
  simp [quarantineSuffix, h.beforeRepair, hpath, h.afterQuarantine, h.change, h.afterChange]

/-- Without faults a whole final record gets its newline. -/
theorem repairTail_valid (h : Repairable cfg lease limits io) {lines : List Bytes}
    {record : SessionEntry} (hne : line ≠ [])
    (hrecord : ∀ fin, parseStrictSessionRecord cfg.sax line cfg.path fin = .ok record)
    (hcount : exceeds limits.maxEntries (entries.length + 1) = false)
    (hlinked : WellLinked (entries ++ [record])) :
    repairTail cfg limits io content line (tornScanOf lines entries) =
      { content := content ++ [lf], result := .ok none } := by
  have hvalid := (parseStrictSessionRecord_eq_ok_iff.mp (hrecord true)).1
  have hlineage := wellLinked_iff.mp hlinked
  rw [lineageFrom_append, Finset.empty_union] at hlineage
  obtain ⟨-, hid, hparent, -⟩ := hlineage
  obtain ⟨st', hintegrity⟩ : ∃ st', validateEntryIntegrity cfg.path limits
      (tornScanOf lines entries) record = .ok st' :=
    ⟨_, validateEntryIntegrity_eq_ok_iff.mpr ⟨hcount, hid, hparent, rfl⟩⟩
  unfold repairTail
  rw [if_neg (by simpa using hne), hvalid, hrecord true]
  dsimp only
  rw [hintegrity]
  simp [completeTail, h.beforeRepair, h.change, h.afterChange]

end

/-- The pieces of terminated lines followed by an open run. -/
theorem unframe_framed_append {F p : Bytes} (hframed : (unframe lf F).2 = []) (hp : lf ∉ p) :
    unframe lf (F ++ p) = ((unframe lf F).1, p) := by
  rw [unframe_append, hframed, List.nil_append, unframe_tail hp, List.append_nil]

/-- The pieces of terminated lines alone. -/
theorem frame_of_framed {F : Bytes} (hframed : (unframe lf F).2 = []) :
    frame lf (unframe lf F).1 = F := by
  have hF := frame_unframe lf F
  rwa [hframed, List.append_nil] at hF

theorem WellLinked.of_append {es fs : List SessionEntry} (h : WellLinked (es ++ fs)) :
    WellLinked es := by
  rw [wellLinked_iff, lineageFrom_append] at h
  exact wellLinked_iff.mpr h.1

/-- A rendered line starts with a brace. -/
theorem head?_sessionEntryLineText (entry : SessionEntry) :
    (sessionEntryLineText entry).head? = some lbrace := by
  rw [sessionEntryLineText_eq]
  rfl

section

variable {cfg : StoreConfig} {lease : SessionLease} {limits : SessionReadLimits} {io : RecoverIo}
  {F L p : Bytes} {entries : List SessionEntry} {entry record : SessionEntry}
  (hrepair : Repairable cfg lease limits io)

include hrepair

/-- Without faults a framed file is accepted as it is. -/
theorem recoverTornTail_framed_ok (hframed : content = [] ∨ content.getLast? = some lf)
    (hsize : exceeds limits.maxFileBytes content.length = false) :
    recoverTornTail cfg lease limits io content = { content, result := .ok none } := by
  unfold recoverTornTail
  rw [hrepair.no_refusal tornTexts hsize]
  rw [← List.isEmpty_iff] at hframed
  dsimp only
  rw [if_pos hframed]

variable (hframed : (unframe lf F).2 = [])
  (hrecords : parseLines cfg.sax cfg.path (unframe lf F).1 = .ok entries)

include hframed hrecords

/-- A file of good records with an open tail goes to `repairTail`. -/
theorem recoverTornTail_open (hlinked : WellLinked entries) (hp : lf ∉ p) (hne : p ≠ [])
    (hwithin : WithinRecovery limits (F ++ p) entries.length) :
    recoverTornTail cfg lease limits io (F ++ p) =
      repairTail cfg limits io (F ++ p) p (tornScanOf (unframe lf F).1 entries) := by
  obtain ⟨hsize, hlines, hcount⟩ := hwithin
  have hpieces := unframe_framed_append hframed hp
  have hnotFramed : ¬ ((F ++ p).isEmpty ∨ (F ++ p).getLast? = some lf) := by
    rw [List.isEmpty_iff, ← unframe_snd_eq_nil_iff, hpieces]
    exact hne
  have hfit : (tornRules cfg limits).AllFit (unframe lf (F ++ p)) := by
    refine ⟨fun l hl => (fits_of_length (hlines l ?_)).1, (fits_of_length (hlines _ ?_)).1⟩
    · exact List.mem_append_left _ hl
    · exact List.mem_append_right _ List.mem_cons_self
  have hfold : (tornRules cfg limits).foldLines 0 {} (unframe lf (F ++ p)).1 =
      .ok (tornScanOf (unframe lf F).1 entries) := by
    rw [hpieces]
    obtain ⟨st, hst, rfl⟩ := tornRules_reads.ok {} rfl hrecords hlinked hcount
    exact hst
  unfold recoverTornTail
  rw [hrepair.no_refusal tornTexts hsize]
  dsimp only
  rw [if_neg hnotFramed, (scanFile_eq_ok_iff hrepair.readable).mpr ⟨hfit, rfl, hfold⟩]
  show repairTail cfg limits io (F ++ p) (unframe lf (F ++ p)).2 _ = _
  rw [hpieces]

/-- A proper prefix of a record line after good records. -/
theorem recoverTornTail_cut (hsax : SaxContract cfg.sax) (hlinked : WellLinked entries)
    (hvalid : validateStrictJson cfg.sax (sessionEntryLineText entry) maxNestingDepth = .valid)
    (honeLine : lf ∉ sessionEntryLineText entry) (hp : p <+: sessionEntryLineText entry)
    (hproper : p ≠ sessionEntryLineText entry) (hne : p ≠ [])
    (hwithin : WithinRecovery limits (F ++ p) entries.length) :
    ∃ path, recoverTornTail cfg lease limits io (F ++ p) =
      { content := F, quarantined := some p, result := .ok (some path) } := by
  have hinvalid : validateStrictJson cfg.sax p maxNestingDepth = .invalid :=
    validateStrictJson_proper_prefix hsax hvalid (head?_sessionEntryLineText entry)
      (getLast?_sessionEntryLineText entry) hp hne hproper
  rw [recoverTornTail_open hrepair hframed hrecords hlinked (fun hmem => honeLine (hp.subset hmem))
    hne hwithin]
  obtain ⟨path, hout⟩ : ∃ path, repairTail cfg limits io (F ++ p) p
      (tornScanOf (unframe lf F).1 entries) =
        { content := (F ++ p).take (tornScanOf (unframe lf F).1 entries).lastValidatedNewline
          quarantined := some p, result := .ok (some path) } :=
    repairTail_invalid hrepair hne hinvalid
  refine ⟨path, ?_⟩
  rw [hout]
  have hkeep : (F ++ p).take (tornScanOf (unframe lf F).1 entries).lastValidatedNewline = F := by
    show (F ++ p).take (frame lf (unframe lf F).1).length = F
    rw [frame_of_framed hframed, List.take_left]
  rw [hkeep]

/-- A whole record line without its newline after good records. -/
theorem recoverTornTail_whole
    (hrecord : ∀ fin, parseStrictSessionRecord cfg.sax L cfg.path fin = .ok record)
    (hlinked : WellLinked (entries ++ [record])) (honeLine : lf ∉ L) (hne : L ≠ [])
    (hwithin : WithinRecovery limits (F ++ L) (entries.length + 1)) :
    recoverTornTail cfg lease limits io (F ++ L) =
      { content := F ++ (L ++ [lf]), result := .ok none } := by
  have hfewer : WithinRecovery limits (F ++ L) entries.length :=
    ⟨hwithin.1, hwithin.2.1, exceeds_false_of_le (Nat.le_succ _) hwithin.2.2⟩
  rw [recoverTornTail_open hrepair hframed hrecords hlinked.of_append honeLine hne hfewer,
    repairTail_valid hrepair hne hrecord hwithin.2.2 hlinked, List.append_assoc]

end

/-- **A TORN APPEND IS REPAIRED.**  A file of well-linked records, then any prefix `p` of one more
    record line and its newline: a proper prefix of the line is removed and, unless empty,
    found in quarantine; the whole line is completed; a completed line is left alone.  No
    repair of any file removes or alters a terminated line, and a second run does nothing. -/
theorem recoverTornTail_torn_append {cfg : StoreConfig} (hsax : SaxContract cfg.sax)
    {lease : SessionLease} {limits : SessionReadLimits} {io : RecoverIo}
    (hrepair : Repairable cfg lease limits io) {F L p : Bytes} {entries : List SessionEntry}
    {entry record : SessionEntry}
    (hframed : (unframe lf F).2 = [])
    (hrecords : parseLines cfg.sax cfg.path (unframe lf F).1 = .ok entries)
    (hline : serializeSessionEntryLine entry = .ok L) (honeLine : lf ∉ L)
    (hrecord : parseStrictSessionRecord cfg.sax L cfg.path false = .ok record)
    (hlinked : WellLinked (entries ++ [record])) (hp : p <+: L ++ [lf])
    (hwithin : WithinRecovery limits (F ++ p)
      (entries.length + if p.length < L.length then 0 else 1)) :
    (p <+: L → p ≠ L →
      (recoverTornTail cfg lease limits io (F ++ p)).content = F ∧
      (recoverTornTail cfg lease limits io (F ++ p)).quarantined =
        (if p = [] then none else some p) ∧
      (recoverTornTail cfg lease limits io (F ++ p)).result.isOk = true) ∧
    (p = L ∨ p = L ++ [lf] →
      recoverTornTail cfg lease limits io (F ++ p) =
        { content := F ++ (L ++ [lf]), result := .ok none }) ∧
    (∀ io' content, (unframe lf content).1 <+:
      (unframe lf (recoverTornTail cfg lease limits io' content).content).1) ∧
    (∀ io', (recoverTornTail cfg lease limits io'
          (recoverTornTail cfg lease limits io (F ++ p)).content).content =
        (recoverTornTail cfg lease limits io (F ++ p)).content ∧
      (recoverTornTail cfg lease limits io'
        (recoverTornTail cfg lease limits io (F ++ p)).content).quarantined = none) := by
  obtain ⟨hver, hshort, rfl⟩ := serializeSessionEntryLine_eq_ok_iff.mp hline
  have hF : F = [] ∨ F.getLast? = some lf := (unframe_snd_eq_nil_iff lf F).mp hframed
  have hnonempty : sessionEntryLineText entry ≠ [] := by
    rw [sessionEntryLineText_eq]
    exact List.cons_ne_nil _ _
  have hends : (F ++ (sessionEntryLineText entry ++ [lf])).getLast? = some lf := by
    rw [← List.append_assoc, List.getLast?_append]
    rfl
  have hvalid := (parseStrictSessionRecord_eq_ok_iff.mp hrecord).1
  have hrecord' : ∀ fin, parseStrictSessionRecord cfg.sax (sessionEntryLineText entry) cfg.path fin
      = .ok record := by
    intro fin
    rw [parseStrictSessionRecord_eq_ok_iff] at hrecord ⊢
    exact hrecord
  have hcut : p <+: sessionEntryLineText entry → p ≠ sessionEntryLineText entry →
      (recoverTornTail cfg lease limits io (F ++ p)).content = F ∧
      (recoverTornTail cfg lease limits io (F ++ p)).quarantined =
        (if p = [] then none else some p) ∧
      (recoverTornTail cfg lease limits io (F ++ p)).result.isOk = true := by
    intro hpL hproper
    have hlt : p.length < (sessionEntryLineText entry).length :=
      lt_of_le_of_ne hpL.length_le fun hlen => hproper (hpL.eq_of_length hlen)
    rw [if_pos hlt, Nat.add_zero] at hwithin
    by_cases hne : p = []
    · subst hne
      rw [List.append_nil] at hwithin ⊢
      rw [recoverTornTail_framed_ok hrepair hF hwithin.1]
      exact ⟨rfl, rfl, rfl⟩
    · obtain ⟨path, hout⟩ := recoverTornTail_cut hrepair hframed hrecords hsax hlinked.of_append
        hvalid honeLine hpL hproper hne hwithin
      rw [hout, if_neg hne]
      exact ⟨rfl, rfl, rfl⟩
  have hwhole : p = sessionEntryLineText entry ∨ p = sessionEntryLineText entry ++ [lf] →
      recoverTornTail cfg lease limits io (F ++ p) =
        { content := F ++ (sessionEntryLineText entry ++ [lf]), result := .ok none } := by
    intro h
    obtain rfl | rfl := h
    · rw [if_neg (Nat.lt_irrefl _)] at hwithin
      exact recoverTornTail_whole hrepair hframed hrecords hrecord' hlinked honeLine hnonempty
        hwithin
    · exact recoverTornTail_framed_ok hrepair (.inr hends) hwithin.1
  refine ⟨hcut, hwhole, fun io' content => (recoverTornTail_effect _ _ _ _ _).keeps_lines, ?_⟩
  intro io'
  -- whichever case applies, the repaired file ends with a newline or is empty
  refine recoverTornTail_framed ?_
  obtain heq | hpL := List.prefix_concat_iff.mp hp
  · rw [hwhole (.inr heq)]
    exact .inr hends
  · by_cases hproper : p = sessionEntryLineText entry
    · rw [hwhole (.inl hproper)]
      exact .inr hends
    · rw [(hcut hpL hproper).1]
      exact hF

/-- A second message that names the first as its parent. -/
def replyEntry : SessionEntry := { plainEntry with id := ascii "e2", parentId := ascii "e1" }

/-- The second line cut inside its id. -/
def cutLine : Bytes := (sessionEntryLineText replyEntry).take 20

/-- What the external parser reports on the two lines and on the cut one, which ends inside a
    string; it is asked about no other text. -/
def cutLineSax : SaxParser := fun value =>
  if value = sessionEntryLineText plainEntry ∨ value = sessionEntryLineText replyEntry then
    { events := envelopeEvents ++ [.startObject, .endObject, .endObject], ok := true }
  else if value = cutLine then { events := envelopeEvents.take 4, ok := false }
  else { events := [], ok := false }

def cutLineStore : StoreConfig := { twoLineStore with sax := cutLineSax }

theorem cutLineSax_contract : SaxContract cutLineSax := by
  have hlines : ∀ v, (cutLineSax v).ok = true →
      v = sessionEntryLineText plainEntry ∨ v = sessionEntryLineText replyEntry := by
    intro v hv
    unfold cutLineSax at hv
    split at hv
    next h => exact h
    next => split at hv <;> cases hv
  constructor
  · intro v _ hv
    obtain rfl | rfl := hlines v hv
    · have hobject : validObject 8 (sessionEntryLineText plainEntry) = true := by decide
      exact validObject_sound hobject
    · have hobject : validObject 8 (sessionEntryLineText replyEntry) = true := by decide
      exact validObject_sound hobject
  · intro v w _ hw
    have hevents : (cutLineSax w).events =
        envelopeEvents ++ [.startObject, .endObject, .endObject] := by
      unfold cutLineSax
      rw [if_pos (hlines w hw)]
    rw [hevents]
    unfold cutLineSax
    split
    next => exact List.prefix_refl _
    split
    next => exact (List.take_prefix _ _).trans (List.prefix_append _ _)
    next => exact List.nil_prefix

/-- The torn second line is cut off and saved, and the first record stays. -/
theorem recoverTornTail_torn_append_cut :
    let F := sessionEntryLineText plainEntry ++ [lf]
    let out := recoverTornTail cutLineStore twoLineLease legacyUnboundedSessionReadLimits {}
      (F ++ cutLine)
    out.content = F ∧ out.quarantined = some cutLine := by
  have hrepair : Repairable cutLineStore twoLineLease legacyUnboundedSessionReadLimits {} :=
    ⟨by decide, by decide, rfl, by decide, rfl, by simp, rfl, rfl,
      ⟨_, rfl⟩, rfl, rfl, rfl⟩
  have hrecords : parseLines cutLineStore.sax cutLineStore.path
      (unframe lf (sessionEntryLineText plainEntry ++ [lf])).1 = .ok [plainEntry] := by
    decide
  have hline : serializeSessionEntryLine replyEntry = .ok (sessionEntryLineText replyEntry) := by
    decide
  have hrecord : parseStrictSessionRecord cutLineStore.sax (sessionEntryLineText replyEntry)
      cutLineStore.path false = .ok replyEntry := by
    decide
  have hcut : cutLine <+: sessionEntryLineText replyEntry := List.take_prefix _ _
  have htorn := recoverTornTail_torn_append cutLineSax_contract hrepair (by decide)
    hrecords hline (by decide) hrecord (by decide)
    (hcut.trans (List.prefix_append _ _)) (by decide)
  obtain ⟨hcontent, hquarantined, -⟩ := htorn.1 hcut (by decide)
  exact ⟨hcontent, hquarantined⟩

end Ava.Session
