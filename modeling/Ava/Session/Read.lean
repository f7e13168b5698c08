/-
  Ava.Session.Read
  **READING A SESSION FILE** (`session/session_store_read.cpp`, `session/session_store.cpp`).

  One loop reads every kind of snapshot: octet by octet, a line buffer, a record counter, and
  a decoder that runs at each newline and once more at the end when octets are left over.
  The 8 KiB read buffer only cuts the same octets into calls, so the loop runs over the
  content as a whole.

    - §1 limits; §2 the loop `visitSnapshot` and the three loads built on it;
    - §3 `visitSnapshot_eq_ok_iff` : the loop reads the terminated lines and the open tail;
    - §4 `loadBounded_eq_ok_iff` : a bounded strict load is the strict record list, or fails;
    - §5 `recoverable_load_iff` : what a recoverable load leaves out.
-/
import Ava.Lib.Framing
import Ava.Session.Record

namespace Ava.Session

open Ava.Core Ava.Core.Json Ava.Lib

/-! ## §1. Limits. -/

/-- `SessionReadLimits`.  `none` is `numeric_limits<size_t>::max()`, which no file size and no
    record count exceeds. -/
structure SessionReadLimits where
  maxFileBytes : Option Nat := some (8 * 1024 * 1024)
  maxLineBytes : Nat := 1024 * 1024
  maxEntries : Option Nat := some 16384
deriving Repr, DecidableEq

/-- `n > limit`. -/
def exceeds (limit : Option Nat) (n : Nat) : Bool := limit.any (· < n)

/-- `legacy_unbounded_session_read_limits`. -/
def legacyUnboundedSessionReadLimits : SessionReadLimits :=
  { maxFileBytes := none, maxLineBytes := maxSessionLineBytes, maxEntries := none }

/-- `validate_read_limits`. -/
def validateReadLimits (limits : SessionReadLimits) : Result Unit :=
  if limits.maxFileBytes = some 0 ∨ limits.maxLineBytes = 0 ∨ limits.maxEntries = some 0 ∨
      exceeds limits.maxFileBytes limits.maxLineBytes ∨
      maxSessionLineBytes < limits.maxLineBytes then
    .error { category := .invalidArgument
             message := ascii "session bounded read limits are invalid" }
  else .ok ()

/-- `validate_session_id`. -/
def validateSessionId (sessionId : Bytes) : Result Unit :=
  let invalid : Error := { category := .invalidArgument, message := ascii "invalid session id" }
  if sessionId.isEmpty ∨ sessionId = ascii "." ∨ sessionId = ascii ".." then
    .error (invalid.withContext "reason" (ascii "empty or reserved path segment"))
  else if hasSeparatorOrControl sessionId then
    .error (invalid.withContext "reason" (ascii "contains a path separator or control character"))
  else .ok ()

/-- Limit errors of the read loop. -/
def entryCountError (limits : SessionReadLimits) : Error :=
  (sessionError "session entry count exceeds bounded read limit").withContext "max_entries"
    (decimal (limits.maxEntries.getD 0))

def lineLimitError (path : Bytes) (limits : SessionReadLimits) : Error :=
  ((sessionError "session line exceeds bounded read limit")
    |>.withContext "path" path)
    |>.withContext "max_line_bytes" (decimal limits.maxLineBytes)

def fileLimitError (path : Bytes) (limits : SessionReadLimits) : Error :=
  ((sessionError "session file exceeds bounded read limit")
    |>.withContext "path" path)
    |>.withContext "max_file_bytes" (decimal (limits.maxFileBytes.getD 0))

/-! ## §2. The loop. -/

inductive SnapshotDecoding where
  | strict | compatibility
deriving Repr, DecidableEq

/-- The arguments of `visit_session_snapshot_fd` that stay fixed during one read. -/
structure SnapshotReader where
  sax : SaxParser
  path : Bytes
  limits : SessionReadLimits
  tolerateInvalidFinalSuffix : Bool := false
  decoding : SnapshotDecoding := .strict

/-- `consume_line`.  `none` is the tolerated invalid final suffix, which ends the read. -/
def consumeLine (r : SnapshotReader) (line : Bytes) (finalUnterminated : Bool) (count : Nat) :
    Result (Option SessionEntry) :=
  let line :=
    if r.decoding = .compatibility ∧ line.getLast? = some cr then line.dropLast else line
  let status := match r.decoding with
    | .strict => validateStrictJson r.sax line maxNestingDepth
    | .compatibility => .valid
  if r.tolerateInvalidFinalSuffix ∧ finalUnterminated ∧ status = .invalid then .ok none
  else if status ≠ .valid then .error (strictSessionRecordError status r.path finalUnterminated)
  else if exceeds r.limits.maxEntries (count + 1) then .error (entryCountError r.limits)
  else
    match r.decoding with
    | .strict => (parseStrictSessionRecord r.sax line r.path finalUnterminated).map some
    | .compatibility => (parseSessionEntryLine line r.path).map some

/-- `visit_session_snapshot_fd` with the visitor that collects every record. -/
def visitSnapshot (r : SnapshotReader) : Bytes → Nat → Bytes → Result (List SessionEntry)
  | line, count, [] =>
    if line.isEmpty then .ok [] else (consumeLine r line true count).map Option.toList
  | line, count, c :: rest =>
    if c = lf then
      match consumeLine r line false count with
      | .error e => .error e
      | .ok none => .ok []
      | .ok (some entry) => (visitSnapshot r [] (count + 1) rest).map (entry :: ·)
    else if r.limits.maxLineBytes ≤ line.length then .error (lineLimitError r.path r.limits)
    else visitSnapshot r (line ++ [c]) count rest

/-- `load_bounded` of a persistent store: the content is that of the opened (or leased) file. -/
def loadBounded (sax : SaxParser) (path : Bytes) (limits : SessionReadLimits) (content : Bytes) :
    Result (List SessionEntry) :=
  match validateReadLimits limits with
  | .error e => .error e
  | .ok () =>
    if exceeds limits.maxFileBytes content.length then .error (fileLimitError path limits)
    else visitSnapshot { sax, path, limits } [] 0 content

/-- `load_recoverable_prefix_bounded`: as above, an invalid final suffix being dropped. -/
def loadRecoverablePrefixBounded (sax : SaxParser) (path : Bytes) (limits : SessionReadLimits)
    (content : Bytes) : Result (List SessionEntry) :=
  match validateReadLimits limits with
  | .error e => .error e
  | .ok () =>
    if exceeds limits.maxFileBytes content.length then .error (fileLimitError path limits)
    else visitSnapshot { sax, path, limits, tolerateInvalidFinalSuffix := true } [] 0 content

/-- `load` of a persistent store: compatibility decoding, and only the line limit. -/
def load (sax : SaxParser) (path content : Bytes) : Result (List SessionEntry) :=
  visitSnapshot
    { sax, path, decoding := .compatibility
      limits := { maxFileBytes := none, maxLineBytes := maxSessionLineBytes - 1,
                  maxEntries := none } } [] 0 content

/-- The byte policy of the ephemeral branch of `visit_entries`: the records as lines. -/
def ephemeralBytesWithin (limits : SessionReadLimits) : Nat → List SessionEntry → Result Unit
  | _, [] => .ok ()
  | total, entry :: entries =>
    match serializeSessionEntryLine entry with
    | .error e => .error e
    | .ok line =>
      if limits.maxLineBytes < line.length then
        .error ((sessionError "session line exceeds bounded read limit").withContext
          "max_line_bytes" (decimal limits.maxLineBytes))
      else if exceeds limits.maxFileBytes (total + (line.length + 1)) then
        .error ((sessionError "session file exceeds bounded read limit").withContext
          "max_file_bytes" (decimal (limits.maxFileBytes.getD 0)))
      else ephemeralBytesWithin limits (total + (line.length + 1)) entries

/-- `load_bounded` of an ephemeral store. -/
def loadBoundedEphemeral (limits : SessionReadLimits) (entries : List SessionEntry) :
    Result (List SessionEntry) :=
  match validateReadLimits limits with
  | .error e => .error e
  | .ok () =>
    if exceeds limits.maxEntries entries.length then
      .error (sessionError "session entry count exceeds bounded read limit")
    else
      match ephemeralBytesWithin limits 0 entries with
      | .error e => .error e
      | .ok () => .ok entries

/-! ## §3. The loop reads the terminated lines and the open tail. -/

/-- A map over an `Except` is a success exactly when the value is. -/
theorem map_eq_ok_iff {α β : Type} {x : Result α} {f : α → β} {b : β} :
    x.map f = .ok b ↔ ∃ a, x = .ok a ∧ f a = b := by
  cases x with
  | error e | ok a => simp [Except.map]

/-- What the loop does, said over the pieces instead of the octets. -/
def readPieces (r : SnapshotReader) : Nat → List Bytes → Bytes → Result (List SessionEntry)
  | count, [], tail =>
    if tail.isEmpty then .ok [] else (consumeLine r tail true count).map Option.toList
  | count, line :: lines, tail =>
    match consumeLine r line false count with
    | .error e => .error e
    | .ok none => .ok []
    | .ok (some entry) => (readPieces r (count + 1) lines tail).map (entry :: ·)

variable {r : SnapshotReader}

/-- The strict reader keeps a record it can parse while the count allows one more. -/
theorem consumeLine_strict (hdec : r.decoding = .strict)
    (htol : r.tolerateInvalidFinalSuffix = false) (line : Bytes) (fin : Bool) (count : Nat)
    (o : Option SessionEntry) :
    consumeLine r line fin count = .ok o ↔
      ∃ e, parseStrictSessionRecord r.sax line r.path fin = .ok e ∧
        exceeds r.limits.maxEntries (count + 1) = false ∧ o = some e := by
  unfold consumeLine
  simp only [hdec, htol, reduceCtorEq, false_and, Bool.false_eq_true, if_false]
  by_cases hvalid : validateStrictJson r.sax line maxNestingDepth = .valid
  · rw [if_neg (not_not.mpr hvalid)]
    by_cases hcount : exceeds r.limits.maxEntries (count + 1) = true
    · rw [if_pos hcount]
      simp [hcount]
    · rw [if_neg hcount, map_eq_ok_iff]
      simp [hcount, eq_comm]
  · -- a record the validator rejects is rejected by the record parser as well
    rw [if_pos hvalid]
    constructor
    · intro h
      cases h
    · intro h
      obtain ⟨e, hparse, -⟩ := h
      unfold parseStrictSessionRecord at hparse
      split at hparse
      next heq => exact absurd heq hvalid
      next => cases hparse

/-- Compatibility decoding drops one carriage return and does not validate. -/
theorem consumeLine_compatibility (hdec : r.decoding = .compatibility)
    (line : Bytes) (fin : Bool) (count : Nat) (o : Option SessionEntry) :
    consumeLine r line fin count = .ok o ↔
      ∃ e, parseSessionEntryLine (if line.getLast? = some cr then line.dropLast else line) r.path
          = .ok e ∧
        exceeds r.limits.maxEntries (count + 1) = false ∧ o = some e := by
  unfold consumeLine
  simp only [hdec, true_and, reduceCtorEq, and_false, if_false, ne_eq, not_true_eq_false]
  by_cases hcount : exceeds r.limits.maxEntries (count + 1) = true
  · rw [if_pos hcount]
    simp [hcount]
  · rw [if_neg hcount, map_eq_ok_iff]
    simp [hcount, eq_comm]

/-- Only the final suffix is ever dropped. -/
theorem consumeLine_terminated_ne_none (r : SnapshotReader) (line : Bytes) (count : Nat) :
    consumeLine r line false count ≠ .ok none := by
  intro h
  cases hd : r.decoding with
  | strict =>
    have hnot : consumeLine { r with tolerateInvalidFinalSuffix := false } line false count
        = .ok none := by
      rw [← h]
      simp [consumeLine]
    obtain ⟨e, -, -, hnone⟩ := (consumeLine_strict
      (r := { r with tolerateInvalidFinalSuffix := false }) hd rfl line false count none).mp hnot
    cases hnone
  | compatibility =>
    obtain ⟨e, -, -, hnone⟩ := (consumeLine_compatibility hd line false count none).mp h
    cases hnone

/-- Every piece fits the line limit. -/
def WithinLine (limit : Nat) (pieces : List Bytes × Bytes) : Prop :=
  (∀ l ∈ pieces.1, l.length ≤ limit) ∧ pieces.2.length ≤ limit

theorem withinLine_unframe_cons_lf {limit : Nat} {line rest : Bytes} (hfree : lf ∉ line)
    (hlen : line.length ≤ limit) :
    WithinLine limit (unframe lf (line ++ lf :: rest)) ↔ WithinLine limit (unframe lf rest) := by
  rw [unframe_line _ hfree]
  constructor
  · intro h
    exact ⟨fun l hl => h.1 l (List.mem_cons_of_mem _ hl), h.2⟩
  · intro h
    exact ⟨List.forall_mem_cons.mpr ⟨hlen, h.1⟩, h.2⟩

/-- A piece that starts with too many octets breaks the limit. -/
theorem not_withinLine_of_long {limit : Nat} {line : Bytes} (hfree : lf ∉ line)
    (hlen : limit < line.length) (rest : Bytes) :
    ¬ WithinLine limit (unframe lf (line ++ rest)) := by
  intro h
  rw [unframe_free_append rest hfree] at h
  rcases hu : unframe lf rest with ⟨_ | ⟨l, ls⟩, t⟩ <;> rw [hu] at h
  · have htail : (line ++ t).length ≤ limit := h.2
    rw [List.length_append] at htail
    omega
  · have hline : (line ++ l).length ≤ limit := h.1 _ List.mem_cons_self
    rw [List.length_append] at hline
    omega

/-- **THE READ LOOP READS THE PIECES.**  The line buffer holds the start of the current piece:
    the octets read so far together with the rest of the file have the pieces of the file. -/
theorem visitSnapshot_eq_ok_iff (r : SnapshotReader) :
    ∀ (content line : Bytes) (count : Nat) (H : List SessionEntry), lf ∉ line →
      line.length ≤ r.limits.maxLineBytes →
      (visitSnapshot r line count content = .ok H ↔
        WithinLine r.limits.maxLineBytes (unframe lf (line ++ content)) ∧
        readPieces r count (unframe lf (line ++ content)).1 (unframe lf (line ++ content)).2
          = .ok H) := by
  intro content
  induction content with
  | nil =>
    intro line count H hfree hlen
    rw [List.append_nil, unframe_tail hfree, visitSnapshot, readPieces]
    have hwithin : WithinLine r.limits.maxLineBytes ([], line) :=
      ⟨List.forall_mem_nil _, hlen⟩
    simp [hwithin]
  | cons c rest ih =>
    intro line count H hfree hlen
    rw [visitSnapshot]
    by_cases hc : c = lf
    · subst hc
      rw [if_pos rfl, withinLine_unframe_cons_lf hfree hlen, unframe_line _ hfree]
      simp only [readPieces]
      cases hline : consumeLine r line false count with
      | error e => simp
      | ok o =>
        cases o with
        | none => exact absurd hline (consumeLine_terminated_ne_none r line count)
        | some entry =>
          dsimp only
          simp only [map_eq_ok_iff]
          have hrest := fun H => ih [] (count + 1) H List.not_mem_nil (Nat.zero_le _)
          simp only [List.nil_append] at hrest
          simp only [hrest, and_assoc, exists_and_left]
    · rw [if_neg hc]
      have hfree' : lf ∉ line ++ [c] := by
        simp only [List.mem_append, List.mem_singleton, not_or]
        exact ⟨hfree, fun h => hc h.symm⟩
      have happend : line ++ c :: rest = (line ++ [c]) ++ rest := by simp
      by_cases hlimit : r.limits.maxLineBytes ≤ line.length
      · rw [if_pos hlimit]
        have hlong : r.limits.maxLineBytes < (line ++ [c]).length := by
          rw [List.length_append, List.length_singleton]
          omega
        have hno := not_withinLine_of_long hfree' hlong rest
        rw [← happend] at hno
        simp [hno]
      · rw [if_neg hlimit, happend]
        apply ih _ _ _ hfree'
        rw [List.length_append, List.length_singleton]
        omega

/-! ## §4. The strict record list of a file. -/

/-- The terminated lines, each as a strict record. -/
def parseLines (sax : SaxParser) (path : Bytes) : List Bytes → Result (List SessionEntry)
  | [] => .ok []
  | line :: lines =>
    match parseStrictSessionRecord sax line path false with
    | .error e => .error e
    | .ok entry => (parseLines sax path lines).map (entry :: ·)

/-- Terminated lines as strict records, and an open tail if there is one. -/
def strictPieces (sax : SaxParser) (path : Bytes) (lines : List Bytes) (tail : Bytes) :
    Result (List SessionEntry) :=
  match parseLines sax path lines with
  | .error e => .error e
  | .ok entries =>
    if tail.isEmpty then .ok entries
    else (parseStrictSessionRecord sax tail path true).map (entries ++ [·])

/-- The records the strict reader finds in a file that no limit stops it from reading. -/
def strictRecords (sax : SaxParser) (path content : Bytes) : Result (List SessionEntry) :=
  strictPieces sax path (unframe lf content).1 (unframe lf content).2

theorem exceeds_false_iff {limit : Option Nat} {n : Nat} :
    exceeds limit n = false ↔ ∀ m ∈ limit, n ≤ m := by
  cases limit with
  | none | some m => simp [exceeds]

theorem exceeds_false_of_le {limit : Option Nat} {n k : Nat} (hnk : n ≤ k)
    (h : exceeds limit k = false) : exceeds limit n = false :=
  exceeds_false_iff.2 fun m hm => Nat.le_trans hnk (exceeds_false_iff.1 h m hm)

theorem strictPieces_cons (sax : SaxParser) (path line : Bytes) (lines : List Bytes)
    (tail : Bytes) (H : List SessionEntry) :
    strictPieces sax path (line :: lines) tail = .ok H ↔
      ∃ e K, parseStrictSessionRecord sax line path false = .ok e ∧
        strictPieces sax path lines tail = .ok K ∧ H = e :: K := by
  unfold strictPieces
  simp only [parseLines]
  cases parseStrictSessionRecord sax line path false with
  | error e => simp
  | ok e =>
    dsimp only
    cases parseLines sax path lines with
    | error e' => simp [Except.map]
    | ok entries =>
      simp only [Except.map]
      by_cases htail : tail.isEmpty = true
      · simp [htail, eq_comm]
      · simp only [htail, Bool.false_eq_true, if_false]
        cases parseStrictSessionRecord sax tail path true with
        | error e' => simp
        | ok last => simp [eq_comm]

/-- The strict reader, within its record limit, reads exactly the strict records. -/
theorem readPieces_strict (hdec : r.decoding = .strict)
    (htol : r.tolerateInvalidFinalSuffix = false) (tail : Bytes) :
    ∀ (lines : List Bytes) (count : Nat) (H : List SessionEntry),
      exceeds r.limits.maxEntries count = false →
      (readPieces r count lines tail = .ok H ↔
        strictPieces r.sax r.path lines tail = .ok H ∧
        exceeds r.limits.maxEntries (count + H.length) = false) := by
  intro lines
  induction lines with
  | nil =>
    intro count H hcount
    unfold readPieces strictPieces
    simp only [parseLines]
    by_cases htail : tail.isEmpty = true
    · simp only [htail, if_true, Except.ok.injEq]
      constructor
      · intro h
        subst h
        exact ⟨rfl, hcount⟩
      · exact fun h => h.1
    · simp only [htail, Bool.false_eq_true, if_false, map_eq_ok_iff]
      simp only [consumeLine_strict hdec htol]
      constructor
      · intro h
        obtain ⟨o, ⟨e, hparse, hlimit, rfl⟩, rfl⟩ := h
        exact ⟨⟨e, hparse, rfl⟩, hlimit⟩
      · intro h
        obtain ⟨⟨e, hparse, rfl⟩, hlimit⟩ := h
        exact ⟨some e, ⟨e, hparse, hlimit, rfl⟩, rfl⟩
  | cons line lines ih =>
    intro count H hcount
    rw [strictPieces_cons]
    unfold readPieces
    constructor
    · intro h
      cases hline : consumeLine r line false count with
      | error e => rw [hline] at h; cases h
      | ok o =>
        obtain ⟨e, hparse, hlimit, rfl⟩ := (consumeLine_strict hdec htol _ _ _ _).mp hline
        rw [hline] at h
        obtain ⟨K, hK, rfl⟩ := map_eq_ok_iff.mp h
        obtain ⟨hpieces, hlen⟩ := (ih (count + 1) K hlimit).mp hK
        refine ⟨⟨e, K, hparse, hpieces, rfl⟩, ?_⟩
        rwa [List.length_cons, Nat.add_comm K.length 1, ← Nat.add_assoc]
    · intro h
      obtain ⟨⟨e, K, hparse, hpieces, rfl⟩, hlen⟩ := h
      have hlen' : exceeds r.limits.maxEntries (count + 1 + K.length) = false := by
        rwa [List.length_cons, Nat.add_comm K.length 1, ← Nat.add_assoc] at hlen
      have hlimit : exceeds r.limits.maxEntries (count + 1) = false :=
        exceeds_false_of_le (Nat.le_add_right _ _) hlen'
      have hline := (consumeLine_strict hdec htol line false count (some e)).mpr
        ⟨e, hparse, hlimit, rfl⟩
      rw [hline]
      exact map_eq_ok_iff.mpr ⟨K, (ih (count + 1) K hlimit).mpr ⟨hpieces, hlen'⟩, rfl⟩

/-- What a bounded read asks of a file beside its records. -/
def WithinLimits (limits : SessionReadLimits) (content : Bytes) (count : Nat) : Prop :=
  exceeds limits.maxFileBytes content.length = false ∧
    WithinLine limits.maxLineBytes (unframe lf content) ∧
    exceeds limits.maxEntries count = false

/-- **A BOUNDED LOAD IS THE STRICT RECORD LIST, OR AN ERROR.** -/
theorem loadBounded_eq_ok_iff {sax : SaxParser} {path : Bytes} {limits : SessionReadLimits}
    {content : Bytes} {H : List SessionEntry} (hlimits : validateReadLimits limits = .ok ()) :
    loadBounded sax path limits content = .ok H ↔
      strictRecords sax path content = .ok H ∧ WithinLimits limits content H.length := by
  unfold loadBounded WithinLimits strictRecords
  rw [hlimits]
  dsimp only
  by_cases hfile : exceeds limits.maxFileBytes content.length = true
  · simp [hfile]
  · have hzero : exceeds limits.maxEntries 0 = false :=
      exceeds_false_iff.2 fun m _ => Nat.zero_le m
    rw [if_neg hfile, visitSnapshot_eq_ok_iff _ _ _ _ _ List.not_mem_nil (Nat.zero_le _),
      List.nil_append, readPieces_strict rfl rfl _ _ _ _ hzero, Nat.zero_add]
    simp only [Bool.not_eq_true] at hfile
    simp only [hfile, true_and]
    tauto

/-! ## §5. The recoverable prefix. -/

theorem readPieces_tolerant (hdec : r.decoding = .strict) (htol : r.tolerateInvalidFinalSuffix = false)
    (tail : Bytes) (lines : List Bytes) : ∀ (count : Nat) (H : List SessionEntry),
    readPieces { r with tolerateInvalidFinalSuffix := true } count lines tail = .ok H ↔
      readPieces r count lines tail = .ok H ∨
        (tail ≠ [] ∧ validateStrictJson r.sax tail maxNestingDepth = .invalid) ∧
          readPieces r count lines [] = .ok H := by
  induction lines with
  | nil =>
    intro count H
    by_cases hinvalid : validateStrictJson r.sax tail maxNestingDepth = .invalid
    · simp [readPieces, consumeLine, hdec, htol, hinvalid, Except.map]
      grind
    · simp [readPieces, consumeLine, hdec, htol, hinvalid]
  | cons line lines ih =>
    intro count H
    -- a terminated line is never tolerated
    have hline : consumeLine { r with tolerateInvalidFinalSuffix := true } line false count =
        consumeLine r line false count := by simp [consumeLine]
    rw [readPieces, readPieces, readPieces, hline]
    rcases consumeLine r line false count with e | _ | entry
    · simp
    · simp
    · simp only [map_eq_ok_iff, ih]
      grind

/-- **THE RECOVERABLE PREFIX.**  A recoverable load returns what the bounded load returns, or what
    it returns for the terminated lines when the rest of the file is not a JSON text. -/
theorem recoverable_load_iff (sax : SaxParser) (path : Bytes) (limits : SessionReadLimits)
    (content : Bytes) (H : List SessionEntry) :
    loadRecoverablePrefixBounded sax path limits content = .ok H ↔
      loadBounded sax path limits content = .ok H ∨
        ∃ lines tail, unframe lf content = (lines, tail) ∧
          (tail ≠ [] ∧ validateStrictJson sax tail maxNestingDepth = .invalid) ∧
          exceeds limits.maxFileBytes content.length = false ∧ tail.length ≤ limits.maxLineBytes ∧
          loadBounded sax path limits (frame lf lines) = .ok H := by
  have hparts := frame_unframe lf content
  have hfree := unframe_sep_free lf content
  have hvisit := fun r content =>
    visitSnapshot_eq_ok_iff r content [] 0 H List.not_mem_nil (Nat.zero_le _)
  unfold loadRecoverablePrefixBounded loadBounded
  cases validateReadLimits limits with
  | error e => simp
  | ok =>
    by_cases hfile : exceeds limits.maxFileBytes content.length = true
    · simp [hfile]
    rcases hu : unframe lf content with ⟨lines, tail⟩
    rw [hu] at hparts hfree
    have hlines := unframe_frame (t := []) List.not_mem_nil hfree.1
    have hshort : exceeds limits.maxFileBytes (frame lf lines).length = false := by
      refine exceeds_false_of_le ?_ (Bool.eq_false_iff.mpr hfile)
      simp [← hparts]
    have htolerant := readPieces_tolerant (r := { sax, path, limits }) rfl rfl tail lines 0 H
    rw [List.append_nil] at hlines
    simp [hfile, hshort, hvisit, hu, hlines, htolerant, WithinLine]
    tauto

end Ava.Session
