/-
  Ava.Session.Append
  **APPENDING ONE RECORD** (`session/session_store_append.cpp`).

  `append_impl` checks the entry, renders its line, parses that line strictly, and only then
  touches storage: an ephemeral store takes the ENTRY, a persistent store takes the LINE.
  Every failure of a persistent append carries a commit state that says what the file may
  hold.  What the operating system answers is an argument (`AppendIo`).

    - §1 commit states and error texts; §2 `appendChecks`;
    - §3 the persistent append with its write loop; §4 `AppendEffect` : what one call can do;
    - §5 a written line: no newline, no carriage return, one closing brace;
    - §6 append, then load.
-/
import Ava.Session.Read

namespace Ava.Session

open Ava.Core Ava.Core.Json Ava.Lib

/-! ## §1. Commit states and error texts. -/

inductive AppendCommitState where
  | notStarted | partialOrUnknown | committedToLeasedInode
deriving Repr, DecidableEq

/-- `append_commit_state_text`. -/
def appendCommitStateText : AppendCommitState → Bytes
  | .notStarted => ascii "not_started"
  | .partialOrUnknown => ascii "partial_or_unknown"
  | .committedToLeasedInode => ascii "committed_to_leased_inode"

/-- `has_append_commit_state`. -/
def hasAppendCommitState (e : Error) : Bool :=
  e.context.any fun item => item.1 = ascii "append_commit_state"

/-- Whether an error reports the given commit state: `append_partial_or_unknown` and
    `append_committed_to_leased_inode` are two members of this family. -/
def reportsCommitState (state : AppendCommitState) (e : Error) : Bool :=
  e.context.any fun item =>
    item.1 = ascii "append_commit_state" && item.2 = appendCommitStateText state

/-- `append_partial_or_unknown`. -/
def appendPartialOrUnknown : Error → Bool := reportsCommitState .partialOrUnknown

/-- `append_committed_to_leased_inode`. -/
def appendCommittedToLeasedInode : Error → Bool := reportsCommitState .committedToLeasedInode

/-- `with_append_commit_state`. -/
def withAppendCommitState (e : Error) (state : AppendCommitState) (path : Bytes) : Error :=
  let e := e.withContext "append_commit_state" (appendCommitStateText state)
  let e := match state with
    | .partialOrUnknown =>
      e.withContext "recovery" (ascii
        "retain the same active SessionLease, call SessionStore::recover_torn_tail, then call SessionStore::recover_incomplete_assistant_output_suffix before any further append")
    | _ => e
  e.withContext "path" path

/-- `path_io_error`; the cause is `strerror` of a non-zero error number. -/
def pathIoError (message : Bytes) (path : Bytes) (cause : Option Bytes) : Error :=
  let e := ({ category := .io, message } : Error).withContext "path" path
  match cause with
  | none => e
  | some text => e.withContext "cause" text

/-- `append_authority_error`. -/
def appendAuthorityError (message : String) (path : Bytes) : Error :=
  ({ category := .invalidArgument, message := ascii message } : Error).withContext "path" path

/-! ## §2. The checks made before storage is touched. -/

/-- The store options an append reads.  `canonicalPath`, `parentPath` and `sessionName` are
    the normalised path and its two parts. -/
structure StoreConfig where
  sax : SaxParser
  sessionId : Bytes
  path : Bytes
  canonicalPath : Bytes
  parentPath : Bytes
  sessionName : Bytes

variable (cfg : StoreConfig)

/-- The entry checks of `append_impl`, up to the strict parse of the rendered line. -/
def appendChecks (entry : SessionEntry) : Result Bytes :=
  match validateSessionId cfg.sessionId with
  | .error e => .error e
  | .ok () =>
    if entry.dataJson.isEmpty ∨ entry.dataJson.head? ≠ some lbrace ∨
        entry.dataJson.getLast? ≠ some rbrace then
      .error (({ category := .invalidArgument
                 message := ascii "session entry data must be a JSON object" } : Error).withContext
        "entry_id" entry.id)
    else if lf ∈ entry.dataJson ∨ cr ∈ entry.dataJson then
      .error (({ category := .invalidArgument
                 message := ascii "session entry data must not contain raw newlines" } :
          Error).withContext "entry_id" entry.id)
    else
      match validateParentId entry.parentId entry.id with
      | .error e => .error e
      | .ok () =>
        match serializeSessionEntryLine entry with
        | .error e => .error e
        | .ok line =>
          match parseStrictSessionRecord cfg.sax line cfg.path false with
          | .error e =>
            .error ((e.withContext "operation" (ascii "append")).withContext "entry_id" entry.id)
          | .ok _ => .ok line

/-- `append_impl` of an ephemeral store: the entry itself is kept. -/
def appendImplEphemeral (entries : List SessionEntry) (entry : SessionEntry) :
    Result (List SessionEntry) :=
  match appendChecks cfg entry with
  | .error e => .error e
  | .ok _ => .ok (entries ++ [entry])

/-! ## §3. The persistent append. -/

/-- `SessionLease`, as far as an append reads it. -/
structure SessionLease where
  active : Bool
  canonicalPath : Bytes
  created : Bool := false
deriving Repr, DecidableEq

/-- The four moments at which `validate_identity` runs. -/
inductive IdentityTiming where
  | beforeFraming | beforeMode | beforeWrite | afterWrite
deriving Repr, DecidableEq

def IdentityTiming.text : IdentityTiming → Bytes
  | .beforeFraming => ascii "before session framing inspection"
  | .beforeMode => ascii "immediately before session mode update"
  | .beforeWrite => ascii "immediately before entry write"
  | .afterWrite => ascii "after the entry write"

/-- The ways `validate_identity` can fail; a cause is the text of an error number. -/
inductive IdentityFault where
  | leaseStat (cause : Bytes)
  | appendStat (cause : Bytes)
  | nameStat (cause : Bytes)
  | replaced (leaseLinks appendLinks nameLinks : Nat)
  | anchoredStat (cause : Bytes)
  | anchoredChanged
  | publicationOpen (cause : Bytes)
  | publicationStat (cause : Bytes)
  | publicationClose (cause : Bytes)
  | publicationChanged
deriving Repr, DecidableEq

/-- The error `validate_identity` returns. -/
def identityError (timing : IdentityTiming) : IdentityFault → Error
  | .leaseStat cause =>
    pathIoError (ascii "failed to inspect session lease " ++ timing.text) cfg.path (some cause)
  | .appendStat cause =>
    pathIoError (ascii "failed to inspect session append descriptor " ++ timing.text) cfg.path
      (some cause)
  | .nameStat cause =>
    pathIoError (ascii "failed to inspect session append name " ++ timing.text) cfg.path (some cause)
  | .replaced leaseLinks appendLinks nameLinks =>
    (((({ category := .session
          message := ascii "session append target was replaced " ++ timing.text } : Error)
      |>.withContext "timing" timing.text)
      |>.withContext "lease_links" (decimal leaseLinks))
      |>.withContext "append_links" (decimal appendLinks))
      |>.withContext "name_links" (decimal nameLinks)
  | .anchoredStat cause =>
    pathIoError (ascii "failed to inspect anchored session directory " ++ timing.text)
      cfg.parentPath (some cause)
  | .anchoredChanged =>
    ((sessionError "anchored session directory changed during append").withContext
      "timing" timing.text).withContext "path" cfg.parentPath
  | .publicationOpen cause =>
    pathIoError (ascii "failed to re-open session directory publication " ++ timing.text)
      cfg.parentPath (some cause)
  | .publicationStat cause =>
    pathIoError (ascii "failed to inspect re-opened session directory publication " ++ timing.text)
      cfg.parentPath (some cause)
  | .publicationClose cause =>
    pathIoError (ascii "failed to close re-opened session directory publication " ++ timing.text)
      cfg.parentPath (some cause)
  | .publicationChanged =>
    ((sessionError "session directory publication changed during append").withContext
      "timing" timing.text).withContext "path" cfg.parentPath

/-- One `write` call: octets taken, an interrupted call, or an error number's text. -/
inductive WriteResult where
  | wrote (count : Nat)
  | interrupted
  | failed (cause : Bytes)
deriving Repr, DecidableEq

/-- Where a C++ exception can leave `append_impl`: no allocation happens inside the write
    loop, so it is either before the first octet or after the loop ended. -/
inductive ThrowPoint where
  | beforeWrite | afterWriteLoop
deriving Repr, DecidableEq

/-- Failures of opening the directory and the file. -/
inductive OpenFault where
  | parentOpen (cause : Bytes)
  | parentNotDirectory (cause : Option Bytes)
  | targetSymlink (cause : Bytes)
  | targetOpen (cause : Bytes)
deriving Repr, DecidableEq

/-- What the operating system answers during one append.  When `writes` runs out, the next
    call takes everything that is left. -/
structure AppendIo where
  opening : Option OpenFault := none
  identity : IdentityTiming → Option IdentityFault := fun _ => none
  framingRead : Option Bytes := none
  modeUpdate : Option Bytes := none
  writes : List WriteResult := []
  sync : Option Bytes := none
  appendClose : Option Bytes := none
  parentClose : Option Bytes := none
  thrown : Option ThrowPoint := none

/-- The close causes `fail_before_write` and `fail_after_write` attach. -/
def withCloseCauses (io : AppendIo) (e : Error) : Error :=
  let e := match io.appendClose with
    | none => e
    | some cause => e.withContext "append_close_cause" cause
  match io.parentClose with
  | none => e
  | some cause => e.withContext "parent_close_cause" cause

/-- The lease checks at the head of the persistent branch. -/
def leaseFault : Option SessionLease → Option Error
  | none =>
    some (appendAuthorityError "persistent session append requires an active session lease" cfg.path)
  | some lease =>
    if !lease.active then
      some (appendAuthorityError "persistent session append requires an active session lease"
        cfg.path)
    else if cfg.canonicalPath ≠ lease.canonicalPath then
      some ((appendAuthorityError
        "session lease does not exactly match the persistent append target"
        cfg.canonicalPath).withContext "lease_path" lease.canonicalPath)
    else if cfg.sessionName.isEmpty then
      some (pathIoError (ascii "session append target has no basename") cfg.canonicalPath none)
    else none

/-- The error of opening the directory (first component: no descriptor is open yet). -/
def openError (io : AppendIo) : OpenFault → Error
  | .parentOpen cause =>
    pathIoError (ascii "failed to anchor session append directory") cfg.parentPath (some cause)
  | .parentNotDirectory cause =>
    withCloseCauses io
      (pathIoError (ascii "session append parent is not a directory") cfg.parentPath cause)
  | .targetSymlink cause =>
    withCloseCauses io
      (((({ category := .permissionDenied
            message := ascii "session append target must not be a symlink" } : Error)
        |>.withContext "path" cfg.path)
        |>.withContext "cause" cause))
  | .targetOpen cause =>
    withCloseCauses io
      (((({ category := .io, message := ascii "failed to open session append target" } : Error)
        |>.withContext "path" cfg.path)
        |>.withContext "cause" cause))

/-- Everything between the lease checks and the first `write`. -/
def preWriteFault (io : AppendIo) (content : Bytes) : Option Error :=
  match io.opening with
  | some fault => some (openError cfg io fault)
  | none =>
    match io.identity .beforeFraming with
    | some fault => some (withCloseCauses io (identityError cfg .beforeFraming fault))
    | none =>
      match (if content.isEmpty then none else io.framingRead) with
      | some cause =>
        some (withCloseCauses io
          (pathIoError (ascii "failed to read session framing before append") cfg.path (some cause)))
      | none =>
        if content ≠ [] ∧ content.getLast? ≠ some lf then
          some (withCloseCauses io
            ((sessionError "refusing to append to a session with an unterminated tail").withContext
              "recovery" (ascii
                "retain the active SessionLease and call SessionStore::recover_torn_tail before appending")))
        else
          match io.identity .beforeMode with
          | some fault => some (withCloseCauses io (identityError cfg .beforeMode fault))
          | none =>
            match io.modeUpdate with
            | some cause =>
              some (withCloseCauses io
                (pathIoError (ascii "failed to preserve session file permissions") cfg.path
                  (some cause)))
            | none =>
              match io.identity .beforeWrite with
              | some fault => some (withCloseCauses io (identityError cfg .beforeWrite fault))
              | none => none

/-- The write loop: how many octets of a payload of the given size reach the file, and the
    cause when the loop breaks off. -/
def writeLoop (size : Nat) : List WriteResult → Nat → Nat × Option Bytes
  | [], _ => (size, none)
  | .interrupted :: ws, written =>
    if size ≤ written then (written, none) else writeLoop size ws written
  | .failed cause :: _, written =>
    if size ≤ written then (written, none) else (written, some cause)
  | .wrote count :: ws, written =>
    if size ≤ written then (written, none)
    else if count = 0 ∨ size - written < count then (written, some (ascii "Input/output error"))
    else writeLoop size ws (written + count)

/-- How an append ends: the content of the file, and the returned result unless a C++
    exception left the function. -/
structure AppendOutcome where
  content : Bytes
  returned : Option (Result Unit)
deriving DecidableEq

/-- The error of an incomplete write or a failed sync. -/
def writeError (io : AppendIo) (message : String) (cause : Bytes) (written size : Nat) : Error :=
  withCloseCauses io
    (((pathIoError (ascii message) cfg.path (some cause)).withContext
      "bytes_written" (decimal written)).withContext "payload_bytes" (decimal size))

/-- The part of `append_impl` after a complete, synced write. -/
def afterWrite (io : AppendIo) : Result Unit :=
  let committed := fun e : Error => withAppendCommitState e .committedToLeasedInode cfg.path
  match io.identity .afterWrite with
  | some fault => .error (committed (withCloseCauses io (identityError cfg .afterWrite fault)))
  | none =>
    match io.appendClose with
    | some cause =>
      .error (committed (pathIoError
        (ascii "session entry was written but the append descriptor close failed") cfg.path
        (some cause)))
    | none =>
      match io.parentClose with
      | some cause =>
        .error (committed (pathIoError
          (ascii "session entry was written but the session directory close failed")
          cfg.parentPath (some cause)))
      | none => .ok ()

/-- The result once the write loop has ended. -/
def writeResult (io : AppendIo) (size : Nat) : Result Unit :=
  match writeLoop size io.writes 0 with
  | (written, cause) =>
    if written ≠ size then
      .error (withAppendCommitState
        (writeError cfg io "failed to write complete session entry through the append descriptor"
          (cause.getD (ascii "Input/output error")) written size)
        (if written = 0 then .notStarted else .partialOrUnknown) cfg.path)
    else
      match io.sync with
      | some cause =>
        .error (withAppendCommitState
          (writeError cfg io "failed to sync the complete session entry through the append descriptor"
            cause written size) .partialOrUnknown cfg.path)
      | none => afterWrite cfg io

/-- `append_impl` of a persistent store whose file holds `content`. -/
def appendImpl (lease : Option SessionLease) (io : AppendIo) (content : Bytes)
    (entry : SessionEntry) : AppendOutcome :=
  if io.thrown = some .beforeWrite then { content, returned := none }
  else
    match appendChecks cfg entry with
    | .error e => { content, returned := some (.error e) }
    | .ok line =>
      match leaseFault cfg lease with
      | some e =>
        { content, returned := some (.error (withAppendCommitState e .notStarted cfg.path)) }
      | none =>
        match preWriteFault cfg io content with
        | some e =>
          { content, returned := some (.error (withAppendCommitState e .notStarted cfg.path)) }
        | none =>
          let payload := line ++ [lf]
          { content := content ++ payload.take (writeLoop payload.length io.writes 0).1
            returned :=
              if io.thrown = some .afterWriteLoop then none
              else some (writeResult cfg io payload.length) }

/-! ## §4. Which errors carry a commit state. -/

theorem ascii_inj {s t : String} : ascii s = ascii t ↔ s = t := by
  unfold ascii
  constructor
  · intro h
    exact String.toByteArray_inj.mp (ByteArray.ext (Array.toList_inj.mp h))
  · intro h
    rw [h]

@[simp] theorem hasAppendCommitState_withContext (e : Error) (key : String) (value : Bytes) :
    hasAppendCommitState (e.withContext key value) =
      (hasAppendCommitState e || decide (key = "append_commit_state")) := by
  simp [hasAppendCommitState, Error.withContext, ascii_inj]

@[simp] theorem hasAppendCommitState_mk (category : ErrorCategory) (message : Bytes)
    (code : ErrorCode) :
    hasAppendCommitState { category, message, code } = false := rfl

@[simp] theorem hasAppendCommitState_sessionError (message : String) :
    hasAppendCommitState (sessionError message) = false := rfl

@[simp] theorem hasAppendCommitState_pathIoError (message path : Bytes) (cause : Option Bytes) :
    hasAppendCommitState (pathIoError message path cause) = false := by
  cases cause <;> simp [pathIoError]

@[simp] theorem hasAppendCommitState_appendAuthorityError (message : String) (path : Bytes) :
    hasAppendCommitState (appendAuthorityError message path) = false := by
  simp [appendAuthorityError]

@[simp] theorem hasAppendCommitState_withCloseCauses (io : AppendIo) (e : Error) :
    hasAppendCommitState (withCloseCauses io e) = hasAppendCommitState e := by
  unfold withCloseCauses
  cases io.appendClose <;> cases io.parentClose <;> simp

@[simp] theorem hasAppendCommitState_identityError (timing : IdentityTiming) (fault : IdentityFault) :
    hasAppendCommitState (identityError cfg timing fault) = false := by
  cases fault <;> simp [identityError]

variable {e : Error}

/-- An error without a commit state reports none. -/
theorem reportsCommitState_of_plain (h : hasAppendCommitState e = false)
    (state : AppendCommitState) : reportsCommitState state e = false := by
  unfold hasAppendCommitState at h
  unfold reportsCommitState
  rw [List.any_eq_false] at h ⊢
  intro item hitem hboth
  rw [Bool.and_eq_true] at hboth
  exact h item hitem hboth.1

theorem appendCommitStateText_inj {s t : AppendCommitState} :
    appendCommitStateText s = appendCommitStateText t ↔ s = t := by
  cases s <;> cases t <;> simp [appendCommitStateText, ascii_inj]

/-- A commit state attached to an error that had none is the one the error reports. -/
theorem reportsCommitState_withAppendCommitState (h : hasAppendCommitState e = false)
    (state attached : AppendCommitState) (path : Bytes) :
    reportsCommitState state (withAppendCommitState e attached path) = decide (attached = state) := by
  have hplain := reportsCommitState_of_plain h state
  unfold reportsCommitState at hplain ⊢
  cases attached <;>
    simp [withAppendCommitState, Error.withContext, hplain, appendCommitStateText_inj, ascii_inj]

variable {cfg : StoreConfig} {lease : Option SessionLease}

theorem hasAppendCommitState_leaseFault (h : leaseFault cfg lease = some e) :
    hasAppendCommitState e = false := by
  unfold leaseFault at h
  split at h
  next => cases h; simp
  split at h
  · cases h; simp
  · split at h
    · cases h; simp
    · split at h
      · cases h; simp
      · cases h

theorem hasAppendCommitState_openError (cfg : StoreConfig) (io : AppendIo) (fault : OpenFault) :
    hasAppendCommitState (openError cfg io fault) = false := by
  cases fault <;> simp [openError]

variable {io : AppendIo}

/-- A fault before the write carries no commit state of its own, and no fault means that the
    file ends with a newline or is empty. -/
theorem preWriteFault_spec {content : Bytes} :
    (∀ e, preWriteFault cfg io content = some e → hasAppendCommitState e = false) ∧
    (preWriteFault cfg io content = none → content = [] ∨ content.getLast? = some lf) := by
  unfold preWriteFault
  cases io.opening with
  | some fault => simp [hasAppendCommitState_openError]
  | none =>
    dsimp only
    cases io.identity .beforeFraming with
    | some fault => simp
    | none =>
      dsimp only
      cases (if content.isEmpty then none else io.framingRead) with
      | some cause => simp
      | none =>
        dsimp only
        by_cases htail : content ≠ [] ∧ content.getLast? ≠ some lf
        · simp [htail]
        · rw [if_neg htail]
          have hframed : content = [] ∨ content.getLast? = some lf := by tauto
          cases io.identity .beforeMode <;> cases io.modeUpdate <;>
            cases io.identity .beforeWrite <;> simp [hframed]

/-- The errors of a computation carry no commit state. -/
def PlainErrors {α : Type} (r : Result α) : Prop := ∀ e, r = .error e → hasAppendCommitState e = false

variable {α : Type}

theorem PlainErrors.ok (a : α) : PlainErrors (.ok a : Result α) := by
  intro e h
  cases h

theorem PlainErrors.error (h : hasAppendCommitState e = false) :
    PlainErrors (.error e : Result α) := by
  intro e' h'
  cases h'
  exact h

theorem PlainErrors.map {α β : Type} {r : Result α} (h : PlainErrors r) (f : α → β) :
    PlainErrors (r.map f) := by
  cases r with
  | ok a => exact .ok _
  | error e => exact .error (h e rfl)

theorem PlainErrors.ite {c : Prop} [Decidable c] {r s : Result α}
    (hr : PlainErrors r) (hs : PlainErrors s) : PlainErrors (if c then r else s) := by
  by_cases h : c
  · rwa [if_pos h]
  · rwa [if_neg h]

theorem PlainErrors.guard {c : Prop} [Decidable c] {s : Result α}
    (h : hasAppendCommitState e = false) (hs : PlainErrors s) :
    PlainErrors (if c then .error e else s) :=
  .ite (.error h) hs

theorem plainErrors_validateSessionId (id : Bytes) : PlainErrors (validateSessionId id) := by
  unfold validateSessionId
  exact .guard (by simp) (.guard (by simp) (.ok ()))

theorem plainErrors_validateParentId (parentId id : Bytes) :
    PlainErrors (validateParentId parentId id) := by
  unfold validateParentId
  exact .ite (.ok ())
    (.guard (by simp) (.guard (by simp) (.ok ())))

theorem plainErrors_validateEntryTypeVersion (t : EntryType) (v : Int) :
    PlainErrors (validateEntryTypeVersion t v) := by
  unfold validateEntryTypeVersion
  exact .guard (by simp)
    (.ite (.ok ()) (.error (by simp)))

theorem plainErrors_serializeSessionEntryLine (entry : SessionEntry) :
    PlainErrors (serializeSessionEntryLine entry) := by
  unfold serializeSessionEntryLine
  split
  next e h => exact .error (plainErrors_validateEntryTypeVersion _ _ e h)
  dsimp only
  split
  · exact .error (by simp)
  · exact .ok _

theorem plainErrors_extractEntryVersion (line : Bytes) :
    PlainErrors (extractEntryVersion line) := by
  unfold extractEntryVersion
  dsimp only
  split
  · exact .ok _
  · exact .error (by simp)
  · exact .guard (by simp)
      (.ite (.ok _) (.error (by simp)))

theorem plainErrors_readSupportedEntryVersion (line path : Bytes) :
    PlainErrors (readSupportedEntryVersion line path) := by
  unfold readSupportedEntryVersion
  split
  next e h => exact .error (by simp [plainErrors_extractEntryVersion line e h])
  next => exact .ok _
  split
  · exact .ok _
  · exact .error (by simp)

theorem plainErrors_parseEntryType (value : Bytes) : PlainErrors (parseEntryType value) := by
  unfold parseEntryType
  split
  · exact .ok _
  · exact .error (by simp)

theorem plainErrors_parseSessionEntryLine (line path : Bytes) :
    PlainErrors (parseSessionEntryLine line path) := by
  unfold parseSessionEntryLine
  split
  next => exact .error (by simp)
  split
  next e h => exact .error (plainErrors_readSupportedEntryVersion _ _ e h)
  dsimp only
  split
  next => exact .error (by simp)
  split
  next => exact .error (by simp)
  split
  next e h => exact .error (plainErrors_parseEntryType _ e h)
  split
  next e h =>
    exact .error (by simp [plainErrors_validateEntryTypeVersion _ _ e h])
  split
  next e h =>
    exact .error (by simp [plainErrors_validateParentId _ _ e h])
  next => exact .ok _

theorem plainErrors_parseStrictSessionRecord (sax : SaxParser) (line path : Bytes) (fin : Bool) :
    PlainErrors (parseStrictSessionRecord sax line path fin) := by
  unfold parseStrictSessionRecord
  split
  next =>
    split
    next => exact .ok _
    next e h => exact .error (by simp [plainErrors_parseSessionEntryLine _ _ e h])
  next => exact .error (by simp [strictSessionRecordError])

theorem plainErrors_appendChecks (cfg : StoreConfig) (entry : SessionEntry) :
    PlainErrors (appendChecks cfg entry) := by
  unfold appendChecks
  split
  next e h => exact .error (plainErrors_validateSessionId _ e h)
  split
  next => exact .error (by simp)
  split
  next => exact .error (by simp)
  split
  next e h => exact .error (plainErrors_validateParentId _ _ e h)
  split
  next e h => exact .error (plainErrors_serializeSessionEntryLine _ e h)
  split
  next e h =>
    exact .error (by simp [plainErrors_parseStrictSessionRecord _ _ _ _ e h])
  next => exact .ok _

/-! ## §5. The shape of a written line. -/

/-- Neither of the two octets that end a line. -/
def NoNewline (s : Bytes) : Prop := lf ∉ s ∧ cr ∉ s

theorem noNewline_append {s t : Bytes} : NoNewline (s ++ t) ↔ NoNewline s ∧ NoNewline t := by
  unfold NoNewline
  simp only [List.mem_append, not_or]
  tauto

theorem noNewline_escapeByte : ∀ c, lf ∉ escapeByte c ∧ cr ∉ escapeByte c :=
  forall_octet (by decide)

theorem noNewline_jsonEscape (v : Bytes) : NoNewline (jsonEscape v) := by
  constructor <;> intro hmem <;> obtain ⟨c, -, hc⟩ := List.mem_flatMap.mp hmem
  · exact (noNewline_escapeByte c).1 hc
  · exact (noNewline_escapeByte c).2 hc

/-- The fixed texts of the envelope. -/
theorem NoNewline.literal : ∀ s ∈ ["\x7b", "\"version\":", ",", "\"id\":\"", "\",",
    "\"parent_id\":\"", "\"type\":\"", "\"timestamp\":\"", "\"data\":", "\x7d"],
    lf ∉ ascii s ∧ cr ∉ ascii s := by
  decide

theorem noNewline_type (t : EntryType) : NoNewline t.toBytes := by
  rw [← jsonEscape_type t]
  exact noNewline_jsonEscape _

variable {entry : SessionEntry}

/-- A rendered line never spans two lines of the file, whatever the ids hold. -/
theorem noNewline_sessionEntryLineText
    (hver : validateEntryTypeVersion entry.type entry.version = .ok ())
    (hdata : NoNewline entry.dataJson) : NoNewline (sessionEntryLineText entry) := by
  have hversion : NoNewline
      (if entry.version ≠ 0 then ascii "\"version\":" ++ decimalInt entry.version ++ ascii ","
        else []) := by
    rcases validateEntryTypeVersion_ok hver with h | h | h | h | h <;> rw [h] <;>
      unfold NoNewline <;> decide
  unfold sessionEntryLineText
  simp only [noNewline_append]
  exact ⟨⟨⟨⟨⟨⟨.literal _ (by decide), hversion⟩,
    ⟨.literal _ (by decide), noNewline_jsonEscape _⟩, .literal _ (by decide)⟩,
    ⟨.literal _ (by decide), noNewline_jsonEscape _⟩, .literal _ (by decide)⟩,
    ⟨.literal _ (by decide), noNewline_type _⟩, .literal _ (by decide)⟩,
    ⟨.literal _ (by decide), noNewline_jsonEscape _⟩, .literal _ (by decide)⟩,
    ⟨.literal _ (by decide), hdata⟩, .literal _ (by decide)⟩

theorem getLast?_sessionEntryLineText (entry : SessionEntry) :
    (sessionEntryLineText entry).getLast? = some rbrace := by
  rw [sessionEntryLineText_eq, show ∀ s : Bytes,
    lbrace :: (s ++ quote :: (ascii "data" ++ quote :: colon :: (entry.dataJson ++ [rbrace]))) =
      (lbrace :: (s ++ quote :: (ascii "data" ++ quote :: colon :: entry.dataJson))) ++ [rbrace]
    from fun s => by simp]
  exact List.getLast?_concat

/-- What the checks of an accepted entry establish. -/
structure Accepted (cfg : StoreConfig) (entry : SessionEntry) : Prop where
  sessionId : validateSessionId cfg.sessionId = .ok ()
  version : validateEntryTypeVersion entry.type entry.version = .ok ()
  opens : entry.dataJson.head? = some lbrace
  closes : entry.dataJson.getLast? = some rbrace
  noNewline : NoNewline entry.dataJson
  parent : validateParentId entry.parentId entry.id = .ok ()
  short : (sessionEntryLineText entry).length < maxSessionLineBytes
  parses : ∃ e', parseStrictSessionRecord cfg.sax (sessionEntryLineText entry) cfg.path false = .ok e'

theorem serializeSessionEntryLine_eq_ok_iff {line : Bytes} :
    serializeSessionEntryLine entry = .ok line ↔
      validateEntryTypeVersion entry.type entry.version = .ok () ∧
      (sessionEntryLineText entry).length < maxSessionLineBytes ∧
      line = sessionEntryLineText entry := by
  unfold serializeSessionEntryLine
  cases validateEntryTypeVersion entry.type entry.version with
  | error e => simp
  | ok u =>
    dsimp only
    by_cases hshort : maxSessionLineBytes ≤ (sessionEntryLineText entry).length
    · rw [if_pos hshort]
      simp [Nat.not_lt.mpr hshort]
    · rw [if_neg hshort]
      simp [Nat.not_le.mp hshort, eq_comm]

theorem appendChecks_eq_ok {line : Bytes} (h : appendChecks cfg entry = .ok line) :
    Accepted cfg entry ∧ line = sessionEntryLineText entry := by
  unfold appendChecks at h
  split at h
  next => cases h
  next hid =>
    split at h
    next => cases h
    next hobject =>
      split at h
      next => cases h
      next hnewline =>
        split at h
        next => cases h
        next hparent =>
          split at h
          next => cases h
          next hserialize =>
            split at h
            next => cases h
            next e' hparse =>
              cases h
              obtain ⟨hver, hshort, rfl⟩ := serializeSessionEntryLine_eq_ok_iff.mp hserialize
              push Not at hobject hnewline
              exact ⟨⟨hid, hver, hobject.2.1, hobject.2.2, hnewline, hparent, hshort, e', hparse⟩, rfl⟩

section

variable {cfg : StoreConfig} {entry : SessionEntry}

theorem Accepted.line_noNewline (h : Accepted cfg entry) : NoNewline (sessionEntryLineText entry) :=
  noNewline_sessionEntryLineText h.version h.noNewline

/-- No carriage return is stripped from a rendered line. -/
theorem strip_cr_sessionEntryLineText (entry : SessionEntry) :
    (if (sessionEntryLineText entry).getLast? = some cr then (sessionEntryLineText entry).dropLast
      else sessionEntryLineText entry) = sessionEntryLineText entry := by
  rw [getLast?_sessionEntryLineText]
  rfl

/-- Both readers decode an accepted line to the same entry, and it is the entry that was
    written exactly when its data is self-contained. -/
theorem Accepted.reads (h : Accepted cfg entry) :
    ∃ e', parseSessionEntryLine (sessionEntryLineText entry) cfg.path = .ok e' ∧
      (∀ fin, parseStrictSessionRecord cfg.sax (sessionEntryLineText entry) cfg.path fin = .ok e') ∧
      (e' = entry ↔ closesAtEnd entry.dataJson = true) := by
  obtain ⟨e', hparse⟩ := h.parses
  rw [parseStrictSessionRecord_eq_ok_iff, strip_cr_sessionEntryLineText] at hparse
  refine ⟨e', hparse.2, ?_, parseSessionEntryLine_line_iff h.version h.opens hparse.2⟩
  intro fin
  rw [parseStrictSessionRecord_eq_ok_iff, strip_cr_sessionEntryLineText]
  exact hparse

end

/-! ## §6. What one call can do. -/

/-- The octets a persistent append writes. -/
def entryPayload (entry : SessionEntry) : Bytes := sessionEntryLineText entry ++ [lf]

/-- The write loop never counts past the payload. -/
theorem writeLoop_le (size : Nat) : ∀ (ws : List WriteResult) (written : Nat), written ≤ size →
    (writeLoop size ws written).1 ≤ size := by
  intro ws
  induction ws with
  | nil =>
    intro written h
    exact Nat.le_refl size
  | cons w ws ih =>
    intro written h
    cases w with
    | interrupted =>
      unfold writeLoop
      split
      · exact h
      · exact ih written h
    | failed cause =>
      unfold writeLoop
      split <;> exact h
    | wrote count =>
      unfold writeLoop
      split
      · exact h
      · split
        · exact h
        · apply ih
          omega

/-- Everything one call of `append_impl` can do to the file, with what it reports. -/
inductive AppendEffect (cfg : StoreConfig) (entry : SessionEntry) (content : Bytes) :
    AppendOutcome → Prop
  | thrownEarly : AppendEffect cfg entry content { content, returned := none }
  | refused (e : Error) (htorn : appendPartialOrUnknown e = false)
      (hcommitted : appendCommittedToLeasedInode e = false) :
      AppendEffect cfg entry content { content, returned := some (.error e) }
  | thrownLate (n : Nat) (haccepted : Accepted cfg entry)
      (hframed : content = [] ∨ content.getLast? = some lf) (hn : n ≤ (entryPayload entry).length) :
      AppendEffect cfg entry content
        { content := content ++ (entryPayload entry).take n, returned := none }
  | torn (n : Nat) (e : Error) (haccepted : Accepted cfg entry)
      (hframed : content = [] ∨ content.getLast? = some lf) (hn : n ≤ (entryPayload entry).length)
      (htorn : appendPartialOrUnknown e = true) :
      AppendEffect cfg entry content
        { content := content ++ (entryPayload entry).take n, returned := some (.error e) }
  | committed (e : Error) (haccepted : Accepted cfg entry)
      (hframed : content = [] ∨ content.getLast? = some lf)
      (htorn : appendPartialOrUnknown e = false)
      (hcommitted : appendCommittedToLeasedInode e = true) :
      AppendEffect cfg entry content
        { content := content ++ entryPayload entry, returned := some (.error e) }
  | appended (haccepted : Accepted cfg entry)
      (hframed : content = [] ∨ content.getLast? = some lf) :
      AppendEffect cfg entry content
        { content := content ++ entryPayload entry, returned := some (.ok ()) }

/-- What the two tests of the code make of a commit state that was attached. -/
theorem reports_attached (h : hasAppendCommitState e = false) (state : AppendCommitState)
    (path : Bytes) :
    appendPartialOrUnknown (withAppendCommitState e state path) =
        decide (state = .partialOrUnknown) ∧
      appendCommittedToLeasedInode (withAppendCommitState e state path) =
        decide (state = .committedToLeasedInode) := by
  unfold appendPartialOrUnknown appendCommittedToLeasedInode
  rw [reportsCommitState_withAppendCommitState h, reportsCommitState_withAppendCommitState h]
  exact ⟨rfl, rfl⟩

theorem partial_reports (h : hasAppendCommitState e = false) (path : Bytes) :
    appendPartialOrUnknown (withAppendCommitState e .partialOrUnknown path) = true :=
  (reports_attached h .partialOrUnknown path).1

/-- The errors after a complete write all report a committed record. -/
theorem afterWrite_committed (h : afterWrite cfg io = .error e) :
    appendPartialOrUnknown e = false ∧ appendCommittedToLeasedInode e = true := by
  unfold afterWrite at h
  dsimp only at h
  split at h
  next => cases h; exact reports_attached (by simp) _ _
  split at h
  next => cases h; exact reports_attached (by simp) _ _
  split at h
  next => cases h; exact reports_attached (by simp) _ _
  next => cases h

theorem hasAppendCommitState_writeError (cfg : StoreConfig) (io : AppendIo) (message : String)
    (cause : Bytes) (written size : Nat) :
    hasAppendCommitState (writeError cfg io message cause written size) = false := by
  simp [writeError]

/-- **WHAT ONE APPEND CAN DO.** -/
theorem appendImpl_effect (cfg : StoreConfig) (lease : Option SessionLease) (io : AppendIo)
    (content : Bytes) (entry : SessionEntry) :
    AppendEffect cfg entry content (appendImpl cfg lease io content entry) := by
  unfold appendImpl
  by_cases hthrown : io.thrown = some .beforeWrite
  · rw [if_pos hthrown]
    exact .thrownEarly
  · rw [if_neg hthrown]
    cases hchecks : appendChecks cfg entry with
    | error e =>
      have hplain := plainErrors_appendChecks cfg entry e hchecks
      exact .refused e (reportsCommitState_of_plain hplain _) (reportsCommitState_of_plain hplain _)
    | ok line =>
      obtain ⟨haccepted, hline⟩ := appendChecks_eq_ok hchecks
      subst hline
      dsimp only
      cases hlease : leaseFault cfg lease with
      | some e =>
        have hrep := reports_attached (hasAppendCommitState_leaseFault hlease) .notStarted cfg.path
        exact .refused _ hrep.1 hrep.2
      | none =>
        dsimp only
        cases hpre : preWriteFault cfg io content with
        | some e =>
          have hrep := reports_attached (preWriteFault_spec.1 e hpre) .notStarted cfg.path
          exact .refused _ hrep.1 hrep.2
        | none =>
          have hframed := preWriteFault_spec.2 hpre
          have hle : (writeLoop (entryPayload entry).length io.writes 0).1 ≤
              (entryPayload entry).length :=
            writeLoop_le _ io.writes 0 (Nat.zero_le _)
          rw [← entryPayload]
          dsimp only
          by_cases hlate : io.thrown = some .afterWriteLoop
          · rw [if_pos hlate]
            exact .thrownLate _ haccepted hframed hle
          · rw [if_neg hlate]
            rcases hw : writeLoop (entryPayload entry).length io.writes 0 with ⟨written, cause⟩
            rw [hw] at hle
            unfold writeResult
            rw [hw]
            dsimp only
            by_cases hshort : written ≠ (entryPayload entry).length
            · rw [if_pos hshort]
              have hplain := hasAppendCommitState_writeError cfg io
                "failed to write complete session entry through the append descriptor"
                (cause.getD (ascii "Input/output error")) written (entryPayload entry).length
              by_cases hzero : written = 0
              · -- no octet was taken: the file is as it was
                subst hzero
                have hrep := reports_attached hplain .notStarted cfg.path
                rw [if_pos rfl, List.take_zero, List.append_nil]
                exact .refused _ hrep.1 hrep.2
              · rw [if_neg hzero]
                exact .torn written _ haccepted hframed hle (partial_reports hplain cfg.path)
            · rw [if_neg hshort]
              have hfull := not_not.mp hshort
              cases io.sync with
              | some text =>
                have hplain := hasAppendCommitState_writeError cfg io
                  "failed to sync the complete session entry through the append descriptor"
                  text written (entryPayload entry).length
                exact .torn written _ haccepted hframed hle (partial_reports hplain cfg.path)
              | none =>
                rw [hfull, List.take_length]
                dsimp only
                cases hafter : afterWrite cfg io with
                | error e =>
                  obtain ⟨htorn, hcommitted⟩ := afterWrite_committed hafter
                  exact .committed e haccepted hframed htorn hcommitted
                | ok u => exact .appended haccepted hframed

/-! ## §7. Append, then load. -/

/-- Appends to a persistent store, each with its own answers of the system, all successful. -/
def appendAll (cfg : StoreConfig) (lease : Option SessionLease) :
    Bytes → List (SessionEntry × AppendIo) → Option Bytes
  | content, [] => some content
  | content, (entry, io) :: rest =>
    match appendImpl cfg lease io content entry with
    | { content, returned := some (.ok ()) } => appendAll cfg lease content rest
    | _ => none

/-- The same appends to an ephemeral store. -/
def appendAllEphemeral (cfg : StoreConfig) :
    List SessionEntry → List SessionEntry → Option (List SessionEntry)
  | entries, [] => some entries
  | entries, entry :: rest =>
    match appendImplEphemeral cfg entries entry with
    | .ok entries => appendAllEphemeral cfg entries rest
    | .error _ => none

/-- A successful append adds the accepted line and its newline. -/
theorem appendImpl_ok {content content' : Bytes}
    (h : appendImpl cfg lease io content entry = { content := content', returned := some (.ok ()) }) :
    Accepted cfg entry ∧ content' = content ++ entryPayload entry := by
  have heffect := appendImpl_effect cfg lease io content entry
  rw [h] at heffect
  cases heffect with
  | appended haccepted hframed => exact ⟨haccepted, rfl⟩

/-- The file a list of entries makes. -/
def entriesText (entries : List SessionEntry) : Bytes := frame lf (entries.map sessionEntryLineText)

/-- A run of successful appends leaves one accepted line per entry. -/
theorem appendAll_eq_some :
    ∀ {appends : List (SessionEntry × AppendIo)} {content content' : Bytes},
      appendAll cfg lease content appends = some content' →
      (∀ a ∈ appends, Accepted cfg a.1) ∧
        content' = content ++ entriesText (appends.map Prod.fst)
  | [], content, content', h => by
    cases h
    exact ⟨List.forall_mem_nil _, by simp [entriesText]⟩
  | (entry, io) :: rest, content, content', h => by
    unfold appendAll at h
    split at h
    next c hstep =>
      obtain ⟨haccepted, rfl⟩ := appendImpl_ok hstep
      obtain ⟨hall, rfl⟩ := appendAll_eq_some h
      refine ⟨List.forall_mem_cons.mpr ⟨haccepted, hall⟩, ?_⟩
      simp [entriesText, entryPayload]
    next => cases h

theorem appendAllEphemeral_eq_some :
    ∀ {rest entries entries' : List SessionEntry},
      appendAllEphemeral cfg entries rest = some entries' → entries' = entries ++ rest
  | [], entries, entries', h => by
    cases h
    rw [List.append_nil]
  | entry :: rest, entries, entries', h => by
    unfold appendAllEphemeral appendImplEphemeral at h
    cases hchecks : appendChecks cfg entry with
    | error e =>
      rw [hchecks] at h
      cases h
    | ok line =>
      rw [hchecks] at h
      rw [appendAllEphemeral_eq_some h, List.append_assoc]
      rfl

/-- The pieces of a file of accepted lines. -/
theorem unframe_entriesText {entries : List SessionEntry} (h : ∀ e ∈ entries, Accepted cfg e) :
    unframe lf (entriesText entries) = (entries.map sessionEntryLineText, []) := by
  have hfree : ∀ line ∈ entries.map sessionEntryLineText, lf ∉ line := by
    rw [List.forall_mem_map]
    exact fun e he => (h e he).line_noNewline.1
  have hframe := unframe_frame (t := []) List.not_mem_nil hfree
  rwa [List.append_nil] at hframe

/-- The compatibility reader over accepted lines: some record for each, and the records that
    were written exactly when every data text is self-contained. -/
theorem readPieces_accepted {r : SnapshotReader} (hdec : r.decoding = .compatibility)
    (hpath : r.path = cfg.path) (hentries : r.limits.maxEntries = none) :
    ∀ (entries : List SessionEntry) (count : Nat), (∀ e ∈ entries, Accepted cfg e) →
      ∃ H, readPieces r count (entries.map sessionEntryLineText) [] = .ok H ∧
        (H = entries ↔ ∀ e ∈ entries, closesAtEnd e.dataJson = true) := by
  intro entries
  induction entries with
  | nil =>
    intro count _
    exact ⟨[], rfl, by simp⟩
  | cons entry entries ih =>
    intro count h
    obtain ⟨haccepted, hrest⟩ := List.forall_mem_cons.mp h
    obtain ⟨e', hparse, -, hiff⟩ := haccepted.reads
    obtain ⟨H, hH, hHiff⟩ := ih (count + 1) hrest
    have hcount : exceeds r.limits.maxEntries (count + 1) = false := by
      rw [hentries]
      rfl
    have hconsume : consumeLine r (sessionEntryLineText entry) false count = .ok (some e') := by
      rw [consumeLine_compatibility hdec, hpath, strip_cr_sessionEntryLineText]
      exact ⟨e', hparse, hcount, rfl⟩
    refine ⟨e' :: H, ?_, ?_⟩
    · rw [List.map_cons]
      unfold readPieces
      rw [hconsume]
      exact map_eq_ok_iff.mpr ⟨H, hH, rfl⟩
    · rw [List.cons.injEq, hiff, hHiff, List.forall_mem_cons]

/-- A file of accepted lines always loads. -/
theorem load_entriesText {entries : List SessionEntry} (h : ∀ e ∈ entries, Accepted cfg e) :
    ∃ H, load cfg.sax cfg.path (entriesText entries) = .ok H ∧
      (H = entries ↔ ∀ e ∈ entries, closesAtEnd e.dataJson = true) := by
  unfold load
  set r : SnapshotReader :=
    { sax := cfg.sax, path := cfg.path, decoding := .compatibility
      limits := { maxFileBytes := none, maxLineBytes := maxSessionLineBytes - 1,
                  maxEntries := none } } with hr
  obtain ⟨H, hH, hiff⟩ := readPieces_accepted (r := r) rfl rfl rfl entries 0 h
  refine ⟨H, ?_, hiff⟩
  have hwithin : WithinLine r.limits.maxLineBytes (entries.map sessionEntryLineText, []) := by
    refine ⟨List.forall_mem_map.mpr fun e he => ?_, Nat.zero_le _⟩
    have hshort := (h e he).short
    show (sessionEntryLineText e).length ≤ maxSessionLineBytes - 1
    omega
  rw [visitSnapshot_eq_ok_iff _ _ _ _ _ List.not_mem_nil (Nat.zero_le _), List.nil_append,
    unframe_entriesText h]
  exact ⟨hwithin, hH⟩

/-- **APPEND, THEN LOAD, IS THE IDENTITY EXACTLY ON SELF-CONTAINED DATA.**  The strict parse of
    a line that passed every check gives the entry back, and a persistent and an ephemeral
    store given the same appends load the same history, exactly when the brace that the first
    octet of each `data_json` opens is closed by its last octet. -/
theorem append_load_identity_iff (cfg mem : StoreConfig) :
    (∀ entry line, appendChecks cfg entry = .ok line →
      (parseStrictSessionRecord cfg.sax line cfg.path false = .ok entry ↔
        closesAtEnd entry.dataJson = true)) ∧
    (∀ lease appends content entries,
      appendAll cfg lease [] appends = some content →
      appendAllEphemeral mem [] (appends.map Prod.fst) = some entries →
      (load cfg.sax cfg.path content = .ok entries ↔
        ∀ a ∈ appends, closesAtEnd a.1.dataJson = true)) := by
  constructor
  · intro entry line hchecks
    obtain ⟨haccepted, rfl⟩ := appendChecks_eq_ok hchecks
    obtain ⟨e', -, hstrict, hiff⟩ := haccepted.reads
    rw [hstrict false, Except.ok.injEq]
    exact hiff
  · intro lease appends content entries hfile hmemory
    obtain ⟨hall, rfl⟩ := appendAll_eq_some hfile
    have hentries := appendAllEphemeral_eq_some hmemory
    rw [List.nil_append] at hentries
    subst hentries
    have haccepted : ∀ e ∈ appends.map Prod.fst, Accepted cfg e := List.forall_mem_map.mpr hall
    obtain ⟨H, hload, hiff⟩ := load_entriesText haccepted
    rw [List.nil_append, hload, Except.ok.injEq, hiff, List.forall_mem_map]

set_option maxRecDepth 1024

/-- A user message whose data is one object. -/
def plainEntry : SessionEntry :=
  { id := ascii "e1", parentId := [], type := .userMessage, timestamp := ascii "t"
    dataJson := ascii "\x7b\x7d" }

/-- The same message with a second member spliced in behind a closed object. -/
def splicedEntry : SessionEntry :=
  { plainEntry with dataJson := ascii "\x7b\x7d,\"x\":\x7b\x7d" }

/-- The events of a rendered envelope up to the start of its data. -/
def envelopeEvents : List SaxEvent :=
  [.startObject, .key (ascii "version"), .other, .key (ascii "id"), .other,
   .key (ascii "parent_id"), .other, .key (ascii "type"), .other, .key (ascii "timestamp"), .other,
   .key (ascii "data")]

/-- What the external parser reports on the two lines; it is asked about no other text. -/
def twoLineSax : SaxParser := fun value =>
  if value = sessionEntryLineText plainEntry then
    { events := envelopeEvents ++ [.startObject, .endObject, .endObject], ok := true }
  else if value = sessionEntryLineText splicedEntry then
    { events := envelopeEvents ++
        [.startObject, .endObject, .key (ascii "x"), .startObject, .endObject, .endObject]
      ok := true }
  else { events := [], ok := false }

/-- A store whose external parser answers as above. -/
def twoLineStore : StoreConfig :=
  { sax := twoLineSax, sessionId := ascii "s", path := ascii "/d/s", canonicalPath := ascii "/d/s"
    parentPath := ascii "/d", sessionName := ascii "s" }

def twoLineLease : SessionLease := { active := true, canonicalPath := ascii "/d/s" }

/-- The spliced entry passes every check and comes back with other data, and the two kinds of
    store load different histories after the same append. -/
theorem append_load_spliced :
    appendChecks twoLineStore splicedEntry = .ok (sessionEntryLineText splicedEntry) ∧
    parseStrictSessionRecord twoLineStore.sax (sessionEntryLineText splicedEntry)
      twoLineStore.path false = .ok plainEntry ∧
    plainEntry ≠ splicedEntry ∧
    appendAll twoLineStore (some twoLineLease) [] [(splicedEntry, {})] =
      some (entriesText [splicedEntry]) ∧
    load twoLineStore.sax twoLineStore.path (entriesText [splicedEntry]) = .ok [plainEntry] ∧
    appendAllEphemeral twoLineStore [] [splicedEntry] = some [splicedEntry] := by
  decide

/-- On a self-contained message both halves of the identity hold. -/
theorem append_load_identity_plain :
    parseStrictSessionRecord twoLineStore.sax (sessionEntryLineText plainEntry)
      twoLineStore.path false = .ok plainEntry ∧
    load twoLineStore.sax twoLineStore.path (entriesText [plainEntry]) = .ok [plainEntry] := by
  have hidentity := append_load_identity_iff twoLineStore twoLineStore
  constructor
  · exact (hidentity.1 plainEntry (sessionEntryLineText plainEntry) (by decide)).mpr
      (by decide)
  · exact (hidentity.2 (some twoLineLease) [(plainEntry, {})] (entriesText [plainEntry])
      [plainEntry] (by decide) (by decide)).mpr (by decide)

end Ava.Session
