/-
  Ava.Session.Entry
  **SESSION RECORDS** (`session/session_store.h`): the closed set of entry types with their
  wire names, the record itself, and the limits the store and the codecs share.
-/
import Ava.Core.Prelude

namespace Ava.Session

open Ava.Core

/-- `EntryType`. -/
inductive EntryType where
  | sessionStart | sessionMetadata | userMessage | assistantMessage | toolCall | toolResult
  | permissionDecision | modeChange | modelChange | reasoningBlock | reasoningChange
  | assistantOutputItem | assistantTurnCommit | compaction | branchSummary | error | cancel
deriving Repr, DecidableEq

/-- `kCurrentSessionEntryVersion`. -/
def currentSessionEntryVersion : Int := 4

/-- `kMaxSessionLineBytes`. -/
def maxSessionLineBytes : Nat := 1024 * 1024

/-- `SessionEntry`. -/
structure SessionEntry where
  id : Bytes
  parentId : Bytes
  type : EntryType
  timestamp : Bytes
  dataJson : Bytes
  version : Int := currentSessionEntryVersion
deriving Repr, DecidableEq

/-- `to_string(EntryType)`. -/
def EntryType.toBytes : EntryType → Bytes
  | .sessionStart => ascii "session_start"
  | .sessionMetadata => ascii "session_metadata"
  | .userMessage => ascii "user_message"
  | .assistantMessage => ascii "assistant_message"
  | .toolCall => ascii "tool_call"
  | .toolResult => ascii "tool_result"
  | .permissionDecision => ascii "permission_decision"
  | .modeChange => ascii "mode_change"
  | .modelChange => ascii "model_change"
  | .reasoningBlock => ascii "reasoning_block"
  | .reasoningChange => ascii "reasoning_change"
  | .assistantOutputItem => ascii "assistant_output_item"
  | .assistantTurnCommit => ascii "assistant_turn_commit"
  | .compaction => ascii "compaction"
  | .branchSummary => ascii "branch_summary"
  | .error => ascii "error"
  | .cancel => ascii "cancel"

/-- Every entry type, in the order `parse_entry_type` tries them. -/
def EntryType.all : List EntryType :=
  [.sessionStart, .sessionMetadata, .userMessage, .assistantMessage, .toolCall, .toolResult,
    .permissionDecision, .modeChange, .modelChange, .reasoningBlock, .reasoningChange,
    .assistantOutputItem, .assistantTurnCommit, .compaction, .branchSummary, .error, .cancel]

/-- `parse_entry_type`: the first type whose wire name is the value. -/
def parseEntryType (value : Bytes) : Result EntryType :=
  match EntryType.all.find? fun t => t.toBytes = value with
  | some t => .ok t
  | none => .error ((sessionError "unknown session entry type").withContext "type" value)

/-- **The wire name of a type reads back as that type.** -/
@[simp] theorem parseEntryType_toBytes (t : EntryType) : parseEntryType t.toBytes = .ok t := by
  cases t <;> decide

end Ava.Session
