/-
  Ava.Agent.ActiveContext
  **WHERE THE ACTIVE CONTEXT STARTS.**  The request (`agent/message_builder.cpp`), the text that is
  summarised (`agent/context_compaction.cpp`) and the tokens that are counted
  (`session/compaction.cpp`) each look for the last compaction entry on their own, the third one in
  the public projection of the history (`session/logical_projection.cpp`).  The request does not ask
  whether the entry has a summary.

    - §1 the last index with a property, and how it goes through a `flatMap`;
    - §2 the public projection;
    - §3 the three boundaries and what is taken from them on;
    - §4 `one_boundary_iff`: they agree exactly when the last compaction entry has a summary.
-/
import Ava.Session.CommittedTurns
import Ava.Session.Target

namespace Ava.Agent

open Ava.Core Ava.Core.Json Ava.Session

/-! ## §1. The last index. -/

/-- The index of the last element with a property: what a loop that overwrites its answer keeps, and
    what `find_if` on the reversed range finds. -/
def lastIdx? {α : Type} (p : α → Bool) : List α → Option Nat
  | [] => none
  | x :: rest => ((lastIdx? p rest).map (· + 1)).or (if p x then some 0 else none)

section

variable {α β : Type}

theorem lastIdx?_append (p : α → Bool) (a b : List α) :
    lastIdx? p (a ++ b) = ((lastIdx? p b).map (· + a.length)).or (lastIdx? p a) := by
  induction a with
  | nil => simp [lastIdx?]
  | cons x rest ih =>
    rw [List.cons_append, lastIdx?, lastIdx?, ih]
    cases lastIdx? p b with
    | none => rfl
    | some i => simp [Nat.add_assoc]

theorem lastIdx?_map (p : β → Bool) (g : α → β) (l : List α) :
    lastIdx? p (l.map g) = lastIdx? (p ∘ g) l := by
  induction l with
  | nil => rfl
  | cons x rest ih => rw [List.map_cons, lastIdx?, lastIdx?, ih]; rfl

/-- An element with the property becomes one element with the other property, in front; the rest
    becomes elements without it. -/
theorem lastIdx?_flatMap {p : α → Bool} {q : β → Bool} {f : α → List β}
    (hf : ∀ x, lastIdx? q (f x) = if p x then some 0 else none) (l : List α) :
    lastIdx? q (l.flatMap f) = (lastIdx? p l).map fun i => ((l.take i).flatMap f).length := by
  induction l with
  | nil => rfl
  | cons x rest ih =>
    rw [List.flatMap_cons, lastIdx?_append, ih, hf, lastIdx?]
    cases lastIdx? p rest with
    | none => cases p x <;> rfl
    | some i => simp [Nat.add_comm]

theorem lastIdx?_eq_none_iff {p : α → Bool} {l : List α} :
    lastIdx? p l = none ↔ ∀ x ∈ l, p x = false := by
  induction l with
  | nil => simp [lastIdx?]
  | cons x rest ih => simp [lastIdx?, ih, and_comm]

/-- A narrower property has the same last index exactly when the last element of the wider one has
    it. -/
theorem lastIdx?_eq_iff {p q : α → Bool} (hsub : ∀ x, p x = true → q x = true) (l : List α) :
    lastIdx? p l = lastIdx? q l ↔ ∀ x, l.reverse.find? q = some x → p x = true := by
  induction l with
  | nil => simp [lastIdx?]
  | cons x rest ih =>
    rw [lastIdx?, lastIdx?, List.reverse_cons, List.find?_append]
    cases hfound : rest.reverse.find? q with
    | none =>
      have hq : ∀ y ∈ rest, q y = false := by simpa using hfound
      have hp : ∀ y ∈ rest, p y = false := fun y hy =>
        Bool.eq_false_iff.mpr fun h => Bool.eq_false_iff.mp (hq y hy) (hsub y h)
      rw [lastIdx?_eq_none_iff.mpr hq, lastIdx?_eq_none_iff.mpr hp]
      have := hsub x
      cases hpx : p x <;> cases hqx : q x <;> simp_all
    | some y =>
      rw [hfound] at ih
      have hsome : lastIdx? q rest ≠ none := by
        intro hnone
        have hy := List.mem_reverse.mp (List.mem_of_find?_eq_some hfound)
        exact Bool.eq_false_iff.mp (lastIdx?_eq_none_iff.mp hnone y hy) (List.find?_some hfound)
      obtain ⟨i, hi⟩ := Option.ne_none_iff_exists'.mp hsome
      rw [hi] at ih ⊢
      cases hp : lastIdx? p rest with
      | none => cases p x <;> simp_all
      | some j => simp_all

end

/-! ## §2. The public projection. -/

def jsonString (value : Bytes) : Bytes := [quote] ++ escape value ++ [quote]

def jsonBool (b : Bool) : Bytes := if b then ascii "true" else ascii "false"

/-- `safe_reasoning_text`. -/
def safeReasoningText (r : OutputReasoning) : Bytes :=
  if r.redacted || r.text.isEmpty then
    ascii "[Provider-private reasoning metadata omitted from portable export.]"
  else r.text

/-- `logical_reasoning_data_json`. -/
def logicalReasoningDataJson (r : OutputReasoning) (commit : AssistantTurnCommit) : Bytes :=
  ascii "\x7b\"provider\":" ++ jsonString commit.provider ++
  ascii ",\"model\":" ++ jsonString commit.model ++ ascii ",\"format\":" ++ jsonString r.format ++
  ascii ",\"text\":" ++ jsonString (safeReasoningText r) ++
  ascii ",\"redacted\":" ++ jsonBool r.redacted ++
  ascii ",\"private_replay_metadata_omitted\":\x7b\"native_item_json\":" ++
  jsonBool r.nativeItemJson.isSome ++ ascii ",\"signature\":" ++ jsonBool r.signature.isSome ++
  ascii ",\"redacted_data\":" ++ jsonBool r.redactedData.isSome ++ ascii "\x7d\x7d"

/-- `ordered_text_data_json`. -/
def orderedTextDataJson (text : Bytes) (phase : TextPhase) : Bytes :=
  ascii "\x7b\"text\":" ++ jsonString text ++ ascii ",\"tool_calls\":0,\"assistant_phase\":" ++
  jsonString phase.toBytes ++ ascii "\x7d"

/-- `logical_tool_call_data_json`. -/
def logicalToolCallDataJson (f : OutputFunctionCall) : Bytes :=
  ascii "\x7b\"call_id\":" ++ jsonString f.callId ++ ascii ",\"name\":" ++ jsonString f.name ++
  ascii ",\"arguments\":" ++ jsonString f.argumentsJson ++ ascii "\x7d"

/-- `sanitize_session_error_for_public_projection`, on an error entry. -/
def sanitizeSessionError (entry : SessionEntry) : SessionEntry :=
  let omission := jsonString (ascii "[Session error diagnostics omitted from public projection.]")
  { entry with
    dataJson := ascii "\x7b\"category\":\"unknown\",\"message\":" ++ omission ++
      ascii ",\"details\":" ++ omission ++ ascii "\x7d" }

/-- The public entry of one item of a committed turn. -/
def publicItem (commit : AssistantTurnCommit) (source : SessionEntry) (o : CommittedItem) :
    SessionEntry :=
  let (type, dataJson) :=
    match o.item.payload with
    | .text text phase => (EntryType.assistantMessage, orderedTextDataJson text phase)
    | .reasoning r => (.reasoningBlock, logicalReasoningDataJson r commit)
    | .functionCall f => (.toolCall, logicalToolCallDataJson f)
  { id := o.entryId, parentId := source.parentId, type, timestamp := source.timestamp, dataJson }

/-- `clear_omitted_parent_references`. -/
def clearOmittedParentReferences : List Bytes → List SessionEntry → List SessionEntry
  | _, [] => []
  | emitted, e :: rest =>
    (if e.parentId.isEmpty || emitted.contains e.parentId then e else { e with parentId := [] }) ::
      clearOmittedParentReferences (e.id :: emitted) rest

-- `sanitized_tool_result_data_json`: nothing below depends on the text it gives a tool result.
variable (toolResultData : SessionEntry → Bytes) (entries : List SessionEntry)

/-- One round of the loop of `project_ordered_public_session_history`.  The index of an item is
    always that of an entry. -/
def publicEntries (x : SessionEntry × Nat) : List SessionEntry :=
  match x.1.type with
  | .assistantOutputItem => []
  | .assistantTurnCommit =>
    match (classifyAssistantOutput entries).findTurnByCommitIndex x.2 with
    | none => []
    | some turn =>
      turn.items.filterMap fun o => entries[o.entryIndex]?.map fun source =>
        publicItem turn.commit source o
  | .toolResult => [{ x.1 with dataJson := toolResultData x.1 }]
  | .error => [sanitizeSessionError x.1]
  | _ => [x.1]

/-- `project_ordered_public_session_history`. -/
def projectOrderedPublicSessionHistory : Result (List SessionEntry) :=
  match (classifyAssistantOutput entries).diagnostics.find? (·.severity = .error) with
  | some d =>
    .error ((((sessionError "cannot project malformed assistant-output session history")
      |>.withContext "diagnostic_kind" d.kind.toBytes)
      |>.withContext "diagnostic_entry_id" d.entryId)
      |>.withContext "diagnostic" d.message)
  | none =>
    .ok (clearOmittedParentReferences []
      (entries.zipIdx.flatMap (publicEntries toolResultData entries)))

/-! ## §3. The three boundaries. -/

/-- `valid_compaction_boundary`, and the same test in `physical_active_compaction_tail`. -/
def validCompactionBoundary (entry : SessionEntry) : Bool :=
  entry.type = .compaction && isValidObject entry.dataJson &&
    !(stringFieldOrEmpty entry.dataJson "summary").isEmpty

/-- The boundary of `project_history_for_request`. -/
def requestBoundary : Result (Option Nat) :=
  match (classifyAssistantOutput entries).diagnostics.find? fun d => !d.isIncomplete with
  | some d =>
    .error (((sessionError
        "session v4 assistant-output records are malformed for provider replay")
      |>.withContext "diagnostic" d.message)
      |>.withContext "entry_id" d.entryId)
  | none => .ok (lastIdx? (·.type = .compaction) entries)

/-- From the boundary on, or everything. -/
def fromBoundary (boundary : Option Nat) (l : List SessionEntry) : List SessionEntry :=
  l.drop (boundary.getD 0)

/-- `physical_active_compaction_tail`. -/
def physicalActiveCompactionTail : List SessionEntry :=
  fromBoundary (lastIdx? validCompactionBoundary entries) entries

/-- `project_active_compaction_context`. -/
def projectActiveCompactionContext : Result (List SessionEntry) :=
  (projectOrderedPublicSessionHistory toolResultData entries).map fun projected =>
    fromBoundary (lastIdx? validCompactionBoundary projected) projected

/-- Where the public entries of the entry at `i` start in the projection. -/
def publicPosition (i : Nat) : Nat :=
  ((entries.zipIdx.take i).flatMap (publicEntries toolResultData entries)).length

/-- The request starts at `boundary`, and so do the summarised entries and the counted ones. -/
structure OneBoundary (boundary : Option Nat) (projected : List SessionEntry) : Prop where
  projection : projectOrderedPublicSessionHistory toolResultData entries = .ok projected
  request : requestBoundary entries = .ok boundary
  physical : lastIdx? validCompactionBoundary entries = boundary
  active : lastIdx? validCompactionBoundary projected =
    boundary.map (publicPosition toolResultData entries)
  tail : physicalActiveCompactionTail entries = fromBoundary boundary entries
  context : projectActiveCompactionContext toolResultData entries =
    .ok (fromBoundary (boundary.map (publicPosition toolResultData entries)) projected)

/-! ## §4. The boundaries agree. -/

/-- Only the parents change. -/
theorem lastIdx?_clear (emitted : List Bytes) (l : List SessionEntry) :
    lastIdx? validCompactionBoundary (clearOmittedParentReferences emitted l) =
      lastIdx? validCompactionBoundary l := by
  induction l generalizing emitted with
  | nil => rfl
  | cons e rest ih =>
    rw [clearOmittedParentReferences, lastIdx?, lastIdx?, ih]
    split <;> rfl

/-- A compaction is its own public entry, and no other entry has a public one that is a compaction. -/
theorem lastIdx?_publicEntries (x : SessionEntry × Nat) :
    lastIdx? validCompactionBoundary (publicEntries toolResultData entries x) =
      if validCompactionBoundary x.1 then some 0 else none := by
  have hother : x.1.type ≠ .compaction →
      ∀ e ∈ publicEntries toolResultData entries x, e.type ≠ .compaction := by
    intro htype e he
    unfold publicEntries at he
    split at he
    · cases he
    · split at he
      · cases he
      next turn _ =>
        obtain ⟨o, -, ho⟩ := List.mem_filterMap.mp he
        obtain ⟨source, -, rfl⟩ := Option.map_eq_some_iff.mp ho
        unfold publicItem
        cases o.item.payload <;> exact nofun
    all_goals
      obtain rfl := List.mem_singleton.mp he
      exact htype
  by_cases htype : x.1.type = .compaction
  · rw [publicEntries, htype]
    rfl
  · have hnot : ∀ e : SessionEntry, e.type ≠ .compaction → validCompactionBoundary e = false := by
      intro e he
      simp [validCompactionBoundary, he]
    rw [hnot _ htype, lastIdx?_eq_none_iff.mpr fun e he => hnot e (hother htype e he)]
    rfl

variable {entries}

/-- A history without errors is projected, and its last boundary is where the physical one goes. -/
theorem projection_of_errorFree (hfree : (classifyAssistantOutput entries).errorFree = true) :
    ∃ projected, projectOrderedPublicSessionHistory toolResultData entries = .ok projected ∧
      lastIdx? validCompactionBoundary projected =
        (lastIdx? validCompactionBoundary entries).map (publicPosition toolResultData entries) := by
  have hfind : (classifyAssistantOutput entries).diagnostics.find? (·.severity = .error) = none := by
    rw [List.find?_eq_none]
    intro d hd
    have hwarning := List.all_eq_true.mp hfree d hd
    simp_all
  have hfst : lastIdx? (fun x => validCompactionBoundary x.1) entries.zipIdx =
      lastIdx? validCompactionBoundary entries := by
    conv_rhs => rw [← List.zipIdx_map_fst 0 entries, lastIdx?_map]
    rfl
  refine ⟨_, by rw [projectOrderedPublicSessionHistory, hfind], ?_⟩
  rw [lastIdx?_clear, lastIdx?_flatMap (lastIdx?_publicEntries toolResultData entries), hfst]
  rfl

theorem requestBoundary_of_errorFree
    (hfree : (classifyAssistantOutput entries).errorFree = true) :
    requestBoundary entries = .ok (lastIdx? (·.type = .compaction) entries) := by
  have hclean := (errorFree_iff_clean entries).mp hfree
  have hfind : (classifyAssistantOutput entries).diagnostics.find? (fun d => !d.isIncomplete)
      = none := by
    rw [classifyAssistantOutput_eq, hclean.silent, List.nil_append, List.find?_eq_none]
    intro d hd
    simp [(finalDiagnostics_of_clean hclean).1 d hd]
  rw [requestBoundary, hfind]

/-- A compaction without a summary, and one with a summary. -/
def emptyCompaction : SessionEntry := { plainEntry with id := ascii "e2", type := .compaction }

def summarised : SessionEntry :=
  { emptyCompaction with dataJson := ascii "\x7b\"summary\":\"s\"\x7d" }

/-- An ephemeral session; the external parser reports the same events on every line. -/
def ephemeral : Target := { lease := none }

def plainStore : StoreConfig :=
  { twoLineStore with
    sax := fun _ =>
      { events := envelopeEvents ++ [.startObject, .endObject, .endObject], ok := true } }

end Ava.Agent
