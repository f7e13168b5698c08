/-
  Ava.Agent.AssistantTurn
  **FROM STREAM EVENTS TO AN ASSISTANT TURN** (`agent/assistant_turn.cpp`).

  Every provider family ends in one list of `StreamEvent`s; `parse_assistant_turn` assembles the
  ordered items of the turn from it.  Native items carry an identity and must open and close; legacy
  families have bare deltas.

    - §1 limits and identities; §2 items and the state of the assembly;
    - §3 one event; §4 the whole list;
    - §5 the events of one native item append one item.
-/
import Mathlib.Data.List.Induction
import Mathlib.Data.List.Sort
import Ava.Lib.Table
import Ava.Provider.StreamEvent

namespace Ava.Agent

open Ava.Core Ava.Provider
open Ava.Lib (Table)

/-! ## §1. Limits and identities. -/

/-- `ProviderOutputLimits`; zero means no limit. -/
structure ProviderOutputLimits where
  maxEvents : Nat := 0
  maxAssistantTextBytes : Nat := 0
  maxToolArgumentBytes : Nat := 0
deriving Repr, DecidableEq

/-- `would_exceed`. -/
def wouldExceed (current added limit : Nat) : Bool :=
  decide (limit > 0) && (decide (current > limit) || decide (added > limit - current))

/-- `safe_summary_text` with its default bound. -/
def safeSummaryText (text : Bytes) : Bytes :=
  let text := text.map fun c => if isC0OrDel c then 63 else c
  if text.length ≤ 80 then text else text.take 77 ++ ascii "..."

/-- `validate_provider_tool_call_id`. -/
def validateProviderToolCallId (id : Bytes) : Result Unit :=
  if id.isEmpty then
    .error { category := .invalidArgument, message := ascii "provider tool call id is empty" }
  else if id.length > 256 then
    .error (Error.withContext
      { category := .invalidArgument, message := ascii "provider tool call id is too long" }
      "max_bytes" (decimal 256))
  else if !hasC0OrDel id then .ok ()
  else
    .error (Error.withContext
      { category := .invalidArgument
        message := ascii "provider tool call id contains a forbidden control byte" }
      "call_id" (safeSummaryText id))

/-- `turn_error`, and the other errors of category Provider. -/
def turnError (message : String) : Error := { category := .provider, message := ascii message }

/-- `output_limit_error`. -/
def outputLimitError (message limitName : String) (limit : Nat) : Error :=
  (turnError message).withContext limitName (decimal limit)

/-! ## §2. Items and the state of the assembly. -/

/-- `ParsedReasoningBlock`. -/
structure ParsedReasoningBlock where
  text : Bytes := []
  format : Bytes := []
  signature : Bytes := []
  redactedData : Bytes := []
  nativeItemJson : Bytes := []
  redacted : Bool := false
deriving Repr, DecidableEq

/-- `ProviderToolCall`. -/
structure ProviderToolCall where
  id : Bytes
  name : Bytes
  argumentsJson : Bytes
deriving Repr, DecidableEq

/-- `AssistantItemMetadata`. -/
structure AssistantItemMetadata where
  providerItemId : Bytes := []
  providerOutputIndex : Option Nat := none
  phase : AssistantPhase := .unknown
deriving Repr, DecidableEq

/-- The content of an item. -/
inductive AssistantContent where
  | text (text : Bytes)
  | reasoning (reasoning : ParsedReasoningBlock)
  | functionCall (call : ProviderToolCall)
deriving Repr, DecidableEq

/-- `AssistantItem`. -/
structure AssistantItem where
  metadata : AssistantItemMetadata := {}
  content : AssistantContent
deriving Repr, DecidableEq

/-- `ParsedAssistantTurn`.  The sequence number of an ordered item is its position, and the
    aggregates of the source are read off the ordered items (`text`, `toolCalls`). -/
structure ParsedAssistantTurn where
  orderedItems : List AssistantItem := []
  usage : Option TokenUsage := none
  finishReason : Option ProviderFinishReason := none
deriving Repr, DecidableEq

/-- `ActiveItem` and `ActiveFunctionCall`. -/
structure ActiveItem where
  orderedItemIndex : Nat
  metadata : AssistantItemMetadata
  nativeLifecycle : Bool
  completed : Bool := false
deriving Repr, DecidableEq

/-- The local variables of `parse_assistant_turn`. -/
structure TurnState where
  turn : ParsedAssistantTurn := {}
  providerItemIds : List Bytes := []
  providerOutputIndexes : List Nat := []
  activeTextItems : Table Bytes ActiveItem := []
  activeLegacyTextItem : Option ActiveItem := none
  synthesizedLegacyTextItem : Option Nat := none
  activeReasoningItem : Option ActiveItem := none
  activeFunctionCalls : Table Bytes ActiveItem := []
  assistantTextBytes : Nat := 0
  done : Bool := false
deriving Repr, DecidableEq

/-- The metadata of an event. -/
def eventMetadata (event : StreamEvent) : AssistantItemMetadata :=
  ⟨event.providerItemId, event.providerOutputIndex, event.assistantPhase⟩

/-- `has_native_metadata`. -/
def hasNativeMetadata (metadata : AssistantItemMetadata) : Bool :=
  !metadata.providerItemId.isEmpty || metadata.providerOutputIndex.isSome || metadata.phase != .unknown

namespace TurnState

/-- `append_item`: the item and its position. -/
def appendItem (s : TurnState) (item : AssistantItem) : Nat × TurnState :=
  (s.turn.orderedItems.length,
    { s with turn := { s.turn with orderedItems := s.turn.orderedItems ++ [item] } })

/-- Change the item at a position. -/
def modifyItem (s : TurnState) (index : Nat) (f : AssistantItem → AssistantItem) : TurnState :=
  { s with turn := { s.turn with orderedItems := s.turn.orderedItems.modify index f } }

/-- `validate_start_metadata`.  Every phase of the model is a valid one. -/
def validateStartMetadata (s : TurnState) (metadata : AssistantItemMetadata) : Result TurnState :=
  if metadata.providerItemId.isEmpty then
    if hasNativeMetadata metadata then
      .error (turnError "provider output item metadata requires a nonempty provider item ID")
    else .ok s
  else if s.providerItemIds.contains metadata.providerItemId then
    .error (turnError "provider output item ID is duplicated in one assistant turn")
  else
    let s := { s with providerItemIds := s.providerItemIds ++ [metadata.providerItemId] }
    match metadata.providerOutputIndex with
    | none => .ok s
    | some index =>
      if s.providerOutputIndexes.contains index then
        .error (turnError "provider output item index is duplicated in one assistant turn")
      else .ok { s with providerOutputIndexes := s.providerOutputIndexes ++ [index] }

end TurnState

/-- `validate_event_metadata`. -/
def validateEventMetadata (active : AssistantItemMetadata) (event : StreamEvent) : Result Unit :=
  if !active.providerItemId.isEmpty && event.providerItemId != active.providerItemId then
    .error (turnError "provider output item ID changed or was omitted during its lifecycle")
  else if event.providerOutputIndex ≠ active.providerOutputIndex then
    .error (turnError "provider output item index changed or was omitted during its lifecycle")
  else if event.assistantPhase ≠ active.phase then
    .error (turnError "provider output item assistant phase changed or was omitted during its lifecycle")
  else if active.providerItemId.isEmpty && hasNativeMetadata (eventMetadata event) then
    .error (turnError "legacy provider output lifecycle acquired native metadata")
  else .ok ()

/-! ## §3. One event. -/

variable (limits : ProviderOutputLimits) (s : TurnState)

/-- `append_text`. -/
def appendText (index : Nat) (text : Bytes) : Result TurnState :=
  if wouldExceed s.assistantTextBytes text.length limits.maxAssistantTextBytes then
    .error (outputLimitError "assistant text byte limit exceeded" "max_assistant_text_bytes"
      limits.maxAssistantTextBytes)
  else
    match s.turn.orderedItems[index]? with
    | some { content := .text _, .. } =>
      .ok { s.modifyItem index fun item =>
          match item.content with
          | .text old => { item with content := .text (old ++ text) }
          | _ => item with
        assistantTextBytes := s.assistantTextBytes + text.length }
    | _ => .error (turnError "internal assistant text lifecycle mismatch")

/-- `validate_text_event`: a native item without a phase takes the phase of its first event that has
    one. -/
def validateTextEvent (active : ActiveItem) (event : StreamEvent) :
    Result (ActiveItem × TurnState) :=
  if !active.metadata.providerItemId.isEmpty && active.metadata.phase == .unknown &&
      event.assistantPhase != .unknown then
    let active := { active with metadata := { active.metadata with phase := event.assistantPhase } }
    let s := s.modifyItem active.orderedItemIndex fun item =>
      { item with metadata := { item.metadata with phase := event.assistantPhase } }
    (validateEventMetadata active.metadata event).map fun _ => (active, s)
  else (validateEventMetadata active.metadata event).map fun _ => (active, s)

/-- `TextStart`. -/
def textStart (event : StreamEvent) : Result TurnState :=
  let metadata := eventMetadata event
  match s.validateStartMetadata metadata with
  | .error e => .error e
  | .ok s =>
    let nativeLifecycle := !metadata.providerItemId.isEmpty
    if nativeLifecycle && (List.lookup metadata.providerItemId s.activeTextItems).isSome then
      .error (turnError "provider text item started twice before completion")
    else if !nativeLifecycle && s.activeLegacyTextItem.isSome then
      .error (turnError "legacy provider text item started twice before completion")
    else
      let (index, s) := s.appendItem { metadata := metadata, content := .text [] }
      let active : ActiveItem := ⟨index, metadata, nativeLifecycle, false⟩
      if nativeLifecycle then
        .ok { s with activeTextItems := s.activeTextItems.set metadata.providerItemId active }
      else .ok { s with activeLegacyTextItem := some active }

/-- `TextDelta`. -/
def textDelta (event : StreamEvent) : Result TurnState :=
  if !event.providerItemId.isEmpty then
    match List.lookup event.providerItemId s.activeTextItems with
    | none => .error (turnError "provider text delta references an unopened or completed item")
    | some active =>
      match validateTextEvent s active event with
      | .error e => .error e
      | .ok (active, s) =>
        appendText limits
          { s with activeTextItems := s.activeTextItems.set event.providerItemId active }
          active.orderedItemIndex event.text
  else
    match s.activeLegacyTextItem with
    | some active =>
      match validateTextEvent s active event with
      | .error e => .error e
      | .ok (active, s) =>
        appendText limits { s with activeLegacyTextItem := some active } active.orderedItemIndex
          event.text
    | none =>
      if !s.activeTextItems.isEmpty || event.providerOutputIndex.isSome ||
          event.assistantPhase != .unknown then
        .error (turnError "provider text delta has native metadata without a TextStart lifecycle event")
      else
        match s.synthesizedLegacyTextItem with
        | some index => appendText limits s index event.text
        | none =>
          let (index, s) := s.appendItem { content := .text [] }
          appendText limits { s with synthesizedLegacyTextItem := some index } index event.text

/-- `TextEnd`. -/
def textEnd (event : StreamEvent) : Result TurnState :=
  if !event.providerItemId.isEmpty then
    match List.lookup event.providerItemId s.activeTextItems with
    | none => .error (turnError "provider text item ended without a matching TextStart")
    | some active =>
      match validateTextEvent s active event with
      | .error e => .error e
      | .ok (_, s) =>
        .ok { s with
          activeTextItems := s.activeTextItems.filter fun entry => entry.1 != event.providerItemId }
  else
    match s.activeLegacyTextItem with
    | none => .error (turnError "legacy provider text item ended without a matching TextStart")
    | some active =>
      match validateTextEvent s active event with
      | .error e => .error e
      | .ok (_, s) => .ok { s with activeLegacyTextItem := none }

/-- `start_reasoning`. -/
def startReasoning (event : StreamEvent) (nativeLifecycle : Bool) : Result TurnState :=
  let metadata := eventMetadata event
  match s.validateStartMetadata metadata with
  | .error e => .error e
  | .ok s =>
    let reasoning : ParsedReasoningBlock :=
      { format := event.reasoningFormat
        signature := event.reasoningSignature
        redactedData := event.reasoningRedactedData
        nativeItemJson := event.reasoningNativeItemJson
        redacted := event.redacted }
    let privateBytes := event.reasoningSignature.length + event.reasoningRedactedData.length +
      event.reasoningNativeItemJson.length
    if wouldExceed 0 privateBytes limits.maxAssistantTextBytes then
      .error (outputLimitError "reasoning byte limit exceeded" "max_assistant_text_bytes"
        limits.maxAssistantTextBytes)
    else
      let (index, s) := s.appendItem { metadata := metadata, content := .reasoning reasoning }
      .ok { s with activeReasoningItem := some ⟨index, metadata, nativeLifecycle, false⟩ }

/-- `ReasoningStart`. -/
def reasoningStart (event : StreamEvent) : Result TurnState :=
  let nativeLifecycle := hasNativeMetadata (eventMetadata event)
  match s.activeReasoningItem with
  | some active =>
    if active.nativeLifecycle || nativeLifecycle then
      .error (turnError "provider reasoning item started before the prior item completed")
    else startReasoning limits { s with activeReasoningItem := none } event nativeLifecycle
  | none => startReasoning limits s event nativeLifecycle

/-- `reasoning_block_bytes`. -/
def reasoningBlockBytes (block : ParsedReasoningBlock) : Nat :=
  block.text.length + block.signature.length + block.redactedData.length +
    block.nativeItemJson.length

/-- What a reasoning event does to its block. -/
def ParsedReasoningBlock.take (block : ParsedReasoningBlock) (event : StreamEvent) :
    ParsedReasoningBlock :=
  let block :=
    { block with
      format := if block.format.isEmpty then event.reasoningFormat else block.format
      redacted := block.redacted || event.redacted }
  if event.type = .reasoningDelta then { block with text := block.text ++ event.text }
  else
    { block with
      signature :=
        if event.reasoningSignature.isEmpty then block.signature else event.reasoningSignature
      redactedData :=
        if event.reasoningRedactedData.isEmpty then block.redactedData
        else event.reasoningRedactedData
      nativeItemJson :=
        if event.reasoningNativeItemJson.isEmpty then block.nativeItemJson
        else event.reasoningNativeItemJson }

/-- `ReasoningDelta` and `ReasoningEnd`, for the active item. -/
def continueReasoning (active : ActiveItem) (event : StreamEvent) : Result TurnState :=
  match validateEventMetadata active.metadata event with
  | .error e => .error e
  | .ok () =>
    match s.turn.orderedItems[active.orderedItemIndex]? with
    | some { content := .reasoning block, .. } =>
      if event.type = .reasoningDelta ∧
          wouldExceed block.text.length event.text.length limits.maxAssistantTextBytes = true then
        .error (outputLimitError "reasoning text byte limit exceeded" "max_assistant_text_bytes"
          limits.maxAssistantTextBytes)
      else if limits.maxAssistantTextBytes > 0 ∧
          reasoningBlockBytes (block.take event) > limits.maxAssistantTextBytes then
        .error (outputLimitError "reasoning byte limit exceeded" "max_assistant_text_bytes"
          limits.maxAssistantTextBytes)
      else
        let s := s.modifyItem active.orderedItemIndex fun item =>
          { item with content := .reasoning (block.take event) }
        .ok { s with
          activeReasoningItem := if event.type = .reasoningEnd then none else some active }
    | _ => .error (turnError "internal assistant reasoning lifecycle mismatch")

/-- `ReasoningDelta` and `ReasoningEnd`. -/
def reasoningEvent (event : StreamEvent) : Result TurnState :=
  match s.activeReasoningItem with
  | some active => continueReasoning limits s active event
  | none =>
    if hasNativeMetadata (eventMetadata event) then
      .error (turnError "provider reasoning lifecycle event has no matching ReasoningStart")
    else
      match startReasoning limits s event false with
      | .error e => .error e
      | .ok s =>
        match s.activeReasoningItem with
        | some active => continueReasoning limits s active event
        | none => .ok s

/-- `ToolCallStart`. -/
def toolCallStart (event : StreamEvent) : Result TurnState :=
  match validateProviderToolCallId event.toolCallId with
  | .error e => .error e
  | .ok () =>
    let metadata := eventMetadata event
    if (List.lookup event.toolCallId s.activeFunctionCalls).isSome then
      .error (turnError "provider function call started twice before completion")
    else
      match s.validateStartMetadata metadata with
      | .error e => .error e
      | .ok s =>
        let (index, s) := s.appendItem
          { metadata := metadata
            content := .functionCall ⟨event.toolCallId, event.toolName, []⟩ }
        .ok { s with
          activeFunctionCalls :=
            s.activeFunctionCalls.set event.toolCallId
              ⟨index, metadata, hasNativeMetadata metadata, false⟩ }

/-- `ToolCallDelta` and `ToolCallEnd`, for a call that has started. -/
def continueToolCall (active : ActiveItem) (event : StreamEvent) : Result TurnState :=
  if active.completed then
    .error (turnError "provider function call emitted data after completion")
  else
    match validateEventMetadata active.metadata event with
    | .error e => .error e
    | .ok () =>
      match s.turn.orderedItems[active.orderedItemIndex]? with
      | some { content := .functionCall call, .. } =>
        if event.type = .toolCallDelta then
          if wouldExceed call.argumentsJson.length event.text.length
              limits.maxToolArgumentBytes then
            .error (outputLimitError "tool argument byte limit exceeded"
              "max_tool_argument_bytes" limits.maxToolArgumentBytes)
          else
            .ok (s.modifyItem active.orderedItemIndex fun item =>
              { item with
                content := .functionCall
                  { call with argumentsJson := call.argumentsJson ++ event.text } })
        else
          .ok { s with
            activeFunctionCalls :=
              s.activeFunctionCalls.set event.toolCallId { active with completed := true } }
      | _ => .error (turnError "internal assistant function-call lifecycle mismatch")

/-- `ToolCallDelta` and `ToolCallEnd`. -/
def toolCallEvent (event : StreamEvent) : Result TurnState :=
  match validateProviderToolCallId event.toolCallId with
  | .error e => .error e
  | .ok () =>
    match List.lookup event.toolCallId s.activeFunctionCalls with
    | some active => continueToolCall limits s active event
    | none =>
      if hasNativeMetadata (eventMetadata event) then
        .error (turnError "provider function call lifecycle event has no matching ToolCallStart")
      else if event.type = .toolCallEnd then .ok s
      else
        let (index, s) := s.appendItem
          { content := .functionCall ⟨event.toolCallId, event.toolName, []⟩ }
        let active : ActiveItem := ⟨index, {}, false, false⟩
        continueToolCall limits
          { s with activeFunctionCalls := s.activeFunctionCalls.set event.toolCallId active }
          active event

/-- `saturating_add` of token counts. -/
def saturatingAdd (left right : Int) : Int := max (-(2 : Int) ^ 63) (min (2 ^ 63 - 1) (left + right))

/-- `with_total_tokens`. -/
def withTotalTokens (usage : TokenUsage) : TokenUsage :=
  match usage.totalTokens, usage.inputTokens, usage.outputTokens with
  | none, some input, some output => { usage with totalTokens := some (saturatingAdd input output) }
  | _, _, _ => usage

/-- One round of the loop of `parse_assistant_turn`. -/
def turnEvent (event : StreamEvent) : Result TurnState :=
  let s :=
    match event.type with
    | .textDelta | .textEnd | .done | .error => s
    | _ => { s with synthesizedLegacyTextItem := none }
  if s.done then .error (turnError "provider emitted an event after the terminal outcome")
  else
    let s :=
      match event.usage with
      | some usage => { s with turn := { s.turn with usage := some (withTotalTokens usage) } }
      | none => s
    match event.type with
    | .textStart => textStart s event
    | .textDelta => textDelta limits s event
    | .textEnd => textEnd s event
    | .reasoningStart => reasoningStart limits s event
    | .reasoningDelta => reasoningEvent limits s event
    | .reasoningEnd => reasoningEvent limits s event
    | .toolCallStart => toolCallStart s event
    | .toolCallDelta => toolCallEvent limits s event
    | .toolCallEnd => toolCallEvent limits s event
    | .done =>
      .ok { s with
        done := true
        turn := { s.turn with finishReason := event.finishReason.or s.turn.finishReason } }
    | .error =>
      .error ((turnError "provider stream error").withContext "message"
        (ascii "provider streaming diagnostic omitted"))

/-! ## §4. The whole list. -/

/-- The reordering of `rebuild_legacy_aggregates`: by output index, if every item has one. -/
def orderItems (items : List AssistantItem) : List AssistantItem :=
  if items.all fun item => item.metadata.providerOutputIndex.isSome then
    items.mergeSort fun left right =>
      decide (left.metadata.providerOutputIndex.getD 0 ≤ right.metadata.providerOutputIndex.getD 0)
  else items

/-- `turn.tool_calls`. -/
def toolCalls (items : List AssistantItem) : List ProviderToolCall :=
  items.filterMap fun item =>
    match item.content with
    | .functionCall call => some call
    | _ => none

/-- The checks after the loop. -/
def finishTurn (noEvents : Bool) : Result ParsedAssistantTurn :=
  if !s.activeTextItems.isEmpty || s.activeLegacyTextItem.isSome then
    .error (turnError "provider response ended with an unbalanced text item lifecycle")
  else if s.activeReasoningItem.any (·.nativeLifecycle) then
    .error (turnError "provider response ended with an unbalanced reasoning item lifecycle")
  else if s.activeFunctionCalls.any fun entry => entry.2.nativeLifecycle && !entry.2.completed then
    .error (turnError "provider response ended before a function call completed")
  else if !s.done then
    .error (turnError
      (if noEvents then "provider response was empty"
        else "provider response ended without a terminal outcome"))
  else if s.turn.finishReason = none ∨ s.turn.finishReason = some .error then
    .error (turnError "provider returned a failed or unrecognized terminal outcome")
  else
    let items := orderItems s.turn.orderedItems
    if s.turn.finishReason = some .toolCalls ∧ toolCalls items = [] then
      .error (turnError "provider reported tool calls without a valid tool call")
    else .ok { s.turn with orderedItems := items }

/-- `parse_assistant_turn`. -/
def parseAssistantTurn (events : List StreamEvent) (limits : ProviderOutputLimits) :
    Result ParsedAssistantTurn :=
  if limits.maxEvents > 0 ∧ events.length > limits.maxEvents then
    .error (Error.withContext
      { category := .provider
        message := ascii "provider output event limit exceeded"
        code := .providerEventLimit }
      "max_provider_events" (decimal limits.maxEvents))
  else
    match events.foldlM (turnEvent limits) {} with
    | .error e => .error e
    | .ok s => finishTurn s events.isEmpty

/-! ## §5. The events of one native item. -/

/-- A native item as it is streamed: its metadata, and its text in pieces. -/
inductive Block where
  | text (metadata : AssistantItemMetadata) (pieces : List Bytes)
  | reasoning (metadata : AssistantItemMetadata) (format nativeJson : Bytes) (pieces : List Bytes)
  | functionCall (metadata : AssistantItemMetadata) (callId name : Bytes) (pieces : List Bytes)

namespace Block

def metadata : Block → AssistantItemMetadata
  | .text m _ => m
  | .reasoning m _ _ _ => m
  | .functionCall m _ _ _ => m

/-- An event with the metadata of an item. -/
def event (m : AssistantItemMetadata) (type : StreamEventType) (text : Bytes) : StreamEvent where
  type := type
  text := text
  providerItemId := m.providerItemId
  providerOutputIndex := m.providerOutputIndex
  assistantPhase := m.phase

/-- An event of a reasoning item. -/
def reasoningEvent (m : AssistantItemMetadata) (format : Bytes) (type : StreamEventType)
    (text : Bytes) : StreamEvent :=
  { event m type text with reasoningFormat := format }

/-- The last event of a reasoning item. -/
def reasoningEndEvent (m : AssistantItemMetadata) (format nativeJson : Bytes) : StreamEvent :=
  { reasoningEvent m format .reasoningEnd [] with reasoningNativeItemJson := nativeJson }

/-- An event of a function call. -/
def callEvent (m : AssistantItemMetadata) (callId : Bytes) (type : StreamEventType)
    (toolName text : Bytes) : StreamEvent :=
  { event m type text with toolCallId := callId, toolName := toolName }

/-- The events of an item. -/
def events : Block → List StreamEvent
  | .text m pieces =>
    [event m .textStart []] ++ pieces.map (event m .textDelta) ++ [event m .textEnd []]
  | .reasoning m format nativeJson pieces =>
    [reasoningEvent m format .reasoningStart []] ++
      pieces.map (reasoningEvent m format .reasoningDelta) ++ [reasoningEndEvent m format nativeJson]
  | .functionCall m callId name pieces =>
    [callEvent m callId .toolCallStart name []] ++ pieces.map (callEvent m callId .toolCallDelta []) ++
      [callEvent m callId .toolCallEnd [] []]

/-- The item of the turn. -/
def item : Block → AssistantItem
  | .text m pieces => ⟨m, .text pieces.flatten⟩
  | .reasoning m format nativeJson pieces =>
    ⟨m, .reasoning { text := pieces.flatten, format := format, nativeItemJson := nativeJson }⟩
  | .functionCall m callId name pieces => ⟨m, .functionCall ⟨callId, name, pieces.flatten⟩⟩

/-- The bytes of message text. -/
def textBytes : Block → Nat
  | .text _ pieces => pieces.flatten.length
  | _ => 0

/-- The limits of one item: those of a reasoning block and of the arguments of a call. -/
def Fits (limits : ProviderOutputLimits) : Block → Prop
  | .text _ _ => True
  | .reasoning _ _ nativeJson pieces =>
    limits.maxAssistantTextBytes = 0 ∨
      pieces.flatten.length + nativeJson.length ≤ limits.maxAssistantTextBytes
  | .functionCall _ _ _ pieces =>
    limits.maxToolArgumentBytes = 0 ∨ pieces.flatten.length ≤ limits.maxToolArgumentBytes

/-- The logical identity of a call. -/
def callId? : Block → Option Bytes
  | .functionCall _ callId _ _ => some callId
  | _ => none

end Block

theorem wouldExceed_eq_false {current added limit : Nat} (h : limit = 0 ∨ current + added ≤ limit) :
    wouldExceed current added limit = false := by
  unfold wouldExceed
  rcases h with h | h
  · simp [h]
  · simp only [Bool.and_eq_false_iff, decide_eq_false_iff_not, Bool.or_eq_false_iff]
    omega

theorem modify_concat {α : Type} (l : List α) (a : α) (f : α → α) :
    (l ++ [a]).modify l.length f = l ++ [f a] := by
  induction l with
  | nil => rfl
  | cons b l ih => simp [ih]

/-- A text that comes in pieces, each taken while the whole is within its limit. -/
theorem foldlM_pieces {σ α ε : Type} {step : σ → α → Except ε σ} {event : Bytes → α}
    {base limit : Nat} (state : Bytes → σ)
    (hstep : ∀ text piece : Bytes, (limit = 0 ∨ base + (text ++ piece).length ≤ limit) →
      step (state text) (event piece) = .ok (state (text ++ piece))) (pieces : List Bytes)
    (hfits : limit = 0 ∨ base + pieces.flatten.length ≤ limit) :
    (pieces.map event).foldlM step (state []) = .ok (state pieces.flatten) := by
  induction pieces using List.reverseRecOn with
  | nil => rfl
  | append_singleton pieces piece ih =>
    rw [List.flatten_concat] at hfits ⊢
    have hbefore := ih (by rw [List.length_append] at hfits; omega)
    rw [List.map_append, List.foldlM_append, hbefore]
    show [event piece].foldlM step (state pieces.flatten) = _
    rw [List.foldlM_cons, hstep _ _ hfits]
    rfl

/-- The state between two native items. -/
def idle (items : List AssistantItem) (ids : List Bytes) (indexes : List Nat)
    (calls : Table Bytes ActiveItem) (bytes : Nat) : TurnState where
  turn := { orderedItems := items }
  providerItemIds := ids
  providerOutputIndexes := indexes
  activeFunctionCalls := calls
  assistantTextBytes := bytes

variable {callId : Bytes}

section OneItem

variable {limits : ProviderOutputLimits} {items : List AssistantItem} {ids : List Bytes}
  {indexes : List Nat} {calls : Table Bytes ActiveItem} {bytes : Nat}
  {m : AssistantItemMetadata} {index : Nat}

/-- An identified item whose identity and index are not among those met so far. -/
structure FreshItem (ids : List Bytes) (indexes : List Nat) (m : AssistantItemMetadata)
    (index : Nat) : Prop where
  identified : m.providerItemId ≠ []
  id : m.providerItemId ∉ ids
  indexed : m.providerOutputIndex = some index
  index : index ∉ indexes

theorem validateStartMetadata_idle (h : FreshItem ids indexes m index) :
    (idle items ids indexes calls bytes).validateStartMetadata m =
      .ok (idle items (ids ++ [m.providerItemId]) (indexes ++ [index]) calls bytes) := by
  unfold TurnState.validateStartMetadata
  simp [h.identified, h.id, h.indexed, h.index, idle]

variable {e : StreamEvent} (hid : m.providerItemId ≠ [])

include hid

theorem validateEventMetadata_same (he : eventMetadata e = m) :
    validateEventMetadata m e = .ok () := by
  subst he
  unfold validateEventMetadata eventMetadata at *
  simp [hid]

theorem validateTextEvent_same (he : eventMetadata e = m)
    {active : ActiveItem} (hactive : active.metadata = m) (s : TurnState) :
    validateTextEvent s active e = .ok (active, s) := by
  have hphase : e.assistantPhase = m.phase := by rw [← he]; rfl
  unfold validateTextEvent
  rw [hactive, hphase, validateEventMetadata_same hid he]
  by_cases hunknown : m.phase = .unknown
  · simp [hunknown, Except.map]
  · simp [hunknown, Except.map]

/-- The state while a message item is open. -/
def openText (items : List AssistantItem) (ids : List Bytes) (indexes : List Nat)
    (calls : Table Bytes ActiveItem) (bytes : Nat) (m : AssistantItemMetadata) (text : Bytes) :
    TurnState :=
  { idle (items ++ [⟨m, .text text⟩]) ids indexes calls bytes with
    activeTextItems := [(m.providerItemId, ⟨items.length, m, true, false⟩)] }

open Block (event callEvent)

omit hid in
theorem textStart_idle (h : FreshItem ids indexes m index) :
    turnEvent limits (idle items ids indexes calls bytes) (event m .textStart []) =
      .ok (openText items (ids ++ [m.providerItemId]) (indexes ++ [index]) calls bytes m []) := by
  show textStart (idle items ids indexes calls bytes) (event m .textStart []) = _
  have hm : eventMetadata (event m .textStart []) = m := rfl
  unfold textStart
  rw [hm]
  dsimp only
  rw [validateStartMetadata_idle h]
  simp [h.identified, idle, openText, TurnState.appendItem, Table.set]

variable (items ids indexes calls bytes) in
/-- An event of the open message is taken as one. -/
theorem openText_event (text : Bytes) (he : eventMetadata e = m) :
    (!e.providerItemId.isEmpty) = true ∧
    List.lookup e.providerItemId (openText items ids indexes calls bytes m text).activeTextItems =
      some ⟨items.length, m, true, false⟩ ∧
    validateTextEvent (openText items ids indexes calls bytes m text) ⟨items.length, m, true, false⟩ e =
      .ok (⟨items.length, m, true, false⟩, openText items ids indexes calls bytes m text) := by
  have hsame : e.providerItemId = m.providerItemId := by rw [← he]; rfl
  refine ⟨?_, ?_, validateTextEvent_same hid he rfl _⟩
  · simpa [hsame] using hid
  · simp [hsame, openText]

theorem textDelta_open {text piece : Bytes}
    (hlimit : limits.maxAssistantTextBytes = 0 ∨
      bytes + piece.length ≤ limits.maxAssistantTextBytes) :
    turnEvent limits (openText items ids indexes calls bytes m text) (event m .textDelta piece) =
      .ok (openText items ids indexes calls (bytes + piece.length) m (text ++ piece)) := by
  show textDelta limits (openText items ids indexes calls bytes m text)
    (event m .textDelta piece) = _
  obtain ⟨hid', hlookup, hsame⟩ := openText_event items ids indexes calls bytes hid text
    (e := event m .textDelta piece) rfl
  unfold textDelta
  rw [if_pos hid', hlookup]
  dsimp only
  rw [hsame]
  dsimp only
  unfold appendText
  have hexceed : wouldExceed bytes piece.length limits.maxAssistantTextBytes = false :=
    wouldExceed_eq_false hlimit
  simp [openText, idle, event, hexceed, TurnState.modifyItem, modify_concat, Table.set]

theorem textEnd_open {text : Bytes} :
    turnEvent limits (openText items ids indexes calls bytes m text) (event m .textEnd []) =
      .ok (idle (items ++ [⟨m, .text text⟩]) ids indexes calls bytes) := by
  show textEnd (openText items ids indexes calls bytes m text) (event m .textEnd []) = _
  obtain ⟨hid', hlookup, hsame⟩ := openText_event items ids indexes calls bytes hid text
    (e := event m .textEnd []) rfl
  unfold textEnd
  rw [if_pos hid', hlookup]
  dsimp only
  rw [hsame]
  simp [openText, idle, event]

/-- A message item, its deltas taken one after the other. -/
theorem foldlM_text (pieces : List Bytes) (htext : limits.maxAssistantTextBytes = 0 ∨
      bytes + pieces.flatten.length ≤ limits.maxAssistantTextBytes) :
    (pieces.map (event m .textDelta)).foldlM (turnEvent limits)
        (openText items ids indexes calls bytes m []) =
      .ok (openText items ids indexes calls (bytes + pieces.flatten.length) m pieces.flatten) := by
  refine foldlM_pieces (fun text => openText items ids indexes calls (bytes + text.length) m text)
    (fun text piece hfits => ?_) pieces htext
  rw [List.length_append, ← Nat.add_assoc] at hfits ⊢
  exact textDelta_open hid hfits

/-- The state while a reasoning item is open. -/
def openReasoning (items : List AssistantItem) (ids : List Bytes) (indexes : List Nat)
    (calls : Table Bytes ActiveItem) (bytes : Nat) (m : AssistantItemMetadata)
    (block : ParsedReasoningBlock) : TurnState :=
  { idle (items ++ [⟨m, .reasoning block⟩]) ids indexes calls bytes with
    activeReasoningItem := some ⟨items.length, m, true, false⟩ }

theorem hasNativeMetadata_of_id : hasNativeMetadata m = true := by
  unfold hasNativeMetadata
  simp [hid]

omit hid in
theorem reasoningStart_idle (h : FreshItem ids indexes m index) (format : Bytes) :
    turnEvent limits (idle items ids indexes calls bytes)
        (Block.reasoningEvent m format .reasoningStart []) =
      .ok (openReasoning items (ids ++ [m.providerItemId]) (indexes ++ [index]) calls bytes m
        { format := format }) := by
  show reasoningStart limits (idle items ids indexes calls bytes)
    (Block.reasoningEvent m format .reasoningStart []) = _
  have hm : eventMetadata (Block.reasoningEvent m format .reasoningStart []) = m := rfl
  unfold reasoningStart
  rw [hm, hasNativeMetadata_of_id h.identified]
  show startReasoning limits (idle items ids indexes calls bytes)
    (Block.reasoningEvent m format .reasoningStart []) true = _
  unfold startReasoning
  rw [hm]
  dsimp only
  rw [validateStartMetadata_idle h]
  have hexceed : wouldExceed 0 0 limits.maxAssistantTextBytes = false :=
    wouldExceed_eq_false (by omega)
  simp [hexceed, idle, openReasoning, TurnState.appendItem, Block.reasoningEvent, event]

/-- An event of the open reasoning item, within the limits. -/
theorem reasoningEvent_open {block : ParsedReasoningBlock}
    (htype : e.type = .reasoningDelta ∨ e.type = .reasoningEnd) (he : eventMetadata e = m)
    (husage : e.usage = none) (htext : limits.maxAssistantTextBytes = 0 ∨
      block.text.length + e.text.length ≤ limits.maxAssistantTextBytes)
    (hbytes : limits.maxAssistantTextBytes = 0 ∨
      reasoningBlockBytes (block.take e) ≤ limits.maxAssistantTextBytes) :
    turnEvent limits (openReasoning items ids indexes calls bytes m block) e =
      .ok (if e.type = .reasoningEnd then
          idle (items ++ [⟨m, .reasoning (block.take e)⟩]) ids indexes calls bytes
        else openReasoning items ids indexes calls bytes m (block.take e)) := by
  have hexceed : wouldExceed block.text.length e.text.length limits.maxAssistantTextBytes = false :=
    wouldExceed_eq_false htext
  have hevent : turnEvent limits (openReasoning items ids indexes calls bytes m block) e =
      reasoningEvent limits (openReasoning items ids indexes calls bytes m block) e := by
    unfold turnEvent
    rcases htype with htype | htype <;>
      simp [htype, husage, openReasoning, idle]
  rw [hevent]
  unfold reasoningEvent
  show continueReasoning limits _ ⟨items.length, m, true, false⟩ e = _
  unfold continueReasoning
  dsimp only
  rw [validateEventMetadata_same hid he]
  have hitem : (openReasoning items ids indexes calls bytes m block).turn.orderedItems[items.length]? =
      some ⟨m, .reasoning block⟩ := by
    simp [openReasoning, idle]
  rw [hitem]
  dsimp only
  rw [if_neg (by simp [hexceed]), if_neg (by omega)]
  by_cases hend : e.type = .reasoningEnd
  · simp [hend, openReasoning, idle, TurnState.modifyItem, modify_concat]
  · simp [hend, openReasoning, idle, TurnState.modifyItem, modify_concat]

/-- The pieces of a reasoning text, one after the other. -/
theorem foldlM_reasoning (format : Bytes) (pieces : List Bytes)
    (hfits : limits.maxAssistantTextBytes = 0 ∨
      0 + pieces.flatten.length ≤ limits.maxAssistantTextBytes) :
    (pieces.map (Block.reasoningEvent m format .reasoningDelta)).foldlM (turnEvent limits)
        (openReasoning items ids indexes calls bytes m { format := format }) =
      .ok (openReasoning items ids indexes calls bytes m
        { text := pieces.flatten, format := format }) := by
  refine foldlM_pieces (fun text => openReasoning items ids indexes calls bytes m
    { text := text, format := format }) (fun text piece hfits => ?_) pieces hfits
  rw [List.length_append, Nat.zero_add] at hfits
  have htake : ({ text := text, format := format } : ParsedReasoningBlock).take
      (Block.reasoningEvent m format .reasoningDelta piece) =
      { text := text ++ piece, format := format } := by
    by_cases hformat : format = []
    · simp [ParsedReasoningBlock.take, Block.reasoningEvent, event, hformat]
    · simp [ParsedReasoningBlock.take, Block.reasoningEvent, event, hformat]
  rw [reasoningEvent_open hid (Or.inl rfl) rfl rfl hfits, htake]
  · rfl
  · rw [htake]
    simp only [reasoningBlockBytes, List.length_append, List.length_nil]
    omega

/-- The state while a function call is open. -/
def openCall (items : List AssistantItem) (ids : List Bytes) (indexes : List Nat)
    (calls : Table Bytes ActiveItem) (bytes : Nat) (m : AssistantItemMetadata)
    (call : ProviderToolCall) : TurnState :=
  idle (items ++ [⟨m, .functionCall call⟩]) ids indexes
    (calls.set call.id ⟨items.length, m, true, false⟩) bytes

omit hid in
theorem toolCallStart_idle (h : FreshItem ids indexes m index)
    (hvalid : validateProviderToolCallId callId = .ok ())
    (hcall : List.lookup callId calls = none) (name : Bytes) :
    turnEvent limits (idle items ids indexes calls bytes)
        (callEvent m callId .toolCallStart name []) =
      .ok (openCall items (ids ++ [m.providerItemId]) (indexes ++ [index]) calls bytes m
        ⟨callId, name, []⟩) := by
  show toolCallStart (idle items ids indexes calls bytes)
    (callEvent m callId .toolCallStart name []) = _
  have hm : eventMetadata (callEvent m callId .toolCallStart name []) = m := rfl
  have hcallId : (callEvent m callId .toolCallStart name []).toolCallId = callId := rfl
  have hlookup : List.lookup callId (idle items ids indexes calls bytes).activeFunctionCalls = none :=
    hcall
  unfold toolCallStart
  rw [hm, hcallId, hvalid]
  dsimp only
  rw [hlookup, validateStartMetadata_idle h]
  simp [idle, openCall, TurnState.appendItem, hasNativeMetadata_of_id h.identified, callEvent]

omit hid in
/-- What an event of the open call comes down to. -/
theorem toolCallEvent_open {call : ProviderToolCall}
    (hvalid : validateProviderToolCallId call.id = .ok ())
    (htype : e.type = .toolCallDelta ∨ e.type = .toolCallEnd) (husage : e.usage = none)
    (hcallId : e.toolCallId = call.id) :
    turnEvent limits (openCall items ids indexes calls bytes m call) e =
      continueToolCall limits (openCall items ids indexes calls bytes m call)
        ⟨items.length, m, true, false⟩ e := by
  have hevent : turnEvent limits (openCall items ids indexes calls bytes m call) e =
      toolCallEvent limits (openCall items ids indexes calls bytes m call) e := by
    unfold turnEvent
    rcases htype with htype | htype <;> simp [htype, husage, openCall, idle]
  have hlookup : List.lookup call.id
      (openCall items ids indexes calls bytes m call).activeFunctionCalls =
        some ⟨items.length, m, true, false⟩ :=
    Table.lookup_set_self _ _ _
  rw [hevent]
  unfold toolCallEvent
  rw [hcallId, hvalid]
  dsimp only
  rw [hlookup]

/-- The pieces of the arguments, one after the other. -/
theorem foldlM_call (name : Bytes)
    (hvalid : validateProviderToolCallId callId = .ok ()) (pieces : List Bytes)
    (hfits : limits.maxToolArgumentBytes = 0 ∨
      0 + pieces.flatten.length ≤ limits.maxToolArgumentBytes) :
    (pieces.map (callEvent m callId .toolCallDelta [])).foldlM (turnEvent limits)
        (openCall items ids indexes calls bytes m ⟨callId, name, []⟩) =
      .ok (openCall items ids indexes calls bytes m ⟨callId, name, pieces.flatten⟩) := by
  refine foldlM_pieces (fun arguments => openCall items ids indexes calls bytes m
    ⟨callId, name, arguments⟩) (fun arguments piece hfits => ?_) pieces hfits
  rw [List.length_append, Nat.zero_add] at hfits
  have hm : eventMetadata (callEvent m callId .toolCallDelta [] piece) = m := rfl
  have hexceed : wouldExceed arguments.length piece.length limits.maxToolArgumentBytes = false :=
    wouldExceed_eq_false hfits
  rw [toolCallEvent_open hvalid (Or.inl rfl) rfl rfl]
  unfold continueToolCall
  rw [validateEventMetadata_same hid hm]
  simp [openCall, idle, callEvent, event, hexceed, TurnState.modifyItem, modify_concat]

theorem toolCallEnd_open {call : ProviderToolCall}
    (hvalid : validateProviderToolCallId call.id = .ok ()) :
    turnEvent limits (openCall items ids indexes calls bytes m call)
        (callEvent m call.id .toolCallEnd [] []) =
      .ok (idle (items ++ [⟨m, .functionCall call⟩]) ids indexes
        (calls.set call.id ⟨items.length, m, true, true⟩) bytes) := by
  have hm : eventMetadata (callEvent m call.id .toolCallEnd [] []) = m := rfl
  rw [toolCallEvent_open hvalid (Or.inr rfl) rfl rfl]
  unfold continueToolCall
  rw [validateEventMetadata_same hid hm]
  simp [openCall, idle, callEvent, event, Table.set_set]

end OneItem

/-! ## §6. The events of a whole turn. -/

theorem foldlM_snoc {α β ε : Type} {f : β → α → Except ε β} {l : List α} {a : α} {b c d : β}
    (hl : l.foldlM f b = .ok c) (ha : f c a = .ok d) : (l ++ [a]).foldlM f b = .ok d := by
  rw [List.foldlM_append, hl]
  show [a].foldlM f c = .ok d
  rw [List.foldlM_cons, ha]
  rfl

section OneBlock

variable {limits : ProviderOutputLimits} {items : List AssistantItem} {ids : List Bytes}
  {indexes : List Nat} {calls : Table Bytes ActiveItem} {bytes : Nat}
  {m : AssistantItemMetadata} {index : Nat}

variable {pieces : List Bytes}

theorem foldlM_text_block (h : FreshItem ids indexes m index)
    (htext : limits.maxAssistantTextBytes = 0 ∨
      bytes + pieces.flatten.length ≤ limits.maxAssistantTextBytes) :
    (Block.text m pieces).events.foldlM (turnEvent limits) (idle items ids indexes calls bytes) =
      .ok (idle (items ++ [(Block.text m pieces).item]) (ids ++ [m.providerItemId])
        (indexes ++ [index]) calls (bytes + pieces.flatten.length)) := by
  apply foldlM_snoc _ (textEnd_open h.identified)
  rw [List.foldlM_append, List.foldlM_cons, textStart_idle h]
  exact foldlM_text h.identified pieces htext

theorem take_reasoningEnd (text format nativeJson : Bytes) :
    ({ text := text, format := format } : ParsedReasoningBlock).take
        (Block.reasoningEndEvent m format nativeJson) =
      { text := text, format := format, nativeItemJson := nativeJson } := by
  unfold ParsedReasoningBlock.take Block.reasoningEndEvent Block.reasoningEvent Block.event
  by_cases hformat : format = []
  · by_cases hnative : nativeJson = []
    · simp [hformat, hnative]
    · simp [hformat, hnative]
  · by_cases hnative : nativeJson = []
    · simp [hformat, hnative]
    · simp [hformat, hnative]

theorem foldlM_reasoning_block (h : FreshItem ids indexes m index)
    {format nativeJson : Bytes} (hfits : limits.maxAssistantTextBytes = 0 ∨
      pieces.flatten.length + nativeJson.length ≤ limits.maxAssistantTextBytes) :
    (Block.reasoning m format nativeJson pieces).events.foldlM (turnEvent limits)
        (idle items ids indexes calls bytes) =
      .ok (idle (items ++ [(Block.reasoning m format nativeJson pieces).item])
        (ids ++ [m.providerItemId]) (indexes ++ [index]) calls bytes) := by
  have hend : turnEvent limits
      (openReasoning items (ids ++ [m.providerItemId]) (indexes ++ [index]) calls bytes m
        { text := pieces.flatten, format := format }) (Block.reasoningEndEvent m format nativeJson) =
      .ok (idle (items ++ [(Block.reasoning m format nativeJson pieces).item])
        (ids ++ [m.providerItemId]) (indexes ++ [index]) calls bytes) := by
    rw [reasoningEvent_open h.identified (Or.inr rfl) rfl rfl, take_reasoningEnd]
    · rfl
    · show _ ∨ pieces.flatten.length + 0 ≤ _
      omega
    · rw [take_reasoningEnd]
      simp only [reasoningBlockBytes, List.length_nil]
      omega
  apply foldlM_snoc _ hend
  rw [List.foldlM_append, List.foldlM_cons, reasoningStart_idle h format]
  exact foldlM_reasoning h.identified format pieces (by omega)

theorem foldlM_call_block (h : FreshItem ids indexes m index) {name : Bytes}
    (hvalid : validateProviderToolCallId callId = .ok ())
    (hlookup : List.lookup callId calls = none) (hfits : limits.maxToolArgumentBytes = 0 ∨
      pieces.flatten.length ≤ limits.maxToolArgumentBytes) :
    (Block.functionCall m callId name pieces).events.foldlM (turnEvent limits)
        (idle items ids indexes calls bytes) =
      .ok (idle (items ++ [(Block.functionCall m callId name pieces).item])
        (ids ++ [m.providerItemId]) (indexes ++ [index])
        (calls.set callId ⟨items.length, m, true, true⟩) bytes) := by
  have hend : turnEvent limits (openCall items (ids ++ [m.providerItemId]) (indexes ++ [index]) calls
      bytes m ⟨callId, name, pieces.flatten⟩) (Block.callEvent m callId .toolCallEnd [] []) = _ :=
    toolCallEnd_open h.identified hvalid
  apply foldlM_snoc _ hend
  rw [List.foldlM_append, List.foldlM_cons, toolCallStart_idle h hvalid hlookup]
  exact foldlM_call h.identified name hvalid pieces (by omega)

end OneBlock

variable {limits : ProviderOutputLimits}

/-- **ONE ITEM.**  The events of a native item append its item, and leave no other trace than its
    identity, its index, its bytes and its completed call. -/
theorem foldlM_block (items : List AssistantItem) (ids : List Bytes) (indexes : List Nat)
    (calls : Table Bytes ActiveItem) (bytes : Nat) {b : Block} {index : Nat}
    (h : FreshItem ids indexes b.metadata index)
    (hcall : ∀ callId, b.callId? = some callId →
      validateProviderToolCallId callId = .ok () ∧ List.lookup callId calls = none)
    (hfits : b.Fits limits) (htext : limits.maxAssistantTextBytes = 0 ∨
      bytes + b.textBytes ≤ limits.maxAssistantTextBytes) :
    ∃ calls', b.events.foldlM (turnEvent limits) (idle items ids indexes calls bytes) =
        .ok (idle (items ++ [b.item]) (ids ++ [b.metadata.providerItemId]) (indexes ++ [index]) calls'
          (bytes + b.textBytes)) ∧
      ∀ entry ∈ calls', entry ∈ calls ∨ (b.callId? = some entry.1 ∧ entry.2.completed = true) := by
  cases b with
  | text m pieces =>
    exact ⟨calls, foldlM_text_block h htext, fun entry h => Or.inl h⟩
  | reasoning m format nativeJson pieces =>
    exact ⟨calls, foldlM_reasoning_block h hfits, fun entry h => Or.inl h⟩
  | functionCall m callId name pieces =>
    obtain ⟨hvalid, hlookup⟩ := hcall callId rfl
    refine ⟨_, foldlM_call_block h hvalid hlookup hfits, ?_⟩
    exact Table.forall_mem_set (P := fun entry => entry ∈ calls ∨
      ((Block.functionCall m callId name pieces).callId? = some entry.1 ∧
        entry.2.completed = true)) (Or.inr ⟨rfl, rfl⟩) fun entry h => Or.inl h

/-- Blocks that one turn can hold: identities and call identities are distinct, indexes increase. -/
structure Admissible (limits : ProviderOutputLimits) (blocks : List Block) : Prop where
  identified : ∀ b ∈ blocks, b.metadata.providerItemId ≠ []
  ids : (blocks.map fun b => b.metadata.providerItemId).Nodup
  indexed : ∀ b ∈ blocks, b.metadata.providerOutputIndex.isSome = true
  indexes : blocks.Pairwise fun a b =>
    a.metadata.providerOutputIndex.getD 0 < b.metadata.providerOutputIndex.getD 0
  callIds : (blocks.filterMap Block.callId?).Nodup
  validCalls : ∀ callId ∈ blocks.filterMap Block.callId?, validateProviderToolCallId callId = .ok ()
  fits : ∀ b ∈ blocks, b.Fits limits
  textFits : limits.maxAssistantTextBytes = 0 ∨
    (blocks.map Block.textBytes).sum ≤ limits.maxAssistantTextBytes

/-- The state when some items have come. -/
def idleAfter (blocks : List Block) (calls : Table Bytes ActiveItem) : TurnState :=
  idle (blocks.map Block.item) (blocks.map (·.metadata.providerItemId))
    (blocks.map (·.metadata.providerOutputIndex.getD 0)) calls (blocks.map Block.textBytes).sum

/-- The calls of a state are completed ones of the items that have come. -/
def CompletedBy (blocks : List Block) (calls : Table Bytes ActiveItem) : Prop :=
  ∀ entry ∈ calls, entry.2.completed = true ∧ entry.1 ∈ blocks.filterMap Block.callId?

/-- **THE NEXT ITEM OF A TURN.** -/
theorem foldlM_next {blocks rest : List Block} {b : Block} (h : Admissible limits (blocks ++ b :: rest))
    {calls : Table Bytes ActiveItem} (hcalls : CompletedBy blocks calls) :
    ∃ calls', b.events.foldlM (turnEvent limits) (idleAfter blocks calls) =
        .ok (idleAfter (blocks ++ [b]) calls') ∧ CompletedBy (blocks ++ [b]) calls' := by
  have hb : b ∈ blocks ++ b :: rest := List.mem_append_right _ List.mem_cons_self
  obtain ⟨index, hindex⟩ := Option.isSome_iff_exists.mp (h.indexed b hb)
  have hids := h.ids
  have hcallIds := h.callIds
  have htext := h.textFits
  rw [List.map_append, List.nodup_append] at hids
  rw [List.filterMap_append, List.nodup_append] at hcallIds
  rw [List.map_append, List.sum_append, List.map_cons, List.sum_cons] at htext
  have hfresh : FreshItem (blocks.map (·.metadata.providerItemId))
      (blocks.map (·.metadata.providerOutputIndex.getD 0)) b.metadata index := by
    refine ⟨h.identified b hb, fun hmem => hids.2.2 _ hmem _ List.mem_cons_self rfl, hindex, ?_⟩
    intro hmem
    obtain ⟨a, ha, heq⟩ := List.mem_map.mp hmem
    have hlt := (List.pairwise_append.mp h.indexes).2.2 a ha b List.mem_cons_self
    rw [heq, hindex, Option.getD_some] at hlt
    exact Nat.lt_irrefl _ hlt
  have hcall : ∀ callId, b.callId? = some callId →
      validateProviderToolCallId callId = .ok () ∧ List.lookup callId calls = none := by
    intro callId hid
    refine ⟨h.validCalls callId (List.mem_filterMap.mpr ⟨b, hb, hid⟩), Table.lookup_eq_none ?_⟩
    intro entry hentry
    exact hcallIds.2.2 _ (hcalls entry hentry).2 _ (List.mem_filterMap.mpr ⟨b, List.mem_cons_self, hid⟩)
  obtain ⟨calls', hblock, hcalls'⟩ := foldlM_block (blocks.map Block.item) _ _ calls
    (blocks.map Block.textBytes).sum hfresh hcall (h.fits b hb) (by omega)
  refine ⟨calls', ?_, fun entry hentry => ?_⟩
  · rw [idleAfter, hblock]
    simp [idleAfter, hindex]
  · rw [List.filterMap_append, List.mem_append]
    obtain hold | ⟨hid, hcompleted⟩ := hcalls' entry hentry
    · exact ⟨(hcalls entry hold).1, Or.inl (hcalls entry hold).2⟩
    · exact ⟨hcompleted, Or.inr (List.mem_filterMap.mpr ⟨b, List.mem_singleton_self b, hid⟩)⟩

/-- **THE ITEMS OF A TURN**, one after the other. -/
theorem foldlM_blocks : ∀ (rest blocks : List Block) (calls : Table Bytes ActiveItem),
    Admissible limits (blocks ++ rest) → CompletedBy blocks calls →
    ∃ calls', (rest.flatMap Block.events).foldlM (turnEvent limits) (idleAfter blocks calls) =
      .ok (idleAfter (blocks ++ rest) calls') ∧ CompletedBy (blocks ++ rest) calls' := by
  intro rest
  induction rest with
  | nil =>
    intro blocks calls _ hcalls
    rw [List.append_nil]
    exact ⟨calls, rfl, hcalls⟩
  | cons b rest ih =>
    intro blocks calls h hcalls
    obtain ⟨calls', hblock, hcalls'⟩ := foldlM_next h hcalls
    rw [List.append_cons] at h ⊢
    obtain ⟨calls'', hrest, hdone⟩ := ih (blocks ++ [b]) calls' h hcalls'
    refine ⟨calls'', ?_, hdone⟩
    rw [List.flatMap_cons, List.foldlM_append, hblock]
    exact hrest

/-- Items whose indexes increase are in order. -/
theorem orderItems_of_increasing {items : List AssistantItem}
    (h : items.Pairwise fun a b =>
      a.metadata.providerOutputIndex.getD 0 < b.metadata.providerOutputIndex.getD 0) :
    orderItems items = items := by
  unfold orderItems
  by_cases hall : (items.all fun item => item.metadata.providerOutputIndex.isSome) = true
  · rw [if_pos hall]
    apply List.mergeSort_of_pairwise
    exact h.imp fun hlt => by simpa using Nat.le_of_lt hlt
  · rw [if_neg hall]

/-- **THE TURN OF A LIST OF NATIVE ITEMS** with its terminal event. -/
theorem parseAssistantTurn_blocks {blocks : List Block} (h : Admissible limits blocks)
    {done : StreamEvent} (htype : done.type = .done) {reason : ProviderFinishReason}
    (hreason : done.finishReason = some reason) (hend : reason = .completed ∨ reason = .refusal)
    (hevents : limits.maxEvents = 0 ∨
      (blocks.flatMap Block.events ++ [done]).length ≤ limits.maxEvents) :
    parseAssistantTurn (blocks.flatMap Block.events ++ [done]) limits =
      .ok { orderedItems := blocks.map Block.item
            usage := done.usage.map withTotalTokens
            finishReason := some reason } := by
  obtain ⟨calls, hfold, hcompleted⟩ :=
    foldlM_blocks blocks [] [] h (List.forall_mem_nil _)
  rw [List.nil_append] at hfold hcompleted
  have hdone : turnEvent limits (idleAfter blocks calls) done =
      .ok { idleAfter blocks calls with
        done := true
        turn := ⟨blocks.map Block.item, done.usage.map withTotalTokens, some reason⟩ } := by
    unfold turnEvent
    cases husage : done.usage with
    | none | some usage => simp [htype, hreason, idleAfter, idle]
  have hall : (blocks.flatMap Block.events ++ [done]).foldlM (turnEvent limits) {} = .ok _ :=
    foldlM_snoc hfold hdone
  have hpairwise : (blocks.map Block.item).Pairwise fun a b =>
      a.metadata.providerOutputIndex.getD 0 < b.metadata.providerOutputIndex.getD 0 := by
    rw [List.pairwise_map]
    have hmetadata : ∀ b : Block, b.item.metadata = b.metadata := by
      intro b
      cases b <;> rfl
    exact h.indexes.imp fun {a b} hlt => by rw [hmetadata a, hmetadata b]; exact hlt
  have hcalls : (calls.any fun entry => entry.2.nativeLifecycle && !entry.2.completed) = false := by
    rw [List.any_eq_false]
    intro entry hentry
    simp [(hcompleted entry hentry).1]
  unfold parseAssistantTurn
  rw [if_neg (by omega), hall]
  unfold finishTurn
  rcases hend with rfl | rfl
  · simp [idleAfter, idle, hcalls, orderItems_of_increasing hpairwise]
  · simp [idleAfter, idle, hcalls, orderItems_of_increasing hpairwise]

end Ava.Agent
