/-
  Ava.Provider.OpenAIStream
  **THE STREAMING PARSER OF THE RESPONSES API** (`provider/openai_stream_*.cpp`).

  Each complete record is a JSON text.  Handlers read its members with the scanners of
  `core/json.cpp`, update the state of the parser and append events; the vector they append to is
  the field `events` of the state here.

    - §1 members of a record;
    - §2 the state of the parser;
    - §3 reasoning items; §4 message items; §5 function calls;
    - §6 the life cycle of output items, terminal events, the dispatch;
    - §7 the parser behind the shared buffer.

  A pointer into a table of the source is the key of the entry together with its value; the entry
  is written back where the source writes through the pointer.
-/
import Ava.Lib.Table
import Ava.Provider.SseBuffer
import Ava.Session.AssistantOutput

namespace Ava.Provider

open Ava.Core Ava.Core.Json
open Ava.Lib (Table)
open Ava.Session (isValidOpenaiOpaqueId isValidOpenaiNativeReasoningItemJson)

/-! ## §1. Members of a record. -/

/-- `first_string_field`. -/
def firstStringField (object : Bytes) (keys : List String) : Option Bytes :=
  keys.findSome? (stringField object)

/-- `is_null_field`. -/
def isNullField (object : Bytes) (key : String) : Bool :=
  match fieldValueStart object key with
  | none => false
  | some start =>
    (ascii "null").isPrefixOf start &&
      match start.drop 4 with
      | [] => true
      | c :: _ => isAsciiSpace c || c == comma || c == rbrace || c == rbracket

/-- One reading of `output_index`. -/
def outputIndexField (object : Bytes) : Except Bytes (Option Nat) :=
  if !hasField object "output_index" then .ok none
  else
    match integerField object "output_index" with
    | some value =>
      if value < 0 then .error (ascii "OpenAI output item has an invalid output_index")
      else .ok (some value.toNat)
    | none => .error (ascii "OpenAI output item has an invalid output_index")

/-- `documented_output_index`. -/
def documentedOutputIndex (data item : Bytes) : Except Bytes (Option Nat) :=
  match outputIndexField data with
  | .error message => .error message
  | .ok eventIndex =>
    match outputIndexField item with
    | .error message => .error message
    | .ok itemIndex =>
      if eventIndex.isSome && itemIndex.isSome && eventIndex != itemIndex then
        .error (ascii "OpenAI output item has conflicting output_index values")
      else .ok (eventIndex.or itemIndex)

/-- One reading of `phase`. -/
def phaseField (object : Bytes) : Except Bytes (Option AssistantPhase) :=
  if !hasField object "phase" || isNullField object "phase" then .ok none
  else
    match stringField object "phase" with
    | none => .error (ascii "OpenAI message output item has an empty or invalid phase")
    | some value =>
      if value.isEmpty then
        .error (ascii "OpenAI message output item has an empty or invalid phase")
      else
        match AssistantPhase.ofString value with
        | none => .error (ascii "OpenAI message output item has an unknown phase")
        | some phase => .ok (some phase)

/-- `documented_message_phase`. -/
def documentedMessagePhase (data item : Bytes) : Except Bytes AssistantPhase :=
  match phaseField data with
  | .error message => .error message
  | .ok eventPhase =>
    match phaseField item with
    | .error message => .error message
    | .ok itemPhase =>
      if eventPhase.isSome && itemPhase.isSome && eventPhase != itemPhase then
        .error (ascii "OpenAI message output item has conflicting phase values")
      else .ok ((eventPhase.or itemPhase).getD .unknown)

/-- The object that stands for an absent item. -/
def noItem : Bytes := [lbrace, rbrace]

/-- How an event names its output item. -/
inductive ItemReference where
  | absent
  | invalid
  | item (id : Bytes)
deriving Repr, DecidableEq

/-- The two members that name an output item: `item_id` and `output_item_id`. -/
def itemReference (data : Bytes) : ItemReference :=
  let itemId := stringField data "item_id"
  let outputItemId := stringField data "output_item_id"
  if !hasField data "item_id" && !hasField data "output_item_id" then .absent
  else if (hasField data "item_id" && !(itemId.any isValidOpenaiOpaqueId)) ||
      (hasField data "output_item_id" && !(outputItemId.any isValidOpenaiOpaqueId)) ||
      (itemId.isSome && outputItemId.isSome && itemId != outputItemId) then .invalid
  else .item ((itemId.or outputItemId).getD [])

/-! ## §2. The state. -/

/-- `FunctionCallState`. -/
structure FunctionCallState where
  providerItemId : Bytes := []
  providerOutputIndex : Option Nat := none
  logicalCallId : Bytes := []
  name : Bytes := []
  arguments : Bytes := []
  emittedArgumentBytes : Nat := 0
  started : Bool := false
  ended : Bool := false
deriving Repr, DecidableEq

/-- `MessageItemState`. -/
structure MessageItemState where
  providerOutputIndex : Option Nat := none
  phase : AssistantPhase := .unknown
  outputText : Bytes := []
  refusalText : Bytes := []
  outputTextCompleted : Bool := false
  refusalCompleted : Bool := false
  ended : Bool := false
deriving Repr, DecidableEq

inductive MessageContentKind where
  | outputText
  | refusal
deriving Repr, DecidableEq

/-- The text of a message that has been captured so far. -/
def MessageItemState.captured (state : MessageItemState) : MessageContentKind → Bytes
  | .outputText => state.outputText
  | .refusal => state.refusalText

def MessageItemState.capture (state : MessageItemState) (text : Bytes) :
    MessageContentKind → MessageItemState
  | .outputText => { state with outputText := state.outputText ++ text }
  | .refusal => { state with refusalText := state.refusalText ++ text }

/-- `OpenAIStreamParser`, with the events of the record at hand. -/
structure OpenAIStreamParser where
  events : List StreamEvent := []
  sawContent : Bool := false
  sawRefusal : Bool := false
  reasoningOpen : Bool := false
  activeReasoningItemId : Bytes := []
  activeReasoningOutputIndex : Option Nat := none
  activeReasoningText : Bytes := []
  completedReasoningItemIds : List Bytes := []
  functionCalls : Table Bytes FunctionCallState := []
  functionCallItemIdsByLogicalId : Table Bytes Bytes := []
  legacyFunctionCalls : Table Bytes FunctionCallState := []
  messageItems : Table Bytes MessageItemState := []
  documentedOutputItemTypes : Table Bytes Bytes := []
  documentedOutputItemAddedIds : List Bytes := []
  documentedOutputItemIdsByIndex : Table Nat Bytes := []
  doneSeen : Bool := false
  errorSeen : Bool := false
deriving Repr, DecidableEq

namespace OpenAIStreamParser

variable (p : OpenAIStreamParser)

/-- `events.push_back`. -/
def push (e : StreamEvent) : OpenAIStreamParser :=
  { p with events := p.events ++ [e] }

/-- `append_stream_error`. -/
def appendStreamErrorText (message : Bytes) : OpenAIStreamParser :=
  { p with errorSeen := true }.push { type := .error, errorMessage := message }

def appendStreamError (message : String) : OpenAIStreamParser :=
  p.appendStreamErrorText (ascii message)

/-! ## §3. Reasoning items. -/

/-- `kOpenAIResponsesReasoningFormat`. -/
def kOpenAIResponsesReasoningFormat : Bytes := ascii "openai_responses"

/-- An event of the active reasoning item. -/
def reasoningEvent (type : StreamEventType) (text : Bytes) : StreamEvent where
  type := type
  text := text
  providerItemId := p.activeReasoningItemId
  providerOutputIndex := p.activeReasoningOutputIndex
  reasoningFormat := kOpenAIResponsesReasoningFormat

/-- `append_start_reasoning_if_needed`. -/
def appendStartReasoningIfNeeded : OpenAIStreamParser :=
  if p.reasoningOpen then p
  else { p with reasoningOpen := true }.push (p.reasoningEvent .reasoningStart [])

/-- `append_reasoning_delta`. -/
def appendReasoningDelta (text : Bytes) : OpenAIStreamParser :=
  let p := p.appendStartReasoningIfNeeded
  if text.isEmpty then p
  else
    { p with activeReasoningText := p.activeReasoningText ++ text }.push
      (p.reasoningEvent .reasoningDelta text)

/-- `reconcile_complete_reasoning_text`. -/
def reconcileCompleteReasoningText (completeText : Bytes) : Bool × OpenAIStreamParser :=
  let p := p.appendStartReasoningIfNeeded
  if completeText = p.activeReasoningText then (true, p)
  else if p.activeReasoningText.isPrefixOf completeText then
    (true, p.appendReasoningDelta (completeText.drop p.activeReasoningText.length))
  else (false, p.appendStreamError "conflicting OpenAI reasoning text")

/-- `remember_string`. -/
def rememberString (values : List Bytes) (value : Bytes) : List Bytes :=
  if value.isEmpty || values.contains value then values else values ++ [value]

/-- `append_finish_reasoning_if_open`. -/
def appendFinishReasoningIfOpen (nativeItemJson : Bytes) : OpenAIStreamParser :=
  if !p.reasoningOpen then p
  else
    { p with
      reasoningOpen := false
      completedReasoningItemIds := rememberString p.completedReasoningItemIds p.activeReasoningItemId
      activeReasoningItemId := []
      activeReasoningOutputIndex := none
      activeReasoningText := [] }.push
      { p.reasoningEvent .reasoningEnd [] with reasoningNativeItemJson := nativeItemJson }

/-- `append_joined_text`. -/
def appendJoinedText (output text : Bytes) : Bytes :=
  if text.isEmpty then output
  else if output.isEmpty then text
  else output ++ [lf, lf] ++ text

/-- What an object says itself about its summary: the first members that
    `reasoning_summary_text_from_object` joins, and the number of summary parts. -/
def ownSummaryText (object : Bytes) (remainingSummaryParts : Nat) : Option (Bytes × Nat) :=
  let text := appendJoinedText [] (stringFieldOrEmpty object "summary_text")
  let text := appendJoinedText text (stringFieldOrEmpty object "text")
  let withSummaries : Option (Bytes × Nat) :=
    if !hasField object "summary" then some (text, 0)
    else
      (strictObjectsInArrayField object "summary" (some remainingSummaryParts)).map fun summaries =>
        (summaries.foldl (fun text summary =>
          appendJoinedText text ((firstStringField summary ["text", "summary_text"]).getD [])) text,
          summaries.length)
  withSummaries.map fun (text, count) =>
    match objectField object "part" with
    | some part => (appendJoinedText text (stringFieldOrEmpty part "text"), count)
    | none => (text, count)

/-- `reasoning_summary_text_from_object`: the text, and how many summary parts are left.  The object
    in the member `item` is shorter than the object, which bounds the recursion. -/
def reasoningSummaryTextFrom : Nat → Bytes → Nat → Option (Bytes × Nat)
  | 0, _, _ => none
  | fuel + 1, object, remainingSummaryParts =>
    match ownSummaryText object remainingSummaryParts with
    | none => none
    | some (text, count) =>
      match objectField object "item" with
      | none => some (text, remainingSummaryParts - count)
      | some item =>
        (reasoningSummaryTextFrom fuel item (remainingSummaryParts - count)).map
          fun (nested, remaining) => (appendJoinedText text nested, remaining)

def reasoningSummaryTextFromObject (object : Bytes) (remainingSummaryParts : Nat) :
    Option (Bytes × Nat) :=
  reasoningSummaryTextFrom (object.length + 1) object remainingSummaryParts

/-- `reasoning_item_id_from_event`. -/
def reasoningItemIdFromEvent (data : Bytes) : Bytes :=
  (firstStringField data ["item_id", "output_item_id"]).getD []

/-- `reasoning_event_has_authoritative_complete_text`. -/
def reasoningEventHasAuthoritativeCompleteText (object : Bytes) : Bool :=
  ["summary_text", "text", "summary", "part"].any (hasField object)

/-- The index an item was registered with. -/
def registeredIndex (id : Bytes) : Option Nat :=
  (p.documentedOutputItemIdsByIndex.find? fun entry => entry.2 == id).map Prod.fst

/-- `bind_documented_reasoning_event`. -/
def bindDocumentedReasoningEvent (data : Bytes) : Bool × OpenAIStreamParser :=
  match itemReference data with
  | .absent => (true, p)
  | .invalid =>
    (false, p.appendStreamError "OpenAI reasoning event has an invalid or conflicting documented item ID")
  | .item id =>
    if List.lookup id p.documentedOutputItemTypes ≠ some (ascii "reasoning") then
      (false, p.appendStreamError "OpenAI reasoning event references an unbound documented item ID")
    else
      match documentedOutputIndex data noItem with
      | .error message => (false, p.appendStreamErrorText message)
      | .ok index =>
        if !p.activeReasoningItemId.isEmpty && p.activeReasoningItemId != id then
          (false, p.appendStreamError "OpenAI reasoning event does not match the active item")
        else
          let p := { p with activeReasoningItemId := id }
          match index with
          | some _ =>
            if p.activeReasoningOutputIndex.isSome && p.activeReasoningOutputIndex != index then
              (false, p.appendStreamError "OpenAI reasoning event changed its output_index")
            else (true, { p with activeReasoningOutputIndex := index })
          | none =>
            (true,
              { p with
                activeReasoningOutputIndex :=
                  p.activeReasoningOutputIndex.or (p.registeredIndex id) })

/-- The life cycle event of an output item. -/
inductive OutputItemLifecycle where
  | added
  | done
deriving Repr, DecidableEq

/-- `handle_documented_reasoning_output_item`. -/
def handleDocumentedReasoningOutputItem (item itemId : Bytes) (outputIndex : Option Nat) :
    OutputItemLifecycle → OpenAIStreamParser
  | .added =>
    if p.reasoningOpen && p.activeReasoningItemId != itemId then
      p.appendStreamError "OpenAI reasoning output items overlapped"
    else
      appendStartReasoningIfNeeded
        { p with activeReasoningItemId := itemId, activeReasoningOutputIndex := outputIndex }
  | .done =>
    if p.completedReasoningItemIds.contains itemId then
      p.appendStreamError "OpenAI reasoning output item completed more than once"
    else if p.reasoningOpen && p.activeReasoningItemId != itemId then
      p.appendStreamError "OpenAI reasoning output item completion did not match the active item"
    else
      let p := { p with activeReasoningItemId := itemId, activeReasoningOutputIndex := outputIndex }
      match reasoningSummaryTextFromObject item kMaxProviderParserArrayItems with
      | none => p.appendStreamError "OpenAI response parser limit exceeded"
      | some (summary, _) =>
        let (agrees, p) :=
          if reasoningEventHasAuthoritativeCompleteText item then
            p.reconcileCompleteReasoningText summary
          else (true, p)
        if !agrees then p
        else
          p.appendFinishReasoningIfOpen
            (if isValidOpenaiNativeReasoningItemJson item then item else [])

/-- What every handled reasoning event does before its own part, once it is bound: events of an item
    that is already complete are dropped, and an item without an active identity becomes active. -/
def activateReasoning (itemId : Bytes) : OpenAIStreamParser :=
  let p := { p with sawContent := true }
  if !itemId.isEmpty && p.activeReasoningItemId.isEmpty then { p with activeReasoningItemId := itemId }
  else p

/-- A reasoning event of a bound item that is not yet complete. -/
def withReasoningItem (data : Bytes) (act : OpenAIStreamParser → OpenAIStreamParser) :
    OpenAIStreamParser :=
  let itemId := reasoningItemIdFromEvent data
  let (bound, p) := p.bindDocumentedReasoningEvent data
  if !bound then p
  else if p.completedReasoningItemIds.contains itemId then p
  else act (p.activateReasoning itemId)

/-- `reasoning_summary_part.added`. -/
def reasoningPartAdded (data : Bytes) : OpenAIStreamParser :=
  p.withReasoningItem data appendStartReasoningIfNeeded

/-- `reasoning_summary_text.delta` and `reasoning_text.delta`. -/
def reasoningTextDelta (data : Bytes) : OpenAIStreamParser :=
  p.withReasoningItem data fun p =>
    p.appendReasoningDelta ((firstStringField data ["delta", "text"]).getD [])

/-- The done events of a reasoning text.  The summary is read before an item that is already
    complete is dropped.  The item stays open for the opaque payload of its own done event. -/
def reasoningTextDone (data : Bytes) : OpenAIStreamParser :=
  let itemId := reasoningItemIdFromEvent data
  let (bound, p) := p.bindDocumentedReasoningEvent data
  if !bound then p
  else
    match reasoningSummaryTextFromObject data kMaxProviderParserArrayItems with
    | none => p.appendStreamError "OpenAI response parser limit exceeded"
    | some (summary, _) =>
      if p.completedReasoningItemIds.contains itemId then p
      else
        let p := p.activateReasoning itemId
        if reasoningEventHasAuthoritativeCompleteText data then
          (p.reconcileCompleteReasoningText summary).2
        else p

/-- `handle_reasoning_event`; `none` for an event of another family. -/
def handleReasoningEvent (data type : Bytes) : Option OpenAIStreamParser :=
  if type = ascii "response.reasoning_summary_part.added" then some (p.reasoningPartAdded data)
  else if type = ascii "response.reasoning_summary_text.delta" ∨
      type = ascii "response.reasoning_text.delta" then some (p.reasoningTextDelta data)
  else if type = ascii "response.reasoning_summary_text.done" ∨
      type = ascii "response.reasoning_summary_part.done" ∨
      type = ascii "response.reasoning_text.done" then some (p.reasoningTextDone data)
  else none

/-! ## §4. Message items. -/

/-- The text of one content part. -/
def contentPart (content : Bytes) : Except Bytes (MessageContentKind × Bytes) :=
  let type := stringFieldOrEmpty content "type"
  if type = ascii "output_text" then
    match stringField content "text" with
    | none => .error (ascii "OpenAI output_text content part requires string text")
    | some text => .ok (.outputText, text)
  else if type = ascii "refusal" then
    match stringField content "refusal" with
    | none => .error (ascii "OpenAI refusal content part requires string refusal")
    | some text => .ok (.refusal, text)
  else .error (ascii "OpenAI message output item has an unsupported content-part type")

/-- The loop of `completed_message_content_from_item`. -/
def joinContentParts : List Bytes → Bytes × Bytes → Except Bytes (Bytes × Bytes)
  | [], texts => .ok texts
  | content :: contents, (outputText, refusalText) =>
    match contentPart content with
    | .error message => .error message
    | .ok (.outputText, text) => joinContentParts contents (outputText ++ text, refusalText)
    | .ok (.refusal, text) => joinContentParts contents (outputText, refusalText ++ text)

/-- `completed_message_content_from_item`: the output text and the refusal text, if the item has a
    content member. -/
def completedMessageContentFromItem (item : Bytes) : Except Bytes (Option (Bytes × Bytes)) :=
  if !hasField item "content" then .ok none
  else
    match strictObjectsInArrayField item "content" (some kMaxProviderParserArrayItems) with
    | none => .error (ascii "OpenAI response parser limit exceeded")
    | some contents => (joinContentParts contents ([], [])).map some

/-- An event of a message item. -/
def messageEvent (itemId : Bytes) (state : MessageItemState) (type : StreamEventType) (text : Bytes) :
    StreamEvent where
  type := type
  text := text
  providerItemId := itemId
  providerOutputIndex := state.providerOutputIndex
  assistantPhase := state.phase

/-- Write a message item back. -/
def putMessage (itemId : Bytes) (state : MessageItemState) : OpenAIStreamParser :=
  { p with messageItems := p.messageItems.set itemId state }

/-- `append_documented_message_delta`. -/
def appendDocumentedMessageDelta (itemId : Bytes) (state : MessageItemState) (text : Bytes)
    (kind : MessageContentKind) : MessageItemState × OpenAIStreamParser :=
  if text.isEmpty then (state, p)
  else
    let state := state.capture text kind
    (state, (p.putMessage itemId state).push (messageEvent itemId state .textDelta text))

/-- `reconcile_complete_message_text`. -/
def reconcileCompleteMessageText (itemId : Bytes) (state : MessageItemState) (completeText : Bytes)
    (kind : MessageContentKind) : Bool × MessageItemState × OpenAIStreamParser :=
  if completeText = state.captured kind then (true, state, p)
  else if (state.captured kind).isPrefixOf completeText then
    (true, p.appendDocumentedMessageDelta itemId state
      (completeText.drop (state.captured kind).length) kind)
  else
    (false, state, p.appendStreamError
      (match kind with
        | .refusal => "conflicting OpenAI refusal text"
        | .outputText => "conflicting OpenAI message text"))

/-- The message item that a text event is about. -/
inductive MessageTarget where
  | legacy
  | rejected
  | item (itemId : Bytes) (state : MessageItemState)
deriving Repr, DecidableEq

/-- `documented_message_item_for_event`. -/
def documentedMessageItemForEvent (data : Bytes) : MessageTarget × OpenAIStreamParser :=
  match itemReference data with
  | .absent => (.legacy, p)
  | .invalid =>
    (.rejected,
      p.appendStreamError "OpenAI message text event has an invalid or conflicting documented item ID")
  | .item id =>
    match List.lookup id p.messageItems with
    | none =>
      (.rejected, p.appendStreamError "OpenAI message text event references an unbound item ID")
    | some state =>
      if state.ended then
        (.rejected,
          p.appendStreamError "OpenAI message text event emitted after item completion")
      else
        match documentedOutputIndex data noItem with
        | .error message => (.rejected, p.appendStreamErrorText message)
        | .ok outputIndex =>
          if outputIndex.isSome && state.providerOutputIndex != outputIndex then
            (.rejected,
              p.appendStreamError "OpenAI message text event changed its output_index")
          else
            match documentedMessagePhase data noItem with
            | .error message => (.rejected, p.appendStreamErrorText message)
            | .ok phase =>
              if phase ≠ .unknown ∧ state.phase ≠ .unknown ∧ phase ≠ state.phase then
                (.rejected, p.appendStreamError "OpenAI message text event changed its phase")
              else if state.phase = .unknown ∧ phase ≠ .unknown then
                let state := { state with phase := phase }
                (.item id state, p.putMessage id state)
              else (.item id state, p)

/-- `handle_documented_message_output_item`, for an added item. -/
def addDocumentedMessageOutputItem (item itemId : Bytes) (outputIndex : Option Nat)
    (phase : AssistantPhase) : OpenAIStreamParser :=
  match completedMessageContentFromItem item with
  | .error message => p.appendStreamErrorText message
  | .ok content =>
    if (List.lookup itemId p.messageItems).isSome then
      p.appendStreamError "OpenAI message output item was added more than once"
    else
      let state : MessageItemState := { providerOutputIndex := outputIndex, phase := phase }
      let p := (p.putMessage itemId state).push (messageEvent itemId state .textStart [])
      match content with
      | none => p
      | some (outputText, refusalText) =>
        let (state, p) := p.appendDocumentedMessageDelta itemId state outputText .outputText
        let (_, p) := p.appendDocumentedMessageDelta itemId state refusalText .refusal
        if refusalText.isEmpty then p else { p with sawRefusal := true }

/-- The end of a message item whose text has been reconciled. -/
def endDocumentedMessage (itemId : Bytes) (state : MessageItemState) : OpenAIStreamParser :=
  (p.putMessage itemId { state with ended := true }).push (messageEvent itemId state .textEnd [])

/-- `handle_documented_message_output_item`, for a completed item. -/
def completeDocumentedMessageOutputItem (item itemId : Bytes) (outputIndex : Option Nat)
    (phase : AssistantPhase) : OpenAIStreamParser :=
  match List.lookup itemId p.messageItems with
  | none =>
    p.appendStreamError
      "OpenAI message output item completed without one matching add lifecycle event"
  | some state =>
    if state.ended then
      p.appendStreamError "OpenAI message output item completed more than once"
    else if (outputIndex.isSome && state.providerOutputIndex != outputIndex) ||
        (phase != .unknown && state.phase != .unknown && phase != state.phase) then
      p.appendStreamError "OpenAI message output item changed its output_index or phase"
    else
      let state :=
        if state.phase = .unknown ∧ phase ≠ .unknown then { state with phase := phase } else state
      let p := p.putMessage itemId state
      match completedMessageContentFromItem item with
      | .error message => p.appendStreamErrorText message
      | .ok none => p.endDocumentedMessage itemId state
      | .ok (some (outputText, refusalText)) =>
        let (agrees, state, p) := p.reconcileCompleteMessageText itemId state outputText .outputText
        if !agrees then p
        else
          let (agrees, state, p) := p.reconcileCompleteMessageText itemId state refusalText .refusal
          if !agrees then p
          else
            let p := if refusalText.isEmpty then p else { p with sawRefusal := true }
            p.endDocumentedMessage itemId state

/-- `output_text.done`. -/
def outputTextDone (data : Bytes) : OpenAIStreamParser :=
  match p.documentedMessageItemForEvent data with
  | (.legacy, p) => p
  | (.rejected, p) => p
  | (.item itemId state, p) =>
    if state.outputTextCompleted then
      p.appendStreamError "OpenAI message text completed more than once"
    else if hasField data "text" && (stringField data "text").isNone then
      p.appendStreamError "OpenAI message text completion requires a string text"
    else
      let (agrees, state, p) :=
        p.reconcileCompleteMessageText itemId state (stringFieldOrEmpty data "text") .outputText
      if !agrees then p
      else
        { p.putMessage itemId { state with outputTextCompleted := true } with sawContent := true }

/-- `refusal.done`. -/
def refusalDone (data : Bytes) : OpenAIStreamParser :=
  match (p.appendFinishReasoningIfOpen []).documentedMessageItemForEvent data with
  | (.legacy, p) =>
    p.appendStreamError "OpenAI refusal completion requires a documented message item ID"
  | (.rejected, p) => p
  | (.item itemId state, p) =>
    if state.refusalCompleted then
      p.appendStreamError "OpenAI message refusal completed more than once"
    else
      match stringField data "refusal" with
      | none => p.appendStreamError "OpenAI refusal completion requires string refusal"
      | some refusal =>
        let (agrees, state, p) := p.reconcileCompleteMessageText itemId state refusal .refusal
        if !agrees then p
        else
          { p.putMessage itemId { state with refusalCompleted := true } with
            sawContent := true
            sawRefusal := true }

/-- `refusal.delta`. -/
def refusalDelta (data : Bytes) : OpenAIStreamParser :=
  match (p.appendFinishReasoningIfOpen []).documentedMessageItemForEvent data with
  | (.legacy, p) => p.appendStreamError "OpenAI refusal delta requires a documented message item ID"
  | (.rejected, p) => p
  | (.item itemId state, p) =>
    if state.refusalCompleted then
      p.appendStreamError "OpenAI message refusal emitted after completion"
    else
      match stringField data "delta" with
      | none => p.appendStreamError "OpenAI refusal delta requires string delta"
      | some delta =>
        { (p.appendDocumentedMessageDelta itemId state delta .refusal).2 with
          sawContent := true
          sawRefusal := true }

/-- `output_text.delta` and `text.delta`. -/
def outputTextDelta (data : Bytes) : OpenAIStreamParser :=
  let p := { p with sawContent := true }
  let delta := (firstStringField data ["delta", "text"]).getD []
  match (p.appendFinishReasoningIfOpen []).documentedMessageItemForEvent data with
  | (.legacy, p) => p.push { type := .textDelta, text := delta }
  | (.rejected, p) => p
  | (.item itemId state, p) =>
    if state.outputTextCompleted then
      p.appendStreamError "OpenAI message text emitted after completion"
    else (p.appendDocumentedMessageDelta itemId state delta .outputText).2

/-- `handle_message_event` before the ignored life cycle events: the completion of a text. -/
def handleMessageCompletion (data type : Bytes) : Option OpenAIStreamParser :=
  if type = ascii "response.output_text.done" then some (p.outputTextDone data)
  else if type = ascii "response.refusal.done" then some (p.refusalDone data)
  else none

/-- `handle_message_event` after the ignored life cycle events: a piece of a text. -/
def handleMessageDelta (data type : Bytes) : Option OpenAIStreamParser :=
  if type = ascii "response.refusal.delta" then some (p.refusalDelta data)
  else if type = ascii "response.output_text.delta" ∨ type = ascii "response.text.delta" then
    some (p.outputTextDelta data)
  else none

/-- `reject_unended_documented_message_items`. -/
def rejectUnendedDocumentedMessageItems : Bool × OpenAIStreamParser :=
  if p.messageItems.any fun entry => !entry.2.ended then
    (true, p.appendStreamError "OpenAI response ended before documented message item completion")
  else (false, p)

/-! ## §5. Function calls. -/

/-- `function_call_item_id_from_event`. -/
def functionCallItemIdFromEvent (data : Bytes) : Bytes :=
  (firstStringField data ["item_id", "output_item_id"]).getD []

/-- `logical_function_call_id_from_event`. -/
def logicalFunctionCallIdFromEvent (data : Bytes) : Bytes := stringFieldOrEmpty data "call_id"

/-- `function_call_name_from_event`. -/
def functionCallNameFromEvent (data : Bytes) : Bytes := stringFieldOrEmpty data "name"

/-- `function_call_arguments_from_event`; `item` is absent in the legacy families. -/
def functionCallArgumentsFromEvent (data : Bytes) (item : Option Bytes) : Option Bytes :=
  ((item.bind fun item => stringField item "arguments").or (stringField data "arguments"))

/-- A pointer to the state of a call: its table and its key. -/
inductive CallRef where
  | documented (itemId : Bytes)
  | legacy (itemId : Bytes)
deriving Repr, DecidableEq

def getCall : CallRef → FunctionCallState
  | .documented itemId => (List.lookup itemId p.functionCalls).getD {}
  | .legacy itemId => (List.lookup itemId p.legacyFunctionCalls).getD {}

def putCall (call : FunctionCallState) : CallRef → OpenAIStreamParser
  | .documented itemId => { p with functionCalls := p.functionCalls.set itemId call }
  | .legacy itemId => { p with legacyFunctionCalls := p.legacyFunctionCalls.set itemId call }

/-- The legacy call with a logical identity. -/
def legacyCallWithLogicalId (callId : Bytes) : Option CallRef :=
  (p.legacyFunctionCalls.find? fun entry => entry.2.logicalCallId == callId).map fun entry =>
    .legacy entry.1

/-- `legacy_function_call_state_for`. -/
def legacyFunctionCallStateFor (data : Bytes) : CallRef × OpenAIStreamParser :=
  let itemId := functionCallItemIdFromEvent data
  let callId := logicalFunctionCallIdFromEvent data
  let name := functionCallNameFromEvent data
  let rename (call : FunctionCallState) : FunctionCallState :=
    if name.isEmpty then call else { call with name := name }
  match (if itemId.isEmpty && !callId.isEmpty then p.legacyCallWithLogicalId callId else none) with
  | some ref => (ref, p.putCall (rename (p.getCall ref)) ref)
  | none =>
    let itemId := if itemId.isEmpty then callId else itemId
    let call := p.getCall (.legacy itemId)
    let call := if callId.isEmpty then call else { call with logicalCallId := callId }
    let call := if call.logicalCallId.isEmpty then { call with logicalCallId := itemId } else call
    (.legacy itemId, p.putCall (rename call) (.legacy itemId))

/-- `legacy_function_call_state_for_existing_event`. -/
def legacyFunctionCallStateForExistingEvent (data : Bytes) : Option CallRef :=
  let itemId := functionCallItemIdFromEvent data
  let callId := logicalFunctionCallIdFromEvent data
  if !itemId.isEmpty && (List.lookup itemId p.legacyFunctionCalls).isSome then some (.legacy itemId)
  else if callId.isEmpty then none
  else p.legacyCallWithLogicalId callId

/-- `has_documented_function_call_mapping`. -/
def hasDocumentedFunctionCallMapping (data : Bytes) : Bool :=
  hasField data "item_id" || hasField data "output_item_id" ||
    (stringField data "call_id").any fun callId =>
      (List.lookup callId p.functionCallItemIdsByLogicalId).isSome

/-- `has_valid_legacy_function_call_identity`. -/
def hasValidLegacyFunctionCallIdentity (data : Bytes) : Bool :=
  (stringField data "call_id").any isValidOpenaiOpaqueId

variable (call : FunctionCallState)

/-- An event of a function call. -/
def callEvent (type : StreamEventType) (toolName text : Bytes) : StreamEvent where
  type := type
  text := text
  toolCallId := call.logicalCallId
  toolName := toolName
  providerItemId := call.providerItemId
  providerOutputIndex := call.providerOutputIndex

/-- `append_function_call_start_if_ready`; the call is started afterwards exactly when the source
    returns true. -/
def appendFunctionCallStartIfReady : FunctionCallState × OpenAIStreamParser :=
  if call.started || call.logicalCallId.isEmpty || call.name.isEmpty then (call, p)
  else ({ call with started := true }, p.push (callEvent call .toolCallStart call.name []))

/-- `append_unemitted_function_call_arguments`. -/
def appendUnemittedFunctionCallArguments : FunctionCallState × OpenAIStreamParser :=
  if !call.started || decide (call.emittedArgumentBytes ≥ call.arguments.length) then (call, p)
  else
    ({ call with emittedArgumentBytes := call.arguments.length },
      p.push (callEvent call .toolCallDelta [] (call.arguments.drop call.emittedArgumentBytes)))

/-- Start a call that is ready, then emit what is left of its arguments. -/
def startAndEmit : FunctionCallState × OpenAIStreamParser :=
  let (call, p) := p.appendFunctionCallStartIfReady call
  p.appendUnemittedFunctionCallArguments call

/-- `append_function_call_argument_fragment`. -/
def appendFunctionCallArgumentFragment (fragment : Bytes) :
    FunctionCallState × OpenAIStreamParser :=
  if fragment.isEmpty then (call, p)
  else p.startAndEmit { call with arguments := call.arguments ++ fragment }

/-- `reconcile_complete_function_call_arguments`. -/
def reconcileCompleteFunctionCallArguments (completeArguments : Option Bytes) :
    Bool × FunctionCallState × OpenAIStreamParser :=
  match completeArguments with
  | none => (true, call, p)
  | some complete =>
    if complete = call.arguments then (true, call, p)
    else if call.arguments.isPrefixOf complete then
      (true, p.startAndEmit { call with arguments := complete })
    else (false, call, p.appendStreamError "conflicting OpenAI function call arguments")

/-- `append_function_call_end`. -/
def appendFunctionCallEnd (requireNamedStart : Bool) : FunctionCallState × OpenAIStreamParser :=
  if call.ended then (call, p)
  else
    let (call, p) := if call.started then (call, p) else p.startAndEmit call
    if !call.started && requireNamedStart then
      (call, p.appendStreamError "OpenAI function call item has an empty logical call ID or name")
    else ({ call with ended := true }, p.push (callEvent call .toolCallEnd [] []))

/-- `bind_documented_function_call_item`. -/
def bindDocumentedFunctionCallItem (item : Bytes) (providerOutputIndex : Option Nat) :
    Option Bytes × OpenAIStreamParser :=
  match stringField item "id", stringField item "call_id", stringField item "name",
      stringField item "arguments" with
  | some itemId, some callId, some name, some _ =>
    if !isValidOpenaiOpaqueId itemId || !isValidOpenaiOpaqueId callId ||
        !isValidOpenaiOpaqueId name then
      (none, p.appendStreamError "OpenAI function call item requires bounded item ID, logical call ID, name, and string arguments")
    else
      match List.lookup itemId p.functionCalls with
      | some call =>
        if call.logicalCallId ≠ callId ∨ call.name ≠ name then
          (none,
            p.appendStreamError "OpenAI function call item changed its logical call ID or name")
        else if providerOutputIndex.isSome && call.providerOutputIndex != providerOutputIndex then
          (none, p.appendStreamError "OpenAI function call item changed its output_index")
        else (some itemId, p)
      | none =>
        if (List.lookup callId p.functionCallItemIdsByLogicalId).any (· != itemId) then
          (none, p.appendStreamError "OpenAI function call logical call ID is already bound to another item")
        else
          let call : FunctionCallState :=
            { providerItemId := itemId
              providerOutputIndex := providerOutputIndex
              logicalCallId := callId
              name := name }
          (some itemId,
            { p.putCall call (.documented itemId) with
              functionCallItemIdsByLogicalId :=
                if (List.lookup callId p.functionCallItemIdsByLogicalId).isSome then
                  p.functionCallItemIdsByLogicalId
                else p.functionCallItemIdsByLogicalId.set callId itemId })
  | _, _, _, _ =>
    (none, p.appendStreamError "OpenAI function call item requires bounded item ID, logical call ID, name, and string arguments")

/-- The documented call that an arguments event names: by its item, and by its logical identity. -/
def namedFunctionCall (data : Bytes) : Except Bytes Bytes :=
  let itemId := stringField data "item_id"
  let outputItemId := stringField data "output_item_id"
  let callId := stringField data "call_id"
  if (hasField data "item_id" && !(itemId.any isValidOpenaiOpaqueId)) ||
      (hasField data "output_item_id" && !(outputItemId.any isValidOpenaiOpaqueId)) then
    .error (ascii "OpenAI function call arguments contain an invalid documented item ID")
  else if itemId.isSome && outputItemId.isSome && itemId != outputItemId then
    .error (ascii "OpenAI function call arguments have conflicting documented item IDs")
  else
    let documentedItemId := itemId.or outputItemId
    if documentedItemId.any fun id => (List.lookup id p.functionCalls).isNone then
      .error (ascii "OpenAI function call arguments reference an unbound item ID")
    else if !hasField data "call_id" then
      match documentedItemId with
      | some id => .ok id
      | none =>
        .error (ascii "OpenAI function call arguments are missing an item ID or logical call ID")
    else if !(callId.any isValidOpenaiOpaqueId) then
      .error (ascii "OpenAI function call arguments contain an invalid logical call ID")
    else
      match callId.bind fun callId => List.lookup callId p.functionCallItemIdsByLogicalId with
      | none =>
        .error (ascii "OpenAI function call arguments reference an unbound logical call ID")
      | some mapped =>
        if (List.lookup mapped p.functionCalls).isNone || documentedItemId.any (· != mapped) then
          .error (ascii "OpenAI function call arguments have conflicting item and logical call IDs")
        else .ok mapped

/-- `documented_function_call_state_for_event`. -/
def documentedFunctionCallStateForEvent (data : Bytes) : Option CallRef × OpenAIStreamParser :=
  match p.namedFunctionCall data with
  | .error message => (none, p.appendStreamErrorText message)
  | .ok itemId =>
    let call := p.getCall (.documented itemId)
    if call.ended then
      (none, p.appendStreamError "OpenAI function call arguments emitted after completion")
    else
      match documentedOutputIndex data noItem with
      | .error message => (none, p.appendStreamErrorText message)
      | .ok outputIndex =>
        if outputIndex.isSome && call.providerOutputIndex != outputIndex then
          (none,
            p.appendStreamError "OpenAI function call arguments changed their output_index")
        else if (stringField data "call_id").any (· != call.logicalCallId) ||
            (hasField data "name" && stringField data "name" != some call.name) then
          (none,
            p.appendStreamError "OpenAI function call arguments changed their item binding")
        else (some (.documented itemId), p)

/-- `handle_documented_function_call_output_item`. -/
def handleDocumentedFunctionCallOutputItem (data item : Bytes) (outputIndex : Option Nat) :
    OutputItemLifecycle → OpenAIStreamParser
  | .added =>
    match (p.appendFinishReasoningIfOpen []).bindDocumentedFunctionCallItem item outputIndex with
    | (none, p) => p
    | (some itemId, p) =>
      let (call, p) :=
        p.appendFunctionCallArgumentFragment (p.getCall (.documented itemId))
          ((functionCallArgumentsFromEvent data (some item)).getD [])
      let (call, p) := p.startAndEmit call
      p.putCall call (.documented itemId)
  | .done =>
    let p := p.appendFinishReasoningIfOpen []
    match stringField item "arguments" with
    | none =>
      p.appendStreamError "OpenAI function call output item completion requires JSON-object string arguments"
    | some finalArguments =>
      if !isValidObject finalArguments then
        p.appendStreamError "OpenAI function call output item completion requires JSON-object string arguments"
      else
        match p.bindDocumentedFunctionCallItem item outputIndex with
        | (none, p) => p
        | (some itemId, p) =>
          let call := p.getCall (.documented itemId)
          if call.ended then
            p.appendStreamError "OpenAI function call output item completed more than once"
          else
            let (agrees, call, p) :=
              p.reconcileCompleteFunctionCallArguments call (some finalArguments)
            if !agrees then p
            else
              let (call, p) := p.appendFunctionCallEnd call true
              p.putCall call (.documented itemId)

/-- The call that an arguments event is about: documented, or a legacy one that is made if need be.
    `none` in the first component when the event ends there. -/
def functionCallForArguments (data : Bytes) : Option (Option CallRef) × OpenAIStreamParser :=
  if p.hasDocumentedFunctionCallMapping data then
    let (ref, p) := p.documentedFunctionCallStateForEvent data
    (some ref, p)
  else
    match p.legacyFunctionCallStateForExistingEvent data with
    | some ref => (some (some ref), p)
    | none =>
      if !hasValidLegacyFunctionCallIdentity data then
        (none,
          p.appendStreamError "OpenAI legacy function call arguments require a nonempty logical call ID")
      else
        let (ref, p) := p.legacyFunctionCallStateFor data
        (some (some ref), p)

/-- `function_call_arguments.done`. -/
def argumentsDone (data : Bytes) : OpenAIStreamParser :=
  let documentedMapping := p.hasDocumentedFunctionCallMapping data
  match p.functionCallForArguments data with
  | (none, p) => p
  | (some ref, p) =>
    let completeArguments := stringField data "arguments"
    if documentedMapping && !(completeArguments.any isValidObject) then
      p.appendStreamError "OpenAI documented function call arguments completion requires JSON-object string arguments"
    else
      match ref with
      | none => p
      | some ref =>
        let (agrees, call, p) :=
          p.reconcileCompleteFunctionCallArguments (p.getCall ref) completeArguments
        if !agrees then p
        else
          let (call, p) := p.startAndEmit call
          p.putCall call ref

/-- `function_call_arguments.delta`. -/
def argumentsDelta (data : Bytes) : OpenAIStreamParser :=
  let p := { p with sawContent := true }.appendFinishReasoningIfOpen []
  let documentedMapping := p.hasDocumentedFunctionCallMapping data
  match p.functionCallForArguments data with
  | (none, p) => p
  | (some ref, p) =>
    let delta := stringField data "delta"
    if documentedMapping && delta.isNone then
      p.appendStreamError "OpenAI documented function call arguments delta requires a string delta"
    else
      match ref with
      | none => p
      | some ref =>
        let (call, p) := p.appendFunctionCallArgumentFragment (p.getCall ref) (delta.getD [])
        p.putCall call ref

/-- `function_call.added` of the legacy family. -/
def legacyCallAdded (data : Bytes) : OpenAIStreamParser :=
  let (ref, p) :=
    ({ p with sawContent := true }.appendFinishReasoningIfOpen []).legacyFunctionCallStateFor data
  let call := p.getCall ref
  if call.logicalCallId.isEmpty then p.push { type := .toolCallStart, toolName := call.name }
  else if call.name.isEmpty then
    p.appendStreamError "OpenAI function call item has an empty logical call ID or name"
  else
    let (call, p) :=
      p.appendFunctionCallArgumentFragment call ((functionCallArgumentsFromEvent data none).getD [])
    let (call, p) := p.startAndEmit call
    p.putCall call ref

/-- `function_call.done` and `function_call.completed` of the legacy family. -/
def legacyCallDone (data : Bytes) : OpenAIStreamParser :=
  let (ref, p) :=
    ({ p with sawContent := true }.appendFinishReasoningIfOpen []).legacyFunctionCallStateFor data
  let (agrees, call, p) :=
    p.reconcileCompleteFunctionCallArguments (p.getCall ref) (functionCallArgumentsFromEvent data none)
  if !agrees then p
  else
    let (call, p) := p.appendFunctionCallEnd call false
    p.putCall call ref

/-- `handle_function_call_event` before the ignored life cycle events: the completion of the
    arguments. -/
def handleFunctionCallArgumentsDone (data type : Bytes) : Option OpenAIStreamParser :=
  if type = ascii "response.function_call_arguments.done" then some (p.argumentsDone data) else none

/-- `handle_function_call_event` after the ignored life cycle events. -/
def handleFunctionCallEvent (data type : Bytes) : Option OpenAIStreamParser :=
  if type = ascii "response.function_call_arguments.delta" then some (p.argumentsDelta data)
  else if type = ascii "response.function_call.added" then some (p.legacyCallAdded data)
  else if type = ascii "response.function_call.done" ∨
      type = ascii "response.function_call.completed" then some (p.legacyCallDone data)
  else none

/-- `reject_unended_documented_function_calls`. -/
def rejectUnendedDocumentedFunctionCalls : Bool × OpenAIStreamParser :=
  if p.functionCalls.any fun entry => !entry.2.ended then
    (true, p.appendStreamError "OpenAI response ended before documented function call item completion")
  else (false, p)

/-! ## §6. Output items, terminal events, dispatch. -/

/-- `documented_output_item_metadata`: identity, index and phase of an output item. -/
def documentedOutputItemMetadata (data item : Bytes) (isMessage : Bool) :
    Except Bytes (Bytes × Option Nat × AssistantPhase) :=
  match stringField item "id" with
  | none => .error (ascii "OpenAI output item requires a bounded item ID")
  | some id =>
    if !isValidOpenaiOpaqueId id then .error (ascii "OpenAI output item requires a bounded item ID")
    else
      match documentedOutputIndex data item with
      | .error message => .error message
      | .ok outputIndex =>
        if isMessage then
          (documentedMessagePhase data item).map fun phase => (id, outputIndex, phase)
        else .ok (id, outputIndex, .unknown)

/-- What an output item event registers: the type of its item, that it was added, its index. -/
def registerOutputItem (lifecycle : OutputItemLifecycle) (itemType id : Bytes)
    (outputIndex : Option Nat) : Bool × OpenAIStreamParser :=
  let existing := List.lookup id p.documentedOutputItemTypes
  if existing.any (· != itemType) then
    (false, p.appendStreamError "OpenAI output item ID changed its item type")
  else if existing.isSome && lifecycle == .added then
    (false, p.appendStreamError "OpenAI output item was added more than once")
  else
    let p :=
      if existing.isSome then p
      else
        { p with documentedOutputItemTypes := p.documentedOutputItemTypes.set id itemType }
    if lifecycle == .added && p.documentedOutputItemAddedIds.contains id then
      (false, p.appendStreamError "OpenAI output item was added more than once")
    else
      let p :=
        if lifecycle == .added then
          { p with documentedOutputItemAddedIds := p.documentedOutputItemAddedIds ++ [id] }
        else p
      match outputIndex with
      | none => (true, p)
      | some index =>
        match List.lookup index p.documentedOutputItemIdsByIndex with
        | some bound =>
          if bound ≠ id then
            (false, p.appendStreamError "OpenAI output item index is already bound to another item ID")
          else (true, p)
        | none =>
          (true,
            { p with
              documentedOutputItemIdsByIndex := p.documentedOutputItemIdsByIndex.set index id })

/-- `handle_documented_output_item_lifecycle`, for an event of that family. -/
def handleOutputItem (data : Bytes) (lifecycle : OutputItemLifecycle) : OpenAIStreamParser :=
  match objectField data "item" with
  | none => p.appendStreamError "OpenAI response contains an unsupported output item type"
  | some item =>
    let itemType := stringFieldOrEmpty item "type"
    if itemType ≠ ascii "message" ∧ itemType ≠ ascii "reasoning" ∧
        itemType ≠ ascii "function_call" then
      p.appendStreamError "OpenAI response contains an unsupported output item type"
    else
      match documentedOutputItemMetadata data item (itemType == ascii "message") with
      | .error message => p.appendStreamErrorText message
      | .ok (id, outputIndex, phase) =>
        let (registered, p) := p.registerOutputItem lifecycle itemType id outputIndex
        if !registered then p
        else
          let p := { p with sawContent := true }
          if itemType = ascii "message" then
            match lifecycle with
            | .added => p.addDocumentedMessageOutputItem item id outputIndex phase
            | .done => p.completeDocumentedMessageOutputItem item id outputIndex phase
          else if itemType = ascii "reasoning" then
            p.handleDocumentedReasoningOutputItem item id outputIndex lifecycle
          else p.handleDocumentedFunctionCallOutputItem data item outputIndex lifecycle

/-- `handle_documented_output_item_lifecycle`. -/
def handleDocumentedOutputItemLifecycle (data type : Bytes) : Option OpenAIStreamParser :=
  if type = ascii "response.output_item.added" then some (p.handleOutputItem data .added)
  else if type = ascii "response.output_item.done" then some (p.handleOutputItem data .done)
  else none

/-- The rows of `kProviderFinishReasonCatalog` for the Responses API. -/
def kOpenAIFinishReasonCatalog : List (String × ProviderFinishReason) :=
  [("completed", .completed), ("max_output_tokens", .maxTokens), ("max_tokens", .maxTokens),
    ("content_filter", .refusal), ("refusal", .refusal), ("cancelled", .cancelled),
    ("canceled", .cancelled), ("incomplete", .error), ("failed", .error)]

/-- `normalized_openai_finish_reason`. -/
def normalizedOpenaiFinishReason (reason : Bytes) : ProviderFinishReason :=
  ((kOpenAIFinishReasonCatalog.find? fun row => ascii row.1 == reason).map Prod.snd).getD .error

variable (object : Bytes)

/-- The reason in the member `incomplete_details`. -/
def incompleteReason : Option Bytes :=
  (objectField object "incomplete_details").bind fun details => stringField details "reason"

/-- `openai_response_finish_reason`. -/
def openaiResponseFinishReason : ProviderFinishReason :=
  let status := stringFieldOrEmpty object "status"
  let response := objectField object "response"
  let status :=
    match response with
    | some response => if status.isEmpty then stringFieldOrEmpty response "status" else status
    | none => status
  normalizedOpenaiFinishReason
    (((response.bind incompleteReason).or (incompleteReason object)).getD status)

/-- `first_integer_field`: the first of the members that holds a non-negative integer. -/
def firstIntegerField (keys : List String) : Option Int :=
  keys.findSome? fun key => (integerField object key).filter fun value => decide (0 ≤ value)

/-- `first_integer_field` on a nested object. -/
def nestedIntegerField (nested : String) (keys : List String) : Option Int :=
  (objectField object nested).bind fun details => firstIntegerField details keys

/-- `usage_from_object`. -/
def usageFromObject (usage : Bytes) : Option TokenUsage :=
  let inputTokens := firstIntegerField usage ["input_tokens", "prompt_tokens"]
  let outputTokens := firstIntegerField usage ["output_tokens", "completion_tokens"]
  let totalTokens := firstIntegerField usage ["total_tokens"]
  let reasoningTokens :=
    ((nestedIntegerField usage "output_tokens_details" ["reasoning_tokens"]).or
      (nestedIntegerField usage "completion_tokens_details" ["reasoning_tokens"])).or
      (firstIntegerField usage ["reasoning_tokens"])
  let cacheReadTokens :=
    ((nestedIntegerField usage "input_tokens_details" ["cached_tokens", "cache_read_tokens"]).or
      (nestedIntegerField usage "prompt_tokens_details" ["cached_tokens", "cache_read_tokens"])).or
      (firstIntegerField usage ["cached_tokens", "cache_read_tokens", "cache_read_input_tokens"])
  let cacheWriteTokens :=
    ((nestedIntegerField usage "input_tokens_details"
        ["cache_creation_tokens", "cache_write_tokens"]).or
      (nestedIntegerField usage "prompt_tokens_details"
        ["cache_creation_tokens", "cache_write_tokens"])).or
      (firstIntegerField usage ["cache_write_tokens", "cache_creation_input_tokens"])
  if [inputTokens, outputTokens, reasoningTokens, cacheReadTokens, cacheWriteTokens,
      totalTokens].all Option.isNone then none
  else
    some
      { inputTokens := inputTokens
        outputTokens := outputTokens
        reasoningTokens := reasoningTokens
        cacheReadTokens := cacheReadTokens
        cacheWriteTokens := cacheWriteTokens
        totalTokens := totalTokens }

/-- `parse_openai_usage`. -/
def parseOpenaiUsage (body : Bytes) : Option TokenUsage :=
  match objectField body "usage" with
  | some usage => usageFromObject usage
  | none =>
    match (objectField body "response").bind fun response => objectField response "usage" with
    | some usage => usageFromObject usage
    | none => usageFromObject body

/-- The end of a response: `[DONE]`, `response.completed` or `response.incomplete`. -/
def endResponse (usage : Option TokenUsage) (reason : ProviderFinishReason) : OpenAIStreamParser :=
  if p.doneSeen then p
  else
    match ({ p with doneSeen := true } : OpenAIStreamParser).rejectUnendedDocumentedFunctionCalls with
    | (true, p) => p
    | (false, p) =>
      match p.rejectUnendedDocumentedMessageItems with
      | (true, p) => p
      | (false, p) =>
        (p.appendFinishReasoningIfOpen []).push
          { type := .done
            usage := usage
            finishReason := some (if p.sawRefusal then .refusal else reason) }

/-- The marker that ends the framing. -/
def doneMarker : Bytes := ascii "[DONE]"

/-- `handle_terminal_event` on a JSON record. -/
def handleTerminalEvent (data type : Bytes) : Option OpenAIStreamParser :=
  if type = ascii "response.completed" then
    some (p.endResponse (parseOpenaiUsage data) .completed)
  else if type = ascii "response.incomplete" then
    some (p.endResponse (parseOpenaiUsage data) (openaiResponseFinishReason data))
  else if type = ascii "error" ∨ type = ascii "response.error" ∨ type = ascii "response.failed" then
    some ((p.appendFinishReasoningIfOpen []).appendStreamError
      "OpenAI provider reported a streaming error")
  else none

/-- `is_ignored_lifecycle_event`. -/
def isIgnoredLifecycleEvent (type : Bytes) : Bool :=
  ["response.created", "response.in_progress", "response.content_part.added",
    "response.content_part.done"].any fun ignored => ascii ignored == type

/-- The discriminator chain of `append_event_for_data`. -/
def dispatch (data type : Bytes) : OpenAIStreamParser :=
  ((((((((p.handleDocumentedOutputItemLifecycle data type).or
    (p.handleReasoningEvent data type)).or
    (p.handleFunctionCallArgumentsDone data type)).or
    (p.handleMessageCompletion data type)).or
    (if isIgnoredLifecycleEvent type then some p else none)).or
    (p.handleMessageDelta data type)).or
    (p.handleFunctionCallEvent data type)).or
    (p.handleTerminalEvent data type)).getD p

/-- `append_event_for_data`. -/
def appendEventForData (data : Bytes) : OpenAIStreamParser :=
  if data = doneMarker then p.endResponse none .completed
  else if p.doneSeen then
    p.appendStreamError "OpenAI response emitted an event after its terminal marker"
  else if !isValidObject data then
    (p.appendFinishReasoningIfOpen []).appendStreamError "malformed OpenAI SSE event"
  else p.dispatch data (stringFieldOrEmpty data "type")

/-! ## §7. Behind the shared buffer. -/

/-- The decoder that `OpenAIStreamParser::append` hands to the buffer. -/
def decode : Decode OpenAIStreamParser := fun p budget data =>
  let p := { p with events := [] }.appendEventForData data
  (p.events, budget, { p with events := [] })

/-- The completion that `OpenAIStreamParser::finish` hands to the buffer. -/
def complete : Complete OpenAIStreamParser := fun p budget =>
  let p := { p with events := [] }
  let p :=
    if !p.doneSeen && !p.errorSeen then
      match p.rejectUnendedDocumentedFunctionCalls with
      | (true, p) => p
      | (false, p) => p.rejectUnendedDocumentedMessageItems.2
    else p
  let p := p.appendFinishReasoningIfOpen []
  let p :=
    if p.sawContent && !p.doneSeen && !p.errorSeen then
      p.appendStreamError "OpenAI SSE stream ended before done marker"
    else p
  (p.events, budget, { p with events := [] })

/-- A streamed response: the events of all `append` calls and of `finish`. -/
def streamEvents (chunks : List Bytes) : List StreamEvent :=
  Provider.streamEvents (ascii "OpenAI") decode complete {} chunks

end OpenAIStreamParser

/-- **PROVIDER STREAMS DO NOT DEPEND ON TRANSPORT CHUNKING**, for every decoder of records, and for
    the parser of the Responses API. -/
theorem stream_ignores_chunking (cs ds : List Bytes) (htext : cs.flatten = ds.flatten) :
    (∀ (σ : Type) (family : Bytes) (decode : Decode σ) (complete : Complete σ) (decoder : σ),
      Fits family decode { decoder := decoder } cs → Fits family decode { decoder := decoder } ds →
      streamEvents family decode complete decoder cs =
          streamEvents family decode complete decoder ds ∧
        (∀ pre e post, streamEvents family decode complete decoder cs = pre ++ e :: post →
          isBudgetError family e = true → post = []) ∧
        (∀ before after, cs = before ++ after →
          (ProviderSseBuffer.appendAll family decode { decoder := decoder } before).2.failed = true →
          streamEvents family decode complete decoder cs =
            (ProviderSseBuffer.appendAll family decode { decoder := decoder } before).1)) ∧
    (Fits (ascii "OpenAI") OpenAIStreamParser.decode { decoder := {} } cs →
      Fits (ascii "OpenAI") OpenAIStreamParser.decode { decoder := {} } ds →
      OpenAIStreamParser.streamEvents cs = OpenAIStreamParser.streamEvents ds) := by
  constructor
  · intro σ family decode complete decoder hcs hds
    exact events_of_text_alone family decode complete decoder cs ds hcs hds htext
  · intro hcs hds
    exact (events_of_text_alone (ascii "OpenAI") OpenAIStreamParser.decode
      OpenAIStreamParser.complete {} cs ds hcs hds htext).1

/-- A line end cut in the middle. -/
theorem done_marker_in_three_chunks :
    OpenAIStreamParser.streamEvents [ascii "data: [DO", ascii "NE]\r", ascii "\n\n"] =
      OpenAIStreamParser.streamEvents [ascii "data: [DONE]\r\n\n"] :=
  (stream_ignores_chunking [ascii "data: [DO", ascii "NE]\r", ascii "\n\n"]
    [ascii "data: [DONE]\r\n\n"] (by decide)).2
    (fits_of_short _ _ _ _ (by decide)) (fits_of_short _ _ _ _ (by decide))

end Ava.Provider
