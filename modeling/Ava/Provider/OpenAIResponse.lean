/-
  Ava.Provider.OpenAIResponse
  **THE BUFFERED PARSER OF THE RESPONSES API** (`parse_openai_non_stream_response`).

  One JSON text holds the whole response.  The loop over its output array appends the events of each
  item, or an error and goes on, or an error and returns; limits replace everything by one event.

    - §1 the state of the loop; §2 the three kinds of items; §3 the response.
-/
import Ava.Provider.OpenAIStream

namespace Ava.Provider

open Ava.Core Ava.Core.Json
open Ava.Session (isValidOpenaiOpaqueId isValidOpenaiNativeReasoningItemJson)
open OpenAIStreamParser (kOpenAIResponsesReasoningFormat reasoningSummaryTextFromObject contentPart
  openaiResponseFinishReason parseOpenaiUsage)

namespace OpenAIResponse

/-! ## §1. The loop. -/

/-- The local variables of the loop. -/
structure Loop where
  events : List StreamEvent := []
  outputItemIds : List Bytes := []
  outputIndexes : List Nat := []
  callIdsByItemId : List Bytes := []
  itemIdsByCallId : List Bytes := []
  legacyMessageTextSeen : Bool := false
  refusalSeen : Bool := false
  remainingNestedParts : Nat := kMaxProviderParserArrayItems
deriving Repr, DecidableEq

/-- How the loop goes on after an item. -/
inductive Verdict where
  /-- The next item. -/
  | next (loop : Loop)
  /-- The events so far are the answer. -/
  | stop (events : List StreamEvent)
  /-- A limit is exceeded. -/
  | limit
deriving Repr, DecidableEq

def Loop.push (l : Loop) (e : StreamEvent) : Loop := { l with events := l.events ++ [e] }

/-- `append_error`. -/
def Loop.appendError (l : Loop) (message : Bytes) : Loop :=
  l.push { type := .error, errorMessage := message }

/-- `output_index`: an index must agree with the position in the array. -/
def outputIndex (item : Bytes) (physicalIndex : Nat) : Except Bytes Nat :=
  if !hasField item "output_index" then .ok physicalIndex
  else
    match integerField item "output_index" with
    | none => .error (ascii "OpenAI output item has an invalid output_index")
    | some value =>
      if value < 0 then .error (ascii "OpenAI output item has an invalid output_index")
      else if value.toNat ≠ physicalIndex then
        .error (ascii "OpenAI output item output_index disagrees with its physical output array position")
      else .ok physicalIndex

/-- `message_phase`. -/
def messagePhase (item : Bytes) : Except Bytes AssistantPhase :=
  (phaseField item).map fun phase => phase.getD .unknown

/-- `register_output_item`. -/
def Loop.registerOutputItem (l : Loop) (id : Bytes) (index : Nat) : Bool × Loop :=
  if l.outputItemIds.contains id then
    (false, l.appendError (ascii "OpenAI output item ID is duplicated"))
  else
    let l := { l with outputItemIds := l.outputItemIds ++ [id] }
    if l.outputIndexes.contains index then
      (false, l.appendError (ascii "OpenAI output item index is duplicated"))
    else (true, { l with outputIndexes := l.outputIndexes ++ [index] })

/-! ## §2. Items. -/

/-- The events of a reasoning item. -/
def reasoningEvents (item itemId : Bytes) (index : Option Nat) (summary : Bytes) : List StreamEvent :=
  let event (type : StreamEventType) (text : Bytes) : StreamEvent :=
    { type := type
      text := text
      providerItemId := itemId
      providerOutputIndex := index
      reasoningFormat := kOpenAIResponsesReasoningFormat }
  [event .reasoningStart []] ++ (if summary.isEmpty then [] else [event .reasoningDelta summary]) ++
    [{ event .reasoningEnd [] with
      reasoningNativeItemJson := if isValidOpenaiNativeReasoningItemJson item then item else [] }]

/-- An item of type `reasoning`. -/
def reasoningItem (l : Loop) (item : Bytes) (physicalIndex : Nat) : Verdict :=
  let itemId := stringField item "id"
  match outputIndex item physicalIndex with
  | .error message => .next (l.appendError message)
  | .ok index =>
    if (itemId.isSome || hasField item "output_index") && !(itemId.any isValidOpenaiOpaqueId) then
      .next (l.appendError (ascii "OpenAI reasoning output item requires a bounded item ID"))
    else
      let (registered, l) :=
        match itemId with
        | some id => l.registerOutputItem id index
        | none => (true, l)
      if !registered then .next l
      else
        match reasoningSummaryTextFromObject item l.remainingNestedParts with
        | none => .limit
        | some (summary, remaining) =>
          .next
            { l with
              events := l.events ++
                reasoningEvents item (itemId.getD []) (itemId.map fun _ => index) summary
              remainingNestedParts := remaining }

/-- An event of a native message item. -/
def messageEvent (itemId : Bytes) (index : Nat) (phase : AssistantPhase) (type : StreamEventType)
    (text : Bytes) : StreamEvent where
  type := type
  text := text
  providerItemId := itemId
  providerOutputIndex := some index
  assistantPhase := phase

/-- The error of a content part; the two text errors name the item's index. -/
def contentPartError (content : Bytes) (index : Nat) : Bytes :=
  let type := stringFieldOrEmpty content "type"
  if type = ascii "output_text" then
    ascii "OpenAI output_text content part at output_index " ++ decimal index ++
      ascii " requires string text"
  else if type = ascii "refusal" then
    ascii "OpenAI refusal content part at output_index " ++ decimal index ++
      ascii " requires string refusal"
  else ascii "OpenAI message output item has an unsupported content-part type"

/-- The loop over the content parts; `native` is the identity and phase of a native item. -/
def contentParts (native : Option (Bytes × AssistantPhase)) (index : Nat) : Loop → List Bytes → Verdict
  | l, [] => .next l
  | l, content :: contents =>
    match contentPart content with
    | .error _ => .stop (l.appendError (contentPartError content index)).events
    | .ok (kind, visibleText) =>
      let l := if kind = .refusal then { l with refusalSeen := true } else l
      match native with
      | some (itemId, phase) =>
        contentParts native index
          (l.push (messageEvent itemId index phase .textDelta visibleText)) contents
      | none =>
        let text := if l.legacyMessageTextSeen then [lf, lf] ++ visibleText else visibleText
        contentParts native index
          ({ l with legacyMessageTextSeen := true }.push { type := .textDelta, text := text })
          contents

/-- The content of a message item whose identity has been registered. -/
def messageContent (l : Loop) (item : Bytes) (index : Nat)
    (native : Option (Bytes × AssistantPhase)) : Verdict :=
  let l :=
    match native with
    | some (itemId, phase) => l.push (messageEvent itemId index phase .textStart [])
    | none => l
  match strictObjectsInArrayField item "content" (some l.remainingNestedParts) with
  | none => .limit
  | some contents =>
    match contentParts native index
        { l with remainingNestedParts := l.remainingNestedParts - contents.length } contents with
    | .next l =>
      match native with
      | some (itemId, phase) => .next (l.push (messageEvent itemId index phase .textEnd []))
      | none => .next l
    | verdict => verdict

/-- An item of type `message`. -/
def messageItem (l : Loop) (item : Bytes) (physicalIndex : Nat) : Verdict :=
  let itemId := stringField item "id"
  let hasNativeMessageMetadata := itemId.isSome || hasField item "output_index" ||
    (hasField item "phase" && !isNullField item "phase")
  match outputIndex item physicalIndex, messagePhase item with
  | .error message, _ => .next (l.appendError message)
  | .ok _, .error message => .next (l.appendError message)
  | .ok index, .ok phase =>
    if !hasNativeMessageMetadata then messageContent l item index none
    else
      match itemId with
      | none =>
        .next (l.appendError (ascii "OpenAI message output item requires a bounded item ID"))
      | some id =>
        if !isValidOpenaiOpaqueId id then
          .next (l.appendError (ascii "OpenAI message output item requires a bounded item ID"))
        else
          let (registered, l) := l.registerOutputItem id index
          if !registered then .next l else messageContent l item index (some (id, phase))

/-- The events of a function call. -/
def callEvents (itemId callId name arguments : Bytes) (index : Nat) : List StreamEvent :=
  let event (type : StreamEventType) (toolName text : Bytes) : StreamEvent :=
    { type := type
      text := text
      toolCallId := callId
      toolName := toolName
      providerItemId := itemId
      providerOutputIndex := some index }
  [event .toolCallStart name [], event .toolCallDelta [] arguments, event .toolCallEnd [] []]

/-- An item of type `function_call`. -/
def functionCallItem (l : Loop) (item : Bytes) (physicalIndex : Nat) : Verdict :=
  match outputIndex item physicalIndex with
  | .error message => .next (l.appendError message)
  | .ok index =>
    match stringField item "id", stringField item "call_id", stringField item "name",
        stringField item "arguments" with
    | some itemId, some callId, some name, some arguments =>
      if !isValidOpenaiOpaqueId itemId || !isValidOpenaiOpaqueId callId ||
          !isValidOpenaiOpaqueId name || !isValidObject arguments then
        .next (l.appendError (ascii "OpenAI function call item requires bounded item ID, logical call ID, name, and JSON-object string arguments"))
      else
        let (registered, l) := l.registerOutputItem itemId index
        let mapped := l.callIdsByItemId.contains itemId || l.itemIdsByCallId.contains callId
        if !registered || mapped then
          if mapped then
            .next (l.appendError (ascii "OpenAI function call item ID and logical call ID must form a unique one-to-one mapping"))
          else .next l
        else
          .next
            { l with
              callIdsByItemId := l.callIdsByItemId ++ [itemId]
              itemIdsByCallId := l.itemIdsByCallId ++ [callId]
              events := l.events ++ callEvents itemId callId name arguments index }
    | _, _, _, _ =>
      .next (l.appendError (ascii "OpenAI function call item requires bounded item ID, logical call ID, name, and JSON-object string arguments"))

/-- One round of the loop. -/
def outputItem (l : Loop) (item : Bytes) (physicalIndex : Nat) : Verdict :=
  let itemType := stringFieldOrEmpty item "type"
  if itemType = ascii "reasoning" then reasoningItem l item physicalIndex
  else if itemType = ascii "message" then messageItem l item physicalIndex
  else if itemType ≠ ascii "function_call" then
    match outputIndex item physicalIndex with
    | .error message => .stop (l.appendError message).events
    | .ok _ =>
      .stop (l.appendError
        (ascii "OpenAI response contains an unsupported output item type")).events
  else functionCallItem l item physicalIndex

/-- The loop over the output array. -/
def outputItems : Loop → Nat → List Bytes → Verdict
  | l, _, [] => .next l
  | l, physicalIndex, item :: items =>
    match outputItem l item physicalIndex with
    | .next l => outputItems l (physicalIndex + 1) items
    | verdict => verdict

/-! ## §3. The response. -/

def limitError : Error :=
  { category := .provider, message := ascii "OpenAI response parser limit exceeded" }

/-- The terminal event of a response, and the output bounds. -/
def finishResponse (body : Bytes) (l : Loop) (explicitZeroItemOutput : Bool) :
    Result (List StreamEvent) :=
  let reason := if l.refusalSeen then .refusal else openaiResponseFinishReason body
  let allowsEmptyTerminal := explicitZeroItemOutput || reason == .maxTokens || reason == .refusal ||
    reason == .cancelled || reason == .error
  if l.events.isEmpty && !allowsEmptyTerminal then
    .error { category := .provider, message := ascii "OpenAI response text is missing" }
  else
    .ok (boundedProviderEvents
      (l.events ++ [{ type := .done, usage := parseOpenaiUsage body, finishReason := some reason }])
      (ascii "OpenAI"))

end OpenAIResponse

open OpenAIResponse in
/-- `parse_openai_non_stream_response`. -/
def parseOpenaiNonStreamResponse (body : Bytes) : Result (List StreamEvent) :=
  if body.length > kMaxProviderSseBufferedBytes then .error limitError
  else if !isValidObject body then
    .error { category := .provider, message := ascii "OpenAI response was malformed JSON" }
  else
    match (if hasField body "output" then
        (strictObjectsInArrayField body "output" (some kMaxProviderParserArrayItems)).map some
      else some none) with
    | none => .ok [providerParserLimitEvent (ascii "OpenAI")]
    | some strictOutputItems =>
      let items := strictOutputItems.getD []
      let nativeMessagePresent :=
        items.any fun item => stringFieldOrEmpty item "type" == ascii "message"
      let topLevelText := firstStringField body ["output_text", "text"]
      let events : List StreamEvent :=
        match topLevelText with
        | some text => if nativeMessagePresent then [] else [{ type := .textDelta, text := text }]
        | none => []
      match outputItems { events := events } 0 items with
      | .limit => .ok [providerParserLimitEvent (ascii "OpenAI")]
      | .stop events => .ok events
      | .next l => finishResponse body l (strictOutputItems == some [])

end Ava.Provider
