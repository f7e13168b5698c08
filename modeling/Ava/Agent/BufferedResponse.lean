/-
  Ava.Agent.BufferedResponse
  **THE BUFFERED PARSER ON A DOCUMENTED RESPONSE.**

  The loop over the output array emits the events of each item: one delta for each part of a message,
  one for the joined summary of a reasoning item, one for the arguments of a call.

    - §1 `bufferedBlock`, `Seen` : the events of an item, and the loop between two items;
    - §2 `outputItem_message`, `outputItem_reasoning`, `outputItem_call` : one item;
    - §3 `outputItems_eq` : the array; §4 `parse_documented` : the response.
-/
import Ava.Agent.StreamedResponse
import Ava.Provider.OpenAIResponse

namespace Ava.Agent

open Ava.Core Ava.Core.Json Ava.Provider Ava.Provider.OpenAIStreamParser
open Ava.Provider.OpenAIResponse (Loop Verdict outputItem outputItems finishResponse)
open Ava.Session (isValidOpenaiOpaqueId)

/-! ## §1. The loop between two items. -/

/-- The one delta of a text, if there is a text. -/
def oneDelta (text : Bytes) : List Bytes := if text.isEmpty then [] else [text]

/-- The events of a buffered item, as an item of the turn. -/
def bufferedBlock (position : Nat) (text : Bytes) : OutputItem → Block
  | .message id phase parts => .text ⟨id, some position, phase⟩ (parts.map Prod.snd)
  | .reasoning id parts =>
    .reasoning ⟨id, some position, .unknown⟩ kOpenAIResponsesReasoningFormat (nativeItem text)
      (oneDelta (joinedSummary parts))
  | .functionCall id callId name arguments =>
    .functionCall ⟨id, some position, .unknown⟩ callId name [arguments]

def bufferedBlocks : Nat → List OutputItem → List Bytes → List Block
  | position, item :: items, text :: texts =>
    bufferedBlock position text item :: bufferedBlocks (position + 1) items texts
  | _, _, _ => []

/-- The loop between two items: what it has registered is about the items before. -/
structure Seen (ids callIds : List Bytes) (position remaining : Nat) (refusal : Bool) (l : Loop) :
    Prop where
  itemIds : ∀ id ∈ l.outputItemIds, id ∈ ids
  indexes : ∀ index ∈ l.outputIndexes, index < position
  bound : ∀ id ∈ l.callIdsByItemId, id ∈ ids
  logical : ∀ callId ∈ l.itemIdsByCallId, callId ∈ callIds
  partsLeft : l.remainingNestedParts = remaining
  refused : l.refusalSeen = refusal

section OneItem

variable {ids callIds : List Bytes} {position remaining : Nat} {refusal : Bool} {l : Loop}
  {id text : Bytes}

/-- A new item is registered. -/
theorem register_new (hl : Seen ids callIds position remaining refusal l) (hfresh : id ∉ ids) :
    l.registerOutputItem id position =
      (true, { l with
        outputItemIds := l.outputItemIds ++ [id]
        outputIndexes := l.outputIndexes ++ [position] }) := by
  have hid : id ∉ l.outputItemIds := fun hmem => hfresh (hl.itemIds id hmem)
  have hindex : position ∉ l.outputIndexes := fun hmem => by
    have := hl.indexes position hmem
    omega
  unfold Loop.registerOutputItem
  simp [hid, hindex]

/-- The loop after an item. -/
def afterItem (l : Loop) (id : Bytes) (position : Nat) (callIds : List Bytes) (b : Block)
    (parts : Nat) (refused : Bool) : Loop where
  events := l.events ++ b.events
  outputItemIds := l.outputItemIds ++ [id]
  outputIndexes := l.outputIndexes ++ [position]
  callIdsByItemId := l.callIdsByItemId ++ (callIds.map fun _ => id)
  itemIdsByCallId := l.itemIdsByCallId ++ callIds
  legacyMessageTextSeen := l.legacyMessageTextSeen
  refusalSeen := l.refusalSeen || refused
  remainingNestedParts := l.remainingNestedParts - parts

/-- After an item the loop has seen one item more. -/
theorem seen_afterItem (hl : Seen ids callIds position remaining refusal l) (calls : List Bytes)
    (b : Block) (parts : Nat) (refused : Bool) :
    Seen (ids ++ [id]) (callIds ++ calls) (position + 1) (remaining - parts) (refusal || refused)
      (afterItem l id position calls b parts refused) where
  itemIds := by
    intro other hother
    rcases List.mem_append.mp hother with hother | hother
    · exact List.mem_append_left _ (hl.itemIds other hother)
    · exact List.mem_append_right _ hother
  indexes := by
    intro index hindex
    rcases List.mem_append.mp hindex with hindex | hindex
    · exact Nat.lt_succ_of_lt (hl.indexes index hindex)
    · rw [List.mem_singleton.mp hindex]
      exact Nat.lt_succ_self _
  bound := by
    intro other hother
    rcases List.mem_append.mp hother with hother | hother
    · exact List.mem_append_left _ (hl.bound other hother)
    · obtain ⟨-, -, rfl⟩ := List.mem_map.mp hother
      exact List.mem_append_right _ (List.mem_singleton_self _)
  logical := by
    intro callId hcallId
    rcases List.mem_append.mp hcallId with hcallId | hcallId
    · exact List.mem_append_left _ (hl.logical callId hcallId)
    · exact List.mem_append_right _ hcallId
  partsLeft := by
    show l.remainingNestedParts - parts = _
    rw [hl.partsLeft]
  refused := by
    show (l.refusalSeen || refused) = _
    rw [hl.refused]

/-- The index of an item that may repeat its position. -/
theorem outputIndex_eq
    (h : outputIndexField text = .ok none ∨ outputIndexField text = .ok (some position)) :
    OpenAIResponse.outputIndex text position = .ok position := by
  unfold outputIndexField at h
  unfold OpenAIResponse.outputIndex
  cases hfield : hasField text "output_index" with
  | false => simp
  | true =>
    rw [hfield] at h
    simp only [Bool.not_true, Bool.false_eq_true, if_false] at h ⊢
    cases hinteger : integerField text "output_index" with
    | none =>
      rw [hinteger] at h
      simp at h
    | some value =>
      rw [hinteger] at h
      dsimp only at h ⊢
      by_cases hneg : value < 0
      · simp [hneg] at h
      · rw [if_neg hneg] at h ⊢
        have hvalue : value.toNat = position := by simpa using h
        rw [if_neg (by simpa using hvalue)]

/-! ## §2. One item. -/

/-- The parts of a message. -/
theorem contentParts_eq {phase : AssistantPhase} : ∀ {contents : List Bytes}
    {parts : List (MessageContentKind × Bytes)} (l : Loop),
    contents.map contentPart = parts.map .ok →
    OpenAIResponse.contentParts (some (id, phase)) position l contents =
      .next { l with
        events := l.events ++
          (parts.map Prod.snd).map (Block.event ⟨id, some position, phase⟩ .textDelta)
        refusalSeen := l.refusalSeen || parts.any fun part => isRefusal part.1 } := by
  intro contents
  induction contents with
  | nil =>
    intro parts l h
    rw [List.map_nil, eq_comm, List.map_eq_nil_iff] at h
    rw [h]
    simp [OpenAIResponse.contentParts]
  | cons content contents ih =>
    intro parts l h
    cases parts with
    | nil => simp at h
    | cons part parts =>
      obtain ⟨kind, visible⟩ := part
      rw [List.map_cons, List.map_cons, List.cons.injEq] at h
      obtain ⟨hhead, htail⟩ := h
      rw [OpenAIResponse.contentParts, hhead]
      dsimp only
      rw [ih _ htail]
      cases kind with
      | outputText | refusal =>
        simp [Loop.push, OpenAIResponse.messageEvent, Block.event, isRefusal]

/-- **A MESSAGE.** -/
theorem outputItem_message {phase : AssistantPhase} {parts : List (MessageContentKind × Bytes)}
    (hl : Seen ids callIds position remaining refusal l) (hfresh : id ∉ ids)
    (hid : isValidOpenaiOpaqueId id = true) (hcount : parts.length ≤ remaining)
    (h : IsItemText position (.message id phase parts) text) :
    outputItem l text position =
      .next (afterItem l id position [] (bufferedBlock position text (.message id phase parts))
        parts.length (parts.any fun part => isRefusal part.1)) := by
  obtain ⟨hphase, contents, hcontents, hparts⟩ := h.content
  have hlength : contents.length = parts.length := by simpa using congrArg List.length hparts
  have htype : stringFieldOrEmpty text "type" = ascii "message" := by
    rw [stringFieldOrEmpty, h.type]
    rfl
  have hidField : stringField text "id" = some id := h.id
  have hmessagePhase : OpenAIResponse.messagePhase text = .ok phase := by
    unfold OpenAIResponse.messagePhase
    rw [hphase]
    unfold AssistantPhase.written
    by_cases hunknown : phase = .unknown
    · simp [hunknown, Except.map]
    · simp [hunknown, Except.map]
  have hbounded : strictObjectsInArrayField text "content" (some l.remainingNestedParts) =
      some contents := strictObjects_of_le hcontents (by rw [hl.partsLeft, hlength]; exact hcount)
  unfold outputItem
  rw [htype, if_neg (by decide), if_pos rfl]
  unfold OpenAIResponse.messageItem
  rw [outputIndex_eq h.index, hmessagePhase, hidField]
  simp only [Option.isSome_some, Bool.true_or, Bool.not_true, Bool.false_eq_true, if_false, hid]
  rw [register_new hl hfresh]
  simp only [Bool.not_true, Bool.false_eq_true, if_false]
  unfold OpenAIResponse.messageContent
  dsimp only [Loop.push]
  rw [hbounded]
  dsimp only
  rw [contentParts_eq _ hparts]
  simp [afterItem, bufferedBlock, Block.events, Block.event, OpenAIResponse.messageEvent, hlength]

/-- **A REASONING ITEM.** -/
theorem outputItem_reasoning {parts : List Bytes}
    (hl : Seen ids callIds position remaining refusal l) (hfresh : id ∉ ids)
    (hid : isValidOpenaiOpaqueId id = true) (hcount : parts.length ≤ remaining)
    (h : IsItemText position (.reasoning id parts) text) :
    outputItem l text position =
      .next (afterItem l id position [] (bufferedBlock position text (.reasoning id parts))
        parts.length false) := by
  have htype : stringFieldOrEmpty text "type" = ascii "reasoning" := by
    rw [stringFieldOrEmpty, h.type]
    rfl
  have hidField : stringField text "id" = some id := h.id
  have hsummary : reasoningSummaryTextFromObject text l.remainingNestedParts =
      some (joinedSummary parts, l.remainingNestedParts - parts.length) :=
    reasoningSummary_eq h (by rw [hl.partsLeft]; exact hcount)
  unfold outputItem
  rw [htype, if_pos rfl]
  unfold OpenAIResponse.reasoningItem
  rw [outputIndex_eq h.index, hidField]
  simp only [Option.isSome_some, Bool.true_or, Option.any_some, hid, Bool.not_true, Bool.and_false,
    Bool.false_eq_true, if_false]
  rw [register_new hl hfresh]
  simp only [Bool.not_true, Bool.false_eq_true, if_false]
  rw [hsummary]
  cases hjoined : joinedSummary parts with
  | nil | cons c joined =>
    simp [afterItem, bufferedBlock, hjoined, oneDelta, Block.events, Block.reasoningEvent,
      Block.reasoningEndEvent, Block.event, OpenAIResponse.reasoningEvents, nativeItem]

/-- **A FUNCTION CALL.** -/
theorem outputItem_call {callId name arguments : Bytes}
    (hl : Seen ids callIds position remaining refusal l) (hfresh : id ∉ ids) (hnew : callId ∉ callIds)
    (hid : isValidOpenaiOpaqueId id = true) (hcallId : isValidOpenaiOpaqueId callId = true)
    (hname : isValidOpenaiOpaqueId name = true) (hobject : isValidObject arguments = true)
    (h : IsItemText position (.functionCall id callId name arguments) text) :
    outputItem l text position =
      .next (afterItem l id position [callId]
        (bufferedBlock position text (.functionCall id callId name arguments)) 0 false) := by
  obtain ⟨hcallField, hnameField, hargumentsField⟩ := h.content
  have htype : stringFieldOrEmpty text "type" = ascii "function_call" := by
    rw [stringFieldOrEmpty, h.type]
    rfl
  have hidField : stringField text "id" = some id := h.id
  have hunbound : id ∉ l.callIdsByItemId := fun hmem => hfresh (hl.bound id hmem)
  have hunused : callId ∉ l.itemIdsByCallId := fun hmem => hnew (hl.logical callId hmem)
  unfold outputItem
  rw [htype, if_neg (by decide), if_neg (by decide), if_neg (by simp)]
  unfold OpenAIResponse.functionCallItem
  rw [outputIndex_eq h.index, hidField, hcallField, hnameField, hargumentsField]
  simp only [hid, hcallId, hname, hobject, Bool.not_true, Bool.or_self, Bool.false_eq_true, if_false]
  rw [register_new hl hfresh]
  simp [hunbound, hunused, afterItem, bufferedBlock, Block.events, Block.callEvent, Block.event,
    OpenAIResponse.callEvents]

end OneItem

/-! ## §3. The array. -/

variable {items : List OutputItem} {texts : List Bytes}

/-- **THE OUTPUT ARRAY.** -/
theorem outputItems_eq {position : Nat}
    (h : ItemTexts position items texts) : ∀ {ids callIds : List Bytes} {remaining : Nat}
    {refusal : Bool} {l : Loop}, Seen ids callIds position remaining refusal l →
    Fresh ids callIds items → (items.map OutputItem.partCount).sum ≤ remaining →
    ∃ l', outputItems l position texts = .next l' ∧
      l'.events = l.events ++ (bufferedBlocks position items texts).flatMap Block.events ∧
      l'.refusalSeen = (refusal || items.any refuses) := by
  induction h with
  | nil =>
    intro ids callIds remaining refusal l hl _ _
    exact ⟨l, rfl, by simp [bufferedBlocks], by simp [hl.refused]⟩
  | @cons position item items text texts head _ ih =>
    intro ids callIds remaining refusal l hl hfresh hcount
    obtain ⟨hbounded, hid, hcall, -⟩ := hfresh.head
    rw [List.map_cons, List.sum_cons] at hcount
    have hone : outputItem l text position =
        .next (afterItem l item.id position item.callId?.toList (bufferedBlock position text item)
          item.partCount (refuses item)) := by
      cases item with
      | message id phase parts =>
        exact outputItem_message hl hid hbounded
          (by simp only [OutputItem.partCount] at hcount; omega) head
      | reasoning id parts =>
        exact outputItem_reasoning hl hid hbounded
          (by simp only [OutputItem.partCount] at hcount; omega) head
      | functionCall id callId name arguments =>
        obtain ⟨hvalid, hcallId, hname, hobject⟩ := hbounded
        exact outputItem_call hl hid (hcall callId rfl) hvalid hcallId hname hobject head
    obtain ⟨l', hrest, hevents, hrefusal⟩ :=
      ih (seen_afterItem hl item.callId?.toList (bufferedBlock position text item) item.partCount
        (refuses item)) hfresh.tail (by omega)
    refine ⟨l', ?_, ?_, ?_⟩
    · rw [outputItems, hone]
      exact hrest
    · rw [hevents, bufferedBlocks, List.flatMap_cons, ← List.append_assoc]
      rfl
    · rw [hrefusal, List.any_cons, Bool.or_assoc]

/-! ## §4. The response. -/

theorem events_ne_nil (b : Block) : b.events ≠ [] := by
  cases b <;> simp [Block.events]

/-- The events of a documented response, up to the usage. -/
def bufferedEvents (items : List OutputItem) (texts : List Bytes) (usage : Option TokenUsage) :
    List StreamEvent :=
  (bufferedBlocks 0 items texts).flatMap Block.events ++ [doneEvent usage (items.any refuses)]

theorem seen_start : Seen [] [] 0 kMaxProviderParserArrayItems false {} where
  itemIds _ hid := absurd hid List.not_mem_nil
  indexes _ hindex := absurd hindex List.not_mem_nil
  bound _ hid := absurd hid List.not_mem_nil
  logical _ hcallId := absurd hcallId List.not_mem_nil
  partsLeft := rfl
  refused := rfl

/-- A completed response finishes as completed. -/
theorem finishReason_completed {body : Bytes}
    (h : IsResponse items texts body) : openaiResponseFinishReason body = .completed := by
  unfold openaiResponseFinishReason
  rw [h.notNested, h.notIncomplete, stringFieldOrEmpty, h.status]
  decide

/-- **THE BUFFERED PARSER ON A DOCUMENTED RESPONSE** within the budgets. -/
theorem parse_documented {body : Bytes}
    (h : IsResponse items texts body) (hfresh : Fresh [] [] items)
    (hlength : body.length ≤ kMaxProviderSseBufferedBytes)
    (hitems : items.length ≤ kMaxProviderParserArrayItems)
    (hparts : (items.map OutputItem.partCount).sum ≤ kMaxProviderParserArrayItems)
    (hroom : Room {} (bufferedEvents items texts none)) :
    ∃ usage, parseOpenaiNonStreamResponse body = .ok (bufferedEvents items texts usage) := by
  have hcount : texts.length = items.length := by
    have key : ∀ {position : Nat} {items : List OutputItem} {texts : List Bytes},
        ItemTexts position items texts → texts.length = items.length := by
      intro position items texts htexts
      induction htexts with
      | nil => rfl
      | cons _ _ ih => simp [ih]
    exact key h.items
  have hfield : hasField body "output" = true := hasField_of_strictObjects h.output
  have houtput : strictObjectsInArrayField body "output" (some kMaxProviderParserArrayItems) =
      some texts := strictObjects_of_le h.output (by omega)
  obtain ⟨l, hloop, hevents, hrefusal⟩ := outputItems_eq h.items seen_start hfresh hparts
  rw [List.nil_append] at hevents
  rw [Bool.false_or] at hrefusal
  refine ⟨parseOpenaiUsage body, ?_⟩
  unfold parseOpenaiNonStreamResponse
  rw [if_neg (by omega), h.valid, hfield, if_neg (by simp), if_pos rfl, houtput, h.noTopLevelText]
  dsimp only [Option.map_some, Option.getD_some]
  rw [hloop]
  dsimp only
  unfold finishResponse
  set reason : ProviderFinishReason := if items.any refuses then .refusal else .completed with hset
  have hreason : (if l.refusalSeen = true then ProviderFinishReason.refusal
      else openaiResponseFinishReason body) = reason := by
    rw [hrefusal, finishReason_completed h]
  -- only an empty array has no events, and it may have none
  have hsome : texts ≠ [] → l.events ≠ [] := by
    intro hne
    rw [hevents]
    cases h.items with
    | nil => exact absurd rfl hne
    | cons head tail =>
      rw [bufferedBlocks, List.flatMap_cons]
      exact fun hnil => events_ne_nil _ (List.append_eq_nil_iff.mp hnil).1
  have hterminal : ¬ ((l.events.isEmpty && !(some texts == some [] || reason == .maxTokens ||
      reason == .refusal || reason == .cancelled || reason == .error)) = true) := by
    cases htexts : texts with
    | nil => simp
    | cons text rest =>
      have hne := hsome (by rw [htexts]; simp)
      simp [hne]
  dsimp only
  rw [hreason, if_neg hterminal, boundedProviderEvents_of_room ?_, hevents]
  · rfl
  · rw [hevents]
    exact ⟨by simpa [bufferedEvents] using hroom.count,
      by simpa [bufferedEvents, doneEvent, StreamEvent.fragmentBytes] using hroom.fragments,
      by simpa [bufferedEvents, doneEvent, StreamEvent.metadataBytes] using hroom.metadata⟩

end Ava.Agent
