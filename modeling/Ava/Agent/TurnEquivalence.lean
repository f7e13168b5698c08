/-
  Ava.Agent.TurnEquivalence
  **STREAMED AND BUFFERED RESPONSES MEAN THE SAME TURN** exactly where each text has one part.

  Both parsers turn a documented response into the events of its items and a terminal event, and
  `parse_assistant_turn` turns those into a turn.  They agree on every response in which a message
  has one part of each kind and a reasoning item one part with a text.  On any other response the
  streaming parser reports an error: its completion flags are kept for the item, the completion
  events come for the part.

    - §1 `Documented`, `WithinBudgets` : one response in its two forms, and the limits;
    - §2 the blocks of both forms are admissible;
    - §3 the items of both forms are the same;
    - §4 `streamed_turn_agrees_iff`.
-/
import Mathlib.Algebra.Order.BigOperators.Group.List
import Mathlib.Algebra.Order.Group.Nat
import Ava.Agent.BufferedResponse

namespace Ava.Agent

open Ava.Core Ava.Core.Json Ava.Provider
open Ava.Session (isValidOpenaiOpaqueId)

/-! ## §1. One response in its two forms. -/

/-- The same response, buffered in `body` and streamed in `chunks`. -/
structure Documented (items : List StreamedItem) (texts : List Bytes) (body : Bytes)
    (records chunks : List Bytes) : Prop where
  wellFormed : WellFormed (items.map StreamedItem.item)
  response : IsResponse (items.map StreamedItem.item) texts body
  stream : IsStream items records
  text : IsEventText records chunks.flatten
  fits : Fits (ascii "OpenAI") OpenAIStreamParser.decode { decoder := {} } chunks

/-- A list of blocks and its terminal event are within the limits of a turn. -/
structure TurnFits (limits : ProviderOutputLimits) (blocks : List Block) : Prop where
  each : ∀ b ∈ blocks, b.Fits limits
  text : limits.maxAssistantTextBytes = 0 ∨
    (blocks.map Block.textBytes).sum ≤ limits.maxAssistantTextBytes
  events : limits.maxEvents = 0 ∨ (blocks.flatMap Block.events).length + 1 ≤ limits.maxEvents

/-- Both forms are within the budgets of their parser and of the turn. -/
structure WithinBudgets (limits : ProviderOutputLimits) (items : List StreamedItem)
    (texts : List Bytes) (body : Bytes) (records : List Bytes) : Prop where
  bodyBytes : body.length ≤ kMaxProviderSseBufferedBytes
  itemCount : items.length ≤ kMaxProviderParserArrayItems
  partCount : ((items.map StreamedItem.item).map OutputItem.partCount).sum ≤ kMaxProviderParserArrayItems
  recordCount : records.length ≤ kMaxProviderParserEvents
  recordBytes : ∀ data ∈ records, data.length ≤ kMaxProviderSseBufferedBytes
  streamed : Room {} (streamedEvents items none)
  buffered : Room {} (bufferedEvents (items.map StreamedItem.item) texts none)
  streamedTurn : TurnFits limits (streamedBlocks 0 items)
  bufferedTurn : TurnFits limits (bufferedBlocks 0 (items.map StreamedItem.item) texts)

/-- What an item of a turn shows: all but the opaque payload of a reasoning item. -/
def visible (item : AssistantItem) : AssistantItem :=
  match item.content with
  | .reasoning block => { item with content := .reasoning { block with nativeItemJson := [] } }
  | _ => item

/-- Two parses that both give a turn, with the same ordered items and finish reason. -/
def SameTurn (streamed buffered : Result ParsedAssistantTurn) : Prop :=
  ∃ a b, streamed = .ok a ∧ buffered = .ok b ∧
    a.orderedItems.map visible = b.orderedItems.map visible ∧ a.finishReason = b.finishReason

/-- The two forms of a response mean the same: no error is emitted, and the turns are the same. -/
def Agree (limits : ProviderOutputLimits) (body : Bytes) (chunks : List Bytes) : Prop :=
  (∀ e ∈ OpenAIStreamParser.streamEvents chunks, e.type ≠ .error) ∧
    ∃ events, parseOpenaiNonStreamResponse body = .ok events ∧
      SameTurn (parseAssistantTurn (OpenAIStreamParser.streamEvents chunks) limits)
        (parseAssistantTurn events limits)

/-! ## §2. Admissible blocks. -/

/-- Blocks that stand for items from a position on. -/
structure StandFor (position : Nat) (items : List OutputItem) (blocks : List Block) : Prop where
  ids : blocks.map (fun b => b.metadata.providerItemId) = items.map OutputItem.id
  indexes : blocks.map (fun b => b.metadata.providerOutputIndex) =
    (List.range' position items.length).map some
  callIds : blocks.filterMap Block.callId? = items.filterMap OutputItem.callId?

section

variable {position : Nat} {items : List OutputItem} {blocks : List Block}

theorem StandFor.cons {item : OutputItem} {b : Block} (hid : b.metadata.providerItemId = item.id)
    (hindex : b.metadata.providerOutputIndex = some position) (hcall : b.callId? = item.callId?)
    (h : StandFor (position + 1) items blocks) :
    StandFor position (item :: items) (b :: blocks) where
  ids := by rw [List.map_cons, List.map_cons, hid, h.ids]
  indexes := by
    rw [List.map_cons, hindex, h.indexes, List.length_cons, List.range'_succ, List.map_cons]
  callIds := by
    rw [List.filterMap_cons, List.filterMap_cons, hcall, h.callIds]

theorem streamed_standFor : ∀ (items : List StreamedItem) (position : Nat),
    StandFor position (items.map StreamedItem.item) (streamedBlocks position items) := by
  intro items
  induction items with
  | nil =>
    intro position
    exact ⟨rfl, rfl, rfl⟩
  | cons item items ih =>
    intro position
    cases item with
    | message id phase parts => exact StandFor.cons rfl rfl rfl (ih (position + 1))
    | reasoning id parts native => exact StandFor.cons rfl rfl rfl (ih (position + 1))
    | functionCall id callId name pieces => exact StandFor.cons rfl rfl rfl (ih (position + 1))

theorem buffered_standFor {texts : List Bytes} (h : ItemTexts position items texts) :
    StandFor position items (bufferedBlocks position items texts) := by
  induction h with
  | nil => exact ⟨rfl, rfl, rfl⟩
  | @cons position item items text texts _ _ ih =>
    cases item with
    | message id phase parts | reasoning id parts => exact StandFor.cons rfl rfl rfl ih
    | functionCall id callId name arguments => exact StandFor.cons rfl rfl rfl ih

/-- A bounded identity is accepted as the identity of a tool call. -/
theorem validate_of_opaque {id : Bytes} (h : isValidOpenaiOpaqueId id = true) :
    validateProviderToolCallId id = .ok () := by
  unfold isValidOpenaiOpaqueId at h
  simp only [Bool.and_eq_true, Bool.not_eq_true', decide_eq_true_eq] at h
  obtain ⟨⟨hne, hlength⟩, hcontrol⟩ := h
  unfold validateProviderToolCallId
  rw [hne, hcontrol, if_neg (by simp), if_neg (by omega)]
  rfl

theorem bounded_id {item : OutputItem} (h : item.Bounded) :
    isValidOpenaiOpaqueId item.id = true := by
  cases item with
  | message id phase parts | reasoning id parts => exact h
  | functionCall id callId name arguments => exact h.1

/-- Blocks that stand for well-formed items are admissible. -/
theorem StandFor.admissible
    {limits : ProviderOutputLimits} (h : StandFor position items blocks) (hitems : WellFormed items)
    (hfits : TurnFits limits blocks) : Admissible limits blocks where
  identified := by
    intro b hb hnil
    have hmem : b.metadata.providerItemId ∈ items.map OutputItem.id := by
      rw [← h.ids]
      exact List.mem_map.mpr ⟨b, hb, rfl⟩
    obtain ⟨item, hitem, hid⟩ := List.mem_map.mp hmem
    have hvalid := bounded_id (hitems.bounded item hitem)
    rw [hid, hnil] at hvalid
    revert hvalid
    decide
  ids := by
    rw [h.ids]
    exact hitems.distinctIds
  indexed := by
    intro b hb
    have hmem : b.metadata.providerOutputIndex ∈ (List.range' position items.length).map some := by
      rw [← h.indexes]
      exact List.mem_map.mpr ⟨b, hb, rfl⟩
    obtain ⟨index, -, hindex⟩ := List.mem_map.mp hmem
    rw [← hindex]
    rfl
  indexes := by
    have hpairwise : ((List.range' position items.length).map some).Pairwise
        fun a b : Option Nat => a.getD 0 < b.getD 0 := by
      rw [List.pairwise_map]
      exact List.pairwise_lt_range'
    rw [← h.indexes, List.pairwise_map] at hpairwise
    exact hpairwise
  callIds := by
    rw [h.callIds]
    exact hitems.distinctCalls
  validCalls := by
    intro callId hcallId
    rw [h.callIds] at hcallId
    obtain ⟨item, hitem, hcall⟩ := List.mem_filterMap.mp hcallId
    have hbounded := hitems.bounded item hitem
    cases item with
    | message id phase parts | reasoning id parts => cases hcall
    | functionCall id other name arguments =>
      cases hcall
      exact validate_of_opaque hbounded.2.1
  fits := hfits.each
  textFits := hfits.text

/-! ## §3. The same items. -/

theorem flatten_flatMap_snd (parts : List (MessageContentKind × List Bytes)) :
    ((parts.map fun part => (part.1, part.2.flatten)).map Prod.snd).flatten =
      (parts.flatMap Prod.snd).flatten := by
  induction parts with
  | nil => rfl
  | cons part parts ih =>
    rw [List.map_cons, List.map_cons, List.flatten_cons, List.flatMap_cons, List.flatten_append, ih]

theorem flatten_map_flatten (parts : List (List Bytes)) :
    (parts.map List.flatten).flatten = parts.flatten.flatten := by
  induction parts with
  | nil => rfl
  | cons pieces parts ih =>
    rw [List.map_cons, List.flatten_cons, List.flatten_cons, List.flatten_append, ih]

theorem flatten_oneDelta (text : Bytes) : (oneDelta text).flatten = text := by
  cases text with
  | nil => rfl
  | cons c text => simp [oneDelta]

/-- One item with one text for each flag shows the same in both forms. -/
theorem visible_item_eq {item : StreamedItem} (hone : OneText item.item) (position : Nat) (text : Bytes) :
    visible (streamedBlock position item).item = visible (bufferedBlock position text item.item).item := by
  cases item with
  | message id phase parts =>
    simp only [streamedBlock, messageBlock, StreamedItem.item, bufferedBlock, Block.item, visible]
    rw [flatten_heard, flatten_flatMap_snd]
  | reasoning id parts native =>
    have hjoined := joinedSummary_of_soleText _ hone
    simp only [streamedBlock, reasoningBlock, StreamedItem.item, bufferedBlock, Block.item, visible]
    rw [flatten_heard, hjoined, flatten_oneDelta, flatten_map_flatten]
  | functionCall id callId name pieces =>
    simp only [streamedBlock, callBlock, StreamedItem.item, bufferedBlock, Block.item, visible]
    rw [flatten_heard]
    simp

theorem visible_items_eq : ∀ {items : List StreamedItem} {texts : List Bytes} {position : Nat},
    ItemTexts position (items.map StreamedItem.item) texts → (∀ item ∈ items, OneText item.item) →
    ((streamedBlocks position items).map Block.item).map visible =
      ((bufferedBlocks position (items.map StreamedItem.item) texts).map Block.item).map visible := by
  intro items
  induction items with
  | nil =>
    intro texts position _ _
    rfl
  | cons item items ih =>
    intro texts position htexts hone
    cases htexts with
    | cons _ htail =>
      rw [List.map_cons, bufferedBlocks, streamedBlocks]
      simp only [List.map_cons]
      rw [visible_item_eq (hone item List.mem_cons_self),
        ih htail fun other hother => hone other (List.mem_cons_of_mem _ hother)]

/-! ## §4. The two forms agree. -/

/-- The turn of blocks within the limits, with its terminal event. -/
theorem parse_blocks {limits : ProviderOutputLimits}
    (h : StandFor position items blocks) (hitems : WellFormed items)
    (hfits : TurnFits limits blocks) (usage : Option TokenUsage) (refused : Bool) :
    parseAssistantTurn (blocks.flatMap Block.events ++ [doneEvent usage refused]) limits =
      .ok { orderedItems := blocks.map Block.item
            usage := usage.map withTotalTokens
            finishReason := some (if refused then .refusal else .completed) } := by
  apply parseAssistantTurn_blocks (h.admissible hitems hfits) rfl rfl
  · cases refused with
    | false => exact Or.inl rfl
    | true => exact Or.inr rfl
  · rw [List.length_append, List.length_singleton]
    exact hfits.events

end

/-- **STREAMED AND BUFFERED RESPONSES MEAN THE SAME** exactly where each completion flag of the
    streaming parser has one text to complete. -/
theorem streamed_turn_agrees_iff (limits : ProviderOutputLimits) (items : List StreamedItem)
    (texts : List Bytes) (body : Bytes) (records chunks : List Bytes)
    (h : Documented items texts body records chunks)
    (hbudget : WithinBudgets limits items texts body records) :
    Agree limits body chunks ↔ ∀ item ∈ items, OneText item.item := by
  have hfresh : Fresh [] [] (items.map StreamedItem.item) := by
    refine ⟨h.wellFormed, fun _ _ => List.not_mem_nil, fun _ _ => List.not_mem_nil, ?_⟩
    intro item hitem
    have hle : item.partCount ≤ ((items.map StreamedItem.item).map OutputItem.partCount).sum :=
      List.single_le_sum (fun _ _ => Nat.zero_le _) _ (List.mem_map.mpr ⟨item, hitem, rfl⟩)
    exact hle.trans hbudget.partCount
  constructor
  · rintro ⟨hclean, -⟩
    by_contra hmore
    obtain ⟨e, he, htype⟩ := streamEvents_error h.stream hfresh h.fits h.text hbudget.recordBytes hmore
    exact hclean e he htype
  · intro hone
    obtain ⟨usage, hstreamed⟩ := streamEvents_documented h.stream hfresh h.fits h.text
      hbudget.recordBytes hone hbudget.recordCount hbudget.streamed
    obtain ⟨usage', hbuffered⟩ := parse_documented h.response hfresh hbudget.bodyBytes
      (by simpa using hbudget.itemCount) hbudget.partCount hbudget.buffered
    have hrefuses : (items.any fun item => refuses item.item) =
        (items.map StreamedItem.item).any refuses := by
      rw [List.any_map]
      rfl
    have hturn := parse_blocks (streamed_standFor items 0) h.wellFormed hbudget.streamedTurn usage
      (items.any fun item => refuses item.item)
    have hturn' := parse_blocks (buffered_standFor h.response.items) h.wellFormed hbudget.bufferedTurn
      usage' ((items.map StreamedItem.item).any refuses)
    rw [streamedEvents] at hstreamed
    rw [← hstreamed] at hturn
    refine ⟨?_, _, hbuffered, _, _, hturn, hturn', visible_items_eq h.response.items hone, ?_⟩
    · rw [hstreamed]
      exact streamedEvents_clean items usage
    · rw [hrefuses]

/-! ### A message with two texts. -/

namespace TwoTexts

-- evaluating whole texts nests deep
set_option maxRecDepth 4096

/-- The text of the message. -/
def message : Bytes := ascii
  "\x7b\"type\":\"message\",\"id\":\"m\",\"content\":[\x7b\"type\":\"output_text\",\"text\":\"a\"\x7d,\x7b\"type\":\"output_text\",\"text\":\"b\"\x7d]\x7d"

def added : Bytes := ascii
  "\x7b\"type\":\"response.output_item.added\",\"output_index\":0,\"item\":\x7b\"type\":\"message\",\"id\":\"m\",\"content\":[]\x7d\x7d"

def partAdded : Bytes := ascii "\x7b\"type\":\"response.content_part.added\"\x7d"

def deltaA : Bytes := ascii
  "\x7b\"type\":\"response.output_text.delta\",\"item_id\":\"m\",\"output_index\":0,\"delta\":\"a\"\x7d"

def doneA : Bytes := ascii
  "\x7b\"type\":\"response.output_text.done\",\"item_id\":\"m\",\"output_index\":0,\"text\":\"a\"\x7d"

def deltaB : Bytes := ascii
  "\x7b\"type\":\"response.output_text.delta\",\"item_id\":\"m\",\"output_index\":0,\"delta\":\"b\"\x7d"

def doneB : Bytes := ascii
  "\x7b\"type\":\"response.output_text.done\",\"item_id\":\"m\",\"output_index\":0,\"text\":\"b\"\x7d"

def done : Bytes := ascii
  "\x7b\"type\":\"response.output_item.done\",\"output_index\":0,\"item\":\x7b\"type\":\"message\",\"id\":\"m\",\"content\":[\x7b\"type\":\"output_text\",\"text\":\"a\"\x7d,\x7b\"type\":\"output_text\",\"text\":\"b\"\x7d]\x7d\x7d"

def completed : Bytes := ascii "\x7b\"type\":\"response.completed\"\x7d"

def body : Bytes := ascii
  "\x7b\"status\":\"completed\",\"output\":[\x7b\"type\":\"message\",\"id\":\"m\",\"content\":[\x7b\"type\":\"output_text\",\"text\":\"a\"\x7d,\x7b\"type\":\"output_text\",\"text\":\"b\"\x7d]\x7d]\x7d"

def records : List Bytes :=
  [added, partAdded, deltaA, doneA, partAdded, deltaB, doneB, done, completed]

/-- The stream in one chunk. -/
def chunk : Bytes := Ava.Lib.frame lf (records.flatMap fun data => [ascii "data: " ++ data, []])

def items : List StreamedItem :=
  [.message (ascii "m") .unknown [(.outputText, [ascii "a"]), (.outputText, [ascii "b"])]]

/-- The records about a part of the message. -/
theorem itemRecords :
    IsItemRecord "response.output_text.delta" 0 (ascii "m") deltaA ∧
      IsItemRecord "response.output_text.done" 0 (ascii "m") doneA ∧
      IsItemRecord "response.output_text.delta" 0 (ascii "m") deltaB ∧
      IsItemRecord "response.output_text.done" 0 (ascii "m") doneB := by
  refine ⟨⟨⟨?_, ?_⟩, ?_, ?_, ?_, ?_⟩, ⟨⟨?_, ?_⟩, ?_, ?_, ?_, ?_⟩, ⟨⟨?_, ?_⟩, ?_, ?_, ?_, ?_⟩,
    ⟨⟨?_, ?_⟩, ?_, ?_, ?_, ?_⟩⟩ <;> rfl

/-- The text of the message, whole and when it is added. -/
theorem itemTexts :
    IsItemText 0 (.message (ascii "m") .unknown [(.outputText, ascii "a"), (.outputText, ascii "b")])
        message ∧
      IsItemText 0 (.message (ascii "m") .unknown [])
        (ascii "\x7b\"type\":\"message\",\"id\":\"m\",\"content\":[]\x7d") := by
  refine ⟨⟨rfl, rfl, Or.inl rfl, rfl,
    [ascii "\x7b\"type\":\"output_text\",\"text\":\"a\"\x7d",
      ascii "\x7b\"type\":\"output_text\",\"text\":\"b\"\x7d"], rfl, rfl⟩,
    ⟨rfl, rfl, Or.inl rfl, rfl, [], rfl, rfl⟩⟩

theorem doneIndex : outputIndexField done = .ok (some 0) := by
  unfold outputIndexField
  rw [show hasField done "output_index" = true from by decide,
    show integerField done "output_index" = some 0 from by decide]
  rfl

theorem stream : IsStream items records := by
  obtain ⟨hdeltaA, hdoneA, hdeltaB, hdoneB⟩ := itemRecords
  obtain ⟨hmessage, hempty⟩ := itemTexts
  refine ⟨[added, partAdded, deltaA, doneA, partAdded, deltaB, doneB, done] ++ [], completed, rfl,
    ItemsRecords.cons ?_ ItemsRecords.nil, ⟨rfl, rfl⟩⟩
  refine ⟨added, [partAdded, deltaA, doneA, partAdded, deltaB, doneB], done, rfl,
    ⟨_, ⟨rfl, rfl⟩, rfl, hempty, rfl, rfl⟩, ?_, message,
    ⟨⟨by decide, by decide⟩, by decide, hmessage, doneIndex, by decide⟩,
    trivial⟩
  refine ⟨[[partAdded, deltaA, doneA], [partAdded, deltaB, doneB]], ?_, rfl⟩
  refine List.Forall₂.cons ?_ (List.Forall₂.cons ?_ List.Forall₂.nil)
  · exact ⟨partAdded, [deltaA, doneA], rfl, ⟨rfl, rfl⟩, [deltaA], doneA, rfl,
      List.Forall₂.cons ⟨hdeltaA, rfl⟩ List.Forall₂.nil, hdoneA, rfl⟩
  · exact ⟨partAdded, [deltaB, doneB], rfl, ⟨rfl, rfl⟩, [deltaB], doneB, rfl,
      List.Forall₂.cons ⟨hdeltaB, rfl⟩ List.Forall₂.nil, hdoneB, rfl⟩

theorem eventText : IsEventText records chunk := by
  refine ⟨records.map fun data => [ascii "data: " ++ data, []], ?_, ?_⟩
  · rw [List.forall₂_map_right_iff, List.forall₂_same]
    intro data hdata
    have hall : ∀ data ∈ records, data ≠ [] ∧ lf ∉ data ∧ data.getLast? ≠ some cr := by decide
    obtain ⟨hne, hline, hlast⟩ := hall data hdata
    exact ⟨hne, hline, hlast, [], rfl, List.forall_mem_nil _⟩
  · rw [chunk, List.flatMap_def]

theorem documented : Documented items [message] body records [chunk] where
  wellFormed := by
    refine ⟨?_, by decide, by decide⟩
    intro item hitem
    rw [List.mem_singleton.mp hitem]
    rfl
  response := ⟨by decide, by decide, by decide, by decide, by decide,
    by decide, ItemTexts.cons itemTexts.1 ItemTexts.nil⟩
  stream := stream
  text := by
    rw [List.flatten_singleton]
    exact eventText
  fits := by
    apply fits_of_short
    rw [List.flatten_singleton]
    decide

theorem withinBudgets : WithinBudgets {} items [message] body records where
  bodyBytes := by decide
  itemCount := by decide
  partCount := by decide
  recordCount := by decide
  recordBytes := by decide
  streamed := ⟨by decide, by decide, by decide⟩
  buffered := ⟨by decide, by decide, by decide⟩
  streamedTurn := by
    refine ⟨?_, Or.inl rfl, Or.inl rfl⟩
    intro b hb
    rw [List.mem_singleton.mp hb]
    trivial
  bufferedTurn := by
    refine ⟨?_, Or.inl rfl, Or.inl rfl⟩
    intro b hb
    rw [List.mem_singleton.mp hb]
    trivial

end TwoTexts

/-- A message with two output texts, in its documented stream: the parser reports an error. -/
theorem two_output_texts_are_rejected :
    Documented TwoTexts.items [TwoTexts.message] TwoTexts.body TwoTexts.records [TwoTexts.chunk] ∧
      WithinBudgets {} TwoTexts.items [TwoTexts.message] TwoTexts.body TwoTexts.records ∧
      ∃ e ∈ OpenAIStreamParser.streamEvents [TwoTexts.chunk],
        e.type = .error ∧ e.errorMessage = ascii "OpenAI message text emitted after completion" := by
  refine ⟨TwoTexts.documented, TwoTexts.withinBudgets, ?_⟩
  rw [OpenAIStreamParser.streamEvents, streamEvents_eq _ _ _ _ TwoTexts.documented.fits]
  decide +kernel

/-- The two forms of that response do not agree. -/
theorem two_output_texts_disagree : ¬ Agree {} TwoTexts.body [TwoTexts.chunk] := by
  rw [streamed_turn_agrees_iff {} TwoTexts.items [TwoTexts.message] TwoTexts.body TwoTexts.records
    [TwoTexts.chunk] TwoTexts.documented TwoTexts.withinBudgets]
  intro hone
  have hkinds : [MessageContentKind.outputText, .outputText].Nodup :=
    hone _ (List.mem_singleton_self _)
  exact absurd hkinds (by decide)

end Ava.Agent
