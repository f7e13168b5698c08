/-
  Ava.Agent.StreamedResponse
  **THE EVENTS OF A DOCUMENTED STREAM.**

  The streaming parser keeps one completion flag for each kind of text of a message and one text for
  a reasoning item.  Where every item has one text for each of them, the parser emits the events of
  the items one after the other and the terminal event; where an item has more, it emits an error.

    - §1 `OneText` : what the flags allow;
    - §2 `run_items` : the items of a response;
    - §3 `streamEvents_documented`, `streamEvents_error` : the whole response.
-/
import Ava.Agent.StreamedCall

namespace Ava.Agent

open Ava.Core Ava.Core.Json Ava.Provider Ava.Provider.OpenAIStreamParser
open Ava.Lib (Table)

/-! ## §1. One text for each flag. -/

/-- A message has at most one part of each kind, and of the parts of a reasoning item only the last
    has a text. -/
def OneText : OutputItem → Prop
  | .message _ _ parts => (parts.map Prod.fst).Nodup
  | .reasoning _ parts => SoleText parts
  | .functionCall _ _ _ _ => True

/-- The item has a part that refuses. -/
def refuses : OutputItem → Bool
  | .message _ _ parts => parts.any fun part => isRefusal part.1
  | _ => false

/-- The events of a streamed item, as an item of the turn. -/
def streamedBlock (position : Nat) : StreamedItem → Block
  | .message id phase parts => messageBlock position id phase parts
  | .reasoning id parts native => reasoningBlock position id parts native
  | .functionCall id callId name pieces => callBlock position id callId name pieces

def streamedBlocks : Nat → List StreamedItem → List Block
  | _, [] => []
  | position, item :: items => streamedBlock position item :: streamedBlocks (position + 1) items

/-! ## §2. The items. -/

variable {records : List Bytes}

section Items

variable {ids callIds : List Bytes} {position : Nat} {refusal : Bool} {p : OpenAIStreamParser}

/-- **ONE ITEM** with one text for each flag. -/
theorem run_item {item : StreamedItem} (hp : Between ids callIds position refusal p)
    (hbounded : item.item.Bounded) (hfresh : item.item.id ∉ ids)
    (hnew : ∀ callId ∈ item.item.callId?, callId ∉ callIds)
    (hcount : item.item.partCount ≤ kMaxProviderParserArrayItems)
    (h : item.Records position records) (hone : OneText item.item) :
    ∃ p', rawRun step p records = ((streamedBlock position item).events, p') ∧
      Between (ids ++ [item.item.id]) (callIds ++ item.item.callId?.toList) (position + 1)
        (refusal || refuses item.item) p' := by
  cases item with
  | message id phase parts =>
    have hkinds : (parts.map Prod.fst).Nodup := by
      have hone : ((parts.map fun part => (part.1, part.2.flatten)).map Prod.fst).Nodup := hone
      rw [List.map_map] at hone
      exact hone
    have hrefuses : refuses (StreamedItem.message id phase parts).item =
        parts.any fun part => isRefusal part.1 := by
      show (parts.map fun part => (part.1, part.2.flatten)).any (fun part => isRefusal part.1) = _
      rw [List.any_map]
      rfl
    have hcallIds : callIds ++ (StreamedItem.message id phase parts).item.callId?.toList = callIds :=
      List.append_nil _
    rw [hrefuses, hcallIds]
    exact run_message hbounded hp hfresh (by simpa [StreamedItem.item, OutputItem.partCount] using hcount)
      h hkinds
  | reasoning id parts native =>
    have hrefuses : (refusal || refuses (StreamedItem.reasoning id parts native).item) = refusal :=
      Bool.or_false _
    have hcallIds : callIds ++ (StreamedItem.reasoning id parts native).item.callId?.toList = callIds :=
      List.append_nil _
    rw [hrefuses, hcallIds]
    exact run_reasoning hp hfresh hbounded
      (by simpa [StreamedItem.item, OutputItem.partCount] using hcount) h hone
  | functionCall id callId name pieces =>
    have hrefuses : (refusal || refuses (StreamedItem.functionCall id callId name pieces).item) =
        refusal := Bool.or_false _
    obtain ⟨hid, hcallId, hname, hobject⟩ := hbounded
    rw [hrefuses]
    exact run_call hp hfresh (hnew callId rfl) ⟨hid, hcallId, hname⟩ hobject h

/-- An item with more than one text for a flag is answered by an error. -/
theorem run_item_again {item : StreamedItem} (hp : Between ids callIds position refusal p)
    (hbounded : item.item.Bounded) (hfresh : item.item.id ∉ ids)
    (h : item.Records position records) (hmore : ¬ OneText item.item) :
    HasError (rawRun step p records).1 := by
  cases item with
  | message id phase parts =>
    have hkinds : ¬ (parts.map Prod.fst).Nodup := by
      have hmore : ¬ ((parts.map fun part => (part.1, part.2.flatten)).map Prod.fst).Nodup := hmore
      rw [List.map_map] at hmore
      exact hmore
    exact run_message_again hbounded hp hfresh h hkinds
  | reasoning id parts native => exact run_reasoning_again hp hfresh hbounded h hmore
  | functionCall id callId name pieces => exact absurd trivial hmore

end Items

/-- The items that a parser can still be given: what makes them well formed, and new to it. -/
structure Fresh (ids callIds : List Bytes) (items : List OutputItem) : Prop extends WellFormed items where
  newIds : ∀ id ∈ items.map OutputItem.id, id ∉ ids
  newCalls : ∀ callId ∈ items.filterMap OutputItem.callId?, callId ∉ callIds
  partCount : ∀ item ∈ items, item.partCount ≤ kMaxProviderParserArrayItems

variable {ids callIds : List Bytes}

theorem Fresh.head {item : OutputItem} {items : List OutputItem}
    (h : Fresh ids callIds (item :: items)) :
    item.Bounded ∧ item.id ∉ ids ∧ (∀ callId ∈ item.callId?, callId ∉ callIds) ∧
      item.partCount ≤ kMaxProviderParserArrayItems := by
  refine ⟨h.bounded _ List.mem_cons_self, h.newIds _ (by simp), ?_,
    h.partCount _ List.mem_cons_self⟩
  intro callId hcallId
  exact h.newCalls callId (List.mem_filterMap.mpr ⟨item, List.mem_cons_self, hcallId⟩)

theorem Fresh.tail {item : OutputItem} {items : List OutputItem}
    (h : Fresh ids callIds (item :: items)) :
    Fresh (ids ++ [item.id]) (callIds ++ item.callId?.toList) items := by
  have hids := h.distinctIds
  rw [List.map_cons, List.nodup_cons] at hids
  have hcalls := h.distinctCalls
  have hsplit : (item :: items).filterMap OutputItem.callId? =
      item.callId?.toList ++ items.filterMap OutputItem.callId? := by
    cases hcall : item.callId? with
    | none => rw [List.filterMap_cons_none hcall]; rfl
    | some callId => rw [List.filterMap_cons_some hcall]; rfl
  rw [hsplit, List.nodup_append] at hcalls
  refine ⟨⟨fun other hother => h.bounded other (List.mem_cons_of_mem _ hother), hids.2, hcalls.2.1⟩,
    ?_, ?_, fun other hother => h.partCount other (List.mem_cons_of_mem _ hother)⟩
  · intro id hid hmem
    rcases List.mem_append.mp hmem with hmem | hmem
    · exact h.newIds id (by rw [List.map_cons]; exact List.mem_cons_of_mem _ hid) hmem
    · rw [List.mem_singleton] at hmem
      exact hids.1 (hmem ▸ hid)
  · intro callId hcallId hmem
    rcases List.mem_append.mp hmem with hmem | hmem
    · exact h.newCalls callId (by rw [hsplit]; exact List.mem_append_right _ hcallId) hmem
    · exact hcalls.2.2 callId hmem callId hcallId rfl

variable {position : Nat} {items : List StreamedItem}

/-- **ALL ITEMS** with one text for each flag. -/
theorem run_items (h : ItemsRecords position items records) :
    ∀ {ids callIds : List Bytes} {refusal : Bool}
    {p : OpenAIStreamParser}, Between ids callIds position refusal p →
    Fresh ids callIds (items.map StreamedItem.item) → (∀ item ∈ items, OneText item.item) →
    ∃ ids' callIds' position' p', rawRun step p records =
        ((streamedBlocks position items).flatMap Block.events, p') ∧
      Between ids' callIds' position' (refusal || items.any fun item => refuses item.item) p' := by
  induction h with
  | @nil position =>
    intro ids callIds refusal p hp _ _
    rw [List.any_nil, Bool.or_false]
    exact ⟨ids, callIds, position, p, rfl, hp⟩
  | @cons position item items records rest head _ ih =>
    intro ids callIds refusal p hp hfresh hone
    obtain ⟨hbounded, hid, hcall, hcount⟩ := hfresh.head
    obtain ⟨p₁, hrun₁, hp₁⟩ :=
      run_item hp hbounded hid hcall hcount head (hone item List.mem_cons_self)
    obtain ⟨ids', callIds', position', p', hrun, hp'⟩ :=
      ih hp₁ hfresh.tail fun other hother => hone other (List.mem_cons_of_mem _ hother)
    refine ⟨ids', callIds', position', p', ?_, ?_⟩
    · rw [rawRun_append, hrun₁]
      dsimp only
      rw [hrun, streamedBlocks, List.flatMap_cons]
    · rw [List.any_cons, ← Bool.or_assoc]
      exact hp'

/-- An item with more than one text for a flag is answered by an error, wherever it stands. -/
theorem run_items_again (h : ItemsRecords position items records) :
    ∀ {ids callIds : List Bytes} {refusal : Bool}
    {p : OpenAIStreamParser}, Between ids callIds position refusal p →
    Fresh ids callIds (items.map StreamedItem.item) → ¬ (∀ item ∈ items, OneText item.item) →
    HasError (rawRun step p records).1 := by
  induction h with
  | nil =>
    intro ids callIds refusal p _ _ hmore
    exact absurd (List.forall_mem_nil _) hmore
  | @cons position item items records rest head _ ih =>
    intro ids callIds refusal p hp hfresh hmore
    obtain ⟨hbounded, hid, hcall, hcount⟩ := hfresh.head
    rw [rawRun_append]
    by_cases hone : OneText item.item
    · apply HasError.right
      obtain ⟨p₁, hrun₁, hp₁⟩ := run_item hp hbounded hid hcall hcount head hone
      rw [hrun₁]
      apply ih hp₁ hfresh.tail
      intro hrest
      exact hmore (List.forall_mem_cons.mpr ⟨hone, hrest⟩)
    · apply HasError.left
      exact run_item_again hp hbounded hid head hone

/-! ## §3. The whole response. -/

/-- The terminal event of a completed response. -/
def doneEvent (usage : Option TokenUsage) (refused : Bool) : StreamEvent where
  type := .done
  usage := usage
  finishReason := some (if refused then .refusal else .completed)

/-- The end of the response. -/
theorem step_completed {refusal : Bool} {p : OpenAIStreamParser} {data : Bytes}
    (hp : Between ids callIds position refusal p) (h : IsRecord "response.completed" data) :
    step p data = ([doneEvent (parseOpenaiUsage data) refusal], { p with doneSeen := true }) := by
  have hcalls : (p.functionCalls.any fun entry => !entry.2.ended) = false := by
    rw [List.any_eq_false]
    intro entry hentry
    simp [(hp.calls entry hentry).2]
  have hmessages : (p.messageItems.any fun entry => !entry.2.ended) = false := by
    rw [List.any_eq_false]
    intro entry hentry
    simp [(hp.messages entry hentry).2]
  rw [step_record h hp.running hp.events]
  show emitted (p.endResponse (parseOpenaiUsage data) .completed) = _
  unfold endResponse rejectUnendedDocumentedFunctionCalls rejectUnendedDocumentedMessageItems
  rw [hp.running]
  simp only [Bool.false_eq_true, if_false]
  rw [hcalls]
  simp only [Bool.false_eq_true, if_false]
  rw [hmessages]
  simp only [Bool.false_eq_true, if_false]
  unfold appendFinishReasoningIfOpen
  rw [if_pos (by simp [hp.closed])]
  simp [emitted, push, doneEvent, hp.events, hp.refusal]

/-- A parser at its start is between two items. -/
theorem between_start : Between [] [] 0 false {} where
  events := rfl
  running := rfl
  closed := rfl
  noText := rfl
  refusal := rfl
  messages _ hentry := absurd hentry List.not_mem_nil
  calls _ hentry := absurd hentry List.not_mem_nil
  logical _ hentry := absurd hentry List.not_mem_nil
  types _ hentry := absurd hentry List.not_mem_nil
  added _ hid := absurd hid List.not_mem_nil
  completed _ hid := absurd hid List.not_mem_nil
  indexes _ hentry := absurd hentry List.not_mem_nil

/-- The events that a documented stream should have, up to the usage. -/
def streamedEvents (items : List StreamedItem) (usage : Option TokenUsage) : List StreamEvent :=
  (streamedBlocks 0 items).flatMap Block.events ++
    [doneEvent usage (items.any fun item => refuses item.item)]

/-- **THE DECODER ON A DOCUMENTED STREAM.** -/
theorem run_response (h : IsStream items records)
    (hfresh : Fresh [] [] (items.map StreamedItem.item))
    (hone : ∀ item ∈ items, OneText item.item) :
    ∃ usage p', rawRun step {} records = (streamedEvents items usage, p') ∧ p'.doneSeen = true ∧
      p'.reasoningOpen = false := by
  obtain ⟨itemRecords, last, rfl, hitems, hlast⟩ := h
  obtain ⟨ids', callIds', position', p', hrun, hp'⟩ := run_items hitems between_start hfresh hone
  rw [Bool.false_or] at hp'
  refine ⟨parseOpenaiUsage last, { p' with doneSeen := true }, ?_, rfl, hp'.closed⟩
  rw [rawRun_append, hrun]
  dsimp only
  rw [rawRun, step_completed hp' hlast]
  simp [rawRun, streamedEvents]

/-- No event of an item is an error. -/
theorem block_clean (b : Block) : ∀ e ∈ b.events, e.type ≠ .error := by
  intro e he
  cases b with
  | text m pieces | reasoning m format native pieces | functionCall m callId name pieces =>
    simp only [Block.events, List.mem_append, List.mem_singleton, List.mem_map] at he
    rcases he with (rfl | ⟨piece, -, rfl⟩) | rfl <;> exact StreamEventType.noConfusion

theorem streamedEvents_clean (items : List StreamedItem) (usage : Option TokenUsage) :
    ∀ e ∈ streamedEvents items usage, e.type ≠ .error := by
  intro e he
  rcases List.mem_append.mp he with he | he
  · obtain ⟨b, -, hb⟩ := List.mem_flatMap.mp he
    exact block_clean b e hb
  · rw [List.mem_singleton.mp he]
    exact StreamEventType.noConfusion

/-- A finished parser has nothing to add. -/
theorem complete_finished {p : OpenAIStreamParser} (hdone : p.doneSeen = true)
    (hclosed : p.reasoningOpen = false) (budget : ProviderParserBudget) :
    (complete p budget).1 = [] := by
  unfold complete appendFinishReasoningIfOpen
  simp [hdone, hclosed]

section Response

variable {items : List StreamedItem} {records chunks : List Bytes} (h : IsStream items records)
  (hfresh : Fresh [] [] (items.map StreamedItem.item))
  (hfits : Fits (ascii "OpenAI") decode { decoder := {} } chunks)
  (htext : IsEventText records chunks.flatten)
  (hrecords : ∀ data ∈ records, data.length ≤ kMaxProviderSseBufferedBytes)

include h hfresh hfits htext hrecords

/-- **THE EVENTS OF A DOCUMENTED STREAM** with one text for each flag, within the budget. -/
theorem streamEvents_documented (hone : ∀ item ∈ items, OneText item.item)
    (hcount : records.length ≤ kMaxProviderParserEvents) (hroom : Room {} (streamedEvents items none)) :
    ∃ usage, OpenAIStreamParser.streamEvents chunks = streamedEvents items usage := by
  obtain ⟨usage, p', hrun, hdone, hclosed⟩ := run_response h hfresh hone
  refine ⟨usage, ?_⟩
  have hclean : ∀ e ∈ (rawRun step {} records).1, e.type ≠ .error := by
    rw [hrun]
    exact streamedEvents_clean items usage
  have hroom' : Room {} (rawRun step {} records).1 := by
    rw [hrun]
    exact ⟨by simpa [streamedEvents] using hroom.count,
      by simpa [streamedEvents, doneEvent, StreamEvent.fragmentBytes] using hroom.fragments,
      by simpa [streamedEvents, doneEvent, StreamEvent.metadataBytes] using hroom.metadata⟩
  have hall := streamEvents_of_room (ascii "OpenAI") complete decode_eq_step hfits htext hrecords hcount
    hclean hroom' (by rw [hrun]; exact complete_finished hdone hclosed)
  rw [OpenAIStreamParser.streamEvents, hall, hrun]

/-- **AN ERROR** is among the events of a stream with more than one text for a flag. -/
theorem streamEvents_error (hmore : ¬ ∀ item ∈ items, OneText item.item) :
    HasError (OpenAIStreamParser.streamEvents chunks) := by
  by_contra hnone
  have hclean : ∀ e ∈ OpenAIStreamParser.streamEvents chunks, e.type ≠ .error :=
    fun e he htype => hnone ⟨e, he, htype⟩
  have hraw := streamEvents_silent (ascii "OpenAI") complete decode_eq_step hfits htext hrecords hclean
  obtain ⟨itemRecords, last, rfl, hitems, -⟩ := h
  have herror := run_items_again hitems between_start hfresh hmore
  rw [rawRun_append] at hraw
  obtain ⟨e, he, htype⟩ := herror.left _
  exact hraw e he htype

end Response

end Ava.Agent
