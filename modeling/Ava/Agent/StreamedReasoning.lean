/-
  Ava.Agent.StreamedReasoning
  **THE STREAMING PARSER ON THE REASONING ITEMS OF A DOCUMENTED STREAM.**

  The text of a reasoning item is collected over its summary parts, and the completion of a part is
  compared with all of it.  So a part after one with a text is answered by an error.

    - §1 `inReasoning` : the records about a reasoning item that is open;
    - §2 `run_summary_parts` : the summary parts;
    - §3 `run_reasoning`, `run_reasoning_again` : the whole item.
-/
import Ava.Agent.StreamedMessage

namespace Ava.Agent

open Ava.Core Ava.Core.Json Ava.Provider Ava.Provider.OpenAIStreamParser
open Ava.Lib (Table)
open Ava.Session (isValidOpenaiOpaqueId isValidOpenaiNativeReasoningItemJson)

/-! ## §1. Inside a reasoning item. -/

/-- The parser inside a reasoning item. -/
def inReasoning (base : OpenAIStreamParser) (id : Bytes) (position : Nat) (text : Bytes) :
    OpenAIStreamParser :=
  { base with
    events := []
    sawContent := true
    doneSeen := false
    reasoningOpen := true
    activeReasoningItemId := id
    activeReasoningOutputIndex := some position
    activeReasoningText := text }

/-- An event of a reasoning item. -/
def thought (position : Nat) (id : Bytes) (type : StreamEventType) (text : Bytes) : StreamEvent :=
  Block.reasoningEvent ⟨id, some position, .unknown⟩ kOpenAIResponsesReasoningFormat type text

section Reasoning

variable {base : OpenAIStreamParser} {id : Bytes} {position : Nat} {text data : Bytes}

variable {type : String}

/-- The reasoning item that the records of this section are about: registered, not completed. -/
structure OpenReasoning (base : OpenAIStreamParser) (id : Bytes) : Prop where
  valid : isValidOpenaiOpaqueId id = true
  type : List.lookup id base.documentedOutputItemTypes = some (ascii "reasoning")
  pending : id ∉ base.completedReasoningItemIds

theorem reasoningId_eq (h : IsItemRecord type position id data) :
    reasoningItemIdFromEvent data = id := by
  unfold reasoningItemIdFromEvent firstStringField
  simp [h.itemId]

theorem activate_inReasoning :
    (inReasoning base id position text).activateReasoning id = inReasoning base id position text := by
  unfold activateReasoning
  cases id with
  | nil | cons c id => rfl

theorem delta_inReasoning (piece : Bytes) :
    (inReasoning base id position text).appendReasoningDelta piece =
      { inReasoning base id position (text ++ piece) with
        events := (heard [piece]).map (thought position id .reasoningDelta) } := by
  have hstart : (inReasoning base id position text).appendStartReasoningIfNeeded =
      inReasoning base id position text := rfl
  unfold appendReasoningDelta
  dsimp only
  rw [hstart]
  cases piece with
  | nil => simp [inReasoning, heard]
  | cons c piece => rfl

theorem reconcile_inReasoning :
    (inReasoning base id position text).reconcileCompleteReasoningText text =
      (true, inReasoning base id position text) := by
  have hstart : (inReasoning base id position text).appendStartReasoningIfNeeded =
      inReasoning base id position text := rfl
  unfold reconcileCompleteReasoningText
  dsimp only
  rw [hstart, if_pos (by rfl)]

/-- A text with more in front of it is in conflict. -/
theorem reconcile_conflict {before : Bytes} (hbefore : before ≠ []) :
    ((inReasoning base id position (before ++ text)).reconcileCompleteReasoningText text).2 =
      (inReasoning base id position (before ++ text)).appendStreamError
        "conflicting OpenAI reasoning text" := by
  have hstart : (inReasoning base id position (before ++ text)).appendStartReasoningIfNeeded =
      inReasoning base id position (before ++ text) := rfl
  have hlength : 0 < before.length := List.length_pos_iff.mpr hbefore
  have hactive : (inReasoning base id position (before ++ text)).activeReasoningText = before ++ text :=
    rfl
  have hne : text ≠ before ++ text := by
    intro heq
    have := congrArg List.length heq
    rw [List.length_append] at this
    omega
  have hnotPrefix : (before ++ text).isPrefixOf text = false := by
    rw [Bool.eq_false_iff, Ne, List.isPrefixOf_iff_prefix]
    intro hpre
    have := hpre.length_le
    rw [List.length_append] at this
    omega
  unfold reconcileCompleteReasoningText
  dsimp only
  rw [hstart, hactive, if_neg hne, hnotPrefix]
  rfl

/-- Only the last text may be non-empty. -/
def SoleText (texts : List Bytes) : Prop := ∀ text ∈ texts.dropLast, text = []

theorem soleText_cons {text next : Bytes} {texts : List Bytes} :
    SoleText (text :: next :: texts) ↔ text = [] ∧ SoleText (next :: texts) := by
  unfold SoleText
  rw [List.dropLast_cons_cons, List.forall_mem_cons]

theorem soleText_nil_cons {texts : List Bytes} : SoleText ([] :: texts) ↔ SoleText texts := by
  cases texts with
  | nil => simp [SoleText]
  | cons text texts => exact soleText_cons.trans (and_iff_right rfl)

/-- A sole text is what the parts are joined to. -/
theorem joinedSummary_of_soleText : ∀ texts : List Bytes, SoleText texts →
    joinedSummary texts = texts.flatten := by
  intro texts
  induction texts with
  | nil =>
    intro _
    rfl
  | cons text texts ih =>
    intro hsole
    cases texts with
    | nil =>
      cases text with
      | nil => rfl
      | cons c text => simp [joinedSummary, appendJoinedText]
    | cons next texts =>
      obtain ⟨hempty, hrest⟩ := soleText_cons.mp hsole
      subst hempty
      exact ih hrest

section

variable (ho : OpenReasoning base id)

include ho

/-- A record about the reasoning item that is open. -/
theorem bind_inReasoning (h : IsItemRecord type position id data) :
    (inReasoning base id position text).bindDocumentedReasoningEvent data =
      (true, inReasoning base id position text) := by
  have htype' : List.lookup id (inReasoning base id position text).documentedOutputItemTypes =
      some (ascii "reasoning") := ho.type
  unfold bindDocumentedReasoningEvent
  rw [itemReference_eq h ho.valid]
  dsimp only
  rw [htype', itemIndex_eq h]
  simp [inReasoning]

/-- What a handled reasoning record does. -/
theorem withReasoning_inReasoning (h : IsItemRecord type position id data)
    (act : OpenAIStreamParser → OpenAIStreamParser) :
    (inReasoning base id position text).withReasoningItem data act =
      act (inReasoning base id position text) := by
  have hopen' : id ∉ (inReasoning base id position text).completedReasoningItemIds := ho.pending
  unfold withReasoningItem
  rw [bind_inReasoning ho h, reasoningId_eq h]
  simp [hopen', activate_inReasoning]

/-- **A DELTA** of a summary. -/
theorem step_summary_delta {piece : Bytes}
    (h : IsDelta "response.reasoning_summary_text.delta" position id piece data) :
    step (inReasoning base id position text) data =
      ((heard [piece]).map (thought position id .reasoningDelta),
        inReasoning base id position (text ++ piece)) := by
  have hpiece : (firstStringField data ["delta", "text"]).getD [] = piece := by
    simp [firstStringField, h.2]
  rw [step_record h.1.toIsRecord rfl rfl]
  show emitted ((inReasoning base id position text).reasoningTextDelta data) = _
  unfold reasoningTextDelta
  rw [withReasoning_inReasoning ho h.1, hpiece, delta_inReasoning]
  rfl

theorem step_summary_added
    (h : IsItemRecord "response.reasoning_summary_part.added" position id data) :
    step (inReasoning base id position text) data = ([], inReasoning base id position text) := by
  rw [step_record h.toIsRecord rfl rfl]
  show emitted ((inReasoning base id position text).reasoningPartAdded data) = _
  unfold reasoningPartAdded
  rw [withReasoning_inReasoning ho h]
  rfl

/-- The completion of a summary part compares its text with the text of the item. -/
theorem step_summary_done {complete : Bytes} (h : IsSummaryDone position id complete data) :
    step (inReasoning base id position text) data =
      emitted ((inReasoning base id position text).reconcileCompleteReasoningText complete).2 := by
  have hopen' : id ∉ (inReasoning base id position text).completedReasoningItemIds := ho.pending
  obtain ⟨remaining, hsummary, hauthority⟩ := summaryDone_text h
  have hdone : ∀ type, IsItemRecord type position id data →
      (inReasoning base id position text).reasoningTextDone data =
        ((inReasoning base id position text).reconcileCompleteReasoningText complete).2 := by
    intro type hrecord
    unfold reasoningTextDone
    rw [bind_inReasoning ho hrecord, reasoningId_eq hrecord, hsummary, hauthority]
    simp [hopen', activate_inReasoning]
  rcases h with ⟨hrecord, -⟩ | ⟨hrecord, -⟩
  · rw [step_record hrecord.toIsRecord rfl rfl, ← hdone _ hrecord]
    rfl
  · rw [step_record hrecord.toIsRecord rfl rfl, ← hdone _ hrecord]
    rfl

variable {pieces : List Bytes}

/-- All deltas of a summary part. -/
theorem run_summary_deltas {deltas : List Bytes}
    (h : List.Forall₂ (IsDelta "response.reasoning_summary_text.delta" position id) pieces deltas) :
    ∀ text, rawRun step (inReasoning base id position text) deltas =
      ((heard pieces).map (thought position id .reasoningDelta),
        inReasoning base id position (text ++ pieces.flatten)) :=
  fun text => rawRun_deltas _ (fun text _ => inReasoning base id position text)
    (step_summary_delta ho) h text false

variable {records : List Bytes}

/-- **THE FIRST SUMMARY PART WITH A TEXT.** -/
theorem run_summary_part (h : IsSummaryPart position id pieces records) :
    rawRun step (inReasoning base id position []) records =
      ((heard pieces).map (thought position id .reasoningDelta),
        inReasoning base id position pieces.flatten) := by
  obtain ⟨added, rest, rfl, hadded, deltas, last, rfl, hdeltas, hlast⟩ := h
  have hpieces := run_summary_deltas ho hdeltas []
  rw [List.nil_append] at hpieces
  rw [rawRun, step_summary_added ho hadded]
  dsimp only
  rw [rawRun_append, hpieces]
  dsimp only
  rw [rawRun, step_summary_done ho hlast, reconcile_inReasoning]
  simp [rawRun, emitted, inReasoning]

/-- A summary part after a text is answered by an error. -/
theorem run_summary_part_again (h : IsSummaryPart position id pieces records)
    (htext : text ≠ []) :
    HasError (rawRun step (inReasoning base id position text) records).1 := by
  obtain ⟨added, rest, rfl, hadded, deltas, last, rfl, hdeltas, hlast⟩ := h
  rw [rawRun, step_summary_added ho hadded]
  apply HasError.right
  dsimp only
  rw [rawRun_append, run_summary_deltas ho hdeltas]
  apply HasError.right
  dsimp only
  rw [rawRun, step_summary_done ho hlast, reconcile_conflict htext]
  apply HasError.left
  exact hasError_appendStreamError _ _

/-! ## §2. The summary parts. -/

variable {parts : List (List Bytes)}

/-- All summary parts, when only the last has a text. -/
theorem run_summary_parts {partRecords : List (List Bytes)}
    (h : List.Forall₂ (IsSummaryPart position id) parts partRecords) :
    ∀ text, SoleText (text :: parts.map List.flatten) →
      rawRun step (inReasoning base id position text) partRecords.flatten =
        ((heard parts.flatten).map (thought position id .reasoningDelta),
          inReasoning base id position (text ++ (parts.map List.flatten).flatten)) := by
  induction h with
  | nil =>
    intro text _
    simp [rawRun, heard]
  | @cons pieces records parts partRecords hpart _ ih =>
    intro text hsole
    rw [List.map_cons, soleText_cons] at hsole
    obtain ⟨rfl, hsole⟩ := hsole
    rw [List.flatten_cons, rawRun_append, run_summary_part ho hpart]
    dsimp only
    rw [ih _ hsole, List.flatten_cons, heard_append, List.map_append, List.map_cons, List.flatten_cons,
      List.nil_append]

/-- A summary part after one with a text is answered by an error. -/
theorem run_summary_parts_again {partRecords : List (List Bytes)}
    (h : List.Forall₂ (IsSummaryPart position id) parts partRecords) :
    ∀ text, ¬ SoleText (text :: parts.map List.flatten) →
      HasError (rawRun step (inReasoning base id position text) partRecords.flatten).1 := by
  induction h with
  | nil =>
    intro text hsole
    exact absurd (by simp [SoleText]) hsole
  | @cons pieces records parts partRecords hpart _ ih =>
    intro text hsole
    rw [List.map_cons, soleText_cons] at hsole
    rw [List.flatten_cons, rawRun_append]
    by_cases htext : text = []
    · subst htext
      apply HasError.right
      rw [run_summary_part ho hpart]
      exact ih _ fun hrest => hsole ⟨rfl, hrest⟩
    · apply HasError.left
      exact run_summary_part_again ho hpart htext

end

/-! ## §3. The whole reasoning item. -/

variable {ids callIds : List Bytes} {refusal : Bool} {p : OpenAIStreamParser}

/-- The opaque payload of a completed item. -/
def nativeItem (text : Bytes) : Bytes := if isValidOpenaiNativeReasoningItemJson text then text else []

/-- The parser after a reasoning item. -/
def afterReasoning (base : OpenAIStreamParser) (id : Bytes) : OpenAIStreamParser :=
  { base with
    events := []
    sawContent := true
    doneSeen := false
    reasoningOpen := false
    completedReasoningItemIds := rememberString base.completedReasoningItemIds id
    activeReasoningItemId := []
    activeReasoningOutputIndex := none
    activeReasoningText := [] }

/-- The completion of a reasoning item whose text was streamed as it is. -/
theorem step_reasoning_completed {parts : List Bytes} {streamed : Bytes}
    (ho : OpenReasoning base id) (hcount : parts.length ≤ kMaxProviderParserArrayItems)
    (hindex : List.lookup position base.documentedOutputItemIdsByIndex = some id)
    (hjoined : joinedSummary parts = streamed)
    (h : IsOutputItemRecord "response.output_item.done" position (.reasoning id parts) text data) :
    step (inReasoning base id position streamed) data =
      ([Block.reasoningEndEvent ⟨id, some position, .unknown⟩ kOpenAIResponsesReasoningFormat
          (nativeItem text)],
        afterReasoning base id) := by
  have hopen' : id ∉ (inReasoning base id position streamed).completedReasoningItemIds := ho.pending
  have hauthority : reasoningEventHasAuthoritativeCompleteText text = true := by
    obtain ⟨⟨summaries, hsummaries, -⟩, -⟩ := h.reads.content
    simp [reasoningEventHasAuthoritativeCompleteText, hasField_of_strictObjects hsummaries]
  rw [step_item_done (p := inReasoning base id position streamed) h ho.valid rfl rfl rfl
    ⟨ho.type, hindex⟩]
  show emitted ((inReasoning base id position streamed).handleDocumentedReasoningOutputItem text id
    (some position) .done) = _
  have hactive : ({ inReasoning base id position streamed with
      activeReasoningItemId := id, activeReasoningOutputIndex := some position }
      : OpenAIStreamParser) = inReasoning base id position streamed := rfl
  unfold handleDocumentedReasoningOutputItem
  dsimp only
  rw [if_neg (by simpa using hopen'), if_neg (by simp [inReasoning]), hactive,
    reasoningSummary_eq h.reads hcount]
  dsimp only
  rw [if_pos hauthority, hjoined, reconcile_inReasoning]
  rfl

/-- After a reasoning item the parser is between two items again. -/
theorem between_after_reasoning (hp : Between ids callIds position refusal p) :
    Between (ids ++ [id]) callIds (position + 1) refusal
      (afterReasoning (registered p "reasoning" id position) id) where
  __ := hp.registered "reasoning"
  events := rfl
  running := rfl
  closed := rfl
  noText := rfl
  completed := by
    intro completed hcompleted
    have hcases : completed ∈ p.completedReasoningItemIds ∨ completed = id := by
      have hcompleted : completed ∈ rememberString p.completedReasoningItemIds id := hcompleted
      unfold rememberString at hcompleted
      split_ifs at hcompleted
      · exact Or.inl hcompleted
      · simpa using hcompleted
    rcases hcases with hold | rfl
    · exact List.mem_append_left _ (hp.completed completed hold)
    · exact List.mem_append_right _ (List.mem_singleton_self _)

variable (hp : Between ids callIds position refusal p) (hfresh : id ∉ ids)
  (hid : isValidOpenaiOpaqueId id = true)

include hp hfresh hid

/-- The addition of a reasoning item. -/
theorem step_reasoning_added
    (h : IsOutputItemRecord "response.output_item.added" position (.reasoning id []) text data) :
    step p data =
      ([thought position id .reasoningStart []],
        inReasoning (registered p "reasoning" id position) id position []) := by
  rw [step_item_added h hid hp hfresh]
  show emitted ((registered p "reasoning" id position).handleDocumentedReasoningOutputItem text id
    (some position) .added) = _
  unfold handleDocumentedReasoningOutputItem
  simp [appendStartReasoningIfNeeded, registered, hp.closed, push, emitted, inReasoning, hp.events,
    hp.running, hp.noText, thought, OpenAIStreamParser.reasoningEvent, Block.reasoningEvent, Block.event]

/-- An item that has just been added is open. -/
theorem openReasoning_registered : OpenReasoning (registered p "reasoning" id position) id where
  valid := hid
  type := Table.lookup_set_self _ _ _
  pending hmem := hfresh (hp.completed id hmem)

/-- The events of a streamed reasoning item. -/
def reasoningBlock (position : Nat) (id : Bytes) (parts : List (List Bytes)) (native : Bytes) : Block :=
  .reasoning ⟨id, some position, .unknown⟩ kOpenAIResponsesReasoningFormat (nativeItem native)
    (heard parts.flatten)

/-- **A REASONING ITEM** whose parts before the last are empty. -/
theorem run_reasoning {native : Bytes}
    (hcount : parts.length ≤ kMaxProviderParserArrayItems)
    (h : (StreamedItem.reasoning id parts native).Records position records)
    (hsole : SoleText (parts.map List.flatten)) :
    ∃ p', rawRun step p records = ((reasoningBlock position id parts native).events, p') ∧
      Between (ids ++ [id]) callIds (position + 1) refusal p' := by
  obtain ⟨added, body, done, rfl, ⟨addedText, hadded⟩, ⟨partRecords, hparts, rfl⟩, doneText, hdone,
    hnative⟩ := h
  have hnative : doneText = native := hnative
  subst hnative
  have hadded' : IsOutputItemRecord "response.output_item.added" position (.reasoning id []) addedText
      added := hadded
  have hdone' : IsOutputItemRecord "response.output_item.done" position
      (.reasoning id (parts.map List.flatten)) doneText done := hdone
  have ho := openReasoning_registered hp hfresh hid
  have hbody := run_summary_parts ho hparts [] (soleText_nil_cons.mpr hsole)
  rw [List.nil_append] at hbody
  refine ⟨_, ?_, between_after_reasoning hp⟩
  rw [rawRun, step_reasoning_added hp hfresh hid hadded']
  dsimp only
  rw [rawRun_append, hbody]
  dsimp only
  rw [rawRun, step_reasoning_completed ho (by simpa using hcount) (Table.lookup_set_self _ _ _)
    (joinedSummary_of_soleText _ hsole) hdone']
  simp [rawRun, reasoningBlock, Block.events, thought]

/-- A reasoning item with a part after a text is answered by an error. -/
theorem run_reasoning_again {native : Bytes}
    (h : (StreamedItem.reasoning id parts native).Records position records)
    (hsole : ¬ SoleText (parts.map List.flatten)) : HasError (rawRun step p records).1 := by
  obtain ⟨added, body, done, rfl, ⟨addedText, hadded⟩, ⟨partRecords, hparts, rfl⟩, -⟩ := h
  have hadded' : IsOutputItemRecord "response.output_item.added" position (.reasoning id []) addedText
      added := hadded
  rw [rawRun, step_reasoning_added hp hfresh hid hadded', rawRun_append]
  apply HasError.right
  apply HasError.left
  exact run_summary_parts_again (openReasoning_registered hp hfresh hid) hparts []
    (mt soleText_nil_cons.mp hsole)

end Reasoning

end Ava.Agent
