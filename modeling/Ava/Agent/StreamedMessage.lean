/-
  Ava.Agent.StreamedMessage
  **THE STREAMING PARSER ON THE MESSAGES OF A DOCUMENTED STREAM.**

  For each record of the documentation there is one lemma that says what the parser emits and where
  it goes; an item is their sequence.  The completion flag of a text is kept for the message and not
  for the part, so a second part of one kind is answered by an error.

    - §1 `step`, `Between` : one record, and the parser between two items;
    - §2 `inMessage` : the records about a message that is open;
    - §3 `run_message_parts` : the parts of a message;
    - §4 `run_message`, `run_message_again` : the whole message.
-/
import Ava.Agent.AssistantTurn
import Ava.Provider.DocumentedResponse
import Ava.Provider.SseRecords

namespace Ava.Agent

open Ava.Core Ava.Core.Json Ava.Provider Ava.Provider.OpenAIStreamParser
open Ava.Lib (Table)
open Ava.Session (isValidOpenaiOpaqueId isValidOpenaiNativeReasoningItemJson)

/-! ## §1. One record. -/

/-- The events of a record and the parser after it. -/
def emitted (p : OpenAIStreamParser) : List StreamEvent × OpenAIStreamParser :=
  (p.events, { p with events := [] })

/-- The decoder without the budget. -/
def step (p : OpenAIStreamParser) (data : Bytes) : List StreamEvent × OpenAIStreamParser :=
  emitted ({ p with events := [] }.appendEventForData data)

theorem decode_eq_step (p : OpenAIStreamParser) (budget : ProviderParserBudget) (data : Bytes) :
    decode p budget data = ((step p data).1, budget, (step p data).2) := rfl

variable {type : String} {data : Bytes} {p : OpenAIStreamParser}

/-- A record is dispatched by its type. -/
theorem step_record (h : IsRecord type data) (hrunning : p.doneSeen = false)
    (hevents : p.events = []) :
    step p data = emitted (p.dispatch data (ascii type)) := by
  have hsame : { p with events := [] } = p := by
    cases p
    cases hevents
    rfl
  have hmarker : data ≠ doneMarker := by
    rintro rfl
    have hvalid := h.valid
    revert hvalid
    decide
  have htype : stringFieldOrEmpty data "type" = ascii type := by
    rw [stringFieldOrEmpty, h.type]
    rfl
  unfold step
  rw [hsame, appendEventForData, if_neg hmarker, hrunning, if_neg Bool.false_ne_true, h.valid, htype]
  rfl

/-- The parser between two items: everything it knows is about the items before. -/
structure Between (ids callIds : List Bytes) (position : Nat) (refusal : Bool)
    (p : OpenAIStreamParser) : Prop where
  events : p.events = []
  running : p.doneSeen = false
  closed : p.reasoningOpen = false
  noText : p.activeReasoningText = []
  refusal : p.sawRefusal = refusal
  messages : ∀ entry ∈ p.messageItems, entry.1 ∈ ids ∧ entry.2.ended = true
  calls : ∀ entry ∈ p.functionCalls, entry.1 ∈ ids ∧ entry.2.ended = true
  logical : ∀ entry ∈ p.functionCallItemIdsByLogicalId, entry.1 ∈ callIds
  types : ∀ entry ∈ p.documentedOutputItemTypes, entry.1 ∈ ids
  added : ∀ id ∈ p.documentedOutputItemAddedIds, id ∈ ids
  completed : ∀ id ∈ p.completedReasoningItemIds, id ∈ ids
  indexes : ∀ entry ∈ p.documentedOutputItemIdsByIndex, entry.1 < position

/-- What the parser remembers of an item that was added. -/
def registered (p : OpenAIStreamParser) (type : String) (id : Bytes) (position : Nat) :
    OpenAIStreamParser :=
  { p with
    documentedOutputItemTypes := p.documentedOutputItemTypes.set id (ascii type)
    documentedOutputItemAddedIds := p.documentedOutputItemAddedIds ++ [id]
    documentedOutputItemIdsByIndex := p.documentedOutputItemIdsByIndex.set position id
    sawContent := true }

variable {text : Bytes} {phase : AssistantPhase} {parts : List (MessageContentKind × Bytes)}

section Register

variable {ids callIds : List Bytes} {position : Nat} {refusal : Bool} {p : OpenAIStreamParser}
  {id : Bytes}

/-- An item that is registered is one of the items before, if nothing else is remembered of it. -/
theorem Between.registered (hp : Between ids callIds position refusal p) (type : String) :
    Between (ids ++ [id]) callIds (position + 1) refusal (registered p type id position) where
  __ := hp
  messages entry hentry :=
    ⟨List.mem_append_left _ (hp.messages entry hentry).1, (hp.messages entry hentry).2⟩
  calls entry hentry := ⟨List.mem_append_left _ (hp.calls entry hentry).1, (hp.calls entry hentry).2⟩
  types := by
    apply Table.forall_mem_set
    · exact List.mem_append_right _ (List.mem_singleton_self _)
    · intro entry hentry
      exact List.mem_append_left _ (hp.types entry hentry)
  added := by
    intro added hadded
    rcases List.mem_append.mp hadded with hadded | hadded
    · exact List.mem_append_left _ (hp.added added hadded)
    · exact List.mem_append_right _ hadded
  completed completed hcompleted := List.mem_append_left _ (hp.completed completed hcompleted)
  indexes := by
    apply Table.forall_mem_set
    · exact Nat.lt_succ_self _
    · intro entry hentry
      exact Nat.lt_succ_of_lt (hp.indexes entry hentry)

/-- A new item is registered. -/
theorem register_added (hp : Between ids callIds position refusal p) (hfresh : id ∉ ids)
    (type : String) :
    p.registerOutputItem .added (ascii type) id (some position) =
      (true, { registered p type id position with sawContent := p.sawContent }) := by
  have htype : List.lookup id p.documentedOutputItemTypes = none :=
    Table.lookup_eq_none fun entry hentry heq => hfresh (heq ▸ hp.types entry hentry)
  have hindex : List.lookup position p.documentedOutputItemIdsByIndex = none :=
    Table.lookup_eq_none fun entry hentry heq =>
      absurd (hp.indexes entry hentry) (by omega)
  have hadded : id ∉ p.documentedOutputItemAddedIds := fun hmem => hfresh (hp.added id hmem)
  unfold registerOutputItem
  simp [htype, hindex, hadded, registered]

/-- An item that is registered under its identity and its index. -/
structure IsRegistered (p : OpenAIStreamParser) (type : String) (id : Bytes) (position : Nat) :
    Prop where
  type : List.lookup id p.documentedOutputItemTypes = some (ascii type)
  index : List.lookup position p.documentedOutputItemIdsByIndex = some id

theorem isRegistered_registered : IsRegistered (registered p type id position) type id position :=
  ⟨Table.lookup_set_self _ _ _, Table.lookup_set_self _ _ _⟩

/-- The completion of a registered item changes nothing. -/
theorem register_done (h : IsRegistered p type id position) :
    p.registerOutputItem .done (ascii type) id (some position) = (true, p) := by
  unfold registerOutputItem
  simp [h.type, h.index]

/-- The phase of a message. -/
def itemPhase : OutputItem → AssistantPhase
  | .message _ phase _ => phase
  | _ => .unknown

variable {item : OutputItem}

/-- What an output item record says about its item. -/
theorem metadata_eq (h : IsOutputItemRecord type position item text data)
    (hid : isValidOpenaiOpaqueId item.id = true) :
    documentedOutputItemMetadata data text (ascii item.typeName == ascii "message") =
      .ok (item.id, some position, itemPhase item) := by
  unfold documentedOutputItemMetadata
  rw [h.reads.id]
  cases item with
  | message id phase parts =>
    have hphase := documentedMessagePhase_eq h.noPhase h.reads.content.1
    simp [OutputItem.typeName, itemPhase, hid, documentedOutputIndex_eq h.index h.reads.index, hphase,
      Except.map]
  | reasoning =>
    have hother : (ascii "reasoning" == ascii "message") = false := by decide
    simp [OutputItem.typeName, hother, itemPhase, hid, documentedOutputIndex_eq h.index h.reads.index]
  | functionCall =>
    have hother : (ascii "function_call" == ascii "message") = false := by decide
    simp [OutputItem.typeName, hother, itemPhase, hid, documentedOutputIndex_eq h.index h.reads.index]

/-- What the parser does with a record about an item, once the item is registered. -/
def handleRegistered (p : OpenAIStreamParser) (data text : Bytes) (position : Nat)
    (lifecycle : OutputItemLifecycle) : OutputItem → OpenAIStreamParser
  | .message id phase _ =>
    match lifecycle with
    | .added => p.addDocumentedMessageOutputItem text id (some position) phase
    | .done => p.completeDocumentedMessageOutputItem text id (some position) phase
  | .reasoning id _ => p.handleDocumentedReasoningOutputItem text id (some position) lifecycle
  | .functionCall _ _ _ _ =>
    p.handleDocumentedFunctionCallOutputItem data text (some position) lifecycle

theorem handleOutputItem_eq {lifecycle : OutputItemLifecycle} {q : OpenAIStreamParser}
    (h : IsOutputItemRecord type position item text data)
    (hid : isValidOpenaiOpaqueId item.id = true)
    (hregister : p.registerOutputItem lifecycle (ascii item.typeName) item.id (some position) =
      (true, q)) :
    p.handleOutputItem data lifecycle =
      handleRegistered { q with sawContent := true } data text position lifecycle item := by
  have htype : stringFieldOrEmpty text "type" = ascii item.typeName := by
    rw [stringFieldOrEmpty, h.reads.type]
    rfl
  unfold handleOutputItem
  rw [h.carries]
  dsimp only
  rw [htype, if_neg (by cases item <;> simp [OutputItem.typeName]), metadata_eq h hid]
  dsimp only
  rw [hregister]
  cases item <;> cases lifecycle <;> rfl

/-- The addition of an item. -/
theorem step_item_added
    (h : IsOutputItemRecord "response.output_item.added" position item text data)
    (hid : isValidOpenaiOpaqueId item.id = true) (hp : Between ids callIds position refusal p)
    (hfresh : item.id ∉ ids) :
    step p data = emitted (handleRegistered (registered p item.typeName item.id position) data text
      position .added item) := by
  rw [step_record h.toIsRecord hp.running hp.events]
  exact congrArg emitted (handleOutputItem_eq h hid (register_added hp hfresh item.typeName))

/-- The completion of an item. -/
theorem step_item_done
    (h : IsOutputItemRecord "response.output_item.done" position item text data)
    (hid : isValidOpenaiOpaqueId item.id = true) (hrunning : p.doneSeen = false)
    (hevents : p.events = []) (hsaw : { p with sawContent := true } = p)
    (hitem : IsRegistered p item.typeName item.id position) :
    step p data = emitted (handleRegistered p data text position .done item) := by
  have hhandled := handleOutputItem_eq h hid (register_done hitem)
  rw [hsaw] at hhandled
  rw [step_record h.toIsRecord hrunning hevents]
  exact congrArg emitted hhandled

end Register

/-- A list of events with an error. -/
def HasError (events : List StreamEvent) : Prop := ∃ e ∈ events, e.type = .error

theorem HasError.left {es : List StreamEvent} (h : HasError es) (fs : List StreamEvent) :
    HasError (es ++ fs) := by
  obtain ⟨e, he, htype⟩ := h
  exact ⟨e, List.mem_append_left _ he, htype⟩

theorem HasError.right {fs : List StreamEvent} (es : List StreamEvent) (h : HasError fs) :
    HasError (es ++ fs) := by
  obtain ⟨e, he, htype⟩ := h
  exact ⟨e, List.mem_append_right _ he, htype⟩

/-- An error that a record ends with. -/
theorem hasError_appendStreamError (p : OpenAIStreamParser) (message : String) :
    HasError (emitted (p.appendStreamError message)).1 :=
  ⟨_, List.mem_append_right _ (List.mem_singleton_self _), rfl⟩

/-! ## §2. Inside a message. -/

/-- The pieces that make an event: an empty delta makes none. -/
def heard (pieces : List Bytes) : List Bytes := pieces.filter fun piece => !piece.isEmpty

theorem flatten_heard (pieces : List Bytes) : (heard pieces).flatten = pieces.flatten := by
  induction pieces with
  | nil => rfl
  | cons piece pieces ih =>
    unfold heard at ih ⊢
    cases piece with
    | nil | cons c piece => simpa using ih

/-- The state of a message after some of its parts. -/
def messageState (position : Nat) (phase : AssistantPhase)
    (parts : List (MessageContentKind × Bytes)) : MessageItemState where
  providerOutputIndex := some position
  phase := phase
  outputText := textOf .outputText parts
  refusalText := textOf .refusal parts
  outputTextCompleted := decide (.outputText ∈ parts.map Prod.fst)
  refusalCompleted := decide (.refusal ∈ parts.map Prod.fst)

/-- The parser inside a message. -/
def inMessage (base : OpenAIStreamParser) (id : Bytes) (state : MessageItemState) (refusal : Bool) :
    OpenAIStreamParser :=
  { base with
    events := []
    sawContent := true
    doneSeen := false
    reasoningOpen := false
    messageItems := base.messageItems.set id state
    sawRefusal := refusal }

def isRefusal (kind : MessageContentKind) : Bool := decide (kind = .refusal)

section Message

variable {base : OpenAIStreamParser} {id : Bytes} {state : MessageItemState} {refusal : Bool}
  {position : Nat} {data : Bytes}

variable (base refusal) in
/-- A record about the message that is open. -/
theorem target_inMessage (h : IsItemRecord type position id data)
    (hid : isValidOpenaiOpaqueId id = true) (hopen : state.ended = false)
    (hindex : state.providerOutputIndex = some position) :
    (inMessage base id state refusal).documentedMessageItemForEvent data =
      (.item id state, inMessage base id state refusal) := by
  have hlookup : List.lookup id (inMessage base id state refusal).messageItems = some state :=
    Table.lookup_set_self id state base.messageItems
  unfold documentedMessageItemForEvent
  rw [itemReference_eq h hid]
  dsimp only
  rw [hlookup]
  dsimp only
  rw [hopen, itemIndex_eq h, itemPhase_eq h]
  simp [hindex]

theorem putMessage_inMessage (next : MessageItemState) :
    (inMessage base id state refusal).putMessage id next = inMessage base id next refusal := by
  unfold putMessage inMessage
  simp only [Table.set_set]

/-- Whether the text of a kind is complete. -/
def isCompleted (state : MessageItemState) : MessageContentKind → Bool
  | .outputText => state.outputTextCompleted
  | .refusal => state.refusalCompleted

/-- The completion of a text. -/
def completeText (state : MessageItemState) : MessageContentKind → MessageItemState
  | .outputText => { state with outputTextCompleted := true }
  | .refusal => { state with refusalCompleted := true }

theorem capture_nil (kind : MessageContentKind) : state.capture [] kind = state := by
  cases kind with
  | outputText | refusal => simp [MessageItemState.capture]

theorem capture_capture (kind : MessageContentKind) (text more : Bytes) :
    (state.capture text kind).capture more kind = state.capture (text ++ more) kind := by
  cases kind with
  | outputText | refusal => simp [MessageItemState.capture]

/-- The metadata of the events of a message. -/
def messageMetadata (id : Bytes) (state : MessageItemState) : AssistantItemMetadata :=
  ⟨id, state.providerOutputIndex, state.phase⟩

variable (base id state refusal) in
/-- A piece of a text. -/
theorem append_inMessage (piece : Bytes) (kind : MessageContentKind) :
    ((inMessage base id state refusal).appendDocumentedMessageDelta id state piece kind).2 =
      { inMessage base id (state.capture piece kind) refusal with
        events := (heard [piece]).map (Block.event (messageMetadata id state) .textDelta) } := by
  unfold appendDocumentedMessageDelta
  cases piece with
  | nil =>
    rw [capture_nil]
    rfl
  | cons c piece =>
    have hmetadata : messageEvent id (state.capture (c :: piece) kind) .textDelta (c :: piece) =
        Block.event (messageMetadata id state) .textDelta (c :: piece) := by
      cases kind with
      | outputText | refusal => rfl
    simp only [List.isEmpty_cons, Bool.false_eq_true, if_false]
    rw [putMessage_inMessage, hmetadata]
    rfl

variable {kind : MessageContentKind}

theorem reconcile_same (h : text = state.captured kind) :
    p.reconcileCompleteMessageText id state text kind = (true, state, p) := by
  unfold reconcileCompleteMessageText
  rw [if_pos h]

variable (base id state refusal) in
/-- In a message no reasoning is open. -/
theorem finishReasoning_inMessage :
    (inMessage base id state refusal).appendFinishReasoningIfOpen [] =
      inMessage base id state refusal := rfl

section

variable (hid : isValidOpenaiOpaqueId id = true) (hopen : state.ended = false)
  (hindex : state.providerOutputIndex = some position)

include hid hopen hindex

variable (base state refusal) in
/-- **A DELTA** goes to the text of its kind, unless that is complete. -/
theorem step_message_delta {piece : Bytes} (h : IsDelta kind.deltaType position id piece data) :
    ∃ message, step (inMessage base id state refusal) data = emitted
      (if isCompleted state kind then (inMessage base id state refusal).appendStreamError message
      else
        { inMessage base id (state.capture piece kind) (refusal || isRefusal kind) with
          events := (heard [piece]).map (Block.event (messageMetadata id state) .textDelta) }) := by
  have htarget := target_inMessage base refusal h.1 hid hopen hindex
  have happend := append_inMessage base id state refusal piece
  rw [step_record h.1.toIsRecord rfl rfl]
  cases kind with
  | outputText =>
    have hdelta : (firstStringField data ["delta", "text"]).getD [] = piece := by
      simp [firstStringField, h.2]
    refine ⟨"OpenAI message text emitted after completion", ?_⟩
    show emitted ((inMessage base id state refusal).outputTextDelta data) = _
    unfold outputTextDelta
    have hsame : ({ inMessage base id state refusal with sawContent := true }
        : OpenAIStreamParser).appendFinishReasoningIfOpen [] = inMessage base id state refusal := rfl
    dsimp only
    rw [hsame, htarget, hdelta]
    dsimp only
    rw [happend .outputText]
    simp [inMessage, isRefusal, isCompleted]
  | refusal =>
    refine ⟨"OpenAI message refusal emitted after completion", ?_⟩
    show emitted ((inMessage base id state refusal).refusalDelta data) = _
    unfold refusalDelta
    rw [finishReasoning_inMessage, htarget]
    dsimp only
    rw [h.2]
    dsimp only
    rw [happend .refusal]
    simp [inMessage, isRefusal, isCompleted]

/-- **THE COMPLETION** of a text that was streamed as it is. -/
theorem step_message_done (h : IsItemRecord kind.doneType position id data)
    (htext : stringField data kind.textMember = some text)
    (hincomplete : isCompleted state kind = false) (hcaptured : state.captured kind = text) :
    step (inMessage base id state refusal) data =
      ([], inMessage base id (completeText state kind) (refusal || isRefusal kind)) := by
  have htarget := target_inMessage base refusal h hid hopen hindex
  rw [step_record h.toIsRecord rfl rfl]
  cases kind with
  | outputText =>
    have htext : stringField data "text" = some text := htext
    show emitted ((inMessage base id state refusal).outputTextDone data) = _
    unfold outputTextDone
    rw [htarget]
    dsimp only
    rw [if_neg (by simpa [isCompleted] using hincomplete), if_neg (by simp [htext]),
      stringFieldOrEmpty, htext, Option.getD_some, reconcile_same hcaptured.symm]
    simp only [Bool.not_true, Bool.false_eq_true, if_false]
    rw [putMessage_inMessage]
    simp [emitted, inMessage, isRefusal, completeText]
  | refusal =>
    have htext : stringField data "refusal" = some text := htext
    show emitted ((inMessage base id state refusal).refusalDone data) = _
    unfold refusalDone
    rw [finishReasoning_inMessage, htarget]
    dsimp only
    rw [if_neg (by simpa [isCompleted] using hincomplete), htext]
    dsimp only
    rw [reconcile_same hcaptured.symm]
    simp only [Bool.not_true, Bool.false_eq_true, if_false]
    rw [putMessage_inMessage]
    simp [emitted, inMessage, isRefusal, completeText]

/-- A second completion is answered by an error. -/
theorem step_message_done_again (h : IsItemRecord kind.doneType position id data)
    (hcomplete : isCompleted state kind = true) :
    HasError (step (inMessage base id state refusal) data).1 := by
  have htarget := target_inMessage base refusal h hid hopen hindex
  rw [step_record h.toIsRecord rfl rfl]
  cases kind with
  | outputText =>
    show HasError (emitted ((inMessage base id state refusal).outputTextDone data)).1
    unfold outputTextDone
    rw [htarget]
    dsimp only
    rw [if_pos (by simpa [isCompleted] using hcomplete)]
    exact hasError_appendStreamError _ _
  | refusal =>
    show HasError (emitted ((inMessage base id state refusal).refusalDone data)).1
    unfold refusalDone
    rw [finishReasoning_inMessage, htarget]
    dsimp only
    rw [if_pos (by simpa [isCompleted] using hcomplete)]
    exact hasError_appendStreamError _ _

end

/-! ## §3. The parts of a message. -/

variable (id state) in
/-- What a piece leaves alone. -/
theorem capture_facts (text : Bytes) (kind other : MessageContentKind) :
    (state.capture text kind).ended = state.ended ∧
      (state.capture text kind).providerOutputIndex = state.providerOutputIndex ∧
      messageMetadata id (state.capture text kind) = messageMetadata id state ∧
      isCompleted (state.capture text kind) other = isCompleted state other := by
  cases kind with
  | outputText | refusal => cases other <;> exact ⟨rfl, rfl, rfl, rfl⟩

theorem not_completed (h : kind ∉ parts.map Prod.fst) :
    isCompleted (messageState position phase parts) kind = false := by
  cases kind with
  | outputText | refusal => simpa [isCompleted, messageState] using h

theorem is_completed (h : kind ∈ parts.map Prod.fst) :
    isCompleted (messageState position phase parts) kind = true := by
  cases kind with
  | outputText | refusal => simpa [isCompleted, messageState] using h

theorem textOf_of_not_mem (h : kind ∉ parts.map Prod.fst) : textOf kind parts = [] := by
  have hnone : (parts.filter fun part => part.1 = kind) = [] := by
    rw [List.filter_eq_nil_iff]
    intro part hpart
    simpa using fun heq => h (List.mem_map.mpr ⟨part, hpart, heq⟩)
  unfold textOf
  rw [hnone]
  rfl

/-- The state after a part of a new kind. -/
theorem complete_capture (text : Bytes) :
    completeText ((messageState position phase parts).capture text kind) kind =
      messageState position phase (parts ++ [(kind, text)]) := by
  unfold messageState
  simp only [textOf_append, List.map_append]
  cases kind with
  | outputText | refusal => simp [MessageItemState.capture, completeText, textOf]

theorem captured_capture (text : Bytes) :
    (state.capture text kind).captured kind = state.captured kind ++ text := by
  cases kind with
  | outputText | refusal => rfl

theorem captured_messageState :
    (messageState position phase parts).captured kind = textOf kind parts := by
  cases kind with
  | outputText | refusal => rfl

/-- The record that announces a part. -/
theorem step_part_added (h : IsRecord "response.content_part.added" data) :
    step (inMessage base id state refusal) data = ([], inMessage base id state refusal) := by
  rw [step_record h rfl rfl]
  rfl

theorem heard_append (pieces more : List Bytes) :
    heard (pieces ++ more) = heard pieces ++ heard more :=
  List.filter_append _ _

/-- Records that each add a piece to the text of an item, and tell it. -/
theorem rawRun_deltas {IsDelta : Bytes → Bytes → Prop} (note : Bytes → StreamEvent)
    (inItem : Bytes → Bool → OpenAIStreamParser)
    (hstep : ∀ {text seen piece data}, IsDelta piece data →
      step (inItem text seen) data = ((heard [piece]).map note, inItem (text ++ piece) true))
    {pieces deltas : List Bytes} (h : List.Forall₂ IsDelta pieces deltas) :
    ∀ text seen, rawRun step (inItem text seen) deltas =
      ((heard pieces).map note, inItem (text ++ pieces.flatten) (seen || !pieces.isEmpty)) := by
  induction h with
  | nil =>
    intro text seen
    simp [rawRun, heard]
  | @cons piece data pieces deltas hdelta _ ih =>
    intro text seen
    rw [rawRun, hstep hdelta]
    dsimp only
    rw [ih, List.flatten_cons, List.append_assoc, Bool.true_or, List.isEmpty_cons, Bool.not_false,
      Bool.or_true]
    refine Prod.ext ?_ rfl
    show _ = List.map _ (heard ([piece] ++ pieces))
    rw [heard_append, List.map_append]

/-- All deltas of a text. -/
theorem run_message_deltas {pieces deltas : List Bytes}
    (h : List.Forall₂ (IsDelta kind.deltaType position id) pieces deltas)
    (hid : isValidOpenaiOpaqueId id = true) (hopen : state.ended = false)
    (hindex : state.providerOutputIndex = some position) (hincomplete : isCompleted state kind = false) :
    rawRun step (inMessage base id state refusal) deltas =
      ((heard pieces).map (Block.event (messageMetadata id state) .textDelta),
        inMessage base id (state.capture pieces.flatten kind)
          (refusal || (isRefusal kind && !pieces.isEmpty))) := by
  have hrun := rawRun_deltas (Block.event (messageMetadata id state) .textDelta) (fun text seen =>
    inMessage base id (state.capture text kind) (refusal || (isRefusal kind && seen))) ?_ h [] false
  · rwa [capture_nil, Bool.and_false, Bool.or_false] at hrun
  · intro text seen piece data hdelta
    obtain ⟨hended, hindex', hmetadata, hcompleted⟩ := capture_facts id state text kind kind
    obtain ⟨message, hstep⟩ := step_message_delta base _ (refusal || (isRefusal kind && seen)) hid
      (hended.trans hopen) (hindex'.trans hindex) hdelta
    rw [hstep, if_neg (by rw [hcompleted, hincomplete]; exact Bool.false_ne_true), hmetadata,
      capture_capture]
    cases isRefusal kind <;> simp [emitted, inMessage]

variable (hid : isValidOpenaiOpaqueId id = true) {records : List Bytes}

include hid

variable (base refusal) in
/-- **A PART OF A NEW KIND.** -/
theorem run_message_part {part : MessageContentKind × List Bytes}
    (h : IsMessagePart position id part records) (phase : AssistantPhase)
    {before : List (MessageContentKind × Bytes)} (hnew : part.1 ∉ before.map Prod.fst) :
    rawRun step (inMessage base id (messageState position phase before) refusal) records =
      ((heard part.2).map (Block.event ⟨id, some position, phase⟩ .textDelta),
        inMessage base id (messageState position phase (before ++ [(part.1, part.2.flatten)]))
          (refusal || isRefusal part.1)) := by
  obtain ⟨added, rest, rfl, hadded, deltas, last, rfl, hdeltas, hlast, htext⟩ := h
  obtain ⟨hended, hindex, -, hcompleted⟩ :=
    capture_facts id (messageState position phase before) part.2.flatten part.1 part.1
  have hcaptured : ((messageState position phase before).capture part.2.flatten part.1).captured
      part.1 = part.2.flatten := by
    rw [captured_capture, captured_messageState, textOf_of_not_mem hnew, List.nil_append]
  rw [rawRun, step_part_added hadded]
  dsimp only
  rw [rawRun_append, run_message_deltas hdeltas hid rfl rfl (not_completed hnew)]
  dsimp only
  rw [rawRun, step_message_done hid hended hindex hlast htext
    (hcompleted.trans (not_completed hnew)) hcaptured, complete_capture]
  refine Prod.ext ?_ ?_
  · show [] ++ (_ ++ ([] ++ [])) = _
    simp only [List.nil_append, List.append_nil]
    rfl
  · show inMessage base id _ _ = inMessage base id _ _
    congr 1
    cases refusal <;> cases isRefusal part.1 <;> cases part.2.isEmpty <;> rfl

/-- A part of a kind that was completed before is answered by an error. -/
theorem run_message_part_again {part : MessageContentKind × List Bytes}
    (h : IsMessagePart position id part records)
    {before : List (MessageContentKind × Bytes)} (hagain : part.1 ∈ before.map Prod.fst) :
    HasError (rawRun step (inMessage base id (messageState position phase before) refusal) records).1 := by
  obtain ⟨kind, pieces⟩ := part
  obtain ⟨added, rest, rfl, hadded, deltas, last, rfl, hdeltas, hlast, -⟩ := h
  rw [rawRun, step_part_added hadded]
  apply HasError.right
  -- the first record after the announcement is a delta or the completion
  cases hdeltas with
  | nil =>
    apply HasError.left
    exact step_message_done_again hid rfl rfl hlast (is_completed hagain)
  | cons hdelta _ =>
    apply HasError.left
    obtain ⟨message, hstep⟩ := step_message_delta base (messageState position phase before) refusal
      hid rfl rfl hdelta
    rw [hstep, if_pos (is_completed hagain)]
    exact hasError_appendStreamError _ _

/-- The part with its whole text. -/
def wholePart (part : MessageContentKind × List Bytes) : MessageContentKind × Bytes :=
  (part.1, part.2.flatten)

/-- All parts of a message, when no two have one kind. -/
theorem run_message_parts {parts : List (MessageContentKind × List Bytes)}
    {partRecords : List (List Bytes)}
    (h : List.Forall₂ (IsMessagePart position id) parts partRecords) :
    ∀ (before : List (MessageContentKind × Bytes)) (refusal : Bool),
      ((before ++ parts.map wholePart).map Prod.fst).Nodup →
      rawRun step (inMessage base id (messageState position phase before) refusal) partRecords.flatten =
        ((heard (parts.flatMap Prod.snd)).map (Block.event ⟨id, some position, phase⟩ .textDelta),
          inMessage base id (messageState position phase (before ++ parts.map wholePart))
            (refusal || parts.any fun part => isRefusal part.1)) := by
  induction h with
  | nil =>
    intro before refusal _
    simp [rawRun, heard]
  | @cons part records parts partRecords hpart _ ih =>
    intro before refusal hnodup
    have hnew : part.1 ∉ before.map Prod.fst := by
      rw [List.map_append, List.nodup_append] at hnodup
      intro hmem
      exact hnodup.2.2 _ hmem part.1 (by simp [wholePart]) rfl
    have hrest := ih (before ++ [wholePart part]) (refusal || isRefusal part.1)
      (by rw [List.append_assoc]; exact hnodup)
    have hfirst := run_message_part base refusal hid hpart phase hnew
    rw [List.flatten_cons, rawRun_append, hfirst]
    dsimp only
    rw [show (part.1, part.2.flatten) = wholePart part from rfl, hrest, List.flatMap_cons, heard_append,
      List.map_append, List.append_assoc, List.map_cons, List.singleton_append, List.any_cons,
      Bool.or_assoc]

/-- Two parts of one kind are answered by an error. -/
theorem run_message_parts_again {parts : List (MessageContentKind × List Bytes)}
    {partRecords : List (List Bytes)}
    (h : List.Forall₂ (IsMessagePart position id) parts partRecords) :
    ∀ (before : List (MessageContentKind × Bytes)) (refusal : Bool), (before.map Prod.fst).Nodup →
      ¬ ((before ++ parts.map wholePart).map Prod.fst).Nodup →
      HasError (rawRun step (inMessage base id (messageState position phase before) refusal)
        partRecords.flatten).1 := by
  induction h with
  | nil =>
    intro before refusal hbefore hdup
    rw [List.map_nil, List.append_nil] at hdup
    exact absurd hbefore hdup
  | @cons part records parts partRecords hpart _ ih =>
    intro before refusal hbefore hdup
    rw [List.flatten_cons, rawRun_append]
    by_cases hagain : part.1 ∈ before.map Prod.fst
    · apply HasError.left
      exact run_message_part_again hid hpart hagain
    · apply HasError.right
      have hfirst := run_message_part base refusal hid hpart phase hagain
      rw [hfirst]
      apply ih (before ++ [wholePart part])
      · rw [List.map_append, List.map_singleton, List.nodup_append]
        refine ⟨hbefore, List.nodup_singleton _, ?_⟩
        intro kind hkind other hother heq
        rw [List.mem_singleton] at hother
        exact hagain (by rw [heq, hother] at hkind; exact hkind)
      · rw [List.append_assoc]
        exact hdup

/-! ## §4. The whole message. -/

omit hid in
/-- An empty message is opened. -/
theorem addMessage_eq {q : OpenAIStreamParser} (hlookup : List.lookup id q.messageItems = none)
    (hcontent : completedMessageContentFromItem text = .ok (some ([], []))) :
    q.addDocumentedMessageOutputItem text id (some position) phase =
      (q.putMessage id (messageState position phase [])).push
        (Block.event ⟨id, some position, phase⟩ .textStart []) := by
  unfold addDocumentedMessageOutputItem
  rw [hcontent]
  dsimp only
  rw [if_neg (by simp [hlookup])]
  rfl

variable {ids callIds : List Bytes}

/-- The addition of a message. -/
theorem step_message_added (hp : Between ids callIds position refusal p) (hfresh : id ∉ ids)
    (h : IsOutputItemRecord "response.output_item.added" position (.message id phase []) text data) :
    step p data =
      ([Block.event ⟨id, some position, phase⟩ .textStart []],
        inMessage (registered p "message" id position) id (messageState position phase []) refusal) := by
  have hlookup : List.lookup id p.messageItems = none :=
    Table.lookup_eq_none fun entry hentry heq => hfresh (heq ▸ (hp.messages entry hentry).1)
  rw [step_item_added h hid hp hfresh]
  show emitted ((registered p "message" id position).addDocumentedMessageOutputItem text id
    (some position) phase) = _
  rw [addMessage_eq (by exact hlookup) (completedMessageContent_eq h.reads (by simp))]
  simp [putMessage, push, emitted, inMessage, registered, hp.events, hp.running, hp.closed, hp.refusal]

/-- The completion of a message whose text was streamed as it is. -/
theorem step_message_completed (hcount : parts.length ≤ kMaxProviderParserArrayItems)
    (hitem : IsRegistered base "message" id position)
    (hrefusal : textOf .refusal parts ≠ [] → refusal = true)
    (h : IsOutputItemRecord "response.output_item.done" position (.message id phase parts) text data) :
    step (inMessage base id (messageState position phase parts) refusal) data =
      ([Block.event ⟨id, some position, phase⟩ .textEnd []],
        inMessage base id { messageState position phase parts with ended := true } refusal) := by
  have hlookup : List.lookup id
      (inMessage base id (messageState position phase parts) refusal).messageItems =
      some (messageState position phase parts) := Table.lookup_set_self id _ base.messageItems
  rw [step_item_done (p := inMessage base id (messageState position phase parts) refusal) h hid rfl rfl
    rfl ⟨hitem.type, hitem.index⟩]
  show emitted (completeDocumentedMessageOutputItem _ text id (some position) phase) = _
  unfold completeDocumentedMessageOutputItem
  rw [hlookup]
  dsimp only
  have hphase : (if (messageState position phase parts).phase = .unknown ∧ phase ≠ .unknown then
      { messageState position phase parts with phase := phase } else messageState position phase parts) =
      messageState position phase parts := by
    rw [if_neg]
    rintro ⟨hunknown, hknown⟩
    exact hknown hunknown
  rw [if_neg (by exact Bool.false_ne_true), if_neg (by simp [messageState]), hphase,
    putMessage_inMessage, completedMessageContent_eq h.reads hcount]
  dsimp only
  have hagrees : ∀ kind, (inMessage base id (messageState position phase parts)
      refusal).reconcileCompleteMessageText id (messageState position phase parts) (textOf kind parts)
      kind =
      (true, messageState position phase parts,
        inMessage base id (messageState position phase parts) refusal) :=
    fun kind => reconcile_same captured_messageState.symm
  rw [hagrees .outputText]
  simp only [Bool.not_true, Bool.false_eq_true, if_false]
  rw [hagrees .refusal]
  simp only [Bool.not_true, Bool.false_eq_true, if_false]
  have hsaw : (if (textOf .refusal parts).isEmpty then
      inMessage base id (messageState position phase parts) refusal
      else { inMessage base id (messageState position phase parts) refusal with sawRefusal := true }) =
      inMessage base id (messageState position phase parts) refusal := by
    by_cases hempty : (textOf .refusal parts).isEmpty = true
    · rw [if_pos hempty]
    · rw [if_neg hempty]
      have htrue := hrefusal (by simpa using hempty)
      rw [htrue]
      rfl
  rw [hsaw]
  unfold endDocumentedMessage
  rw [putMessage_inMessage]
  rfl

omit hid in
/-- After a message the parser is between two items again. -/
theorem between_after_message {r : Bool} (hp : Between ids callIds position r p)
    (hended : state.ended = true) :
    Between (ids ++ [id]) callIds (position + 1) refusal
      (inMessage (registered p "message" id position) id state refusal) where
  __ := hp.registered "message"
  events := rfl
  running := rfl
  closed := rfl
  refusal := rfl
  messages := by
    apply Table.forall_mem_set
    · exact ⟨List.mem_append_right _ (List.mem_singleton_self _), hended⟩
    · exact (hp.registered "message").messages

/-- The events of a streamed message. -/
def messageBlock (position : Nat) (id : Bytes) (phase : AssistantPhase)
    (parts : List (MessageContentKind × List Bytes)) : Block :=
  .text ⟨id, some position, phase⟩ (heard (parts.flatMap Prod.snd))

/-- **A MESSAGE** with at most one text of each kind. -/
theorem run_message {parts : List (MessageContentKind × List Bytes)}
    (hp : Between ids callIds position refusal p) (hfresh : id ∉ ids)
    (hcount : parts.length ≤ kMaxProviderParserArrayItems)
    (h : (StreamedItem.message id phase parts).Records position records)
    (hkinds : (parts.map Prod.fst).Nodup) :
    ∃ p', rawRun step p records = ((messageBlock position id phase parts).events, p') ∧
      Between (ids ++ [id]) callIds (position + 1) (refusal || parts.any fun part => isRefusal part.1)
        p' := by
  obtain ⟨added, body, done, rfl, ⟨addedText, hadded⟩, ⟨partRecords, hparts, rfl⟩, doneText, hdone, -⟩ := h
  have hwhole : (parts.map fun part => (part.1, part.2.flatten)) = parts.map wholePart := rfl
  have hadded' : IsOutputItemRecord "response.output_item.added" position (.message id phase [])
      addedText added := hadded
  have hdone' : IsOutputItemRecord "response.output_item.done" position
      (.message id phase (parts.map wholePart)) doneText done := hdone
  have hfst : (parts.map wholePart).map Prod.fst = parts.map Prod.fst := by
    rw [List.map_map]
    rfl
  have hrefusal : textOf .refusal (parts.map wholePart) ≠ [] →
      (refusal || parts.any fun part => isRefusal part.1) = true := by
    intro htext
    have hmem : MessageContentKind.refusal ∈ (parts.map wholePart).map Prod.fst := by
      by_contra hnone
      exact htext (textOf_of_not_mem hnone)
    rw [hfst, List.mem_map] at hmem
    obtain ⟨part, hpart, hkind⟩ := hmem
    rw [Bool.or_eq_true]
    right
    rw [List.any_eq_true]
    exact ⟨part, hpart, by rw [hkind]; rfl⟩
  refine ⟨inMessage (registered p "message" id position) id
    { messageState position phase (parts.map wholePart) with ended := true }
    (refusal || parts.any fun part => isRefusal part.1), ?_, between_after_message hp rfl⟩
  rw [rawRun, step_message_added hid hp hfresh hadded']
  dsimp only
  rw [rawRun_append, run_message_parts hid hparts [] refusal (by rw [List.nil_append, hfst]; exact hkinds)]
  dsimp only
  rw [List.nil_append, rawRun, step_message_completed hid (by simpa using hcount)
    isRegistered_registered hrefusal hdone']
  simp [rawRun, messageBlock, Block.events]

/-- A message with two texts of one kind is answered by an error. -/
theorem run_message_again {parts : List (MessageContentKind × List Bytes)}
    (hp : Between ids callIds position refusal p) (hfresh : id ∉ ids)
    (h : (StreamedItem.message id phase parts).Records position records)
    (hkinds : ¬ (parts.map Prod.fst).Nodup) : HasError (rawRun step p records).1 := by
  obtain ⟨added, body, done, rfl, ⟨addedText, hadded⟩, ⟨partRecords, hparts, rfl⟩, -⟩ := h
  have hadded' : IsOutputItemRecord "response.output_item.added" position (.message id phase [])
      addedText added := hadded
  have hfst : (parts.map wholePart).map Prod.fst = parts.map Prod.fst := by
    rw [List.map_map]
    rfl
  rw [rawRun, step_message_added hid hp hfresh hadded', rawRun_append]
  apply HasError.right
  apply HasError.left
  exact run_message_parts_again hid hparts [] refusal List.nodup_nil
    (by rw [List.nil_append, hfst]; exact hkinds)

end Message

end Ava.Agent
