/-
  Ava.Agent.StreamedCall
  **THE STREAMING PARSER ON THE FUNCTION CALLS OF A DOCUMENTED STREAM.**

    - §1 `inCall` : the records about a call that is open;
    - §2 `run_call` : the whole call.
-/
import Ava.Agent.StreamedReasoning

namespace Ava.Agent

open Ava.Core Ava.Core.Json Ava.Provider Ava.Provider.OpenAIStreamParser
open Ava.Lib (Table)
open Ava.Session (isValidOpenaiOpaqueId)

/-! ## §1. Inside a function call. -/

/-- The state of a call that has been started, all of its arguments emitted. -/
def callState (position : Nat) (id callId name arguments : Bytes) : FunctionCallState where
  providerItemId := id
  providerOutputIndex := some position
  logicalCallId := callId
  name := name
  arguments := arguments
  emittedArgumentBytes := arguments.length
  started := true

/-- The parser inside a function call. -/
def inCall (base : OpenAIStreamParser) (id callId : Bytes) (call : FunctionCallState) :
    OpenAIStreamParser :=
  { base with
    events := []
    sawContent := true
    doneSeen := false
    reasoningOpen := false
    functionCalls := base.functionCalls.set id call
    functionCallItemIdsByLogicalId := base.functionCallItemIdsByLogicalId.set callId id }

/-- An event of a function call. -/
def callNote (position : Nat) (id callId : Bytes) (type : StreamEventType) (toolName text : Bytes) :
    StreamEvent :=
  Block.callEvent ⟨id, some position, .unknown⟩ callId type toolName text

section Call

variable {base : OpenAIStreamParser} {id callId name arguments data : Bytes} {position : Nat}
  {call : FunctionCallState}

theorem getCall_inCall : (inCall base id callId call).getCall (.documented id) = call := by
  have hlookup : List.lookup id (inCall base id callId call).functionCalls = some call :=
    Table.lookup_set_self id call base.functionCalls
  unfold getCall
  dsimp only
  rw [hlookup]
  rfl

theorem putCall_inCall (next : FunctionCallState) :
    (inCall base id callId call).putCall next (.documented id) = inCall base id callId next := by
  unfold putCall inCall
  simp only [Table.set_set]

/-- An arguments record about the call that is open. -/
theorem functionCall_inCall {type : String} (h : IsItemRecord type position id data)
    (hid : isValidOpenaiOpaqueId id = true) (hnames : NamesCall name data) :
    (inCall base id callId (callState position id callId name arguments)).functionCallForArguments data =
      (some (some (.documented id)),
        inCall base id callId (callState position id callId name arguments)) := by
  obtain ⟨hcallId, hname⟩ := hnames
  have hfield := hasField_of_stringField h.itemId
  have hother := stringField_of_noField h.noOtherId
  have hlookup : List.lookup id
      (inCall base id callId (callState position id callId name arguments)).functionCalls =
      some (callState position id callId name arguments) := Table.lookup_set_self id _ base.functionCalls
  have hnamed : (inCall base id callId (callState position id callId name arguments)).namedFunctionCall
      data = .ok id := by
    unfold namedFunctionCall
    simp [hfield, h.noOtherId, h.itemId, hother, hid, hlookup, hcallId]
  have hsameName : (hasField data "name" && stringField data "name" != some name) = false := by
    rcases hname with hname | hname
    · simp [hname]
    · simp [hname]
  unfold functionCallForArguments hasDocumentedFunctionCallMapping
  rw [hfield]
  simp only [Bool.true_or, if_true]
  unfold documentedFunctionCallStateForEvent
  rw [hnamed]
  dsimp only
  rw [getCall_inCall, itemIndex_eq h, stringField_of_noField hcallId]
  simp [callState, hsameName]

theorem hasMapping {type : String} (h : IsItemRecord type position id data) (p : OpenAIStreamParser) :
    p.hasDocumentedFunctionCallMapping data = true := by
  unfold hasDocumentedFunctionCallMapping
  simp [hasField_of_stringField h.itemId]

/-- A piece of the arguments of a started call. -/
theorem append_inCall (piece : Bytes) :
    (inCall base id callId (callState position id callId name arguments)).appendFunctionCallArgumentFragment
      (callState position id callId name arguments) piece =
      (callState position id callId name (arguments ++ piece),
        { inCall base id callId (callState position id callId name arguments) with
          events := (heard [piece]).map (callNote position id callId .toolCallDelta []) }) := by
  unfold appendFunctionCallArgumentFragment
  cases piece with
  | nil => simp [heard, inCall]
  | cons c piece =>
    simp only [List.isEmpty_cons, Bool.false_eq_true, if_false]
    unfold startAndEmit appendFunctionCallStartIfReady appendUnemittedFunctionCallArguments
    simp [callState, push, inCall, heard, callNote, Block.callEvent, Block.event, callEvent]

/-- **A DELTA** of the arguments. -/
theorem step_arguments_delta {piece : Bytes}
    (h : IsDelta "response.function_call_arguments.delta" position id piece data)
    (hid : isValidOpenaiOpaqueId id = true) (hnames : NamesCall name data) :
    step (inCall base id callId (callState position id callId name arguments)) data =
      ((heard [piece]).map (callNote position id callId .toolCallDelta []),
        inCall base id callId (callState position id callId name (arguments ++ piece))) := by
  rw [step_record h.1.toIsRecord rfl rfl]
  show emitted ((inCall base id callId (callState position id callId name arguments)).argumentsDelta data)
    = _
  unfold argumentsDelta
  have hsame : ({ inCall base id callId (callState position id callId name arguments) with
      sawContent := true } : OpenAIStreamParser).appendFinishReasoningIfOpen [] =
      inCall base id callId (callState position id callId name arguments) := rfl
  dsimp only
  rw [hsame, functionCall_inCall h.1 hid hnames, hasMapping h.1, h.2]
  dsimp only
  rw [if_neg (by simp), Option.getD_some, getCall_inCall, append_inCall]
  simp [putCall, emitted, inCall, Table.set_set]

variable {p : OpenAIStreamParser}

theorem startAndEmit_started :
    p.startAndEmit (callState position id callId name arguments) =
      (callState position id callId name arguments, p) := by
  unfold startAndEmit appendFunctionCallStartIfReady appendUnemittedFunctionCallArguments
  simp [callState]

theorem reconcile_arguments :
    p.reconcileCompleteFunctionCallArguments (callState position id callId name arguments)
      (some arguments) = (true, callState position id callId name arguments, p) := by
  unfold reconcileCompleteFunctionCallArguments
  dsimp only
  rw [if_pos (by rfl)]

/-- **THE COMPLETION** of the arguments. -/
theorem step_arguments_done (h : IsItemRecord "response.function_call_arguments.done" position id data)
    (hid : isValidOpenaiOpaqueId id = true) (hnames : NamesCall name data)
    (harguments : stringField data "arguments" = some arguments)
    (hobject : isValidObject arguments = true) :
    step (inCall base id callId (callState position id callId name arguments)) data =
      ([], inCall base id callId (callState position id callId name arguments)) := by
  rw [step_record h.toIsRecord rfl rfl]
  show emitted ((inCall base id callId (callState position id callId name arguments)).argumentsDone data)
    = _
  unfold argumentsDone
  dsimp only
  rw [functionCall_inCall h hid hnames, hasMapping h, harguments]
  dsimp only
  rw [if_neg (by simp [hobject]), getCall_inCall, reconcile_arguments]
  simp only [Bool.not_true, Bool.false_eq_true, if_false]
  rw [startAndEmit_started]
  dsimp only
  rw [putCall_inCall]
  rfl

/-! ## §2. The whole call. -/

variable {text : Bytes}

/-- The identifiers of a call that the parser takes. -/
structure ValidCall (id callId name : Bytes) : Prop where
  id : isValidOpenaiOpaqueId id = true
  callId : isValidOpenaiOpaqueId callId = true
  name : isValidOpenaiOpaqueId name = true

/-- A new call is bound to its item. -/
theorem bind_new (hreads : IsItemText position (.functionCall id callId name arguments) text)
    (hvalid : ValidCall id callId name) (hcall : List.lookup id p.functionCalls = none)
    (hlogical : List.lookup callId p.functionCallItemIdsByLogicalId = none) :
    p.bindDocumentedFunctionCallItem text (some position) =
      (some id,
        { p with
          functionCalls := p.functionCalls.set id
            { providerItemId := id
              providerOutputIndex := some position
              logicalCallId := callId
              name := name }
          functionCallItemIdsByLogicalId := p.functionCallItemIdsByLogicalId.set callId id }) := by
  obtain ⟨hcallField, hnameField, hargumentsField⟩ := hreads.content
  have hidField : stringField text "id" = some id := hreads.id
  unfold bindDocumentedFunctionCallItem
  rw [hidField, hcallField, hnameField, hargumentsField]
  simp [hvalid.id, hvalid.callId, hvalid.name, hcall, hlogical, putCall]

/-- The call of an item that is bound. -/
theorem bind_inCall (hreads : IsItemText position (.functionCall id callId name arguments) text)
    (hvalid : ValidCall id callId name) (streamed : Bytes) :
    (inCall base id callId (callState position id callId name streamed)).bindDocumentedFunctionCallItem
      text (some position) =
      (some id, inCall base id callId (callState position id callId name streamed)) := by
  obtain ⟨hcallField, hnameField, hargumentsField⟩ := hreads.content
  have hidField : stringField text "id" = some id := hreads.id
  have hlookup : List.lookup id
      (inCall base id callId (callState position id callId name streamed)).functionCalls =
      some (callState position id callId name streamed) := Table.lookup_set_self id _ base.functionCalls
  unfold bindDocumentedFunctionCallItem
  rw [hidField, hcallField, hnameField, hargumentsField]
  dsimp only
  rw [if_neg (by simp [hvalid.id, hvalid.callId, hvalid.name]), hlookup]
  simp [callState]

variable {ids callIds : List Bytes} {refusal : Bool}

/-- The addition of a function call. -/
theorem step_call_added (hp : Between ids callIds position refusal p) (hfresh : id ∉ ids)
    (hnew : callId ∉ callIds) (hvalid : ValidCall id callId name)
    (h : IsOutputItemRecord "response.output_item.added" position (.functionCall id callId name []) text
      data) :
    step p data =
      ([callNote position id callId .toolCallStart name []],
        inCall (registered p "function_call" id position) id callId
          (callState position id callId name [])) := by
  have hcall : List.lookup id (registered p "function_call" id position).functionCalls = none :=
    Table.lookup_eq_none fun entry hentry heq => hfresh (heq ▸ (hp.calls entry hentry).1)
  have hlogical : List.lookup callId
      (registered p "function_call" id position).functionCallItemIdsByLogicalId = none :=
    Table.lookup_eq_none fun entry hentry heq => hnew (heq ▸ hp.logical entry hentry)
  have harguments : functionCallArgumentsFromEvent data (some text) = some [] := by
    unfold functionCallArgumentsFromEvent
    simp [h.reads.content.2.2]
  have hclosed : (registered p "function_call" id position).appendFinishReasoningIfOpen [] =
      registered p "function_call" id position := by
    unfold appendFinishReasoningIfOpen
    rw [if_pos (by simp [registered, hp.closed])]
  have hlogicalNonempty : callId ≠ [] := by
    rintro rfl
    exact absurd hvalid.callId (by decide)
  have hnameNonempty : name ≠ [] := by
    rintro rfl
    exact absurd hvalid.name (by decide)
  rw [step_item_added h hvalid.id hp hfresh]
  show emitted ((registered p "function_call" id position).handleDocumentedFunctionCallOutputItem data
    text (some position) .added) = _
  unfold handleDocumentedFunctionCallOutputItem
  dsimp only
  rw [hclosed, bind_new h.reads hvalid hcall hlogical, harguments]
  simp [appendFunctionCallArgumentFragment, startAndEmit, appendFunctionCallStartIfReady,
    appendUnemittedFunctionCallArguments, getCall, putCall, push, emitted, inCall, callState,
    registered, hlogicalNonempty, hnameNonempty, hp.events, hp.running, hp.closed, Table.set_set,
    callNote, Block.callEvent, Block.event, callEvent]

/-- The completion of a function call whose arguments were streamed as they are. -/
theorem step_call_completed (hvalid : ValidCall id callId name)
    (hobject : isValidObject arguments = true)
    (hitem : IsRegistered base "function_call" id position)
    (h : IsOutputItemRecord "response.output_item.done" position
      (.functionCall id callId name arguments) text data) :
    step (inCall base id callId (callState position id callId name arguments)) data =
      ([callNote position id callId .toolCallEnd [] []],
        inCall base id callId { callState position id callId name arguments with ended := true }) := by
  have hclosed : (inCall base id callId
      (callState position id callId name arguments)).appendFinishReasoningIfOpen [] =
      inCall base id callId (callState position id callId name arguments) := rfl
  rw [step_item_done (p := inCall base id callId (callState position id callId name arguments)) h
    hvalid.id rfl rfl rfl ⟨hitem.type, hitem.index⟩]
  show emitted ((inCall base id callId
    (callState position id callId name arguments)).handleDocumentedFunctionCallOutputItem data text
    (some position) .done) = _
  unfold handleDocumentedFunctionCallOutputItem
  dsimp only
  rw [hclosed, h.reads.content.2.2]
  dsimp only
  rw [if_neg (by simp [hobject]), bind_inCall h.reads hvalid]
  dsimp only
  rw [getCall_inCall, if_neg (by simp [callState]), reconcile_arguments]
  simp [appendFunctionCallEnd, callState, push, putCall, emitted, inCall, Table.set_set, callNote,
    Block.callEvent, Block.event, callEvent]

/-- After a function call the parser is between two items again. -/
theorem between_after_call (hp : Between ids callIds position refusal p)
    (hended : call.ended = true) :
    Between (ids ++ [id]) (callIds ++ [callId]) (position + 1) refusal
      (inCall (registered p "function_call" id position) id callId call) where
  __ := hp.registered "function_call"
  events := rfl
  running := rfl
  closed := rfl
  calls := by
    apply Table.forall_mem_set
    · exact ⟨List.mem_append_right _ (List.mem_singleton_self _), hended⟩
    · exact (hp.registered "function_call").calls
  logical := by
    apply Table.forall_mem_set
    · exact List.mem_append_right _ (List.mem_singleton_self _)
    · intro entry hentry
      exact List.mem_append_left _ (hp.logical entry hentry)

/-- The events of a streamed function call. -/
def callBlock (position : Nat) (id callId name : Bytes) (pieces : List Bytes) : Block :=
  .functionCall ⟨id, some position, .unknown⟩ callId name (heard pieces)

/-- **A FUNCTION CALL.** -/
theorem run_call {pieces records : List Bytes} (hp : Between ids callIds position refusal p)
    (hfresh : id ∉ ids) (hnew : callId ∉ callIds) (hvalid : ValidCall id callId name)
    (hobject : isValidObject pieces.flatten = true)
    (h : (StreamedItem.functionCall id callId name pieces).Records position records) :
    ∃ p', rawRun step p records = ((callBlock position id callId name pieces).events, p') ∧
      Between (ids ++ [id]) (callIds ++ [callId]) (position + 1) refusal p' := by
  obtain ⟨added, body, done, rfl, ⟨addedText, hadded⟩, ⟨deltas, last, rfl, hdeltas, hlast, hnames,
    harguments⟩, doneText, hdone, -⟩ := h
  have hadded' : IsOutputItemRecord "response.output_item.added" position
      (.functionCall id callId name []) addedText added := hadded
  have hdone' : IsOutputItemRecord "response.output_item.done" position
      (.functionCall id callId name pieces.flatten) doneText done := hdone
  have hbody := rawRun_deltas _ (fun text _ => inCall (registered p "function_call" id position) id
    callId (callState position id callId name text))
    (fun hdelta => step_arguments_delta hdelta.1 hvalid.id hdelta.2) hdeltas [] false
  rw [List.nil_append] at hbody
  refine ⟨inCall (registered p "function_call" id position) id callId
    { callState position id callId name pieces.flatten with ended := true }, ?_,
    between_after_call hp rfl⟩
  rw [rawRun, step_call_added hp hfresh hnew hvalid hadded']
  dsimp only
  rw [rawRun_append, rawRun_append, hbody]
  dsimp only
  rw [rawRun, step_arguments_done hlast hvalid.id hnames harguments hobject]
  dsimp only
  rw [rawRun]
  dsimp only
  rw [rawRun, step_call_completed hvalid hobject isRegistered_registered hdone']
  simp [rawRun, callBlock, Block.events, callNote]

end Call

end Ava.Agent
