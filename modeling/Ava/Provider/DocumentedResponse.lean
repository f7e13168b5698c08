/-
  Ava.Provider.DocumentedResponse
  **THE TWO FORMS OF A RESPONSE** of the Responses API, as their documentation has them.

  A response is a list of output items.  Buffered, it is one JSON object with an array of items.
  Streamed, it is a sequence of records: each item is added empty, its parts are added, sent in
  deltas and completed one after the other, the item is completed in full, and the response ends.
  Both forms are described by what the readers of `core/json.cpp` find in the texts, so that the
  order of members, white space and further members are free.

    - §1 `OutputItem` : the items;
    - §2 `IsItemText` : the JSON text of an item;
    - §3 `IsResponse` : the buffered form;
    - §4 `StreamedItem`, `IsStream` : the streamed form;
    - §5 what the parsers read in these texts.
-/
import Ava.Provider.OpenAIStream

namespace Ava.Provider

open Ava.Core Ava.Core.Json
open Ava.Session (isValidOpenaiOpaqueId)
open OpenAIStreamParser

/-! ## §1. Output items. -/

/-- An output item. -/
inductive OutputItem where
  | message (id : Bytes) (phase : AssistantPhase) (parts : List (MessageContentKind × Bytes))
  | reasoning (id : Bytes) (parts : List Bytes)
  | functionCall (id callId name arguments : Bytes)

namespace OutputItem

def id : OutputItem → Bytes
  | .message id _ _ => id
  | .reasoning id _ => id
  | .functionCall id _ _ _ => id

/-- The value of the member `type`. -/
def typeName : OutputItem → String
  | .message _ _ _ => "message"
  | .reasoning _ _ => "reasoning"
  | .functionCall _ _ _ _ => "function_call"

def callId? : OutputItem → Option Bytes
  | .functionCall _ callId _ _ => some callId
  | _ => none

/-- The parts that the parsers count. -/
def partCount : OutputItem → Nat
  | .message _ _ parts => parts.length
  | .reasoning _ parts => parts.length
  | .functionCall _ _ _ _ => 0

/-- The item when it is added to a stream. -/
def opened : OutputItem → OutputItem
  | .message id phase _ => .message id phase []
  | .reasoning id _ => .reasoning id []
  | .functionCall id callId name _ => .functionCall id callId name []

/-- Bounded identities, and arguments that are a JSON object. -/
def Bounded : OutputItem → Prop
  | .message id _ _ => isValidOpenaiOpaqueId id = true
  | .reasoning id _ => isValidOpenaiOpaqueId id = true
  | .functionCall id callId name arguments =>
    isValidOpenaiOpaqueId id = true ∧ isValidOpenaiOpaqueId callId = true ∧
      isValidOpenaiOpaqueId name = true ∧ isValidObject arguments = true

end OutputItem

/-- The items of a response: bounded, with distinct identities. -/
structure WellFormed (items : List OutputItem) : Prop where
  bounded : ∀ item ∈ items, item.Bounded
  distinctIds : (items.map OutputItem.id).Nodup
  distinctCalls : (items.filterMap OutputItem.callId?).Nodup

/-! ## §2. The text of an item. -/

/-- The phase as it is written: an unknown one is left out or null. -/
def AssistantPhase.written (phase : AssistantPhase) : Option AssistantPhase :=
  if phase = .unknown then none else some phase

/-- The members of an item that are its own. -/
def OutputItem.HasContent : OutputItem → Bytes → Prop
  | .message _ phase parts, text =>
    phaseField text = .ok phase.written ∧
      ∃ contents, strictObjectsInArrayField text "content" = some contents ∧
        contents.map contentPart = parts.map .ok
  | .reasoning _ parts, text =>
    (∃ summaries, strictObjectsInArrayField text "summary" = some summaries ∧
        summaries.map (fun summary => stringField summary "text") = parts.map some) ∧
      ∀ key ∈ ["summary_text", "text", "part", "item"], hasField text key = false
  | .functionCall _ callId name arguments, text =>
    stringField text "call_id" = some callId ∧ stringField text "name" = some name ∧
      stringField text "arguments" = some arguments

/-- The text of the item at a position of the output; it may repeat the position. -/
structure IsItemText (position : Nat) (item : OutputItem) (text : Bytes) : Prop where
  type : stringField text "type" = some (ascii item.typeName)
  id : stringField text "id" = some item.id
  index : outputIndexField text = .ok none ∨ outputIndexField text = .ok (some position)
  content : item.HasContent text

/-! ## §3. The buffered form. -/

/-- The texts of the items from a position on. -/
inductive ItemTexts : Nat → List OutputItem → List Bytes → Prop
  | nil {position : Nat} : ItemTexts position [] []
  | cons {position : Nat} {item : OutputItem} {items : List OutputItem} {text : Bytes}
      {texts : List Bytes} (head : IsItemText position item text)
      (tail : ItemTexts (position + 1) items texts) :
      ItemTexts position (item :: items) (text :: texts)

/-- A completed response with the given items, whose texts are given too. -/
structure IsResponse (items : List OutputItem) (texts : List Bytes) (body : Bytes) : Prop where
  valid : isValidObject body = true
  status : stringField body "status" = some (ascii "completed")
  notIncomplete : incompleteReason body = none
  notNested : objectField body "response" = none
  noTopLevelText : firstStringField body ["output_text", "text"] = none
  output : strictObjectsInArrayField body "output" = some texts
  items : ItemTexts 0 items texts

/-! ## §4. The streamed form. -/

/-- An output item as it is streamed: every text in the pieces of its deltas.  A reasoning item has
    the text it is completed with, too. -/
inductive StreamedItem where
  | message (id : Bytes) (phase : AssistantPhase) (parts : List (MessageContentKind × List Bytes))
  | reasoning (id : Bytes) (parts : List (List Bytes)) (native : Bytes)
  | functionCall (id callId name : Bytes) (pieces : List Bytes)

/-- The item that is streamed. -/
def StreamedItem.item : StreamedItem → OutputItem
  | .message id phase parts => .message id phase (parts.map fun part => (part.1, part.2.flatten))
  | .reasoning id parts _ => .reasoning id (parts.map List.flatten)
  | .functionCall id callId name pieces => .functionCall id callId name pieces.flatten

/-- A record of a type. -/
structure IsRecord (type : String) (data : Bytes) : Prop where
  valid : isValidObject data = true
  type : stringField data "type" = some (ascii type)

/-- A record about a part of the item at a position. -/
structure IsItemRecord (type : String) (position : Nat) (id data : Bytes) : Prop
    extends IsRecord type data where
  itemId : stringField data "item_id" = some id
  noOtherId : hasField data "output_item_id" = false
  index : outputIndexField data = .ok (some position)
  noPhase : hasField data "phase" = false

/-- A record with a whole item. -/
structure IsOutputItemRecord (type : String) (position : Nat) (item : OutputItem)
    (text data : Bytes) : Prop extends IsRecord type data where
  carries : objectField data "item" = some text
  reads : IsItemText position item text
  index : outputIndexField data = .ok (some position)
  noPhase : hasField data "phase" = false

/-- The records of a text: its deltas, and the completion that repeats it. -/
def IsTextRecords (delta : Bytes → Bytes → Prop) (done : Bytes → Bytes → Prop) (pieces : List Bytes)
    (records : List Bytes) : Prop :=
  ∃ deltas last, records = deltas ++ [last] ∧ List.Forall₂ delta pieces deltas ∧
    done pieces.flatten last

def MessageContentKind.deltaType : MessageContentKind → String
  | .outputText => "response.output_text.delta"
  | .refusal => "response.refusal.delta"

def MessageContentKind.doneType : MessageContentKind → String
  | .outputText => "response.output_text.done"
  | .refusal => "response.refusal.done"

/-- The member of the completion that holds the text. -/
def MessageContentKind.textMember : MessageContentKind → String
  | .outputText => "text"
  | .refusal => "refusal"

/-- A delta with its piece. -/
def IsDelta (type : String) (position : Nat) (id piece data : Bytes) : Prop :=
  IsItemRecord type position id data ∧ stringField data "delta" = some piece

/-- The records of one part of a message. -/
def IsMessagePart (position : Nat) (id : Bytes) (part : MessageContentKind × List Bytes)
    (records : List Bytes) : Prop :=
  ∃ added rest, records = added :: rest ∧ IsRecord "response.content_part.added" added ∧
    IsTextRecords (IsDelta part.1.deltaType position id)
      (fun text data => IsItemRecord part.1.doneType position id data ∧
        stringField data part.1.textMember = some text) part.2 rest

/-- The completion of a summary part: of its text, or of the part. -/
def IsSummaryDone (position : Nat) (id text data : Bytes) : Prop :=
  (IsItemRecord "response.reasoning_summary_text.done" position id data ∧
      stringField data "text" = some text ∧
      ∀ key ∈ ["summary_text", "summary", "part", "item"], hasField data key = false) ∨
    (IsItemRecord "response.reasoning_summary_part.done" position id data ∧
      (∃ part, objectField data "part" = some part ∧ stringField part "text" = some text) ∧
      ∀ key ∈ ["summary_text", "text", "summary", "item"], hasField data key = false)

/-- The records of one summary part of a reasoning item. -/
def IsSummaryPart (position : Nat) (id : Bytes) (pieces : List Bytes) (records : List Bytes) : Prop :=
  ∃ added rest, records = added :: rest ∧
    IsItemRecord "response.reasoning_summary_part.added" position id added ∧
    IsTextRecords (IsDelta "response.reasoning_summary_text.delta" position id)
      (IsSummaryDone position id) pieces rest

/-- What an arguments record says about its call besides the item. -/
def NamesCall (name data : Bytes) : Prop :=
  hasField data "call_id" = false ∧
    (hasField data "name" = false ∨ stringField data "name" = some name)

/-- The records between the addition of an item and its completion. -/
def StreamedItem.PartRecords (position : Nat) : StreamedItem → List Bytes → Prop
  | .message id _ parts, records =>
    ∃ partRecords, List.Forall₂ (IsMessagePart position id) parts partRecords ∧
      records = partRecords.flatten
  | .reasoning id parts _, records =>
    ∃ partRecords, List.Forall₂ (IsSummaryPart position id) parts partRecords ∧
      records = partRecords.flatten
  | .functionCall id _ name pieces, records =>
    IsTextRecords
      (fun piece data => IsDelta "response.function_call_arguments.delta" position id piece data ∧
        NamesCall name data)
      (fun text data => IsItemRecord "response.function_call_arguments.done" position id data ∧
        NamesCall name data ∧ stringField data "arguments" = some text) pieces records

/-- The text that a reasoning item is completed with is the one given. -/
def StreamedItem.CompletedWith (text : Bytes) : StreamedItem → Prop
  | .reasoning _ _ native => text = native
  | _ => True

/-- The records of an item. -/
def StreamedItem.Records (position : Nat) (item : StreamedItem) (records : List Bytes) : Prop :=
  ∃ added parts done, records = added :: (parts ++ [done]) ∧
    (∃ text, IsOutputItemRecord "response.output_item.added" position item.item.opened text added) ∧
    item.PartRecords position parts ∧
    ∃ text, IsOutputItemRecord "response.output_item.done" position item.item text done ∧
      item.CompletedWith text

/-- The records of the items from a position on. -/
inductive ItemsRecords : Nat → List StreamedItem → List Bytes → Prop
  | nil {position : Nat} : ItemsRecords position [] []
  | cons {position : Nat} {item : StreamedItem} {items : List StreamedItem}
      {records rest : List Bytes} (head : item.Records position records)
      (tail : ItemsRecords (position + 1) items rest) :
      ItemsRecords position (item :: items) (records ++ rest)

/-- The records of a completed response. -/
def IsStream (items : List StreamedItem) (records : List Bytes) : Prop :=
  ∃ itemRecords last, records = itemRecords ++ [last] ∧ ItemsRecords 0 items itemRecords ∧
    IsRecord "response.completed" last

/-! ## §5. What the parsers read. -/

variable {object : Bytes} {key : String}

theorem stringField_of_noField (h : hasField object key = false) :
    stringField object key = none := by
  unfold hasField at h
  unfold stringField
  rw [Option.isSome_eq_false_iff, Option.isNone_iff_eq_none] at h
  rw [h]
  rfl

theorem objectField_of_noField (h : hasField object key = false) :
    objectField object key = none := by
  unfold hasField at h
  unfold objectField
  rw [Option.isSome_eq_false_iff, Option.isNone_iff_eq_none] at h
  rw [h]
  rfl

theorem hasField_of_stringField {value : Bytes} (h : stringField object key = some value) :
    hasField object key = true := by
  cases hfield : hasField object key with
  | true => rfl
  | false =>
    rw [stringField_of_noField hfield] at h
    cases h

theorem hasField_of_objectField {value : Bytes} (h : objectField object key = some value) :
    hasField object key = true := by
  cases hfield : hasField object key with
  | true => rfl
  | false =>
    rw [objectField_of_noField hfield] at h
    cases h

theorem hasField_of_strictObjects {maxItems : Option Nat} {values : List Bytes}
    (h : strictObjectsInArrayField object key maxItems = some values) :
    hasField object key = true := by
  cases hfield : fieldValueStart object key with
  | some start =>
    unfold hasField
    rw [hfield]
    rfl
  | none =>
    unfold strictObjectsInArrayField at h
    rw [hfield] at h
    simp at h

variable {bound : Nat}

/-- The loop over an array does not mind a bound that it does not reach. -/
theorem strictObjectsLoop_of_le {maxItems : Nat} : ∀ (fuel count : Nat) (s : Bytes)
    {values : List Bytes}, strictObjectsLoop maxItems fuel count s = some values →
    count + values.length ≤ bound → strictObjectsLoop bound fuel count s = some values := by
  intro fuel
  induction fuel with
  | zero =>
    intro count s values h _
    cases h
  | succ fuel ih =>
    intro count s values h hbound
    rw [strictObjectsLoop] at h ⊢
    cases hs : skipSpaces s with
    | nil =>
      rw [hs] at h
      cases h
    | cons c t =>
      rw [hs] at h
      dsimp only at h ⊢
      by_cases hclose : c = rbracket
      · rw [if_pos hclose] at h ⊢
        exact h
      · rw [if_neg hclose] at h ⊢
        by_cases hopen : c ≠ lbrace ∨ count = maxItems
        · rw [if_pos hopen] at h
          cases h
        · rw [if_neg hopen] at h
          push Not at hopen
          cases hbalanced : parseBalanced lbrace rbrace (c :: t) with
          | none =>
            rw [hbalanced] at h
            cases h
          | some found =>
            rw [hbalanced] at h
            dsimp only at h
            -- at least one value is found, so the bound is not reached yet
            have hsome : 1 ≤ values.length := by
              cases values with
              | nil =>
                exfalso
                revert h
                split_ifs
                · simp
                · split
                  · simp
                  · split_ifs <;> simp
              | cons value values => simp
            rw [if_neg (by simp only [not_or, not_not]; exact ⟨hopen.1, by omega⟩)]
            dsimp only
            by_cases hvalid : (!isValidObject found.1) = true
            · rw [if_pos hvalid] at h
              cases h
            · rw [if_neg hvalid] at h ⊢
              cases hrest : skipSpaces found.2 with
              | nil =>
                rw [hrest] at h
                cases h
              | cons d u =>
                rw [hrest] at h
                dsimp only at h ⊢
                by_cases hend : d = rbracket
                · rw [if_pos hend] at h ⊢
                  exact h
                · rw [if_neg hend] at h ⊢
                  by_cases hcomma : d ≠ comma
                  · rw [if_pos hcomma] at h
                    cases h
                  · rw [if_neg hcomma] at h ⊢
                    rw [Option.map_eq_some_iff] at h ⊢
                    obtain ⟨tail, htail, rfl⟩ := h
                    rw [List.length_cons] at hbound
                    exact ⟨tail, ih (count + 1) u htail (by omega), rfl⟩

/-- An array within a bound is read with the bound as without. -/
theorem strictObjects_of_le {values : List Bytes}
    (h : strictObjectsInArrayField object key = some values) (hbound : values.length ≤ bound) :
    strictObjectsInArrayField object key (some bound) = some values := by
  unfold strictObjectsInArrayField at h ⊢
  split_ifs at h with hutf
  rw [if_neg hutf]
  cases harray : (fieldValueStart object key).bind (parseBalanced lbracket rbracket) with
  | none =>
    rw [harray] at h
    cases h
  | some array =>
    rw [harray] at h
    dsimp only at h ⊢
    split_ifs at h with hvalid
    rw [if_neg hvalid]
    exact strictObjectsLoop_of_le _ 0 _ h (by simpa using hbound)

theorem phaseField_of_noField (h : hasField object "phase" = false) :
    phaseField object = .ok none := by
  unfold phaseField
  simp [h]

variable {data : Bytes} {position : Nat}

/-- An event's own index and the index of its item. -/
theorem documentedOutputIndex_eq {item : Bytes}
    (hdata : outputIndexField data = .ok (some position))
    (hitem : outputIndexField item = .ok none ∨ outputIndexField item = .ok (some position)) :
    documentedOutputIndex data item = .ok (some position) := by
  unfold documentedOutputIndex
  rw [hdata]
  rcases hitem with hitem | hitem
  · rw [hitem]
    simp
  · rw [hitem]
    simp

theorem documentedMessagePhase_eq {item : Bytes} {phase : AssistantPhase}
    (hdata : hasField data "phase" = false) (hitem : phaseField item = .ok phase.written) :
    documentedMessagePhase data item = .ok phase := by
  unfold documentedMessagePhase
  rw [phaseField_of_noField hdata, hitem]
  unfold AssistantPhase.written
  by_cases hphase : phase = .unknown
  · simp [hphase]
  · simp [hphase]

/-- The text of the parts of one kind. -/
def textOf (kind : MessageContentKind) (parts : List (MessageContentKind × Bytes)) : Bytes :=
  ((parts.filter fun part => part.1 = kind).map Prod.snd).flatten

theorem textOf_append (kind : MessageContentKind) (parts more : List (MessageContentKind × Bytes)) :
    textOf kind (parts ++ more) = textOf kind parts ++ textOf kind more := by
  unfold textOf
  rw [List.filter_append, List.map_append, List.flatten_append]

theorem textOf_cons (kind : MessageContentKind) (part : MessageContentKind × Bytes)
    (parts : List (MessageContentKind × Bytes)) :
    textOf kind (part :: parts) = (if part.1 = kind then part.2 else []) ++ textOf kind parts := by
  unfold textOf
  by_cases hkind : part.1 = kind
  · simp [hkind]
  · simp [hkind]

theorem joinContentParts_eq : ∀ {contents : List Bytes} {parts : List (MessageContentKind × Bytes)}
    (outputText refusalText : Bytes), contents.map contentPart = parts.map .ok →
    joinContentParts contents (outputText, refusalText) =
      .ok (outputText ++ textOf .outputText parts, refusalText ++ textOf .refusal parts) := by
  intro contents
  induction contents with
  | nil =>
    intro parts outputText refusalText h
    rw [List.map_nil, eq_comm, List.map_eq_nil_iff] at h
    rw [h]
    simp [joinContentParts, textOf]
  | cons content contents ih =>
    intro parts outputText refusalText h
    cases parts with
    | nil => simp at h
    | cons part parts =>
      obtain ⟨kind, text⟩ := part
      rw [List.map_cons, List.map_cons, List.cons.injEq] at h
      obtain ⟨hhead, htail⟩ := h
      rw [joinContentParts, hhead]
      cases kind with
      | outputText | refusal =>
        dsimp only
        rw [ih _ _ htail]
        simp [textOf_cons]

variable {id text : Bytes}

/-- The content of a message item. -/
theorem completedMessageContent_eq {phase : AssistantPhase}
    {parts : List (MessageContentKind × Bytes)}
    (h : IsItemText position (.message id phase parts) text)
    (hcount : parts.length ≤ kMaxProviderParserArrayItems) :
    completedMessageContentFromItem text = .ok (some (textOf .outputText parts, textOf .refusal parts)) := by
  obtain ⟨-, contents, hcontents, hparts⟩ := h.content
  have hlength : contents.length = parts.length := by
    simpa using congrArg List.length hparts
  have hfield : hasField text "content" = true := hasField_of_strictObjects hcontents
  unfold completedMessageContentFromItem
  rw [hfield, strictObjects_of_le hcontents (by omega)]
  simp only [Bool.not_true, Bool.false_eq_true, if_false]
  rw [joinContentParts_eq [] [] hparts]
  rfl

/-- The summary parts of a reasoning item, joined. -/
def joinedSummary (parts : List Bytes) : Bytes := parts.foldl appendJoinedText []

theorem foldl_summaries : ∀ {summaries parts : List Bytes} (text : Bytes),
    summaries.map (fun summary => stringField summary "text") = parts.map some →
    summaries.foldl (fun text summary =>
      appendJoinedText text ((firstStringField summary ["text", "summary_text"]).getD [])) text =
      parts.foldl appendJoinedText text := by
  intro summaries
  induction summaries with
  | nil =>
    intro parts text h
    rw [List.map_nil, eq_comm, List.map_eq_nil_iff] at h
    rw [h]
    rfl
  | cons summary summaries ih =>
    intro parts text h
    cases parts with
    | nil => simp at h
    | cons part parts =>
      rw [List.map_cons, List.map_cons, List.cons.injEq] at h
      obtain ⟨hhead, htail⟩ := h
      have hfirst : firstStringField summary ["text", "summary_text"] = some part := by
        simp [firstStringField, hhead]
      rw [List.foldl_cons, List.foldl_cons, hfirst]
      exact ih _ htail

/-- The summary of a reasoning item, and what is left of the bound. -/
theorem reasoningSummary_eq {parts : List Bytes}
    (h : IsItemText position (.reasoning id parts) text) (hcount : parts.length ≤ bound) :
    reasoningSummaryTextFromObject text bound = some (joinedSummary parts, bound - parts.length) := by
  obtain ⟨⟨summaries, hsummaries, hparts⟩, hnone⟩ := h.content
  have hlength : summaries.length = parts.length := by
    simpa using congrArg List.length hparts
  have hfield : hasField text "summary" = true := hasField_of_strictObjects hsummaries
  have hsummaryText : stringFieldOrEmpty text "summary_text" = [] := by
    rw [stringFieldOrEmpty, stringField_of_noField (hnone _ (by simp))]
    rfl
  have htext : stringFieldOrEmpty text "text" = [] := by
    rw [stringFieldOrEmpty, stringField_of_noField (hnone _ (by simp))]
    rfl
  have hpart : objectField text "part" = none := objectField_of_noField (hnone _ (by simp))
  have hitem : objectField text "item" = none := objectField_of_noField (hnone _ (by simp))
  have hown : ownSummaryText text bound = some (joinedSummary parts, parts.length) := by
    unfold ownSummaryText
    rw [hsummaryText, htext, hfield, strictObjects_of_le hsummaries (by omega), hpart]
    have hnil : appendJoinedText [] [] = [] := rfl
    simp only [hnil, Bool.not_true, Bool.false_eq_true, if_false, Option.map_some]
    rw [foldl_summaries [] hparts, hlength]
    rfl
  unfold reasoningSummaryTextFromObject
  rw [reasoningSummaryTextFrom, hown]
  dsimp only
  rw [hitem]

/-- The text of a completed summary part. -/
theorem summaryDone_text (h : IsSummaryDone position id text data) :
    ∃ remaining,
      reasoningSummaryTextFromObject data kMaxProviderParserArrayItems = some (text, remaining) ∧
        reasoningEventHasAuthoritativeCompleteText data = true := by
  have hempty : ∀ {key : String}, hasField data key = false → stringFieldOrEmpty data key = [] := by
    intro key hkey
    rw [stringFieldOrEmpty, stringField_of_noField hkey]
    rfl
  unfold reasoningSummaryTextFromObject
  rw [reasoningSummaryTextFrom]
  rcases h with ⟨-, htext, hnone⟩ | ⟨-, ⟨part, hpart, htext⟩, hnone⟩
  · have hsummaryText := hempty (hnone "summary_text" (by simp))
    have hsummary : hasField data "summary" = false := hnone _ (by simp)
    have hpart : objectField data "part" = none := objectField_of_noField (hnone _ (by simp))
    have hitem : objectField data "item" = none := objectField_of_noField (hnone _ (by simp))
    have hown : stringFieldOrEmpty data "text" = text := by
      rw [stringFieldOrEmpty, htext]
      rfl
    refine ⟨kMaxProviderParserArrayItems, ?_, ?_⟩
    · unfold ownSummaryText
      rw [hsummaryText, hown, hsummary, hpart, hitem]
      simp [appendJoinedText]
    · simp [reasoningEventHasAuthoritativeCompleteText, hasField_of_stringField htext]
  · have hsummaryText := hempty (hnone "summary_text" (by simp))
    have hown := hempty (hnone "text" (by simp))
    have hsummary : hasField data "summary" = false := hnone _ (by simp)
    have hitem : objectField data "item" = none := objectField_of_noField (hnone _ (by simp))
    have hpartText : stringFieldOrEmpty part "text" = text := by
      rw [stringFieldOrEmpty, htext]
      rfl
    refine ⟨kMaxProviderParserArrayItems, ?_, ?_⟩
    · unfold ownSummaryText
      rw [hsummaryText, hown, hsummary, hpart, hitem]
      simp [appendJoinedText, hpartText]
    · simp [reasoningEventHasAuthoritativeCompleteText, hasField_of_objectField hpart]

variable {type : String}

/-- The item that a record about a part names. -/
theorem itemReference_eq (h : IsItemRecord type position id data)
    (hid : isValidOpenaiOpaqueId id = true) :
    itemReference data = .item id := by
  have hfield := hasField_of_stringField h.itemId
  have hother := stringField_of_noField h.noOtherId
  unfold itemReference
  simp [hfield, h.noOtherId, h.itemId, hother, hid]

theorem itemIndex_eq (h : IsItemRecord type position id data) :
    documentedOutputIndex data noItem = .ok (some position) :=
  documentedOutputIndex_eq h.index (Or.inl rfl)

theorem itemPhase_eq (h : IsItemRecord type position id data) :
    documentedMessagePhase data noItem = .ok .unknown :=
  documentedMessagePhase_eq h.noPhase rfl

end Ava.Provider
