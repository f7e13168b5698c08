/-
  Ava.Provider.StreamEvent
  **WHAT A PROVIDER STREAM IS MADE OF** (`provider/provider.h`, `provider/finish_reason.h`), and the
  budget that every parser of a response draws on (`provider/parser_budget.h`).

    - §1 `StreamEvent` and the types of its fields;
    - §2 `ProviderParserBudget` : counters that never pass their limit;
    - §3 `account` : the events of one record, published up to the budget;
    - §4 `Room` : events that a budget has room for are published as they are.
-/
import Ava.Core.Prelude

namespace Ava.Provider

open Ava.Core

/-! ## §1. Events. -/

inductive AssistantPhase where
  | unknown
  | commentary
  | finalAnswer
deriving Repr, DecidableEq

/-- `assistant_phase_from_string`. -/
def AssistantPhase.ofString (value : Bytes) : Option AssistantPhase :=
  if value = ascii "commentary" then some .commentary
  else if value = ascii "final_answer" then some .finalAnswer
  else none

structure TokenUsage where
  inputTokens : Option Int := none
  outputTokens : Option Int := none
  reasoningTokens : Option Int := none
  cacheReadTokens : Option Int := none
  cacheWriteTokens : Option Int := none
  totalTokens : Option Int := none
deriving Repr, DecidableEq

inductive StreamEventType where
  | textStart
  | textDelta
  | textEnd
  | reasoningStart
  | reasoningDelta
  | reasoningEnd
  | toolCallStart
  | toolCallDelta
  | toolCallEnd
  | done
  | error
deriving Repr, DecidableEq

inductive ProviderFinishReason where
  | completed
  | maxTokens
  | toolCalls
  | refusal
  | cancelled
  | error
deriving Repr, DecidableEq

structure StreamEvent where
  type : StreamEventType := .done
  text : Bytes := []
  toolCallId : Bytes := []
  toolName : Bytes := []
  errorMessage : Bytes := []
  usage : Option TokenUsage := none
  providerItemId : Bytes := []
  providerOutputIndex : Option Nat := none
  assistantPhase : AssistantPhase := .unknown
  finishReason : Option ProviderFinishReason := none
  reasoningFormat : Bytes := []
  reasoningSignature : Bytes := []
  reasoningRedactedData : Bytes := []
  reasoningNativeItemJson : Bytes := []
  redacted : Bool := false
  reasoningSignaturePresent : Bool := false
deriving Repr, DecidableEq

/-! ## §2. The budget. -/

def kMaxProviderParserEvents : Nat := 4096
def kMaxProviderParserArrayItems : Nat := 1024
def kMaxProviderSseBufferedBytes : Nat := 256 * 1024

/-- `ProviderParserBudget`.  A refused charge leaves the caller failed for good, so what a refusal
    had already counted is never read again and is not kept. -/
structure ProviderParserBudget where
  records : Nat := 0
  events : Nat := 0
  fragmentBytes : Nat := 0
  metadataBytes : Nat := 0
  fragment_le : fragmentBytes ≤ kMaxProviderSseBufferedBytes := by exact Nat.zero_le _
  metadata_le : metadataBytes ≤ kMaxProviderSseBufferedBytes := by exact Nat.zero_le _

namespace ProviderParserBudget

variable (budget : ProviderParserBudget)

/-- `record`. -/
def record (data : Bytes) : Option ProviderParserBudget :=
  if data.length ≤ kMaxProviderSseBufferedBytes ∧ budget.records + 1 ≤ kMaxProviderParserEvents then
    some { budget with records := budget.records + 1 }
  else none

/-- `fragment`. -/
def fragment (value : Bytes) : Option ProviderParserBudget :=
  if h : value.length > kMaxProviderSseBufferedBytes - budget.fragmentBytes then none
  else
    some
      { budget with
        fragmentBytes := budget.fragmentBytes + value.length
        fragment_le := by
          have := budget.fragment_le
          omega }

/-- The charge for one field of metadata. -/
def metadata (value : Bytes) : Option ProviderParserBudget :=
  if h : value.length > kMaxProviderSseBufferedBytes - budget.metadataBytes then none
  else
    some
      { budget with
        metadataBytes := budget.metadataBytes + value.length
        metadata_le := by
          have := budget.metadata_le
          omega }

/-- `event`.  One slot stays free for the diagnostic that ends a stream. -/
def event (e : StreamEvent) : Option ProviderParserBudget :=
  if budget.events ≥ kMaxProviderParserEvents - 1 then none
  else
    ([e.text, e.reasoningSignature, e.reasoningRedactedData].foldlM fragment budget).bind fun budget =>
      ([e.toolCallId, e.toolName, e.providerItemId, e.reasoningFormat,
        e.reasoningNativeItemJson].foldlM metadata budget).map fun budget =>
          { budget with events := budget.events + 1 }

end ProviderParserBudget

/-- `provider_parser_limit_event`. -/
def providerParserLimitEvent (family : Bytes) : StreamEvent where
  type := .error
  errorMessage := family ++ ascii " response parser limit exceeded"

/-- `bounded_provider_events`, for the events of a buffered response. -/
def boundedProviderEvents (events : List StreamEvent) (family : Bytes) : List StreamEvent :=
  match events.foldlM ProviderParserBudget.event {} with
  | some _ => events
  | none => [providerParserLimitEvent family]

/-! ## §3. Publishing. -/

/-- The diagnostics that end a stream: those of the budget, and the decoders' own byte limits. -/
def isBudgetError (family : Bytes) (e : StreamEvent) : Bool :=
  e.type == .error && family.isPrefixOf e.errorMessage &&
    (e.errorMessage.drop family.length == ascii " response parser limit exceeded" ||
      (ascii "exceeded byte limit").isSuffixOf e.errorMessage)

@[simp] theorem isBudgetError_limit (family : Bytes) :
    isBudgetError family (providerParserLimitEvent family) = true := by
  unfold isBudgetError providerParserLimitEvent
  simp [List.isPrefixOf_iff_prefix]

/-- `account`: the new events that are published, the budget left, and whether the stream failed. -/
def account (family : Bytes) : ProviderParserBudget → List StreamEvent →
    List StreamEvent × ProviderParserBudget × Bool
  | budget, [] => ([], budget, false)
  | budget, e :: es =>
    match budget.event e with
    | none => ([providerParserLimitEvent family], budget, true)
    | some budget =>
      if isBudgetError family e then ([e], budget, true)
      else
        let (es, budget, failed) := account family budget es
        (e :: es, budget, failed)

/-- Only the last event of a list is a budget error, and only if the stream failed with it. -/
def EndsWithFailure (family : Bytes) (failed : Bool) (events : List StreamEvent) : Prop :=
  if failed then
    ∃ init last, events = init ++ [last] ∧ isBudgetError family last = true ∧
      ∀ e ∈ init, isBudgetError family e = false
  else ∀ e ∈ events, isBudgetError family e = false

variable {family : Bytes}

theorem EndsWithFailure.nil {failed : Bool} (h : failed = false) :
    EndsWithFailure family failed [] := by
  simp [EndsWithFailure, h]

variable {e : StreamEvent}

theorem EndsWithFailure.single (h : isBudgetError family e = true) :
    EndsWithFailure family true [e] :=
  ⟨[], e, rfl, h, by simp⟩

/-- Events without a failure go in front. -/
theorem EndsWithFailure.append {failed : Bool} {es fs : List StreamEvent}
    (hes : EndsWithFailure family false es) (hfs : EndsWithFailure family failed fs) :
    EndsWithFailure family failed (es ++ fs) := by
  have hes : ∀ e ∈ es, isBudgetError family e = false := hes
  cases failed with
  | false =>
    have hfs : ∀ e ∈ fs, isBudgetError family e = false := hfs
    exact List.forall_mem_append.mpr ⟨hes, hfs⟩
  | true =>
    obtain ⟨init, last, hfs, hlast, hinit⟩ := hfs
    refine ⟨es ++ init, last, by rw [hfs, List.append_assoc], hlast, ?_⟩
    exact List.forall_mem_append.mpr ⟨hes, hinit⟩

/-- Nothing follows a budget error. -/
theorem EndsWithFailure.after {failed : Bool} {events pre post : List StreamEvent}
    (h : EndsWithFailure family failed events) (heq : events = pre ++ e :: post)
    (he : isBudgetError family e = true) : post = [] := by
  cases failed with
  | false =>
    have hnone : isBudgetError family e = false := h e (by rw [heq]; simp)
    rw [hnone] at he
    cases he
  | true =>
    obtain ⟨init, last, hevents, -, hinit⟩ := h
    by_contra hpost
    -- the error would be among the events before the last one
    obtain ⟨post', z, hz⟩ := List.eq_nil_or_concat post |>.resolve_left hpost
    have hsplit : init ++ [last] = (pre ++ e :: post') ++ [z] := by
      rw [← hevents, heq, hz]
      simp
    have hsame := List.append_inj_left' hsplit rfl
    have hnone : isBudgetError family e = false := hinit e (by rw [hsame]; simp)
    rw [hnone] at he
    cases he

theorem account_endsWithFailure (family : Bytes) : ∀ (es : List StreamEvent)
    (budget : ProviderParserBudget),
    EndsWithFailure family (account family budget es).2.2 (account family budget es).1 := by
  intro es
  induction es with
  | nil =>
    intro budget
    exact EndsWithFailure.nil rfl
  | cons e es ih =>
    intro budget
    unfold account
    cases budget.event e with
    | none => exact EndsWithFailure.single (isBudgetError_limit family)
    | some budget =>
      dsimp only
      by_cases herror : isBudgetError family e = true
      · rw [if_pos herror]
        exact EndsWithFailure.single herror
      · rw [if_neg herror]
        have hhead : EndsWithFailure family false [e] := by
          intro e' he'
          rw [List.mem_singleton.mp he']
          simpa using herror
        exact hhead.append (ih budget)

/-! ## §4. Events within the budget. -/

/-- What an event charges as fragments. -/
def StreamEvent.fragmentBytes (e : StreamEvent) : Nat :=
  ([e.text, e.reasoningSignature, e.reasoningRedactedData].map List.length).sum

/-- What an event charges as metadata. -/
def StreamEvent.metadataBytes (e : StreamEvent) : Nat :=
  ([e.toolCallId, e.toolName, e.providerItemId, e.reasoningFormat,
    e.reasoningNativeItemJson].map List.length).sum

/-- A budget has room for a list of events. -/
structure Room (budget : ProviderParserBudget) (events : List StreamEvent) : Prop where
  count : budget.events + events.length < kMaxProviderParserEvents
  fragments : budget.fragmentBytes + (events.map StreamEvent.fragmentBytes).sum ≤
    kMaxProviderSseBufferedBytes
  metadata : budget.metadataBytes + (events.map StreamEvent.metadataBytes).sum ≤
    kMaxProviderSseBufferedBytes

namespace ProviderParserBudget

/-- A counter that takes what fits takes a list that fits as a whole; `rest` is what the counter
    does not touch. -/
theorem foldlM_charge {α : Type} {charge : ProviderParserBudget → Bytes → Option ProviderParserBudget}
    {count : ProviderParserBudget → Nat} {rest : ProviderParserBudget → α}
    (hcharge : ∀ budget value, count budget + value.length ≤ kMaxProviderSseBufferedBytes →
      ∃ budget', charge budget value = some budget' ∧
        count budget' = count budget + value.length ∧ rest budget' = rest budget) :
    ∀ (values : List Bytes) (budget : ProviderParserBudget),
      count budget + (values.map List.length).sum ≤ kMaxProviderSseBufferedBytes →
      ∃ budget', values.foldlM charge budget = some budget' ∧
        count budget' = count budget + (values.map List.length).sum ∧ rest budget' = rest budget := by
  intro values
  induction values with
  | nil =>
    intro budget _
    exact ⟨budget, rfl, rfl, rfl⟩
  | cons value values ih =>
    intro budget hroom
    rw [List.map_cons, List.sum_cons] at hroom
    obtain ⟨next, hone, hcount, hrest⟩ := hcharge budget value (by omega)
    obtain ⟨budget', hfold, hcount', hrest'⟩ := ih next (by omega)
    refine ⟨budget', ?_, ?_, hrest'.trans hrest⟩
    · rw [List.foldlM_cons, hone]
      exact hfold
    · rw [hcount', hcount, List.map_cons, List.sum_cons]
      omega

theorem fragment_fits (budget : ProviderParserBudget) (value : Bytes)
    (hroom : budget.fragmentBytes + value.length ≤ kMaxProviderSseBufferedBytes) :
    ∃ budget', budget.fragment value = some budget' ∧
      budget'.fragmentBytes = budget.fragmentBytes + value.length ∧
      (budget'.metadataBytes, budget'.events, budget'.records) =
        (budget.metadataBytes, budget.events, budget.records) := by
  unfold fragment
  rw [dif_neg (by omega)]
  exact ⟨_, rfl, rfl, rfl⟩

theorem metadata_fits (budget : ProviderParserBudget) (value : Bytes)
    (hroom : budget.metadataBytes + value.length ≤ kMaxProviderSseBufferedBytes) :
    ∃ budget', budget.metadata value = some budget' ∧
      budget'.metadataBytes = budget.metadataBytes + value.length ∧
      (budget'.fragmentBytes, budget'.events, budget'.records) =
        (budget.fragmentBytes, budget.events, budget.records) := by
  unfold metadata
  rw [dif_neg (by omega)]
  exact ⟨_, rfl, rfl, rfl⟩

/-- An event that there is room for is charged, and the rest still has its room. -/
theorem event_of_room {budget : ProviderParserBudget} {es : List StreamEvent}
    (h : Room budget (e :: es)) :
    ∃ budget', budget.event e = some budget' ∧ Room budget' es ∧ budget'.records = budget.records := by
  obtain ⟨hcount, hfragments, hmetadata⟩ := h
  rw [List.length_cons] at hcount
  rw [List.map_cons, List.sum_cons] at hfragments hmetadata
  obtain ⟨b₁, hfold₁, hf₁, hrest₁⟩ :=
    foldlM_charge fragment_fits [e.text, e.reasoningSignature, e.reasoningRedactedData] budget
      (by unfold StreamEvent.fragmentBytes at hfragments; omega)
  obtain ⟨hm₁, he₁, hr₁⟩ : b₁.metadataBytes = budget.metadataBytes ∧ b₁.events = budget.events ∧
      b₁.records = budget.records := by simpa using hrest₁
  obtain ⟨b₂, hfold₂, hm₂, hrest₂⟩ :=
    foldlM_charge metadata_fits [e.toolCallId, e.toolName, e.providerItemId, e.reasoningFormat,
      e.reasoningNativeItemJson] b₁ (by unfold StreamEvent.metadataBytes at hmetadata; omega)
  obtain ⟨hf₂, he₂, hr₂⟩ : b₂.fragmentBytes = b₁.fragmentBytes ∧ b₂.events = b₁.events ∧
      b₂.records = b₁.records := by simpa using hrest₂
  refine ⟨{ b₂ with events := b₂.events + 1 }, ?_, ⟨?_, ?_, ?_⟩, ?_⟩
  · unfold event
    rw [if_neg (by omega), hfold₁, Option.bind_some, hfold₂]
    rfl
  · dsimp only
    omega
  · show b₂.fragmentBytes + _ ≤ _
    rw [hf₂, hf₁]
    unfold StreamEvent.fragmentBytes at hfragments ⊢
    omega
  · show b₂.metadataBytes + _ ≤ _
    rw [hm₂, hm₁]
    unfold StreamEvent.metadataBytes at hmetadata ⊢
    omega
  · exact hr₂.trans hr₁

end ProviderParserBudget

/-- Events without an error that there is room for are published as they are. -/
theorem account_of_room (family : Bytes) : ∀ (es fs : List StreamEvent)
    (budget : ProviderParserBudget), (∀ e ∈ es, e.type ≠ .error) → Room budget (es ++ fs) →
    ∃ budget', account family budget es = (es, budget', false) ∧ Room budget' fs ∧
      budget'.records = budget.records := by
  intro es fs
  induction es with
  | nil =>
    intro budget _ hroom
    exact ⟨budget, rfl, hroom, rfl⟩
  | cons e es ih =>
    intro budget hclean hroom
    obtain ⟨b₁, hevent, hroom₁, hr₁⟩ := ProviderParserBudget.event_of_room hroom
    obtain ⟨b₂, hrest, hroom₂, hr₂⟩ := ih b₁ (fun e he => hclean e (List.mem_cons_of_mem _ he)) hroom₁
    have hnone : isBudgetError family e = false := by
      have htype := hclean e List.mem_cons_self
      simp [isBudgetError, htype]
    refine ⟨b₂, ?_, hroom₂, hr₂.trans hr₁⟩
    rw [account, hevent]
    dsimp only
    rw [hnone, hrest]
    rfl

/-- Where no error is published, everything is published. -/
theorem account_silent (family : Bytes) : ∀ (es : List StreamEvent) (budget : ProviderParserBudget),
    (∀ e ∈ (account family budget es).1, e.type ≠ .error) →
    (account family budget es).1 = es ∧ (account family budget es).2.2 = false := by
  intro es
  induction es with
  | nil =>
    intro budget _
    exact ⟨rfl, rfl⟩
  | cons e es ih =>
    intro budget hclean
    rw [account] at hclean ⊢
    cases hevent : budget.event e with
    | none =>
      rw [hevent] at hclean
      exact absurd rfl (hclean _ (List.mem_singleton_self _))
    | some budget' =>
      rw [hevent] at hclean
      dsimp only at hclean ⊢
      have hnone : isBudgetError family e = false := by
        by_contra herror
        rw [if_pos (by simpa using herror)] at hclean
        have htype := hclean e (List.mem_singleton_self _)
        simp [isBudgetError, htype] at herror
      rw [hnone] at hclean ⊢
      simp only [Bool.false_eq_true, if_false] at hclean ⊢
      obtain ⟨hsame, hrun⟩ := ih budget' fun e he => hclean e (List.mem_cons_of_mem _ he)
      exact ⟨by rw [hsame], hrun⟩

/-- A buffered response that there is room for is published as it is. -/
theorem boundedProviderEvents_of_room {events : List StreamEvent} (h : Room {} events)
    (family : Bytes) : boundedProviderEvents events family = events := by
  have key : ∀ (es : List StreamEvent) (budget : ProviderParserBudget), Room budget es →
      ∃ budget', es.foldlM ProviderParserBudget.event budget = some budget' := by
    intro es
    induction es with
    | nil =>
      intro budget _
      exact ⟨budget, rfl⟩
    | cons e es ih =>
      intro budget hroom
      obtain ⟨budget', hevent, hroom', -⟩ := ProviderParserBudget.event_of_room hroom
      obtain ⟨budget'', hfold⟩ := ih budget' hroom'
      refine ⟨budget'', ?_⟩
      rw [List.foldlM_cons, hevent]
      exact hfold
  obtain ⟨budget', hfold⟩ := key events {} h
  unfold boundedProviderEvents
  rw [hfold]

end Ava.Provider
