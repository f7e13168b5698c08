/-
  Ava.Session.AppendGuard
  **THE INCREMENTAL APPEND GUARD REFINES THE WHOLE-HISTORY CLASSIFIER.**

  `AssistantOutputAppendState` decides record by record what `classify_assistant_output`
  decides over a whole history.  The two recognisers were written independently: the guard
  holds five sets and a counter, the classifier holds the staged items themselves.

    - §1 `AppendState`, `applyCandidate`, `fromValidatedHistory` as in the source;
    - §2 `AppendState.ofClassified` : the guard state a pass of the classifier stands for;
    - §3 `applyCandidate_ofClassified` : ONE STEP, the guard accepts a record exactly when the
      classifier stays silent on it, and then the two states agree again;
    - §4 `fromValidatedHistory_of_errorFree` : the guard rebuilt from a history is that state;
    - §5 `applyCandidate_refines_classifier`, over every history and every run of candidates.
-/
import Mathlib.Data.Finset.Option
import Ava.Session.Classify

namespace Ava.Session

open Ava.Core

/-! ## §1. The guard. -/

inductive AppendMode where
  | closed | pending
deriving Repr, DecidableEq

/-- `AssistantOutputAppendState`. -/
structure AppendState where
  mode : AppendMode := .closed
  committedTurnIds : Finset Bytes := ∅
  committedOutputEntryIds : Finset Bytes := ∅
  pendingTurnId : Bytes := []
  pendingNextSequence : Nat := 0
  pendingOutputEntryIds : Finset Bytes := ∅
  pendingProviderItemIds : Finset Bytes := ∅
  pendingProviderOutputIndices : Finset Nat := ∅
deriving DecidableEq

variable (s : AppendState)

/-- `ready`: no assistant-output transaction is staged. -/
def AppendState.ready : Bool := s.mode = .closed

/-- `append_state_error`. -/
def appendStateError (message : String) : Error := sessionError message

/-- The last part of the item branch of `apply_candidate`: record the physical id, then the
    two provider identities, each of which must be new to the staged turn. -/
def AppendState.addIdentities (entryId : Bytes) (item : AssistantOutputItem) : Result AppendState :=
  if item.providerItemId.any (· ∈ s.pendingProviderItemIds) then
    .error (((appendStateError "pending assistant-output staging duplicates provider_item_id")
      |>.withContext "assistant_turn_id" s.pendingTurnId)
      |>.withContext "provider_item_id" (item.providerItemId.getD []))
  else if item.providerOutputIndex.any (· ∈ s.pendingProviderOutputIndices) then
    .error (((appendStateError "pending assistant-output staging duplicates provider_output_index")
      |>.withContext "assistant_turn_id" s.pendingTurnId)
      |>.withContext "provider_output_index" (decimal (item.providerOutputIndex.getD 0)))
  else
    .ok { s with
      pendingOutputEntryIds := insert entryId s.pendingOutputEntryIds
      pendingProviderItemIds := item.providerItemId.toFinset ∪ s.pendingProviderItemIds
      pendingProviderOutputIndices :=
        item.providerOutputIndex.toFinset ∪ s.pendingProviderOutputIndices }

/-- The item branch of `apply_candidate`. -/
def AppendState.applyItem (entry : SessionEntry) : Result AppendState :=
  match parseAssistantOutputItem entry with
  | .error e =>
    .error ((appendStateError "assistant-output append item is not a strict valid v4 record")
      |>.withContext "cause" e.message)
  | .ok item =>
    if entry.id ∈ s.committedOutputEntryIds ∨ entry.id ∈ s.pendingOutputEntryIds then
      .error ((appendStateError "assistant-output staging cannot reuse a physical output entry id")
        |>.withContext "entry_id" entry.id)
    else
      match s.mode with
      | .closed =>
        if item.sequence ≠ 0 then
          .error (((appendStateError "new assistant-output staging must begin at sequence zero")
            |>.withContext "assistant_turn_id" item.assistantTurnId)
            |>.withContext "sequence" (decimal item.sequence))
        else if item.assistantTurnId ∈ s.committedTurnIds then
          .error ((appendStateError
              "assistant-output staging cannot reuse a committed assistant_turn_id")
            |>.withContext "assistant_turn_id" item.assistantTurnId)
        else
          AppendState.addIdentities
            { s with
              mode := .pending
              pendingTurnId := item.assistantTurnId
              pendingNextSequence := 1
              pendingOutputEntryIds := ∅
              pendingProviderItemIds := ∅
              pendingProviderOutputIndices := ∅ } entry.id item
      | .pending =>
        if item.assistantTurnId ≠ s.pendingTurnId ∨ item.sequence ≠ s.pendingNextSequence then
          .error (((((appendStateError
              "pending assistant-output staging requires the exact next item for its assistant_turn_id")
            |>.withContext "assistant_turn_id" s.pendingTurnId)
            |>.withContext "next_sequence" (decimal s.pendingNextSequence))
            |>.withContext "candidate_turn_id" item.assistantTurnId)
            |>.withContext "candidate_sequence" (decimal item.sequence))
        else
          AppendState.addIdentities
            { s with pendingNextSequence := s.pendingNextSequence + 1 } entry.id item

/-- The commit branch of `apply_candidate`. -/
def AppendState.applyCommit (entry : SessionEntry) : Result AppendState :=
  match parseAssistantTurnCommit entry with
  | .error e =>
    .error ((appendStateError "assistant-output append commit is not a strict valid v4 record")
      |>.withContext "cause" e.message)
  | .ok commit =>
    let reused := (appendStateError
        "assistant-output commit cannot reuse a committed assistant_turn_id")
      |>.withContext "assistant_turn_id" commit.assistantTurnId
    match s.mode with
    | .closed =>
      if commit.itemCount ≠ 0 then
        .error (((appendStateError
            "assistant-output commit without staged items must have item_count zero")
          |>.withContext "assistant_turn_id" commit.assistantTurnId)
          |>.withContext "item_count" (decimal commit.itemCount))
      else if commit.assistantTurnId ∈ s.committedTurnIds then .error reused
      else
        .ok { s with committedTurnIds := insert commit.assistantTurnId s.committedTurnIds }
    | .pending =>
      if commit.assistantTurnId ≠ s.pendingTurnId ∨
          commit.itemCount ≠ s.pendingNextSequence then
        .error (((((appendStateError
            "pending assistant-output staging requires a matching commit with the exact item_count")
          |>.withContext "assistant_turn_id" s.pendingTurnId)
          |>.withContext "expected_item_count" (decimal s.pendingNextSequence))
          |>.withContext "candidate_turn_id" commit.assistantTurnId)
          |>.withContext "candidate_item_count" (decimal commit.itemCount))
      else if commit.assistantTurnId ∈ s.committedTurnIds then .error reused
      else
        .ok
          { committedTurnIds := insert commit.assistantTurnId s.committedTurnIds
            committedOutputEntryIds := s.committedOutputEntryIds ∪ s.pendingOutputEntryIds }

/-- The branch of `apply_candidate` for every other record. -/
def AppendState.applyOther : Result AppendState :=
  match s.mode with
  | .closed => .ok s
  | .pending =>
    .error (((appendStateError
        "pending assistant-output staging requires the exact next output item or matching commit")
      |>.withContext "assistant_turn_id" s.pendingTurnId)
      |>.withContext "next_sequence" (decimal s.pendingNextSequence))

/-- `apply_candidate`.  Every caller applies it to a copy and drops the copy on an error,
    so the half-updated state of a failed call is never seen. -/
def AppendState.applyCandidate (entry : SessionEntry) : Result AppendState :=
  match entry.type with
  | .assistantOutputItem => s.applyItem entry
  | .assistantTurnCommit => s.applyCommit entry
  | _ => s.applyOther

variable {s : AppendState} {e : SessionEntry}

theorem applyCandidate_of_other (hitem : e.type ≠ .assistantOutputItem)
    (hcommit : e.type ≠ .assistantTurnCommit) :
    s.applyCandidate e = s.applyOther := by
  unfold AppendState.applyCandidate
  cases htype : e.type with
  | assistantOutputItem => exact absurd htype hitem
  | assistantTurnCommit => exact absurd htype hcommit
  | _ => rfl

/-- The inner loop of `from_validated_history`: the record ids of one committed turn. -/
def AppendState.addCommittedItems (s : AppendState) : List CommittedItem → Result AppendState
  | [] => .ok s
  | i :: is =>
    if i.entryId ∈ s.committedOutputEntryIds then
      .error ((appendStateError
          "session assistant-output history duplicates a committed physical output entry id")
        |>.withContext "entry_id" i.entryId)
    else
      AppendState.addCommittedItems
        { s with committedOutputEntryIds := insert i.entryId s.committedOutputEntryIds } is

/-- The outer loop of `from_validated_history`, over the committed turns. -/
def AppendState.addCommittedTurns (s : AppendState) : List CommittedTurn → Result AppendState
  | [] => .ok s
  | t :: ts =>
    if t.commit.assistantTurnId ∈ s.committedTurnIds then
      .error ((appendStateError
          "session assistant-output history duplicates a committed assistant_turn_id")
        |>.withContext "assistant_turn_id" t.commit.assistantTurnId)
    else
      match AppendState.addCommittedItems
          { s with committedTurnIds := insert t.commit.assistantTurnId s.committedTurnIds }
          t.items with
      | .error e => .error e
      | .ok s => s.addCommittedTurns ts

/-- Applying a run of candidates one after the other. -/
def AppendState.applyCandidates (s : AppendState) : List SessionEntry → Result AppendState
  | [] => .ok s
  | e :: es =>
    match s.applyCandidate e with
    | .error err => .error err
    | .ok s => s.applyCandidates es

/-- The warning that marks a staged, uncommitted final run. -/
def Diagnostic.isIncomplete (d : Diagnostic) : Bool :=
  d.severity = .warning && d.kind = .incompleteAssistantTurn

/-- The trailing run of `assistant_output_item` records of a history. -/
def stagedSuffix (entries : List SessionEntry) : List SessionEntry :=
  (entries.reverse.takeWhile fun e => e.type = .assistantOutputItem).reverse

/-- `from_validated_history`. -/
def AppendState.fromValidatedHistory (entries : List SessionEntry) : Result AppendState :=
  let projection := classifyAssistantOutput entries
  match projection.diagnostics.find? fun d => !d.isIncomplete with
  | some d =>
    .error ((((appendStateError
        "session assistant-output history is malformed; recover it before creating an append target")
      |>.withContext "diagnostic_kind" d.kind.toBytes)
      |>.withContext "diagnostic_entry_id" d.entryId)
      |>.withContext "diagnostic" d.message)
  | none =>
    match AppendState.addCommittedTurns {} projection.turns with
    | .error e => .error e
    | .ok state =>
      if !projection.diagnostics.any Diagnostic.isIncomplete then .ok state
      else if (stagedSuffix entries).isEmpty then
        .error (appendStateError "incomplete assistant-output history has no staged suffix")
      else
        match state.applyCandidates (stagedSuffix entries) with
        | .error e => .error e
        | .ok state =>
          if state.mode ≠ .pending then
            .error (appendStateError
              "incomplete assistant-output history did not produce a pending staging state")
          else .ok state

/-! ## §2. The guard state a pass stands for. -/
open AppendState


theorem PendingGroup.push_items (g : PendingGroup) (i : CommittedItem) :
    (g.push i).items = g.items ++ [i] := rfl

/-- The guard state that holds what the classifier holds: the same committed sets, and of a
    staged run only its turn id, its length and the three identity sets. -/
def AppendState.ofClassified (st : ClassifyState) : AppendState :=
  match st.pending with
  | none =>
    { committedTurnIds := st.committedTurnIds
      committedOutputEntryIds := st.committedOutputEntryIds }
  | some g =>
    { mode := .pending
      committedTurnIds := st.committedTurnIds
      committedOutputEntryIds := st.committedOutputEntryIds
      pendingTurnId := g.first.item.assistantTurnId
      pendingNextSequence := g.items.length
      pendingOutputEntryIds := (g.items.map CommittedItem.entryId).toFinset
      pendingProviderItemIds := (providerItemIds g.items).toFinset
      pendingProviderOutputIndices := (providerOutputIndices g.items).toFinset }

/-- What the classifier knows about a staged run on a silent history and the guard does not
    recheck at the commit: it is within the limit, and its turn id and record ids are new. -/
structure Fresh (st : ClassifyState) : Prop where
  size : ∀ g, st.pending = some g → g.items.length ≤ maxAssistantOutputItemsPerTurn
  turnId : ∀ g, st.pending = some g → g.first.item.assistantTurnId ∉ st.committedTurnIds
  entryIds : ∀ g, st.pending = some g → ∀ i ∈ g.items, i.entryId ∉ st.committedOutputEntryIds

theorem fresh_of_silent (entries : List SessionEntry) :
    (classified entries).diagnostics = [] → Fresh (classified entries) := by
  refine classified_induction (P := fun _ st => st.diagnostics = [] → Fresh st) ?_ ?_ entries
  · exact fun _ => ⟨by simp, by simp, by simp⟩
  · intro es e st' ih hcase hsilent
    cases hcase with
    | fault ds pending hne herr =>
      exact absurd (List.append_eq_nil_iff.mp hsilent).2 hne
    | openGroup item htype hparse hturn hid hpend =>
      refine ⟨?_, ?_, ?_⟩
      · rintro g ⟨⟩
        show 1 ≤ 4096
        omega
      · rintro g ⟨⟩
        exact hturn
      · rintro g ⟨⟩
        exact List.forall_mem_singleton.mpr hid
    | extendGroup item g htype hparse hturn hid hpend hsame hlen =>
      have hold := ih hsilent
      refine ⟨?_, ?_, ?_⟩
      · rintro g' ⟨⟩
        rw [PendingGroup.push_items, List.length_append, List.length_singleton]
        omega
      · rintro g' ⟨⟩
        exact hold.turnId g hpend
      · rintro g' ⟨⟩
        exact List.forall_mem_append.mpr
          ⟨hold.entryIds g hpend, List.forall_mem_singleton.mpr hid⟩
    | commitEmpty commit htype hparse hpend hcount hturn =>
      exact ⟨by simp [hpend], by simp [hpend], by simp [hpend]⟩
    | commitGroup => exact ⟨by simp, by simp, by simp⟩
    | pass => exact ih hsilent

variable {st : ClassifyState}

@[simp] theorem ofClassified_none (h : st.pending = none) :
    ofClassified st =
      { committedTurnIds := st.committedTurnIds
        committedOutputEntryIds := st.committedOutputEntryIds } := by
  unfold ofClassified
  rw [h]

theorem ofClassified_some {g : PendingGroup} (h : st.pending = some g) :
    ofClassified st =
      { mode := .pending
        committedTurnIds := st.committedTurnIds
        committedOutputEntryIds := st.committedOutputEntryIds
        pendingTurnId := g.first.item.assistantTurnId
        pendingNextSequence := g.items.length
        pendingOutputEntryIds := (g.items.map CommittedItem.entryId).toFinset
        pendingProviderItemIds := (providerItemIds g.items).toFinset
        pendingProviderOutputIndices := (providerOutputIndices g.items).toFinset } := by
  unfold ofClassified
  rw [h]

/-! ## §3. One record. -/

/-- The identities of one more item, added to the sets of a run, are those of the longer run. -/
theorem addIdentities_eq_ok (items : List CommittedItem) (i : CommittedItem)
    (hp : s.pendingProviderItemIds = (providerItemIds items).toFinset)
    (ho : s.pendingProviderOutputIndices = (providerOutputIndices items).toFinset)
    (he : s.pendingOutputEntryIds = (items.map CommittedItem.entryId).toFinset)
    (hpid : ∀ x ∈ i.item.providerItemId, x ∉ providerItemIds items)
    (hout : ∀ k ∈ i.item.providerOutputIndex, k ∉ providerOutputIndices items) :
    s.addIdentities i.entryId i.item =
      .ok { s with
        pendingOutputEntryIds := ((items ++ [i]).map CommittedItem.entryId).toFinset
        pendingProviderItemIds := (providerItemIds (items ++ [i])).toFinset
        pendingProviderOutputIndices := (providerOutputIndices (items ++ [i])).toFinset } := by
  have hno_id : i.item.providerItemId.any (· ∈ s.pendingProviderItemIds) = false := by
    cases h : i.item.providerItemId with
    | none => rfl
    | some x => simpa [hp] using hpid x (by simp [h])
  have hno_index : i.item.providerOutputIndex.any (· ∈ s.pendingProviderOutputIndices) = false := by
    cases h : i.item.providerOutputIndex with
    | none => rfl
    | some k => simpa [ho] using hout k (by simp [h])
  have hids : i.item.providerItemId.toFinset ∪ s.pendingProviderItemIds =
      (providerItemIds (items ++ [i])).toFinset := by
    rw [hp, Finset.union_comm, providerItemIds, providerItemIds, List.filterMap_append,
      List.toFinset_append]
    cases h : i.item.providerItemId <;> simp [h]
  have hindices : i.item.providerOutputIndex.toFinset ∪ s.pendingProviderOutputIndices =
      (providerOutputIndices (items ++ [i])).toFinset := by
    rw [ho, Finset.union_comm, providerOutputIndices, providerOutputIndices,
      List.filterMap_append, List.toFinset_append]
    cases h : i.item.providerOutputIndex <;> simp [h]
  have hentries : insert i.entryId s.pendingOutputEntryIds =
      ((items ++ [i]).map CommittedItem.entryId).toFinset := by
    rw [he, List.map_append, List.toFinset_append, Finset.union_comm]
    rfl
  unfold addIdentities
  rw [hno_id, hno_index, hids, hindices, hentries]
  rfl

variable {index : Nat}

/-- **Completeness of one step**: a record the classifier stays silent on is accepted, and
    the guard moves to the state of the longer pass. -/
theorem applyCandidate_of_clean {st' : ClassifyState} (hcase : ClassifyCase st index e st')
    (hclean : Clean st') :
    (ofClassified st).applyCandidate e = .ok (ofClassified st') := by
  cases hcase with
  | fault ds pending hne herr =>
    exact absurd (List.append_eq_nil_iff.mp hclean.silent).2 hne
  | openGroup item htype hparse hturn hid hpend =>
    have hok := ((stagingPrefixDiagnostics_eq_nil_iff _).mp (hclean.staged _ rfl)).2
    have hseq : item.sequence = 0 := (groupOk_singleton_iff _).mp hok
    rw [ofClassified_none hpend]
    simp only [applyCandidate, htype, applyItem, hparse, hid,
      Finset.notMem_empty, or_self, ↓reduceIte, hseq, ne_eq, not_true_eq_false, hturn]
    exact addIdentities_eq_ok [] ⟨item, index, e.id⟩ rfl rfl rfl
      (fun _ _ => List.not_mem_nil) (fun _ _ => List.not_mem_nil)
  | extendGroup item g htype hparse hturn hid hpend hsame hlen =>
    have hok := ((stagingPrefixDiagnostics_eq_nil_iff _).mp (hclean.staged _ rfl)).2
    rw [PendingGroup.push_items, groupOk_append_singleton_iff] at hok
    obtain ⟨-, hseq, hnew, hpid, hout⟩ := hok
    have hseq : item.sequence = g.items.length := hseq
    have hnew : e.id ∉ (g.items.map CommittedItem.entryId).toFinset := by
      simpa using hnew
    rw [ofClassified_some hpend]
    simp only [applyCandidate, htype, applyItem, hparse, hid, hnew,
      or_self, ↓reduceIte, hsame, hseq, ne_eq, not_true_eq_false]
    rw [addIdentities_eq_ok g.items ⟨item, index, e.id⟩ rfl rfl rfl hpid hout,
      ofClassified_some rfl, PendingGroup.push_items, List.length_append, ← hsame]
    rfl
  | commitEmpty commit htype hparse hpend hcount hturn =>
    simp only [ofClassified, hpend, applyCandidate, htype,
      applyCommit, hparse, hcount, hturn, ne_eq, not_true_eq_false, ↓reduceIte]
  | commitGroup commit g htype hparse hpend hds =>
    obtain ⟨hsame, hcount, -, hturn, -⟩ := (commitDiagnostics_eq_nil_iff _ _ _ _ _).mp hds
    rw [ofClassified_some hpend, ofClassified_none rfl]
    simp only [applyCandidate, htype, applyCommit, hparse, hsame, hcount,
      hturn, ne_eq, not_true_eq_false, or_self, ↓reduceIte]
  | pass hitem hcommit hpend =>
    rw [applyCandidate_of_other hitem hcommit, ofClassified_none hpend]
    rfl

/-- A run the guard has accepted item by item is a valid staging prefix. -/
theorem clean_of_groupOk {g : PendingGroup} (hsilent : st.diagnostics = [])
    (hpend : st.pending = some g) (hlen : g.items.length ≤ maxAssistantOutputItemsPerTurn)
    (hok : GroupOk g.items) : Clean st := by
  refine ⟨hsilent, fun g' hg' => ?_⟩
  obtain rfl : g = g' := Option.some.inj (hpend.symm.trans hg')
  exact (stagingPrefixDiagnostics_eq_nil_iff g).mpr ⟨hlen, hok⟩

variable {s' : AppendState}

theorem addIdentities_ok_fresh {entryId : Bytes} {item : AssistantOutputItem}
    (h : s.addIdentities entryId item = .ok s') :
    (∀ x ∈ item.providerItemId, x ∉ s.pendingProviderItemIds) ∧
      (∀ k ∈ item.providerOutputIndex, k ∉ s.pendingProviderOutputIndices) := by
  simp only [addIdentities, ite_error_eq_ok] at h
  obtain ⟨hid, hindex, -⟩ := h
  constructor
  · intro x hx hmem
    rw [Option.mem_def] at hx
    simp [hx, hmem] at hid
  · intro k hk hmem
    rw [Option.mem_def] at hk
    simp [hk, hmem] at hindex

section

variable (hclean : Clean st) (hfresh : Fresh st)
include hclean

/-- **Soundness of the remaining step**: the guard lets an ordinary record through only
    between turns, where the classifier ignores it. -/
theorem clean_of_applyOther (h : (ofClassified st).applyOther = .ok s') :
    Clean (classifyOther st index e) := by
  cases hpend : st.pending with
  | none =>
    unfold classifyOther
    rw [hpend]
    exact hclean
  | some g =>
    rw [ofClassified_some hpend] at h
    cases h

include hfresh

/-- **Soundness of the item step**: what the guard accepts, the classifier stays silent on. -/
theorem clean_of_applyItem (h : (ofClassified st).applyItem e = .ok s') :
    Clean (classifyItem st index e) := by
  unfold applyItem at h
  split at h
  next => cases h
  next item hparse =>
    have hlt := parseAssistantOutputItem_sequence_lt hparse
    cases hpend : st.pending with
    | none =>
      rw [ofClassified_none hpend] at h
      simp only [Finset.notMem_empty, or_false, ite_error_eq_ok] at h
      obtain ⟨hid, hseq, hturn, -⟩ := h
      simp only [classifyItem, hparse, hturn, hid, hpend, ↓reduceIte]
      refine clean_of_groupOk hclean.silent rfl (show 1 ≤ 4096 by omega) ?_
      exact (groupOk_singleton_iff _).mpr (not_not.mp hseq)
    | some g =>
      rw [ofClassified_some hpend] at h
      simp only [ite_error_eq_ok] at h
      obtain ⟨hids, hnext, h⟩ := h
      rw [not_or, List.mem_toFinset] at hids
      rw [not_or, not_not, not_not] at hnext
      obtain ⟨hpid, hout⟩ := addIdentities_ok_fresh h
      simp only [List.mem_toFinset] at hpid hout
      have hturn := hfresh.turnId g hpend
      have hlen : ¬ maxAssistantOutputItemsPerTurn ≤ g.items.length := by
        rw [← hnext.2]
        omega
      simp only [classifyItem, hparse, hturn, hids.1, hpend, hnext.1, hlen, ↓reduceIte, ne_eq,
        not_true_eq_false]
      refine clean_of_groupOk hclean.silent rfl ?_ ?_
      · rw [PendingGroup.push_items, List.length_append, List.length_singleton]
        omega
      · rw [PendingGroup.push_items, groupOk_append_singleton_iff]
        have hg := (stagingPrefixDiagnostics_eq_nil_iff g).mp (hclean.staged g hpend)
        exact ⟨hg.2, hnext.2, hids.2, hpid, hout⟩

/-- **Soundness of the commit step.** -/
theorem clean_of_applyCommit (h : (ofClassified st).applyCommit e = .ok s') :
    Clean (classifyCommit st index e) := by
  unfold applyCommit at h
  split at h
  next => cases h
  next commit hparse =>
    cases hpend : st.pending with
    | none =>
      rw [ofClassified_none hpend] at h
      simp only [ite_error_eq_ok] at h
      obtain ⟨hcount, hturn, -⟩ := h
      simp only [classifyCommit, hparse, hpend, hcount, hturn, ↓reduceIte]
      exact ⟨hclean.silent, by simp⟩
    | some g =>
      rw [ofClassified_some hpend] at h
      simp only [ite_error_eq_ok] at h
      obtain ⟨hmatch, hturn, -⟩ := h
      rw [not_or, not_not, not_not] at hmatch
      have hg := (stagingPrefixDiagnostics_eq_nil_iff g).mp (hclean.staged g hpend)
      have hds : commitDiagnostics st index e commit g = [] :=
        (commitDiagnostics_eq_nil_iff _ _ _ _ _).mpr
          ⟨hmatch.1.symm, hmatch.2.symm, hg.2, hturn, hfresh.entryIds g hpend⟩
      simp only [classifyCommit, hparse, hpend, hds, ↓reduceIte]
      exact ⟨hclean.silent, by simp⟩

/-- **ONE RECORD.**  On a silent history the guard accepts a record exactly when the
    classifier stays silent on it, and the two then stand in corresponding states. -/
theorem applyCandidate_eq_ok_iff :
    (ofClassified st).applyCandidate e = .ok s' ↔
      Clean (classifyStep st index e) ∧ s' = ofClassified (classifyStep st index e) := by
  have hcomplete := fun hc => applyCandidate_of_clean (classifyStep_case st index e) hc
  constructor
  · intro h
    have hc : Clean (classifyStep st index e) := by
      by_cases hitem : e.type = .assistantOutputItem
      · rw [applyCandidate, hitem] at h
        rw [classifyStep_of_item hitem]
        exact clean_of_applyItem hclean hfresh h
      · by_cases hcommit : e.type = .assistantTurnCommit
        · rw [applyCandidate, hcommit] at h
          rw [classifyStep_of_commit hcommit]
          exact clean_of_applyCommit hclean hfresh h
        · rw [applyCandidate_of_other hitem hcommit] at h
          rw [classifyStep_of_other hitem hcommit]
          exact clean_of_applyOther hclean h
    refine ⟨hc, ?_⟩
    rw [hcomplete hc] at h
    injection h with h
    exact h.symm
  · intro h
    rw [h.2]
    exact hcomplete h.1

end

variable {es : List SessionEntry}

theorem applyCandidate_classified_iff (c : SessionEntry) (s' : AppendState)
    (hclean : Clean (classified es)) :
    (ofClassified (classified es)).applyCandidate c = .ok s' ↔
      Clean (classified (es ++ [c])) ∧
        s' = ofClassified (classified (es ++ [c])) := by
  rw [classified_append_singleton]
  exact applyCandidate_eq_ok_iff hclean (fresh_of_silent es hclean.silent)

/-- A record can only make matters worse: before a clean state stood a clean state. -/
theorem clean_of_clean_step {st' : ClassifyState} (hfresh : st.diagnostics = [] → Fresh st)
    (hcase : ClassifyCase st index e st') (hclean : Clean st') : Clean st := by
  cases hcase with
  | fault ds pending hne herr =>
    exact absurd (List.append_eq_nil_iff.mp hclean.silent).2 hne
  | openGroup item htype hparse hturn hid hpend =>
    exact ⟨hclean.silent, by simp [hpend]⟩
  | extendGroup item g htype hparse hturn hid hpend hsame hlen =>
    have hok := ((stagingPrefixDiagnostics_eq_nil_iff _).mp (hclean.staged _ rfl)).2
    rw [PendingGroup.push_items, groupOk_append_singleton_iff] at hok
    exact clean_of_groupOk hclean.silent hpend (by omega) hok.1
  | commitEmpty commit htype hparse hpend hcount hturn =>
    exact ⟨hclean.silent, by simp [hpend]⟩
  | commitGroup commit g htype hparse hpend hds =>
    obtain ⟨-, -, hok, -, -⟩ := (commitDiagnostics_eq_nil_iff _ _ _ _ _).mp hds
    exact clean_of_groupOk hclean.silent hpend ((hfresh hclean.silent).size g hpend) hok
  | pass => exact hclean

/-- Every beginning of a clean history is clean. -/
theorem clean_of_clean_append (es fs : List SessionEntry) (h : Clean (classified (es ++ fs))) :
    Clean (classified es) := by
  induction fs using List.reverseRecOn with
  | nil => simpa using h
  | append_singleton fs e ih =>
    apply ih
    rw [← List.append_assoc] at h
    exact clean_of_clean_step (fresh_of_silent _) (classified_append_case _ _) h

/-- **A RUN OF RECORDS.**  From the state of a clean history the guard accepts a list of
    candidates exactly when the longer history is clean, and ends in its state. -/
theorem applyCandidates_eq_ok_iff (cs : List SessionEntry) :
    ∀ {es : List SessionEntry} (s' : AppendState), Clean (classified es) →
      ((ofClassified (classified es)).applyCandidates cs = .ok s' ↔
        Clean (classified (es ++ cs)) ∧
          s' = ofClassified (classified (es ++ cs))) := by
  induction cs with
  | nil =>
    intro es s' hclean
    rw [List.append_nil]
    constructor
    · intro h
      injection h with h
      exact ⟨hclean, h.symm⟩
    · intro h
      rw [h.2]
      rfl
  | cons c cs ih =>
    intro es s' hclean
    have hstep := fun s => applyCandidate_classified_iff c s hclean
    rw [show es ++ c :: cs = (es ++ [c]) ++ cs by simp]
    unfold applyCandidates
    constructor
    · intro h
      split at h
      next => cases h
      next s hs =>
        obtain ⟨hc, rfl⟩ := (hstep s).mp hs
        exact (ih s' hc).mp h
    · intro h
      have hc := clean_of_clean_append (es ++ [c]) cs h.1
      rw [(hstep _).mpr ⟨hc, rfl⟩]
      exact (ih s' hc).mpr h

/-! ## §4. The guard rebuilt from a history. -/

theorem addCommittedItems_eq_ok : ∀ (items : List CommittedItem) (s : AppendState),
    (items.map CommittedItem.entryId).Nodup →
    (∀ i ∈ items, i.entryId ∉ s.committedOutputEntryIds) →
      s.addCommittedItems items =
        .ok { s with committedOutputEntryIds :=
          s.committedOutputEntryIds ∪ (items.map CommittedItem.entryId).toFinset }
  | [], s, _, _ => by simp [addCommittedItems]
  | i :: is, s, hnodup, hfresh => by
    rw [List.map_cons, List.nodup_cons] at hnodup
    unfold addCommittedItems
    rw [if_neg (hfresh i List.mem_cons_self), addCommittedItems_eq_ok is _ hnodup.2]
    · simp [Finset.insert_union, Finset.union_insert]
    · intro j hj hmem
      rcases Finset.mem_insert.mp hmem with heq | hmem
      · exact hnodup.1 (heq ▸ List.mem_map_of_mem hj)
      · exact hfresh j (List.mem_cons_of_mem _ hj) hmem

theorem addCommittedTurns_eq_ok : ∀ (turns : List CommittedTurn) (s : AppendState),
    (turns.map fun t => t.commit.assistantTurnId).Nodup →
    (turns.flatMap fun t => t.items.map CommittedItem.entryId).Nodup →
    (∀ t ∈ turns, t.commit.assistantTurnId ∉ s.committedTurnIds) →
    (∀ t ∈ turns, ∀ i ∈ t.items, i.entryId ∉ s.committedOutputEntryIds) →
      s.addCommittedTurns turns =
        .ok { s with
          committedTurnIds :=
            s.committedTurnIds ∪ (turns.map fun t => t.commit.assistantTurnId).toFinset
          committedOutputEntryIds := s.committedOutputEntryIds ∪
            (turns.flatMap fun t => t.items.map CommittedItem.entryId).toFinset }
  | [], s, _, _, _, _ => by simp [addCommittedTurns]
  | t :: ts, s, hturns, hids, hfreshTurn, hfreshId => by
    rw [List.map_cons, List.nodup_cons] at hturns
    rw [List.flatMap_cons, List.nodup_append] at hids
    obtain ⟨hitems, hrest, hdisj⟩ := hids
    unfold addCommittedTurns
    rw [if_neg (hfreshTurn t List.mem_cons_self),
      addCommittedItems_eq_ok t.items _ hitems]
    dsimp only
    rw [addCommittedTurns_eq_ok ts _ hturns.2 hrest]
    · simp [Finset.insert_union, Finset.union_insert]
    · intro u hu hmem
      rcases Finset.mem_insert.mp hmem with heq | hmem
      · exact hturns.1 (heq ▸ List.mem_map_of_mem hu)
      · exact hfreshTurn u (List.mem_cons_of_mem _ hu) hmem
    · intro u hu i hi hmem
      rcases Finset.mem_union.mp hmem with hmem | hmem
      · exact hfreshId u (List.mem_cons_of_mem _ hu) i hi hmem
      · have hi' : i.entryId ∈ ts.flatMap fun t => t.items.map CommittedItem.entryId :=
          List.mem_flatMap.mpr ⟨u, hu, List.mem_map_of_mem hi⟩
        exact hdisj _ (List.mem_toFinset.mp hmem) _ hi' rfl
    · exact hfreshId t List.mem_cons_self

/-- The committed sets rebuilt from the turns are those of the pass. -/
theorem addCommittedTurns_classified (es : List SessionEntry) :
    addCommittedTurns {} (classified es).turns =
      .ok { committedTurnIds := (classified es).committedTurnIds
            committedOutputEntryIds := (classified es).committedOutputEntryIds } := by
  have hidx := classified_indexed es
  rw [addCommittedTurns_eq_ok _ _ hidx.turnIds_nodup hidx.entryIds_nodup
    (fun _ _ => Finset.notMem_empty _) (fun _ _ _ _ => Finset.notMem_empty _)]
  rw [hidx.turnIds_eq, hidx.entryIds_eq, Finset.empty_union, Finset.empty_union]

/-- Output items never touch the committed sets. -/
theorem classified_append_items (es : List SessionEntry) : ∀ fs : List SessionEntry,
    (∀ e ∈ fs, e.type = .assistantOutputItem) →
      (classified (es ++ fs)).committedTurnIds = (classified es).committedTurnIds ∧
      (classified (es ++ fs)).committedOutputEntryIds =
        (classified es).committedOutputEntryIds := by
  intro fs
  induction fs using List.reverseRecOn with
  | nil =>
    intro _
    rw [List.append_nil]
    exact ⟨rfl, rfl⟩
  | append_singleton fs e ih =>
    intro hitems
    have htype : e.type = .assistantOutputItem := hitems e (by simp)
    have hold := ih fun d hd => hitems d (List.mem_append_left _ hd)
    rw [← List.append_assoc, ← hold.1, ← hold.2]
    have hcase := classified_append_case (es ++ fs) e
    generalize classified (es ++ fs ++ [e]) = st' at hcase
    cases hcase with
    | fault | openGroup | extendGroup | pass => exact ⟨rfl, rfl⟩
    | commitEmpty commit hcommit | commitGroup commit g hcommit =>
      rw [htype] at hcommit
      cases hcommit

/-- After any record other than an output item no run is staged on a clean history. -/
theorem pending_none_of_last (hclean : Clean (classified (es ++ [e])))
    (htype : e.type ≠ .assistantOutputItem) :
    (classified (es ++ [e])).pending = none := by
  have hcase := classified_append_case es e
  generalize classified (es ++ [e]) = st' at hcase hclean
  cases hcase with
  | fault ds pending hne herr =>
    exact absurd (List.append_eq_nil_iff.mp hclean.silent).2 hne
  | openGroup item hitem | extendGroup item g hitem => exact absurd hitem htype
  | commitEmpty commit hcommit hparse hpend | pass hitem hcommit hpend => exact hpend
  | commitGroup => rfl

/-- **A clean history splits into a part that ends between turns and its staged suffix.** -/
theorem exists_closed_prefix (es : List SessionEntry) (hclean : Clean (classified es)) :
    ∃ ps, es = ps ++ stagedSuffix es ∧ (classified ps).pending = none ∧
      ∀ e ∈ stagedSuffix es, e.type = .assistantOutputItem := by
  have hsplit : es = (es.reverse.dropWhile fun e => e.type = .assistantOutputItem).reverse ++
      stagedSuffix es := by
    rw [stagedSuffix, ← List.reverse_append, List.takeWhile_append_dropWhile, List.reverse_reverse]
  refine ⟨_, hsplit, ?_, ?_⟩
  · cases hrest : es.reverse.dropWhile fun e => e.type = .assistantOutputItem with
    | nil => rfl
    | cons e rest =>
      -- the record in front of the suffix stopped the scan, so it is not an item
      have htype : e.type ≠ .assistantOutputItem := by
        have h := List.head_dropWhile_not (fun e : SessionEntry => e.type = .assistantOutputItem)
          (l := es.reverse) (by simp [hrest])
        simpa [hrest] using h
      rw [hrest, List.reverse_cons] at hsplit
      rw [hsplit] at hclean
      rw [List.reverse_cons]
      exact pending_none_of_last (clean_of_clean_append _ _ hclean) htype
  · intro e he
    rw [stagedSuffix, List.mem_reverse] at he
    simpa using List.all_eq_true.mp List.all_takeWhile e he

theorem finalDiagnostics_of_clean (hclean : Clean st) :
    (∀ d ∈ finalDiagnostics st.pending, d.isIncomplete = true) ∧
      (finalDiagnostics st.pending = [] ↔ st.pending = none) := by
  cases hpend : st.pending with
  | none => simp [finalDiagnostics]
  | some g => simp [finalDiagnostics, hclean.staged g hpend, Diagnostic.isIncomplete]

/-- **The guard rebuilt from a clean history is the state of its pass.** -/
theorem fromValidatedHistory_of_clean (hclean : Clean (classified es)) :
    fromValidatedHistory es = .ok (ofClassified (classified es)) := by
  obtain ⟨ps, hsplit, hclosed, hitems⟩ := exists_closed_prefix es hclean
  obtain ⟨hwarn, hnone⟩ := finalDiagnostics_of_clean hclean
  have hcps : Clean (classified ps) := clean_of_clean_append ps (stagedSuffix es) (hsplit ▸ hclean)
  have hsets := classified_append_items ps (stagedSuffix es) hitems
  rw [← hsplit] at hsets
  have hfind : (finalDiagnostics (classified es).pending).find? (fun d => !d.isIncomplete) = none := by
    rw [List.find?_eq_none]
    intro d hd
    simp [hwarn d hd]
  -- the sets rebuilt from the turns are the guard state of the closed part
  have hbase : ({ committedTurnIds := (classified es).committedTurnIds
                  committedOutputEntryIds := (classified es).committedOutputEntryIds } : AppendState)
      = ofClassified (classified ps) := by
    rw [ofClassified_none hclosed, hsets.1, hsets.2]
  have happly := (applyCandidates_eq_ok_iff (stagedSuffix es) _ hcps).mpr
    ⟨hsplit ▸ hclean, rfl⟩
  rw [← hsplit] at happly
  unfold fromValidatedHistory
  dsimp only
  rw [classifyAssistantOutput_eq, hclean.silent, List.nil_append, hfind,
    addCommittedTurns_classified, hbase]
  dsimp only
  cases hpend : (classified es).pending with
  | none =>
    rw [← hbase, ofClassified_none hpend]
    rfl
  | some g =>
    have hsuffix : (stagedSuffix es).isEmpty = false := by
      cases hempty : stagedSuffix es with
      | nil =>
        rw [hempty, List.append_nil] at hsplit
        rw [hsplit, hclosed] at hpend
        cases hpend
      | cons => rfl
    have hany : (finalDiagnostics (some g)).any Diagnostic.isIncomplete = true := by
      simp [finalDiagnostics, hclean.staged g hpend, Diagnostic.isIncomplete]
    rw [hany, hsuffix, happly, ofClassified_some hpend]
    rfl

/-! ## §5. The refinement theorem. -/

/-- Whether the classifier reports a staged, uncommitted final run. -/
def Projection.reportsIncomplete (p : Projection) : Bool := p.diagnostics.any Diagnostic.isIncomplete

theorem ready_ofClassified (hclean : Clean (classified es)) :
    (ofClassified (classified es)).ready =
      !(classifyAssistantOutput es).reportsIncomplete := by
  rw [Projection.reportsIncomplete, classifyAssistantOutput_eq, hclean.silent, List.nil_append]
  cases hpend : (classified es).pending with
  | none =>
    rw [ofClassified_none hpend]
    rfl
  | some g =>
    rw [ofClassified_some hpend]
    simp [finalDiagnostics, hclean.staged g hpend, Diagnostic.isIncomplete, ready]

theorem refines_of_eq_ok_iff {answer : Result AppendState}
    (h : ∀ next, answer = .ok next ↔
      Clean (classified es) ∧ next = ofClassified (classified es)) :
    (answer.isOk = true ↔ (classifyAssistantOutput es).errorFree = true) ∧
      ∀ next, answer = .ok next → fromValidatedHistory es = .ok next ∧
        next.ready = !(classifyAssistantOutput es).reportsIncomplete := by
  constructor
  · rw [Result.isOk_iff, errorFree_iff_clean]
    constructor
    · intro ⟨next, hnext⟩
      exact ((h next).mp hnext).1
    · intro hc
      exact ⟨_, (h _).mpr ⟨hc, rfl⟩⟩
  · intro next hnext
    obtain ⟨hc, rfl⟩ := (h next).mp hnext
    exact ⟨fromValidatedHistory_of_clean hc, ready_ofClassified hc⟩

/-- **THE GUARD REFINES THE CLASSIFIER.**  For every history the classifier finds free of
    errors the guard can be rebuilt.  It accepts a candidate exactly when the classifier still
    reports no error on the extended history; the state it moves to is the one rebuilt from
    that history, and it is ready exactly when no incomplete turn is reported.  The same holds
    for every sequence of candidates accepted one after the other. -/
theorem applyCandidate_refines_classifier (history : List SessionEntry)
    (hfree : (classifyAssistantOutput history).errorFree = true) :
    ∃ state, fromValidatedHistory history = .ok state ∧
      state.ready = !(classifyAssistantOutput history).reportsIncomplete ∧
      (∀ candidate,
        ((state.applyCandidate candidate).isOk = true ↔
          (classifyAssistantOutput (history ++ [candidate])).errorFree = true) ∧
        ∀ next, state.applyCandidate candidate = .ok next →
          fromValidatedHistory (history ++ [candidate]) = .ok next ∧
          next.ready = !(classifyAssistantOutput (history ++ [candidate])).reportsIncomplete) ∧
      (∀ candidates,
        ((state.applyCandidates candidates).isOk = true ↔
          (classifyAssistantOutput (history ++ candidates)).errorFree = true) ∧
        ∀ next, state.applyCandidates candidates = .ok next →
          fromValidatedHistory (history ++ candidates) = .ok next ∧
          next.ready = !(classifyAssistantOutput (history ++ candidates)).reportsIncomplete) := by
  have hclean := (errorFree_iff_clean history).mp hfree
  refine ⟨_, fromValidatedHistory_of_clean hclean, ready_ofClassified hclean, ?_, ?_⟩
  · intro candidate
    exact refines_of_eq_ok_iff fun next => applyCandidate_classified_iff candidate next hclean
  · intro candidates
    exact refines_of_eq_ok_iff fun next => applyCandidates_eq_ok_iff candidates next hclean

set_option maxRecDepth 1024

/-- A staged function call. -/
def stagedCall : SessionEntry :=
  { id := ascii "e1", parentId := [], type := .assistantOutputItem, timestamp := ascii "t"
    dataJson := ascii
      "\x7b\"schema_version\":1,\"assistant_turn_id\":\"t1\",\"sequence\":0,\"kind\":\"function_call\",\"call_id\":\"c1\",\"name\":\"read\",\"arguments\":\"\x7b\x7d\"\x7d" }

/-- A history that ends in one staged function call. -/
def stagedCallHistory : List SessionEntry := [stagedCall]

/-- The refinement theorem at a history that is not ready: the guard is rebuilt as pending,
    and refuses exactly the candidates the classifier reports. -/
theorem applyCandidate_refines_classifier_staged :
    (classifyAssistantOutput stagedCallHistory).errorFree = true ∧
      ∃ state, fromValidatedHistory stagedCallHistory = .ok state ∧
        state.ready = false := by
  have hfree : (classifyAssistantOutput stagedCallHistory).errorFree = true := by decide
  obtain ⟨state, hstate, hready, -⟩ := applyCandidate_refines_classifier stagedCallHistory hfree
  refine ⟨hfree, state, hstate, ?_⟩
  rw [hready]
  decide

end Ava.Session
