/-
  Ava.Session.Classify
  **THE WHOLE-HISTORY CLASSIFIER** `classify_assistant_output`: one pass over the records that
  turns every properly staged and committed run of output items into a `CommittedAssistantTurn`
  and reports everything else as a diagnostic.

    - `classifyStep` : one record; `classifyLoop` : the pass; `classifyAssistantOutput` adds the
      verdict on a staged run the history ends in;
    - `toolResultWindow` : the records after a commit in which its results may stand;
    - §4 `classifyLoop_append` and the invariant `Indexed` that ties the committed-id sets of
      the pass to the turns it has produced.
-/
import Mathlib.Data.Finset.Lattice.Lemmas
import Mathlib.Data.List.Nodup
import Ava.Session.AssistantOutput

namespace Ava.Session

open Ava.Core

/-! ## §1. The projection. -/

inductive DiagnosticSeverity where
  | warning | error
deriving Repr, DecidableEq

inductive DiagnosticKind where
  | invalidAssistantOutputItem | invalidAssistantTurnCommit | incompleteAssistantTurn
  | malformedAssistantTurn
deriving Repr, DecidableEq

/-- `to_string(AssistantOutputDiagnosticKind)`. -/
def DiagnosticKind.toBytes : DiagnosticKind → Bytes
  | .invalidAssistantOutputItem => ascii "invalid_assistant_output_item"
  | .invalidAssistantTurnCommit => ascii "invalid_assistant_turn_commit"
  | .incompleteAssistantTurn => ascii "incomplete_assistant_turn"
  | .malformedAssistantTurn => ascii "malformed_assistant_turn"

/-- `AssistantOutputDiagnostic`. -/
structure Diagnostic where
  severity : DiagnosticSeverity
  kind : DiagnosticKind
  entryIndex : Nat
  entryId : Bytes
  message : Bytes
deriving Repr, DecidableEq

/-- An error diagnostic of kind `MalformedAssistantTurn`. -/
def malformed (entryIndex : Nat) (entryId message : Bytes) : Diagnostic :=
  { severity := .error, kind := .malformedAssistantTurn, entryIndex, entryId, message }

/-- `CommittedAssistantOutputItem`. -/
structure CommittedItem where
  item : AssistantOutputItem
  entryIndex : Nat
  entryId : Bytes
deriving Repr, DecidableEq

/-- `CommittedAssistantTurn`. -/
structure CommittedTurn where
  startIndex : Nat
  commitIndex : Nat
  commitEntryId : Bytes
  commit : AssistantTurnCommit
  items : List CommittedItem
deriving Repr, DecidableEq

/-- `AssistantOutputProjection`, without its two index maps: every `emplace` into them stands
    beside the `push_back` of its turn, so they are functions of the turns, and are defined where
    the lookups are. -/
structure Projection where
  turns : List CommittedTurn
  diagnostics : List Diagnostic
deriving Repr, DecidableEq

/-- No diagnostic of severity `Error`. -/
def Projection.errorFree (p : Projection) : Bool :=
  p.diagnostics.all fun d => d.severity = .warning

/-! ## §2. One record. -/

/-- `PendingAssistantOutputGroup`: a staged run is never empty, so its first item is a
    field of its own. -/
structure PendingGroup where
  startIndex : Nat
  first : CommittedItem
  rest : List CommittedItem
deriving Repr, DecidableEq

/-- All items of the run, in the order staged. -/
def PendingGroup.items (g : PendingGroup) : List CommittedItem := g.first :: g.rest

/-- `pending->items.push_back`. -/
def PendingGroup.push (g : PendingGroup) (i : CommittedItem) : PendingGroup :=
  { g with rest := g.rest ++ [i] }

/-- `group_has_dense_sequence`, from a given index on. -/
def denseFrom : Nat → List CommittedItem → Bool
  | _, [] => true
  | n, i :: is => i.item.sequence == n && denseFrom (n + 1) is

/-- `group_has_unique_provider_identity`: the diagnostics it adds, none when it succeeds. -/
def providerIdentityDiagnostics (description : Bytes) :
    List Bytes → List Nat → List CommittedItem → List Diagnostic
  | _, _, [] => []
  | itemIds, outputIndices, i :: is =>
    (match i.item.providerItemId with
      | some id =>
        if id ∈ itemIds then
          [malformed i.entryIndex i.entryId (description ++ ascii " duplicates provider_item_id")]
        else []
      | none => []) ++
    (match i.item.providerOutputIndex with
      | some k =>
        if k ∈ outputIndices then
          [malformed i.entryIndex i.entryId
            (description ++ ascii " duplicates provider_output_index")]
        else []
      | none => []) ++
    providerIdentityDiagnostics description (i.item.providerItemId.toList ++ itemIds)
      (i.item.providerOutputIndex.toList ++ outputIndices) is

/-- `group_has_unique_physical_entry_ids`. -/
def physicalEntryIdDiagnostics (description : Bytes) :
    List Bytes → List CommittedItem → List Diagnostic
  | _, [] => []
  | entryIds, i :: is =>
    (if i.entryId ∈ entryIds then
      [malformed i.entryIndex i.entryId
        (description ++ ascii " duplicates physical output entry id")]
    else []) ++ physicalEntryIdDiagnostics description (i.entryId :: entryIds) is

/-- `group_is_valid_staging_prefix`. -/
def stagingPrefixDiagnostics (g : PendingGroup) : List Diagnostic :=
  (if maxAssistantOutputItemsPerTurn < g.items.length then
    [malformed g.first.entryIndex g.first.entryId
      (ascii "final staged assistant turn exceeds 4096 output items")]
  else []) ++
  (if denseFrom 0 g.items then []
  else
    [malformed g.first.entryIndex g.first.entryId
      (ascii "final staged assistant turn sequence values must be dense from zero through item_count minus one")]) ++
  providerIdentityDiagnostics (ascii "final staged assistant turn") [] [] g.items ++
  physicalEntryIdDiagnostics (ascii "final staged assistant turn") [] g.items

/-- The variables `classify_assistant_output` carries from record to record. -/
structure ClassifyState where
  turns : List CommittedTurn := []
  diagnostics : List Diagnostic := []
  pending : Option PendingGroup := none
  committedTurnIds : Finset Bytes := ∅
  committedOutputEntryIds : Finset Bytes := ∅
deriving DecidableEq

variable (st : ClassifyState)

/-- Reporting diagnostics. -/
def ClassifyState.report (ds : List Diagnostic) : ClassifyState :=
  { st with diagnostics := st.diagnostics ++ ds }

/-- Reporting diagnostics and `pending.reset()`. -/
def ClassifyState.abandon (ds : List Diagnostic) : ClassifyState :=
  { st with diagnostics := st.diagnostics ++ ds, pending := none }

/-- A record of type `assistant_output_item`. -/
def classifyItem (index : Nat) (entry : SessionEntry) : ClassifyState :=
  match parseAssistantOutputItem entry with
  | .error e =>
    st.abandon
      [{ severity := .error, kind := .invalidAssistantOutputItem, entryIndex := index,
         entryId := entry.id, message := e.message },
       malformed index entry.id
        (if st.pending.isSome then ascii "staged assistant turn contains an invalid output item"
         else ascii "invalid assistant output item cannot form a staged assistant turn")]
  | .ok item =>
    let physical : CommittedItem := { item, entryIndex := index, entryId := entry.id }
    if item.assistantTurnId ∈ st.committedTurnIds then
      st.abandon [malformed index entry.id
        (ascii "staged assistant output item reuses a committed assistant_turn_id")]
    else if entry.id ∈ st.committedOutputEntryIds then
      st.abandon [malformed index entry.id
        (ascii "staged assistant output item reuses a committed physical output entry id")]
    else
      match st.pending with
      | none => { st with pending := some { startIndex := index, first := physical, rest := [] } }
      | some g =>
        if g.first.item.assistantTurnId ≠ item.assistantTurnId then
          { st.report [malformed index entry.id
              (ascii "staged assistant turn is followed by an output item for another assistant_turn_id")]
            with pending := some { startIndex := index, first := physical, rest := [] } }
        else if maxAssistantOutputItemsPerTurn ≤ g.items.length then
          st.abandon [malformed index entry.id
            (ascii "staged assistant turn exceeds 4096 output items")]
        else { st with pending := some (g.push physical) }

/-- The last check of a commit: no item id is committed already or repeated in the group. -/
def committedEntryIdDiagnostics (committed : Finset Bytes) :
    List Bytes → List CommittedItem → List Diagnostic
  | _, [] => []
  | seen, i :: is =>
    (if i.entryId ∈ committed ∨ i.entryId ∈ seen then
      [malformed i.entryIndex i.entryId
        (ascii "committed assistant output entry id is duplicated")]
    else []) ++ committedEntryIdDiagnostics committed (i.entryId :: seen) is

/-- Everything a commit reports about the run it closes; `valid` is that this is empty. -/
def commitDiagnostics (index : Nat) (entry : SessionEntry) (commit : AssistantTurnCommit)
    (g : PendingGroup) : List Diagnostic :=
  (if g.first.item.assistantTurnId ≠ commit.assistantTurnId then
    [malformed index entry.id
      (ascii "assistant_turn_commit assistant_turn_id does not match its staged output items")]
  else []) ++
  (if g.items.length ≠ commit.itemCount then
    [malformed index entry.id
      (ascii "assistant_turn_commit item_count does not match its staged output items")]
  else []) ++
  (if denseFrom 0 g.items then []
  else
    [malformed index entry.id
      (ascii "assistant_output_item sequence values must be dense from zero through item_count minus one")]) ++
  providerIdentityDiagnostics (ascii "committed assistant turn") [] [] g.items ++
  physicalEntryIdDiagnostics (ascii "committed assistant turn") [] g.items ++
  (if commit.assistantTurnId ∈ st.committedTurnIds then
    [malformed index entry.id (ascii "assistant_turn_id is duplicated by a committed assistant turn")]
  else []) ++
  committedEntryIdDiagnostics st.committedOutputEntryIds [] g.items

/-- A record of type `assistant_turn_commit`. -/
def classifyCommit (index : Nat) (entry : SessionEntry) : ClassifyState :=
  match parseAssistantTurnCommit entry with
  | .error e =>
    let invalid : Diagnostic :=
      { severity := .error, kind := .invalidAssistantTurnCommit, entryIndex := index,
        entryId := entry.id, message := e.message }
    match st.pending with
    | none => st.report [invalid]
    | some _ =>
      st.abandon [invalid, malformed index entry.id
        (ascii "staged assistant turn is not followed by a valid commit")]
  | .ok commit =>
    match st.pending with
    | none =>
      if commit.itemCount ≠ 0 then
        st.report [malformed index entry.id
          (ascii "assistant_turn_commit with no staged items must have item_count zero")]
      else if commit.assistantTurnId ∈ st.committedTurnIds then
        st.report [malformed index entry.id
          (ascii "assistant_turn_id is duplicated by a committed assistant turn")]
      else
        { st with
          committedTurnIds := insert commit.assistantTurnId st.committedTurnIds
          turns := st.turns ++
            [{ startIndex := index, commitIndex := index, commitEntryId := entry.id, commit,
               items := [] }] }
    | some g =>
      let ds := commitDiagnostics st index entry commit g
      if ds = [] then
        { st with
          pending := none
          committedTurnIds := insert commit.assistantTurnId st.committedTurnIds
          committedOutputEntryIds :=
            st.committedOutputEntryIds ∪ (g.items.map CommittedItem.entryId).toFinset
          turns := st.turns ++
            [{ startIndex := g.startIndex, commitIndex := index, commitEntryId := entry.id,
               commit, items := g.items }] }
      else st.abandon ds

/-- Any other record: it may not stand inside a staged run. -/
def classifyOther (index : Nat) (entry : SessionEntry) : ClassifyState :=
  match st.pending with
  | none => st
  | some _ =>
    st.abandon [malformed index entry.id
      (ascii "staged assistant turn is followed by an unrelated session entry instead of its commit")]

/-- The body of the classifier's loop. -/
def classifyStep (index : Nat) (entry : SessionEntry) : ClassifyState :=
  match entry.type with
  | .assistantOutputItem => classifyItem st index entry
  | .assistantTurnCommit => classifyCommit st index entry
  | _ => classifyOther st index entry

/-! ## §3. The pass, and the windows of committed turns. -/

/-- The classifier's loop from a given index on. -/
def classifyLoop : ClassifyState → Nat → List SessionEntry → ClassifyState
  | st, _, [] => st
  | st, index, e :: es => classifyLoop (classifyStep st index e) (index + 1) es

/-- The diagnostics of a staged run the history ends in: its defects, or the warning that
    it is ignored. -/
def finalDiagnostics : Option PendingGroup → List Diagnostic
  | none => []
  | some g =>
    let ds := stagingPrefixDiagnostics g
    if ds = [] then
      [{ severity := .warning, kind := .incompleteAssistantTurn, entryIndex := g.first.entryIndex,
         entryId := g.first.entryId,
         message := ascii "final staged assistant turn has no commit and is ignored" }]
    else ds

/-- `classify_assistant_output`. -/
def classifyAssistantOutput (entries : List SessionEntry) : Projection :=
  let st := classifyLoop {} 0 entries
  { turns := st.turns, diagnostics := st.diagnostics ++ finalDiagnostics st.pending }

/-- `closes_committed_assistant_output_tool_result_window`. -/
def closesToolResultWindow (t : EntryType) : Bool :=
  t = .userMessage || t = .assistantMessage || t = .assistantOutputItem ||
    t = .assistantTurnCommit || t = .compaction

/-- `AssistantOutputToolResultWindow`, a half-open range of record indices. -/
structure ToolResultWindow where
  beginIndex : Nat
  endIndex : Nat
deriving Repr, DecidableEq

/-- `AssistantOutputToolResultWindow::contains`. -/
def ToolResultWindow.contains (w : ToolResultWindow) (index : Nat) : Bool :=
  decide (w.beginIndex ≤ index) && decide (index < w.endIndex)

/-- `committed_assistant_output_tool_result_window`. -/
def toolResultWindow (entries : List SessionEntry) (turn : CommittedTurn) : ToolResultWindow :=
  if entries.length ≤ turn.commitIndex then
    { beginIndex := entries.length, endIndex := entries.length }
  else
    let after := entries.drop (turn.commitIndex + 1)
    { beginIndex := turn.commitIndex + 1
      endIndex := turn.commitIndex + 1 +
        (after.takeWhile fun e => !closesToolResultWindow e.type).length }

/-! ## §4. When a group is well formed. -/

/-- The provider item ids present in a run. -/
def providerItemIds (items : List CommittedItem) : List Bytes :=
  items.filterMap fun i => i.item.providerItemId

/-- The provider output indices present in a run. -/
def providerOutputIndices (items : List CommittedItem) : List Nat :=
  items.filterMap fun i => i.item.providerOutputIndex

/-- **What a staged run must satisfy to be committable**: dense sequence numbers, and no
    repeated provider id, output index or record id. -/
structure GroupOk (items : List CommittedItem) : Prop where
  dense : denseFrom 0 items = true
  providerIds : (providerItemIds items).Nodup
  outputIndices : (providerOutputIndices items).Nodup
  entryIds : (items.map CommittedItem.entryId).Nodup

theorem providerIdentityDiagnostics_eq_nil_iff (d : Bytes) :
    ∀ (ids : List Bytes) (ks : List Nat) (items : List CommittedItem),
      providerIdentityDiagnostics d ids ks items = [] ↔
        ((providerItemIds items).Nodup ∧ ∀ x ∈ providerItemIds items, x ∉ ids) ∧
        ((providerOutputIndices items).Nodup ∧ ∀ k ∈ providerOutputIndices items, k ∉ ks)
  | _, _, [] => by simp [providerIdentityDiagnostics, providerItemIds, providerOutputIndices]
  | ids, ks, i :: is => by
    have ih := providerIdentityDiagnostics_eq_nil_iff d (i.item.providerItemId.toList ++ ids)
      (i.item.providerOutputIndex.toList ++ ks) is
    simp only [providerIdentityDiagnostics, List.append_eq_nil_iff, ih]
    -- the two optional members are independent: split on which of them is present
    cases hid : i.item.providerItemId <;> cases hk : i.item.providerOutputIndex <;>
      simp [providerItemIds, providerOutputIndices, hid, hk] <;> grind

theorem physicalEntryIdDiagnostics_eq_nil_iff (d : Bytes) :
    ∀ (seen : List Bytes) (items : List CommittedItem),
      physicalEntryIdDiagnostics d seen items = [] ↔
        (items.map CommittedItem.entryId).Nodup ∧
          ∀ x ∈ items.map CommittedItem.entryId, x ∉ seen
  | _, [] => by simp [physicalEntryIdDiagnostics]
  | seen, i :: is => by
    have ih := physicalEntryIdDiagnostics_eq_nil_iff d (i.entryId :: seen) is
    simp only [physicalEntryIdDiagnostics, List.append_eq_nil_iff, ih]
    simp
    grind

theorem committedEntryIdDiagnostics_eq_nil_iff (committed : Finset Bytes) :
    ∀ (seen : List Bytes) (items : List CommittedItem),
      committedEntryIdDiagnostics committed seen items = [] ↔
        (items.map CommittedItem.entryId).Nodup ∧
          ∀ x ∈ items.map CommittedItem.entryId, x ∉ committed ∧ x ∉ seen
  | _, [] => by simp [committedEntryIdDiagnostics]
  | seen, i :: is => by
    have ih := committedEntryIdDiagnostics_eq_nil_iff committed (i.entryId :: seen) is
    simp only [committedEntryIdDiagnostics, List.append_eq_nil_iff, ih]
    simp
    grind

theorem denseFrom_append_singleton (i : CommittedItem) :
    ∀ (n : Nat) (items : List CommittedItem),
      denseFrom n (items ++ [i]) = (denseFrom n items && i.item.sequence == n + items.length)
  | n, [] => by simp [denseFrom]
  | n, j :: js => by
    simp only [List.cons_append, denseFrom, denseFrom_append_singleton i (n + 1) js,
      List.length_cons, Bool.and_assoc]
    rw [show n + 1 + js.length = n + (js.length + 1) by omega]

/-- One more item keeps a run well formed exactly when it has the next sequence number and
    repeats none of the three identities. -/
theorem groupOk_append_singleton_iff (items : List CommittedItem) (i : CommittedItem) :
    GroupOk (items ++ [i]) ↔
      GroupOk items ∧ i.item.sequence = items.length ∧ i.entryId ∉ items.map CommittedItem.entryId ∧
        (∀ x ∈ i.item.providerItemId, x ∉ providerItemIds items) ∧
        (∀ k ∈ i.item.providerOutputIndex, k ∉ providerOutputIndices items) := by
  constructor
  · rintro ⟨hd, hp, ho, he⟩
    rw [denseFrom_append_singleton, Nat.zero_add, Bool.and_eq_true, beq_iff_eq] at hd
    rw [List.map_append, List.nodup_append] at he
    rw [providerItemIds, List.filterMap_append, List.nodup_append] at hp
    rw [providerOutputIndices, List.filterMap_append, List.nodup_append] at ho
    refine ⟨⟨hd.1, hp.1, ho.1, he.1⟩, hd.2, ?_, ?_, ?_⟩
    · intro hmem
      exact he.2.2 _ hmem _ (by simp) rfl
    · intro x hx hmem
      exact hp.2.2 _ hmem x (by simpa using hx) rfl
    · intro k hk hmem
      exact ho.2.2 _ hmem k (by simpa using hk) rfl
  · rintro ⟨⟨hd, hp, ho, he⟩, hs, hid, hpid, hout⟩
    refine ⟨?_, ?_, ?_, ?_⟩
    · rw [denseFrom_append_singleton, Nat.zero_add, hd, hs, beq_self_eq_true]
      rfl
    · rw [providerItemIds, List.filterMap_append, List.nodup_append]
      refine ⟨hp, ?_, ?_⟩
      · cases h : i.item.providerItemId <;> simp [h]
      · intro a ha b hb hab
        exact hpid b (by simpa using hb) (hab ▸ ha)
    · rw [providerOutputIndices, List.filterMap_append, List.nodup_append]
      refine ⟨ho, ?_, ?_⟩
      · cases h : i.item.providerOutputIndex <;> simp [h]
      · intro a ha b hb hab
        exact hout b (by simpa using hb) (hab ▸ ha)
    · rw [List.map_append, List.nodup_append]
      refine ⟨he, by simp, ?_⟩
      intro a ha b hb hab
      rw [List.map_singleton, List.mem_singleton] at hb
      exact hid (hb ▸ hab ▸ ha)

theorem groupOk_singleton_iff (i : CommittedItem) : GroupOk [i] ↔ i.item.sequence = 0 := by
  have h := groupOk_append_singleton_iff [] i
  have hnil : GroupOk [] := ⟨rfl, List.nodup_nil, List.nodup_nil, List.nodup_nil⟩
  simpa [hnil, providerItemIds, providerOutputIndices] using h

theorem stagingPrefixDiagnostics_eq_nil_iff (g : PendingGroup) :
    stagingPrefixDiagnostics g = [] ↔
      g.items.length ≤ maxAssistantOutputItemsPerTurn ∧ GroupOk g.items := by
  simp only [stagingPrefixDiagnostics, List.append_eq_nil_iff,
    providerIdentityDiagnostics_eq_nil_iff, physicalEntryIdDiagnostics_eq_nil_iff]
  constructor
  · rintro ⟨⟨⟨hlen, hd⟩, ⟨hp, -⟩, ho, -⟩, he, -⟩
    refine ⟨?_, ?_, hp, ho, he⟩
    · by_contra hlt
      rw [if_pos (Nat.lt_of_not_le hlt)] at hlen
      cases hlen
    · by_contra hf
      rw [if_neg hf] at hd
      cases hd
  · rintro ⟨hlen, hd, hp, ho, he⟩
    simp [Nat.not_lt.mpr hlen, hd, hp, ho, he]

theorem commitDiagnostics_eq_nil_iff (index : Nat) (entry : SessionEntry)
    (commit : AssistantTurnCommit) (g : PendingGroup) :
    commitDiagnostics st index entry commit g = [] ↔
      g.first.item.assistantTurnId = commit.assistantTurnId ∧ g.items.length = commit.itemCount ∧
        GroupOk g.items ∧ commit.assistantTurnId ∉ st.committedTurnIds ∧
        ∀ i ∈ g.items, i.entryId ∉ st.committedOutputEntryIds := by
  simp only [commitDiagnostics, List.append_eq_nil_iff, providerIdentityDiagnostics_eq_nil_iff,
    physicalEntryIdDiagnostics_eq_nil_iff, committedEntryIdDiagnostics_eq_nil_iff]
  constructor
  · rintro ⟨⟨⟨⟨⟨⟨ht, hc⟩, hd⟩, ⟨hp, -⟩, ho, -⟩, he, -⟩, hf⟩, -, hi⟩
    refine ⟨?_, ?_, ⟨?_, hp, ho, he⟩, ?_, ?_⟩
    · by_contra h
      simp [h] at ht
    · by_contra h
      simp [h] at hc
    · by_contra h
      simp [h] at hd
    · by_contra h
      simp [h] at hf
    · intro i hmem
      exact (hi _ (List.mem_map_of_mem hmem)).1
  · rintro ⟨ht, hc, ⟨hd, hp, ho, he⟩, hf, hi⟩
    simp only [ht, hc, hd, hp, ho, he, hf]
    simpa using hi

/-! ## §5. The pass over a history. -/

theorem classifyLoop_append (fs : List SessionEntry) :
    ∀ (st : ClassifyState) (index : Nat) (es : List SessionEntry),
      classifyLoop st index (es ++ fs) =
        classifyLoop (classifyLoop st index es) (index + es.length) fs
  | _, _, [] => rfl
  | st, index, e :: es => by
    simp only [List.cons_append, classifyLoop, classifyLoop_append fs, List.length_cons]
    rw [show index + 1 + es.length = index + (es.length + 1) by omega]

/-- The state of the pass after a whole history. -/
def classified (entries : List SessionEntry) : ClassifyState := classifyLoop {} 0 entries

theorem classifyAssistantOutput_eq (entries : List SessionEntry) :
    classifyAssistantOutput entries =
      { turns := (classified entries).turns
        diagnostics := (classified entries).diagnostics ++
          finalDiagnostics (classified entries).pending } := rfl

theorem classified_append_singleton (entries : List SessionEntry) (e : SessionEntry) :
    classified (entries ++ [e]) = classifyStep (classified entries) entries.length e := by
  rw [classified, classifyLoop_append, Nat.zero_add]
  rfl

/-- Every diagnostic of a list is an error. -/
def AllErrors (ds : List Diagnostic) : Prop := ∀ d ∈ ds, d.severity = .error

/-- **What one record can do to the pass.**  A fault reports at least one error and touches
    neither the turns nor the id sets; every other case reports nothing. -/
inductive ClassifyCase (st : ClassifyState) (index : Nat) (entry : SessionEntry) :
    ClassifyState → Prop
  | fault (ds : List Diagnostic) (pending : Option PendingGroup) (hne : ds ≠ [])
      (herr : AllErrors ds) :
      ClassifyCase st index entry
        { st with diagnostics := st.diagnostics ++ ds, pending := pending }
  | openGroup (item : AssistantOutputItem) (htype : entry.type = .assistantOutputItem)
      (hparse : parseAssistantOutputItem entry = .ok item)
      (hturn : item.assistantTurnId ∉ st.committedTurnIds)
      (hid : entry.id ∉ st.committedOutputEntryIds) (hpend : st.pending = none) :
      ClassifyCase st index entry
        { st with pending := some { startIndex := index, first := ⟨item, index, entry.id⟩,
                                    rest := [] } }
  | extendGroup (item : AssistantOutputItem) (g : PendingGroup)
      (htype : entry.type = .assistantOutputItem)
      (hparse : parseAssistantOutputItem entry = .ok item)
      (hturn : item.assistantTurnId ∉ st.committedTurnIds)
      (hid : entry.id ∉ st.committedOutputEntryIds) (hpend : st.pending = some g)
      (hsame : g.first.item.assistantTurnId = item.assistantTurnId)
      (hlen : g.items.length < maxAssistantOutputItemsPerTurn) :
      ClassifyCase st index entry { st with pending := some (g.push ⟨item, index, entry.id⟩) }
  | commitEmpty (commit : AssistantTurnCommit) (htype : entry.type = .assistantTurnCommit)
      (hparse : parseAssistantTurnCommit entry = .ok commit) (hpend : st.pending = none)
      (hcount : commit.itemCount = 0) (hturn : commit.assistantTurnId ∉ st.committedTurnIds) :
      ClassifyCase st index entry
        { st with
          committedTurnIds := insert commit.assistantTurnId st.committedTurnIds
          turns := st.turns ++ [⟨index, index, entry.id, commit, []⟩] }
  | commitGroup (commit : AssistantTurnCommit) (g : PendingGroup)
      (htype : entry.type = .assistantTurnCommit)
      (hparse : parseAssistantTurnCommit entry = .ok commit) (hpend : st.pending = some g)
      (hds : commitDiagnostics st index entry commit g = []) :
      ClassifyCase st index entry
        { st with
          pending := none
          committedTurnIds := insert commit.assistantTurnId st.committedTurnIds
          committedOutputEntryIds :=
            st.committedOutputEntryIds ∪ (g.items.map CommittedItem.entryId).toFinset
          turns := st.turns ++ [⟨g.startIndex, index, entry.id, commit, g.items⟩] }
  | pass (hitem : entry.type ≠ .assistantOutputItem) (hcommit : entry.type ≠ .assistantTurnCommit)
      (hpend : st.pending = none) : ClassifyCase st index entry st

@[simp] theorem AllErrors.nil : AllErrors [] := List.forall_mem_nil _

@[simp] theorem allErrors_append (ds es : List Diagnostic) :
    AllErrors (ds ++ es) ↔ AllErrors ds ∧ AllErrors es :=
  List.forall_mem_append

variable {index : Nat}

@[simp] theorem AllErrors.malformed {id message : Bytes} :
    AllErrors [malformed index id message] := List.forall_mem_singleton.mpr rfl

theorem AllErrors.ite {p : Prop} [Decidable p] {ds es : List Diagnostic} (h₁ : AllErrors ds)
    (h₂ : AllErrors es) : AllErrors (if p then ds else es) := by
  split
  · exact h₁
  · exact h₂

theorem providerIdentityDiagnostics_allErrors {d : Bytes} :
    ∀ {ids : List Bytes} {ks : List Nat} {items : List CommittedItem},
      AllErrors (providerIdentityDiagnostics d ids ks items)
  | _, _, [] => .nil
  | ids, ks, i :: is => by
    simp only [providerIdentityDiagnostics, allErrors_append]
    refine ⟨⟨?_, ?_⟩, providerIdentityDiagnostics_allErrors⟩
    · cases i.item.providerItemId with
      | none => exact .nil
      | some id => exact .ite .malformed .nil
    · cases i.item.providerOutputIndex with
      | none => exact .nil
      | some k => exact .ite .malformed .nil

theorem physicalEntryIdDiagnostics_allErrors {d : Bytes} :
    ∀ {seen : List Bytes} {items : List CommittedItem},
      AllErrors (physicalEntryIdDiagnostics d seen items)
  | _, [] => .nil
  | seen, i :: is => by
    simp only [physicalEntryIdDiagnostics, allErrors_append]
    exact ⟨.ite .malformed .nil,
      physicalEntryIdDiagnostics_allErrors⟩

theorem committedEntryIdDiagnostics_allErrors {committed : Finset Bytes} :
    ∀ {seen : List Bytes} {items : List CommittedItem},
      AllErrors (committedEntryIdDiagnostics committed seen items)
  | _, [] => .nil
  | seen, i :: is => by
    simp only [committedEntryIdDiagnostics, allErrors_append]
    exact ⟨.ite .malformed .nil,
      committedEntryIdDiagnostics_allErrors⟩

theorem stagingPrefixDiagnostics_allErrors (g : PendingGroup) :
    AllErrors (stagingPrefixDiagnostics g) := by
  simp only [stagingPrefixDiagnostics, allErrors_append]
  exact ⟨⟨⟨.ite .malformed .nil,
    .ite .nil .malformed⟩,
    providerIdentityDiagnostics_allErrors⟩, physicalEntryIdDiagnostics_allErrors⟩

variable {st : ClassifyState} {entry : SessionEntry}

theorem commitDiagnostics_allErrors {commit : AssistantTurnCommit} {g : PendingGroup} :
    AllErrors (commitDiagnostics st index entry commit g) := by
  simp only [commitDiagnostics, allErrors_append]
  exact ⟨⟨⟨⟨⟨⟨.ite .malformed .nil,
    .ite .malformed .nil⟩,
    .ite .nil .malformed⟩,
    providerIdentityDiagnostics_allErrors⟩, physicalEntryIdDiagnostics_allErrors⟩,
    .ite .malformed .nil⟩,
    committedEntryIdDiagnostics_allErrors⟩

theorem classifyItem_case (st : ClassifyState) (index : Nat) (entry : SessionEntry)
    (htype : entry.type = .assistantOutputItem) :
    ClassifyCase st index entry (classifyItem st index entry) := by
  unfold classifyItem
  split
  next e hparse =>
    exact .fault _ none (by simp) (by simp [AllErrors, malformed])
  next item hparse =>
    dsimp only
    split
    next => exact .fault _ none (by simp) .malformed
    next hturn =>
      split
      next => exact .fault _ none (by simp) .malformed
      next hid =>
        split
        next hpend => exact .openGroup item htype hparse hturn hid hpend
        next g hpend =>
          split
          next => exact .fault _ _ (by simp) .malformed
          next hsame =>
            split
            next => exact .fault _ none (by simp) .malformed
            next hlen =>
              exact .extendGroup item g htype hparse hturn hid hpend (not_not.mp hsame)
                (Nat.lt_of_not_le hlen)

theorem classifyCommit_case (st : ClassifyState) (index : Nat) (entry : SessionEntry)
    (htype : entry.type = .assistantTurnCommit) :
    ClassifyCase st index entry (classifyCommit st index entry) := by
  unfold classifyCommit
  split
  next e hparse =>
    dsimp only
    split
    next hpend =>
      exact .fault [⟨.error, .invalidAssistantTurnCommit, index, entry.id, e.message⟩] st.pending
        (by simp) (by simp [AllErrors])
    next => exact .fault _ none (by simp) (by simp [AllErrors, malformed])
  next commit hparse =>
    split
    next hpend =>
      split
      next =>
        exact .fault _ st.pending (by simp) .malformed
      next hcount =>
        split
        next => exact .fault _ st.pending (by simp) .malformed
        next hturn =>
          exact .commitEmpty commit htype hparse hpend (not_not.mp hcount) hturn
    next g hpend =>
      dsimp only
      split
      next hds => exact .commitGroup commit g htype hparse hpend hds
      next hds => exact .fault _ none hds (commitDiagnostics_allErrors)

theorem classifyOther_case (st : ClassifyState) (index : Nat) (entry : SessionEntry)
    (hitem : entry.type ≠ .assistantOutputItem) (hcommit : entry.type ≠ .assistantTurnCommit) :
    ClassifyCase st index entry (classifyOther st index entry) := by
  unfold classifyOther
  split
  next hpend => exact .pass hitem hcommit hpend
  next => exact .fault _ none (by simp) .malformed

theorem classifyStep_of_item (htype : entry.type = .assistantOutputItem) :
    classifyStep st index entry = classifyItem st index entry := by
  unfold classifyStep
  rw [htype]

theorem classifyStep_of_commit (htype : entry.type = .assistantTurnCommit) :
    classifyStep st index entry = classifyCommit st index entry := by
  unfold classifyStep
  rw [htype]

theorem classifyStep_of_other (hitem : entry.type ≠ .assistantOutputItem)
    (hcommit : entry.type ≠ .assistantTurnCommit) :
    classifyStep st index entry = classifyOther st index entry := by
  unfold classifyStep
  cases htype : entry.type with
  | assistantOutputItem => exact absurd htype hitem
  | assistantTurnCommit => exact absurd htype hcommit
  | _ => rfl

theorem classifyStep_case (st : ClassifyState) (index : Nat) (entry : SessionEntry) :
    ClassifyCase st index entry (classifyStep st index entry) := by
  by_cases hitem : entry.type = .assistantOutputItem
  · rw [classifyStep_of_item hitem]
    exact classifyItem_case st index entry hitem
  · by_cases hcommit : entry.type = .assistantTurnCommit
    · rw [classifyStep_of_commit hcommit]
      exact classifyCommit_case st index entry hcommit
    · rw [classifyStep_of_other hitem hcommit]
      exact classifyOther_case st index entry hitem hcommit

theorem classified_append_case (es : List SessionEntry) (e : SessionEntry) :
    ClassifyCase (classified es) es.length e (classified (es ++ [e])) := by
  rw [classified_append_singleton]
  exact classifyStep_case _ _ _

/-! ## §6. Invariants of the pass. -/

/-- An invariant of the pass over histories: it holds at the start and every record keeps it. -/
theorem classified_induction {P : List SessionEntry → ClassifyState → Prop} (h0 : P [] {})
    (hstep : ∀ es e st', P es (classified es) →
      ClassifyCase (classified es) es.length e st' → P (es ++ [e]) st')
    (entries : List SessionEntry) : P entries (classified entries) := by
  induction entries using List.reverseRecOn with
  | nil => exact h0
  | append_singleton es e ih =>
    exact hstep es e _ ih (classified_append_case es e)

theorem classified_allErrors (entries : List SessionEntry) :
    AllErrors (classified entries).diagnostics := by
  refine classified_induction (P := fun _ st => AllErrors st.diagnostics) .nil ?_ entries
  intro es e st' ih hcase
  cases hcase with
  | fault ds pending hne herr => exact (allErrors_append _ _).mpr ⟨ih, herr⟩
  | openGroup | extendGroup | commitEmpty | commitGroup | pass => exact ih

/-- The turn ids and record ids the pass holds are those of the turns it has produced, and
    none of them occurs twice. -/
structure Indexed (st : ClassifyState) : Prop where
  turnIds_nodup : (st.turns.map fun t => t.commit.assistantTurnId).Nodup
  turnIds_eq : (st.turns.map fun t => t.commit.assistantTurnId).toFinset = st.committedTurnIds
  entryIds_nodup : (st.turns.flatMap fun t => t.items.map CommittedItem.entryId).Nodup
  entryIds_eq : (st.turns.flatMap fun t => t.items.map CommittedItem.entryId).toFinset =
    st.committedOutputEntryIds

theorem indexed_push (h : Indexed st) (turn : CommittedTurn)
    (hturn : turn.commit.assistantTurnId ∉ st.committedTurnIds)
    (hnodup : (turn.items.map CommittedItem.entryId).Nodup)
    (hfresh : ∀ i ∈ turn.items, i.entryId ∉ st.committedOutputEntryIds)
    (pending : Option PendingGroup) :
    Indexed
      { st with
        pending := pending
        turns := st.turns ++ [turn]
        committedTurnIds := insert turn.commit.assistantTurnId st.committedTurnIds
        committedOutputEntryIds :=
          st.committedOutputEntryIds ∪ (turn.items.map CommittedItem.entryId).toFinset } := by
  refine ⟨?_, ?_, ?_, ?_⟩
  · simp only [List.map_append, List.map_cons, List.map_nil, List.nodup_append]
    refine ⟨h.turnIds_nodup, List.nodup_singleton _, ?_⟩
    intro a ha b hb hab
    rw [List.mem_singleton] at hb
    rw [← h.turnIds_eq, List.mem_toFinset] at hturn
    exact hturn (hb ▸ hab ▸ ha)
  · simp only [List.map_append, List.toFinset_append, h.turnIds_eq]
    ext x
    simp
  · simp only [List.flatMap_append, List.flatMap_cons, List.flatMap_nil, List.append_nil,
      List.nodup_append]
    refine ⟨h.entryIds_nodup, hnodup, ?_⟩
    intro a ha b hb hab
    obtain ⟨i, hi, rfl⟩ := List.mem_map.mp hb
    have hnot := hfresh i hi
    rw [← h.entryIds_eq, List.mem_toFinset] at hnot
    exact hnot (hab ▸ ha)
  · simp only [List.flatMap_append, List.toFinset_append, h.entryIds_eq, List.flatMap_cons,
      List.flatMap_nil, List.append_nil]

theorem classified_indexed (entries : List SessionEntry) : Indexed (classified entries) := by
  refine classified_induction (P := fun _ st => Indexed st) ?_ ?_ entries
  · exact ⟨List.nodup_nil, rfl, List.nodup_nil, rfl⟩
  · intro es e st' ih hcase
    cases hcase with
    | fault | openGroup | extendGroup | pass => exact { ih with }
    | commitEmpty commit htype hparse hpend hcount hturn =>
      have h := indexed_push ih ⟨es.length, es.length, e.id, commit, []⟩ hturn List.nodup_nil
        (by simp) none
      simpa [hpend] using h
    | commitGroup commit g htype hparse hpend hds =>
      obtain ⟨-, -, hok, hturn, hfresh⟩ := (commitDiagnostics_eq_nil_iff _ _ _ _ _).mp hds
      exact indexed_push ih ⟨g.startIndex, es.length, e.id, commit, g.items⟩ hturn hok.entryIds
        hfresh none

/-- **A history without error diagnostics**, as a property of the pass: nothing reported,
    and the run it ends in (if any) is a valid staging prefix of a fresh turn. -/
structure Clean (st : ClassifyState) : Prop where
  silent : st.diagnostics = []
  staged : ∀ g, st.pending = some g → stagingPrefixDiagnostics g = []

theorem all_warnings_iff_nil {ds : List Diagnostic} (h : AllErrors ds) :
    (ds.all fun d => d.severity = .warning) = true ↔ ds = [] := by
  constructor
  · intro hall
    cases ds with
    | nil => rfl
    | cons d rest =>
      rw [List.all_cons, h d List.mem_cons_self] at hall
      cases hall
  · rintro rfl
    rfl

theorem errorFree_iff_clean (entries : List SessionEntry) :
    (classifyAssistantOutput entries).errorFree = true ↔ Clean (classified entries) := by
  have herr := classified_allErrors entries
  rw [classifyAssistantOutput_eq, Projection.errorFree, List.all_append, Bool.and_eq_true,
    all_warnings_iff_nil herr]
  constructor
  · rintro ⟨hd, hf⟩
    refine ⟨hd, fun g hg => ?_⟩
    by_contra hne
    rw [hg, finalDiagnostics, if_neg hne,
      all_warnings_iff_nil (stagingPrefixDiagnostics_allErrors g)] at hf
    exact hne hf
  · rintro ⟨hd, hs⟩
    refine ⟨hd, ?_⟩
    cases hg : (classified entries).pending with
    | none => rfl
    | some g =>
      rw [finalDiagnostics, if_pos (hs g hg)]
      rfl

end Ava.Session
