/-
  Ava.Session.CommittedTurns
  **WHAT THE CLASSIFIER REPORTS IS WHAT THE RECORDS SAY.**  `classify_assistant_output` drops and
  restarts its staged run on every malformed shape and goes on.  Whatever the records are, a turn
  it reports is a run of item records closed by its commit record; and when it reports no error,
  no item record is left out.

    - §1 the index maps of the projection and the three lookups;
    - §2 `TurnSound` : a reported turn as a statement about the records;
    - §3 the invariant `PassSound` of the pass and its step;
    - §4 `PassComplete`, on passes that report nothing;
    - §5 `classify_sound_and_complete`; §6 result windows.
-/
import Ava.Lib.Table
import Ava.Session.Classify

namespace Ava.Session

open Ava.Core Ava.Lib

/-! ## §1. The lookups of the projection. -/

/-- `turn_indices_by_commit_index`. -/
def Projection.turnIndicesByCommitIndex (p : Projection) : Table Nat Nat :=
  p.turns.zipIdx.map fun t => (t.1.commitIndex, t.2)

/-- `item_references_by_entry_id`: the turn index and the item index of an entry id. -/
def Projection.itemReferencesByEntryId (p : Projection) : Table Bytes (Nat × Nat) :=
  p.turns.zipIdx.flatMap fun t => t.1.items.zipIdx.map fun i => (i.1.entryId, (t.2, i.2))

/-- `find_turn_by_commit_index`. -/
def Projection.findTurnByCommitIndex (p : Projection) (commitIndex : Nat) : Option CommittedTurn :=
  (p.turnIndicesByCommitIndex.lookup commitIndex).bind fun turnIndex => p.turns[turnIndex]?

/-- `find_turn_by_output_entry_id`. -/
def Projection.findTurnByOutputEntryId (p : Projection) (entryId : Bytes) : Option CommittedTurn :=
  (p.itemReferencesByEntryId.lookup entryId).bind fun reference => p.turns[reference.1]?

/-- `find_item_by_output_entry_id`. -/
def Projection.findItemByOutputEntryId (p : Projection) (entryId : Bytes) : Option CommittedItem :=
  (p.itemReferencesByEntryId.lookup entryId).bind fun reference =>
    (p.findTurnByOutputEntryId entryId).bind fun turn => turn.items[reference.2]?

/-- The commit indices and the entry ids of the turns are distinct: the maps lose nothing. -/
structure Projection.Distinct (p : Projection) : Prop where
  commits : (p.turns.map CommittedTurn.commitIndex).Nodup
  entryIds : (p.turns.flatMap fun t => t.items.map CommittedItem.entryId).Nodup

theorem map_zipIdx_fst {α β : Type} (f : α → β) (l : List α) :
    (l.zipIdx.map fun x => f x.1) = l.map f := by
  conv_rhs => rw [← List.zipIdx_map_fst 0 l, List.map_map]
  rfl

variable {p : Projection}

theorem lookup_turnIndices_iff (h : p.Distinct) {commitIndex k : Nat} :
    p.turnIndicesByCommitIndex.lookup commitIndex = some k ↔
      ∃ turn, p.turns[k]? = some turn ∧ turn.commitIndex = commitIndex := by
  have hkeys : p.turnIndicesByCommitIndex.map Prod.fst = p.turns.map CommittedTurn.commitIndex := by
    rw [Projection.turnIndicesByCommitIndex, List.map_map]
    exact map_zipIdx_fst CommittedTurn.commitIndex p.turns
  rw [Table.lookup_eq_some_iff_mem (hkeys ▸ h.commits)]
  simp [Projection.turnIndicesByCommitIndex, List.mk_mem_zipIdx_iff_getElem?]

theorem lookup_itemReferences_iff (h : p.Distinct) {entryId : Bytes} {r : Nat × Nat} :
    p.itemReferencesByEntryId.lookup entryId = some r ↔
      ∃ turn item, p.turns[r.1]? = some turn ∧ turn.items[r.2]? = some item ∧
        item.entryId = entryId := by
  have hkeys : p.itemReferencesByEntryId.map Prod.fst =
      p.turns.flatMap fun t => t.items.map CommittedItem.entryId := by
    simp only [Projection.itemReferencesByEntryId, List.map_flatMap, List.map_map,
      Function.comp_def, map_zipIdx_fst]
    conv_rhs => rw [← List.zipIdx_map_fst 0 p.turns, List.flatMap_map]
  rw [Table.lookup_eq_some_iff_mem (hkeys ▸ h.entryIds)]
  obtain ⟨k, j⟩ := r
  simp only [Projection.itemReferencesByEntryId, List.mem_flatMap, List.mem_map, Prod.exists,
    Prod.mk.injEq, List.mk_mem_zipIdx_iff_getElem?]
  grind

/-- **The lookups find the turns and items there are**, and nothing else. -/
theorem findTurnByCommitIndex_eq_some_iff (h : p.Distinct) (commitIndex : Nat)
    (turn : CommittedTurn) :
    p.findTurnByCommitIndex commitIndex = some turn ↔
      turn ∈ p.turns ∧ turn.commitIndex = commitIndex := by
  simp only [Projection.findTurnByCommitIndex, Option.bind_eq_some_iff, lookup_turnIndices_iff h,
    List.mem_iff_getElem?]
  grind

theorem findTurnByOutputEntryId_eq_some_iff (h : p.Distinct) (entryId : Bytes)
    (turn : CommittedTurn) :
    p.findTurnByOutputEntryId entryId = some turn ↔
      turn ∈ p.turns ∧ ∃ item ∈ turn.items, item.entryId = entryId := by
  simp only [Projection.findTurnByOutputEntryId, Option.bind_eq_some_iff,
    lookup_itemReferences_iff h, List.mem_iff_getElem?, Prod.exists]
  grind

theorem findItemByOutputEntryId_eq_some_iff (h : p.Distinct) (entryId : Bytes)
    (item : CommittedItem) :
    p.findItemByOutputEntryId entryId = some item ↔
      (∃ turn ∈ p.turns, item ∈ turn.items) ∧ item.entryId = entryId := by
  have hfind : ∀ r, p.itemReferencesByEntryId.lookup entryId = some r →
      p.findTurnByOutputEntryId entryId = p.turns[r.1]? := by
    intro r hr
    rw [Projection.findTurnByOutputEntryId, hr]
    rfl
  constructor
  · intro hitem
    obtain ⟨r, hr, hrest⟩ := Option.bind_eq_some_iff.mp hitem
    obtain ⟨turn, found, hturn, hfound, hid⟩ := (lookup_itemReferences_iff h).mp hr
    rw [hfind r hr, hturn] at hrest
    obtain rfl : found = item := Option.some.inj (hfound.symm.trans hrest)
    exact ⟨⟨turn, List.mem_of_getElem? hturn, List.mem_of_getElem? hfound⟩, hid⟩
  · rintro ⟨⟨turn, hturn, hitem⟩, hid⟩
    obtain ⟨k, hk⟩ := List.mem_iff_getElem?.mp hturn
    obtain ⟨j, hj⟩ := List.mem_iff_getElem?.mp hitem
    have hr := (lookup_itemReferences_iff h (r := (k, j))).mpr ⟨turn, item, hk, hj, hid⟩
    rw [Projection.findItemByOutputEntryId, hfind _ hr, hr, hk]
    exact hj

/-! ## §2. Turns as statements about the records. -/

/-- `items` are the records from `start` on, read as output items. -/
def StandsAt (entries : List SessionEntry) (start : Nat) (items : List CommittedItem) : Prop :=
  ∀ k item, items[k]? = some item →
    item.entryIndex = start + k ∧
      ∃ e, entries[start + k]? = some e ∧ e.type = .assistantOutputItem ∧
        parseAssistantOutputItem e = .ok item.item ∧ item.entryId = e.id

/-- **A committed turn, read off the records**: a run of item records of one turn id, numbered
    by their position and without a repeated provider identity, right before the commit record
    that counts them. -/
structure TurnSound (entries : List SessionEntry) (turn : CommittedTurn) : Prop where
  commitRecord : ∃ e, entries[turn.commitIndex]? = some e ∧ e.type = .assistantTurnCommit ∧
    parseAssistantTurnCommit e = .ok turn.commit ∧ turn.commitEntryId = e.id
  extent : turn.startIndex + turn.items.length = turn.commitIndex
  records : StandsAt entries turn.startIndex turn.items
  turnId : ∀ item ∈ turn.items, item.item.assistantTurnId = turn.commit.assistantTurnId
  sequence : ∀ (k : Nat) (item : CommittedItem), turn.items[k]? = some item → item.item.sequence = k
  itemCount : turn.commit.itemCount = turn.items.length
  providerItemIds : (providerItemIds turn.items).Nodup
  providerOutputIndices : (providerOutputIndices turn.items).Nodup

variable {entries : List SessionEntry}

theorem StandsAt.append {start : Nat} {items : List CommittedItem}
    (h : StandsAt entries start items) (more : List SessionEntry) :
    StandsAt (entries ++ more) start items := by
  intro k item hk
  obtain ⟨hindex, e, he, hrest⟩ := h k item hk
  exact ⟨hindex, e, by grind, hrest⟩

variable {turn : CommittedTurn}

theorem TurnSound.append (h : TurnSound entries turn) (more : List SessionEntry) :
    TurnSound (entries ++ more) turn := by
  obtain ⟨e, he, hrest⟩ := h.commitRecord
  exact { h with
    commitRecord := ⟨e, by grind, hrest⟩
    records := h.records.append more }

theorem TurnSound.commitIndex_lt (h : TurnSound entries turn) :
    turn.commitIndex < entries.length := by
  obtain ⟨e, he, -⟩ := h.commitRecord
  exact (List.getElem?_eq_some_iff.mp he).1

variable {e : SessionEntry}

/-- One more item record. -/
theorem StandsAt.concat {start : Nat} {items : List CommittedItem}
    (h : StandsAt entries start items) (hend : start + items.length = entries.length)
    {item : AssistantOutputItem} (htype : e.type = .assistantOutputItem)
    (hparse : parseAssistantOutputItem e = .ok item) :
    StandsAt (entries ++ [e]) start (items ++ [⟨item, entries.length, e.id⟩]) := by
  intro k i hk
  by_cases hlt : k < items.length
  · exact h.append [e] k i (by grind)
  · obtain rfl : k = items.length := by grind
    obtain rfl : (⟨item, entries.length, e.id⟩ : CommittedItem) = i := by grind
    exact ⟨hend.symm, e, by simp [hend], htype, hparse, rfl⟩

theorem sequence_of_denseFrom : ∀ (items : List CommittedItem) (n k : Nat) (item : CommittedItem),
    denseFrom n items = true → items[k]? = some item → item.item.sequence = n + k := by
  intro items
  induction items with
  | nil => simp
  | cons i items ih =>
    intro n k item hdense hk
    rw [denseFrom, Bool.and_eq_true, beq_iff_eq] at hdense
    cases k with
    | zero => grind
    | succ k =>
      rw [ih (n + 1) k item hdense.2 hk]
      omega

/-! ## §3. The pass is sound. -/

/-- The staged run of the pass: it ends where the records end, and is of one turn. -/
structure RunSound (entries : List SessionEntry) (g : PendingGroup) : Prop where
  records : StandsAt entries g.startIndex g.items
  extent : g.startIndex + g.items.length = entries.length
  turnId : ∀ item ∈ g.items, item.item.assistantTurnId = g.first.item.assistantTurnId

variable {st : ClassifyState}

/-- **A record leaves a staged run only if it is an item record**, and then it starts the run or
    extends the one there was. -/
theorem classifyStep_pending {index : Nat} {g : PendingGroup}
    (h : (classifyStep st index e).pending = some g) :
    ∃ item, e.type = .assistantOutputItem ∧ parseAssistantOutputItem e = .ok item ∧
      (g = ⟨index, ⟨item, index, e.id⟩, []⟩ ∨
        ∃ g', st.pending = some g' ∧ g'.first.item.assistantTurnId = item.assistantTurnId ∧
          g = g'.push ⟨item, index, e.id⟩) := by
  by_cases hitem : e.type = .assistantOutputItem
  · rw [classifyStep_of_item hitem] at h
    unfold classifyItem ClassifyState.report ClassifyState.abandon at h
    grind
  · exfalso
    by_cases hcommit : e.type = .assistantTurnCommit
    · rw [classifyStep_of_commit hcommit] at h
      unfold classifyCommit ClassifyState.report ClassifyState.abandon at h
      grind
    · rw [classifyStep_of_other hitem hcommit] at h
      unfold classifyOther ClassifyState.abandon at h
      grind

theorem runSound_step (hrun : ∀ g, st.pending = some g → RunSound entries g) {g : PendingGroup}
    (h : (classifyStep st entries.length e).pending = some g) : RunSound (entries ++ [e]) g := by
  obtain ⟨item, htype, hparse, rfl | ⟨g', hpend, hsame, rfl⟩⟩ := classifyStep_pending h
  · have hnone : StandsAt entries entries.length [] := nofun
    exact ⟨hnone.concat rfl htype hparse, by simp [PendingGroup.items], by simp [PendingGroup.items]⟩
  · have hbefore := hrun g' hpend
    have hextent := hbefore.extent
    have hturn := hbefore.turnId
    have hitems : (g'.push ⟨item, entries.length, e.id⟩).items =
        g'.items ++ [⟨item, entries.length, e.id⟩] := rfl
    refine ⟨?_, ?_, ?_⟩
    · rw [hitems]
      exact hbefore.records.concat hextent htype hparse
    · rw [hitems]
      show g'.startIndex + _ = _
      simp only [List.length_append, List.length_singleton]
      omega
    · rw [hitems]
      show ∀ i ∈ _, _ = g'.first.item.assistantTurnId
      grind

/-- **The invariant of the pass**: its turns and its staged run are read off the records, one
    after the other. -/
structure PassSound (entries : List SessionEntry) (st : ClassifyState) : Prop where
  turns : ∀ turn ∈ st.turns, TurnSound entries turn
  run : ∀ g, st.pending = some g → RunSound entries g
  ordered : st.turns.Pairwise fun t u => t.commitIndex < u.startIndex
  runLast : ∀ g, st.pending = some g → ∀ turn ∈ st.turns, turn.commitIndex < g.startIndex

/-- A turn appended by a commit record keeps the invariant's part about turns. -/
theorem PassSound.push (h : PassSound entries st) (hturn : TurnSound (entries ++ [e]) turn)
    (hstart : ∀ t ∈ st.turns, t.commitIndex < turn.startIndex) :
    (∀ t ∈ st.turns ++ [turn], TurnSound (entries ++ [e]) t) ∧
      (st.turns ++ [turn]).Pairwise fun t u => t.commitIndex < u.startIndex := by
  refine ⟨?_, ?_⟩
  · exact List.forall_mem_append.mpr
      ⟨fun t ht => (h.turns t ht).append [e], List.forall_mem_singleton.mpr hturn⟩
  · exact List.pairwise_append.mpr ⟨h.ordered, List.pairwise_singleton _ _,
      fun t ht => List.forall_mem_singleton.mpr (hstart t ht)⟩

theorem commitRecord_concat {commit : AssistantTurnCommit} (htype : e.type = .assistantTurnCommit)
    (hparse : parseAssistantTurnCommit e = .ok commit) :
    ∃ e', (entries ++ [e])[entries.length]? = some e' ∧ e'.type = .assistantTurnCommit ∧
      parseAssistantTurnCommit e' = .ok commit ∧ e.id = e'.id :=
  ⟨e, by simp, htype, hparse, rfl⟩

/-- **One record keeps the invariant.** -/
theorem passSound_step (h : PassSound entries (classified entries)) :
    PassSound (entries ++ [e]) (classified (entries ++ [e])) := by
  have hrun : ∀ g, (classified (entries ++ [e])).pending = some g → RunSound (entries ++ [e]) g := by
    intro g hg
    rw [classified_append_singleton] at hg
    exact runSound_step h.run hg
  -- a staged run starts after every turn: it was there before, or it starts at the new record
  have hlast : ∀ g, (classified (entries ++ [e])).pending = some g →
      ∀ turn ∈ (classified entries).turns, turn.commitIndex < g.startIndex := by
    intro g hg turn hturn
    rw [classified_append_singleton] at hg
    obtain ⟨item, -, -, rfl | ⟨g', hpend, -, rfl⟩⟩ := classifyStep_pending hg
    · exact (h.turns turn hturn).commitIndex_lt
    · exact h.runLast g' hpend turn hturn
  have hkeep : (classified (entries ++ [e])).turns = (classified entries).turns →
      PassSound (entries ++ [e]) (classified (entries ++ [e])) := by
    intro hturns
    refine ⟨?_, hrun, ?_, ?_⟩
    · rw [hturns]
      exact fun turn hturn => (h.turns turn hturn).append [e]
    · rw [hturns]
      exact h.ordered
    · rw [hturns]
      exact hlast
  have hcase := classified_append_case entries e
  generalize classified (entries ++ [e]) = st' at hcase hrun hlast hkeep
  cases hcase with
  | fault | openGroup | extendGroup | pass => exact hkeep rfl
  | commitEmpty commit htype hparse hpend hcount hfresh =>
    have hturn : TurnSound (entries ++ [e]) ⟨entries.length, entries.length, e.id, commit, []⟩ :=
      { commitRecord := commitRecord_concat htype hparse
        extent := rfl
        records := fun k item hk => by cases hk
        turnId := fun item hitem => by cases hitem
        sequence := fun k item hk => by cases hk
        itemCount := hcount
        providerItemIds := List.nodup_nil
        providerOutputIndices := List.nodup_nil }
    obtain ⟨hturns, hordered⟩ := h.push hturn fun t ht => (h.turns t ht).commitIndex_lt
    refine ⟨hturns, hrun, hordered, ?_⟩
    intro g hg
    rw [hpend] at hg
    cases hg
  | commitGroup commit g htype hparse hpend hds =>
    obtain ⟨hid, hcount, hok, -, -⟩ := (commitDiagnostics_eq_nil_iff _ _ _ _ _).mp hds
    have hgroup := h.run g hpend
    have hturn : TurnSound (entries ++ [e]) ⟨g.startIndex, entries.length, e.id, commit, g.items⟩ :=
      { commitRecord := commitRecord_concat htype hparse
        extent := hgroup.extent
        records := hgroup.records.append [e]
        turnId := fun item hitem => (hgroup.turnId item hitem).trans hid
        sequence := fun k item hk => by
          rw [sequence_of_denseFrom g.items 0 k item hok.dense hk, Nat.zero_add]
        itemCount := hcount.symm
        providerItemIds := hok.providerIds
        providerOutputIndices := hok.outputIndices }
    obtain ⟨hturns, hordered⟩ := h.push hturn fun t ht => h.runLast g hpend t ht
    exact ⟨hturns, hrun, hordered, fun g' hg => by cases hg⟩

/-- **Every pass is sound**, by induction on the records. -/
theorem classified_passSound (entries : List SessionEntry) :
    PassSound entries (classified entries) := by
  induction entries using List.reverseRecOn with
  | nil =>
    exact ⟨nofun, nofun, List.Pairwise.nil, nofun⟩
  | append_singleton entries e ih => exact passSound_step ih

/-! ## §4. A silent pass leaves no item record out. -/

/-- The turn holds the record at `i` as an item. -/
def CommittedTurn.Holds (turn : CommittedTurn) (i : Nat) : Prop :=
  turn.startIndex ≤ i ∧ i < turn.commitIndex

/-- From `i` on there are only item records. -/
def StagedFrom (entries : List SessionEntry) (i : Nat) : Prop :=
  ∀ j e, i ≤ j → entries[j]? = some e → e.type = .assistantOutputItem

/-- Every item record lies in a turn or in the staged run. -/
def PassComplete (entries : List SessionEntry) (st : ClassifyState) : Prop :=
  ∀ i e, entries[i]? = some e → e.type = .assistantOutputItem →
    (∃ turn ∈ st.turns, turn.Holds i) ∨ ∃ g, st.pending = some g ∧ g.startIndex ≤ i

/-- A silent pass is complete: a fault would have reported, and every other record extends or
    closes the staged run. -/
theorem classified_passComplete (entries : List SessionEntry)
    (hsilent : (classified entries).diagnostics = []) :
    PassComplete entries (classified entries) := by
  induction entries using List.reverseRecOn with
  | nil => simp [PassComplete]
  | append_singleton entries e ih =>
    have hcase := classified_append_case entries e
    have hrun := (classified_passSound entries).run
    generalize classified (entries ++ [e]) = st' at hcase hsilent
    intro i e' hi htype'
    have hrecord : entries[i]? = some e' ∨ i = entries.length ∧ e = e' := by grind
    have hbefore := fun hold : entries[i]? = some e' => fun hsilent => ih hsilent i e' hold htype'
    cases hcase with
    | fault ds pending hne herr => exact absurd (List.append_eq_nil_iff.mp hsilent).2 hne
    | openGroup item htype hparse hturn hid hpend =>
      rcases hrecord with hold | ⟨rfl, rfl⟩
      · exact (hbefore hold hsilent).imp_right (by simp [hpend])
      · exact .inr ⟨_, rfl, Nat.le_refl _⟩
    | extendGroup item g htype hparse hturn hid hpend hsame hlen =>
      refine (?_ : _ ∨ g.startIndex ≤ i).imp_right fun hle => ⟨_, rfl, hle⟩
      rcases hrecord with hold | ⟨rfl, rfl⟩
      · exact (hbefore hold hsilent).imp_right (by simp [hpend])
      · exact .inr (by have := (hrun g hpend).extent; omega)
    | commitEmpty commit htype hparse hpend hcount hfresh =>
      rcases hrecord with hold | ⟨rfl, rfl⟩
      · have := hbefore hold hsilent
        grind
      · simp [htype] at htype'
    | commitGroup commit g htype hparse hpend hds =>
      rcases hrecord with hold | ⟨rfl, rfl⟩
      · -- the staged run has become the new turn
        have hlt : i < entries.length := (List.getElem?_eq_some_iff.mp hold).1
        obtain ⟨turn, hturn, hholds⟩ | ⟨g', hg, hle⟩ := hbefore hold hsilent
        · exact .inl ⟨turn, List.mem_append_left _ hturn, hholds⟩
        · obtain rfl : g = g' := Option.some.inj (hpend.symm.trans hg)
          exact .inl ⟨_, List.mem_append_right _ (List.mem_singleton_self _), hle, hlt⟩
      · simp [htype] at htype'
    | pass hitem hcommit hpend =>
      rcases hrecord with hold | ⟨rfl, rfl⟩
      · exact hbefore hold hsilent
      · exact absurd htype' hitem

/-! ## §5. Soundness and completeness. -/

theorem commitIndex_nodup (h : PassSound entries st) :
    (st.turns.map CommittedTurn.commitIndex).Nodup := by
  rw [List.Nodup, List.pairwise_map]
  refine List.Pairwise.imp_of_mem ?_ h.ordered
  intro t u _ hu hlt heq
  have hextent := (h.turns u hu).extent
  omega

/-- Two turns that hold one record are the same turn. -/
theorem PassSound.holds_unique (h : PassSound entries st) {t u : CommittedTurn} {i : Nat}
    (ht : t ∈ st.turns) (hu : u ∈ st.turns) (hti : t.Holds i) (hui : u.Holds i) : t = u := by
  obtain ⟨k, hk⟩ := List.mem_iff_getElem?.mp ht
  obtain ⟨l, hl⟩ := List.mem_iff_getElem?.mp hu
  have hapart := List.pairwise_iff_getElem.mp h.ordered
  unfold CommittedTurn.Holds at hti hui
  rcases Nat.lt_trichotomy k l with hlt | rfl | hlt
  · grind
  · grind
  · grind

/-- **SOUNDNESS AND COMPLETENESS OF COMMITTED TURNS.**  Over every list of records the reported
    turns are what the records say, no turn id and no item entry id occurs twice, and the lookups
    find exactly the turns and items reported.  Without an error diagnostic every item record is
    in exactly one turn, or in the run of item records the list ends in and in no turn. -/
theorem classify_sound_and_complete (entries : List SessionEntry) :
    (∀ turn ∈ (classifyAssistantOutput entries).turns, TurnSound entries turn) ∧
    ((classifyAssistantOutput entries).turns.map fun t => t.commit.assistantTurnId).Nodup ∧
    ((classifyAssistantOutput entries).turns.flatMap fun t =>
      t.items.map CommittedItem.entryId).Nodup ∧
    (∀ commitIndex turn,
      (classifyAssistantOutput entries).findTurnByCommitIndex commitIndex = some turn ↔
        turn ∈ (classifyAssistantOutput entries).turns ∧ turn.commitIndex = commitIndex) ∧
    (∀ entryId turn,
      (classifyAssistantOutput entries).findTurnByOutputEntryId entryId = some turn ↔
        turn ∈ (classifyAssistantOutput entries).turns ∧
          ∃ item ∈ turn.items, item.entryId = entryId) ∧
    (∀ entryId item,
      (classifyAssistantOutput entries).findItemByOutputEntryId entryId = some item ↔
        (∃ turn ∈ (classifyAssistantOutput entries).turns, item ∈ turn.items) ∧
          item.entryId = entryId) ∧
    ((classifyAssistantOutput entries).errorFree = true →
      ∀ i e, entries[i]? = some e → e.type = .assistantOutputItem →
        ((∃! turn, turn ∈ (classifyAssistantOutput entries).turns ∧ turn.Holds i) ∧
            ¬ StagedFrom entries i) ∨
          (StagedFrom entries i ∧
            ∀ turn ∈ (classifyAssistantOutput entries).turns, ¬ turn.Holds i)) := by
  have hsound := classified_passSound entries
  have hindexed := classified_indexed entries
  have hdistinct : (classifyAssistantOutput entries).Distinct :=
    ⟨commitIndex_nodup hsound, hindexed.entryIds_nodup⟩
  have hturns : (classifyAssistantOutput entries).turns = (classified entries).turns := rfl
  refine ⟨hsound.turns, hindexed.turnIds_nodup, hindexed.entryIds_nodup,
    findTurnByCommitIndex_eq_some_iff hdistinct, findTurnByOutputEntryId_eq_some_iff hdistinct,
    findItemByOutputEntryId_eq_some_iff hdistinct, ?_⟩
  intro hfree i e hi htype
  rw [hturns]
  have hclean := (errorFree_iff_clean entries).mp hfree
  -- a turn that holds a record has its commit record behind it
  have hapart : ∀ turn ∈ (classified entries).turns, turn.Holds i → ¬ StagedFrom entries i := by
    intro turn hturn hholds hstaged
    obtain ⟨c, hc, hcommit, -⟩ := (hsound.turns turn hturn).commitRecord
    have hitem := hstaged turn.commitIndex c (Nat.le_of_lt hholds.2) hc
    rw [hcommit] at hitem
    cases hitem
  obtain ⟨turn, hturn, hholds⟩ | ⟨g, hg, hle⟩ := classified_passComplete entries hclean.silent i e hi htype
  · refine .inl ⟨⟨turn, ⟨hturn, hholds⟩, ?_⟩, hapart turn hturn hholds⟩
    rintro other ⟨hother, hholds'⟩
    exact hsound.holds_unique hother hturn hholds' hholds
  · have hrun := hsound.run g hg
    have hstaged : StagedFrom entries i := by
      intro j e' hij hj
      have hlt : j < entries.length := (List.getElem?_eq_some_iff.mp hj).1
      have hextent := hrun.extent
      have hget : g.items[j - g.startIndex]? = some (g.items.get ⟨j - g.startIndex, by omega⟩) := by
        rw [List.getElem?_eq_getElem]
        rfl
      obtain ⟨-, e'', he'', htype'', -⟩ := hrun.records _ _ hget
      rw [show g.startIndex + (j - g.startIndex) = j by omega, hj] at he''
      rw [Option.some.inj he'']
      exact htype''
    exact .inr ⟨hstaged, fun turn hturn hholds => hapart turn hturn hholds hstaged⟩

/-! ## §6. Result windows. -/

/-- A window is behind the commit record, and nothing in it closes it. -/
theorem toolResultWindow_contains {i : Nat} (hi : (toolResultWindow entries turn).contains i = true) :
    turn.commitIndex < i ∧ ∀ k e, turn.commitIndex < k → k ≤ i → entries[k]? = some e →
      closesToolResultWindow e.type = false := by
  simp only [toolResultWindow, ToolResultWindow.contains, Bool.and_eq_true, decide_eq_true_eq] at hi
  split at hi
  all_goals dsimp only at hi
  · omega
  refine ⟨hi.1, fun k e hk hki he => ?_⟩
  have hlt : k - (turn.commitIndex + 1) < ((entries.drop (turn.commitIndex + 1)).takeWhile
      fun e => !closesToolResultWindow e.type).length := by omega
  have hopen := List.all_eq_true.mp List.all_takeWhile _ (List.getElem_mem hlt)
  rw [(List.takeWhile_prefix _).getElem hlt, List.getElem_drop] at hopen
  grind

/-- **A RECORD IS IN THE RESULT WINDOW OF AT MOST ONE TURN.** -/
theorem tool_result_windows_disjoint (entries : List SessionEntry) (i : Nat) :
    ((classifyAssistantOutput entries).turns.filter fun turn =>
      (toolResultWindow entries turn).contains i).length ≤ 1 := by
  have hsound := classified_passSound entries
  generalize hl : (classifyAssistantOutput entries).turns.filter _ = l
  have hmem := fun turn (h : turn ∈ l) => List.mem_filter.mp (hl ▸ h)
  have hordered := hsound.ordered.sublist (hl ▸ List.filter_sublist)
  match l with
  | [] | [_] => simp
  | t :: u :: rest =>
    -- the commit record of the later turn closes the window of the earlier one
    obtain ⟨-, hti⟩ := hmem t (by simp)
    obtain ⟨hu, hui⟩ := hmem u (by simp)
    obtain ⟨e, he, htype, -⟩ := (hsound.turns u hu).commitRecord
    have hextent := (hsound.turns u hu).extent
    have hlt := (List.pairwise_cons.mp hordered).1 u (by simp)
    have hbehind := (toolResultWindow_contains hui).1
    have hopen := (toolResultWindow_contains hti).2 _ e (by omega) hbehind.le he
    rw [htype] at hopen
    cases hopen

end Ava.Session
