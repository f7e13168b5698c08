/-
  Ava.Provider.SseRecords
  **A TEXT OF SERVER-SENT EVENTS IS ITS LIST OF RECORDS.**

  A well-formed event carries its record on one `data:` line, between other fields and an empty
  line.  For a decoder that leaves the budget alone, a response made of such events runs the
  decoder over the records.

    - §1 `IsFrame`, `rawRun` : the lines of an event, the decoder without the buffer;
    - §2 `run_frame` : the buffer on one event;
    - §3 `run_frames_silent` : if no error is published, everything the decoder says is published;
    - §4 `streamEvents_of_room` : within the budget nothing is lost.
-/
import Ava.Provider.SseBuffer

namespace Ava.Provider

open Ava.Core
open Ava.Lib (LineMachine frame unframe unframe_frame)

variable {σ : Type}

/-! ## §1. Events and records. -/

/-- The lines of an event that carries `data`. -/
structure IsFrame (data : Bytes) (lines : List Bytes) : Prop where
  nonempty : data ≠ []
  oneLine : lf ∉ data
  trimmed : data.getLast? ≠ some cr
  fields : ∃ fields : List Bytes, lines = fields ++ [ascii "data: " ++ data, []] ∧
    ∀ field ∈ fields, lf ∉ field ∧ stripCr field ≠ [] ∧
      (ascii "data:").isPrefixOf (stripCr field) = false

/-- A text of events that carry the given records. -/
def IsEventText (records : List Bytes) (text : Bytes) : Prop :=
  ∃ frames : List (List Bytes), List.Forall₂ IsFrame records frames ∧ text = frame lf frames.flatten

/-- A decoder on a list of records, without the buffer and its budget. -/
def rawRun (step : σ → Bytes → List StreamEvent × σ) : σ → List Bytes → List StreamEvent × σ
  | d, [] => ([], d)
  | d, data :: records =>
    ((step d data).1 ++ (rawRun step (step d data).2 records).1,
      (rawRun step (step d data).2 records).2)

theorem rawRun_append (step : σ → Bytes → List StreamEvent × σ) (rs : List Bytes) :
    ∀ (qs : List Bytes) (d : σ),
      rawRun step d (qs ++ rs) =
        ((rawRun step d qs).1 ++ (rawRun step (rawRun step d qs).2 rs).1,
          (rawRun step (rawRun step d qs).2 rs).2) := by
  intro qs
  induction qs with
  | nil =>
    intro d
    rfl
  | cons q qs ih =>
    intro d
    rw [List.cons_append, rawRun, rawRun, ih]
    simp only [List.append_assoc]

/-! ## §2. One event. -/

section Frames

variable (family : Bytes) (decode : Decode σ)

theorem run_fields {fields : List Bytes}
    (hfields : ∀ field ∈ fields, lf ∉ field ∧ stripCr field ≠ [] ∧
      (ascii "data:").isPrefixOf (stripCr field) = false) {s : RecordState σ} (hs : s.failed = false) :
    (sseMachine family decode).run s fields = ([], s) := by
  induction fields with
  | nil => rfl
  | cons field fields ih =>
    obtain ⟨-, hne, hno⟩ := hfields field List.mem_cons_self
    have hrun : (sseMachine family decode).stopped s ≠ true := by
      show s.failed ≠ true
      simp [hs]
    have hline : (sseMachine family decode).line s field = ([], s) := by
      show s.line family decode field = ([], s)
      unfold RecordState.line
      simp [hne, hno]
    rw [LineMachine.run, if_neg hrun, hline]
    dsimp only
    rw [ih fun field hfield => hfields field (List.mem_cons_of_mem _ hfield)]
    rfl

theorem stripCr_data {data : Bytes} (hne : data ≠ []) (htrim : data.getLast? ≠ some cr) :
    stripCr (ascii "data: " ++ data) = ascii "data: " ++ data := by
  have hlast : (ascii "data: " ++ data).getLast? = data.getLast? := by
    rw [List.getLast?_append]
    cases hd : data.getLast? with
    | none => exact absurd (List.getLast?_eq_none_iff.mp hd) hne
    | some c => rfl
  unfold stripCr
  rw [hlast, if_neg htrim]

/-- **ONE EVENT** of the text is one call of `record`. -/
theorem run_frame {data : Bytes} {lines : List Bytes} (hframe : IsFrame data lines)
    (hlength : data.length ≤ kMaxProviderSseBufferedBytes) {s : RecordState σ}
    (hs : s.failed = false) (hdata : s.data = []) :
    (sseMachine family decode).run s lines = { s with data := data }.record family decode := by
  obtain ⟨hne, -, htrim, fields, rfl, hfields⟩ := hframe
  have hrun : (sseMachine family decode).stopped s ≠ true := by
    show s.failed ≠ true
    simp [hs]
  have hcollect : (sseMachine family decode).line s (ascii "data: " ++ data) =
      ([], { s with data := data }) := by
    show s.line family decode (ascii "data: " ++ data) = _
    unfold RecordState.line
    dsimp only
    rw [stripCr_data hne htrim, if_neg (by exact Bool.false_ne_true), if_neg (by
      simp only [Bool.not_eq_true, Bool.not_eq_false', List.isPrefixOf_iff_prefix]
      exact ⟨32 :: data, rfl⟩)]
    have hvalue : dataValue (ascii "data: " ++ data) = data := rfl
    rw [hvalue]
    unfold RecordState.collect
    simp only [hdata, List.length_nil, List.isEmpty_nil, Nat.sub_zero, if_true, List.nil_append]
    rw [if_neg (by omega)]
  have hblank : (sseMachine family decode).line { s with data := data } [] =
      { s with data := data }.record family decode := by
    show RecordState.line family decode { s with data := data } [] = _
    unfold RecordState.line
    dsimp only
    rw [if_pos (by rfl), if_neg (by simpa using hne)]
  rw [LineMachine.run_append, run_fields family decode hfields hs]
  dsimp only
  rw [LineMachine.run, if_neg hrun, hcollect]
  dsimp only
  rw [LineMachine.run, if_neg (by exact hrun), hblank]
  simp [LineMachine.run]

end Frames

/-! ## §3. Silence. -/

section Records

variable (family : Bytes) {decode : Decode σ} {step : σ → Bytes → List StreamEvent × σ}
  (hdecode : ∀ d budget data, decode d budget data = ((step d data).1, budget, (step d data).2))

include hdecode

/-- A record whose events hold no error was published as a whole. -/
theorem record_silent {s : RecordState σ} (hs : s.failed = false)
    (hclean : ∀ e ∈ (s.record family decode).1, e.type ≠ .error) :
    (s.record family decode).1 = (step s.decoder s.data).1 ∧
      (s.record family decode).2.failed = false ∧ (s.record family decode).2.data = [] ∧
      (s.record family decode).2.decoder = (step s.decoder s.data).2 := by
  unfold RecordState.record at hclean ⊢
  cases hbudget : s.budget.record s.data with
  | none =>
    rw [hbudget] at hclean
    exact absurd rfl (hclean _ (List.mem_singleton_self _))
  | some budget =>
    rw [hbudget] at hclean
    simp only [RecordState.publish, hdecode] at hclean ⊢
    obtain ⟨hsame, hrun⟩ := account_silent family _ budget hclean
    exact ⟨hsame, by rw [hs, hrun]; rfl, trivial, trivial⟩

/-- **SILENCE.**  If the buffer publishes no error on a text of events, it publishes all that the
    decoder says. -/
theorem run_frames_silent : ∀ {records : List Bytes} {frames : List (List Bytes)},
    List.Forall₂ IsFrame records frames →
    (∀ data ∈ records, data.length ≤ kMaxProviderSseBufferedBytes) →
    ∀ s : RecordState σ, s.failed = false → s.data = [] →
    (∀ e ∈ ((sseMachine family decode).run s frames.flatten).1, e.type ≠ .error) →
    ((sseMachine family decode).run s frames.flatten).1 = (rawRun step s.decoder records).1 ∧
      ((sseMachine family decode).run s frames.flatten).2.failed = false ∧
      ((sseMachine family decode).run s frames.flatten).2.data = [] ∧
      ((sseMachine family decode).run s frames.flatten).2.decoder =
        (rawRun step s.decoder records).2 := by
  intro records frames hframes
  induction hframes with
  | nil =>
    intro _ s hs hdata _
    exact ⟨rfl, hs, hdata, rfl⟩
  | @cons data lines records frames hframe _ ih =>
    intro hrecords s hs hdata hclean
    have hlength := hrecords data List.mem_cons_self
    rw [List.flatten_cons, LineMachine.run_append,
      run_frame family decode hframe hlength hs hdata] at hclean ⊢
    obtain ⟨hsame, hrun, hempty, hdecoder⟩ := record_silent family hdecode
      (s := { s with data := data }) hs fun e he => hclean e (List.mem_append_left _ he)
    obtain ⟨hsame', hrun', hempty', hdecoder'⟩ :=
      ih (fun data hdata => hrecords data (List.mem_cons_of_mem _ hdata)) _ hrun hempty
        fun e he => hclean e (List.mem_append_right _ he)
    rw [hdecoder] at hsame' hdecoder'
    exact ⟨by rw [hsame, hsame']; rfl, hrun', hempty', hdecoder'⟩

/-! ## §4. Within the budget. -/

/-- A record with room for its events. -/
theorem record_of_room {s : RecordState σ} {later : List StreamEvent}
    (hlength : s.data.length ≤ kMaxProviderSseBufferedBytes)
    (hrecords : s.budget.records + 1 ≤ kMaxProviderParserEvents)
    (hclean : ∀ e ∈ (step s.decoder s.data).1, e.type ≠ .error)
    (hroom : Room s.budget ((step s.decoder s.data).1 ++ later)) :
    (s.record family decode).1 = (step s.decoder s.data).1 ∧
      Room (s.record family decode).2.budget later ∧
      (s.record family decode).2.budget.records = s.budget.records + 1 := by
  have hcharge : s.budget.record s.data = some { s.budget with records := s.budget.records + 1 } := by
    unfold ProviderParserBudget.record
    rw [if_pos ⟨hlength, hrecords⟩]
  obtain ⟨budget', haccount, hroom', hcount⟩ :=
    account_of_room family (step s.decoder s.data).1 later
      { s.budget with records := s.budget.records + 1 } hclean
      ⟨hroom.count, hroom.fragments, hroom.metadata⟩
  unfold RecordState.record
  rw [hcharge]
  simp only [RecordState.publish, hdecode, haccount]
  exact ⟨trivial, hroom', hcount⟩

/-- Within the budget no error is published that the decoder does not say. -/
theorem run_frames_of_room : ∀ {records : List Bytes} {frames : List (List Bytes)},
    List.Forall₂ IsFrame records frames →
    (∀ data ∈ records, data.length ≤ kMaxProviderSseBufferedBytes) →
    ∀ s : RecordState σ, s.failed = false → s.data = [] →
    s.budget.records + records.length ≤ kMaxProviderParserEvents →
    (∀ e ∈ (rawRun step s.decoder records).1, e.type ≠ .error) →
    Room s.budget (rawRun step s.decoder records).1 →
    ((sseMachine family decode).run s frames.flatten).1 = (rawRun step s.decoder records).1 := by
  intro records frames hframes
  induction hframes with
  | nil =>
    intro _ s _ _ _ _ _
    rfl
  | @cons data lines records frames hframe _ ih =>
    intro hrecords s hs hdata hcount hclean hroom
    have hlength := hrecords data List.mem_cons_self
    rw [List.length_cons] at hcount
    rw [rawRun] at hclean hroom ⊢
    have hfirst : ∀ e ∈ (step s.decoder data).1, e.type ≠ .error :=
      fun e he => hclean e (List.mem_append_left _ he)
    obtain ⟨hsame, hroom', hcount'⟩ := record_of_room family hdecode (s := { s with data := data })
      hlength (by show s.budget.records + 1 ≤ _; omega) hfirst hroom
    obtain ⟨-, hrun, hempty, hdecoder⟩ := record_silent family hdecode (s := { s with data := data })
      hs (by rw [hsame]; exact hfirst)
    have hrest := ih (fun data hdata => hrecords data (List.mem_cons_of_mem _ hdata)) _ hrun hempty
      (by rw [hcount']; show s.budget.records + 1 + _ ≤ _; omega)
      (by rw [hdecoder]; exact fun e he => hclean e (List.mem_append_right _ he))
      (by rw [hdecoder]; exact hroom')
    rw [List.flatten_cons, LineMachine.run_append,
      run_frame family decode hframe hlength hs hdata, hsame, hrest, hdecoder]

end Records

/-- The lines of a text of events. -/
theorem unframe_eventText {records : List Bytes} {frames : List (List Bytes)}
    (hframes : List.Forall₂ IsFrame records frames) :
    unframe lf (frame lf frames.flatten) = (frames.flatten, []) := by
  have hfree : ∀ l ∈ frames.flatten, lf ∉ l := by
    induction hframes with
    | nil => simp
    | cons hframe _ ih =>
      obtain ⟨-, hone, -, fields, rfl, hfields⟩ := hframe
      intro l hl
      rw [List.flatten_cons, List.mem_append] at hl
      rcases hl with hl | hl
      · rw [List.mem_append] at hl
        rcases hl with hl | hl
        · exact (hfields l hl).1
        · rcases List.mem_cons.mp hl with rfl | hl
          · rw [List.mem_append]
            rintro (hmem | hmem)
            · exact absurd hmem (by decide)
            · exact hone hmem
          · rw [List.mem_singleton.mp hl]
            exact List.not_mem_nil
      · exact ih l hl
  have h := unframe_frame (t := ([] : Bytes)) List.not_mem_nil hfree
  rwa [List.append_nil] at h

section Response

variable (family : Bytes) {decode : Decode σ} (complete : Complete σ)
  {step : σ → Bytes → List StreamEvent × σ}
  (hdecode : ∀ d budget data, decode d budget data = ((step d data).1, budget, (step d data).2))
  {records chunks : List Bytes} {decoder : σ}
  (hfits : Fits family decode { decoder := decoder } chunks)
  (htext : IsEventText records chunks.flatten)
  (hrecords : ∀ data ∈ records, data.length ≤ kMaxProviderSseBufferedBytes)

include hdecode hfits htext hrecords

/-- A response that publishes no error is what the decoder says on its records. -/
theorem streamEvents_silent
    (hclean : ∀ e ∈ streamEvents family decode complete decoder chunks, e.type ≠ .error) :
    ∀ e ∈ (rawRun step decoder records).1, e.type ≠ .error := by
  obtain ⟨frames, hframes, heq⟩ := htext
  rw [streamEvents_eq family decode complete decoder hfits, heq, unframe_eventText hframes] at hclean
  obtain ⟨hsame, -⟩ := run_frames_silent family hdecode hframes hrecords { decoder := decoder } rfl rfl
    fun e he => hclean e (List.mem_append_left _ he)
  rw [← hsame]
  exact fun e he => hclean e (List.mem_append_left _ he)

/-- **WITHIN THE BUDGET NOTHING IS LOST.**  A decoder that says no error and has nothing to add at
    the end: the response is what it says on the records. -/
theorem streamEvents_of_room (hcount : records.length ≤ kMaxProviderParserEvents)
    (hclean : ∀ e ∈ (rawRun step decoder records).1, e.type ≠ .error)
    (hroom : Room {} (rawRun step decoder records).1)
    (hcomplete : ∀ budget, (complete (rawRun step decoder records).2 budget).1 = []) :
    streamEvents family decode complete decoder chunks = (rawRun step decoder records).1 := by
  obtain ⟨frames, hframes, heq⟩ := htext
  have hevents := run_frames_of_room family hdecode hframes hrecords { decoder := decoder } rfl rfl
    (by simpa using hcount) hclean hroom
  obtain ⟨-, hrun, hempty, hdecoder⟩ :=
    run_frames_silent family hdecode hframes hrecords { decoder := decoder } rfl rfl
      (by rw [hevents]; exact hclean)
  rw [streamEvents_eq family decode complete decoder hfits, heq, unframe_eventText hframes]
  unfold finishRun
  dsimp only
  set ran := (sseMachine family decode).run { decoder := decoder } frames.flatten
  have hsettled : (sseMachine family decode).settle ran.2 = ran.2 :=
    (sseMachine family decode).settle_of_running ran.2 hrun
  have hnothing : (complete ran.2.decoder ran.2.budget).1 = [] := by
    rw [hdecoder]
    exact hcomplete _
  rw [hsettled, hevents]
  simp [ProviderSseBuffer.finish, RecordState.next, RecordState.publish, hrun, hempty, hnothing,
    account]

end Response

end Ava.Provider
