/-
  Ava.Provider.SseBuffer
  **SERVER-SENT EVENTS DO NOT DEPEND ON TRANSPORT CHUNKS** (`ProviderSseBuffer`).

  The buffer keeps the bytes after the last newline and an offset up to which they are known to
  hold none.  `append` cuts a chunk into lines; `data:` lines collect a record, an empty line hands
  it to the decoder of the provider family, and the decoder's events are published within the
  budget.  The first budget failure is latched.

    - §1 one line, one record;
    - §2 `append`, `finish` : as the source has them, with positions;
    - §3 the scan by positions is the list of lines;
    - §4 `append` is a `LineMachine` behind a feeder;
    - §5 two cuts of one text give the same events.
-/
import Ava.Lib.LineFeed
import Ava.Provider.StreamEvent

namespace Ava.Provider

open Ava.Core
open Ava.Lib (LineMachine unframe unframe_line unframe_tail unframe_sep_free)

variable {σ : Type}

/-! ## §1. Lines and records. -/

/-- A decoder of complete records, as the lambda that captures the parser's state `σ`.  It may
    charge the budget (`retain_fragment`) and appends events. -/
abbrev Decode (σ : Type) :=
  σ → ProviderParserBudget → Bytes → List StreamEvent × ProviderParserBudget × σ

/-- What `finish` calls when the text is used up. -/
abbrev Complete (σ : Type) := σ → ProviderParserBudget → List StreamEvent × ProviderParserBudget × σ

/-- The members of the buffer that lines change, and the state of the decoder. -/
structure RecordState (σ : Type) where
  budget : ProviderParserBudget := {}
  data : Bytes := []
  failed : Bool := false
  decoder : σ

variable (family : Bytes) (decode : Decode σ)

/-- `fail`. -/
def RecordState.fail (s : RecordState σ) : List StreamEvent × RecordState σ :=
  ([providerParserLimitEvent family], { s with failed := true })

/-- The events of a decoder, published. -/
def RecordState.publish (s : RecordState σ) (produced : List StreamEvent × ProviderParserBudget × σ) :
    List StreamEvent × RecordState σ :=
  let (events, budget, failed) := account family produced.2.1 produced.1
  (events, { s with budget := budget, failed := s.failed || failed, decoder := produced.2.2 })

/-- `record`. -/
def RecordState.record (s : RecordState σ) : List StreamEvent × RecordState σ :=
  let (events, s) :=
    match s.budget.record s.data with
    | none => s.fail family
    | some budget => s.publish family (decode s.decoder budget s.data)
  (events, { s with data := [] })

/-- A trailing carriage return belongs to the line end. -/
def stripCr (value : Bytes) : Bytes := if value.getLast? = some cr then value.dropLast else value

/-- The value of a `data:` line. -/
def dataValue (value : Bytes) : Bytes :=
  if (value.drop 5).head? = some 32 then value.drop 6 else value.drop 5

/-- A value joins the record, on a line of its own. -/
def RecordState.collect (s : RecordState σ) (value : Bytes) : List StreamEvent × RecordState σ :=
  let separator := if s.data.isEmpty then 0 else 1
  if value.length > kMaxProviderSseBufferedBytes - s.data.length ∨
      separator > kMaxProviderSseBufferedBytes - s.data.length - value.length then s.fail family
  else ([], { s with data := (if s.data.isEmpty then [] else s.data ++ [lf]) ++ value })

/-- `line`. -/
def RecordState.line (s : RecordState σ) (value : Bytes) : List StreamEvent × RecordState σ :=
  let value := stripCr value
  if value.isEmpty then
    if s.data.isEmpty then ([], s) else s.record family decode
  else if !(ascii "data:").isPrefixOf value then ([], s)
  else s.collect family (dataValue value)

/-! ## §2. The buffer. -/

/-- `ProviderSseBuffer`. -/
structure ProviderSseBuffer (σ : Type) extends RecordState σ where
  pendingLine : Bytes := []
  scanOffset : Nat := 0

/-- `std::string::find` of one octet, from a position on. -/
def findFrom (c : UInt8) (s : Bytes) (position : Nat) : Option Nat :=
  ((s.drop position).findIdx? (· == c)).map (position + ·)

theorem findFrom_some {c : UInt8} {s : Bytes} {position n : Nat} (h : findFrom c s position = some n) :
    ∃ before after, s.drop position = before ++ c :: after ∧ c ∉ before ∧
      n = position + before.length := by
  unfold findFrom at h
  rw [Option.map_eq_some_iff] at h
  obtain ⟨k, hk, rfl⟩ := h
  obtain ⟨hlt, hat, hbefore⟩ := List.findIdx?_eq_some_iff_getElem.mp hk
  refine ⟨(s.drop position).take k, (s.drop position).drop (k + 1), ?_, ?_, ?_⟩
  · have hc : (s.drop position)[k] = c := by simpa using hat
    conv_lhs => rw [← List.take_append_drop k (s.drop position)]
    rw [List.drop_eq_getElem_cons hlt, hc]
  · intro hmem
    obtain ⟨j, hj, hjc⟩ := List.mem_iff_getElem.mp hmem
    rw [List.length_take] at hj
    have hlt' : j < k := by omega
    rw [List.getElem_take] at hjc
    have := hbefore j hlt'
    rw [hjc] at this
    simp at this
  · rw [List.length_take]
    omega

theorem findFrom_none {c : UInt8} {s : Bytes} {position : Nat} (h : findFrom c s position = none) :
    c ∉ s.drop position := by
  unfold findFrom at h
  rw [Option.map_eq_none_iff, List.findIdx?_eq_none_iff] at h
  intro hmem
  have := h c hmem
  simp at this

/-- The loop of `append` over `pending_line_`: the position after the last line taken. -/
def scan (family : Bytes) (decode : Decode σ) (pending : Bytes) (start search : Nat)
    (s : RecordState σ) : List StreamEvent × Nat × RecordState σ :=
  if s.failed then ([], start, s)
  else
    match _h : findFrom lf pending search with
    | none => ([], start, s)
    | some newline =>
      let (events, s) := s.line family decode ((pending.drop start).take (newline - start))
      let (events', start, s) := scan family decode pending (newline + 1) (newline + 1) s
      (events ++ events', start, s)
termination_by pending.length - search
decreasing_by
  obtain ⟨before, after, hdrop, -, hn⟩ := findFrom_some _h
  have hlength := congrArg List.length hdrop
  rw [List.length_drop, List.length_append, List.length_cons] at hlength
  omega

/-- `append`. -/
def ProviderSseBuffer.append (b : ProviderSseBuffer σ) (chunk : Bytes) :
    List StreamEvent × ProviderSseBuffer σ :=
  if b.failed then ([], b)
  else if chunk.length > kMaxProviderSseBufferedBytes ∨
      b.pendingLine.length > kMaxProviderSseBufferedBytes - chunk.length then
    let (events, s) := b.toRecordState.fail family
    (events, { b with toRecordState := s })
  else
    let pending := b.pendingLine ++ chunk
    let (events, start, s) := scan family decode pending 0 b.scanOffset b.toRecordState
    let s := if s.failed then { s with data := [] } else s
    let pending := if s.failed then [] else pending.drop start
    (events, { toRecordState := s, pendingLine := pending, scanOffset := pending.length })

/-- A stage of `finish`: it runs unless the stream has failed. -/
def RecordState.next (step : RecordState σ → List StreamEvent × RecordState σ)
    (r : List StreamEvent × RecordState σ) : List StreamEvent × RecordState σ :=
  if r.2.failed then r else (r.1 ++ (step r.2).1, (step r.2).2)

variable (complete : Complete σ)

/-- `finish`, up to the reset of the buffer: the events and the state of the decoder. -/
def ProviderSseBuffer.finish (b : ProviderSseBuffer σ) : List StreamEvent × σ :=
  let r : List StreamEvent × RecordState σ := ([], b.toRecordState)
  let r := RecordState.next
    (fun s => if b.pendingLine.isEmpty then ([], s) else s.line family decode b.pendingLine) r
  let r := RecordState.next (fun s => if s.data.isEmpty then ([], s) else s.record family decode) r
  let r := RecordState.next (fun s => s.publish family (complete s.decoder s.budget)) r
  (r.1, r.2.decoder)

/-- The chunks of a transport, one `append` call each. -/
def ProviderSseBuffer.appendAll (family : Bytes) (decode : Decode σ) :
    ProviderSseBuffer σ → List Bytes → List StreamEvent × ProviderSseBuffer σ
  | b, [] => ([], b)
  | b, chunk :: chunks =>
    let (events, b) := b.append family decode chunk
    let (events', b) := appendAll family decode b chunks
    (events ++ events', b)

/-- A response: all its chunks, then `finish`. -/
def streamEvents (decoder : σ) (chunks : List Bytes) : List StreamEvent :=
  let (events, b) := ProviderSseBuffer.appendAll family decode { decoder := decoder } chunks
  events ++ (b.finish family decode complete).1

/-- No `append` call finds the pending line and its chunk above the limit. -/
def Fits (family : Bytes) (decode : Decode σ) : ProviderSseBuffer σ → List Bytes → Prop
  | _, [] => True
  | b, chunk :: chunks =>
    (b.failed = false → b.pendingLine.length + chunk.length ≤ kMaxProviderSseBufferedBytes) ∧
      Fits family decode (b.append family decode chunk).2 chunks

/-! ## §3. The scan by positions. -/

/-- The buffer as a machine over lines. -/
def sseMachine : LineMachine UInt8 (RecordState σ) StreamEvent where
  line s := s.line family decode
  stopped s := s.failed
  settle s := if s.failed then { s with data := [] } else s
  stopped_settle s := by split <;> rfl
  settle_of_running s h := by rw [if_neg (by simp [h])]

/-- **THE SCAN IS THE LIST OF LINES.**  With no newline between the start of the line and the
    position the search begins at, the loop runs the lines from the start of the line on. -/
theorem scan_eq (pending : Bytes) :
    ∀ (start search : Nat) (s : RecordState σ), start ≤ search → search ≤ pending.length →
      lf ∉ (pending.drop start).take (search - start) →
      let lines := unframe lf (pending.drop start)
      (scan family decode pending start search s).1 =
          ((sseMachine family decode).run s lines.1).1 ∧
        (scan family decode pending start search s).2.2 =
          ((sseMachine family decode).run s lines.1).2 ∧
        ((scan family decode pending start search s).2.2.failed = false →
          pending.drop (scan family decode pending start search s).2.1 = lines.2) := by
  intro start search s
  induction start, search, s using scan.induct family decode pending with
  | case1 start search s hfailed =>
    intro _ _ _
    have hstop : (sseMachine family decode).stopped s = true := hfailed
    rw [scan, if_pos hfailed]
    dsimp only
    rw [(sseMachine family decode).run_stopped hstop]
    refine ⟨rfl, rfl, ?_⟩
    intro hfalse
    rw [hfailed] at hfalse
    cases hfalse
  | case2 start search s hrun hnone =>
    intro hle hlen hfree
    -- neither the searched part nor the rest holds a newline: one open line
    have hopen : lf ∉ pending.drop start := by
      rw [← List.take_append_drop (search - start) (pending.drop start), List.drop_drop,
        Nat.add_sub_cancel' hle, List.mem_append]
      rintro (hmem | hmem)
      · exact hfree hmem
      · exact findFrom_none hnone hmem
    rw [scan, if_neg hrun]
    split
    next =>
      dsimp only
      rw [unframe_tail hopen]
      exact ⟨rfl, rfl, fun _ => rfl⟩
    next newline hsome =>
      rw [hnone] at hsome
      cases hsome
  | case3 start search s hrun newline hsome events s' hline events' start' s'' hscan ih =>
    intro hle hlen hfree
    obtain ⟨before, after, hdrop, hbefore, hnewline⟩ := findFrom_some hsome
    have hlength := congrArg List.length hdrop
    rw [List.length_drop, List.length_append, List.length_cons] at hlength
    -- the line is what lies before the newline, and the rest follows it
    have hsplit : pending.drop start =
        ((pending.drop start).take (search - start) ++ before) ++ lf :: after := by
      conv_lhs => rw [← List.take_append_drop (search - start) (pending.drop start)]
      rw [List.drop_drop, Nat.add_sub_cancel' hle, hdrop, List.append_assoc]
    have hprefix : ((pending.drop start).take (search - start)).length = search - start := by
      rw [List.length_take, List.length_drop]
      omega
    have htake : (pending.drop start).take (newline - start) =
        (pending.drop start).take (search - start) ++ before := by
      conv_lhs => rw [hsplit]
      apply List.take_left'
      rw [List.length_append, hprefix]
      omega
    have hrest : pending.drop (newline + 1) = after := by
      have h := congrArg (List.drop (newline + 1 - start)) hsplit
      rw [List.drop_drop, Nat.add_sub_cancel' (by omega)] at h
      rw [h, List.append_cons]
      apply List.drop_left'
      rw [List.length_append, List.length_append, hprefix, List.length_singleton]
      omega
    have hlinefree : lf ∉ (pending.drop start).take (search - start) ++ before := by
      rw [List.mem_append]
      rintro (hmem | hmem)
      · exact hfree hmem
      · exact hbefore hmem
    obtain ⟨hevents, hstate, htail⟩ := ih (Nat.le_refl _) (by omega) (by simp)
    rw [hrest] at hevents hstate htail
    have hframes : unframe lf (pending.drop start) =
        (((pending.drop start).take (newline - start)) :: (unframe lf after).1,
          (unframe lf after).2) := by
      rw [htake]
      conv_lhs => rw [hsplit]
      rw [unframe_line after hlinefree]
    have hmachine : (sseMachine family decode).line s ((pending.drop start).take (newline - start)) =
        (events, s') := hline
    have hnot : (sseMachine family decode).stopped s ≠ true := hrun
    dsimp only
    rw [hframes]
    dsimp only
    rw [LineMachine.run, if_neg hnot, hmachine, scan, if_neg hrun]
    split
    next hnone =>
      rw [hsome] at hnone
      cases hnone
    next newline' hsome' =>
      rw [hsome] at hsome'
      cases hsome'
      rw [hline]
      dsimp only
      exact ⟨by rw [hevents], hstate, htail⟩

/-! ## §4. The buffer is a fed machine. -/

/-- A buffer between two calls: no newline is pending, all of the pending line has been searched. -/
def ProviderSseBuffer.Scanned (b : ProviderSseBuffer σ) : Prop :=
  lf ∉ b.pendingLine ∧ b.scanOffset = b.pendingLine.length

/-- The buffer as the feeder sees it. -/
def ProviderSseBuffer.fed (b : ProviderSseBuffer σ) : Bytes × RecordState σ :=
  (b.pendingLine, b.toRecordState)
open ProviderSseBuffer RecordState


variable {b : ProviderSseBuffer σ}

/-- **ONE CALL** below the limit is one feed of the machine. -/
theorem append_eq_feed (hscanned : b.Scanned) {chunk : Bytes}
    (hfits : b.failed = false → b.pendingLine.length + chunk.length ≤ kMaxProviderSseBufferedBytes) :
    ((b.append family decode chunk).1, (b.append family decode chunk).2.fed) =
        (sseMachine family decode).feed lf b.fed chunk ∧
      (b.append family decode chunk).2.Scanned := by
  unfold append LineMachine.feed
  by_cases hfailed : b.failed = true
  · have hstop : (sseMachine family decode).stopped b.fed.2 = true := hfailed
    rw [if_pos hfailed, if_pos hstop]
    exact ⟨rfl, hscanned⟩
  · have hrun : (sseMachine family decode).stopped b.fed.2 ≠ true := hfailed
    have hsum := hfits (by simpa using hfailed)
    rw [if_neg hfailed, if_neg hrun, if_neg (by omega)]
    dsimp only
    obtain ⟨hfree, hoffset⟩ := hscanned
    obtain ⟨hevents, hstate, htail⟩ :=
      scan_eq family decode (b.pendingLine ++ chunk) 0 b.scanOffset b.toRecordState (Nat.zero_le _)
        (by rw [hoffset, List.length_append]; omega)
        (by rw [hoffset, List.drop_zero, Nat.sub_zero, List.take_left]; exact hfree)
    rw [List.drop_zero] at hevents hstate htail
    set r := scan family decode (b.pendingLine ++ chunk) 0 b.scanOffset b.toRecordState
    have hrunEq : (sseMachine family decode).run b.fed.2 (unframe lf (b.fed.1 ++ chunk)).1 =
        (r.1, r.2.2) := by
      rw [hevents, hstate]
      rfl
    rw [hrunEq]
    by_cases hstop : r.2.2.failed = true
    · simp [fed, ProviderSseBuffer.Scanned, sseMachine, hstop]
    · have hpending := htail (by simpa using hstop)
      have hopen : lf ∉ (unframe lf (b.pendingLine ++ chunk)).2 := (unframe_sep_free lf _).2
      simp only [fed, ProviderSseBuffer.Scanned, sseMachine, hstop]
      simp [hpending, hopen, hstop]

/-- All calls of a response are the feeds of the machine. -/
theorem appendAll_eq_feedAll : ∀ (chunks : List Bytes)
    (b : ProviderSseBuffer σ), b.Scanned → Fits family decode b chunks →
    ((b.appendAll family decode chunks).1, (b.appendAll family decode chunks).2.fed) =
        (sseMachine family decode).feedAll lf b.fed chunks := by
  intro chunks
  induction chunks with
  | nil =>
    intro b _ _
    rfl
  | cons chunk chunks ih =>
    intro b hscanned hfits
    obtain ⟨hone, hscanned'⟩ := append_eq_feed family decode hscanned hfits.1
    have hrest := ih _ hscanned' hfits.2
    rw [appendAll, LineMachine.feedAll, ← hone]
    dsimp only
    rw [← hrest]

/-! ## §5. What comes out. -/

section

variable {s : RecordState σ} (hs : s.failed = false)
include hs

theorem publish_endsWithFailure (produced : List StreamEvent × ProviderParserBudget × σ) :
    EndsWithFailure family (s.publish family produced).2.failed (s.publish family produced).1 := by
  unfold publish
  dsimp only
  rw [hs, Bool.false_or]
  exact account_endsWithFailure family produced.1 produced.2.1

theorem record_endsWithFailure :
    EndsWithFailure family (s.record family decode).2.failed (s.record family decode).1 := by
  unfold record
  cases s.budget.record s.data with
  | none => exact EndsWithFailure.single (isBudgetError_limit family)
  | some budget => exact publish_endsWithFailure family hs _

theorem collect_endsWithFailure (value : Bytes) :
    EndsWithFailure family (s.collect family value).2.failed (s.collect family value).1 := by
  unfold collect
  dsimp only
  generalize (if s.data.isEmpty then 0 else 1) = separator
  by_cases hlimit : value.length > kMaxProviderSseBufferedBytes - s.data.length ∨
      separator > kMaxProviderSseBufferedBytes - s.data.length - value.length
  · rw [if_pos hlimit]
    exact EndsWithFailure.single (isBudgetError_limit family)
  · rw [if_neg hlimit]
    exact .nil hs

theorem line_endsWithFailure (value : Bytes) :
    EndsWithFailure family (s.line family decode value).2.failed (s.line family decode value).1 := by
  unfold line
  dsimp only
  split_ifs
  · exact .nil hs
  · exact record_endsWithFailure family decode hs
  · exact .nil hs
  · exact collect_endsWithFailure family hs _

end

/-- A run of lines ends with its first failure. -/
theorem run_endsWithFailure : ∀ (lines : List Bytes)
    (s : RecordState σ), s.failed = false →
    EndsWithFailure family ((sseMachine family decode).run s lines).2.failed
      ((sseMachine family decode).run s lines).1 := by
  intro lines
  induction lines with
  | nil =>
    intro s hs
    exact .nil hs
  | cons l lines ih =>
    intro s hs
    have hrun : (sseMachine family decode).stopped s ≠ true := by
      show s.failed ≠ true
      simp [hs]
    have hline := line_endsWithFailure family decode hs l
    rw [LineMachine.run, if_neg hrun]
    show EndsWithFailure family
      ((sseMachine family decode).run (s.line family decode l).2 lines).2.failed
      ((s.line family decode l).1 ++
        ((sseMachine family decode).run (s.line family decode l).2 lines).1)
    cases hstop : (s.line family decode l).2.failed with
    | false =>
      rw [hstop] at hline
      exact hline.append (ih _ hstop)
    | true =>
      have hstopped : (sseMachine family decode).stopped (s.line family decode l).2 = true := hstop
      rw [(sseMachine family decode).run_stopped hstopped, hstop, List.append_nil]
      rw [hstop] at hline
      exact hline

/-- `finish` after the lines of a text, on its unterminated rest. -/
def finishRun (lines : List Bytes × Bytes) (s : RecordState σ) : List StreamEvent :=
  let ran := (sseMachine family decode).run s lines.1
  ran.1 ++ (finish family decode complete
    { toRecordState := (sseMachine family decode).settle ran.2
      pendingLine := if ran.2.failed then [] else lines.2 }).1

/-- **THE EVENTS OF A RESPONSE** are those of the lines of its text. -/
theorem streamEvents_eq (decoder : σ) {chunks : List Bytes}
    (hfits : Fits family decode { decoder := decoder } chunks) :
    streamEvents family decode complete decoder chunks =
      finishRun family decode complete (unframe lf chunks.flatten) { decoder := decoder } := by
  have hscanned : ({ decoder := decoder } : ProviderSseBuffer σ).Scanned :=
    ⟨List.not_mem_nil, rfl⟩
  have hall := appendAll_eq_feedAll family decode chunks _ hscanned hfits
  rw [LineMachine.feedAll_eq _ lf chunks _ List.not_mem_nil rfl] at hall
  obtain ⟨hevents, hfed⟩ := Prod.mk.inj hall
  obtain ⟨hpending, hstate⟩ := Prod.mk.inj hfed
  -- `finish` does not look at the search offset
  have hfinish : ∀ b : ProviderSseBuffer σ, b.finish family decode complete =
      finish family decode complete
        { toRecordState := b.toRecordState, pendingLine := b.pendingLine } := fun _ => rfl
  unfold streamEvents finishRun
  dsimp only
  rw [hevents, hfinish, hpending, hstate]
  rfl

/-- A stage that ends with its failure, after stages that do. -/
theorem next_endsWithFailure {family : Bytes} {step : RecordState σ → List StreamEvent × RecordState σ}
    (hstep : ∀ s, s.failed = false → EndsWithFailure family (step s).2.failed (step s).1)
    {r : List StreamEvent × RecordState σ} (hr : EndsWithFailure family r.2.failed r.1) :
    EndsWithFailure family (next step r).2.failed (next step r).1 := by
  unfold next
  by_cases hfailed : r.2.failed = true
  · rw [if_pos hfailed]
    exact hr
  · rw [if_neg hfailed]
    have hrun : r.2.failed = false := by simpa using hfailed
    rw [hrun] at hr
    exact hr.append (hstep r.2 hrun)

theorem finish_endsWithFailure (hb : b.failed = false) :
    ∃ failed, EndsWithFailure family failed (b.finish family decode complete).1 := by
  refine ⟨_, next_endsWithFailure ?_ (next_endsWithFailure ?_ (next_endsWithFailure ?_ ?_))⟩
  · intro s hs
    exact publish_endsWithFailure family hs _
  · intro s hs
    split
    · exact .nil hs
    · exact record_endsWithFailure family decode hs
  · intro s hs
    split
    · exact .nil hs
    · exact line_endsWithFailure family decode hs _
  · exact .nil hb

/-- A failed stream is silent. -/
theorem finish_failed (hb : b.failed = true) : (b.finish family decode complete).1 = [] := by
  unfold finish next
  simp [hb]

theorem append_failed (hb : b.failed = true) (chunk : Bytes) :
    b.append family decode chunk = ([], b) := by
  unfold append
  rw [if_pos hb]

theorem appendAll_failed (family : Bytes) (decode : Decode σ)
    (hb : b.failed = true) : ∀ chunks, b.appendAll family decode chunks = ([], b)
  | [] => rfl
  | chunk :: chunks => by
    rw [appendAll, append_failed family decode hb]
    dsimp only
    rw [appendAll_failed family decode hb chunks]
    rfl

theorem appendAll_append (ds : List Bytes) :
    ∀ (cs : List Bytes) (b : ProviderSseBuffer σ),
      b.appendAll family decode (cs ++ ds) =
        ((b.appendAll family decode cs).1 ++
            ((b.appendAll family decode cs).2.appendAll family decode ds).1,
          ((b.appendAll family decode cs).2.appendAll family decode ds).2) := by
  intro cs
  induction cs with
  | nil =>
    intro b
    rfl
  | cons c cs ih =>
    intro b
    rw [List.cons_append, appendAll, appendAll]
    dsimp only
    rw [ih, List.append_assoc]

/-- The events of a response end with its first failure. -/
theorem finishRun_endsWithFailure (lines : List Bytes × Bytes) (decoder : σ) :
    ∃ failed, EndsWithFailure family failed
      (finishRun family decode complete lines { decoder := decoder }) := by
  unfold finishRun
  dsimp only
  have hrun := run_endsWithFailure family decode lines.1 { decoder := decoder } rfl
  set ran := (sseMachine family decode).run { decoder := decoder } lines.1
  have hsettled : ((sseMachine family decode).settle ran.2).failed = ran.2.failed :=
    (sseMachine family decode).stopped_settle ran.2
  cases hfailed : ran.2.failed with
  | true =>
    rw [finish_failed family decode complete (by rw [hsettled, hfailed]), List.append_nil]
    exact ⟨_, hrun⟩
  | false =>
    rw [hfailed] at hrun hsettled
    obtain ⟨failed, hfinish⟩ := finish_endsWithFailure family decode complete
      (b := { toRecordState := (sseMachine family decode).settle ran.2
              pendingLine := if false = true then [] else lines.2 }) hsettled
    exact ⟨failed, hrun.append hfinish⟩

/-- A call leaves no more pending than it found and was given. -/
theorem pendingLine_append_le (b : ProviderSseBuffer σ) (chunk : Bytes) :
    (b.append family decode chunk).2.pendingLine.length ≤ b.pendingLine.length + chunk.length := by
  unfold append
  split_ifs
  · exact Nat.le_add_right _ _
  · exact Nat.le_add_right _ _
  · dsimp only
    split
    · exact Nat.zero_le _
    · rw [List.length_drop, List.length_append]
      exact Nat.sub_le _ _

/-- A short text fits however it is cut. -/
theorem fits_of_short : ∀ (chunks : List Bytes)
    (b : ProviderSseBuffer σ),
    b.pendingLine.length + chunks.flatten.length ≤ kMaxProviderSseBufferedBytes →
    Fits family decode b chunks := by
  intro chunks
  induction chunks with
  | nil =>
    intro b _
    trivial
  | cons chunk chunks ih =>
    intro b hshort
    rw [List.flatten_cons, List.length_append] at hshort
    refine ⟨fun _ => by omega, ih _ ?_⟩
    have := pendingLine_append_le family decode b chunk
    omega

/-! ## §6. Chunks do not show. -/

/-- **TRANSPORT CHUNKS DO NOT SHOW.**  For every decoder: two cuts of one text in which no call
    passes the buffer limit give the same events; nothing follows a budget error; and once a call
    has failed, neither later calls nor `finish` produce an event. -/
theorem events_of_text_alone (decoder : σ) (cs ds : List Bytes)
    (hcs : Fits family decode { decoder := decoder } cs)
    (hds : Fits family decode { decoder := decoder } ds) (htext : cs.flatten = ds.flatten) :
    streamEvents family decode complete decoder cs =
        streamEvents family decode complete decoder ds ∧
      (∀ pre e post, streamEvents family decode complete decoder cs = pre ++ e :: post →
        isBudgetError family e = true → post = []) ∧
      (∀ before after, cs = before ++ after →
        (appendAll family decode { decoder := decoder } before).2.failed = true →
        streamEvents family decode complete decoder cs =
          (appendAll family decode { decoder := decoder } before).1) := by
  refine ⟨?_, ?_, ?_⟩
  · rw [streamEvents_eq family decode complete decoder hcs,
      streamEvents_eq family decode complete decoder hds, htext]
  · intro pre e post heq he
    rw [streamEvents_eq family decode complete decoder hcs] at heq
    obtain ⟨failed, hends⟩ :=
      finishRun_endsWithFailure family decode complete (unframe lf cs.flatten) decoder
    exact hends.after heq he
  · intro before after hcut hfailed
    unfold streamEvents
    rw [hcut, appendAll_append, appendAll_failed family decode hfailed]
    dsimp only
    rw [finish_failed family decode complete hfailed, List.append_nil, List.append_nil]

end Ava.Provider
