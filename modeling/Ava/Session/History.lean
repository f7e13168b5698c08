/-
  Ava.Session.History
  **THE RECORDS IN STORAGE.**

  Between the file and the guard state stand the records: the terminated lines as the strict
  reader decodes them, and an open tail when it is a whole record already.  This module says
  which records a file holds (`recordsIn`), what one append does to them, and that the guard
  cannot tell an entry from the record that is read back for it.

    - §1 decoding does not depend on the path; §2 the record stored for an entry;
    - §3 the records of a file; §4 a file that grows by a record line;
    - §5 the guard state of a file.
-/
import Ava.Session.Latch

namespace Ava.Session

open Ava.Core Ava.Core.Json Ava.Lib AppendState

/-! ## §1. Decoding does not depend on the path. -/

variable {line path : Bytes}

theorem readSupportedEntryVersion_path {v : Int} (path' : Bytes)
    (h : readSupportedEntryVersion line path = .ok v) :
    readSupportedEntryVersion line path' = .ok v := by
  unfold readSupportedEntryVersion at h ⊢
  cases hversion : extractEntryVersion line with
  | error e =>
    rw [hversion] at h
    cases h
  | ok o =>
    rw [hversion] at h
    cases o with
    | none => exact h
    | some w =>
      dsimp only at h ⊢
      split at h
      next hrange =>
        rw [if_pos hrange]
        exact h
      next => cases h

/-- The path of a record only occurs in error texts. -/
theorem parseSessionEntryLine_path {e : SessionEntry} (path' : Bytes)
    (h : parseSessionEntryLine line path = .ok e) : parseSessionEntryLine line path' = .ok e := by
  unfold parseSessionEntryLine at h ⊢
  split at h
  next => cases h
  next hutf8 =>
    rw [if_neg hutf8]
    split at h
    next => cases h
    next version hversion =>
      rw [readSupportedEntryVersion_path path' hversion]
      dsimp only at h ⊢
      split at h
      next => cases h
      next hmembers =>
        rw [if_neg hmembers]
        split at h
        next => cases h
        next hdata =>
          rw [if_neg hdata]
          iterate 3
            split at h
            next => cases h
          exact h

theorem parseStrictSessionRecord_path {sax : SaxParser} {fin : Bool} {e : SessionEntry}
    (path' : Bytes) (fin' : Bool) (h : parseStrictSessionRecord sax line path fin = .ok e) :
    parseStrictSessionRecord sax line path' fin' = .ok e := by
  rw [parseStrictSessionRecord_eq_ok_iff] at h ⊢
  exact ⟨h.1, parseSessionEntryLine_path path' h.2⟩

theorem parseLines_path {sax : SaxParser} (path' : Bytes) :
    ∀ {lines : List Bytes} {entries : List SessionEntry},
      parseLines sax path lines = .ok entries → parseLines sax path' lines = .ok entries := by
  intro lines
  induction lines with
  | nil =>
    intro entries h
    exact h
  | cons line lines ih =>
    intro entries h
    obtain ⟨e, es, hparse, hrest, rfl⟩ := parseLines_cons.mp h
    exact parseLines_cons.mpr
      ⟨e, es, parseStrictSessionRecord_path path' false hparse, ih hrest, rfl⟩

/-! ## §2. The record stored for an entry. -/

/-- The record that is read back for an entry; an entry that was accepted has one. -/
def storedEntry (cfg : StoreConfig) (entry : SessionEntry) : SessionEntry :=
  match parseStrictSessionRecord cfg.sax (sessionEntryLineText entry) cfg.path false with
  | .ok e => e
  | .error _ => entry

section

variable {cfg : StoreConfig} {entry : SessionEntry}

theorem Accepted.parses_stored (h : Accepted cfg entry) (path : Bytes) (fin : Bool) :
    parseStrictSessionRecord cfg.sax (sessionEntryLineText entry) path fin
      = .ok (storedEntry cfg entry) := by
  obtain ⟨e, hparse⟩ := h.parses
  unfold storedEntry
  rw [hparse]
  exact parseStrictSessionRecord_path path fin hparse

/-- Only the data and the version of an entry can change on the way through the file. -/
theorem Accepted.stored_envelope (h : Accepted cfg entry) :
    (storedEntry cfg entry).id = entry.id ∧ (storedEntry cfg entry).parentId = entry.parentId ∧
      (storedEntry cfg entry).type = entry.type := by
  have hparse := (parseStrictSessionRecord_eq_ok_iff.mp (h.parses_stored cfg.path false)).2
  rw [strip_cr_sessionEntryLineText] at hparse
  obtain ⟨version, -, heq⟩ := parseSessionEntryLine_line h.version hparse
  rw [heq]
  exact ⟨rfl, rfl, rfl⟩

/-- What is read back is the entry itself exactly when its data is self-contained. -/
theorem Accepted.stored_eq_iff (h : Accepted cfg entry) :
    storedEntry cfg entry = entry ↔ closesAtEnd entry.dataJson = true := by
  have hparse := (parseStrictSessionRecord_eq_ok_iff.mp (h.parses_stored cfg.path false)).2
  rw [strip_cr_sessionEntryLineText] at hparse
  exact parseSessionEntryLine_line_iff h.version h.opens hparse

/-- Data that is a valid object comes back as it was. -/
theorem Accepted.stored_eq (h : Accepted cfg entry) (hobject : isValidObject entry.dataJson = true) :
    storedEntry cfg entry = entry := by
  refine h.stored_eq_iff.mpr ?_
  unfold closesAtEnd
  rw [decide_eq_true_eq]
  exact parseBalanced_of_validObject hobject h.opens h.closes

end

theorem isValidObject_of_objectHasOnlyKeys {object : Bytes} {keys : List String}
    (h : objectHasOnlyKeys object keys = true) : isValidObject object = true := by
  unfold objectHasOnlyKeys at h
  rw [Bool.and_eq_true] at h
  exact h.1

variable {entry : SessionEntry}

theorem isValidObject_of_item {item : AssistantOutputItem}
    (h : parseAssistantOutputItem entry = .ok item) : isValidObject entry.dataJson = true := by
  obtain ⟨-, -, h⟩ := bind_eq_ok h
  rw [parseAssistantOutputItemData, ite_error_eq_ok, Bool.not_eq_true, Bool.not_eq_false'] at h
  exact isValidObject_of_objectHasOnlyKeys h.1

theorem isValidObject_of_commit {commit : AssistantTurnCommit}
    (h : parseAssistantTurnCommit entry = .ok commit) : isValidObject entry.dataJson = true := by
  obtain ⟨-, -, h⟩ := bind_eq_ok h
  rw [parseAssistantTurnCommitData, ite_error_eq_ok, Bool.not_eq_true, Bool.not_eq_false'] at h
  exact isValidObject_of_objectHasOnlyKeys h.1

variable {cfg : StoreConfig} {s s' : AppendState}

/-- **The guard takes the stored record the way it took the entry.**  An ordinary record counts
    by its type alone, and the data of a v4 record is a valid object. -/
theorem applyCandidate_stored (haccepted : Accepted cfg entry)
    (h : s.applyCandidate entry = .ok s') :
    s.applyCandidate (storedEntry cfg entry) = .ok s' := by
  have htype := haccepted.stored_envelope.2.2
  by_cases hitem : entry.type = .assistantOutputItem
  · rw [applyCandidate, hitem] at h
    have hobject : isValidObject entry.dataJson = true := by
      change s.applyItem entry = .ok s' at h
      unfold applyItem at h
      split at h
      next => cases h
      next item hparse => exact isValidObject_of_item hparse
    rw [haccepted.stored_eq hobject, applyCandidate, hitem]
    exact h
  · by_cases hcommit : entry.type = .assistantTurnCommit
    · rw [applyCandidate, hcommit] at h
      have hobject : isValidObject entry.dataJson = true := by
        change s.applyCommit entry = .ok s' at h
        unfold applyCommit at h
        split at h
        next => cases h
        next commit hparse => exact isValidObject_of_commit hparse
      rw [haccepted.stored_eq hobject, applyCandidate, hcommit]
      exact h
    · rw [applyCandidate_of_other hitem hcommit] at h
      rw [applyCandidate_of_other (htype ▸ hitem) (htype ▸ hcommit)]
      exact h

/-! ## §3. The records of a file. -/

/-- The records in storage: the terminated lines, and an open tail that is a record already. -/
def recordsIn (cfg : StoreConfig) (content : Bytes) : Result (List SessionEntry) :=
  match parseLines cfg.sax cfg.path (unframe lf content).1 with
  | .error e => .error e
  | .ok entries =>
    if (unframe lf content).2.isEmpty then .ok entries
    else
      match parseStrictSessionRecord cfg.sax (unframe lf content).2 cfg.path true with
      | .error _ => .ok entries
      | .ok last => .ok (entries ++ [last])

variable {content : Bytes} {history : List SessionEntry}

/-- A load that succeeds returns the records in storage. -/
theorem recordsIn_of_loadBounded {limits : SessionReadLimits}
    (h : loadBounded cfg.sax path limits content = .ok history) :
    recordsIn cfg content = .ok history := by
  have hlimits : validateReadLimits limits = .ok () := by
    unfold loadBounded at h
    split at h
    next => cases h
    next hlimits => exact hlimits
  obtain ⟨hrecords, -⟩ := (loadBounded_eq_ok_iff hlimits).mp h
  unfold strictRecords strictPieces at hrecords
  unfold recordsIn
  split at hrecords
  next => cases hrecords
  next entries hlines =>
    rw [parseLines_path cfg.path hlines]
    dsimp only
    split at hrecords
    next htail =>
      rw [if_pos htail]
      exact hrecords
    next htail =>
      rw [if_neg htail]
      obtain ⟨last, hparse, rfl⟩ := map_eq_ok_iff.mp hrecords
      rw [parseStrictSessionRecord_path cfg.path true hparse]

theorem recordsIn_of_loadLeased {lease : SessionLease} {limits : SessionReadLimits}
    {fault : Option ReadFault} (h : loadLeased cfg lease limits fault content = .ok history) :
    recordsIn cfg content = .ok history := by
  unfold loadLeased at h
  iterate 6
    split at h
    next => cases h
  exact recordsIn_of_loadBounded h

theorem recordsIn_of_load {t : Target} {fault : Option ReadFault}
    (h : t.load cfg fault (.file content) = .ok history) : recordsIn cfg content = .ok history := by
  unfold Target.load at h
  cases hlease : t.lease with
  | some lease =>
    rw [hlease] at h
    exact recordsIn_of_loadLeased h
  | none =>
    rw [hlease] at h
    change loadUnleased cfg t.readLimits fault (.file content) = .ok history at h
    unfold loadUnleased at h
    iterate 3
      split at h
      next => cases h
    exact recordsIn_of_loadBounded h

theorem recordsIn_framed (hframed : (unframe lf content).2 = []) :
    recordsIn cfg content = parseLines cfg.sax cfg.path (unframe lf content).1 := by
  unfold recordsIn
  rw [hframed]
  cases parseLines cfg.sax cfg.path (unframe lf content).1 with
  | error e | ok entries => rfl

/-! ## §4. A file that grows by a record line. -/

theorem parseLines_append_singleton (sax : SaxParser) (path line : Bytes) (lines : List Bytes) :
    parseLines sax path (lines ++ [line]) =
      match parseLines sax path lines with
      | .error e => .error e
      | .ok entries => (parseStrictSessionRecord sax line path false).map (entries ++ [·]) := by
  induction lines with
  | nil =>
    rw [List.nil_append, parseLines, parseLines]
    cases hparse : parseStrictSessionRecord sax line path false with
    | error e | ok e => rfl
  | cons l lines ih =>
    rw [List.cons_append, parseLines, parseLines, ih]
    cases parseStrictSessionRecord sax l path false with
    | error e => rfl
    | ok e =>
      cases parseLines sax path lines with
      | error e' => rfl
      | ok entries =>
        cases parseStrictSessionRecord sax line path false with
        | error e' | ok last => rfl

variable {p : Bytes}

/-- The newline of a whole record is the only octet that ends a line in its payload. -/
theorem prefix_entryPayload (hp : p <+: entryPayload entry) :
    (p <+: sessionEntryLineText entry ∧ p ≠ sessionEntryLineText entry) ∨
      p = sessionEntryLineText entry ∨ p = entryPayload entry := by
  obtain heq | hcut := List.prefix_concat_iff.mp hp
  · exact .inr (.inr heq)
  · by_cases heq : p = sessionEntryLineText entry
    · exact .inr (.inl heq)
    · exact .inl ⟨hcut, heq⟩

/-- A whole line adds its stored record. -/
theorem recordsIn_append_whole (haccepted : Accepted cfg entry)
    (hframed : content = [] ∨ content.getLast? = some lf) :
    recordsIn cfg (content ++ entryPayload entry) =
      (recordsIn cfg content).map (· ++ [storedEntry cfg entry]) := by
  have htail : (unframe lf content).2 = [] := (unframe_snd_eq_nil_iff lf content).mpr hframed
  have hpieces : unframe lf (content ++ entryPayload entry) =
      ((unframe lf content).1 ++ [sessionEntryLineText entry], []) := by
    rw [entryPayload, unframe_append, htail, List.nil_append,
      unframe_line _ haccepted.line_noNewline.1]
    rfl
  rw [recordsIn_framed htail, recordsIn_framed (by rw [hpieces]), hpieces,
    parseLines_append_singleton, haccepted.parses_stored]
  cases parseLines cfg.sax cfg.path (unframe lf content).1 with
  | error e | ok entries => rfl

/-- **A TORN OR WHOLE APPEND, SEEN THROUGH THE RECORDS.**  Up to the last octet of the line the
    records stay what they were; with it the stored record is there, newline or not. -/
theorem recordsIn_append (hsax : SaxContract cfg.sax) (haccepted : Accepted cfg entry)
    (hframed : content = [] ∨ content.getLast? = some lf) (hp : p <+: entryPayload entry) :
    recordsIn cfg (content ++ p) =
      if p.length < (sessionEntryLineText entry).length then recordsIn cfg content
      else (recordsIn cfg content).map (· ++ [storedEntry cfg entry]) := by
  have htail : (unframe lf content).2 = [] := (unframe_snd_eq_nil_iff lf content).mpr hframed
  have hfree : lf ∉ sessionEntryLineText entry := haccepted.line_noNewline.1
  obtain ⟨hcut, hproper⟩ | rfl | rfl := prefix_entryPayload hp
  · have hlt : p.length < (sessionEntryLineText entry).length :=
      lt_of_le_of_ne hcut.length_le fun hlen => hproper (hcut.eq_of_length hlen)
    rw [if_pos hlt]
    by_cases hne : p = []
    · rw [hne, List.append_nil]
    · have hvalid := (parseStrictSessionRecord_eq_ok_iff.mp
        (haccepted.parses_stored cfg.path false)).1
      have hinvalid := validateStrictJson_proper_prefix hsax hvalid
        (head?_sessionEntryLineText entry) (getLast?_sessionEntryLineText entry) hcut hne hproper
      have hrefused : ∃ e, parseStrictSessionRecord cfg.sax p cfg.path true = .error e := by
        unfold parseStrictSessionRecord
        rw [hinvalid]
        exact ⟨_, rfl⟩
      obtain ⟨e, he⟩ := hrefused
      rw [recordsIn_framed htail]
      unfold recordsIn
      rw [unframe_framed_append htail fun hmem => hfree (hcut.subset hmem), he]
      cases parseLines cfg.sax cfg.path (unframe lf content).1 with
      | error e => rfl
      | ok entries => simp
  · rw [if_neg (Nat.lt_irrefl _), recordsIn_framed htail]
    unfold recordsIn
    rw [unframe_framed_append htail hfree, haccepted.parses_stored]
    have hne : (sessionEntryLineText entry).isEmpty = false := by
      rw [sessionEntryLineText_eq]
      rfl
    cases parseLines cfg.sax cfg.path (unframe lf content).1 with
    | error e => rfl
    | ok entries =>
      dsimp only
      rw [hne]
      rfl
  · have hlong : ¬ (entryPayload entry).length < (sessionEntryLineText entry).length := by
      rw [entryPayload, List.length_append]
      omega
    rw [if_neg hlong]
    exact recordsIn_append_whole haccepted hframed

/-! ## §5. The guard state of a file. -/

/-- A history has a guard state exactly when the classifier finds no error in it. -/
theorem fromValidatedHistory_eq_ok_iff {entries : List SessionEntry} :
    fromValidatedHistory entries = .ok s ↔
      Clean (classified entries) ∧ s = ofClassified (classified entries) := by
  constructor
  · intro h
    have hclean : Clean (classified entries) := by
      rw [← errorFree_iff_clean]
      unfold fromValidatedHistory at h
      dsimp only at h
      split at h
      next => cases h
      next hfind =>
        rw [List.find?_eq_none] at hfind
        unfold Projection.errorFree
        rw [List.all_eq_true]
        intro d hd
        have hd' := hfind d hd
        unfold Diagnostic.isIncomplete at hd'
        simp only [Bool.not_eq_true', Bool.not_eq_false, Bool.and_eq_true] at hd'
        exact hd'.1
    rw [fromValidatedHistory_of_clean hclean] at h
    exact ⟨hclean, (Except.ok.inj h).symm⟩
  · intro h
    rw [h.2]
    exact fromValidatedHistory_of_clean h.1

/-- The guard state of the records in a file. -/
def guardIn (cfg : StoreConfig) (content : Bytes) : Result AppendState :=
  match recordsIn cfg content with
  | .error e => .error e
  | .ok entries => fromValidatedHistory entries

theorem guardIn_eq_ok_iff :
    guardIn cfg content = .ok s ↔
      ∃ entries, recordsIn cfg content = .ok entries ∧
        fromValidatedHistory entries = .ok s := by
  unfold guardIn
  cases recordsIn cfg content with
  | error e | ok entries => simp

/-- One accepted entry moves the guard state of a history by one step. -/
theorem fromValidatedHistory_snoc {entries : List SessionEntry}
    (h : fromValidatedHistory entries = .ok s)
    (happly : s.applyCandidate entry = .ok s') :
    fromValidatedHistory (entries ++ [entry]) = .ok s' := by
  obtain ⟨hclean, rfl⟩ := fromValidatedHistory_eq_ok_iff.mp h
  exact fromValidatedHistory_eq_ok_iff.mpr ((applyCandidate_classified_iff entry s' hclean).mp happly)

/-- A run of accepted entries moves it by one step each, read back from the file. -/
theorem fromValidatedHistory_stored :
    ∀ {entries history : List SessionEntry} {s s' : AppendState},
      fromValidatedHistory history = .ok s → (∀ e ∈ entries, Accepted cfg e) →
      s.applyCandidates entries = .ok s' →
      fromValidatedHistory (history ++ entries.map (storedEntry cfg)) = .ok s' := by
  intro entries
  induction entries with
  | nil =>
    intro history s s' h _ happly
    cases happly
    rw [List.map_nil, List.append_nil]
    exact h
  | cons e entries ih =>
    intro history s s' h haccepted happly
    obtain ⟨he, hrest⟩ := List.forall_mem_cons.mp haccepted
    unfold applyCandidates at happly
    split at happly
    next => cases happly
    next s₁ hone =>
      have hsnoc := fromValidatedHistory_snoc h (applyCandidate_stored he hone)
      rw [List.map_cons, List.append_cons]
      exact ih hsnoc hrest happly

/-- **A WRITE UNDER THE GUARD.**  While the line is incomplete the guard state of the file is
    the old one, afterwards it is the one the preflight computed. -/
theorem guardIn_append (hsax : SaxContract cfg.sax) (haccepted : Accepted cfg entry)
    (hframed : content = [] ∨ content.getLast? = some lf) (hp : p <+: entryPayload entry)
    (hguard : guardIn cfg content = .ok s) (happly : s.applyCandidate entry = .ok s') :
    guardIn cfg (content ++ p) =
      .ok (if p.length < (sessionEntryLineText entry).length then s else s') := by
  obtain ⟨entries, hrecords, hstate⟩ := guardIn_eq_ok_iff.mp hguard
  have hgrown := recordsIn_append hsax haccepted hframed hp
  rw [guardIn_eq_ok_iff]
  by_cases hshort : p.length < (sessionEntryLineText entry).length
  · rw [if_pos hshort] at hgrown ⊢
    exact ⟨entries, hgrown.trans hrecords, hstate⟩
  · rw [if_neg hshort, hrecords] at hgrown
    rw [if_neg hshort]
    exact ⟨_, hgrown, fromValidatedHistory_snoc hstate (applyCandidate_stored haccepted happly)⟩

end Ava.Session
