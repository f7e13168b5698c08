/-
  Ava.Core.StrictJson
  **STRICT JSON ACCEPTANCE** (`core/strict_json.cpp`).  The syntax itself is decided by the
  external `nlohmann::json::sax_parse`, which reports the document as a stream of SAX events
  to a handler.  The external parser is a PARAMETER here: what it reports on a text when the
  handler never stops it, and whether it reaches the end without a syntax error.  The
  handler `DuplicateRejectingSax` is the program's own and is run over that stream.
-/
import Ava.Core.JsonGrammar

namespace Ava.Core

open Ava.Core.Json Ava.Lib.Rfc8259

/-- What the handler can tell apart: object boundaries, member names (after escape
    decoding) and everything else. -/
inductive SaxEvent where
  | startObject
  | key (name : Bytes)
  | endObject
  | other
deriving Repr, DecidableEq

/-- The events `sax_parse` delivers on a text to a handler that accepts every event, and
    whether the text was read to its end without `parse_error`. -/
structure SaxRun where
  events : List SaxEvent
  ok : Bool
deriving Repr, DecidableEq

/-- The external parser. -/
abbrev SaxParser := Bytes → SaxRun

/-- How a run of the handler over the events ends. -/
inductive SaxOutcome where
  | finished
  | stopped
  | duplicate
deriving Repr, DecidableEq

/-- `DuplicateRejectingSax`: `objects_` is the stack of member-name sets of the open
    objects; `key` and `end_object` refuse an event outside every object. -/
def duplicateRejectingSax : List (List Bytes) → List SaxEvent → SaxOutcome
  | _, [] => .finished
  | objects, .startObject :: es => duplicateRejectingSax ([] :: objects) es
  | [], .key _ :: _ => .stopped
  | names :: objects, .key k :: es =>
    if k ∈ names then .duplicate else duplicateRejectingSax ((k :: names) :: objects) es
  | [], .endObject :: _ => .stopped
  | _ :: objects, .endObject :: es => duplicateRejectingSax objects es
  | objects, .other :: es => duplicateRejectingSax objects es

inductive StrictJsonStatus where
  | valid | invalid | nestingTooDeep | duplicateObjectKey
deriving Repr, DecidableEq

/-- `validate_strict_json`. -/
def validateStrictJson (sax : SaxParser) (value : Bytes) (maxNesting : Nat) : StrictJsonStatus :=
  if !isValidUtf8 value then .invalid
  else if !nestingWithinLimit maxNesting {} 0 value then .nestingTooDeep
  else
    match duplicateRejectingSax [] (sax value).events with
    | .duplicate => .duplicateObjectKey
    | .stopped => .invalid
    | .finished => if (sax value).ok then .valid else .invalid

/-- A value is accepted exactly when it is UTF-8, shallow enough, free of duplicate member
    names, and read to its end by the external parser. -/
theorem validateStrictJson_eq_valid_iff (sax : SaxParser) (value : Bytes) (maxNesting : Nat) :
    validateStrictJson sax value maxNesting = .valid ↔
      isValidUtf8 value = true ∧ nestingWithinLimit maxNesting {} 0 value = true ∧
        duplicateRejectingSax [] (sax value).events = .finished ∧ (sax value).ok = true := by
  unfold validateStrictJson
  cases isValidUtf8 value <;> cases nestingWithinLimit maxNesting {} 0 value <;>
    cases duplicateRejectingSax [] (sax value).events <;> cases (sax value).ok <;> simp

/-! ## A text cut short. -/

/-- What is assumed of the external parser: it accepts only RFC 8259 documents, and it reports
    a text as it reads it, so that on a prefix of an accepted text it reports no other events. -/
structure SaxContract (sax : SaxParser) : Prop where
  accepts : ∀ v, isValidUtf8 v = true → (sax v).ok = true → Document v
  streams : ∀ v w, v <+: w → (sax w).ok = true → (sax v).events <+: (sax w).events

/-- The nesting check of a prefix. -/
theorem nestingWithinLimit_prefix {maxDepth : Nat} (t : Bytes) :
    ∀ {p : Bytes} {q : LitState} {depth : Nat},
      nestingWithinLimit maxDepth q depth (p ++ t) = true →
      nestingWithinLimit maxDepth q depth p = true := by
  intro p
  induction p with
  | nil =>
    intro q depth _
    rfl
  | cons c p ih =>
    intro q depth h
    rw [List.cons_append, nestingWithinLimit] at h
    rw [nestingWithinLimit]
    split
    next hstring =>
      rw [if_pos hstring] at h
      exact ih h
    next hstring =>
      rw [if_neg hstring] at h
      split
      next hopen =>
        rw [if_pos hopen] at h
        split
        next hdeep =>
          rw [if_pos hdeep] at h
          cases h
        next hdeep =>
          rw [if_neg hdeep] at h
          exact ih h
      next hopen =>
        rw [if_neg hopen] at h
        split
        next hclose =>
          rw [if_pos hclose] at h
          exact ih h
        next hclose =>
          rw [if_neg hclose] at h
          exact ih h

/-- The handler gets through the start of a stream it gets through. -/
theorem duplicateRejectingSax_prefix (fs : List SaxEvent) :
    ∀ {es : List SaxEvent} {objects : List (List Bytes)},
      duplicateRejectingSax objects (es ++ fs) = .finished →
      duplicateRejectingSax objects es = .finished := by
  intro es
  induction es with
  | nil =>
    intro objects _
    cases objects <;> rfl
  | cons e es ih =>
    intro objects h
    rw [List.cons_append] at h
    cases e with
    | startObject | other =>
      rw [duplicateRejectingSax] at h ⊢
      exact ih h
    | endObject =>
      cases objects with
      | nil => cases h
      | cons names objects =>
        rw [duplicateRejectingSax] at h ⊢
        exact ih h
    | key k =>
      cases objects with
      | nil => cases h
      | cons names objects =>
        rw [duplicateRejectingSax] at h ⊢
        split
        next hmem =>
          rw [if_pos hmem] at h
          cases h
        next hmem =>
          rw [if_neg hmem] at h
          exact ih h

/-- **A VALID OBJECT TEXT CUT SHORT IS INVALID**, not too deep and not a duplicate: wherever the
    cut falls, inside a character, an escape, a name or a value. -/
theorem validateStrictJson_proper_prefix {sax : SaxParser} (hsax : SaxContract sax)
    {s p : Bytes} {maxNesting : Nat} (hvalid : validateStrictJson sax s maxNesting = .valid)
    (hhead : s.head? = some lbrace) (hlast : s.getLast? = some rbrace) (hp : p <+: s)
    (hne : p ≠ []) (hproper : p ≠ s) : validateStrictJson sax p maxNesting = .invalid := by
  obtain ⟨hutf8, hnesting, hnames, hok⟩ :=
    (validateStrictJson_eq_valid_iff sax s maxNesting).mp hvalid
  have hdocument : Document s := hsax.accepts s hutf8 hok
  have hnesting' : nestingWithinLimit maxNesting {} 0 p = true := by
    obtain ⟨t, rfl⟩ := hp
    exact nestingWithinLimit_prefix t hnesting
  have hnames' : duplicateRejectingSax [] (sax p).events = .finished := by
    obtain ⟨fs, hfs⟩ := hsax.streams p s hp hok
    rw [← hfs] at hnames
    exact duplicateRejectingSax_prefix fs hnames
  unfold validateStrictJson
  by_cases hcut : isValidUtf8 p = true
  · have hreject : (sax p).ok = false := by
      by_contra hacc
      have hp' : Document p := hsax.accepts p hcut (by simpa using hacc)
      exact not_document_of_proper_prefix hdocument hhead hlast hp hne hproper hp'
    simp [hcut, hnesting', hnames', hreject]
  · simp [hcut]

end Ava.Core
