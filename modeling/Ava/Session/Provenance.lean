/-
  Ava.Session.Provenance
  **WHERE A USER MESSAGE COMES FROM** (`session/record.cpp`).  A user message that no user
  wrote says so in its data: a synthetic delivery carries a `provenance` object of exactly
  three members, and a message repeated after a compaction carries `"internal_replay":true`.
-/
import Ava.Core.StrictJson
import Ava.Session.Entry

namespace Ava.Session

open Ava.Core Ava.Core.Json

/-- `kSyntheticSubagentDeliverySource`. -/
def syntheticSubagentDeliverySource : Bytes := ascii "synthetic_subagent_delivery"

/-- `kMaxSyntheticDeliveryProvenanceIdBytes`. -/
def maxSyntheticDeliveryProvenanceIdBytes : Nat := 96

/-- `SyntheticDeliveryProvenance`. -/
structure SyntheticDeliveryProvenance where
  deliveryId : Bytes
  promptFingerprint : Bytes
  source : Bytes := syntheticSubagentDeliverySource
deriving Repr, DecidableEq

/-- The scan of the provenance object: its text up to the closing brace, and how many colons
    stand directly inside it. -/
def provenanceScan : LitState → Nat → Nat → Bytes → Option (Bytes × Nat)
  | _, _, _, [] => none
  | q, depth, memberCount, c :: s =>
    let go (depth memberCount : Nat) :=
      (provenanceScan (q.next c) depth memberCount s).map fun r => (c :: r.1, r.2)
    if q.inString || c = quote then go depth memberCount
    else if c = lbrace then go (depth + 1) memberCount
    else if c = rbrace then
      if depth - 1 = 0 then some ([c], memberCount) else go (depth - 1) memberCount
    else if c = colon ∧ depth = 1 then go depth (memberCount + 1)
    else go depth memberCount

/-- `valid_id` of `parse_synthetic_delivery_provenance`. -/
def validProvenanceId (value : Bytes) : Bool :=
  !value.isEmpty && value.length ≤ maxSyntheticDeliveryProvenanceIdBytes &&
    value.all fun c => (97 ≤ c && c ≤ 122) || (65 ≤ c && c ≤ 90) || isDigit c || c == 95 ||
      c == 45 || c == 46 || c == colon

/-- The fields of a provenance object. -/
def provenanceFields (provenance : Bytes) : Result SyntheticDeliveryProvenance :=
  match stringField provenance "source", stringField provenance "delivery_id",
      stringField provenance "prompt_fingerprint" with
  | some source, some deliveryId, some promptFingerprint =>
    if source ≠ syntheticSubagentDeliverySource || !validProvenanceId deliveryId ||
        !validProvenanceId promptFingerprint then
      .error (sessionError "synthetic delivery provenance is unsupported or exceeds its bounds")
    else .ok { deliveryId, promptFingerprint, source }
  | _, _, _ => .error (sessionError "synthetic delivery provenance fields must be strings")

/-- `parse_synthetic_delivery_provenance`. -/
def parseSyntheticDeliveryProvenance (sax : SaxParser) (entry : SessionEntry) :
    Result (Option SyntheticDeliveryProvenance) :=
  if entry.type ≠ .userMessage then .ok none
  else if validateStrictJson sax entry.dataJson maxNestingDepth ≠ .valid then
    .error (sessionError "user message provenance requires strict JSON")
  else
    match fieldValueStart entry.dataJson "provenance" with
    | none => .ok none
    | some start =>
      if start.head? ≠ some lbrace then
        .error (sessionError "synthetic delivery provenance must be an object")
      else
        match provenanceScan {} 0 0 start with
        | some (provenance, 3) => (provenanceFields provenance).map some
        | _ =>
          .error (sessionError "synthetic delivery provenance has missing or unknown fields")

/-- `is_internal_replay_user_message`. -/
def isInternalReplayUserMessage (entry : SessionEntry) : Bool :=
  entry.type == .userMessage &&
    match fieldValueStart entry.dataJson "internal_replay" with
    | some start => start.take 4 == ascii "true"
    | none => false

/-- A user message that starts a turn. -/
def isPrompt (entry : SessionEntry) : Bool :=
  entry.type == .userMessage && !isInternalReplayUserMessage entry

/-- Only a user message has a provenance. -/
theorem type_of_provenance {sax : SaxParser} {entry : SessionEntry}
    {provenance : SyntheticDeliveryProvenance}
    (h : parseSyntheticDeliveryProvenance sax entry = .ok (some provenance)) :
    entry.type = .userMessage := by
  unfold parseSyntheticDeliveryProvenance at h
  by_contra htype
  rw [if_pos htype] at h
  cases h

/-- What is parsed names its source. -/
theorem source_of_provenance {sax : SaxParser} {entry : SessionEntry}
    {provenance : SyntheticDeliveryProvenance}
    (h : parseSyntheticDeliveryProvenance sax entry = .ok (some provenance)) :
    provenance.source = syntheticSubagentDeliverySource := by
  have hfields : ∀ {text : Bytes}, provenanceFields text = .ok provenance →
      provenance.source = syntheticSubagentDeliverySource := by
    intro text htext
    unfold provenanceFields at htext
    split at htext
    next source deliveryId promptFingerprint _ _ _ =>
      split at htext
      next => cases htext
      next hvalid =>
        simp only [ne_eq, Bool.or_eq_true, decide_eq_true_eq, not_or, not_not] at hvalid
        cases htext
        exact hvalid.1.1
    next => cases htext
  unfold parseSyntheticDeliveryProvenance at h
  rw [if_neg (by rw [not_not]; exact type_of_provenance h)] at h
  iterate 3
    split at h
    next => cases h
  split at h
  next provenance' _ =>
    cases hparsed : provenanceFields provenance' with
    | error e => rw [hparsed] at h; cases h
    | ok p =>
      rw [hparsed] at h
      cases h
      exact hfields hparsed
  next => cases h

end Ava.Session
