/-
  Ava.Session.AssistantOutput
  **THE STRICT CODEC OF v4 ASSISTANT OUTPUT** (`session/assistant_output.{h,cpp}`, first half).

  A provider turn is stored as a run of `assistant_output_item` records closed by one
  `assistant_turn_commit`.  Both payloads are decoded by a strict codec: only the listed
  keys, each at most once and spelled without escapes, every value bounded, and no field of
  another variant.  The error texts are those of the source.
-/
import Mathlib.Data.Rat.Defs
import Ava.Core.Json
import Ava.Session.Entry

namespace Ava.Session

open Ava.Core Ava.Core.Json

/-! ## §1. The records. -/

/-- `kMaxAssistantOutputItemsPerTurn`. -/
def maxAssistantOutputItemsPerTurn : Nat := 4096
/-- `kCurrentAssistantOutputSchemaVersion`. -/
def currentAssistantOutputSchemaVersion : Nat := 1
def maxAssistantTurnIdBytes : Nat := 128
def maxAssistantOutputIdentifierBytes : Nat := 256
def maxAssistantOutputContentBytes : Nat := 256 * 1024
def maxAssistantOutputUsageBytes : Nat := 256 * 1024

/-- `AssistantOutputTextPhase`. -/
inductive TextPhase where
  | unknown | commentary | finalAnswer
deriving Repr, DecidableEq

/-- `to_string(AssistantOutputTextPhase)`. -/
def TextPhase.toBytes : TextPhase → Bytes
  | .unknown => ascii "unknown"
  | .commentary => ascii "commentary"
  | .finalAnswer => ascii "final_answer"

/-- `AssistantOutputReasoning`. -/
structure OutputReasoning where
  text : Bytes
  format : Bytes
  redacted : Bool
  signature : Option Bytes
  redactedData : Option Bytes
  nativeItemJson : Option Bytes
  privateReplayMetadataOmitted : Bool
deriving Repr, DecidableEq

/-- `AssistantOutputFunctionCall`. -/
structure OutputFunctionCall where
  callId : Bytes
  name : Bytes
  argumentsJson : Bytes
deriving Repr, DecidableEq

/-- `AssistantOutputItemPayload`.  The source keeps the alternative and a separate `kind`
    tag that always agrees with it after parsing; the constructor is that tag. -/
inductive OutputPayload where
  | text (text : Bytes) (phase : TextPhase)
  | reasoning (r : OutputReasoning)
  | functionCall (f : OutputFunctionCall)
deriving Repr, DecidableEq

/-- `AssistantOutputItem`. -/
structure AssistantOutputItem where
  assistantTurnId : Bytes
  sequence : Nat
  providerItemId : Option Bytes
  providerOutputIndex : Option Nat
  payload : OutputPayload
deriving Repr, DecidableEq

/-- `AssistantTurnCommit`. -/
structure AssistantTurnCommit where
  assistantTurnId : Bytes
  itemCount : Nat
  provider : Bytes
  model : Bytes
  apiFamily : Option Bytes
  reasoningFormat : Option Bytes
  finishReason : Bytes
  usageJson : Option Bytes
deriving Repr, DecidableEq

/-! ## §2. Key discipline. -/

/-- The scalar branch of `json_value_end`: up to the next comma or brace, without the
    trailing blanks; the suffix starts after the last octet of the value. -/
def scalarEnd (s : Bytes) : Option Bytes :=
  let raw := s.takeWhile fun c => !(c == comma || c == rbrace)
  let kept := trimRight raw
  if kept.isEmpty then none else some (s.drop kept.length)

/-- `json_value_end`, as the suffix after the value. -/
def jsonValueEnd (s : Bytes) : Option Bytes :=
  match skipSpaces s with
  | [] => none
  | c :: t =>
    if c = quote then stringLiteralEnd (c :: t)
    else if c = lbrace then (parseBalanced lbrace rbrace (c :: t)).map Prod.snd
    else if c = lbracket then (parseBalanced lbracket rbracket (c :: t)).map Prod.snd
    else scalarEnd (c :: t)

/-- The member loop of `object_has_only_keys`; a round consumes at least a key, so the
    length of the text bounds the rounds. -/
def onlyKeysLoop (allowed : List Bytes) : Nat → List Bytes → Bytes → Bool
  | 0, _, _ => false
  | fuel + 1, seen, s =>
    let s := skipSpaces s
    match stringLiteralEnd s with
    | none => false
    | some afterKey =>
      let rawKey := (s.drop 1).take (s.length - afterKey.length - 2)
      if rawKey.contains backslash || !allowed.contains rawKey || seen.contains rawKey then
        false
      else
        match (consume colon (skipSpaces afterKey)).bind jsonValueEnd with
        | none => false
        | some rest =>
          match skipSpaces rest with
          | [] => false
          | c :: t =>
            if c = comma then onlyKeysLoop allowed fuel (rawKey :: seen) t
            else c == rbrace

/-- `object_has_only_keys`. -/
def objectHasOnlyKeys (object : Bytes) (allowedKeys : List String) : Bool :=
  isValidObject object &&
    match consume lbrace (skipSpaces object) with
    | none => false
    | some s =>
      match consume rbrace (skipSpaces s) with
      | some _ => true
      | none => onlyKeysLoop (allowedKeys.map ascii) object.length [] (skipSpaces s)

/-! ## §3. Typed fields. -/

/-- `valid_identifier`. -/
def validIdentifier (value : Bytes) (maxBytes : Nat) : Bool :=
  !value.isEmpty && decide (value.length ≤ maxBytes) && !hasC0OrDel value

/-- Whether the value ends here: blanks, then a comma or the closing brace. -/
def atDelimiter (s : Bytes) : Bool :=
  match skipSpaces s with
  | [] => false
  | c :: _ => c == comma || c == rbrace

/-- `nonnegative_size_field`: canonical decimal digits that fit an unsigned 64-bit. -/
def nonnegativeSizeField (object : Bytes) (key : String) : Option Nat :=
  match fieldValueStart object key with
  | none => none
  | some start =>
    let digits := start.takeWhile isDigit
    if digits.isEmpty || (1 < digits.length && digits.head? == some 48) ||
        !atDelimiter (start.dropWhile isDigit) then none
    else if digitsValue digits < 2 ^ 64 then some (digitsValue digits)
    else none

/-- `boolean_field`. -/
def booleanField (object : Bytes) (key : String) : Option Bool :=
  match fieldValueStart object key with
  | none => none
  | some start =>
    let matches_ := fun literal : Bytes =>
      literal.isPrefixOf start && atDelimiter (start.drop literal.length)
    if matches_ (ascii "true") then some true
    else if matches_ (ascii "false") then some false
    else none

/-- A JSON number without its sign, as mantissa digits and a power of ten. -/
def decimalNumber (raw : Bytes) : Option (Nat × Int) :=
  match parseNumber raw with
  | some [] =>
    let intDigits := raw.takeWhile isDigit
    let afterInt := raw.dropWhile isDigit
    let fracDigits := ((consume 46 afterInt).getD []).takeWhile isDigit
    let expText := (afterInt.dropWhile fun c => !(c == 101 || c == 69)).drop 1
    let expDigits := expText.dropWhile fun c => c == 43 || c == 45
    let expValue : Int :=
      if expText.head? = some 45 then - (digitsValue expDigits : Int) else digitsValue expDigits
    some (digitsValue (intDigits ++ fracDigits), expValue - fracDigits.length)
  | _ => none

/-- `std::isfinite(std::strtold(raw))` for a decimal number `m * 10 ^ e`: the x87 extended
    format rounds to infinity from `2 ^ 16384 - 2 ^ 16319` on.  The two early cases keep
    the powers of ten small. -/
def strtoldIsFinite (m : Nat) (e : Int) : Bool :=
  let order : Int := (Nat.toDigits 10 m).length + e
  if m = 0 ∨ order ≤ 4931 then true
  else if 4934 ≤ order then false
  else decide ((m : ℚ) * 10 ^ e.toNat / 10 ^ (-e).toNat < 2 ^ 16384 - 2 ^ 16319)

/-- `nonnegative_number_field`.  It only runs on members of an object the validator has
    accepted, where the text `strtold` consumes whole is a JSON number. -/
def nonnegativeNumberField (object : Bytes) (key : String) : Bool :=
  match fieldValueStart object key with
  | none => false
  | some start =>
    let raw := trimRight (start.takeWhile fun c => !(c == comma || c == rbrace))
    if start.head? = some minus then false
    else
      match decimalNumber raw with
      | some (m, e) => strtoldIsFinite m e
      | none => false

/-- `valid_optional_string`. -/
def validOptionalString (object : Bytes) (key : String) (maxBytes : Nat)
    (allowEmpty rejectControls : Bool) : Bool :=
  !hasField object key ||
    match stringField object key with
    | none => false
    | some v =>
      decide (v.length ≤ maxBytes) && (allowEmpty || !v.isEmpty) &&
        (!rejectControls || !hasC0OrDel v)

/-- `nonnegative_signed_integer_field`. -/
def nonnegativeSignedIntegerField (object : Bytes) (key : String) : Bool :=
  match nonnegativeSizeField object key with
  | none => false
  | some v => decide (v < 2 ^ 63)

/-! ## §4. Usage objects. -/

/-- A usage member that, when present, is one of the listed strings. -/
def optionalStringOneOf (usage : Bytes) (key : String) (values : List String) : Bool :=
  !hasField usage key ||
    match stringField usage key with
    | none => false
    | some v => (values.map ascii).contains v

/-- `valid_usage_json`. -/
def validUsageJson (usage : Bytes) : Bool :=
  decide (usage.length ≤ maxAssistantOutputUsageBytes) &&
  objectHasOnlyKeys usage
    ["input_tokens", "output_tokens", "reasoning_tokens", "cache_read_tokens",
      "cache_write_tokens", "total_tokens", "estimated_input_bytes", "estimated_output_bytes",
      "estimated_total_bytes", "estimated", "source", "estimation_method", "cost_usd",
      "total_cost_usd", "cost_estimated"] &&
  (["input_tokens", "output_tokens", "reasoning_tokens", "cache_read_tokens",
      "cache_write_tokens", "total_tokens", "estimated_input_bytes", "estimated_output_bytes",
      "estimated_total_bytes"].all fun key =>
    !hasField usage key || nonnegativeSignedIntegerField usage key) &&
  (["estimated", "cost_estimated"].all fun key =>
    !hasField usage key || (booleanField usage key).isSome) &&
  optionalStringOneOf usage "source" ["provider", "estimated"] &&
  optionalStringOneOf usage "estimation_method" ["byte_count"] &&
  (["cost_usd", "total_cost_usd"].all fun key =>
    !hasField usage key || nonnegativeNumberField usage key)

/-- `valid_finish_reason`. -/
def validFinishReason (reason : Bytes) : Bool :=
  (["completed", "max_tokens", "tool_calls", "refusal", "cancelled", "error"].map ascii).contains
    reason

/-- `is_valid_openai_opaque_id`. -/
def isValidOpenaiOpaqueId (id : Bytes) : Bool :=
  !id.isEmpty && decide (id.length ≤ 256) && !hasC0OrDel id

/-- `is_valid_openai_native_reasoning_item_json`. -/
def isValidOpenaiNativeReasoningItemJson (native : Bytes) : Bool :=
  !native.isEmpty && decide (native.length ≤ 64 * 1024) && isValidObject native &&
  (stringFieldOrEmpty native "type" == ascii "reasoning") &&
  match stringField native "id", strictObjectsInArrayField native "summary" with
  | some id, some items =>
    isValidOpenaiOpaqueId id && items.all fun item =>
      stringFieldOrEmpty item "type" == ascii "summary_text" && (stringField item "text").isSome
  | _, _ => false

/-! ## §5. Items. -/

/-- `codec_error`. -/
def codecError (message : String) : Error := sessionError message

/-- An optional identifier member: absent, or a bounded non-empty identifier. -/
def optionalIdentifier (data : Bytes) (key message : String) : Result (Option Bytes) :=
  if !hasField data key then .ok none
  else
    match stringField data key with
    | some v =>
      if validIdentifier v maxAssistantOutputIdentifierBytes then .ok (some v)
      else .error (codecError message)
    | none => .error (codecError message)

/-- The `provider_output_index` member. -/
def optionalOutputIndex (data : Bytes) : Result (Option Nat) :=
  let message := "assistant_output_item provider_output_index must be a nonnegative integer below 4096"
  if !hasField data "provider_output_index" then .ok none
  else
    match nonnegativeSizeField data "provider_output_index" with
    | some v =>
      if v < maxAssistantOutputItemsPerTurn then .ok (some v) else .error (codecError message)
    | none => .error (codecError message)

/-- `reject_fields`: none of the listed members may be present. -/
def rejectFields (data : Bytes) (fields : List String) (message : String) : Result Unit :=
  if fields.any (hasField data) then .error (codecError message) else .ok ()

/-- The `text` variant. -/
def parseTextPayload (data : Bytes) : Result OutputPayload := do
  rejectFields data
    ["format", "redacted", "signature", "redacted_data", "native_item_json",
      "private_replay_metadata_omitted", "call_id", "name", "arguments"]
    "assistant_output_item text variant contains incompatible fields"
  match stringField data "text", stringField data "assistant_phase" with
  | some text, some phase =>
    if maxAssistantOutputContentBytes < text.length then
      .error (codecError "assistant_output_item text variant requires bounded text and assistant_phase")
    else if phase = ascii "commentary" then .ok (.text text .commentary)
    else if phase = ascii "final_answer" then .ok (.text text .finalAnswer)
    else if phase = ascii "unknown" then .ok (.text text .unknown)
    else .error (codecError "assistant_output_item text assistant_phase is unknown")
  | _, _ =>
    .error (codecError "assistant_output_item text variant requires bounded text and assistant_phase")

/-- The marker of a portable archive: absent, or literally `true`. -/
def privateReplayMetadataOmitted (data : Bytes) : Option Bool :=
  if hasField data "private_replay_metadata_omitted" then
    match booleanField data "private_replay_metadata_omitted" with
    | some true => some true
    | _ => none
  else some false

/-- Whether a retained native reasoning item fits its declared format. -/
def validNativeItem (format : Bytes) : Option Bytes → Bool
  | none => true
  | some native =>
    if format = ascii "openai_responses" then isValidOpenaiNativeReasoningItemJson native
    else isValidObject native && stringFieldOrEmpty native "type" == ascii "reasoning"

/-- The `reasoning` variant. -/
def parseReasoningPayload (data : Bytes) : Result OutputPayload := do
  rejectFields data ["assistant_phase", "call_id", "name", "arguments"]
    "assistant_output_item reasoning variant contains incompatible fields"
  match privateReplayMetadataOmitted data with
  | none =>
    .error (codecError
      "assistant_output_item reasoning private_replay_metadata_omitted must be true when present")
  | some omitted =>
    match stringField data "text", stringField data "format", booleanField data "redacted" with
    | some text, some format, some redacted =>
      if maxAssistantOutputContentBytes < text.length ∨
          validIdentifier format maxAssistantOutputIdentifierBytes = false then
        .error (codecError "assistant_output_item reasoning variant requires text, format, and redacted")
      else if !(["signature", "redacted_data", "native_item_json"].all fun key =>
          validOptionalString data key maxAssistantOutputContentBytes true false) then
        .error (codecError "assistant_output_item reasoning private fields are invalid or exceed their bound")
      else
        let signature := stringField data "signature"
        let redactedData := stringField data "redacted_data"
        let nativeItemJson := stringField data "native_item_json"
        if omitted && (signature.isSome || redactedData.isSome || nativeItemJson.isSome) then
          .error (codecError
            "portable assistant_output_item reasoning marker forbids retained private replay fields")
        else if text.isEmpty && (signature.getD []).isEmpty && (redactedData.getD []).isEmpty &&
            (nativeItemJson.getD []).isEmpty then
          .error (codecError
            "assistant_output_item reasoning requires non-empty text, signature, redacted_data, or native_item_json")
        else if !validNativeItem format nativeItemJson then
          .error (codecError
            "assistant_output_item reasoning native_item_json is not a valid provider reasoning object")
        else
          .ok (.reasoning
            { text, format, redacted, signature, redactedData, nativeItemJson,
              privateReplayMetadataOmitted := omitted })
    | _, _, _ =>
      .error (codecError "assistant_output_item reasoning variant requires text, format, and redacted")

/-- The `function_call` variant. -/
def parseFunctionCallPayload (data : Bytes) : Result OutputPayload := do
  rejectFields data
    ["text", "assistant_phase", "format", "redacted", "signature", "redacted_data",
      "native_item_json", "private_replay_metadata_omitted"]
    "assistant_output_item function_call variant contains incompatible fields"
  match stringField data "call_id", stringField data "name", stringField data "arguments" with
  | some callId, some name, some arguments =>
    if validIdentifier callId maxAssistantOutputIdentifierBytes &&
        validIdentifier name maxAssistantOutputIdentifierBytes &&
        decide (arguments.length ≤ maxAssistantOutputContentBytes) && isValidObject arguments then
      .ok (.functionCall { callId, name, argumentsJson := arguments })
    else
      .error (codecError
        "assistant_output_item function_call requires bounded call_id, name, and JSON-object arguments")
  | _, _, _ =>
    .error (codecError
      "assistant_output_item function_call requires bounded call_id, name, and JSON-object arguments")

/-- The members every item must have: schema version, turn id, sequence and kind. -/
def parseItemHeader (data : Bytes) : Option (Bytes × Nat × Bytes) :=
  match nonnegativeSizeField data "schema_version", stringField data "assistant_turn_id",
      nonnegativeSizeField data "sequence", stringField data "kind" with
  | some schema, some turnId, some sequence, some kind =>
    if schema = currentAssistantOutputSchemaVersion ∧
        validIdentifier turnId maxAssistantTurnIdBytes = true ∧
        sequence < maxAssistantOutputItemsPerTurn then
      some (turnId, sequence, kind)
    else none
  | _, _, _, _ => none

/-- The variant named by `kind`. -/
def parsePayload (data kind : Bytes) : Result OutputPayload :=
  if kind = ascii "text" then parseTextPayload data
  else if kind = ascii "reasoning" then parseReasoningPayload data
  else if kind = ascii "function_call" then parseFunctionCallPayload data
  else .error (codecError "assistant_output_item kind is unknown")

/-- `parse_assistant_output_item_data`. -/
def parseAssistantOutputItemData (data : Bytes) : Result AssistantOutputItem :=
  if !objectHasOnlyKeys data
      ["schema_version", "assistant_turn_id", "sequence", "kind", "provider_item_id",
        "provider_output_index", "text", "assistant_phase", "format", "redacted", "signature",
        "redacted_data", "native_item_json", "private_replay_metadata_omitted", "call_id", "name",
        "arguments"] then
    .error (codecError
      "assistant_output_item data must be a strict JSON object with no duplicate or unknown keys")
  else
    match parseItemHeader data with
    | none =>
      .error (codecError
        "assistant_output_item data is missing required bounded schema_version, assistant_turn_id, sequence, or kind")
    | some (assistantTurnId, sequence, kind) => do
        let providerItemId ← optionalIdentifier data "provider_item_id"
          "assistant_output_item provider_item_id must be a bounded non-empty identifier"
        let providerOutputIndex ← optionalOutputIndex data
        let payload ← parsePayload data kind
        .ok { assistantTurnId, sequence, providerItemId, providerOutputIndex, payload }

/-! ## §6. Commits. -/

/-- The members every commit must have. -/
def parseCommitHeader (data : Bytes) : Option (Bytes × Nat × Bytes × Bytes × Bytes) :=
  match nonnegativeSizeField data "schema_version", stringField data "assistant_turn_id",
      nonnegativeSizeField data "item_count", stringField data "provider",
      stringField data "model", stringField data "finish_reason" with
  | some schema, some turnId, some itemCount, some provider, some model, some finishReason =>
    if schema = currentAssistantOutputSchemaVersion ∧
        validIdentifier turnId maxAssistantTurnIdBytes = true ∧
        itemCount ≤ maxAssistantOutputItemsPerTurn ∧
        validIdentifier provider maxAssistantOutputIdentifierBytes = true ∧
        validIdentifier model maxAssistantOutputIdentifierBytes = true ∧
        validFinishReason finishReason = true then
      some (turnId, itemCount, provider, model, finishReason)
    else none
  | _, _, _, _, _, _ => none

/-- The `usage` member. -/
def optionalUsage (data : Bytes) : Result (Option Bytes) :=
  let message := "assistant_turn_commit usage must use the bounded established usage/cost object shape"
  if !hasField data "usage" then .ok none
  else
    match objectField data "usage" with
    | some usage => if validUsageJson usage then .ok (some usage) else .error (codecError message)
    | none => .error (codecError message)

/-- `parse_assistant_turn_commit_data`. -/
def parseAssistantTurnCommitData (data : Bytes) : Result AssistantTurnCommit :=
  if !objectHasOnlyKeys data
      ["schema_version", "assistant_turn_id", "item_count", "provider", "model", "api_family",
        "reasoning_format", "finish_reason", "usage"] then
    .error (codecError
      "assistant_turn_commit data must be a strict JSON object with no duplicate or unknown keys")
  else
    match parseCommitHeader data with
    | none =>
      .error (codecError
        "assistant_turn_commit data is missing required bounded turn, count, provider, model, or finish metadata")
    | some (assistantTurnId, itemCount, provider, model, finishReason) => do
        let apiFamily ← optionalIdentifier data "api_family"
          "assistant_turn_commit api_family must be a bounded string when present"
        let reasoningFormat ← optionalIdentifier data "reasoning_format"
          "assistant_turn_commit reasoning_format must be a bounded string when present"
        let usageJson ← optionalUsage data
        .ok { assistantTurnId, itemCount, provider, model, apiFamily, reasoningFormat,
              finishReason, usageJson }

/-! ## §7. Entries. -/

/-- `validate_v4_entry`. -/
def validateV4Entry (entry : SessionEntry) (expected : EntryType) : Result Unit :=
  if entry.type ≠ expected then
    .error (codecError "session entry has the wrong v4 assistant-output type")
  else if entry.version < 4 ∨ currentSessionEntryVersion < entry.version then
    .error (codecError "v4 assistant-output entry requires a supported session version 4 or newer")
  else .ok ()

/-- `parse_assistant_output_item`. -/
def parseAssistantOutputItem (entry : SessionEntry) : Result AssistantOutputItem := do
  validateV4Entry entry .assistantOutputItem
  parseAssistantOutputItemData entry.dataJson

/-- `parse_assistant_turn_commit`. -/
def parseAssistantTurnCommit (entry : SessionEntry) : Result AssistantTurnCommit := do
  validateV4Entry entry .assistantTurnCommit
  parseAssistantTurnCommitData entry.dataJson

theorem parseItemHeader_sequence_lt {data turnId kind : Bytes} {sequence : Nat}
    (h : parseItemHeader data = some (turnId, sequence, kind)) :
    sequence < maxAssistantOutputItemsPerTurn := by
  unfold parseItemHeader at h
  split at h
  next =>
    split at h
    next hc =>
      injection h with h
      rw [Prod.mk.injEq, Prod.mk.injEq] at h
      obtain ⟨-, rfl, -⟩ := h
      exact hc.2.2
    next => cases h
  next => cases h

/-- **A parsed item lies below the item limit**, so a turn can never be staged past it. -/
theorem parseAssistantOutputItem_sequence_lt {entry : SessionEntry} {item : AssistantOutputItem}
    (h : parseAssistantOutputItem entry = .ok item) :
    item.sequence < maxAssistantOutputItemsPerTurn := by
  unfold parseAssistantOutputItem parseAssistantOutputItemData at h
  cases hv : validateV4Entry entry .assistantOutputItem with
  | error e => rw [hv] at h; cases h
  | ok u =>
    rw [hv] at h
    change (if _ then _ else _) = _ at h
    split at h
    next => cases h
    cases hh : parseItemHeader entry.dataJson with
    | none => rw [hh] at h; cases h
    | some r =>
      obtain ⟨turnId, sequence, kind⟩ := r
      rw [hh] at h
      have hlt := parseItemHeader_sequence_lt hh
      simp only [bind, Except.bind] at h
      repeat' split at h
      all_goals cases h
      exact hlt

end Ava.Session
