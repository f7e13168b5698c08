/-
  Ava.Session.Record
  **ONE SESSION RECORD AS ONE LINE OF TEXT** (`session/record.cpp`, and the strict record
  reader of `session/session_store.cpp`).

  The writer escapes the four string members but splices `data_json` RAW into the envelope;
  the reader finds members by scanning at object depth one and cuts `data` out by matching
  braces.

    - §1 `serializeSessionEntryLine`; §2 `parseSessionEntryLine`, `parseStrictSessionRecord`;
    - §3 literals: `parseStringAt` inverts `jsonEscape`;
    - §4 the member finder on a written envelope: `fieldScan_members`;
    - §5 `parseSessionEntryLine_line_iff` : what reading a written line gives.
-/
import Ava.Core.JsonGrammar
import Ava.Core.StrictJson
import Ava.Session.Entry

namespace Ava.Session

open Ava.Core Ava.Core.Json

/-! ## §1. Writing. -/

/-- `json_escape` of `record.cpp`: octet by octet, without the UTF-8 repair of `escape`. -/
def jsonEscape (value : Bytes) : Bytes := value.flatMap escapeByte

/-- `requires_session_v4`. -/
def requiresSessionV4 (t : EntryType) : Bool := t = .assistantOutputItem || t = .assistantTurnCommit

/-- `validate_entry_type_version`. -/
def validateEntryTypeVersion (t : EntryType) (version : Int) : Result Unit :=
  if version < 0 ∨ currentSessionEntryVersion < version then
    .error ((((sessionError "unsupported session entry version")
      |>.withContext "entry_type" t.toBytes)
      |>.withContext "version" (decimalInt version))
      |>.withContext "supported_version" (decimalInt currentSessionEntryVersion))
  else if !requiresSessionV4 t || 4 ≤ version then .ok ()
  else
    .error (((sessionError "session entry type requires version 4")
      |>.withContext "entry_type" t.toBytes)
      |>.withContext "version" (decimalInt version))

/-- The text `serialize_session_entry_line` builds, before its size check.  Version 0 is
    written as an absent member. -/
def sessionEntryLineText (entry : SessionEntry) : Bytes :=
  ascii "\x7b" ++
  (if entry.version ≠ 0 then ascii "\"version\":" ++ decimalInt entry.version ++ ascii "," else []) ++
  (ascii "\"id\":\"" ++ jsonEscape entry.id ++ ascii "\",") ++
  (ascii "\"parent_id\":\"" ++ jsonEscape entry.parentId ++ ascii "\",") ++
  (ascii "\"type\":\"" ++ entry.type.toBytes ++ ascii "\",") ++
  (ascii "\"timestamp\":\"" ++ jsonEscape entry.timestamp ++ ascii "\",") ++
  (ascii "\"data\":" ++ entry.dataJson ++ ascii "\x7d")

/-- `serialize_session_entry_line`. -/
def serializeSessionEntryLine (entry : SessionEntry) : Result Bytes :=
  match validateEntryTypeVersion entry.type entry.version with
  | .error e => .error e
  | .ok () =>
    let line := sessionEntryLineText entry
    if maxSessionLineBytes ≤ line.length then
      .error (((sessionError "session entry line is too large")
        |>.withContext "max_bytes" (decimal maxSessionLineBytes))
        |>.withContext "entry_type" entry.type.toBytes)
    else .ok line

/-! ## §2. Reading. -/

/-- The control-character and separator rule shared by session ids and parent ids. -/
def hasSeparatorOrControl (value : Bytes) : Bool :=
  value.any fun c => c == 47 || c == backslash || isC0OrDel c

/-- `validate_parent_id`. -/
def validateParentId (parentId entryId : Bytes) : Result Unit :=
  let invalid := ({ category := .invalidArgument, message := ascii "invalid session parent_id" } :
    Error).withContext "entry_id" entryId
  if parentId.isEmpty then .ok ()
  else if parentId = ascii "." ∨ parentId = ascii ".." then
    .error (invalid.withContext "reason" (ascii "reserved path segment"))
  else if hasSeparatorOrControl parentId then
    .error (invalid.withContext "reason" (ascii "contains a path separator or control character"))
  else .ok ()

/-- `is_json_value_delimiter`. -/
def isJsonValueDelimiter (c : UInt8) : Bool := c == comma || c == rbrace || isAsciiSpace c

/-- `extract_entry_version`: absent, or an integer that fits `long long`. -/
def extractEntryVersion (line : Bytes) : Result (Option Int) :=
  let invalid := fun reason : String =>
    (sessionError "invalid session entry version").withContext "reason" (ascii reason)
  match fieldValueStart line "version" with
  | none => .ok none
  | some [] => .error (invalid "missing version value")
  | some (c :: s) =>
    let negative := c == minus
    let body := if negative then s else c :: s
    let digits := body.takeWhile isDigit
    let delimited := match body.dropWhile isDigit with
      | [] => true
      | d :: _ => isJsonValueDelimiter d
    let value : Int := if negative then - (digitsValue digits : Int) else digitsValue digits
    if digits.isEmpty || (1 < digits.length && digits.head? == some 48) || !delimited then
      .error (invalid "version must be an integer")
    else if -(2 : Int) ^ 63 ≤ value ∧ value < (2 : Int) ^ 63 then .ok (some value)
    else .error (invalid "version is outside supported integer range")

/-- `read_supported_entry_version`. -/
def readSupportedEntryVersion (line path : Bytes) : Result Int :=
  match extractEntryVersion line with
  | .error e => .error (e.withContext "path" path)
  | .ok none => .ok 0
  | .ok (some v) =>
    if 1 ≤ v ∧ v ≤ currentSessionEntryVersion then .ok v
    else
      .error ((((sessionError "unsupported session entry version")
        |>.withContext "path" path)
        |>.withContext "version" (decimalInt v))
        |>.withContext "supported_version" (decimalInt currentSessionEntryVersion))

/-- `extract_json_string`: the decoder is that of `parse_string_at`, and every failure is
    the empty string. -/
def extractJsonString (line : Bytes) (key : String) : Bytes :=
  ((fieldValueStart line key).bind parseStringAt).getD []

/-- `extract_json_object`: brace matching from the start of the value, `{}` on failure. -/
def extractJsonObject (line : Bytes) (key : String) : Bytes :=
  match (fieldValueStart line key).bind (parseBalanced lbrace rbrace) with
  | some (object, _) => object
  | none => [lbrace, rbrace]

/-- Whether the member's value starts with an opening brace. -/
def startsObject (line : Bytes) (key : String) : Bool :=
  match fieldValueStart line key with
  | some (c :: _) => c == lbrace
  | _ => false

/-- `parse_session_entry_line`. -/
def parseSessionEntryLine (line path : Bytes) : Result SessionEntry :=
  if !isValidUtf8 line then
    .error ((sessionError "session entry is not valid UTF-8").withContext "path" path)
  else
    match readSupportedEntryVersion line path with
    | .error e => .error e
    | .ok version =>
      let id := extractJsonString line "id"
      let typeText := extractJsonString line "type"
      let timestamp := extractJsonString line "timestamp"
      if id.isEmpty || typeText.isEmpty || timestamp.isEmpty then
        .error ((sessionError "malformed session entry").withContext "path" path)
      else if !startsObject line "data" then
        .error ((sessionError "session entry data must be a JSON object").withContext "path" path)
      else
        match parseEntryType typeText with
        | .error e => .error e
        | .ok type =>
          match validateEntryTypeVersion type version with
          | .error e => .error (e.withContext "path" path)
          | .ok () =>
            let parentId := extractJsonString line "parent_id"
            match validateParentId parentId id with
            | .error e => .error (e.withContext "path" path)
            | .ok () =>
              .ok { id, parentId, type, timestamp, dataJson := extractJsonObject line "data", version }

/-- The two framings a record can have in a file. -/
def recordFraming (finalUnterminated : Bool) : Bytes :=
  if finalUnterminated then ascii "final_unterminated" else ascii "newline_terminated"

/-- `strict_session_record_error`. -/
def strictSessionRecordError (status : StrictJsonStatus) (path : Bytes) (finalUnterminated : Bool) :
    Error :=
  let message := match status with
    | .invalid =>
      if finalUnterminated then "unterminated session suffix is invalid JSON"
      else "newline-terminated session record is invalid JSON"
    | .nestingTooDeep => "session record JSON nesting exceeds limit"
    | .duplicateObjectKey => "session record JSON contains duplicate object member names"
    | .valid => "session record JSON validation failed"
  (((sessionError message).withContext "path" path)
    |>.withContext "record_framing" (recordFraming finalUnterminated))
    |>.withContext "max_nesting_depth" (decimal maxNestingDepth)

/-- `parse_strict_session_record`. -/
def parseStrictSessionRecord (sax : SaxParser) (line path : Bytes) (finalUnterminated : Bool) :
    Result SessionEntry :=
  match validateStrictJson sax line maxNestingDepth with
  | .valid =>
    match parseSessionEntryLine (if line.getLast? = some cr then line.dropLast else line) path with
    | .ok entry => .ok entry
    | .error e => .error (e.withContext "record_framing" (recordFraming finalUnterminated))
  | status => .error (strictSessionRecordError status path finalUnterminated)

variable {path : Bytes}

/-- A strict record is a valid document whose line, less one trailing carriage return, parses. -/
theorem parseStrictSessionRecord_eq_ok_iff {sax : SaxParser} {line : Bytes} {fin : Bool}
    {e : SessionEntry} :
    parseStrictSessionRecord sax line path fin = .ok e ↔
      validateStrictJson sax line maxNestingDepth = .valid ∧
      parseSessionEntryLine (if line.getLast? = some cr then line.dropLast else line) path
        = .ok e := by
  unfold parseStrictSessionRecord
  cases validateStrictJson sax line maxNestingDepth with
  | valid =>
    dsimp only
    cases parseSessionEntryLine (if line.getLast? = some cr then line.dropLast else line) path with
    | ok e' | error e' => simp
  | invalid | nestingTooDeep | duplicateObjectKey => simp

/-! ## §3. Literals. -/

/-- The body of a string literal: no bare quote, and no backslash without its partner. -/
inductive LiteralBody : Bytes → Prop
  | nil : LiteralBody []
  | plain {c : UInt8} {s : Bytes} (hq : c ≠ quote) (hb : c ≠ backslash) (h : LiteralBody s) :
      LiteralBody (c :: s)
  | escaped {c : UInt8} {s : Bytes} (h : LiteralBody s) : LiteralBody (backslash :: c :: s)

variable {s : Bytes}

theorem LiteralBody.append {t : Bytes} (hs : LiteralBody s) (ht : LiteralBody t) :
    LiteralBody (s ++ t) := by
  induction hs with
  | nil => exact ht
  | plain hq hb _ ih => exact .plain hq hb ih
  | escaped _ ih => exact .escaped ih

/-- A key or an identifier of the source: no quote and no backslash at all. -/
def PlainKey (s : Bytes) : Prop := ∀ c ∈ s, c ≠ quote ∧ c ≠ backslash

instance (s : Bytes) : Decidable (PlainKey s) := inferInstanceAs (Decidable (∀ c ∈ s, _))

theorem PlainKey.literalBody : ∀ {s : Bytes}, PlainKey s → LiteralBody s
  | [], _ => .nil
  | c :: _, h =>
    .plain (h c List.mem_cons_self).1 (h c List.mem_cons_self).2
      (PlainKey.literalBody fun d hd => h d (List.mem_cons_of_mem _ hd))

theorem hexDigit_plain : ∀ n < 16, hexDigit n ≠ quote ∧ hexDigit n ≠ backslash := by
  decide

theorem literalBody_escapeByte (c : UInt8) : LiteralBody (escapeByte c) := by
  unfold escapeByte
  split_ifs with hq hb
  iterate 7 exact .escaped .nil
  · -- a control octet: the escape pair, then four hexadecimal digits
    have hlt : c.toNat < 32 := by
      rename_i h
      exact h
    have hhi := hexDigit_plain (c.toNat / 16) (by omega)
    have hlo := hexDigit_plain (c.toNat % 16) (by omega)
    exact .escaped (.plain (by decide) (by decide) (.plain (by decide) (by decide)
      (.plain hhi.1 hhi.2 (.plain hlo.1 hlo.2 .nil))))
  · exact .plain hq hb .nil

theorem literalBody_jsonEscape : ∀ v : Bytes, LiteralBody (jsonEscape v)
  | [] => .nil
  | c :: cs => (literalBody_escapeByte c).append (literalBody_jsonEscape cs)

theorem hexValue_hexDigit : ∀ n < 16, hexValue (hexDigit n) = some n := by
  decide

/-- Decoding one escaped octet. -/
theorem parseStringBody_escapeByte (c : UInt8) (rest : Bytes) :
    parseStringBody 0 false (escapeByte c ++ rest) =
      (parseStringBody 0 false rest).map (c :: ·) := by
  unfold escapeByte
  split_ifs with h1 h2 h3 h4 h5 h6 h7 h8
  iterate 7
    · subst_vars
      rfl
  · have hlt : c.toNat < 32 := h8
    have hhi := hexValue_hexDigit (c.toNat / 16) (by omega)
    have hlo := hexValue_hexDigit (c.toNat % 16) (by omega)
    have hunit : parseHexCodeUnit (48 :: 48 :: hexDigit (c.toNat / 16) ::
        hexDigit (c.toNat % 16) :: rest) = some c.toNat := by
      simp only [parseHexCodeUnit, show hexValue 48 = some 0 from rfl, hhi, hlo]
      congr 1
      omega
    have hdecode : decodeUnicodeEscape (48 :: 48 :: hexDigit (c.toNat / 16) ::
        hexDigit (c.toNat % 16) :: rest) = some ([c], 4) := by
      have hhigh : isHighSurrogate c.toNat = false := by
        simp [isHighSurrogate]
        omega
      have hlow : isLowSurrogate c.toNat = false := by
        simp [isLowSurrogate]
        omega
      simp only [decodeUnicodeEscape, hunit, hhigh, hlow, appendUtf8]
      rw [if_neg (by simp), if_neg (by simp), if_pos (by omega), UInt8.ofNat_toNat]
    show parseStringBody 0 true (117 :: 48 :: 48 :: hexDigit (c.toNat / 16) ::
      hexDigit (c.toNat % 16) :: rest) = _
    rw [parseStringBody, if_pos rfl, hdecode]
    rfl
  · show parseStringBody 0 false (c :: rest) = _
    rw [parseStringBody, if_neg h2, if_neg h1]

/-- **Reading a written literal gives the text back.** -/
theorem parseStringBody_jsonEscape (rest : Bytes) : ∀ v : Bytes,
    parseStringBody 0 false (jsonEscape v ++ quote :: rest) = some v
  | [] => rfl
  | c :: cs => by
    rw [show jsonEscape (c :: cs) = escapeByte c ++ jsonEscape cs from rfl, List.append_assoc,
      parseStringBody_escapeByte, parseStringBody_jsonEscape rest cs]
    rfl

theorem jsonEscape_type (t : EntryType) : jsonEscape t.toBytes = t.toBytes := by
  cases t <;> decide

/-! ## §4. The member finder on a written envelope. -/

theorem fieldScan_literal {needle : Bytes} {od ad : Nat} (rest : Bytes) (hs : LiteralBody s) :
    fieldScan needle ⟨true, false⟩ od ad (s ++ quote :: rest) = fieldScan needle {} od ad rest := by
  induction hs with
  | nil => rfl
  | @plain c s hq hb _ ih =>
    rw [List.cons_append, fieldScan_inString rfl]
    rw [show LitState.next ⟨true, false⟩ c = ⟨true, false⟩ by simp [LitState.next, hq, hb]]
    exact ih
  | @escaped c s _ ih => exact ih

/-- A needle matches at a literal exactly when the literal spells it. -/
theorem isPrefixOf_literal_iff (rest : Bytes) : ∀ {k body : Bytes}, PlainKey k →
    LiteralBody body → ((k ++ [quote]).isPrefixOf (body ++ quote :: rest) = true ↔ body = k)
  | [], [], _, _ => by simp
  | [], b :: bs, _, hb => by
    have hne : b ≠ quote := by
      cases hb with
      | plain hq _ _ => exact hq
      | escaped _ => decide
    simp [Ne.symm hne]
  | c :: k, [], hk, _ => by
    have hne := (hk c List.mem_cons_self).1
    simp [hne]
  | c :: k, b :: bs, hk, hb => by
    have hk' : PlainKey k := fun d hd => hk d (List.mem_cons_of_mem _ hd)
    obtain ⟨hcq, hcb⟩ := hk c List.mem_cons_self
    cases hb with
    | plain hq hbs h =>
      have ih := isPrefixOf_literal_iff rest hk' h
      simp only [List.cons_append, List.isPrefixOf, Bool.and_eq_true, beq_iff_eq, ih,
        List.cons.injEq]
      exact and_congr_left' eq_comm
    | escaped h => simp [hcb, Ne.symm hcb]

/-- The needle `field_value_start` looks for. -/
def needleOf (k : Bytes) : Bytes := quote :: (k ++ [quote])

theorem drop_needleOf (k rest : Bytes) :
    (quote :: (k ++ quote :: rest)).drop (needleOf k).length = rest := by
  rw [show quote :: (k ++ quote :: rest) = needleOf k ++ rest by simp [needleOf]]
  exact List.drop_left

section

variable {k body : Bytes} (hk : PlainKey k) (rest : Bytes)
include hk

theorem needleOf_isPrefixOf_iff (hb : LiteralBody body) :
    (needleOf k).isPrefixOf (quote :: (body ++ quote :: rest)) = true ↔ body = k := by
  rw [needleOf, List.isPrefixOf, beq_self_eq_true, Bool.true_and]
  exact isPrefixOf_literal_iff rest hk hb

/-- The finder stops at its key and returns the value behind the colon. -/
theorem fieldScan_key :
    fieldScan (needleOf k) {} 1 0 (quote :: (k ++ quote :: colon :: rest)) =
      some (skipSpaces rest) := by
  have hmatch := (needleOf_isPrefixOf_iff hk (colon :: rest) hk.literalBody).mpr rfl
  rw [fieldScan, if_neg (by simp), if_pos rfl, if_pos ⟨rfl, rfl, hmatch⟩, drop_needleOf]
  rfl

/-- The finder passes over a literal that is not its key. -/
theorem fieldScan_other_literal (hb : LiteralBody body) (hne : body ≠ k) :
    fieldScan (needleOf k) {} 1 0 (quote :: (body ++ quote :: rest)) =
      fieldScan (needleOf k) {} 1 0 rest := by
  have hno : ¬ (needleOf k).isPrefixOf (quote :: (body ++ quote :: rest)) = true := fun h =>
    hne ((needleOf_isPrefixOf_iff hk rest hb).mp h)
  rw [fieldScan, if_neg (by simp), if_pos rfl, if_neg (fun h => hno h.2.2)]
  exact fieldScan_literal rest hb

/-- The finder passes over a string VALUE even when it spells the key: a comma follows it. -/
theorem fieldScan_value (hb : LiteralBody body) :
    fieldScan (needleOf k) {} 1 0 (quote :: (body ++ quote :: comma :: rest)) =
      fieldScan (needleOf k) {} 1 0 rest := by
  by_cases heq : body = k
  · subst heq
    have hmatch := (needleOf_isPrefixOf_iff hk (comma :: rest) hb).mpr rfl
    rw [fieldScan, if_neg (by simp), if_pos rfl, if_pos ⟨rfl, rfl, hmatch⟩, drop_needleOf]
    exact fieldScan_literal (comma :: rest) hb
  · exact fieldScan_other_literal hk (comma :: rest) hb heq

end

/-- Octets that no scanner of the envelope reacts to outside a literal. -/
def Inert (s : Bytes) : Prop :=
  ∀ c ∈ s, c ≠ quote ∧ c ≠ lbrace ∧ c ≠ rbrace ∧ c ≠ lbracket ∧ c ≠ rbracket

instance (s : Bytes) : Decidable (Inert s) := inferInstanceAs (Decidable (∀ c ∈ s, _))

theorem inert_of_all {s : Bytes} (h : (s.all fun c => c != quote && c != lbrace && c != rbrace &&
    c != lbracket && c != rbracket) = true) : Inert s := by
  simpa [Inert, and_assoc] using h

theorem fieldScan_inert {needle : Bytes} {od ad : Nat} (rest : Bytes) : ∀ {s : Bytes}, Inert s →
    fieldScan needle {} od ad (s ++ rest) = fieldScan needle {} od ad rest
  | [], _ => rfl
  | c :: s, h => by
    obtain ⟨hq, h1, h2, h3, h4⟩ := h c List.mem_cons_self
    rw [List.cons_append, fieldScan, if_neg (by simp), if_neg hq, if_neg h1, if_neg h2,
      if_neg h3, if_neg h4]
    exact fieldScan_inert rest fun d hd => h d (List.mem_cons_of_mem _ hd)

/-- A member value the writer puts before `data`: a literal or a number. -/
inductive MemberValue : Bytes → Prop
  | literal {body : Bytes} (h : LiteralBody body) : MemberValue (quote :: (body ++ [quote]))
  | number {s : Bytes} (h : Inert s) : MemberValue s

/-- The text of one member with its trailing comma. -/
def memberText (m : Bytes × Bytes) : Bytes := quote :: (m.1 ++ quote :: colon :: (m.2 ++ [comma]))

section

variable {k : Bytes} (hk : PlainKey k) (rest : Bytes)
include hk

theorem fieldScan_member_skip {m : Bytes × Bytes} (hkey : PlainKey m.1) (hval : MemberValue m.2)
    (hne : m.1 ≠ k) :
    fieldScan (needleOf k) {} 1 0 (memberText m ++ rest) = fieldScan (needleOf k) {} 1 0 rest := by
  obtain ⟨key, value⟩ := m
  have hassoc : memberText (key, value) ++ rest =
      quote :: (key ++ quote :: colon :: (value ++ comma :: rest)) := by
    simp [memberText]
  rw [hassoc, fieldScan_other_literal hk _ hkey.literalBody hne,
    show colon :: (value ++ comma :: rest) = [colon] ++ (value ++ comma :: rest) from rfl,
    fieldScan_inert _ (inert_of_all rfl)]
  cases hval with
  | @literal body h =>
    rw [show quote :: (body ++ [quote]) ++ comma :: rest = quote :: (body ++ quote :: comma :: rest)
      by simp]
    exact fieldScan_value hk rest h
  | number h =>
    rw [fieldScan_inert _ h, show comma :: rest = [comma] ++ rest from rfl,
      fieldScan_inert _ (inert_of_all rfl)]

/-- A well-formed list of leading members. -/
def MembersOk (ms : List (Bytes × Bytes)) : Prop :=
  ∀ m ∈ ms, PlainKey m.1 ∧ MemberValue m.2

/-- **Finding a member among the leading members of an envelope**: the finder passes over
    all members with other keys, and over all of them when the key is not there. -/
theorem fieldScan_members : ∀ {ms : List (Bytes × Bytes)}, MembersOk ms → (∀ m ∈ ms, m.1 ≠ k) →
      fieldScan (needleOf k) {} 1 0 (ms.flatMap memberText ++ rest) =
        fieldScan (needleOf k) {} 1 0 rest
  | [], _, _ => rfl
  | m :: ms, hms, hne => by
    obtain ⟨⟨hkey, hvalue⟩, hms⟩ := List.forall_mem_cons.mp hms
    obtain ⟨hm, hne⟩ := List.forall_mem_cons.mp hne
    rw [List.flatMap_cons, List.append_assoc, fieldScan_member_skip hk _ hkey hvalue hm]
    exact fieldScan_members hms hne

/-- Finding the member that stands behind the others. -/
theorem fieldScan_members_key {ms : List (Bytes × Bytes)} (hms : MembersOk ms)
    (hne : ∀ m ∈ ms, m.1 ≠ k) :
    fieldScan (needleOf k) {} 1 0
        (ms.flatMap memberText ++ quote :: (k ++ quote :: colon :: rest)) =
      some (skipSpaces rest) := by
  rw [fieldScan_members hk _ hms hne, fieldScan_key hk]

theorem fieldScan_members_mem {pre post : List (Bytes × Bytes)} {v : Bytes} (hpre : MembersOk pre)
    (hne : ∀ m ∈ pre, m.1 ≠ k) :
    fieldScan (needleOf k) {} 1 0 ((pre ++ (k, v) :: post).flatMap memberText ++ rest) =
      some (skipSpaces (v ++ comma :: (post.flatMap memberText ++ rest))) := by
  have hassoc : (pre ++ (k, v) :: post).flatMap memberText ++ rest =
      pre.flatMap memberText ++
        quote :: (k ++ quote :: colon :: (v ++ comma :: (post.flatMap memberText ++ rest))) := by
    simp [memberText]
  rw [hassoc, fieldScan_members_key hk _ hpre hne]

end

/-- Inside a nested object the finder looks at nothing: it comes out where the brace scan
    ends, at depth one again. -/
theorem fieldScan_nested (needle : Bytes) {a r : Bytes} :
    ∀ {s : Bytes} {q : LitState} {d : Nat} (ad : Nat), 1 ≤ d →
    balancedScan lbrace rbrace q d s = some (a, r) →
      ∃ q' ad', q'.inString = false ∧
        fieldScan needle q (d + 1) ad s = fieldScan needle q' 1 ad' r := by
  intro s
  induction s generalizing a with
  | nil =>
    intro q d ad _ h
    cases h
  | cons c s ih =>
    intro q d ad hd h
    -- the scan of the tail and the induction hypothesis, whatever the head did
    have hcont : ∀ {q₁ : LitState} {d₁ : Nat} (ad₁ : Nat), 1 ≤ d₁ →
        (balancedScan lbrace rbrace q₁ d₁ s).map (fun r => (c :: r.1, r.2)) = some (a, r) →
        ∃ q' ad', q'.inString = false ∧
          fieldScan needle q₁ (d₁ + 1) ad₁ s = fieldScan needle q' 1 ad' r := by
      intro q₁ d₁ ad₁ hd₁ hmap
      obtain ⟨⟨a', r'⟩, hscan, ⟨⟩⟩ := Option.map_eq_some_iff.mp hmap
      exact ih ad₁ hd₁ hscan
    rw [balancedScan] at h
    by_cases hin : q.inString = true
    · rw [if_pos (by simp [hin])] at h
      rw [fieldScan_inString hin]
      exact hcont ad hd h
    · by_cases hquote : c = quote
      · rw [if_pos (by simp [hquote])] at h
        rw [fieldScan, if_neg hin, if_pos hquote, if_neg (by omega)]
        exact hcont ad hd h
      · rw [if_neg (by simp [hin, hquote])] at h
        rw [fieldScan, if_neg hin, if_neg hquote]
        by_cases hopen : c = lbrace
        · rw [if_pos hopen] at h ⊢
          exact hcont ad (by omega) h
        · rw [if_neg hopen] at h ⊢
          by_cases hclose : c = rbrace
          · rw [if_pos hclose, if_neg (by omega)] at h
            rw [if_pos hclose]
            by_cases hone : d = 1
            · rw [if_pos hone] at h
              injection h with h
              injection h with ha hr
              subst hr hone
              exact ⟨q, ad, Bool.eq_false_iff.mpr hin, rfl⟩
            · rw [if_neg hone] at h
              rw [show d + 1 - 1 = (d - 1) + 1 by omega]
              exact hcont ad (by omega) h
          · rw [if_neg hclose] at h ⊢
            split
            · exact hcont _ hd h
            · split
              · exact hcont _ hd h
              · exact hcont _ hd h

/-! ## §5. Reading a written line. -/

/-- The version member, absent for version 0. -/
def versionMember (entry : SessionEntry) : List (Bytes × Bytes) :=
  if entry.version ≠ 0 then [(ascii "version", decimalInt entry.version)] else []

/-- The four string members, in the order written. -/
def stringMembers (entry : SessionEntry) : List (Bytes × Bytes) :=
  [(ascii "id", quote :: (jsonEscape entry.id ++ [quote])),
   (ascii "parent_id", quote :: (jsonEscape entry.parentId ++ [quote])),
   (ascii "type", quote :: (jsonEscape entry.type.toBytes ++ [quote])),
   (ascii "timestamp", quote :: (jsonEscape entry.timestamp ++ [quote]))]

/-- The members the writer puts before `data`. -/
def envelopeMembers (entry : SessionEntry) : List (Bytes × Bytes) :=
  versionMember entry ++ stringMembers entry

/-- The written line is its members, then `data`, in braces. -/
theorem sessionEntryLineText_eq (entry : SessionEntry) :
    sessionEntryLineText entry =
      lbrace :: ((envelopeMembers entry).flatMap memberText ++
        quote :: (ascii "data" ++ quote :: colon :: (entry.dataJson ++ [rbrace]))) := by
  have h1 : ascii "\x7b" = [lbrace] := by decide
  have h2 : ascii "\x7d" = [rbrace] := by decide
  have h3 : ascii "\"data\":" = quote :: (ascii "data" ++ [quote, colon]) := by decide
  have h4 : ascii "\"id\":\"" = quote :: (ascii "id" ++ [quote, colon, quote]) := by decide
  have h5 : ascii "\"parent_id\":\"" = quote :: (ascii "parent_id" ++ [quote, colon, quote]) := by
    decide
  have h6 : ascii "\"type\":\"" = quote :: (ascii "type" ++ [quote, colon, quote]) := by
    decide
  have h7 : ascii "\"timestamp\":\"" = quote :: (ascii "timestamp" ++ [quote, colon, quote]) := by
    decide
  have h8 : ascii "\"version\":" = quote :: (ascii "version" ++ [quote, colon]) := by decide
  have h9 : ascii "\"," = [quote, comma] := by decide
  have h10 : ascii "," = [comma] := by decide
  unfold sessionEntryLineText envelopeMembers versionMember stringMembers
  rw [jsonEscape_type, h1, h2, h3, h4, h5, h6, h7, h8, h9, h10]
  split <;> simp [memberText]

theorem fieldValueStart_line (entry : SessionEntry) (key : String)
    (hkey : escape (ascii key) = ascii key) :
    fieldValueStart (sessionEntryLineText entry) key =
      fieldScan (needleOf (ascii key)) {} 1 0 ((envelopeMembers entry).flatMap memberText ++
        quote :: (ascii "data" ++ quote :: colon :: (entry.dataJson ++ [rbrace]))) := by
  rw [fieldValueStart, hkey, sessionEntryLineText_eq]
  rfl

theorem validateEntryTypeVersion_ok {t : EntryType} {v : Int}
    (h : validateEntryTypeVersion t v = .ok ()) : v = 0 ∨ v = 1 ∨ v = 2 ∨ v = 3 ∨ v = 4 := by
  unfold validateEntryTypeVersion at h
  split at h
  next => cases h
  next hrange =>
    rw [currentSessionEntryVersion] at hrange
    omega

/-- The keys of the envelope hold neither quotes nor backslashes, and the finder's escaping
    leaves them as they are. -/
theorem envelopeKey_plain : ∀ key ∈ ["version", "id", "parent_id", "type", "timestamp", "data"],
    PlainKey (ascii key) ∧ escape (ascii key) = ascii key := by
  have hall : ∀ key ∈ ["version", "id", "parent_id", "type", "timestamp", "data"],
      ((ascii key).all fun c => c != quote && c != backslash) = true ∧
        escape (ascii key) = ascii key := by decide
  intro key hkey
  exact ⟨by simpa [PlainKey] using (hall key hkey).1, (hall key hkey).2⟩

variable {entry : SessionEntry}

theorem mem_versionMember {m : Bytes × Bytes} (h : m ∈ versionMember entry) :
    m = (ascii "version", decimalInt entry.version) ∧
      entry.version ≠ 0 := by
  unfold versionMember at h
  split at h
  next hne => exact ⟨List.mem_singleton.mp h, hne⟩
  next => exact absurd h List.not_mem_nil

/-- The leading members of a line that carries a supported version are well formed. -/
theorem membersOk_envelope (hver : validateEntryTypeVersion entry.type entry.version = .ok ()) :
    MembersOk (envelopeMembers entry) := by
  intro m hm
  rw [envelopeMembers, List.mem_append] at hm
  rcases hm with hm | hm
  · obtain ⟨rfl, hne⟩ := mem_versionMember hm
    refine ⟨(envelopeKey_plain "version" (by decide)).1, .number ?_⟩
    rcases validateEntryTypeVersion_ok hver with h | h | h | h | h
    · exact absurd h hne
    iterate 4
      · rw [h]
        exact inert_of_all rfl
  · have hstring : ∀ key ∈ ["version", "id", "parent_id", "type", "timestamp", "data"], ∀ text,
        PlainKey (ascii key) ∧ MemberValue (quote :: (jsonEscape text ++ [quote])) :=
      fun key hkey _ => ⟨(envelopeKey_plain key hkey).1, .literal (literalBody_jsonEscape _)⟩
    simp only [stringMembers, List.mem_cons, List.not_mem_nil, or_false] at hm
    rcases hm with rfl | rfl | rfl | rfl
    · exact hstring "id" (by decide) _
    · exact hstring "parent_id" (by decide) _
    · exact hstring "type" (by decide) _
    · exact hstring "timestamp" (by decide) _

/-- The keys of the string members. -/
theorem stringMembers_key_ne {key : Bytes}
    (hkey : ∀ k ∈ [ascii "id", ascii "parent_id", ascii "type", ascii "timestamp"], k ≠ key) :
    ∀ m ∈ stringMembers entry, m.1 ≠ key :=
  fun _ hm => hkey _ (List.mem_map_of_mem (f := Prod.fst) hm)

/-- A string member of the envelope reads back as the text that was written. -/
theorem extractJsonString_member {key : String} (pre : List (Bytes × Bytes))
    {post : List (Bytes × Bytes)} {text : Bytes}
    (hver : validateEntryTypeVersion entry.type entry.version = .ok ())
    (hmem : key ∈ ["version", "id", "parent_id", "type", "timestamp", "data"])
    (hsplit : stringMembers entry =
      pre ++ (ascii key, quote :: (jsonEscape text ++ [quote])) :: post)
    (hne : ∀ k ∈ ascii "version" :: pre.map Prod.fst, k ≠ ascii key) :
    extractJsonString (sessionEntryLineText entry) key = text := by
  have hall : envelopeMembers entry =
      (versionMember entry ++ pre) ++ (ascii key, quote :: (jsonEscape text ++ [quote])) :: post := by
    rw [envelopeMembers, hsplit, List.append_assoc]
  have hms := membersOk_envelope hver
  have hpre : MembersOk (versionMember entry ++ pre) := fun m hm =>
    hms m (by rw [hall]; exact List.mem_append_left _ hm)
  have hne' : ∀ m ∈ versionMember entry ++ pre, m.1 ≠ ascii key := by
    intro m hm
    rcases List.mem_append.mp hm with hm | hm
    · rw [(mem_versionMember hm).1]
      exact hne _ List.mem_cons_self
    · exact hne _ (List.mem_cons_of_mem _ (List.mem_map_of_mem hm))
  obtain ⟨hplain, hkey⟩ := envelopeKey_plain key hmem
  rw [extractJsonString, fieldValueStart_line entry key hkey, hall,
    fieldScan_members_mem hplain _ hpre hne']
  simp only [List.cons_append, List.append_assoc, List.nil_append]
  rw [show ∀ s, skipSpaces (quote :: s) = quote :: s from fun _ => rfl, Option.bind_some,
    parseStringAt, if_pos rfl, parseStringBody_jsonEscape]
  rfl

/-- A one-digit version in front of a comma. -/
theorem extractEntryVersion_digit {line rest : Bytes} {c : UInt8}
    (h : fieldValueStart line "version" = some (c :: comma :: rest)) (hc : isDigit c = true) :
    extractEntryVersion line = .ok (some ((c.toNat - 48 : Nat) : Int)) := by
  have hle : 48 ≤ c.toNat ∧ c.toNat ≤ 57 := by
    simpa [isDigit, UInt8.le_iff_toNat_le] using hc
  have hminus : (c == minus) = false := by
    rw [beq_eq_false_iff_ne]
    intro heq
    rw [heq] at hle
    exact absurd hle.1 (by decide)
  have hvalue : digitsValue [c] = c.toNat - 48 := by simp [digitsValue]
  have hrange : -(2 : Int) ^ 63 ≤ ((c.toNat - 48 : Nat) : Int) ∧
      ((c.toNat - 48 : Nat) : Int) < (2 : Int) ^ 63 := by
    constructor <;> omega
  have htake : (c :: comma :: rest).takeWhile isDigit = [c] := by
    rw [List.takeWhile_cons_of_pos hc, List.takeWhile_cons_of_neg (by decide)]
  have hdrop : (c :: comma :: rest).dropWhile isDigit = comma :: rest := by
    rw [List.dropWhile_cons_of_pos hc, List.dropWhile_cons_of_neg (by decide)]
  simp only [extractEntryVersion, h, hminus, Bool.false_eq_true, ↓reduceIte, htake, hdrop, hvalue]
  rw [if_neg (by simp [isJsonValueDelimiter]), if_pos hrange]

/-! The brace scan on a text and on a longer one. -/

/-- **A self-contained object text**: the brace its first octet opens is closed by its last
    octet and not before. -/
def closesAtEnd (data : Bytes) : Bool := parseBalanced lbrace rbrace data = some (data, [])

theorem parseBalanced_of_head (hopen : s.head? = some lbrace) :
    parseBalanced lbrace rbrace s = balancedScan lbrace rbrace {} 0 s := by
  cases s with
  | nil => cases hopen
  | cons c s =>
    rw [List.head?_cons, Option.some_inj] at hopen
    rw [parseBalanced, if_pos hopen]

/-- What the brace scan finds in the envelope is the data that was written exactly when
    that data is self-contained. -/
theorem parseBalanced_append_iff {data : Bytes} (hopen : data.head? = some lbrace) (t : Bytes) :
    (parseBalanced lbrace rbrace (data ++ t)).map Prod.fst = some data ↔
      closesAtEnd data = true := by
  have hopen' : (data ++ t).head? = some lbrace := by
    rw [List.head?_append, hopen]
    rfl
  rw [closesAtEnd, decide_eq_true_iff, parseBalanced_of_head hopen, parseBalanced_of_head hopen']
  constructor
  · intro h
    obtain ⟨⟨a, r⟩, hscan, rfl⟩ := Option.map_eq_some_iff.mp h
    have hcut := balancedScan_cut [] hscan
    rwa [List.append_nil] at hcut
  · intro h
    rw [balancedScan_cut t h]
    rfl

section

variable {entry : SessionEntry} (hver : validateEntryTypeVersion entry.type entry.version = .ok ())

include hver

theorem extractJsonString_id : extractJsonString (sessionEntryLineText entry) "id" = entry.id :=
  extractJsonString_member [] hver (by decide) rfl (by decide)

theorem extractJsonString_parentId :
    extractJsonString (sessionEntryLineText entry) "parent_id" = entry.parentId :=
  extractJsonString_member ((stringMembers entry).take 1) hver (by decide) rfl
    (show ∀ k ∈ [ascii "version", ascii "id"], k ≠ ascii "parent_id" by decide)

theorem extractJsonString_type :
    extractJsonString (sessionEntryLineText entry) "type" = entry.type.toBytes :=
  extractJsonString_member ((stringMembers entry).take 2) hver (by decide) rfl
    (show ∀ k ∈ [ascii "version", ascii "id", ascii "parent_id"], k ≠ ascii "type" by
      decide)

theorem extractJsonString_timestamp :
    extractJsonString (sessionEntryLineText entry) "timestamp" = entry.timestamp :=
  extractJsonString_member ((stringMembers entry).take 3) hver (by decide) rfl
    (show ∀ k ∈ [ascii "version", ascii "id", ascii "parent_id", ascii "type"],
      k ≠ ascii "timestamp" by decide)

/-- The finder reaches `data` behind the four string members. -/
theorem fieldValueStart_data (hopen : entry.dataJson.head? = some lbrace) :
    fieldValueStart (sessionEntryLineText entry) "data" = some (entry.dataJson ++ [rbrace]) := by
  have hkeys : ∀ m ∈ envelopeMembers entry, m.1 ≠ ascii "data" := by
    intro m hm
    rcases List.mem_append.mp hm with hm | hm
    · rw [(mem_versionMember hm).1]
      exact show ascii "version" ≠ ascii "data" by decide
    · exact stringMembers_key_ne (by decide) m hm
  obtain ⟨hplain, hkey⟩ := envelopeKey_plain "data" (by decide)
  rw [fieldValueStart_line entry "data" hkey,
    fieldScan_members_key hplain _ (membersOk_envelope hver) hkeys]
  cases hdata : entry.dataJson with
  | nil => rw [hdata] at hopen; cases hopen
  | cons c s =>
    rw [hdata, List.head?_cons, Option.some_inj] at hopen
    subst hopen
    rfl

/-- **`data` reads back exactly when it is self-contained.** -/
theorem extractJsonObject_data_iff (hopen : entry.dataJson.head? = some lbrace) :
    extractJsonObject (sessionEntryLineText entry) "data" = entry.dataJson ↔
      closesAtEnd entry.dataJson = true := by
  have hiff := parseBalanced_append_iff hopen [rbrace]
  rw [extractJsonObject, fieldValueStart_data hver hopen, Option.bind_some]
  cases hscan : parseBalanced lbrace rbrace (entry.dataJson ++ [rbrace]) with
  | some p =>
    obtain ⟨a, r⟩ := p
    rw [hscan, Option.map_some, Option.some_inj] at hiff
    exact hiff
  | none =>
    -- the reader's fallback is itself an object that would have been found
    rw [hscan] at hiff
    constructor
    · intro h
      exact absurd hscan (by rw [← h]; decide)
    · intro h
      cases hiff.mpr h

/-- Past the string members the finder of `version` has to get over `data`. -/
theorem fieldValueStart_version_absent (hzero : entry.version = 0)
    (hopen : entry.dataJson.head? = some lbrace) (hclose : closesAtEnd entry.dataJson = true) :
    fieldValueStart (sessionEntryLineText entry) "version" = none := by
  obtain ⟨hplain, hkey⟩ := envelopeKey_plain "version" (by decide)
  have hkeys : ∀ m ∈ envelopeMembers entry, m.1 ≠ ascii "version" := by
    intro m hm
    rcases List.mem_append.mp hm with hm | hm
    · exact absurd hzero (mem_versionMember hm).2
    · exact stringMembers_key_ne (by decide) m hm
  rw [fieldValueStart_line entry "version" hkey,
    fieldScan_members hplain _ (membersOk_envelope hver) hkeys,
    fieldScan_other_literal hplain _ (envelopeKey_plain "data" (by decide)).1.literalBody
      (by decide)]
  rw [closesAtEnd, decide_eq_true_iff, parseBalanced_of_head hopen] at hclose
  cases hdata : entry.dataJson with
  | nil => rw [hdata] at hopen; cases hopen
  | cons c s =>
    rw [hdata, List.head?_cons, Option.some_inj] at hopen
    subst hopen
    rw [hdata] at hclose
    have hcut := balancedScan_cut [rbrace] hclose
    -- one octet in, both scans stand one level deeper
    change (balancedScan lbrace rbrace {} 1 (s ++ [rbrace])).map _ = _ at hcut
    obtain ⟨⟨a, r⟩, hscan, heq⟩ := Option.map_eq_some_iff.mp hcut
    injection heq with ha hr
    subst hr
    obtain ⟨q', ad', hq', hend⟩ := fieldScan_nested (needleOf (ascii "version")) 0
      (Nat.le_refl 1) hscan
    change fieldScan (needleOf (ascii "version")) {} 2 0 (s ++ [rbrace]) = none
    rw [hend, fieldScan, if_neg (by simp [hq'])]
    rfl

/-- A written version is read back; an absent one is found nowhere else once the data is
    self-contained. -/
theorem readSupportedEntryVersion_line (hopen : entry.dataJson.head? = some lbrace)
    (hclose : closesAtEnd entry.dataJson = true) :
    readSupportedEntryVersion (sessionEntryLineText entry) path = .ok entry.version := by
  by_cases hzero : entry.version = 0
  · rw [readSupportedEntryVersion, extractEntryVersion,
      fieldValueStart_version_absent hver hzero hopen hclose, hzero]
  · obtain ⟨hplain, hkey⟩ := envelopeKey_plain "version" (by decide)
    have hall : envelopeMembers entry =
        [] ++ (ascii "version", decimalInt entry.version) :: stringMembers entry := by
      rw [envelopeMembers, versionMember, if_pos hzero]
      rfl
    have hstart := fieldValueStart_line entry "version" hkey
    rw [hall, fieldScan_members_mem hplain _ (List.forall_mem_nil _) (List.forall_mem_nil _)]
      at hstart
    rcases validateEntryTypeVersion_ok hver with h | h | h | h | h
    · exact absurd h hzero
    · rw [h, show decimalInt 1 = [49] by decide] at hstart
      rw [readSupportedEntryVersion, extractEntryVersion_digit hstart (by decide), h]
      rfl
    · rw [h, show decimalInt 2 = [50] by decide] at hstart
      rw [readSupportedEntryVersion, extractEntryVersion_digit hstart (by decide), h]
      rfl
    · rw [h, show decimalInt 3 = [51] by decide] at hstart
      rw [readSupportedEntryVersion, extractEntryVersion_digit hstart (by decide), h]
      rfl
    · rw [h, show decimalInt 4 = [52] by decide] at hstart
      rw [readSupportedEntryVersion, extractEntryVersion_digit hstart (by decide), h]
      rfl

/-- What the reader makes of a written line: the same envelope, and the data up to where its
    first brace closes. -/
theorem parseSessionEntryLine_line {e' : SessionEntry}
    (h : parseSessionEntryLine (sessionEntryLineText entry) path = .ok e') :
    ∃ version, readSupportedEntryVersion (sessionEntryLineText entry) path = .ok version ∧
      e' = { entry with
        dataJson := extractJsonObject (sessionEntryLineText entry) "data", version } := by
  unfold parseSessionEntryLine at h
  split at h
  next => cases h
  split at h
  next => cases h
  next version hversion =>
    dsimp only at h
    split at h
    next => cases h
    split at h
    next => cases h
    rw [extractJsonString_type hver, parseEntryType_toBytes] at h
    dsimp only at h
    split at h
    next => cases h
    split at h
    next => cases h
    injection h with h
    rw [extractJsonString_id hver, extractJsonString_parentId hver,
      extractJsonString_timestamp hver] at h
    exact ⟨version, hversion, h.symm⟩

/-- **READING A WRITTEN LINE.**  When the reader accepts the line at all, it gives back the
    entry that was written exactly when the entry's data is self-contained. -/
theorem parseSessionEntryLine_line_iff {e' : SessionEntry}
    (hopen : entry.dataJson.head? = some lbrace)
    (h : parseSessionEntryLine (sessionEntryLineText entry) path = .ok e') :
    e' = entry ↔ closesAtEnd entry.dataJson = true := by
  rw [← extractJsonObject_data_iff hver hopen]
  obtain ⟨version, hversion, rfl⟩ := parseSessionEntryLine_line hver h
  constructor
  · intro heq
    exact congrArg SessionEntry.dataJson heq
  · intro hdata
    have hclose := (extractJsonObject_data_iff hver hopen).mp hdata
    rw [readSupportedEntryVersion_line hver hopen hclose] at hversion
    injection hversion with hversion
    rw [hdata, ← hversion]

end

end Ava.Session
