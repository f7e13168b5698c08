/-
  Ava.Core.Json
  **THE HAND-WRITTEN JSON SCANNERS** of `core/utf8.h` and `core/json.cpp`.

  Every scanner of the source walks an index over a `string_view`.  Here the index is the
  SUFFIX that starts at it, so each loop is a structural recursion; where the source jumps
  (`index += 4`, `index += decoded->length`), the recursion carries the number of octets
  still to be skipped.

    - §1 UTF-8: `decodeUtf8Scalar`, `isValidUtf8`;
    - §2 `escape` and the string decoder `parseStringAt`;
    - §3 the recursive validator behind `isValidObject`;
    - §4 the top-level field finder `fieldValueStart` and the typed field readers;
    - §5 arrays of objects and of strings.
-/
import Ava.Core.Prelude

namespace Ava.Core.Json

open Ava.Core

/-! ## §1. UTF-8. -/

/-- `utf8_expected_width`: the width a lead octet announces, zero for a bad lead. -/
def utf8ExpectedWidth (lead : UInt8) : Nat :=
  if lead ≤ 0x7f then 1
  else if 0xc2 ≤ lead ∧ lead ≤ 0xdf then 2
  else if 0xe0 ≤ lead ∧ lead ≤ 0xef then 3
  else if 0xf0 ≤ lead ∧ lead ≤ 0xf4 then 4
  else 0

/-- The continuation loop of `decode_utf8_scalar`: shifts six bits in per octet and
    fails on one that is not of the form `10xxxxxx`. -/
def decodeContinuation : Nat → Bytes → Option Nat
  | scalar, [] => some scalar
  | scalar, c :: cs =>
    if c &&& 0xc0 = 0x80 then decodeContinuation (scalar * 64 + (c &&& 0x3f).toNat) cs
    else none

/-- `minimum_by_width`: smaller scalars of that width are overlong encodings. -/
def minimumByWidth : Nat → Nat
  | 2 => 0x80
  | 3 => 0x800
  | 4 => 0x10000
  | _ => 0

/-- `decode_utf8_scalar` at the head of a suffix: the scalar and its width. -/
def decodeUtf8Scalar : Bytes → Option (Nat × Nat)
  | [] => none
  | lead :: rest =>
    let length := utf8ExpectedWidth lead
    if length = 0 ∨ rest.length + 1 < length then none
    else if length = 1 then some (lead.toNat, 1)
    else
      match decodeContinuation (lead.toNat % 2 ^ (7 - length)) (rest.take (length - 1)) with
      | none => none
      | some scalar =>
        if scalar < minimumByWidth length ∨ (0xd800 ≤ scalar ∧ scalar ≤ 0xdfff) ∨
            0x10ffff < scalar then none
        else some (scalar, length)

/-- The loop of `is_valid_utf8`, with the octets of the current scalar still to skip. -/
def isValidUtf8From : Nat → Bytes → Bool
  | _, [] => true
  | skip + 1, _ :: s => isValidUtf8From skip s
  | 0, c :: s =>
    match decodeUtf8Scalar (c :: s) with
    | none => false
    | some (_, length) => isValidUtf8From (length - 1) s

/-- `is_valid_utf8`. -/
def isValidUtf8 (value : Bytes) : Bool := isValidUtf8From 0 value

/-- U+FFFD, the replacement character, in UTF-8. -/
def replacement : Bytes := [0xef, 0xbf, 0xbd]

/-! ## §2. Escaping and decoding of string literals. -/

/-- One hexadecimal digit, lower case, as `std::hex` prints it. -/
def hexDigit (n : Nat) : UInt8 := UInt8.ofNat (if n < 10 then 48 + n else 87 + n)

/-- The `switch` both escapers share: what one ASCII octet becomes inside a literal. -/
def escapeByte (c : UInt8) : Bytes :=
  if c = quote then [backslash, quote]
  else if c = backslash then [backslash, backslash]
  else if c = 10 then [backslash, 110]
  else if c = 13 then [backslash, 114]
  else if c = 9 then [backslash, 116]
  else if c = 8 then [backslash, 98]
  else if c = 12 then [backslash, 102]
  else if c < 0x20 then
    [backslash, 117, 48, 48, hexDigit (c.toNat / 16), hexDigit (c.toNat % 16)]
  else [c]

def escapeFrom : Nat → Bytes → Bytes
  | _, [] => []
  | skip + 1, c :: s => c :: escapeFrom skip s
  | 0, c :: s =>
    match decodeUtf8Scalar (c :: s) with
    | none => replacement ++ escapeFrom 0 s
    | some (_, length) =>
      if length = 1 then escapeByte c ++ escapeFrom 0 s
      else c :: escapeFrom (length - 1) s

/-- `escape`: escapes ASCII, copies multi-octet scalars, replaces malformed octets. -/
def escape (value : Bytes) : Bytes := escapeFrom 0 value

/-- `append_utf8` of a code point that is not negative. -/
def appendUtf8 (codepoint : Nat) : Bytes :=
  if codepoint ≤ 0x7f then [UInt8.ofNat codepoint]
  else if codepoint ≤ 0x7ff then
    [UInt8.ofNat (0xc0 + codepoint / 64 % 32), UInt8.ofNat (0x80 + codepoint % 64)]
  else if codepoint ≤ 0xffff then
    [UInt8.ofNat (0xe0 + codepoint / 4096 % 16), UInt8.ofNat (0x80 + codepoint / 64 % 64),
      UInt8.ofNat (0x80 + codepoint % 64)]
  else
    [UInt8.ofNat (0xf0 + codepoint / 262144 % 8), UInt8.ofNat (0x80 + codepoint / 4096 % 64),
      UInt8.ofNat (0x80 + codepoint / 64 % 64), UInt8.ofNat (0x80 + codepoint % 64)]

/-- `parse_hex_code_unit` at the head of a suffix. -/
def parseHexCodeUnit : Bytes → Option Nat
  | a :: b :: c :: d :: _ =>
    match hexValue a, hexValue b, hexValue c, hexValue d with
    | some a, some b, some c, some d => some (a * 4096 + b * 256 + c * 16 + d)
    | _, _, _, _ => none
  | _ => none

def isHighSurrogate (u : Nat) : Bool := 0xd800 ≤ u && u ≤ 0xdbff

def isLowSurrogate (u : Nat) : Bool := 0xdc00 ≤ u && u ≤ 0xdfff

/-- The `case 'u'` of the string decoder, on the suffix AFTER the `u`: what is appended
    and how many octets `index` jumps.  A high surrogate pairs with a following `\u`
    low surrogate; every other surrogate becomes U+FFFD. -/
def decodeUnicodeEscape (rest : Bytes) : Option (Bytes × Nat) :=
  match parseHexCodeUnit rest with
  | none => none
  | some unit =>
    if isHighSurrogate unit then
      match rest.drop 4 with
      | b :: u :: low =>
        if b = backslash ∧ u = 117 then
          match parseHexCodeUnit low with
          | some l =>
            if isLowSurrogate l then
              some (appendUtf8 ((unit - 0xd800) * 1024 + (l - 0xdc00) + 0x10000), 10)
            else some (appendUtf8 0xfffd, 4)
          | none => some (appendUtf8 0xfffd, 4)
        else some (appendUtf8 0xfffd, 4)
      | _ => some (appendUtf8 0xfffd, 4)
    else if isLowSurrogate unit then some (appendUtf8 0xfffd, 4)
    else some (appendUtf8 unit, 4)

/-- The one-octet escapes: what follows the backslash, and what it stands for. -/
def simpleEscape (c : UInt8) : Option UInt8 :=
  if c = quote then some quote
  else if c = backslash then some backslash
  else if c = 47 then some 47
  else if c = 110 then some 10
  else if c = 114 then some 13
  else if c = 116 then some 9
  else if c = 98 then some 8
  else if c = 102 then some 12
  else none

/-- The loop of `parse_string_at` after the opening quote: `escaped` is the flag of the
    source and `skip` the octets an escape has already consumed. -/
def parseStringBody : Nat → Bool → Bytes → Option Bytes
  | _, _, [] => none
  | skip + 1, escaped, _ :: s => parseStringBody skip escaped s
  | 0, true, c :: s =>
    if c = 117 then
      match decodeUnicodeEscape s with
      | none => none
      | some (out, jump) => (parseStringBody jump false s).map (out ++ ·)
    else
      match simpleEscape c with
      | none => none
      | some out => (parseStringBody 0 false s).map (out :: ·)
  | 0, false, c :: s =>
    if c = backslash then parseStringBody 0 true s
    else if c = quote then some []
    else (parseStringBody 0 false s).map (c :: ·)

/-- `parse_string_at` at the head of a suffix. -/
def parseStringAt : Bytes → Option Bytes
  | [] => none
  | c :: s => if c = quote then parseStringBody 0 false s else none

/-- `string_literal_end` / `json_string_end`: the suffix just after the closing quote. -/
def stringBodyEnd : Bool → Bytes → Option Bytes
  | _, [] => none
  | true, _ :: s => stringBodyEnd false s
  | false, c :: s =>
    if c = backslash then stringBodyEnd true s
    else if c = quote then some s
    else stringBodyEnd false s

def stringLiteralEnd : Bytes → Option Bytes
  | [] => none
  | c :: s => if c = quote then stringBodyEnd false s else none

/-! ## §3. The recursive validator. -/

/-- The string-aware state every depth scan of the source carries: inside a literal, and
    just after a backslash inside one. -/
structure LitState where
  inString : Bool := false
  escaped : Bool := false
deriving Repr, DecidableEq

/-- One octet of the `in_string` / `escaped` bookkeeping. -/
def LitState.next (q : LitState) (c : UInt8) : LitState :=
  if q.inString then
    if q.escaped then { q with escaped := false }
    else if c = backslash then { q with escaped := true }
    else if c = quote then { inString := false, escaped := false }
    else q
  else if c = quote then { inString := true, escaped := false }
  else q

/-- `nesting_within_limit` (the same function stands in `json.cpp` and `strict_json.cpp`,
    one testing `depth == max` before the increment and one `depth > max` after it). -/
def nestingWithinLimit (maxDepth : Nat) : LitState → Nat → Bytes → Bool
  | _, _, [] => true
  | q, depth, c :: s =>
    if q.inString || c = quote then nestingWithinLimit maxDepth (q.next c) depth s
    else if c = lbrace || c = lbracket then
      if depth = maxDepth then false
      else nestingWithinLimit maxDepth (q.next c) (depth + 1) s
    else if c = rbrace || c = rbracket then nestingWithinLimit maxDepth (q.next c) (depth - 1) s
    else nestingWithinLimit maxDepth (q.next c) depth s

/-- `skip_ws`. -/
def skipWs (s : Bytes) : Bytes := s.dropWhile isJsonWhitespace

/-- `consume`: the suffix after the expected octet. -/
def consume (expected : UInt8) : Bytes → Option Bytes
  | [] => none
  | c :: s => if c = expected then some s else none

/-- `consume_literal`. -/
def consumeLiteral (literal : Bytes) (s : Bytes) : Option Bytes :=
  if literal.isPrefixOf s then some (s.drop literal.length) else none

/-- Where `parse_string` stands inside a literal. -/
inductive StringMode where
  | plain
  | escape
  | hex (missing : Nat)
deriving Repr, DecidableEq

/-- The loop of `JsonValidator::parse_string` after the opening quote. -/
def validateStringBody : StringMode → Bytes → Option Bytes
  | _, [] => none
  | .plain, c :: s =>
    if c < 0x20 then none
    else if c = quote then some s
    else if c = backslash then validateStringBody .escape s
    else validateStringBody .plain s
  | .escape, c :: s =>
    if (simpleEscape c).isSome then validateStringBody .plain s
    else if c = 117 then validateStringBody (.hex 3) s
    else none
  | .hex 0, c :: s => if isHexDigit c then validateStringBody .plain s else none
  | .hex (n + 1), c :: s => if isHexDigit c then validateStringBody (.hex n) s else none

/-- `parse_string`. -/
def parseString (s : Bytes) : Option Bytes :=
  (consume quote s).bind (validateStringBody .plain)

/-- One or more digits. -/
def parseDigits : Bytes → Option Bytes
  | [] => none
  | c :: s => if isDigit c then some (s.dropWhile isDigit) else none

/-- The integer part of a number: a lone zero, or digits that do not start with one. -/
def parseIntegerPart (s : Bytes) : Option Bytes :=
  match consume 48 s with
  | some rest =>
    match rest with
    | c :: _ => if isDigit c then none else some rest
    | [] => some rest
  | none => parseDigits s

/-- The optional fraction. -/
def parseFraction (s : Bytes) : Option Bytes :=
  match consume 46 s with
  | some rest => parseDigits rest
  | none => some s

/-- The optional exponent with its optional sign. -/
def parseExponent : Bytes → Option Bytes
  | [] => some []
  | c :: s =>
    if c = 101 || c = 69 then
      match s with
      | sign :: t => if sign = 43 || sign = 45 then parseDigits t else parseDigits s
      | [] => none
    else some (c :: s)

/-- `parse_number`. -/
def parseNumber (s : Bytes) : Option Bytes :=
  (((parseIntegerPart ((consume minus s).getD s)).bind parseFraction).bind parseExponent)

mutual

/-- `parse_value`.  The recursion of the source is on the text; here it is on a budget
    that `jsonFuel` makes larger than the text can use. -/
def parseValue : Nat → Bytes → Option Bytes
  | 0, _ => none
  | fuel + 1, s =>
    match skipWs s with
    | [] => none
    | c :: t =>
      if c = quote then parseString (c :: t)
      else if c = lbrace then parseObject fuel (c :: t)
      else if c = lbracket then parseArray fuel (c :: t)
      else if c = 116 then consumeLiteral (ascii "true") (c :: t)
      else if c = 102 then consumeLiteral (ascii "false") (c :: t)
      else if c = 110 then consumeLiteral (ascii "null") (c :: t)
      else if c = minus || isDigit c then parseNumber (c :: t)
      else none

/-- `parse_object`. -/
def parseObject : Nat → Bytes → Option Bytes
  | 0, _ => none
  | fuel + 1, s =>
    match consume lbrace s with
    | none => none
    | some s =>
      match consume rbrace (skipWs s) with
      | some rest => some rest
      | none => parseMembers fuel (skipWs s)

/-- The `while (true)` loop of `parse_object`. -/
def parseMembers : Nat → Bytes → Option Bytes
  | 0, _ => none
  | fuel + 1, s =>
    match (parseString (skipWs s)).bind fun s => consume colon (skipWs s) with
    | none => none
    | some s =>
      match parseValue fuel s with
      | none => none
      | some s =>
        match consume rbrace (skipWs s) with
        | some rest => some rest
        | none =>
          match consume comma (skipWs s) with
          | none => none
          | some s => parseMembers fuel s

/-- `parse_array`. -/
def parseArray : Nat → Bytes → Option Bytes
  | 0, _ => none
  | fuel + 1, s =>
    match consume lbracket s with
    | none => none
    | some s =>
      match consume rbracket (skipWs s) with
      | some rest => some rest
      | none => parseElements fuel (skipWs s)

/-- The `while (true)` loop of `parse_array`. -/
def parseElements : Nat → Bytes → Option Bytes
  | 0, _ => none
  | fuel + 1, s =>
    match parseValue fuel s with
    | none => none
    | some s =>
      match consume rbracket (skipWs s) with
      | some rest => some rest
      | none =>
        match consume comma (skipWs s) with
        | none => none
        | some s => parseElements fuel s

end

/-- Enough budget for any text: a nested call is made at most three levels after the
    octet that opened the container. -/
def jsonFuel (s : Bytes) : Nat := 3 * s.length + 3

/-- `kMaxNestingDepth`. -/
def maxNestingDepth : Nat := 64

/-- `JsonValidator::valid_object` under a depth bound. -/
def validObject (maxDepth : Nat) (value : Bytes) : Bool :=
  isValidUtf8 value && nestingWithinLimit maxDepth {} 0 value &&
    match parseObject (jsonFuel value) (skipWs value) with
    | some rest => (skipWs rest).isEmpty
    | none => false

/-- `JsonValidator::valid_array`. -/
def validArray (maxDepth : Nat) (value : Bytes) : Bool :=
  isValidUtf8 value && nestingWithinLimit maxDepth {} 0 value &&
    match parseArray (jsonFuel value) (skipWs value) with
    | some rest => (skipWs rest).isEmpty
    | none => false

/-- `is_valid_object`. -/
def isValidObject (value : Bytes) : Bool := validObject maxNestingDepth value

/-! ## §4. Fields of the top-level object. -/

/-- The scan of `field_value_start` for a quoted key at object depth one, outside arrays.
    A match must be followed by a colon; a STRING VALUE that spells the key is passed
    over because no colon follows it. -/
def fieldScan (needle : Bytes) : LitState → Nat → Nat → Bytes → Option Bytes
  | _, _, _, [] => none
  | q, objectDepth, arrayDepth, c :: s =>
    if q.inString then fieldScan needle (q.next c) objectDepth arrayDepth s
    else if c = quote then
      if objectDepth = 1 ∧ arrayDepth = 0 ∧ needle.isPrefixOf (c :: s) = true then
        match skipSpaces ((c :: s).drop needle.length) with
        | [] => fieldScan needle (q.next c) objectDepth arrayDepth s
        | d :: after =>
          if d = colon then some (skipSpaces after)
          else fieldScan needle (q.next c) objectDepth arrayDepth s
      else fieldScan needle (q.next c) objectDepth arrayDepth s
    else if c = lbrace then fieldScan needle q (objectDepth + 1) arrayDepth s
    else if c = rbrace then fieldScan needle q (objectDepth - 1) arrayDepth s
    else if c = lbracket then fieldScan needle q objectDepth (arrayDepth + 1) s
    else if c = rbracket then fieldScan needle q objectDepth (arrayDepth - 1) s
    else fieldScan needle q objectDepth arrayDepth s

/-- Inside a literal the scan only reads on. -/
theorem fieldScan_inString {needle s : Bytes} {q : LitState} {od ad : Nat} {c : UInt8}
    (h : q.inString = true) :
    fieldScan needle q od ad (c :: s) = fieldScan needle (q.next c) od ad s := by
  rw [fieldScan, if_pos h]

/-- `field_value_start`: the suffix at the value of a top-level member. -/
def fieldValueStart (object : Bytes) (key : String) : Option Bytes :=
  fieldScan (quote :: (escape (ascii key) ++ [quote])) {} 0 0 object

/-- `field_value_start(...).has_value()`. -/
def hasField (object : Bytes) (key : String) : Bool := (fieldValueStart object key).isSome

/-- `string_field`. -/
def stringField (object : Bytes) (key : String) : Option Bytes :=
  (fieldValueStart object key).bind parseStringAt

/-- `string_field(...).value_or("")`. -/
def stringFieldOrEmpty (object : Bytes) (key : String) : Bytes :=
  (stringField object key).getD []

/-- The value of a run of decimal digits. -/
def digitsValue (digits : Bytes) : Nat :=
  digits.foldl (fun n c => n * 10 + (c.toNat - 48)) 0

/-- `integer_field`: a JSON integer in the range of `long long`, properly delimited. -/
def integerField (object : Bytes) (key : String) : Option Int :=
  match fieldValueStart object key with
  | none => none
  | some start =>
    let body := (consume minus start).getD start
    let digits := body.takeWhile isDigit
    let after := body.dropWhile isDigit
    let delimited := match after with
      | [] => true
      | c :: _ => c == comma || c == rbrace || c == rbracket || isJsonWhitespace c
    let value : Int :=
      if (consume minus start).isSome then - (digitsValue digits : Int) else digitsValue digits
    if digits.isEmpty || (digits.head? == some 48 && 1 < digits.length) || !delimited then none
    else if -(2 : Int) ^ 63 ≤ value ∧ value < (2 : Int) ^ 63 then some value
    else none

/-- The scan of `balanced_end`: the text up to and including the octet that closes the
    container opened at the start, and what follows it.  Only `op`, `cl` and quotes are
    looked at, so brackets do not count in a brace scan. -/
def balancedScan (op cl : UInt8) : LitState → Nat → Bytes → Option (Bytes × Bytes)
  | _, _, [] => none
  | q, depth, c :: s =>
    if q.inString || c = quote then
      (balancedScan op cl (q.next c) depth s).map fun r => (c :: r.1, r.2)
    else if c = op then
      (balancedScan op cl q (depth + 1) s).map fun r => (c :: r.1, r.2)
    else if c = cl then
      if depth = 0 then none
      else if depth = 1 then some ([c], s)
      else (balancedScan op cl q (depth - 1) s).map fun r => (c :: r.1, r.2)
    else (balancedScan op cl q depth s).map fun r => (c :: r.1, r.2)

/-- What an octet does to a scan, whatever follows it: the scan fails, ends or goes on. -/
theorem balancedScan_cons (op cl : UInt8) (q : LitState) (d : Nat) (c : UInt8) :
    (∀ s, balancedScan op cl q d (c :: s) = none) ∨
      (∀ s, balancedScan op cl q d (c :: s) = some ([c], s)) ∨
      ∃ q₁ d₁, ∀ s, balancedScan op cl q d (c :: s) =
        (balancedScan op cl q₁ d₁ s).map fun r => (c :: r.1, r.2) := by
  simp only [balancedScan]
  by_cases hc : (q.inString || c = quote) = true
  · simp only [if_pos hc]
    exact .inr (.inr ⟨_, _, fun _ => rfl⟩)
  simp only [if_neg hc]
  by_cases hop : c = op
  · simp only [if_pos hop]
    exact .inr (.inr ⟨_, _, fun _ => rfl⟩)
  simp only [if_neg hop]
  by_cases hcl : c = cl
  · simp only [if_pos hcl]
    by_cases hd : d = 0
    · exact .inl fun _ => if_pos hd
    simp only [if_neg hd]
    by_cases hone : d = 1
    · exact .inr (.inl fun _ => if_pos hone)
    · exact .inr (.inr ⟨_, _, fun _ => if_neg hone⟩)
  · exact .inr (.inr ⟨_, _, fun _ => if_neg hcl⟩)

/-- `parse_balanced`, with the suffix after the container. -/
def parseBalanced (op cl : UInt8) : Bytes → Option (Bytes × Bytes)
  | [] => none
  | c :: s => if c = op then balancedScan op cl {} 0 (c :: s) else none

/-- `object_field`. -/
def objectField (object : Bytes) (key : String) : Option Bytes :=
  ((fieldValueStart object key).bind (parseBalanced lbrace rbrace)).map Prod.fst

/-! ## §5. Arrays of objects. -/

/-- The `while (true)` loop of `strict_objects_in_array_field`; every round consumes an
    element, so the length of the array bounds the rounds. -/
def strictObjectsLoop (maxItems : Nat) : Nat → Nat → Bytes → Option (List Bytes)
  | 0, _, _ => none
  | fuel + 1, count, s =>
    match skipSpaces s with
    | [] => none
    | c :: t =>
      if c = rbracket then some []
      else if c ≠ lbrace ∨ count = maxItems then none
      else
        match parseBalanced lbrace rbrace (c :: t) with
        | none => none
        | some (item, rest) =>
          if !isValidObject item then none
          else
            match skipSpaces rest with
            | [] => none
            | d :: u =>
              if d = rbracket then some [item]
              else if d ≠ comma then none
              else (strictObjectsLoop maxItems fuel (count + 1) u).map (item :: ·)

/-- `strict_objects_in_array_field`; without a bound every array is small enough. -/
def strictObjectsInArrayField (object : Bytes) (key : String) (maxItems : Option Nat := none) :
    Option (List Bytes) :=
  if !isValidUtf8 object then none
  else
    match (fieldValueStart object key).bind (parseBalanced lbracket rbracket) with
    | none => none
    | some (array, _) =>
      if !validArray maxNestingDepth array then none
      else strictObjectsLoop (maxItems.getD (2 ^ 64 - 1)) (array.length + 1) 0 array.tail

end Ava.Core.Json
