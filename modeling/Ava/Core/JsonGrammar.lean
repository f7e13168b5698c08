/-
  Ava.Core.JsonGrammar
  **THE PROGRAM'S JSON SCANS AGAINST THE GRAMMAR OF RFC 8259.**

  The program looks at JSON text in two ways: a recursive validator, and string-aware brace
  counting that never parses.  Both are related to the grammar here.

    - §1 `balancedScan_cut` : what a brace scan cuts out does not depend on what follows;
    - §2 `balancedScan_object` : the brace scan of an object text ends with its last octet;
    - §3 `not_document_of_proper_prefix` : cutting an object text short leaves no document;
    - §4 `validObject_sound` : what the validator accepts is an object text.
-/
import Mathlib.Data.List.TakeWhile
import Ava.Core.Json
import Ava.Lib.Rfc8259

namespace Ava.Core.Json

open Ava.Core Ava.Lib Ava.Lib.Rfc8259

/-! ## §1. Cutting. -/

/-- The text a scan cuts out is cut out again whatever stands behind it. -/
theorem balancedScan_cut {op cl : UInt8} (t : Bytes) :
    ∀ {s : Bytes} {q : LitState} {d : Nat} {a r : Bytes},
      balancedScan op cl q d s = some (a, r) → balancedScan op cl q d (a ++ t) = some (a, t) := by
  intro s
  induction s with
  | nil => intro q d a r h; cases h
  | cons c s ih =>
    intro q d a r h
    obtain hstep | hstep | ⟨q₁, d₁, hstep⟩ := balancedScan_cons op cl q d c
    · rw [hstep] at h
      cases h
    · rw [hstep] at h
      cases h
      exact hstep t
    · rw [hstep] at h
      obtain ⟨⟨a', r'⟩, hscan, ⟨⟩⟩ := Option.map_eq_some_iff.mp h
      rw [List.cons_append, hstep, ih hscan]
      rfl

/-! ## §2. The brace scan of a derived text. -/

/-- A text the brace scan passes over at any positive depth. -/
def Passes (v : Bytes) : Prop :=
  ∀ (d : Nat) (rest : Bytes), balancedScan lbrace rbrace {} (d + 1) (v ++ rest) =
    (balancedScan lbrace rbrace {} (d + 1) rest).map fun r => (v ++ r.1, r.2)

theorem passes_nil : Passes [] := by
  intro d rest
  rw [List.nil_append]
  simp

variable {v w : Bytes}

theorem Passes.append (hv : Passes v) (hw : Passes w) : Passes (v ++ w) := by
  intro d rest
  rw [List.append_assoc, hv, hw, Option.map_map]
  simp [Function.comp_def]

variable {c : UInt8}

theorem Passes.cons (hc : Passes [c]) (hv : Passes v) : Passes (c :: v) :=
  hc.append hv

/-- An octet that neither opens nor closes anything. -/
theorem passes_inert (hquote : c ≠ quote) (hopen : c ≠ lbrace) (hclose : c ≠ rbrace) :
    Passes [c] := by
  intro d rest
  rw [List.singleton_append, balancedScan]
  simp [hquote, hopen, hclose]

theorem passes_of_inert : ∀ {v : Bytes}, (∀ c ∈ v, c ≠ quote ∧ c ≠ lbrace ∧ c ≠ rbrace) → Passes v
  | [], _ => passes_nil
  | c :: v, h => by
    obtain ⟨⟨hq, ho, hc⟩, hv⟩ := List.forall_mem_cons.mp h
    exact (passes_inert hq ho hc).cons (passes_of_inert hv)

/-- Inside a literal, a character that neither ends it nor starts an escape. -/
theorem balancedScan_plain (d : Nat) (t : Bytes) (hquote : c ≠ quote) (hback : c ≠ backslash) :
    balancedScan lbrace rbrace { inString := true } d (c :: t) =
      (balancedScan lbrace rbrace { inString := true } d t).map fun r => (c :: r.1, r.2) := by
  have hnext : ({ inString := true } : LitState).next c = { inString := true } := by
    simp [LitState.next, hquote, hback]
  rw [balancedScan, hnext]
  rfl

/-- Inside a literal, a backslash and the character it protects. -/
theorem balancedScan_escape (d : Nat) (t : Bytes) (c : UInt8) :
    balancedScan lbrace rbrace { inString := true } d (backslash :: c :: t) =
      (balancedScan lbrace rbrace { inString := true } d t).map
        fun r => (backslash :: c :: r.1, r.2) := by
  rw [balancedScan, balancedScan]
  simp [LitState.next, Function.comp_def]

theorem isHex_plain (h : IsHex c) : c ≠ quote ∧ c ≠ backslash := by
  unfold IsHex IsDigit at h
  constructor <;> intro heq <;> subst heq <;> revert h <;> decide

/-- Inside a literal the scan only waits for the closing quote. -/
theorem balancedScan_chars (d : Nat) (rest : Bytes) : ∀ {s : Bytes}, Chars s →
    balancedScan lbrace rbrace { inString := true } d (s ++ quote :: rest) =
      (balancedScan lbrace rbrace {} d rest).map fun r => (s ++ quote :: r.1, r.2) := by
  intro s hs
  induction hs with
  | nil =>
    rw [List.nil_append, balancedScan]
    rfl
  | @unescaped c s hctl hquote hback hs ih =>
    rw [List.cons_append, balancedScan_plain d _ hquote hback, ih, Option.map_map]
    rfl
  | @escape c s hc hs ih =>
    rw [List.cons_append, List.cons_append, balancedScan_escape d _ c, ih, Option.map_map]
    rfl
  | @unicode a b c e s ha hb hc he hs ih =>
    simp only [List.cons_append]
    rw [balancedScan_escape d _ 0x75, balancedScan_plain d _ (isHex_plain ha).1 (isHex_plain ha).2,
      balancedScan_plain d _ (isHex_plain hb).1 (isHex_plain hb).2,
      balancedScan_plain d _ (isHex_plain hc).1 (isHex_plain hc).2,
      balancedScan_plain d _ (isHex_plain he).1 (isHex_plain he).2, ih]
    simp only [Option.map_map]
    rfl

variable {s : Bytes}

theorem passes_string (h : Chars s) : Passes (quote :: (s ++ [quote])) := by
  intro d rest
  rw [List.cons_append, List.append_assoc, List.singleton_append, balancedScan]
  have hnext : ({} : LitState).next quote = { inString := true } := rfl
  rw [hnext, if_pos (by decide), balancedScan_chars _ _ h, Option.map_map]
  simp [Function.comp_def]

variable {m : Bytes}

/-- Braces around a text that passes. -/
theorem passes_braces (h : Passes m) : Passes (lbrace :: (m ++ [rbrace])) := by
  intro d rest
  rw [List.cons_append, List.append_assoc, List.singleton_append, balancedScan]
  rw [if_neg (by decide), if_pos rfl, h (d + 1), balancedScan]
  rw [if_neg (by decide), if_neg (by decide), if_pos rfl, if_neg (by omega), if_neg (by omega)]
  simp [Function.comp_def]

theorem passes_ws (h : Ws w) : Passes w :=
  passes_of_inert fun c hc =>
    ⟨(h c hc).ne (by decide), (h c hc).ne (by decide), (h c hc).ne (by decide)⟩

/-- The octets a number is made of. -/
theorem number_inert (h : Number s) :
    ∀ c ∈ s, IsDigit c ∨ c = 0x2D ∨ c = 0x2B ∨ c = 0x2E ∨ c = 0x65 ∨ c = 0x45 := by
  obtain ⟨sign, i, f, e, rfl, hsign, hi, hf, he⟩ := h
  simp only [List.forall_mem_append]
  refine ⟨?_, ?_, ?_, ?_⟩
  · obtain rfl | rfl := hsign
    · exact List.forall_mem_nil _
    · simp
  · obtain rfl | ⟨a, t, rfl, ha, -, ht⟩ := hi
    · simp [IsDigit]
    · exact List.forall_mem_cons.mpr ⟨.inl ha, fun c hc => .inl (ht c hc)⟩
  · obtain rfl | ⟨t, rfl, -, ht⟩ := hf
    · exact List.forall_mem_nil _
    · exact List.forall_mem_cons.mpr ⟨by simp, fun c hc => .inl (ht c hc)⟩
  · obtain rfl | ⟨x, sg, t, rfl, hx, hsg, -, ht⟩ := he
    · exact List.forall_mem_nil _
    · refine List.forall_mem_cons.mpr ⟨by tauto, List.forall_mem_append.mpr ⟨?_, ?_⟩⟩
      · obtain rfl | rfl | rfl := hsg
        · exact List.forall_mem_nil _
        · simp
        · simp
      · exact fun c hc => .inl (ht c hc)

theorem passes_number (h : Number s) : Passes s := by
  refine passes_of_inert fun c hc => ?_
  have hkind := number_inert h c hc
  unfold IsDigit at hkind
  refine ⟨?_, ?_, ?_⟩ <;> intro heq <;> subst heq <;> revert hkind <;> decide

variable {p : Production}

/-- **EVERY DERIVED TEXT PASSES**: by induction on the derivation, one case per production. -/
theorem derives_passes (h : Derives p v) : Passes v := by
  have hinert : ∀ {v : Bytes}, (v.all fun c => c != quote && c != lbrace && c != rbrace) = true →
      Passes v := fun h => passes_of_inert (by simpa [and_assoc] using h)
  have hopen : Passes [lbracket] := hinert rfl
  have hclose : Passes [rbracket] := hinert rfl
  have hcolon : Passes [colon] := hinert rfl
  have hcomma : Passes [comma] := hinert rfl
  induction h with
  | literal h =>
    obtain rfl | rfl | rfl := h
    · exact hinert rfl
    · exact hinert rfl
    · exact hinert rfl
  | number h => exact passes_number h
  | string h => exact passes_string h
  | emptyObject h => exact passes_braces (passes_ws h)
  | object h ih => exact passes_braces ih
  | emptyArray h => exact hopen.cons ((passes_ws h).append hclose)
  | array h ih => exact hopen.cons (ih.append hclose)
  | @member w₁ k w₂ w₃ v w₄ h₁ hk h₂ h₃ hv h₄ ih =>
    have hvalue : Passes (w₂ ++ colon :: (w₃ ++ (v ++ w₄))) :=
      (passes_ws h₂).append (hcolon.cons ((passes_ws h₃).append (ih.append (passes_ws h₄))))
    have hall := (passes_ws h₁).append ((passes_string hk).append hvalue)
    simpa using hall
  | element h₁ hv h₂ ih => exact (passes_ws h₁).append (ih.append (passes_ws h₂))
  | moreMembers hm hms ihm ihms | moreElements hm hms ihm ihms =>
    exact ihm.append (hcomma.cons ihms)

/-- A text in braces that passes is cut out whole. -/
theorem balancedScan_braces (h : Passes m) :
    balancedScan lbrace rbrace {} 0 (lbrace :: (m ++ [rbrace])) =
      some (lbrace :: (m ++ [rbrace]), []) := by
  rw [balancedScan, if_neg (by decide), if_pos rfl, h 0 [rbrace], balancedScan,
    if_neg (by decide), if_neg (by decide), if_pos rfl, if_neg (by decide), if_pos rfl]
  rfl

/-- **THE BRACE SCAN OF AN OBJECT TEXT ENDS WITH ITS LAST OCTET.** -/
theorem balancedScan_object (h : Derives .value v) (hhead : v.head? = some lbrace) :
    balancedScan lbrace rbrace {} 0 v = some (v, []) := by
  cases h with
  | literal h => obtain rfl | rfl | rfl := h <;> exact absurd hhead (by decide)
  | number h =>
    cases v with
    | nil => cases hhead
    | cons c v =>
      rw [List.head?_cons, Option.some_inj] at hhead
      have hkind := number_inert h c List.mem_cons_self
      unfold IsDigit at hkind
      subst hhead
      exact absurd hkind (by decide)
  | emptyObject h => exact balancedScan_braces (passes_ws h)
  | object h => exact balancedScan_braces (derives_passes h)
  | string h | emptyArray h | array h =>
    rw [List.head?_cons, Option.some_inj] at hhead
    exact absurd hhead (by decide)

/-! ## §3. Cutting an object text short. -/

/-- **NO PROPER PREFIX OF AN OBJECT TEXT IS A DOCUMENT.** -/
theorem not_document_of_proper_prefix {p : Bytes} (hs : Document s)
    (hhead : s.head? = some lbrace) (hlast : s.getLast? = some rbrace) (hp : p <+: s)
    (hne : p ≠ []) (hproper : p ≠ s) : ¬ Document p := by
  intro hdoc
  have hphead : p.head? = some lbrace := by
    obtain ⟨t, rfl⟩ := hp
    rwa [List.head?_append_of_ne_nil _ hne] at hhead
  have hv := hs.of_braces hhead hlast
  obtain ⟨v', w', rfl, hv', hvhead', hw'⟩ := hdoc.of_brace hphead
  obtain ⟨t, rfl⟩ := hp
  -- the scan of the whole text cannot stop at the end of the shorter value
  have hcut := balancedScan_cut (w' ++ t) (balancedScan_object hv' hvhead')
  rw [← List.append_assoc, balancedScan_object hv hhead] at hcut
  injection hcut with hcut
  injection hcut with hv hnil
  apply hproper
  rw [(List.append_eq_nil_iff.mp hnil.symm).2, List.append_nil]

/-! ## §4. The validator is sound. -/

theorem isWs_of_isJsonWhitespace (h : isJsonWhitespace c = true) : IsWs c := by
  unfold isJsonWhitespace at h
  unfold IsWs
  simp only [Bool.or_eq_true, beq_iff_eq] at h
  tauto

/-- What `skip_ws` drops is whitespace. -/
theorem skipWs_split (s : Bytes) : ∃ w, s = w ++ skipWs s ∧ Ws w := by
  refine ⟨s.takeWhile isJsonWhitespace, (List.takeWhile_append_dropWhile).symm, ?_⟩
  intro c hc
  exact isWs_of_isJsonWhitespace (List.mem_takeWhile_imp hc)

variable {rest : Bytes}

theorem consume_eq_some (h : consume c s = some rest) :
    s = c :: rest := by
  cases s with
  | nil => cases h
  | cons d s =>
    rw [consume] at h
    split at h
    next heq =>
      cases h
      rw [heq]
    next => cases h

theorem consumeLiteral_eq_some {lit : Bytes} (h : consumeLiteral lit s = some rest) :
    s = lit ++ rest := by
  unfold consumeLiteral at h
  split at h
  next hpre =>
    cases h
    obtain ⟨t, rfl⟩ := List.isPrefixOf_iff_prefix.mp hpre
    rw [List.drop_left]
  next => cases h

theorem isHex_of_isHexDigit (h : isHexDigit c = true) : IsHex c := by
  unfold isHexDigit isDigit at h
  unfold IsHex IsDigit
  simp only [Bool.or_eq_true, Bool.and_eq_true, decide_eq_true_eq] at h
  tauto

/-- The characters `parse_string` accepts after a backslash. -/
theorem simpleEscape_mem (h : (simpleEscape c).isSome = true) : c ∈ simpleEscapes := by
  unfold simpleEscape at h
  unfold simpleEscapes
  simp only [List.mem_cons, List.not_mem_nil, or_false]
  by_contra hne
  push Not at hne
  obtain ⟨h1, h2, h3, h4, h5, h6, h7, h8⟩ := hne
  simp_all

/-- What is left of a string literal in each mode of the validator. -/
def BodySpec (rest : Bytes) : StringMode → Bytes → Prop
  | .plain, s => ∃ k, s = k ++ quote :: rest ∧ Chars k
  | .escape, s => ∃ k, s = k ++ quote :: rest ∧ Chars (backslash :: k)
  | .hex n, s => ∃ ds k, s = ds ++ (k ++ quote :: rest) ∧ ds.length = n + 1 ∧
      (∀ d ∈ ds, IsHex d) ∧ Chars k

theorem validateStringBody_sound : ∀ {s : Bytes} {mode : StringMode},
    validateStringBody mode s = some rest → BodySpec rest mode s := by
  intro s
  induction s with
  | nil =>
    intro mode h
    cases mode <;> cases h
  | cons c s ih =>
    intro mode h
    cases mode with
    | plain =>
      unfold validateStringBody at h
      split at h
      next => cases h
      next hctl =>
        split at h
        next hquote =>
          cases h
          subst hquote
          exact ⟨[], rfl, .nil⟩
        next hquote =>
          split at h
          next hback =>
            obtain ⟨k, rfl, hk⟩ := ih h
            subst hback
            exact ⟨backslash :: k, rfl, hk⟩
          next hback =>
            obtain ⟨k, rfl, hk⟩ := ih h
            exact ⟨c :: k, rfl, .unescaped (UInt8.not_lt.mp hctl) hquote hback hk⟩
    | escape =>
      unfold validateStringBody at h
      split at h
      next hsimple =>
        obtain ⟨k, rfl, hk⟩ := ih h
        exact ⟨c :: k, rfl, .escape (simpleEscape_mem hsimple) hk⟩
      split at h
      next hu =>
        obtain ⟨ds, k, rfl, hlen, hds, hk⟩ := ih h
        subst hu
        match ds, hlen with
        | [a, b, c, d], _ =>
          refine ⟨117 :: a :: b :: c :: d :: k, rfl, ?_⟩
          exact .unicode (hds a (by simp)) (hds b (by simp)) (hds c (by simp)) (hds d (by simp)) hk
      next => cases h
    | hex n =>
      cases n with
      | zero =>
        unfold validateStringBody at h
        split at h
        next hhex =>
          obtain ⟨k, rfl, hk⟩ := ih h
          exact ⟨[c], k, rfl, rfl, List.forall_mem_singleton.mpr (isHex_of_isHexDigit hhex), hk⟩
        next => cases h
      | succ n =>
        unfold validateStringBody at h
        split at h
        next hhex =>
          obtain ⟨ds, k, rfl, hlen, hds, hk⟩ := ih h
          have hall := List.forall_mem_cons.mpr ⟨isHex_of_isHexDigit hhex, hds⟩
          exact ⟨c :: ds, k, rfl, by simp [hlen], hall, hk⟩
        next => cases h

theorem parseString_sound (h : parseString s = some rest) :
    ∃ k, s = quote :: (k ++ quote :: rest) ∧ Chars k := by
  obtain ⟨t, hquote, hbody⟩ := Option.bind_eq_some_iff.mp h
  obtain ⟨k, rfl, hk⟩ := validateStringBody_sound hbody
  exact ⟨k, consume_eq_some hquote, hk⟩

theorem isDigit_iff : isDigit c = true ↔ IsDigit c := by
  unfold isDigit IsDigit
  simp

theorem parseDigits_sound (h : parseDigits s = some rest) :
    ∃ ds, s = ds ++ rest ∧ Digits ds := by
  cases s with
  | nil => cases h
  | cons c s =>
    rw [parseDigits] at h
    split at h
    next hc =>
      cases h
      refine ⟨c :: s.takeWhile isDigit, ?_, List.cons_ne_nil _ _, ?_⟩
      · rw [List.cons_append, List.takeWhile_append_dropWhile]
      · exact List.forall_mem_cons.mpr ⟨isDigit_iff.mp hc, fun d hd =>
          isDigit_iff.mp (List.mem_takeWhile_imp hd)⟩
    next => cases h

theorem parseIntegerPart_sound (h : parseIntegerPart s = some rest) :
    ∃ i, s = i ++ rest ∧ IntPart i := by
  unfold parseIntegerPart at h
  split at h
  next t hzero =>
    have hs := consume_eq_some hzero
    have ht : t = rest := by
      split at h
      next =>
        split at h
        next => cases h
        cases h
        rfl
      cases h
      rfl
    subst ht
    exact ⟨[48], hs, .inl rfl⟩
  next hzero =>
    obtain ⟨ds, rfl, hne, hds⟩ := parseDigits_sound h
    cases ds with
    | nil => exact absurd rfl hne
    | cons c ds =>
      obtain ⟨hc, hds⟩ := List.forall_mem_cons.mp hds
      refine ⟨c :: ds, rfl, .inr ⟨c, ds, rfl, hc, ?_, hds⟩⟩
      intro heq
      subst heq
      exact absurd hzero (by simp [consume])

theorem parseFraction_sound (h : parseFraction s = some rest) :
    ∃ f, s = f ++ rest ∧ FracPart f := by
  unfold parseFraction at h
  split at h
  next t hdot =>
    obtain ⟨ds, rfl, hds⟩ := parseDigits_sound h
    exact ⟨46 :: ds, consume_eq_some hdot, .inr ⟨ds, rfl, hds⟩⟩
  cases h
  exact ⟨[], rfl, .inl rfl⟩

theorem parseExponent_sound (h : parseExponent s = some rest) :
    ∃ e, s = e ++ rest ∧ ExpPart e := by
  cases s with
  | nil =>
    cases h
    exact ⟨[], rfl, .inl rfl⟩
  | cons c s =>
    rw [parseExponent.eq_def] at h
    dsimp only at h
    split at h
    next hc =>
      simp only [Bool.or_eq_true, decide_eq_true_eq] at hc
      split at h
      next sign t =>
        split at h
        next hsign =>
          obtain ⟨ds, rfl, hds⟩ := parseDigits_sound h
          simp only [Bool.or_eq_true, decide_eq_true_eq] at hsign
          refine ⟨c :: sign :: ds, rfl, .inr ⟨c, [sign], ds, rfl, hc, ?_, hds⟩⟩
          obtain rfl | rfl := hsign
          · exact .inr (.inl rfl)
          · exact .inr (.inr rfl)
        obtain ⟨ds, hsplit, hds⟩ := parseDigits_sound h
        refine ⟨c :: ds, by rw [hsplit]; rfl, .inr ⟨c, [], ds, rfl, hc, .inl rfl, hds⟩⟩
      next => cases h
    cases h
    exact ⟨[], rfl, .inl rfl⟩

theorem parseNumber_sound (h : parseNumber s = some rest) :
    ∃ n, s = n ++ rest ∧ Number n := by
  unfold parseNumber at h
  obtain ⟨r₂, h₂, he⟩ := Option.bind_eq_some_iff.mp h
  obtain ⟨r₁, hi, hf⟩ := Option.bind_eq_some_iff.mp h₂
  obtain ⟨e, rfl, hE⟩ := parseExponent_sound he
  obtain ⟨f, rfl, hF⟩ := parseFraction_sound hf
  obtain ⟨i, hs, hI⟩ := parseIntegerPart_sound hi
  cases hsign : consume minus s with
  | none =>
    rw [hsign, Option.getD_none] at hs
    exact ⟨i ++ (f ++ e), by rw [hs]; simp, [], i, f, e, rfl, .inl rfl, hI, hF, hE⟩
  | some t =>
    rw [hsign, Option.getD_some] at hs
    refine ⟨[minus] ++ (i ++ (f ++ e)), ?_, [minus], i, f, e, rfl, .inr rfl, hI, hF, hE⟩
    rw [consume_eq_some hsign, hs]
    simp

/-- What each function of the validator establishes with a given budget. -/
structure ValidatorSound (fuel : Nat) : Prop where
  value : ∀ s rest, parseValue fuel s = some rest →
    ∃ w v, s = w ++ (v ++ rest) ∧ Ws w ∧ Derives .value v
  object : ∀ s rest, parseObject fuel s = some rest →
    ∃ v, s = v ++ rest ∧ Derives .value v
  members : ∀ s rest, parseMembers fuel s = some rest →
    ∃ m, s = m ++ rbrace :: rest ∧ Derives .members m
  array : ∀ s rest, parseArray fuel s = some rest →
    ∃ v, s = v ++ rest ∧ Derives .value v
  elements : ∀ s rest, parseElements fuel s = some rest →
    ∃ m, s = m ++ rbracket :: rest ∧ Derives .elements m

theorem literalTexts : ascii "true" = [0x74, 0x72, 0x75, 0x65] ∧
    ascii "false" = [0x66, 0x61, 0x6C, 0x73, 0x65] ∧ ascii "null" = [0x6E, 0x75, 0x6C, 0x6C] := by
  decide

/-- A closing octet after optional whitespace. -/
theorem consume_skipWs (h : consume c (skipWs s) = some rest) :
    ∃ w, s = w ++ c :: rest ∧ Ws w := by
  obtain ⟨w, hs, hw⟩ := skipWs_split s
  rw [consume_eq_some h] at hs
  exact ⟨w, hs, hw⟩

variable {fuel : Nat}

theorem parseValue_sound (ih : ValidatorSound fuel) (s rest : Bytes)
    (h : parseValue (fuel + 1) s = some rest) :
    ∃ w v, s = w ++ (v ++ rest) ∧ Ws w ∧ Derives .value v := by
  obtain ⟨w, hs, hw⟩ := skipWs_split s
  rw [parseValue] at h
  cases hskip : skipWs s with
  | nil =>
    rw [hskip] at h
    cases h
  | cons c t =>
    rw [hskip] at h hs
    dsimp only at h
    suffices hv : ∃ v, c :: t = v ++ rest ∧ Derives .value v by
      obtain ⟨v, hsplit, hv⟩ := hv
      exact ⟨w, v, by rw [hs, hsplit], hw, hv⟩
    have hlit : ∀ lit : Bytes, consumeLiteral lit (c :: t) = some rest → Derives .value lit →
        ∃ v, c :: t = v ++ rest ∧ Derives .value v :=
      fun lit hc hd => ⟨lit, consumeLiteral_eq_some hc, hd⟩
    split at h
    next =>
      obtain ⟨k, hk, hchars⟩ := parseString_sound h
      exact ⟨quote :: (k ++ [quote]), by rw [hk]; simp, .string hchars⟩
    split at h
    next => exact ih.object _ _ h
    split at h
    next => exact ih.array _ _ h
    split at h
    next => exact hlit _ h (.literal (.inl literalTexts.1))
    split at h
    next => exact hlit _ h (.literal (.inr (.inl literalTexts.2.1)))
    split at h
    next => exact hlit _ h (.literal (.inr (.inr literalTexts.2.2)))
    split at h
    next =>
      obtain ⟨n, hn, hnumber⟩ := parseNumber_sound h
      exact ⟨n, hn, .number hnumber⟩
    next => cases h

/-- The object and the array of the validator differ only in their closing octet and their
    items, so they share this step. -/
theorem container_sound {op cl : UInt8} {parseItems : Bytes → Option Bytes}
    (hempty : ∀ w, Ws w → Derives .value (op :: (w ++ [cl])))
    (hfull : ∀ m, Derives p m → Derives .value (op :: (m ++ [cl])))
    (hws : ∀ w m, Ws w → Derives p m → Derives p (w ++ m))
    (ih : ∀ s rest, parseItems s = some rest → ∃ m, s = m ++ cl :: rest ∧ Derives p m)
    (h : (match consume op s with
      | none => none
      | some s =>
        match consume cl (skipWs s) with
        | some rest => some rest
        | none => parseItems (skipWs s)) = some rest) :
    ∃ v, s = v ++ rest ∧ Derives .value v := by
  cases hopen : consume op s with
  | none =>
    rw [hopen] at h
    cases h
  | some t =>
    rw [hopen] at h
    dsimp only at h
    have hs := consume_eq_some hopen
    cases hclose : consume cl (skipWs t) with
    | some r =>
      rw [hclose] at h
      cases h
      obtain ⟨w, rfl, hw⟩ := consume_skipWs hclose
      exact ⟨op :: (w ++ [cl]), by rw [hs]; simp, hempty w hw⟩
    | none =>
      rw [hclose] at h
      obtain ⟨m, hm, hitems⟩ := ih _ _ h
      obtain ⟨w, ht, hw⟩ := skipWs_split t
      rw [hm] at ht
      exact ⟨op :: ((w ++ m) ++ [cl]), by rw [hs, ht]; simp, hfull _ (hws w m hw hitems)⟩

/-- Behind an item of a container its closing octet stands, or a comma and more items. -/
theorem items_sound {cl : UInt8} {item u : Bytes} {parseItems : Bytes → Option Bytes}
    (hitem : ∀ w, Ws w → Derives p (item ++ w))
    (hmore : ∀ m ms, Derives p m → Derives p ms → Derives p (m ++ comma :: ms))
    (ih : ∀ s rest, parseItems s = some rest → ∃ m, s = m ++ cl :: rest ∧ Derives p m)
    (h : (match consume cl (skipWs u) with
      | some rest => some rest
      | none =>
        match consume comma (skipWs u) with
        | none => none
        | some s => parseItems s) = some rest) :
    ∃ m, item ++ u = m ++ cl :: rest ∧ Derives p m := by
  cases hclose : consume cl (skipWs u) with
  | some r =>
    rw [hclose] at h
    cases h
    obtain ⟨w, rfl, hw⟩ := consume_skipWs hclose
    exact ⟨item ++ w, by simp, hitem w hw⟩
  | none =>
    rw [hclose] at h
    dsimp only at h
    cases hcomma : consume comma (skipWs u) with
    | none =>
      rw [hcomma] at h
      cases h
    | some r =>
      rw [hcomma] at h
      obtain ⟨w, rfl, hw⟩ := consume_skipWs hcomma
      obtain ⟨ms, rfl, hms⟩ := ih _ _ h
      exact ⟨(item ++ w) ++ comma :: ms, by simp, hmore _ _ (hitem w hw) hms⟩

/-- Whitespace in front of the members or elements of a container. -/
theorem derives_ws (hw : Ws w) (h : Derives p m) :
    p ≠ .value → Derives p (w ++ m) := by
  have happend : ∀ {w'}, Ws w' → Ws (w ++ w') := fun hw' => List.forall_mem_append.mpr ⟨hw, hw'⟩
  induction h with
  | literal | number | string | emptyObject | object | emptyArray | array =>
    intro hne
    exact absurd rfl hne
  | member h₁ hk h₂ h₃ hv h₄ =>
    intro _
    rw [← List.append_assoc]
    exact .member (happend h₁) hk h₂ h₃ hv h₄
  | moreMembers hm hms ihm ihms =>
    intro hne
    rw [← List.append_assoc]
    exact .moreMembers (ihm hne) hms
  | element h₁ hv h₂ =>
    intro _
    rw [← List.append_assoc]
    exact .element (happend h₁) hv h₂
  | moreElements hm hms ihm ihms =>
    intro hne
    rw [← List.append_assoc]
    exact .moreElements (ihm hne) hms

theorem parseMembers_sound (ih : ValidatorSound fuel) (s rest : Bytes)
    (h : parseMembers (fuel + 1) s = some rest) :
    ∃ m, s = m ++ rbrace :: rest ∧ Derives .members m := by
  rw [parseMembers] at h
  cases hkey : (parseString (skipWs s)).bind fun s => consume colon (skipWs s) with
  | none =>
    rw [hkey] at h
    cases h
  | some t =>
    rw [hkey] at h
    dsimp only at h
    obtain ⟨u, hstring, hcolon⟩ := Option.bind_eq_some_iff.mp hkey
    obtain ⟨w₁, hs, hw₁⟩ := skipWs_split s
    obtain ⟨k, hk, hchars⟩ := parseString_sound hstring
    obtain ⟨w₂, rfl, hw₂⟩ := consume_skipWs hcolon
    rw [hk] at hs
    cases hvalue : parseValue fuel t with
    | none =>
      rw [hvalue] at h
      cases h
    | some u =>
      rw [hvalue] at h
      dsimp only at h
      obtain ⟨w₃, v, rfl, hw₃, hv⟩ := ih.value _ _ hvalue
      have hitem : s = w₁ ++ quote :: (k ++ quote :: (w₂ ++ colon :: (w₃ ++ v))) ++ u := by
        rw [hs]
        simp
      rw [hitem]
      refine items_sound (fun w₄ hw₄ => ?_) (fun _ _ => .moreMembers) ih.members h
      simpa using Derives.member hw₁ hchars hw₂ hw₃ hv hw₄

theorem parseElements_sound (ih : ValidatorSound fuel) (s rest : Bytes)
    (h : parseElements (fuel + 1) s = some rest) :
    ∃ m, s = m ++ rbracket :: rest ∧ Derives .elements m := by
  rw [parseElements] at h
  cases hvalue : parseValue fuel s with
  | none =>
    rw [hvalue] at h
    cases h
  | some u =>
    rw [hvalue] at h
    dsimp only at h
    obtain ⟨w₁, v, rfl, hw₁, hv⟩ := ih.value _ _ hvalue
    rw [← List.append_assoc]
    refine items_sound (fun w₂ hw₂ => ?_) (fun _ _ => .moreElements) ih.elements h
    rw [List.append_assoc]
    exact .element hw₁ hv hw₂

/-- The five functions together, by induction on the budget. -/
theorem validator_sound (fuel : Nat) : ValidatorSound fuel := by
  induction fuel with
  | zero =>
    constructor <;> intro s rest h <;> cases h
  | succ fuel ih =>
    refine ⟨parseValue_sound ih, ?_, parseMembers_sound ih, ?_, parseElements_sound ih⟩
    · intro s rest h
      exact container_sound (fun w hw => .emptyObject hw) (fun m hm => .object hm)
        (fun w m hw hm => derives_ws hw hm (by simp)) ih.members (by rw [parseObject] at h; exact h)
    · intro s rest h
      exact container_sound (fun w hw => .emptyArray hw) (fun m hm => .array hm)
        (fun w m hw hm => derives_ws hw hm (by simp)) ih.elements (by rw [parseArray] at h; exact h)

/-- **WHAT `valid_object` ACCEPTS IS AN OBJECT TEXT**, up to whitespace around it. -/
theorem validObject_sound {maxDepth : Nat} {value : Bytes} (h : validObject maxDepth value = true) :
    Document value := by
  unfold validObject at h
  rw [Bool.and_eq_true] at h
  obtain ⟨-, h⟩ := h
  cases hparse : parseObject (jsonFuel value) (skipWs value) with
  | none =>
    rw [hparse] at h
    cases h
  | some rest =>
    rw [hparse] at h
    dsimp only at h
    obtain ⟨w₁, hs, hw₁⟩ := skipWs_split value
    obtain ⟨w₂, hrest, hw₂⟩ := skipWs_split rest
    obtain ⟨v, hsplit, hv⟩ := (validator_sound _).object _ _ hparse
    rw [List.isEmpty_iff.mp h, List.append_nil] at hrest
    rw [hsplit] at hs
    refine ⟨w₁, v, rest, hs, hw₁, hv, ?_⟩
    rwa [hrest]

/-- The brace scan of a validated object that starts and ends with its braces takes all of it. -/
theorem parseBalanced_of_validObject {maxDepth : Nat} {value : Bytes}
    (h : validObject maxDepth value = true) (hhead : value.head? = some lbrace)
    (hlast : value.getLast? = some rbrace) :
    parseBalanced lbrace rbrace value = some (value, []) := by
  have hv := (validObject_sound h).of_braces hhead hlast
  cases value with
  | nil => cases hhead
  | cons c value =>
    have hc : c = lbrace := by
      rw [List.head?_cons, Option.some_inj] at hhead
      exact hhead
    rw [parseBalanced, if_pos hc]
    exact balancedScan_object hv hhead

end Ava.Core.Json
