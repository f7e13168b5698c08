/-
  Ava.Tools.Glob
  **GLOB PATTERNS** (`glob_matches` of `tools/search_tools.cpp`).  The matcher fills a table whose rows
  are the ends of the pattern and whose columns are the ends of the text, the last ones first.  A cell
  is to say whether that end of the text matches that end of the pattern.

  For `**/` a cell depends on one that may be far to its right, behind the next slash.  The loop carries
  this one along, and the invariant of a row says which cell it is.

    - §1 the table; §2 the language of a pattern; §3 one row; §4 `glob_matches_iff_mem_language`.
-/
import Ava.Core.Prelude
import Mathlib.Computability.Language

namespace Ava.Tools.Glob

open Ava.Core
open scoped Computability

/-! ## §1. The table. -/

abbrev star : UInt8 := 42
abbrev slash : UInt8 := 47
abbrev question : UInt8 := 63

/-- `kMaxGlobMatchCells`. -/
def maxGlobMatchCells : Nat := 512 * 1024

/-- A row from a column to the end of the text. -/
abbrev Row := List Bool

/-- `at(_, text_index) != 0` for the first column of the row. -/
def here (row : Row) : Bool := row.headD false

/-- `globstar_directory`, where the pattern goes on with `ch :: rest`. -/
def globstarDirectory (ch : UInt8) (rest : Bytes) : Bool :=
  ch == star && rest.head? == some star && rest.tail.head? == some slash

/-- One cell.  `c` is the octet of the text, if there is one; `right` is the cell to the right, `diagonal`
    that to the right in the row below, and `one`, `two` and `three` are the rows below. -/
def cell (ch : UInt8) (rest : Bytes) (c : Option UInt8)
    (directoryPrefixMatch right diagonal one two three : Bool) : Bool :=
  if ch = star then
    if rest.head? = some star then
      if rest.tail.head? = some slash then
        three || (c.isSome && c != some slash && directoryPrefixMatch)
      else two || (c.isSome && right)
    else one || (c.isSome && c != some slash && right)
  else if ch = question then c.isSome && c != some slash && diagonal
  else c == some ch && diagonal

/-- The inner loop: a row and the last `directory_prefix_match`. -/
def fillRow (ch : UInt8) (rest : Bytes) : Bytes → Row → Row → Row → Row × Bool
  | [], one, two, three => ([cell ch rest none false false false (here one) (here two) (here three)], false)
  | c :: text, one, two, three =>
    let done := fillRow ch rest text one.tail two.tail three.tail
    let directoryPrefixMatch :=
      if globstarDirectory ch rest && c == slash then here done.1 else done.2
    (cell ch rest (some c) directoryPrefixMatch (here done.1) (here one.tail) (here one) (here two)
      (here three) :: done.1, directoryPrefixMatch)

/-- The row of the empty pattern. -/
def lastRow (text : Bytes) : Row := List.replicate text.length false ++ [true]

/-- The outer loop: the rows of all ends of the pattern, the longest first.  The last row stands for
    those that are not there, which are not read. -/
def fillTable (text : Bytes) : Bytes → List Row
  | [] => [lastRow text]
  | ch :: rest =>
    let below := fillTable text rest
    (fillRow ch rest text (below.getD 0 (lastRow text)) (below.getD 1 (lastRow text))
      (below.getD 2 (lastRow text))).1 :: below

/-- `glob_matches`. -/
def globMatches (pattern text : Bytes) : Result Bool :=
  if maxGlobMatchCells / (text.length + 1) < pattern.length + 1 then
    .error (({ category := .invalidArgument, message := ascii "glob match exceeds maximum complexity" } :
      Error).withContext "max_cells" (decimal maxGlobMatchCells))
  else .ok (here ((fillTable text pattern).headD []))

/-! ## §2. The language of a pattern. -/

inductive Token where
  | directories | anything | segment | one
  | literal (c : UInt8)
deriving Repr, DecidableEq

/-- A pattern read from left to right. -/
def tokens : Bytes → List Token
  | 42 :: 42 :: 47 :: rest => .directories :: tokens rest
  | 42 :: 42 :: rest => .anything :: tokens rest
  | 42 :: rest => .segment :: tokens rest
  | 63 :: rest => .one :: tokens rest
  | c :: rest => .literal c :: tokens rest
  | [] => []

/-- A segment that is not empty, and its slash. -/
def directory : Language UInt8 := {s | ∃ name, name ≠ [] ∧ slash ∉ name ∧ s = name ++ [slash]}

/-- Octets of a class, any number of them and exactly one. -/
def run (P : UInt8 → Prop) : Language UInt8 := {s | ∀ c ∈ s, P c}

def letter (P : UInt8 → Prop) : Language UInt8 := {s | ∃ c, P c ∧ s = [c]}

/-- What a token stands for. -/
def Token.language : Token → Language UInt8
  | .directories => directory∗
  | .anything => run fun _ => True
  | .segment => run (· ≠ slash)
  | .one => letter (· ≠ slash)
  | .literal c => letter (· = c)

def language (pattern : Bytes) : Language UInt8 := ((tokens pattern).map Token.language).prod

section

variable {L : Language UInt8} {P : UInt8 → Prop} {text : Bytes}

theorem mem_letter_mul : text ∈ letter P * L ↔ ∃ c rest, text = c :: rest ∧ P c ∧ rest ∈ L := by
  rw [Language.mem_mul]
  constructor
  · rintro ⟨_, ⟨c, hc, rfl⟩, rest, hrest, rfl⟩
    exact ⟨c, rest, rfl, hc, hrest⟩
  · rintro ⟨c, rest, rfl, hc, hrest⟩
    exact ⟨[c], ⟨c, hc, rfl⟩, rest, hrest, rfl⟩

/-- A run is empty or begins with an octet of its class. -/
theorem mem_run_mul :
    text ∈ run P * L ↔ text ∈ L ∨ ∃ c rest, text = c :: rest ∧ P c ∧ rest ∈ run P * L := by
  simp only [Language.mem_mul]
  constructor
  · rintro ⟨_ | ⟨c, s⟩, hs, u, hu, rfl⟩
    · exact .inl hu
    · obtain ⟨hc, hs⟩ := List.forall_mem_cons.mp hs
      exact .inr ⟨c, s ++ u, rfl, hc, s, hs, u, hu, rfl⟩
  · rintro (h | ⟨c, _, rfl, hc, s, hs, u, hu, rfl⟩)
    · exact ⟨[], List.forall_mem_nil _, text, h, rfl⟩
    · exact ⟨c :: s, List.forall_mem_cons.mpr ⟨hc, hs⟩, u, hu, rfl⟩

/-- The text has a slash, and what stands behind the first one is in the language. -/
def BehindSlash (L : Language UInt8) (text : Bytes) : Prop :=
  ∃ name rest, text = name ++ slash :: rest ∧ slash ∉ name ∧ rest ∈ L

/-- A directory is a segment up to the first slash, and it is not empty when the text does not begin
    with one. -/
theorem mem_directories_mul :
    text ∈ directory∗ * L ↔
      text ∈ L ∨ (∃ c u, text = c :: u ∧ c ≠ slash) ∧ BehindSlash (directory∗ * L) text := by
  nth_rewrite 1 [← Language.one_add_self_mul_kstar_eq_kstar]
  rw [add_mul, one_mul, mul_assoc, Language.mem_add, Language.mem_mul]
  refine or_congr_right ⟨?_, ?_⟩
  · rintro ⟨_, ⟨_ | ⟨c, name⟩, hne, hname, rfl⟩, rest, hrest, rfl⟩
    · exact absurd rfl hne
    · exact ⟨⟨c, _, rfl, fun h => hname (h ▸ List.mem_cons_self)⟩, c :: name, rest,
        List.append_assoc _ _ _, hname, hrest⟩
  · rintro ⟨⟨c, _, htext, hc⟩, name, rest, rfl, hname, hrest⟩
    refine ⟨name ++ [slash], ⟨name, ?_, hname, rfl⟩, rest, hrest, List.append_assoc _ _ _⟩
    rintro rfl
    cases htext
    exact hc rfl

theorem language_eq {pattern : Bytes} (token : Token) (after : Bytes)
    (h : tokens pattern = token :: tokens after) : language pattern = token.language * language after := by
  rw [language, h, List.map_cons, List.prod_cons, language]

end

/-! ## §3. One row. -/

open Classical in
/-- The row of a language. -/
noncomputable def rowOf (L : Language UInt8) (text : Bytes) : Row :=
  text.tails.map fun s => decide (s ∈ L)

section

variable {L : Language UInt8} {c : UInt8} {text : Bytes}

@[simp] theorem here_rowOf : here (rowOf L text) = true ↔ text ∈ L := by
  cases text <;> simp [here, rowOf]

@[simp] theorem rowOf_cons_tail : (rowOf L (c :: text)).tail = rowOf L text := by
  simp [rowOf]

theorem rowOf_nil {b : Bool} (h : b = true ↔ [] ∈ L) : [b] = rowOf L [] := by
  rw [← here_rowOf, ← Bool.eq_iff_iff] at h
  rw [h]
  rfl

theorem rowOf_cons {b : Bool} (h : b = true ↔ c :: text ∈ L) :
    b :: rowOf L text = rowOf L (c :: text) := by
  rw [← here_rowOf, ← Bool.eq_iff_iff] at h
  rw [h]
  simp [rowOf, here]

theorem behindSlash_cons :
    BehindSlash L (c :: text) ↔ if c = slash then text ∈ L else BehindSlash L text := by
  constructor
  · rintro ⟨_ | ⟨d, name⟩, rest, htext, hname, hrest⟩
    · cases htext
      rwa [if_pos rfl]
    · cases htext
      rw [List.mem_cons, not_or] at hname
      rw [if_neg (Ne.symm hname.1)]
      exact ⟨name, rest, rfl, hname.2, hrest⟩
  · intro h
    split at h
    next hc => exact ⟨[], text, by rw [hc]; rfl, List.not_mem_nil, h⟩
    next hc =>
      obtain ⟨name, rest, rfl, hname, hrest⟩ := h
      exact ⟨c :: name, rest, rfl, List.not_mem_cons_of_ne_of_not_mem (Ne.symm hc) hname, hrest⟩

end

section

variable {ch : UInt8} {rest text : Bytes}

theorem cell_iff {directoryPrefixMatch right diagonal one two three : Bool}
    (hcarry : globstarDirectory ch rest = true →
      (directoryPrefixMatch = true ↔ BehindSlash (language (ch :: rest)) text))
    (hright : ∀ c u, text = c :: u → (right = true ↔ u ∈ language (ch :: rest)))
    (hdiagonal : ∀ c u, text = c :: u → (diagonal = true ↔ u ∈ language rest))
    (hone : one = true ↔ text ∈ language rest) (htwo : two = true ↔ text ∈ language rest.tail)
    (hthree : three = true ↔ text ∈ language rest.tail.tail) :
    cell ch rest text.head? directoryPrefixMatch right diagonal one two three = true ↔
      text ∈ language (ch :: rest) := by
  rw [cell]
  split_ifs with hstar hsecond hslash hquestion
  · have hcarried := hcarry (by simp [globstarDirectory, hstar, hsecond, hslash])
    obtain ⟨rest, rfl⟩ := List.head?_eq_some_iff.mp hsecond
    obtain ⟨rest, rfl⟩ := List.head?_eq_some_iff.mp hslash
    rw [language_eq .directories rest (by rw [hstar, tokens])] at hcarried ⊢
    rw [Bool.or_eq_true, hthree, Token.language, mem_directories_mul, Bool.and_eq_true, hcarried]
    refine or_congr_right (and_congr_left fun _ => ?_)
    cases text <;> simp
  · obtain ⟨rest, rfl⟩ := List.head?_eq_some_iff.mp hsecond
    rw [language_eq .anything rest (by rw [hstar, tokens]; rintro r rfl; exact hslash rfl)] at hright ⊢
    rw [Bool.or_eq_true, htwo, Token.language, mem_run_mul]
    cases text with
    | nil => simp
    | cons c u => simp [hright c u rfl, Token.language]
  · rw [language_eq .segment rest (by rw [hstar, tokens] <;> rintro r rfl <;> exact hsecond rfl)]
      at hright ⊢
    rw [Bool.or_eq_true, hone, Token.language, mem_run_mul]
    cases text with
    | nil => simp
    | cons c u => simp [hright c u rfl, Token.language]
  · rw [language_eq .one rest (by rw [hquestion, tokens]), Token.language, mem_letter_mul]
    cases text with
    | nil => simp
    | cons c u => simp [hdiagonal c u rfl]
  · rw [language_eq (.literal ch) rest (by rw [tokens] <;> simp_all), Token.language, mem_letter_mul]
    cases text with
    | nil => simp
    | cons c u => simp [hdiagonal c u rfl]

/-- **A ROW.**  When the rows below are those of their patterns, so is the one that is filled, and what
    the loop carries is the cell behind the next slash. -/
theorem fillRow_eq (ch : UInt8) (rest : Bytes) : ∀ text : Bytes,
    let filled := fillRow ch rest text (rowOf (language rest) text) (rowOf (language rest.tail) text)
      (rowOf (language rest.tail.tail) text)
    filled.1 = rowOf (language (ch :: rest)) text ∧ (globstarDirectory ch rest = true →
      (filled.2 = true ↔ BehindSlash (language (ch :: rest)) text)) := by
  intro text
  induction text with
  | nil =>
    have hcarried : false = true ↔ BehindSlash (language (ch :: rest)) [] := by simp [BehindSlash]
    refine ⟨rowOf_nil ?_, fun _ => hcarried⟩
    exact cell_iff (fun _ => hcarried) nofun nofun here_rowOf here_rowOf here_rowOf
  | cons c text ih =>
    simp only [fillRow, rowOf_cons_tail] at ih ⊢
    generalize fillRow ch rest text (rowOf (language rest) text) _ _ = done at ih
    obtain ⟨row, carried⟩ := done
    obtain ⟨rfl, hcarried⟩ := ih
    have hcarry : globstarDirectory ch rest = true →
        ((if globstarDirectory ch rest && c == slash then here (rowOf (language (ch :: rest)) text)
          else carried) = true ↔ BehindSlash (language (ch :: rest)) (c :: text)) := by
      intro hglobstar
      rw [behindSlash_cons]
      by_cases hc : c = slash <;> simp [hglobstar, hc, hcarried]
    refine ⟨rowOf_cons ?_, hcarry⟩
    refine cell_iff hcarry ?_ ?_ here_rowOf here_rowOf here_rowOf
    · rintro c u ⟨⟩
      exact here_rowOf
    · rintro c u ⟨⟩
      exact here_rowOf

end

/-! ## §4. The result. -/

theorem lastRow_eq : ∀ text : Bytes, lastRow text = rowOf (language []) text := by
  intro text
  induction text with
  | nil => exact rowOf_nil (by simp [language, tokens])
  | cons c text ih => exact (congrArg _ ih).trans (rowOf_cons (by simp [language, tokens]))

/-- The table holds the rows of all ends of the pattern. -/
theorem fillTable_eq (text : Bytes) : ∀ pattern : Bytes,
    fillTable text pattern = pattern.tails.map fun s => rowOf (language s) text := by
  intro pattern
  induction pattern with
  | nil => exact congrArg ([·]) (lastRow_eq text)
  | cons ch rest ih =>
    rw [fillTable, ih, List.tails_cons, List.map_cons, ← (fillRow_eq ch rest text).1, lastRow_eq]
    rcases rest with _ | ⟨c, _ | ⟨d, rest⟩⟩ <;> simp

/-- **GLOB MATCHING IS THE LANGUAGE OF THE PATTERN.** -/
theorem glob_matches_iff_mem_language (pattern text : Bytes)
    (hcells : (pattern.length + 1) * (text.length + 1) ≤ maxGlobMatchCells) :
    ∃ found, globMatches pattern text = .ok found ∧ (found = true ↔ text ∈ language pattern) := by
  have hlimit : ¬ maxGlobMatchCells / (text.length + 1) < pattern.length + 1 := by
    rw [Nat.not_lt, Nat.le_div_iff_mul_le (Nat.succ_pos _)]
    exact hcells
  refine ⟨_, if_neg hlimit, ?_⟩
  rw [fillTable_eq]
  cases pattern <;> exact here_rowOf

/-- A file two directories down. -/
theorem glob_matches_below :
    globMatches (ascii "src/**/*.cpp") (ascii "src/a/b/c.cpp") = .ok true ∧
      ascii "src/a/b/c.cpp" ∈ language (ascii "src/**/*.cpp") := by
  obtain ⟨found, hfound, hmem⟩ :=
    glob_matches_iff_mem_language (ascii "src/**/*.cpp") (ascii "src/a/b/c.cpp") (by decide)
  have hrun : globMatches (ascii "src/**/*.cpp") (ascii "src/a/b/c.cpp") = .ok true := by decide
  cases hfound.symm.trans hrun
  exact ⟨hrun, hmem.mp rfl⟩

end Ava.Tools.Glob
