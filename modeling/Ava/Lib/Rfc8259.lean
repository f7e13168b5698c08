/-
  Ava.Lib.Rfc8259
  **THE JSON GRAMMAR OF RFC 8259, OVER OCTETS.**

  The ABNF of the RFC as inductive predicates on octet strings.  Unescaped characters are any
  octets from 0x20 on other than the quote and the backslash, so that the grammar says nothing
  about UTF-8, which is a property of the text as a whole.

    - §1 terminals; §2 strings and numbers; §3 `Derives`, one relation for the recursive
      productions; §4 `Document`.
-/
import Mathlib.Data.List.Basic
import Mathlib.Data.UInt

namespace Ava.Lib.Rfc8259

abbrev Text := List UInt8

/-! ## §1. Terminals. -/

/-- `ws`: space, tab, line feed, carriage return. -/
def IsWs (c : UInt8) : Prop := c = 0x20 ∨ c = 0x09 ∨ c = 0x0A ∨ c = 0x0D

def Ws (w : Text) : Prop := ∀ c ∈ w, IsWs c

def IsDigit (c : UInt8) : Prop := 0x30 ≤ c ∧ c ≤ 0x39

def IsHex (c : UInt8) : Prop :=
  IsDigit c ∨ (0x41 ≤ c ∧ c ≤ 0x46) ∨ (0x61 ≤ c ∧ c ≤ 0x66)

/-- `1*DIGIT`. -/
def Digits (s : Text) : Prop := s ≠ [] ∧ ∀ c ∈ s, IsDigit c

/-! ## §2. Strings and numbers. -/

/-- The characters after a backslash that stand alone. -/
def simpleEscapes : Text := [0x22, 0x5C, 0x2F, 0x62, 0x66, 0x6E, 0x72, 0x74]

/-- `*char`: the body of a string. -/
inductive Chars : Text → Prop
  | nil : Chars []
  | unescaped {c : UInt8} {s : Text} (hctl : 0x20 ≤ c) (hquote : c ≠ 0x22) (hback : c ≠ 0x5C)
      (hs : Chars s) : Chars (c :: s)
  | escape {c : UInt8} {s : Text} (hc : c ∈ simpleEscapes) (hs : Chars s) :
      Chars (0x5C :: c :: s)
  | unicode {a b c d : UInt8} {s : Text} (ha : IsHex a) (hb : IsHex b) (hc : IsHex c)
      (hd : IsHex d) (hs : Chars s) : Chars (0x5C :: 0x75 :: a :: b :: c :: d :: s)

/-- `int`: zero, or digits that start with another one. -/
def IntPart (s : Text) : Prop :=
  s = [0x30] ∨ ∃ c t, s = c :: t ∧ IsDigit c ∧ c ≠ 0x30 ∧ ∀ d ∈ t, IsDigit d

/-- `[ frac ]`. -/
def FracPart (s : Text) : Prop := s = [] ∨ ∃ t, s = 0x2E :: t ∧ Digits t

/-- `[ exp ]`. -/
def ExpPart (s : Text) : Prop :=
  s = [] ∨ ∃ e sign t, s = e :: (sign ++ t) ∧ (e = 0x65 ∨ e = 0x45) ∧
    (sign = [] ∨ sign = [0x2B] ∨ sign = [0x2D]) ∧ Digits t

/-- `[ minus ] int [ frac ] [ exp ]`. -/
def Number (s : Text) : Prop :=
  ∃ sign i f e, s = sign ++ (i ++ (f ++ e)) ∧ (sign = [] ∨ sign = [0x2D]) ∧ IntPart i ∧
    FracPart f ∧ ExpPart e

/-! ## §3. Values. -/

/-- The recursive productions. -/
inductive Production where
  | value | members | elements

/-- `{`, `}`, `[`, `]`, `,`, `:` and the quote, with the whitespace the RFC allows around
    them written out. -/
inductive Derives : Production → Text → Prop
  | literal {s : Text} (h : s = [0x74, 0x72, 0x75, 0x65] ∨ s = [0x66, 0x61, 0x6C, 0x73, 0x65] ∨
      s = [0x6E, 0x75, 0x6C, 0x6C]) : Derives .value s
  | number {s : Text} (h : Number s) : Derives .value s
  | string {s : Text} (h : Chars s) : Derives .value (0x22 :: (s ++ [0x22]))
  | emptyObject {w : Text} (h : Ws w) : Derives .value (0x7B :: (w ++ [0x7D]))
  | object {m : Text} (h : Derives .members m) : Derives .value (0x7B :: (m ++ [0x7D]))
  | emptyArray {w : Text} (h : Ws w) : Derives .value (0x5B :: (w ++ [0x5D]))
  | array {m : Text} (h : Derives .elements m) : Derives .value (0x5B :: (m ++ [0x5D]))
  | member {w₁ k w₂ w₃ v w₄ : Text} (h₁ : Ws w₁) (hk : Chars k) (h₂ : Ws w₂) (h₃ : Ws w₃)
      (hv : Derives .value v) (h₄ : Ws w₄) :
      Derives .members (w₁ ++ 0x22 :: (k ++ 0x22 :: (w₂ ++ 0x3A :: (w₃ ++ (v ++ w₄)))))
  | moreMembers {m ms : Text} (hm : Derives .members m) (hms : Derives .members ms) :
      Derives .members (m ++ 0x2C :: ms)
  | element {w₁ v w₂ : Text} (h₁ : Ws w₁) (hv : Derives .value v) (h₂ : Ws w₂) :
      Derives .elements (w₁ ++ (v ++ w₂))
  | moreElements {m ms : Text} (hm : Derives .elements m) (hms : Derives .elements ms) :
      Derives .elements (m ++ 0x2C :: ms)

/-! ## §4. Documents. -/

/-- `JSON-text`: one value with whitespace around it. -/
def Document (s : Text) : Prop :=
  ∃ w₁ v w₂, s = w₁ ++ (v ++ w₂) ∧ Ws w₁ ∧ Derives .value v ∧ Ws w₂

theorem IsWs.ne {c d : UInt8} (h : IsWs c)
    (hd : d ≠ 0x20 ∧ d ≠ 0x09 ∧ d ≠ 0x0A ∧ d ≠ 0x0D) : c ≠ d := by
  intro heq
  subst heq
  obtain ⟨h1, h2, h3, h4⟩ := hd
  obtain h | h | h | h := h
  · exact h1 h
  · exact h2 h
  · exact h3 h
  · exact h4 h

/-- A text that starts with an opening brace is, as a document, a value that does. -/
theorem Document.of_brace {s : Text} (h : Document s) (hhead : s.head? = some 0x7B) :
    ∃ v w, s = v ++ w ∧ Derives .value v ∧ v.head? = some 0x7B ∧ Ws w := by
  obtain ⟨w₁, v, w₂, rfl, hw₁, hv, hw₂⟩ := h
  cases w₁ with
  | cons c w₁ =>
    rw [List.cons_append, List.head?_cons, Option.some_inj] at hhead
    exact absurd hhead (IsWs.ne (hw₁ c List.mem_cons_self) (by decide))
  | nil =>
    rw [List.nil_append] at hhead
    refine ⟨v, w₂, rfl, hv, ?_, hw₂⟩
    cases v with
    | cons c v =>
      rw [List.cons_append, List.head?_cons] at hhead
      rw [List.head?_cons, hhead]
    | nil =>
      cases w₂ with
      | nil => cases hhead
      | cons c w₂ =>
        rw [List.nil_append, List.head?_cons, Option.some_inj] at hhead
        exact absurd hhead (IsWs.ne (hw₂ c List.mem_cons_self) (by decide))

/-- A document that starts and ends with braces is a value with nothing around it. -/
theorem Document.of_braces {s : Text} (h : Document s) (hhead : s.head? = some 0x7B)
    (hlast : s.getLast? = some 0x7D) : Derives .value s := by
  obtain ⟨v, w, rfl, hv, -, hw⟩ := h.of_brace hhead
  have hwnil : w = [] := by
    by_contra hne
    rw [List.getLast?_append_of_ne_nil _ hne] at hlast
    exact (hw _ (List.mem_of_getLast? hlast)).ne (by decide) rfl
  rwa [hwnil, List.append_nil]

end Ava.Lib.Rfc8259
