/-
  Ava.Core.Prelude
  **BYTE STRINGS, ASCII PREDICATES AND ERRORS.**  The program works on `std::string` as
  plain octets: nothing in it decodes text before a scanner asks for it.  A string is
  therefore a `List UInt8`, and a POSITION in a string is the suffix that starts there;
  an index loop of the source becomes a structural recursion on that suffix.

    - `Bytes`, `ascii`, `decimal` : strings, source literals, `std::to_string`;
    - `isC0OrDel`, `isAsciiSpace` : the policies of `core/ascii.h`;
    - `Error`, `Result` : `ava::core::Error` with its category, message and context.
-/
import Mathlib.Algebra.Group.Int.Defs
import Mathlib.Algebra.GroupWithZero.Nat
import Mathlib.Data.List.Basic

namespace Ava.Core

/-! ## §1. Octets and strings. -/

/-- A `std::string`: a finite sequence of octets. -/
abbrev Bytes := List UInt8

/-- The equality test of strings, under one name for every definition that looks a string up. -/
instance Bytes.lawfulBEq : LawfulBEq Bytes := inferInstanceAs (LawfulBEq (List UInt8))

/-- A source literal: the octets of its UTF-8 text, ASCII everywhere in the program. -/
def ascii (s : String) : Bytes := s.toUTF8.data.toList

/-- `std::to_string` of an unsigned value. -/
def decimal (n : Nat) : Bytes :=
  (Nat.toDigits 10 n).map fun c => UInt8.ofNat c.toNat

/-- `std::to_string` of a `long long`. -/
def decimalInt : Int → Bytes
  | .ofNat n => decimal n
  | .negSucc n => 45 :: decimal (n + 1)

abbrev quote : UInt8 := 34
abbrev backslash : UInt8 := 92
abbrev lbrace : UInt8 := 123
abbrev rbrace : UInt8 := 125
abbrev lbracket : UInt8 := 91
abbrev rbracket : UInt8 := 93
abbrev colon : UInt8 := 58
abbrev comma : UInt8 := 44
abbrev minus : UInt8 := 45
abbrev lf : UInt8 := 10
abbrev cr : UInt8 := 13

/-! ## §2. Character classes (the C locale, and `core/ascii.h`). -/

/-- `std::isdigit`. -/
def isDigit (c : UInt8) : Bool := 48 ≤ c && c ≤ 57

/-- `std::isspace` in the C locale; also `is_ascii_space`. -/
def isAsciiSpace (c : UInt8) : Bool := c == 32 || (9 ≤ c && c ≤ 13)

/-- `is_json_whitespace`: the four octets RFC 8259 allows between tokens. -/
def isJsonWhitespace (c : UInt8) : Bool := c == 32 || c == 9 || c == lf || c == cr

/-- `is_hex_digit`. -/
def isHexDigit (c : UInt8) : Bool :=
  isDigit c || (97 ≤ c && c ≤ 102) || (65 ≤ c && c ≤ 70)

/-- `hex_value`; the source's `-1` is `none`. -/
def hexValue (c : UInt8) : Option Nat :=
  if isDigit c then some (c.toNat - 48)
  else if 97 ≤ c && c ≤ 102 then some (c.toNat - 97 + 10)
  else if 65 ≤ c && c ≤ 70 then some (c.toNat - 65 + 10)
  else none

/-- `is_c0_or_del`. -/
def isC0OrDel (c : UInt8) : Bool := c < 32 || c == 127

/-- `has_c0_or_del`. -/
def hasC0OrDel (value : Bytes) : Bool := value.any isC0OrDel

/-- Skipping forward over `std::isspace` octets. -/
def skipSpaces (s : Bytes) : Bytes := s.dropWhile isAsciiSpace

/-- Dropping trailing `std::isspace` octets. -/
def trimRight (s : Bytes) : Bytes := (s.reverse.dropWhile isAsciiSpace).reverse

/-- `ascii_lower`. -/
def asciiLower (c : UInt8) : UInt8 := if 65 ≤ c && c ≤ 90 then c + 32 else c

/-- `ascii_lower_copy`. -/
def asciiLowerCopy (value : Bytes) : Bytes := value.map asciiLower

/-- `std::string_view::find(needle) != npos`. -/
def containsText (needle : Bytes) : Bytes → Bool
  | [] => needle.isEmpty
  | c :: s => needle.isPrefixOf (c :: s) || containsText needle s

/-- What holds of the 256 values, told by their two hexadecimal digits, holds of every octet. -/
theorem forall_octet {P : UInt8 → Prop} (h : ∀ i < 16, ∀ j < 16, P (UInt8.ofNat (16 * i + j)))
    (c : UInt8) : P c := by
  have hlt := c.toNat_lt
  have hc := h (c.toNat / 16) (by omega) (c.toNat % 16) (by omega)
  rwa [Nat.div_add_mod, UInt8.ofNat_toNat] at hc

/-! ## §3. Errors. -/

inductive ErrorCategory where
  | invalidArgument | io | notFound | permissionDenied | configuration | provider
  | session | tool | unknown
deriving Repr, DecidableEq

inductive ErrorCode where
  | unspecified | canceled | providerEventLimit | bodyOutputLimit | fileSizeLimit
deriving Repr, DecidableEq

/-- `ava::core::Error`: the context is the list of key/value pairs in the order they
    were attached. -/
structure Error where
  category : ErrorCategory
  message : Bytes
  code : ErrorCode := .unspecified
  context : List (Bytes × Bytes) := []
deriving Repr, DecidableEq

/-- `Error::with_context`. -/
def Error.withContext (e : Error) (key : String) (value : Bytes) : Error :=
  { e with context := e.context ++ [(ascii key, value)] }

/-- `to_string` of a category. -/
def ErrorCategory.text : ErrorCategory → Bytes
  | .invalidArgument => ascii "invalid_argument"
  | .io => ascii "io"
  | .notFound => ascii "not_found"
  | .permissionDenied => ascii "permission_denied"
  | .configuration => ascii "configuration"
  | .provider => ascii "provider"
  | .session => ascii "session"
  | .tool => ascii "tool"
  | .unknown => ascii "unknown"

/-- `Error::format`. -/
def Error.format (e : Error) : Bytes :=
  e.category.text ++ ascii ": " ++ e.message ++
    e.context.flatMap fun item => ascii "\n  " ++ item.1 ++ ascii ": " ++ item.2

/-- An error of category `Session` with a literal message and no context yet. -/
def sessionError (message : String) : Error :=
  { category := .session, message := ascii message }

/-- `ava::core::Result<T>`. -/
abbrev Result (α : Type) := Except Error α

/-- Whether a `Result` carries a value. -/
def Result.isOk {α : Type} : Result α → Bool
  | .ok _ => true
  | .error _ => false

theorem Result.isOk_iff {α : Type} {r : Result α} : Result.isOk r = true ↔ ∃ a, r = .ok a := by
  cases r with
  | ok a | error e => simp [Result.isOk]

/-- A computation behind a check succeeds when the check finds nothing and the rest succeeds. -/
theorem ite_error_eq_ok {α : Type} {c : Prop} [Decidable c] {e : Error} {r : Result α} {a : α} :
    (if c then .error e else r) = .ok a ↔ ¬ c ∧ r = .ok a := by
  by_cases h : c
  · simp [h]
  · simp [h]

theorem bind_eq_ok_iff {α β : Type} {x : Result α} {f : α → Result β} {b : β} :
    (x >>= f) = .ok b ↔ ∃ a, x = .ok a ∧ f a = .ok b := by
  cases x with
  | error e | ok a => simp [bind, Except.bind]

/-- A computation that succeeds succeeds in both parts. -/
theorem bind_eq_ok {α β : Type} {x : Result α} {f : α → Result β} {b : β}
    (h : (x >>= f) = .ok b) : ∃ a, x = .ok a ∧ f a = .ok b := bind_eq_ok_iff.mp h

end Ava.Core
