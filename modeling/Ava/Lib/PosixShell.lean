/-
  Ava.Lib.PosixShell
  **THE WORDS OF A SIMPLE SHELL COMMAND**, after the POSIX Shell Command Language: quoting
  (2.2), token recognition (2.3), quote removal (2.6.7).  The text is one line in the C locale.

  The standard keeps quoting and tokenising apart: first every character is told whether it is
  quoted, then the unquoted ones decide where tokens end, and the quoting characters go last.
  So does this file:

    - §1 `quoting` marks each octet of the text;
    - §2 `recognise` cuts the marked text into words and operators;
    - §3 `removeQuotes`, the expansions a word is subject to, and `SimpleCommand`.
-/
import Mathlib.Data.List.Basic

namespace Ava.Lib.PosixShell

/-! ## §1. Quoting. -/

abbrev singleQuote : UInt8 := 39
abbrev doubleQuote : UInt8 := 34
abbrev backslash : UInt8 := 92
abbrev dollar : UInt8 := 36
abbrev backquote : UInt8 := 96
abbrev hash : UInt8 := 35
abbrev equals : UInt8 := 61
abbrev tilde : UInt8 := 126

/-- What one octet of the text is. -/
inductive Mark where
  /-- Not quoted. -/
  | plain (c : UInt8)
  /-- Quoted: it stands for itself. -/
  | literal (c : UInt8)
  /-- Inside double quotes, but with its special meaning. -/
  | special (c : UInt8)
  /-- A quotation mark or an escape character. -/
  | quoting (c : UInt8)
deriving Repr, DecidableEq

inductive Quote where
  | none | single | double
deriving Repr, DecidableEq

/-- The characters before which a backslash in double quotes is an escape character. -/
def escapable (c : UInt8) : Bool :=
  c == dollar || c == backquote || c == doubleQuote || c == backslash

/-- **QUOTING** (2.2.1 to 2.2.3), with the quotation that is open.  There is no answer when a
    quotation or an escape is not finished. -/
def quoting : Quote → List UInt8 → Option (List Mark)
  | .none, [] => some []
  | .single, [] => Option.none
  | .double, [] => Option.none
  | .none, c :: s =>
    if c = backslash then
      match s with
      | [] => Option.none
      | d :: s => (quoting .none s).map fun marks => .quoting c :: .literal d :: marks
    else if c = singleQuote then (quoting .single s).map (.quoting c :: ·)
    else if c = doubleQuote then (quoting .double s).map (.quoting c :: ·)
    else (quoting .none s).map (.plain c :: ·)
  | .single, c :: s =>
    if c = singleQuote then (quoting .none s).map (.quoting c :: ·)
    else (quoting .single s).map (.literal c :: ·)
  | .double, c :: s =>
    if c = doubleQuote then (quoting .none s).map (.quoting c :: ·)
    else if c = backslash then
      match s with
      | [] => Option.none
      | d :: s =>
        if escapable d = true then
          (quoting .double s).map fun marks => .quoting c :: .literal d :: marks
        else (quoting .double s).map fun marks => .literal c :: .literal d :: marks
    else if c = dollar ∨ c = backquote then (quoting .double s).map (.special c :: ·)
    else (quoting .double s).map (.literal c :: ·)

/-! ## §2. Token recognition. -/

/-- `<blank>` of the C locale. -/
def isBlank (c : UInt8) : Bool := c == 32 || c == 9

/-- The operators of 2.10.2 and the redirection operators. -/
def operators : List (List UInt8) :=
  [[38, 38], [124, 124], [59, 59], [60, 60], [62, 62], [60, 38], [62, 38], [60, 62],
    [60, 60, 45], [62, 124], [38], [124], [59], [60], [62], [40], [41]]

/-- Whether an unquoted character can begin an operator. -/
def beginsOperator (c : UInt8) : Bool := operators.contains [c]

inductive Token where
  | word (marks : List Mark)
  | operator (text : List UInt8)
deriving Repr, DecidableEq

/-- The token that is being read. -/
inductive Reading where
  | between
  | word (marks : List Mark)
  | operator (text : List UInt8)
  | comment
deriving Repr, DecidableEq

/-- Rules 2, 4, 5 and 8: the character belongs to the token that is being read. -/
def Reading.extend : Reading → Mark → Option Reading
  | .between, _ => Option.none
  | .word marks, .plain c =>
    if beginsOperator c || isBlank c then Option.none else some (.word (marks ++ [.plain c]))
  | .word marks, m => some (.word (marks ++ [m]))
  | .operator text, .plain c =>
    if operators.contains (text ++ [c]) then some (.operator (text ++ [c])) else Option.none
  | .operator _, _ => Option.none
  | .comment, _ => some .comment

/-- Rules 6, 7, 9 and 10: what a character begins. -/
def Reading.begin : Mark → Reading
  | .plain c =>
    if beginsOperator c then .operator [c]
    else if isBlank c then .between
    else if c = hash then .comment
    else .word [.plain c]
  | m => .word [m]

/-- Delimiting what has been read. -/
def Reading.delimit : Reading → List Token
  | .between => []
  | .word marks => [.word marks]
  | .operator text => [.operator text]
  | .comment => []

/-- **TOKEN RECOGNITION** (2.3). -/
def recognise : Reading → List Mark → List Token
  | reading, [] => reading.delimit
  | reading, m :: marks =>
    match reading.extend m with
    | some reading => recognise reading marks
    | Option.none => reading.delimit ++ recognise (.begin m) marks

/-! ## §3. Words. -/

/-- **QUOTE REMOVAL** (2.6.7). -/
def removeQuotes (word : List Mark) : List UInt8 :=
  word.filterMap fun
    | .plain c => some c
    | .literal c => some c
    | .special c => some c
    | .quoting _ => Option.none

@[simp] theorem removeQuotes_append (v w : List Mark) :
    removeQuotes (v ++ w) = removeQuotes v ++ removeQuotes w := List.filterMap_append

/-- Unquoted text stands for itself. -/
theorem removeQuotes_plain (text : List UInt8) : removeQuotes (text.map .plain) = text := by
  induction text with
  | nil => rfl
  | cons c text ih =>
    show c :: removeQuotes (text.map .plain) = c :: text
    rw [ih]

/-- Parameter, command and arithmetic expansion, pathname expansion (2.6.2 to 2.6.6): an
    unquoted character of a pattern, or one that introduces an expansion. -/
def Mark.expands : Mark → Bool
  | .plain c => c == dollar || c == backquote || c == 42 || c == 63 || c == 91
  | .special _ => true
  | _ => false

/-- No word expansion (2.6) applies: nor does tilde expansion, which reads the first character. -/
def Unexpanded (word : List Mark) : Prop :=
  (∀ m ∈ word, m.expands = false) ∧ word.head? ≠ some (.plain tilde)

/-- Names (3.216 of the Base Definitions). -/
def nameStart (c : UInt8) : Bool := (65 ≤ c && c ≤ 90) || (97 ≤ c && c ≤ 122) || c == 95

def nameChar (c : UInt8) : Bool := nameStart c || (48 ≤ c && c ≤ 57)

/-- An assignment word (rule 7 of 2.10.2): an unquoted name before an unquoted equals sign. -/
def AssignmentWord (word : List Mark) : Prop :=
  ∃ c name rest, word = (c :: name).map .plain ++ .plain equals :: rest ∧
    nameStart c = true ∧ ∀ d ∈ name, nameChar d = true

/-- The reserved words (2.4) but for the three that are single characters. -/
def reservedNames : List String :=
  ["case", "do", "done", "elif", "else", "esac", "fi", "for", "if", "in", "then", "until", "while"]

/-- A reserved word: it is one only when no character of it is quoted. -/
def ReservedWord (word : List Mark) : Prop :=
  word ∈ [[.plain 33], [.plain 123], [.plain 125]] ∨
    ∃ name ∈ reservedNames, word = name.toUTF8.data.toList.map .plain

/-- **THE TEXT IS ONE SIMPLE COMMAND** (2.9.1) made of these words: there is no operator in it,
    so no redirection, no word is subject to an expansion, and the first one is a command name. -/
structure SimpleCommand (text : List UInt8) (words : List (List Mark)) : Prop where
  recognised : ∃ marks, quoting .none text = some marks ∧
    recognise .between marks = words.map .word
  unexpanded : ∀ word ∈ words, Unexpanded word
  named : ∃ first rest, words = first :: rest ∧ ¬ AssignmentWord first ∧ ¬ ReservedWord first

end Ava.Lib.PosixShell
