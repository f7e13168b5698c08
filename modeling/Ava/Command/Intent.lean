/-
  Ava.Command.Intent
  **COMMAND TEXT AS AN ARGUMENT VECTOR** (`command/intent.cpp`).  A command that the model sends
  as shell text runs without a shell when its text needs none.  `parse_compatibility_command`
  decides that and splits the text in one pass over its octets.

    - §1 limits and classifiers; §2 the pass;
    - §3 the pass against the POSIX shell: what it has read so far is what quoting and token
      recognition have read so far;
    - §4 text that was made by quoting an argument vector.
-/
import Ava.Core.Prelude
import Ava.Lib.PosixShell

namespace Ava.Command

open Ava.Core
open Ava.Lib.PosixShell hiding backslash

/-! ## §1. Limits and classifiers. -/

/-- `CommandLimits`. -/
structure CommandLimits where
  maxRequestBytes : Nat := 16 * 1024
  maxArgumentBytes : Nat := 4 * 1024
  maxArgvEntries : Nat := 128
  maxPathEntries : Nat := 64
  maxPathBytes : Nat := 16 * 1024
  maxShebangBytes : Nat := 512
  maxShebangDepth : Nat := 4
deriving Repr, DecidableEq

def kHardMaxRequestBytes : Nat := 16 * 1024
def kHardMaxArgumentBytes : Nat := 4 * 1024
def kHardMaxArgvEntries : Nat := 128
def kHardMaxPathEntries : Nat := 64
def kHardMaxPathBytes : Nat := 16 * 1024
def kHardMaxShebangBytes : Nat := 512
def kHardMaxShebangDepth : Nat := 4

/-- `is_shell_metacharacter`. -/
def isShellMetacharacter (c : UInt8) : Bool :=
  (ascii ";&|<>`$()*?[]\x7b\x7d~#!").contains c

/-- `std::isalpha` of the C locale. -/
def isAlpha (c : UInt8) : Bool := (65 ≤ c && c ≤ 90) || (97 ≤ c && c ≤ 122)

/-- `std::isalnum` of the C locale. -/
def isAlnum (c : UInt8) : Bool := isAlpha c || isDigit c

/-- `is_assignment_word`: the text before the first equals sign is a name. -/
def isAssignmentWord (value : Bytes) : Bool :=
  if value.contains equals then
    match value.takeWhile (· != equals) with
    | [] => false
    | front :: name => (isAlpha front || front == 95) && name.all fun c => isAlnum c || c == 95
  else false

/-- `kShellWords`. -/
def kShellWords : List Bytes :=
  [".", ":", "alias", "bg", "bind", "break", "builtin", "caller", "case", "cd", "chdir",
    "command", "compgen", "complete", "compopt", "continue", "coproc", "declare", "dirs", "disown",
    "do", "done", "echo", "elif", "else", "enable", "esac", "eval", "exec", "exit", "export",
    "false", "fc", "fg", "fi", "for", "function", "getopts", "hash", "help", "history", "if", "in",
    "jobs", "kill", "let", "local", "logout", "mapfile", "popd", "printf", "pushd", "pwd", "read",
    "readarray", "readonly", "return", "select", "set", "shift", "shopt", "source", "suspend",
    "test", "then", "time", "times", "trap", "true", "type", "typeset", "ulimit", "umask",
    "unalias", "unset", "until", "wait", "while"].map ascii

/-- `is_shell_command_position_word`. -/
def isShellCommandPositionWord (value : Bytes) : Bool := kShellWords.contains value

/-- `command_error` of category `InvalidArgument`, without a context. -/
def invalidCommand (message : String) : Error :=
  { category := .invalidArgument, message := ascii message }

/-- `validate_limits`. -/
def validateLimits (limits : CommandLimits) : Result Unit :=
  let invalid (value hardMax : Nat) : Bool := value = 0 || value > hardMax
  if invalid limits.maxRequestBytes kHardMaxRequestBytes ||
      invalid limits.maxArgumentBytes kHardMaxArgumentBytes ||
      invalid limits.maxArgvEntries kHardMaxArgvEntries ||
      invalid limits.maxPathEntries kHardMaxPathEntries ||
      invalid limits.maxPathBytes kHardMaxPathBytes ||
      invalid limits.maxShebangBytes kHardMaxShebangBytes ||
      invalid limits.maxShebangDepth kHardMaxShebangDepth then
    .error (invalidCommand "command limits must be non-zero and within fixed safety bounds")
  else .ok ()

/-! ## §2. The pass. -/

/-- `CompatibilityParse`. -/
structure CompatibilityParse where
  argv : List Bytes
  requiresRawShell : Bool
deriving Repr, DecidableEq

/-- The variables of the loop. -/
structure Scan where
  argv : List Bytes := []
  requiresRawShell : Bool := false
  current : Bytes := []
  quote : Quote := .none
  tokenStarted : Bool := false
deriving Repr, DecidableEq

/-- `current.push_back(ch)`, with the token started. -/
def Scan.push (st : Scan) (c : UInt8) : Scan :=
  { st with current := st.current ++ [c], tokenStarted := true }

/-- `append_current`. -/
def appendCurrent (limits : CommandLimits) (st : Scan) : Result Scan :=
  if st.tokenStarted = false then .ok st
  else if st.current.length > limits.maxArgumentBytes then
    .error (invalidCommand "command argument exceeds the bounded field size")
  else if st.argv.length ≥ limits.maxArgvEntries then
    .error (invalidCommand "command request has too many argv entries")
  else .ok { st with argv := st.argv ++ [st.current], current := [], tokenStarted := false }

/-- The loop over the octets of the command. -/
def scanCommand (limits : CommandLimits) : Scan → Bytes → Result Scan
  | st, [] => .ok st
  | st, c :: s =>
    match st.quote with
    | .single =>
      if c = singleQuote then
        scanCommand limits { st with quote := .none, tokenStarted := true } s
      else scanCommand limits (st.push c) s
    | .double =>
      if c = doubleQuote then
        scanCommand limits { st with quote := .none, tokenStarted := true } s
      else if c = dollar ∨ c = backquote then
        scanCommand limits { st.push c with requiresRawShell := true } s
      else if c = backslash then
        match s with
        | [] => .error (invalidCommand "command request contains an unterminated escape")
        | next :: s =>
          if next = dollar ∨ next = backquote ∨ next = doubleQuote ∨
              next = backslash then
            scanCommand limits (st.push next) s
          else scanCommand limits ((st.push c).push next) s
      else scanCommand limits (st.push c) s
    | .none =>
      if c = backslash then
        match s with
        | [] => .error (invalidCommand "command request contains an unterminated escape")
        | next :: s => scanCommand limits (st.push next) s
      else if c = singleQuote then
        scanCommand limits { st with quote := .single, tokenStarted := true } s
      else if c = doubleQuote then
        scanCommand limits { st with quote := .double, tokenStarted := true } s
      else if isShellMetacharacter c = true then
        scanCommand limits { st.push c with requiresRawShell := true } s
      else if isAsciiSpace c = true then
        match appendCurrent limits st with
        | .error error => .error error
        | .ok st => scanCommand limits st s
      else scanCommand limits (st.push c) s

section

variable {limits : CommandLimits} {c : UInt8} {s : Bytes} {st : Scan}

theorem scanCommand_single (hq : st.quote = .single) :
    scanCommand limits st (c :: s) = if c = singleQuote then
      scanCommand limits { st with quote := .none, tokenStarted := true } s
      else scanCommand limits (st.push c) s := by
  cases st
  cases hq
  rfl

/-- Outside quotes: an escape, an opening quote and a space. -/
theorem scanCommand_none (hq : st.quote = .none) :
    (∀ c, scanCommand limits st (backslash :: c :: s) = scanCommand limits (st.push c) s) ∧
      scanCommand limits st (singleQuote :: s) =
        scanCommand limits { st with quote := .single, tokenStarted := true } s ∧
      ∀ {st'}, appendCurrent limits st = .ok st' →
        scanCommand limits st (32 :: s) = scanCommand limits st' s := by
  refine ⟨fun c => ?_, ?_, fun happend => ?_⟩
  all_goals
    rw [scanCommand.eq_def]
    simp only [hq, if_true]
  · exact if_neg (by decide)
  · rw [if_neg (by decide), if_neg (by decide), if_neg (by decide), if_neg (by decide),
      if_pos (by decide), happend]

end

/-- `parse_compatibility_command`. -/
def parseCompatibilityCommand (command : Bytes) (limits : CommandLimits) :
    Result CompatibilityParse :=
  match validateLimits limits with
  | .error error => .error error
  | .ok () =>
    if command = [] then .error (invalidCommand "command request must not be empty")
    else if command.length > limits.maxRequestBytes then
      .error (invalidCommand "command request exceeds the bounded input size")
    else if hasC0OrDel command = true then
      .error (invalidCommand "command request contains a NUL or forbidden control byte")
    else
      match scanCommand limits {} command with
      | .error error => .error error
      | .ok st =>
        if st.quote ≠ .none then
          .error (invalidCommand "command request contains an unterminated quote")
        else
          match appendCurrent limits st with
          | .error error => .error error
          | .ok st =>
            match st.argv with
            | [] =>
              .error (invalidCommand "command request must encode a non-empty executable argument")
            | front :: rest =>
              if front = [] then
                .error (invalidCommand "command request has an ambiguous empty executable argument")
              else
                .ok { argv := front :: rest
                      requiresRawShell := st.requiresRawShell || isAssignmentWord front ||
                        isShellCommandPositionWord front }

/-! ## §3. The pass against the shell. -/

/-- A mark of a word to which no expansion applies. -/
def Settled : Mark → Prop
  | .plain c => isShellMetacharacter c = false ∧ isAsciiSpace c = false
  | .special _ => False
  | _ => True

/-- What the pass has of a word is what the shell has of it, with the quotes removed. -/
inductive Reads (st : Scan) : Reading → Prop
  | between (hstarted : st.tokenStarted = false) (hcurrent : st.current = []) : Reads st .between
  | word (marks : List Mark) (hstarted : st.tokenStarted = true)
      (hcurrent : st.current = removeQuotes marks) (hsettled : ∀ m ∈ marks, Settled m) :
      Reads st (.word marks)

/-- The marks of the word that is being read. -/
def inWord : Reading → List Mark
  | .word marks => marks
  | _ => []

variable {st : Scan} {reading : Reading}

theorem Reads.current (h : Reads st reading) :
    st.current = removeQuotes (inWord reading) := by
  cases h with
  | between _ hcurrent | word marks _ hcurrent _ => exact hcurrent

theorem Reads.settled (h : Reads st reading) :
    ∀ m ∈ inWord reading, Settled m := by
  cases h with
  | between => exact List.forall_mem_nil _
  | word marks _ _ hsettled => exact hsettled

variable {c : UInt8}

/-- The metacharacters, evaluated once for the enumerations below. -/
theorem isShellMetacharacter_eq (c : UInt8) : isShellMetacharacter c =
    [59, 38, 124, 60, 62, 96, 36, 40, 41, 42, 63, 91, 93, 123, 125, 126, 35, 33].contains c := rfl

/-- The characters of the shell's operators, its blanks and its comment sign are all ones that
    the pass looks for. -/
theorem ordinary (hmeta : isShellMetacharacter c = false) (hspace : isAsciiSpace c = false) :
    beginsOperator c = false ∧ isBlank c = false ∧ c ≠ hash := by
  have key : ∀ c, isShellMetacharacter c = false → isAsciiSpace c = false →
      beginsOperator c = false ∧ isBlank c = false ∧ c ≠ hash := by
    simp only [isShellMetacharacter_eq]
    exact forall_octet (by decide)
  exact key c hmeta hspace

/-- A settled mark joins the word, and begins one when there is none. -/
theorem recognise_settled (h : Reads st reading) {m : Mark} (hm : Settled m) (marks : List Mark) :
    recognise reading (m :: marks) = recognise (.word (inWord reading ++ [m])) marks := by
  cases h with
  | between =>
    cases m with
    | plain c =>
      obtain ⟨hop, hblank, hhash⟩ := ordinary hm.1 hm.2
      simp [recognise, Reading.extend, Reading.delimit, Reading.begin, inWord, hop, hblank, hhash]
    | special c => exact hm.elim
    | literal c | quoting c => rfl
  | word acc =>
    cases m with
    | plain c =>
      obtain ⟨hop, hblank, -⟩ := ordinary hm.1 hm.2
      simp [recognise, Reading.extend, inWord, hop, hblank]
    | special c => exact hm.elim
    | literal c | quoting c => rfl

variable {st' : Scan}

/-- The word that the pass holds after one more mark. -/
theorem Reads.joined (h : Reads st reading) {m : Mark} (hm : Settled m)
    (hstarted : st'.tokenStarted = true) (hcurrent : st'.current = st.current ++ removeQuotes [m]) :
    Reads st' (.word (inWord reading ++ [m])) := by
  refine .word _ hstarted ?_ ?_
  · rw [hcurrent, h.current, removeQuotes_append]
  · exact List.forall_mem_append.mpr ⟨h.settled, List.forall_mem_singleton.mpr hm⟩

/-- **WHAT A STEP OF THE PASS CAN BE**, told by the marks that the shell puts on what it reads. -/
inductive Consumes (limits : CommandLimits) (st : Scan) (text : Bytes) : Scan → Bytes → Prop
  /-- One mark of a word. -/
  | mark (m : Mark) (st' : Scan) (rest : Bytes) (hm : Settled m)
      (hquoting : quoting st.quote text = (quoting st'.quote rest).map (m :: ·))
      (hargv : st'.argv = st.argv) (hraw : st'.requiresRawShell = st.requiresRawShell)
      (hstarted : st'.tokenStarted = true)
      (hcurrent : st'.current = st.current ++ removeQuotes [m]) : Consumes limits st text st' rest
  /-- A backslash and the character after it. -/
  | pair (m m' : Mark) (st' : Scan) (rest : Bytes) (hm : Settled m) (hm' : Settled m')
      (hquoting : quoting st.quote text =
        (quoting st'.quote rest).map fun marks => m :: m' :: marks)
      (hargv : st'.argv = st.argv) (hraw : st'.requiresRawShell = st.requiresRawShell)
      (hstarted : st'.tokenStarted = true)
      (hcurrent : st'.current = (st.current ++ removeQuotes [m]) ++ removeQuotes [m']) :
      Consumes limits st text st' rest
  /-- A space between words. -/
  | space (c : UInt8) (st' : Scan) (rest : Bytes) (hquote : st.quote = .none)
      (hspace : isAsciiSpace c = true) (htext : text = c :: rest)
      (happend : appendCurrent limits st = .ok st') : Consumes limits st text st' rest
  /-- Something that only a shell can run. -/
  | shell (st' : Scan) (rest : Bytes) (hraw : st'.requiresRawShell = true) :
      Consumes limits st text st' rest

theorem quoting_none_plain {s : Bytes} (hslash : c ≠ backslash) (hsingle : c ≠ singleQuote)
    (hdouble : c ≠ doubleQuote) :
    quoting .none (c :: s) = (quoting .none s).map (.plain c :: ·) := by
  rw [quoting.eq_def]
  simp only [if_neg hslash, if_neg hsingle, if_neg hdouble]

variable {limits : CommandLimits} {out : Scan}

theorem scanCommand_cons {s : Bytes} (h : scanCommand limits st (c :: s) = .ok out) :
    ∃ st' rest, scanCommand limits st' rest = .ok out ∧ rest <:+ s ∧
      Consumes limits st (c :: s) st' rest := by
  have hquotes : ∀ q, scanCommand limits { st with quote := q, tokenStarted := true } s = .ok out →
      quoting st.quote (c :: s) = (quoting q s).map (.quoting c :: ·) →
      ∃ st' rest, scanCommand limits st' rest = .ok out ∧ rest <:+ s ∧
        Consumes limits st (c :: s) st' rest := fun q h hquoting =>
    ⟨_, s, h, List.suffix_refl _, .mark (.quoting c) _ s trivial hquoting rfl rfl rfl
      (List.append_nil _).symm⟩
  rw [scanCommand.eq_def] at h
  dsimp only at h
  split at h
  next hq =>
    split at h
    next hc =>
      refine hquotes _ h ?_
      rw [hq, quoting, if_pos hc]
    next hc =>
      refine ⟨_, s, h, List.suffix_refl _, .mark (.literal c) _ s trivial ?_ rfl rfl rfl rfl⟩
      rw [hq, quoting, if_neg hc, Scan.push, hq]
  next hq =>
    split at h
    next hc =>
      refine hquotes _ h ?_
      rw [hq, quoting.eq_def]
      simp only [if_pos hc]
    next hc =>
      split at h
      next => exact ⟨_, s, h, List.suffix_refl _, .shell _ s rfl⟩
      next hspecial =>
        split at h
        next hslash =>
          cases s with
          | nil => cases h
          | cons next s =>
            dsimp only at h
            split at h
            next hesc =>
              refine ⟨_, s, h, List.suffix_cons _ _, .pair (.quoting c) (.literal next) _ s trivial trivial ?_ rfl rfl rfl ?_⟩
              · have : escapable next = true := by
                  simpa [escapable, or_assoc] using hesc
                rw [hq, quoting, if_neg hc, if_pos hslash, if_pos this, Scan.push, hq]
              · rw [show removeQuotes [Mark.quoting c] = [] from rfl, List.append_nil]
                rfl
            next hesc =>
              refine ⟨_, s, h, List.suffix_cons _ _, .pair (.literal c) (.literal next) _ s trivial trivial ?_ rfl rfl rfl rfl⟩
              have : ¬ escapable next = true := by
                simpa [escapable, or_assoc] using hesc
              rw [hq, quoting, if_neg hc, if_pos hslash, if_neg this, Scan.push, Scan.push, hq]
        next hslash =>
          refine ⟨_, s, h, List.suffix_refl _, .mark (.literal c) _ s trivial ?_ rfl rfl rfl rfl⟩
          rw [hq, quoting.eq_def]
          simp only [if_neg hc, if_neg hslash, if_neg hspecial, Scan.push, hq]
  next hq =>
    split at h
    next hslash =>
      cases s with
      | nil => cases h
      | cons next s =>
        refine ⟨_, s, h, List.suffix_cons _ _, .pair (.quoting c) (.literal next) _ s trivial trivial ?_ rfl rfl rfl ?_⟩
        · rw [hq, quoting, if_pos hslash, Scan.push, hq]
        · rw [show removeQuotes [Mark.quoting c] = [] from rfl, List.append_nil]
          rfl
    next hslash =>
      split at h
      next hsingle =>
        refine hquotes _ h ?_
        rw [hq, quoting.eq_def]
        simp only [if_neg hslash, if_pos hsingle]
      next hsingle =>
        split at h
        next hdouble =>
          refine hquotes _ h ?_
          rw [hq, quoting.eq_def]
          simp only [if_neg hslash, if_neg hsingle, if_pos hdouble]
        next hdouble =>
          split at h
          next => exact ⟨_, s, h, List.suffix_refl _, .shell _ s rfl⟩
          next hmeta =>
            split at h
            next hspace =>
              split at h
              next => cases h
              next st' happend => exact ⟨st', s, h, List.suffix_refl _, .space c st' s hq hspace rfl happend⟩
            next hspace =>
              rw [Bool.not_eq_true] at hmeta hspace
              refine ⟨_, s, h, List.suffix_refl _, .mark (.plain c) _ s ⟨hmeta, hspace⟩ ?_ rfl rfl rfl rfl⟩
              rw [hq, quoting_none_plain hslash hsingle hdouble, Scan.push, hq]

/-- **INDUCTION ON A PASS**: what holds at its end holds at every state from which it ends there,
    when every step carries it back. -/
theorem scan_induction {P : Scan → Bytes → Prop} (hend : P out [])
    (hstep : ∀ st c s st' rest, rest <:+ s → Consumes limits st (c :: s) st' rest →
      scanCommand limits st' rest = .ok out → P st' rest → P st (c :: s)) :
    ∀ {st : Scan} {text : Bytes}, scanCommand limits st text = .ok out → P st text := by
  intro st text
  induction hn : text.length using Nat.strongRecOn generalizing st text with
  | _ n ih =>
    intro h
    cases text with
    | nil =>
      cases h
      exact hend
    | cons c s =>
      obtain ⟨st', rest, hrest, hle, hcase⟩ := scanCommand_cons h
      have hlt : rest.length < n := hn ▸ Nat.lt_succ_of_le hle.length_le
      exact hstep st c s st' rest hle hcase hrest (ih _ hlt rfl hrest)

/-- The argument that `append_current` adds does not change whether a shell is needed. -/
theorem requiresRawShell_append (h : appendCurrent limits st = .ok st') :
    st'.requiresRawShell = st.requiresRawShell := by
  unfold appendCurrent at h
  split_ifs at h
  · rw [Except.ok.inj h]
  · rw [← Except.ok.inj h]

/-- A text that was found to need a shell still does. -/
theorem requiresRawShell_of_scan {text : Bytes} :
    scanCommand limits st text = .ok out → st.requiresRawShell = true →
      out.requiresRawShell = true := by
  refine scan_induction (P := fun st _ => st.requiresRawShell = true → _) id ?_
  intro st c s st' rest _ hcase _ ih hraw
  apply ih
  cases hcase with
  | mark _ _ _ _ _ _ hsame | pair _ _ _ _ _ _ _ _ hsame => rw [hsame, hraw]
  | space _ _ _ _ _ _ happend => rw [requiresRawShell_append happend, hraw]
  | shell _ _ hsame => exact hsame

/-- **WHAT THE REST OF THE TEXT ADDS**: the shell reads words there, and the pass ends with
    those words after the ones it has. -/
def Completes (st : Scan) (text : Bytes) (reading : Reading) (fin : Scan) : Prop :=
  ∃ (marks : List Mark) (words : List (List Mark)), quoting st.quote text = some marks ∧
    recognise reading marks = words.map .word ∧ fin.argv = st.argv ++ words.map removeQuotes ∧
      ∀ word ∈ words, ∀ m ∈ word, Settled m

/-- What is left at the end, or at a space, is the word that is being read. -/
theorem Reads.append (h : Reads st reading) (happend : appendCurrent limits st = .ok st') :
    st'.tokenStarted = false ∧ st'.current = [] ∧ st'.quote = st.quote ∧
      ∃ words : List (List Mark), reading.delimit = words.map .word ∧
        st'.argv = st.argv ++ words.map removeQuotes ∧ ∀ word ∈ words, ∀ m ∈ word, Settled m := by
  unfold appendCurrent at happend
  cases h with
  | between hstarted hcurrent =>
    rw [if_pos hstarted] at happend
    obtain rfl := Except.ok.inj happend
    exact ⟨hstarted, hcurrent, rfl, [], rfl, (List.append_nil _).symm,
      List.forall_mem_nil _⟩
  | word marks hstarted hcurrent hsettled =>
    rw [if_neg (by rw [hstarted]; exact Bool.noConfusion)] at happend
    split_ifs at happend
    obtain rfl := Except.ok.inj happend
    refine ⟨rfl, rfl, rfl, [marks], rfl, ?_, ?_⟩
    · show st.argv ++ [st.current] = st.argv ++ [removeQuotes marks]
      rw [hcurrent]
    · exact List.forall_mem_singleton.mpr hsettled

/-- The only space that is not a control character. -/
theorem space_plain (hspace : isAsciiSpace c = true) (hclean : isC0OrDel c = false) :
    c ≠ backslash ∧ c ≠ singleQuote ∧ c ≠ doubleQuote ∧ c = 32 := by
  have key : ∀ c, isAsciiSpace c = true → isC0OrDel c = false → c = 32 :=
    forall_octet (by decide)
  obtain rfl := key c hspace hclean
  decide

/-- A space ends the word. -/
theorem recognise_space (h : Reads st reading) (hc : c = 32) (marks : List Mark) :
    recognise reading (.plain c :: marks) = reading.delimit ++ recognise .between marks := by
  subst hc
  cases h with
  | between | word acc => rfl

/-- **THE PASS FOLLOWS THE SHELL.**  The induction is on the text that is left; `Reads` ties the
    word that the pass is building to the token that the shell is reading. -/
theorem Reads.completes {fin : Scan} (hout : out.requiresRawShell = false)
    (hquote : out.quote = .none) (hfin : appendCurrent limits out = .ok fin) :
    ∀ {st : Scan} {text : Bytes}, scanCommand limits st text = .ok out →
      ∀ reading, hasC0OrDel text = false → Reads st reading → Completes st text reading fin := by
  refine scan_induction (P := fun st text => ∀ reading, hasC0OrDel text = false →
    Reads st reading → Completes st text reading fin) ?_ ?_
  · intro reading _ hreads
    obtain ⟨-, -, -, words, hwords, hargv, hsettled⟩ := hreads.append hfin
    exact ⟨[], words, by rw [hquote]; rfl, hwords, hargv, hsettled⟩
  · intro st c s st' rest hle hcase hrest ih reading hclean hreads
    rw [hasC0OrDel, List.any_cons, Bool.or_eq_false_iff] at hclean
    have hcleanRest : hasC0OrDel rest = false := by
      rw [hasC0OrDel, List.any_eq_false]
      exact fun x hx => List.any_eq_false.mp hclean.2 x (hle.subset hx)
    cases hcase with
    | mark m _ _ hm hquoting hargv _ hstarted hcurrent =>
      obtain ⟨marks, words, hmarks, hwords, hfin, hsettled⟩ :=
        ih _ hcleanRest (hreads.joined hm hstarted hcurrent)
      refine ⟨m :: marks, words, ?_, ?_, by rw [hfin, hargv], hsettled⟩
      · rw [hquoting, hmarks]
        rfl
      · rw [recognise_settled hreads hm, hwords]
    | pair m m' _ _ hm hm' hquoting hargv _ hstarted hcurrent =>
      -- the shell also stands between the two marks, where the pass never does
      have hmiddle : Reads { st with current := st.current ++ removeQuotes [m]
                                     tokenStarted := true } (.word (inWord reading ++ [m])) :=
        hreads.joined hm rfl rfl
      obtain ⟨marks, words, hmarks, hwords, hfin, hsettled⟩ :=
        ih _ hcleanRest (hmiddle.joined hm' hstarted hcurrent)
      refine ⟨m :: m' :: marks, words, ?_, ?_, by rw [hfin, hargv], hsettled⟩
      · rw [hquoting, hmarks]
        rfl
      · rw [recognise_settled hreads hm, recognise_settled hmiddle hm', hwords]
    | space c' _ _ hq hspace htext happend =>
      obtain ⟨rfl, rfl⟩ := List.cons.inj htext
      obtain ⟨hstarted, hcurrent, hsame, before, hbefore, hargv, hsettled⟩ :=
        hreads.append happend
      obtain ⟨marks, words, hmarks, hwords, hfin, hsettled'⟩ :=
        ih _ hcleanRest (.between hstarted hcurrent)
      obtain ⟨hslash, hsingle, hdouble, hblank⟩ := space_plain hspace hclean.1
      rw [hsame, hq] at hmarks
      refine ⟨.plain c :: marks, before ++ words, ?_, ?_, ?_, ?_⟩
      · rw [hq, quoting_none_plain hslash hsingle hdouble, hmarks]
        rfl
      · rw [recognise_space hreads hblank, hbefore, hwords, List.map_append]
      · rw [hfin, hargv, List.append_assoc, List.map_append]
      · exact List.forall_mem_append.mpr ⟨hsettled, hsettled'⟩
    | shell _ _ hraw =>
      rw [requiresRawShell_of_scan hrest hraw] at hout
      cases hout

variable {argv : List Bytes}

/-- What the checks of `parse_compatibility_command` leave. -/
theorem parseCompatibilityCommand_inv {command : Bytes}
    (h : parseCompatibilityCommand command limits = .ok ⟨argv, false⟩) :
    hasC0OrDel command = false ∧ ∃ out fin front rest, scanCommand limits {} command = .ok out ∧
      out.quote = .none ∧ appendCurrent limits out = .ok fin ∧ fin.argv = argv ∧
        argv = front :: rest ∧ fin.requiresRawShell = false ∧ isAssignmentWord front = false ∧
          isShellCommandPositionWord front = false := by
  unfold parseCompatibilityCommand at h
  split at h
  next => cases h
  split_ifs at h with hempty hsize hclean
  rw [Bool.not_eq_true] at hclean
  split at h
  next => cases h
  next out hout =>
    split_ifs at h with hquote
    split at h
    next => cases h
    next fin hfin =>
      split at h
      next => cases h
      next front rest hargv =>
        split_ifs at h
        injection h with h
        injection h with hsame hraw
        rw [Bool.or_eq_false_iff, Bool.or_eq_false_iff] at hraw
        refine ⟨hclean, out, fin, front, rest, hout, not_not.mp hquote, hfin, ?_, hsame.symm,
          hraw.1.1, hraw.1.2, hraw.2⟩
        rw [hargv, hsame]

variable {word : List Mark}

theorem settled_unexpanded (h : ∀ m ∈ word, Settled m) : Unexpanded word := by
  have hplain : ∀ c, isShellMetacharacter c = false →
      (Mark.plain c).expands = false ∧ c ≠ tilde := by
    simp only [isShellMetacharacter_eq]
    exact forall_octet (by decide)
  constructor
  · intro m hm
    cases m with
    | plain c => exact (hplain c (h _ hm).1).1
    | special c => exact (h _ hm).elim
    | literal c | quoting c => rfl
  · intro hhead
    have hmem : Mark.plain tilde ∈ word := List.mem_of_head? hhead
    exact (hplain tilde (h _ hmem).1).2 rfl

/-- An assignment of the shell is one for the pass. -/
theorem isAssignmentWord_of_shell (h : AssignmentWord word) :
    isAssignmentWord (removeQuotes word) = true := by
  obtain ⟨c, name, rest, rfl, hc, hname⟩ := h
  have hstart : ∀ d, nameStart d = true → (isAlpha d || d == 95) = true ∧ d ≠ equals :=
    forall_octet (by decide)
  -- the pass puts the digits before the underscore, the shell after it
  have hchar : ∀ d, nameChar d = true → (isAlnum d || d == 95) = true ∧ d ≠ equals :=
    forall_octet (by decide)
  have htext : removeQuotes ((c :: name).map .plain ++ .plain equals :: rest) =
      (c :: name) ++ equals :: removeQuotes rest := by
    rw [removeQuotes_append, removeQuotes_plain]
    rfl
  have htake : ((c :: name) ++ equals :: removeQuotes rest).takeWhile (· != equals) = c :: name := by
    rw [List.takeWhile_append_of_pos, List.takeWhile_cons_of_neg (by simp), List.append_nil]
    intro d hd
    rcases List.mem_cons.mp hd with rfl | hd
    · exact bne_iff_ne.mpr (hstart d hc).2
    · exact bne_iff_ne.mpr (hchar d (hname d hd)).2
  rw [htext, isAssignmentWord, if_pos (by simp), htake]
  simp only [(hstart c hc).1, Bool.true_and, List.all_eq_true]
  exact fun d hd => (hchar d (hname d hd)).1

/-- A reserved word of the shell is a word that the pass knows. -/
theorem isShellCommandPositionWord_of_shell (h : ReservedWord word)
    (hsettled : ∀ m ∈ word, Settled m) : isShellCommandPositionWord (removeQuotes word) = true := by
  rcases h with h | ⟨name, hname, rfl⟩
  · -- the three of one character are characters that only a shell reads
    exfalso
    have hsign : ∀ c, word = [.plain c] → isShellMetacharacter c = true → False := by
      rintro c rfl hmeta
      have := (hsettled (.plain c) List.mem_cons_self).1
      rw [hmeta] at this
      cases this
    simp only [List.mem_cons, List.not_mem_nil, or_false] at h
    rcases h with h | h | h
    · exact hsign _ h (by decide)
    · exact hsign _ h (by decide)
    · exact hsign _ h (by decide)
  · rw [removeQuotes_plain]
    have key : ∀ name ∈ reservedNames, isShellCommandPositionWord (ascii name) = true := by
      decide
    exact key name hname

/-- **AN ARGUMENT VECTOR IS WHAT THE SHELL READS.** -/
theorem simpleCommand_of_parse {command : Bytes}
    (h : parseCompatibilityCommand command limits = .ok ⟨argv, false⟩) :
    ∃ words, SimpleCommand command words ∧ argv = words.map removeQuotes := by
  obtain ⟨hclean, out, fin, front, rest, hout, hquote, hfin, hsame, hargv, hraw, hassign, hword⟩ :=
    parseCompatibilityCommand_inv h
  rw [requiresRawShell_append hfin] at hraw
  obtain ⟨marks, words, hmarks, hwords, hall, hsettled⟩ :=
    Reads.completes hraw hquote hfin hout _ hclean (.between rfl rfl)
  have hargvWords : argv = words.map removeQuotes := by
    rw [← hsame, hall]
    rfl
  refine ⟨words, ⟨⟨marks, hmarks, hwords⟩, fun word hw => settled_unexpanded (hsettled word hw), ?_⟩,
    hargvWords⟩
  cases words with
  | nil =>
    rw [hargv] at hargvWords
    cases hargvWords
  | cons first others =>
    rw [hargv] at hargvWords
    obtain ⟨rfl, -⟩ := List.cons.inj hargvWords
    refine ⟨first, others, rfl, ?_, ?_⟩
    · intro hshell
      rw [isAssignmentWord_of_shell hshell] at hassign
      cases hassign
    · intro hshell
      rw [isShellCommandPositionWord_of_shell hshell (hsettled first List.mem_cons_self)] at hword
      cases hword

/-! ## §4. Quoted argument vectors. -/

/-- An argument between single quotes, with each quote in it written outside of them. -/
def quotedBody (argument : Bytes) : Bytes :=
  argument.flatMap fun c =>
    if c = singleQuote then [singleQuote, backslash, singleQuote, singleQuote] else [c]

def quoteArgument (argument : Bytes) : Bytes :=
  singleQuote :: (quotedBody argument ++ [singleQuote])

/-- The command text of an argument vector. -/
def quoteArgv : List Bytes → Bytes
  | [] => []
  | [argument] => quoteArgument argument
  | argument :: rest => quoteArgument argument ++ 32 :: quoteArgv rest

variable {limits : CommandLimits}

/-- Inside single quotes the pass reads the argument back, quote by quote. -/
theorem scanCommand_quotedBody (rest : Bytes) : ∀ (argument : Bytes) (st : Scan),
    st.quote = .single → st.tokenStarted = true →
      scanCommand limits st (quotedBody argument ++ singleQuote :: rest) =
        scanCommand limits { st with quote := .none, current := st.current ++ argument } rest
  | [], st, hq, hstarted => by
    show scanCommand limits st (singleQuote :: rest) = _
    rw [scanCommand_single hq, if_pos rfl, List.append_nil, hstarted]
  | c :: argument, st, hq, hstarted => by
    have ih := scanCommand_quotedBody rest argument (st.push c) hq rfl
    have hgoal : { st.push c with quote := .none, current := (st.push c).current ++ argument } =
        { st with quote := .none, current := st.current ++ c :: argument } := by
      simp [Scan.push, hstarted]
    rw [hgoal] at ih
    rw [← ih]
    by_cases hc : c = singleQuote
    · subst hc
      -- out of the quotes, an escaped quote, and into them again
      show scanCommand limits st (singleQuote :: backslash :: singleQuote :: singleQuote ::
        (quotedBody argument ++ singleQuote :: rest)) = _
      rw [scanCommand_single hq, if_pos rfl, (scanCommand_none rfl).1, (scanCommand_none rfl).2.1]
      simp only [Scan.push, hq]
    · show scanCommand limits st ((if c = singleQuote then _ else [c]) ++ quotedBody argument ++
        singleQuote :: rest) = _
      rw [if_neg hc, List.append_assoc]
      show scanCommand limits st (c :: (quotedBody argument ++ singleQuote :: rest)) = _
      rw [scanCommand_single hq, if_neg hc]

theorem scanCommand_quoteArgument (argument rest : Bytes) (argv : List Bytes) :
    scanCommand limits { argv } (quoteArgument argument ++ rest) =
      scanCommand limits { argv, current := argument, tokenStarted := true } rest := by
  show scanCommand limits { argv } (singleQuote :: ((quotedBody argument ++ [singleQuote]) ++ rest)) = _
  rw [(scanCommand_none rfl).2.1, List.append_assoc]
  exact scanCommand_quotedBody rest argument _ rfl rfl

/-- An argument within the limits is taken. -/
theorem appendCurrent_argument {argument : Bytes}
    (hbytes : argument.length ≤ limits.maxArgumentBytes)
    (hentries : argv.length < limits.maxArgvEntries) :
    appendCurrent limits { argv, current := argument, tokenStarted := true } =
      .ok { argv := argv ++ [argument] } := by
  unfold appendCurrent
  rw [if_neg Bool.noConfusion, if_neg (Nat.not_lt.mpr hbytes), if_neg (Nat.not_le.mpr hentries)]

/-- The pass over the text of an argument vector, up to the last argument. -/
theorem scanCommand_quoteArgv : ∀ (arguments argv : List Bytes), arguments ≠ [] →
    (∀ argument ∈ arguments, argument.length ≤ limits.maxArgumentBytes) →
      argv.length + arguments.length ≤ limits.maxArgvEntries →
        ∃ st, scanCommand limits { argv } (quoteArgv arguments) = .ok st ∧ st.quote = .none ∧
          appendCurrent limits st = .ok { argv := argv ++ arguments }
  | [], _, hne, _, _ => absurd rfl hne
  | [argument], argv, _, hbytes, hentries => by
    refine ⟨{ argv, current := argument, tokenStarted := true }, ?_, rfl, ?_⟩
    · have h : scanCommand limits { argv } (quoteArgument argument ++ []) = _ :=
        scanCommand_quoteArgument argument [] argv
      rw [List.append_nil] at h
      exact h
    · exact appendCurrent_argument (hbytes _ List.mem_cons_self) hentries
  | argument :: next :: rest, argv, _, hbytes, hentries => by
    obtain ⟨st, hst, hquote, happend⟩ := scanCommand_quoteArgv (next :: rest) (argv ++ [argument])
      (List.cons_ne_nil _ _) (fun a ha => hbytes a (List.mem_cons_of_mem _ ha)) (by
        simp only [List.length_append, List.length_cons, List.length_nil] at hentries ⊢
        omega)
    refine ⟨st, ?_, hquote, ?_⟩
    · show scanCommand limits { argv } (quoteArgument argument ++ 32 :: quoteArgv (next :: rest)) = _
      rw [scanCommand_quoteArgument, (scanCommand_none rfl).2.2
        (appendCurrent_argument (hbytes _ List.mem_cons_self) (by
          simp only [List.length_cons] at hentries
          omega))]
      exact hst
    · rw [happend, List.append_assoc]
      rfl

theorem hasC0OrDel_quoteArgv : ∀ {argv : List Bytes}, (∀ a ∈ argv, hasC0OrDel a = false) →
    hasC0OrDel (quoteArgv argv) = false := by
  have hone : ∀ {a : Bytes}, hasC0OrDel a = false → hasC0OrDel (quoteArgument a) = false := by
    intro a ha
    rw [hasC0OrDel, List.any_eq_false] at ha ⊢
    intro x hx
    simp only [quoteArgument, quotedBody, List.mem_cons, List.mem_append, List.mem_flatMap,
      List.not_mem_nil, or_false] at hx
    rcases hx with rfl | ⟨c, hc, hx⟩ | rfl
    · decide
    · split_ifs at hx
      · simp only [List.mem_cons, List.not_mem_nil, or_false] at hx
        rcases hx with rfl | rfl | rfl | rfl <;> decide
      · rw [List.mem_singleton.mp hx]
        exact ha c hc
    · decide
  intro argv
  induction argv with
  | nil => exact fun _ => rfl
  | cons a rest ih =>
    intro h
    have hfirst := hone (h a List.mem_cons_self)
    cases rest with
    | nil => exact hfirst
    | cons b rest =>
      have hrest := ih fun x hx => h x (List.mem_cons_of_mem _ hx)
      rw [hasC0OrDel, quoteArgv, List.any_append, List.any_cons, Bool.or_eq_false_iff,
        Bool.or_eq_false_iff]
      · exact ⟨hfirst, by decide, hrest⟩
      · exact nofun

/-- An argument vector that does not start with a word of the shell survives its quoting. -/
theorem parse_quoteArgv {first : Bytes} {rest : List Bytes}
    (hlimits : validateLimits limits = .ok ())
    (hclean : ∀ argument ∈ first :: rest, hasC0OrDel argument = false)
    (hbytes : ∀ argument ∈ first :: rest, argument.length ≤ limits.maxArgumentBytes)
    (hentries : (first :: rest).length ≤ limits.maxArgvEntries)
    (hrequest : (quoteArgv (first :: rest)).length ≤ limits.maxRequestBytes)
    (hempty : first ≠ []) (hassign : isAssignmentWord first = false)
    (hword : isShellCommandPositionWord first = false) :
    parseCompatibilityCommand (quoteArgv (first :: rest)) limits = .ok ⟨first :: rest, false⟩ := by
  obtain ⟨st, hst, hquote, happend⟩ := scanCommand_quoteArgv (first :: rest) []
    (List.cons_ne_nil _ _) hbytes (by rw [List.length_nil, Nat.zero_add]; exact hentries)
  have htext : quoteArgv (first :: rest) ≠ [] := by
    cases rest with
    | nil | cons => exact List.cons_ne_nil _ _
  unfold parseCompatibilityCommand
  rw [hlimits]
  dsimp only
  rw [if_neg htext, if_neg (Nat.not_lt.mpr hrequest),
    if_neg (by rw [hasC0OrDel_quoteArgv hclean]; exact Bool.noConfusion), hst]
  dsimp only
  rw [if_neg (not_not.mpr hquote), happend]
  dsimp only [List.nil_append]
  rw [if_neg hempty, hassign, hword]
  rfl

/-- **THE DIRECT LANE AGREES WITH THE SHELL.**  An argument vector that a command is given
    without a shell is the list of words that the shell reads in it; and the text made by
    quoting an argument vector gives that vector back. -/
theorem direct_argv_agrees_with_shell (limits : CommandLimits) :
    (∀ (command : Bytes) (argv : List Bytes),
      parseCompatibilityCommand command limits = .ok ⟨argv, false⟩ →
        ∃ words, SimpleCommand command words ∧ argv = words.map removeQuotes) ∧
    (∀ (first : Bytes) (rest : List Bytes), validateLimits limits = .ok () →
      (∀ argument ∈ first :: rest, hasC0OrDel argument = false) →
      (∀ argument ∈ first :: rest, argument.length ≤ limits.maxArgumentBytes) →
      (first :: rest).length ≤ limits.maxArgvEntries →
      (quoteArgv (first :: rest)).length ≤ limits.maxRequestBytes →
      first ≠ [] → isAssignmentWord first = false → isShellCommandPositionWord first = false →
        parseCompatibilityCommand (quoteArgv (first :: rest)) limits =
          .ok ⟨first :: rest, false⟩) :=
  ⟨fun _ _ h => simpleCommand_of_parse h, fun _ _ hlimits hclean hbytes hentries hrequest hempty
    hassign hword => parse_quoteArgv hlimits hclean hbytes hentries hrequest hempty hassign hword⟩

/-- A command with both kinds of quotes and an escaped space, and a vector with a quote in it. -/
theorem direct_argv_agrees_with_shell_git :
    (∃ words, SimpleCommand (ascii "git commit -m 'a b'\\ \"c\\\"\"") words ∧
      [ascii "git", ascii "commit", ascii "-m", ascii "a b c\""] = words.map removeQuotes) ∧
    parseCompatibilityCommand (quoteArgv [ascii "git", ascii "it's"]) {} =
      .ok ⟨[ascii "git", ascii "it's"], false⟩ :=
  ⟨(direct_argv_agrees_with_shell {}).1 _ _ (by decide),
    (direct_argv_agrees_with_shell {}).2 _ _ rfl (by decide) (by decide)
      (by decide) (by decide) (by decide) (by decide) (by decide)⟩

end Ava.Command
