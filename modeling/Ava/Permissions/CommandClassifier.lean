/-
  Ava.Permissions.CommandClassifier
  **THE TEXTUAL COMMAND CLASSIFIER** (`permissions/permission.cpp`).  `classify_command` splits the
  text of a command by itself and allows some programs when their arguments name nothing outside of
  the working directory.  The command is run with the argument vector of
  `parse_compatibility_command`, which splits the text by the rules of the shell.

    - §1 path arguments; §2 the classifier;
    - §3 `Allowed` : what an allowed command has passed;
    - §4 without a backslash the two argument vectors are one;
    - §5 the result.
-/
import Ava.Permissions.Rule

namespace Ava.Permissions.Textual

open Ava.Core Ava.Command
open Ava.Lib (Path)
open Ava.Lib.PosixShell (Quote singleQuote doubleQuote)

/-! ## §1. Path arguments. -/

/-- `contains_any`. -/
def containsAny (value : Bytes) (needles : List String) : Bool :=
  needles.any fun needle => containsText (ascii needle) value

/-- The elements that an iteration over a path visits. -/
def pathElements (path : Path) : List Bytes :=
  (if path.isAbsolute then [[Path.sep]] else []) ++ path.view.elements

/-- The loop of `is_secret_path`. -/
def hasSecretElement : Bool → List Bytes → Bool
  | _, [] => false
  | previousIsConfig, part :: parts =>
    let component := asciiLowerCopy part
    isOneOf component [".ssh", ".aws", ".gnupg"] ||
      (previousIsConfig && component == ascii "gcloud") ||
      hasSecretElement (component == ascii ".config") parts

/-- `is_secret_path`. -/
def isSecretPath (path : Path) : Bool :=
  let filename := asciiLowerCopy path.filename
  if hasSecretElement false (pathElements path.lexicallyNormal) then true
  else if filename = ascii ".env" ∨ (ascii ".env.").isPrefixOf filename = true then
    filename != ascii ".env.example"
  else if isOneOf filename [".npmrc", ".netrc", ".pypirc", ".gem/credentials",
      ".dockerconfigjson", "credentials.json", "auth.json", "config.json"] then
    filename != ascii "config.json" ||
      containsAny (asciiLowerCopy path.lexicallyNormal.text) ["/.docker/", "\\.docker\\"]
  else
    containsAny (asciiLowerCopy path.text) ["id_rsa", "id_ed25519", "id_ecdsa", "id_dsa", "/.ssh/",
      "\\.ssh\\", "/.aws/", "\\.aws\\", "/.gnupg/", "\\.gnupg\\", "credentials", "secret", "token"]

/-- `is_safe_relative_path_arg`. -/
def isSafeRelativePathArg (value : Bytes) : Bool :=
  if value.isEmpty || value.head? == some minus then true
  else
    let path : Path := ⟨value⟩
    !path.isAbsolute && !(pathElements path.lexicallyNormal).contains Path.dotdot &&
      !isSecretPath path

/-- `is_path_carrying_option`. -/
def isPathCarryingOption (value : Bytes) : Bool :=
  let lower := asciiLowerCopy value
  isOneOf lower ["-o", "--output", "--git-dir", "--work-tree", "--exec-path", "--config-env"] ||
    ["--output=", "--git-dir=", "--work-tree=", "--exec-path=", "--config-env="].any fun option =>
      (ascii option).isPrefixOf lower

/-- `has_unsafe_path_arg`. -/
def hasUnsafePathArg (argv : List Bytes) (start : Nat) : Bool :=
  (argv.drop start).any fun argument =>
    isPathCarryingOption argument || !isSafeRelativePathArg argument

/-! ## §2. The classifier. -/

/-- `is_dangerous_cmake_arg`. -/
def isDangerousCmakeArg (value : Bytes) : Bool := isOneOf value ["-e", "-p", "--install", "--open"]

/-- `is_simple_number`: digits, and at most one dot. -/
def isSimpleNumber (value : Bytes) : Bool :=
  (value.all fun c => isDigit c || c == 46) && value.count 46 ≤ 1 && value.any isDigit

/-- The option that makes `rg` run a program. -/
def isPreOption (argument : Bytes) : Bool :=
  argument == ascii "--pre" || (ascii "--pre=").isPrefixOf argument

def readOnlyDecision : PermissionDecision :=
  decision .allow "command is read-only or local verification" .low

/-- `classify_command`. -/
def classifyCommand (command : Bytes) : PermissionDecision :=
  match parseCommandArgv command with
  | .error reason => ⟨.deny, reason, .high⟩
  | .ok parsed =>
    let argv := parsed.map asciiLowerCopy
    let executable := argv.headD []
    let value := asciiLowerCopy command
    if containsAny value ["rm -rf", "rm -fr", "mkfs", ":()\x7b", "chmod -r 777 /", "chown -r ",
        "> /dev/"] then
      decision .deny "command matches a destructive pattern" .critical
    else if isOneOf executable ["bash", "sh", "zsh", "fish", "python", "python3", "node", "perl",
        "ruby", "php", "lua", "make", "ninja", "npm", "pnpm", "yarn", "bun"] then
      decision .deny "command can execute arbitrary scripts" .high
    else if containsAny value ["git push", "git reset --hard", "git clean", "npm publish",
        "pnpm publish", "yarn publish", "deploy", "terraform apply", "kubectl delete", "sudo "] then
      decision .ask "command can change external or destructive state" .high
    else if executable = ascii "git" ∧ 2 ≤ argv.length ∧
        isOneOf (argv.getD 1 []) ["status", "diff", "log"] = true then
      if hasUnsafePathArg parsed 2 = false then readOnlyDecision
      else decision .ask "git command includes unsafe path or output options" .medium
    else if executable = ascii "cmake" ∧ argv.any isDangerousCmakeArg = true then
      decision .deny "cmake script/file helpers are not allowed" .high
    else if isRepositoryControlledBuildOrTestCommand command then
      decision .ask "repository build or test execution requires explicit approval" .high
    else if executable = ascii "rg" ∧ argv.any isPreOption = true then
      decision .deny "rg preprocessors can execute arbitrary commands" .high
    else if executable = ascii "rg" ∧ hasUnsafePathArg parsed 1 = false then readOnlyDecision
    else if executable = ascii "ls" ∧ hasUnsafePathArg parsed 1 = false then readOnlyDecision
    else if executable = ascii "pwd" ∧ (argv.length = 1 ∨ argv.length = 2 ∧
        isOneOf (argv.getD 1 []) ["-p", "-l"] = true) then readOnlyDecision
    else if executable = ascii "sleep" ∧ argv.length = 2 ∧ isSimpleNumber (argv.getD 1 []) = true then
      readOnlyDecision
    else if executable = ascii "printenv" ∧ argv.length = 2 ∧
        isOneOf (argv.getD 1 []) ["pwd", "path", "home"] = true then readOnlyDecision
    else decision .ask "command risk is unknown" .medium

/-! ## §3. What an allowed command has passed. -/

/-- The argument vector that the classifier looks at. -/
def classifiedArgv (command : Bytes) : List Bytes :=
  match parseCommandArgv command with
  | .ok argv => argv
  | .error _ => []

/-- The program that the classifier takes the command for. -/
def classifiedProgram (command : Bytes) : Bytes :=
  ((classifiedArgv command).map asciiLowerCopy).headD []

/-- The arguments of a vector from the position that the classifier checks for the program. -/
def checkedArgs (program : Bytes) (argv : List Bytes) : List Bytes :=
  if program = ascii "git" then argv.drop 2
  else if program = ascii "rg" ∨ program = ascii "ls" then argv.drop 1
  else []

/-- An argument with which the program stays where it is. -/
structure Harmless (program argument : Bytes) : Prop where
  option : isPathCarryingOption argument = false
  path : isSafeRelativePathArg argument = true
  preprocessor : program = ascii "rg" → isPreOption (asciiLowerCopy argument) = false

variable {command : Bytes}

theorem safe_of_not_hasUnsafePathArg {argv : List Bytes} {start : Nat}
    (h : hasUnsafePathArg argv start = false) {argument : Bytes} (hmem : argument ∈ argv.drop start) :
    isPathCarryingOption argument = false ∧ isSafeRelativePathArg argument = true := by
  unfold hasUnsafePathArg at h
  rw [List.any_eq_false] at h
  simpa using h argument hmem

/-- The branch that an allowed command has taken. -/
theorem allow_cases {c : Prop} [Decidable c] {a b : PermissionDecision}
    (h : (if c then a else b).action = .allow) :
    (c ∧ a.action = .allow) ∨ (¬ c ∧ b.action = .allow) := by
  by_cases hc : c
  · exact .inl ⟨hc, by rwa [if_pos hc] at h⟩
  · exact .inr ⟨hc, by rwa [if_neg hc] at h⟩

/-- **AN ALLOWED COMMAND**: every argument that the classifier has seen where it looks is harmless. -/
theorem harmless_of_allow (h : (classifyCommand command).action = .allow) :
    ∀ argument ∈ checkedArgs (classifiedProgram command) (classifiedArgv command),
      Harmless (classifiedProgram command) argument := by
  intro argument hmem
  unfold classifiedProgram classifiedArgv at hmem ⊢
  unfold classifyCommand at h
  split at h
  next => cases h
  next argv hargv =>
    rw [hargv] at hmem ⊢
    dsimp only at h hmem ⊢
    generalize hprogram : (argv.map asciiLowerCopy).headD [] = program at h hmem ⊢
    -- nothing is checked for the programs that take no path
    have hunchecked : ∀ name, program = ascii name → checkedArgs (ascii name) argv = [] → False := by
      rintro name rfl hnone
      rw [hnone] at hmem
      exact List.not_mem_nil hmem
    iterate 3
      obtain ⟨-, h⟩ | ⟨-, h⟩ := allow_cases h
      · cases h
    obtain ⟨hgit, h⟩ | ⟨-, h⟩ := allow_cases h
    · obtain ⟨hsafe, -⟩ | ⟨-, h⟩ := allow_cases h
      · obtain ⟨rfl, -⟩ := hgit
        obtain ⟨hoption, hpath⟩ := safe_of_not_hasUnsafePathArg hsafe hmem
        exact ⟨hoption, hpath, fun h => absurd h (by decide)⟩
      · cases h
    obtain ⟨-, h⟩ | ⟨-, h⟩ := allow_cases h
    · cases h
    obtain ⟨-, h⟩ | ⟨-, h⟩ := allow_cases h
    · cases h
    obtain ⟨-, h⟩ | ⟨hpre, h⟩ := allow_cases h
    · cases h
    obtain ⟨⟨rfl, hsafe⟩, -⟩ | ⟨-, h⟩ := allow_cases h
    · obtain ⟨hoption, hpath⟩ := safe_of_not_hasUnsafePathArg hsafe hmem
      refine ⟨hoption, hpath, fun _ => ?_⟩
      have hnone := not_and.mp hpre rfl
      rw [Bool.not_eq_true, List.any_eq_false] at hnone
      have hlower := hnone _ (List.mem_map_of_mem (List.mem_of_mem_drop hmem))
      rwa [Bool.not_eq_true] at hlower
    obtain ⟨⟨rfl, hsafe⟩, -⟩ | ⟨-, h⟩ := allow_cases h
    · obtain ⟨hoption, hpath⟩ := safe_of_not_hasUnsafePathArg hsafe hmem
      exact ⟨hoption, hpath, fun h => absurd h (by decide)⟩
    obtain ⟨hpwd, -⟩ | ⟨-, h⟩ := allow_cases h
    · exact (hunchecked _ hpwd.1 rfl).elim
    obtain ⟨hsleep, -⟩ | ⟨-, h⟩ := allow_cases h
    · exact (hunchecked _ hsleep.1 rfl).elim
    obtain ⟨hprintenv, -⟩ | ⟨-, h⟩ := allow_cases h
    · exact (hunchecked _ hprintenv.1 rfl).elim
    · cases h

/-! ## §4. Without a backslash. -/

/-- The quote that the classifier has open. -/
def openQuote : Quote → Option UInt8
  | .none => none
  | .single => some singleQuote
  | .double => some doubleQuote

/-- The arguments of the pass that the classifier keeps. -/
def Kept (argv : List Bytes) : List Bytes := argv.filter fun argument => !argument.isEmpty

/-- A word that has not begun is empty. -/
def Begun (st : Scan) : Prop := st.tokenStarted = false → st.current = []

variable {limits : CommandLimits} {st out : Scan}

theorem appendCurrent_kept (hbegun : Begun st) (h : appendCurrent limits st = .ok out) :
    Kept out.argv = (if st.current.isEmpty then Kept st.argv else Kept st.argv ++ [st.current]) ∧
      out.current = [] ∧ out.quote = st.quote := by
  unfold appendCurrent at h
  split_ifs at h with hstarted
  · obtain rfl := Except.ok.inj h
    have hempty := hbegun hstarted
    exact ⟨by rw [hempty]; rfl, hempty, rfl⟩
  · obtain rfl := Except.ok.inj h
    refine ⟨?_, rfl, rfl⟩
    unfold Kept
    cases hcurrent : st.current with
    | nil | cons c current => simp

/-- What the classifier refuses, the pass leaves to a shell. -/
theorem isRuleMetacharacter_of_not : ∀ c, isShellMetacharacter c = false →
    isRuleMetacharacter c = false := by
  simp only [isShellMetacharacter_eq]
  exact forall_octet (by decide)

/-- **THE TWO LOOPS IN STEP**, by induction on the text. -/
theorem parseCommandLoop_scan {fin : Scan} (hraw : out.requiresRawShell = false)
    (hquote : out.quote = .none) (hfin : appendCurrent limits out = .ok fin)
    (hargv : Kept fin.argv ≠ []) : ∀ (text : Bytes) (st : Scan), backslash ∉ text →
      hasC0OrDel text = false → Begun st → scanCommand limits st text = .ok out →
      parseCommandLoop text (Kept st.argv) st.current (openQuote st.quote) false =
        .ok (Kept fin.argv) := by
  intro text
  induction text with
  | nil =>
    intro st _ _ hbegun h
    rw [scanCommand] at h
    obtain rfl := Except.ok.inj h
    rw [parseCommandLoop, hquote]
    dsimp only [openQuote]
    rw [← (appendCurrent_kept hbegun hfin).1]
    simp [hargv]
  | cons c text ih =>
    intro st hslash hclean hbegun h
    obtain ⟨hc, hslash⟩ := not_or.mp (mt List.mem_cons.mpr hslash)
    have hc : c ≠ backslash := Ne.symm hc
    rw [hasC0OrDel, List.any_cons, Bool.or_eq_false_iff] at hclean
    have hnext : ∀ st' : Scan, Begun st' → scanCommand limits st' text = .ok out →
        parseCommandLoop text (Kept st'.argv) st'.current (openQuote st'.quote) false =
          .ok (Kept fin.argv) := fun st' => ih st' hslash hclean.2
    have hstarted : ∀ {st' : Scan}, st'.tokenStarted = true → Begun st' := by
      intro st' hst' hnot
      rw [hst'] at hnot
      cases hnot
    -- a text that needs a shell still does at the end
    have hshell : ∀ {st' : Scan}, st'.requiresRawShell = true →
        scanCommand limits st' text ≠ .ok out := by
      intro st' hst' hscan
      rw [requiresRawShell_of_scan hscan hst'] at hraw
      cases hraw
    rw [parseCommandLoop.eq_def]
    dsimp only
    rw [if_neg (by rw [hclean.1]; exact Bool.false_ne_true), if_neg Bool.false_ne_true, if_neg hc]
    rw [scanCommand.eq_def] at h
    dsimp only at h
    obtain ⟨argv, raw, current, quoted, started⟩ := st
    cases quoted with
    | single =>
      dsimp only [openQuote] at h ⊢
      by_cases hend : c = singleQuote
      · rw [if_pos hend] at h ⊢
        exact hnext _ (hstarted rfl) h
      · rw [if_neg hend] at h ⊢
        exact hnext _ (hstarted rfl) h
    | double =>
      dsimp only [openQuote] at h ⊢
      by_cases hend : c = doubleQuote
      · rw [if_pos hend] at h ⊢
        exact hnext _ (hstarted rfl) h
      · rw [if_neg hend] at h ⊢
        split at h
        next => exact absurd h (hshell rfl)
        next => exact hnext _ (hstarted rfl) h
    | none =>
      dsimp only [openQuote] at h ⊢
      rw [if_neg hc] at h
      split at h
      next hsingle =>
        rw [if_pos (by simp [hsingle]), hsingle]
        exact hnext _ (hstarted rfl) h
      split at h
      next hdouble =>
        rw [if_pos (by simp [hdouble]), hdouble]
        exact hnext _ (hstarted rfl) h
      split at h
      next => exact absurd h (hshell rfl)
      next hsingle hdouble hmeta =>
        rw [if_neg (by simp [hsingle, hdouble]),
          if_neg (by simp [isRuleMetacharacter_of_not c (Bool.eq_false_iff.mpr hmeta)])]
        split at h
        next hspace =>
          rw [if_pos hspace]
          split at h
          next => cases h
          next st' happend =>
            obtain ⟨hkept, hcurrent, hsame⟩ := appendCurrent_kept hbegun happend
            have hrest := hnext st' (fun _ => hcurrent) h
            rw [hkept, hcurrent, hsame] at hrest
            exact hrest
        next hspace =>
          rw [if_neg hspace]
          exact hnext _ (hstarted rfl) h

/-- The argument vectors of a command without a backslash. -/
theorem classifiedArgv_eq {argv : List Bytes} (hslash : backslash ∉ command)
    (h : parseCompatibilityCommand command limits = .ok ⟨argv, false⟩) (hnonempty : [] ∉ argv) :
    classifiedArgv command = argv := by
  obtain ⟨hclean, out, fin, front, rest, hscan, hquote, hfin, hfinal, hargv, hraw, -⟩ :=
    parseCompatibilityCommand_inv h
  rw [requiresRawShell_append hfin] at hraw
  have hkept : Kept argv = argv := by
    refine List.filter_eq_self.mpr fun argument hmem => ?_
    cases argument with
    | nil => exact absurd hmem hnonempty
    | cons c argument => rfl
  have hloop := parseCommandLoop_scan hraw hquote hfin
    (by rw [hfinal, hkept, hargv]; exact List.cons_ne_nil _ _) command {} hslash hclean
    (fun _ => rfl) hscan
  rw [hfinal, hkept] at hloop
  have hparsed : parseCommandArgv command = .ok argv := hloop
  rw [classifiedArgv, hparsed]

/-! ## §5. The result. -/

/-- **THE CLASSIFIER JUDGES THE REAL ARGUMENT VECTOR**: the command needs a shell, or it is split
    into arguments that are harmless from the position that the classifier checks. -/
def JudgesRealArgv (command : Bytes) (limits : CommandLimits) : Prop :=
  ∃ parsed, parseCompatibilityCommand command limits = .ok parsed ∧
    (parsed.requiresRawShell = true ∨
      ∀ argument ∈ checkedArgs (classifiedProgram command) parsed.argv,
        Harmless (classifiedProgram command) argument)

end Ava.Permissions.Textual
