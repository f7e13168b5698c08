/-
  Ava.Command.Policy
  **CLASSIFYING A COMMAND** (`command/policy.cpp`).  A cascade over the lower-cased base name and
  the argument vector: what cannot be bound, what destroys, inline interpreters, what is
  sensitive, the known recipes, and everything else.

    - §1 questions about arguments; §2 the three kinds of classification;
    - §3 the cascade; §4 what a classification can be.
-/
import Ava.Command.Plan

namespace Ava.Command

open Ava.Core
open Ava.Lib (Path)

/-! ## §1. Questions about arguments. -/

/-- Membership in a list of literals. -/
def isOneOf (value : Bytes) (candidates : List String) : Bool := candidates.any (ascii · == value)

/-- `has_argument`. -/
def hasArgument (argv : List Bytes) (candidates : List String) : Bool :=
  argv.any fun argument => isOneOf (asciiLowerCopy argument) candidates

/-- `has_argument_prefix`. -/
def hasArgumentStart (argv : List Bytes) (start : String) : Bool :=
  argv.any fun argument => (ascii start).isPrefixOf (asciiLowerCopy argument)

/-- The argument at a position, lower-cased; empty when there is none. -/
def lowerArgument (argv : List Bytes) (index : Nat) : Bytes :=
  match argv[index]? with
  | some argument => asciiLowerCopy argument
  | none => []

/-- `std::isalnum` of the C locale, or one of the signs a script name may hold. -/
def isScriptNameByte (c : UInt8) : Bool :=
  isDigit c || (65 ≤ c && c ≤ 90) || (97 ≤ c && c ≤ 122) || c == 45 || c == 95 || c == 46 || c == 58

/-- `is_simple_script_name`. -/
def isSimpleScriptName (value : Bytes) : Bool :=
  !value.isEmpty && value.length ≤ 128 && value.all isScriptNameByte

/-- `canonical_recipe_argv`. -/
def canonicalRecipeArgv (argv : List Bytes) (executable : ResolvedExecutable)
    (pathArguments : List (Nat × PathMetadata)) : List Bytes :=
  pathArguments.foldl (fun result p => result.set p.1 p.2.canonicalPath.text)
    (argv.set 0 executable.executable.canonicalPath.text)

/-! ## §2. Three kinds of classification. -/

/-- `critical_classification`. -/
def criticalClassification (family : CommandFamily) (capabilities : CommandCapabilities) :
    CommandClassification where
  level := .critical
  family := family
  recipe := none
  capabilities := capabilities
  maxInteractiveScope := .once
  askCandidate := true

/-- `sensitive_classification`. -/
def sensitiveClassification (family : CommandFamily) (capabilities : CommandCapabilities) :
    CommandClassification where
  level := .sensitive
  family := family
  recipe := none
  capabilities := capabilities
  maxInteractiveScope := .workspace
  askCandidate := true

/-- `standard_classification`. -/
def standardClassification (family : CommandFamily) (recipe : CommandRecipe)
    (canonicalArgv : List Bytes) (pathArguments : List PathMetadata)
    (executesMutableProjectCode : Bool) (requiresPathContainment : Bool := false) :
    CommandClassification where
  level := .standard
  family := family
  recipe := some ⟨recipe, canonicalArgv, pathArguments⟩
  capabilities :=
    { executesMutableProjectCode := executesMutableProjectCode
      requiresContainment := executesMutableProjectCode || requiresPathContainment }
  maxInteractiveScope := .workspace
  askCandidate := true

/-- `apply_executable_origin_invariants`. -/
def applyExecutableOriginInvariants (classification : CommandClassification)
    (executable : ResolvedExecutable) : CommandClassification :=
  if executable.origin = .workspace ∨ executable.origin = .user then
    { classification with
      capabilities :=
        { classification.capabilities with
          executesMutableProjectCode := true
          requiresContainment := true } }
  else classification

/-! ## §3. The cascade. -/

/-- `kInterpreters`. -/
def kInterpreters : List String :=
  ["bash", "sh", "zsh", "fish", "python", "python3", "node", "perl", "ruby", "php", "lua", "pwsh"]

/-- `is_inline_interpreter`. -/
def isInlineInterpreter (name : Bytes) (argv : List Bytes) : Bool :=
  isOneOf name kInterpreters && hasArgument argv ["-c", "-e", "--command", "--eval"]

/-- `classify_destructive_or_privileged`. -/
def classifyDestructiveOrPrivileged (name : Bytes) (argv : List Bytes) :
    Option CommandClassification :=
  let destructive : CommandClassification :=
    criticalClassification .destructiveOrPrivileged { destructiveOrPrivileged := true }
  if name = ascii "git" ∧ 2 ≤ argv.length ∧ lowerArgument argv 1 = ascii "push" ∧
      (hasArgument argv ["--force", "-f", "--force-with-lease", "--force-if-includes"] ||
        hasArgumentStart argv "--force-with-lease=") then
    some (criticalClassification .destructiveOrPrivileged
      { networkEnabled := true, destructiveOrPrivileged := true })
  else if isOneOf name ["sudo", "doas", "pkexec", "rm", "dd", "mkfs"] ||
      (ascii "mkfs.").isPrefixOf name then
    some destructive
  else if hasArgument argv ["--privileged", "--force-dangerous", "--hard", "--hard-reset"] then
    some destructive
  else if name = ascii "git" ∧ 2 ≤ argv.length ∧
      (lowerArgument argv 1 = ascii "clean" ∨
        (lowerArgument argv 1 = ascii "reset" ∧ hasArgument argv ["--hard"])) then
    some destructive
  else none

/-- `classify_sensitive`, the subcommands of `git`. -/
def classifySensitiveGit (argv : List Bytes) : Option CommandClassification :=
  let second := lowerArgument argv 1
  let action := lowerArgument argv 2
  if isOneOf second ["pull", "fetch", "clone"] then
    some (sensitiveClassification .remoteGitMutation
      { networkEnabled := true, mutatesWorkspace := true })
  else if second = ascii "push" then
    some (sensitiveClassification .remoteGitMutation { networkEnabled := true })
  else if second = ascii "submodule" then
    some (sensitiveClassification .remoteGitMutation
      { networkEnabled := action.isEmpty || isOneOf action ["update", "add", "sync", "foreach"]
        mutatesWorkspace := action.isEmpty ||
          isOneOf action ["update", "init", "add", "deinit", "set-url", "sync", "absorbgitdirs",
            "foreach"] })
  else if second = ascii "remote" then
    some (sensitiveClassification .remoteGitMutation
      { networkEnabled := action = ascii "update"
        mutatesWorkspace :=
          isOneOf action ["add", "set-url", "remove", "rm", "rename", "update", "prune"] })
  else if isOneOf second
      ["apply", "checkout", "restore", "commit", "merge", "rebase", "cherry-pick"] then
    some (sensitiveClassification .workspaceMutation { mutatesWorkspace := true })
  else none

/-- `classify_sensitive`, after the subcommands of `git`. -/
def classifySensitiveOther (name : Bytes) (argv : List Bytes) : Option CommandClassification :=
  if isOneOf name ["npm", "pnpm", "yarn", "bun", "pip", "pip3"] ∧
      isOneOf (lowerArgument argv 1)
        ["install", "update", "upgrade", "add", "remove", "uninstall"] then
    some (sensitiveClassification .installOrUpdate
      { networkEnabled := true, mutatesWorkspace := true })
  else if isOneOf name ["curl", "wget", "ssh", "scp", "rsync"] then
    some (sensitiveClassification .network
      { networkEnabled := true, mutatesWorkspace := isOneOf name ["rsync", "scp"] })
  else if name = ascii "cmake" ∧ hasArgument argv ["--install", "--install-prefix"] then
    some (sensitiveClassification .installOrUpdate { mutatesWorkspace := true })
  else if hasArgument argv ["publish", "deploy", "release"] then
    some (sensitiveClassification .publishOrDeploy
      { networkEnabled := true, mutatesWorkspace := true })
  else if isOneOf name ["touch", "mkdir", "cp", "mv", "chmod", "patch", "tee"] ||
      (name == ascii "sed" && hasArgument argv ["-i", "--in-place"]) then
    some (sensitiveClassification .workspaceMutation { mutatesWorkspace := true })
  else none

/-- `classify_sensitive`. -/
def classifySensitive (name : Bytes) (argv : List Bytes) : Option CommandClassification :=
  if name = ascii "git" then (classifySensitiveGit argv).or (classifySensitiveOther name argv)
  else classifySensitiveOther name argv

section Standard

-- `seal_recipe_path_argument`, with the anchor set inside: the metadata of a path argument that
-- lies in the workspace, from the value, the working directory and the workspace
variable (sealRecipePathArgument : Bytes → Path → Path → Option PathMetadata)

variable (name : Bytes) (argv : List Bytes) (executable : ResolvedExecutable) (cwd workspace : Path)

/-- A recipe with one path argument, at `index`. -/
def pathRecipe (index : Nat) (family : CommandFamily) (recipe : CommandRecipe)
    (executesMutableProjectCode requiresPathContainment : Bool) : Option CommandClassification :=
  match argv[index]? with
  | none => none
  | some argument =>
    (sealRecipePathArgument argument cwd workspace).map fun path =>
      standardClassification family recipe (canonicalRecipeArgv argv executable [(index, path)])
        [path] executesMutableProjectCode requiresPathContainment

/-- A recipe without a path argument. -/
def plainRecipe (family : CommandFamily) (recipe : CommandRecipe)
    (executesMutableProjectCode : Bool) : Option CommandClassification :=
  some (standardClassification family recipe (canonicalRecipeArgv argv executable []) []
    executesMutableProjectCode)

/-- The loop over the configured scripts. -/
def classifyWorkspaceScript (argv : List Bytes) (executable : ResolvedExecutable)
    (workspace : Path) : List WorkspaceScriptRecipe → Option CommandClassification
  | [] => none
  | configured :: rest =>
    let path := if configured.script.isAbsolute then configured.script
      else workspace.join configured.script
    match sealRecipePathArgument path.text workspace workspace with
    | some script =>
      if script.device = executable.executable.device ∧
          script.inode = executable.executable.inode ∧
          argv.length = configured.argvTail.length + 1 ∧ argv.tail = configured.argvTail then
        plainRecipe argv executable .workspaceScript .workspaceScript true
      else classifyWorkspaceScript argv executable workspace rest
    | none => classifyWorkspaceScript argv executable workspace rest

/-- The inspection recipes of `classify_standard`, for executables of the system. -/
def classifyInspection : Option CommandClassification :=
  if executable.origin ≠ .system then none
  else if name = ascii "pwd" ∧ argv.length = 1 then plainRecipe argv executable .inspection .pwd false
  else if name = ascii "ls" ∧ argv.length = 1 then plainRecipe argv executable .inspection .ls false
  else
    (if name = ascii "ls" ∧ argv.length = 2 then
      pathRecipe sealRecipePathArgument argv executable cwd workspace 1 .inspection .ls false true
    else none).or <|
    if name = ascii "git" ∧ argv.length = 2 ∧ lowerArgument argv 1 = ascii "status" then
      plainRecipe argv executable .inspection .gitStatus true
    else if name = ascii "git" ∧ argv.length = 2 ∧ lowerArgument argv 1 = ascii "diff" then
      plainRecipe argv executable .inspection .gitDiff true
    else if name = ascii "git" ∧ argv.length = 3 ∧ lowerArgument argv 1 = ascii "log" ∧
        argv[2]? = some (ascii "-1") then
      plainRecipe argv executable .inspection .gitLogOne true
    else none

/-- A build tool that runs alone, or on the directory after a flag. -/
def classifyBuildTool (tool flag : String) (family : CommandFamily) (recipe : CommandRecipe) :
    Option CommandClassification :=
  if name = ascii tool ∧ argv.length = 1 then plainRecipe argv executable family recipe true
  else if name = ascii tool ∧ argv.length = 3 ∧ argv[1]? = some (ascii flag) then
    pathRecipe sealRecipePathArgument argv executable cwd workspace 2 family recipe true false
  else none

/-- The recipes of `classify_standard` that run project code. -/
def classifyProjectCode : Option CommandClassification :=
  let cmake :=
    if name = ascii "cmake" ∧ argv.length = 3 ∧ argv[1]? = some (ascii "--build") then
      pathRecipe sealRecipePathArgument argv executable cwd workspace 2 .cmakeBuild .cmakeBuild true
        false
    else none
  let packageManager :=
    if isOneOf name ["npm", "pnpm", "yarn", "bun"] ∧ argv.length = 3 ∧
        lowerArgument argv 1 = ascii "run" ∧ isSimpleScriptName (argv[2]?.getD []) then
      plainRecipe argv executable .packageManagerScript .packageManagerRunScript true
    else none
  let pytest :=
    if name = ascii "pytest" ∧ argv.length = 1 then
      plainRecipe argv executable .pytest .pytest true
    else if name = ascii "pytest" ∧ argv.length = 2 then
      pathRecipe sealRecipePathArgument argv executable cwd workspace 1 .pytest .pytest true false
    else none
  let tool := classifyBuildTool sealRecipePathArgument name argv executable cwd workspace
  cmake.or <| (tool "ctest" "--test-dir" .ctest .ctest).or <| (tool "ninja" "-C" .ninja .ninja).or <|
    (tool "make" "-C" .make .make).or <| packageManager.or pytest

/-- `classify_standard`. -/
def classifyStandard (workspaceRecipes : List WorkspaceScriptRecipe) :
    Option CommandClassification :=
  (classifyInspection sealRecipePathArgument name argv executable cwd workspace).or <|
    (classifyProjectCode sealRecipePathArgument name argv executable cwd workspace).or <|
    classifyWorkspaceScript sealRecipePathArgument argv executable workspace workspaceRecipes

/-- The base name that the cascade looks at: that of the invoked path when it is a symbolic
    link, otherwise that of its target. -/
def executableName : Bytes :=
  asciiLowerCopy
    (if executable.executable.requestedPathIsSymlink then executable.executable.requestedPath
      else executable.executable.canonicalPath).filename

/-- The cascade of `classify_command`, before the origin of the executable is looked at. -/
def classifyFamily (workspaceRecipes : List WorkspaceScriptRecipe) : CommandClassification :=
  let name := executableName executable
  if !executable.shebangFullyResolved then
    criticalClassification .unknownWrapper { unknownWrapper := true }
  else
    match classifyDestructiveOrPrivileged name argv with
    | some classification => classification
    | none =>
      if isInlineInterpreter name argv then
        criticalClassification .interpreterInline { interpreterInline := true }
      else
        match classifySensitive name argv with
        | some classification => classification
        | none =>
          match classifyStandard sealRecipePathArgument name argv executable cwd workspace
            workspaceRecipes with
          | some classification => classification
          | none => criticalClassification .unknownWrapper { unknownWrapper := true }

/-- `classify_command`. -/
def classifyCommand (workspaceRecipes : List WorkspaceScriptRecipe) : CommandClassification :=
  applyExecutableOriginInvariants
    (classifyFamily sealRecipePathArgument argv executable cwd workspace workspaceRecipes)
    executable

end Standard

/-- `classify_raw_shell`. -/
def classifyRawShell (executable : ResolvedExecutable) : CommandClassification :=
  applyExecutableOriginInvariants (criticalClassification .rawShell { rawShell := true }) executable

/-! ## §4. What a classification can be. -/

variable {c : CommandClassification}

theorem classifyDestructiveOrPrivileged_level {name : Bytes} {argv : List Bytes}
    (h : classifyDestructiveOrPrivileged name argv = some c) :
    c.level = .critical := by
  unfold classifyDestructiveOrPrivileged at h
  dsimp only at h
  split_ifs at h <;> cases h <;> rfl

theorem classifySensitive_level {name : Bytes} {argv : List Bytes}
    (h : classifySensitive name argv = some c) : c.level = .sensitive := by
  have hgit : ∀ {c}, classifySensitiveGit argv = some c → c.level = .sensitive := by
    intro c hc
    unfold classifySensitiveGit at hc
    dsimp only at hc
    split_ifs at hc <;> cases hc <;> rfl
  have hother : ∀ {c}, classifySensitiveOther name argv = some c → c.level = .sensitive := by
    intro c hc
    unfold classifySensitiveOther at hc
    split_ifs at hc <;> cases hc <;> rfl
  unfold classifySensitive at h
  split at h
  · rcases Option.or_eq_some_iff.mp h with h | ⟨-, h⟩
    · exact hgit h
    · exact hother h
  · exact hother h

/-- The two inspection commands that run without containment: alone on the line, and only when
    the executable belongs to the system. -/
def IsBareInspection (name : Bytes) (argv : List Bytes) (executable : ResolvedExecutable) : Prop :=
  executable.origin = .system ∧ argv.length = 1 ∧ (name = ascii "pwd" ∨ name = ascii "ls")

/-- A classification by recipe. -/
structure IsRecipe (name : Bytes) (argv : List Bytes) (executable : ResolvedExecutable)
    (c : CommandClassification) : Prop where
  level : c.level = .standard
  recipe : c.recipe.isSome = true
  contained : c.capabilities.requiresContainment = true ∨ IsBareInspection name argv executable

/-- What the cascade ends with. -/
def IsOutcome (name : Bytes) (argv : List Bytes) (executable : ResolvedExecutable)
    (c : CommandClassification) : Prop :=
  c.level = .critical ∨ c.level = .sensitive ∨ IsRecipe name argv executable c

section Standard

variable {sealRecipePathArgument : Bytes → Path → Path → Option PathMetadata}
variable {name : Bytes} {argv : List Bytes} {executable : ResolvedExecutable}
variable {cwd workspace : Path} {family : CommandFamily} {recipe : CommandRecipe}
variable {c : CommandClassification}

/-- A recipe that runs project code, or reads a path, requires containment. -/
theorem IsRecipe.standard {canonicalArgv : List Bytes} {pathArguments : List PathMetadata}
    {executesCode requiresPath : Bool} (h : (executesCode || requiresPath) = true) :
    IsRecipe name argv executable
      (standardClassification family recipe canonicalArgv pathArguments executesCode requiresPath) :=
  ⟨rfl, rfl, Or.inl h⟩

theorem IsRecipe.of_plain (h : plainRecipe argv executable family recipe true = some c) :
    IsRecipe name argv executable c := by
  cases h
  exact .standard rfl

theorem IsRecipe.of_path {index : Nat} {executesCode requiresPath : Bool}
    (hcontained : (executesCode || requiresPath) = true)
    (h : pathRecipe sealRecipePathArgument argv executable cwd workspace index family recipe
      executesCode requiresPath = some c) : IsRecipe name argv executable c := by
  unfold pathRecipe at h
  split at h
  · cases h
  · obtain ⟨path, -, rfl⟩ := Option.map_eq_some_iff.mp h
    exact .standard hcontained

theorem IsRecipe.of_tool {tool flag : String}
    (h : classifyBuildTool sealRecipePathArgument name argv executable cwd workspace tool flag family
      recipe = some c) : IsRecipe name argv executable c := by
  unfold classifyBuildTool at h
  split at h
  · exact .of_plain h
  · split at h
    · exact .of_path rfl h
    · cases h

theorem IsRecipe.of_inspection
    (h : classifyInspection sealRecipePathArgument name argv executable cwd workspace = some c) :
    IsRecipe name argv executable c := by
  unfold classifyInspection at h
  split at h
  · cases h
  next horigin =>
    have horigin := not_not.mp horigin
    split at h
    next hpwd =>
      cases h
      exact ⟨rfl, rfl, Or.inr ⟨horigin, hpwd.2, Or.inl hpwd.1⟩⟩
    split at h
    next hls =>
      cases h
      exact ⟨rfl, rfl, Or.inr ⟨horigin, hls.2, Or.inr hls.1⟩⟩
    rcases Option.or_eq_some_iff.mp h with h | ⟨-, h⟩
    · split at h
      · exact .of_path rfl h
      · cases h
    · split at h
      · exact .of_plain h
      · split at h
        · exact .of_plain h
        · split at h
          · exact .of_plain h
          · cases h

theorem IsRecipe.of_projectCode
    (h : classifyProjectCode sealRecipePathArgument name argv executable cwd workspace = some c) :
    IsRecipe name argv executable c := by
  unfold classifyProjectCode at h
  dsimp only at h
  rcases Option.or_eq_some_iff.mp h with h | ⟨-, h⟩
  · split at h
    · exact .of_path rfl h
    · cases h
  iterate 3
    rcases Option.or_eq_some_iff.mp h with h | ⟨-, h⟩
    · exact .of_tool h
  rcases Option.or_eq_some_iff.mp h with h | ⟨-, h⟩
  · split at h
    · exact .of_plain h
    · cases h
  · split at h
    · exact .of_plain h
    · split at h
      · exact .of_path rfl h
      · cases h

theorem IsRecipe.of_workspaceScript : ∀ {recipes : List WorkspaceScriptRecipe},
    classifyWorkspaceScript sealRecipePathArgument argv executable workspace recipes = some c →
    IsRecipe name argv executable c := by
  intro recipes
  induction recipes with
  | nil =>
    intro h
    cases h
  | cons configured rest ih =>
    intro h
    unfold classifyWorkspaceScript at h
    dsimp only at h
    split at h
    · split at h
      · exact .of_plain h
      · exact ih h
    · exact ih h

theorem IsRecipe.of_standard {recipes : List WorkspaceScriptRecipe}
    (h : classifyStandard sealRecipePathArgument name argv executable cwd workspace recipes = some c) :
    IsRecipe name argv executable c := by
  unfold classifyStandard at h
  rcases Option.or_eq_some_iff.mp h with h | ⟨-, h⟩
  · exact .of_inspection h
  rcases Option.or_eq_some_iff.mp h with h | ⟨-, h⟩
  · exact .of_projectCode h
  · exact .of_workspaceScript h

/-- **THE OUTCOMES OF THE CASCADE.** -/
theorem classifyFamily_outcome (sealRecipePathArgument : Bytes → Path → Path → Option PathMetadata)
    (argv : List Bytes) (executable : ResolvedExecutable) (cwd workspace : Path)
    (recipes : List WorkspaceScriptRecipe) :
    IsOutcome (executableName executable) argv executable
      (classifyFamily sealRecipePathArgument argv executable cwd workspace recipes) := by
  unfold classifyFamily
  dsimp only
  split
  · exact Or.inl rfl
  · split
    next _ hdestructive => exact Or.inl (classifyDestructiveOrPrivileged_level hdestructive)
    split
    · exact Or.inl rfl
    · split
      next _ hsensitive => exact Or.inr (Or.inl (classifySensitive_level hsensitive))
      split
      next _ hstandard => exact Or.inr (Or.inr (.of_standard hstandard))
      next => exact Or.inl rfl

end Standard

@[simp] theorem level_applyExecutableOriginInvariants (c : CommandClassification)
    (executable : ResolvedExecutable) :
    (applyExecutableOriginInvariants c executable).level = c.level := by
  unfold applyExecutableOriginInvariants
  split <;> rfl

@[simp] theorem recipe_applyExecutableOriginInvariants (c : CommandClassification)
    (executable : ResolvedExecutable) :
    (applyExecutableOriginInvariants c executable).recipe = c.recipe := by
  unfold applyExecutableOriginInvariants
  split <;> rfl

/-- The origin can only add the need for containment. -/
theorem requiresContainment_applyExecutableOriginInvariants
    (executable : ResolvedExecutable) (h : c.capabilities.requiresContainment = true) :
    (applyExecutableOriginInvariants c executable).capabilities.requiresContainment = true := by
  unfold applyExecutableOriginInvariants
  split
  · rfl
  · exact h

theorem classifyCommand_outcome (sealRecipePathArgument : Bytes → Path → Path → Option PathMetadata)
    (argv : List Bytes) (executable : ResolvedExecutable) (cwd workspace : Path)
    (recipes : List WorkspaceScriptRecipe) :
    IsOutcome (executableName executable) argv executable
      (classifyCommand sealRecipePathArgument argv executable cwd workspace recipes) := by
  have hfamily := classifyFamily_outcome sealRecipePathArgument argv executable cwd workspace recipes
  unfold classifyCommand IsOutcome
  rw [level_applyExecutableOriginInvariants]
  rcases hfamily with hcritical | hsensitive | hrecipe
  · exact Or.inl hcritical
  · exact Or.inr (Or.inl hsensitive)
  · refine Or.inr (Or.inr ⟨?_, ?_, ?_⟩)
    · rw [level_applyExecutableOriginInvariants]
      exact hrecipe.level
    · rw [recipe_applyExecutableOriginInvariants]
      exact hrecipe.recipe
    · rcases hrecipe.contained with hcontained | hbare
      · exact Or.inl (requiresContainment_applyExecutableOriginInvariants executable hcontained)
      · exact Or.inr hbare

theorem classifyRawShell_level (executable : ResolvedExecutable) :
    (classifyRawShell executable).level = .critical :=
  level_applyExecutableOriginInvariants _ _

end Ava.Command
