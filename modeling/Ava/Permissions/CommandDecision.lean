/-
  Ava.Permissions.CommandDecision
  **DECIDING ON A SEALED COMMAND** (`permissions/permission.cpp`).  The approval metadata of a plan,
  the stable identity of its recipe, the scopes a grant may have, and the decision itself.

    - §1 actions, risks, containment; §2 arguments of a recipe and what looks like a secret;
    - §3 the recipe keys; §4 the metadata; §5 the decision and reusable grants;
    - §6 what an Allow says about the metadata, and what the metadata say about the plan.
-/
import Ava.Command.Fingerprint
import Ava.Command.Policy

namespace Ava.Permissions

open Ava.Core Ava.Command
open Ava.Lib (Path counted)

/-! ## §1. Actions, risks, containment. -/

inductive PermissionAction where
  | allow | ask | deny
deriving Repr, DecidableEq

inductive PermissionRisk where
  | low | medium | high | critical
deriving Repr, DecidableEq

/-- `PermissionDecision`. -/
structure PermissionDecision where
  action : PermissionAction
  reason : Bytes
  risk : PermissionRisk
deriving Repr, DecidableEq

/-- `decision`. -/
def decision (action : PermissionAction) (reason : String) (risk : PermissionRisk) :
    PermissionDecision := ⟨action, ascii reason, risk⟩

inductive CommandContainmentStatus where
  | notRequired | unavailable | available | active | unverifiedDelegatedExecutor
deriving Repr, DecidableEq

/-- `CommandContainmentInfo`. -/
structure CommandContainmentInfo where
  available : Bool := false
  profileId : Bytes := []
  networkAllowed : Bool := false
deriving Repr, DecidableEq

/-! ## §2. Arguments of a recipe. -/

/-- `path_is_within`. -/
def pathIsWithin (root candidate : Path) : Bool :=
  let relative := candidate.lexicallyRelative root
  !relative.text.isEmpty && !relative.same ⟨Path.dotdot⟩ &&
    !(ascii "../").isPrefixOf relative.genericString

inductive RecipeArgumentKind where
  | literal | workspacePath
deriving Repr, DecidableEq

def RecipeArgumentKind.text : RecipeArgumentKind → Bytes
  | .literal => ascii "literal"
  | .workspacePath => ascii "workspace_path"

/-- `RecipeArgument`. -/
structure RecipeArgument where
  kind : RecipeArgumentKind
  value : Bytes
  display : Bytes
deriving Repr, DecidableEq

/-- The text of a path below the workspace; empty for the workspace itself. -/
def workspaceRelative (workspace candidate : Path) : Bytes :=
  let relative := (candidate.lexicallyRelative workspace).genericString
  if relative = Path.dot then [] else relative

/-- `recipe_argument`. -/
def recipeArgument (value : Bytes) (workspace : Path) : RecipeArgument :=
  let path : Path := ⟨value⟩
  if !path.isAbsolute then ⟨.literal, value, value⟩
  else
    let normalized := path.lexicallyNormal
    let normalizedWorkspace := workspace.lexicallyNormal
    if !pathIsWithin normalizedWorkspace normalized then
      ⟨.literal, normalized.genericString, normalized.genericString⟩
    else
      let relative := workspaceRelative normalizedWorkspace normalized
      ⟨.workspacePath, relative,
        ascii "workspace:" ++ if relative.isEmpty then Path.dot else relative⟩

/-- `kCredentialOptions`. -/
def kCredentialOptions : List String :=
  ["--user", "--proxy-user", "--header", "--proxy-header", "--cookie", "--oauth2-bearer",
    "--aws-sigv4", "--cert", "--key", "--pass", "--cacert", "--form-string", "--http-user",
    "--http-password", "--http-header", "--proxy-password", "--token", "--secret", "--password",
    "--api-key", "--api_key", "--apikey", "--authorization", "--auth", "--credential", "--bearer",
    "--signature"]

/-- `kPayloadOptions`. -/
def kPayloadOptions : List String :=
  ["--data", "--data-ascii", "--data-binary", "--data-raw", "--data-urlencode", "--json", "--form",
    "--form-string", "--url-query", "--config", "--post-data", "--post-file", "--body-data",
    "--body-file", "--header"]

/-- `kCredentialPatterns`. -/
def kCredentialPatterns : List String :=
  ["token=", "secret=", "password=", "passwd=", "api_key=", "apikey=", "api-key=", "access_token=",
    "authorization=", "auth=", "credential=", "bearer=", "signature=", "key=", "sig=", "cookie=",
    "session=", "sessionid="]

/-- `is_credential_bearing_long_option` and `is_payload_bearing_long_option`: the text before the
    first equals sign is in a table. -/
def isLongOptionOf (options : List String) (lower : Bytes) : Bool :=
  isOneOf (lower.takeWhile (· ≠ 61)) options

/-- `is_credential_bearing_short_option` and `is_payload_bearing_short_option`: a cluster of short
    options has one of some letters. -/
def isShortOptionOf (letters : String) : Bytes → Bool
  | 45 :: c :: cluster => c != 45 && (c :: cluster).any (ascii letters).contains
  | _ => false

/-- What follows the first `://`. -/
def afterScheme : Bytes → Option Bytes
  | [] => none
  | c :: s => if (ascii "://").isPrefixOf (c :: s) then some (s.drop 2) else afterScheme s

/-- `contains_secret_like_argument`. -/
def containsSecretLikeArgument (value : Bytes) : Bool :=
  let lower := asciiLowerCopy value
  (match afterScheme lower with
    | some rest => rest.contains 64 || rest.contains 63
    | none => false) ||
  kCredentialPatterns.any fun pattern => containsText (ascii pattern) lower

/-- `contains_secret_like_arguments`. -/
def containsSecretLikeArguments (argv : List Bytes) : Bool :=
  argv.any fun argument =>
    isLongOptionOf kCredentialOptions (asciiLowerCopy argument) || isShortOptionOf "uHbEU" argument ||
    isLongOptionOf kPayloadOptions (asciiLowerCopy argument) || isShortOptionOf "dFK" argument ||
    containsSecretLikeArgument argument

/-! ## §3. The recipe keys. -/

/-- `StableRecipeIdentity`. -/
structure StableRecipeIdentity where
  globalKey : Bytes
  workspaceKey : Bytes
  display : Bytes
deriving Repr, DecidableEq

variable (hexSha256 : Bytes → Bytes) (plan : CommandPlan) (containment : CommandContainmentInfo)

/-- The recipe name and the argument vector that the keys of a plan are built from; `none` when
    the plan gets no keys.  A Sensitive classification has no recipe: its vector is the argument
    vector with the resolved executable in front. -/
def recipeSource : Option (Bytes × List Bytes × ResolvedExecutable) :=
  match plan.resolvedExecutable with
  | none => none
  | some executable =>
    if plan.executionDomain ≠ .directArgv ∨
        (plan.classification.level ≠ .standard ∧ plan.classification.level ≠ .sensitive) then none
    else
      match plan.classification.recipe with
      | some recipe =>
        if recipe.canonicalArgv.isEmpty || containsSecretLikeArguments recipe.canonicalArgv then
          none
        else some (recipe.recipe.text, recipe.canonicalArgv, executable)
      | none =>
        match plan.argv with
        | [] => none
        | _ :: arguments =>
          let argv := executable.executable.canonicalPath.genericString :: arguments
          if containsSecretLikeArguments argv then none
          else some (ascii "sensitive-" ++ plan.classification.family.text, argv, executable)

/-- `append_payload`, as the list of its fields. -/
def recipePayload (recipeName : Bytes) (argv : List Bytes) (executable : ResolvedExecutable)
    (includeWorkspace : Bool) : List Bytes :=
  [ascii "ava-command-recipe-payload-v1", recipeName, plan.classification.family.text,
    executable.executable.canonicalPath.genericString, executable.origin.text,
    plan.environmentProfileId,
    if containment.profileId.isEmpty then ascii "not-required" else containment.profileId,
    if containment.networkAllowed then ascii "network-allowed" else ascii "network-blocked"] ++
  counted decimal (fun argument : RecipeArgument => [argument.kind.text, argument.value])
    (argv.map fun value => recipeArgument value plan.workspace) ++
  if includeWorkspace then [plan.workspace.lexicallyNormal.genericString] else []

/-- The display text of a recipe. -/
def recipeDisplay (recipeName : Bytes) (argv : List Bytes) : Bytes :=
  let arguments := argv.map fun value => recipeArgument value plan.workspace
  recipeName ++ ascii " (" ++ plan.classification.family.text ++ ascii ")" ++
    if 1 < arguments.length then
      ascii ":" ++ arguments.tail.flatMap fun argument =>
        ascii " " ++
          if plan.classification.recipe.isSome then argument.display
          else argument.kind.text ++ ascii "=" ++ argument.display
    else []

/-- `stable_recipe_identity`. -/
def stableRecipeIdentity : Option StableRecipeIdentity :=
  match recipeSource plan with
  | none => none
  | some (recipeName, argv, executable) =>
    let key (includeWorkspace : Bool) : Bytes :=
      hexSha256
        (builderBytes (recipePayload plan containment recipeName argv executable includeWorkspace))
    some
      { globalKey := ascii "sha256:ava-command-recipe-v1:" ++ key false
        workspaceKey := ascii "sha256:ava-command-workspace-recipe-v1:" ++ key true
        display := recipeDisplay plan recipeName argv }

/-! ## §4. The metadata. -/

/-- `CommandPermissionMetadata`. -/
structure CommandPermissionMetadata where
  level : CommandLevel
  family : CommandFamily
  fingerprint : Bytes
  executionDomain : CommandExecutionDomain
  resolvedExecutable : Path
  executableOrigin : ExecutableOrigin
  cwd : Path
  executesMutableProjectCode : Bool
  containmentAvailable : Bool
  containmentStatus : CommandContainmentStatus
  containmentProfileId : Bytes
  containmentNetworkAllowed : Bool
  backendMaximumScope : InteractiveScope
  recipePayloadVersion : Bytes
  globalRecipeKey : Bytes
  workspaceRecipeKey : Bytes
  recipeDisplay : Bytes
  effectiveAllowedScopes : List InteractiveScope
  environmentProfileId : Bytes
  environmentDigest : Bytes
  executorIdentityVerified : Bool
deriving Repr, DecidableEq

variable (metadata : CommandPermissionMetadata)

/-- `effective_scopes`. -/
def effectiveScopes : List InteractiveScope :=
  if !metadata.globalRecipeKey.isEmpty && !metadata.workspaceRecipeKey.isEmpty &&
      metadata.executorIdentityVerified && metadata.containmentStatus != .unavailable &&
      metadata.containmentStatus != .unverifiedDelegatedExecutor &&
      (metadata.level == .standard || metadata.level == .sensitive) then
    .once ::
      ((if metadata.backendMaximumScope = .session ∨ metadata.backendMaximumScope = .workspace then
        [.session] else []) ++
      if metadata.backendMaximumScope = .workspace then [.workspace] else [])
  else [.once]

/-- The metadata of a plan before its recipe keys are looked for: a command whose containment is
    missing, or whose executor is delegated, becomes Critical. -/
def baseMetadata (unverifiedDelegatedExecutor : Bool) : CommandPermissionMetadata :=
  let classification := plan.classification
  let containmentStatus : CommandContainmentStatus :=
    if classification.capabilities.requiresContainment ||
        classification.capabilities.executesMutableProjectCode ||
        classification.level == .sensitive then
      if containment.available then .available else .unavailable
    else .notRequired
  let metadata : CommandPermissionMetadata :=
    { level := classification.level
      family := classification.family
      fingerprint := computeFingerprint hexSha256 plan
      executionDomain := plan.executionDomain
      resolvedExecutable := (plan.resolvedExecutable.map (·.executable.requestedPath)).getD ⟨[]⟩
      executableOrigin := (plan.resolvedExecutable.map (·.origin)).getD .system
      cwd := plan.cwd
      executesMutableProjectCode := classification.capabilities.executesMutableProjectCode
      containmentAvailable := containment.available
      containmentStatus := containmentStatus
      containmentProfileId := containment.profileId
      containmentNetworkAllowed := containment.networkAllowed
      backendMaximumScope := classification.maxInteractiveScope
      recipePayloadVersion := []
      globalRecipeKey := []
      workspaceRecipeKey := []
      recipeDisplay := []
      effectiveAllowedScopes := []
      environmentProfileId := plan.environmentProfileId
      environmentDigest := plan.environmentDigest
      executorIdentityVerified := !unverifiedDelegatedExecutor }
  if unverifiedDelegatedExecutor then
    { metadata with
      level := .critical
      family := .unverifiedDelegatedExecutor
      containmentAvailable := false
      containmentStatus := .unverifiedDelegatedExecutor
      backendMaximumScope := .once }
  else if containmentStatus = .unavailable then
    { metadata with level := .critical, backendMaximumScope := .once }
  else metadata

/-- Whether the recipe keys of a plan are looked for. -/
def mayHaveRecipe : Bool :=
  metadata.executorIdentityVerified && metadata.level != .critical &&
    metadata.containmentStatus != .unavailable &&
    (!(plan.classification.capabilities.requiresContainment ||
        plan.classification.capabilities.executesMutableProjectCode) ||
      metadata.containmentStatus == .available || metadata.containmentStatus == .notRequired)

/-- The metadata with the recipe keys, where there are some. -/
def withRecipe : Option StableRecipeIdentity →
    CommandPermissionMetadata
  | none => metadata
  | some identity =>
    { metadata with
      recipePayloadVersion := ascii "ava-command-recipe-payload-v1"
      globalRecipeKey := identity.globalKey
      workspaceRecipeKey := identity.workspaceKey
      recipeDisplay := identity.display }

/-- `command_permission_metadata`. -/
def commandPermissionMetadata (unverifiedDelegatedExecutor : Bool) : CommandPermissionMetadata :=
  let base := baseMetadata hexSha256 plan containment unverifiedDelegatedExecutor
  let metadata :=
    if mayHaveRecipe plan base then
      withRecipe base (stableRecipeIdentity hexSha256 plan containment)
    else base
  { metadata with effectiveAllowedScopes := effectiveScopes metadata }

/-! ## §5. The decision. -/

/-- `decide` on the metadata of a command. -/
def decideCommand : PermissionDecision :=
  if !metadata.executorIdentityVerified ||
      metadata.containmentStatus == .unverifiedDelegatedExecutor then
    decision .ask "delegated command executor identity and environment are unverified" .critical
  else if metadata.containmentStatus = .unavailable then
    decision .ask "sealed command requires containment, but containment is unavailable; explicit one-shot approval will run it uncontained" .critical
  else if metadata.level = .standard ∧ metadata.executesMutableProjectCode = false then
    decision .allow "sealed command is a standard inspection recipe" .low
  else if (metadata.executesMutableProjectCode || metadata.containmentStatus == .unavailable) &&
      !metadata.containmentAvailable && metadata.containmentStatus != .notRequired then
    decision .ask "sealed command executes mutable project code; containment is unavailable and the command will run uncontained after explicit one-shot approval" .critical
  else if metadata.level = .standard then
    if metadata.containmentAvailable then
      decision .allow "sealed command executes mutable project code under verified development containment" .medium
    else
      decision .ask "sealed command executes mutable project code; containment is unavailable" .high
  else if metadata.level = .sensitive then
    decision .ask "sealed command has sensitive capabilities" .high
  else decision .ask "sealed command is critical" .critical

/-- `command_permission_allows_reusable_grant`. -/
def commandPermissionAllowsReusableGrant : Bool :=
  if !metadata.executorIdentityVerified || metadata.containmentStatus == .unavailable ||
      metadata.containmentStatus == .unverifiedDelegatedExecutor || metadata.level == .critical ||
      metadata.backendMaximumScope == .once || metadata.globalRecipeKey.isEmpty ||
      metadata.workspaceRecipeKey.isEmpty then false
  else if (metadata.executesMutableProjectCode || metadata.containmentStatus == .available) &&
      metadata.containmentStatus != .available then false
  else
    metadata.effectiveAllowedScopes.contains .session ||
      metadata.effectiveAllowedScopes.contains .workspace

/-! ## §6. What the metadata say. -/

/-- A command that must not run uncontained without being asked for. -/
def needsContainment : Bool :=
  plan.classification.capabilities.requiresContainment ||
    plan.classification.capabilities.executesMutableProjectCode ||
    plan.classification.level == .sensitive

/-- An Allow is for a verified executor, a Standard command, and no missing containment. -/
theorem decideCommand_allow {metadata : CommandPermissionMetadata}
    (h : (decideCommand metadata).action = .allow) :
    metadata.executorIdentityVerified = true ∧ metadata.level = .standard := by
  unfold decideCommand at h
  split_ifs at h with hverified hunavailable hinspection hmissing hstandard havailable hsensitive
  all_goals try (exact absurd h (by decide))
  · simp only [Bool.or_eq_true, not_or, Bool.not_eq_true', Bool.not_eq_false] at hverified
    exact ⟨hverified.1, hinspection.1⟩
  · simp only [Bool.or_eq_true, not_or, Bool.not_eq_true', Bool.not_eq_false] at hverified
    exact ⟨hverified.1, hstandard⟩

section Metadata

variable {hexSha256 : Bytes → Bytes} {plan : CommandPlan} {containment : CommandContainmentInfo}
variable {delegated : Bool}

/-- Looking for recipe keys changes neither the level nor the executor nor the containment. -/
theorem commandPermissionMetadata_frame (hexSha256 : Bytes → Bytes) (plan : CommandPlan)
    (containment : CommandContainmentInfo) (delegated : Bool) :
    let metadata := commandPermissionMetadata hexSha256 plan containment delegated
    let base := baseMetadata hexSha256 plan containment delegated
    metadata.level = base.level ∧
      metadata.executorIdentityVerified = base.executorIdentityVerified := by
  intro metadata base
  show (commandPermissionMetadata hexSha256 plan containment delegated).level = base.level ∧
    (commandPermissionMetadata hexSha256 plan containment delegated).executorIdentityVerified =
      base.executorIdentityVerified
  unfold commandPermissionMetadata withRecipe
  dsimp only
  split
  · split
    · exact ⟨rfl, rfl⟩
    · exact ⟨rfl, rfl⟩
  · exact ⟨rfl, rfl⟩

/-- **THE DOWNGRADES.**  A verified executor and a level below Critical leave only the plan's own
    level, with the containment it needs. -/
theorem baseMetadata_not_critical
    (hverified : (baseMetadata hexSha256 plan containment delegated).executorIdentityVerified = true)
    (hlevel : (baseMetadata hexSha256 plan containment delegated).level ≠ .critical) :
    delegated = false ∧
      (baseMetadata hexSha256 plan containment delegated).level = plan.classification.level ∧
      (needsContainment plan = true → containment.available = true) := by
  unfold baseMetadata at hverified hlevel ⊢
  dsimp only at hverified hlevel ⊢
  cases delegated with
  | true => simp at hverified
  | false =>
    simp only [Bool.false_eq_true, if_false] at hlevel ⊢
    by_cases hneeds : needsContainment plan = true
    · have hneeds' := hneeds
      unfold needsContainment at hneeds'
      rw [if_pos hneeds'] at hlevel ⊢
      cases havailable : containment.available with
      | true => simp
      | false => simp [havailable] at hlevel
    · have hneeds' := hneeds
      unfold needsContainment at hneeds'
      rw [if_neg hneeds']
      refine ⟨trivial, by simp, fun h => absurd h hneeds⟩

/-- The keys of a command are those of its plan's recipe, or it has none. -/
theorem recipeKeys_cases (hexSha256 : Bytes → Bytes) (plan : CommandPlan)
    (containment : CommandContainmentInfo) (delegated : Bool) :
    ((commandPermissionMetadata hexSha256 plan containment delegated).globalRecipeKey = [] ∧
      (commandPermissionMetadata hexSha256 plan containment delegated).workspaceRecipeKey = []) ∨
    ∃ identity, stableRecipeIdentity hexSha256 plan containment = some identity ∧
      (commandPermissionMetadata hexSha256 plan containment delegated).globalRecipeKey =
        identity.globalKey ∧
      (commandPermissionMetadata hexSha256 plan containment delegated).workspaceRecipeKey =
        identity.workspaceKey := by
  have hbase : (baseMetadata hexSha256 plan containment delegated).globalRecipeKey = [] ∧
      (baseMetadata hexSha256 plan containment delegated).workspaceRecipeKey = [] := by
    unfold baseMetadata
    dsimp only
    split_ifs <;> exact ⟨rfl, rfl⟩
  unfold commandPermissionMetadata
  dsimp only
  split
  · cases hidentity : stableRecipeIdentity hexSha256 plan containment with
    | none => exact Or.inl hbase
    | some identity => exact Or.inr ⟨identity, rfl, rfl, rfl⟩
  · exact Or.inl hbase

/-- A plan with a recipe identity is a direct vector below Critical. -/
theorem plan_of_identity {identity : StableRecipeIdentity}
    (h : stableRecipeIdentity hexSha256 plan containment = some identity) :
    plan.executionDomain = .directArgv ∧
      (plan.classification.level = .standard ∨ plan.classification.level = .sensitive) := by
  unfold stableRecipeIdentity at h
  split at h
  · cases h
  next hsource =>
    unfold recipeSource at hsource
    split at hsource
    · cases hsource
    · split at hsource
      · cases hsource
      next hcondition =>
        obtain ⟨hdomain, hlevel⟩ := not_or.mp hcondition
        refine ⟨not_not.mp hdomain, ?_⟩
        rw [not_and_or, not_not, not_not] at hlevel
        exact hlevel

end Metadata

end Ava.Permissions
