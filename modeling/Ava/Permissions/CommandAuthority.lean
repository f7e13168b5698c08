/-
  Ava.Permissions.CommandAuthority
  **NO PROJECT CODE RUNS UNCONTAINED WITHOUT BEING ASKED FOR.**  Two ways lead to an execution
  without a prompt: the decision on the sealed plan, and a stored Allow.  Both are followed back
  from the answer through the scopes, the recipe keys, the downgrades of the metadata and the
  classification to the plan itself.

    - §1 `IsClassified` : how sealing classifies a plan;
    - §2 an automatic Allow; §3 a stored Allow; §4 both together.
-/
import Ava.Permissions.RuleMatching

namespace Ava.Permissions

open Ava.Core Ava.Command
open Ava.Lib (Path)

/-! ## §1. Classified plans. -/

/-- The end of `seal_command_plan`: a direct vector goes through `classify_command`, shell text
    through `classify_raw_shell`. -/
def IsClassified (sealRecipePathArgument : Bytes → Path → Path → Option PathMetadata)
    (workspaceRecipes : List WorkspaceScriptRecipe) (executable : ResolvedExecutable)
    (plan : CommandPlan) : Prop :=
  plan.resolvedExecutable = some executable ∧
    ((plan.executionDomain = .directArgv ∧
        plan.classification = classifyCommand sealRecipePathArgument plan.argv executable plan.cwd
          plan.workspace workspaceRecipes) ∨
      (plan.executionDomain = .rawShell ∧ plan.classification = classifyRawShell executable))

section Authority

variable {sealRecipePathArgument : Bytes → Path → Path → Option PathMetadata}
variable {workspaceRecipes : List WorkspaceScriptRecipe} {executable : ResolvedExecutable}
variable {plan : CommandPlan} {hexSha256 : Bytes → Bytes} {containment : CommandContainmentInfo}
variable {delegated : Bool}

/-! ## §2. The decision. -/

/-- A classified plan of level Standard is a recipe on a direct vector. -/
theorem IsClassified.recipe
    (h : IsClassified sealRecipePathArgument workspaceRecipes executable plan)
    (hlevel : plan.classification.level = .standard) :
    plan.executionDomain = .directArgv ∧
      IsRecipe (executableName executable) plan.argv executable plan.classification := by
  rcases h.2 with ⟨hdomain, hclass⟩ | ⟨-, hclass⟩
  · refine ⟨hdomain, ?_⟩
    have houtcome := classifyCommand_outcome sealRecipePathArgument plan.argv executable plan.cwd
      plan.workspace workspaceRecipes
    rw [← hclass] at houtcome
    rcases houtcome with hcritical | hsensitive | hrecipe
    · rw [hlevel] at hcritical
      cases hcritical
    · rw [hlevel] at hsensitive
      cases hsensitive
    · exact hrecipe
  · rw [hclass, classifyRawShell_level] at hlevel
    cases hlevel

/-- **AN AUTOMATIC ALLOW.** -/
theorem allow_is_contained
    (hplan : IsClassified sealRecipePathArgument workspaceRecipes executable plan)
    (h : (decideCommand (commandPermissionMetadata hexSha256 plan containment delegated)).action =
      .allow) :
    delegated = false ∧ plan.executionDomain = .directArgv ∧
      plan.classification.level = .standard ∧ plan.classification.recipe.isSome = true ∧
      (containment.available = true ∨
        IsBareInspection (executableName executable) plan.argv executable) := by
  obtain ⟨hverified, hstandard⟩ := decideCommand_allow h
  obtain ⟨hlevelFrame, hverifiedFrame⟩ :=
    commandPermissionMetadata_frame hexSha256 plan containment delegated
  rw [hverifiedFrame] at hverified
  rw [hlevelFrame] at hstandard
  obtain ⟨hdelegated, hlevel, hneeds⟩ :=
    baseMetadata_not_critical hverified (by rw [hstandard]; decide)
  rw [hlevel] at hstandard
  obtain ⟨hdomain, hrecipe⟩ := hplan.recipe hstandard
  refine ⟨hdelegated, hdomain, hstandard, hrecipe.recipe, ?_⟩
  rcases hrecipe.contained with hcontained | hbare
  · exact Or.inl (hneeds (by simp [needsContainment, hcontained]))
  · exact Or.inr hbare

/-! ## §3. A stored Allow. -/

/-- An Allow for a command comes from an authoritative rule. -/
theorem authoritative_of_match {env : RuleEnvironment} {store : PermissionRuleStore}
    {loaded : Result (List PersistentPermissionRule)} {prompt : PermissionPrompt}
    {rule : PersistentPermissionRule} (hprompt : prompt.operation = .runCommand)
    (hmatch : matchPersistentPermissionRule env store loaded prompt = .ok (some rule))
    (hallow : rule.action = .allow) : commandAllowIsAuthoritative rule prompt = true := by
  unfold matchPersistentPermissionRule at hmatch
  split at hmatch
  · cases hmatch
  next rules =>
    rw [matchRules_eq] at hmatch
    split at hmatch
    next best hbest =>
      cases hmatch
      have hdeny := (denies_iff.mp (argmax_filter hbest).2.1).1
      rw [hallow] at hdeny
      cases hdeny
    split at hmatch
    next => cases hmatch
    simp only [Except.ok.injEq] at hmatch
    have hallows := (argmax_filter hmatch).2.1
    unfold allows at hallows
    split at hallows
    next hok =>
      have hoperation : rule.operation = .runCommand := (operation_of_matches hok).trans hprompt
      simpa [hallow, hoperation] using hallows
    next => cases hallows

/-- **A STORED ALLOW** is for the exact recipe of a plan that may be granted again. -/
theorem stored_allow_is_contained {env : RuleEnvironment} {store : PermissionRuleStore}
    {loaded : Result (List PersistentPermissionRule)} {prompt : PermissionPrompt}
    {rule : PersistentPermissionRule} (hprompt : prompt.operation = .runCommand)
    (hmetadata : prompt.commandMetadata =
      some (commandPermissionMetadata hexSha256 plan containment delegated))
    (hmatch : matchPersistentPermissionRule env store loaded prompt = .ok (some rule))
    (hallow : rule.action = .allow) :
    plan.executionDomain = .directArgv ∧
      (plan.classification.level = .standard ∨ plan.classification.level = .sensitive) ∧
      (needsContainment plan = true → containment.available = true) ∧
      ∃ identity, stableRecipeIdentity hexSha256 plan containment = some identity ∧
        rule.commandRecipeKey =
          if rule.scope = .global then identity.globalKey else identity.workspaceKey := by
  have hauthoritative := authoritative_of_match hprompt hmatch hallow
  unfold commandAllowIsAuthoritative at hauthoritative
  split_ifs at hauthoritative with hcondition hkey
  rw [Bool.and_eq_true] at hauthoritative
  obtain ⟨hgrant, hrecipe⟩ := hauthoritative
  unfold commandPromptAllowsPersistentAllow at hgrant
  rw [hmetadata] at hgrant
  dsimp only at hgrant
  rw [Bool.and_eq_true] at hgrant
  -- a reusable grant: verified, not Critical, with recipe keys
  have hreusable := hgrant.1
  unfold commandPermissionAllowsReusableGrant at hreusable
  split_ifs at hreusable with hrefused hactive
  simp only [Bool.or_eq_true, not_or, Bool.not_eq_true', Bool.not_eq_false, beq_iff_eq] at hrefused
  obtain ⟨⟨⟨⟨⟨⟨hverified, -⟩, -⟩, hcritical⟩, -⟩, hglobal⟩, -⟩ := hrefused
  obtain ⟨hlevelFrame, hverifiedFrame⟩ :=
    commandPermissionMetadata_frame hexSha256 plan containment delegated
  rw [hverifiedFrame] at hverified
  rw [hlevelFrame] at hcritical
  obtain ⟨-, -, hneeds⟩ := baseMetadata_not_critical hverified hcritical
  obtain ⟨hnil, -⟩ | ⟨identity, hidentity, hglobalKey, hworkspaceKey⟩ :=
    recipeKeys_cases hexSha256 plan containment delegated
  · rw [hnil] at hglobal
    exact absurd rfl hglobal
  obtain ⟨hdomain, hlevel⟩ := plan_of_identity hidentity
  refine ⟨hdomain, hlevel, hneeds, identity, hidentity, ?_⟩
  -- and the key of the rule is the plan's key for its scope
  unfold commandRecipeMatches at hrecipe
  rw [if_neg (by simpa using hkey), hmetadata] at hrecipe
  dsimp only at hrecipe
  rw [Bool.and_eq_true, beq_iff_eq, hglobalKey, hworkspaceKey] at hrecipe
  exact hrecipe.2.symm

end Authority

/-! ## §4. Both. -/

/-- **NO AUTOMATIC RUN OF UNCONTAINED PROJECT CODE.** -/
theorem no_uncontained_project_code
    (sealRecipePathArgument : Bytes → Path → Path → Option PathMetadata) (hexSha256 : Bytes → Bytes)
    (workspaceRecipes : List WorkspaceScriptRecipe) (executable : ResolvedExecutable)
    (plan : CommandPlan) (containment : CommandContainmentInfo) (delegated : Bool)
    (hplan : IsClassified sealRecipePathArgument workspaceRecipes executable plan) :
    ((decideCommand (commandPermissionMetadata hexSha256 plan containment delegated)).action =
        .allow →
      delegated = false ∧ plan.executionDomain = .directArgv ∧
        plan.classification.level = .standard ∧ plan.classification.recipe.isSome = true ∧
        (containment.available = true ∨
          (executable.origin = .system ∧ plan.argv.length = 1 ∧
            (executableName executable = ascii "pwd" ∨ executableName executable = ascii "ls")))) ∧
    (∀ (env : RuleEnvironment) (store : PermissionRuleStore)
      (loaded : Result (List PersistentPermissionRule)) (prompt : PermissionPrompt)
      (rule : PersistentPermissionRule),
      prompt.operation = .runCommand →
      prompt.commandMetadata =
        some (commandPermissionMetadata hexSha256 plan containment delegated) →
      matchPersistentPermissionRule env store loaded prompt = .ok (some rule) →
      rule.action = .allow →
      plan.executionDomain = .directArgv ∧
        (plan.classification.level = .standard ∨ plan.classification.level = .sensitive) ∧
        (needsContainment plan = true → containment.available = true) ∧
        ∃ identity, stableRecipeIdentity hexSha256 plan containment = some identity ∧
          rule.commandRecipeKey =
            if rule.scope = .global then identity.globalKey else identity.workspaceKey) := by
  constructor
  · intro h
    exact allow_is_contained hplan h
  · intro env store loaded prompt rule hprompt hmetadata hmatch hallow
    exact stored_allow_is_contained hprompt hmetadata hmatch hallow

/-- Metadata of a directory, for the plan below. -/
def sampleMetadata (path : String) : PathMetadata where
  requestedPath := ⟨ascii path⟩
  canonicalPath := ⟨ascii path⟩
  device := 1
  inode := 2
  mode := 0o040755
  size := 0
  owner := 0
  group := 0
  linkCount := 1
  changedSeconds := 0
  changedNanoseconds := 0
  requestedPathIsSymlink := false
  requestedDevice := 1
  requestedInode := 2
  requestedMode := 0o040755
  requestedOwner := 0
  requestedGroup := 0
  requestedLinkCount := 1
  requestedChangedSeconds := 0
  requestedChangedNanoseconds := 0
  ancestorMetadata := []

def samplePwd : ResolvedExecutable := ⟨sampleMetadata "/bin/pwd", .system, [], true⟩

/-- The plan of `pwd`. -/
def samplePlan : CommandPlan where
  intentLane := .structuredArgv
  executionDomain := .directArgv
  workspace := ⟨ascii "/w"⟩
  cwd := ⟨ascii "/w"⟩
  workspaceMetadata := sampleMetadata "/w"
  cwdMetadata := sampleMetadata "/w"
  trustedHomeMetadata := sampleMetadata "/h"
  avaAuthorityRoots := []
  avaAuthorityRootMetadata := []
  syntheticEnvironmentRoots :=
    ⟨sampleMetadata "/s", sampleMetadata "/s", sampleMetadata "/s", sampleMetadata "/s",
      sampleMetadata "/s", sampleMetadata "/s"⟩
  argv := [ascii "pwd"]
  rawShellText := []
  pathEntries := []
  resolvedExecutable := some samplePwd
  classification :=
    classifyCommand (fun _ _ _ => none) [ascii "pwd"] samplePwd ⟨ascii "/w"⟩ ⟨ascii "/w"⟩ []
  environmentProfileId := ascii "default"
  environmentDigest := []

theorem pwd_runs_uncontained :
    (decideCommand (commandPermissionMetadata id samplePlan {} false)).action = .allow ∧
      samplePwd.origin = .system ∧ samplePlan.argv.length = 1 := by
  have hallow : (decideCommand (commandPermissionMetadata id samplePlan {} false)).action = .allow := by
    decide
  obtain ⟨-, -, -, -, hcontained⟩ :=
    (no_uncontained_project_code (fun _ _ _ => none) id [] samplePwd samplePlan {} false
      ⟨rfl, Or.inl ⟨rfl, rfl⟩⟩).1 hallow
  rcases hcontained with havailable | ⟨horigin, hlength, -⟩
  · cases havailable
  · exact ⟨hallow, horigin, hlength⟩

end Ava.Permissions
