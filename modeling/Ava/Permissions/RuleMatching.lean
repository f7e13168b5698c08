/-
  Ava.Permissions.RuleMatching
  **WHICH STORED RULE DECIDES A PROMPT** (`permission_rule_matching.cpp`, `permission_rules.cpp`).
  One loop over all rules collects the best matching Deny, the best matching Allow and the first
  path identity that could not be established; the Deny wins, then the failure, then the Allow.

    - §1 the predicates of a match; §2 the loop and the two resolvers;
    - §3 the loop is three independent passes: `matchRules_eq`;
    - §4 deny overrides, whatever the order of the rules.

  The file system enters through `stat`, which is not changed by another process meanwhile.
-/
import Ava.Permissions.Rule
import Mathlib.Data.List.MinMax
import Mathlib.Data.Prod.Lex

namespace Ava.Permissions

open Ava.Core Ava.Command
open Ava.Lib (Path)

/-! ## §1. The predicates of a match. -/

/-- What matching reads besides the rules: the logical directory and the file system. -/
structure RuleEnvironment where
  cwd : LogicalCwd
  stat : Path → StatOutcome

/-- `normalize_rule_target_path`. -/
def normalizeRuleTargetPath (cwd : LogicalCwd) (store : PermissionRuleStore)
    (scope : PermissionRuleScope) (targetPath : Path) : Result Path :=
  if targetPath.text.isEmpty then .ok ⟨[]⟩
  else if !targetPath.isAbsolute then
    if scope = .global then
      .error (({ category := .invalidArgument
                 message := ascii "global permission path rules require an absolute target_path" } :
        Error).withContext "target_path" targetPath.text)
    else if containsParentReference targetPath then
      .error (({ category := .invalidArgument
                 message :=
                  ascii "relative permission rule target_path must stay within the workspace" } :
        Error).withContext "target_path" targetPath.text)
    else .ok (normalizedPath cwd (store.workspaceDir.join targetPath))
  else .ok (normalizedPath cwd targetPath)

/-- `mode_matches`. -/
def modeMatches : PermissionRuleMode → Mode → Bool
  | .any, _ => true
  | .build, mode => mode == .build
  | .plan, mode => mode == .plan

/-- `scope_matches`. -/
def scopeMatches (cwd : LogicalCwd) (store : PermissionRuleStore) (rule : PersistentPermissionRule)
    (prompt : PermissionPrompt) : Bool :=
  if rule.scope = .global then true
  else
    let storeWorkspace := normalizedPath cwd store.workspaceDir
    rule.workspaceDir.same storeWorkspace &&
      (normalizedPath cwd prompt.workspaceDir).same storeWorkspace

variable (env : RuleEnvironment) (store : PermissionRuleStore)

/-- `path_matches`: an Allow is for its exact path, a Deny also for other names of the file. -/
def pathMatches (rule : PersistentPermissionRule) (prompt : PermissionPrompt) : Result Bool :=
  if rule.targetPath.text.isEmpty then .ok true
  else if prompt.targetPath.text.isEmpty then .ok false
  else
    match normalizeRuleTargetPath env.cwd store rule.scope prompt.targetPath with
    | .error _ => .ok false
    | .ok target =>
      if target.same rule.targetPath then .ok true
      else if rule.action ≠ .deny then .ok false
      else pathsReferToSameFile env.cwd env.stat target rule.targetPath

variable (rule : PersistentPermissionRule)

/-- `command_recipe_matches`. -/
def commandRecipeMatches (prompt : PermissionPrompt) : Bool :=
  if rule.commandRecipeKey.isEmpty then true
  else
    match prompt.commandMetadata with
    | none => false
    | some metadata =>
      let key := if rule.scope = .global then metadata.globalRecipeKey
        else metadata.workspaceRecipeKey
      !key.isEmpty && key == rule.commandRecipeKey

/-- `rule_matches`. -/
def ruleMatches (prompt : PermissionPrompt) (rule : PersistentPermissionRule) : Result Bool :=
  if rule.operation ≠ prompt.operation then .ok false
  else if !modeMatches rule.mode prompt.mode then .ok false
  else if !scopeMatches env.cwd store rule prompt then .ok false
  else if !rule.toolName.isEmpty && rule.toolName != prompt.toolName then .ok false
  else if !commandRecipeMatches rule prompt then .ok false
  else if !(rule.operation == .runCommand && !rule.commandRecipeKey.isEmpty) &&
      !rule.command.isEmpty && rule.command != prompt.command then .ok false
  else pathMatches env store rule prompt

/-- `command_prompt_allows_persistent_allow`. -/
def commandPromptAllowsPersistentAllow (prompt : PermissionPrompt) : Bool :=
  match prompt.commandMetadata with
  | none => true
  | some metadata =>
    commandPermissionAllowsReusableGrant metadata &&
      metadata.effectiveAllowedScopes.contains .workspace

/-- `command_allow_is_authoritative`. -/
def commandAllowIsAuthoritative (prompt : PermissionPrompt) : Bool :=
  if rule.operation ≠ .runCommand ∨ rule.action ≠ .allow ∨
      rule.schemaVersion ≠ kCurrentPermissionRulesSchemaVersion ∨ prompt.commandMetadata = none then
    false
  else if !rule.commandRecipeKey.isEmpty then
    commandPromptAllowsPersistentAllow prompt && commandRecipeMatches rule prompt
  else false

/-! ## §2. The loop. -/

/-- `workspace_rule`. -/
def workspaceRule : Bool := rule.scope == .workspace

/-- `rule_specificity`. -/
def ruleSpecificity : Nat :=
  (if rule.targetPath.text.isEmpty then 0 else 1) + (if rule.command.isEmpty then 0 else 1) +
    (if rule.commandRecipeKey.isEmpty then 0 else 1) + (if rule.toolName.isEmpty then 0 else 1) +
    (if rule.mode = .any then 0 else 1)

/-- `prefer_more_specific`. -/
def preferMoreSpecific (current candidate : PersistentPermissionRule) : PersistentPermissionRule :=
  if !workspaceRule current && workspaceRule candidate then candidate
  else if workspaceRule current == workspaceRule candidate &&
      ruleSpecificity candidate > ruleSpecificity current then candidate
  else current

/-- The variables of the loop. -/
structure Matched where
  deny : Option PersistentPermissionRule := none
  allow : Option PersistentPermissionRule := none
  identityError : Option Error := none

/-- `matched ? prefer_more_specific(*matched, rule) : rule`. -/
def keepBest (best : Option PersistentPermissionRule) (rule : PersistentPermissionRule) :
    Option PersistentPermissionRule :=
  match best with
  | some current => some (preferMoreSpecific current rule)
  | none => some rule

/-- The loop body. -/
def considerRule (prompt : PermissionPrompt) (matched : Matched) (rule : PersistentPermissionRule) :
    Matched :=
  match ruleMatches env store prompt rule with
  | .error e => { matched with identityError := matched.identityError.or (some e) }
  | .ok false => matched
  | .ok true =>
    if rule.action = .deny then { matched with deny := keepBest matched.deny rule }
    else if rule.operation = .runCommand ∧ commandAllowIsAuthoritative rule prompt = false then
      matched
    else { matched with allow := keepBest matched.allow rule }

/-- `match_persistent_permission_rule`, once the rules are loaded. -/
def matchRules (prompt : PermissionPrompt) (rules : List PersistentPermissionRule) :
    Result (Option PersistentPermissionRule) :=
  let matched := rules.foldl (considerRule env store prompt) {}
  match matched.deny with
  | some rule => .ok (some rule)
  | none =>
    match matched.identityError with
    | some e => .error e
    | none => .ok matched.allow

/-- `match_persistent_permission_rule`; `loaded` is what `load_persistent_permission_rules` returns. -/
def matchPersistentPermissionRule (loaded : Result (List PersistentPermissionRule))
    (prompt : PermissionPrompt) : Result (Option PersistentPermissionRule) :=
  match loaded with
  | .error e => .error e
  | .ok rules => matchRules env store prompt rules

inductive PermissionResolution where
  | allow | deny | allowSessionGrant | cancel
deriving Repr, DecidableEq

/-- `PermissionResolutionDecision`, without the one-shot guidance of a user. -/
structure PermissionResolutionDecision where
  resolution : PermissionResolution
  reason : Bytes := []
  resolutionSource : Bytes := []
  ruleId : Bytes := []
  authoritative : Bool := false
deriving Repr, DecidableEq

/-- What both resolvers answer when the rules could not be matched. -/
def ruleErrorDecision (e : Error) : PermissionResolutionDecision where
  resolution := .deny
  reason := e.format
  resolutionSource := ascii "persistent_rule_error"
  authoritative := true

/-- What a matched rule makes of the prompt. -/
def ruleDecision (resolution : PermissionResolution) : PermissionResolutionDecision where
  resolution := resolution
  reason := rule.reason
  resolutionSource := ascii "persistent_rule"
  ruleId := rule.ruleId
  authoritative := true

/-- `build_persistent_permission_rule_resolver`. -/
def persistentPermissionRuleResolver (loaded : Result (List PersistentPermissionRule))
    (fallback : Option (PermissionPrompt → Result PermissionResolutionDecision))
    (prompt : PermissionPrompt) : Result PermissionResolutionDecision :=
  match matchPersistentPermissionRule env store loaded prompt with
  | .error e => .ok (ruleErrorDecision e)
  | .ok (some rule) => .ok (ruleDecision rule (if rule.action = .allow then .allow else .deny))
  | .ok none =>
    match fallback with
    | some fallback => fallback prompt
    | none => .ok { resolution := .deny }

/-- `build_persistent_permission_deny_preflight`. -/
def persistentPermissionDenyPreflight (loaded : Result (List PersistentPermissionRule))
    (prompt : PermissionPrompt) : Result PermissionResolutionDecision :=
  let noDeny : PermissionResolutionDecision :=
    { resolution := .allow
      reason := ascii "no persistent deny matched"
      resolutionSource := ascii "persistent_deny_preflight"
      authoritative := true }
  match matchPersistentPermissionRule env store loaded prompt with
  | .error e => .ok (ruleErrorDecision e)
  | .ok (some rule) => .ok (if rule.action = .deny then ruleDecision rule .deny else noDeny)
  | .ok none => .ok noDeny

/-! ## §3. Three passes. -/

section Passes

variable (env : RuleEnvironment) (store : PermissionRuleStore) (prompt : PermissionPrompt)

/-- A Deny that matches. -/
def denies (rule : PersistentPermissionRule) : Bool :=
  match ruleMatches env store prompt rule with
  | .ok true => rule.action == .deny
  | _ => false

/-- Another rule that matches and, for a command, is authoritative. -/
def allows (rule : PersistentPermissionRule) : Bool :=
  match ruleMatches env store prompt rule with
  | .ok true => rule.action != .deny &&
      (rule.operation != .runCommand || commandAllowIsAuthoritative rule prompt)
  | _ => false

/-- The failure of an identity check. -/
def identityFailure (rule : PersistentPermissionRule) : Option Error :=
  match ruleMatches env store prompt rule with
  | .error e => some e
  | .ok _ => none

/-- What rules of one action are compared by. -/
def rank (rule : PersistentPermissionRule) : Bool ×ₗ Nat :=
  toLex (workspaceRule rule, ruleSpecificity rule)

theorem preferMoreSpecific_eq (current candidate : PersistentPermissionRule) :
    preferMoreSpecific current candidate =
      if rank current < rank candidate then candidate else current := by
  unfold preferMoreSpecific rank
  simp only [Prod.Lex.toLex_lt_toLex]
  cases hcurrent : workspaceRule current with
  | true | false =>
    cases hcandidate : workspaceRule candidate with
    | true | false => simp

/-- The running preference is the first rule of maximal rank. -/
theorem foldl_keepBest (rules : List PersistentPermissionRule) :
    rules.foldl keepBest none = rules.argmax rank := by
  have hstep : keepBest = List.argAux fun b c => rank c < rank b := by
    funext best rule
    cases best with
    | none => rfl
    | some current =>
      show some (preferMoreSpecific current rule) = if _ then some rule else some current
      rw [preferMoreSpecific_eq]
      split <;> rfl
  rw [hstep]
  rfl

theorem foldl_considerRule : ∀ (rules : List PersistentPermissionRule) (matched : Matched),
    rules.foldl (considerRule env store prompt) matched =
      { deny := (rules.filter (denies env store prompt)).foldl keepBest matched.deny
        allow := (rules.filter (allows env store prompt)).foldl keepBest matched.allow
        identityError :=
          matched.identityError.or (rules.findSome? (identityFailure env store prompt)) } := by
  intro rules
  induction rules with
  | nil =>
    intro matched
    simp
  | cons rule rules ih =>
    intro matched
    rw [List.foldl_cons, ih, List.filter_cons, List.filter_cons, List.findSome?_cons]
    unfold considerRule
    cases hmatch : ruleMatches env store prompt rule with
    | error e =>
      have hd : denies env store prompt rule = false := by unfold denies; rw [hmatch]
      have ha : allows env store prompt rule = false := by unfold allows; rw [hmatch]
      have hf : identityFailure env store prompt rule = some e := by
        unfold identityFailure; rw [hmatch]
      simp only [hd, ha, hf, Bool.false_eq_true, if_false]
      cases matched.identityError with
      | none | some first => rfl
    | ok decided =>
      have hf : identityFailure env store prompt rule = none := by
        unfold identityFailure; rw [hmatch]
      cases decided with
      | false =>
        have hd : denies env store prompt rule = false := by unfold denies; rw [hmatch]
        have ha : allows env store prompt rule = false := by unfold allows; rw [hmatch]
        simp only [hd, ha, hf, Bool.false_eq_true, if_false]
      | true =>
        have hd : denies env store prompt rule = (rule.action == .deny) := by
          unfold denies; rw [hmatch]
        have ha : allows env store prompt rule = (rule.action != .deny &&
            (rule.operation != .runCommand || commandAllowIsAuthoritative rule prompt)) := by
          unfold allows; rw [hmatch]
        by_cases hdeny : rule.action = .deny
        · simp [hd, ha, hf, hdeny]
        · by_cases hskip : rule.operation = .runCommand ∧
              commandAllowIsAuthoritative rule prompt = false
          · simp [hd, ha, hf, hdeny, hskip.1, hskip.2]
          · have hallow : (rule.operation != .runCommand ||
                commandAllowIsAuthoritative rule prompt) = true := by
              by_cases hop : rule.operation = .runCommand
              · have hauth : commandAllowIsAuthoritative rule prompt ≠ false :=
                  fun h => hskip ⟨hop, h⟩
                simpa [hop] using hauth
              · simp [hop]
            simp only [hd, ha, hf, hallow, if_neg hdeny, if_neg hskip, Bool.and_true]
            simp [hdeny]

/-- **THE LOOP IN ONE LINE.**  The best Deny, else the first failure, else the best Allow. -/
theorem matchRules_eq (rules : List PersistentPermissionRule) :
    matchRules env store prompt rules =
      match (rules.filter (denies env store prompt)).argmax rank with
      | some rule => .ok (some rule)
      | none =>
        match rules.findSome? (identityFailure env store prompt) with
        | some e => .error e
        | none => .ok ((rules.filter (allows env store prompt)).argmax rank) := by
  unfold matchRules
  rw [foldl_considerRule]
  simp only [foldl_keepBest, Option.none_or]

/-! ## §4. Deny overrides. -/

/-- A rule that matches and, where it allows a command, is authoritative. -/
def Counts (rule : PersistentPermissionRule) : Prop :=
  ruleMatches env store prompt rule = .ok true ∧
    (rule.action = .allow → rule.operation = .runCommand →
      commandAllowIsAuthoritative rule prompt = true)

/-- What the rules make of a prompt. -/
inductive RuleOutcome where
  | denied | failed | allowed | unmatched
deriving Repr, DecidableEq

def RuleOutcome.of : Result (Option PersistentPermissionRule) → RuleOutcome
  | .error _ => .failed
  | .ok none => .unmatched
  | .ok (some rule) => if rule.action = .deny then .denied else .allowed

def DenyMatches (rules : List PersistentPermissionRule) : Prop :=
  ∃ rule ∈ rules, rule.action = .deny ∧ Counts env store prompt rule

def IdentityFails (rules : List PersistentPermissionRule) : Prop :=
  ∃ rule ∈ rules, rule.action = .deny ∧ ∃ e, ruleMatches env store prompt rule = .error e

def AllowMatches (rules : List PersistentPermissionRule) : Prop :=
  ∃ rule ∈ rules, rule.action = .allow ∧ Counts env store prompt rule

open Classical in
/-- The intended outcome, as a statement about the set of rules. -/
noncomputable def intendedOutcome (rules : List PersistentPermissionRule) : RuleOutcome :=
  if DenyMatches env store prompt rules then .denied
  else if IdentityFails env store prompt rules then .failed
  else if AllowMatches env store prompt rules then .allowed
  else .unmatched

variable {env store prompt}

variable {rule : PersistentPermissionRule}

theorem denies_iff :
    denies env store prompt rule = true ↔ rule.action = .deny ∧ Counts env store prompt rule := by
  unfold denies Counts
  split
  next hmatch =>
    rw [beq_iff_eq]
    constructor
    · intro hdeny
      refine ⟨hdeny, hmatch, ?_⟩
      intro hallow
      rw [hdeny] at hallow
      cases hallow
    · exact fun h => h.1
  next hmatch =>
    constructor
    · intro h
      cases h
    · intro h
      exact absurd h.2.1 hmatch

theorem allows_iff (hvalid : rule.Valid) :
    allows env store prompt rule = true ↔ rule.action = .allow ∧ Counts env store prompt rule := by
  have hask := hvalid.action_ne_ask
  unfold allows Counts
  split
  next hmatch =>
    simp only [Bool.and_eq_true, bne_iff_ne, ne_eq, Bool.or_eq_true]
    constructor
    · rintro ⟨hdeny, hcommand⟩
      have hallow : rule.action = .allow := by
        cases haction : rule.action with
        | allow => rfl
        | ask => exact absurd haction hask
        | deny => exact absurd haction hdeny
      refine ⟨hallow, hmatch, ?_⟩
      intro _ hop
      exact hcommand.resolve_left (fun h => h hop)
    · rintro ⟨hallow, -, hcommand⟩
      refine ⟨by simp [hallow], ?_⟩
      by_cases hop : rule.operation = .runCommand
      · exact Or.inr (hcommand hallow hop)
      · exact Or.inl hop
  next hmatch =>
    constructor
    · intro h
      cases h
    · intro h
      exact absurd h.2.1 hmatch

/-- A rule that matches is for the operation of the prompt. -/
theorem operation_of_matches (h : ruleMatches env store prompt rule = .ok true) :
    rule.operation = prompt.operation := by
  by_contra hne
  unfold ruleMatches at h
  rw [if_pos hne] at h
  cases h

/-- Only the identity check of a Deny can fail. -/
theorem action_of_error {e : Error} (h : ruleMatches env store prompt rule = .error e) :
    rule.action = .deny := by
  by_contra hdeny
  unfold ruleMatches at h
  split_ifs at h
  -- every other comparison gives an answer
  unfold pathMatches at h
  split_ifs at h
  split at h
  · cases h
  · split_ifs at h

variable {rules : List PersistentPermissionRule}

theorem identityFails_iff :
    IdentityFails env store prompt rules ↔
      ∃ e, rules.findSome? (identityFailure env store prompt) = some e := by
  constructor
  · rintro ⟨rule, hmem, -, e, he⟩
    have hfail : identityFailure env store prompt rule = some e := by
      unfold identityFailure
      rw [he]
    have hsome : (rules.findSome? (identityFailure env store prompt)).isSome = true := by
      rw [List.findSome?_isSome_iff]
      exact ⟨rule, hmem, by rw [hfail]; rfl⟩
    exact Option.isSome_iff_exists.mp hsome
  · rintro ⟨e, he⟩
    obtain ⟨rule, hmem, hfail⟩ := List.exists_of_findSome?_eq_some he
    unfold identityFailure at hfail
    split at hfail
    next e' herror => exact ⟨rule, hmem, action_of_error herror, e', herror⟩
    next => cases hfail

/-- The best of the rules that pass a test: there is one unless none passes, it passes, and no
    other one that passes ranks higher. -/
theorem argmax_filter {test : PersistentPermissionRule → Bool}
    (h : (rules.filter test).argmax rank = some rule) :
    rule ∈ rules ∧ test rule = true ∧ ∀ other ∈ rules, test other = true → rank other ≤ rank rule := by
  have hmem := List.argmax_mem (Option.mem_def.mpr h)
  rw [List.mem_filter] at hmem
  refine ⟨hmem.1, hmem.2, ?_⟩
  intro other hother htest
  exact List.le_of_mem_argmax (List.mem_filter.mpr ⟨hother, htest⟩) (Option.mem_def.mpr h)

theorem argmax_filter_none {test : PersistentPermissionRule → Bool} :
    (rules.filter test).argmax rank = none ↔ ∀ rule ∈ rules, test rule = false := by
  rw [List.argmax_eq_none, List.filter_eq_nil_iff]
  simp

/-- **THE RETURNED RULE** matches, is of the winning action, and ranks highest among such rules. -/
theorem matchRules_best (hvalid : ∀ rule ∈ rules, rule.Valid)
    (h : matchRules env store prompt rules = .ok (some rule)) :
    rule ∈ rules ∧ Counts env store prompt rule ∧
      ∀ other ∈ rules, other.action = rule.action → Counts env store prompt other →
        rank other ≤ rank rule := by
  rw [matchRules_eq] at h
  split at h
  next best hbest =>
    cases h
    obtain ⟨hmem, htest, hmax⟩ := argmax_filter hbest
    obtain ⟨hdeny, hcounts⟩ := denies_iff.mp htest
    refine ⟨hmem, hcounts, ?_⟩
    intro other hother haction hother'
    exact hmax other hother (denies_iff.mpr ⟨haction.trans hdeny, hother'⟩)
  split at h
  next => cases h
  simp only [Except.ok.injEq] at h
  obtain ⟨hmem, htest, hmax⟩ := argmax_filter h
  obtain ⟨hallow, hcounts⟩ := (allows_iff (hvalid rule hmem)).mp htest
  refine ⟨hmem, hcounts, ?_⟩
  intro other hother haction hother'
  exact hmax other hother ((allows_iff (hvalid other hother)).mpr ⟨haction.trans hallow, hother'⟩)

/-- **THE LOOP MEETS ITS INTENT.** -/
theorem outcome_matchRules (hvalid : ∀ rule ∈ rules, rule.Valid) :
    RuleOutcome.of (matchRules env store prompt rules) = intendedOutcome env store prompt rules := by
  unfold intendedOutcome
  rw [matchRules_eq]
  split
  next best hbest =>
    obtain ⟨hmem, htest, -⟩ := argmax_filter hbest
    have hdeny := denies_iff.mp htest
    rw [if_pos ⟨best, hmem, hdeny⟩]
    exact if_pos hdeny.1
  next hnone =>
    have hdeny : ¬ DenyMatches env store prompt rules := by
      rintro ⟨rule, hmem, hcounts⟩
      have := argmax_filter_none.mp hnone rule hmem
      rw [denies_iff.mpr hcounts] at this
      cases this
    rw [if_neg hdeny]
    split
    next e he =>
      rw [if_pos (identityFails_iff.mpr ⟨e, he⟩)]
      rfl
    next hok =>
      rw [if_neg (by
        rw [identityFails_iff]
        rintro ⟨e, he⟩
        rw [hok] at he
        cases he)]
      cases hallow : (rules.filter (allows env store prompt)).argmax rank with
      | some best =>
        obtain ⟨hmem, htest, -⟩ := argmax_filter hallow
        have hbest := (allows_iff (hvalid best hmem)).mp htest
        rw [if_pos ⟨best, hmem, hbest⟩]
        exact if_neg (by rw [hbest.1]; decide)
      | none =>
        rw [if_neg]
        · rfl
        · rintro ⟨rule, hmem, hcounts⟩
          have := argmax_filter_none.mp hallow rule hmem
          rw [(allows_iff (hvalid rule hmem)).mpr hcounts] at this
          cases this

/-- The intent depends on which rules there are, not on their order. -/
theorem intendedOutcome_congr {rules' : List PersistentPermissionRule}
    (h : ∀ rule, rule ∈ rules' ↔ rule ∈ rules) :
    intendedOutcome env store prompt rules' = intendedOutcome env store prompt rules := by
  have hdeny : DenyMatches env store prompt rules' ↔ DenyMatches env store prompt rules := by
    unfold DenyMatches
    simp only [h]
  have hfails : IdentityFails env store prompt rules' ↔ IdentityFails env store prompt rules := by
    unfold IdentityFails
    simp only [h]
  have hallow : AllowMatches env store prompt rules' ↔ AllowMatches env store prompt rules := by
    unfold AllowMatches
    simp only [h]
  classical
  unfold intendedOutcome
  exact if_congr hdeny rfl (if_congr hfails rfl (if_congr hallow rfl rfl))

/-- One more Deny leaves no new way to an Allow. -/
theorem allowed_of_more_deny {before after : List PersistentPermissionRule}
    {deny : PersistentPermissionRule} (hdeny : deny.action = .deny)
    (h : RuleOutcome.of (matchRules env store prompt (before ++ deny :: after)) = .allowed) :
    RuleOutcome.of (matchRules env store prompt (before ++ after)) = .allowed := by
  -- a Deny passes neither test, so the Allows are the same and nothing else got in the way
  rw [matchRules_eq] at h ⊢
  have hsub : before ++ after ⊆ before ++ deny :: after :=
    ((List.sublist_cons_self deny after).append_left before).subset
  have hallows : allows env store prompt deny = false := by
    unfold allows
    split
    · simp [hdeny]
    · rfl
  split at h
  next best hbest =>
    obtain ⟨hmem, htest, -⟩ := argmax_filter hbest
    simp [RuleOutcome.of, (denies_iff.mp htest).1] at h
  next hnone =>
    have hnone' : ((before ++ after).filter (denies env store prompt)).argmax rank = none := by
      rw [argmax_filter_none] at hnone ⊢
      exact fun rule hrule => hnone rule (hsub hrule)
    rw [hnone']
    split at h
    next => cases h
    next hok =>
      have hok' : (before ++ after).findSome? (identityFailure env store prompt) = none := by
        rw [List.findSome?_eq_none_iff] at hok ⊢
        exact fun rule hrule => hok rule (hsub hrule)
      have hfilter : (before ++ deny :: after).filter (allows env store prompt) =
          (before ++ after).filter (allows env store prompt) := by
        rw [List.filter_append, List.filter_append, List.filter_cons_of_neg (by simp [hallows])]
      rw [hok']
      rw [hfilter] at h
      exact h

end Passes

/-- **DENY OVERRIDES, ORDER DOES NOT MATTER.**  For every list of valid rules: the outcome is the
    intended one and the same for every permutation; the returned rule is one of highest rank among
    those of the winning action; no additional Deny makes an Allow of another outcome; and an error
    is a Deny to both resolvers. -/
theorem deny_overrides_in_any_order (env : RuleEnvironment) (store : PermissionRuleStore)
    (prompt : PermissionPrompt) (rules : List PersistentPermissionRule)
    (hvalid : ∀ rule ∈ rules, rule.Valid) :
    let run := fun rules => matchPersistentPermissionRule env store (.ok rules) prompt
    RuleOutcome.of (run rules) = intendedOutcome env store prompt rules ∧
    (∀ rules', rules'.Perm rules → RuleOutcome.of (run rules') = RuleOutcome.of (run rules)) ∧
    (∀ rule, run rules = .ok (some rule) →
      rule ∈ rules ∧ Counts env store prompt rule ∧
        ∀ other ∈ rules, other.action = rule.action → Counts env store prompt other →
          rank other ≤ rank rule) ∧
    (∀ deny before after, deny.action = .deny → rules = before ++ after →
      RuleOutcome.of (run (before ++ deny :: after)) = .allowed →
      RuleOutcome.of (run rules) = .allowed) ∧
    (∀ e, run rules = .error e →
      (∀ fallback, ∃ d, persistentPermissionRuleResolver env store (.ok rules) fallback prompt = .ok d ∧
        d.resolution = .deny ∧ d.authoritative = true) ∧
      ∃ d, persistentPermissionDenyPreflight env store (.ok rules) prompt = .ok d ∧
        d.resolution = .deny ∧ d.authoritative = true) := by
  intro run
  refine ⟨outcome_matchRules hvalid, ?_, ?_, ?_, ?_⟩
  · intro rules' hperm
    have hvalid' : ∀ rule ∈ rules', rule.Valid := fun rule hrule =>
      hvalid rule (hperm.mem_iff.mp hrule)
    show RuleOutcome.of (matchRules env store prompt rules') =
      RuleOutcome.of (matchRules env store prompt rules)
    rw [outcome_matchRules hvalid, outcome_matchRules hvalid']
    exact intendedOutcome_congr fun rule => hperm.mem_iff
  · intro rule h
    exact matchRules_best hvalid h
  · intro deny before after hdeny hsplit h
    subst hsplit
    exact allowed_of_more_deny hdeny h
  · intro e he
    have hrun : matchPersistentPermissionRule env store (.ok rules) prompt = .error e := he
    constructor
    · intro fallback
      refine ⟨ruleErrorDecision e, ?_, rfl, rfl⟩
      unfold persistentPermissionRuleResolver
      rw [hrun]
    · refine ⟨ruleErrorDecision e, ?_, rfl, rfl⟩
      unfold persistentPermissionDenyPreflight
      rw [hrun]

/-- A rule on a file of a workspace, for the witness below. -/
def sampleRule (id : String) (action : PermissionAction) : PersistentPermissionRule where
  ruleId := ascii id
  scope := .workspace
  workspaceDir := ⟨ascii "/w"⟩
  action := action
  operation := .readFile
  mode := .any
  toolName := []
  targetPath := ⟨ascii "/w/notes"⟩
  command := []
  commandRecipeKey := []
  recipeDisplay := []
  criticalAcknowledged := false
  schemaVersion := 2
  reason := ascii "chosen"
  actor := ascii "rpc"
  createdAt := ascii "2026-01-01T00:00:00Z"

theorem deny_overrides_an_allow :
    let env : RuleEnvironment := ⟨⟨⟨ascii "/w"⟩, rfl⟩, fun _ => .missing⟩
    let store : PermissionRuleStore := ⟨⟨ascii "/c/rules.json"⟩, ⟨[]⟩, ⟨ascii "/w"⟩⟩
    let prompt : PermissionPrompt :=
      ⟨.readFile, .build, ⟨ascii "/w"⟩, ⟨ascii "/w/notes"⟩, [], ascii "read_file", none⟩
    RuleOutcome.of (matchPersistentPermissionRule env store
      (.ok [sampleRule "a" .allow, sampleRule "d" .deny]) prompt) = .denied := by
  intro env store prompt
  have h := (deny_overrides_in_any_order env store prompt
    [sampleRule "a" .allow, sampleRule "d" .deny] (by
      intro rule hrule
      rw [← @validateRule_iff _ ⟨[]⟩ none]
      rcases List.mem_cons.mp hrule with rfl | hrule
      · decide
      · rw [List.mem_singleton.mp hrule]
        decide)).1
  rw [h]
  unfold intendedOutcome
  rw [if_pos]
  refine ⟨sampleRule "d" .deny, by simp, rfl, ?_, ?_⟩
  · decide
  · intro h
    cases h

end Ava.Permissions
