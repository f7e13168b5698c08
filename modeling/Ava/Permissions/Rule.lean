/-
  Ava.Permissions.Rule
  **PERSISTENT PERMISSION RULES** (`permissions/permission_rules.h`, `permission_rule_codec.cpp`,
  `permission_rule_path.cpp`).  What a stored rule and a prompt are, which rules are valid, and the
  path identity a rule is compared by.

    - §1 operations, scopes, modes; §2 rules, drafts, prompts, stores;
    - §3 commands that a repository controls; §4 validation;
    - §5 normalised paths and the file behind a path.

  A prompt also carries ids, a reason, a risk and a diff preview, which no rule looks at.
-/
import Ava.Core.Path
import Ava.Core.Json
import Ava.Command.Intent
import Ava.Permissions.CommandDecision

namespace Ava.Permissions

open Ava.Core Ava.Core.Json Ava.Command
open Ava.Lib (Path)

/-! ## §1. Enumerations. -/

/-- `ava::core::Mode`. -/
inductive Mode where
  | build | plan
deriving Repr, DecidableEq

inductive Operation where
  | readFile | searchFiles | editFile | runCommand | networkFetch | networkSearch
  | lspServerLaunch | lspQuery | skillLoad | taskRun | pluginExecute | pluginToolCall
  | pluginCommandRun | pluginUiPresent | pluginEventObserve | mcpServerLaunch | mcpServerConnect
  | mcpToolCall | mcpResourceRead
deriving Repr, DecidableEq

inductive PermissionRuleScope where
  | global | workspace
deriving Repr, DecidableEq

inductive PermissionRuleMode where
  | any | build | plan
deriving Repr, DecidableEq

/-! ## §2. Rules and prompts. -/

def kLegacyPermissionRulesSchemaVersion : Int := 1
def kCurrentPermissionRulesSchemaVersion : Int := 2

/-- `PermissionRuleStore`, without the anchor set (open descriptors). -/
structure PermissionRuleStore where
  globalRulesFile : Path
  workspaceRulesFile : Path
  workspaceDir : Path
deriving Repr, DecidableEq

/-- `PersistentPermissionRule`. -/
structure PersistentPermissionRule where
  ruleId : Bytes
  scope : PermissionRuleScope
  workspaceDir : Path
  action : PermissionAction
  operation : Operation
  mode : PermissionRuleMode
  toolName : Bytes
  targetPath : Path
  command : Bytes
  commandRecipeKey : Bytes
  recipeDisplay : Bytes
  criticalAcknowledged : Bool
  schemaVersion : Int
  reason : Bytes
  actor : Bytes
  createdAt : Bytes
deriving Repr, DecidableEq

/-- `PermissionRuleDraft`. -/
structure PermissionRuleDraft where
  scope : PermissionRuleScope
  action : PermissionAction
  operation : Operation
  mode : PermissionRuleMode
  toolName : Bytes
  targetPath : Path
  command : Bytes
  commandRecipeKey : Bytes
  recipeDisplay : Bytes
  criticalAcknowledged : Bool
  reason : Bytes
  actor : Bytes
deriving Repr, DecidableEq

/-- `PermissionPrompt`. -/
structure PermissionPrompt where
  operation : Operation
  mode : Mode
  workspaceDir : Path
  targetPath : Path
  command : Bytes
  toolName : Bytes
  commandMetadata : Option CommandPermissionMetadata
deriving Repr, DecidableEq

/-- `rule_file_error`. -/
def ruleFileError (category : ErrorCategory) (message : String) (path : Path) : Error :=
  ({ category := category, message := ascii message } : Error).withContext "path" path.text

/-- `rule_parse_error`. -/
def ruleParseError (message : String) (path : Path) (field : Bytes) (index : Option Nat) : Error :=
  let error := ruleFileError .invalidArgument message path
  let error := if field.isEmpty then error else error.withContext "field" field
  match index with
  | some index => error.withContext "rule_index" (decimal index)
  | none => error

/-! ## §3. Commands that a repository controls. -/

/-- `is_shell_metacharacter` of the permission rules. -/
def isRuleMetacharacter (c : UInt8) : Bool := (ascii ";&|<>`$()").contains c

/-- The loop of `parse_command_argv`. -/
def parseCommandLoop : Bytes → List Bytes → Bytes → Option UInt8 → Bool → Except Bytes (List Bytes)
  | [], argv, current, openQuote, escaping =>
    if escaping || openQuote.isSome then .error (ascii "unterminated command escape or quote")
    else
      let argv := if current.isEmpty then argv else argv ++ [current]
      if argv.isEmpty then .error (ascii "empty command") else .ok argv
  | c :: s, argv, current, openQuote, escaping =>
    if isC0OrDel c then .error (ascii "command contains a forbidden control byte")
    else if escaping then parseCommandLoop s argv (current ++ [c]) openQuote false
    else if c = backslash then parseCommandLoop s argv current openQuote true
    else
      match openQuote with
      | some q =>
        if c = q then parseCommandLoop s argv current none false
        else parseCommandLoop s argv (current ++ [c]) (some q) false
      | none =>
        if c = 39 || c = quote then parseCommandLoop s argv current (some c) false
        else if isRuleMetacharacter c then
          .error (ascii "shell metacharacters are not supported by the command tool")
        else if isAsciiSpace c then
          parseCommandLoop s (if current.isEmpty then argv else argv ++ [current]) [] none false
        else parseCommandLoop s argv (current ++ [c]) none false

/-- `parse_command_argv`. -/
def parseCommandArgv (command : Bytes) : Except Bytes (List Bytes) :=
  parseCommandLoop command [] [] none false

/-- `is_repository_controlled_build_or_test_command`. -/
def isRepositoryControlledBuildOrTestCommand (command : Bytes) : Bool :=
  match parseCommandArgv command with
  | .error _ => false
  | .ok argv =>
    let argv := argv.map asciiLowerCopy
    let executable := asciiLowerCopy (⟨argv.headD []⟩ : Path).filename
    executable == ascii "ctest" ||
      (executable == ascii "cmake" && argv.any fun argument =>
        isOneOf argument ["--build", "--build-and-test", "--workflow"] ||
          (ascii "--build=").isPrefixOf argument)

/-! ## §4. Validation. -/

def kMaxPermissionRuleReasonBytes : Nat := 1024
def kMaxPermissionRuleCommandBytes : Nat := 8192
def kMaxPermissionRuleIdentifierBytes : Nat := 256
def kMaxPermissionRecipeKeyBytes : Nat := 128
def kMaxPermissionRecipeDisplayBytes : Nat := 1024

/-- `recipe_key_prefix`. -/
def recipeKeyStart : PermissionRuleScope → Bytes
  | .global => ascii "sha256:ava-command-recipe-v1:"
  | .workspace => ascii "sha256:ava-command-workspace-recipe-v1:"

/-- `valid_recipe_key`. -/
def validRecipeKey (value : Bytes) (scope : PermissionRuleScope) : Bool :=
  let start := recipeKeyStart scope
  start.isPrefixOf value && value.length == start.length + 64 &&
    value.length ≤ kMaxPermissionRecipeKeyBytes &&
    (value.drop start.length).all fun c => isDigit c || (97 ≤ c && c ≤ 102)

/-- `valid_identifier`. -/
def validIdentifier (value : Bytes) : Bool :=
  !value.isEmpty && value.length ≤ kMaxPermissionRuleIdentifierBytes &&
    value.all fun c => isAlnum c || c == 95 || c == 45 || c == 46

/-- `is_path_operation`. -/
def isPathOperation : Operation → Bool
  | .readFile | .searchFiles | .editFile | .lspQuery => true
  | _ => false

/-- `is_command_operation`. -/
def isCommandOperation : Operation → Bool
  | .runCommand | .networkFetch | .networkSearch | .lspServerLaunch | .mcpResourceRead => true
  | _ => false

/-- One check of `validate_rule`: the fault it looks for, the message, the field it names. -/
structure RuleCheck where
  faulty : PersistentPermissionRule → Bool
  message : String
  field : String

/-- The checks of `validate_rule`, in their order. -/
def ruleChecks : List RuleCheck :=
  [⟨fun rule => !validIdentifier rule.ruleId, "permission rule id is invalid", "rule_id"⟩,
    ⟨fun rule => rule.action == .ask, "persistent permission rules only support allow or deny",
      "action"⟩,
    ⟨fun rule => rule.schemaVersion != kLegacyPermissionRulesSchemaVersion &&
        rule.schemaVersion != kCurrentPermissionRulesSchemaVersion,
      "permission rule schema_version is invalid", "schema_version"⟩,
    ⟨fun rule => rule.criticalAcknowledged &&
        (rule.operation != .runCommand || rule.action != .allow),
      "critical_acknowledged is valid only for exact RunCommand allows", "critical_acknowledged"⟩,
    ⟨fun rule => rule.criticalAcknowledged && isRepositoryControlledBuildOrTestCommand rule.command,
      "critical_acknowledged cannot authorize repository-controlled cmake build or ctest commands",
      "critical_acknowledged"⟩,
    ⟨fun rule => !rule.actor.isEmpty && (!validIdentifier rule.actor || hasC0OrDel rule.actor),
      "permission rule actor is invalid", "actor"⟩,
    ⟨fun rule => rule.reason.isEmpty || rule.reason.length > kMaxPermissionRuleReasonBytes ||
        hasC0OrDel rule.reason || !isValidUtf8 rule.reason,
      "permission rule reason is invalid", "reason"⟩,
    ⟨fun rule => !rule.toolName.isEmpty &&
        (!validIdentifier rule.toolName || hasC0OrDel rule.toolName),
      "permission rule tool_name is invalid", "tool_name"⟩,
    ⟨fun rule => rule.command.length > kMaxPermissionRuleCommandBytes || hasC0OrDel rule.command ||
        !isValidUtf8 rule.command,
      "permission rule command is invalid", "command"⟩,
    ⟨fun rule => rule.schemaVersion == kLegacyPermissionRulesSchemaVersion &&
        (!rule.commandRecipeKey.isEmpty || !rule.recipeDisplay.isEmpty || rule.criticalAcknowledged),
      "schema-v1 rules cannot contain stable command recipe fields", "command_recipe_key"⟩,
    ⟨fun rule => rule.commandRecipeKey.length > kMaxPermissionRecipeKeyBytes ||
        hasC0OrDel rule.commandRecipeKey ||
        (!rule.commandRecipeKey.isEmpty && !validRecipeKey rule.commandRecipeKey rule.scope),
      "permission rule command_recipe_key is invalid for its scope", "command_recipe_key"⟩,
    ⟨fun rule => rule.recipeDisplay.length > kMaxPermissionRecipeDisplayBytes ||
        hasC0OrDel rule.recipeDisplay || !isValidUtf8 rule.recipeDisplay,
      "permission rule recipe_display is invalid", "recipe_display"⟩,
    ⟨fun rule => rule.scope == .workspace && rule.workspaceDir.text.isEmpty,
      "workspace permission rule is missing workspace_dir", "workspace_dir"⟩,
    ⟨fun rule => isPathOperation rule.operation && rule.targetPath.text.isEmpty,
      "path permission rule is missing target_path", "target_path"⟩,
    ⟨fun rule => rule.operation == .runCommand && rule.action == .allow &&
        rule.schemaVersion == kCurrentPermissionRulesSchemaVersion &&
        !(!rule.commandRecipeKey.isEmpty && !rule.criticalAcknowledged) &&
        !(rule.commandRecipeKey.isEmpty && rule.criticalAcknowledged && !rule.command.isEmpty),
      "schema-v2 command allow requires an exact scope recipe key, or critical_acknowledged=true with exact command",
      "command_recipe_key"⟩,
    ⟨fun rule => rule.operation == .runCommand && rule.action == .deny && rule.command.isEmpty &&
        rule.commandRecipeKey.isEmpty,
      "command deny rule requires exact command or recipe key", "command"⟩,
    ⟨fun rule => rule.operation == .runCommand &&
        rule.schemaVersion == kLegacyPermissionRulesSchemaVersion && rule.action == .allow &&
        rule.command.isEmpty,
      "legacy command allow is missing exact command", "command"⟩,
    ⟨fun rule => rule.operation != .runCommand && isCommandOperation rule.operation &&
        rule.command.isEmpty,
      "command permission rule is missing command", "command"⟩,
    ⟨fun rule => !isPathOperation rule.operation && !isCommandOperation rule.operation &&
        rule.toolName.isEmpty,
      "permission rule is missing tool_name", "tool_name"⟩]

/-- `validate_rule`: the first check that finds its fault reports it; the first of them adds the
    id it refuses. -/
def validateRule (rule : PersistentPermissionRule) (path : Path) (index : Option Nat) :
    Result Unit :=
  match ruleChecks.find? fun check => check.faulty rule with
  | none => .ok ()
  | some check =>
    let error := ruleParseError check.message path (ascii check.field) index
    .error (if !validIdentifier rule.ruleId then error.withContext "rule_id" rule.ruleId else error)

/-- A rule that passes every check. -/
def PersistentPermissionRule.Valid (rule : PersistentPermissionRule) : Prop :=
  ∀ check ∈ ruleChecks, check.faulty rule = false

theorem validateRule_iff {rule : PersistentPermissionRule} {path : Path} {index : Option Nat} :
    validateRule rule path index = .ok () ↔ rule.Valid := by
  unfold validateRule PersistentPermissionRule.Valid
  cases hfind : ruleChecks.find? fun check => check.faulty rule with
  | none =>
    simp only [true_iff]
    intro check hcheck
    simpa using List.find?_eq_none.mp hfind check hcheck
  | some check =>
    constructor
    · intro h
      cases h
    · intro hvalid
      have hmem := List.mem_of_find?_eq_some hfind
      have hfaulty := List.find?_some hfind
      rw [hvalid check hmem] at hfaulty
      cases hfaulty

/-- No valid rule asks. -/
theorem PersistentPermissionRule.Valid.action_ne_ask {rule : PersistentPermissionRule}
    (h : rule.Valid) : rule.action ≠ .ask := by
  have hcheck := h _ (List.mem_cons_of_mem _ List.mem_cons_self)
  simpa using hcheck

/-! ## §5. Paths. -/

/-- `normalized_path`: normalised, without a separator at the end.  The loop of the source takes
    at most one step: what is before the last separator ends with a name. -/
def normalizedPath (cwd : LogicalCwd) (path : Path) : Path :=
  let normalized := normalizedAbsolutePath cwd path
  { normalized.view with trailing := false }.toPath

/-- `contains_parent_reference`. -/
def containsParentReference (path : Path) : Bool := path.lexicallyNormal.names.contains Path.dotdot

/-- What `stat` reports of a path: a device and an inode, nothing there (`ENOENT`, `ENOTDIR`), or
    another failure with its text. -/
inductive StatOutcome where
  | found (device inode : Nat)
  | missing
  | failed (cause : Bytes)
deriving Repr, DecidableEq

/-- The identity of a path: the nearest ancestor that exists, and the names below it. -/
structure PathIdentity where
  device : Nat
  inode : Nat
  missingSuffix : List Bytes
deriving Repr, DecidableEq

/-- The loop of `identity`. -/
def pathIdentityLoop (stat : Path → StatOutcome) (original : Path) :
    Nat → Path → List Bytes → Result PathIdentity
  | 0, _, _ =>
    .error (ruleFileError .io "permission path identity exceeded the component limit" original)
  | depth + 1, path, suffix =>
    match stat path with
    | .found device inode => .ok ⟨device, inode, suffix⟩
    | .failed cause =>
      .error (((ruleFileError .io "failed to establish permission path identity"
        original).withContext "identity_component" path.text).withContext "cause" cause)
    | .missing =>
      let parent := path.parentPath
      if parent.text.isEmpty || parent.same path then
        .error (ruleFileError .io "failed to find an existing permission path ancestor" original)
      else pathIdentityLoop stat original depth parent (suffix ++ [path.filename])

/-- `identity` of `paths_refer_to_same_file`. -/
def pathIdentity (cwd : LogicalCwd) (stat : Path → StatOutcome) (path : Path) :
    Result PathIdentity :=
  if path.text.isEmpty then
    .error (ruleFileError .invalidArgument "permission path identity requires a non-empty path" path)
  else pathIdentityLoop stat (normalizedPath cwd path) 256 (normalizedPath cwd path) []

/-- `paths_refer_to_same_file`. -/
def pathsReferToSameFile (cwd : LogicalCwd) (stat : Path → StatOutcome) (a b : Path) : Result Bool :=
  match pathIdentity cwd stat a with
  | .error e => .error e
  | .ok left =>
    match pathIdentity cwd stat b with
    | .error e => .error e
    | .ok right => .ok (left == right)

end Ava.Permissions
