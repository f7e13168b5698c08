/-
  Ava.Command.Plan
  **THE SEALED COMMAND PLAN** (`command/command.h`).  What planning a command records: the lane
  and domain, the logical paths with the metadata of every component, the argument vector, the
  resolved executable with its interpreter chain, the classification and the environment.

    - §1 enumerations and their texts;
    - §2 metadata of paths; an ancestor is bound by its identity unless it is a sticky directory
      of the superuser, and the record says so by construction;
    - §3 classification; §4 the plan.

  The anchor set (open descriptors) and the display functions are left out.
-/
import Ava.Core.Prelude
import Ava.Lib.LexicalPath

namespace Ava.Command

open Ava.Core
open Ava.Lib (Path)

/-! ## §1. Enumerations. -/

inductive CommandIntentLane where
  | compatibility | structuredArgv | rawShell
deriving Repr, DecidableEq

inductive CommandExecutionDomain where
  | directArgv | rawShell
deriving Repr, DecidableEq

inductive PathProvenance where
  | startupPath | userLocal | workspaceVenv | workspaceNodeModules
deriving Repr, DecidableEq

inductive ExecutableOrigin where
  | system | user | workspace
deriving Repr, DecidableEq

inductive CommandLevel where
  | standard | sensitive | critical
deriving Repr, DecidableEq

inductive CommandFamily where
  | inspection | cmakeBuild | ctest | ninja | make | packageManagerScript | pytest
  | workspaceScript | installOrUpdate | remoteGitMutation | publishOrDeploy | network
  | workspaceMutation | interpreterInline | destructiveOrPrivileged | unknownWrapper | rawShell
  | unverifiedDelegatedExecutor
deriving Repr, DecidableEq

inductive CommandRecipe where
  | pwd | ls | gitStatus | gitDiff | gitLogOne | cmakeBuild | ctest | ninja | make
  | packageManagerRunScript | pytest | workspaceScript
deriving Repr, DecidableEq

inductive InteractiveScope where
  | once | session | workspace
deriving Repr, DecidableEq

/-- `to_string`. -/
def CommandIntentLane.text : CommandIntentLane → Bytes
  | .compatibility => ascii "compatibility"
  | .structuredArgv => ascii "structured_argv"
  | .rawShell => ascii "raw_shell"

/-- `to_string`. -/
def CommandExecutionDomain.text : CommandExecutionDomain → Bytes
  | .directArgv => ascii "direct_argv"
  | .rawShell => ascii "raw_shell"

/-- `to_string`. -/
def PathProvenance.text : PathProvenance → Bytes
  | .startupPath => ascii "startup_path"
  | .userLocal => ascii "user_local"
  | .workspaceVenv => ascii "workspace_venv"
  | .workspaceNodeModules => ascii "workspace_node_modules"

/-- `to_string`. -/
def ExecutableOrigin.text : ExecutableOrigin → Bytes
  | .system => ascii "system"
  | .user => ascii "user"
  | .workspace => ascii "workspace"

/-- `to_string`. -/
def CommandLevel.text : CommandLevel → Bytes
  | .standard => ascii "standard"
  | .sensitive => ascii "sensitive"
  | .critical => ascii "critical"

/-- `to_string`. -/
def CommandFamily.text : CommandFamily → Bytes
  | .inspection => ascii "inspection"
  | .cmakeBuild => ascii "cmake_build"
  | .ctest => ascii "ctest"
  | .ninja => ascii "ninja"
  | .make => ascii "make"
  | .packageManagerScript => ascii "package_manager_script"
  | .pytest => ascii "pytest"
  | .workspaceScript => ascii "workspace_script"
  | .installOrUpdate => ascii "install_or_update"
  | .remoteGitMutation => ascii "remote_git_mutation"
  | .publishOrDeploy => ascii "publish_or_deploy"
  | .network => ascii "network"
  | .workspaceMutation => ascii "workspace_mutation"
  | .interpreterInline => ascii "interpreter_inline"
  | .destructiveOrPrivileged => ascii "destructive_or_privileged"
  | .unknownWrapper => ascii "unknown_wrapper"
  | .rawShell => ascii "raw_shell"
  | .unverifiedDelegatedExecutor => ascii "unverified_delegated_executor"

/-- `to_string`. -/
def CommandRecipe.text : CommandRecipe → Bytes
  | .pwd => ascii "pwd"
  | .ls => ascii "ls"
  | .gitStatus => ascii "git_status"
  | .gitDiff => ascii "git_diff"
  | .gitLogOne => ascii "git_log_one"
  | .cmakeBuild => ascii "cmake_build"
  | .ctest => ascii "ctest"
  | .ninja => ascii "ninja"
  | .make => ascii "make"
  | .packageManagerRunScript => ascii "package_manager_run_script"
  | .pytest => ascii "pytest"
  | .workspaceScript => ascii "workspace_script"

/-- `to_string`. -/
def InteractiveScope.text : InteractiveScope → Bytes
  | .once => ascii "once"
  | .session => ascii "session"
  | .workspace => ascii "workspace"

/-! ## §2. Metadata of paths. -/

/-- `S_ISDIR`. -/
def isDirectoryMode (mode : Nat) : Bool := mode &&& 0o170000 == 0o040000

/-- `S_ISLNK`. -/
def isSymlinkMode (mode : Nat) : Bool := mode &&& 0o170000 == 0o120000

/-- `is_sticky_directory`. -/
def isStickyDirectory (mode : Nat) : Bool := isDirectoryMode mode && mode &&& 0o1000 != 0

/-- Whether the record of an ancestor binds its identity: all but the sticky directories of the
    superuser, such as `/tmp`, which unrelated processes change all the time. -/
def bindsIdentity (mode owner : Nat) : Bool := !(isStickyDirectory mode && owner == 0)

/-- `PathAncestorMetadata`.  Records are only made by `ancestor_metadata_from`, which computes the
    last two fields from the mode and the owner. -/
@[ext] structure PathAncestorMetadata where
  path : Path
  device : Nat
  inode : Nat
  mode : Nat
  owner : Nat
  group : Nat
  linkCount : Nat
  changedSeconds : Int
  changedNanoseconds : Int
  isSymlink : Bool
  identityBound : Bool
  symlink_of_mode : isSymlink = isSymlinkMode mode
  bound_of_mode : identityBound = bindsIdentity mode owner
deriving Repr, DecidableEq

/-- `PathMetadata`. -/
structure PathMetadata where
  requestedPath : Path
  canonicalPath : Path
  device : Nat
  inode : Nat
  mode : Nat
  size : Nat
  owner : Nat
  group : Nat
  linkCount : Nat
  changedSeconds : Int
  changedNanoseconds : Int
  requestedPathIsSymlink : Bool
  requestedDevice : Nat
  requestedInode : Nat
  requestedMode : Nat
  requestedOwner : Nat
  requestedGroup : Nat
  requestedLinkCount : Nat
  requestedChangedSeconds : Int
  requestedChangedNanoseconds : Int
  ancestorMetadata : List PathAncestorMetadata
deriving Repr, DecidableEq

/-- `ExecutableMetadata`, a record of the same fields. -/
abbrev ExecutableMetadata := PathMetadata

/-- `SyntheticEnvironmentRoots`. -/
structure SyntheticEnvironmentRoots where
  home : PathMetadata
  xdgConfigHome : PathMetadata
  xdgCacheHome : PathMetadata
  xdgDataHome : PathMetadata
  xdgStateHome : PathMetadata
  tmpdir : PathMetadata
deriving Repr, DecidableEq

/-- `CommandPathEntry`. -/
structure CommandPathEntry where
  directory : Path
  provenance : PathProvenance
  metadata : PathMetadata
deriving Repr, DecidableEq

/-- `ShebangInterpreter`. -/
structure ShebangInterpreter where
  interpreter : ExecutableMetadata
  argument : Bytes
  resolvedViaEnv : Bool
deriving Repr, DecidableEq

/-- `ResolvedExecutable`. -/
structure ResolvedExecutable where
  executable : ExecutableMetadata
  origin : ExecutableOrigin
  shebangInterpreters : List ShebangInterpreter
  shebangFullyResolved : Bool
deriving Repr, DecidableEq

/-! ## §3. Classification. -/

/-- `CommandCapabilities`. -/
@[ext] structure CommandCapabilities where
  executesMutableProjectCode : Bool := false
  requiresContainment : Bool := false
  networkEnabled : Bool := false
  mutatesWorkspace : Bool := false
  destructiveOrPrivileged : Bool := false
  interpreterInline : Bool := false
  unknownWrapper : Bool := false
  rawShell : Bool := false
deriving Repr, DecidableEq

/-- `RecipeDescriptor`. -/
structure RecipeDescriptor where
  recipe : CommandRecipe
  canonicalArgv : List Bytes
  pathArguments : List PathMetadata
deriving Repr, DecidableEq

/-- `CommandClassification`. -/
structure CommandClassification where
  level : CommandLevel
  family : CommandFamily
  recipe : Option RecipeDescriptor
  capabilities : CommandCapabilities
  maxInteractiveScope : InteractiveScope
  askCandidate : Bool
deriving Repr, DecidableEq

/-! ## §4. The plan. -/

/-- `CommandPlan`. -/
structure CommandPlan where
  intentLane : CommandIntentLane
  executionDomain : CommandExecutionDomain
  workspace : Path
  cwd : Path
  workspaceMetadata : PathMetadata
  cwdMetadata : PathMetadata
  trustedHomeMetadata : PathMetadata
  avaAuthorityRoots : List Path
  avaAuthorityRootMetadata : List PathMetadata
  syntheticEnvironmentRoots : SyntheticEnvironmentRoots
  argv : List Bytes
  rawShellText : Bytes
  pathEntries : List CommandPathEntry
  resolvedExecutable : Option ResolvedExecutable
  classification : CommandClassification
  environmentProfileId : Bytes
  environmentDigest : Bytes
deriving Repr, DecidableEq

/-- `WorkspaceScriptRecipe`. -/
structure WorkspaceScriptRecipe where
  script : Path
  argvTail : List Bytes
deriving Repr, DecidableEq

end Ava.Command
