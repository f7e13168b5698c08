/-
  Ava.Command.Fingerprint
  **THE FINGERPRINT OF A SEALED PLAN** (`compute_fingerprint`, `Sha256Builder`).  The hashed text is
  a run of fields, each behind its length; lists are preceded by their number of elements, and
  fields that are not always there come before the flag that says so.

    - §1 `Sha256Builder`; §2 the fields of a plan and its fingerprint;
    - §3 each part of a plan can be read back from its fields;
    - §4 `fields_determine_plan` : the fields determine the plan, except for the two volatile
      entries of ancestors that are not bound by their identity.

  SHA-256 itself is a parameter.
-/
import Ava.Command.Plan
import Ava.Lib.SelfDelimiting

namespace Ava.Command

open Ava.Core Function
open Ava.Lib (Path SelfDelimiting counted lengthPrefixed injective_of_find? frames_injective)

/-! ## §1. The builder. -/

/-- What `append_field` adds for each field: the length in eight octets, then the text. -/
def builderBytes (fields : List Bytes) : Bytes := fields.flatMap (lengthPrefixed 8)

/-- `hash.append_field(flag ? "1" : "0")`. -/
def flagField (flag : Bool) : Bytes := if flag then ascii "1" else ascii "0"

/-! ## §2. The fields of a plan. -/

/-- The loop body over the ancestors in `append_path_metadata`. -/
def ancestorFields (ancestor : PathAncestorMetadata) : List Bytes :=
  [ancestor.path.text, decimal ancestor.device, decimal ancestor.inode, decimal ancestor.mode,
    decimal ancestor.owner, decimal ancestor.group] ++
  (if ancestor.identityBound then
    [decimal ancestor.linkCount, decimalInt ancestor.changedSeconds,
      decimalInt ancestor.changedNanoseconds]
  else []) ++
  [flagField ancestor.isSymlink, flagField ancestor.identityBound]

/-- `append_path_metadata`. -/
def pathMetadataFields (metadata : PathMetadata) : List Bytes :=
  [metadata.requestedPath.text, metadata.canonicalPath.text, decimal metadata.device,
    decimal metadata.inode, decimal metadata.mode, decimal metadata.size, decimal metadata.owner,
    decimal metadata.group, decimal metadata.linkCount, decimalInt metadata.changedSeconds,
    decimalInt metadata.changedNanoseconds, flagField metadata.requestedPathIsSymlink,
    decimal metadata.requestedDevice, decimal metadata.requestedInode,
    decimal metadata.requestedMode, decimal metadata.requestedOwner,
    decimal metadata.requestedGroup, decimal metadata.requestedLinkCount,
    decimalInt metadata.requestedChangedSeconds,
    decimalInt metadata.requestedChangedNanoseconds] ++
  counted decimal ancestorFields metadata.ancestorMetadata

/-- `append_executable_metadata`. -/
def executableMetadataFields (metadata : ExecutableMetadata) : List Bytes :=
  pathMetadataFields metadata

/-- `append_synthetic_environment_roots`. -/
def syntheticRootsFields (roots : SyntheticEnvironmentRoots) : List Bytes :=
  pathMetadataFields roots.home ++ (pathMetadataFields roots.xdgConfigHome ++
    (pathMetadataFields roots.xdgCacheHome ++ (pathMetadataFields roots.xdgDataHome ++
    (pathMetadataFields roots.xdgStateHome ++ pathMetadataFields roots.tmpdir))))

def pathEntryFields (entry : CommandPathEntry) : List Bytes :=
  [entry.directory.text, entry.provenance.text] ++ pathMetadataFields entry.metadata

def interpreterFields (interpreter : ShebangInterpreter) : List Bytes :=
  executableMetadataFields interpreter.interpreter ++
    [interpreter.argument,
      if interpreter.resolvedViaEnv then ascii "env-target" else ascii "direct-interpreter"]

/-- The executable, if it was resolved. -/
def resolvedFields : Option ResolvedExecutable → List Bytes
  | none => [ascii "unresolved"]
  | some executable =>
    ascii "resolved" :: (executableMetadataFields executable.executable ++
      [executable.origin.text,
        if executable.shebangFullyResolved then ascii "resolved" else ascii "partial"] ++
      counted decimal interpreterFields executable.shebangInterpreters)

/-- The recipe, if the classification has one. -/
def recipeFields : Option RecipeDescriptor → List Bytes
  | none => [ascii "none"]
  | some recipe =>
    recipe.recipe.text :: (counted decimal (fun argument => [argument]) recipe.canonicalArgv ++
      counted decimal pathMetadataFields recipe.pathArguments)

def classificationFields (classification : CommandClassification) : List Bytes :=
  [classification.level.text, classification.family.text, classification.maxInteractiveScope.text,
    flagField classification.askCandidate,
    flagField classification.capabilities.executesMutableProjectCode,
    flagField classification.capabilities.requiresContainment,
    flagField classification.capabilities.networkEnabled,
    flagField classification.capabilities.mutatesWorkspace,
    flagField classification.capabilities.destructiveOrPrivileged,
    flagField classification.capabilities.interpreterInline,
    flagField classification.capabilities.unknownWrapper,
    flagField classification.capabilities.rawShell] ++
  recipeFields classification.recipe

/-- What `compute_fingerprint` appends. -/
def fingerprintFields (plan : CommandPlan) : List Bytes :=
  [ascii "ava-command-plan-v5", plan.intentLane.text, plan.executionDomain.text,
    plan.workspace.text] ++
  (pathMetadataFields plan.workspaceMetadata ++ (plan.cwd.text ::
  (pathMetadataFields plan.cwdMetadata ++ (pathMetadataFields plan.trustedHomeMetadata ++
  (counted decimal (fun root : Path => [root.text]) plan.avaAuthorityRoots ++
  (counted decimal pathMetadataFields plan.avaAuthorityRootMetadata ++
  (syntheticRootsFields plan.syntheticEnvironmentRoots ++
  (counted decimal (fun argument => [argument]) plan.argv ++ (plan.rawShellText ::
  (counted decimal pathEntryFields plan.pathEntries ++
  (resolvedFields plan.resolvedExecutable ++
  (classificationFields plan.classification ++
  [plan.environmentProfileId, plan.environmentDigest]))))))))))))

/-- `compute_fingerprint`; `hexSha256` is `Sha256Builder::hex` on the bytes of the builder. -/
def computeFingerprint (hexSha256 : Bytes → Bytes) (plan : CommandPlan) : Bytes :=
  ascii "sha256:ava-command-plan-v5:" ++ hexSha256 (builderBytes (fingerprintFields plan))

/-! ## §3. Reading the parts back. -/

/-- Every octet of a number is a digit. -/
theorem decimal_digit {n : Nat} {c : UInt8} (h : c ∈ decimal n) : 48 ≤ c.toNat ∧ c.toNat ≤ 57 := by
  unfold decimal at h
  obtain ⟨d, hd, rfl⟩ := List.mem_map.mp h
  have hdigit : d.isDigit = true := Nat.isDigit_of_mem_toDigits (by decide) (by decide) hd
  simp only [Char.isDigit, ge_iff_le, Bool.and_eq_true, decide_eq_true_eq] at hdigit
  have hlow : 48 ≤ d.toNat := hdigit.1
  have hhigh : d.toNat ≤ 57 := hdigit.2
  rw [UInt8.toNat_ofNat']
  omega

theorem decimal_injective : Injective decimal := by
  intro n m h
  -- the characters are those of the octets, so the digits can be read back
  have hback : ∀ k : Nat,
      (decimal k).map (fun c => Char.ofNat c.toNat) = Nat.toDigits 10 k := by
    intro k
    unfold decimal
    rw [List.map_map]
    conv_rhs => rw [← List.map_id (Nat.toDigits 10 k)]
    apply List.map_congr_left
    intro c hc
    have hdigit : c.isDigit = true := Nat.isDigit_of_mem_toDigits (by decide) (by decide) hc
    simp only [Char.isDigit, ge_iff_le, Bool.and_eq_true, decide_eq_true_eq] at hdigit
    have hhigh : c.toNat ≤ 57 := hdigit.2
    show Char.ofNat (UInt8.ofNat c.toNat).toNat = c
    rw [UInt8.toNat_ofNat', Nat.mod_eq_of_lt (by omega), Char.ofNat_toNat]
  have hdigits : Nat.toDigits 10 n = Nat.toDigits 10 m := by rw [← hback n, ← hback m, h]
  calc
    n = Nat.ofDigitChars 10 (Nat.toDigits 10 n) 0 := Nat.ofDigitChars_ten_toDigits.symm
    _ = Nat.ofDigitChars 10 (Nat.toDigits 10 m) 0 := by rw [hdigits]
    _ = m := Nat.ofDigitChars_ten_toDigits

theorem decimalInt_injective : Injective decimalInt := by
  -- no digit is the minus sign
  have hsign : ∀ n m : Nat, decimal n ≠ 45 :: decimal m := by
    intro n m h
    have hmem : (45 : UInt8) ∈ decimal n := h ▸ List.mem_cons_self
    have := (decimal_digit hmem).1
    simp at this
  intro i j h
  cases i with
  | ofNat n =>
    cases j with
    | ofNat m => rw [decimal_injective h]
    | negSucc m => exact absurd h (hsign _ _)
  | negSucc n =>
    cases j with
    | ofNat m => exact absurd h.symm (hsign _ _)
    | negSucc m =>
      simp only [decimalInt, List.cons.injEq, true_and] at h
      have := decimal_injective h
      rw [Nat.succ.inj this]

/-- A flag is read back from which of two texts was written. -/
theorem flag_of_choice {yes no : Bytes} (hne : yes ≠ no) {f g : Bool}
    (h : (if f then yes else no) = if g then yes else no) : f = g := by
  cases f with
  | true =>
    cases g with
    | true => rfl
    | false => exact absurd h hne
  | false =>
    cases g with
    | true => exact absurd h.symm hne
    | false => rfl

theorem flagField_injective : Injective flagField :=
  fun _ _ h => flag_of_choice (by decide) h

theorem lane_text_injective : Injective CommandIntentLane.text :=
  injective_of_find? [.compatibility, .structuredArgv, .rawShell] (by intro a; cases a <;> decide)

theorem domain_text_injective : Injective CommandExecutionDomain.text :=
  injective_of_find? [.directArgv, .rawShell] (by intro a; cases a <;> decide)

theorem provenance_text_injective : Injective PathProvenance.text :=
  injective_of_find? [.startupPath, .userLocal, .workspaceVenv, .workspaceNodeModules]
    (by intro a; cases a <;> decide)

theorem origin_text_injective : Injective ExecutableOrigin.text :=
  injective_of_find? [.system, .user, .workspace] (by intro a; cases a <;> decide)

theorem level_text_injective : Injective CommandLevel.text :=
  injective_of_find? [.standard, .sensitive, .critical] (by intro a; cases a <;> decide)

theorem scope_text_injective : Injective InteractiveScope.text :=
  injective_of_find? [.once, .session, .workspace] (by intro a; cases a <;> decide)

theorem family_text_injective : Injective CommandFamily.text :=
  injective_of_find?
    [.inspection, .cmakeBuild, .ctest, .ninja, .make, .packageManagerScript, .pytest,
      .workspaceScript, .installOrUpdate, .remoteGitMutation, .publishOrDeploy, .network,
      .workspaceMutation, .interpreterInline, .destructiveOrPrivileged, .unknownWrapper, .rawShell,
      .unverifiedDelegatedExecutor]
    (by intro a; cases a <;> decide)

theorem recipe_text_injective : Injective CommandRecipe.text :=
  injective_of_find?
    [.pwd, .ls, .gitStatus, .gitDiff, .gitLogOne, .cmakeBuild, .ctest, .ninja, .make,
      .packageManagerRunScript, .pytest, .workspaceScript]
    (by intro a; cases a <;> decide)

/-- What the fields of an ancestor say: all of it, without the volatile entries of one that is not
    bound by its identity. -/
def PathAncestorMetadata.stable (ancestor : PathAncestorMetadata) : PathAncestorMetadata :=
  if ancestor.identityBound then ancestor
  else { ancestor with linkCount := 0, changedSeconds := 0, changedNanoseconds := 0 }

def PathMetadata.stable (metadata : PathMetadata) : PathMetadata :=
  { metadata with ancestorMetadata := metadata.ancestorMetadata.map PathAncestorMetadata.stable }

/-- The presence of the optional entries follows from the mode and the owner, which stand before
    them: two runs of ancestors cannot be shifted against each other. -/
theorem ancestor_delimits : SelfDelimiting ancestorFields PathAncestorMetadata.stable := by
  intro a b s t h
  unfold ancestorFields at h
  simp only [List.append_assoc, List.cons_append, List.nil_append, List.cons.injEq] at h
  obtain ⟨hpath, hdevice, hinode, hmode, howner, hgroup, hrest⟩ := h
  have hpath := Path.text_injective hpath
  have hmode := decimal_injective hmode
  have howner := decimal_injective howner
  have hbound : a.identityBound = b.identityBound := by
    rw [a.bound_of_mode, b.bound_of_mode, hmode, howner]
  have hsymlink : a.isSymlink = b.isSymlink := by
    rw [a.symlink_of_mode, b.symlink_of_mode, hmode]
  rw [hbound] at hrest
  have hdevice := decimal_injective hdevice
  have hinode := decimal_injective hinode
  have hgroup := decimal_injective hgroup
  cases hb : b.identityBound with
  | true =>
    simp only [hb, if_true, List.cons_append, List.nil_append, List.cons.injEq] at hrest
    obtain ⟨hlinks, hseconds, hnanoseconds, -, -, hend⟩ := hrest
    refine ⟨?_, hend⟩
    rw [PathAncestorMetadata.stable, PathAncestorMetadata.stable, if_pos (hbound.trans hb),
      if_pos hb]
    exact PathAncestorMetadata.ext hpath hdevice hinode hmode howner hgroup
      (decimal_injective hlinks) (decimalInt_injective hseconds)
      (decimalInt_injective hnanoseconds) hsymlink hbound
  | false =>
    simp only [hb, Bool.false_eq_true, if_false, List.nil_append, List.cons.injEq] at hrest
    obtain ⟨-, -, hend⟩ := hrest
    refine ⟨?_, hend⟩
    rw [PathAncestorMetadata.stable, PathAncestorMetadata.stable, if_neg (by simp [hbound, hb]),
      if_neg (by simp [hb])]
    exact PathAncestorMetadata.ext hpath hdevice hinode hmode howner hgroup rfl rfl rfl hsymlink
      hbound

theorem pathMetadata_delimits : SelfDelimiting pathMetadataFields PathMetadata.stable := by
  intro a b s t h
  unfold pathMetadataFields at h
  simp only [List.cons_append, List.nil_append, List.cons.injEq] at h
  obtain ⟨h1, h2, h3, h4, h5, h6, h7, h8, h9, h10, h11, h12, h13, h14, h15, h16, h17, h18, h19, h20,
    hrest⟩ := h
  obtain ⟨hancestors, hend⟩ := (ancestor_delimits).list decimal_injective _ _ _ _ hrest
  refine ⟨?_, hend⟩
  unfold PathMetadata.stable
  rw [hancestors]
  rw [Path.text_injective h1, Path.text_injective h2, decimal_injective h3, decimal_injective h4, decimal_injective h5,
    decimal_injective h6, decimal_injective h7, decimal_injective h8, decimal_injective h9,
    decimalInt_injective h10, decimalInt_injective h11, flagField_injective h12,
    decimal_injective h13, decimal_injective h14, decimal_injective h15, decimal_injective h16,
    decimal_injective h17, decimal_injective h18, decimalInt_injective h19,
    decimalInt_injective h20]

def SyntheticEnvironmentRoots.stable (roots : SyntheticEnvironmentRoots) :
    SyntheticEnvironmentRoots where
  home := roots.home.stable
  xdgConfigHome := roots.xdgConfigHome.stable
  xdgCacheHome := roots.xdgCacheHome.stable
  xdgDataHome := roots.xdgDataHome.stable
  xdgStateHome := roots.xdgStateHome.stable
  tmpdir := roots.tmpdir.stable

theorem syntheticRoots_delimits :
    SelfDelimiting syntheticRootsFields SyntheticEnvironmentRoots.stable := by
  intro a b s t h
  unfold syntheticRootsFields at h
  simp only [List.append_assoc] at h
  obtain ⟨hhome, h⟩ := pathMetadata_delimits _ _ _ _ h
  obtain ⟨hconfig, h⟩ := pathMetadata_delimits _ _ _ _ h
  obtain ⟨hcache, h⟩ := pathMetadata_delimits _ _ _ _ h
  obtain ⟨hdata, h⟩ := pathMetadata_delimits _ _ _ _ h
  obtain ⟨hstate, h⟩ := pathMetadata_delimits _ _ _ _ h
  obtain ⟨htmp, h⟩ := pathMetadata_delimits _ _ _ _ h
  refine ⟨?_, h⟩
  unfold SyntheticEnvironmentRoots.stable
  rw [hhome, hconfig, hcache, hdata, hstate, htmp]

def CommandPathEntry.stable (entry : CommandPathEntry) : CommandPathEntry :=
  { entry with metadata := entry.metadata.stable }

theorem pathEntry_delimits : SelfDelimiting pathEntryFields CommandPathEntry.stable := by
  intro a b s t h
  unfold pathEntryFields at h
  simp only [List.cons_append, List.nil_append, List.cons.injEq] at h
  obtain ⟨hdirectory, hprovenance, h⟩ := h
  obtain ⟨hmetadata, h⟩ := pathMetadata_delimits _ _ _ _ h
  refine ⟨?_, h⟩
  unfold CommandPathEntry.stable
  rw [Path.text_injective hdirectory, provenance_text_injective hprovenance, hmetadata]

def ShebangInterpreter.stable (interpreter : ShebangInterpreter) : ShebangInterpreter :=
  { interpreter with interpreter := interpreter.interpreter.stable }

theorem interpreter_delimits : SelfDelimiting interpreterFields ShebangInterpreter.stable := by
  intro a b s t h
  unfold interpreterFields executableMetadataFields at h
  simp only [List.append_assoc] at h
  obtain ⟨hmetadata, h⟩ := pathMetadata_delimits _ _ _ _ h
  simp only [List.cons_append, List.nil_append, List.cons.injEq] at h
  obtain ⟨hargument, henv, h⟩ := h
  refine ⟨?_, h⟩
  unfold ShebangInterpreter.stable
  rw [hmetadata, hargument, flag_of_choice (by decide) henv]

def ResolvedExecutable.stable (executable : ResolvedExecutable) : ResolvedExecutable :=
  { executable with
    executable := executable.executable.stable
    shebangInterpreters := executable.shebangInterpreters.map ShebangInterpreter.stable }

theorem resolved_delimits :
    SelfDelimiting resolvedFields (Option.map ResolvedExecutable.stable) := by
  intro a b s t h
  cases a with
  | none =>
    cases b with
    | none => exact ⟨rfl, by simpa [resolvedFields] using h⟩
    | some y =>
      simp only [resolvedFields, List.cons_append, List.cons.injEq] at h
      exact absurd h.1 (by decide)
  | some x =>
    cases b with
    | none =>
      simp only [resolvedFields, List.cons_append, List.cons.injEq] at h
      exact absurd h.1 (by decide)
    | some y =>
      simp only [resolvedFields, executableMetadataFields, List.append_assoc, List.cons_append,
        List.cons.injEq, true_and] at h
      obtain ⟨hmetadata, h⟩ := pathMetadata_delimits _ _ _ _ h
      simp only [List.nil_append, List.cons.injEq] at h
      obtain ⟨horigin, hfully, h⟩ := h
      obtain ⟨hinterpreters, h⟩ := (interpreter_delimits).list decimal_injective _ _ _ _ h
      refine ⟨?_, h⟩
      rw [Option.map_some, Option.map_some]
      unfold ResolvedExecutable.stable
      rw [hmetadata, origin_text_injective horigin, flag_of_choice (by decide) hfully,
        hinterpreters]

def RecipeDescriptor.stable (recipe : RecipeDescriptor) : RecipeDescriptor :=
  { recipe with pathArguments := recipe.pathArguments.map PathMetadata.stable }

/-- The word for a missing recipe is not the name of one. -/
theorem recipe_text_ne_none (recipe : CommandRecipe) : recipe.text ≠ ascii "none" := by
  cases recipe <;> decide

theorem argument_delimits : SelfDelimiting (fun argument : Bytes => [argument]) id :=
  SelfDelimiting.token id

theorem recipe_delimits : SelfDelimiting recipeFields (Option.map RecipeDescriptor.stable) := by
  intro a b s t h
  cases a with
  | none =>
    cases b with
    | none => exact ⟨rfl, by simpa [recipeFields] using h⟩
    | some y =>
      simp only [recipeFields, List.cons_append, List.cons.injEq] at h
      exact absurd h.1.symm (recipe_text_ne_none _)
  | some x =>
    cases b with
    | none =>
      simp only [recipeFields, List.cons_append, List.cons.injEq] at h
      exact absurd h.1 (recipe_text_ne_none _)
    | some y =>
      simp only [recipeFields, List.append_assoc, List.cons_append, List.cons.injEq] at h
      obtain ⟨hrecipe, h⟩ := h
      obtain ⟨hargv, h⟩ := (argument_delimits).list decimal_injective _ _ _ _ h
      obtain ⟨hpaths, h⟩ := (pathMetadata_delimits).list decimal_injective _ _ _ _ h
      refine ⟨?_, h⟩
      rw [List.map_id, List.map_id] at hargv
      rw [Option.map_some, Option.map_some]
      unfold RecipeDescriptor.stable
      rw [recipe_text_injective hrecipe, hargv, hpaths]

def CommandClassification.stable (classification : CommandClassification) :
    CommandClassification :=
  { classification with recipe := classification.recipe.map RecipeDescriptor.stable }

theorem classification_delimits :
    SelfDelimiting classificationFields CommandClassification.stable := by
  intro a b s t h
  unfold classificationFields at h
  simp only [List.cons_append, List.nil_append, List.cons.injEq] at h
  obtain ⟨hlevel, hfamily, hscope, hask, h1, h2, h3, h4, h5, h6, h7, h8, h⟩ := h
  obtain ⟨hrecipe, h⟩ := recipe_delimits _ _ _ _ h
  refine ⟨?_, h⟩
  have hcapabilities : a.capabilities = b.capabilities :=
    CommandCapabilities.ext (flagField_injective h1) (flagField_injective h2)
      (flagField_injective h3) (flagField_injective h4) (flagField_injective h5)
      (flagField_injective h6) (flagField_injective h7) (flagField_injective h8)
  unfold CommandClassification.stable
  rw [level_text_injective hlevel, family_text_injective hfamily, scope_text_injective hscope,
    flagField_injective hask, hcapabilities, hrecipe]

/-! ## §4. The plan. -/

/-- A plan without the volatile entries of ancestors that are not bound by their identity. -/
def CommandPlan.stable (plan : CommandPlan) : CommandPlan :=
  { plan with
    workspaceMetadata := plan.workspaceMetadata.stable
    cwdMetadata := plan.cwdMetadata.stable
    trustedHomeMetadata := plan.trustedHomeMetadata.stable
    avaAuthorityRootMetadata := plan.avaAuthorityRootMetadata.map PathMetadata.stable
    syntheticEnvironmentRoots := plan.syntheticEnvironmentRoots.stable
    pathEntries := plan.pathEntries.map CommandPathEntry.stable
    resolvedExecutable := plan.resolvedExecutable.map ResolvedExecutable.stable
    classification := plan.classification.stable }

/-- **THE FIELDS DETERMINE THE PLAN.** -/
theorem fields_determine_plan {p q : CommandPlan} (h : fingerprintFields p = fingerprintFields q) :
    p.stable = q.stable := by
  unfold fingerprintFields at h
  simp only [List.cons_append, List.nil_append, List.cons.injEq] at h
  obtain ⟨-, hlane, hdomain, hworkspace, h⟩ := h
  obtain ⟨hworkspaceMetadata, h⟩ := pathMetadata_delimits _ _ _ _ h
  rw [List.cons.injEq] at h
  obtain ⟨hcwd, h⟩ := h
  obtain ⟨hcwdMetadata, h⟩ := pathMetadata_delimits _ _ _ _ h
  obtain ⟨hhome, h⟩ := pathMetadata_delimits _ _ _ _ h
  obtain ⟨hroots, h⟩ := (SelfDelimiting.token Path.text).list decimal_injective _ _ _ _ h
  obtain ⟨hrootMetadata, h⟩ := (pathMetadata_delimits).list decimal_injective _ _ _ _ h
  obtain ⟨hsynthetic, h⟩ := syntheticRoots_delimits _ _ _ _ h
  obtain ⟨hargv, h⟩ := (argument_delimits).list decimal_injective _ _ _ _ h
  rw [List.map_id, List.map_id] at hargv
  rw [List.cons.injEq] at h
  obtain ⟨hshell, h⟩ := h
  obtain ⟨hentries, h⟩ := (pathEntry_delimits).list decimal_injective _ _ _ _ h
  obtain ⟨hresolved, h⟩ := resolved_delimits _ _ _ _ h
  obtain ⟨hclassification, h⟩ := classification_delimits _ _ _ _ h
  simp only [List.cons.injEq, and_true] at h
  have hroots : p.avaAuthorityRoots = q.avaAuthorityRoots :=
    List.map_injective_iff.mpr Path.text_injective hroots
  unfold CommandPlan.stable
  rw [lane_text_injective hlane, domain_text_injective hdomain, Path.text_injective hworkspace,
    Path.text_injective hcwd,
    hworkspaceMetadata, hcwdMetadata, hhome, hroots, hrootMetadata, hsynthetic, hargv, hshell,
    hentries, hresolved, hclassification, h.1, h.2]

/-- The strings of a plan have a length that `std::size_t` can hold. -/
def Representable (fields : List Bytes) : Prop := ∀ field ∈ fields, field.length < 256 ^ 8

/-- **EQUAL FINGERPRINTS, EQUAL PLANS**, without collisions of the digest. -/
theorem plan_of_fingerprint {hexSha256 : Bytes → Bytes} (hsha : Injective hexSha256)
    {p q : CommandPlan} (hp : Representable (fingerprintFields p))
    (hq : Representable (fingerprintFields q))
    (h : computeFingerprint hexSha256 p = computeFingerprint hexSha256 q) :
    p.stable = q.stable := by
  unfold computeFingerprint at h
  have hbytes := hsha (List.append_cancel_left h)
  exact fields_determine_plan (frames_injective hp hq (by decide) hbytes)

end Ava.Command
