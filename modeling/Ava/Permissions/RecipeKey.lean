/-
  Ava.Permissions.RecipeKey
  **COMMAND IDENTITIES DETERMINE THE COMMAND.**  The fingerprint of a plan and the workspace key of
  its recipe are digests of length-prefixed fields.  Without collisions of the digest, equal
  fingerprints come from equal plans, and equal keys from equal recipes on the same arguments.

    - §1 a path within a root: the root's names come first;
    - §2 the kind and value of a recipe argument determine it up to normalisation;
    - §3 the key; §4 both identities.
-/
import Ava.Permissions.CommandAuthority

namespace Ava.Permissions

open Ava.Core Ava.Command Ava.Lib.Path Function
open Ava.Lib (Path SelfDelimiting counted frames_injective injective_of_find?)

/-! ## §1. Within a root. -/

theorem genericString_toPath {v : Path.View} (hv : v.WellFormed) :
    v.toPath.genericString = v.toPath.text := by
  unfold genericString
  rw [view_toPath hv]

/-- Both tests of the source for a path that leaves the root: a relative path that starts with a
    double dot is that double dot, or goes on after a separator. -/
theorem not_within_of_dotdot {r : Path.View} (hr : r.WellFormed) (hroot : r.rooted = false)
    (hhead : r.names.head? = some dotdot) :
    r.toPath.same ⟨dotdot⟩ = true ∨ (ascii "../").isPrefixOf r.toPath.genericString = true := by
  rw [genericString_toPath hr]
  obtain ⟨rooted, names, trailing⟩ := r
  have hrooted : rooted = false := hroot
  subst hrooted
  cases names with
  | nil => cases hhead
  | cons n names =>
    have hn : n = dotdot := by simpa using hhead
    subst hn
    cases names with
    | nil =>
      cases trailing with
      | false => exact Or.inl rfl
      | true => exact Or.inr rfl
    | cons m ms =>
      right
      show (ascii "../").isPrefixOf ([] ++ List.intercalate [sep] (dotdot :: m :: ms) ++ _) =
        true
      rw [List.intercalate_cons_cons]
      rfl

/-- **WITHIN A PLAIN ROOT** the names of the root come first, and the relative path consists of the
    names that follow. -/
theorem relative_of_within {root candidate : Path} (hroot : ∀ n ∈ root.names, Path.Plain n)
    (h : pathIsWithin root candidate = true) :
    ∃ rest, candidate.names = root.names ++ rest ∧
      candidate.lexicallyRelative root =
        (if rest = [] then Path.View.here else ⟨false, rest, candidate.view.trailing⟩).toPath := by
  unfold pathIsWithin at h
  simp only [Bool.and_eq_true, Bool.not_eq_true', List.isEmpty_eq_false_iff] at h
  obtain ⟨⟨hne, hdotdot⟩, hclimbs⟩ := h
  cases hrelative : candidate.view.relative root.view with
  | none =>
    exfalso
    apply hne
    unfold lexicallyRelative
    rw [hrelative]
  | some r =>
    have heq : candidate.lexicallyRelative root = r.toPath := by
      unfold lexicallyRelative
      rw [hrelative]
    obtain ⟨hr, hunrooted⟩ := (view_wellFormed candidate).relative hrelative
    have hdown : r.names.head? ≠ some dotdot := by
      intro hhead
      rw [heq] at hdotdot hclimbs
      rcases not_within_of_dotdot hr hunrooted hhead with hsame | hclimb
      · rw [hsame] at hdotdot
        cases hdotdot
      · rw [hclimb] at hclimbs
        cases hclimbs
    obtain ⟨-, rest, hnames, hrest⟩ :=
      Path.View.relative_below (view_wellFormed candidate) (view_wellFormed root) hroot
        hrelative hdown
    exact ⟨rest, hnames, by rw [heq, hrest]⟩

/-- The relative text of a path within a root is empty exactly for the root, and otherwise the text
    of the names that follow. -/
theorem workspaceRelative_of_within {root candidate : Path} (hroot : ∀ n ∈ root.names, Path.Plain n)
    (hcandidate : ∀ n ∈ candidate.names, Path.Plain n) (h : pathIsWithin root candidate = true) :
    ∃ rest, candidate.names = root.names ++ rest ∧
      workspaceRelative root candidate =
        if rest = [] then [] else (Path.View.mk false rest candidate.view.trailing).toPath.text := by
  obtain ⟨rest, hnames, hrelative⟩ := relative_of_within hroot h
  refine ⟨rest, hnames, ?_⟩
  unfold workspaceRelative
  dsimp only
  rw [hrelative]
  by_cases hrest : rest = []
  · rw [if_pos hrest, if_pos hrest]
    rfl
  · rw [if_neg hrest, if_neg hrest]
    have hv : (Path.View.mk false rest candidate.view.trailing).WellFormed := by
      refine ⟨?_, fun _ => hrest⟩
      intro n hn
      exact proper_of_mem_names (p := candidate) (hnames ▸ List.mem_append_right _ hn)
    rw [genericString_toPath hv, if_neg]
    -- a single dot would be a name of the path
    intro hdot
    have hview := view_toPath hv
    have htext : (Path.View.mk false rest candidate.view.trailing).toPath = ⟨dot⟩ :=
      text_injective hdot
    rw [htext] at hview
    have hrest' : [dot] = rest := congrArg Path.View.names hview
    have hmem : dot ∈ candidate.names := by
      rw [hnames, ← hrest']
      simp
    exact (hcandidate _ hmem).1 rfl

/-! ## §2. Recipe arguments. -/

/-- Equal, or absolute paths with the same names after normalisation. -/
def SameArgument (a b : Bytes) : Prop :=
  a = b ∨ ((⟨a⟩ : Path).isAbsolute = true ∧ (⟨b⟩ : Path).isAbsolute = true ∧
    (⟨a⟩ : Path).lexicallyNormal.names = (⟨b⟩ : Path).lexicallyNormal.names)

theorem names_lexicallyNormal_plain {p : Path} (h : p.isAbsolute = true) :
    ∀ n ∈ p.lexicallyNormal.names, Path.Plain n := by
  intro n hn
  have hn' : n ∈ p.lexicallyNormal.view.names := hn
  rw [view_lexicallyNormal h] at hn'
  exact plain_normal h n hn'

theorem genericString_lexicallyNormal {p : Path} (h : p.isAbsolute = true) :
    p.lexicallyNormal.genericString = p.lexicallyNormal.text := by
  rw [lexicallyNormal_of_isAbsolute h, genericString_toPath (view_wellFormed p).normal]

/-- The three forms of an argument. -/
theorem recipeArgument_cases (value : Bytes) {workspace : Path}
    (hworkspace : workspace.isAbsolute = true) :
    ((⟨value⟩ : Path).isAbsolute = false ∧ (recipeArgument value workspace).kind = .literal ∧
      (recipeArgument value workspace).value = value) ∨
    ((⟨value⟩ : Path).isAbsolute = true ∧ (recipeArgument value workspace).kind = .literal ∧
      (recipeArgument value workspace).value = (⟨value⟩ : Path).lexicallyNormal.text) ∨
    ((⟨value⟩ : Path).isAbsolute = true ∧ (recipeArgument value workspace).kind = .workspacePath ∧
      ∃ rest, (⟨value⟩ : Path).lexicallyNormal.names = workspace.lexicallyNormal.names ++ rest ∧
        (recipeArgument value workspace).value =
          if rest = [] then []
          else (Path.View.mk false rest (⟨value⟩ : Path).lexicallyNormal.view.trailing).toPath.text) := by
  unfold recipeArgument
  dsimp only
  cases habsolute : (⟨value⟩ : Path).isAbsolute with
  | false => exact Or.inl ⟨rfl, rfl, rfl⟩
  | true =>
    right
    cases hwithin : pathIsWithin workspace.lexicallyNormal (⟨value⟩ : Path).lexicallyNormal with
    | false =>
      left
      exact ⟨rfl, rfl, genericString_lexicallyNormal habsolute⟩
    | true =>
      right
      refine ⟨rfl, rfl, ?_⟩
      exact workspaceRelative_of_within (names_lexicallyNormal_plain hworkspace)
        (names_lexicallyNormal_plain habsolute) hwithin

/-- The relative text of a path gives back the names below the root. -/
theorem names_of_relative_text {p : Path} {root rest : List Bytes} {trailing : Bool}
    (h : p.names = root ++ rest) :
    (⟨if rest = [] then [] else (Path.View.mk false rest trailing).toPath.text⟩ : Path).names =
      rest := by
  by_cases hnil : rest = []
  · rw [if_pos hnil, hnil]
    rfl
  · rw [if_neg hnil]
    have hwf : (Path.View.mk false rest trailing).WellFormed := by
      refine ⟨?_, fun _ => hnil⟩
      intro n hn
      exact proper_of_mem_names (p := p) (h ▸ List.mem_append_right _ hn)
    exact congrArg Path.View.names (view_toPath hwf)

/-- **KIND AND VALUE DETERMINE THE ARGUMENT** within one normalised workspace. -/
theorem sameArgument_of_recipeArgument {a b : Bytes} {v w : Path} (hv : v.isAbsolute = true)
    (hw : w.isAbsolute = true) (hworkspace : v.lexicallyNormal = w.lexicallyNormal)
    (hkind : (recipeArgument a v).kind = (recipeArgument b w).kind)
    (hvalue : (recipeArgument a v).value = (recipeArgument b w).value) : SameArgument a b := by
  rcases recipeArgument_cases a hv with ⟨ha, hka, hva⟩ | ⟨ha, hka, hva⟩ | ⟨ha, hka, rest, hra, hva⟩
  · rcases recipeArgument_cases b hw with ⟨hb, hkb, hvb⟩ | ⟨hb, hkb, hvb⟩ | ⟨hb, hkb, -⟩
    · left
      rw [← hva, ← hvb, hvalue]
    · -- a relative text is not a normalised absolute one
      exfalso
      have habs : (⟨a⟩ : Path).isAbsolute = true := by
        rw [← hva, hvalue, hvb]
        exact isAbsolute_lexicallyNormal hb
      rw [ha] at habs
      cases habs
    · rw [hka, hkb] at hkind
      cases hkind
  · rcases recipeArgument_cases b hw with ⟨hb, hkb, hvb⟩ | ⟨hb, hkb, hvb⟩ | ⟨hb, hkb, -⟩
    · exfalso
      have habs : (⟨b⟩ : Path).isAbsolute = true := by
        rw [← hvb, ← hvalue, hva]
        exact isAbsolute_lexicallyNormal ha
      rw [hb] at habs
      cases habs
    · right
      have htext : (⟨a⟩ : Path).lexicallyNormal.text = (⟨b⟩ : Path).lexicallyNormal.text := by
        rw [← hva, ← hvb, hvalue]
      refine ⟨ha, hb, ?_⟩
      exact congrArg names (text_injective htext)
    · rw [hka, hkb] at hkind
      cases hkind
  · rcases recipeArgument_cases b hw with ⟨-, hkb, -⟩ | ⟨-, hkb, -⟩ | ⟨hb, hkb, rest', hrb, hvb⟩
    · rw [hka, hkb] at hkind
      cases hkind
    · rw [hka, hkb] at hkind
      cases hkind
    · right
      refine ⟨ha, hb, ?_⟩
      have hrest : rest = rest' := by
        rw [← names_of_relative_text hra, ← names_of_relative_text hrb, ← hva, ← hvb, hvalue]
      rw [hra, hrb, hrest, hworkspace]

/-! ## §3. The key. -/

theorem kind_text_injective : Injective RecipeArgumentKind.text :=
  injective_of_find? [.literal, .workspacePath] (by intro a; cases a <;> decide)

theorem recipeArgument_delimits :
    SelfDelimiting (fun argument : RecipeArgument => [argument.kind.text, argument.value])
      (fun argument => (argument.kind, argument.value)) := by
  intro a b s t h
  simp only [List.cons_append, List.nil_append, List.cons.injEq] at h
  obtain ⟨hkind, hvalue, hend⟩ := h
  exact ⟨Prod.ext (kind_text_injective hkind) hvalue, hend⟩

/-- How the containment profile enters the key. -/
def containmentProfile (containment : CommandContainmentInfo) : Bytes :=
  if containment.profileId.isEmpty then ascii "not-required" else containment.profileId

/-- What two recipes with equal keys have in common. -/
structure SameRecipe (p q : CommandPlan) (c d : CommandContainmentInfo)
    (source source' : Bytes × List Bytes × ResolvedExecutable) : Prop where
  recipeName : source.1 = source'.1
  family : p.classification.family = q.classification.family
  executable : source.2.2.executable.canonicalPath.same source'.2.2.executable.canonicalPath = true
  origin : source.2.2.origin = source'.2.2.origin
  environmentProfileId : p.environmentProfileId = q.environmentProfileId
  containmentProfile : containmentProfile c = containmentProfile d
  networkAllowed : c.networkAllowed = d.networkAllowed
  workspace : p.workspace.lexicallyNormal = q.workspace.lexicallyNormal
  argv : List.Forall₂ SameArgument source.2.1 source'.2.1

/-- Lists with related images are related. -/
theorem forall₂_of_map_eq {f g : Bytes → RecipeArgumentKind × Bytes} {R : Bytes → Bytes → Prop}
    (hR : ∀ a b, f a = g b → R a b) : ∀ {l m : List Bytes}, l.map f = m.map g →
    List.Forall₂ R l m := by
  intro l
  induction l with
  | nil =>
    intro m h
    have hm : m = [] := by simpa using h.symm
    rw [hm]
    exact List.Forall₂.nil
  | cons a l ih =>
    intro m h
    cases m with
    | nil => cases h
    | cons b m =>
      rw [List.map_cons, List.map_cons, List.cons.injEq] at h
      exact List.Forall₂.cons (hR a b h.1) (ih h.2)

theorem sameRecipe_of_payload {p q : CommandPlan} {c d : CommandContainmentInfo}
    {source source' : Bytes × List Bytes × ResolvedExecutable}
    (hp : p.workspace.isAbsolute = true) (hq : q.workspace.isAbsolute = true)
    (h : recipePayload p c source.1 source.2.1 source.2.2 true =
      recipePayload q d source'.1 source'.2.1 source'.2.2 true) :
    SameRecipe p q c d source source' := by
  unfold recipePayload at h
  simp only [List.cons_append, List.nil_append, List.cons.injEq, if_true] at h
  obtain ⟨-, hname, hfamily, hexecutable, horigin, hprofile, hcontainment, hnetwork, hrest⟩ := h
  obtain ⟨hargv, hend⟩ := (recipeArgument_delimits).list decimal_injective _ _ _ _ hrest
  have hworkspace : p.workspace.lexicallyNormal = q.workspace.lexicallyNormal := by
    rw [List.cons.injEq, genericString_lexicallyNormal hp, genericString_lexicallyNormal hq] at hend
    exact text_injective hend.1
  have hsame : source.2.2.executable.canonicalPath.same source'.2.2.executable.canonicalPath =
      true := by
    unfold genericString at hexecutable
    unfold same
    rw [beq_iff_eq]
    exact Path.View.toPath_injective (view_wellFormed _) (view_wellFormed _)
      (text_injective hexecutable)
  refine ⟨hname, family_text_injective hfamily, hsame, origin_text_injective horigin, hprofile,
    hcontainment, flag_of_choice (by decide) hnetwork, hworkspace, ?_⟩
  rw [List.map_map, List.map_map] at hargv
  apply forall₂_of_map_eq _ hargv
  intro a b hab
  simp only [comp_apply, Prod.mk.injEq] at hab
  exact sameArgument_of_recipeArgument hp hq hworkspace hab.1 hab.2

/-! ## §4. Both identities. -/

/-- Every string that the builders of a plan are given has a length that `std::size_t` holds. -/
def HasStringSizes (plan : CommandPlan) (containment : CommandContainmentInfo) : Prop :=
  Representable (fingerprintFields plan) ∧
    ∀ source, recipeSource plan = some source →
      Representable (recipePayload plan containment source.1 source.2.1 source.2.2 true)

/-- Equal workspace keys of two identities. -/
theorem sameRecipe_of_workspaceKey {hexSha256 : Bytes → Bytes} (hsha : Injective hexSha256)
    {p q : CommandPlan} {c d : CommandContainmentInfo} (hp : p.workspace.isAbsolute = true)
    (hq : q.workspace.isAbsolute = true) (hpsize : HasStringSizes p c) (hqsize : HasStringSizes q d)
    {i j : StableRecipeIdentity} (hi : stableRecipeIdentity hexSha256 p c = some i)
    (hj : stableRecipeIdentity hexSha256 q d = some j) (hkey : i.workspaceKey = j.workspaceKey) :
    ∃ source source', recipeSource p = some source ∧ recipeSource q = some source' ∧
      SameRecipe p q c d source source' := by
  unfold stableRecipeIdentity at hi hj
  cases hsource : recipeSource p with
  | none =>
    rw [hsource] at hi
    cases hi
  | some source =>
    cases hsource' : recipeSource q with
    | none =>
      rw [hsource'] at hj
      cases hj
    | some source' =>
      rw [hsource] at hi
      rw [hsource'] at hj
      cases hi
      cases hj
      have hbytes := hsha (List.append_cancel_left hkey)
      have hfields := frames_injective (hpsize.2 source hsource) (hqsize.2 source' hsource')
        (by decide) hbytes
      exact ⟨source, source', rfl, rfl, sameRecipe_of_payload hp hq hfields⟩

-- evaluating whole texts nests deep
set_option maxRecDepth 2048

/-- The plan of `pwd`, its workspace spelled with a dot. -/
def samplePlanDotted : CommandPlan := { samplePlan with workspace := ⟨ascii "/./w"⟩ }

theorem sample_sizes : HasStringSizes samplePlan {} ∧ HasStringSizes samplePlanDotted {} := by
  refine ⟨⟨?_, ?_⟩, ?_, ?_⟩
  · show ∀ field ∈ fingerprintFields samplePlan, field.length < 256 ^ 8
    decide
  · intro source hsource
    cases hsource
    show ∀ field ∈ recipePayload _ _ _ _ _ true, field.length < 256 ^ 8
    decide
  · show ∀ field ∈ fingerprintFields samplePlanDotted, field.length < 256 ^ 8
    decide
  · intro source hsource
    cases hsource
    show ∀ field ∈ recipePayload _ _ _ _ _ true, field.length < 256 ^ 8
    decide

end Ava.Permissions
