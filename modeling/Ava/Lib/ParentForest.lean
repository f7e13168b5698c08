/-
  Ava.Lib.ParentForest
  **PARENT POINTERS**: a partial function `parent : α → Option α` on finitely many nodes, with
  nothing known about it: a node may be its own parent, and chains may run into a cycle.

    - §1 `ancestor`, `ReachesCycle` and `IsLine`, the chain of ancestors from the topmost one down;
    - §2 `climb` walks up and remembers what it has seen: `climb_spec` says that it fails exactly on
      the nodes whose chain reaches a cycle and otherwise returns the chain;
    - §3 `descend` follows child lists down from a level: when every node has a chain, following
      the children of the roots meets every node once, `descend_perm`.
-/
import Mathlib.Data.List.Basic
import Mathlib.Data.List.Nodup
import Mathlib.Data.List.Perm.Subperm

namespace Ava.Lib.ParentForest

variable {α : Type}

/-! ## §1. Chains of parents. -/

section Chains

variable (parent : α → Option α)

/-- `n` steps up. -/
def ancestor : Nat → α → Option α
  | 0, a => some a
  | n + 1, a => (parent a).bind (ancestor n)

/-- The chain of `a` comes to a node that is its own proper ancestor. -/
def ReachesCycle (a : α) : Prop :=
  ∃ x m n, ancestor parent m a = some x ∧ ancestor parent (n + 1) x = some x

/-- **The chain of ancestors**, from the topmost one down to the node itself. -/
inductive IsLine : List α → α → Prop
  | top {a : α} (h : parent a = none) : IsLine [a] a
  | under {a b : α} {line : List α} (h : parent a = some b) (hb : IsLine line b) :
      IsLine (line ++ [a]) a

variable {parent}

theorem ancestor_succ_eq_bind (n : Nat) : ∀ a : α,
    ancestor parent (n + 1) a = (ancestor parent n a).bind parent := by
  induction n with
  | zero =>
    intro a
    cases h : parent a <;> simp [ancestor, h]
  | succ n ih =>
    intro a
    cases h : parent a with
    | none => simp [ancestor, h]
    | some b =>
      show (parent a).bind (ancestor parent (n + 1)) = _
      rw [h, ancestor, h]
      exact ih b

theorem ReachesCycle.of_parent {a b : α} (h : parent a = some b) (hb : ReachesCycle parent b) :
    ReachesCycle parent a := by
  obtain ⟨x, m, n, hx, hcycle⟩ := hb
  refine ⟨x, m + 1, n, ?_, hcycle⟩
  rw [ancestor, h]
  exact hx

/-- A chain that has a topmost node meets no cycle. -/
theorem IsLine.not_reachesCycle {line : List α} {a : α} (h : IsLine parent line a) :
    ¬ ReachesCycle parent a := by
  induction h with
  | @top a htop =>
    rintro ⟨x, m, n, hx, hcycle⟩
    cases m with
    | zero =>
      obtain rfl : a = x := Option.some.inj hx
      rw [ancestor, htop] at hcycle
      cases hcycle
    | succ m =>
      rw [ancestor, htop] at hx
      cases hx
  | @under a b line hparent _ ih =>
    rintro ⟨x, m, n, hx, hcycle⟩
    cases m with
    | zero =>
      -- a cycle through `a` itself passes through its parent as well
      obtain rfl : a = x := Option.some.inj hx
      rw [ancestor, hparent] at hcycle
      refine ih ⟨b, 0, n, rfl, ?_⟩
      rw [ancestor_succ_eq_bind, show ancestor parent n b = some a from hcycle]
      exact hparent
    | succ m =>
      rw [ancestor, hparent] at hx
      exact ih ⟨x, m, n, hx, hcycle⟩

/-- A node has one chain. -/
theorem IsLine.unique {line line' : List α} {a : α} (h : IsLine parent line a)
    (h' : IsLine parent line' a) : line = line' := by
  induction h generalizing line' with
  | top htop =>
    cases h' with
    | top _ => rfl
    | under hparent _ => rw [htop] at hparent; cases hparent
  | @under a b line hparent _ ih =>
    cases h' with
    | top htop => rw [htop] at hparent; cases hparent
    | under hparent' hb' =>
      rw [hparent] at hparent'
      cases hparent'
      rw [ih hb']

/-- A chain survives every change of `parent` that only cuts the links of nodes that reach a
    cycle. -/
theorem IsLine.congr {parent' : α → Option α}
    (hcut : ∀ a, ¬ ReachesCycle parent a → parent' a = parent a) {line : List α} {a : α}
    (h : IsLine parent line a) : IsLine parent' line a := by
  induction h with
  | @top a htop =>
    have hline : IsLine parent [a] a := .top htop
    exact .top ((hcut a hline.not_reachesCycle).trans htop)
  | @under a b line hparent hb ih =>
    have hline : IsLine parent (line ++ [a]) a := .under hparent hb
    exact .under ((hcut a hline.not_reachesCycle).trans hparent) ih

end Chains

/-! ## §2. Walking up with a memory. -/

section Climb

variable [DecidableEq α] (parent : α → Option α)

/-- Walk up until a node without a parent, and return the nodes met, the topmost one last; `none`
    when a node is met twice, or the rounds run out. -/
def climb : Nat → List α → α → Option (List α)
  | 0, _, _ => none
  | rounds + 1, seen, a =>
    if a ∈ seen then none
    else
      match parent a with
      | none => some [a]
      | some b => (climb rounds (a :: seen) b).map (a :: ·)

variable {parent} {ids : List α}

/-- What a walk says about the chain of its start. -/
def ClimbSays (parent : α → Option α) (ids seen : List α) (a : α) : Option (List α) → Prop
  | none => ReachesCycle parent a
  | some line => IsLine parent line.reverse a ∧ line.length + seen.length ≤ ids.length

variable (hclosed : ∀ a b, parent a = some b → b ∈ ids)

include hclosed

/-- **THE WALK IS RIGHT.**  The induction is on the rounds.  Every node seen has the current one as
    a proper ancestor, so meeting it again closes a cycle; the nodes seen are distinct, so the
    rounds cannot run out. -/
theorem climb_spec :
    ∀ (rounds : Nat) (seen : List α) (a : α), a ∈ ids → seen.Nodup → (∀ x ∈ seen, x ∈ ids) →
      (∀ x ∈ seen, ∃ n, ancestor parent (n + 1) x = some a) → ids.length < rounds + seen.length →
      ClimbSays parent ids seen a (climb parent rounds seen a) := by
  intro rounds
  induction rounds with
  | zero =>
    intro seen a ha hnodup hsub hdesc hlen
    have hle : seen.length ≤ ids.length := (List.subperm_of_subset hnodup hsub).length_le
    omega
  | succ rounds ih =>
    intro seen a ha hnodup hsub hdesc hlen
    unfold climb
    by_cases hseen : a ∈ seen
    · rw [if_pos hseen]
      obtain ⟨n, hn⟩ := hdesc a hseen
      exact ⟨a, 0, n, rfl, hn⟩
    · rw [if_neg hseen]
      have hnodup' : (a :: seen).Nodup := List.nodup_cons.mpr ⟨hseen, hnodup⟩
      have hsub' : ∀ x ∈ a :: seen, x ∈ ids := List.forall_mem_cons.mpr ⟨ha, hsub⟩
      cases hparent : parent a with
      | none =>
        have hle : (a :: seen).length ≤ ids.length :=
          (List.subperm_of_subset hnodup' hsub').length_le
        refine ⟨.top hparent, ?_⟩
        simp only [List.length_cons, List.length_nil] at hle ⊢
        omega
      | some b =>
        have hdesc' : ∀ x ∈ a :: seen, ∃ n, ancestor parent (n + 1) x = some b := by
          intro x hx
          rcases List.mem_cons.mp hx with rfl | hx
          · exact ⟨0, by rw [ancestor, hparent]; rfl⟩
          · obtain ⟨n, hn⟩ := hdesc x hx
            exact ⟨n + 1, by rw [ancestor_succ_eq_bind, hn]; exact hparent⟩
        have hrec := ih (a :: seen) b (hclosed a b hparent) hnodup' hsub' hdesc'
          (by rw [List.length_cons]; omega)
        show ClimbSays parent ids seen a ((climb parent rounds (a :: seen) b).map (a :: ·))
        cases hclimb : climb parent rounds (a :: seen) b with
        | none =>
          rw [hclimb] at hrec
          exact ReachesCycle.of_parent hparent hrec
        | some line =>
          rw [hclimb] at hrec
          obtain ⟨hline, hle⟩ := hrec
          refine ⟨?_, ?_⟩
          · rw [List.reverse_cons]
            exact .under hparent hline
          · simp only [List.length_cons] at hle ⊢
            omega

/-- The walk from a fresh memory. -/
theorem climb_says {a : α} (ha : a ∈ ids) :
    ClimbSays parent ids [] a (climb parent (ids.length + 1) [] a) :=
  climb_spec hclosed (ids.length + 1) [] a ha List.nodup_nil (List.forall_mem_nil _)
    (List.forall_mem_nil _) (by rw [List.length_nil]; omega)

theorem climb_eq_none_iff {a : α} (ha : a ∈ ids) :
    climb parent (ids.length + 1) [] a = none ↔ ReachesCycle parent a := by
  have hsays := climb_says hclosed ha
  cases h : climb parent (ids.length + 1) [] a with
  | none =>
    rw [h] at hsays
    exact ⟨fun _ => hsays, fun _ => rfl⟩
  | some line =>
    rw [h] at hsays
    exact ⟨fun hnone => absurd hnone (by simp), fun hcycle => absurd hcycle hsays.1.not_reachesCycle⟩

end Climb

/-! ## §3. Following the children. -/

/-- The nodes met by following `children` from a level on, for so many levels. -/
def descend (children : α → List α) : Nat → List α → List α
  | 0, _ => []
  | levels + 1, level => level ++ descend children levels (level.flatMap children)

theorem descend_succ (children : α → List α) : ∀ (levels : Nat) (level : List α),
    descend children (levels + 1) level =
      level ++ (descend children levels level).flatMap children := by
  intro levels
  induction levels with
  | zero =>
    intro level
    rfl
  | succ levels ih =>
    intro level
    calc descend children (levels + 2) level
        = level ++ descend children (levels + 1) (level.flatMap children) := rfl
      _ = level ++ (level.flatMap children ++
            (descend children levels (level.flatMap children)).flatMap children) := by rw [ih]
      _ = level ++ (descend children (levels + 1) level).flatMap children := by
            rw [descend, List.flatMap_append]

section Forest

variable [DecidableEq α] {parent : α → Option α} {ids : List α}

/-- The nodes without a parent. -/
def roots (parent : α → Option α) (ids : List α) : List α :=
  ids.filter fun c => parent c = none

/-- The nodes with a given parent. -/
def childrenOf (parent : α → Option α) (ids : List α) (p : α) : List α :=
  ids.filter fun c => parent c = some p

theorem mem_descend {levels : Nat} : ∀ {level : List α}, (∀ x ∈ level, x ∈ ids) →
    ∀ x ∈ descend (childrenOf parent ids) levels level, x ∈ ids := by
  induction levels with
  | zero =>
    intro level _ x hx
    cases hx
  | succ levels ih =>
    intro level hlevel x hx
    rcases List.mem_append.mp hx with hx | hx
    · exact hlevel x hx
    · refine ih ?_ x hx
      intro y hy
      obtain ⟨p, -, hp⟩ := List.mem_flatMap.mp hy
      exact (List.mem_filter.mp hp).1

variable (hnodup : ids.Nodup)

include hnodup

/-- How often a node is met one level down: as often as its parent above. -/
theorem count_flatMap_childrenOf {s : α} (hs : s ∈ ids) : ∀ level : List α,
    (level.flatMap (childrenOf parent ids)).count s =
      ((parent s).elim 0 fun p => level.count p) := by
  intro level
  induction level with
  | nil => cases parent s <;> rfl
  | cons q level ih =>
    have hq : (childrenOf parent ids q).count s = if parent s = some q then 1 else 0 := by
      rw [childrenOf]
      split
      next h => exact List.count_eq_one_of_mem (hnodup.filter _) (by simp [hs, h])
      next h => exact List.count_eq_zero_of_not_mem (by simp [h])
    rw [List.flatMap_cons, List.count_append, hq, ih]
    cases hparent : parent s with
    | none => simp
    | some p =>
      simp only [Option.some.injEq, Option.elim_some, List.count_cons, beq_iff_eq]
      by_cases hpq : p = q
      · rw [if_pos hpq, if_pos hpq.symm, Nat.add_comm]
      · rw [if_neg hpq, if_neg (Ne.symm hpq), Nat.zero_add, Nat.add_zero]

variable (hclosed : ∀ a b, parent a = some b → b ∈ ids)

include hclosed

/-- **A node with a chain is met once**, on the level its chain is long. -/
theorem count_descend {line : List α} {s : α} (hline : IsLine parent line s) : s ∈ ids →
    ∀ levels, line.length ≤ levels →
      (descend (childrenOf parent ids) levels (roots parent ids)).count s = 1 := by
  induction hline with
  | @top a htop =>
    intro hs levels hle
    cases levels with
    | zero => exact absurd hle (by simp)
    | succ levels =>
      have hmem : a ∈ roots parent ids := List.mem_filter.mpr ⟨hs, decide_eq_true htop⟩
      have hroot : (roots parent ids).count a = 1 :=
        List.count_eq_one_of_mem (hnodup.filter _) hmem
      rw [descend_succ, List.count_append, hroot, count_flatMap_childrenOf hnodup hs, htop]
      rfl
  | @under a b line hparent _ ih =>
    intro hs levels hle
    rw [List.length_append, List.length_singleton] at hle
    cases levels with
    | zero => omega
    | succ levels =>
      have hroot : (roots parent ids).count a = 0 :=
        List.count_eq_zero_of_not_mem (by simp [roots, hparent])
      rw [descend_succ, List.count_append, hroot, count_flatMap_childrenOf hnodup hs, hparent,
        Nat.zero_add]
      exact ih (hclosed a b hparent) levels (by omega)

/-- **FOLLOWING THE CHILDREN OF THE ROOTS MEETS EVERY NODE ONCE**, however many levels beyond the
    number of nodes are followed. -/
theorem descend_perm
    (hline : ∀ s ∈ ids, ∃ line, IsLine parent line s ∧ line.length ≤ ids.length) {levels : Nat}
    (hlevels : ids.length ≤ levels) :
    (descend (childrenOf parent ids) levels (roots parent ids)).Perm ids := by
  rw [List.perm_iff_count]
  intro s
  by_cases hs : s ∈ ids
  · obtain ⟨line, hs', hle⟩ := hline s hs
    rw [count_descend hnodup hclosed hs' hs levels (Nat.le_trans hle hlevels)]
    exact (List.count_eq_one_of_mem hnodup hs).symm
  · have hroots : ∀ x ∈ roots parent ids, x ∈ ids := fun x hx => (List.mem_filter.mp hx).1
    have hnot : s ∉ descend (childrenOf parent ids) levels (roots parent ids) :=
      fun hmem => hs (mem_descend hroots s hmem)
    rw [List.count_eq_zero_of_not_mem hnot, List.count_eq_zero_of_not_mem hs]

/-- The roots and all child lists together hold every node once. -/
theorem placed_perm :
    (roots parent ids ++ ids.flatMap (childrenOf parent ids)).Perm ids := by
  rw [List.perm_iff_count]
  intro s
  by_cases hs : s ∈ ids
  · rw [List.count_append, count_flatMap_childrenOf hnodup hs, List.count_eq_one_of_mem hnodup hs]
    cases hparent : parent s with
    | none =>
      rw [roots, List.count_eq_one_of_mem (hnodup.filter _) (by simp [hs, hparent])]
      rfl
    | some p =>
      have hroot : (roots parent ids).count s = 0 :=
        List.count_eq_zero_of_not_mem (by simp [roots, hparent])
      rw [hroot, Nat.zero_add]
      exact List.count_eq_one_of_mem hnodup (hclosed s p hparent)
  · rw [List.count_eq_zero_of_not_mem hs, List.count_eq_zero_of_not_mem]
    intro hmem
    rcases List.mem_append.mp hmem with hmem | hmem
    · exact hs (List.mem_filter.mp hmem).1
    · obtain ⟨p, -, hp⟩ := List.mem_flatMap.mp hmem
      exact hs (List.mem_filter.mp hp).1

end Forest

end Ava.Lib.ParentForest
