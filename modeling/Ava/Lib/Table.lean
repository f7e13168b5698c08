/-
  Ava.Lib.Table
  **TABLES WITH ONE ENTRY PER KEY**, as association lists in the order of insertion.

    - `set` : overwrite the entry of a key, or append one;
    - `lookup_set_self`, `lookup_set_of_ne`, `forall_mem_set` : what it does;
    - `lookup_eq_some_iff_mem` : looking up where keys are distinct.
-/
import Mathlib.Data.List.Basic

namespace Ava.Lib

/-- A table. -/
abbrev Table (κ β : Type) := List (κ × β)

namespace Table

variable {κ β : Type} [BEq κ]

/-- Overwrite the entry of `k`, or append one. -/
def set : Table κ β → κ → β → Table κ β
  | [], k, v => [(k, v)]
  | p :: m, k, v => if p.1 == k then (k, v) :: m else p :: set m k v

/-- Setting an entry adds nothing else. -/
theorem forall_mem_set {P : κ × β → Prop} {k : κ} {v : β} (hv : P (k, v)) : ∀ {m : Table κ β},
    (∀ p ∈ m, P p) → ∀ p ∈ set m k v, P p := by
  intro m
  induction m with
  | nil =>
    intro _ p hp
    rw [set, List.mem_singleton] at hp
    rw [hp]
    exact hv
  | cons q m ih =>
    intro hm
    obtain ⟨hhead, htail⟩ := List.forall_mem_cons.mp hm
    unfold set
    by_cases hq : (q.1 == k) = true
    · rw [if_pos hq]
      exact List.forall_mem_cons.mpr ⟨hv, htail⟩
    · rw [if_neg hq]
      exact List.forall_mem_cons.mpr ⟨hhead, ih htail⟩

variable [LawfulBEq κ]

@[simp] theorem lookup_set_self (k : κ) (v : β) :
    ∀ m : Table κ β, List.lookup k (set m k v) = some v := by
  intro m
  induction m with
  | nil => simp [set]
  | cons p m ih =>
    unfold set
    by_cases hp : p.1 = k
    · simp [hp]
    · have hne : (k == p.1) = false := by simpa using Ne.symm hp
      rw [if_neg (by simpa using hp), List.lookup_cons, hne]
      exact ih

/-- The same entry set twice. -/
theorem set_set (k : κ) (v w : β) : ∀ m : Table κ β, set (set m k v) k w = set m k w := by
  intro m
  induction m with
  | nil => simp [set]
  | cons p m ih =>
    by_cases hp : p.1 = k
    · simp [set, hp]
    · simp [set, hp, ih]

/-- Where keys are distinct, looking up is being there. -/
theorem lookup_eq_some_iff_mem {k : κ} {v : β} : ∀ {m : Table κ β}, (m.map Prod.fst).Nodup →
    (List.lookup k m = some v ↔ (k, v) ∈ m) := by
  intro m
  induction m with
  | nil =>
    intro _
    simp
  | cons p m ih =>
    intro hnodup
    obtain ⟨hnot, hrest⟩ := List.nodup_cons.mp hnodup
    by_cases hp : k = p.1
    · have hmem : (k, v) ∉ m := fun h => hnot (hp ▸ List.mem_map_of_mem h)
      have hbeq : (k == p.1) = true := by simpa using hp
      rw [List.lookup_cons, hbeq, List.mem_cons]
      constructor
      · intro h
        exact .inl (Prod.ext hp (Option.some.inj h).symm)
      · rintro (h | h)
        · rw [← h]
        · exact absurd h hmem
    · have hbeq : (k == p.1) = false := by simpa using hp
      rw [List.lookup_cons, hbeq, List.mem_cons]
      constructor
      · exact fun h => .inr ((ih hrest).mp h)
      · rintro (h | h)
        · exact absurd (congrArg Prod.fst h) hp
        · exact (ih hrest).mpr h

/-- A key that no entry has. -/
theorem lookup_eq_none {m : Table κ β} {k : κ} (h : ∀ p ∈ m, p.1 ≠ k) : List.lookup k m = none := by
  rw [List.lookup_eq_none_iff]
  intro p hp
  simpa using Ne.symm (h p hp)

end Table

end Ava.Lib
