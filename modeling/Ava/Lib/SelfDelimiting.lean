/-
  Ava.Lib.SelfDelimiting
  **ENCODINGS WHOSE END CAN BE FOUND.**  A record is written as a run of tokens, and runs are
  written one after the other.  An encoding is self-delimiting when two runs that agree, whatever
  follows them, encode the same thing and are followed by the same thing.

    - §1 `SelfDelimiting`, for an encoder and the key of a value that it determines; tokens out of
      a table (`injective_of_find?`);
    - §2 counted lists: `SelfDelimiting.list`;
    - §3 tokens as octets behind their length: `frames_injective`.
-/
import Mathlib.Algebra.Group.Nat.Defs
import Mathlib.Data.List.Basic

namespace Ava.Lib

variable {α β τ : Type}

/-! ## §1. The notion. -/

/-- Two encodings that begin the same text encode values of the same key, and end together. -/
def SelfDelimiting (enc : α → List τ) (key : α → β) : Prop :=
  ∀ a b s t, enc a ++ s = enc b ++ t → key a = key b ∧ s = t

/-- One token of its own. -/
theorem SelfDelimiting.token (f : α → τ) : SelfDelimiting (fun a => [f a]) f := by
  intro a b s t h
  simpa using h

/-- Tokens out of a table in which each value is the first one with its token. -/
theorem injective_of_find? [BEq τ] {f : α → τ} (all : List α)
    (h : ∀ a, all.find? (fun b => f b == f a) = some a) : Function.Injective f := by
  intro a b hab
  have ha := h a
  rw [hab, h b] at ha
  exact (Option.some.inj ha).symm

/-! ## §2. Lists. -/

/-- Runs of equally many values. -/
theorem SelfDelimiting.flatMap {enc : α → List τ} {key : α → β} (h : SelfDelimiting enc key) :
    ∀ {l m : List α} {s t : List τ}, l.length = m.length →
      l.flatMap enc ++ s = m.flatMap enc ++ t → l.map key = m.map key ∧ s = t := by
  intro l
  induction l with
  | nil =>
    intro m s t hlen heq
    have hm : m = [] := List.length_eq_zero_iff.mp hlen.symm
    subst hm
    exact ⟨rfl, heq⟩
  | cons a l ih =>
    intro m s t hlen heq
    cases m with
    | nil => cases hlen
    | cons b m =>
      rw [List.flatMap_cons, List.flatMap_cons, List.append_assoc, List.append_assoc] at heq
      obtain ⟨hkey, hrest⟩ := h a b _ _ heq
      obtain ⟨hkeys, hend⟩ := ih (Nat.succ.inj hlen) hrest
      exact ⟨by rw [List.map_cons, List.map_cons, hkey, hkeys], hend⟩

/-- The number of values, then the values. -/
def counted (count : Nat → τ) (enc : α → List τ) (l : List α) : List τ :=
  count l.length :: l.flatMap enc

theorem SelfDelimiting.list {enc : α → List τ} {key : α → β} (h : SelfDelimiting enc key)
    {count : Nat → τ} (hcount : Function.Injective count) :
    SelfDelimiting (counted count enc) (List.map key) := by
  intro l m s t heq
  unfold counted at heq
  rw [List.cons_append, List.cons_append, List.cons.injEq] at heq
  exact h.flatMap (hcount heq.1) heq.2

/-! ## §3. Octets behind their length. -/

/-- The `k` low octets of a number, the lowest first. -/
def littleEndian : Nat → Nat → List UInt8
  | 0, _ => []
  | k + 1, n => UInt8.ofNat (n % 256) :: littleEndian k (n / 256)

theorem length_littleEndian : ∀ k n : Nat, (littleEndian k n).length = k := by
  intro k
  induction k with
  | zero =>
    intro n
    rfl
  | succ k ih =>
    intro n
    rw [littleEndian, List.length_cons, ih]

theorem littleEndian_injective : ∀ {k n m : Nat}, n < 256 ^ k → m < 256 ^ k →
    littleEndian k n = littleEndian k m → n = m := by
  intro k
  induction k with
  | zero =>
    intro n m hn hm _
    rw [Nat.pow_zero] at hn hm
    omega
  | succ k ih =>
    intro n m hn hm h
    rw [littleEndian, littleEndian, List.cons.injEq] at h
    have hlow : n % 256 = m % 256 := by
      have := congrArg UInt8.toNat h.1
      simpa [UInt8.toNat_ofNat'] using this
    rw [Nat.pow_succ] at hn hm
    have hhigh : n / 256 = m / 256 := ih (by omega) (by omega) h.2
    omega

/-- A token behind its length in `k` octets. -/
def lengthPrefixed (k : Nat) (token : List UInt8) : List UInt8 :=
  littleEndian k token.length ++ token

/-- **TOKENS OF REPRESENTABLE LENGTH CAN BE READ BACK.** -/
theorem frames_injective {k : Nat} : ∀ {l m : List (List UInt8)},
    (∀ x ∈ l, x.length < 256 ^ k) → (∀ x ∈ m, x.length < 256 ^ k) → 0 < k →
    l.flatMap (lengthPrefixed k) = m.flatMap (lengthPrefixed k) → l = m := by
  have hne : ∀ (x : List UInt8) (rest : List UInt8), 0 < k → lengthPrefixed k x ++ rest ≠ [] := by
    intro x rest hk hnil
    have hlen := congrArg List.length hnil
    simp only [lengthPrefixed, List.length_append, length_littleEndian, List.length_nil] at hlen
    omega
  intro l
  induction l with
  | nil =>
    intro m _ _ hk heq
    cases m with
    | nil => rfl
    | cons y m => exact absurd heq.symm (hne y _ hk)
  | cons x l ih =>
    intro m hl hm hk heq
    cases m with
    | nil => exact absurd heq (hne x _ hk)
    | cons y m =>
      rw [List.flatMap_cons, List.flatMap_cons] at heq
      unfold lengthPrefixed at heq
      rw [List.append_assoc, List.append_assoc] at heq
      obtain ⟨hsize, hrest⟩ := List.append_inj heq (by
        rw [length_littleEndian, length_littleEndian])
      have hlen : x.length = y.length :=
        littleEndian_injective (hl x List.mem_cons_self) (hm y List.mem_cons_self) hsize
      obtain ⟨hxy, htail⟩ := List.append_inj hrest hlen
      rw [hxy, ih (fun z hz => hl z (List.mem_cons_of_mem _ hz))
        (fun z hz => hm z (List.mem_cons_of_mem _ hz)) hk htail]

end Ava.Lib
