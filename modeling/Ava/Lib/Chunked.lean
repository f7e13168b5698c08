/-
  Ava.Lib.Chunked
  **A LOOP OVER READ BUFFERS IS ONE FOLD.**

  A program that reads a file into a fixed buffer and walks over each filled part keeps an
  absolute offset and a state across the parts.  However the reads are cut (short reads
  included) the result is that of walking over the text once.

    - §1 `foldFrom` : the walk, each element with its position;
    - §2 `chunkedFold` : the same walk, one buffer at a time; `chunkedFold_eq_foldFrom`.
-/
import Mathlib.Data.List.Basic

namespace Ava.Lib

variable {α σ ε : Type}

/-! ## §1. The walk. -/

/-- Walk over a text, the first element being at position `pos`. -/
def foldFrom (step : Nat → σ → α → Except ε σ) : Nat → σ → List α → Except ε σ
  | _, st, [] => .ok st
  | pos, st, c :: s =>
    match step pos st c with
    | .error e => .error e
    | .ok st => foldFrom step (pos + 1) st s

theorem foldFrom_append (step : Nat → σ → α → Except ε σ) (t : List α) :
    ∀ (s : List α) (pos : Nat) (st : σ),
      foldFrom step pos st (s ++ t) =
        match foldFrom step pos st s with
        | .error e => .error e
        | .ok st => foldFrom step (pos + s.length) st t := by
  intro s
  induction s with
  | nil =>
    intro pos st
    rfl
  | cons c s ih =>
    intro pos st
    rw [List.cons_append, foldFrom, foldFrom]
    cases step pos st c with
    | error e => rfl
    | ok st' =>
      dsimp only
      rw [ih, List.length_cons, Nat.add_assoc, Nat.add_comm 1]

/-! ## §2. One buffer at a time. -/

/-- The buffered loop.  `reads` says how much each read call returns at most (nothing more is
    known of it); when it runs out, a call fills what was asked for. -/
def chunkedFold (bufferSize : Nat) (unreadable : ε) (step : Nat → σ → α → Except ε σ) :
    Nat → List Nat → Nat → σ → List α → Except ε σ
  | 0, _, _, st, _ => .ok st
  | _ + 1, _, _, st, [] => .ok st
  | fuel + 1, reads, offset, st, c :: s =>
    let wanted := min (c :: s).length bufferSize
    let count := min (reads.headD wanted) wanted
    if count = 0 then .error unreadable
    else
      match foldFrom step offset st ((c :: s).take count) with
      | .error e => .error e
      | .ok st =>
        chunkedFold bufferSize unreadable step fuel reads.tail (offset + count) st
          ((c :: s).drop count)

/-- A buffered walk that ends well is the walk, whatever the reads returned. -/
theorem foldFrom_of_chunkedFold {bufferSize : Nat} {unreadable : ε}
    {step : Nat → σ → α → Except ε σ} :
    ∀ {fuel : Nat} {reads : List Nat} {offset : Nat} {st st' : σ} {s : List α}, s.length ≤ fuel →
      chunkedFold bufferSize unreadable step fuel reads offset st s = .ok st' →
      foldFrom step offset st s = .ok st' := by
  intro fuel
  induction fuel with
  | zero =>
    intro reads offset st st' s hfuel h
    have hs : s = [] := List.length_eq_zero_iff.mp (Nat.le_zero.mp hfuel)
    subst hs
    exact h
  | succ fuel ih =>
    intro reads offset st st' s hfuel h
    cases s with
    | nil => exact h
    | cons c s =>
      unfold chunkedFold at h
      dsimp only at h
      set count := min (reads.headD (min (c :: s).length bufferSize)) (min (c :: s).length bufferSize)
      split at h
      next => cases h
      next hpos =>
        have hlen : ((c :: s).take count).length = count := by
          rw [List.length_take]
          omega
        have hrest : ((c :: s).drop count).length ≤ fuel := by
          rw [List.length_drop]
          omega
        have hsplit := foldFrom_append step ((c :: s).drop count) ((c :: s).take count) offset st
        rw [List.take_append_drop, hlen] at hsplit
        rw [hsplit]
        cases hchunk : foldFrom step offset st ((c :: s).take count) with
        | error e =>
          rw [hchunk] at h
          cases h
        | ok st₁ =>
          rw [hchunk] at h
          exact ih hrest h

/-- **THE BUFFERS DO NOT SHOW** as long as no read returns nothing. -/
theorem chunkedFold_eq_foldFrom {bufferSize : Nat} (hbuffer : 0 < bufferSize) (unreadable : ε)
    (step : Nat → σ → α → Except ε σ) :
    ∀ (fuel : Nat) (reads : List Nat) (offset : Nat) (st : σ) (s : List α), s.length ≤ fuel →
      (∀ r ∈ reads, r ≠ 0) →
      chunkedFold bufferSize unreadable step fuel reads offset st s = foldFrom step offset st s := by
  intro fuel
  induction fuel with
  | zero =>
    intro reads offset st s hfuel _
    have hs : s = [] := List.length_eq_zero_iff.mp (Nat.le_zero.mp hfuel)
    subst hs
    rfl
  | succ fuel ih =>
    intro reads offset st s hfuel hreads
    cases s with
    | nil => rfl
    | cons c s =>
      unfold chunkedFold
      set wanted := min (c :: s).length bufferSize with hwanted
      set count := min (reads.headD wanted) wanted with hcount
      have hwpos : wanted ≠ 0 := by
        rw [hwanted, List.length_cons]
        omega
      have hhead : reads.headD wanted ≠ 0 := by
        cases reads with
        | nil => exact hwpos
        | cons r rs => exact hreads r List.mem_cons_self
      have hpos : count ≠ 0 := by omega
      have hlen : ((c :: s).take count).length = count := by
        rw [List.length_take]
        omega
      have htail : ∀ r ∈ reads.tail, r ≠ 0 := fun r hr => hreads r (List.mem_of_mem_tail hr)
      have hrest : ((c :: s).drop count).length ≤ fuel := by
        rw [List.length_drop]
        omega
      dsimp only
      rw [if_neg hpos]
      have hsplit := foldFrom_append step ((c :: s).drop count) ((c :: s).take count) offset st
      rw [List.take_append_drop, hlen] at hsplit
      rw [hsplit]
      cases foldFrom step offset st ((c :: s).take count) with
      | error e => rfl
      | ok st' => exact ih _ _ _ _ hrest htail

end Ava.Lib
