/-
  Ava.Lib.LineScan
  **A SCANNER WITH A LINE BUFFER IS A FOLD OVER THE LINES.**

  The scanner looks at one element at a time: the terminator hands the buffer over as a line
  and empties it, any other element is buffered unless the buffer is full.

    - §1 `LineRules` and its `step`; §2 `foldLines`, `fits`;
    - §3 `scan_eq_ok_iff` : a scan succeeds exactly when every piece fits and every terminated
      line is accepted in turn, and it ends with the open tail in the buffer.
-/
import Ava.Lib.Chunked
import Ava.Lib.Framing

namespace Ava.Lib

variable {α σ ε : Type}

/-! ## §1. The rules of a scanner. -/

/-- What a scanner does with a line (given the offset after its terminator), and when its
    buffer is full. -/
structure LineRules (α σ ε : Type) where
  sep : α
  full : List α → Bool
  tooLong : ε
  onLine : Nat → σ → List α → Except ε σ

/-- One element, at its offset. -/
def LineRules.step [DecidableEq α] (R : LineRules α σ ε) (pos : Nat) (st : List α × σ) (c : α) :
    Except ε (List α × σ) :=
  if c = R.sep then
    match R.onLine (pos + 1) st.2 st.1 with
    | .error e => .error e
    | .ok s => .ok ([], s)
  else if R.full st.1 then .error R.tooLong
  else .ok (st.1 ++ [c], st.2)

/-! ## §2. The same over lines. -/

/-- Whole lines in turn, the first one starting at offset `pos`. -/
def LineRules.foldLines (R : LineRules α σ ε) : Nat → σ → List (List α) → Except ε σ
  | _, s, [] => .ok s
  | pos, s, l :: ls =>
    match R.onLine (pos + l.length + 1) s l with
    | .error e => .error e
    | .ok s => R.foldLines (pos + l.length + 1) s ls

/-- A piece whose every element finds room. -/
def LineRules.Fits (R : LineRules α σ ε) (l : List α) : Prop :=
  ∀ k < l.length, R.full (l.take k) = false

/-- All pieces of a text fit. -/
def LineRules.AllFit (R : LineRules α σ ε) (pieces : List (List α) × List α) : Prop :=
  (∀ l ∈ pieces.1, R.Fits l) ∧ R.Fits pieces.2

theorem LineRules.fits_snoc (R : LineRules α σ ε) {l : List α} {c : α} :
    R.Fits (l ++ [c]) ↔ R.Fits l ∧ R.full l = false := by
  unfold LineRules.Fits
  constructor
  · intro h
    constructor
    · intro k hk
      have hk' := h k (by rw [List.length_append, List.length_singleton]; omega)
      rwa [List.take_append_of_le_length (Nat.le_of_lt hk)] at hk'
    · have hk' := h l.length (by rw [List.length_append, List.length_singleton]; omega)
      rwa [List.take_left] at hk'
  · intro h k hk
    rw [List.length_append, List.length_singleton] at hk
    obtain hlt | heq := Nat.lt_succ_iff_lt_or_eq.mp hk
    · rw [List.take_append_of_le_length (Nat.le_of_lt hlt)]
      exact h.1 k hlt
    · rw [heq, List.take_left]
      exact h.2

theorem LineRules.fits_of_append (R : LineRules α σ ε) {l m : List α} (h : R.Fits (l ++ m)) :
    R.Fits l := by
  intro k hk
  have hk' := h k (by rw [List.length_append]; omega)
  rwa [List.take_append_of_le_length (Nat.le_of_lt hk)] at hk'

/-! ## §3. The scan. -/

variable [DecidableEq α]

/-- The buffered run is the start of the first piece. -/
theorem LineRules.fits_of_allFit (R : LineRules α σ ε) {line : List α} (hfree : R.sep ∉ line)
    {text : List α} (h : R.AllFit (unframe R.sep (line ++ text))) : R.Fits line := by
  rw [unframe_free_append text hfree] at h
  rcases hu : unframe R.sep text with ⟨_ | ⟨l, ls⟩, t⟩ <;> rw [hu] at h
  · exact R.fits_of_append h.2
  · exact R.fits_of_append (h.1 _ List.mem_cons_self)

/-- **THE SCAN OF A TEXT**, from a buffer that holds the start of the current piece. -/
theorem LineRules.scan_eq_ok_iff (R : LineRules α σ ε) :
    ∀ (text line : List α) (start : Nat) (s : σ) (line' : List α) (s' : σ), R.sep ∉ line →
      R.Fits line →
      (foldFrom R.step (start + line.length) (line, s) text = .ok (line', s') ↔
        R.AllFit (unframe R.sep (line ++ text)) ∧ line' = (unframe R.sep (line ++ text)).2 ∧
        R.foldLines start s (unframe R.sep (line ++ text)).1 = .ok s') := by
  intro text
  induction text with
  | nil =>
    intro line start s line' s' hfree hfits
    rw [List.append_nil, unframe_tail hfree, foldFrom, LineRules.foldLines]
    have hall : R.AllFit ([], line) := ⟨List.forall_mem_nil _, hfits⟩
    simp only [hall, true_and, Except.ok.injEq, Prod.mk.injEq]
    exact ⟨fun h => ⟨h.1.symm, h.2⟩, fun h => ⟨h.1.symm, h.2⟩⟩
  | cons c text ih =>
    intro line start s line' s' hfree hfits
    rw [foldFrom, LineRules.step]
    by_cases hc : c = R.sep
    · subst hc
      rw [if_pos rfl, unframe_line _ hfree, LineRules.foldLines]
      dsimp only
      have hall : R.AllFit (line :: (unframe R.sep text).1, (unframe R.sep text).2) ↔
          R.AllFit (unframe R.sep text) := by
        unfold LineRules.AllFit
        dsimp only
        rw [List.forall_mem_cons]
        tauto
      rw [hall]
      cases R.onLine (start + line.length + 1) s line with
      | error e => simp
      | ok s₁ =>
        have hrest := ih [] (start + line.length + 1) s₁ line' s' List.not_mem_nil
          (fun k hk => absurd hk (Nat.not_lt_zero k))
        rwa [List.length_nil, Nat.add_zero, List.nil_append] at hrest
    · rw [if_neg hc]
      dsimp only
      have hfree' : R.sep ∉ line ++ [c] := by
        intro hmem
        obtain hmem | hmem := List.mem_append.mp hmem
        · exact hfree hmem
        · exact hc (List.mem_singleton.mp hmem).symm
      have happend : line ++ c :: text = (line ++ [c]) ++ text := by simp
      by_cases hfull : R.full line = true
      · rw [if_pos hfull]
        have hno : ¬ R.AllFit (unframe R.sep (line ++ c :: text)) := by
          intro h
          rw [happend] at h
          have hboth := R.fits_snoc.mp (R.fits_of_allFit hfree' h)
          rw [hboth.2] at hfull
          cases hfull
        simp [hno]
      · rw [if_neg hfull]
        have hfits' : R.Fits (line ++ [c]) := R.fits_snoc.mpr ⟨hfits, by simpa using hfull⟩
        have hrest := ih (line ++ [c]) start s line' s' hfree' hfits'
        rwa [List.length_append, List.length_singleton, ← Nat.add_assoc, ← happend] at hrest

end Ava.Lib
