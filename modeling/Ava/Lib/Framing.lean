/-
  Ava.Lib.Framing
  **LINES WITH A TERMINATOR.**

  A text over any alphabet is a run of terminated lines followed by a tail that no
  terminator closes.  The decomposition exists and is unique, so a byte-by-byte reader and a
  statement about "the lines of the file" talk about the same thing.

    - §1 `frame`, `unframe`;
    - §2 `frame_unframe` : the pieces make up the text;
    - §3 `unframe_frame` : pieces without terminator are the pieces found.
-/
import Mathlib.Data.List.Basic

namespace Ava.Lib

variable {α : Type}

/-! ## §1. Terminated lines and the open tail. -/

/-- Every line followed by its terminator. -/
def frame (sep : α) (lines : List (List α)) : List α := lines.flatMap fun l => l ++ [sep]

/-- The terminated lines of a text, and what follows the last terminator. -/
def unframe [DecidableEq α] (sep : α) : List α → List (List α) × List α
  | [] => ([], [])
  | c :: s =>
    if c = sep then ([] :: (unframe sep s).1, (unframe sep s).2)
    else
      match unframe sep s with
      | ([], tail) => ([], c :: tail)
      | (line :: lines, tail) => ((c :: line) :: lines, tail)

@[simp] theorem frame_nil (sep : α) : frame sep [] = [] := rfl

@[simp] theorem frame_cons (sep : α) (l : List α) (ls : List (List α)) :
    frame sep (l :: ls) = l ++ sep :: frame sep ls := by
  simp [frame]

@[simp] theorem frame_append (sep : α) (ls ks : List (List α)) :
    frame sep (ls ++ ks) = frame sep ls ++ frame sep ks := by
  simp [frame]

/-- A framed text is empty or ends with the terminator. -/
theorem getLast?_frame (sep : α) : ∀ {ls : List (List α)}, ls ≠ [] →
    (frame sep ls).getLast? = some sep := by
  intro ls hne
  obtain ⟨init, last, rfl⟩ := List.eq_nil_or_concat ls |>.resolve_left hne
  simp [frame]

variable [DecidableEq α] {sep : α}

/-! ## §2. The pieces make up the text. -/

theorem frame_unframe (sep : α) (s : List α) :
    frame sep (unframe sep s).1 ++ (unframe sep s).2 = s := by
  induction s with
  | nil => rfl
  | cons c s ih =>
    unfold unframe
    by_cases hc : c = sep
    · subst hc
      simpa using ih
    · rw [if_neg hc]
      -- the head joins the first line, or the tail when no line is terminated
      rcases hu : unframe sep s with ⟨_ | ⟨l, ls⟩, t⟩
      · rw [hu] at ih
        simpa using ih
      · rw [hu] at ih
        simpa using ih

/-- Cutting a text after its last terminator. -/
theorem take_frame_unframe (sep : α) (s : List α) :
    s.take (frame sep (unframe sep s).1).length = frame sep (unframe sep s).1 := by
  have hs := frame_unframe sep s
  generalize frame sep (unframe sep s).1 = f at hs ⊢
  rw [← hs, List.take_left]

/-- No piece holds a terminator. -/
theorem unframe_sep_free (sep : α) (s : List α) :
    (∀ l ∈ (unframe sep s).1, sep ∉ l) ∧ sep ∉ (unframe sep s).2 := by
  induction s with
  | nil => exact ⟨List.forall_mem_nil _, List.not_mem_nil⟩
  | cons c s ih =>
    obtain ⟨hlines, htail⟩ := ih
    unfold unframe
    by_cases hc : c = sep
    · rw [if_pos hc]
      exact ⟨List.forall_mem_cons.mpr ⟨List.not_mem_nil, hlines⟩, htail⟩
    · rw [if_neg hc]
      rcases hu : unframe sep s with ⟨_ | ⟨l, ls⟩, t⟩
      · rw [hu] at htail
        refine ⟨List.forall_mem_nil _, ?_⟩
        intro hmem
        obtain rfl | hmem := List.mem_cons.mp hmem
        · exact hc rfl
        · exact htail hmem
      · rw [hu] at hlines htail
        refine ⟨?_, htail⟩
        intro k hk
        obtain rfl | hk := List.mem_cons.mp hk
        · intro hmem
          obtain rfl | hmem := List.mem_cons.mp hmem
          · exact hc rfl
          · exact hlines l List.mem_cons_self hmem
        · exact hlines k (List.mem_cons_of_mem _ hk)

/-! ## §3. Pieces without terminator are the pieces found. -/

theorem unframe_tail : ∀ {t : List α}, sep ∉ t → unframe sep t = ([], t)
  | [], _ => rfl
  | c :: t, h => by
    have hc : c ≠ sep := fun heq => h (heq ▸ List.mem_cons_self)
    have ht : sep ∉ t := fun hmem => h (List.mem_cons_of_mem _ hmem)
    rw [unframe, if_neg hc, unframe_tail ht]

theorem unframe_line (s : List α) : ∀ {l : List α}, sep ∉ l →
    unframe sep (l ++ sep :: s) = (l :: (unframe sep s).1, (unframe sep s).2)
  | [], _ => by rw [List.nil_append, unframe, if_pos rfl]
  | c :: l, h => by
    have hc : c ≠ sep := fun heq => h (heq ▸ List.mem_cons_self)
    have hl : sep ∉ l := fun hmem => h (List.mem_cons_of_mem _ hmem)
    rw [List.cons_append, unframe, if_neg hc, unframe_line s hl]

/-- A run without terminator joins the piece that follows it. -/
theorem unframe_free_append (s : List α) : ∀ {l : List α}, sep ∉ l →
    unframe sep (l ++ s) =
      match unframe sep s with
      | ([], tail) => ([], l ++ tail)
      | (line :: lines, tail) => ((l ++ line) :: lines, tail)
  | [], _ => by
    rcases hu : unframe sep s with ⟨_ | ⟨k, ks⟩, t⟩ <;> simp [hu]
  | c :: l, h => by
    have hc : c ≠ sep := fun heq => h (heq ▸ List.mem_cons_self)
    have hl : sep ∉ l := fun hmem => h (List.mem_cons_of_mem _ hmem)
    rw [List.cons_append, unframe, if_neg hc, unframe_free_append s hl]
    rcases unframe sep s with ⟨_ | ⟨k, ks⟩, t⟩ <;> rfl

/-- **THE DECOMPOSITION IS UNIQUE.** -/
theorem unframe_frame {t : List α} (ht : sep ∉ t) : ∀ {ls : List (List α)},
    (∀ l ∈ ls, sep ∉ l) → unframe sep (frame sep ls ++ t) = (ls, t)
  | [], _ => unframe_tail ht
  | l :: ls, h => by
    have hl : sep ∉ l := h l List.mem_cons_self
    have hls : ∀ k ∈ ls, sep ∉ k := fun k hk => h k (List.mem_cons_of_mem _ hk)
    rw [frame_cons, List.append_assoc, List.cons_append, unframe_line _ hl,
      unframe_frame ht hls]

/-- The open tail is empty exactly when the text is empty or ends with the terminator. -/
theorem unframe_snd_eq_nil_iff (sep : α) (s : List α) :
    (unframe sep s).2 = [] ↔ s = [] ∨ s.getLast? = some sep := by
  have hs := frame_unframe sep s
  constructor
  · intro htail
    rw [htail, List.append_nil] at hs
    by_cases hne : (unframe sep s).1 = []
    · left
      rw [← hs, hne]
      rfl
    · right
      rw [← hs]
      exact getLast?_frame sep hne
  · intro h
    obtain rfl | hlast := h
    · rfl
    · by_contra hne
      have hmem : (unframe sep s).2.getLast? = some sep := by
        rw [← hs, List.getLast?_append_of_ne_nil _ hne] at hlast
        exact hlast
      exact (unframe_sep_free sep s).2 (List.mem_of_getLast? hmem)

/-- Appending to the open tail. -/
theorem unframe_append (sep : α) (s t : List α) :
    unframe sep (s ++ t) =
      ((unframe sep s).1 ++ (unframe sep ((unframe sep s).2 ++ t)).1,
        (unframe sep ((unframe sep s).2 ++ t)).2) := by
  have hs := unframe_sep_free sep s
  have ht := unframe_sep_free sep ((unframe sep s).2 ++ t)
  have htext : s ++ t =
      frame sep ((unframe sep s).1 ++ (unframe sep ((unframe sep s).2 ++ t)).1) ++
        (unframe sep ((unframe sep s).2 ++ t)).2 := by
    rw [frame_append, List.append_assoc, frame_unframe, ← List.append_assoc, frame_unframe]
  rw [htext]
  exact unframe_frame ht.2 (List.forall_mem_append.mpr ⟨hs.1, ht.1⟩)

end Ava.Lib
