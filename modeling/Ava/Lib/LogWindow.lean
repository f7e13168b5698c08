/-
  Ava.Lib.LogWindow
  **QUESTIONS AND ANSWERS IN A LOG.**  A log only grows at its end.  Some of its entries ask,
  some close every question before them, and an entry answers a question if nothing between
  the two closes it.  Which entries do what is a parameter; an answer may depend on what stands
  between it and its question.

    - §1 open and answered questions; §2 one more entry.
-/
import Mathlib.Data.List.Basic

namespace Ava.Lib

/-! ## §1. Open and answered questions. -/

/-- What the entries of a log mean. -/
structure Dialogue (α : Type*) where
  asks : α → Prop
  closes : α → Prop
  answers : List α → α → Prop

namespace Dialogue

variable {α : Type*} (D : Dialogue α)

/-- The question at `i` has nothing that closes it after it, only `since`. -/
def OpenWith (log : List α) (i : Nat) (since : List α) : Prop :=
  ∃ before q, log = before ++ q :: since ∧ before.length = i ∧ D.asks q ∧
    ∀ x ∈ since, ¬ D.closes x

/-- The question at `i` is open. -/
def OpenAt (log : List α) (i : Nat) : Prop := ∃ since, D.OpenWith log i since

/-- The question at `i` was answered while it was open. -/
def AnsweredAt (log : List α) (i : Nat) : Prop :=
  ∃ upTo since a rest, log = upTo ++ a :: rest ∧ D.OpenWith upTo i since ∧ D.answers since a

/-- There is a question at `i`. -/
def AskedAt (log : List α) (i : Nat) : Prop := ∃ q, log[i]? = some q ∧ D.asks q

/-- No two questions are answered. -/
def AtMostOneAnswered (log : List α) : Prop :=
  ∀ i j, D.AnsweredAt log i → D.AnsweredAt log j → i = j

variable {D}

variable {i : Nat}

theorem OpenWith.asked {log since : List α} (h : D.OpenWith log i since) : D.AskedAt log i := by
  obtain ⟨before, q, rfl, rfl, hasks, -⟩ := h
  exact ⟨q, by simp, hasks⟩

variable {log : List α}

theorem AskedAt.append (h : D.AskedAt log i) (more : List α) : D.AskedAt (log ++ more) i := by
  obtain ⟨q, hq, hasks⟩ := h
  have hlt : i < log.length := (List.getElem?_eq_some_iff.mp hq).1
  exact ⟨q, by rw [List.getElem?_append_left hlt]; exact hq, hasks⟩

theorem AnsweredAt.asked (h : D.AnsweredAt log i) : D.AskedAt log i := by
  obtain ⟨upTo, since, a, rest, rfl, hopen, -⟩ := h
  exact hopen.asked.append _

/-- If every question closes the ones before it, only the last question is open. -/
theorem OpenAt.le_of_asked {i j : Nat}
    (hcloses : ∀ x ∈ log, D.asks x → D.closes x) (hopen : D.OpenAt log i) (hasked : D.AskedAt log j) :
    j ≤ i := by
  obtain ⟨since, before, q, rfl, rfl, -, hsince⟩ := hopen
  obtain ⟨x, hx, hasks⟩ := hasked
  by_contra hlater
  -- A later question stands in `since`, where nothing closes.
  have hmem : x ∈ since := by
    obtain ⟨d, rfl⟩ : ∃ d, j = before.length + (d + 1) := ⟨j - before.length - 1, by omega⟩
    rw [List.getElem?_append_right (by omega), Nat.add_sub_cancel_left, List.getElem?_cons_succ] at hx
    exact List.mem_of_getElem? hx
  exact hsince x hmem (hcloses x (by simp [hmem]) hasks)

/-! ## §2. One more entry. -/

/-- One more entry adds a question if it asks, and no other. -/
theorem askedAt_concat_iff {e : α} :
    D.AskedAt (log ++ [e]) i ↔ D.AskedAt log i ∨ (i = log.length ∧ D.asks e) := by
  constructor
  · rintro ⟨q, hq, hasks⟩
    by_cases hlt : i < log.length
    · rw [List.getElem?_append_left hlt] at hq
      exact .inl ⟨q, hq, hasks⟩
    · have hi : i = log.length := by
        have hbound : i < (log ++ [e]).length := (List.getElem?_eq_some_iff.mp hq).1
        rw [List.length_append, List.length_singleton] at hbound
        omega
      subst hi
      rw [List.getElem?_append_right (Nat.le_refl _), Nat.sub_self] at hq
      injection hq with hq
      exact .inr ⟨rfl, hq ▸ hasks⟩
  · rintro (hasked | ⟨rfl, hasks⟩)
    · exact hasked.append _
    · exact ⟨e, by simp, hasks⟩

/-- One more entry answers only what was open. -/
theorem AnsweredAt.of_concat {e : α} (h : D.AnsweredAt (log ++ [e]) i) :
    D.AnsweredAt log i ∨ ∃ since, D.OpenWith log i since ∧ D.answers since e := by
  obtain ⟨upTo, since, a, rest, hlog, hopen, hanswers⟩ := h
  -- The answer is the new entry exactly if nothing stands after it.
  rcases List.eq_nil_or_concat rest with rfl | ⟨rest', x, rfl⟩
  · obtain ⟨rfl, ha⟩ := List.append_inj' hlog rfl
    injection ha with ha
    exact .inr ⟨since, hopen, ha ▸ hanswers⟩
  · rw [List.concat_eq_append, ← List.cons_append, ← List.append_assoc] at hlog
    obtain ⟨rfl, -⟩ := List.append_inj' hlog rfl
    exact .inl ⟨upTo, since, a, rest', rfl, hopen, hanswers⟩

/-- An entry that answers no open question leaves the answered questions as they were. -/
theorem AnsweredAt.of_concat_silent {e : α}
    (hsilent : ∀ j since, D.OpenWith log j since → ¬ D.answers since e)
    (h : D.AnsweredAt (log ++ [e]) i) : D.AnsweredAt log i := by
  obtain hbefore | ⟨since, hopen, hanswers⟩ := h.of_concat
  · exact hbefore
  · exact absurd hanswers (hsilent i since hopen)

end Dialogue

end Ava.Lib
