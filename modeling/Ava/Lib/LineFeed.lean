/-
  Ava.Lib.LineFeed
  **A LINE READER FED IN CHUNKS.**

  A machine takes one line at a time, produces events and may stop.  A feeder keeps the bytes
  after the last terminator, cuts every new chunk into lines and hands them on.  What the machine
  produces depends on the concatenated text only.

    - §1 `LineMachine`, `run` : the machine on a list of lines;
    - §2 `feed`, `feedAll` : the machine behind a feeder;
    - §3 `feedAll_eq` : feeding chunks is running the lines of the whole text.
-/
import Ava.Lib.Framing

namespace Ava.Lib

/-! ## §1. The machine. -/

/-- A machine over lines.  `settle` is what is tidied up after a stop; it leaves a running machine
    alone. -/
structure LineMachine (α τ ε : Type) where
  line : τ → List α → List ε × τ
  stopped : τ → Bool
  settle : τ → τ
  stopped_settle : ∀ t, stopped (settle t) = stopped t
  settle_of_running : ∀ t, stopped t = false → settle t = t

namespace LineMachine

variable {α τ ε : Type} (M : LineMachine α τ ε)

/-- The machine on a list of lines, up to its stop. -/
def run : τ → List (List α) → List ε × τ
  | t, [] => ([], t)
  | t, l :: ls =>
    if M.stopped t then ([], t)
    else
      let (es, t) := M.line t l
      let (es', t) := run t ls
      (es ++ es', t)

theorem run_stopped {t : τ} (h : M.stopped t = true) : ∀ ls, M.run t ls = ([], t)
  | [] => rfl
  | _ :: _ => by rw [run, if_pos h]

theorem run_append (ks : List (List α)) : ∀ (ls : List (List α)) (t : τ),
    M.run t (ls ++ ks) =
      ((M.run t ls).1 ++ (M.run (M.run t ls).2 ks).1, (M.run (M.run t ls).2 ks).2) := by
  intro ls
  induction ls with
  | nil =>
    intro t
    rfl
  | cons l ls ih =>
    intro t
    rw [List.cons_append, run, run]
    by_cases hstop : M.stopped t = true
    · rw [if_pos hstop, if_pos hstop]
      dsimp only
      rw [M.run_stopped hstop]
      rfl
    · rw [if_neg hstop, if_neg hstop]
      dsimp only
      rw [ih, List.append_assoc]

/-! ## §2. The feeder. -/

variable [DecidableEq α] (sep : α)

/-- One chunk: the lines it completes are run, the rest is kept unless the machine stopped. -/
def feed (s : List α × τ) (chunk : List α) : List ε × (List α × τ) :=
  if M.stopped s.2 then ([], s)
  else
    let (lines, tail) := unframe sep (s.1 ++ chunk)
    let (es, t) := M.run s.2 lines
    (es, (if M.stopped t then [] else tail, M.settle t))

def feedAll : List α × τ → List (List α) → List ε × (List α × τ)
  | s, [] => ([], s)
  | s, c :: cs =>
    let (es, s) := M.feed sep s c
    let (es', s) := feedAll s cs
    (es ++ es', s)

theorem feedAll_stopped {s : List α × τ} (h : M.stopped s.2 = true) :
    ∀ cs, M.feedAll sep s cs = ([], s)
  | [] => rfl
  | c :: cs => by
    have hfeed : M.feed sep s c = ([], s) := by rw [feed, if_pos h]
    rw [feedAll, hfeed]
    dsimp only
    rw [feedAll_stopped h cs]
    rfl

/-! ## §3. Chunks do not show. -/

/-- What a feeder has done after the text `text`, its open line being `pending` before. -/
def whole (s : List α × τ) (text : List α) : List ε × (List α × τ) :=
  let (lines, tail) := unframe sep (s.1 ++ text)
  let (es, t) := M.run s.2 lines
  (es, (if M.stopped t then [] else tail, M.settle t))

/-- **CHUNKS DO NOT SHOW.**  A running feeder whose open line has no terminator does on chunks
    what it does on their concatenation. -/
theorem feedAll_eq : ∀ (cs : List (List α)) (s : List α × τ), sep ∉ s.1 → M.stopped s.2 = false →
    M.feedAll sep s cs = M.whole sep s cs.flatten := by
  intro cs
  induction cs with
  | nil =>
    intro s hfree hrun
    unfold whole
    rw [List.flatten_nil, List.append_nil, unframe_tail hfree]
    show ([], s) = ([], (if M.stopped s.2 then [] else s.1, M.settle s.2))
    rw [hrun, if_neg (by decide), M.settle_of_running s.2 hrun]
  | cons c cs ih =>
    intro s hfree hrun
    have hfeed : M.feed sep s c = M.whole sep s c := by
      rw [feed, if_neg (by simp [hrun])]
      rfl
    rw [feedAll, hfeed]
    unfold whole
    rw [List.flatten_cons, ← List.append_assoc, unframe_append sep (s.1 ++ c) cs.flatten]
    dsimp only
    rw [M.run_append]
    set t := (M.run s.2 (unframe sep (s.1 ++ c)).1).2 with ht
    cases hstop : M.stopped t with
    | true =>
      -- a stopped machine takes no further line, whatever is still to come
      have hstop' : M.stopped (M.settle t) = true := by rw [M.stopped_settle, hstop]
      rw [M.feedAll_stopped sep hstop', M.run_stopped hstop]
      simp [hstop]
    | false =>
      rw [M.settle_of_running t hstop]
      have htail : sep ∉ (unframe sep (s.1 ++ c)).2 := (unframe_sep_free sep (s.1 ++ c)).2
      have hrest := ih ((unframe sep (s.1 ++ c)).2, t) htail hstop
      simp only [Bool.false_eq_true, if_false]
      rw [hrest]
      rfl

end LineMachine

end Ava.Lib
