/-
  Ava.Lib.LexicalPath
  **PATHS AS TEXT.**  The lexical half of `std::filesystem::path` on POSIX: a path is a text, and
  its meaning is its decomposition into an optional root, the names between separators, and an
  optional separator after the last name.  No operation here looks at a file system.

    - §1 `Path`, `View`, `Path.view`, `View.toPath`; `view_toPath` : a decomposition with proper
      names is the decomposition of its own text;
    - §2 `filename`, `parentPath`, `join`;
    - §3 `lexicallyNormal`; a rooted normal form has no dots (`plain_normal`) and normalising
      twice is normalising once (`normal_of_plain`);
    - §4 `lexicallyRelative`; a path below a plain root is the root's names followed by its own
      (`View.relative_below`).
-/
import Mathlib.Data.List.Basic

namespace Ava.Lib

/-- `std::filesystem::path`: its native text. -/
structure Path where
  text : List UInt8
deriving Repr, DecidableEq

namespace Path

/-- The separator. -/
abbrev sep : UInt8 := 47

abbrev dot : List UInt8 := [46]
abbrev dotdot : List UInt8 := [46, 46]

theorem text_injective : Function.Injective Path.text := by
  rintro ⟨p⟩ ⟨q⟩ h
  exact congrArg (fun t => (⟨t⟩ : Path)) h

/-! ## §1. The decomposition. -/

/-- A decomposed path. -/
structure View where
  rooted : Bool
  names : List (List UInt8)
  trailing : Bool
deriving Repr, DecidableEq

/-- The names between separators, empty ones left out. -/
def names (p : Path) : List (List UInt8) := (p.text.splitOn sep).filter (· ≠ [])

/-- `is_absolute`: on POSIX, a root directory. -/
def isAbsolute (p : Path) : Bool := p.text.head? == some sep

def view (p : Path) : View where
  rooted := p.isAbsolute
  names := p.names
  trailing := !p.names.isEmpty && p.text.getLast? == some sep

/-- `operator==` of paths: their elements agree. -/
def same (p q : Path) : Bool := p.view == q.view

/-- The text of a decomposition, with single separators. -/
def View.toPath (v : View) : Path :=
  ⟨(if v.rooted then [sep] else []) ++ List.intercalate [sep] v.names ++
    (if v.trailing then [sep] else [])⟩

/-- `generic_string`. -/
def genericString (p : Path) : List UInt8 := p.view.toPath.text

/-- What can stand between two separators. -/
def ProperName (n : List UInt8) : Prop := n ≠ [] ∧ sep ∉ n

structure View.WellFormed (v : View) : Prop where
  proper : ∀ n ∈ v.names, ProperName n
  trails : v.trailing = true → v.names ≠ []

theorem names_nil : (⟨[]⟩ : Path).names = [] := rfl

theorem names_split (a b : List UInt8) :
    (⟨a ++ sep :: b⟩ : Path).names = (⟨a⟩ : Path).names ++ (⟨b⟩ : Path).names := by
  unfold names
  rw [List.splitOn_append_cons_self, List.filter_append]

theorem names_root (b : List UInt8) : (⟨sep :: b⟩ : Path).names = (⟨b⟩ : Path).names :=
  names_split [] b

/-- Every element of a split list is free of the separator. -/
theorem sep_not_mem_splitOn : ∀ {s n : List UInt8}, n ∈ s.splitOn sep → sep ∉ n := by
  intro s
  induction s with
  | nil =>
    intro n hn
    rw [List.splitOn_nil, List.mem_singleton] at hn
    rw [hn]
    exact List.not_mem_nil
  | cons c s ih =>
    intro n hn
    rw [List.splitOn_cons_eq_if_modifyHead] at hn
    split at hn
    next =>
      rcases List.mem_cons.mp hn with rfl | hn
      · exact List.not_mem_nil
      · exact ih hn
    next hc =>
      -- the first piece grows by one octet, the others are those of the rest
      cases hs : s.splitOn sep with
      | nil => exact absurd hs (List.splitOn_ne_nil _ _)
      | cons first rest =>
        rw [hs] at hn ih
        rcases List.mem_cons.mp hn with rfl | hn
        · exact List.not_mem_cons_of_ne_of_not_mem (fun h => hc (beq_iff_eq.mpr h.symm))
            (ih List.mem_cons_self)
        · exact ih (List.mem_cons_of_mem _ hn)

variable {p : Path}

theorem proper_of_mem_names {n : List UInt8} (h : n ∈ p.names) : ProperName n := by
  unfold names at h
  rw [List.mem_filter] at h
  exact ⟨by simpa using h.2, sep_not_mem_splitOn h.1⟩

theorem view_wellFormed (p : Path) : p.view.WellFormed where
  proper := fun _ hn => proper_of_mem_names hn
  trails := by
    intro h hnil
    have hnames : p.names = [] := hnil
    simp [view, hnames] at h

section

variable {ns : List (List UInt8)} (h : ∀ n ∈ ns, ProperName n)
include h

theorem names_intercalate : (⟨List.intercalate [sep] ns⟩ : Path).names = ns := by
  by_cases hnil : ns = []
  · rw [hnil]
    rfl
  · unfold names
    rw [List.splitOn_intercalate sep (fun n hn => (h n hn).2) hnil, List.filter_eq_self]
    intro n hn
    exact decide_eq_true (h n hn).1

theorem intercalate_ne_nil (hne : ns ≠ []) : List.intercalate [sep] ns ≠ [] := by
  intro hnil
  have hnames := names_intercalate h
  rw [hnil] at hnames
  exact hne hnames.symm

/-- The first octet of joined names is not the separator. -/
theorem head?_intercalate : (List.intercalate [sep] ns).head? ≠ some sep := by
  cases ns with
  | nil => simp
  | cons n ns =>
    have hn := h n List.mem_cons_self
    obtain ⟨c, rest, rfl⟩ := List.exists_cons_of_ne_nil hn.1
    have hc : c ≠ sep := fun hc => hn.2 (hc ▸ List.mem_cons_self)
    cases ns with
    | nil => simpa using hc
    | cons m ms => simpa [List.intercalate_cons_cons] using hc

end

/-- Nor is the last one. -/
theorem getLast?_intercalate : ∀ {ns : List (List UInt8)}, (∀ n ∈ ns, ProperName n) →
    (List.intercalate [sep] ns).getLast? ≠ some sep := by
  intro ns
  induction ns with
  | nil => simp
  | cons n ns ih =>
    intro hproper
    have hn := hproper n List.mem_cons_self
    cases ns with
    | nil =>
      rw [List.intercalate_singleton]
      intro hlast
      exact hn.2 (List.mem_of_getLast? hlast)
    | cons m ms =>
      have hrest : ∀ k ∈ m :: ms, ProperName k := fun k hk => hproper k (List.mem_cons_of_mem _ hk)
      rw [List.intercalate_cons_cons,
        List.getLast?_append_of_ne_nil _ (intercalate_ne_nil hrest (List.cons_ne_nil m ms))]
      exact ih hrest

variable {v : View}

/-- **A DECOMPOSITION IS THAT OF ITS OWN TEXT.** -/
theorem view_toPath (h : v.WellFormed) : v.toPath.view = v := by
  obtain ⟨rooted, ns, trailing⟩ := v
  have hproper : ∀ n ∈ ns, ProperName n := h.proper
  have htrail : trailing = true → ns ≠ [] := h.trails
  have hbody := names_intercalate hproper
  have hnames : (View.toPath ⟨rooted, ns, trailing⟩).names = ns := by
    have hend : (⟨List.intercalate [sep] ns ++ (if trailing then [sep] else [])⟩ : Path).names =
        ns := by
      cases trailing with
      | false => simpa using hbody
      | true =>
        rw [if_pos rfl, names_split, hbody, names_nil, List.append_nil]
    cases rooted with
    | false => exact hend
    | true =>
      show (⟨[sep] ++ List.intercalate [sep] ns ++ (if trailing then [sep] else [])⟩ : Path).names =
        ns
      rw [List.append_assoc, List.singleton_append, names_root, hend]
  have hrooted : (View.toPath ⟨rooted, ns, trailing⟩).isAbsolute = rooted := by
    cases rooted with
    | true => rfl
    | false =>
      show ((([] : List UInt8) ++ List.intercalate [sep] ns ++
        (if trailing then [sep] else [])).head? == some sep) = false
      have hhead := head?_intercalate hproper
      cases hbytes : List.intercalate [sep] ns with
      | nil =>
        -- without names there is no separator after them either
        have hnil : ns = [] := by rw [← hbody, hbytes, names_nil]
        cases trailing with
        | false => rfl
        | true => exact absurd hnil (htrail rfl)
      | cons c rest =>
        rw [hbytes] at hhead
        simpa using hhead
  have hlast : ns ≠ [] →
      ((View.toPath ⟨rooted, ns, trailing⟩).text.getLast? == some sep) = trailing := by
    intro hne
    cases trailing with
    | true => simp [View.toPath]
    | false =>
      show ((_ ++ List.intercalate [sep] ns ++ []).getLast? == some sep) = false
      rw [List.append_nil, List.getLast?_append_of_ne_nil _ (intercalate_ne_nil hproper hne)]
      simpa using getLast?_intercalate hproper
  show View.mk _ _ _ = _
  rw [hrooted, hnames]
  congr 1
  cases ns with
  | nil =>
    cases trailing with
    | false => rfl
    | true => exact absurd rfl (htrail rfl)
  | cons n ns => simpa using hlast (List.cons_ne_nil n ns)

theorem View.toPath_injective {v w : View} (hv : v.WellFormed) (hw : w.WellFormed)
    (h : v.toPath = w.toPath) : v = w := by
  rw [← view_toPath hv, ← view_toPath hw, h]

/-! ## §2. File name, parent, concatenation. -/

def View.filename (v : View) : List UInt8 := if v.trailing then [] else v.names.getLast?.getD []

/-- `filename`: empty after a separator, and for a path without names. -/
def filename (p : Path) : List UInt8 := p.view.filename

def View.parent (v : View) : View :=
  if v.names = [] then v
  else if v.trailing then { v with trailing := false }
  else { v with names := v.names.dropLast }

/-- `parent_path`. -/
def parentPath (p : Path) : Path := p.view.parent.toPath

/-- `operator/`. -/
def join (p q : Path) : Path :=
  if q.isAbsolute then q
  else if p.filename ≠ [] then ⟨p.text ++ sep :: q.text⟩
  else ⟨p.text ++ q.text⟩

/-! ## §3. Normal form. -/

/-- One element of a path is appended to the normal form built so far: a dot leaves only the
    separator before it, a double dot takes back a name that is not one. -/
def View.push (v : View) (name : List UInt8) : View :=
  if name = dotdot then
    match v.names.getLast? with
    | none => if v.rooted then v else { v with names := [dotdot], trailing := false }
    | some last =>
      if last = dotdot then { v with names := v.names ++ [dotdot], trailing := false }
      else { v with names := v.names.dropLast, trailing := !v.names.dropLast.isEmpty }
  else if name = dot then { v with trailing := !v.names.isEmpty }
  else { v with names := v.names ++ [name], trailing := false }

def View.normal (v : View) : View :=
  let built := v.names.foldl View.push ⟨v.rooted, [], false⟩
  let built := if v.trailing then { built with trailing := !built.names.isEmpty } else built
  if built.names.getLast? = some dotdot then { built with trailing := false } else built

/-- `lexically_normal`. -/
def lexicallyNormal (p : Path) : Path :=
  if p.text = [] then p
  else if !p.view.normal.rooted && p.view.normal.names.isEmpty then ⟨dot⟩
  else p.view.normal.toPath

/-- A name that is not one of the two dots. -/
def Plain (n : List UInt8) : Prop := n ≠ dot ∧ n ≠ dotdot

theorem proper_dotdot : ProperName dotdot := ⟨by decide, by decide⟩

theorem View.WellFormed.push (h : v.WellFormed) {name : List UInt8}
    (hname : ProperName name) : (v.push name).WellFormed := by
  have htrails : ∀ ns : List (List UInt8), (!ns.isEmpty) = true → ns ≠ [] := by
    intro ns hns hnil
    simp [hnil] at hns
  have happend : ∀ m, ProperName m → ∀ n ∈ v.names ++ [m], ProperName n := fun m hm =>
    List.forall_mem_append.mpr ⟨h.proper, List.forall_mem_singleton.mpr hm⟩
  unfold View.push
  split
  · split
    · split
      · exact h
      · exact ⟨List.forall_mem_singleton.mpr proper_dotdot, by simp⟩
    · split
      · exact ⟨happend dotdot proper_dotdot, by simp⟩
      · exact ⟨fun n hn => h.proper n (List.dropLast_subset _ hn), htrails _⟩
  · split
    · exact ⟨h.proper, htrails _⟩
    · exact ⟨happend name hname, by simp⟩

theorem View.WellFormed.normal (h : v.WellFormed) : v.normal.WellFormed := by
  have hbuilt : (v.names.foldl View.push ⟨v.rooted, [], false⟩).WellFormed :=
    List.foldlRecOn v.names _ ⟨by simp, by simp⟩ fun _ hv n hn => hv.push (h.proper n hn)
  unfold View.normal
  dsimp only
  split
  · split
    · exact ⟨hbuilt.proper, by simp⟩
    · exact ⟨hbuilt.proper, by simp⟩
  · split
    · refine ⟨hbuilt.proper, ?_⟩
      intro ht
      simp at ht
    · exact hbuilt

theorem View.rooted_push (v : View) (name : List UInt8) : (v.push name).rooted = v.rooted := by
  unfold View.push
  split
  · split
    · split <;> rfl
    · split <;> rfl
  · split <;> rfl

@[simp] theorem View.rooted_normal (v : View) : v.normal.rooted = v.rooted := by
  have h : (v.names.foldl View.push ⟨v.rooted, [], false⟩).rooted = v.rooted :=
    List.foldlRecOn (motive := fun w => w.rooted = v.rooted) v.names _ (by rfl)
      fun w hw n _ => (View.rooted_push w n).trans hw
  unfold View.normal
  dsimp only
  split <;> split <;> exact h

/-- The names of a normal form are those of the fold. -/
theorem View.names_normal (v : View) :
    v.normal.names = (v.names.foldl View.push ⟨v.rooted, [], false⟩).names := by
  unfold View.normal
  dsimp only
  split <;> split <;> rfl

/-- What the fold over a rooted path does to the names alone. -/
def squash (acc : List (List UInt8)) (name : List UInt8) : List (List UInt8) :=
  if name = dotdot then acc.dropLast else if name = dot then acc else acc ++ [name]

theorem plain_squash {acc : List (List UInt8)} {name : List UInt8} (h : ∀ n ∈ acc, Plain n) :
    ∀ n ∈ squash acc name, Plain n := by
  intro n hn
  unfold squash at hn
  split at hn
  · exact h n (List.dropLast_subset _ hn)
  next hdd =>
    split at hn
    · exact h n hn
    next hd => exact List.forall_mem_append.mpr ⟨h, List.forall_mem_singleton.mpr ⟨hd, hdd⟩⟩ n hn

theorem View.names_push_rooted (hroot : v.rooted = true) (hplain : ∀ n ∈ v.names, Plain n)
    (name : List UInt8) : (v.push name).names = squash v.names name := by
  unfold View.push squash
  split
  · split
    next hlast =>
      rw [List.getLast?_eq_none_iff] at hlast
      rw [hlast]
      rfl
    next last hlast =>
      rw [if_neg (hplain last (List.mem_of_getLast? hlast)).2]
  · split <;> rfl

/-- Over a rooted path the double dots are spent on the names before them. -/
theorem View.names_foldl_push_rooted : ∀ {ns : List (List UInt8)} {v : View}, v.rooted = true →
    (∀ n ∈ v.names, Plain n) → (ns.foldl View.push v).names = ns.foldl squash v.names := by
  intro ns
  induction ns with
  | nil =>
    intro v _ _
    rfl
  | cons n ns ih =>
    intro v hroot hplain
    have hnames := View.names_push_rooted hroot hplain n
    rw [List.foldl_cons, List.foldl_cons, ih ((View.rooted_push v n).trans hroot), hnames]
    rw [hnames]
    exact plain_squash hplain

theorem View.names_normal_rooted (hroot : v.rooted = true) :
    v.normal.names = v.names.foldl squash [] := by
  rw [View.names_normal]
  exact View.names_foldl_push_rooted hroot (by simp)

/-- **A ROOTED NORMAL FORM HAS NO DOTS.** -/
theorem plain_normal (hroot : v.rooted = true) : ∀ n ∈ v.normal.names, Plain n := by
  rw [View.names_normal_rooted hroot]
  exact List.foldlRecOn (motive := fun acc => ∀ n ∈ acc, Plain n) v.names _ (List.forall_mem_nil _)
    fun _ h _ _ => plain_squash h

theorem isAbsolute_of_rooted (h : v.rooted = true) : v.toPath.isAbsolute = true := by
  obtain ⟨rooted, ns, trailing⟩ := v
  have hr : rooted = true := h
  subst hr
  rfl

theorem text_ne_nil_of_isAbsolute (h : p.isAbsolute = true) : p.text ≠ [] := by
  intro hnil
  simp [isAbsolute, hnil] at h

theorem lexicallyNormal_of_isAbsolute (h : p.isAbsolute = true) :
    p.lexicallyNormal = p.view.normal.toPath := by
  have hroot : p.view.rooted = true := h
  unfold lexicallyNormal
  rw [if_neg (text_ne_nil_of_isAbsolute h), if_neg (by simp [hroot])]

/-- The decomposition of a normal absolute path. -/
theorem view_lexicallyNormal (h : p.isAbsolute = true) :
    p.lexicallyNormal.view = p.view.normal := by
  rw [lexicallyNormal_of_isAbsolute h, view_toPath (view_wellFormed p).normal]

theorem isAbsolute_lexicallyNormal (h : p.isAbsolute = true) :
    p.lexicallyNormal.isAbsolute = true := by
  rw [lexicallyNormal_of_isAbsolute h]
  exact isAbsolute_of_rooted ((View.rooted_normal _).trans h)

/-! ## §4. A path relative to another. -/

/-- What an iterator visits after the root directory: the names, and an empty element after a
    separator at the end. -/
def View.elements (v : View) : List (List UInt8) := v.names ++ if v.trailing then [[]] else []

/-- `std::mismatch`: what is left of two lists after their common beginning. -/
def mismatch : List (List UInt8) → List (List UInt8) → List (List UInt8) × List (List UInt8)
  | x :: xs, y :: ys => if x = y then mismatch xs ys else (x :: xs, y :: ys)
  | xs, ys => (xs, ys)

/-- How many directories the elements go down. -/
def depth (elements : List (List UInt8)) : Int :=
  elements.foldl (fun n e => if e = dotdot then n - 1 else if e = [] ∨ e = dot then n else n + 1) 0

/-- Elements appended one after the other to the empty path. -/
def ofElements (elements : List (List UInt8)) : View where
  rooted := false
  names := elements.filter (· ≠ [])
  trailing := !(elements.filter (· ≠ [])).isEmpty && elements.getLast? == some []

/-- The decomposition of a single dot. -/
def View.here : View := ⟨false, [dot], false⟩

def View.relative (v base : View) : Option View :=
  if v.rooted ≠ base.rooted then none
  else
    let a := (mismatch v.elements base.elements).1
    let b := (mismatch v.elements base.elements).2
    if a = [] ∧ b = [] then some .here
    else if depth b = 0 ∧ (a = [] ∨ a.head? = some []) then some .here
    else if 0 ≤ depth b then some (ofElements (List.replicate (depth b).toNat dotdot ++ a))
    else none

/-- `lexically_relative`; the empty path when there is none. -/
def lexicallyRelative (p base : Path) : Path :=
  match p.view.relative base.view with
  | some v => v.toPath
  | none => ⟨[]⟩

theorem mismatch_spec : ∀ xs ys : List (List UInt8), ∃ common,
    xs = common ++ (mismatch xs ys).1 ∧ ys = common ++ (mismatch xs ys).2 := by
  intro xs ys
  fun_induction mismatch xs ys with
  | case1 xs y ys ih =>
    obtain ⟨common, hxs, hys⟩ := ih
    refine ⟨y :: common, ?_, ?_⟩
    · rw [List.cons_append, ← hxs]
    · rw [List.cons_append, ← hys]
  | case2 => exact ⟨[], rfl, rfl⟩
  | case3 => exact ⟨[], rfl, rfl⟩

/-- Without dots, the depth is the number of proper names. -/
theorem depth_of_plain {elements : List (List UInt8)} (h : ∀ e ∈ elements, Plain e) :
    depth elements = (elements.filter (· ≠ [])).length := by
  have hfold : ∀ (es : List (List UInt8)), (∀ e ∈ es, Plain e) → ∀ n : Int,
      es.foldl (fun n e => if e = dotdot then n - 1 else if e = [] ∨ e = dot then n else n + 1) n =
        n + (es.filter (· ≠ [])).length := by
    intro es
    induction es with
    | nil => simp
    | cons e es ih =>
      intro hes n
      have he := hes e List.mem_cons_self
      rw [List.foldl_cons, if_neg he.2, ih fun d hd => hes d (List.mem_cons_of_mem _ hd)]
      by_cases hnil : e = []
      · simp [hnil]
      · rw [if_neg (by simp [hnil, he.1])]
        rw [List.filter_cons_of_pos (by simp [hnil]), List.length_cons]
        omega
  have hall := hfold elements h 0
  rw [Int.zero_add] at hall
  exact hall

theorem View.WellFormed.filter_elements (h : v.WellFormed) :
    v.elements.filter (· ≠ []) = v.names := by
  have hnames : v.names.filter (· ≠ []) = v.names := by
    rw [List.filter_eq_self]
    intro n hn
    simpa using (h.proper n hn).1
  unfold View.elements
  rw [List.filter_append, hnames]
  cases v.trailing with
  | false | true => simp

theorem View.plain_elements (h : ∀ n ∈ v.names, Plain n) : ∀ e ∈ v.elements, Plain e := by
  refine List.forall_mem_append.mpr ⟨h, ?_⟩
  split
  · exact List.forall_mem_singleton.mpr ⟨by decide, by decide⟩
  · exact List.forall_mem_nil _

/-- An empty element is the last one. -/
theorem View.WellFormed.nil_last (h : v.WellFormed) {xs ys : List (List UInt8)}
    (hsplit : v.elements = xs ++ [] :: ys) : ys = [] := by
  unfold View.elements at hsplit
  have hnot : [] ∉ v.names := fun hmem => (h.proper [] hmem).1 rfl
  rcases List.append_eq_append_iff.mp hsplit with ⟨as, hxs, hend⟩ | ⟨bs, hnames, hrest⟩
  · -- the empty element stands after all names
    cases htr : v.trailing with
    | false => simp [htr] at hend
    | true =>
      rw [htr, if_pos rfl] at hend
      have hlen := congrArg List.length hend
      simp only [List.length_cons, List.length_nil, List.length_append] at hlen
      exact List.length_eq_zero_iff.mp (by omega)
  · cases bs with
    | nil =>
      cases htr : v.trailing with
      | false => simp [htr] at hrest
      | true => simpa [htr] using hrest
    | cons b bs =>
      simp only [List.cons_append, List.cons.injEq] at hrest
      exact absurd (hnames ▸ by simp [hrest.1]) hnot

/-- **BELOW A PLAIN ROOT.**  A relative path that does not start with a double dot says that the
    root's names begin the path, and it consists of the names that follow. -/
theorem View.relative_below {v base r : View} (hv : v.WellFormed) (hbase : base.WellFormed)
    (hplain : ∀ n ∈ base.names, Plain n) (hr : v.relative base = some r)
    (hdown : r.names.head? ≠ some dotdot) :
    v.rooted = base.rooted ∧ ∃ rest, v.names = base.names ++ rest ∧
      r = if rest = [] then .here else ⟨false, rest, v.trailing⟩ := by
  unfold View.relative at hr
  split at hr
  · cases hr
  next hroot =>
    refine ⟨not_not.mp hroot, ?_⟩
    obtain ⟨common, hxs, hys⟩ := mismatch_spec v.elements base.elements
    dsimp only at hr
    generalize (mismatch v.elements base.elements).1 = a at hr hxs
    generalize (mismatch v.elements base.elements).2 = b at hr hys
    have hplainb : ∀ e ∈ b, Plain e := by
      intro e he
      exact View.plain_elements hplain e (hys ▸ List.mem_append_right _ he)
    have hdepth := depth_of_plain hplainb
    have hbnames : base.names = common.filter (· ≠ []) ++ b.filter (· ≠ []) := by
      rw [← hbase.filter_elements, hys, List.filter_append]
    have hvnames : v.names = common.filter (· ≠ []) ++ a.filter (· ≠ []) := by
      rw [← hv.filter_elements, hxs, List.filter_append]
    -- once nothing of the root is left, the names of the path extend it
    have hextend : b.filter (· ≠ []) = [] → v.names = base.names ++ a.filter (· ≠ []) := by
      intro hnil
      rw [hvnames, hbnames, hnil, List.append_nil]
    have hzero : depth b = 0 → b.filter (· ≠ []) = [] := by
      intro h0
      rw [hdepth] at h0
      exact List.length_eq_zero_iff.mp (by omega)
    have hhere : (a = [] ∨ a.head? = some []) → a.filter (· ≠ []) = [] := by
      intro ha
      rcases ha with rfl | ha
      · rfl
      · cases a with
        | nil => rfl
        | cons e es =>
          simp only [List.head?_cons, Option.some.injEq] at ha
          subst ha
          rw [hv.nil_last hxs]
          rfl
    split at hr
    next hboth =>
      obtain ⟨rfl, rfl⟩ := hboth
      simp only [Option.some.injEq] at hr
      exact ⟨[], by simpa using hextend rfl, by rw [if_pos rfl, hr]⟩
    split at hr
    next hcase =>
      simp only [Option.some.injEq] at hr
      refine ⟨[], ?_, by rw [if_pos rfl, hr]⟩
      rw [hextend (hzero hcase.1), hhere hcase.2]
    next hcase =>
      rw [if_pos (by rw [hdepth]; omega)] at hr
      simp only [Option.some.injEq] at hr
      subst hr
      -- a positive depth would put a double dot first
      have h0 : depth b = 0 := by
        by_contra hne
        obtain ⟨k, hk⟩ : ∃ k, (depth b).toNat = k + 1 := ⟨(depth b).toNat - 1, by omega⟩
        apply hdown
        simp [ofElements, hk, List.replicate_succ]
      have hrest := hextend (hzero h0)
      have hane : a ≠ [] ∧ a.head? ≠ some [] := by
        refine ⟨fun h => hcase ⟨h0, Or.inl h⟩, fun h => hcase ⟨h0, Or.inr h⟩⟩
      have hfne : a.filter (· ≠ []) ≠ [] := by
        cases a with
        | nil => exact absurd rfl hane.1
        | cons e es =>
          have he : e ≠ [] := fun h => hane.2 (by rw [h]; rfl)
          simp [he]
      refine ⟨a.filter (· ≠ []), hrest, ?_⟩
      rw [if_neg hfne]
      have hlast : (a.getLast? == some []) = v.trailing := by
        have hsame : v.elements.getLast? = a.getLast? := by
          rw [hxs, List.getLast?_append_of_ne_nil _ hane.1]
        have hend : (v.elements.getLast? == some []) = v.trailing := by
          unfold View.elements
          cases htr : v.trailing with
          | true => simp
          | false =>
            have hnot : v.names.getLast? ≠ some [] := fun hl =>
              (hv.proper [] (List.mem_of_getLast? hl)).1 rfl
            simpa using hnot
        rw [← hsame, hend]
      simp only [ofElements, h0, Int.toNat_zero, List.replicate_zero, List.nil_append]
      have hsome : (a.filter (· ≠ [])).isEmpty = false := by
        rw [List.isEmpty_eq_false_iff]
        exact hfne
      rw [hlast, hsome]
      rfl

/-- A relative path is a proper decomposition without a root. -/
theorem View.WellFormed.relative {v base r : View} (hv : v.WellFormed)
    (hr : v.relative base = some r) : r.WellFormed ∧ r.rooted = false := by
  have hhere : View.here.WellFormed ∧ View.here.rooted = false := by
    refine ⟨⟨?_, by simp [View.here]⟩, rfl⟩
    intro n hn
    rw [List.mem_singleton.mp hn]
    exact ⟨by decide, by decide⟩
  obtain ⟨common, hxs, -⟩ := mismatch_spec v.elements base.elements
  unfold View.relative at hr
  dsimp only at hr
  generalize (mismatch v.elements base.elements).1 = a at hr hxs
  generalize (mismatch v.elements base.elements).2 = b at hr
  split_ifs at hr <;> cases hr
  · exact hhere
  · exact hhere
  · refine ⟨⟨?_, ?_⟩, rfl⟩
    · intro n hn
      obtain ⟨hmem, hne⟩ := List.mem_filter.mp hn
      rcases List.mem_append.mp hmem with hmem | hmem
      · rw [List.eq_of_mem_replicate hmem]
        exact proper_dotdot
      · have hin : n ∈ v.names := by
          rw [← hv.filter_elements, hxs]
          exact List.mem_filter.mpr ⟨List.mem_append_right _ hmem, hne⟩
        exact hv.proper n hin
    · intro htrailing hnil
      simp only [ofElements] at htrailing hnil
      rw [hnil] at htrailing
      cases htrailing

end Path

end Ava.Lib
