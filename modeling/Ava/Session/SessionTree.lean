/-
  Ava.Session.SessionTree
  **THE SESSION TREE** (`session/session_tree.{h,cpp}`).  Every stored session names its parent in
  its own file, so the links are untrusted: a parent may be missing, the session itself, or part
  of a cycle.  `build_session_tree` turns them into root and child lists for display.

    - §1 the two walks up the links, and the tree built from the loaded sessions;
    - §2 the walks are `Lib.ParentForest.climb` of the links between loaded sessions;
    - §3 the placement pass fills the lists of the forest that cuts every link into a cycle;
    - §4 `buildSessionTree_forest` : the tree is a forest over the sessions, its path is the
      chain of the current session, and retargeting it is building it for the other session.
-/
import Ava.Core.Prelude
import Ava.Lib.ParentForest

namespace Ava.Session

open Ava.Core Ava.Lib ParentForest

/-! ## §1. The source. -/

/-- `SessionSummary`: the id, and the members the tree only carries. -/
structure SessionSummary (σ : Type) where
  sessionId : Bytes
  details : σ
deriving Repr, DecidableEq

/-- `SessionMetadataView`: the parent, and the members the tree only carries. -/
structure SessionMetadataView (μ : Type) where
  parentSessionId : Bytes
  details : μ
deriving Repr, DecidableEq

/-- `SessionTreeNode`. -/
structure SessionTreeNode (σ μ : Type) where
  summary : SessionSummary σ
  metadata : SessionMetadataView μ
  children : List Bytes
  current : Bool
deriving Repr, DecidableEq

/-- `SessionTreeIndex`. -/
structure SessionTreeIndex (σ μ : Type) where
  currentSessionId : Bytes
  sessions : List (SessionTreeNode σ μ)
  roots : List Bytes
  leaves : List Bytes
  currentPath : List Bytes
deriving Repr, DecidableEq

variable {σ μ : Type}

/-- The id of a node. -/
abbrev SessionTreeNode.id (node : SessionTreeNode σ μ) : Bytes := node.summary.sessionId

/-- The parent id of a node. -/
abbrev SessionTreeNode.parentId (node : SessionTreeNode σ μ) : Bytes :=
  node.metadata.parentSessionId

variable (nodes : List (SessionTreeNode σ μ))

/-- `nodes[index_by_id.find(id)]`; `emplace` keeps the first node of an id. -/
def findNode (id : Bytes) : Option (SessionTreeNode σ μ) :=
  nodes.find? fun node => node.id = id

/-- The loop of `parent_chain_has_cycle`.  Every round but the last remembers another id of
    `nodes`, so the rounds of `parentChainHasCycle` do not run out. -/
def parentChainLoop (nodes : List (SessionTreeNode σ μ)) : Nat → List Bytes → Bytes → Bool
  | 0, _, _ => true
  | rounds + 1, seen, cursor =>
    if cursor = [] then false
    else if cursor ∈ seen then true
    else
      match findNode nodes cursor with
      | none => false
      | some node => parentChainLoop nodes rounds (cursor :: seen) node.parentId

/-- `parent_chain_has_cycle`. -/
def parentChainHasCycle (sessionId : Bytes) : Bool :=
  parentChainLoop nodes (nodes.length + 2) [] sessionId

/-- The loop of `current_path_for`; `path` is `reversed`, turned round already. -/
def currentPathLoop (nodes : List (SessionTreeNode σ μ)) :
    Nat → List Bytes → List Bytes → Bytes → List Bytes
  | 0, _, path, _ => path
  | rounds + 1, seen, path, cursor =>
    if cursor = [] then path
    else if cursor ∈ seen then path
    else
      match findNode nodes cursor with
      | none => path
      | some node => currentPathLoop nodes rounds (cursor :: seen) (cursor :: path) node.parentId

/-- `current_path_for`. -/
def currentPathFor (cyclicChains : List Bytes) (currentSessionId : Bytes) : List Bytes :=
  if currentSessionId ∈ cyclicChains then
    if (findNode nodes currentSessionId).isSome then [currentSessionId] else []
  else currentPathLoop nodes (nodes.length + 2) [] [] currentSessionId

/-- `retarget_session_tree`. -/
def retargetSessionTree (index : SessionTreeIndex σ μ) (currentSessionId : Bytes) :
    SessionTreeIndex σ μ :=
  let sessions := index.sessions.map fun node =>
    { node with current := decide (node.id = currentSessionId) }
  let cyclicChains :=
    if currentSessionId ≠ [] ∧ parentChainHasCycle sessions currentSessionId = true then
      [currentSessionId]
    else []
  { index with
    currentSessionId := currentSessionId
    sessions := sessions
    currentPath := currentPathFor sessions cyclicChains currentSessionId }

/-- The first loop of `build_session_tree`: sessions that fail to open or to load are skipped. -/
def loadNodes (load : Bytes → Option (SessionMetadataView μ)) (currentSessionId : Bytes)
    (summaries : List (SessionSummary σ)) : List (SessionTreeNode σ μ) :=
  summaries.filterMap fun summary =>
    (load summary.sessionId).map fun metadata =>
      { summary, metadata, children := [], current := decide (summary.sessionId = currentSessionId) }

/-- The second loop: the sessions whose chain has a cycle. -/
def cyclicChains : List Bytes :=
  (nodes.filter fun node => parentChainHasCycle nodes node.id).map SessionTreeNode.id

/-- `sessions[parent].children.push_back(child)`, on the first node of the parent's id. -/
def pushChild (parent child : Bytes) : List (SessionTreeNode σ μ) → List (SessionTreeNode σ μ)
  | [] => []
  | node :: nodes =>
    if node.id = parent then { node with children := node.children ++ [child] } :: nodes
    else node :: pushChild parent child nodes

/-- The body of the third loop: one session goes to the roots or to its parent's children. -/
def placeSession (cyclic : List Bytes) (index : List (SessionTreeNode σ μ) × List Bytes)
    (node : SessionTreeNode σ μ) : List (SessionTreeNode σ μ) × List Bytes :=
  if node.parentId = [] ∨ (findNode index.1 node.parentId).isNone = true ∨ node.id ∈ cyclic then
    (index.1, index.2 ++ [node.id])
  else (pushChild node.parentId node.id index.1, index.2)

/-- `build_session_tree`, after the loading loop. -/
def treeOf (currentSessionId : Bytes) : SessionTreeIndex σ μ :=
  let cyclic := cyclicChains nodes
  let placed := nodes.foldl (placeSession cyclic) (nodes, [])
  { currentSessionId := currentSessionId
    sessions := placed.1
    roots := placed.2
    leaves := (placed.1.filter fun node => node.children.isEmpty).map SessionTreeNode.id
    currentPath :=
      if currentSessionId = [] then [] else currentPathFor placed.1 cyclic currentSessionId }

/-- `build_session_tree`.  `listed` is the answer of `SessionStore::list_sessions`, and `load`
    opens a session and reads its metadata. -/
def buildSessionTree (listed : Result (List (SessionSummary σ)))
    (load : Bytes → Option (SessionMetadataView μ)) (currentSessionId : Bytes) :
    Result (SessionTreeIndex σ μ) := do
  let summaries ← listed
  .ok (treeOf (loadNodes load currentSessionId summaries) currentSessionId)

/-! ## §2. The links between loaded sessions. -/

/-- The ids of a list of nodes. -/
def nodeIds : List Bytes := nodes.map SessionTreeNode.id

/-- The id names a session: it is not empty, and a node has it. -/
def Known (id : Bytes) : Prop :=
  id ≠ [] ∧ id ∈ nodeIds nodes

instance (nodes : List (SessionTreeNode σ μ)) (id : Bytes) : Decidable (Known nodes id) :=
  inferInstanceAs (Decidable (_ ∧ _))

/-- **The parent link of a session**, when it leads to a session that was loaded. -/
def parentLink (id : Bytes) : Option Bytes :=
  match findNode nodes id with
  | none => none
  | some node => if Known nodes node.parentId then some node.parentId else none

variable {nodes : List (SessionTreeNode σ μ)}

variable {id : Bytes} {node : SessionTreeNode σ μ}

theorem id_of_findNode (h : findNode nodes id = some node) : node.id = id := by
  simpa using List.find?_some h

theorem findNode_isSome_iff : (findNode nodes id).isSome = true ↔ id ∈ nodeIds nodes := by
  rw [findNode, List.find?_isSome, nodeIds, List.mem_map]
  simp only [decide_eq_true_eq]

theorem findNode_eq_none_iff : findNode nodes id = none ↔ id ∉ nodeIds nodes := by
  rw [← findNode_isSome_iff]
  cases findNode nodes id <;> simp

theorem parentLink_mem {id parent : Bytes} (h : parentLink nodes id = some parent) :
    Known nodes parent := by
  unfold parentLink at h
  split at h
  next => cases h
  next node _ =>
    split at h
    next hknown =>
      obtain rfl : node.parentId = parent := Option.some.inj h
      exact hknown
    next => cases h

theorem parentLink_mem_nodeIds : ∀ id parent, parentLink nodes id = some parent →
    parent ∈ nodeIds nodes := fun _ _ h => (parentLink_mem h).2

theorem parentLink_of_findNode (h : findNode nodes id = some node) :
    parentLink nodes id = if Known nodes node.parentId then some node.parentId else none := by
  rw [parentLink, h]

/-- The loops stop at an id that names no session. -/
theorem loops_of_unknown {seen : List Bytes} (hid : ¬ Known nodes id)
    (hseen : ∀ x ∈ seen, x ∈ nodeIds nodes) (rounds : Nat) (path : List Bytes) :
    parentChainLoop nodes (rounds + 1) seen id = false ∧
      currentPathLoop nodes (rounds + 1) seen path id = path := by
  rw [parentChainLoop, currentPathLoop]
  by_cases hempty : id = []
  · rw [if_pos hempty, if_pos hempty]
    exact ⟨rfl, rfl⟩
  · -- an id that no node has was not remembered either
    have hunknown : id ∉ nodeIds nodes := fun h => hid ⟨hempty, h⟩
    have hnew : id ∉ seen := fun h => hunknown (hseen _ h)
    rw [if_neg hempty, if_neg hempty, if_neg hnew, if_neg hnew, findNode_eq_none_iff.mpr hunknown]
    exact ⟨rfl, rfl⟩

/-- The loop of `parent_chain_has_cycle` fails where the walk up the links does, and that of
    `current_path_for` collects what the walk meets; they need one round more, in which they meet a
    parent that is no session. -/
theorem loops_eq_climb : ∀ (rounds : Nat) (seen : List Bytes) (cursor : Bytes),
    Known nodes cursor → (∀ x ∈ seen, x ∈ nodeIds nodes) →
      parentChainLoop nodes (rounds + 1) seen cursor =
          (climb (parentLink nodes) rounds seen cursor).isNone ∧
        ∀ path line, climb (parentLink nodes) rounds seen cursor = some line →
          currentPathLoop nodes (rounds + 1) seen path cursor = line.reverse ++ path := by
  intro rounds
  induction rounds with
  | zero =>
    intro seen cursor hknown hseen
    obtain ⟨node, hnode⟩ := Option.isSome_iff_exists.mp (findNode_isSome_iff.mpr hknown.2)
    refine ⟨?_, nofun⟩
    rw [parentChainLoop, if_neg hknown.1, hnode]
    split
    · rfl
    · rfl
  | succ rounds ih =>
    intro seen cursor hknown hseen
    obtain ⟨node, hnode⟩ := Option.isSome_iff_exists.mp (findNode_isSome_iff.mpr hknown.2)
    have hseen' : ∀ x ∈ cursor :: seen, x ∈ nodeIds nodes :=
      List.forall_mem_cons.mpr ⟨hknown.2, hseen⟩
    rw [parentChainLoop, if_neg hknown.1, hnode, climb, parentLink_of_findNode hnode]
    by_cases hmem : cursor ∈ seen
    · rw [if_pos hmem, if_pos hmem]
      exact ⟨rfl, nofun⟩
    · have hround : ∀ path, currentPathLoop nodes (rounds + 1 + 1) seen path cursor =
          currentPathLoop nodes (rounds + 1) (cursor :: seen) (cursor :: path) node.parentId := by
        intro path
        rw [currentPathLoop, if_neg hknown.1, if_neg hmem, hnode]
      rw [if_neg hmem, if_neg hmem]
      dsimp only
      by_cases hparent : Known nodes node.parentId
      · obtain ⟨hcycle, hpath⟩ := ih _ _ hparent hseen'
        rw [if_pos hparent, hcycle]
        refine ⟨Option.isNone_map.symm, fun path line hline => ?_⟩
        obtain ⟨rest, hrest, rfl⟩ := Option.map_eq_some_iff.mp hline
        rw [hround, hpath _ rest hrest, List.reverse_cons, List.append_assoc]
        rfl
      · have hstops := loops_of_unknown hparent hseen' rounds
        rw [if_neg hparent, (hstops []).1]
        refine ⟨rfl, fun path line hline => ?_⟩
        obtain rfl : [cursor] = line := Option.some.inj hline
        rw [hround, (hstops _).2]
        rfl

/-- **`parent_chain_has_cycle` is right.** -/
theorem parentChainHasCycle_iff (id : Bytes) :
    parentChainHasCycle nodes id = true ↔
      Known nodes id ∧ ParentForest.ReachesCycle (parentLink nodes) id := by
  by_cases hknown : Known nodes id
  · have hlength : nodes.length = (nodeIds nodes).length := (List.length_map _).symm
    rw [parentChainHasCycle, (loops_eq_climb _ _ _ hknown (List.forall_mem_nil _)).1,
      Option.isNone_iff_eq_none, hlength,
      climb_eq_none_iff parentLink_mem_nodeIds hknown.2]
    exact ⟨fun h => ⟨hknown, h⟩, fun h => h.2⟩
  · rw [parentChainHasCycle, (loops_of_unknown hknown (List.forall_mem_nil _) _ []).1]
    exact ⟨nofun, fun h => absurd h.1 hknown⟩

theorem mem_cyclicChains_iff (id : Bytes) :
    id ∈ cyclicChains nodes ↔ parentChainHasCycle nodes id = true := by
  rw [cyclicChains, List.mem_map]
  constructor
  · rintro ⟨node, hnode, rfl⟩
    exact (List.mem_filter.mp hnode).2
  · intro h
    obtain ⟨⟨-, hmem⟩, -⟩ := (parentChainHasCycle_iff id).mp h
    obtain ⟨node, hnode, rfl⟩ := List.mem_map.mp hmem
    exact ⟨node, List.mem_filter.mpr ⟨hnode, h⟩, rfl⟩

/-- **What a current path is**: nothing for an id that names no session, the session alone when
    its chain reaches a cycle, and else the chain of its known ancestors. -/
structure IsCurrentPath (nodes : List (SessionTreeNode σ μ)) (current : Bytes) (path : List Bytes) :
    Prop where
  unknown : ¬ Known nodes current → path = []
  cyclic : Known nodes current → ParentForest.ReachesCycle (parentLink nodes) current →
    path = [current]
  line : Known nodes current → ¬ ParentForest.ReachesCycle (parentLink nodes) current →
    ParentForest.IsLine (parentLink nodes) path current

variable {current : Bytes}

/-- `current_path_for` is right for every set that holds the current session exactly when its
    chain has a cycle. -/
theorem currentPathFor_isCurrentPath {cyclic : List Bytes}
    (hcyclic : current ∈ cyclic ↔ parentChainHasCycle nodes current = true) :
    IsCurrentPath nodes current (currentPathFor nodes cyclic current) := by
  unfold currentPathFor
  refine ⟨?_, ?_, ?_⟩
  · intro hknown
    have hnot : current ∉ cyclic := fun h =>
      hknown ((parentChainHasCycle_iff current).mp (hcyclic.mp h)).1
    rw [if_neg hnot, (loops_of_unknown hknown (List.forall_mem_nil _) _ []).2]
  · intro hknown hreach
    rw [if_pos (hcyclic.mpr ((parentChainHasCycle_iff current).mpr ⟨hknown, hreach⟩)),
      if_pos (findNode_isSome_iff.mpr hknown.2)]
  · intro hknown hreach
    have hnot : current ∉ cyclic := fun h =>
      hreach ((parentChainHasCycle_iff current).mp (hcyclic.mp h)).2
    rw [if_neg hnot]
    have hlength : nodes.length = (nodeIds nodes).length := (List.length_map _).symm
    have hsays := climb_says (@parentLink_mem_nodeIds _ _ nodes) hknown.2
    cases hclimb : climb (parentLink nodes) ((nodeIds nodes).length + 1) [] current with
    | none =>
      rw [hclimb] at hsays
      exact absurd hsays hreach
    | some line =>
      rw [hclimb] at hsays
      rw [(loops_eq_climb _ _ _ hknown (List.forall_mem_nil _)).2 [] line
        (by rw [hlength]; exact hclimb), List.append_nil]
      exact hsays.1

theorem IsCurrentPath.unique {path path' : List Bytes}
    (h : IsCurrentPath nodes current path) (h' : IsCurrentPath nodes current path') :
    path = path' := by
  by_cases hknown : Known nodes current
  · by_cases hreach : ParentForest.ReachesCycle (parentLink nodes) current
    · rw [h.cyclic hknown hreach, h'.cyclic hknown hreach]
    · exact (h.line hknown hreach).unique (h'.line hknown hreach)
  · rw [h.unknown hknown, h'.unknown hknown]

/-! ## §3. The placement pass. -/

/-- Two lists of nodes with the same ids and links. -/
structure SameShape (nodes nodes' : List (SessionTreeNode σ μ)) : Prop where
  ids : nodeIds nodes = nodeIds nodes'
  links : parentLink nodes = parentLink nodes'

/-- Nodes that differ in other members only have the same links. -/
theorem sameShape_map (f : SessionTreeNode σ μ → SessionTreeNode σ μ)
    (hid : ∀ node, (f node).id = node.id)
    (hparent : ∀ node ∈ nodes, (f node).parentId = node.parentId) :
    SameShape (nodes.map f) nodes := by
  have hids : nodeIds (nodes.map f) = nodeIds nodes := by
    rw [nodeIds, List.map_map]
    exact List.map_congr_left fun node _ => hid node
  have hfind : ∀ id, findNode (nodes.map f) id = (findNode nodes id).map f := by
    intro id
    rw [findNode, List.find?_map]
    congr 2
    funext node
    simp only [Function.comp_apply, hid]
  refine ⟨hids, funext fun id => ?_⟩
  unfold parentLink
  rw [hfind]
  cases h : findNode nodes id with
  | none => rfl
  | some node =>
    have hknown : ∀ id, Known (nodes.map f) id ↔ Known nodes id := by
      intro id
      rw [Known, Known, hids]
    simp only [Option.map_some, hparent node (List.mem_of_find?_eq_some h), hknown]

variable {nodes' : List (SessionTreeNode σ μ)}

section

variable (h : SameShape nodes nodes')
include h

theorem SameShape.known_iff (id : Bytes) : Known nodes id ↔ Known nodes' id := by
  rw [Known, Known, h.ids]

theorem SameShape.parentChainHasCycle_eq (id : Bytes) :
    parentChainHasCycle nodes id = parentChainHasCycle nodes' id := by
  rw [Bool.eq_iff_iff, parentChainHasCycle_iff, parentChainHasCycle_iff, h.known_iff, h.links]

theorem SameShape.isCurrentPath {path : List Bytes}
    (hpath : IsCurrentPath nodes current path) : IsCurrentPath nodes' current path := by
  obtain ⟨hunknown, hcyclic, hline⟩ := hpath
  rw [h.known_iff] at hunknown
  rw [h.known_iff, h.links] at hcyclic hline
  exact ⟨hunknown, hcyclic, hline⟩

end

/-- The link under which a session is placed: none when its chain has a cycle. -/
def treeLink (nodes : List (SessionTreeNode σ μ)) (id : Bytes) : Option Bytes :=
  if parentChainHasCycle nodes id then none else parentLink nodes id

theorem SameShape.treeLink_eq (h : SameShape nodes nodes') : treeLink nodes = treeLink nodes' := by
  funext id
  rw [treeLink, treeLink, h.parentChainHasCycle_eq, h.links]

theorem parentLink_of_treeLink {id parent : Bytes} (h : treeLink nodes id = some parent) :
    parentLink nodes id = some parent := by
  unfold treeLink at h
  split at h
  · cases h
  · exact h

theorem treeLink_mem_nodeIds (id parent : Bytes) (h : treeLink nodes id = some parent) :
    parent ∈ nodeIds nodes :=
  parentLink_mem_nodeIds id parent (parentLink_of_treeLink h)

theorem findNode_of_mem (hnodup : (nodeIds nodes).Nodup)
    (hmem : node ∈ nodes) : findNode nodes node.id = some node := by
  have hsome : (findNode nodes node.id).isSome = true :=
    findNode_isSome_iff.mpr (List.mem_map_of_mem hmem)
  obtain ⟨found, hfound⟩ := Option.isSome_iff_exists.mp hsome
  rw [hfound, List.inj_on_of_nodup_map hnodup (List.mem_of_find?_eq_some hfound) hmem
    (id_of_findNode hfound)]

/-- Appending to one child list, where ids are distinct. -/
theorem pushChild_eq_map (parent child : Bytes) : ∀ ns : List (SessionTreeNode σ μ),
    (nodeIds ns).Nodup →
      pushChild parent child ns =
        ns.map fun node =>
          if node.id = parent then { node with children := node.children ++ [child] } else node := by
  intro ns
  induction ns with
  | nil =>
    intro _
    rfl
  | cons node ns ih =>
    intro hnodup
    obtain ⟨hnot, hrest⟩ := List.nodup_cons.mp hnodup
    rw [pushChild, List.map_cons]
    by_cases hid : node.id = parent
    · rw [if_pos hid, if_pos hid]
      congr 1
      -- no later node has the parent's id
      refine (List.map_id ns).symm.trans (List.map_congr_left fun other hother => ?_)
      have hne : other.id ≠ parent := by
        rintro rfl
        exact hnot (hid ▸ List.mem_map_of_mem hother)
      rw [if_neg hne]
      rfl
    · rw [if_neg hid, if_neg hid, ih hrest]

/-- A node with the sessions of `todo` that are placed under it. -/
def withChildren (nodes todo : List (SessionTreeNode σ μ)) (node : SessionTreeNode σ μ) :
    SessionTreeNode σ μ :=
  { node with
    children := node.children ++ childrenOf (treeLink nodes) (nodeIds todo) node.id }

theorem sameShape_withChildren (todo ns : List (SessionTreeNode σ μ)) :
    SameShape (ns.map (withChildren nodes todo)) ns :=
  sameShape_map _ (fun _ => rfl) (fun _ _ => rfl)

/-- **One session**: it goes to the roots when it has no link in the tree, and else to the child
    list its link names. -/
theorem placeSession_eq (hnodup : (nodeIds nodes).Nodup)
    (hmem : node ∈ nodes) {ns : List (SessionTreeNode σ μ)} (hshape : SameShape ns nodes)
    (roots : List Bytes) :
    placeSession (cyclicChains nodes) (ns, roots) node =
      (ns.map (withChildren nodes [node]),
        roots ++ ParentForest.roots (treeLink nodes) (nodeIds [node])) := by
  have hlink := parentLink_of_findNode (findNode_of_mem hnodup hmem)
  have hcyclic := @mem_cyclicChains_iff _ _ nodes node.id
  unfold placeSession
  by_cases hroot : node.parentId = [] ∨ (findNode ns node.parentId).isNone = true ∨
      node.id ∈ cyclicChains nodes
  · have htree : treeLink nodes node.id = none := by
      rw [treeLink]
      split
      next => rfl
      next hacyclic =>
        rw [hlink, if_neg]
        intro hknown
        rcases hroot with hempty | hnone | hmem'
        · exact hknown.1 hempty
        · rw [Option.isNone_iff_eq_none, findNode_eq_none_iff, hshape.ids] at hnone
          exact hnone hknown.2
        · exact hacyclic (hcyclic.mp hmem')
    have hsame : ns.map (withChildren nodes [node]) = ns := by
      refine (List.map_congr_left fun other _ => ?_).trans (List.map_id ns)
      have hnone : childrenOf (treeLink nodes) (nodeIds [node]) other.id = [] := by
        simp [childrenOf, nodeIds, htree]
      rw [withChildren, hnone, List.append_nil]
      rfl
    rw [if_pos hroot, hsame]
    simp [ParentForest.roots, nodeIds, htree]
  · have hnot := not_or.mp hroot
    have hnot' := not_or.mp hnot.2
    have hknown : Known nodes node.parentId := by
      refine ⟨hnot.1, ?_⟩
      by_contra hunknown
      rw [← hshape.ids, ← findNode_eq_none_iff] at hunknown
      exact hnot'.1 (by rw [hunknown]; rfl)
    have htree : treeLink nodes node.id = some node.parentId := by
      rw [treeLink, if_neg fun h => hnot'.2 (hcyclic.mpr h), hlink, if_pos hknown]
    have hroots : ParentForest.roots (treeLink nodes) (nodeIds [node]) = [] := by
      simp [ParentForest.roots, nodeIds, htree]
    rw [if_neg hroot, pushChild_eq_map _ _ _ (by rw [hshape.ids]; exact hnodup), hroots,
      List.append_nil]
    congr 1
    refine List.map_congr_left fun other _ => ?_
    by_cases hid : other.id = node.parentId
    · rw [if_pos hid, withChildren]
      congr 2
      simp [childrenOf, nodeIds, htree, hid]
    · have hnone : childrenOf (treeLink nodes) (nodeIds [node]) other.id = [] := by
        simp [childrenOf, nodeIds, htree, Ne.symm hid]
      rw [if_neg hid, withChildren, hnone, List.append_nil]

/-- **The whole pass**, by induction on the sessions still to place. -/
theorem foldl_placeSession (hnodup : (nodeIds nodes).Nodup) :
    ∀ (todo ns : List (SessionTreeNode σ μ)) (roots : List Bytes), (∀ node ∈ todo, node ∈ nodes) →
      SameShape ns nodes →
      todo.foldl (placeSession (cyclicChains nodes)) (ns, roots) =
        (ns.map (withChildren nodes todo),
          roots ++ ParentForest.roots (treeLink nodes) (nodeIds todo)) := by
  intro todo
  induction todo with
  | nil =>
    intro ns roots _ _
    have hsame : ns.map (withChildren nodes []) = ns := by
      refine (List.map_congr_left fun other _ => ?_).trans (List.map_id ns)
      rw [withChildren, nodeIds, List.map_nil, childrenOf, List.filter_nil,
        List.append_nil]
      rfl
    rw [List.foldl_nil, hsame, nodeIds, List.map_nil, ParentForest.roots, List.filter_nil,
      List.append_nil]
  | cons node todo ih =>
    intro ns roots hmem hshape
    have hnode := hmem node List.mem_cons_self
    have h := @sameShape_withChildren _ _ nodes [node] ns
    have hshape' : SameShape (ns.map (withChildren nodes [node])) nodes :=
      ⟨h.ids.trans hshape.ids, h.links.trans hshape.links⟩
    rw [List.foldl_cons, placeSession_eq hnodup hnode hshape,
      ih _ _ (fun other h => hmem other (List.mem_cons_of_mem _ h)) hshape', List.map_map]
    have hids : nodeIds (node :: todo) = nodeIds [node] ++ nodeIds todo := rfl
    refine Prod.ext ?_ ?_
    · refine List.map_congr_left fun other _ => ?_
      simp only [Function.comp_apply, withChildren, hids, childrenOf,
        List.filter_append, List.append_assoc]
      rfl
    · rw [hids, ParentForest.roots, ParentForest.roots, ParentForest.roots, List.filter_append,
        List.append_assoc]

/-! ## §4. The tree. -/

/-- The child list of a session. -/
def childList (tree : SessionTreeIndex σ μ) (id : Bytes) : List Bytes :=
  match findNode tree.sessions id with
  | none => []
  | some node => node.children

/-- **A forest over its sessions**: the roots and the child lists hold every session once,
    following the children from the roots meets every session once however long it goes on, the
    leaves are the sessions without children, and a child names its parent. -/
structure IsForest (tree : SessionTreeIndex σ μ) : Prop where
  placed : (tree.roots ++ tree.sessions.flatMap SessionTreeNode.children).Perm (nodeIds tree.sessions)
  reached : ∀ levels, tree.sessions.length ≤ levels →
    (descend (childList tree) levels tree.roots).Perm (nodeIds tree.sessions)
  leaves_nodup : tree.leaves.Nodup
  mem_leaves : ∀ id, id ∈ tree.leaves ↔ id ∈ nodeIds tree.sessions ∧ childList tree id = []
  linked : ∀ node ∈ tree.sessions, ∀ child ∈ node.children,
    parentLink tree.sessions child = some node.id

/-- The nodes of `build_session_tree` before the placement pass. -/
structure Loaded (nodes : List (SessionTreeNode σ μ)) : Prop where
  distinct : (nodeIds nodes).Nodup
  childless : ∀ node ∈ nodes, node.children = []

theorem treeOf_eq (h : Loaded nodes) (current : Bytes) :
    treeOf nodes current =
      { currentSessionId := current
        sessions := nodes.map (withChildren nodes nodes)
        roots := ParentForest.roots (treeLink nodes) (nodeIds nodes)
        leaves := ((nodes.map (withChildren nodes nodes)).filter fun node =>
          node.children.isEmpty).map SessionTreeNode.id
        currentPath :=
          if current = [] then []
          else currentPathFor (nodes.map (withChildren nodes nodes)) (cyclicChains nodes) current } := by
  unfold treeOf
  dsimp only
  rw [foldl_placeSession h.distinct nodes nodes [] (fun _ hmem => hmem) ⟨rfl, rfl⟩, List.nil_append]

/-- The child lists of the tree are those of the forest of tree links. -/
theorem childList_treeOf (h : Loaded nodes) (current : Bytes) :
    childList (treeOf nodes current) = childrenOf (treeLink nodes) (nodeIds nodes) := by
  funext id
  have hfind : findNode (nodes.map (withChildren nodes nodes)) id =
      (findNode nodes id).map (withChildren nodes nodes) := by
    rw [findNode, List.find?_map]
    rfl
  rw [childList, treeOf_eq h]
  dsimp only
  rw [hfind]
  cases hnode : findNode nodes id with
  | none =>
    -- no session can be placed under an id that no session has
    refine (List.filter_eq_nil_iff.mpr fun child _ hchild => ?_).symm
    exact findNode_eq_none_iff.mp hnode (treeLink_mem_nodeIds child id (of_decide_eq_true hchild))
  | some node =>
    obtain rfl := id_of_findNode hnode
    show node.children ++ _ = _
    rw [h.childless node (List.mem_of_find?_eq_some hnode), List.nil_append]

/-- A named session has a chain in the forest of tree links, no longer than there are names. -/
theorem exists_line_of_known (hknown : Known nodes id) :
    ∃ line, ParentForest.IsLine (treeLink nodes) line id ∧
      line.length ≤ ((nodeIds nodes).filter fun id => id ≠ []).length := by
  have hmem : ∀ id, Known nodes id → id ∈ (nodeIds nodes).filter fun id => id ≠ [] :=
    fun id h => List.mem_filter.mpr ⟨h.2, decide_eq_true h.1⟩
  have hsays := climb_says
    (fun a b (h : parentLink nodes a = some b) => hmem b (parentLink_mem h)) (hmem id hknown)
  generalize ((nodeIds nodes).filter fun id => id ≠ []) = ids at hmem hsays
  cases hclimb : climb (parentLink nodes) (ids.length + 1) [] id with
  | none =>
    rw [hclimb] at hsays
    have hcycle := (parentChainHasCycle_iff id).mpr ⟨hknown, hsays⟩
    exact ⟨[id], .top (by rw [treeLink, if_pos hcycle]), List.length_pos_of_mem (hmem id hknown)⟩
  | some line =>
    rw [hclimb] at hsays
    refine ⟨line.reverse, hsays.1.congr fun a ha => ?_, ?_⟩
    · rw [treeLink, if_neg fun h => ha ((parentChainHasCycle_iff a).mp h).2]
    · rw [List.length_reverse]
      exact hsays.2

/-- **Every session has a chain in the forest of tree links.**  An empty id names no session, but
    a node may have it; it is then a leaf of the forest. -/
theorem exists_line_treeLink (hid : id ∈ nodeIds nodes) :
    ∃ line, ParentForest.IsLine (treeLink nodes) line id ∧ line.length ≤ (nodeIds nodes).length := by
  by_cases hempty : id = []
  · subst hempty
    have hlt : ((nodeIds nodes).filter fun id => id ≠ []).length < (nodeIds nodes).length :=
      List.length_filter_lt_length_iff_exists.mpr ⟨[], hid, by simp⟩
    cases hlink : treeLink nodes [] with
    | none => exact ⟨[[]], .top hlink, List.length_pos_of_mem hid⟩
    | some parent =>
      obtain ⟨line, hline, hle⟩ :=
        exists_line_of_known (parentLink_mem (parentLink_of_treeLink hlink))
      refine ⟨line ++ [[]], .under hlink hline, ?_⟩
      rw [List.length_append, List.length_singleton]
      omega
  · obtain ⟨line, hline, hle⟩ := exists_line_of_known ⟨hempty, hid⟩
    exact ⟨line, hline, Nat.le_trans hle (List.length_filter_le _ _)⟩

theorem treeOf_sameShape (h : Loaded nodes) (current : Bytes) :
    SameShape (treeOf nodes current).sessions nodes := by
  rw [treeOf_eq h]
  exact sameShape_withChildren nodes nodes

theorem treeOf_isForest (h : Loaded nodes) (current : Bytes) : IsForest (treeOf nodes current) := by
  obtain ⟨hids, hlinks⟩ := treeOf_sameShape h current
  have hnodup : (nodeIds (treeOf nodes current).sessions).Nodup := hids ▸ h.distinct
  have hroots : (treeOf nodes current).roots = ParentForest.roots (treeLink nodes) (nodeIds nodes) := by
    rw [treeOf_eq h]
  have hchildren : ∀ node ∈ (treeOf nodes current).sessions,
      node.children = childrenOf (treeLink nodes) (nodeIds nodes) node.id := by
    rw [treeOf_eq h]
    intro node hnode
    obtain ⟨loaded, hloaded, rfl⟩ := List.mem_map.mp hnode
    show loaded.children ++ _ = _
    rw [h.childless loaded hloaded, List.nil_append]
    rfl
  refine ⟨?_, ?_, ?_, ?_, ?_⟩
  · have hflat : (treeOf nodes current).sessions.flatMap SessionTreeNode.children =
        (nodeIds nodes).flatMap (childrenOf (treeLink nodes) (nodeIds nodes)) :=
      calc (treeOf nodes current).sessions.flatMap SessionTreeNode.children
          = (treeOf nodes current).sessions.flatMap fun node =>
              childrenOf (treeLink nodes) (nodeIds nodes) node.id :=
            List.flatMap_congr hchildren
        _ = (nodeIds (treeOf nodes current).sessions).flatMap
              (childrenOf (treeLink nodes) (nodeIds nodes)) :=
            (List.flatMap_map _ _ _).symm
        _ = _ := by rw [hids]
    rw [hids, hroots, hflat]
    exact placed_perm h.distinct treeLink_mem_nodeIds
  · intro levels hlevels
    have hlength : (nodeIds nodes).length ≤ levels := by
      rw [← hids, nodeIds, List.length_map]
      exact hlevels
    rw [childList_treeOf h, hroots, hids]
    exact descend_perm h.distinct treeLink_mem_nodeIds
      (fun id hid => exists_line_treeLink hid) hlength
  · exact hnodup.sublist (List.filter_sublist.map _)
  · intro id
    have hlist : ∀ node ∈ (treeOf nodes current).sessions,
        childList (treeOf nodes current) node.id = node.children := by
      intro node hnode
      rw [childList, findNode_of_mem hnodup hnode]
    constructor
    · intro hleaf
      obtain ⟨node, hnode, rfl⟩ := List.mem_map.mp hleaf
      obtain ⟨hmem, hempty⟩ := List.mem_filter.mp hnode
      exact ⟨List.mem_map_of_mem hmem, (hlist node hmem).trans (List.isEmpty_iff.mp hempty)⟩
    · rintro ⟨hmem, hempty⟩
      obtain ⟨node, hnode, rfl⟩ := List.mem_map.mp hmem
      rw [hlist node hnode] at hempty
      exact List.mem_map_of_mem (List.mem_filter.mpr ⟨hnode, List.isEmpty_iff.mpr hempty⟩)
  · intro node hnode child hchild
    rw [hlinks]
    rw [hchildren node hnode] at hchild
    exact parentLink_of_treeLink (of_decide_eq_true (List.mem_filter.mp hchild).2)

theorem treeOf_isCurrentPath (h : Loaded nodes) (current : Bytes) :
    IsCurrentPath nodes current (treeOf nodes current).currentPath := by
  have hshape : SameShape (nodes.map (withChildren nodes nodes)) nodes :=
    sameShape_withChildren nodes nodes
  rw [treeOf_eq h]
  dsimp only
  by_cases hempty : current = []
  · rw [if_pos hempty]
    exact ⟨fun _ => rfl, fun hknown => absurd hempty hknown.1, fun hknown => absurd hempty hknown.1⟩
  · rw [if_neg hempty]
    refine hshape.isCurrentPath (currentPathFor_isCurrentPath ?_)
    rw [mem_cyclicChains_iff, hshape.parentChainHasCycle_eq]

/-- The current marker of a node. -/
def withCurrent (current : Bytes) (node : SessionTreeNode σ μ) : SessionTreeNode σ μ :=
  { node with current := decide (node.id = current) }

theorem retarget_isCurrentPath (index : SessionTreeIndex σ μ) (current : Bytes) :
    IsCurrentPath index.sessions current (retargetSessionTree index current).currentPath := by
  have hshape : SameShape (index.sessions.map (withCurrent current)) index.sessions :=
    sameShape_map _ (fun _ => rfl) (fun _ _ => rfl)
  refine hshape.isCurrentPath (currentPathFor_isCurrentPath ?_)
  constructor
  · intro hmem
    split at hmem
    next hcycle => exact hcycle.2
    next => exact absurd hmem List.not_mem_nil
  · intro hcycle
    have hknown := ((parentChainHasCycle_iff current).mp hcycle).1
    rw [if_pos ⟨hknown.1, hcycle⟩]
    exact List.mem_singleton_self current

/-- A change of the members of a node that the placement pass does not look at. -/
structure Relabels (nodes : List (SessionTreeNode σ μ))
    (f : SessionTreeNode σ μ → SessionTreeNode σ μ) : Prop where
  id : ∀ node, (f node).id = node.id
  parentId : ∀ node ∈ nodes, (f node).parentId = node.parentId
  children : ∀ node children,
    f { node with children := children } = { f node with children := children }

theorem relabels_withCurrent (current : Bytes) : Relabels nodes (withCurrent current) :=
  ⟨fun _ => rfl, fun _ _ => rfl, fun _ _ => rfl⟩

section

variable (h : Loaded nodes) {f : SessionTreeNode σ μ → SessionTreeNode σ μ} (hf : Relabels nodes f)
include hf

theorem Relabels.children_eq (node : SessionTreeNode σ μ) : (f node).children = node.children := by
  have hsame : f node = { f node with children := node.children } := hf.children node node.children
  rw [hsame]

include h

theorem Loaded.map : Loaded (nodes.map f) := by
  refine ⟨(sameShape_map f hf.id hf.parentId).ids ▸ h.distinct, fun node hnode => ?_⟩
  obtain ⟨loaded, hmem, rfl⟩ := List.mem_map.mp hnode
  rw [hf.children_eq]
  exact h.childless loaded hmem

/-- **Relabelled sessions have the relabelled tree.** -/
theorem treeOf_map (a b : Bytes) :
    treeOf (nodes.map f) b =
      { currentSessionId := b
        sessions := (treeOf nodes a).sessions.map f
        roots := (treeOf nodes a).roots
        leaves := (treeOf nodes a).leaves
        currentPath := (treeOf (nodes.map f) b).currentPath } := by
  have hshape : SameShape (nodes.map f) nodes := sameShape_map f hf.id hf.parentId
  have hsessions : (treeOf (nodes.map f) b).sessions = (treeOf nodes a).sessions.map f := by
    rw [treeOf_eq h, treeOf_eq (h.map hf)]
    dsimp only
    rw [List.map_map, List.map_map]
    refine List.map_congr_left fun node _ => ?_
    calc withChildren (nodes.map f) (nodes.map f) (f node)
        = { f node with
            children := node.children ++
              childrenOf (treeLink nodes) (nodeIds nodes) node.id } := by
          rw [withChildren, hf.children_eq, hf.id, hshape.treeLink_eq, hshape.ids]
      _ = f (withChildren nodes nodes node) := (hf.children node _).symm
  have hroots : (treeOf (nodes.map f) b).roots = (treeOf nodes a).roots := by
    rw [treeOf_eq h, treeOf_eq (h.map hf)]
    dsimp only
    rw [hshape.treeLink_eq, hshape.ids]
  have hleaves : (treeOf (nodes.map f) b).leaves = (treeOf nodes a).leaves := by
    show ((treeOf (nodes.map f) b).sessions.filter _).map _ = ((treeOf nodes a).sessions.filter _).map _
    rw [hsessions, List.filter_map, List.map_map]
    have hfilter : ((fun node : SessionTreeNode σ μ => node.children.isEmpty) ∘ f) =
        fun node => node.children.isEmpty := by
      funext node
      rw [Function.comp_apply, hf.children_eq]
    rw [hfilter]
    exact List.map_congr_left fun node _ => hf.id node
  rw [← hsessions, ← hroots, ← hleaves]
  rfl

end

/-- **Retargeting is building for the other session.**  Both paths are the chain of the same
    session over the same links, so they agree although only the building pass knows all cyclic
    chains. -/
theorem retarget_treeOf (h : Loaded nodes) (a b : Bytes) :
    retargetSessionTree (treeOf nodes a) b = treeOf (nodes.map (withCurrent b)) b := by
  have hf : Relabels nodes (withCurrent b) := relabels_withCurrent b
  have hpath : (retargetSessionTree (treeOf nodes a) b).currentPath =
      (treeOf (nodes.map (withCurrent b)) b).currentPath := by
    have hsame := treeOf_sameShape h a
    have hshape : SameShape (nodes.map (withCurrent b)) nodes := sameShape_map _ hf.id hf.parentId
    exact (hsame.isCurrentPath (retarget_isCurrentPath (treeOf nodes a) b)).unique
      (hshape.isCurrentPath (treeOf_isCurrentPath (h.map hf) b))
  rw [treeOf_map h hf a b, ← hpath]
  rfl

theorem loadNodes_withCurrent (load : Bytes → Option (SessionMetadataView μ)) (a b : Bytes)
    (summaries : List (SessionSummary σ)) :
    loadNodes load b summaries = (loadNodes load a summaries).map (withCurrent b) := by
  rw [loadNodes, loadNodes, List.map_filterMap]
  congr 1
  funext summary
  cases load summary.sessionId <;> rfl

theorem loadNodes_childless (load : Bytes → Option (SessionMetadataView μ)) (current : Bytes)
    (summaries : List (SessionSummary σ)) :
    ∀ node ∈ loadNodes load current summaries, node.children = [] := by
  intro node hnode
  obtain ⟨summary, -, hload⟩ := List.mem_filterMap.mp hnode
  obtain ⟨metadata, -, rfl⟩ := Option.map_eq_some_iff.mp hload
  rfl

/-- **THE SESSION TREE.**  Whatever parents the loaded sessions name, the tree is a forest over
    exactly these sessions, its path is the chain of the current session, and retargeting it gives
    the tree built for the other session. -/
theorem buildSessionTree_forest {listed : Result (List (SessionSummary σ))}
    {summaries : List (SessionSummary σ)} (hlisted : listed = .ok summaries)
    (load : Bytes → Option (SessionMetadataView μ)) (a b : Bytes)
    (hdistinct : (nodeIds (loadNodes load a summaries)).Nodup) :
    ∃ tree, buildSessionTree listed load a = .ok tree ∧
      tree.sessions.map (fun node => (node.summary, node.metadata)) =
        (loadNodes load a summaries).map (fun node => (node.summary, node.metadata)) ∧
      IsForest tree ∧
      IsCurrentPath tree.sessions a tree.currentPath ∧
      buildSessionTree listed load b = .ok (retargetSessionTree tree b) := by
  have hloaded : Loaded (loadNodes load a summaries) :=
    ⟨hdistinct, loadNodes_childless load a summaries⟩
  have hbuild : ∀ c, buildSessionTree listed load c = .ok (treeOf (loadNodes load c summaries) c) := by
    intro c
    rw [hlisted]
    rfl
  refine ⟨treeOf (loadNodes load a summaries) a, hbuild a, ?_, treeOf_isForest hloaded a, ?_, ?_⟩
  · rw [treeOf_eq hloaded]
    dsimp only
    rw [List.map_map]
    rfl
  · have h := treeOf_sameShape hloaded a
    have hshape : SameShape (loadNodes load a summaries) _ := ⟨h.ids.symm, h.links.symm⟩
    exact hshape.isCurrentPath (treeOf_isCurrentPath hloaded a)
  · rw [hbuild b, retarget_treeOf hloaded a b, ← loadNodes_withCurrent load a b summaries]

/-- Seven sessions: a root and its child, two that name each other, one below them, one whose
    parent is missing and one that is its own parent. -/
def tangledLoad (id : Bytes) : Option (SessionMetadataView Unit) :=
  if id = ascii "a" then some ⟨[], ()⟩
  else if id = ascii "b" then some ⟨ascii "a", ()⟩
  else if id = ascii "c" then some ⟨ascii "d", ()⟩
  else if id = ascii "d" then some ⟨ascii "c", ()⟩
  else if id = ascii "e" then some ⟨ascii "c", ()⟩
  else if id = ascii "f" then some ⟨ascii "x", ()⟩
  else if id = ascii "g" then some ⟨ascii "g", ()⟩
  else none

def tangledSummaries : List (SessionSummary Unit) :=
  [ascii "e", ascii "d", ascii "c", ascii "b", ascii "a", ascii "g", ascii "f"].map fun id => ⟨id, ()⟩

theorem tangled_sessions_forest :
    ∃ tree, buildSessionTree (.ok tangledSummaries) tangledLoad (ascii "b") = .ok tree ∧
      tree.sessions.map (fun node => (node.summary, node.metadata)) =
        (loadNodes tangledLoad (ascii "b") tangledSummaries).map
          (fun node => (node.summary, node.metadata)) ∧
      IsForest tree ∧
      IsCurrentPath tree.sessions (ascii "b") tree.currentPath ∧
      buildSessionTree (.ok tangledSummaries) tangledLoad (ascii "e") =
        .ok (retargetSessionTree tree (ascii "e")) :=
  buildSessionTree_forest rfl tangledLoad (ascii "b") (ascii "e") (by decide)

end Ava.Session
