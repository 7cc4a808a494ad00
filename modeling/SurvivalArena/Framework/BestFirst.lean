import SurvivalArena.Framework.Numerals

/-!
# Best-first search

A search with a list of open nodes, closed vertices and a parent for each vertex that was
reached.  In whatever order the open nodes are taken, it ends, and it finds a path where
there is one.
-/

namespace BestFirst

open Function

/-- How open nodes are kept, and which of them is taken next. -/
structure OpenList (N : Type) where
  push : N → List N → List N
  pop : List N → Option (N × List N)
  push_perm : ∀ node nodes, (push node nodes).Perm (node :: nodes)
  pop_none : ∀ {nodes}, pop nodes = none → nodes = []
  pop_perm : ∀ {nodes top rest}, pop nodes = some (top, rest) → nodes.Perm (top :: rest)

section Least

variable {N C : Type} [LinearOrder C] (cost : N → C)

/-- Take a node of the least cost out of some. -/
def popLeast : List N → Option (N × List N)
  | [] => none
  | node :: nodes =>
    match popLeast nodes with
    | none => some (node, [])
    | some (best, others) =>
      if cost best < cost node then some (best, node :: others) else some (node, best :: others)

theorem popLeast_none {nodes : List N} (h : popLeast cost nodes = none) : nodes = [] := by
  cases nodes with
  | nil => rfl
  | cons node nodes =>
    simp only [popLeast] at h
    split at h
    next => exact absurd h (by simp)
    next => split at h <;> exact absurd h (by simp)

theorem popLeast_perm {nodes rest : List N} {top : N}
    (h : popLeast cost nodes = some (top, rest)) : nodes.Perm (top :: rest) := by
  induction nodes generalizing top rest with
  | nil => exact absurd h (by simp [popLeast])
  | cons node nodes ih =>
    simp only [popLeast] at h
    split at h
    next hnone =>
      obtain ⟨rfl, rfl⟩ := Prod.mk.inj (Option.some.inj h)
      rw [popLeast_none cost hnone]
    next best others hbest =>
      have hperm := ih hbest
      split at h
      next =>
        obtain ⟨rfl, rfl⟩ := Prod.mk.inj (Option.some.inj h)
        exact (hperm.cons node).trans (List.Perm.swap best node others)
      next =>
        obtain ⟨rfl, rfl⟩ := Prod.mk.inj (Option.some.inj h)
        exact hperm.cons node

/-- The list that gives out a node of the least cost. -/
def leastFirst : OpenList N where
  push node nodes := node :: nodes
  pop := popLeast cost
  push_perm _ _ := List.Perm.refl _
  pop_none := popLeast_none cost
  pop_perm := popLeast_perm cost

end Least

structure WeightedGraph (V C : Type) where
  neighbors : V → List V
  distance : V → V → C

/-- A vertex as it was reached. -/
structure Node (V C : Type) where
  vertex : V
  gCost : C
  hCost : C
  parent : Option V

def Node.fCost {V C : Type} [Add C] (node : Node V C) : C := node.gCost + node.hCost

structure State (V C : Type) where
  openList : List (Node V C)
  closedList : V → Bool
  allNodes : V → Option (Node V C)

variable {V C : Type} [DecidableEq V]

section Search

variable [Add C] [LinearOrder C] (graph : WeightedGraph V C) (queue : OpenList (Node V C))
  (goal : V)

/-- Look at a neighbour of the vertex that is expanded. -/
def relax (current : Node V C) (state : State V C) (neighbor : V) : State V C :=
  if state.closedList neighbor then state
  else
    let gCost := current.gCost + graph.distance current.vertex neighbor
    if (state.allNodes neighbor).all (fun node => gCost < node.gCost) then
      let node := {
        vertex := neighbor
        gCost
        hCost := graph.distance neighbor goal
        parent := some current.vertex }
      { state with
        openList := queue.push node state.openList
        allNodes := update state.allNodes neighbor (some node) }
    else state

/-- The vertices from `current` back along the parents. -/
def trace (allNodes : V → Option (Node V C)) : Nat → V → List V
  | 0, _ => []
  | steps + 1, current =>
    current :: ((allNodes current).bind Node.parent).elim [] (trace allNodes steps)

/-- The path to the goal, or none; no answer where the rounds do not suffice. -/
def search (size : Nat) : Nat → State V C → Option (Option (List V))
  | 0, _ => none
  | rounds + 1, state =>
    match queue.pop state.openList with
    | none => some none
    | some (current, openList) =>
      let state := { state with openList }
      if state.closedList current.vertex then search size rounds state
      else
        let state := { state with closedList := update state.closedList current.vertex true }
        if current.vertex = goal then some (some (trace state.allNodes size goal).reverse)
        else
          search size rounds
            ((graph.neighbors current.vertex).foldl (relax graph queue goal current) state)

def startNode [Zero C] (start : V) : Node V C where
  vertex := start
  gCost := 0
  hCost := graph.distance start goal
  parent := none

def initial [Zero C] (start : V) : State V C where
  openList := queue.push (startNode graph goal start) []
  closedList _ := false
  allNodes := update (fun _ => none) start (some (startNode graph goal start))

end Search

/-! ## Paths along the parents -/

section Traced

variable (graph : WeightedGraph V C) (start : V)

/-- The vertices from one back to the start, all of them closed but perhaps the first. -/
inductive Traced (state : State V C) : List V → V → Prop
  | start {node : Node V C} (hnode : state.allNodes start = some node)
      (hparent : node.parent = none) : Traced state [start] start
  | step {path : List V} {u v : V} {node : Node V C} (hpath : Traced state path u)
      (hclosed : state.closedList u = true) (hneighbor : v ∈ graph.neighbors u)
      (hnode : state.allNodes v = some node) (hparent : node.parent = some u)
      (hnew : v ∉ path) : Traced state (v :: path) v

variable {graph start} {state next : State V C} {path : List V} {v : V}

omit [DecidableEq V] in
theorem Traced.closed (h : Traced graph start state path v) :
    ∀ u ∈ path, u = v ∨ state.closedList u = true := by
  induction h with
  | start => simp
  | step hpath hclosed hneighbor hnode hparent hnew ih =>
    intro w hw
    rcases List.mem_cons.mp hw with rfl | hw
    · exact .inl rfl
    · rcases ih w hw with rfl | hw
      · exact .inr hclosed
      · exact .inr hw

omit [DecidableEq V] in
theorem Traced.mem (h : Traced graph start state path v) : v ∈ path := by
  cases h <;> simp

omit [DecidableEq V] in
/-- What a path needs of the state are the closed vertices and the node of its own. -/
theorem Traced.of_agree (h : Traced graph start state path v)
    (hclosed : ∀ u, state.closedList u = true →
      next.closedList u = true ∧ next.allNodes u = state.allNodes u)
    (hown : next.allNodes v = state.allNodes v) : Traced graph start next path v := by
  induction h with
  | start hnode hparent => exact .start (hown.trans hnode) hparent
  | step hpath hdone hneighbor hnode hparent hnew ih =>
    obtain ⟨hdone', hsame⟩ := hclosed _ hdone
    exact .step (ih hsame) hdone' hneighbor (hown.trans hnode) hparent hnew

omit [DecidableEq V] in
theorem Traced.nodup (h : Traced graph start state path v) : path.Nodup := by
  induction h with
  | start => simp
  | step hpath hclosed hneighbor hnode hparent hnew ih => exact List.nodup_cons.mpr ⟨hnew, ih⟩

omit [DecidableEq V] in
theorem Traced.subset {vertices : Finset V} (hstart : start ∈ vertices)
    (hneighbors : ∀ u ∈ vertices, ∀ w ∈ graph.neighbors u, w ∈ vertices)
    (h : Traced graph start state path v) : ∀ u ∈ path, u ∈ vertices := by
  induction h with
  | start => simpa using hstart
  | @step _ u _ _ hpath hclosed hneighbor hnode hparent hnew ih =>
    intro w hw
    rcases List.mem_cons.mp hw with rfl | hw
    · exact hneighbors u (ih u hpath.mem) _ hneighbor
    · exact ih w hw

omit [DecidableEq V] in
/-- Following the parents gives the path back. -/
theorem Traced.trace (h : Traced graph start state path v) {steps : Nat}
    (hsteps : path.length ≤ steps) : trace state.allNodes steps v = path := by
  induction h generalizing steps with
  | start hnode hparent =>
    obtain ⟨rest, rfl⟩ := Nat.exists_eq_succ_of_ne_zero (Nat.ne_of_gt hsteps)
    simp [BestFirst.trace, hnode, hparent]
  | step hpath hclosed hneighbor hnode hparent hnew ih =>
    obtain ⟨rest, rfl⟩ : ∃ rest, steps = rest + 1 := ⟨steps - 1, by grind⟩
    have hrest := @ih rest (by simpa using hsteps)
    simp [BestFirst.trace, hnode, hparent, hrest]

variable (graph start) in
structure IsPath (goal : V) (path : List V) : Prop where
  head : path.head? = some start
  last : path.getLast? = some goal
  chain : path.IsChain fun u v => v ∈ graph.neighbors u

omit [DecidableEq V] in
theorem Traced.isPath (h : Traced graph start state path v) :
    IsPath graph start v path.reverse := by
  induction h with
  | start => exact ⟨by simp, by simp, by simp⟩
  | step hpath hclosed hneighbor hnode hparent hnew ih =>
    refine ⟨?_, by simp, ?_⟩
    · simp [List.head?_append, ih.head]
    · rw [List.reverse_cons]
      refine List.isChain_append.mpr ⟨ih.chain, by simp, ?_⟩
      intro u hu w hw
      obtain rfl := Option.some.inj (ih.last.symm.trans hu)
      obtain rfl : _ = w := by simpa using hw
      exact hneighbor

end Traced

/-! ## What the search keeps -/

section Sound

variable (graph : WeightedGraph V C) (start : V)

/-- What every part of a step keeps. -/
structure Sound (state : State V C) : Prop where
  pending : ∀ v, (state.allNodes v).isSome →
    state.closedList v = true ∨ ∃ node ∈ state.openList, node.vertex = v
  queued : ∀ node ∈ state.openList, (state.allNodes node.vertex).isSome
  reached : ∀ v, state.closedList v = true → (state.allNodes v).isSome
  traced : ∀ v, (state.allNodes v).isSome → ∃ path, Traced graph start state path v

/-- Between two steps the neighbours of every closed vertex are reached. -/
structure Invariant (goal : V) (state : State V C) : Prop extends Sound graph start state where
  started : (state.allNodes start).isSome
  expanded : ∀ v, state.closedList v = true → ∀ w ∈ graph.neighbors v, (state.allNodes w).isSome
  searching : state.closedList goal = false

variable {graph start} [Add C] [LinearOrder C] {queue : OpenList (Node V C)} {goal : V}
  {current : Node V C} {state : State V C} {neighbor : V}

/-- Nothing changes, or the neighbour is open and gets a node whose parent is the vertex that
is expanded. -/
theorem relax_cases (graph : WeightedGraph V C) (queue : OpenList (Node V C)) (goal : V)
    (current : Node V C) (state : State V C) (neighbor : V) :
    (relax graph queue goal current state neighbor = state ∧
      (state.closedList neighbor = true ∨ (state.allNodes neighbor).isSome)) ∨
    (¬ state.closedList neighbor = true ∧ ∃ node : Node V C, node.vertex = neighbor ∧
      node.parent = some current.vertex ∧
      relax graph queue goal current state neighbor = { state with
        openList := queue.push node state.openList
        allNodes := update state.allNodes neighbor (some node) }) := by
  simp only [relax]
  split_ifs with hclosed hbetter
  · exact .inl ⟨rfl, .inl hclosed⟩
  · exact .inr ⟨hclosed, _, rfl, rfl, rfl⟩
  · refine .inl ⟨rfl, .inr ?_⟩
    cases hnode : state.allNodes neighbor with
    | none => simp [hnode] at hbetter
    | some node => rfl

theorem relax_closedList :
    (relax graph queue goal current state neighbor).closedList = state.closedList := by
  rcases relax_cases graph queue goal current state neighbor with
    ⟨hsame, -⟩ | ⟨-, node, -, -, hnext⟩
  · rw [hsame]
  · rw [hnext]

theorem relax_openList : (relax graph queue goal current state neighbor).openList.length ≤
    state.openList.length + 1 := by
  rcases relax_cases graph queue goal current state neighbor with
    ⟨hsame, -⟩ | ⟨-, node, -, -, hnext⟩
  · rw [hsame]
    omega
  · rw [hnext]
    exact (queue.push_perm _ _).length_eq.le

theorem relax_isSome {v : V} (h : (state.allNodes v).isSome) :
    ((relax graph queue goal current state neighbor).allNodes v).isSome := by
  rcases relax_cases graph queue goal current state neighbor with
    ⟨hsame, -⟩ | ⟨-, node, -, -, hnext⟩
  · rwa [hsame]
  · rw [hnext]
    by_cases hv : v = neighbor
    · simp [hv]
    · simpa [hv] using h

theorem relax_neighbor (hsound : Sound graph start state) :
    ((relax graph queue goal current state neighbor).allNodes neighbor).isSome := by
  rcases relax_cases graph queue goal current state neighbor with
    ⟨hsame, hreached⟩ | ⟨-, node, -, -, hnext⟩
  · rw [hsame]
    rcases hreached with hclosed | hsome
    · exact hsound.reached neighbor hclosed
    · exact hsome
  · simp [hnext]

/-- Looking at a neighbour of a closed vertex. -/
theorem relax_sound (hsound : Sound graph start state)
    (hcurrent : state.closedList current.vertex = true)
    (hneighbor : neighbor ∈ graph.neighbors current.vertex) :
    Sound graph start (relax graph queue goal current state neighbor) := by
  rcases relax_cases graph queue goal current state neighbor with
    ⟨hsame, -⟩ | ⟨hopen, added, hvertex, hparent, hnext⟩
  · rwa [hsame]
  have hpush : ∀ node, node ∈ queue.push added state.openList ↔
      node = added ∨ node ∈ state.openList := by
    intro node
    rw [(queue.push_perm added state.openList).mem_iff, List.mem_cons]
  -- closed vertices keep their nodes, and the paths to them stay
  have hkept : ∀ u, state.closedList u = true → u ≠ neighbor := by
    intro u hclosed hsame
    exact hopen (hsame ▸ hclosed)
  have hagree : ∀ u, state.closedList u = true → state.closedList u = true ∧
      update state.allNodes neighbor (some added) u = state.allNodes u := by
    intro u hclosed
    exact ⟨hclosed, update_of_ne (hkept u hclosed) _ _⟩
  rw [hnext]
  refine ⟨?_, ?_, ?_, ?_⟩
  · intro v hv
    by_cases hsame : v = neighbor
    · exact .inr ⟨added, (hpush added).mpr (.inl rfl), hvertex.trans hsame.symm⟩
    · rcases hsound.pending v (by simpa [hsame] using hv) with hclosed | hqueued
      · exact .inl hclosed
      · obtain ⟨node, hnode, hown⟩ := hqueued
        exact .inr ⟨node, (hpush node).mpr (.inr hnode), hown⟩
  · intro node hnode
    by_cases hsame : node.vertex = neighbor
    · simp [hsame]
    · rcases (hpush node).mp hnode with rfl | hnode
      · exact absurd hvertex hsame
      · simpa [hsame] using hsound.queued node hnode
  · intro v hclosed
    simpa [hkept v hclosed] using hsound.reached v hclosed
  · intro v hv
    by_cases hsame : v = neighbor
    · obtain ⟨path, hpath⟩ := hsound.traced _ (hsound.reached _ hcurrent)
      have hnew : v ∉ path := by
        intro hmem
        rcases hpath.closed v hmem with hown | hclosed
        · exact hkept _ hcurrent (hown.symm.trans hsame)
        · exact hkept v hclosed hsame
      have hpath' : Traced graph start { state with
          openList := queue.push added state.openList
          allNodes := update state.allNodes neighbor (some added) } path current.vertex :=
        hpath.of_agree hagree (hagree _ hcurrent).2
      subst hsame
      exact ⟨v :: path, .step hpath' hcurrent hneighbor (update_self _ _ _) hparent hnew⟩
    · obtain ⟨path, hpath⟩ := hsound.traced v (by simpa [hsame] using hv)
      exact ⟨path, hpath.of_agree hagree (update_of_ne hsame _ _)⟩

/-- Looking at some of the neighbours. -/
theorem foldl_relax (queue : OpenList (Node V C)) (goal : V) {neighbors : List V}
    (hsound : Sound graph start state)
    (hcurrent : state.closedList current.vertex = true)
    (hneighbors : ∀ v ∈ neighbors, v ∈ graph.neighbors current.vertex) :
    Sound graph start (neighbors.foldl (relax graph queue goal current) state) ∧
      (neighbors.foldl (relax graph queue goal current) state).closedList = state.closedList ∧
      (neighbors.foldl (relax graph queue goal current) state).openList.length ≤
        state.openList.length + neighbors.length ∧
      ∀ v, ((state.allNodes v).isSome ∨ v ∈ neighbors) →
        ((neighbors.foldl (relax graph queue goal current) state).allNodes v).isSome := by
  induction neighbors generalizing state with
  | nil => exact ⟨hsound, rfl, by simp, by simp⟩
  | cons neighbor neighbors ih =>
    obtain ⟨hfirst, hrest⟩ := List.forall_mem_cons.mp hneighbors
    have hnext : Sound graph start (relax graph queue goal current state neighbor) :=
      relax_sound hsound hcurrent hfirst
    have hlength : (relax graph queue goal current state neighbor).openList.length ≤
        state.openList.length + 1 := relax_openList
    obtain ⟨hsound', hclosed, hopen, hsome⟩ := ih hnext (by rw [relax_closedList, hcurrent]) hrest
    rw [List.foldl_cons]
    refine ⟨hsound', hclosed.trans relax_closedList, ?_, ?_⟩
    · simp only [List.length_cons]
      omega
    · intro v hv
      refine hsome v ?_
      rcases hv with hv | hv
      · exact .inl (relax_isSome hv)
      · rcases List.mem_cons.mp hv with rfl | hv
        · exact .inl (relax_neighbor hsound)
        · exact .inr hv

omit [DecidableEq V] [Add C] [LinearOrder C] in
/-- The queue without a node whose vertex is closed. -/
theorem Sound.pop {nodes : List (Node V C)} {closedList : V → Bool}
    (hsound : Sound graph start state) (hperm : state.openList.Perm (current :: nodes))
    (hclosed : ∀ v, closedList v = true ↔ v = current.vertex ∨ state.closedList v = true) :
    Sound graph start { state with openList := nodes, closedList } := by
  have hmem : ∀ node, node ∈ state.openList ↔ node = current ∨ node ∈ nodes := by
    intro node
    rw [hperm.mem_iff, List.mem_cons]
  refine ⟨?_, ?_, ?_, ?_⟩
  · intro v hv
    rcases hsound.pending v hv with hdone | ⟨node, hnode, hown⟩
    · exact .inl ((hclosed v).mpr (.inr hdone))
    · rcases (hmem node).mp hnode with rfl | hnode
      · exact .inl ((hclosed v).mpr (.inl hown.symm))
      · exact .inr ⟨node, hnode, hown⟩
  · intro node hnode
    exact hsound.queued node ((hmem node).mpr (.inr hnode))
  · intro v hv
    rcases (hclosed v).mp hv with rfl | hdone
    · exact hsound.queued current ((hmem current).mpr (.inl rfl))
    · exact hsound.reached v hdone
  · intro v hv
    obtain ⟨path, hpath⟩ := hsound.traced v hv
    exact ⟨path, hpath.of_agree (fun u hu => ⟨(hclosed u).mpr (.inr hu), rfl⟩) rfl⟩

/-! ## The search ends -/

/-- The open nodes and those that closing the open vertices may still add. -/
def remaining (graph : WeightedGraph V C) (vertices : Finset V) (state : State V C) : Nat :=
  state.openList.length +
    ∑ v ∈ vertices, if state.closedList v then 0 else (graph.neighbors v).length

omit [Add C] [LinearOrder C] in
theorem sum_close {vertices : Finset V} (closedList : V → Bool) {v : V} (hmem : v ∈ vertices)
    (hopen : ¬ closedList v = true) (degree : V → Nat) :
    (∑ u ∈ vertices, if update closedList v true u then 0 else degree u) + degree v =
      ∑ u ∈ vertices, if closedList u then 0 else degree u := by
  have hupdate : (fun u => if update closedList v true u then 0 else degree u) =
      update (fun u => if closedList u then 0 else degree u) v 0 := by
    funext u
    by_cases hu : u = v
    · simp [hu]
    · simp [hu]
  rw [hupdate, Finset.sum_update_of_mem hmem, ← Finset.sum_erase_add vertices _ hmem,
    Finset.sdiff_singleton_eq_erase]
  simp [hopen]

/-- There is a path from the start to the vertex. -/
def Reachable (graph : WeightedGraph V C) (start goal : V) : Prop :=
  Relation.ReflTransGen (fun v w => w ∈ graph.neighbors v) start goal

omit [DecidableEq V] [Add C] [LinearOrder C] in
/-- Without open nodes everything that can be reached is closed. -/
theorem Invariant.closed_of_reachable (hinv : Invariant graph start goal state)
    (hempty : state.openList = []) {v : V} (hreach : Reachable graph start v) :
    state.closedList v = true := by
  have hclosed : ∀ {u}, (state.allNodes u).isSome → state.closedList u = true := by
    intro u hu
    rcases hinv.pending u hu with hdone | ⟨node, hnode, -⟩
    · exact hdone
    · rw [hempty] at hnode
      exact absurd hnode List.not_mem_nil
  induction hreach with
  | refl => exact hclosed hinv.started
  | tail hreach hneighbor ih => exact hclosed (hinv.expanded _ ih _ hneighbor)

variable {nodes : List (Node V C)}

omit [DecidableEq V] [LinearOrder C] [Add C] in
/-- Dropping a node whose vertex was closed before. -/
theorem Invariant.skip (hinv : Invariant graph start goal state)
    (hperm : state.openList.Perm (current :: nodes))
    (hclosed : state.closedList current.vertex = true) :
    Invariant graph start goal { state with openList := nodes } := by
  have hsame : ∀ v, state.closedList v = true ↔
      v = current.vertex ∨ state.closedList v = true := by
    intro v
    constructor
    · exact .inr
    · intro hv
      rcases hv with rfl | hv
      · exact hclosed
      · exact hv
  exact ⟨hinv.toSound.pop hperm hsame, hinv.started, hinv.expanded, hinv.searching⟩

/-- The state in which the vertex of a node was closed. -/
def close (current : Node V C) (nodes : List (Node V C)) (state : State V C) : State V C :=
  { state with
    openList := nodes
    closedList := update state.closedList current.vertex true }

omit [LinearOrder C] [Add C] in
theorem Invariant.close (hinv : Invariant graph start goal state)
    (hperm : state.openList.Perm (current :: nodes)) :
    Sound graph start (close current nodes state) := by
  refine hinv.toSound.pop hperm ?_
  intro v
  by_cases hown : v = current.vertex
  · simp [hown]
  · simp [hown]

/-- Closing a vertex other than the goal and looking at its neighbours. -/
theorem Invariant.expand (queue : OpenList (Node V C)) {vertices : Finset V}
    (hinv : Invariant graph start goal state) (hperm : state.openList.Perm (current :: nodes))
    (hmem : current.vertex ∈ vertices) (hopen : ¬ state.closedList current.vertex = true)
    (hgoal : current.vertex ≠ goal) {next : State V C}
    (hnext : next = (graph.neighbors current.vertex).foldl (relax graph queue goal current)
      (BestFirst.close current nodes state)) :
    Invariant graph start goal next ∧
      remaining graph vertices next < remaining graph vertices state := by
  obtain ⟨hsound, hclosed, hlength, hsome⟩ := foldl_relax queue goal
    (hinv.close hperm) (update_self _ _ _) (fun v hv => hv)
  rw [← hnext] at hsound hclosed hlength hsome
  refine ⟨⟨hsound, hsome _ (.inl hinv.started), ?_, ?_⟩, ?_⟩
  · intro v hv w hw
    by_cases hown : v = current.vertex
    · exact hsome w (.inr (hown ▸ hw))
    · have hdone : state.closedList v = true := by
        simpa [hclosed, BestFirst.close, hown] using hv
      exact hsome w (.inl (hinv.expanded v hdone w hw))
  · simpa [hclosed, BestFirst.close, hgoal.symm] using hinv.searching
  · have hsum := sum_close state.closedList hmem hopen fun v => (graph.neighbors v).length
    have hpopped := hperm.length_eq
    simp only [remaining, hclosed, List.length_cons, BestFirst.close] at hlength hpopped ⊢
    omega

/-- With enough rounds there is an answer: a path to the goal, or none where there is no
path. -/
theorem search_spec {vertices : Finset V} (hstart : start ∈ vertices)
    (hneighbors : ∀ u ∈ vertices, ∀ w ∈ graph.neighbors u, w ∈ vertices) {size : Nat}
    (hsize : vertices.card ≤ size) {rounds : Nat} (hinv : Invariant graph start goal state)
    (hrounds : remaining graph vertices state < rounds) :
    (search graph queue goal size rounds state = some none ∧ ¬ Reachable graph start goal) ∨
      ∃ path, search graph queue goal size rounds state = some (some path) ∧
        IsPath graph start goal path ∧ ∀ v ∈ path, v ∈ vertices := by
  induction rounds generalizing state with
  | zero => omega
  | succ rounds ih =>
    cases hpop : queue.pop state.openList with
    | none =>
      refine .inl ⟨by simp only [search, hpop], ?_⟩
      intro hreach
      have hclosed := hinv.closed_of_reachable (queue.pop_none hpop) hreach
      rw [hinv.searching] at hclosed
      exact Bool.false_ne_true hclosed
    | some popped =>
      obtain ⟨current, nodes⟩ := popped
      have hperm := queue.pop_perm hpop
      by_cases hclosed : state.closedList current.vertex = true
      · have hstep : search graph queue goal size (rounds + 1) state =
            search graph queue goal size rounds { state with openList := nodes } := by
          simp only [search, hpop, if_pos hclosed]
        have hpopped := hperm.length_eq
        rw [hstep]
        refine ih (hinv.skip hperm hclosed) ?_
        simp only [remaining, List.length_cons] at hrounds hpopped ⊢
        omega
      have hsound := hinv.close hperm
      obtain ⟨path, hpath⟩ := hsound.traced current.vertex (hsound.reached _ (update_self _ _ _))
      have hvertices := hpath.subset hstart hneighbors
      by_cases hgoal : current.vertex = goal
      · have hstep : search graph queue goal size (rounds + 1) state =
            some (some (trace state.allNodes size goal).reverse) := by
          simp only [search, hpop, if_neg hclosed, if_pos hgoal]
        have hcard := Finset.card_le_card
          (fun v hv => hvertices v (List.mem_toFinset.mp hv) : path.toFinset ⊆ vertices)
        rw [List.toFinset_card_of_nodup hpath.nodup] at hcard
        have htrace := hpath.trace (hcard.trans hsize)
        rw [hgoal] at hpath htrace
        refine .inr ⟨path.reverse, ?_, hpath.isPath, ?_⟩
        · rw [hstep]
          exact congrArg (fun path => some (some path.reverse)) htrace
        · intro v hv
          exact hvertices v (List.mem_reverse.mp hv)
      · have hstep : search graph queue goal size (rounds + 1) state =
            search graph queue goal size rounds
              ((graph.neighbors current.vertex).foldl (relax graph queue goal current)
                (close current nodes state)) := by
          simp only [search, hpop, if_neg hclosed, if_neg hgoal, close]
        have hmem := hvertices current.vertex hpath.mem
        obtain ⟨hinv', hless⟩ := hinv.expand queue hperm hmem hclosed hgoal rfl
        rw [hstep]
        exact ih hinv' (by omega)

/-! ## From the start -/

section Initial

variable [Zero C]

omit [Add C] [LinearOrder C] in
theorem mem_initial {node : Node V C} :
    node ∈ (initial graph queue goal start).openList ↔ node = startNode graph goal start := by
  rw [initial, (queue.push_perm _ _).mem_iff, List.mem_singleton]

omit [Add C] [LinearOrder C] in
theorem initial_isSome {v : V} :
    ((initial graph queue goal start).allNodes v).isSome ↔ v = start := by
  by_cases hv : v = start
  · simp [initial, hv]
  · simp [initial, hv]

omit [Add C] [LinearOrder C] in
theorem initial_invariant : Invariant graph start goal (initial graph queue goal start) := by
  refine ⟨⟨?_, ?_, ?_, ?_⟩, initial_isSome.mpr rfl, ?_, rfl⟩
  · intro v hv
    exact .inr ⟨_, mem_initial.mpr rfl, (initial_isSome.mp hv).symm⟩
  · intro node hnode
    rw [mem_initial.mp hnode]
    exact initial_isSome.mpr rfl
  · intro v hv
    exact absurd hv Bool.false_ne_true
  · intro v hv
    rw [initial_isSome.mp hv]
    have hnode : (initial graph queue goal start).allNodes start =
        some (startNode graph goal start) := by
      simp [initial]
    exact ⟨[start], .start hnode rfl⟩
  · intro v hv
    exact absurd hv Bool.false_ne_true

/-- The search from a start ends within a round for each edge and two more. -/
theorem search_initial {vertices : Finset V} (hstart : start ∈ vertices)
    (hneighbors : ∀ u ∈ vertices, ∀ w ∈ graph.neighbors u, w ∈ vertices) {size : Nat}
    (hsize : vertices.card ≤ size) {rounds : Nat}
    (hrounds : ∑ v ∈ vertices, (graph.neighbors v).length + 2 ≤ rounds) :
    (search graph queue goal size rounds (initial graph queue goal start) = some none ∧
        ¬ Reachable graph start goal) ∨
      ∃ path, search graph queue goal size rounds (initial graph queue goal start) =
          some (some path) ∧
        IsPath graph start goal path ∧ ∀ v ∈ path, v ∈ vertices := by
  refine search_spec hstart hneighbors hsize initial_invariant ?_
  have hlength := (queue.push_perm (startNode graph goal start) []).length_eq
  simp only [remaining, initial, hlength, List.length_singleton, Bool.false_eq_true, if_false]
  omega

end Initial

end Sound

end BestFirst
