/-! Topological order of the nodes `0, …, n - 1`. Nodes without open predecessors are taken one at
a time, the least first; every node counts the edges that still keep it back. -/
namespace RenderPlan.Graph

/-- The edges between existing nodes, each from a parent to a child. -/
def inRange (n : Nat) (edges : List (Nat × Nat)) : List (Nat × Nat) :=
  edges.filter fun e => e.1 < n && e.2 < n

def children (edges : List (Nat × Nat)) (parent : Nat) : List Nat :=
  (edges.filter fun e => e.1 == parent).map Prod.snd

def insertAscending (v : Nat) : List Nat → List Nat
  | [] => [v]
  | w :: ws => if v ≤ w then v :: w :: ws else w :: insertAscending v ws

/-- Sorting under way. `blocked` counts, for each node, the incoming edges whose parent is not
taken yet; `ready` lists the nodes without any, in ascending order; `taken` is in reverse. -/
structure Sorting where
  blocked : List Nat
  ready : List Nat
  taken : List Nat

namespace Sorting

def start (n : Nat) (edges : List (Nat × Nat)) : Sorting :=
  let blocked := (List.range n).map fun v => edges.countP fun e => e.2 == v
  { blocked
    ready := (List.range n).filter fun v => edges.all fun e => e.2 != v
    taken := [] }

/-- Drops one edge into `child`, which becomes ready with the last one. -/
def unblock (s : Sorting) (child : Nat) : Sorting :=
  match s.blocked[child]? with
  | some (k + 1) =>
    { s with
      blocked := s.blocked.set child k
      ready := if k = 0 then insertAscending child s.ready else s.ready }
  | _ => s

/-- Takes the least ready node and drops its outgoing edges. -/
def step (edges : List (Nat × Nat)) (s : Sorting) : Sorting :=
  match s.ready with
  | [] => s
  | v :: ready => (children edges v).foldl unblock { s with ready, taken := v :: s.taken }

/-- Every round takes at most one node. -/
def run (edges : List (Nat × Nat)) : (rounds : Nat) → Sorting → Sorting
  | 0, s => s
  | rounds + 1, s => run edges rounds (s.step edges)

end Sorting

/-- The nodes in an order that puts parents before children, the least available node always
first. Edges that leave the range of nodes are ignored. On failure, the ascending list of the nodes
that stay blocked. -/
def topologicalOrder (n : Nat) (edges : List (Nat × Nat)) : Except (List Nat) (List Nat) :=
  let edges := inRange n edges
  let s := (Sorting.start n edges).run edges n
  if s.taken.length = n then .ok s.taken.reverse
  else .error ((List.range n).filter fun v => s.blocked[v]?.getD 0 ≠ 0)

example : topologicalOrder 4 [(3, 0), (2, 1), (1, 0), (7, 2)] = .ok [2, 1, 3, 0] := rfl
example : topologicalOrder 4 [(1, 2), (2, 1), (2, 3)] = .error [1, 2, 3] := rfl

end RenderPlan.Graph
