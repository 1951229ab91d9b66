import Mathlib.Data.List.Induction
import RenderPlan.Proofs.Graph.LeastOrder

/-! Items that need each other by name, listed in the order that is found for their positions. Whatever
the items are, each of them is listed once and behind what it needs; those that need nothing keep their
order, and nothing is moved where everything stands behind what it needs already. -/
namespace RenderPlan.Graph
variable {α : Type} {xs : List α} {x y : α} {i j : ℕ} {edges : List (ℕ × ℕ)} {order : List ℕ}

/-- Edges that lead from the position of each name an item needs to the position of the item. -/
lemma mem_edges_iff (needs : α → List String) (position? : String → Option ℕ) :
    (i, j) ∈ xs.zipIdx.flatMap (fun x => ((needs x.1).filterMap position?).map (·, x.2)) ↔
      ∃ x, xs[j]? = some x ∧ ∃ name ∈ needs x, position? name = some i := by
  simp only [List.mem_flatMap, List.mem_map, List.mem_filterMap, Prod.exists,
    List.mem_zipIdx_iff_getElem?, Prod.mk.injEq]
  constructor
  · rintro ⟨x, child, hx, parent, ⟨name, hn, hp⟩, rfl, rfl⟩
    exact ⟨x, hx, name, hn, hp⟩
  · rintro ⟨x, hx, name, hn, hp⟩
    exact ⟨x, j, hx, i, ⟨name, hn, hp⟩, rfl, rfl⟩

@[simp]
lemma filterMap_getElem?_range (xs : List α) : (List.range xs.length).filterMap (xs[·]?) = xs := by
  induction xs using List.reverseRecOn with
  | nil => rfl
  | append_singleton xs x ih =>
    have hsame : (List.range xs.length).filterMap ((xs ++ [x])[·]?) =
        (List.range xs.length).filterMap (xs[·]?) := by
      apply List.filterMap_congr
      intro i hi
      exact List.getElem?_append_left (List.mem_range.1 hi)
    rw [List.length_append, List.length_singleton, List.range_succ, List.filterMap_append, hsame, ih]
    simp

lemma perm_of_topologicalOrder (h : topologicalOrder xs.length edges = .ok order) :
    (order.filterMap (xs[·]?)).Perm xs := by
  have hperm := (isTopological_of_ok h).perm.filterMap (xs[·]?)
  rw [filterMap_getElem?_range] at hperm
  exact hperm

lemma sublist_of_topologicalOrder (h : topologicalOrder xs.length edges = .ok order)
    (he : (i, j) ∈ edges) (hx : xs[i]? = some x) (hy : xs[j]? = some y) :
    [x, y].Sublist (order.filterMap (xs[·]?)) := by
  have hmem : (i, j) ∈ inRange xs.length edges := by
    refine List.mem_filter.2 ⟨he, ?_⟩
    simp [(List.getElem?_eq_some_iff.1 hx).1, (List.getElem?_eq_some_iff.1 hy).1]
  have hsub := ((isTopological_of_ok h).before _ hmem).filterMap (xs[·]?)
  simpa [hx, hy] using hsub

/-- Of a listing by positions, the chosen items are listed by their own positions. -/
lemma filter_filterMap_getElem? (p : α → Bool) (positions : List ℕ) :
    (positions.filterMap (xs[·]?)).filter p =
      (positions.filter fun i => xs[i]?.any p).filterMap (xs[·]?) := by
  rw [List.filter_filterMap, List.filterMap_filter]
  apply List.filterMap_congr
  intro i _
  cases xs[i]? with
  | none => rfl
  | some x => cases hp : p x <;> simp [Option.filter, hp]

lemma filter_of_topologicalOrder (h : topologicalOrder xs.length edges = .ok order) {p : α → Bool}
    (hp : ∀ i j x, (i, j) ∈ edges → xs[j]? = some x → p x = false) :
    (order.filterMap (xs[·]?)).filter p = xs.filter p := by
  have horphans : order.filter (fun i => xs[i]?.any p) =
      (List.range xs.length).filter fun i => xs[i]?.any p := by
    refine filter_orphans_of_ok h fun v hv e he hc => ?_
    subst hc
    cases hx : xs[e.2]? with
    | none => simp [hx] at hv
    | some x =>
      have hfalse := hp e.1 e.2 x (List.mem_filter.1 he).1 hx
      simp [hx, hfalse] at hv
  rw [filter_filterMap_getElem?, horphans, ← filter_filterMap_getElem?, filterMap_getElem?_range]

lemma eq_of_topologicalOrder (h : topologicalOrder xs.length edges = .ok order)
    (hup : ∀ i j, (i, j) ∈ edges → i < j) : order.filterMap (xs[·]?) = xs := by
  have hrange := eq_range_of_ok h fun e he => hup e.1 e.2 (List.mem_filter.1 he).1
  rw [hrange, filterMap_getElem?_range]

end RenderPlan.Graph
