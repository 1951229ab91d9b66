import Mathlib.Data.List.Lex
import RenderPlan.Proofs.Graph.Cycles

/-! Of all topological orders, sorting finds the least one in the order of a dictionary. The ready
nodes are exactly those that may come next, so where another order first differs, it has a node that
was ready too, and sorting took a lesser one. -/
namespace RenderPlan.Graph
variable {n u v : ℕ} {edges edges' : List (ℕ × ℕ)} {done taken order order' other : List ℕ}

/-- The nodes that may come next: their parents are done and they are not. -/
structure Available (n : ℕ) (edges : List (ℕ × ℕ)) (done : List ℕ) (v : ℕ) : Prop where
  lt : v < n
  not_done : v ∉ done
  parents : ∀ e ∈ edges, e.2 = v → e.1 ∈ done

/-- Each node was the least available one when it was taken; the latest one comes first. -/
def Greedy (n : ℕ) (edges : List (ℕ × ℕ)) : List ℕ → Prop
  | [] => True
  | v :: older => (∀ u, Available n edges older u → v ≤ u) ∧ Greedy n edges older

/-- The topological order that precedes all others in the order of a dictionary. -/
structure IsLeastTopological (n : ℕ) (edges : List (ℕ × ℕ)) (order : List ℕ) : Prop where
  topological : IsTopological n edges order
  least : ∀ other, IsTopological n edges other → order = other ∨ List.Lex (· < ·) order other

lemma IsLeastTopological.unique (h : IsLeastTopological n edges order)
    (h' : IsLeastTopological n edges order') : order = order' := by
  cases h.least order' h'.topological with
  | inl he => exact he
  | inr hlt =>
    cases h'.least order h.topological with
    | inl he => exact he.symm
    | inr hgt => exact absurd hgt (Std.Asymm.asymm _ _ hlt)

/-- Only the set of edges counts. -/
lemma IsTopological.congr (h : IsTopological n edges order)
    (he : ∀ e, e ∈ inRange n edges' ↔ e ∈ inRange n edges) : IsTopological n edges' order :=
  ⟨h.perm, fun e hmem => h.before e ((he e).1 hmem)⟩

lemma IsLeastTopological.congr (h : IsLeastTopological n edges order)
    (he : ∀ e, e ∈ inRange n edges' ↔ e ∈ inRange n edges) : IsLeastTopological n edges' order :=
  ⟨h.topological.congr he, fun other ho => h.least other (ho.congr fun e => (he e).symm)⟩

/-- Of two items that come in this order, the first one is in front of where the second one stands. -/
lemma mem_of_pair_sublist {α : Type} {x y : α} {front rest : List α}
    (h : [x, y].Sublist (front ++ y :: rest)) (hy : y ∉ rest) : x ∈ front := by
  rw [List.sublist_append_iff] at h
  obtain ⟨first, second, hsplit, hfirst, hsecond⟩ := h
  cases first with
  | cons w first =>
    simp only [List.cons_append, List.cons.injEq] at hsplit
    rw [hsplit.1]
    exact hfirst.subset List.mem_cons_self
  | nil =>
    -- both would stand from there on, so `y` would come again
    rw [List.nil_append] at hsplit
    subst hsplit
    apply absurd _ hy
    cases hsecond with
    | cons _ hs => exact hs.subset (by simp)
    | cons_cons _ hs => exact hs.subset (by simp)

namespace IsTopological

lemma nodup (h : IsTopological n edges order) : order.Nodup := h.perm.nodup_iff.2 List.nodup_range

lemma length_eq (h : IsTopological n edges order) : order.length = n := by
  simpa using h.perm.length_eq

/-- Every node is available when its turn comes. -/
lemma available {rest : List ℕ} (h : IsTopological n edges (done.reverse ++ v :: rest)) :
    Available n (inRange n edges) done v := by
  have hd := h.nodup
  rw [List.nodup_append] at hd
  obtain ⟨-, htail, hdisjoint⟩ := hd
  refine ⟨?_, ?_, fun e he hv => ?_⟩
  · apply List.mem_range.1
    apply h.perm.subset
    simp
  · intro hv
    exact hdisjoint v (List.mem_reverse.2 hv) v List.mem_cons_self rfl
  · have hs := h.before e he
    rw [hv] at hs
    exact List.mem_reverse.1 (mem_of_pair_sublist hs (List.nodup_cons.1 htail).1)

end IsTopological

lemma Sorting.Consistent.mem_ready_iff {s : Sorting} (h : Consistent n edges [] s) :
    v ∈ s.ready ↔ Available n edges s.taken v := by
  rw [h.ready_iff]
  constructor
  · intro hv
    have hn := h.lt_of_blocked hv.2
    refine ⟨hn, hv.1, openEdges_eq_zero_iff.1 ?_⟩
    simpa [h.blocked, hn] using hv.2
  · intro hv
    refine ⟨hv.not_done, ?_⟩
    simp [h.blocked, hv.lt, openEdges_eq_zero_iff.2 hv.parents]

lemma Sorting.Underway.greedy {s : Sorting} {pending : List ℕ} (h : Underway n edges pending s)
    (hin : ∀ e ∈ edges, e.1 < n ∧ e.2 < n) : Greedy n edges s.taken := by
  induction h with
  | start => trivial
  | unblock _ ih => simpa using ih
  | @take s v ready hs hr ih =>
    refine ⟨fun u hu => ?_, ih⟩
    have hc := (hs.consistent hin).1
    have hmem := hc.mem_ready_iff.2 hu
    have hasc := hc.ascending
    rw [hr] at hmem hasc
    cases List.mem_cons.1 hmem with
    | inl he => exact he.ge
    | inr hmem => exact (List.rel_of_pairwise_cons hasc hmem).le

/-- As long as the nodes taken are a front of the other order, both choose from the same nodes. -/
lemma Greedy.isPrefix_or_lex (h : Greedy n (inRange n edges) taken) (hlen : taken.length ≤ n)
    (ho : IsTopological n edges other) :
    taken.reverse <+: other ∨ ∀ rest, List.Lex (· < ·) (taken.reverse ++ rest) other := by
  induction taken with
  | nil => exact .inl List.nil_prefix
  | cons v older ih =>
    obtain ⟨hleast, holder⟩ := h
    simp only [List.reverse_cons, List.append_assoc, List.singleton_append]
    simp only [List.length_cons] at hlen
    cases ih holder (by omega) with
    | inr hlex => exact .inr fun rest => hlex (v :: rest)
    | inl hp =>
      obtain ⟨tail, rfl⟩ := hp
      cases tail with
      | nil =>
        have hall := ho.length_eq
        simp only [List.append_nil, List.length_reverse] at hall
        omega
      | cons u tail =>
        have hle := hleast u ho.available
        by_cases he : v = u
        · subst he
          exact .inl ⟨tail, by simp⟩
        · right
          intro rest
          apply List.Lex.append_left
          exact .rel (by omega)

lemma Greedy.isLeastTopological (h : Greedy n (inRange n edges) order.reverse)
    (ho : IsTopological n edges order) : IsLeastTopological n edges order := by
  refine ⟨ho, fun other hother => ?_⟩
  have hlen : order.reverse.length ≤ n := by simp [ho.length_eq]
  have hcases := h.isPrefix_or_lex hlen hother
  rw [List.reverse_reverse] at hcases
  cases hcases with
  | inl hp => exact .inl (hp.eq_of_length (ho.length_eq.trans hother.length_eq.symm))
  | inr hlex => exact .inr (by simpa using hlex [])

lemma isLeastTopological_of_ok (h : topologicalOrder n edges = .ok order) :
    IsLeastTopological n edges order := by
  have hgreedy := (Sorting.underway_final n edges).greedy lt_of_mem_inRange
  apply Greedy.isLeastTopological _ (isTopological_of_ok h)
  obtain ⟨-, rfl⟩ := topologicalOrder_eq_ok_iff.1 h
  rw [List.reverse_reverse]
  exact hgreedy

lemma exists_topologicalOrder_congr (he : ∀ e, e ∈ inRange n edges' ↔ e ∈ inRange n edges)
    (h : ∃ order, topologicalOrder n edges = .ok order) :
    ∃ order, topologicalOrder n edges' = .ok order := by
  rw [exists_topologicalOrder_iff] at h ⊢
  have hparent : Parent (inRange n edges') = Parent (inRange n edges) := by
    funext u v
    exact propext (he (u, v))
  intro v
  rw [OnCycle, hparent]
  exact h v

/-- A node without parents is available from the start, so all nodes that are taken before it are less. -/
lemma Greedy.lt_of_orphan (h : Greedy n edges taken) (hv : v < n) (horphan : ∀ e ∈ edges, e.2 ≠ v)
    (hnew : v ∉ taken) : ∀ u ∈ taken, u < v := by
  induction taken with
  | nil => simp
  | cons w older ih =>
    obtain ⟨hleast, holder⟩ := h
    rw [List.mem_cons, not_or] at hnew
    have hle : w ≤ v := hleast v ⟨hv, hnew.2, fun e he hc => absurd hc (horphan e he)⟩
    exact List.forall_mem_cons.2 ⟨Nat.lt_of_le_of_ne hle (Ne.symm hnew.1), ih holder hnew.2⟩

lemma Greedy.pairwise_orphans (h : Greedy n edges taken) (hd : taken.Nodup) (hlt : ∀ v ∈ taken, v < n) :
    taken.Pairwise fun v u => (∀ e ∈ edges, e.2 ≠ v) → u < v := by
  induction taken with
  | nil => exact .nil
  | cons w older ih =>
    obtain ⟨hw, hd⟩ := List.nodup_cons.1 hd
    obtain ⟨hwn, hlt⟩ := List.forall_mem_cons.1 hlt
    refine List.pairwise_cons.2 ⟨fun u hu horphan => ?_, ih h.2 hd hlt⟩
    exact h.2.lt_of_orphan hwn horphan hw u hu

/-- Nodes without parents keep their order among themselves. -/
lemma filter_orphans_of_ok (h : topologicalOrder n edges = .ok order) {p : ℕ → Bool}
    (hp : ∀ v, p v = true → ∀ e ∈ inRange n edges, e.2 ≠ v) :
    order.filter p = (List.range n).filter p := by
  have ho := isTopological_of_ok h
  have hascending : (order.filter p).Pairwise (· < ·) := by
    have hgreedy := (Sorting.underway_final n edges).greedy lt_of_mem_inRange
    obtain ⟨-, rfl⟩ := topologicalOrder_eq_ok_iff.1 h
    have hlt : ∀ v ∈ (Sorting.final n edges).taken, v < n := fun v hv =>
      List.mem_range.1 (ho.perm.subset (List.mem_reverse.2 hv))
    have hall := hgreedy.pairwise_orphans (List.nodup_reverse.1 ho.nodup) hlt
    rw [List.pairwise_filter, List.pairwise_reverse]
    exact hall.imp fun hvu _ hv => hvu (hp _ hv)
  exact (ho.perm.filter p).eq_of_pairwise (fun u v _ _ huv hvu => absurd huv (Nat.lt_asymm hvu))
    hascending (List.pairwise_lt_range.filter p)

/-- After the first `k` numbers no lesser one than `k` is left. -/
lemma greedy_range (edges : List (ℕ × ℕ)) (k : ℕ) : Greedy n edges (List.range k).reverse := by
  induction k with
  | zero => trivial
  | succ k ih =>
    rw [List.range_succ, List.reverse_append]
    refine ⟨fun u hu => ?_, ih⟩
    simpa using hu.not_done

lemma isTopological_range (h : ∀ e ∈ inRange n edges, e.1 < e.2) :
    IsTopological n edges (List.range n) := by
  refine ⟨.refl _, fun e he => ?_⟩
  obtain ⟨hp, hc⟩ := lt_of_mem_inRange e he
  have hlt := h e he
  have hsub : [e.1, e.2].Subperm (List.range n) := by
    apply List.subperm_of_subset
    · simp [hlt.ne]
    · simp [hp, hc]
  exact List.sublist_of_subperm_of_pairwise hsub (by simpa using hlt) List.pairwise_lt_range

/-- Where every edge goes upwards, the numbers stay in their order. -/
lemma eq_range_of_ok (h : topologicalOrder n edges = .ok order)
    (hup : ∀ e ∈ inRange n edges, e.1 < e.2) : order = List.range n :=
  (isLeastTopological_of_ok h).unique
    ((greedy_range _ n).isLeastTopological (isTopological_range hup))

/-- The order that is found comes before all other topological orders, so it depends on nothing but
which edges there are, and it is the order of the numbers where every edge goes upwards. -/
theorem topologicalOrder_least (h : topologicalOrder n edges = .ok order) :
    IsLeastTopological n edges order ∧
    (∀ edges', (∀ e, e ∈ inRange n edges' ↔ e ∈ inRange n edges) →
      topologicalOrder n edges' = .ok order) ∧
    ((∀ e ∈ inRange n edges, e.1 < e.2) → order = List.range n) := by
  have hleast := isLeastTopological_of_ok h
  refine ⟨hleast, fun edges' he => ?_, fun hup => ?_⟩
  · obtain ⟨order', h'⟩ := exists_topologicalOrder_congr he ⟨order, h⟩
    rw [h', hleast.unique ((isLeastTopological_of_ok h').congr fun e => (he e).symm)]
  · exact hleast.unique ((greedy_range _ n).isLeastTopological (isTopological_range hup))

/-- Node 2 waits for nobody but comes before 1, which 0 waits for; one edge is listed twice and one
leaves the range. -/
theorem topologicalOrder_least_waiting :
    topologicalOrder 4 [(3, 0), (2, 1), (1, 0), (7, 2), (2, 1)] = .ok [2, 1, 3, 0] ∧
    IsLeastTopological 4 [(3, 0), (2, 1), (1, 0), (7, 2), (2, 1)] [2, 1, 3, 0] ∧
    topologicalOrder 4 [(1, 0), (2, 1), (3, 0)] = .ok [2, 1, 3, 0] := by
  have h : topologicalOrder 4 [(3, 0), (2, 1), (1, 0), (7, 2), (2, 1)] = .ok [2, 1, 3, 0] := rfl
  obtain ⟨hleast, hset, -⟩ := topologicalOrder_least h
  refine ⟨h, hleast, hset _ fun e => ?_⟩
  change e ∈ [(1, 0), (2, 1), (3, 0)] ↔ e ∈ [(3, 0), (2, 1), (1, 0), (2, 1)]
  simp only [List.mem_cons, List.not_mem_nil, or_false]
  tauto

end RenderPlan.Graph
