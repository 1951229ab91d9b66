import Mathlib.Data.List.Perm.Subperm
import Mathlib.Data.List.Sort
import RenderPlan.Graph.TopologicalOrder

/-! Sorting takes every node behind its parents, or ends with nodes that keep each other back. The
counts of blocking edges are those of the edges from nodes not taken yet, also while the edges out of
the latest node are being dropped. -/
namespace RenderPlan.Graph
variable {n u v : ℕ} {edges : List (ℕ × ℕ)} {taken order left : List ℕ}

lemma insertAscending_eq (v : ℕ) (l : List ℕ) :
    insertAscending v l = l.orderedInsert (· ≤ ·) v := by
  induction l with
  | nil => rfl
  | cons w l ih => simp only [insertAscending, List.orderedInsert, ih]

@[simp] lemma mem_insertAscending {l : List ℕ} : u ∈ insertAscending v l ↔ u = v ∨ u ∈ l := by
  rw [insertAscending_eq, List.mem_orderedInsert]

lemma pairwise_insertAscending {l : List ℕ} (h : l.Pairwise (· < ·)) (hv : v ∉ l) :
    (insertAscending v l).Pairwise (· < ·) := by
  induction l with
  | nil => simp [insertAscending]
  | cons w l ih =>
    obtain ⟨hw, hl⟩ := List.pairwise_cons.1 h
    rw [List.mem_cons, not_or] at hv
    rw [insertAscending]
    split
    · next hle =>
      have hlt : v < w := Nat.lt_of_le_of_ne hle hv.1
      refine List.pairwise_cons.2 ⟨fun u hu => ?_, h⟩
      rcases List.mem_cons.1 hu with rfl | hu
      · exact hlt
      · exact Nat.lt_trans hlt (hw u hu)
    · next hle =>
      refine List.pairwise_cons.2 ⟨fun u hu => ?_, ih hl hv.2⟩
      rcases mem_insertAscending.1 hu with rfl | hu
      · exact Nat.lt_of_not_le hle
      · exact hw u hu

/-- The number of edges into `v` from nodes that are not taken. -/
def openEdges (edges : List (ℕ × ℕ)) (taken : List ℕ) (v : ℕ) : ℕ :=
  edges.countP fun e => e.2 = v ∧ e.1 ∉ taken

@[simp]
lemma openEdges_eq_zero_iff : openEdges edges taken v = 0 ↔ ∀ e ∈ edges, e.2 = v → e.1 ∈ taken := by
  simp [openEdges, List.countP_eq_zero]

@[simp] lemma openEdges_cons (e : ℕ × ℕ) : openEdges (e :: edges) taken v =
    openEdges edges taken v + if e.2 = v ∧ e.1 ∉ taken then 1 else 0 := by
  simp only [openEdges, List.countP_cons, decide_eq_true_eq]

@[simp] lemma count_children_cons (e : ℕ × ℕ) : (children (e :: edges) v).count u =
    (children edges v).count u + if e.1 = v ∧ e.2 = u then 1 else 0 := by
  by_cases hp : e.1 = v
  · simp [children, hp, List.count_cons]
  · simp [children, hp]

/-- Taking a node opens the way along its edges. -/
lemma openEdges_eq_add (hv : v ∉ taken) (u : ℕ) :
    openEdges edges taken u = openEdges edges (v :: taken) u + (children edges v).count u := by
  induction edges with
  | nil => rfl
  | cons e edges ih =>
    have hsplit : (if e.2 = u ∧ e.1 ∉ taken then 1 else 0) =
        (if e.2 = u ∧ e.1 ∉ v :: taken then 1 else 0) + if e.1 = v ∧ e.2 = u then 1 else 0 := by
      by_cases hp : e.1 = v
      · simp [hp, hv]
      · simp [hp]
    rw [openEdges_cons, openEdges_cons, count_children_cons, ih, hsplit]
    omega

/-- Each node stands in front of all its parents; the latest one comes first. -/
def Ordered (edges : List (ℕ × ℕ)) : List ℕ → Prop
  | [] => True
  | v :: older => (∀ e ∈ edges, e.2 = v → e.1 ∈ older) ∧ Ordered edges older

lemma Ordered.sublist_reverse (h : Ordered edges taken) {e : ℕ × ℕ} (he : e ∈ edges)
    (hc : e.2 ∈ taken) : [e.1, e.2].Sublist taken.reverse := by
  induction taken with
  | nil => cases hc
  | cons v older ih =>
    obtain ⟨hparents, hrest⟩ := h
    rw [List.reverse_cons]
    rcases List.mem_cons.1 hc with hv | hc
    · have hp : e.1 ∈ older.reverse := List.mem_reverse.2 (hparents e he hv)
      rw [hv]
      exact (List.singleton_sublist.2 hp).append (List.Sublist.refl [v])
    · exact (ih hrest hc).trans (List.sublist_append_left _ _)

lemma lt_of_mem_inRange : ∀ e ∈ inRange n edges, e.1 < n ∧ e.2 < n := by
  intro e he
  simpa using (List.mem_filter.1 he).2

namespace Sorting
variable {s : Sorting} {child : ℕ} {pending : List ℕ}

/-- The state between two takings, while one edge into each node of `pending` is still to be
dropped. -/
structure Consistent (n : ℕ) (edges : List (ℕ × ℕ)) (pending : List ℕ) (s : Sorting) : Prop where
  blocked : ∀ v, s.blocked[v]? =
    if v < n then some (openEdges edges s.taken v + pending.count v) else none
  ready_iff : ∀ v, v ∈ s.ready ↔ v ∉ s.taken ∧ s.blocked[v]? = some 0
  ascending : s.ready.Pairwise (· < ·)
  settled : ∀ v ∈ s.taken, s.blocked[v]? = some 0
  distinct : s.taken.Nodup
  ordered : Ordered edges s.taken

namespace Consistent

lemma lt_of_blocked (h : Consistent n edges pending s) {k : ℕ} (hk : s.blocked[v]? = some k) :
    v < n := by
  by_contra hv
  rw [h.blocked, if_neg hv] at hk
  cases hk

lemma unblock (h : Consistent n edges (child :: pending) s) (hc : child < n) :
    Consistent n edges pending (s.unblock child) := by
  set k := openEdges edges s.taken child + pending.count child with hk
  have hb : s.blocked[child]? = some (k + 1) := by
    rw [h.blocked, if_pos hc, List.count_cons_self, hk, Nat.add_assoc]
  have hnew : s.unblock child = { s with
      blocked := s.blocked.set child k
      ready := if k = 0 then insertAscending child s.ready else s.ready } := by
    simp only [Sorting.unblock, hb]
  have htaken : child ∉ s.taken := by
    intro hmem
    rw [h.settled child hmem] at hb
    simp at hb
  have hready : child ∉ s.ready := by
    intro hmem
    rw [((h.ready_iff child).1 hmem).2] at hb
    simp at hb
  have hset : ∀ v, (s.blocked.set child k)[v]? = if v = child then some k else s.blocked[v]? := by
    intro v
    have hlen : child < s.blocked.length := (List.getElem?_eq_some_iff.1 hb).1
    by_cases hv : v = child
    · simp [hv, hlen]
    · simp [hv, Ne.symm hv]
  rw [hnew]
  refine ⟨fun v => ?_, fun v => ?_, ?_, fun v hv => ?_, h.distinct, h.ordered⟩
  · rw [hset]
    by_cases hv : v = child
    · rw [if_pos hv, hv, if_pos hc]
    · rw [if_neg hv, h.blocked, List.count_cons_of_ne (Ne.symm hv)]
  · rw [hset]
    by_cases hv : v = child
    · subst hv
      by_cases hz : k = 0
      · simp [hz, htaken]
      · simp [hz, hready]
    · by_cases hz : k = 0
      · simp [hz, hv, h.ready_iff]
      · simp [hz, hv, h.ready_iff]
  · by_cases hz : k = 0
    · simpa only [hz, if_true] using pairwise_insertAscending h.ascending hready
    · simpa only [hz, if_false] using h.ascending
  · have hne : v ≠ child := fun he => htaken (he ▸ hv)
    rw [hset, if_neg hne]
    exact h.settled v hv

/-- The least ready node has no parents left, so it can be taken. -/
lemma take (h : Consistent n edges [] s) {ready : List ℕ} (hr : s.ready = v :: ready) :
    Consistent n edges (children edges v) { s with ready, taken := v :: s.taken } := by
  have hasc := h.ascending
  rw [hr] at hasc
  obtain ⟨hlt, hasc'⟩ := List.pairwise_cons.1 hasc
  have hv : v ∈ s.ready := by simp [hr]
  obtain ⟨hfree, hzero⟩ := (h.ready_iff v).1 hv
  refine ⟨fun u => ?_, fun u => ?_, hasc', ?_, ?_, ?_, h.ordered⟩
  · rw [h.blocked u, openEdges_eq_add hfree u]
    simp
  · have hu := h.ready_iff u
    rw [hr, List.mem_cons] at hu
    rw [List.mem_cons, not_or, and_assoc, ← hu]
    constructor
    · intro hmem
      exact ⟨Nat.ne_of_gt (hlt u hmem), .inr hmem⟩
    · rintro ⟨hne, rfl | hmem⟩
      · exact (hne rfl).elim
      · exact hmem
  · exact List.forall_mem_cons.2 ⟨hzero, h.settled⟩
  · exact List.nodup_cons.2 ⟨hfree, h.distinct⟩
  · have hvn := h.lt_of_blocked hzero
    rw [h.blocked v, if_pos hvn] at hzero
    apply openEdges_eq_zero_iff.1
    simpa using hzero

lemma subset_range (h : Consistent n edges pending s) : s.taken ⊆ List.range n := fun _ hv =>
  List.mem_range.2 (h.lt_of_blocked (h.settled _ hv))

lemma perm_range (h : Consistent n edges pending s) (hall : ∀ v < n, v ∈ s.taken) :
    s.taken.Perm (List.range n) :=
  (List.subperm_of_subset h.distinct h.subset_range).antisymm
    (List.subperm_of_subset List.nodup_range fun v hv => hall v (List.mem_range.1 hv))

lemma length_taken_eq_iff (h : Consistent n edges pending s) :
    s.taken.length = n ↔ ∀ v < n, v ∈ s.taken := by
  constructor
  · intro hlen v hv
    have hsub := List.subperm_of_subset h.distinct h.subset_range
    have hperm := hsub.perm_of_length_le (by simp [hlen])
    exact hperm.mem_iff.2 (List.mem_range.2 hv)
  · intro hall
    simpa using (h.perm_range hall).length_eq

lemma mem_taken_iff (h : Consistent n edges [] s) (hr : s.ready = []) :
    v ∈ s.taken ↔ s.blocked[v]? = some 0 := by
  refine ⟨h.settled v, fun hzero => ?_⟩
  by_contra hv
  have hmem := (h.ready_iff v).2 ⟨hv, hzero⟩
  simp [hr] at hmem

/-- When no node is ready, those that are left have parents that are left. -/
lemma exists_parent (h : Consistent n edges [] s) (hr : s.ready = []) (hn : v < n)
    (hv : v ∉ s.taken) : ∃ e ∈ edges, e.2 = v ∧ e.1 ∉ s.taken := by
  by_contra hnone
  push Not at hnone
  apply hv
  rw [h.mem_taken_iff hr, h.blocked, if_pos hn, openEdges_eq_zero_iff.2 hnone]
  rfl

end Consistent

lemma consistent_start (n : ℕ) (edges : List (ℕ × ℕ)) : Consistent n edges [] (start n edges) := by
  have hcount (v : ℕ) : (edges.countP fun e => e.2 == v) = openEdges edges [] v := by
    simp [openEdges, beq_eq_decide]
  have hblocked (v : ℕ) : (start n edges).blocked[v]? =
      if v < n then some (openEdges edges [] v) else none := by
    by_cases hv : v < n <;> simp [start, hv, hcount]
  refine ⟨hblocked, fun v => ?_, ?_, ?_, List.nodup_nil, trivial⟩
  · rw [hblocked]
    by_cases hv : v < n
    · simp [start, hv]
    · simp [start, hv]
  · exact List.pairwise_lt_range.filter _
  · intro v hv
    cases hv

@[simp] lemma taken_unblock (s : Sorting) (child : ℕ) : (s.unblock child).taken = s.taken := by
  rw [unblock]
  split <;> rfl

@[simp] lemma taken_foldl_unblock (s : Sorting) (nodes : List ℕ) :
    (nodes.foldl unblock s).taken = s.taken := by
  induction nodes generalizing s with
  | nil => rfl
  | cons v nodes ih => simp [ih]

/-- The states that sorting goes through. After a node is taken, one edge into each node of `pending`
is still to be dropped. -/
inductive Underway (n : ℕ) (edges : List (ℕ × ℕ)) : List ℕ → Sorting → Prop
  | start : Underway n edges [] (start n edges)
  | take {s : Sorting} {v : ℕ} {ready : List ℕ} : Underway n edges [] s → s.ready = v :: ready →
      Underway n edges (children edges v) { s with ready, taken := v :: s.taken }
  | unblock {s : Sorting} {child : ℕ} {pending : List ℕ} : Underway n edges (child :: pending) s →
      Underway n edges pending (s.unblock child)

namespace Underway

lemma unblockAll (h : Underway n edges pending s) :
    Underway n edges [] (pending.foldl Sorting.unblock s) := by
  induction pending generalizing s with
  | nil => exact h
  | cons child pending ih => exact ih h.unblock

lemma step (h : Underway n edges [] s) : Underway n edges [] (s.step edges) := by
  rw [Sorting.step]
  cases hr : s.ready with
  | nil => exact h
  | cons v ready => exact (h.take hr).unblockAll

lemma run (h : Underway n edges [] s) (rounds : ℕ) : Underway n edges [] (s.run edges rounds) := by
  induction rounds generalizing s with
  | zero => exact h
  | succ rounds ih => exact ih h.step

lemma consistent (h : Underway n edges pending s) (hin : ∀ e ∈ edges, e.1 < n ∧ e.2 < n) :
    Consistent n edges pending s ∧ ∀ child ∈ pending, child < n := by
  induction h with
  | start => exact ⟨consistent_start n edges, by simp⟩
  | take _ hr ih =>
    refine ⟨ih.1.take hr, fun child hc => ?_⟩
    obtain ⟨e, he, rfl⟩ := List.mem_map.1 hc
    exact (hin e (List.mem_filter.1 he).1).2
  | unblock _ ih =>
    obtain ⟨hc, hpending⟩ := List.forall_mem_cons.1 ih.2
    exact ⟨ih.1.unblock hc, hpending⟩

/-- An edge that is dropped is still counted. -/
lemma exists_blocked (h : Underway n edges (child :: pending) s)
    (hin : ∀ e ∈ edges, e.1 < n ∧ e.2 < n) :
    ∃ k, s.blocked[child]? = some (k + 1) ∧ (s.unblock child).blocked[child]? = some k := by
  obtain ⟨hs, hlt⟩ := h.consistent hin
  have hc := hlt child List.mem_cons_self
  refine ⟨openEdges edges (s.unblock child).taken child + pending.count child, ?_, ?_⟩
  · rw [hs.blocked, if_pos hc, List.count_cons_self, taken_unblock, Nat.add_assoc]
  · rw [(hs.unblock hc).blocked, if_pos hc]

end Underway

/-- Every round takes a node, until none is ready. -/
lemma ready_eq_nil_or_length (s : Sorting) (edges : List (ℕ × ℕ)) (rounds : ℕ) :
    (s.run edges rounds).ready = [] ∨ (s.run edges rounds).taken.length = s.taken.length + rounds := by
  induction rounds generalizing s with
  | zero => exact .inr rfl
  | succ rounds ih =>
    rw [run]
    cases hr : s.ready with
    | nil =>
      have hstep : s.step edges = s := by simp [step, hr]
      have hrun : s.run edges rounds = s := by
        clear ih
        induction rounds with
        | zero => rfl
        | succ rounds ih => rw [run, hstep, ih]
      rw [hstep, hrun]
      exact .inl hr
    | cons v ready =>
      have htaken : (s.step edges).taken.length = s.taken.length + 1 := by
        simp [step, hr]
      refine (ih (s.step edges)).imp id fun h => ?_
      rw [h, htaken]
      omega

/-- The state in which sorting ends. -/
def final (n : ℕ) (edges : List (ℕ × ℕ)) : Sorting :=
  (start n (inRange n edges)).run (inRange n edges) n

lemma underway_final (n : ℕ) (edges : List (ℕ × ℕ)) :
    Underway n (inRange n edges) [] (final n edges) :=
  Underway.start.run n

lemma consistent_final (n : ℕ) (edges : List (ℕ × ℕ)) :
    Consistent n (inRange n edges) [] (final n edges) :=
  ((underway_final n edges).consistent lt_of_mem_inRange).1

@[simp] lemma ready_final (n : ℕ) (edges : List (ℕ × ℕ)) : (final n edges).ready = [] := by
  have hs := consistent_final n edges
  cases ready_eq_nil_or_length (start n (inRange n edges)) (inRange n edges) n with
  | inl hr => exact hr
  | inr hlen =>
    -- every round has taken a node, so none is left
    have hall := hs.length_taken_eq_iff.1 (by simpa [final, start] using hlen)
    rw [List.eq_nil_iff_forall_not_mem]
    intro v hv
    obtain ⟨hfree, hzero⟩ := (hs.ready_iff v).1 hv
    exact hfree (hall v (hs.lt_of_blocked hzero))

end Sorting

/-- The nodes that stay blocked are those that are not taken. -/
lemma topologicalOrder_eq (n : ℕ) (edges : List (ℕ × ℕ)) : topologicalOrder n edges =
    if (Sorting.final n edges).taken.length = n then .ok (Sorting.final n edges).taken.reverse
    else .error ((List.range n).filter (· ∉ (Sorting.final n edges).taken)) := by
  have hs := Sorting.consistent_final n edges
  have hleft : (List.range n).filter (fun v => (Sorting.final n edges).blocked[v]?.getD 0 ≠ 0) =
      (List.range n).filter (· ∉ (Sorting.final n edges).taken) := by
    apply List.filter_congr
    intro v hv
    rw [decide_eq_decide, hs.mem_taken_iff (Sorting.ready_final n edges), hs.blocked,
      if_pos (List.mem_range.1 hv)]
    simp
  rw [← hleft]
  rfl

lemma topologicalOrder_eq_ok_iff : topologicalOrder n edges = .ok order ↔
    (∀ v < n, v ∈ (Sorting.final n edges).taken) ∧ order = (Sorting.final n edges).taken.reverse := by
  rw [topologicalOrder_eq, ← (Sorting.consistent_final n edges).length_taken_eq_iff]
  split
  · next hlen => simp [hlen, eq_comm]
  · next hlen => simp [hlen]

lemma topologicalOrder_eq_error_iff : topologicalOrder n edges = .error left ↔
    (∃ v < n, v ∉ (Sorting.final n edges).taken) ∧
      left = (List.range n).filter (· ∉ (Sorting.final n edges).taken) := by
  have hopen : (∃ v < n, v ∉ (Sorting.final n edges).taken) ↔
      (Sorting.final n edges).taken.length ≠ n := by
    rw [Ne, (Sorting.consistent_final n edges).length_taken_eq_iff]
    push Not
    rfl
  rw [topologicalOrder_eq, hopen]
  split
  · next hlen => simp [hlen]
  · next hlen => simp [hlen, eq_comm]

/-- All nodes in some order, each behind its parents. -/
structure IsTopological (n : ℕ) (edges : List (ℕ × ℕ)) (order : List ℕ) : Prop where
  perm : order.Perm (List.range n)
  before : ∀ e ∈ inRange n edges, [e.1, e.2].Sublist order

lemma isTopological_of_ok (h : topologicalOrder n edges = .ok order) : IsTopological n edges order := by
  have hs := Sorting.consistent_final n edges
  obtain ⟨hall, rfl⟩ := topologicalOrder_eq_ok_iff.1 h
  refine ⟨(List.reverse_perm _).trans (hs.perm_range hall), fun e he => ?_⟩
  exact hs.ordered.sublist_reverse he (hall _ (lt_of_mem_inRange e he).2)

end RenderPlan.Graph
