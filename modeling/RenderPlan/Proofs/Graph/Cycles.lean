import Mathlib.Data.Fintype.Card
import Mathlib.Data.Set.Finite.Basic
import Mathlib.Logic.Relation
import RenderPlan.Proofs.Graph.TopologicalOrder

/-! What sorting says about cycles. A node is taken only after all that lead to it, so nothing behind
a cycle is ever taken; and where sorting stops, every node that is left has a parent that is left, so
in a finite graph one walks back from it into a cycle. -/
namespace RenderPlan.Graph
open Relation
variable {n u v : ℕ} {edges : List (ℕ × ℕ)} {taken order left : List ℕ}

def Parent (edges : List (ℕ × ℕ)) (u v : ℕ) : Prop := (u, v) ∈ edges

/-- A path of at least one edge leads from the node to itself. -/
def OnCycle (edges : List (ℕ × ℕ)) (v : ℕ) : Prop := TransGen (Parent edges) v v

/-- The node lies on a cycle or is reachable from one. -/
def BehindCycle (edges : List (ℕ × ℕ)) (v : ℕ) : Prop :=
  ∃ u, OnCycle edges u ∧ ReflTransGen (Parent edges) u v

lemma OnCycle.behindCycle (h : OnCycle edges v) : BehindCycle edges v := ⟨v, h, .refl⟩

namespace Ordered

lemma mem_of_parent (h : Ordered edges taken) (hp : Parent edges u v) (hv : v ∈ taken) :
    u ∈ taken := by
  have hs := h.sublist_reverse hp hv
  exact List.mem_reverse.1 (hs.subset List.mem_cons_self)

lemma mem_of_reflTransGen (h : Ordered edges taken) (hr : ReflTransGen (Parent edges) u v)
    (hv : v ∈ taken) : u ∈ taken := by
  induction hr with
  | refl => exact hv
  | tail _ hp ih => exact ih (h.mem_of_parent hp hv)

/-- The latest node would have to stand among the older ones, which a path to one of them cannot
leave backwards. -/
lemma not_onCycle (h : Ordered edges taken) (hd : taken.Nodup) (hv : v ∈ taken) :
    ¬ OnCycle edges v := by
  induction taken with
  | nil => cases hv
  | cons w older ih =>
    obtain ⟨hparents, holder⟩ := h
    obtain ⟨hw, hd⟩ := List.nodup_cons.1 hd
    cases List.mem_cons.1 hv with
    | inr hv => exact ih holder hd hv
    | inl hv =>
      subst hv
      intro hcycle
      obtain ⟨u, hpath, hlast⟩ := TransGen.tail'_iff.1 hcycle
      exact hw (holder.mem_of_reflTransGen hpath (hparents _ hlast rfl))

lemma not_behindCycle (h : Ordered edges taken) (hd : taken.Nodup) (hv : v ∈ taken) :
    ¬ BehindCycle edges v := by
  intro hb
  obtain ⟨u, hcycle, hpath⟩ := hb
  exact h.not_onCycle hd (h.mem_of_reflTransGen hpath hv) hcycle

end Ordered

/-- Among finitely many nodes that all have a parent among them, walking back ends in a cycle. -/
lemma behindCycle_of_parents {stuck : Set ℕ} (hfinite : stuck.Finite)
    (hparent : ∀ v ∈ stuck, ∃ u ∈ stuck, Parent edges u v) (hv : v ∈ stuck) :
    BehindCycle edges v := by
  by_contra hnone
  -- the stuck nodes from which `v` is reachable, none of them on a cycle
  let Back := {u : stuck // ReflTransGen (Parent edges) u v}
  let leads (a b : Back) : Prop := TransGen (Parent edges) a.1 b.1
  have : Finite stuck := hfinite.to_subtype
  have htrans : IsTrans Back leads := ⟨fun _ _ _ hab hbc => hab.trans hbc⟩
  have hirrefl : Std.Irrefl leads := ⟨fun a hcycle => hnone ⟨a.1, hcycle, a.2⟩⟩
  have hwell : WellFounded leads := Finite.wellFounded_of_trans_of_irrefl leads
  have hempty : ∀ a : Back, False := by
    intro a
    induction a using hwell.induction with
    | _ a ih =>
      obtain ⟨u, hu, hp⟩ := hparent a.1 a.1.2
      exact ih ⟨⟨u, hu⟩, .head hp a.2⟩ (.single hp)
  exact hempty ⟨⟨v, hv⟩, .refl⟩

namespace Sorting
variable {s : Sorting} {child : ℕ} {pending : List ℕ}

lemma Consistent.mem_taken_iff_not_behindCycle (h : Consistent n edges [] s) (hr : s.ready = [])
    (hin : ∀ e ∈ edges, e.1 < n ∧ e.2 < n) (hn : v < n) :
    v ∈ s.taken ↔ ¬ BehindCycle edges v := by
  refine ⟨h.ordered.not_behindCycle h.distinct, fun hnone => ?_⟩
  by_contra hv
  have hfinite : {v | v < n ∧ v ∉ s.taken}.Finite := (Set.finite_lt_nat n).subset fun v hv => hv.1
  refine hnone (behindCycle_of_parents hfinite (fun v hv => ?_) ⟨hn, hv⟩)
  obtain ⟨e, he, rfl, hp⟩ := h.exists_parent hr hv.1 hv.2
  exact ⟨e.1, ⟨(hin e he).1, hp⟩, he⟩

/-- The state in which sorting ends has taken exactly the nodes that are not behind a cycle. -/
lemma mem_taken_final_iff (hn : v < n) :
    v ∈ (final n edges).taken ↔ ¬ BehindCycle (inRange n edges) v :=
  (consistent_final n edges).mem_taken_iff_not_behindCycle (ready_final n edges) lt_of_mem_inRange hn

end Sorting

/-- What lies behind a cycle has a parent, so it is one of the nodes. -/
lemma BehindCycle.lt (h : BehindCycle (inRange n edges) v) : v < n := by
  obtain ⟨u, hcycle, hpath⟩ := h
  obtain ⟨w, -, hlast⟩ := TransGen.tail'_iff.1 (hcycle.trans_left hpath)
  exact (lt_of_mem_inRange _ hlast).2

lemma exists_topologicalOrder_iff : (∃ order, topologicalOrder n edges = .ok order) ↔
    ∀ v, ¬ OnCycle (inRange n edges) v := by
  simp only [topologicalOrder_eq_ok_iff]
  constructor
  · intro h v hcycle
    obtain ⟨order, hall, -⟩ := h
    have hb := hcycle.behindCycle
    exact (Sorting.mem_taken_final_iff hb.lt).1 (hall v hb.lt) hb
  · intro h
    refine ⟨_, fun v hv => (Sorting.mem_taken_final_iff hv).2 fun hb => ?_, rfl⟩
    obtain ⟨u, hcycle, -⟩ := hb
    exact h u hcycle

lemma mem_left_iff (h : topologicalOrder n edges = .error left) :
    v ∈ left ↔ BehindCycle (inRange n edges) v := by
  obtain ⟨-, rfl⟩ := topologicalOrder_eq_error_iff.1 h
  rw [List.mem_filter, List.mem_range, decide_eq_true_eq]
  constructor
  · intro hv
    by_contra hb
    exact hv.2 ((Sorting.mem_taken_final_iff hv.1).2 hb)
  · intro hb
    exact ⟨hb.lt, fun hv => (Sorting.mem_taken_final_iff hb.lt).1 hv hb⟩

lemma pairwise_left (h : topologicalOrder n edges = .error left) : left.Pairwise (· < ·) := by
  obtain ⟨-, rfl⟩ := topologicalOrder_eq_error_iff.1 h
  exact List.pairwise_lt_range.filter _

/-- Sorting finds an order if and only if no node lies on a cycle, and otherwise reports the nodes
behind the cycles. Along its way every edge is dropped while its child still counts it. -/
theorem topologicalOrder_orders_or_reports_cycles (n : ℕ) (edges : List (ℕ × ℕ)) :
    ((∃ order, topologicalOrder n edges = .ok order) ↔ ∀ v, ¬ OnCycle (inRange n edges) v) ∧
    (∀ order, topologicalOrder n edges = .ok order → IsTopological n edges order) ∧
    (∀ left, topologicalOrder n edges = .error left →
      left.Pairwise (· < ·) ∧ ∀ v, v ∈ left ↔ BehindCycle (inRange n edges) v) ∧
    (∀ rounds, Sorting.Underway n (inRange n edges) []
      ((Sorting.start n (inRange n edges)).run (inRange n edges) rounds)) ∧
    ∀ s child pending, Sorting.Underway n (inRange n edges) (child :: pending) s →
      ∃ k, s.blocked[child]? = some (k + 1) ∧ (s.unblock child).blocked[child]? = some k := by
  refine ⟨exists_topologicalOrder_iff, fun order => isTopological_of_ok,
    fun left h => ⟨pairwise_left h, fun v => mem_left_iff h⟩, Sorting.Underway.start.run, ?_⟩
  intro s child pending h
  exact h.exists_blocked lt_of_mem_inRange

end RenderPlan.Graph
