import RenderPlan.Proofs.Layout.Memo

/-! Sequences of layout requests. Whatever was asked before, and however it failed, an answer is the
one a fresh cache gives. -/
namespace RenderPlan
open StructTable Layouts

inductive LayoutRequest
  | layoutOf (name : String)
  | layoutFor (referrer name : String)
  | computeAll

namespace Arithmetic
variable {m : Type → Type} [Monad m]

/-- The cache after a request, answered or not. -/
def serve (A : Arithmetic m) (c : LayoutCache) : LayoutRequest → m LayoutCache
  | .layoutOf name => return (← A.layoutFor c LayoutCache.anonymous name).2
  | .layoutFor referrer name => return (← A.layoutFor c referrer name).2
  | .computeAll => return (← A.computeAll c).2

def serveAll (A : Arithmetic m) (c : LayoutCache) (requests : List LayoutRequest) : m LayoutCache :=
  requests.foldlM A.serve c

end Arithmetic

namespace LayoutCache
variable {c : LayoutCache} {t : StructTable} {referrer name : String} {l : StructLayout}

def fresh (t : StructTable) : LayoutCache := { table := t }

def serve (c : LayoutCache) (request : LayoutRequest) : LayoutCache :=
  (Arithmetic.exact.serve c request).run

def serveAll (c : LayoutCache) (requests : List LayoutRequest) : LayoutCache :=
  (Arithmetic.exact.serveAll c requests).run

/-- A cache over `t` whose finished layouts are sound. -/
structure SoundFor (t : StructTable) (c : LayoutCache) : Prop where
  table : c.table = t
  done : Sound t c.done

lemma SoundFor.fresh (t : StructTable) : SoundFor t (fresh t) := ⟨rfl, .nil⟩

/-- A finished layout is placed by the rules, with the sizes of the other finished layouts. -/
lemma SoundFor.block (h : SoundFor t c) (hl : c.get? name = some l) :
    ∃ d, t.get? name = some d ∧ IsBlock (storedSize c.get?) d l ∧ l.Within (storedSize c.get?) := by
  apply (h.done.hasLayout hl).block_of_stored
  intro m hm
  obtain ⟨lm, hlm⟩ := Option.isSome_iff_exists.1 (h.done.isSome_of_refers hl hm)
  exact ⟨lm, hlm, h.done.hasLayout hlm⟩

/-- A request is answered from the declarations, whatever is finished already. -/
lemma SoundFor.layoutFor (h : SoundFor t c) (referrer name : String) :
    (c.layoutFor referrer name).1 = t.layoutBelow [] referrer name ∧
      SoundFor t (c.layoutFor referrer name).2 := by
  obtain ⟨rfl, hs⟩ := h
  have hr := resolve_settles referrer (trail_nil name) c.done hs
  rw [layoutFor_def]
  cases hd : c.table.resolve [] referrer name c.done with
  | error fault done =>
    rw [hd] at hr
    exact ⟨hr.1.symm, rfl, hr.2⟩
  | ok _ done =>
    rw [hd] at hr
    obtain ⟨⟨l, hl, hg⟩, hs', -⟩ := hr
    simp only [hg]
    exact ⟨hl.symm, rfl, hs'⟩

lemma SoundFor.computeEach (h : SoundFor t c) (names : List String) :
    SoundFor t (c.computeEach names).2 := by
  induction names generalizing c with
  | nil => exact h
  | cons name names ih =>
    have hl := (h.layoutFor anonymous name).2
    rw [computeEach_cons, layoutOf]
    rcases hc : c.layoutFor anonymous name with ⟨_ | l, c'⟩ <;> rw [hc] at hl
    · exact hl
    · exact ih hl

lemma SoundFor.serve (h : SoundFor t c) (request : LayoutRequest) : SoundFor t (c.serve request) := by
  cases request with
  | layoutOf name => exact (h.layoutFor anonymous name).2
  | layoutFor referrer name => exact (h.layoutFor referrer name).2
  | computeAll => exact h.computeEach _

lemma SoundFor.serveAll (h : SoundFor t c) (requests : List LayoutRequest) :
    SoundFor t (c.serveAll requests) := by
  induction requests generalizing c with
  | nil => exact h
  | cons request requests ih => exact ih (h.serve request)

lemma fresh_layoutFor (t : StructTable) (referrer name : String) :
    ((fresh t).layoutFor referrer name).1 = t.layoutBelow [] referrer name :=
  ((SoundFor.fresh t).layoutFor referrer name).1

/-- No history of requests changes an answer, and a layout that is kept is the one a fresh cache
would give. -/
theorem answers_eq_fresh (t : StructTable) (requests : List LayoutRequest)
    (referrer name : String) :
    (((fresh t).serveAll requests).layoutFor referrer name).1 =
      ((fresh t).layoutFor referrer name).1 ∧
    ∀ n, ((fresh t).serveAll requests).get? n = none ∨
      ∃ l, ((fresh t).serveAll requests).get? n = some l ∧ ((fresh t).layoutOf n).1 = .ok l := by
  have h := (SoundFor.fresh t).serveAll requests
  constructor
  · rw [(h.layoutFor referrer name).1, fresh_layoutFor]
  · intro n
    cases hg : ((fresh t).serveAll requests).get? n with
    | none => exact .inl rfl
    | some l =>
      refine .inr ⟨l, rfl, ?_⟩
      rw [layoutOf, fresh_layoutFor, layoutBelow_eq_ok_iff anonymous (trail_nil n)]
      exact h.done.hasLayout hg

end LayoutCache
end RenderPlan
