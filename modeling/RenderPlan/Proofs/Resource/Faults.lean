import RenderPlan.Proofs.Resource.Index

/-! Faults about references to resources. Each of them is raised on behalf of something that uses a
name, so it can be compared with what is declared under the name: nothing at all, or a resource of
another class than the one the name is used as. -/
namespace RenderPlan
open Text

/-- The names a declaration uses, each with the class it has to be of. -/
inductive ResourceDecl.Uses (d : ResourceDecl) : String → Option ResourceClass → Prop
  | attachment {f : Framebuffer} {name : String} (kind : d.kind = .framebuffer f)
    (attached : name ∈ f.attachments) : Uses d name (some .texture)
  | stage {p : ShaderProgram} {name : String} (kind : d.kind = .shaderProgram p)
    (linked : name ∈ p.stages) : Uses d name (some .shaderStage)

/-- What the fault says about a reference to a resource is so, if `uses referrer name c` tells who uses
which name, and as which class if only one will do. Copies that run in a cycle are no such reference,
and faults of other sorts say nothing about references. -/
def Fault.ConfirmedBy (decls : List ResourceDecl)
    (uses : String → String → Option ResourceClass → Prop) : Fault → Prop
  | danglingReference referrer missing =>
    (∀ d ∈ decls, d.name ≠ missing) ∧ ∃ c, uses referrer missing c
  | wrongResourceKind referrer name expected found =>
    (∃ d ∈ decls, d.name = name ∧ d.resourceClass = found) ∧ found ≠ expected ∧
      uses referrer name (some expected)
  | cyclicCopy _ _ => False
  | _ => True

section Require
variable {find : ResourceLookup} {decls : List ResourceDecl} {referrer name : String}
  {expected : ResourceClass} {uses : String → String → Option ResourceClass → Prop}

/-- Just the declared resources are found, each under its name. -/
def ResourceLookup.Finds (find : ResourceLookup) (decls : List ResourceDecl) : Prop :=
  ∀ name d, find name = some d ↔ d ∈ decls ∧ d.name = name

lemma ResourceGraph.Indexed.finds {g : ResourceGraph} (h : g.Indexed) :
    ResourceLookup.Finds g.get? g.decls := fun _ _ => h.get?_eq_some_iff

lemma ResourceLookup.Finds.ne_of_none (h : ResourceLookup.Finds find decls)
    (hn : find name = none) : ∀ d ∈ decls, d.name ≠ name := by
  intro d hd he
  rw [(h name d).2 ⟨hd, he⟩] at hn
  cases hn

/-- A name that is required on behalf of its user fails for one of two reasons. -/
lemma ResourceDecl.require_fails (h : ResourceLookup.Finds find decls)
    (hu : uses referrer name (some expected)) :
    FailsWithin (Fault.ConfirmedBy decls uses) (require find referrer name expected) := by
  rw [require]
  cases hf : find name with
  | none => exact .error ⟨h.ne_of_none hf, _, hu⟩
  | some d =>
    by_cases hc : d.resourceClass = expected
    · simp only [if_pos hc]
      exact .ok d
    · simp only [if_neg hc]
      exact .error ⟨⟨d, ((h name d).1 hf).1, ((h name d).1 hf).2, rfl⟩, hc, hu⟩

end Require

section Checks
variable {find : ResourceLookup} {decls : List ResourceDecl} {name : String}
  {uses : String → String → Option ResourceClass → Prop}

lemma checkNames_fails {p : Fault → Prop} {kind : NameKind} (hident : ∀ n, p (.invalidIdentifier n))
    (hrepeat : ∀ n, p (.duplicateName kind n)) (seen names : List String) :
    FailsWithin p (checkNames kind seen names) := by
  induction names generalizing seen with
  | nil => exact .ok ()
  | cons n names ih =>
    rw [checkNames]
    split
    · exact .error (hident n)
    · split
      · exact .error (hrepeat n)
      · exact ih (n :: seen)

namespace Framebuffer
variable {f : Framebuffer}

lemma checkSlots_fails (h : ResourceLookup.Finds find decls) {slots : List (String × Bool)}
    (hu : ∀ slot ∈ slots, uses name slot.1 (some .texture)) (seen : List String) :
    FailsWithin (Fault.ConfirmedBy decls uses) (checkSlots find name seen slots) := by
  induction slots generalizing seen with
  | nil => exact .ok []
  | cons slot slots ih =>
    obtain ⟨hslot, hslots⟩ := List.forall_mem_cons.1 hu
    have hrest := ih hslots (slot.1 :: seen)
    rw [checkSlots]
    refine .guard trivial (.bind (ResourceDecl.require_fails h hslot) fun d _ => ?_)
    split
    · exact .guard trivial (.bind hrest fun _ _ => .ok _)
    · exact hrest

lemma check_fails (h : ResourceLookup.Finds find decls)
    (hu : ∀ texture ∈ f.attachments, uses name texture (some .texture)) :
    FailsWithin (Fault.ConfirmedBy decls uses) (f.check find name) := by
  have hslots : ∀ slot ∈ f.slots, uses name slot.1 (some .texture) := by
    intro slot hs
    apply hu
    simp only [slots, List.mem_append, List.mem_map] at hs
    rw [attachments, List.mem_append]
    rcases hs with ⟨t, ht, rfl⟩ | ⟨t, ht, rfl⟩
    · exact .inl ht
    · exact .inr ht
  rw [check]
  refine .guard trivial (.bind (checkSlots_fails h hslots []) fun attached _ => ?_)
  split
  · exact .error trivial
  · exact .ok ()

end Framebuffer

namespace ShaderProgram
variable {p : ShaderProgram}

lemma stageKinds_fails (h : ResourceLookup.Finds find decls)
    (hu : ∀ stage ∈ p.stages, uses name stage (some .shaderStage)) :
    FailsWithin (Fault.ConfirmedBy decls uses) (p.stageKinds find name) := by
  rw [stageKinds]
  refine .bind (.mapM fun stage hs => ?_) fun _ _ => .ok _
  refine .bind (ResourceDecl.require_fails h (hu stage hs)) fun d _ => ?_
  split
  · exact .ok _
  · exact .ok _

lemma check_fails (h : ResourceLookup.Finds find decls)
    (hu : ∀ stage ∈ p.stages, uses name stage (some .shaderStage)) :
    FailsWithin (Fault.ConfirmedBy decls uses) (p.check find name) := by
  rw [check]
  refine .guard trivial (.bind (stageKinds_fails h hu) fun kinds _ => .guard trivial ?_)
  split
  · exact .error trivial
  · exact .ok ()

end ShaderProgram

lemma ResourceDecl.check_fails {d : ResourceDecl} (h : ResourceLookup.Finds find decls)
    (hu : ∀ name c, d.Uses name c → uses d.name name c) :
    FailsWithin (Fault.ConfirmedBy decls uses) (d.check find) := by
  rw [check]
  cases hk : d.kind with
  | framebuffer f =>
    exact Framebuffer.check_fails h fun texture ht => hu texture _ (.attachment hk ht)
  | shaderProgram p =>
    exact ShaderProgram.check_fails h fun stage hs => hu stage _ (.stage hk hs)
  | texture t =>
    dsimp only
    split
    · exact .error trivial
    · exact .ok ()
  | _ => exact .ok ()

end Checks

/-- A declared resource of that name uses `name`. -/
def ResourceDecl.DeclaredUse (decls : List ResourceDecl) (referrer name : String)
    (c : Option ResourceClass) : Prop :=
  ∃ d ∈ decls, d.name = referrer ∧ d.Uses name c

lemma ResourceGraph.build_fails (decls : List ResourceDecl) :
    FailsWithin (Fault.ConfirmedBy decls (ResourceDecl.DeclaredUse decls)) (build decls) := by
  rw [build]
  refine .bind (checkNames_fails (fun _ => trivial) (fun _ => trivial) _ _) fun _ hnames => ?_
  obtain ⟨-, hdistinct, -⟩ := checkNames_eq_ok_iff.1 hnames
  have hindexed : (indexed decls).Indexed := ⟨hdistinct, rfl⟩
  refine .bind (.forM fun d hd => ?_) fun _ _ => .ok _
  exact ResourceDecl.check_fails hindexed.finds fun _ _ hu => ⟨d, hd, rfl, hu⟩

end RenderPlan
