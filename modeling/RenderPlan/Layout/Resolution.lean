import RenderPlan.Layout.StructLayout

/-! Layouts on demand. A requested struct is laid out after the structs its fields refer to, depth
first; a stack of the structs under way shows a cycle with its whole path. Layouts that are finished
before a fault stay finished. -/
namespace RenderPlan

/-- Steps that add to the finished layouts and keep them when a fault stops the work. -/
abbrev Resolution := EStateM Fault Layouts

/-- Such steps where something else may go wrong as well. -/
abbrev ResolutionIn (m : Type → Type) (α : Type) : Type :=
  Layouts → m (EStateM.Result Fault Layouts α)

namespace StructTable

def idle (t : StructTable) (stack : List String) : List StructDecl :=
  t.decls.filter fun d => d.name ∉ stack

theorem length_idle_lt {t : StructTable} {stack : List String} {name : String} {d : StructDecl}
    (hd : t.get? name = some d) (hn : name ∉ stack) :
    (t.idle (stack ++ [name])).length < (t.idle stack).length := by
  have hsub : t.idle (stack ++ [name]) = (t.idle stack).filter fun d => d.name ≠ name := by
    simp only [idle, List.filter_filter]
    congr 1
    funext e
    simp [and_comm]
  rw [hsub, List.length_filter_lt_length_iff_exists]
  refine ⟨d, ?_, ?_⟩
  · simpa [idle, name_of_get? hd, hn] using mem_of_get? hd
  · simp [name_of_get? hd]

end StructTable

structure LayoutCache where
  table : StructTable
  done : Layouts := []

/-- What an anonymous request is called in a fault. -/
def LayoutCache.anonymous : String := "layout request"

namespace Arithmetic
variable {m : Type → Type} [Monad m]

def visitReferenced (visit : String → ResolutionIn m Unit) (type : ShaderType) :
    ResolutionIn m Unit := fun done =>
  match type.referenced with
  | some name => visit name done
  | none => return .ok () done

/-- Places the fields of `owner` one after the other. `visit` finishes the struct a field refers
to before the field is placed. -/
def placeFields (A : Arithmetic m) (owner : String) (visit : String → ResolutionIn m Unit) :
    List FieldDecl → Frame → ResolutionIn m Frame
  | [], frame, done => return .ok frame done
  | field :: rest, frame, done => do
    match ← visitReferenced visit field.type done with
    | .error fault done => return .error fault done
    | .ok _ done =>
      match ← A.place owner (done.footprint owner) frame field with
      | .error fault => return .error fault done
      | .ok frame => A.placeFields owner visit rest frame done

/-- Finishes the layout of `name` on behalf of `referrer`, below the structs on the stack. -/
def resolve (A : Arithmetic m) (t : StructTable) (stack : List String) (referrer name : String) :
    ResolutionIn m Unit := fun done =>
  if (done.get? name).isSome then return .ok () done
  else if _hn : name ∈ stack then return .error (.cyclicStruct name (stack ++ [name])) done
  else
    match _hd : t.get? name with
    | none => return .error (.unknownStruct referrer name) done
    | some d => do
      match ← A.placeFields name (A.resolve t (stack ++ [name]) name) d.fields {} done with
      | .error fault done => return .error fault done
      | .ok frame done => return .ok () ((← A.finish name frame) :: done)
termination_by (t.idle stack).length
decreasing_by exact StructTable.length_idle_lt _hd _hn

/-- The layout of `name`, finished now if need be; `referrer` is blamed if there is no such
struct. -/
def layoutFor (A : Arithmetic m) (c : LayoutCache) (referrer name : String) :
    m (Except Fault StructLayout × LayoutCache) := do
  match ← A.resolve c.table [] referrer name c.done with
  | .error fault done => return (.error fault, { c with done })
  | .ok _ done =>
    match done.get? name with
    | some l => return (.ok l, { c with done })
    | none => return (.error (.unknownStruct referrer name), { c with done })

/-- Lays out the named structs up to the first fault. -/
def computeEach (A : Arithmetic m) : LayoutCache → List String → m (Except Fault Unit × LayoutCache)
  | c, [] => return (.ok (), c)
  | c, name :: names => do
    match ← A.layoutFor c LayoutCache.anonymous name with
    | (.error fault, c) => return (.error fault, c)
    | (.ok _, c) => A.computeEach c names

def computeAll (A : Arithmetic m) (c : LayoutCache) : m (Except Fault Unit × LayoutCache) :=
  A.computeEach c c.table.names

end Arithmetic

namespace Resolution

def visitReferenced (visit : String → Resolution Unit) (type : ShaderType) : Resolution Unit :=
  Arithmetic.visitReferenced (m := Id) visit type

theorem visitReferenced_def (visit : String → Resolution Unit) (type : ShaderType)
    (done : Layouts) : visitReferenced visit type done =
      match type.referenced with
      | some name => visit name done
      | none => .ok () done := rfl

def placeFields (owner : String) (visit : String → Resolution Unit) (fields : List FieldDecl)
    (frame : Frame) : Resolution Frame := Arithmetic.exact.placeFields owner visit fields frame

theorem placeFields_cons (owner : String) (visit : String → Resolution Unit) (field : FieldDecl)
    (rest : List FieldDecl) (frame : Frame) (done : Layouts) :
    placeFields owner visit (field :: rest) frame done =
      match visitReferenced visit field.type done with
      | .error fault done => .error fault done
      | .ok _ done =>
        match frame.place owner (done.footprint owner) field with
        | .error fault => .error fault done
        | .ok frame => placeFields owner visit rest frame done := rfl

end Resolution

namespace StructTable

def resolve (t : StructTable) (stack : List String) (referrer name : String) : Resolution Unit :=
  Arithmetic.exact.resolve t stack referrer name

theorem resolve_apply (t : StructTable) (stack : List String) (referrer name : String)
    (done : Layouts) :
    t.resolve stack referrer name done =
      if (done.get? name).isSome then .ok () done
      else if name ∈ stack then .error (.cyclicStruct name (stack ++ [name])) done
      else
        match t.get? name with
        | none => .error (.unknownStruct referrer name) done
        | some d =>
          match Resolution.placeFields name (t.resolve (stack ++ [name]) name) d.fields {} done with
          | .error fault done => .error fault done
          | .ok frame done => .ok () (frame.finish name :: done) := by
  rw [resolve, Arithmetic.resolve]
  by_cases hg : (done.get? name).isSome = true
  · rw [if_pos hg, if_pos hg]
    rfl
  rw [if_neg hg, if_neg hg]
  by_cases hn : name ∈ stack
  · rw [dif_pos hn, if_pos hn]
    rfl
  rw [dif_neg hn, if_neg hn]
  cases t.get? name <;> rfl

end StructTable

namespace LayoutCache

def get? (c : LayoutCache) (name : String) : Option StructLayout := c.done.get? name

def layoutFor (c : LayoutCache) (referrer name : String) :
    Except Fault StructLayout × LayoutCache := (Arithmetic.exact.layoutFor c referrer name).run

def layoutOf (c : LayoutCache) (name : String) : Except Fault StructLayout × LayoutCache :=
  c.layoutFor anonymous name

def computeEach (c : LayoutCache) (names : List String) : Except Fault Unit × LayoutCache :=
  (Arithmetic.exact.computeEach c names).run

def computeAll (c : LayoutCache) : Except Fault Unit × LayoutCache :=
  (Arithmetic.exact.computeAll c).run

theorem computeAll_def (c : LayoutCache) : c.computeAll = c.computeEach c.table.names := rfl

theorem layoutFor_def (c : LayoutCache) (referrer name : String) : c.layoutFor referrer name =
    match c.table.resolve [] referrer name c.done with
    | .error fault done => (.error fault, { c with done })
    | .ok _ done =>
      match done.get? name with
      | some l => (.ok l, { c with done })
      | none => (.error (.unknownStruct referrer name), { c with done }) := rfl

theorem computeEach_cons (c : LayoutCache) (name : String) (names : List String) :
    c.computeEach (name :: names) =
      match c.layoutOf name with
      | (.error fault, c) => (.error fault, c)
      | (.ok _, c) => c.computeEach names := rfl

/-- The finished layouts in the order of declaration. -/
def layouts (c : LayoutCache) : List StructLayout := c.table.names.filterMap c.get?

end LayoutCache

end RenderPlan
