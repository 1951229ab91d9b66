import RenderPlan.Layout.StructLayout
import RenderPlan.Upload.Path

/-! Upload plans: the scalar writes that carry a host value into a block, in the order of the
fields. -/
namespace RenderPlan

inductive Coercion
  | identity
  /-- False and true become the integers 0 and 1. -/
  | boolToInt32
  deriving DecidableEq

def Coercion.ofScalar : Scalar → Coercion
  | .bool => boolToInt32
  | _ => identity

def Coercion.label : Coercion → String
  | identity => "Identity"
  | boolToInt32 => "BoolToInt32"

structure ScalarWrite where
  path : ValuePath
  offset : Nat
  width : Nat
  scalar : Scalar
  coercion : Coercion
  deriving DecidableEq

def ScalarWrite.of (path : ValuePath) (offset : Nat) (scalar : Scalar) : ScalarWrite :=
  ⟨path, offset, scalarSize, scalar, .ofScalar scalar⟩

structure UploadPlan where
  structName : String
  totalSize : Nat
  writes : List ScalarWrite
  deriving DecidableEq

namespace Layouts

/-- A finished layout together with the layouts behind it. -/
def find? (name : String) : Layouts → Option (StructLayout × Layouts)
  | [] => none
  | l :: older => if l.name = name then some (l, older) else find? name older

theorem length_lt_of_find? {name : String} {done older : Layouts} {l : StructLayout}
    (h : find? name done = some (l, older)) : older.length < done.length := by
  induction done with
  | nil => simp [find?] at h
  | cons d ds ih =>
    by_cases hd : d.name = name
    · simp only [find?, hd, if_true, Option.some.injEq, Prod.mk.injEq] at h
      simp [h.2]
    · simp only [find?, hd, if_false] at h
      exact Nat.lt_succ_of_lt (ih h)

end Layouts

namespace Arithmetic
variable {m : Type → Type} [Monad m] {α β : Type}

/-- Lists the parts one after the other, up to the first fault. -/
def gather (f : α → m (Except Fault (List β))) : List α → m (Except Fault (List β))
  | [] => return .ok []
  | x :: xs => do
    match ← f x with
    | .error fault => return .error fault
    | .ok part => return (← gather f xs).map (part ++ ·)

/-- Where the part `i` of a value lies, if the parts are `stride` bytes apart. -/
def address (A : Arithmetic m) (base i stride : Nat) : m Nat := do A.add base (← A.mul i stride)

def vectorWrites (A : Arithmetic m) (scalar : Scalar) (arity : Arity) (base : Nat)
    (path : ValuePath) : m (List ScalarWrite) :=
  (List.range arity.count).mapM fun c => do
    return .of (path.component c) (← A.address base c scalarSize) scalar

/-- The writes of a value of a type in the struct `owner`. `visit` gives those of a nested
struct. -/
def writes (A : Arithmetic m) (done : Layouts) (owner : String)
    (visit : String → Nat → ValuePath → m (Except Fault (List ScalarWrite))) :
    ShaderType → Nat → ValuePath → m (Except Fault (List ScalarWrite))
  | .scalar kind, base, path => return .ok [.of path base kind]
  | .vector kind arity, base, path => return .ok (← A.vectorWrites kind arity base path)
  | .matrix columns rows, base, path => do
    let stride ← A.columnStride rows
    let parts ← (List.range columns.count).mapM fun c => do
      A.vectorWrites .float rows (← A.address base c stride) (path.index c)
    return .ok parts.flatten
  | .array element length, base, path => do
    match ← A.placement owner (done.footprint owner) (.array element length) with
    | .error fault => return .error fault
    | .ok placed =>
      let stride := placed.stride.getD (placed.size / length.count)
      gather (fun i => do
        A.writes done owner visit element (← A.address base i stride) (path.index i))
        (List.range length.count)
  | .struct name, base, path => visit name base path

/-- The writes of a struct whose nested structs are finished. Nested layouts stand behind the ones
that refer to them, so each step looks only at what is left. -/
def structWrites (A : Arithmetic m) (done : Layouts) (layout : StructLayout) (base : Nat)
    (path : ValuePath) : m (Except Fault (List ScalarWrite)) :=
  let visit (name : String) (base : Nat) (path : ValuePath) : m (Except Fault (List ScalarWrite)) :=
    match _h : Layouts.find? name done with
    | some (nested, older) => A.structWrites older nested base path
    | none => return .error (.unknownStruct layout.name name)
  gather (fun f : FieldLayout => do
    A.writes done layout.name visit f.type (← A.add base f.offset) (path.field f.name)) layout.fields
termination_by done.length
decreasing_by exact Layouts.length_lt_of_find? _h

/-- The plan of a struct; a nested struct without a finished layout is unknown. -/
def plan (A : Arithmetic m) (done : Layouts) (layout : StructLayout) : m (Except Fault UploadPlan) :=
  return (← A.structWrites done layout 0 .root).map (⟨layout.name, layout.totalSize, ·⟩)

theorem gather_eq_pure [LawfulMonad m] {f : α → m (Except Fault (List β))}
    {g : α → Except Fault (List β)} {xs : List α} (h : ∀ x ∈ xs, f x = pure (g x)) :
    gather f xs = pure ((xs.mapM g).map List.flatten) := by
  induction xs with
  | nil => rfl
  | cons x xs ih =>
    obtain ⟨hx, hxs⟩ := List.forall_mem_cons.1 h
    rw [gather, hx, pure_bind, List.mapM_cons]
    cases g x with
    | error fault => rfl
    | ok part =>
      dsimp only
      rw [ih hxs, pure_bind]
      cases xs.mapM g <;> rfl

/-- In exact numbers only the parts themselves can fail. -/
theorem gather_eq_mapM (f : α → Except Fault (List β)) (xs : List α) :
    gather (m := Id) f xs = (xs.mapM f).map List.flatten :=
  gather_eq_pure fun _ _ => rfl

end Arithmetic

def vectorWrites (scalar : Scalar) (arity : Arity) (base : Nat) (path : ValuePath) :
    List ScalarWrite := (Arithmetic.exact.vectorWrites scalar arity base path).run

theorem vectorWrites_def (scalar : Scalar) (arity : Arity) (base : Nat) (path : ValuePath) :
    vectorWrites scalar arity base path = (List.range arity.count).map fun c =>
      .of (path.component c) (base + c * scalarSize) scalar := List.idRun_mapM

namespace ShaderType
variable (done : Layouts) (owner : String)
  (visit : String → Nat → ValuePath → Except Fault (List ScalarWrite)) (base : Nat) (path : ValuePath)

def writes (type : ShaderType) (base : Nat) (path : ValuePath) : Except Fault (List ScalarWrite) :=
  (Arithmetic.exact.writes done owner visit type base path).run

@[simp] theorem writes_scalar (kind : Scalar) :
    (scalar kind).writes done owner visit base path = .ok [.of path base kind] := rfl

@[simp] theorem writes_vector (kind : Scalar) (arity : Arity) :
    (vector kind arity).writes done owner visit base path =
      .ok (vectorWrites kind arity base path) := rfl

@[simp] theorem writes_matrix (columns rows : Arity) :
    (matrix columns rows).writes done owner visit base path =
      .ok ((List.range columns.count).flatMap fun c =>
        vectorWrites .float rows (base + c * columnStride rows) (path.index c)) := by
  rw [List.flatMap_def]
  exact congrArg (fun parts => Except.ok (List.flatten parts)) List.idRun_mapM

theorem writes_array (element : ShaderType) (length : ArrayLength) :
    (array element length).writes done owner visit base path = (do
      let placed ← (array element length).placement owner (done.footprint owner)
      let stride := placed.stride.getD (placed.size / length.count)
      let parts ← (List.range length.count).mapM fun i =>
        element.writes done owner visit (base + i * stride) (path.index i)
      return parts.flatten) := by
  change (match (array element length).placement owner (done.footprint owner) with
    | .error fault => Except.error fault
    | .ok placed => Arithmetic.gather (m := Id) _ (List.range length.count)) = _
  cases (array element length).placement owner (done.footprint owner) with
  | error fault => rfl
  | ok placed => exact Arithmetic.gather_eq_mapM _ _

@[simp] theorem writes_struct (name : String) :
    (struct name).writes done owner visit base path = visit name base path := rfl

end ShaderType

namespace Layouts

def structWrites (done : Layouts) (layout : StructLayout) (base : Nat) (path : ValuePath) :
    Except Fault (List ScalarWrite) := (Arithmetic.exact.structWrites done layout base path).run

def plan (done : Layouts) (layout : StructLayout) : Except Fault UploadPlan :=
  (Arithmetic.exact.plan done layout).run

theorem plan_def (done : Layouts) (layout : StructLayout) : done.plan layout = (do
    return ⟨layout.name, layout.totalSize, ← structWrites done layout 0 .root⟩) := rfl

end Layouts

end RenderPlan
