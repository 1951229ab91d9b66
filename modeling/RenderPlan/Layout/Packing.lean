import RenderPlan.Fault
import RenderPlan.Shader.Type

/-! The std140 packing rules: size, alignment and stride of each type. Sizes and offsets are
64-bit words on the device side, so the two products and sums that can leave that range are taken
with a check, and everything is held below the block limit. All other sums and products are left to
an arithmetic. The rules are run in exact numbers, and the arithmetic of a machine can be put in their
place. -/
namespace RenderPlan

/-- Bytes of a scalar, booleans included. -/
def scalarSize : Nat := 4

/-- What arrays, matrices and structs are aligned to. -/
def blockAlignment : Nat := 16

def mulWord? (a b : Nat) : Option Nat := if a * b < UInt64.size then some (a * b) else none

def addWord? (a b : Nat) : Option Nat := if a + b < UInt64.size then some (a + b) else none

/-- Accepts a size that was computed within a word and fits in a block. -/
def blockSize (owner : String) : Option Nat → Except Fault Nat
  | some size => if size ≤ blockLimit then .ok size else .error (.layoutOverflow owner)
  | none => .error (.layoutOverflow owner)

def vectorAlignment : Arity → Nat
  | .two => 2 * scalarSize
  | _ => blockAlignment

/-- The space one value takes. The stride is that of array elements or matrix columns. -/
structure Placement where
  size : Nat
  alignment : Nat
  stride : Option Nat := none
  deriving DecidableEq

/-- The outer measures of a struct that is laid out already. -/
structure Footprint where
  totalSize : Nat
  alignment : Nat
  deriving DecidableEq

/-- Sums and products, with `m` for what may go wrong in them. -/
structure Arithmetic (m : Type → Type) where
  add : Nat → Nat → m Nat
  mul : Nat → Nat → m Nat

namespace Arithmetic

def exact : Arithmetic Id where
  add a b := pure (a + b)
  mul a b := pure (a * b)

variable {m : Type → Type} [Monad m]

/-- The least multiple of `alignment` that is at least `value`, by way of the quotient. -/
def roundUp (A : Arithmetic m) (value alignment : Nat) : m Nat := do
  let quotient ←
    if value % alignment = 0 then pure (value / alignment) else A.add (value / alignment) 1
  A.mul quotient alignment

/-- The distance between the columns of a matrix, which lie like an array of column vectors. -/
def columnStride (A : Arithmetic m) (rows : Arity) : m Nat := do
  let column ← A.mul scalarSize rows.count
  A.roundUp (← A.roundUp column (vectorAlignment rows)) blockAlignment

/-- The placement of a type, for a field of the struct `owner`. The product with the length of an array
is checked, all others are not. -/
def placement (A : Arithmetic m) (owner : String) (footprint : String → Except Fault Footprint) :
    ShaderType → m (Except Fault Placement)
  | .scalar _ => return .ok ⟨scalarSize, scalarSize, none⟩
  | .vector _ arity => return .ok ⟨← A.mul scalarSize arity.count, vectorAlignment arity, none⟩
  | .matrix columns rows => do
    let stride ← A.columnStride rows
    return .ok ⟨← A.mul columns.count stride, blockAlignment, some stride⟩
  | .array element length => do
    match ← A.placement owner footprint element with
    | .error fault => return .error fault
    | .ok inner =>
      let stride ← A.roundUp (← A.roundUp inner.size inner.alignment) blockAlignment
      return (blockSize owner (mulWord? length.count stride)).map (⟨·, blockAlignment, some stride⟩)
  | .struct name =>
    match footprint name with
    | .error fault => return .error fault
    | .ok nested => return .ok ⟨nested.totalSize, ← A.roundUp nested.alignment blockAlignment, none⟩

end Arithmetic

def roundUp (value alignment : Nat) : Nat := (Arithmetic.exact.roundUp value alignment).run

theorem roundUp_eq (value alignment : Nat) : roundUp value alignment =
    (if value % alignment = 0 then value / alignment else value / alignment + 1) * alignment := by
  unfold roundUp Arithmetic.roundUp
  split <;> rfl

def columnStride (rows : Arity) : Nat := (Arithmetic.exact.columnStride rows).run

theorem columnStride_def (rows : Arity) : columnStride rows =
    roundUp (roundUp (scalarSize * rows.count) (vectorAlignment rows)) blockAlignment := rfl

namespace ShaderType

def placement (owner : String) (footprint : String → Except Fault Footprint) (type : ShaderType) :
    Except Fault Placement := (Arithmetic.exact.placement owner footprint type).run

variable (owner : String) (footprint : String → Except Fault Footprint)

@[simp] theorem placement_scalar (kind : Scalar) :
    (scalar kind).placement owner footprint = .ok ⟨scalarSize, scalarSize, none⟩ := rfl

@[simp] theorem placement_vector (kind : Scalar) (arity : Arity) :
    (vector kind arity).placement owner footprint =
      .ok ⟨scalarSize * arity.count, vectorAlignment arity, none⟩ := rfl

@[simp] theorem placement_matrix (columns rows : Arity) :
    (matrix columns rows).placement owner footprint =
      .ok ⟨columns.count * columnStride rows, blockAlignment, some (columnStride rows)⟩ := rfl

theorem placement_array (element : ShaderType) (length : ArrayLength) :
    (array element length).placement owner footprint = (do
      let inner ← element.placement owner footprint
      let stride := roundUp (roundUp inner.size inner.alignment) blockAlignment
      let size ← blockSize owner (mulWord? length.count stride)
      return ⟨size, blockAlignment, some stride⟩) := by
  change (match element.placement owner footprint with
    | .error fault => Except.error fault
    | .ok inner => (blockSize owner (mulWord? length.count _)).map _) = _
  cases element.placement owner footprint <;> rfl

theorem placement_struct (name : String) :
    (struct name).placement owner footprint = (do
      let nested ← footprint name
      return ⟨nested.totalSize, roundUp nested.alignment blockAlignment, none⟩) := by
  unfold placement Arithmetic.placement
  cases footprint name <;> rfl

end ShaderType

end RenderPlan
