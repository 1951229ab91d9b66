/-! The value types of the shading language. Dimensions and array lengths are legal by
construction; a struct is referred to by its name and looked up later. -/
namespace RenderPlan

/-- Component kinds. On the device every one of them takes 32 bits. -/
inductive Scalar
  | bool
  | int
  | uint
  | float
  deriving DecidableEq, Repr

namespace Scalar

def word : Scalar → String
  | bool => "bool"
  | int => "int"
  | uint => "uint"
  | float => "float"

/-- The word that vector types of this kind start with. -/
def vectorWord : Scalar → String
  | bool => "bvec"
  | int => "ivec"
  | uint => "uvec"
  | float => "vec"

/-- The name of the kind in reports and artifacts. -/
def label : Scalar → String
  | bool => "Bool"
  | int => "Int"
  | uint => "UInt"
  | float => "Float"

def all : List Scalar := [bool, int, uint, float]

end Scalar

/-- The number of components of a vector, or of rows or columns of a matrix. -/
inductive Arity
  | two
  | three
  | four
  deriving DecidableEq, Repr

namespace Arity

def count : Arity → Nat
  | two => 2
  | three => 3
  | four => 4

def ofNat? : Nat → Option Arity
  | 2 => some two
  | 3 => some three
  | 4 => some four
  | _ => none

def digit : Arity → Char
  | two => '2'
  | three => '3'
  | four => '4'

def ofDigit? : Char → Option Arity
  | '2' => some two
  | '3' => some three
  | '4' => some four
  | _ => none

@[simp] theorem ofDigit?_digit (a : Arity) : ofDigit? a.digit = some a := by cases a <;> rfl

end Arity

/-- A number of array elements: a nonzero 64-bit word. -/
structure ArrayLength where
  word : UInt64
  ne_zero : word ≠ 0
  deriving DecidableEq

namespace ArrayLength

def count (n : ArrayLength) : Nat := n.word.toNat

theorem count_pos (n : ArrayLength) : 0 < n.count := by
  have h := n.ne_zero
  rw [ne_eq, ← UInt64.toNat_inj] at h
  exact Nat.pos_of_ne_zero h

theorem count_lt (n : ArrayLength) : n.count < UInt64.size := n.word.toNat_lt_size

def ofWord? (w : UInt64) : Option ArrayLength :=
  if h : w = 0 then none else some ⟨w, h⟩

end ArrayLength

inductive TypeError
  | invalidArity (count : Nat)
  | zeroLengthArray
  | unparseable (text : String)
  deriving DecidableEq

def TypeError.message : TypeError → String
  | invalidArity n => s!"vector and matrix dimensions must be 2, 3 or 4, got {n}"
  | zeroLengthArray => "array length must be greater than zero"
  | unparseable text => s!"'{text}' is not a valid GLSL type"

inductive ShaderType
  | scalar (kind : Scalar)
  | vector (kind : Scalar) (arity : Arity)
  /-- Column-major, with float components. -/
  | matrix (columns rows : Arity)
  | array (element : ShaderType) (length : ArrayLength)
  | struct (name : String)
  deriving DecidableEq

def Arity.ofCount (n : Nat) : Except TypeError Arity :=
  match ofNat? n with
  | some a => .ok a
  | none => .error (.invalidArity n)

namespace ShaderType

def vectorOf (kind : Scalar) (arity : Nat) : Except TypeError ShaderType := do
  return .vector kind (← Arity.ofCount arity)

def matrixOf (columns rows : Nat) : Except TypeError ShaderType := do
  return .matrix (← Arity.ofCount columns) (← Arity.ofCount rows)

def arrayOf (element : ShaderType) (length : UInt64) : Except TypeError ShaderType :=
  match ArrayLength.ofWord? length with
  | some n => .ok (.array element n)
  | none => .error .zeroLengthArray

/-- The type left after removing all array levels. -/
def base : ShaderType → ShaderType
  | array element _ => element.base
  | t => t

/-- The struct a type refers to, looking through arrays. -/
def referenced : ShaderType → Option String
  | struct name => some name
  | array element _ => element.referenced
  | _ => none

/-- Scalars, vectors and matrices, which need no declaration. -/
def isBuiltin : ShaderType → Bool
  | scalar _ | vector _ _ | matrix _ _ => true
  | _ => false

end ShaderType

end RenderPlan
