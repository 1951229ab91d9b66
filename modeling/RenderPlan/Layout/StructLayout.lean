import RenderPlan.Layout.Packing
import RenderPlan.Shader.Struct

/-! Layouts of structs: where each field lies, and how a list of fields is placed one after the
other. -/
namespace RenderPlan

structure FieldLayout where
  name : String
  type : ShaderType
  offset : Nat
  size : Nat
  alignment : Nat
  stride : Option Nat := none
  deriving DecidableEq

structure StructLayout where
  name : String
  fields : List FieldLayout
  totalSize : Nat
  alignment : Nat
  deriving DecidableEq

namespace StructLayout

def field? (l : StructLayout) (name : String) : Option FieldLayout :=
  l.fields.find? (·.name = name)

def footprint (l : StructLayout) : Footprint := ⟨l.totalSize, l.alignment⟩

end StructLayout

/-- Finished layouts, the newest first. Each refers only to layouts behind it. -/
abbrev Layouts := List StructLayout

namespace Layouts

def get? (done : Layouts) (name : String) : Option StructLayout := done.find? (·.name = name)

/-- The measures of a finished struct that `owner` refers to. -/
def footprint (done : Layouts) (owner name : String) : Except Fault Footprint :=
  match done.get? name with
  | some l => .ok l.footprint
  | none => .error (.unknownStruct owner name)

end Layouts

/-- A struct in the making: the fields placed so far, the end of the last one, and the greatest
alignment. -/
structure Frame where
  fields : List FieldLayout := []
  cursor : Nat := 0
  alignment : Nat := blockAlignment

namespace Arithmetic
variable {m : Type → Type} [Monad m]

/-- Places a field at the first suitable offset. The end of the field is checked, its offset is not. -/
def place (A : Arithmetic m) (owner : String) (footprint : String → Except Fault Footprint)
    (frame : Frame) (field : FieldDecl) : m (Except Fault Frame) := do
  match ← A.placement owner footprint field.type with
  | .error fault => return .error fault
  | .ok p =>
    let offset ← A.roundUp frame.cursor p.alignment
    return (blockSize owner (addWord? offset p.size)).map fun cursor => {
      fields := frame.fields ++ [⟨field.name, field.type, offset, p.size, p.alignment, p.stride⟩]
      cursor
      alignment := max frame.alignment p.alignment }

def finish (A : Arithmetic m) (owner : String) (frame : Frame) : m StructLayout :=
  return ⟨owner, frame.fields, ← A.roundUp frame.cursor frame.alignment, frame.alignment⟩

end Arithmetic

namespace Frame

def place (owner : String) (footprint : String → Except Fault Footprint) (frame : Frame)
    (field : FieldDecl) : Except Fault Frame :=
  (Arithmetic.exact.place owner footprint frame field).run

theorem place_def (owner : String) (footprint : String → Except Fault Footprint) (frame : Frame)
    (field : FieldDecl) : frame.place owner footprint field = (do
      let p ← field.type.placement owner footprint
      let offset := roundUp frame.cursor p.alignment
      let cursor ← blockSize owner (addWord? offset p.size)
      return {
        fields := frame.fields ++ [⟨field.name, field.type, offset, p.size, p.alignment, p.stride⟩]
        cursor
        alignment := max frame.alignment p.alignment }) := by
  change (match field.type.placement owner footprint with
    | .error fault => Except.error fault
    | .ok p => (blockSize owner (addWord? _ p.size)).map _) = _
  cases field.type.placement owner footprint <;> rfl

def finish (owner : String) (frame : Frame) : StructLayout :=
  (Arithmetic.exact.finish owner frame).run

@[simp] theorem finish_eq (owner : String) (frame : Frame) : frame.finish owner =
    ⟨owner, frame.fields, roundUp frame.cursor frame.alignment, frame.alignment⟩ := rfl

end Frame

end RenderPlan
