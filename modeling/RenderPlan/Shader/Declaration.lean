import RenderPlan.Shader.Struct

/-! Shader-side texts of structs and uniform blocks. -/
namespace RenderPlan

/-- One member: the base of the type, the name, then the array lengths. -/
def memberDeclaration (name : String) (type : ShaderType) : String :=
  let spelled := type.spelling.toList
  let base := spelled.takeWhile (· != '[')
  let lengths := spelled.dropWhile (· != '[')
  String.ofList base ++ " " ++ name ++ String.ofList lengths ++ ";"

namespace StructDecl

def members (d : StructDecl) : String :=
  String.join (d.fields.map fun f => "    " ++ memberDeclaration f.name f.type ++ "\n")

def declaration (d : StructDecl) : String :=
  "struct " ++ d.name ++ "\n\x7b\n" ++ d.members ++ "\x7d;\n"

/-- A uniform block with the fields of the struct. Without an instance name the members are visible
at global scope. -/
def uniformBlock (d : StructDecl) (binding : UInt32) (block inst : String) : String :=
  let scope := if inst = "" then "" else " " ++ inst
  "layout(std140, binding = " ++ Text.decimal binding.toNat ++ ")\nuniform " ++ block ++
    "\n\x7b\n" ++
    d.members ++ "\x7d" ++ scope ++ ";\n"

end StructDecl

end RenderPlan
