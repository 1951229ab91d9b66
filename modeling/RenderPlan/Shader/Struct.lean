import RenderPlan.Fault
import RenderPlan.Shader.Spelling

/-! Declared structs and the table of them, which holds each name once. -/
namespace RenderPlan
open Text

structure FieldDecl where
  name : String
  type : ShaderType
  deriving DecidableEq

/-- A declared struct. The order of the fields matters. -/
structure StructDecl where
  name : String
  fields : List FieldDecl
  deriving DecidableEq

/-- The first name that occurs in `seen` or earlier in the list. -/
def firstRepeat (seen : List String) : List String → Option String
  | [] => none
  | n :: ns => if n ∈ seen then some n else firstRepeat (n :: seen) ns

theorem firstRepeat_eq_none_iff {seen ns : List String} :
    firstRepeat seen ns = none ↔ ns.Nodup ∧ ∀ n ∈ ns, n ∉ seen := by
  induction ns generalizing seen with
  | nil => simp [firstRepeat]
  | cons n ns ih =>
    by_cases h : n ∈ seen
    · simp [firstRepeat, h]
    · simp only [firstRepeat, h, if_false, ih, List.nodup_cons, List.mem_cons]
      constructor
      · rintro ⟨hd, hs⟩
        refine ⟨⟨fun hn => (hs n hn) (.inl rfl), hd⟩, ?_⟩
        rintro m (rfl | hm)
        · exact h
        · exact fun hm' => hs m hm (.inr hm')
      · rintro ⟨⟨hn, hd⟩, hs⟩
        refine ⟨hd, fun m hm => ?_⟩
        rintro (rfl | hm')
        · exact hn hm
        · exact hs m (.inr hm) hm'

/-- Structs in declaration order, with distinct names. -/
structure StructTable where
  decls : List StructDecl
  distinct : (decls.map StructDecl.name).Nodup

namespace StructTable

def empty : StructTable := ⟨[], by simp⟩

/-- Refuses the first name that is declared twice. -/
def ofList (decls : List StructDecl) : Except Fault StructTable :=
  match h : firstRepeat [] (decls.map StructDecl.name) with
  | some name => .error (.duplicateName .struct name)
  | none => .ok ⟨decls, (firstRepeat_eq_none_iff.1 h).1⟩

def get? (t : StructTable) (name : String) : Option StructDecl :=
  t.decls.find? (·.name = name)

def contains (t : StructTable) (name : String) : Bool := (t.get? name).isSome

def names (t : StructTable) : List String := t.decls.map StructDecl.name

theorem name_of_get? {t : StructTable} {name : String} {d : StructDecl}
    (h : t.get? name = some d) : d.name = name := by
  simpa using List.find?_some h

theorem mem_of_get? {t : StructTable} {name : String} {d : StructDecl}
    (h : t.get? name = some d) : d ∈ t.decls :=
  List.mem_of_find?_eq_some h

/-- The rules on the fields of one struct, with the names of the fields before. -/
def checkFields (owner : String) (seen : List String) : List FieldDecl → Except Fault Unit
  | [] => .ok ()
  | f :: fs =>
    if !isIdentifier f.name then .error (.invalidIdentifier s!"{owner}.{f.name}")
    else if f.name ∈ seen then .error (.duplicateField owner f.name)
    else if f.type.referenced = some owner then .error (.cyclicStruct owner [owner, owner])
    else checkFields owner (f.name :: seen) fs

def checkDecl (d : StructDecl) : Except Fault Unit :=
  if !isIdentifier d.name then .error (.invalidIdentifier d.name)
  else if ShaderType.isBuiltinName d.name then .error (.reservedName d.name)
  else if d.fields = [] then .error (.emptyStruct d.name)
  else checkFields d.name [] d.fields

/-- The rules that concern one struct at a time, on every struct in order. Unknown names and longer
cycles are found by the layout. -/
def check (t : StructTable) : Except Fault Unit := t.decls.forM checkDecl

end StructTable

end RenderPlan
