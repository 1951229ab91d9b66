import RenderPlan.Graph.TopologicalOrder
import RenderPlan.Resource.Check
import RenderPlan.Resource.Resize
import RenderPlan.Resource.Shadow

/-! The graph of checked resources. Framebuffers depend on the textures they attach and programs on
the stages they link; whether a resource follows the window is kept beside its declaration. -/
namespace RenderPlan

/-- Checked declarations in order, shadows at the end. The position of every name, the latest first,
and whether each resource follows the window are kept beside them. -/
structure ResourceGraph where
  decls : List ResourceDecl := []
  index : List (String × Nat) := []
  windowRelative : List Bool := []
  deriving DecidableEq

namespace ResourceGraph

def names (g : ResourceGraph) : List String := g.decls.map ResourceDecl.name

def position? (g : ResourceGraph) (name : String) : Option Nat := g.index.lookup name

def get? (g : ResourceGraph) (name : String) : Option ResourceDecl :=
  (g.position? name).bind (g.decls[·]?)

def require (g : ResourceGraph) (referrer name : String) (expected : ResourceClass) :
    Except Fault ResourceDecl :=
  ResourceDecl.require g.get? referrer name expected

/-- Declarations with their positions, before it is known what follows the window. -/
def indexed (decls : List ResourceDecl) : ResourceGraph where
  decls
  index := (decls.map ResourceDecl.name).zipIdx.reverse
  windowRelative := decls.map fun _ => false

/-- Checks the names first, then each declaration in order. -/
def build (decls : List ResourceDecl) : Except Fault ResourceGraph := do
  checkNames .resource [] (decls.map ResourceDecl.name)
  let g := indexed decls
  decls.forM (ResourceDecl.check g.get?)
  return { g with windowRelative := decls.map (ResourceDecl.isWindowRelative g.get?) }

def push (g : ResourceGraph) (d : ResourceDecl) : ResourceGraph :=
  let g : ResourceGraph :=
    { g with decls := g.decls ++ [d], index := (d.name, g.decls.length) :: g.index }
  { g with windowRelative := g.windowRelative ++ [d.isWindowRelative g.get?] }

/-- Steps that change a graph. A step that fails keeps the graph it came to. -/
abbrev Extending := EStateM Fault ResourceGraph

/-- Adds the copy of a texture under the shadow's name. The copy has all parameters of the texture,
so it follows the window as the texture does. -/
def addShadow (shadow : ShadowTarget) : Extending Unit := do
  let g ← get
  match g.require shadow.name shadow.texture .texture with
  | .error fault => throw fault
  | .ok d =>
    if (g.position? shadow.name).isSome then throw (.duplicateName .resource shadow.name)
    set (g.push ⟨shadow.name, d.kind⟩)

def isWindowRelative (g : ResourceGraph) (name : String) : Bool :=
  match g.position? name with
  | some i => g.windowRelative[i]?.getD false
  | none => false

/-- The names of the resources that a change of the window's size touches, sorted. -/
def affected (g : ResourceGraph) : List String :=
  (((g.decls.zip g.windowRelative).filter Prod.snd).map (·.1.name)).mergeSort (· ≤ ·)

/-- An edge from every dependency to what depends on it, by position. -/
def dependencyEdges (g : ResourceGraph) : List (Nat × Nat) :=
  g.decls.zipIdx.flatMap fun (d, child) =>
    (d.kind.dependencies.filterMap g.position?).map (·, child)

/-- The resources in an order of creation: dependencies first, declaration order otherwise. -/
def creationOrder (g : ResourceGraph) : List ResourceDecl :=
  match Graph.topologicalOrder g.decls.length g.dependencyEdges with
  | .ok order => order.filterMap (g.decls[·]?)
  | .error _ => g.decls

/-- A texture that follows the window, at its new size. -/
def recreate? (width height : UInt32) (d : ResourceDecl) : Option TextureRecreate :=
  match d.kind with
  | .texture { format, mipLevels, size := some (.windowRelative x y), clear, .. } =>
    let (w, h) := (SizePolicy.windowRelative x y).resolve width height
    some ⟨d.name, format, mipLevels, clear, w, h⟩
  | _ => none

/-- A framebuffer that attaches one of the recreated textures. -/
def rebind? (recreated : List String) (d : ResourceDecl) : Option FramebufferRebind :=
  match d.kind with
  | .framebuffer f =>
    if f.attachments.any (· ∈ recreated) then some ⟨d.name, f.rebinds⟩ else none
  | _ => none

def planResize (g : ResourceGraph) (width height : UInt32) : ResizePlan :=
  let textures := g.decls.filterMap (recreate? width height)
  let recreated := textures.map TextureRecreate.name
  ⟨width, height, textures, g.decls.filterMap (rebind? recreated)⟩

end ResourceGraph

end RenderPlan
