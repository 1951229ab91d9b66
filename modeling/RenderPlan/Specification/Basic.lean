import RenderPlan.Shader.Struct
import RenderPlan.Resource.Kind
import RenderPlan.Pipeline.Pass

/-! A rendering specification: structs, resources and pipelines, each in the order of
declaration. -/
namespace RenderPlan

structure Specification where
  structs : List StructDecl := []
  resources : List ResourceDecl := []
  pipelines : List Pipeline := []
  deriving DecidableEq

namespace Specification

def addStruct (s : Specification) (d : StructDecl) : Specification :=
  { s with structs := s.structs ++ [d] }

def addResource (s : Specification) (d : ResourceDecl) : Specification :=
  { s with resources := s.resources ++ [d] }

def addPipeline (s : Specification) (p : Pipeline) : Specification :=
  { s with pipelines := s.pipelines ++ [p] }

end Specification

end RenderPlan
