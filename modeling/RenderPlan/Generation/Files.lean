import RenderPlan.Configuration.Basic
import RenderPlan.Format.RonWriter
import RenderPlan.Generation.Encoding

/-! The files that artifacts are written to, with their exact contents. The last one is a manifest
of the others. -/
namespace RenderPlan
open Format

structure ArtifactFile where
  name : String
  contents : String
  deriving DecidableEq, Repr

def WindowSize.toData (w : WindowSize) : Data :=
  .record [("width", .word32 w.width), ("height", .word32 w.height)]

namespace Artifacts

/-- The name and version under which manifests are signed. -/
def generatorName : String := "pipegen 0.1.0"

def planFiles (a : Artifacts) (window : WindowSize) : List ArtifactFile :=
  [ { name := "layouts.ron", contents := (Data.listOf StructLayout.toData a.layouts).ronFile },
    { name := "marshal.ron", contents := (Data.listOf UploadPlan.toData a.plans).ronFile },
    { name := "setup.ron", contents := (Data.listOf SetupStep.toData a.setup).ronFile },
    { name := "resize.ron"
      contents := (a.resizePlan window.width window.height).toData.ronFile },
    { name := "pipelines.ron"
      contents := (Data.listOf PipelineEmission.toData a.pipelines).ronFile },
    { name := "structs.glsl", contents := a.shaderText } ]

def manifest (a : Artifacts) (c : Configuration) (files : List String) : Data :=
  .record [
    ("generator", .text generatorName),
    ("backend", .label c.backend),
    ("windowing", .label c.windowing),
    ("initial_window", c.window.toData),
    ("structs", .nat a.layouts.length),
    ("resources", .nat a.setup.length),
    ("pipelines", .texts (a.pipelines.map (·.name))),
    ("diagnostics", .texts (a.diagnostics.map (·.message))),
    ("files", .texts files)]

/-- All files, in the order in which they are written. -/
def files (a : Artifacts) (c : Configuration) : List ArtifactFile :=
  let plans := a.planFiles c.window
  plans ++ [{ name := "manifest.ron", contents := (a.manifest c (plans.map (·.name))).ronFile }]

end Artifacts

end RenderPlan
