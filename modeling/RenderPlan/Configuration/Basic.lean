import RenderPlan.Configuration.Window
import RenderPlan.Text.Labelled

/-! The settings of a generation and their defaults. -/
namespace RenderPlan
open Text

/-- The graphics interface that is generated for. -/
inductive Backend
  | opengl
  | d3d12
  deriving DecidableEq, Repr

instance : Labelled Backend where
  all := [.opengl, .d3d12]
  label
    | .opengl => "opengl"
    | .d3d12 => "d3d12"

/-- The library that opens the window. -/
inductive Windowing
  | sdl
  | glfw
  deriving DecidableEq, Repr

instance : Labelled Windowing where
  all := [.sdl, .glfw]
  label
    | .sdl => "sdl"
    | .glfw => "glfw"

structure Configuration where
  backend : Backend := .opengl
  windowing : Windowing := .sdl
  /-- The directory that artifacts are written to. -/
  outputDir : String := "generated"
  /-- The window that the first resize plan is made for. -/
  window : WindowSize := { width := 1280, height := 720 }
  deriving DecidableEq, Repr

end RenderPlan
