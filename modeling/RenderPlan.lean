import RenderPlan.Main
import RenderPlan.Upload.Replay
import RenderPlan.Proofs.Graph.LeastOrder
import RenderPlan.Proofs.Layout.Acceptance
import RenderPlan.Proofs.Layout.Faults
import RenderPlan.Proofs.Upload.Arithmetic
import RenderPlan.Proofs.Upload.Columns
import RenderPlan.Proofs.Upload.Disjoint
import RenderPlan.Proofs.Upload.PathText
import RenderPlan.Proofs.Upload.Supply
import RenderPlan.Proofs.Pipeline.BindingPoints
import RenderPlan.Proofs.Pipeline.DoubleBuffering
import RenderPlan.Proofs.Pipeline.Faults
import RenderPlan.Proofs.Pipeline.Flattening
import RenderPlan.Proofs.Generation.BufferBlocks
import RenderPlan.Proofs.Generation.DeclarationText
import RenderPlan.Proofs.Generation.Reordering
import RenderPlan.Proofs.Generation.DependencyOrder
import RenderPlan.Proofs.Generation.GlobalNames
import RenderPlan.Proofs.Generation.Sizes
import RenderPlan.Proofs.Invocation.Writing
import RenderPlan.Proofs.Resource.Resizing
import RenderPlan.Proofs.Resource.ShadowSearch
import RenderPlan.Proofs.Resource.WindowSizes
import RenderPlan.Proofs.Specification.RoundTrip
