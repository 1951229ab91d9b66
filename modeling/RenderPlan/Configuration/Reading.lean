import RenderPlan.Configuration.Basic
import RenderPlan.Format.Toml

/-! Configurations read from a file. A setting that is left out keeps its default, and a setting
that is not known is refused. -/
namespace RenderPlan
open Format Text

namespace Configuration

/-- A word of a vocabulary, or a table with the word as its only key and nothing under it. -/
def label? {α : Type} [Labelled α] : Toml → Option α
  | .string word => Labelled.ofLabel? word
  | .table _ [(word, .table _ [])] | .table _ [(word, .array [])] => Labelled.ofLabel? word
  | _ => none

def text? : Toml → Option String
  | .string s => some s
  | _ => none

def pixels? : Toml → Option UInt32
  | .integer n => if 0 ≤ n ∧ n < UInt32.size then some (UInt32.ofNat n.toNat) else none
  | _ => none

/-- The size of the window: a table, in which other keys are passed over, or the two numbers in
order. -/
def window? : Toml → Option WindowSize
  | .table _ entries => do
    return {
      width := ← (entries.lookup "width").bind pixels?
      height := ← (entries.lookup "height").bind pixels? }
  | .array (width :: height :: _) => do
    return { width := ← pixels? width, height := ← pixels? height }
  | _ => none

def set (c : Configuration) : String × Toml → Option Configuration
  | ("backend", v) => (label? v).map fun backend => { c with backend }
  | ("windowing", v) => (label? v).map fun windowing => { c with windowing }
  | ("output_dir", v) => (text? v).map fun outputDir => { c with outputDir }
  | ("initial_window", v) => (window? v).map fun window => { c with window }
  | _ => none

def parse (text : String) : Option Configuration :=
  (Toml.parse text).bind fun entries => entries.foldlM set {}

end Configuration

end RenderPlan
