import RenderPlan.Number.Binary32
import RenderPlan.Upload.Plan

/-! Running an upload plan against a buffer. Values come from a supplier that may keep a state of
its own and is asked once for each write, in order. -/
namespace RenderPlan
open Number

inductive HostValue
  | bool (b : Bool)
  | int (i : Int32)
  | uint (n : UInt32)
  | float (x : Binary32)
  deriving DecidableEq

namespace HostValue

def scalar : HostValue → Scalar
  | bool _ => .bool
  | int _ => .int
  | uint _ => .uint
  | float _ => .float

def word : HostValue → UInt32
  | bool b => if b then 1 else 0
  | int i => i.toUInt32
  | uint n => n
  | float x => x.bits

end HostValue

inductive ReplayError
  | destinationTooSmall (structName : String) (needed actual : Nat)
  | missingValue (path : ValuePath)
  | kindMismatch (path : ValuePath) (expected found : Scalar)
  deriving DecidableEq

def ReplayError.message : ReplayError → String
  | destinationTooSmall structName needed actual =>
    s!"destination holds {actual} bytes but '{structName}' needs {needed}"
  | missingValue path => s!"no value supplied for '{path.text}'"
  | kindMismatch path expected found =>
    s!"'{path.text}' expects a {expected.label} value, got {found.label}"

/-- The bytes of a word, the least significant first. -/
def wordBytes (w : UInt32) : List UInt8 :=
  [w.toUInt8, (w >>> 8).toUInt8, (w >>> 16).toUInt8, (w >>> 24).toUInt8]

/-- Overwrites the bytes from `offset` on. -/
def writeBytes (dest : Array UInt8) (offset : Nat) : List UInt8 → Array UInt8
  | [] => dest
  | b :: bs => writeBytes (dest.setIfInBounds offset b) (offset + 1) bs

/-- What a replay leaves behind: its result, the buffer, and the state of the supplier. -/
structure Replayed (σ : Type) where
  result : Except ReplayError Unit
  dest : Array UInt8
  state : σ

/-- Performs writes until the first one that gets no value of its kind. -/
def replayWrites {σ : Type} (supply : σ → ScalarWrite → Option HostValue × σ) :
    List ScalarWrite → Array UInt8 → σ → Replayed σ
  | [], dest, s => ⟨.ok (), dest, s⟩
  | w :: ws, dest, s =>
    match supply s w with
    | (none, s) => ⟨.error (.missingValue w.path), dest, s⟩
    | (some v, s) =>
      if v.scalar = w.scalar then
        replayWrites supply ws (writeBytes dest w.offset (wordBytes v.word)) s
      else ⟨.error (.kindMismatch w.path w.scalar v.scalar), dest, s⟩

/-- Uploads a value into a buffer that is large enough for the struct. -/
def UploadPlan.replay {σ : Type} (p : UploadPlan) (supply : σ → ScalarWrite → Option HostValue × σ)
    (dest : Array UInt8) (s : σ) : Replayed σ :=
  if dest.size < p.totalSize then
    ⟨.error (.destinationTooSmall p.structName p.totalSize dest.size), dest, s⟩
  else replayWrites supply p.writes dest s

end RenderPlan
