import Scanout.DataSlot
import Scanout.Gbm
/-!
# Images

An image is a buffer object, its exported planes and three slots in which
display, renderer and compositor keep what they made of it. Images are values
that live in exactly one place at a time: whoever gives one away no longer
has it.

Identifiers are handed out in order and never twice.
-/

namespace Scanout

structure ImageId where
  number : Nat
  deriving DecidableEq, Repr

structure SwapchainId where
  number : Nat
  deriving DecidableEq, Repr

structure OutputId where
  number : Nat
  deriving DecidableEq, Repr

/-- A buffer object: who made it, its number there, and how it describes itself. -/
inductive Buffer where
  /-- A buffer whose device decides at the time of asking how it is exported. -/
  | device (device number : Nat) (width height : UInt32) (format : Format)
  /-- A GBM buffer object. -/
  | gbm (device number : Nat) (buffer : GbmBuffer)
  deriving DecidableEq, Repr

namespace Buffer

def maker : Buffer → Nat
  | device d _ _ _ _ => d
  | gbm d _ _ => d

def format : Buffer → Format
  | device _ _ _ _ f => f
  | gbm _ _ b => b.format

end Buffer

/-- The slot of a swapchain that an image belongs to. -/
structure SlotRef where
  swapchain : SwapchainId
  index : Nat
  deriving DecidableEq, Repr

/-- A buffer shared between renderer and display. -/
structure Image where
  id : ImageId
  dmabuf : Dmabuf
  buffer : Buffer
  backendData : DataSlot := .empty
  rendererData : DataSlot := .empty
  userData : DataSlot := .empty
  owner : Option SlotRef := none
  deriving DecidableEq, Repr

namespace Image

def width (i : Image) : UInt32 := i.dmabuf.width

def height (i : Image) : UInt32 := i.dmabuf.height

def format (i : Image) : Format := i.dmabuf.format

/-- Whether a swapchain owns the image. -/
def isSwapchainImage (i : Image) : Bool := i.owner.isSome

end Image

end Scanout
