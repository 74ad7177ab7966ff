import Scanout.DeviceFile
import Scanout.Pixel.Format
/-!
# Dmabufs

The planes of a buffer, exported so that others can import them. A builder
takes up to four planes in any order and refuses further ones; the finished
dmabuf lists them by plane index, equal indices in the order they came.
-/

namespace Scanout

/-- One plane: an open file and where the plane's rows lie in it. -/
structure Plane where
  file : DeviceFile
  index : UInt32
  offset : UInt32
  stride : UInt32
  deriving DecidableEq, Repr

/-- Raw flag bits of a dmabuf; bits without a meaning are kept. -/
structure DmabufFlags where
  bits : UInt32
  deriving DecidableEq, Repr

namespace DmabufFlags

def none : DmabufFlags := ⟨0⟩

/-- The rows are stored bottom up. -/
def yInvert (f : DmabufFlags) : Bool := f.bits &&& 1 != 0

/-- The buffer holds two interlaced fields. -/
def interlaced (f : DmabufFlags) : Bool := f.bits &&& 2 != 0

/-- The bottom field comes first. -/
def bottomFirst (f : DmabufFlags) : Bool := f.bits &&& 4 != 0

end DmabufFlags

/-- An exported buffer. -/
structure Dmabuf where
  width : UInt32
  height : UInt32
  format : Format
  flags : DmabufFlags
  planes : List Plane
  deriving DecidableEq, Repr

namespace Dmabuf

/-- The largest number of planes a buffer has. -/
def maxPlanes : Nat := 4

def fourcc (d : Dmabuf) : Fourcc := d.format.code

def modifier (d : Dmabuf) : Modifier := d.format.modifier

def numPlanes (d : Dmabuf) : Nat := d.planes.length

/-- The open files of the planes, in plane order. -/
def files (d : Dmabuf) : List DeviceFile := d.planes.map (·.file)

def offsets (d : Dmabuf) : List UInt32 := d.planes.map (·.offset)

def strides (d : Dmabuf) : List UInt32 := d.planes.map (·.stride)

/-- Whether the layout is neither implicit nor plain rows, and so has to be told. -/
def hasModifier (d : Dmabuf) : Bool :=
  d.modifier != .invalid && d.modifier != .linear

/-- A dmabuf under construction, its planes in the order they were added. -/
structure Builder where
  width : UInt32
  height : UInt32
  format : Format
  flags : DmabufFlags
  planes : List Plane := []
  deriving DecidableEq, Repr

namespace Builder

/-- Adds a plane; a builder with four planes refuses it. -/
def addPlane (b : Builder) (p : Plane) : Bool × Builder :=
  if b.planes.length < maxPlanes then
    (true, { b with planes := b.planes ++ [p] })
  else (false, b)

/-- Adds planes one after the other and says which were taken. -/
def addPlanes (b : Builder) : List Plane → List Bool × Builder
  | [] => ([], b)
  | p :: ps =>
    let (taken, b) := b.addPlane p
    let (rest, b) := b.addPlanes ps
    (taken :: rest, b)

def build? (b : Builder) : Option Dmabuf :=
  if b.planes.isEmpty then none
  else some {
    width := b.width
    height := b.height
    format := b.format
    flags := b.flags
    planes := b.planes.mergeSort fun p q => p.index ≤ q.index }

end Builder

end Dmabuf

end Scanout
