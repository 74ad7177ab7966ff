import Scanout.Dmabuf
import Scanout.Outcome
/-!
# GBM buffer objects

A GBM device answers with buffer objects, and an object says of itself what
size, format and planes it has. A `GbmBuffer` is such an object as seen by
the allocator: its format is read once, when it is made, and an object that
was made without a list of layouts counts as implicit (or as plain rows, if
that is what was asked for) whatever the object says.

Exporting needs the device to be alive still. It asks how many planes there
are and then for every plane in turn, and fails with the first question that
is not answered.
-/

namespace Scanout

/-- What a buffer will be used for, as raw bits. -/
structure BufferUsage where
  bits : UInt32
  deriving DecidableEq, Repr

namespace BufferUsage

/-- The renderer draws into it. -/
def rendering : BufferUsage := ⟨1⟩

/-- The display shows it. -/
def scanout : BufferUsage := ⟨2⟩

/-- Its rows are stored one after the other. -/
def linear : BufferUsage := ⟨4⟩

def union (a b : BufferUsage) : BufferUsage := ⟨a.bits ||| b.bits⟩

def contains (a b : BufferUsage) : Bool := a.bits &&& b.bits == b.bits

end BufferUsage

namespace Gbm

/-- The bits by which a GBM device knows a usage. -/
def usageBits (u : BufferUsage) : Nat :=
  (if u.contains .scanout then 1 else 0)
    + (if u.contains .rendering then 4 else 0)
    + (if u.contains .linear then 16 else 0)

/-- A buffer object as its device reports it. -/
structure Object where
  width : UInt32
  height : UInt32
  /-- The number reported as format, which need not be one. -/
  formatCode : UInt32
  modifier : Modifier
  /-- Offset and stride of every plane. -/
  planes : List (UInt32 × UInt32)
  /-- The plane whose descriptor cannot be had, if there is one. -/
  badPlane : Option Nat
  deriving DecidableEq, Repr

/-- The layout a buffer is taken to have, given how it was asked for. -/
inductive LayoutRule where
  /-- The layout the object reports. -/
  | reported
  /-- An implicit layout. -/
  | implicit
  /-- Plain rows. -/
  | linear
  deriving DecidableEq, Repr

def LayoutRule.ofUsage (u : BufferUsage) : LayoutRule :=
  if u.contains .linear then .linear else .implicit

/-- What an object answers when it is asked for its planes: how many there are, and of the plane at
a place an open file, where its rows start and how long they are. Any question can fail. -/
structure PlaneAnswers where
  count : Except Failure UInt32
  file : Nat → Except Failure DeviceFile
  offset : Nat → Except Failure UInt32
  stride : Nat → Except Failure UInt32

namespace PlaneAnswers

/-- The plane at a place, which is its index. -/
def plane (q : PlaneAnswers) (place : Nat) : Except Failure Plane := do
  let file ← q.file place
  let offset ← q.offset place
  let stride ← q.stride place
  return { file := file, index := place.toUInt32, offset := offset, stride := stride }

/-- How many planes are asked for: the count is read as a signed word, and none is asked for if
that is negative. -/
def asked (count : UInt32) : Nat := count.toInt32.toNatClampNeg

end PlaneAnswers

end Gbm

/-- A GBM buffer object with its size and format as read when it was made. -/
structure GbmBuffer where
  object : Gbm.Object
  width : UInt32
  height : UInt32
  format : Format
  deriving DecidableEq, Repr

namespace GbmBuffer

/-- Reads size and format of a new object. An unknown format is a broken contract. -/
def ofObject (o : Gbm.Object) (rule : Gbm.LayoutRule) : Except Fault GbmBuffer :=
  match Fourcc.ofCode? o.formatCode with
  | none => .error (.unknownGbmFormat o.formatCode)
  | some code =>
    let modifier :=
      match rule with
      | .reported => o.modifier
      | .implicit => .invalid
      | .linear => .linear
    .ok { object := o, width := o.width, height := o.height, format := ⟨code, modifier⟩ }

def deviceDestroyed : Failure :=
  { message := "The underlying GBM device was already destroyed" }

def badDescriptor : Failure :=
  { message := "The returned fd is invalid", causes := ["The returned fd is invalid"] }

def withoutPlanes : Failure :=
  { message := "GBM buffer object without planes" }

/-- What an object answers. It answers nothing once its device is gone. -/
def planeAnswers (o : Gbm.Object) (alive : Bool) : Gbm.PlaneAnswers :=
  if alive then
    { count := .ok o.planes.length.toUInt32
      file := fun place => if o.badPlane = some place then .error badDescriptor else .ok .null
      offset := fun place => .ok (o.planes[place]?.getD (0, 0)).1
      stride := fun place => .ok (o.planes[place]?.getD (0, 0)).2 }
  else
    { count := .error deviceDestroyed
      file := fun _ => .error deviceDestroyed
      offset := fun _ => .error deviceDestroyed
      stride := fun _ => .error deviceDestroyed }

/-- Asks for planes from a place on and adds them to a builder. Whether the builder takes a plane
is not looked at. -/
def addPlanesFrom (q : Gbm.PlaneAnswers) :
    (left place : Nat) → Dmabuf.Builder → Except Failure Dmabuf.Builder
  | 0, _, builder => .ok builder
  | left + 1, place, builder => do
    let plane ← q.plane place
    addPlanesFrom q left (place + 1) (builder.addPlane plane).2

/-- A builder for what the buffer is exported as. -/
def builder (b : GbmBuffer) : Dmabuf.Builder :=
  { width := b.width, height := b.height, format := b.format, flags := .none }

/-- Exports the buffer, given what its object answers. -/
def exportBy (b : GbmBuffer) (q : Gbm.PlaneAnswers) : Except Failure Dmabuf := do
  let count ← q.count
  let builder ← addPlanesFrom q (Gbm.PlaneAnswers.asked count) 0 b.builder
  match builder.build? with
  | some d => .ok d
  | none => .error withoutPlanes

/-- Exports the buffer; `alive` says whether its device still is. -/
def exportDmabuf (b : GbmBuffer) (alive : Bool) : Except Failure Dmabuf :=
  b.exportBy (planeAnswers b.object alive)

end GbmBuffer

end Scanout
