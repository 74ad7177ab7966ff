import Scanout.Bench.Compositor
import Scanout.Bench.GbmDevice
import Scanout.Bench.XServer
import Scanout.Renderer
/-!
# The surroundings of a scene

Everything outside the library that a scene runs it against: devices, each
with a renderer and a display beside it, at most one X server and one Wayland
compositor, and the sources of identifiers. `host` shows one device with what
is beside it to an allocator.

Whatever the library does to its surroundings is written down in the order it
is done.
-/

namespace Scanout.Bench

/-- What makes buffers. -/
inductive DeviceKind where
  | scripted
  | gbm
  deriving DecidableEq

/-- What shows images. -/
inductive DisplayKind where
  | scripted
  | x11
  | wayland
  deriving DecidableEq

/-- What draws into images. -/
inductive RendererKind where
  | none
  /-- Only told of new and of old images. -/
  | counting
  | egl
  deriving DecidableEq

/-- A device with the renderer and the display beside it. -/
structure Device where
  name : String
  kind : DeviceKind
  display : DisplayKind
  renderer : RendererKind
  settings : DeviceSettings
  /-- How many buffers it made. -/
  made : Nat := 0
  /-- How many images its display imported. -/
  imports : Nat := 0
  /-- How many images its renderer imported. -/
  handles : Nat := 0
  /-- Whether somebody still holds it. -/
  alive : Bool := true

/-- What a scene's library calls reach. -/
structure Surroundings where
  devices : List Device := []
  log : List String := []
  nextImage : Nat := 0
  /-- How many buffers scripted devices made. -/
  buffers : Nat := 0
  /-- The number of the next GBM buffer object. -/
  gbmObjects : Nat := 0
  x11 : Option XStation := none
  wayland : Option WaylandStation := none

namespace Surroundings

def write (s : Surroundings) (line : String) : Surroundings :=
  { s with log := s.log ++ [line] }

def modifyDevice (s : Surroundings) (index : Nat) (f : Device → Device) : Surroundings :=
  { s with devices := s.devices.modify index f }

def count (s : Surroundings) (index : Nat) (field : Device → Nat) : Nat :=
  ((s.devices[index]?).map field).getD 0

/-- Lets a GBM device act, and takes over its log and its count. -/
def withGbm {α : Type} (s : Surroundings) (act : GbmTrace → α × GbmTrace) : α × Surroundings :=
  let (result, t) := act { next := s.gbmObjects }
  (result, { s with log := s.log ++ t.log, gbmObjects := t.next })

def nextImageId (s : Surroundings) : ImageId × Surroundings :=
  (⟨s.nextImage⟩, { s with nextImage := s.nextImage + 1 })

/-- Everything written down since the log was last cleared: devices first, then the
X server, then the compositor. -/
def lines (s : Surroundings) : List String :=
  s.log ++ ((s.x11.map (·.log)).getD []) ++ ((s.wayland.map (·.log)).getD [])

def clearLog (s : Surroundings) : Surroundings :=
  { s with
    log := []
    x11 := s.x11.map fun st => { st with log := [] }
    wayland := s.wayland.map fun st => { st with log := [] } }

end Surroundings

def plainFailure (text : String) : Failure :=
  { message := text }

namespace Device

/-- A buffer of a scripted device, unless the device has made all it can. -/
def makeBuffer (d : Device) (index : Nat) (width height : UInt32) (format : Format)
    (s : Surroundings) : Outcome Failure Buffer × Surroundings :=
  let made := s.count index (·.made)
  if d.settings.limit.any (· ≤ made) then (.failed (plainFailure "out of buffers"), s)
  else
    let number := s.buffers
    let s := { s with buffers := number + 1 }
    (.done (.device index number width height format),
      s.modifyDevice index fun d => { d with made := made + 1 })

def gbmBuffer (index : Nat) (made : Nat × GbmBuffer) : Buffer :=
  .gbm index made.1 made.2

def createExplicit (d : Device) (index : Nat) (width height : UInt32) (fourcc : Fourcc)
    (modifiers : List Modifier) (s : Surroundings) : Outcome Failure Buffer × Surroundings :=
  match d.kind with
  | .gbm =>
    let (result, s) := s.withGbm fun t =>
      t.createExplicit d.settings.gbm width height fourcc modifiers
    (result.map (gbmBuffer index), s)
  | .scripted =>
    let s := s.write
      (s!"{d.name} explicit {width}x{height} {fourcc.code} " ++ logModifiers modifiers)
    if d.settings.refusesExplicit then (.failed (plainFailure "no modifier support"), s)
    else
      let modifier := d.settings.explicitModifier.getD (modifiers.head?.getD .invalid)
      d.makeBuffer index width height ⟨fourcc, modifier⟩ s

def createImplicit (d : Device) (index : Nat) (width height : UInt32) (fourcc : Fourcc)
    (usage : BufferUsage) (s : Surroundings) : Outcome Failure Buffer × Surroundings :=
  match d.kind with
  | .gbm =>
    let (result, s) := s.withGbm fun t =>
      t.createImplicit d.settings.gbm width height fourcc usage
    (result.map (gbmBuffer index), s)
  | .scripted =>
    let s := s.write
      s!"{d.name} implicit {width}x{height} {fourcc.code} usage={usage.bits}"
    if d.settings.refusesImplicit then (.failed (plainFailure "no implicit layout"), s)
    else
      let modifier := d.settings.implicitModifier.getD .invalid
      d.makeBuffer index width height ⟨fourcc, modifier⟩ s

/-- The planes of an exported buffer: as the settings say, or one with rows of four
bytes a pixel. -/
def exportedPlanes (settings : DeviceSettings) (width : UInt32) : List Plane :=
  (settings.planes.getD [⟨0, 0, 4 * width⟩]).map fun p =>
    { file := .null, index := p.index, offset := p.offset, stride := p.stride }

def exportScripted (settings : DeviceSettings) (width height : UInt32) (format : Format) :
    Except Failure Dmabuf :=
  match settings.exportError with
  | some text => .error (plainFailure text)
  | none =>
    let builder : Dmabuf.Builder := {
      width := settings.dmabufWidth.getD width
      height := settings.dmabufHeight.getD height
      format := ⟨format.code, settings.dmabufModifier.getD format.modifier⟩
      flags := settings.dmabufFlags.getD .none }
    match (builder.addPlanes (exportedPlanes settings width)).2.build? with
    | some d => .ok d
    | none => .error (plainFailure "buffer without planes")

end Device

namespace Surroundings

/-- Exports a buffer. How depends on its device as it is now. -/
def exportBuffer (b : Buffer) (s : Surroundings) : Except Failure Dmabuf × Surroundings :=
  match s.devices[b.maker]?, b with
  | some d, .device _ number width height format =>
    (Device.exportScripted d.settings width height format, s.write s!"{d.name} export b{number}")
  | some d, .gbm _ _ buffer => (buffer.exportDmabuf d.alive, s)
  | none, _ => (.error GbmBuffer.deviceDestroyed, s)

def freeBuffer (b : Buffer) (s : Surroundings) : Surroundings :=
  match s.devices[b.maker]?, b with
  | some d, .device _ number .. => s.write s!"{d.name} free b{number}"
  | _, .gbm _ number _ => (s.withGbm fun t => ((), t.destroyObject number)).2
  | none, _ => s

end Surroundings

def countingHooks (d : Device) : Hooks Surroundings :=
  { create := fun image s =>
      let s := s.write s!"{d.name} hook_create i{image.id.number}"
      match d.settings.hookError with
      | some text => (.error (plainFailure text), s)
      | none => (.ok image, s)
    destroy := fun image s => (image, s.write s!"{d.name} hook_destroy i{image.id.number}") }

def eglContext (d : Device) (index : Nat) : EglContext Surroundings :=
  { makeCurrent := fun s =>
      let s := s.write s!"{d.name} egl_current"
      if d.settings.contextLost then (.error (plainFailure "context lost"), s) else (.ok (), s)
    importDmabuf := fun dmabuf s =>
      let s := s.write
        s!"{d.name} egl_import {dmabuf.width}x{dmabuf.height} planes={dmabuf.numPlanes}"
      if d.settings.importRefused then
        (.error { message := "import refused", causes := ["bad layout"] }, s)
      else
        let handle := s.count index (·.handles) + 1
        (.ok handle, s.modifyDevice index fun d => { d with handles := handle })
    destroyImage := fun handle s => s.write s!"{d.name} egl_destroy {handle}" }

def rendererHooks (d : Device) (index : Nat) : Option (Hooks Surroundings) :=
  match d.renderer with
  | .none => none
  | .counting => some (countingHooks d)
  | .egl => some (eglContext d index).hooks

namespace AttachRefusal

/-- The error a refused image is answered with. -/
def error (image : Image) : AttachRefusal → AttachError
  | unsupported => .unsupported image.format
  | tooManyPlanes => .tooManyPlanes image.dmabuf.numPlanes 1
  | descriptor => .descriptor (plainFailure "no more fds")
  | disconnected => .disconnected
  | protocol text => .protocol (plainFailure text)

end AttachRefusal

namespace Device

/-- A scripted display imports an image and numbers the import. -/
def attachScripted (d : Device) (index : Nat) (image : Image) (s : Surroundings) :
    Except AttachError Image × Surroundings :=
  let s := s.write s!"{d.name} attach i{image.id.number}"
  match d.settings.attachRefusal with
  | some refusal => (.error (refusal.error image), s)
  | none =>
    let number := s.count index (·.imports) + 1
    (.ok { image with backendData := image.backendData.set (.token number) },
      s.modifyDevice index fun d => { d with imports := number })

def detachScripted (d : Device) (image : Image) (s : Surroundings) : Image × Surroundings :=
  let line := s!"{d.name} detach i{image.id.number} "
  match image.backendData.take .token with
  | (some (.token number), rest) =>
    ({ image with backendData := rest }, s.write (line ++ s!"import {number}"))
  | _ => (image, s.write (line ++ "nothing"))

def attach (d : Device) (index : Nat) (image : Image) (s : Surroundings) :
    Except AttachError Image × Surroundings :=
  match d.display, s.x11, s.wayland with
  | .x11, some st, _ =>
    let (result, sent, client) := st.client.attach st.server.verdict image
    (result, { s with x11 := some ({ st with client := client }.receiveAll sent) })
  | .wayland, _, some st =>
    let (result, sent, client) := st.client.attach image
    (result, { s with wayland := some ({ st with client := client }.receiveAll sent) })
  | _, _, _ => d.attachScripted index image s

def detach (d : Device) (image : Image) (s : Surroundings) : Image × Surroundings :=
  match d.display, s.x11, s.wayland with
  | .x11, some st, _ =>
    let (image, sent) := X11.releaseImage image
    (image, { s with x11 := some (st.receiveAll sent) })
  | .wayland, _, some st =>
    let (image, sent, client) := st.client.detach image
    (image, { s with wayland := some ({ st with client := client }.receiveAll sent) })
  | _, _, _ => d.detachScripted image s

end Device

/-- A device as its allocator sees it. -/
def Device.host (d : Device) (index : Nat) : Host Surroundings :=
  { createExplicit := d.createExplicit index
    createImplicit := d.createImplicit index
    exportBuffer := Surroundings.exportBuffer
    freeBuffer := Surroundings.freeBuffer
    nextImageId := Surroundings.nextImageId
    hooks := rendererHooks d index
    attach := d.attach index
    detach := d.detach }

end Scanout.Bench
