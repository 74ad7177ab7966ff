import Scanout.Allocator
import Scanout.Output.Registry
import Scanout.Pixel.FormatSet
import Scanout.Wayland.Request
/-!
# Outputs on a Wayland compositor

Every output is a toplevel window. Presenting attaches a buffer, asks to be
called back and commits; the callback ends the frame, and later the compositor
releases the buffer. A release names the buffer only, so it goes to whichever
output shows that image.

The client is a state machine: calls and compositor events change its state
and leave requests to be sent. Events for objects the client has destroyed are
dropped, and so is a callback whose output is gone.
-/

namespace Scanout.Wayland

/-- Why a display could not be opened, or an output not be made. -/
inductive Error where
  | missingGlobal (interface : Interface)
  /-- The connection broke while an answer was awaited. -/
  | dispatch
  | disconnected
  deriving DecidableEq, Repr

/-- The text of an error, where it has one of its own. -/
def Error.message : Error → String
  | missingGlobal i => s!"The remote compositor does not support {i.name}"
  | dispatch => "The connection to the remote compositor broke"
  | disconnected => "The connection to the remote compositor is gone"

/-- A bound global: its number among those of its kind, and the version bound. -/
structure Bound where
  object : Nat
  version : UInt32
  deriving DecidableEq, Repr

/-- What the display keeps for one output. -/
structure Toplevel where
  /-- The number of the output's surface, shell surface and toplevel. -/
  object : Nat
  /-- The version of the surface, which is that of the global it was made with. -/
  version : UInt32
  /-- The callback that will end the frame in flight. -/
  frameCallback : Option Nat := none
  info : OutputInfo
  deriving DecidableEq, Repr

/-- The callbacks that were asked for. -/
structure Callbacks where
  next : Nat := 0
  /-- Those without an answer, with the outputs that wait for them. -/
  unanswered : List (Nat × OutputId) := []
  deriving DecidableEq, Repr

/-- An output as a place for frames, with the requests to be sent. -/
structure Canvas where
  id : OutputId
  toplevel : Toplevel
  callbacks : Callbacks
  sent : List Request := []
  deriving DecidableEq, Repr

namespace Canvas

/-- The failure of presenting an image that this compositor knows nothing of. -/
def notImported : Failure :=
  { message := "image has no wl_buffer" }

/-- The version of surfaces from which on damage is told in buffer coordinates. -/
def damageVersion : UInt32 := 4

/-- Attaches a buffer, damages all of it, asks for a callback and commits. That the surface
might be gone is no case: only listed outputs are shown on, each of them has a surface
that nobody else knows, and it is destroyed when the output leaves the list. -/
def present (image : Image) (c : Canvas) : Outcome Failure Unit × Canvas :=
  match image.backendData.value? with
  | some (.remoteBuffer buffer) =>
    let surface := c.toplevel.object
    let damage := if c.toplevel.version ≥ damageVersion then [.damageBuffer surface] else []
    let callback := c.callbacks.next
    (.done (), { c with
      toplevel := { c.toplevel with frameCallback := some callback }
      callbacks := {
        next := callback + 1
        unanswered := c.callbacks.unanswered ++ [(callback, c.id)] }
      sent := c.sent ++ [.attach surface buffer] ++ damage
        ++ [.frame surface callback, .commit surface] })
  | _ => (.failed notImported, c)

/-- Forgets the callback of the frame in flight. It stays open, and when it is
answered it finds no output. -/
def cancel (c : Canvas) : Canvas :=
  { c with toplevel := { c.toplevel with frameCallback := none } }

/-- An output as the scheduler sees it. -/
def surface : Surface Canvas :=
  { present := present, cancel := cancel }

end Canvas

/-- The identifier of an application nobody named. -/
def standardAppId : String := "ferrule"

/-- A display on a Wayland compositor. -/
structure Client where
  appId : String
  mode : Mode
  compositor : Option Bound := none
  dmabuf : Option Bound := none
  wmBase : Option Bound := none
  formats : FormatSet := {}
  registry : Registry Toplevel := {}
  created : Nat := 0
  buffersMade : Nat := 0
  /-- The buffers not destroyed, with their images. -/
  buffers : List (Nat × ImageId) := []
  callbacks : Callbacks := {}
  deriving DecidableEq, Repr

inductive Event where
  | global (name : UInt32) (interface : String) (version : UInt32)
  | globalRemove (name : UInt32)
  /-- A format whose layout is implicit. -/
  | format (code : UInt32)
  | modifier (code high low : UInt32)
  | toplevelConfigure (toplevel : Nat) (width height : Int32)
  | toplevelClose (toplevel : Nat)
  | surfaceConfigure (xdgSurface : Nat) (serial : UInt32)
  | ping (wmBase : Nat) (serial : UInt32)
  | done (callback : Nat)
  | release (buffer : Nat)
  deriving DecidableEq, Repr

namespace Client

def bound? (c : Client) : Interface → Option Bound
  | .compositor => c.compositor
  | .dmabuf => c.dmabuf
  | .wmBase => c.wmBase

/-- The first needed global that the compositor lacks. -/
def missing? (c : Client) : Option Interface :=
  [Interface.compositor, .dmabuf, .wmBase].find? fun i => (c.bound? i).isNone

/-- Uses a newly bound global from now on. -/
def setBound (c : Client) (i : Interface) (b : Bound) : Client :=
  match i with
  | .compositor => { c with compositor := some b }
  | .dmabuf => { c with dmabuf := some b }
  | .wmBase => { c with wmBase := some b }

/-- Binds a global. One announced later takes the place of an earlier one. -/
def bindGlobal (c : Client) (i : Interface) (name announced : UInt32) : List Request × Client :=
  let object := match c.bound? i with
    | none => 0
    | some b => b.object + 1
  let version := i.boundVersion announced
  ([.bind i name version object], c.setBound i ⟨object, version⟩)

/-- Records a format the compositor accepts; numbers that name none are ignored. -/
def advertise (c : Client) (code : UInt32) (m : Modifier) : Client :=
  match Fourcc.ofCode? code with
  | none => c
  | some code => { c with formats := c.formats.insert ⟨code, m⟩ }

/-- An output as a place for frames. -/
def canvas (c : Client) (id : OutputId) (t : Toplevel) : Canvas :=
  { id := id, toplevel := t, callbacks := c.callbacks }

/-- Makes the objects of a new output and announces it. The compositor is asked
for a first configuration, which the caller has to await. -/
def createOutput (c : Client) (id : OutputId) : Except Error OutputId × List Request × Client :=
  if c.registry.disconnected then (.error .disconnected, [], c)
  else
    match c.compositor, c.wmBase with
    | some compositor, some wmBase =>
      let object := c.created
      let name := s!"WL-{object + 1}"
      let info : OutputInfo :=
        { name := name, make := "wayland", model := "wayland", mode := c.mode }
      let toplevel : Toplevel := { object := object, version := compositor.version, info := info }
      (.ok id,
        [.createSurface compositor.object object,
          .getXdgSurface wmBase.object object object,
          .getToplevel object object,
          .setTitle object (c.appId ++ " - " ++ name),
          .setAppId object c.appId,
          .commit object],
        { c with
          created := object + 1
          registry := c.registry.insert id { scheduler := {}, details := toplevel } })
    | _, _ => (.error (.missingGlobal .wmBase), [], c)

def putBack (c : Client) (f : FrameScheduler) (used : Canvas) : Client :=
  { c with
    callbacks := used.callbacks
    registry := (c.registry.set used.id { scheduler := f, details := used.toplevel }).collect }

def scheduleFrame (c : Client) (id : OutputId) (image : Image) :
    ScheduleOutcome × List Request × Client :=
  match c.registry.get? id with
  | none => (.unknownOutput image, [], c)
  | some o =>
    let (submission, f, used) := o.scheduler.schedule Canvas.surface image (c.canvas id o.details)
    (.submitted submission, used.sent, c.putBack f used)

/-- Ends an output's window and its pacing. -/
def teardown (o : Output Toplevel) (sent : List Request) : FrameScheduler × List Request :=
  let blank : Canvas := { id := ⟨0⟩, toplevel := o.details, callbacks := {}, sent := sent }
  let (f, used) := o.scheduler.destroy Canvas.surface blank
  let object := o.details.object
  (f, used.sent ++ [.destroyToplevel object, .destroyXdgSurface object, .destroySurface object])

def destroyOutput (c : Client) (id : OutputId) : Bool × List Request × Client :=
  let (found, registry, sent) := c.registry.destroy id teardown []
  (found, sent, { c with registry := registry })

def connectionClosed (c : Client) : List Request × Client :=
  let (_, registry, sent) := c.registry.disconnect teardown []
  (sent, { c with registry := registry })

/-- The output whose objects have the given number. -/
def outputOf? (c : Client) (object : Nat) : Option (OutputId × Output Toplevel) :=
  c.registry.find? fun o => o.details.object == object

/-- A callback was answered, which ends the frame in flight. -/
def done (c : Client) (callback : Nat) : List Request × Client :=
  match c.callbacks.unanswered.lookup callback with
  | none => ([], c)
  | some id =>
    let c := { c with callbacks := { c.callbacks with
      unanswered := c.callbacks.unanswered.filter (·.1 ≠ callback) } }
    match c.registry.get? id with
    -- the output was destroyed meanwhile
    | none => ([], c)
    | some o =>
      let (_, f, used) := o.scheduler.frameDone Canvas.surface
        (c.canvas id { o.details with frameCallback := none })
      (used.sent, c.putBack f used)

def configure (c : Client) (toplevel : Nat) (width height : Int32) : Client :=
  match Mode.ofConfigure? width height, c.outputOf? toplevel with
  | some mode, some (id, o) =>
    if o.details.info.mode = mode then c
    else
      let o := {
        scheduler := o.scheduler.modeChanged mode
        details := { o.details with info := { o.details.info with mode := mode } } }
      { c with registry := (c.registry.set id o).collect }
  -- no size, or the window of no output
  | _, _ => c

def close (c : Client) (toplevel : Nat) : List Request × Client :=
  match c.outputOf? toplevel with
  | none => ([], c)
  | some (id, _) => (c.destroyOutput id).2

/-- A buffer is no longer read. -/
def release (c : Client) (buffer : Nat) : Client :=
  match c.buffers.lookup buffer with
  | none => c
  | some image => { c with registry := (c.registry.bufferReleased image).2 }

def handle (c : Client) : Event → List Request × Client
  | .global name interface version =>
    match Interface.ofName? interface with
    | none => ([], c)
    | some i => c.bindGlobal i name version
  | .globalRemove _ => ([], c)
  | .format code => ([], c.advertise code .invalid)
  | .modifier code high low => ([], c.advertise code (.join high low))
  | .toplevelConfigure toplevel width height => ([], c.configure toplevel width height)
  | .toplevelClose toplevel => c.close toplevel
  | .surfaceConfigure xdgSurface serial =>
    match c.outputOf? xdgSurface with
    | none => ([], c)
    | some _ => ([.ackConfigure xdgSurface serial], c)
  | .ping wmBase serial => ([.pong wmBase serial], c)
  | .done callback => c.done callback
  | .release buffer => ([], c.release buffer)

def handleAll (c : Client) : List Event → List Request × Client
  | [] => ([], c)
  | e :: rest =>
    let (sent, c) := c.handle e
    let (more, c) := handleAll c rest
    (sent ++ more, c)

def bufferFlags (f : DmabufFlags) : BufferFlags :=
  { yInvert := f.yInvert, interlaced := f.interlaced, bottomFirst := f.bottomFirst }

/-- The requests that make a buffer of a dmabuf: its planes one by one, each with
the layout, then the buffer itself. -/
def importRequests (dmabuf buffer : Nat) (d : Dmabuf) : List Request :=
  let (high, low) := d.modifier.split
  .createParams dmabuf buffer
    :: d.planes.map (fun p => .addPlane buffer p.file p.index p.offset p.stride high low)
    ++ [.createImmed buffer buffer d.width.toInt32 d.height.toInt32 d.fourcc.code
          (bufferFlags d.flags),
        .destroyParams buffer]

def attach (c : Client) (image : Image) : Except AttachError Image × List Request × Client :=
  if c.registry.disconnected then (.error .disconnected, [], c)
  else if (c.formats.get? image.format.code).isNone then
    (.error (.unsupported image.format), [], c)
  else
    match c.dmabuf with
    | none => (.error .disconnected, [], c)
    | some dmabuf =>
      let buffer := c.buffersMade
      (.ok { image with backendData := image.backendData.set (.remoteBuffer buffer) },
        importRequests dmabuf.object buffer image.dmabuf,
        { c with buffersMade := buffer + 1, buffers := c.buffers ++ [(buffer, image.id)] })

/-- Destroys the buffer of an image, if it has one. -/
def detach (c : Client) (image : Image) : Image × List Request × Client :=
  match image.backendData.take .remoteBuffer with
  | (some (.remoteBuffer buffer), rest) =>
    ({ image with backendData := rest }, [.destroyBuffer buffer],
      { c with buffers := c.buffers.filter (·.1 ≠ buffer) })
  | _ => (image, [], c)

def outputInfo? (c : Client) (id : OutputId) : Option OutputInfo :=
  (c.registry.get? id).map (·.details.info)

end Client

end Scanout.Wayland
