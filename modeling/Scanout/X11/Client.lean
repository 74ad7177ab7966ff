import Scanout.Output.Registry
import Scanout.X11.Import
/-!
# Outputs on an X server

Every output is a window. Presenting hands the server a pixmap and the time at
which to show it, one refresh after the last one known; the server answers
with a completion, which ends the frame, and later with an idle notice, which
gives the pixmap back. `inFlight` remembers which image a pixmap belongs to.

The client is a state machine: calls and server events change its state, with
the requests that were written meanwhile. Naming a time beyond the last one is a
fault; the serial number has been used up by then, as it is for a presentation
that the connection does not take.
-/

namespace Scanout.X11

/-- What the display keeps for one output. -/
structure Window where
  window : ResourceId
  /-- Identifies the subscription to present events. -/
  presentEvent : ResourceId
  info : OutputInfo
  serial : UInt32 := 0
  /-- The refresh count at the last completion. -/
  lastMsc : UInt64 := 0
  /-- The pixmaps the server has not given back, with their images. -/
  inFlight : List (ResourceId × ImageId) := []
  deriving DecidableEq, Repr

namespace Window

/-- Records a pixmap as in flight, in place of an older record of it. -/
def remember (w : Window) (pixmap : ResourceId) (image : ImageId) : Window :=
  { w with inFlight := w.inFlight.filter (·.1 ≠ pixmap) ++ [(pixmap, image)] }

def forget (w : Window) (pixmap : ResourceId) : Window :=
  { w with inFlight := w.inFlight.filter (·.1 ≠ pixmap) }

/-- The failure of presenting an image that this server knows nothing of. -/
def notImported : Failure :=
  { message := "image was not imported into the X server" }

/-- A window whose next serial number is used up. -/
def countUp (w : Window) : Window :=
  { w with serial := w.serial + 1 }

/-- The request to show a pixmap one refresh after the last one. -/
def request (w : Window) (pixmap : ResourceId) : Request :=
  .presentPixmap w.window pixmap w.serial (w.lastMsc + 1)

/-- Presents an image and adds the request to those that were written. -/
def present (connection : Connection) (image : Image) :
    Window × List Request → Outcome Failure Unit × Window × List Request
  | (w, sent) =>
    match image.backendData.value? with
    | some (.pixmap pixmap) =>
      let w := w.countUp
      if w.lastMsc.toNat + 1 < UInt64.size then
        match connection.postAll [w.request pixmap] with
        -- after a failed flush the server may show the image, but nothing is expected of it
        | (.error e, written) => (.failed e, w, sent ++ written)
        | (.ok _, written) => (.done (), w.remember pixmap image.id, sent ++ written)
      else (.fault .additionOverflow, w, sent)
    | _ => (.failed notImported, w, sent)

/-- A window as a place for frames. A presentation cannot be revoked, so
cancelling does nothing: with the window gone its completion reaches nobody. -/
def surface (connection : Connection) : Surface (Window × List Request) :=
  { present := present connection, cancel := id }

end Window

/-- The title of windows nobody named. -/
def standardTitle : String := "ferrule"

/-- A display on an X server. -/
structure Client where
  session : Session
  title : String
  mode : Mode
  registry : Registry Window := {}
  created : Nat := 0

/-- What a client message says first. -/
inductive MessageData where
  | atom (name : String)
  | word (value : UInt32)
  deriving DecidableEq, Repr

inductive Event where
  | complete (window : ResourceId) (kind : Nat) (msc : UInt64)
  | idle (window pixmap : ResourceId)
  | configure (window : ResourceId) (width height : UInt16)
  | message (window : ResourceId) (format : Nat) (data : MessageData)
  | error (code : Nat)
  | unhandled
  deriving DecidableEq, Repr

/-- The kind of completion that concerns a pixmap. -/
def pixmapCompletion : Nat := 0

/-- The events a shown window asks for: exposure and changes of its structure. -/
def windowEvents : Nat := 0x28000

/-- The present events a window asks for: completion and idle notices. -/
def presentEvents : Nat := 6

namespace Client

variable {σ : Type}

def withIds (c : Client) (ids : ResourceIds) : Client :=
  { c with session := { c.session with ids := ids } }

/-- The client over its connection as it is from now on. -/
def withConnection (c : Client) (connection : Connection) : Client :=
  { c with session := { c.session with connection := connection } }

/-- The requests that make a window with a title. -/
def windowRequests (c : Client) (window : ResourceId) (title : String) : List Request := [
  .createWindow window c.session.screen c.mode.width.toUInt32.toUInt16
    c.mode.height.toUInt32.toUInt16 (some windowEvents),
  .changeProperty window .protocols,
  .changeProperty window (.name title),
  .changeProperty window (.unicodeName title)]

/-- The requests that show a window, once its present events are asked for. -/
def showRequests (window event : ResourceId) : List Request :=
  [.presentSelectInput event window presentEvents, .mapWindow window]

/-- Makes the window of a new output. The first thing that fails ends it; what was
written until then stays written. -/
def openWindow (c : Client) (name : String) :
    Except Error Window × List Request × Client :=
  match c.session.ids.fresh with
  | (none, asks, ids) => (.error .protocol, asks, c.withIds ids)
  | (some window, asks, ids) =>
    match c.session.connection.writeAll
      (c.windowRequests window (c.title ++ " - " ++ name)) with
    | (.error _, written) => (.error .protocol, asks ++ written, c.withIds ids)
    | (.ok _, written) =>
      match ids.fresh with
      | (none, more, ids) => (.error .protocol, asks ++ written ++ more, c.withIds ids)
      | (some event, more, ids) =>
        match c.session.connection.postAll (showRequests window event) with
        | (.error _, last) => (.error .protocol, asks ++ written ++ more ++ last, c.withIds ids)
        | (.ok _, last) =>
          let info : OutputInfo :=
            { name := name, make := "X11", model := "X11 window", mode := c.mode }
          (.ok { window := window, presentEvent := event, info := info },
            asks ++ written ++ more ++ last, c.withIds ids)

def createOutput (c : Client) (id : OutputId) :
    Except Error OutputId × List Request × Client :=
  if c.registry.disconnected then (.error .connectionLost, [], c)
  else
    -- a failed attempt counts in the numbering of outputs
    let c := { c with created := c.created + 1 }
    match c.openWindow s!"X11-{c.created}" with
    | (.error e, sent, c) => (.error e, sent, c)
    | (.ok window, sent, c) =>
      (.ok id, sent,
        { c with registry := c.registry.insert id { scheduler := {}, details := window } })

def scheduleFrame (c : Client) (id : OutputId) (image : Image) :
    ScheduleOutcome × List Request × Client :=
  match c.registry.get? id with
  | none => (.unknownOutput image, [], c)
  | some o =>
    match o.scheduler.schedule (Window.surface c.session.connection) image (o.details, []) with
    | (submission, f, w, sent) =>
      let registry := c.registry.set id { scheduler := f, details := w }
      match submission with
      | .fault .. => (.submitted submission, sent, { c with registry := registry })
      | _ => (.submitted submission, sent, { c with registry := registry.collect })

/-- Ends an output's window and its pacing. None of it depends on the connection: a
frame is not cancelled there, and nobody waits for the last requests. If they
cannot be written, that is reported and nothing else. -/
def teardown (o : Output Window) (sent : List Request) : FrameScheduler × List Request :=
  let (f, w, sent) := o.scheduler.destroy (Window.surface {}) (o.details, sent)
  (f, sent ++ [.presentSelectInput w.presentEvent w.window 0, .destroyWindow w.window])

def destroyOutput (c : Client) (id : OutputId) : Bool × List Request × Client :=
  let (found, registry, sent) := c.registry.destroy id teardown []
  (found, sent, { c with registry := registry })

def connectionClosed (c : Client) : List Request × Client :=
  let (_, registry, sent) := c.registry.disconnect teardown []
  (sent, { c with registry := registry })

def outputOf? (c : Client) (window : ResourceId) : Option (OutputId × Output Window) :=
  c.registry.find? fun o => o.details.window == window

/-- What handling an event leaves: a fault with the image it lost, requests, the client. -/
abbrev Handled := Option (Fault × Image) × List Request × Client

/-- Nothing was done but collecting events. -/
def settled (c : Client) : Handled :=
  (none, [], { c with registry := c.registry.collect })

def complete (c : Client) (window : ResourceId) (msc : UInt64) : Handled :=
  match c.outputOf? window with
  | none => c.settled
  | some (id, o) =>
    match o.scheduler.frameDone (Window.surface c.session.connection)
      ({ o.details with lastMsc := msc }, []) with
    | (lost, f, w, sent) =>
      let registry := c.registry.set id { scheduler := f, details := w }
      match lost with
      | some _ => (lost, sent, { c with registry := registry })
      | none => (none, sent, { c with registry := registry.collect })

/-- The server gave a pixmap back. -/
def idle (c : Client) (window pixmap : ResourceId) : Handled :=
  match c.outputOf? window with
  | none => c.settled
  | some (id, o) =>
    match o.details.inFlight.lookup pixmap with
    | none => c.settled
    | some image =>
      let o := {
        scheduler := (o.scheduler.bufferReleased image).2
        details := o.details.forget pixmap }
      { c with registry := c.registry.set id o }.settled

def configure (c : Client) (window : ResourceId) (width height : UInt16) : Handled :=
  match Mode.ofConfigure? width.toUInt32.toInt32 height.toUInt32.toInt32 with
  | none => (none, [], c)
  | some mode =>
    match c.outputOf? window with
    | none => c.settled
    | some (id, o) =>
      if o.details.info.mode = mode then c.settled
      else
        let o := {
          scheduler := o.scheduler.modeChanged mode
          details := { o.details with info := { o.details.info with mode := mode } } }
        { c with registry := c.registry.set id o }.settled

/-- Whether a client message asks a window to close. -/
def asksToClose (format : Nat) (data : MessageData) : Bool :=
  format = 32 && data = .atom Atom.wmDeleteWindow.name

def close (c : Client) (window : ResourceId) : Handled :=
  match c.outputOf? window with
  | none => c.settled
  | some (id, _) =>
    let (_, sent, c) := c.destroyOutput id
    (none, sent, { c with registry := c.registry.collect })

def handle (c : Client) : Event → Handled
  | .complete window kind msc =>
    if kind = pixmapCompletion then c.complete window msc else (none, [], c)
  | .idle window pixmap => c.idle window pixmap
  | .configure window width height => c.configure window width height
  | .message window format data =>
    if asksToClose format data then c.close window else (none, [], c)
  | .error _ => c.settled
  | .unhandled => c.settled

def handleAll (c : Client) :
    List Event → Option (Fault × Image) × List Event × List Request × Client
  | [] => (none, [], [], c)
  | e :: rest =>
    match c.handle e with
    -- the events after a fault stay unhandled
    | (some lost, sent, c) => (some lost, rest, sent, c)
    | (none, sent, c) =>
      let (lost, left, more, c) := handleAll c rest
      (lost, left, sent ++ more, c)

/-- Imports an image into the server. -/
def attach (verdict : Request → Except Refusal Unit) (c : Client) (image : Image) :
    Except AttachError Image × List Request × Client :=
  if c.registry.disconnected then (.error .disconnected, [], c)
  else if (c.session.formats.get? image.format.code).isNone then
    (.error (.unsupported image.format), [], c)
  else
    let (result, sent, session) := importImage verdict c.session image
    (result, sent, { c with session := session })

def outputInfo? (c : Client) (id : OutputId) : Option OutputInfo :=
  (c.registry.get? id).map (·.details.info)

end Client

end Scanout.X11
