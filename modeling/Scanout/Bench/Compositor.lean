import Scanout.Bench.EventLoop
import Scanout.Bench.Named
import Scanout.Wayland.Client
/-!
# A scripted Wayland compositor

The compositor writes down every request it receives except the round trips,
keeps track of the objects a client may still hear of, and answers as its
settings say: the globals it announces, the formats it sends when the dmabuf
global is bound, the configurations it proposes when a window is shown for the
first time, and the request at which it closes the connection.

A station is such a compositor with the client connected to it, the events
that are on their way, and the loop that watches the connection. A Wayland
client that finds its connection lost does not look at what was sent before.
-/

namespace Scanout.Bench

/-- What a Wayland compositor is told to do. -/
structure CompositorSettings where
  /-- The globals announced to a new client, with their versions. -/
  globals : List (String × UInt32) := []
  /-- The formats it takes, without a modifier where the layout is implicit. -/
  formats : List (UInt32 × Option Modifier) := []
  /-- The sizes proposed to a new window. -/
  onCreate : List (Int32 × Int32) := []
  closesOnCreate : Bool := false
  /-- The request at which the connection is closed. -/
  closeOn : Option String := none

inductive CompositorSetting where
  | globals (gs : List (String × UInt32))
  | formats (fs : List (UInt32 × Option Modifier))
  | onCreate (sizes : List (Int32 × Int32))
  | closesOnCreate (on : Bool)
  | closeOn (request : Option String)

namespace CompositorSettings

def apply (s : CompositorSettings) : CompositorSetting → CompositorSettings
  | .globals gs => { s with globals := gs }
  | .formats fs => { s with formats := fs }
  | .onCreate sizes => { s with onCreate := sizes }
  | .closesOnCreate on => { s with closesOnCreate := on }
  | .closeOn request => { s with closeOn := request }

def applyAll (s : CompositorSettings) (changes : List CompositorSetting) : CompositorSettings :=
  changes.foldl apply s

end CompositorSettings

/-- The objects of a client that a compositor can still send events about. -/
structure RemoteObjects where
  toplevels : List Nat := []
  callbacks : List Nat := []
  buffers : List Nat := []
  /-- The surfaces that were committed before. -/
  committed : List Nat := []

/-- A compositor, its client, and what is between them. -/
structure WaylandStation where
  server : CompositorSettings
  client : Wayland.Client
  objects : RemoteObjects := {}
  /-- The serial number of the latest configuration. -/
  serial : Nat := 0
  /-- How many globals were announced. -/
  announced : Nat := 0
  queue : List Wayland.Event := []
  connected : Bool := true
  watch : Watch := .active
  /-- Whether the loss of the connection stops the loop. -/
  stopsLoop : Bool := false
  /-- The outputs by name, live or not, with the numbers of their objects. -/
  names : Named (OutputId × Nat) := []
  log : List String := []

namespace WaylandStation

def send (st : WaylandStation) (e : Wayland.Event) : WaylandStation :=
  if st.connected then { st with queue := st.queue ++ [e] } else st

def configure (st : WaylandStation) (object : Nat) (width height : Int32) : WaylandStation :=
  let st := { st with serial := st.serial + 1 }
  (st.send (.toplevelConfigure object width height)).send
    (.surfaceConfigure object st.serial.toUInt32)

def formatEvent (f : UInt32 × Option Modifier) : Wayland.Event :=
  match f.2 with
  | none => .format f.1
  | some m => .modifier f.1 m.split.1 m.split.2

def greet (st : WaylandStation) (object : Nat) : WaylandStation :=
  let st := st.server.onCreate.foldl (fun st size => st.configure object size.1 size.2) st
  if st.server.closesOnCreate then st.send (.toplevelClose object) else st

/-- What a request does at the compositor. -/
def effect (st : WaylandStation) : Wayland.Request → WaylandStation
  | .bind .dmabuf _ _ _ => st.server.formats.foldl (fun st f => st.send (formatEvent f)) st
  | .getToplevel _ toplevel =>
    { st with objects := { st.objects with toplevels := toplevel :: st.objects.toplevels } }
  | .destroyToplevel toplevel =>
    { st with objects := { st.objects with
      toplevels := st.objects.toplevels.filter (· ≠ toplevel) } }
  | .frame _ callback =>
    { st with objects := { st.objects with callbacks := callback :: st.objects.callbacks } }
  | .createImmed _ buffer .. =>
    { st with objects := { st.objects with buffers := buffer :: st.objects.buffers } }
  | .destroyBuffer buffer =>
    { st with objects := { st.objects with buffers := st.objects.buffers.filter (· ≠ buffer) } }
  | .commit surface =>
    if surface ∈ st.objects.committed then st
    else
      { st with objects := { st.objects with
        committed := surface :: st.objects.committed } }.greet surface
  | _ => st

def lines (r : Wayland.Request) : List String :=
  if r = .sync then [] else ["W " ++ r.render]

/-- The compositor receives a request. Over a lost connection nothing is received. -/
def receive (st : WaylandStation) (r : Wayland.Request) : WaylandStation :=
  if st.connected then
    let st := { st with log := st.log ++ lines r }
    if st.server.closeOn = some r.name then { st with connected := false } else st.effect r
  else st

def receiveAll (st : WaylandStation) (rs : List Wayland.Request) : WaylandStation :=
  rs.foldl receive st

def handleQueue (st : WaylandStation) : WaylandStation :=
  let (sent, client) := st.client.handleAll st.queue
  { st with client := client, queue := [] }.receiveAll sent

/-- The client waits until everything it asked for was answered, and handles what
was sent until then; says whether the connection held. -/
def roundTrip (st : WaylandStation) : Bool × WaylandStation :=
  let st := st.receive .sync
  if st.connected then (true, st.handleQueue) else (false, st)

def announce (st : WaylandStation) (g : String × UInt32) : WaylandStation :=
  let name := st.announced + 1
  { st with announced := name }.send (.global name.toUInt32 g.1 g.2)

/-- Connects a client and opens the display. The log is that of the compositor,
also if opening fails. -/
def connect (server : CompositorSettings) (appId : String) (mode : Mode) (stopsLoop : Bool) :
    Except Wayland.Error WaylandStation × List String :=
  let st : WaylandStation :=
    { server := server, client := { appId := appId, mode := mode }, stopsLoop := stopsLoop }
  let st := server.globals.foldl announce (st.receive .getRegistry)
  match st.roundTrip with
  | (false, st) => (.error .dispatch, st.log)
  | (true, st) =>
    match st.roundTrip with
    | (false, st) => (.error .dispatch, st.log)
    | (true, st) =>
      match st.client.missing? with
      | some i => (.error (.missingGlobal i), st.log)
      | none => (.ok { st with log := [] }, st.log)

inductive Notice where
  | configure (output : String) (width height : Int32)
  | close (output : String)
  | done (callback : Nat)
  | release (buffer : Nat)
  | ping (serial : UInt32)
  | advertise (code : UInt32) (modifier : Option Modifier)
  | global (interface : String) (version : UInt32)
  | globalRemove (name : UInt32)
  /-- The client broke the protocol, so the connection is gone. -/
  | protocolError

/-- The window of an output, if there is one still. -/
def toplevel? (st : WaylandStation) (output : String) : Option Nat := do
  let (_, object) ← st.names.get? output
  if object ∈ st.objects.toplevels then some object else none

/-- Sends one event; `none` if it concerns an object that does not exist. -/
def notify? (st : WaylandStation) : Notice → Option WaylandStation
  | .configure output width height => do
    return st.configure (← st.toplevel? output) width height
  | .close output => do return st.send (.toplevelClose (← st.toplevel? output))
  | .done callback =>
    if callback ∈ st.objects.callbacks then
      let st := { st with objects := { st.objects with
        callbacks := st.objects.callbacks.filter (· ≠ callback) } }
      some (st.send (.done callback))
    else none
  | .release buffer =>
    if buffer ∈ st.objects.buffers then some (st.send (.release buffer)) else none
  | .ping serial => do
    let wmBase ← st.client.wmBase
    return st.send (.ping wmBase.object serial)
  | .advertise code modifier => some (st.send (formatEvent (code, modifier)))
  | .global interface version => some (st.announce (interface, version))
  | .globalRemove name => some (st.send (.globalRemove name))
  | .protocolError => some { st with connected := false }

/-- Sends events in order, up to the first that cannot be sent, and says whether
there was none such. -/
def notifyAll (st : WaylandStation) : List Notice → Bool × WaylandStation
  | [] => (true, st)
  | n :: rest =>
    match st.notify? n with
    | none => (false, st)
    | some st => st.notifyAll rest

def takeEvents (st : WaylandStation) : List BackendEvent × WaylandStation :=
  let (events, registry) := st.client.registry.takeEvents
  (events, { st with client := { st.client with registry := registry } })

/-- The client notices that the connection is lost; what was on its way is lost too. -/
def noticeLoss (st : WaylandStation) : WaylandStation :=
  let (_, client) := st.client.connectionClosed
  { st with client := client, queue := [], watch := .removed }

def settle (st : WaylandStation) : WaylandStation :=
  let st := if st.connected then st.handleQueue else st
  -- only binding a global is answered, and nothing is bound because of such an answer
  if st.connected then st.handleQueue else st

/-- The loop runs until nothing is left to do. -/
def run (st : WaylandStation) : List BackendEvent × WaylandStation :=
  if st.watch = .active then
    let st := st.settle
    let st := if st.connected then st else st.noticeLoss
    st.takeEvents
  else ([], st)

def hangUp (st : WaylandStation) : WaylandStation :=
  { st with connected := false }

def stopped (st : WaylandStation) (events : List BackendEvent) : Bool :=
  st.stopsLoop && events.any fun
    | .disconnected => true
    | _ => false

def dropLoop (st : WaylandStation) : WaylandStation :=
  { st with watch := .dropped }

end WaylandStation

end Scanout.Bench
