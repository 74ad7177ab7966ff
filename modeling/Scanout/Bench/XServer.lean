import Scanout.Bench.EventLoop
import Scanout.Bench.Named
import Scanout.X11.Client
/-!
# A scripted X server

The server writes down every request it receives. It answers as its settings
say: which extensions it has and in which versions, what layouts it can show,
which requests are errors, and at which request it closes the connection. A
request that is an error has no effect; if nobody waits for an answer to it,
the error is sent as an event.

A station is such a server with the client connected to it, the events that
are on their way between them, and the loop that watches the connection. An X
client reads everything that was sent before it notices that a connection was
lost.
-/

namespace Scanout.Bench

open X11 (ResourceId)

structure XServerSettings where
  present : Option X11.Version := none
  xfixes : Option X11.Version := none
  dri3 : Option X11.Version := none
  modifiers : List Modifier := []
  windowModifiers : List Modifier := []
  screens : Nat := 1
  refuses : Bool := false
  /-- The bits of the identifiers a client may use. -/
  idMask : Nat := 0x1fffff
  errorOn : List (String × Nat) := []
  closeOn : Option String := none

namespace XServerSettings

def version? (s : XServerSettings) : X11.Extension → Option X11.Version
  | .present => s.present
  | .xfixes => s.xfixes
  | .dri3 => s.dri3

def hasExtension (s : XServerSettings) (name : String) : Bool :=
  [X11.Extension.present, .xfixes, .dri3].any fun e => e.name == name && (s.version? e).isSome

def reply (s : XServerSettings) : X11.Request → X11.Reply
  | .queryExtension name => .extension (s.hasExtension name)
  | .queryVersion e => ((s.version? e).map .version).getD .lost
  | .dri3Open _ => .renderNode .null
  | .getSupportedModifiers .. => .modifiers s.windowModifiers s.modifiers
  | _ => .atom

def answer (s : XServerSettings) (r : X11.Request) : X11.Reply :=
  if s.closeOn = some r.name then .lost
  else
    match s.errorOn.lookup r.name with
    | some code => .error code
    | none => s.reply r

/-- The names of the errors of the core protocol, from the first code on. -/
def errorNames : List String :=
  ["Request", "Value", "Window", "Pixmap", "Atom", "Cursor", "Font", "Match", "Drawable",
    "Access", "Alloc", "Colormap", "GContext", "IDChoice", "Name", "Length", "Implementation"]

def errorName (code : Nat) : String :=
  if code = 0 then s!"Unknown({code})"
  else errorNames[code - 1]?.getD s!"Unknown({code})"

/-- The answer to a request whose effect is waited for. -/
def verdict (s : XServerSettings) (r : X11.Request) : Except X11.Refusal Unit :=
  match s.errorOn.lookup r.name with
  | some code =>
    let name := errorName code
    .error (.rejected { message := s!"X11 error {name}" })
  | none => .ok ()

end XServerSettings

/-- A server, its client, and what is between them. -/
structure XStation where
  server : XServerSettings
  client : X11.Client
  /-- The events sent and not yet read. -/
  queue : List X11.Event := []
  /-- Every pixmap the server ever made. -/
  pixmaps : List ResourceId := []
  connected : Bool := true
  watch : Watch := .active
  stopsLoop : Bool := false
  /-- The outputs by name, live or not, with their windows. -/
  names : Named (OutputId × ResourceId) := []
  log : List String := []

namespace XStation

def line (r : X11.Request) : String :=
  "X " ++ r.render

def pixmapOf? : X11.Request → Option ResourceId
  | .pixmapFromBuffers pixmap .. => some pixmap
  | .pixmapFromBuffer pixmap .. => some pixmap
  | _ => none

def effect (st : XStation) (r : X11.Request) : XStation :=
  match pixmapOf? r, st.server.errorOn.lookup r.name with
  | some pixmap, none => { st with pixmaps := st.pixmaps ++ [pixmap] }
  | none, some code => { st with queue := st.queue ++ [.error code] }
  | _, _ => st

/-- The server receives a request. Over a lost connection nothing is received. -/
def receive (st : XStation) (r : X11.Request) : XStation :=
  if st.connected then
    let st := { st with log := st.log ++ [line r] }
    if st.server.closeOn = some r.name then { st with connected := false } else st.effect r
  else st

def receiveAll (st : XStation) (rs : List X11.Request) : XStation :=
  rs.foldl receive st

/-- The requests of a conversation that reach the server: those up to the one at
which it closes the connection. -/
def received (s : XServerSettings) : List X11.Request → List X11.Request
  | [] => []
  | r :: rest => if s.closeOn = some r.name then [r] else r :: received s rest

structure Options where
  title : String
  mode : Mode
  screen : Nat
  /-- Whether the display's name leads to a server at all. -/
  reachable : Bool
  stopsLoop : Bool

/-- The identifiers for a new client, if a connection comes about. -/
def admit? (s : XServerSettings) (o : Options) : Option X11.ResourceIds :=
  if o.reachable && !s.refuses && o.screen < s.screens then X11.ResourceIds.ofMask? s.idMask
  else none

/-- Connects a client and opens the display. The log is that of the server, also
if opening fails. -/
def connect (s : XServerSettings) (o : Options) : Except X11.Error XStation × List String :=
  match admit? s o with
  | none => (.error .connectionFailed, [])
  | some ids =>
    let (result, sent) := (X11.openSession s.answer o.screen ids).run.run []
    let seen := received s sent
    let log := seen.map line
    match result with
    | .error e => (.error e, log)
    | .ok session =>
      (.ok {
        server := s
        client := { session := session, title := o.title, mode := o.mode }
        connected := seen.all fun r => s.closeOn ≠ some r.name
        stopsLoop := o.stopsLoop }, log)

/-- A window in an event: that of an output, or one the client knows nothing of. -/
inductive WindowRef where
  | output (name : String)
  | foreign (number : Nat)

inductive Notice where
  | complete (window : WindowRef) (kind : Nat) (msc : UInt64)
  /-- The pixmap is given by its number in order of creation. -/
  | idle (window : WindowRef) (pixmap : Nat)
  | configure (window : WindowRef) (width height : UInt16)
  | message (window : WindowRef) (format : Nat) (data : X11.MessageData)
  | error (code : Nat)
  | unhandled

/-- An identifier no client is ever given. -/
def foreignId (number : Nat) : ResourceId :=
  UInt32.size + number

/-- The window of a reference; `none` if there was never an output of the name. -/
def window? (st : XStation) : WindowRef → Option ResourceId
  | .output name => (st.names.get? name).map (·.2)
  | .foreign number => some (foreignId number)

def event? (st : XStation) : Notice → Option X11.Event
  | .complete window kind msc => do return .complete (← st.window? window) kind msc
  | .idle window pixmap => do
    return .idle (← st.window? window) (st.pixmaps[pixmap]?.getD (foreignId pixmap))
  | .configure window width height => do return .configure (← st.window? window) width height
  | .message window format data => do return .message (← st.window? window) format data
  | .error code => some (.error code)
  | .unhandled => some .unhandled

/-- The server sends events; none of them unless all can be sent. -/
def send? (st : XStation) (notices : List Notice) : Option XStation := do
  let events ← notices.mapM st.event?
  return if st.connected then { st with queue := st.queue ++ events } else st

def takeEvents (st : XStation) : List BackendEvent × XStation :=
  let (events, registry) := st.client.registry.takeEvents
  (events, { st with client := { st.client with registry := registry } })

def noticeLoss (st : XStation) : XStation :=
  let (sent, client) := st.client.connectionClosed
  { st with client := client, watch := .removed }.receiveAll sent

/-- The loop runs until nothing is left to do. -/
def run (st : XStation) : Except (Fault × Image) (List BackendEvent) × XStation :=
  if st.watch = .active then
    match st.client.handleAll st.queue with
    -- what was not read stays on its way, and the image in use is lost
    | (some lost, rest, sent, client) =>
      (.error lost, { st with client := client, queue := rest }.receiveAll sent)
    | (none, _, sent, client) =>
      let st := { st with client := client, queue := [] }.receiveAll sent
      let st := if st.connected then st else st.noticeLoss
      let (events, st) := st.takeEvents
      (.ok events, st)
  else (.ok [], st)

def hangUp (st : XStation) : XStation :=
  { st with connected := false }

def stopped (st : XStation) (events : List BackendEvent) : Bool :=
  st.stopsLoop && events.any fun
    | .disconnected => true
    | _ => false

/-- Drops the loop; the event source sends itself a message so that it ends. -/
def dropLoop (st : XStation) : XStation :=
  if st.watch = .dropped then st
  else
    let st := st.receive (.sendEvent st.client.session.closeWindow)
    { st with watch := .dropped }

end XStation

end Scanout.Bench
