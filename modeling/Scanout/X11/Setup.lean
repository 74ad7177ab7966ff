import Scanout.Pixel.FormatSet
import Scanout.X11.Connection
/-!
# Opening a display on an X server

Before anything can be shown the client checks three extensions, interns its
atoms, opens the render node the server draws with and asks which layouts the
server can show. A server is whatever answers requests; setup sends each
request at most once, so a function from requests to replies describes every
server.

Only DRI3 1.2 can be asked for layouts and can be told one. An older server
shows plain rows.
-/

namespace Scanout.X11

inductive Reply where
  | extension (present : Bool)
  | version (v : Version)
  | atom
  | renderNode (file : DeviceFile)
  /-- The layouts of a window and those of the whole screen. -/
  | modifiers (window screen : List Modifier)
  | error (code : Nat)
  | lost
  deriving DecidableEq, Repr

/-- Why a display could not be opened, or an output not be made. -/
inductive Error where
  | connectionFailed
  | connectionLost
  /-- An extension is missing, or the given version of it is too old. -/
  | missingExtension (extension : Extension) (available : Option Version)
  | protocol
  | cannotDirectRender
  deriving DecidableEq, Repr

def Error.message : Error → String
  | connectionFailed => "Connecting to the X server failed"
  | connectionLost => "Connection to the X server was lost"
  | missingExtension e none =>
    s!"Extension \"{e.name}\" version {e.minimum.major}.{e.minimum.minor} was not found."
  | missingExtension e (some v) =>
    s!"Extension \"{e.name}\" version {e.minimum.major}.{e.minimum.minor} is required "
      ++ s!"but only version {v.major}.{v.minor} is available."
  | protocol => "Some protocol error occurred during setup"
  | cannotDirectRender => "The X server is not capable of direct rendering"

/-- The identifiers a client may still hand out. -/
structure ResourceIds where
  next : ResourceId := 0
  last : ResourceId
  /-- The distance between one identifier and the next. -/
  step : Nat := 1
  /-- Whether the server was asked for a way to get more. -/
  askedForMore : Bool := false
  deriving DecidableEq, Repr

/-- The identifiers within a mask: multiples of its lowest bit up to the mask itself.
A mask without bits leaves none. -/
def ResourceIds.ofMask? (mask : Nat) : Option ResourceIds :=
  if mask = 0 then none
  else some { last := mask, step := mask &&& (mask ^^^ (mask - 1)) }

def ResourceIds.fresh (ids : ResourceIds) : Option ResourceId × List Request × ResourceIds :=
  if ids.next ≤ ids.last then (some ids.next, [], { ids with next := ids.next + ids.step })
  else
    -- the server is asked once for the extension that would give more
    let asks := if ids.askedForMore then [] else [Request.queryExtension "XC-MISC"]
    (none, asks, { ids with askedForMore := true })

/-- What a client knows of its server once the display is open. -/
structure Session where
  screen : Nat
  dri3 : Version
  renderNode : DeviceFile
  formats : FormatSet
  /-- The window that wakes the event source when it has to end. -/
  closeWindow : ResourceId
  ids : ResourceIds
  connection : Connection := {}

/-- The version from which on layouts can be asked for and told. -/
def modifierVersion : Version := ⟨1, 2⟩

/-- Whether a server with this version of DRI3 knows layouts. -/
def Version.hasModifiers (dri3 : Version) : Bool :=
  dri3.atLeast modifierVersion

/-- Whether the server takes buffers with a layout of their own. -/
def Session.hasModifiers (s : Session) : Bool :=
  s.dri3.hasModifiers

/-- A conversation with a server: the requests sent so far, and how it ends. -/
abbrev Dialog (α : Type) := ExceptT Error (StateM (List Request)) α

namespace Dialog

def send (r : Request) : Dialog Unit :=
  modify (· ++ [r])

/-- Sends a request and waits for the answer. -/
def ask (answer : Request → Reply) (r : Request) : Dialog Reply := do
  send r
  return answer r

end Dialog

open Dialog

/-- Checks that an extension is there in a usable version. -/
def checkExtension (answer : Request → Reply) (e : Extension) : Dialog Version := do
  match ← ask answer (.queryExtension e.name) with
  | .extension true =>
    match ← ask answer (.queryVersion e) with
    | .version v =>
      if v.atLeast e.minimum then return v else throw (.missingExtension e (some v))
    | _ => throw .protocol
  | .extension false => throw (.missingExtension e none)
  | _ => throw .protocol

/-- Interns all atoms; the requests go out together before the first answer is awaited. -/
def internAtoms (answer : Request → Reply) : Dialog Unit := do
  modify (· ++ Atom.all.map .internAtom)
  if Atom.all.all fun atom => answer (.internAtom atom) = .atom then return ()
  else throw .protocol

/-- The error codes by which a server refuses to share its render node. -/
def refusesRendering (code : Nat) : Bool :=
  code = 8 || code = 17

def openRenderNode (answer : Request → Reply) (screen : Nat) : Dialog DeviceFile := do
  match ← ask answer (.dri3Open screen) with
  | .renderNode file => return file
  | .error code => throw (if refusesRendering code then .cannotDirectRender else .protocol)
  | _ => throw .protocol

/-- The formats a screen with the given layouts shows; without any, plain rows. -/
def supportedFormats (modifiers : List Modifier) : FormatSet :=
  match modifiers with
  | [] => .ofList [⟨.xrgb8888, .linear⟩]
  | ms => .ofList (ms.map fun m => ⟨.xrgb8888, m⟩)

/-- Asks for the formats a screen shows, if the server can be asked. -/
def queryFormats (answer : Request → Reply) (dri3 : Version) (screen : Nat) :
    Dialog FormatSet := do
  if dri3.hasModifiers then
    match ← ask answer (.getSupportedModifiers screen 24 32) with
    | .modifiers _ screenModifiers => return supportedFormats screenModifiers
    | _ => throw .protocol
  else return supportedFormats []

/-- Opens a display on a screen, with the given range of identifiers. -/
def openSession (answer : Request → Reply) (screen : Nat) (ids : ResourceIds) :
    Dialog Session := do
  let _ ← checkExtension answer .present
  let _ ← checkExtension answer .xfixes
  let dri3 ← checkExtension answer .dri3
  internAtoms answer
  let renderNode ← openRenderNode answer screen
  let formats ← queryFormats answer dri3 screen
  let (window?, asks, ids) := ids.fresh
  modify (· ++ asks)
  match window? with
  | none => throw .protocol
  | some window =>
    send (.createWindow window screen 1 1 none)
    return {
      screen := screen, dri3 := dri3, renderNode := renderNode, formats := formats
      closeWindow := window, ids := ids }

end Scanout.X11
