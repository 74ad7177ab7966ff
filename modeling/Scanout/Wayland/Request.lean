import Scanout.DeviceFile
import Scanout.Text.Quoted
/-!
# Requests to a Wayland compositor

The requests this client makes, on objects named by their kind and by how
many of that kind were made before. The three objects of an output are made
together and share one number, and so do the parameters of a buffer and the
buffer.
-/

namespace Scanout.Wayland

/-- The globals a display needs. -/
inductive Interface where
  | compositor
  | dmabuf
  | wmBase
  deriving DecidableEq, Repr

namespace Interface

/-- The name by which a compositor announces a global. -/
def name : Interface → String
  | compositor => "wl_compositor"
  | dmabuf => "zwp_linux_dmabuf_v1"
  | wmBase => "xdg_wm_base"

def ofName? (name : String) : Option Interface :=
  [compositor, dmabuf, wmBase].find? (·.name = name)

/-- The kind of object that binding it makes. -/
def objectKind : Interface → String
  | compositor => "compositor"
  | dmabuf => "dmabuf"
  | wmBase => "wm_base"

/-- The highest version this client speaks. -/
def spoken : Interface → UInt32
  | compositor => 4
  | dmabuf => 3
  | wmBase => 1

/-- The version to bind when the given one is announced. Of the window manager's
global only the first version is ever used. -/
def boundVersion (i : Interface) (announced : UInt32) : UInt32 :=
  match i with
  | wmBase => i.spoken
  | _ => min announced i.spoken

end Interface

/-- The request flags of a buffer. -/
structure BufferFlags where
  yInvert : Bool
  interlaced : Bool
  bottomFirst : Bool
  deriving DecidableEq, Repr

def BufferFlags.bits (f : BufferFlags) : Nat :=
  (if f.yInvert then 1 else 0) + (if f.interlaced then 2 else 0)
    + (if f.bottomFirst then 4 else 0)

inductive Request where
  | getRegistry
  | bind (interface : Interface) (global version : UInt32) (object : Nat)
  /-- Asks for an answer once everything before was handled. -/
  | sync
  | createSurface (compositor surface : Nat)
  | getXdgSurface (wmBase xdgSurface surface : Nat)
  | getToplevel (xdgSurface toplevel : Nat)
  | setTitle (toplevel : Nat) (title : String)
  | setAppId (toplevel : Nat) (appId : String)
  | attach (surface buffer : Nat)
  | damageBuffer (surface : Nat)
  | frame (surface callback : Nat)
  | commit (surface : Nat)
  | destroyToplevel (toplevel : Nat)
  | destroyXdgSurface (xdgSurface : Nat)
  | destroySurface (surface : Nat)
  | ackConfigure (xdgSurface : Nat) (serial : UInt32)
  | pong (wmBase : Nat) (serial : UInt32)
  | createParams (dmabuf params : Nat)
  | addPlane (params : Nat) (file : DeviceFile) (index offset stride high low : UInt32)
  | createImmed (params buffer : Nat) (width height : Int32) (format : UInt32)
      (flags : BufferFlags)
  | destroyParams (params : Nat)
  | destroyBuffer (buffer : Nat)
  deriving DecidableEq, Repr

namespace Request

def name : Request → String
  | getRegistry => "get_registry"
  | bind .. => "bind"
  | sync => "sync"
  | createSurface .. => "create_surface"
  | getXdgSurface .. => "get_xdg_surface"
  | getToplevel .. => "get_toplevel"
  | setTitle .. => "set_title"
  | setAppId .. => "set_app_id"
  | attach .. => "attach"
  | damageBuffer _ => "damage_buffer"
  | frame .. => "frame"
  | commit _ => "commit"
  | destroyToplevel _ => "destroy"
  | destroyXdgSurface _ => "destroy"
  | destroySurface _ => "destroy"
  | ackConfigure .. => "ack_configure"
  | pong .. => "pong"
  | createParams .. => "create_params"
  | addPlane .. => "add"
  | createImmed .. => "create_immed"
  | destroyParams _ => "destroy"
  | destroyBuffer _ => "destroy"

/-- The object a request is made on. -/
def object : Request → String
  | getRegistry => "display0"
  | sync => "display0"
  | bind .. => "registry0"
  | createSurface c _ => s!"compositor{c}"
  | getXdgSurface w _ _ => s!"wm_base{w}"
  | getToplevel x _ => s!"xdg_surface{x}"
  | setTitle t _ => s!"toplevel{t}"
  | setAppId t _ => s!"toplevel{t}"
  | attach s _ => s!"surface{s}"
  | damageBuffer s => s!"surface{s}"
  | frame s _ => s!"surface{s}"
  | commit s => s!"surface{s}"
  | destroyToplevel t => s!"toplevel{t}"
  | destroyXdgSurface x => s!"xdg_surface{x}"
  | destroySurface s => s!"surface{s}"
  | ackConfigure x _ => s!"xdg_surface{x}"
  | pong w _ => s!"wm_base{w}"
  | createParams d _ => s!"dmabuf{d}"
  | addPlane p .. => s!"params{p}"
  | createImmed p .. => s!"params{p}"
  | destroyParams p => s!"params{p}"
  | destroyBuffer b => s!"buffer{b}"

def arguments : Request → List String
  | bind i global version object =>
    [i.name, s!"global={global}", s!"version={version}", "->", s!"{i.objectKind}{object}"]
  | createSurface _ s => [s!"surface{s}"]
  | getXdgSurface _ x s => [s!"xdg_surface{x}", s!"surface{s}"]
  | getToplevel _ t => [s!"toplevel{t}"]
  | setTitle _ title => [Text.Quoted.render title]
  | setAppId _ appId => [Text.Quoted.render appId]
  | attach _ b => [s!"buffer{b}", "0,0"]
  | damageBuffer _ => ["0,0", "2147483647x2147483647"]
  | frame _ c => [s!"callback{c}"]
  | ackConfigure _ serial => [s!"{serial}"]
  | pong _ serial => [s!"{serial}"]
  | createParams _ p => [s!"params{p}"]
  | addPlane _ _ index offset stride high low =>
    [s!"plane={index}", s!"offset={offset}", s!"stride={stride}", s!"hi={high}", s!"lo={low}"]
  | createImmed _ b width height format flags =>
    [s!"buffer{b}", s!"{width}x{height}", s!"format={format}", s!"flags={flags.bits}"]
  | _ => []

/-- The written form. -/
def render (r : Request) : String :=
  " ".intercalate ((r.object ++ "." ++ r.name) :: r.arguments)

end Request

end Scanout.Wayland
