import Scanout.DeviceFile
import Scanout.Pixel.Modifier
import Scanout.Text.Hex
import Scanout.Text.Quoted
/-!
# Requests to an X server

The requests this client makes, each with the fields it ever varies, and
their written form with every field of the wire. Resource identifiers are
counted from zero within the client's range; root windows go by the number of
their screen.
-/

namespace Scanout.X11

/-- A resource identifier, counted from the base of the client's range. -/
abbrev ResourceId := Nat

/-- A protocol version; versions are compared by major, then by minor number. -/
structure Version where
  major : UInt32
  minor : UInt32
  deriving DecidableEq, Repr

/-- Whether a version is at least another one. -/
def Version.atLeast (v least : Version) : Bool :=
  least.major < v.major || (v.major == least.major && least.minor ≤ v.minor)

/-- The extensions a display needs. -/
inductive Extension where
  | present
  | xfixes
  | dri3
  deriving DecidableEq, Repr

namespace Extension

/-- The name by which a server knows an extension. -/
def name : Extension → String
  | present => "Present"
  | xfixes => "XFIXES"
  | dri3 => "DRI3"

/-- The lowest usable version. -/
def minimum : Extension → Version
  | present => ⟨1, 0⟩
  | xfixes => ⟨4, 0⟩
  | dri3 => ⟨1, 0⟩

/-- The version a client announces. -/
def wanted : Extension → Version
  | present => ⟨1, 0⟩
  | xfixes => ⟨4, 0⟩
  | dri3 => ⟨1, 2⟩

/-- The request that negotiates the version. -/
def queryName : Extension → String
  | present => "present_query_version"
  | xfixes => "xfixes_query_version"
  | dri3 => "dri3_query_version"

end Extension

/-- Names that are interned at the server. -/
inductive Atom where
  | wmProtocols
  | wmDeleteWindow
  | netWmName
  | utf8String
  /-- The type of the message that ends the event source. -/
  | closeSource
  deriving DecidableEq, Repr

namespace Atom

def name : Atom → String
  | wmProtocols => "WM_PROTOCOLS"
  | wmDeleteWindow => "WM_DELETE_WINDOW"
  | netWmName => "_NET_WM_NAME"
  | utf8String => "UTF8_STRING"
  | closeSource => "_FERRULE_X11_BACKEND_CLOSE"

/-- All of them, in the order they are interned. -/
def all : List Atom := [wmProtocols, wmDeleteWindow, netWmName, utf8String, closeSource]

end Atom

/-- The property a window manager reads, with its value. -/
inductive Property where
  /-- The messages a window understands: only the one that asks it to close. -/
  | protocols
  /-- The title for window managers that know no Unicode. -/
  | name (title : String)
  /-- The title in Unicode. -/
  | unicodeName (title : String)
  deriving DecidableEq, Repr

inductive Request where
  | queryExtension (name : String)
  | queryVersion (extension : Extension)
  | internAtom (atom : Atom)
  | dri3Open (screen : Nat)
  | getSupportedModifiers (screen : Nat) (depth bitsPerPixel : Nat)
  /-- Makes a window; with an event mask it is one that is shown. -/
  | createWindow (window : ResourceId) (screen : Nat) (width height : UInt16)
      (eventMask : Option Nat)
  | changeProperty (window : ResourceId) (property : Property)
  | presentSelectInput (event window : ResourceId) (mask : Nat)
  | mapWindow (window : ResourceId)
  | destroyWindow (window : ResourceId)
  | freePixmap (pixmap : ResourceId)
  /-- Imports a buffer of up to four planes; unused places are zero. -/
  | pixmapFromBuffers (pixmap : ResourceId) (screen : Nat) (files : List DeviceFile)
      (width height : UInt16) (strides offsets : List UInt32) (depth bitsPerPixel : Nat)
      (modifier : Modifier)
  /-- Imports a buffer of one plane that starts at the beginning of its file. -/
  | pixmapFromBuffer (pixmap : ResourceId) (screen : Nat) (file : DeviceFile) (size : UInt32)
      (width height : UInt16) (stride : UInt16) (depth bitsPerPixel : Nat)
  | presentPixmap (window pixmap : ResourceId) (serial : UInt32) (target : UInt64)
  | sendEvent (window : ResourceId)
  deriving DecidableEq, Repr

namespace Request

def name : Request → String
  | queryExtension _ => "query_extension"
  | queryVersion e => e.queryName
  | internAtom _ => "intern_atom"
  | dri3Open _ => "dri3_open"
  | getSupportedModifiers .. => "dri3_get_supported_modifiers"
  | createWindow .. => "create_window"
  | changeProperty .. => "change_property"
  | presentSelectInput .. => "present_select_input"
  | mapWindow _ => "map_window"
  | destroyWindow _ => "destroy_window"
  | freePixmap _ => "free_pixmap"
  | pixmapFromBuffers .. => "dri3_pixmap_from_buffers"
  | pixmapFromBuffer .. => "dri3_pixmap_from_buffer"
  | presentPixmap .. => "present_pixmap"
  | sendEvent _ => "send_event"

/-- Words in brackets, separated by commas. -/
def listWords (ws : List UInt32) : String :=
  "[" ++ ", ".intercalate (ws.map toString) ++ "]"

def propertyFields : Property → String
  | .protocols =>
    Atom.wmProtocols.name ++ " type=ATOM format=32 mode=0 "
      ++ Text.Quoted.render Atom.wmDeleteWindow.name
  | .name title => "WM_NAME type=STRING format=8 mode=0 " ++ Text.Quoted.render title
  | .unicodeName title =>
    Atom.netWmName.name ++ " type=" ++ Atom.utf8String.name ++ " format=8 mode=0 "
      ++ Text.Quoted.render title

def fields : Request → String
  | queryExtension name => name
  | queryVersion e => s!"{e.wanted.major}.{e.wanted.minor}"
  | internAtom atom => atom.name
  | dri3Open screen => s!"root{screen} provider=0"
  | getSupportedModifiers screen depth bpp => s!"root{screen} depth={depth} bpp={bpp}"
  | createWindow window screen width height mask =>
    let attributes :=
      match mask with
      | none => "mask=0x0 values=[]"
      | some m => s!"mask=0x800 values=[{m}]"
    s!"#{window} parent=root{screen} depth=0 at=0,0 size={width}x{height} border=0 class=1 "
      ++ "visual=0 " ++ attributes
  | changeProperty window property => s!"#{window} " ++ propertyFields property
  | presentSelectInput event window mask => s!"#{event} window=#{window} mask={mask}"
  | mapWindow window => s!"#{window}"
  | destroyWindow window => s!"#{window}"
  | freePixmap pixmap => s!"#{pixmap}"
  | pixmapFromBuffers pixmap screen files width height strides offsets depth bpp modifier =>
    s!"#{pixmap} window=root{screen} buffers={files.length} {width}x{height} strides="
      ++ listWords strides ++ " offsets=" ++ listWords offsets
      ++ s!" depth={depth} bpp={bpp} modifier=" ++ Text.Hex.render modifier.value
  | pixmapFromBuffer pixmap screen _ size width height stride depth bpp =>
    s!"#{pixmap} drawable=root{screen} size={size} {width}x{height} stride={stride} "
      ++ s!"depth={depth} bpp={bpp}"
  | presentPixmap window pixmap serial target =>
    s!"window=#{window} pixmap=#{pixmap} serial={serial} valid=0 update=0 off=0,0 crtc=0 "
      ++ s!"wait=0 idle=0 options=0 msc={target} divisor=0 remainder=0 notifies=0"
  | sendEvent window => s!"#{window} propagate=0 mask=0"

/-- The written form. -/
def render (r : Request) : String :=
  r.name ++ " " ++ r.fields

end Request

end Scanout.X11
