import Scanout.Dmabuf
/-!
# Settings of a scripted device

A bench runs the library against devices, renderers and displays that answer
as they are told to. This module holds what they are told: which calls fail
and with what text, and where the buffers they hand out differ from what was
asked for. Settings can change between any two calls, one at a time.
-/

namespace Scanout.Bench

/-- How a scripted display refuses an image. -/
inductive AttachRefusal where
  | unsupported
  | tooManyPlanes
  | descriptor
  | disconnected
  | protocol (text : String)

/-- The refusal of a name. A text that names none is a protocol error of its own. -/
def AttachRefusal.ofText (text : String) : AttachRefusal :=
  ([("unsupported", unsupported), ("planes", tooManyPlanes), ("fd", descriptor),
    ("disconnected", disconnected)].lookup text).getD (.protocol text)

/-- Index, offset and stride of a plane. -/
structure PlaneSpec where
  index : UInt32
  offset : UInt32
  stride : UInt32

/-- What a scripted GBM device does. Without a setting it does as asked. -/
structure GbmSettings where
  deviceError : Option Nat := none
  usageError : Option Nat := none
  modifiersError : Option Nat := none
  /-- Offset and stride of every plane. -/
  planes : Option (List (UInt32 × UInt32)) := none
  width : Option UInt32 := none
  format : Option UInt32 := none
  modifier : Option Modifier := none
  badPlane : Option Nat := none

/-- What a scripted device and the renderer and display beside it do. -/
structure DeviceSettings where
  refusesExplicit : Bool := false
  refusesImplicit : Bool := false
  /-- How many buffers the device can make in all. -/
  limit : Option Nat := none
  /-- The layout handed out when layouts were asked for. -/
  explicitModifier : Option Modifier := none
  /-- The layout handed out when none was asked for. -/
  implicitModifier : Option Modifier := none
  exportError : Option String := none
  dmabufWidth : Option UInt32 := none
  dmabufHeight : Option UInt32 := none
  dmabufModifier : Option Modifier := none
  dmabufFlags : Option DmabufFlags := none
  planes : Option (List PlaneSpec) := none
  attachRefusal : Option AttachRefusal := none
  hookError : Option String := none
  /-- Whether the renderer's context cannot be made current. -/
  contextLost : Bool := false
  /-- Whether the renderer's context takes no images. -/
  importRefused : Bool := false
  gbm : GbmSettings := {}

inductive Setting where
  | refusesExplicit (on : Bool)
  | refusesImplicit (on : Bool)
  | limit (count : Option Nat)
  | explicitModifier (m : Option Modifier)
  | implicitModifier (m : Option Modifier)
  | exportError (text : Option String)
  | dmabufWidth (n : Option UInt32)
  | dmabufHeight (n : Option UInt32)
  | dmabufModifier (m : Option Modifier)
  | dmabufFlags (f : Option DmabufFlags)
  | planes (ps : Option (List PlaneSpec))
  | attachRefusal (r : Option AttachRefusal)
  | hookError (text : Option String)
  | contextLost (on : Bool)
  | importRefused (on : Bool)
  | gbmDeviceError (code : Option Nat)
  | gbmUsageError (code : Option Nat)
  | gbmModifiersError (code : Option Nat)
  | gbmPlanes (ps : Option (List (UInt32 × UInt32)))
  | gbmWidth (n : Option UInt32)
  | gbmFormat (code : Option UInt32)
  | gbmModifier (m : Option Modifier)
  | gbmBadPlane (index : Option Nat)

namespace DeviceSettings

def apply (s : DeviceSettings) : Setting → DeviceSettings
  | .refusesExplicit on => { s with refusesExplicit := on }
  | .refusesImplicit on => { s with refusesImplicit := on }
  | .limit count => { s with limit := count }
  | .explicitModifier m => { s with explicitModifier := m }
  | .implicitModifier m => { s with implicitModifier := m }
  | .exportError text => { s with exportError := text }
  | .dmabufWidth n => { s with dmabufWidth := n }
  | .dmabufHeight n => { s with dmabufHeight := n }
  | .dmabufModifier m => { s with dmabufModifier := m }
  | .dmabufFlags f => { s with dmabufFlags := f }
  | .planes ps => { s with planes := ps }
  | .attachRefusal r => { s with attachRefusal := r }
  | .hookError text => { s with hookError := text }
  | .contextLost on => { s with contextLost := on }
  | .importRefused on => { s with importRefused := on }
  | .gbmDeviceError code => { s with gbm := { s.gbm with deviceError := code } }
  | .gbmUsageError code => { s with gbm := { s.gbm with usageError := code } }
  | .gbmModifiersError code => { s with gbm := { s.gbm with modifiersError := code } }
  | .gbmPlanes ps => { s with gbm := { s.gbm with planes := ps } }
  | .gbmWidth n => { s with gbm := { s.gbm with width := n } }
  | .gbmFormat code => { s with gbm := { s.gbm with format := code } }
  | .gbmModifier m => { s with gbm := { s.gbm with modifier := m } }
  | .gbmBadPlane index => { s with gbm := { s.gbm with badPlane := index } }

def applyAll (s : DeviceSettings) (changes : List Setting) : DeviceSettings :=
  changes.foldl apply s

end DeviceSettings

end Scanout.Bench
