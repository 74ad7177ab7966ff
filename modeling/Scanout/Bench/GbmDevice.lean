import Scanout.Bench.Settings
import Scanout.Gbm
import Scanout.Text.Hex
/-!
# A scripted GBM device

The device writes down every call and answers with buffer objects that report
what the settings say, and otherwise what was asked for. What an object
reports is settled when it is made; later changes of the settings do not touch
it. Objects are numbered in the order they are made.
-/

namespace Scanout.Bench

/-- What the numbers of system errors stand for, from zero on. -/
def systemErrors : List String :=
  ["Success", "Operation not permitted", "No such file or directory", "No such process",
    "Interrupted system call", "Input/output error", "No such device or address",
    "Argument list too long", "Exec format error", "Bad file descriptor", "No child processes",
    "Resource temporarily unavailable", "Cannot allocate memory", "Permission denied",
    "Bad address", "Block device required", "Device or resource busy", "File exists",
    "Invalid cross-device link", "No such device", "Not a directory", "Is a directory",
    "Invalid argument", "Too many open files in system", "Too many open files",
    "Inappropriate ioctl for device", "Text file busy", "File too large",
    "No space left on device", "Illegal seek", "Read-only file system", "Too many links",
    "Broken pipe", "Numerical argument out of domain", "Numerical result out of range",
    "Resource deadlock avoided", "File name too long", "No locks available",
    "Function not implemented"]

def deviceFailure (code : Nat) : Failure :=
  let text := systemErrors[code]?.getD s!"Unknown error {code}"
  { message := s!"{text} (os error {code})" }

def logModifiers (ms : List Modifier) : String :=
  "[" ++ ",".intercalate (ms.map fun m => Text.Hex.render m.value) ++ "]"

/-- What a GBM device has done so far: its log, and the number of its next object. -/
structure GbmTrace where
  log : List String := []
  next : Nat := 0

namespace GbmTrace

def write (t : GbmTrace) (line : String) : GbmTrace :=
  { t with log := t.log ++ [line] }

/-- Opens the device. Only a device that could be opened leaves a line. -/
def openDevice (t : GbmTrace) (settings : GbmSettings) : Option Failure × GbmTrace :=
  match settings.deviceError with
  | some code => (some (deviceFailure code), t)
  | none => (none, t.write "gbm device")

def closeDevice (t : GbmTrace) : GbmTrace :=
  t.write "gbm device_destroy"

def destroyObject (t : GbmTrace) (number : Nat) : GbmTrace :=
  t.write s!"gbm destroy {number}"

/-- The object made for a request; rows are four bytes a pixel unless the settings say. -/
def object (settings : GbmSettings) (width height : UInt32) (fourcc : Fourcc)
    (modifier : Modifier) : Gbm.Object :=
  { width := settings.width.getD width
    height := height
    formatCode := settings.format.getD fourcc.code
    modifier := settings.modifier.getD modifier
    planes := settings.planes.getD [(0, 4 * width)]
    badPlane := settings.badPlane }

def handOut (t : GbmTrace) (o : Gbm.Object) (rule : Gbm.LayoutRule) :
    Outcome Failure (Nat × GbmBuffer) × GbmTrace :=
  let number := t.next
  let t := { t with next := number + 1 }
  match GbmBuffer.ofObject o rule with
  | .ok b => (.done (number, b), t)
  -- what cannot be described is destroyed
  | .error f => (.fault f, t.destroyObject number)

def createExplicit (t : GbmTrace) (settings : GbmSettings) (width height : UInt32)
    (fourcc : Fourcc) (modifiers : List Modifier) :
    Outcome Failure (Nat × GbmBuffer) × GbmTrace :=
  let t := t.write
    (s!"gbm create_modifiers {width}x{height} {fourcc.code} " ++ logModifiers modifiers)
  match settings.modifiersError with
  | some code => (.failed (deviceFailure code), t)
  | none =>
    t.handOut (object settings width height fourcc (modifiers.head?.getD .linear)) .reported

def createImplicit (t : GbmTrace) (settings : GbmSettings) (width height : UInt32)
    (fourcc : Fourcc) (usage : BufferUsage) :
    Outcome Failure (Nat × GbmBuffer) × GbmTrace :=
  let t := t.write
    s!"gbm create {width}x{height} {fourcc.code} flags={Gbm.usageBits usage}"
  match settings.usageError with
  | some code => (.failed (deviceFailure code), t)
  | none => t.handOut (object settings width height fourcc .linear) (.ofUsage usage)

end GbmTrace

end Scanout.Bench
