import Scanout.Bench.Named
import Scanout.Bench.Scene.Answer
import Scanout.Bench.Surroundings
/-!
# Scenes

A scene is a set of named allocators, swapchains, images, schedulers and
displays that a script works on, step by step. An image is held by the scene
under a name until it is given away; one that comes back is held again under
the name it had.

A step is a `Script`: it fails if it names something that is not there, and
then nothing has changed.
-/

namespace Scanout.Bench

/-- A swapchain with the device it gets its images from. -/
structure ChainEntry where
  chain : Swapchain
  device : Nat

structure Pacer where
  scheduler : FrameScheduler := {}
  refusal : Option String := none

/-- What a collection keeps for an output: the name and the refusal of its surface. -/
structure ScriptedOutput where
  name : String
  refusal : Option String := none

/-- The outputs of a display that does nothing by itself. -/
structure Collection where
  registry : Registry ScriptedOutput := {}
  /-- The outputs by name, live or not. -/
  names : Named OutputId := []

/-- Everything a script works on. -/
structure Scene where
  surroundings : Surroundings := {}
  /-- The bookkeeping of the allocator on each device. -/
  counts : List Allocator := []
  /-- The devices that have a name. -/
  allocators : Named Nat := []
  chains : Named ChainEntry := []
  held : Named Image := []
  /-- Every name an image was given, the latest first. -/
  imageNames : List (String × ImageId) := []
  pacers : Named Pacer := []
  collections : Named Collection := []
  nextSwapchain : Nat := 0
  nextOutput : Nat := 0

/-- A step on a scene. -/
abbrev Script (α : Type) := StateT Scene Option α

namespace Scene

/-- What is in an option, or else a step that cannot be carried out. -/
def expect {α : Type} (a : Option α) : Script α :=
  StateT.lift a

def surround (f : Surroundings → Surroundings) : Script Unit :=
  modify fun s => { s with surroundings := f s.surroundings }

/-- Frees the buffers of images nobody has any more. -/
def lose (images : List Image) : Script Unit :=
  surround fun s => images.foldl (fun s image => s.freeBuffer image.buffer) s

/-- Holds an image under a name. One that was held under it is lost. -/
def hold (name : String) (image : Image) : Script Unit := do
  let before := (← get).held.get? name
  modify fun s => { s with held := s.held.put name image }
  lose before.toList

/-- Gives an image its name and holds it under it. -/
def holdAs (name : String) (image : Image) : Script Unit := do
  modify fun s => { s with imageNames := (name, image.id) :: s.imageNames }
  hold name image

def imageHeld (name : String) : Script Image := do
  expect ((← get).held.get? name)

/-- Gives the image held under a name away. -/
def give (name : String) : Script Image := do
  let image ← imageHeld name
  modify fun s => { s with held := s.held.erase name }
  return image

/-- The image a name was given to, held or not. -/
def imageNamed (name : String) : Script ImageId := do
  expect ((← get).imageNames.lookup name)

def nameOf (s : Scene) (id : ImageId) : String :=
  ((s.imageNames.find? (·.2 = id)).map (·.1)).getD ""

/-- Holds an image that came back. -/
def comeBack (image : Image) : Script Unit := do
  hold ((← get).nameOf image.id) image

/-- Shows an output event, and holds the image that came back with it. -/
def deliver : OutputEvent → Script NamedEvent
  | .frame => return .frame
  | .mode mode => return .mode mode
  | .destroyed => return .destroyed
  | .released image => do
    comeBack image
    return .released ((← get).nameOf image.id)

/-- Shows a backend event, and holds the image that came back with it. -/
def deliverBackend : BackendEvent → Script NamedBackendEvent
  | .newOutput id => return .newOutput id
  | .output id event => return .output id (← deliver event)
  | .disconnected => return .disconnected

/-- The answer to a frame that a display was given. -/
def frameAnswer : ScheduleOutcome → Script Answer
  | .submitted .accepted => return .nothing
  | .submitted (.refused cause) => return .presentFailed (presentFailure cause)
  | .submitted (.fault f lost) => do
    lose [lost]
    return .fault f
  | .unknownOutput image => do
    comeBack image
    return .unknownOutput unknownOutputFailure image.id

end Scene

end Scanout.Bench
