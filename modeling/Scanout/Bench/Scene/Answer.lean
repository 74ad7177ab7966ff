import Scanout.Output.Registry
import Scanout.Swapchain
import Scanout.Wayland.Client
import Scanout.X11.Client
/-!
# What a scene answers

The answer to one step. Images inside events go by the names they have in the
scene.
-/

namespace Scanout.Bench

/-- An output event with images by name. -/
inductive NamedEvent where
  | frame
  | released (image : String)
  | mode (mode : Mode)
  | destroyed

/-- A backend event with images by name. -/
inductive NamedBackendEvent where
  | newOutput (id : OutputId)
  | output (id : OutputId) (event : NamedEvent)
  | disconnected

/-- What is told of a swapchain. -/
structure SwapchainInfo where
  chain : Swapchain
  /-- How many images its allocator has out. -/
  outstanding : Nat

inductive Answer where
  | nothing
  | flag (b : Bool)
  | number (n : Nat)
  /-- The step is malformed or names something that is not there. -/
  | badRequest
  | fault (f : Fault)
  | image (image : Image)
  | buffer (image : Image)
  | exported (dmabuf : Dmabuf)
  | exportFailed (cause : Failure)
  | deviceFailed (cause : Failure)
  | allocationFailed (error : AllocationError) (text : Failure)
  | slot (reply : DataSlot.Reply)
  | swapchain (info : SwapchainInfo)
  | acquired (name : String) (id : ImageId)
  | state (s : FrameState)
  /-- The output is no longer there. -/
  | gone
  | pacing (s : FrameState) (presented : List ImageId)
  | presentFailed (text : Failure)
  | unknownOutput (text : Failure) (image : ImageId)
  | events (es : List NamedEvent)
  | backendEvents (es : List NamedBackendEvent)
  | outputs (ids : List OutputId)
  | registry (ids : List OutputId) (states : List FrameState) (disconnected : Bool)
  | found (id : Option OutputId)
  | outputInfo (info : OutputInfo)
  | x11Opened (session : X11.Session)
  | x11Failed (error : X11.Error)
  | waylandOpened (formats : FormatSet)
  | waylandFailed (error : Wayland.Error)
  | formats (formats : FormatSet)
  | hungUp (events : List NamedBackendEvent) (loopStopped : Bool)

/-- The answer to an allocation that failed. Its text may be one that cannot be made. -/
def Answer.ofAllocationError (e : AllocationError) : Answer :=
  match e.describe with
  | .ok text => .allocationFailed e text
  | .error f => .fault f

end Scanout.Bench
