import Scanout.Bench.Scene.OnWayland
import Scanout.Bench.Scene.OnX11
import Scanout.Bench.Scene.Rotation
/-!
# Running a scene

The steps of a script, and what running one after the other answers: for each
step its answer, and the lines that devices and servers wrote down meanwhile.
A step that cannot be carried out changes nothing.
-/

namespace Scanout.Bench

inductive X11Step where
  | openDisplay (server : XServerSettings) (options : XStation.Options)
  | createOutput (name : String)
  | scheduleFrame (output image : String)
  | destroyOutput (output : String)
  | showOutput (output : String)
  | showOutputs
  | changeErrors (errors : List (String × Nat))
  | sendEvents (notices : List XStation.Notice)
  | hangUp
  | dropLoop
  | actOnLoop (action : WatchAction)

inductive WaylandStep where
  | openDisplay (server : CompositorSettings) (appId : String) (mode : Mode) (stopsLoop : Bool)
  | createOutput (name : String)
  | scheduleFrame (output image : String)
  | destroyOutput (output : String)
  | showOutput (output : String)
  | showOutputs
  | showFormats
  | changeSettings (changes : List CompositorSetting)
  | sendEvents (notices : List WaylandStation.Notice)
  | hangUp
  | dropLoop
  | actOnLoop (action : WatchAction)

inductive PacerStep where
  | make
  | schedule (image : String)
  | released (image : String)
  | takeEvents
  | frameDone
  | destroy
  | showState
  | changeSurface (refusal : Option String)
  | changeMode (mode : Mode)

inductive CollectionStep where
  | make
  | add (output : String)
  | schedule (output image : String)
  | frameDone (output : String)
  | changeSurface (output : String) (refusal : Option String)
  | changeMode (output : String) (mode : Mode)
  | collect
  | released (image : String)
  | destroy (output : String)
  | disconnect
  | takeEvents
  | showAll
  | find (state : FrameState)

inductive Step where
  | makeAllocator (spec : Scene.AllocatorSpec)
  | changeSettings (allocator : String) (changes : List Setting)
  | outstanding (allocator : String)
  | dropAllocator (allocator : String)
  | allocate (allocator name : String) (spec : Scene.ImageSpec)
  | deallocate (allocator image : String)
  | dropImage (image : String)
  | describe (image : String)
  | exportAgain (image : String)
  | accessSlot (image : String) (slot : Scene.ImageSlot) (action : DataSlot.Action)
  | forgeOwner (image like : String)
  | makeSwapchain (name allocator : String) (spec : Scene.ImageSpec) (flags : SwapchainFlags)
  | showSwapchain (name : String)
  | acquire (swapchain : String)
  | release (swapchain image : String)
  | destroySwapchain (swapchain : String)
  | pacer (name : String) (step : PacerStep)
  | collection (name : String) (step : CollectionStep)
  | x11 (step : X11Step)
  | wayland (step : WaylandStep)

def X11Step.script : X11Step → Script Answer
  | openDisplay server options => Scene.OnX11.openDisplay server options
  | createOutput name => Scene.OnX11.createOutput name
  | scheduleFrame output image => Scene.OnX11.scheduleFrame output image
  | destroyOutput output => Scene.OnX11.destroyOutput output
  | showOutput output => Scene.OnX11.showOutput output
  | showOutputs => Scene.OnX11.showOutputs
  | changeErrors errors => Scene.OnX11.changeErrors errors
  | sendEvents notices => Scene.OnX11.sendEvents notices
  | hangUp => Scene.OnX11.hangUp
  | dropLoop => Scene.OnX11.dropLoop
  | actOnLoop action => Scene.OnX11.actOnLoop action

def WaylandStep.script : WaylandStep → Script Answer
  | openDisplay server appId mode stopsLoop =>
    Scene.OnWayland.openDisplay server appId mode stopsLoop
  | createOutput name => Scene.OnWayland.createOutput name
  | scheduleFrame output image => Scene.OnWayland.scheduleFrame output image
  | destroyOutput output => Scene.OnWayland.destroyOutput output
  | showOutput output => Scene.OnWayland.showOutput output
  | showOutputs => Scene.OnWayland.showOutputs
  | showFormats => Scene.OnWayland.showFormats
  | changeSettings changes => Scene.OnWayland.changeSettings changes
  | sendEvents notices => Scene.OnWayland.sendEvents notices
  | hangUp => Scene.OnWayland.hangUp
  | dropLoop => Scene.OnWayland.dropLoop
  | actOnLoop action => Scene.OnWayland.actOnLoop action

def PacerStep.script (name : String) : PacerStep → Script Answer
  | make => Scene.makePacer name
  | schedule image => Scene.schedule name image
  | released image => Scene.bufferReleased name image
  | takeEvents => Scene.takeEvents name
  | frameDone => Scene.frameDone name
  | destroy => Scene.destroyPacing name
  | showState => Scene.showState name
  | changeSurface refusal => Scene.changeSurface name refusal
  | changeMode mode => Scene.changeMode name mode

def CollectionStep.script (name : String) : CollectionStep → Script Answer
  | make => Scene.makeCollection name
  | add output => Scene.addOutput name output
  | schedule output image => Scene.scheduleOn name output image
  | frameDone output => Scene.frameDoneOn name output
  | changeSurface output refusal => Scene.changeSurfaceOf name output refusal
  | changeMode output mode => Scene.changeModeOf name output mode
  | collect => Scene.collect name
  | released image => Scene.releasedIn name image
  | destroy output => Scene.destroyOutput name output
  | disconnect => Scene.disconnect name
  | takeEvents => Scene.takeBackendEvents name
  | showAll => Scene.showCollection name
  | find state => Scene.findState name state

def Step.script : Step → Script Answer
  | makeAllocator spec => Scene.makeAllocator spec
  | changeSettings allocator changes => Scene.changeSettings allocator changes
  | outstanding allocator => Scene.outstanding allocator
  | dropAllocator allocator => Scene.dropAllocator allocator
  | allocate allocator name spec => Scene.allocate allocator name spec
  | deallocate allocator image => Scene.deallocate allocator image
  | dropImage image => Scene.dropImage image
  | describe image => Scene.describe image
  | exportAgain image => Scene.exportAgain image
  | accessSlot image slot action => Scene.accessSlot image slot action
  | forgeOwner image like => Scene.forgeOwner image like
  | makeSwapchain name allocator spec flags => Scene.makeChain name allocator spec flags
  | showSwapchain name => Scene.showChain name
  | acquire swapchain => Scene.acquire swapchain
  | release swapchain image => Scene.release swapchain image
  | destroySwapchain swapchain => Scene.destroyChain swapchain
  | pacer name step => step.script name
  | collection name step => step.script name
  | x11 step => step.script
  | wayland step => step.script

structure Report where
  answer : Answer
  log : List String

namespace Scene

def step (s : Scene) (step : Step) : Report × Scene :=
  let s := { s with surroundings := s.surroundings.clearLog }
  match step.script.run s with
  | some (answer, s) => ({ answer := answer, log := s.surroundings.lines }, s)
  | none => ({ answer := .badRequest, log := [] }, s)

/-- Carries out steps in order; one that could not be read is no step at all. -/
def runFrom : Scene → List (Option Step) → List Report
  | _, [] => []
  | s, none :: rest => { answer := .badRequest, log := [] } :: runFrom s rest
  | s, some step :: rest =>
    let (report, s) := s.step step
    report :: runFrom s rest

def run (steps : List (Option Step)) : List Report :=
  runFrom {} steps

end Scene

end Scanout.Bench
