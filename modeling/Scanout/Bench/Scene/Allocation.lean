import Scanout.Bench.Scene.Basic
/-!
# Steps on allocators and single images

An allocator lives as long as it has a name or a swapchain uses it. When
nobody does any more, a GBM device is closed; images do not keep it.
-/

namespace Scanout.Bench.Scene

def inUse (s : Scene) (index : Nat) : Bool :=
  s.allocators.any (·.2 = index) || s.chains.any (·.2.device = index)

/-- Closes a device that nobody can reach any more. -/
def abandon (index : Nat) : Script Unit := do
  let s ← get
  match s.surroundings.devices[index]? with
  | none => return ()
  | some d =>
    if d.alive && !s.inUse index then
      surround fun w => w.modifyDevice index fun d => { d with alive := false }
      if d.kind = .gbm then surround fun w => (w.withGbm fun t => ((), t.closeDevice)).2

def withAllocator {α : Type} (index : Nat)
    (act : Host Surroundings → Allocator → Surroundings → α × Allocator × Surroundings) :
    Script α := do
  let s ← get
  let d ← expect s.surroundings.devices[index]?
  let a ← expect s.counts[index]?
  let (result, a, w) := act (d.host index) a s.surroundings
  set { s with surroundings := w, counts := s.counts.set index a }
  return result

def allocatorNamed (name : String) : Script Nat := do
  expect ((← get).allocators.get? name)

/-- How many images the allocator of a device has out. -/
def outstandingOn (s : Scene) (index : Nat) : Nat :=
  ((s.counts[index]?).map (·.outstanding)).getD 0

structure AllocatorSpec where
  name : String
  kind : DeviceKind
  display : DisplayKind
  renderer : RendererKind
  settings : List Setting

/-- Whether the display an allocator is to work with is open. -/
def displayOpen (s : Scene) : DisplayKind → Bool
  | .scripted => true
  | .x11 => s.surroundings.x11.isSome
  | .wayland => s.surroundings.wayland.isSome

/-- Opens a device; only a GBM device can fail to open. -/
def openDevice (d : Device) : Script (Option Failure) := do
  match d.kind with
  | .scripted => return none
  | .gbm =>
    let s ← get
    let (failure, w) := s.surroundings.withGbm fun t => t.openDevice d.settings.gbm
    set { s with surroundings := w }
    return failure

/-- Makes an allocator, in place of the one that had its name. -/
def makeAllocator (spec : AllocatorSpec) : Script Answer := do
  let s ← get
  if !s.displayOpen spec.display then failure
  let d : Device := {
    name := spec.name, kind := spec.kind, display := spec.display, renderer := spec.renderer
    settings := ({} : DeviceSettings).applyAll spec.settings }
  match ← openDevice d with
  | some cause => return .deviceFailed cause
  | none =>
    let before := s.allocators.get? spec.name
    modify fun s => { s with
      allocators := s.allocators.put spec.name s.surroundings.devices.length
      counts := s.counts ++ [{}]
      surroundings := { s.surroundings with devices := s.surroundings.devices ++ [d] } }
    match before with
    | none => return .nothing
    | some index =>
      abandon index
      return .nothing

def changeSettings (name : String) (changes : List Setting) : Script Answer := do
  let index ← allocatorNamed name
  surround fun w => w.modifyDevice index fun d =>
    { d with settings := d.settings.applyAll changes }
  return .nothing

def outstanding (name : String) : Script Answer := do
  let index ← allocatorNamed name
  return .number ((← get).outstandingOn index)

def dropAllocator (name : String) : Script Answer := do
  let index ← allocatorNamed name
  modify fun s => { s with allocators := s.allocators.erase name }
  abandon index
  return .nothing

structure ImageSpec where
  width : UInt32
  height : UInt32
  fourcc : Fourcc
  modifiers : List Modifier

/-- Allocates an image under a name that no image had before. -/
def allocate (allocator name : String) (spec : ImageSpec) : Script Answer := do
  let index ← allocatorNamed allocator
  if (← get).imageNames.any (·.1 = name) then failure
  match ← withAllocator index fun host =>
      Allocator.allocate host spec.width spec.height spec.fourcc spec.modifiers with
  | .done image =>
    holdAs name image
    return .image image
  | .failed e => return .ofAllocationError e
  | .fault f => return .fault f

def deallocate (allocator name : String) : Script Answer := do
  let index ← allocatorNamed allocator
  let image ← give name
  match ← withAllocator index fun host => Allocator.deallocate host image with
  | none => return .nothing
  | some f => return .fault f

/-- Drops an image without giving it back. -/
def dropImage (name : String) : Script Answer := do
  let image ← give name
  lose [image]
  return .nothing

def describe (name : String) : Script Answer := do
  return .buffer (← imageHeld name)

def exportAgain (name : String) : Script Answer := do
  let image ← imageHeld name
  let s ← get
  let (result, w) := s.surroundings.exportBuffer image.buffer
  set { s with surroundings := w }
  match result with
  | .ok dmabuf => return .exported dmabuf
  | .error cause => return .exportFailed cause

inductive ImageSlot where
  | backend
  | renderer
  | user

def ImageSlot.read (i : Image) : ImageSlot → DataSlot
  | backend => i.backendData
  | renderer => i.rendererData
  | user => i.userData

def ImageSlot.write (i : Image) (s : DataSlot) : ImageSlot → Image
  | backend => { i with backendData := s }
  | renderer => { i with rendererData := s }
  | user => { i with userData := s }

def accessSlot (name : String) (slot : ImageSlot) (action : DataSlot.Action) :
    Script Answer := do
  let image ← imageHeld name
  let (reply, contents) := (slot.read image).perform action
  modify fun s => { s with held := s.held.put name (slot.write image contents) }
  return .slot reply

/-- Lets an image claim the swapchain slot that another one belongs to. -/
def forgeOwner (name like : String) : Script Answer := do
  let image ← imageHeld name
  let model ← imageHeld like
  modify fun s => { s with held := s.held.put name { image with owner := model.owner } }
  return .nothing

end Scanout.Bench.Scene
