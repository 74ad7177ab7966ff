import Scanout.Bench.Scene.Allocation
/-!
# Steps on swapchains

Images acquired from a swapchain go by its name and their slot.
-/

namespace Scanout.Bench.Scene

def chainNamed (name : String) : Script ChainEntry := do
  expect ((← get).chains.get? name)

def chainInfo (s : Scene) (e : ChainEntry) : Answer :=
  .swapchain { chain := e.chain, outstanding := s.outstandingOn e.device }

/-- Makes a swapchain. Its identifier is used up also if that fails. -/
def makeChain (name allocator : String) (spec : ImageSpec) (flags : SwapchainFlags) :
    Script Answer := do
  let index ← allocatorNamed allocator
  let s ← get
  if s.chains.contains name then failure
  set { s with nextSwapchain := s.nextSwapchain + 1 }
  match ← withAllocator index fun host =>
      Swapchain.create host ⟨s.nextSwapchain⟩ spec.width spec.height spec.fourcc spec.modifiers
        flags with
  | .done chain =>
    let e : ChainEntry := { chain := chain, device := index }
    modify fun s => { s with chains := s.chains.put name e }
    return (← get).chainInfo e
  | .failed e => return .ofAllocationError e
  | .fault f => return .fault f

def showChain (name : String) : Script Answer := do
  let e ← chainNamed name
  return (← get).chainInfo e

/-- Acquires an image, if one is free. -/
def acquire (name : String) : Script Answer := do
  let e ← chainNamed name
  let (image?, chain) := e.chain.acquire
  modify fun s => { s with chains := s.chains.put name { e with chain := chain } }
  match image? with
  | none => return .nothing
  | some image =>
    let slot := (image.owner.map (·.index)).getD 0
    let imageName := s!"{name}.{slot}"
    holdAs imageName image
    return .acquired imageName image.id

/-- Releases an image. One that does not belong into the swapchain is lost. -/
def release (name imageName : String) : Script Answer := do
  let e ← chainNamed name
  let image ← give imageName
  match e.chain.release image with
  | .ok chain =>
    modify fun s => { s with chains := s.chains.put name { e with chain := chain } }
    return .nothing
  | .error f =>
    lose [image]
    return .fault f

def destroyChain (name : String) : Script Answer := do
  let e ← chainNamed name
  modify fun s => { s with chains := s.chains.erase name }
  -- with images out it lets go of its allocator before it loses the others
  if e.chain.acquired ≠ 0 then abandon e.device
  let fault? ← withAllocator e.device fun host => e.chain.destroy host
  abandon e.device
  match fault? with
  | none => return .nothing
  | some f => return .fault f

end Scanout.Bench.Scene
