import Scanout.Allocator
/-!
# Swapchains

A swapchain holds a fixed set of images, all allocated when it is made.
`acquire` hands out the free image that was released longest ago and `release`
takes it back; when every image is out there is nothing to acquire, which
tells the caller to stop drawing.

The order of releases is kept as sequence numbers: a released slot gets the
next number, a slot that was never acquired has number zero, and of equal
numbers the first slot wins.
-/

namespace Scanout

/-- Raw option bits of a swapchain. -/
structure SwapchainFlags where
  bits : UInt32
  deriving DecidableEq, Repr

/-- How many images a swapchain has: three if triple buffered, else two. -/
def SwapchainFlags.imageCount (f : SwapchainFlags) : Nat :=
  if f.bits &&& 1 != 0 then 3 else 2

/-- One place of a swapchain; it is empty while its image is acquired. -/
structure SwapchainSlot where
  image : Option Image
  sequence : Nat
  deriving DecidableEq, Repr

/-- A fixed set of images used in turn. -/
structure Swapchain where
  id : SwapchainId
  width : UInt32
  height : UInt32
  fourcc : Fourcc
  modifiers : List Modifier
  slots : List SwapchainSlot
  /-- The sequence number of the latest release. -/
  counter : Nat
  deriving DecidableEq, Repr

namespace Swapchain

variable {σ : Type}

/-- Number of images, acquired or not. -/
def size (c : Swapchain) : Nat := c.slots.length

/-- Number of images that are out. -/
def acquired (c : Swapchain) : Nat :=
  c.slots.countP (·.image.isNone)

/-- The images that are not out, in slot order. -/
def images (c : Swapchain) : List Image :=
  c.slots.filterMap (·.image)

/-- Allocates the images missing behind those already made for a swapchain. -/
def allocateSlots (host : Host σ) (id : SwapchainId) (width height : UInt32) (fourcc : Fourcc)
    (modifiers : List Modifier) :
    (missing : Nat) → (made : List Image) → Allocator → σ →
      Outcome AllocationError (List Image) × Allocator × σ
  | 0, made, a, s => (.done made, a, s)
  | missing + 1, made, a, s =>
    match Allocator.allocate host width height fourcc modifiers a s with
    | (.done image, a, s) =>
      let image := { image with owner := some ⟨id, made.length⟩ }
      allocateSlots host id width height fourcc modifiers missing (made ++ [image]) a s
    | (.fault f, a, s) => (.fault f, a, host.dropImages made s)
    -- the images made so far go back, in slot order
    | (.failed e, a, s) =>
      match Allocator.deallocateAll host made a s with
      | (none, a, s) => (.failed e, a, s)
      | (some f, a, s) => (.fault f, a, s)

/-- Makes a swapchain with all its images, or none at all. -/
def create (host : Host σ) (id : SwapchainId) (width height : UInt32) (fourcc : Fourcc)
    (modifiers : List Modifier) (flags : SwapchainFlags) (a : Allocator) (s : σ) :
    Outcome AllocationError Swapchain × Allocator × σ :=
  match allocateSlots host id width height fourcc modifiers flags.imageCount [] a s with
  | (.failed e, a, s) => (.failed e, a, s)
  | (.fault f, a, s) => (.fault f, a, s)
  | (.done images, a, s) =>
    (.done {
      id := id, width := width, height := height, fourcc := fourcc, modifiers := modifiers
      slots := images.map fun image => ⟨some image, 0⟩
      counter := 0 }, a, s)

/-- The slot to acquire from: of those with an image the one with the least
sequence number, and of equals the first. -/
def oldest? (slots : List SwapchainSlot) : Option Nat := do
  let least ← ((slots.filter (·.image.isSome)).map (·.sequence)).min?
  slots.findIdx? fun slot => slot.image.isSome && slot.sequence == least

/-- Hands out the image released longest ago, if any image is in. -/
def acquire (c : Swapchain) : Option Image × Swapchain :=
  match oldest? c.slots with
  | none => (none, c)
  | some index =>
    ((c.slots[index]?).bind (·.image),
      { c with slots := c.slots.modify index fun slot => { slot with image := none } })

/-- Takes an image back into its slot. After a fault the image is gone and the
swapchain is as it was. -/
def release (c : Swapchain) (image : Image) : Except Fault Swapchain :=
  match image.owner with
  | none => .error .releasedStandalone
  | some owner =>
    if owner.swapchain ≠ c.id then .error .releasedForeign
    else
      match c.slots[owner.index]? with
      | none => .error (.slotOutOfRange c.slots.length owner.index)
      | some slot =>
        if slot.image.isSome then .error .releasedIdle
        else .ok { c with
          slots := c.slots.set owner.index ⟨some image, c.counter + 1⟩
          counter := c.counter + 1 }

/-- Ends a swapchain and gives its images back in slot order. If some are out
that is a fault, and the others are only dropped. -/
def destroy (host : Host σ) (c : Swapchain) (a : Allocator) (s : σ) :
    Option Fault × Allocator × σ :=
  if c.acquired ≠ 0 then (some .swapchainInUse, a, host.dropImages c.images s)
  else Allocator.deallocateAll host c.images a s

end Swapchain

end Scanout
