import Scanout.Image
/-!
# The allocator

Every image an allocator gives out went through three steps: a buffer object
was made and exported, the renderer imported it, the display imported it. A
step that fails undoes the ones before it in reverse order, so a failed call
leaves nothing behind; giving an image back undoes all three.

The allocator knows its surroundings only as a `Host`: a device that makes
buffers, hooks that import them into the renderer, and a display. Each of
them may answer anything at any call, and the host's state `σ` carries
whatever they remember from one call to the next.

A caller names the layouts it can live with. The implicit layout is asked for
only if the list is empty or contains it, and only after the explicit ones
were refused; whatever the device hands out, a layout that is not on a
non-empty list is not accepted.
-/

namespace Scanout

/-- Why a display could not import an image. -/
inductive AttachError where
  | unsupported (format : Format)
  | tooManyPlanes (planes max : Nat)
  | descriptor (cause : Failure)
  | disconnected
  | protocol (cause : Failure)
  deriving DecidableEq, Repr

/-- The texts of the error and its causes. The text of a protocol error is that of its cause. -/
def AttachError.chain : AttachError → Except Fault (List String)
  | unsupported format => do
    let format ← format.describe
    return [s!"Format {format} cannot be imported"]
  | tooManyPlanes planes max =>
    return [s!"Buffer has {planes} planes, the import path supports at most {max}"]
  | descriptor cause => return "Failed to duplicate a dmabuf fd" :: cause.chain
  | disconnected => return ["The backend is disconnected"]
  | protocol cause => return cause.chain

/-- Why no image could be allocated. -/
inductive AllocationError where
  | invalidSize (width height : UInt32)
  | createBuffer (cause : Failure)
  | unsupportedModifiers (fourcc : Fourcc) (requested : List Modifier)
  | exportBuffer (cause : Failure)
  | renderer (cause : Failure)
  | importImage (cause : AttachError)
  deriving DecidableEq, Repr

/-- The text of an error and its causes; a text that cannot be made is a fault. -/
def AllocationError.describe : AllocationError → Except Fault Failure
  | invalidSize width height => return { message := s!"Invalid buffer size {width}x{height}" }
  | createBuffer cause =>
    return { message := "Failed to create a buffer object", causes := cause.chain }
  | unsupportedModifiers fourcc requested => do
    let names := Modifier.listNames requested
    let fourcc ← fourcc.describe
    return { message :=
      s!"None of the requested modifiers {names} are supported for {fourcc}" }
  | exportBuffer cause =>
    return { message := "Failed to export the buffer object", causes := cause.chain }
  | renderer cause =>
    return { message := "The renderer failed to import the image", causes := cause.chain }
  | importImage cause => do
    let causes ← cause.chain
    return { message := "The backend failed to import the image", causes := causes }

/-- How a renderer imports images. -/
structure Hooks (σ : Type) where
  /-- Imports a new image; on success the image carries what was made. -/
  create : Image → σ → Except Failure Image × σ
  /-- Takes back what `create` made; does nothing for an image without it. -/
  destroy : Image → σ → Image × σ

/-- Everything an allocator works with. -/
structure Host (σ : Type) where
  /-- Makes a buffer in one of the given layouts. -/
  createExplicit : UInt32 → UInt32 → Fourcc → List Modifier → σ → Outcome Failure Buffer × σ
  /-- Makes a buffer in a layout the device picks. -/
  createImplicit : UInt32 → UInt32 → Fourcc → BufferUsage → σ → Outcome Failure Buffer × σ
  exportBuffer : Buffer → σ → Except Failure Dmabuf × σ
  freeBuffer : Buffer → σ → σ
  nextImageId : σ → ImageId × σ
  hooks : Option (Hooks σ)
  /-- Imports an image into the display; on success the image carries what was made. -/
  attach : Image → σ → Except AttachError Image × σ
  /-- Takes back what `attach` made. -/
  detach : Image → σ → Image × σ

namespace Host

variable {σ : Type}

/-- Drops an image: its buffer is freed and nothing else happens. -/
def dropImage (host : Host σ) (image : Image) (s : σ) : σ :=
  host.freeBuffer image.buffer s

def dropImages (host : Host σ) (images : List Image) (s : σ) : σ :=
  images.foldl (fun s image => host.dropImage image s) s

/-- Runs the renderer's import, if there is a renderer. -/
def hookCreate (host : Host σ) (image : Image) (s : σ) : Except Failure Image × σ :=
  match host.hooks with
  | none => (.ok image, s)
  | some hooks => hooks.create image s

/-- Undoes the renderer's import, if there is a renderer. -/
def hookDestroy (host : Host σ) (image : Image) (s : σ) : Image × σ :=
  match host.hooks with
  | none => (image, s)
  | some hooks => hooks.destroy image s

/-- How an attempt with explicit layouts ended. -/
inductive Attempt where
  | accepted (buffer : Buffer)
  /-- No buffer, and the device error to report unless another attempt succeeds. -/
  | refused (error : Option Failure)
  | fault (fault : Fault)
  deriving DecidableEq, Repr

def explicitModifiers (requested : List Modifier) : List Modifier :=
  requested.filter (· ≠ .invalid)

/-- Asks for one of the explicit layouts, if there is any. -/
def tryExplicit (host : Host σ) (width height : UInt32) (fourcc : Fourcc)
    (requested : List Modifier) (s : σ) : Attempt × σ :=
  if (explicitModifiers requested).isEmpty then (.refused none, s)
  else
    match host.createExplicit width height fourcc (explicitModifiers requested) s with
    | (.done buffer, s) =>
      if buffer.format.modifier ∈ requested then (.accepted buffer, s)
      else (.refused none, host.freeBuffer buffer s)
    -- with the implicit layout in the list there will be another attempt
    | (.failed e, s) => (.refused (if .invalid ∈ requested then none else some e), s)
    | (.fault f, s) => (.fault f, s)

def usage : BufferUsage := .union .rendering .scanout

/-- Asks for an implicit layout; on a non-empty list nothing else is accepted. -/
def tryImplicit (host : Host σ) (width height : UInt32) (fourcc : Fourcc)
    (requested : List Modifier) (s : σ) : Outcome AllocationError Buffer × σ :=
  match host.createImplicit width height fourcc usage s with
  | (.done buffer, s) =>
    if requested.isEmpty || buffer.format.modifier = .invalid then (.done buffer, s)
    else (.failed (.unsupportedModifiers fourcc requested), host.freeBuffer buffer s)
  | (.failed e, s) => (.failed (.createBuffer e), s)
  | (.fault f, s) => (.fault f, s)

/-- Finds a buffer in one of the requested layouts. -/
def createBuffer (host : Host σ) (width height : UInt32) (fourcc : Fourcc)
    (requested : List Modifier) (s : σ) : Outcome AllocationError Buffer × σ :=
  match host.tryExplicit width height fourcc requested s with
  | (.accepted buffer, s) => (.done buffer, s)
  | (.fault f, s) => (.fault f, s)
  | (.refused error, s) =>
    if requested.isEmpty || .invalid ∈ requested then
      host.tryImplicit width height fourcc requested s
    else
      match error with
      | some e => (.failed (.createBuffer e), s)
      | none => (.failed (.unsupportedModifiers fourcc requested), s)

/-- Imports a new image into renderer and display, or undoes everything. -/
def importImage (host : Host σ) (image : Image) (s : σ) : Except AllocationError Image × σ :=
  match host.hookCreate image s with
  | (.error e, s) => (.error (.renderer e), host.dropImage image s)
  | (.ok image, s) =>
    match host.attach image s with
    | (.ok image, s) => (.ok image, s)
    | (.error e, s) =>
      let (image, s) := host.hookDestroy image s
      (.error (.importImage e), host.dropImage image s)

end Host

/-- The bookkeeping of an allocator: how many images are out. -/
structure Allocator where
  outstanding : Nat := 0
  deriving DecidableEq, Repr

namespace Allocator

variable {σ : Type}

def allocate (host : Host σ) (width height : UInt32) (fourcc : Fourcc)
    (requested : List Modifier) (a : Allocator) (s : σ) :
    Outcome AllocationError Image × Allocator × σ :=
  if width = 0 ∨ height = 0 then (.failed (.invalidSize width height), a, s)
  else
    match host.createBuffer width height fourcc requested s with
    | (.failed e, s) => (.failed e, a, s)
    | (.fault f, s) => (.fault f, a, s)
    | (.done buffer, s) =>
      match host.exportBuffer buffer s with
      | (.error e, s) => (.failed (.exportBuffer e), a, host.freeBuffer buffer s)
      | (.ok dmabuf, s) =>
        let (id, s) := host.nextImageId s
        match host.importImage { id := id, dmabuf := dmabuf, buffer := buffer } s with
        | (.error e, s) => (.failed e, a, s)
        | (.ok image, s) => (.done image, { outstanding := a.outstanding + 1 }, s)

def deallocate (host : Host σ) (image : Image) (a : Allocator) (s : σ) :
    Option Fault × Allocator × σ :=
  let (image, s) := host.detach image s
  let (image, s) := host.hookDestroy image s
  let s := host.dropImage image s
  -- the count is looked at last, so an image too many is gone all the same
  match a.outstanding with
  | 0 => (some .deallocatedTooOften, a, s)
  | n + 1 => (none, { outstanding := n }, s)

def deallocateAll (host : Host σ) : List Image → Allocator → σ → Option Fault × Allocator × σ
  | [], a, s => (none, a, s)
  | image :: rest, a, s =>
    match deallocate host image a s with
    -- the others are not given back any more
    | (some f, a, s) => (some f, a, host.dropImages rest s)
    | (none, a, s) => deallocateAll host rest a s

end Allocator

end Scanout
