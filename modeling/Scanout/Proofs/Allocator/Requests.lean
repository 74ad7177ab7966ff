import Scanout.Proofs.Allocator.Actions
import Scanout.Proofs.Dmabuf.Export

/-!
# What an image says of itself

Whoever asks for an image says its size, its format and the layouts that will do. What comes
back describes itself by its dmabuf, and that is what the device wrote when it exported the
buffer. The allocator looks at the layout once, before the export, and at the buffer object:
`createBuffer_settles` says that the buffer it settles for has a layout that will do. Nothing
looks at the dmabuf, so an image is what was asked for exactly if its buffer was exported so:
`allocate_done` and `Image.fits_iff`.
-/

namespace Scanout

variable {σ : Type}

/-- What is asked for when an image is allocated. -/
structure ImageRequest where
  width : UInt32
  height : UInt32
  fourcc : Fourcc
  /-- The layouts that will do; if none is named, any will. -/
  modifiers : List Modifier
  deriving DecidableEq, Repr

/-- Whether a layout will do. -/
def ImageRequest.Admits (q : ImageRequest) (m : Modifier) : Prop :=
  q.modifiers ≠ [] → m ∈ q.modifiers

instance (q : ImageRequest) (m : Modifier) : Decidable (q.Admits m) :=
  inferInstanceAs (Decidable (_ → _))

/-- A dmabuf that describes what was asked for. -/
structure Dmabuf.Fits (d : Dmabuf) (q : ImageRequest) : Prop where
  width : d.width = q.width
  height : d.height = q.height
  fourcc : d.fourcc = q.fourcc
  modifier : q.Admits d.modifier

instance (d : Dmabuf) (q : ImageRequest) : Decidable (d.Fits q) :=
  decidable_of_iff
    (d.width = q.width ∧ d.height = q.height ∧ d.fourcc = q.fourcc ∧ q.Admits d.modifier)
    ⟨fun ⟨width, height, fourcc, modifier⟩ => ⟨width, height, fourcc, modifier⟩,
      fun ⟨width, height, fourcc, modifier⟩ => ⟨width, height, fourcc, modifier⟩⟩

/-- An image that is what was asked for, and its dmabuf with it. -/
structure Image.Fits (image : Image) (q : ImageRequest) : Prop where
  width : image.width = q.width
  height : image.height = q.height
  fourcc : image.format.code = q.fourcc
  modifier : q.Admits image.format.modifier
  dmabuf : image.dmabuf.Fits q

/-- An image has nothing to say about itself but what its dmabuf says. -/
theorem Image.fits_iff (image : Image) (q : ImageRequest) :
    image.Fits q ↔ image.dmabuf.Fits q :=
  ⟨Image.Fits.dmabuf, fun h => ⟨h.width, h.height, h.fourcc, h.modifier, h⟩⟩

namespace Host

variable {host : Host σ}

/-- Renderer and display keep what they make of an image in its slots; the buffer object it
consists of and the dmabuf it was exported as stay the same. -/
structure KeepsDmabufs (host : Host σ) : Prop extends host.KeepsBuffers where
  create_dmabuf : ∀ hooks ∈ host.hooks, ∀ image s image',
    (hooks.create image s).1 = .ok image' → image'.dmabuf = image.dmabuf
  attach_dmabuf : ∀ image s image',
    (host.attach image s).1 = .ok image' → image'.dmabuf = image.dmabuf

/-! ## Settling for a buffer -/

/-- Asked for a buffer the device breaks a contract. -/
inductive Faults (host : Host σ) (f : Fault) : Prop where
  | explicit {width height : UInt32} {fourcc : Fourcc} {modifiers : List Modifier} {s : σ}
      (h : (host.createExplicit width height fourcc modifiers s).1 = .fault f)
  | implicit {width height : UInt32} {fourcc : Fourcc} {usage : BufferUsage} {s : σ}
      (h : (host.createImplicit width height fourcc usage s).1 = .fault f)

/-- What is known of an attempt with explicit layouts, by how it ended. -/
def Attempt.Keeps (host : Host σ) (requested : List Modifier) : Attempt → Prop
  | .accepted buffer => buffer.format.modifier ∈ requested
  | .refused _ => True
  | .fault f => host.Faults f

/-- What is known of the search for a buffer, by how it ended: one that was settled for has one
of the layouts that were named, if any were, and only the device can go wrong. -/
def Settles (host : Host σ) (requested : List Modifier) : Outcome AllocationError Buffer → Prop
  | .done buffer => requested ≠ [] → buffer.format.modifier ∈ requested
  | .failed _ => True
  | .fault f => host.Faults f

section

variable (host) (width height : UInt32) (fourcc : Fourcc) (requested : List Modifier) (s : σ)

theorem tryExplicit_keeps :
    (host.tryExplicit width height fourcc requested s).1.Keeps host requested := by
  unfold tryExplicit
  split
  · trivial
  · split
    · split
      · next hlisted => exact hlisted
      · trivial
    · trivial
    · next f s' hasked => exact .explicit (congrArg Prod.fst hasked)

theorem tryImplicit_settles (hallowed : requested ≠ [] → .invalid ∈ requested) :
    host.Settles requested (host.tryImplicit width height fourcc requested s).1 := by
  unfold tryImplicit
  split
  · next buffer s' hasked =>
    split
    · next haccepted =>
      intro hsome
      have hlayout : buffer.format.modifier = .invalid := by simpa [hsome] using haccepted
      rw [hlayout]
      exact hallowed hsome
    · trivial
  · trivial
  · next f s' hasked => exact .implicit (congrArg Prod.fst hasked)

theorem createBuffer_settles :
    host.Settles requested (host.createBuffer width height fourcc requested s).1 := by
  have hfirst := host.tryExplicit_keeps width height fourcc requested s
  unfold createBuffer
  split
  · next buffer s' hexplicit =>
    rw [hexplicit] at hfirst
    exact fun _ => hfirst
  · next f s' hexplicit =>
    rw [hexplicit] at hfirst
    exact hfirst
  · next error s' hexplicit =>
    split
    · next hallowed =>
      -- the second attempt is made only if the implicit layout was named
      exact host.tryImplicit_settles width height fourcc requested s' fun hsome => by
        simpa [hsome] using hallowed
    · split <;> trivial

end

/-! ## What is exported -/

/-- The dmabuf of the buffer an allocation settles for, if it comes to that. -/
def exported? (host : Host σ) (q : ImageRequest) (s : σ) : Option Dmabuf :=
  if q.width = 0 ∨ q.height = 0 then none
  else
    match host.createBuffer q.width q.height q.fourcc q.modifiers s with
    | (.done buffer, s) => (host.exportBuffer buffer s).1.toOption
    | _ => none

theorem hookCreate_ok (hk : host.KeepsDmabufs) {image image' : Image} {s : σ}
    (h : (host.hookCreate image s).1 = .ok image') :
    image'.dmabuf = image.dmabuf ∧ image'.buffer = image.buffer := by
  unfold hookCreate at h
  split at h
  · rw [← Except.ok.inj h]
    exact ⟨rfl, rfl⟩
  · next hooks hhooks =>
    exact ⟨hk.create_dmabuf hooks hhooks image s image' h, hk.create hooks hhooks image s image' h⟩

/-- Importing an image leaves it with the dmabuf and the buffer it had. -/
theorem importImage_ok (hk : host.KeepsDmabufs) {image image' : Image} {s : σ}
    (h : (host.importImage image s).1 = .ok image') :
    image'.dmabuf = image.dmabuf ∧ image'.buffer = image.buffer := by
  unfold importImage at h
  split at h
  · exact absurd h (by simp)
  · next hooked s₁ hhook =>
    obtain ⟨hdmabuf, hbuffer⟩ := hookCreate_ok hk (congrArg Prod.fst hhook)
    split at h
    · next attached s₂ hattach =>
      have hattached := congrArg Prod.fst hattach
      rw [← Except.ok.inj h]
      exact ⟨(hk.attach_dmabuf hooked s₁ attached hattached).trans hdmabuf,
        (hk.attach hooked s₁ attached hattached).trans hbuffer⟩
    · exact absurd h (by simp)

end Host

namespace Allocator

variable {host : Host σ} {q : ImageRequest} {a a' : Allocator} {s s' : σ} {image : Image}

/-- An image that is allocated consists of the buffer that was settled for, and has the dmabuf
this was exported as. -/
theorem allocate_done (hk : host.KeepsDmabufs)
    (h : allocate host q.width q.height q.fourcc q.modifiers a s = (.done image, a', s')) :
    ¬ (q.width = 0 ∨ q.height = 0) ∧
    ∃ s₁, host.createBuffer q.width q.height q.fourcc q.modifiers s = (.done image.buffer, s₁) ∧
      (host.exportBuffer image.buffer s₁).1 = .ok image.dmabuf := by
  unfold allocate at h
  split at h
  · exact absurd (congrArg Prod.fst h) (by simp)
  next hsize =>
  split at h
  · exact absurd (congrArg Prod.fst h) (by simp)
  · exact absurd (congrArg Prod.fst h) (by simp)
  next buffer s₁ hmade =>
  split at h
  · exact absurd (congrArg Prod.fst h) (by simp)
  next dmabuf s₂ hexport =>
  dsimp only at h
  split at h
  · exact absurd (congrArg Prod.fst h) (by simp)
  next imported s₃ himport =>
  obtain rfl : imported = image := by simpa using congrArg Prod.fst h
  obtain ⟨hdmabuf, hbuffer⟩ := Host.importImage_ok hk (congrArg Prod.fst himport)
  refine ⟨hsize, s₁, ?_, ?_⟩
  · rw [hmade, hbuffer]
  · rw [hbuffer, hexport, hdmabuf]

theorem allocate_exported (hk : host.KeepsDmabufs)
    (h : allocate host q.width q.height q.fourcc q.modifiers a s = (.done image, a', s')) :
    host.exported? q s = some image.dmabuf := by
  obtain ⟨hsize, s₁, hmade, hexport⟩ := allocate_done hk h
  simp only [Host.exported?, if_neg hsize, hmade, hexport]
  rfl

theorem allocate_layout (hk : host.KeepsDmabufs)
    (h : allocate host q.width q.height q.fourcc q.modifiers a s = (.done image, a', s')) :
    q.Admits image.buffer.format.modifier := by
  obtain ⟨-, s₁, hmade, -⟩ := allocate_done hk h
  have hsettles := host.createBuffer_settles q.width q.height q.fourcc q.modifiers s
  rw [hmade] at hsettles
  exact hsettles

/-- Only the device can make an allocation a fault. -/
theorem allocate_fault {f : Fault}
    (h : (allocate host q.width q.height q.fourcc q.modifiers a s).1 = .fault f) :
    host.Faults f := by
  have hsettles := host.createBuffer_settles q.width q.height q.fourcc q.modifiers s
  unfold allocate at h
  split at h
  · exact absurd h (by simp)
  split at h
  · exact absurd h (by simp)
  · next f' s' hmade =>
    rw [hmade] at hsettles
    rwa [← Outcome.fault.inj h]
  split at h
  · exact absurd h (by simp)
  dsimp only at h
  split at h <;> exact absurd h (by simp)

end Allocator

/-- A GBM buffer object is exported as it was read when it was made. -/
theorem GbmBuffer.exportDmabuf_described {b : GbmBuffer} {alive : Bool} {d : Dmabuf}
    (h : b.exportDmabuf alive = .ok d) :
    d.width = b.width ∧ d.height = b.height ∧ d.format = b.format := by
  obtain ⟨hwidth, hheight, hformat, -⟩ := exportBy_first h
  exact ⟨hwidth, hheight, hformat⟩

/-- A GBM device exports its buffer objects in the layouts they report, and so it keeps to those
that will do. -/
theorem Allocator.allocate_layout_of_gbm {host : Host σ} {q : ImageRequest} {a a' : Allocator}
    {s s' : σ} {image : Image} (hk : host.KeepsDmabufs)
    (hgbm : ∀ buffer s d, (host.exportBuffer buffer s).1 = .ok d →
      ∃ device number b alive, buffer = .gbm device number b ∧ b.exportDmabuf alive = .ok d)
    (h : allocate host q.width q.height q.fourcc q.modifiers a s = (.done image, a', s')) :
    q.Admits image.format.modifier := by
  obtain ⟨-, s₁, -, hexport⟩ := allocate_done hk h
  obtain ⟨device, number, b, alive, hbuffer, hmade⟩ := hgbm image.buffer s₁ image.dmabuf hexport
  obtain ⟨-, -, hformat⟩ := GbmBuffer.exportDmabuf_described hmade
  have hlayout := allocate_layout hk h
  rw [hbuffer] at hlayout
  rw [Image.format, hformat]
  exact hlayout

end Scanout
