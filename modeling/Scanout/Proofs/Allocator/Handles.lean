import Scanout.Proofs.Allocator.Lives
import Scanout.Renderer

/-!
# The handles of imported images

An EGL context makes a handle of every image it imports, and somebody has to destroy each of them
once. A handle lives in the renderer slot of its image, so it goes wherever the image goes, and the
hooks find it there when the image comes back or the display refuses it. `Host.tracing` is an
allocator's host that writes down what the context is asked, next to what happens to buffers and in
the display. Each call leaves a trace of one of a few shapes (`Episode`, `parting`), and from these
the balance of a whole run follows: what was imported was destroyed, but for the images that are
out (`every_handle_is_destroyed_once`).
-/

namespace Scanout

variable {σ : Type}

/-- One thing an allocator had done, by the device, the context or the display. -/
inductive ContextAction where
  | created (buffer : Buffer)
  | freed (buffer : Buffer)
  /-- The context was to be made current. -/
  | current (held : Bool)
  | imported (handle : Nat)
  | importFailed
  | destroyed (handle : Nat)
  | attached (buffer : Buffer)
  | attachRefused (buffer : Buffer)
  | detached (buffer : Buffer)
  deriving DecidableEq, Repr

abbrev Trace := List ContextAction

namespace Trace

/-- The handles that were made. -/
def imports (t : Trace) : List Nat :=
  t.filterMap fun
    | .imported handle => some handle
    | _ => none

/-- The handles that were destroyed. -/
def destroys (t : Trace) : List Nat :=
  t.filterMap fun
    | .destroyed handle => some handle
    | _ => none

@[simp] theorem imports_append (t more : Trace) : imports (t ++ more) = t.imports ++ more.imports :=
  List.filterMap_append

@[simp] theorem destroys_append (t more : Trace) :
    destroys (t ++ more) = t.destroys ++ more.destroys :=
  List.filterMap_append

/-- Buffers that were made and freed at once. -/
def unused (buffers : List Buffer) : Trace :=
  buffers.flatMap fun buffer => [.created buffer, .freed buffer]

/-- Where no image is made, the context has nothing to do. -/
theorem unused_silent (buffers : List Buffer) :
    (unused buffers).imports = [] ∧ (unused buffers).destroys = [] := by
  simp [imports, destroys, unused, List.filterMap_flatMap]

end Trace

/-- The context with a list of what it was asked. -/
def EglContext.tracing (egl : EglContext σ) : EglContext (σ × Trace) :=
  { makeCurrent := fun r =>
      let (result, s) := egl.makeCurrent r.1
      (result, s, r.2 ++ [.current result.isOk])
    importDmabuf := fun dmabuf r =>
      let (result, s) := egl.importDmabuf dmabuf r.1
      (result, s, r.2 ++ [match result with
        | .ok handle => .imported handle
        | .error _ => .importFailed])
    destroyImage := fun handle r => (egl.destroyImage handle r.1, r.2 ++ [.destroyed handle]) }

namespace Host

/-- The host with the hooks of a renderer that draws in the context. -/
def withContext (host : Host σ) (egl : EglContext σ) : Host σ :=
  { host with hooks := some egl.hooks }

/-- That host with a list of what was done. -/
def tracing (host : Host σ) (egl : EglContext σ) : Host (σ × Trace) :=
  { createExplicit := fun width height fourcc modifiers r =>
      let (result, s) := host.createExplicit width height fourcc modifiers r.1
      (result, s, r.2 ++ result.written .created)
    createImplicit := fun width height fourcc usage r =>
      let (result, s) := host.createImplicit width height fourcc usage r.1
      (result, s, r.2 ++ result.written .created)
    exportBuffer := fun buffer r =>
      let (result, s) := host.exportBuffer buffer r.1
      (result, s, r.2)
    freeBuffer := fun buffer r => (host.freeBuffer buffer r.1, r.2 ++ [.freed buffer])
    nextImageId := fun r =>
      let (id, s) := host.nextImageId r.1
      (id, s, r.2)
    hooks := some egl.tracing.hooks
    attach := fun image r =>
      let (result, s) := host.attach image r.1
      (result, s, r.2 ++ [match result with
        | .ok _ => .attached image.buffer
        | .error _ => .attachRefused image.buffer])
    detach := fun image r =>
      let (image', s) := host.detach image r.1
      (image', s, r.2 ++ [.detached image.buffer]) }

/-- The display leaves the renderer slot of an image alone, and the buffer the image consists of. -/
structure SparesRenderer (host : Host σ) : Prop where
  attach : ∀ image s image', (host.attach image s).1 = .ok image' →
    image'.buffer = image.buffer ∧ image'.rendererData = image.rendererData
  detach : ∀ image s, (host.detach image s).1.buffer = image.buffer ∧
    (host.detach image s).1.rendererData = image.rendererData

end Host

/-- The handle an image was imported as. -/
def Image.eglHandle? (image : Image) : Option Nat :=
  match image.rendererData.value? with
  | some (.eglImage handle) => some handle
  | _ => none

/-- What an allocation has done, by how it ended. Before it settles for a buffer it may have made
others and freed them. -/
inductive Episode : Outcome AllocationError Image → Trace → Prop where
  /-- It came to no image. -/
  | unused {outcome : Outcome AllocationError Image} (buffers : List Buffer)
      (none : ∀ image, outcome ≠ .done image) : Episode outcome (Trace.unused buffers)
  | contextLost {e : AllocationError} (buffers : List Buffer) (buffer : Buffer) :
    Episode (.failed e)
      (Trace.unused buffers ++ [.created buffer, .current false, .freed buffer])
  | importFailed {e : AllocationError} (buffers : List Buffer) (buffer : Buffer) :
    Episode (.failed e)
      (Trace.unused buffers ++ [.created buffer, .current true, .importFailed, .freed buffer])
  /-- The display refused the image, so the handle went at once, be the context lost or not. -/
  | refused {e : AllocationError} (buffers : List Buffer) (buffer : Buffer) (handle : Nat)
      (held : Bool) :
    Episode (.failed e) (Trace.unused buffers ++ [.created buffer, .current true, .imported handle,
      .attachRefused buffer, .current held, .destroyed handle, .freed buffer])
  | done {image : Image} (buffers : List Buffer) {handle : Nat}
      (kept : image.eglHandle? = some handle) :
    Episode (.done image) (Trace.unused buffers ++ [.created image.buffer, .current true,
      .imported handle, .attached image.buffer])

/-- What is done when an image comes back. -/
def parting (buffer : Buffer) (held : Bool) (handle : Nat) : Trace :=
  [.detached buffer, .current held, .destroyed handle, .freed buffer]

/-! ## Images in the context -/

namespace EglContext

variable (egl : EglContext σ) (image : Image) (s : σ) (t : Trace)

/-- The image is imported and keeps its handle, or no handle was made. -/
theorem create_tracing :
    (∃ handle image' s', egl.create image s = (.ok image', s') ∧
      egl.tracing.create image (s, t)
        = (.ok image', s', t ++ [.current true, .imported handle]) ∧
      image'.buffer = image.buffer ∧ image'.eglHandle? = some handle) ∨
    ∃ e s' failure, egl.create image s = (.error e, s') ∧
      egl.tracing.create image (s, t) = (.error e, s', t ++ failure) ∧
      (failure = [.current false] ∨ failure = [.current true, .importFailed]) := by
  rcases hcurrent : egl.makeCurrent s with ⟨e | _, s₁⟩
  · refine .inr ⟨e, s₁, _, by simp [create, hcurrent], ?_, .inl rfl⟩
    simp [create, tracing, hcurrent, Except.isOk, Except.toBool]
  rcases himport : egl.importDmabuf image.dmabuf s₁ with ⟨e | handle, s₂⟩
  · refine .inr ⟨e, s₂, _, by simp [create, hcurrent, himport], ?_, .inr rfl⟩
    simp [create, tracing, hcurrent, himport, Except.isOk, Except.toBool]
  · refine .inl ⟨handle,
      { image with rendererData := image.rendererData.set (.eglImage handle) }, s₂,
      by simp [create, hcurrent, himport], ?_, rfl, rfl⟩
    simp [create, tracing, hcurrent, himport, Except.isOk, Except.toBool]

variable {image} {handle : Nat} (h : image.eglHandle? = some handle)

include h

/-- The handle an image keeps is destroyed, whatever becomes of the context. -/
theorem destroy_tracing :
    (egl.destroy image s).1.buffer = image.buffer ∧
    ∃ held, egl.tracing.destroy image (s, t)
      = ((egl.destroy image s).1, (egl.destroy image s).2,
        t ++ [.current held, .destroyed handle]) := by
  have hvalue : image.rendererData.value? = some (.eglImage handle) := by
    unfold Image.eglHandle? at h
    split at h
    · next hvalue => rw [hvalue, Option.some.inj h]
    · exact absurd h (by simp)
  have htake : image.rendererData.take .eglImage = (some (.eglImage handle), .empty) := by
    simp only [DataSlot.take, DataSlot.get?, hvalue]
    rfl
  simp only [destroy, htake]
  exact ⟨trivial, (egl.makeCurrent s).1.isOk, by simp [tracing]⟩

end EglContext

theorem Image.eglHandle?_congr {image image' : Image}
    (h : image'.rendererData = image.rendererData) : image'.eglHandle? = image.eglHandle? := by
  rw [eglHandle?, h, eglHandle?]

/-! ## The calls of an allocator -/

namespace Host

variable (host : Host σ) (egl : EglContext σ)

theorem tracing_writes : (host.withContext egl).Writes (host.tracing egl) .created .freed :=
  ⟨fun _ _ _ _ _ _ => rfl, fun _ _ _ _ _ _ => rfl, fun _ _ _ => rfl⟩

variable {host} (hk : host.SparesRenderer)

include hk

/-- The import of an image that was just made goes through and keeps the handle, or leaves none. -/
theorem importImage_tracing (image : Image) (s : σ) (t : Trace) :
    (∃ image' s' handle, (host.withContext egl).importImage image s = (.ok image', s') ∧
      (host.tracing egl).importImage image (s, t) = (.ok image', s',
        t ++ [.current true, .imported handle, .attached image.buffer]) ∧
      image'.buffer = image.buffer ∧ image'.eglHandle? = some handle) ∨
    ∃ e s' failure, (host.withContext egl).importImage image s = (.error e, s') ∧
      (host.tracing egl).importImage image (s, t) = (.error e, s', t ++ failure) ∧
      (failure = [.current false, .freed image.buffer] ∨
        failure = [.current true, .importFailed, .freed image.buffer] ∨
        ∃ handle held, failure = [.current true, .imported handle, .attachRefused image.buffer,
          .current held, .destroyed handle, .freed image.buffer]) := by
  rcases egl.create_tracing image s t with
    ⟨handle, image₁, s₁, hplain, hrec, hbuffer, hhandle⟩ | ⟨e, s₁, failure, hplain, hrec, hfailure⟩
  · rcases hattach : host.attach image₁ s₁ with ⟨e | image₂, s₂⟩
    · -- the display refuses the image, and its handle is still in its slot
      refine .inr ?_
      obtain ⟨hsame, held, hdestroy⟩ := egl.destroy_tracing s₂
        (t ++ [.current true, .imported handle] ++ [.attachRefused image.buffer]) hhandle
      refine ⟨.importImage e, host.freeBuffer image.buffer (egl.destroy image₁ s₂).2, _, ?_, ?_,
        .inr (.inr ⟨handle, held, rfl⟩)⟩
      · simp [importImage, hookCreate, withContext, EglContext.hooks, hplain, hattach, hookDestroy,
          dropImage, hsame, hbuffer]
      · simp only [importImage, hookCreate, tracing, EglContext.hooks, hrec, hattach, hookDestroy,
          hdestroy, dropImage, hsame, hbuffer]
        simp
    · refine .inl ⟨image₂, s₂, handle, ?_, ?_, ?_⟩
      · simp [importImage, hookCreate, withContext, EglContext.hooks, hplain, hattach]
      · simp [importImage, hookCreate, tracing, EglContext.hooks, hrec, hattach, hbuffer]
      · obtain ⟨hsame, hslot⟩ := hk.attach image₁ s₁ image₂ (by rw [hattach])
        exact ⟨hsame.trans hbuffer, (Image.eglHandle?_congr hslot).trans hhandle⟩
  · refine .inr ⟨.renderer e, host.freeBuffer image.buffer s₁, failure ++ [.freed image.buffer],
      ?_, ?_, ?_⟩
    · simp [importImage, hookCreate, withContext, EglContext.hooks, hplain, dropImage]
    · simp [importImage, hookCreate, tracing, EglContext.hooks, hrec, dropImage]
    · rcases hfailure with rfl | rfl
      · exact .inl rfl
      · exact .inr (.inl rfl)

end Host

namespace Allocator

/-- Once a buffer is found and exported, an allocation is the import of the image. -/
theorem allocate_imports {τ : Type} {host : Host τ} {width height : UInt32} {fourcc : Fourcc}
    {requested : List Modifier} {s s₁ s₂ s₃ s₄ : τ} {buffer : Buffer} {dmabuf : Dmabuf}
    {id : ImageId} {result : Except AllocationError Image} (hsize : ¬ (width = 0 ∨ height = 0))
    (hmade : host.createBuffer width height fourcc requested s = (.done buffer, s₁))
    (hexport : host.exportBuffer buffer s₁ = (.ok dmabuf, s₂))
    (hid : host.nextImageId s₂ = (id, s₃))
    (himport : host.importImage { id := id, dmabuf := dmabuf, buffer := buffer } s₃ = (result, s₄))
    (a : Allocator) :
    allocate host width height fourcc requested a s
      = match result with
        | .error e => (.failed e, a, s₄)
        | .ok image => (.done image, { outstanding := a.outstanding + 1 }, s₄) := by
  simp only [allocate, if_neg hsize, hmade, hexport, hid, himport]
  cases result <;> rfl

variable {host : Host σ} (egl : EglContext σ) (hk : host.SparesRenderer)

include hk

/-- An allocation goes as it would without being traced, and leaves an episode. -/
theorem allocate_tracing (width height : UInt32) (fourcc : Fourcc) (requested : List Modifier)
    (a : Allocator) (s : σ) (t : Trace) :
    let plain := allocate (host.withContext egl) width height fourcc requested a s
    ∃ news, Episode plain.1 news ∧
      allocate (host.tracing egl) width height fourcc requested a (s, t)
        = (plain.1, plain.2.1, plain.2.2, t ++ news) := by
  intro plain
  by_cases hsize : width = 0 ∨ height = 0
  · have hplain : plain = (.failed (.invalidSize width height), a, s) := by
      simp only [plain, allocate, if_pos hsize]
    rw [hplain]
    exact ⟨_, .unused [] (by simp), by simp [allocate, hsize, Trace.unused]⟩
  obtain ⟨buffers, hrec⟩ :=
    (host.tracing_writes egl).createBuffer width height fourcc requested s t
  rcases hmade : (host.withContext egl).createBuffer width height fourcc requested s with
    ⟨buffer | e | f, s₁⟩
  · rw [hmade] at hrec
    rcases hexport : host.exportBuffer buffer s₁ with ⟨e | dmabuf, s₂⟩
    · have hplain : plain = (.failed (.exportBuffer e), a, host.freeBuffer buffer s₂) := by
        simp only [plain, allocate, if_neg hsize, hmade]
        simp [Host.withContext, hexport]
      rw [hplain]
      refine ⟨_, .unused (buffers ++ [buffer]) (by simp), ?_⟩
      simp only [allocate, if_neg hsize, hrec]
      simp [Host.tracing, hexport, Outcome.written, Trace.unused]
    · have hfound : (host.tracing egl).createBuffer width height fourcc requested (s, t)
          = (.done buffer, s₁, t ++ Trace.unused buffers ++ [.created buffer]) := hrec
      have hexported : (host.tracing egl).exportBuffer buffer
          (s₁, t ++ Trace.unused buffers ++ [.created buffer])
          = (.ok dmabuf, s₂, t ++ Trace.unused buffers ++ [.created buffer]) := by
        simp [Host.tracing, hexport]
      rcases hid : host.nextImageId s₂ with ⟨id, s₃⟩
      have hnext : (host.tracing egl).nextImageId
          (s₂, t ++ Trace.unused buffers ++ [.created buffer])
          = (id, s₃, t ++ Trace.unused buffers ++ [.created buffer]) := by
        simp [Host.tracing, hid]
      rcases Host.importImage_tracing egl hk { id := id, dmabuf := dmabuf, buffer := buffer } s₃
        (t ++ Trace.unused buffers ++ [.created buffer]) with
        ⟨image, s₄, handle, himport, hrecorded, hbuffer, hhandle⟩ |
        ⟨e, s₄, failure, himport, hrecorded, hfailure⟩
      · have hplain : plain = (.done image, { outstanding := a.outstanding + 1 }, s₄) :=
          allocate_imports hsize hmade hexport hid himport a
        obtain rfl : image.buffer = buffer := hbuffer
        rw [hplain, allocate_imports hsize hfound hexported hnext hrecorded a]
        exact ⟨_, .done buffers hhandle, by simp⟩
      · have hplain : plain = (.failed e, a, s₄) :=
          allocate_imports hsize hmade hexport hid himport a
        rw [hplain, allocate_imports hsize hfound hexported hnext hrecorded a]
        rcases hfailure with rfl | rfl | ⟨handle, held, rfl⟩
        · exact ⟨_, .contextLost buffers buffer, by simp⟩
        · exact ⟨_, .importFailed buffers buffer, by simp⟩
        · exact ⟨_, .refused buffers buffer handle held, by simp⟩
  · have hplain : plain = (.failed e, a, s₁) := by
      simp only [plain, allocate, if_neg hsize, hmade]
    rw [hmade] at hrec
    rw [hplain]
    refine ⟨_, .unused buffers (by simp), ?_⟩
    simp only [allocate, if_neg hsize, hrec]
    simp [Outcome.written, Trace.unused]
  · have hplain : plain = (.fault f, a, s₁) := by
      simp only [plain, allocate, if_neg hsize, hmade]
    rw [hmade] at hrec
    rw [hplain]
    refine ⟨_, .unused buffers (by simp), ?_⟩
    simp only [allocate, if_neg hsize, hrec]
    simp [Outcome.written, Trace.unused]

/-- An image that comes back with its handle leaves it destroyed, be the context lost or not. -/
theorem deallocate_tracing {image : Image} {handle : Nat} (h : image.eglHandle? = some handle)
    (a : Allocator) (s : σ) (t : Trace) :
    let plain := deallocate (host.withContext egl) image a s
    ∃ held, deallocate (host.tracing egl) image a (s, t)
      = (plain.1, plain.2.1, plain.2.2, t ++ parting image.buffer held handle) := by
  rcases hdetach : host.detach image s with ⟨image₁, s₁⟩
  obtain ⟨hbuffer, hslot⟩ : image₁.buffer = image.buffer ∧
      image₁.rendererData = image.rendererData := by
    simpa [hdetach] using hk.detach image s
  obtain ⟨hsame, held, hdestroy⟩ := egl.destroy_tracing s₁ (t ++ [.detached image.buffer])
    ((Image.eglHandle?_congr hslot).trans h)
  refine ⟨held, ?_⟩
  cases hout : a.outstanding <;>
    simp [deallocate, Host.tracing, Host.withContext, EglContext.hooks, hdetach, Host.hookDestroy,
      hdestroy, Host.dropImage, hsame, hbuffer, hout, parting]

end Allocator

namespace Episode

open Allocator (handedOut)

variable {outcome : Outcome AllocationError Image} {news : Trace} (h : Episode outcome news)

include h

/-- Of the handles an allocation makes, the one its image keeps is left. -/
theorem balance :
    news.imports = news.destroys ++ (handedOut outcome).filterMap (·.eglHandle?) := by
  cases h with
  | unused buffers hnone =>
    obtain ⟨himports, hdestroys⟩ := Trace.unused_silent buffers
    have hempty : handedOut outcome = [] := by
      cases outcome with
      | done image => exact absurd rfl (hnone image)
      | failed | fault => rfl
    rw [himports, hdestroys, hempty]
    rfl
  | contextLost buffers | importFailed buffers | refused buffers =>
    obtain ⟨himports, hdestroys⟩ := Trace.unused_silent buffers
    rw [Trace.imports_append, Trace.destroys_append, himports, hdestroys]
    rfl
  | @done image buffers handle kept =>
    obtain ⟨himports, hdestroys⟩ := Trace.unused_silent buffers
    rw [Trace.imports_append, Trace.destroys_append, himports, hdestroys]
    simp [Trace.imports, Trace.destroys, handedOut, kept]

theorem kept : ∀ image ∈ handedOut outcome, image.eglHandle?.isSome := by
  cases h with
  | unused buffers hnone =>
    intro image himage
    cases outcome with
    | done other => exact absurd rfl (hnone other)
    | failed | fault => exact absurd himage List.not_mem_nil
  | contextLost | importFailed | refused => exact fun image h => absurd h List.not_mem_nil
  | done buffers kept =>
    intro image himage
    rw [List.mem_singleton.mp himage, kept]
    rfl

end Episode

/-! ## Runs -/

namespace EglContext

theorem hooks_keep {τ : Type} (egl : EglContext τ) (image : Image) (s : τ) :
    (∀ image', (egl.create image s).1 = .ok image' → image'.buffer = image.buffer) ∧
      (egl.destroy image s).1.buffer = image.buffer := by
  refine ⟨fun image' h => ?_, ?_⟩
  · unfold create at h
    split at h
    · exact absurd h (by simp)
    split at h
    · exact absurd h (by simp)
    · rw [← Except.ok.inj h]
  · unfold destroy
    split <;> rfl

end EglContext

theorem Host.tracing_keeps {host : Host σ} (hk : host.SparesRenderer) (egl : EglContext σ) :
    (host.tracing egl).KeepsBuffers where
  create := by
    rintro hooks ⟨⟩ image s image' h
    exact (egl.tracing.hooks_keep image s).1 image' h
  destroy := by
    rintro hooks ⟨⟩ image s
    exact (egl.tracing.hooks_keep image s).2
  attach := fun image s image' h => (hk.attach image s.1 image' h).1
  detach := fun image s => (hk.detach image s.1).1

namespace Allocator

/-- Nothing but the hooks touches renderer slots. -/
def Call.SparesRenderer : Call → Prop
  | .change image changed => changed.rendererData = image.rendererData
  | _ => True

namespace Course

/-- The handles that were made are those destroyed and those of the images that are out. -/
structure Balanced (w : Course (σ × Trace)) : Prop where
  kept : ∀ image ∈ w.hand, image.eglHandle?.isSome
  balance : w.host.2.imports.Perm (w.host.2.destroys ++ w.hand.filterMap (·.eglHandle?))

section

variable {host : Host σ} (hk : host.SparesRenderer) (egl : EglContext σ) {w : Course (σ × Trace)}

include hk

/-- A step that allocates is the call on the host as it is, and an episode is added to the trace. -/
theorem step_allocate_tracing (w : Course (σ × Trace)) (width height : UInt32) (fourcc : Fourcc)
    (requested : List Modifier) :
    let plain := allocate (host.withContext egl) width height fourcc requested w.allocator w.host.1
    let next := w.step (host.tracing egl) (.allocate width height fourcc requested)
    next.allocator = plain.2.1 ∧ next.host.1 = plain.2.2 ∧ next.hand = w.hand ++ handedOut plain.1 ∧
      ∃ news, Episode plain.1 news ∧ next.host.2 = w.host.2 ++ news := by
  intro plain next
  obtain ⟨news, hepisode, htraced⟩ :=
    allocate_tracing egl hk width height fourcc requested w.allocator w.host.1 w.host.2
  obtain ⟨outcome, a, s, spent, -, hcall, hcases⟩ :=
    w.step_allocate (Host.tracing_keeps hk egl) width height fourcc requested
  obtain ⟨rfl, rfl, rfl⟩ : plain.1 = outcome ∧ plain.2.1 = a ∧
      (plain.2.2, w.host.2 ++ news) = s := by
    simpa using htraced.symm.trans hcall
  rcases hcases with ⟨image, hdone, hstep, ha⟩ | ⟨hempty, ha, hstep⟩
  · rw [show next = _ from hstep, ha, hdone]
    exact ⟨rfl, rfl, rfl, news, hdone ▸ hepisode, rfl⟩
  · rw [show next = _ from hstep, hempty, ha, List.append_nil]
    exact ⟨rfl, rfl, rfl, news, hepisode, rfl⟩

/-- A step that gives an image back is the call on the host as it is, and destroys its handle. -/
theorem step_deallocate_tracing (h : w.Inv (host.tracing egl)) {image : Image} {handle : Nat}
    (himage : image ∈ w.hand) (hhandle : image.eglHandle? = some handle) :
    let plain := deallocate (host.withContext egl) image w.allocator w.host.1
    let next := w.step (host.tracing egl) (.deallocate image)
    plain.1 = none ∧ next.allocator = plain.2.1 ∧ next.host.1 = plain.2.2 ∧
      next.hand = w.hand.erase image ∧
      ∃ held, next.host.2 = w.host.2 ++ parting image.buffer held handle := by
  intro plain next
  obtain ⟨held, htraced⟩ := deallocate_tracing egl hk hhandle w.allocator w.host.1 w.host.2
  obtain ⟨a, s, -, hcall, hstep⟩ := h.step_deallocate (Host.tracing_keeps hk egl) himage
  obtain ⟨hnone, rfl, rfl⟩ : plain.1 = none ∧ plain.2.1 = a ∧
      (plain.2.2, w.host.2 ++ parting image.buffer held handle) = s := by
    simpa using htraced.symm.trans hcall
  rw [show next = _ from hstep]
  exact ⟨hnone, rfl, rfl, rfl, held, rfl⟩

theorem Balanced.step (h : w.Balanced) (hinv : w.Inv (host.tracing egl)) {call : Call}
    (hspares : call.SparesRenderer) : (w.step (host.tracing egl) call).Balanced := by
  cases call with
  | allocate width height fourcc requested =>
    obtain ⟨-, -, hhand, news, hepisode, hnews⟩ :=
      step_allocate_tracing hk egl w width height fourcc requested
    refine ⟨fun image himage => ?_, ?_⟩
    · rw [hhand] at himage
      rcases List.mem_append.mp himage with hold | hnew
      · exact h.kept image hold
      · exact hepisode.kept image hnew
    · rw [hhand, hnews, Trace.imports_append, Trace.destroys_append, List.filterMap_append,
        hepisode.balance]
      refine (h.balance.append_right _).trans ?_
      rw [List.append_assoc, List.append_assoc]
      exact (List.perm_append_comm_assoc _ _ _).append_left _
  | deallocate image =>
    by_cases himage : image ∈ w.hand
    · obtain ⟨handle, hhandle⟩ := Option.isSome_iff_exists.mp (h.kept image himage)
      obtain ⟨-, -, -, hhand, held, hnews⟩ :=
        step_deallocate_tracing hk egl hinv himage hhandle
      refine ⟨fun other hother => ?_, ?_⟩
      · rw [hhand] at hother
        exact h.kept other (List.mem_of_mem_erase hother)
      · have hout := (List.perm_cons_erase himage).filterMap (·.eglHandle?)
        rw [List.filterMap_cons_some hhandle] at hout
        rw [hhand, hnews, Trace.imports_append, Trace.destroys_append]
        show (w.host.2.imports ++ []).Perm (w.host.2.destroys ++ [handle] ++ _)
        rw [List.append_nil, List.append_assoc, List.singleton_append]
        exact h.balance.trans (hout.append_left _)
    · simpa only [Course.step, if_neg himage] using h
  | change image changed =>
    simp only [Course.step]
    split
    · next hchange =>
      obtain ⟨himage, -⟩ := hchange
      have hslot : changed.eglHandle? = image.eglHandle? := Image.eglHandle?_congr hspares
      have hout : (w.hand.erase image ++ [changed]).filterMap (·.eglHandle?) |>.Perm
          (w.hand.filterMap (·.eglHandle?)) := by
        refine ((List.perm_append_singleton _ _).filterMap _).trans ?_
        refine List.Perm.trans ?_ ((List.perm_cons_erase himage).filterMap _).symm
        rw [List.filterMap_cons, List.filterMap_cons, hslot]
      refine ⟨fun other hother => ?_, h.balance.trans (hout.symm.append_left _)⟩
      rcases List.mem_append.mp hother with hold | hnew
      · exact h.kept other (List.mem_of_mem_erase hold)
      · rw [List.mem_singleton.mp hnew, hslot]
        exact h.kept image himage
    · exact h

theorem Balanced.run (h : w.Balanced) (hinv : w.Inv (host.tracing egl)) {calls : List Call}
    (hspares : ∀ call ∈ calls, call.SparesRenderer) :
    (w.run (host.tracing egl) calls).Balanced := by
  induction calls generalizing w with
  | nil => exact h
  | cons call rest ih =>
    exact ih (h.step hk egl hinv (hspares call List.mem_cons_self))
      (hinv.step_inv (Host.tracing_keeps hk egl) call)
      fun other hother => hspares other (List.mem_cons_of_mem _ hother)

/-- **Every handle is destroyed once.** The device, the context and the display may refuse whatever
they like at any call: as long as nobody else touches renderer slots, the handles that were made are
those that were destroyed and those of the images that are out, one each, so the count tells how
many are left. An allocation makes at most one handle, and it destroys that one, before the buffer
is freed, if the display refuses the image; an import that failed leaves nothing to destroy. An
image that comes back has its handle destroyed after the display let go of it and before its buffer
is freed, whether the context can be made current or not. -/
theorem every_handle_is_destroyed_once (s : σ) {calls : List Call}
    (hspares : ∀ call ∈ calls, call.SparesRenderer) :
    let w := (start (s, ([] : Trace))).run (host.tracing egl) calls
    let t : Trace := w.host.2
    t.imports.Perm (t.destroys ++ w.hand.filterMap (·.eglHandle?)) ∧
    w.allocator.outstanding = w.hand.length ∧
    t.imports.length = t.destroys.length + w.allocator.outstanding ∧
    (∀ width height fourcc requested,
      let plain :=
        allocate (host.withContext egl) width height fourcc requested w.allocator w.host.1
      let next := w.step (host.tracing egl) (.allocate width height fourcc requested)
      next.allocator = plain.2.1 ∧ next.host.1 = plain.2.2 ∧
      next.hand = w.hand ++ handedOut plain.1 ∧
      ∃ news, Episode plain.1 news ∧ next.host.2 = t ++ news) ∧
    ∀ image ∈ w.hand, ∃ handle, image.eglHandle? = some handle ∧
      let plain := deallocate (host.withContext egl) image w.allocator w.host.1
      let next := w.step (host.tracing egl) (.deallocate image)
      plain.1 = none ∧ next.allocator = plain.2.1 ∧ next.host.1 = plain.2.2 ∧
      next.hand = w.hand.erase image ∧
      ∃ held, next.host.2 = t ++ parting image.buffer held handle := by
  intro w t
  have hstart := start_inv (host.tracing egl) (s, ([] : Trace))
  have hinv : w.Inv (host.tracing egl) := hstart.run_inv (Host.tracing_keeps hk egl) calls
  have h : w.Balanced := by
    refine Balanced.run hk egl ⟨fun image himage => ?_, ?_⟩ hstart hspares
    · exact absurd himage List.not_mem_nil
    · exact List.Perm.refl []
  have hall : (w.hand.filterMap (·.eglHandle?)).length = w.hand.length :=
    List.filterMap_length_eq_length.mpr h.kept
  refine ⟨h.balance, hinv.outstanding, ?_, fun width height fourcc requested =>
    step_allocate_tracing hk egl w width height fourcc requested, fun image himage => ?_⟩
  · rw [hinv.outstanding, ← hall, ← List.length_append]
    exact h.balance.length_eq
  · obtain ⟨handle, hhandle⟩ := Option.isSome_iff_exists.mp (h.kept image himage)
    exact ⟨handle, hhandle, step_deallocate_tracing hk egl hinv himage hhandle⟩

end

/-- A context that is lost while the second image is imported and again after the sixth, and that
refuses the fourth. Its state is the number of images so far. -/
def fragileContext : EglContext Nat :=
  { makeCurrent := fun n =>
      if n = 2 ∨ n = 6 then (.error { message := "context lost" }, n) else (.ok (), n)
    importDmabuf := fun _ n => if n = 4 then (.error { message := "no import" }, n) else (.ok n, n)
    destroyImage := fun _ n => n }

/-- Six images are asked for, and the first of the two that came is given back. -/
def fragileCalls : List Call :=
  List.replicate 6 (.allocate 64 64 .xrgb8888 [.linear]) ++
    [.deallocate { Image.numbered 0 with rendererData := ⟨some (.eglImage 1)⟩ }]

theorem fragile_handles_are_destroyed :
    let w := (start (0, ([] : Trace))).run (pickyHost.tracing fragileContext) fragileCalls
    let buffer (n : Nat) := (Image.numbered n).buffer
    pickyHost.SparesRenderer ∧ (∀ call ∈ fragileCalls, call.SparesRenderer) ∧
    w.host.2 = [
      .created (buffer 0), .current true, .imported 1, .attached (buffer 0),
      .created (buffer 1), .current false, .freed (buffer 1),
      .created (buffer 2), .current true, .imported 3, .attachRefused (buffer 2), .current true,
      .destroyed 3, .freed (buffer 2),
      .created (buffer 3), .current true, .importFailed, .freed (buffer 3),
      .created (buffer 4), .current true, .imported 5, .attached (buffer 4),
      .created (buffer 5), .current false, .freed (buffer 5),
      .detached (buffer 0), .current false, .destroyed 1, .freed (buffer 0)] ∧
    w.allocator.outstanding = 1 ∧
    w.host.2.imports.Perm (w.host.2.destroys ++ w.hand.filterMap (·.eglHandle?)) := by
  intro w buffer
  have hk : pickyHost.SparesRenderer := by
    refine ⟨fun image s image' hok => ?_, fun _ _ => ⟨rfl, rfl⟩⟩
    simp only [pickyHost] at hok
    split at hok
    · exact absurd hok (by simp)
    · rw [Except.ok.inj hok]
      exact ⟨rfl, rfl⟩
  have hspares : ∀ call ∈ fragileCalls, call.SparesRenderer := by
    intro call hcall
    simp only [fragileCalls, List.mem_append, List.mem_replicate, List.mem_singleton] at hcall
    rcases hcall with ⟨-, rfl⟩ | rfl <;> trivial
  have hhand : w.hand.length = 1 := by decide +kernel
  obtain ⟨hbalance, hcount, -⟩ := every_handle_is_destroyed_once hk fragileContext 0 hspares
  exact ⟨hk, hspares, by decide +kernel, hcount.trans hhand, hbalance⟩

end Course

end Allocator

end Scanout
