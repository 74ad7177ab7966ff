import Scanout.Allocator
/-!
# Importing images into an EGL context

The hooks of an EGL renderer: an image's planes are imported into the context
and the handle is kept in the image's renderer slot, so that it can be
destroyed later. Destroying goes on even if the context cannot be made
current any more, because the handle would be lost otherwise.
-/

namespace Scanout

/-- What an EGL context offers. Handles of imported images are numbers. -/
structure EglContext (σ : Type) where
  makeCurrent : σ → Except Failure Unit × σ
  importDmabuf : Dmabuf → σ → Except Failure Nat × σ
  destroyImage : Nat → σ → σ

namespace EglContext

variable {σ : Type}

/-- Imports an image and keeps the handle in its renderer slot. -/
def create (egl : EglContext σ) (image : Image) (s : σ) : Except Failure Image × σ :=
  match egl.makeCurrent s with
  | (.error e, s) => (.error e, s)
  | (.ok _, s) =>
    match egl.importDmabuf image.dmabuf s with
    | (.error e, s) => (.error e, s)
    | (.ok handle, s) =>
      (.ok { image with rendererData := image.rendererData.set (.eglImage handle) }, s)

/-- Destroys the handle in an image's renderer slot, if there is one. -/
def destroy (egl : EglContext σ) (image : Image) (s : σ) : Image × σ :=
  match image.rendererData.take .eglImage with
  | (some (.eglImage handle), rest) =>
    let (_, s) := egl.makeCurrent s
    ({ image with rendererData := rest }, egl.destroyImage handle s)
  | _ => (image, s)

/-- The hooks of a renderer that draws in the context. -/
def hooks (egl : EglContext σ) : Hooks σ :=
  { create := egl.create, destroy := egl.destroy }

end EglContext

end Scanout
