import Scanout.Allocator
import Scanout.X11.Setup
/-!
# Importing images into an X server

An image becomes a pixmap in one of two ways. A server with DRI3 1.2 takes up
to four planes and is told the layout. An older one takes a single plane and
knows nothing of layouts, so the image has to consist of plain rows or to have
an implicit layout. Either request has narrow fields; an image whose size or
stride does not fit is refused and never cut short.

The request takes duplicates of the files along, and the server's verdict on it
is awaited. Only then does the image carry the pixmap.
-/

namespace Scanout.X11

/-- How a server is handed a buffer. -/
inductive ImportPath where
  | multiPlane
  | singlePlane
  deriving DecidableEq, Repr

def ImportPath.select (dri3 : Version) (planes : Nat) : Except AttachError ImportPath :=
  if dri3.atLeast modifierVersion then
    if planes > Dmabuf.maxPlanes then .error (.tooManyPlanes planes Dmabuf.maxPlanes)
    else .ok .multiPlane
  else if planes ≠ 1 then .error (.tooManyPlanes planes 1)
  else .ok .singlePlane

/-- A number that fits into 16 bits. -/
def narrow? (n : UInt32) : Option UInt16 :=
  if n.toNat < UInt16.size then some n.toUInt16 else none

/-- Four words, the missing ones zero. -/
def padded (ws : List UInt32) : List UInt32 :=
  ws ++ List.replicate (Dmabuf.maxPlanes - ws.length) 0

/-- What is settled about an import before an identifier is used up. -/
structure ImportPlan where
  path : ImportPath
  layout : Fourcc.PixelLayout
  width : UInt16
  height : UInt16
  deriving DecidableEq, Repr

/-- Whether and how a dmabuf can be imported. -/
def ImportPlan.make (dri3 : Version) (d : Dmabuf) : Except AttachError ImportPlan := do
  let path ← ImportPath.select dri3 d.numPlanes
  match d.fourcc.layout? with
  | none => throw (.unsupported d.format)
  | some layout =>
    if path = .singlePlane && d.hasModifier then throw (.unsupported d.format)
    match narrow? d.width, narrow? d.height with
    | some width, some height =>
      return { path := path, layout := layout, width := width, height := height }
    | _, _ => throw (.unsupported d.format)

/-- The request that hands over a single plane, if its size and stride can be told. -/
def singlePlaneRequest? (plan : ImportPlan) (screen : Nat) (pixmap : ResourceId) (d : Dmabuf) :
    Option Request := do
  let plane ← d.planes.head?
  let stride ← narrow? plane.stride
  let size := d.height.toNat * plane.stride.toNat
  if size < UInt32.size then
    return .pixmapFromBuffer pixmap screen plane.file size.toUInt32 plan.width plan.height stride
      plan.layout.depth plan.layout.bitsPerPixel
  else none

/-- The request that hands over a dmabuf. -/
def importRequest? (plan : ImportPlan) (screen : Nat) (pixmap : ResourceId) (d : Dmabuf) :
    Option Request :=
  match plan.path with
  | .multiPlane =>
    some (.pixmapFromBuffers pixmap screen d.files plan.width plan.height
      (padded d.strides) (padded d.offsets) plan.layout.depth plan.layout.bitsPerPixel
      d.modifier)
  | .singlePlane => singlePlaneRequest? plan screen pixmap d

/-- Imports an image. `verdict` is what is heard of a request that was written. -/
def importImage (verdict : Request → Except Refusal Unit) (s : Session) (image : Image) :
    Except AttachError Image × List Request × Session :=
  match ImportPlan.make s.dri3 image.dmabuf with
  | .error e => (.error e, [], s)
  | .ok plan =>
    match s.connection.duplicateAll image.dmabuf.files.length with
    | .error e => (.error (.descriptor e), [], s)
    | .ok _ =>
      match s.ids.fresh with
      | (none, asks, ids) =>
        (.error (.protocol s.connection.exhausted), asks, { s with ids := ids })
      | (some pixmap, asks, ids) =>
        let s := { s with ids := ids }
        -- an old server has too narrow a field for some strides; its number is used up by then
        match importRequest? plan s.screen pixmap image.dmabuf with
        | none => (.error (.unsupported image.dmabuf.format), asks, s)
        | some request =>
          match s.connection.write request with
          | .error e => (.error (.protocol e), asks, s)
          | .ok _ =>
            match verdict request with
            | .error refusal => (.error (.protocol refusal.cause), asks ++ [request], s)
            | .ok _ =>
              (.ok { image with backendData := image.backendData.set (.pixmap pixmap) },
                asks ++ [request], s)

/-- Takes the pixmap of an image back, if it has one. -/
def releaseImage (image : Image) : Image × List Request :=
  match image.backendData.take .pixmap with
  | (some (.pixmap pixmap), rest) => ({ image with backendData := rest }, [.freePixmap pixmap])
  | _ => (image, [])

end Scanout.X11
