import Scanout.Image
import Scanout.Mode
/-!
# Pacing the frames of one output

At most one frame is in flight. A frame scheduled meanwhile waits, and a newer
one takes its place; when the display is done with the frame in flight, the
waiting one is presented. Images come back as events: displaced ones, refused
ones, and presented ones once the display lets go of them, which may be long
after the next frame was presented.

The scheduler knows the display only as a `Surface`, whose `present` may fail
at any call. A present may even be a fault; then the image it was given is
lost, and the outcome carries it so that its owner can account for it.
-/

namespace Scanout

/-- What an output tells the compositor. -/
inductive OutputEvent where
  /-- A frame was completed; it is time to draw the next one. -/
  | frame
  /-- An image is no longer in use. -/
  | released (image : Image)
  | mode (mode : Mode)
  /-- The output is gone; nothing follows. -/
  | destroyed
  deriving DecidableEq, Repr

/-- Where an output's frames go. -/
structure Surface (σ : Type) where
  /-- Shows an image as soon as possible. -/
  present : Image → σ → Outcome Failure Unit × σ
  /-- Forgets the frame in flight. -/
  cancel : σ → σ

/-- How far an output is. -/
inductive FrameState where
  | idle
  | committed
  | committedWithPending
  deriving DecidableEq, Repr

inductive Submission where
  /-- The image is in flight or waits its turn. -/
  | accepted
  /-- The surface refused it; the image comes back as an event. -/
  | refused (cause : Failure)
  /-- Presenting broke a contract and the image is lost. -/
  | fault (fault : Fault) (lost : Image)
  deriving DecidableEq, Repr

/-- The pacing state of one output. -/
structure FrameScheduler where
  /-- Whether a frame is in flight. -/
  armed : Bool := false
  /-- The image to present next. -/
  pending : Option Image := none
  /-- The images the display may still be reading, in the order presented. -/
  presented : List Image := []
  /-- What happened and was not yet told. -/
  events : List OutputEvent := []
  deriving DecidableEq, Repr

namespace FrameScheduler

variable {σ : Type}

def state (f : FrameScheduler) : FrameState :=
  match f.armed, f.pending with
  | false, _ => .idle
  | true, none => .committed
  | true, some _ => .committedWithPending

def push (f : FrameScheduler) (e : OutputEvent) : FrameScheduler :=
  { f with events := f.events ++ [e] }

/-- Presents an image while nothing is in flight. -/
def commit (surface : Surface σ) (image : Image) (f : FrameScheduler) (s : σ) :
    Submission × FrameScheduler × σ :=
  match surface.present image s with
  | (.done _, s) =>
    (.accepted, { f with armed := true, presented := f.presented ++ [image] }, s)
  | (.failed e, s) => (.refused e, f.push (.released image), s)
  | (.fault e, s) => (.fault e image, f, s)

/-- Presents an image, or has it wait for the frame in flight. -/
def schedule (surface : Surface σ) (image : Image) (f : FrameScheduler) (s : σ) :
    Submission × FrameScheduler × σ :=
  if f.armed then
    let displaced := (f.pending.map OutputEvent.released).toList
    (.accepted, { f with pending := some image, events := f.events ++ displaced }, s)
  else f.commit surface image s

/-- Ends the frame in flight and presents the waiting image. -/
def frameDone (surface : Surface σ) (f : FrameScheduler) (s : σ) :
    Option (Fault × Image) × FrameScheduler × σ :=
  if f.armed then
    let f := { f with armed := false }
    match f.pending with
    | none => (none, f.push .frame, s)
    | some image =>
      match { f with pending := none }.commit surface image s with
      -- a fault leaves the frame unannounced
      | (.fault e lost, f, s) => (some (e, lost), f, s)
      -- a refused image was released already, before the frame event
      | (_, f, s) => (none, f.push .frame, s)
  else (none, f, s)

/-- Releases the first presented image with the identifier, and says if there was one. -/
def bufferReleased (id : ImageId) (f : FrameScheduler) : Bool × FrameScheduler :=
  match f.presented.find? (·.id = id) with
  | none => (false, f)
  | some image =>
    (true, { f with
      presented := f.presented.eraseP (·.id = id)
      events := f.events ++ [.released image] })

/-- Ends the output: cancels the frame in flight and releases the waiting image,
then the presented ones. -/
def destroy (surface : Surface σ) (f : FrameScheduler) (s : σ) : FrameScheduler × σ :=
  let s := if f.armed then surface.cancel s else s
  let back := f.pending.toList ++ f.presented
  ({ events := f.events ++ back.map OutputEvent.released ++ [.destroyed] }, s)

def modeChanged (mode : Mode) (f : FrameScheduler) : FrameScheduler :=
  f.push (.mode mode)

/-- Hands over everything queued. -/
def takeEvents (f : FrameScheduler) : List OutputEvent × FrameScheduler :=
  (f.events, { f with events := [] })

/-- The images inside queued events. -/
def eventImages (events : List OutputEvent) : List Image :=
  events.filterMap fun
    | .released image => some image
    | _ => none

/-- Every image the scheduler holds. -/
def images (f : FrameScheduler) : List Image :=
  f.pending.toList ++ f.presented ++ eventImages f.events

end FrameScheduler

end Scanout
