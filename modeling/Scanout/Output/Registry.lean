import Scanout.Output.Scheduler
/-!
# The outputs of a display

A registry holds the live outputs in the order they were created and the
events on their way to the compositor. What happens in an output's scheduler
reaches the queue when events are collected, output by output, or when the
output is torn down. Each time something is queued the registry asks to be
woken up, and taking the events ends that.

When the connection is lost, every output is torn down and the loss is
reported, once.
-/

namespace Scanout

/-- A live output: its pacing, and what the display keeps for it. -/
structure Output (δ : Type) where
  scheduler : FrameScheduler
  details : δ
  deriving DecidableEq, Repr

/-- What a display tells the compositor. -/
inductive BackendEvent where
  | newOutput (id : OutputId)
  | output (id : OutputId) (event : OutputEvent)
  | disconnected
  deriving DecidableEq, Repr

/-- The outputs of a display and the events not yet delivered. -/
structure Registry (δ : Type) where
  outputs : List (OutputId × Output δ) := []
  events : List BackendEvent := []
  /-- Whether somebody was told that there are events. -/
  awake : Bool := false
  disconnected : Bool := false
  deriving DecidableEq, Repr

namespace Registry

variable {δ σ : Type}

def queue (r : Registry δ) (e : BackendEvent) : Registry δ :=
  { r with events := r.events ++ [e], awake := true }

/-- Adds a new output and announces it. -/
def insert (r : Registry δ) (id : OutputId) (o : Output δ) : Registry δ :=
  { r with outputs := r.outputs ++ [(id, o)] }.queue (.newOutput id)

def ids (r : Registry δ) : List OutputId :=
  r.outputs.map (·.1)

def get? (r : Registry δ) (id : OutputId) : Option (Output δ) :=
  (r.outputs.find? (·.1 = id)).map (·.2)

/-- The first output that satisfies a condition. -/
def find? (r : Registry δ) (p : Output δ → Bool) : Option (OutputId × Output δ) :=
  r.outputs.find? fun entry => p entry.2

def set (r : Registry δ) (id : OutputId) (o : Output δ) : Registry δ :=
  { r with outputs := r.outputs.map fun entry => if entry.1 = id then (id, o) else entry }

def waiting (entry : OutputId × Output δ) : List BackendEvent :=
  entry.2.scheduler.events.map (.output entry.1)

/-- An output whose events were taken. -/
def drained (o : Output δ) : Output δ :=
  { o with scheduler := o.scheduler.takeEvents.2 }

/-- Moves the events of all outputs into the queue, oldest output first. -/
def collect (r : Registry δ) : Registry δ :=
  let moved := r.outputs.flatMap waiting
  { r with
    outputs := r.outputs.map fun entry => (entry.1, drained entry.2)
    events := r.events ++ moved
    awake := r.awake || !moved.isEmpty }

/-- Releases an image in the first of the outputs that shows it. -/
def releaseIn (image : ImageId) : List (OutputId × Output δ) → Bool × List (OutputId × Output δ)
  | [] => (false, [])
  | (id, o) :: rest =>
    match o.scheduler.bufferReleased image with
    | (true, f) => (true, (id, { o with scheduler := f }) :: rest)
    | (false, _) =>
      let (found, rest) := releaseIn image rest
      (found, (id, o) :: rest)

/-- Reports that the display no longer reads an image, and says if an output showed it. -/
def bufferReleased (r : Registry δ) (image : ImageId) : Bool × Registry δ :=
  match releaseIn image r.outputs with
  | (true, outputs) => (true, { r with outputs := outputs }.collect)
  | (false, _) => (false, r)

/-- Removes an output. `teardown` ends it and leaves its scheduler. -/
def destroy (r : Registry δ) (id : OutputId)
    (teardown : Output δ → σ → FrameScheduler × σ) (s : σ) : Bool × Registry δ × σ :=
  match r.get? id with
  | none => (false, r, s)
  | some o =>
    let (f, s) := teardown o s
    (true,
      { r with
        outputs := r.outputs.filter (·.1 ≠ id)
        -- its last events go behind those that are queued
        events := r.events ++ f.events.map (.output id)
        awake := true },
      s)

/-- Removes the given outputs in order. -/
def destroyAll (teardown : Output δ → σ → FrameScheduler × σ) :
    List OutputId → Registry δ → σ → Registry δ × σ
  | [], r, s => (r, s)
  | id :: rest, r, s =>
    let (_, r, s) := r.destroy id teardown s
    destroyAll teardown rest r s

/-- Reports the loss of the connection: the first time, all outputs are torn down. -/
def disconnect (r : Registry δ) (teardown : Output δ → σ → FrameScheduler × σ) (s : σ) :
    Bool × Registry δ × σ :=
  if r.disconnected then (false, r, s)
  else
    let (r, s) := destroyAll teardown r.ids { r with disconnected := true } s
    (true, r.queue .disconnected, s)

def takeEvents (r : Registry δ) : List BackendEvent × Registry δ :=
  (r.events, { r with events := [], awake := false })

end Registry

/-- How a call that shows an image on an output ended. -/
inductive ScheduleOutcome where
  | submitted (submission : Submission)
  /-- There is no such output; the image goes back to the caller. -/
  | unknownOutput (image : Image)
  deriving DecidableEq, Repr

/-- What a caller is told of a frame that the surface refused. -/
def presentFailure (cause : Failure) : Failure :=
  { message := "Failed to present the frame", causes := cause.chain }

/-- What a caller is told of a frame for an output that is not there. -/
def unknownOutputFailure : Failure :=
  { message := "Output does not exist" }

/-- What is known of an output. -/
structure OutputInfo where
  name : String
  make : String
  model : String
  mode : Mode
  deriving DecidableEq, Repr

end Scanout
