import Scanout.Proofs.Output.Seen

/-!
# Scenes on a display

What a compositor and its users do to a display has nothing to do with its kind: outputs are
made, images are scheduled, the display completes frames and releases images, windows are
resized and closed. A `Scene` plays a list of such actions on a display with its server, the
`Port`, where each action becomes calls and events of that kind of display.

The `pacer` is a port without a display: the bare registry, which writes down what it shows.
-/

namespace Scanout

/-- Refresh counts that are followed by another one. -/
abbrev Refresh := { count : UInt64 // count.toNat + 1 < UInt64.size }

/-- What happens to one output. -/
inductive Incident where
  /-- The display completes the frame in flight. -/
  | complete (refresh : Refresh)
  /-- The display releases an image that the output presents. -/
  | release (image : ImageId)
  | resize (width height : UInt16)
  /-- The user closes the window. -/
  | close
  /-- The compositor is done with the output. -/
  | destroy
  deriving DecidableEq, Repr

inductive Action where
  | createOutput
  /-- A new image like the given one is imported into the display. -/
  | importImage (image : Image)
  /-- A new image like the given one is kept from the display. -/
  | adoptImage (image : Image)
  /-- An image in the compositor's hand is scheduled on an output, which may be gone. -/
  | scheduleFrame (output : OutputId) (image : ImageId)
  | happen (output : OutputId) (incident : Incident)
  | deliver
  deriving DecidableEq, Repr

/-- Whether this can happen to an output: a frame is completed where one is in flight, an
image released where it is presented, and there has to be a window that the user can reach. -/
def Incident.possible {δ : Type} (r : Registry δ) (output : OutputId) : Incident → Bool
  | complete _ => (r.get? output).any (·.scheduler.armed)
  | release image => (r.get? output).any fun o => o.scheduler.presented.any (·.id = image)
  | resize _ _ => (r.get? output).isSome
  | close => (r.get? output).isSome
  | destroy => true

/-- An image a server was asked to show, and the output on which. -/
abbrev Presentation := Option OutputId × Option ImageId

/-- A kind of display with its server. -/
structure Port (κ δ : Type) where
  registry : κ → Registry δ
  /-- What the server was asked to show. -/
  shown : κ → List Presentation
  /-- An image without what the display keeps in it, but for whether it does. -/
  seen : Image → Image
  mode : δ → Mode
  /-- An image that was not imported. -/
  adopt : Image → Image
  createOutput : OutputId → κ → Bool × κ
  importImage : Image → κ → Option Image × κ
  scheduleFrame : OutputId → Image → κ → ScheduleOutcome × κ
  happen : OutputId → Incident → κ → κ
  connectionClosed : κ → κ
  deliver : κ → List BackendEvent × κ

/-- A display with its server, and its compositor. -/
structure Scene (κ : Type) where
  station : κ
  /-- How many outputs were made. They are numbered in order. -/
  outputs : Nat := 0
  /-- The images that were made. They are numbered in order, too. -/
  images : List Image := []
  /-- The images the compositor has. -/
  hand : List Image := []
  /-- What it was told when it scheduled them. -/
  results : List ScheduleOutcome := []
  delivered : List BackendEvent := []
  /-- Whether an output or an import was refused. Nothing happens afterwards. -/
  refused : Bool := false
  deriving DecidableEq, Repr

namespace Scene

variable {κ δ : Type}

def start (s : κ) : Scene κ := { station := s }

/-- One action, while nothing was refused. -/
def act (P : Port κ δ) (w : Scene κ) : Action → Scene κ
  | .createOutput =>
    let (made, s) := P.createOutput ⟨w.outputs⟩ w.station
    { w with station := s, outputs := w.outputs + 1, refused := !made }
  | .importImage image =>
    match P.importImage { image with id := ⟨w.images.length⟩ } w.station with
    | (some image, s) =>
      { w with station := s, images := w.images ++ [image], hand := w.hand ++ [image] }
    | (none, s) => { w with station := s, refused := true }
  | .adoptImage image =>
    let image := P.adopt { image with id := ⟨w.images.length⟩ }
    { w with images := w.images ++ [image], hand := w.hand ++ [image] }
  | .scheduleFrame output id =>
    match w.hand.find? (·.id = id) with
    | none => w
    | some image =>
      let (outcome, s) := P.scheduleFrame output image w.station
      { w with
        station := s
        hand := w.hand.eraseP (·.id = id) ++ outcome.handedBack
        results := w.results ++ [outcome] }
  | .happen output incident =>
    if incident.possible (P.registry w.station) output then
      { w with station := P.happen output incident w.station }
    else w
  | .deliver =>
    let (events, s) := P.deliver w.station
    { w with
      station := s
      hand := w.hand ++ returnedImages events
      delivered := w.delivered ++ events }

def step (P : Port κ δ) (w : Scene κ) (action : Action) : Scene κ :=
  if w.refused then w else w.act P action

def run (P : Port κ δ) (w : Scene κ) (actions : List Action) : Scene κ :=
  actions.foldl (step P) w

/-- The connection is lost. -/
def lose (P : Port κ δ) (w : Scene κ) : Scene κ :=
  { w with station := P.connectionClosed w.station }

/-- A whole scene, which may end with the loss of the connection. -/
def play (P : Port κ δ) (s : κ) (actions : List Action) (lost : Bool) : Scene κ :=
  if lost then ((start s).run P actions).lose P else (start s).run P actions

/-- All events, delivered or not, as they look from outside. -/
def events (P : Port κ δ) (w : Scene κ) : List BackendEvent :=
  (w.delivered ++ (P.registry w.station).events).map (·.seen P.seen)

/-- What the compositor was told of the images it scheduled, as it looks from outside. -/
def told (P : Port κ δ) (w : Scene κ) : List ScheduleOutcome :=
  w.results.map (·.seen P.seen)

end Scene

/-- What is left in a slot is not of the kind that was taken. -/
theorem DataSlot.kind_ne_of_take {s : DataSlot} {k : SlotKind} {v : SlotValue}
    (h : (s.take k).2.value? = some v) : v.kind ≠ k := by
  unfold take at h
  cases hget : s.get? k with
  | some taken => simp [hget, empty] at h
  | none =>
    simp only [hget] at h
    rintro rfl
    simp [get?, h] at hget

/-! ## The pacer -/

/-- Outputs with nothing but their modes, and what they showed. -/
structure Pacer where
  registry : Registry Mode := {}
  shown : List Presentation := []
  deriving DecidableEq, Repr

namespace Pacer

/-- What stands for whatever a display keeps in an image. -/
def mark : DataSlot := ⟨some (.token 0)⟩

def marked (image : Image) : Bool := image.backendData = mark

/-- An image with only a mark in place of the number that a display knows it by. -/
def see (number? : Image → Option Nat) (image : Image) : Image :=
  { image with backendData := if (number? image).isSome then mark else .empty }

theorem marked_see (number? : Image → Option Nat) (image : Image) :
    marked (see number? image) = (number? image).isSome := by
  cases hn : (number? image).isSome <;> simp [marked, see, hn, mark, DataSlot.empty]

/-- An output that took a turn is put back. -/
def putBack (v : Pacer) (id : OutputId) (o : Output Mode) (shown : List Image) : Pacer :=
  { registry := (v.registry.set id o).collect
    shown := v.shown ++ shown.map fun image => (some id, some image.id) }

def scheduleFrame (id : OutputId) (image : Image) (v : Pacer) : ScheduleOutcome × Pacer :=
  match v.registry.get? id with
  | none => (.unknownOutput image, v)
  | some o =>
    let (submission, f, shown) := o.scheduler.schedule (.stage marked) image []
    (.submitted submission, v.putBack id ⟨f, o.details⟩ shown)

def teardown (o : Output Mode) (s : Unit) : FrameScheduler × Unit :=
  (o.scheduler.remains, s)

theorem teardown_ends : Registry.Ends teardown := fun _ _ => rfl

def destroy (id : OutputId) (v : Pacer) : Pacer :=
  { v with registry := (v.registry.destroy id teardown ()).2.1 }

/-- What an incident does to an output that is there. -/
def undergo (id : OutputId) (o : Output Mode) (v : Pacer) : Incident → Pacer
  | .complete _ =>
    let (_, f, shown) := o.scheduler.frameDone (.stage marked) []
    v.putBack id ⟨f, o.details⟩ shown
  | .release image => v.putBack id ⟨(o.scheduler.bufferReleased image).2, o.details⟩ []
  | .resize width height =>
    match Mode.ofConfigure? width.toUInt32.toInt32 height.toUInt32.toInt32 with
    | none => v
    | some mode =>
      if o.details = mode then v else v.putBack id ⟨o.scheduler.modeChanged mode, mode⟩ []
  | .close => v.destroy id
  | .destroy => v.destroy id

def happen (id : OutputId) (incident : Incident) (v : Pacer) : Pacer :=
  match v.registry.get? id with
  | none => v
  | some o => v.undergo id o incident

end Pacer

/-- Pacing without a display. New outputs have the given mode. -/
def pacer (mode : Mode) : Port Pacer Mode :=
  { registry := Pacer.registry
    shown := Pacer.shown
    seen := id
    mode := id
    adopt := fun image => { image with backendData := .empty }
    createOutput := fun id v => (true, { v with registry := v.registry.insert id ⟨{}, mode⟩ })
    importImage := fun image v => (some { image with backendData := Pacer.mark }, v)
    scheduleFrame := Pacer.scheduleFrame
    happen := Pacer.happen
    connectionClosed := fun v =>
      { v with registry := (v.registry.disconnect Pacer.teardown ()).2.1 }
    deliver := fun v => (v.registry.takeEvents.1, { v with registry := v.registry.takeEvents.2 }) }

/-! ## What the pacer shows -/

namespace Pacer

/-- Everything it showed was a known image on a known output. -/
def Known (v : Pacer) : Prop :=
  ∀ p ∈ v.shown, p.1.isSome = true ∧ p.2.isSome = true

variable {v : Pacer}

theorem Known.shown_eq (h : v.Known) :
    ∃ shown : List (OutputId × ImageId), v.shown = shown.map fun p => (some p.1, some p.2) := by
  obtain ⟨registry, entries⟩ := v
  induction entries with
  | nil => exact ⟨[], rfl⟩
  | cons entry rest ih =>
    obtain ⟨shown, hrest⟩ := ih fun p hp => h p (List.mem_cons_of_mem _ hp)
    obtain ⟨hid, himage⟩ := h entry List.mem_cons_self
    obtain ⟨id, hid⟩ := Option.isSome_iff_exists.mp hid
    obtain ⟨image, himage⟩ := Option.isSome_iff_exists.mp himage
    refine ⟨(id, image) :: shown, ?_⟩
    rw [List.map_cons, ← hrest, ← hid, ← himage]

theorem Known.putBack (h : v.Known) (id : OutputId) (o : Output Mode) (shown : List Image) :
    (v.putBack id o shown).Known := by
  intro p hp
  rcases List.mem_append.mp hp with hp | hp
  · exact h p hp
  · obtain ⟨image, -, rfl⟩ := List.mem_map.mp hp
    exact ⟨rfl, rfl⟩

theorem Known.scheduleFrame (h : v.Known) (id : OutputId) (image : Image) :
    (Pacer.scheduleFrame id image v).2.Known := by
  unfold Pacer.scheduleFrame
  split
  · exact h
  · exact h.putBack _ _ _

theorem Known.happen (h : v.Known) (id : OutputId) (incident : Incident) :
    (Pacer.happen id incident v).Known := by
  unfold Pacer.happen
  split
  · exact h
  · cases incident with
    | complete | release => exact h.putBack _ _ _
    | resize width height =>
      simp only [undergo]
      split
      · exact h
      · split
        · exact h
        · exact h.putBack _ _ _
    | close | destroy => exact h

end Pacer

namespace Scene

variable {mode : Mode} {w : Scene Pacer}

theorem known_act (h : w.station.Known) (action : Action) :
    (w.act (pacer mode) action).station.Known := by
  cases action with
  | createOutput | importImage | adoptImage | deliver => exact h
  | scheduleFrame output id =>
    simp only [act]
    split
    · exact h
    · exact h.scheduleFrame output _
  | happen output incident =>
    simp only [act]
    split
    · exact h.happen output incident
    · exact h

theorem known_run {w : Scene Pacer} (h : w.station.Known) (actions : List Action) :
    (w.run (pacer mode) actions).station.Known := by
  induction actions generalizing w with
  | nil => exact h
  | cons action rest ih =>
    refine ih ?_
    unfold step
    split
    · exact h
    · exact known_act h action

theorem known_play {v : Pacer} (h : v.Known) (actions : List Action) (lost : Bool) :
    (play (pacer mode) v actions lost).station.Known := by
  have hrun : ((start v).run (pacer mode) actions).station.Known := known_run h actions
  cases lost with
  | false => exact hrun
  | true => exact hrun

end Scene

end Scanout
