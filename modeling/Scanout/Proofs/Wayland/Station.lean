import Scanout.Proofs.Directory
import Scanout.Proofs.Display.Pacing
import Scanout.Proofs.Wayland.Remote

/-!
# A display and somebody at its compositor

A `Station` is a display on a Wayland compositor together with somebody at the compositor who
reads its requests. They learn which output a surface was made for, which image a buffer was
made of and which callback was asked for last, and from then on they talk to the display by
these numbers alone: a completion names the callback, a release the buffer. What is committed is
written down.

`Fit` is what this takes to be in order. It survives the one thing that is not the same on every
display: that an output shows an image, or none (`Fit.shown`).
-/

namespace Scanout.Wayland

/-- The surface that a request makes. -/
def Request.surface? : Request → Option Nat
  | .createSurface _ surface => some surface
  | _ => none

/-- The buffer that a request makes. -/
def Request.buffer? : Request → Option Nat
  | .createImmed _ buffer .. => some buffer
  | _ => none

/-- The callback that a request asks for, with its surface. -/
def Request.frame? : Request → Option (Nat × Nat)
  | .frame surface callback => some (surface, callback)
  | _ => none

structure Station where
  client : Client
  remote : Remote := {}
  surfaces : Directory OutputId := []
  buffers : Directory ImageId := []
  /-- The callbacks of the surfaces, latest first. -/
  frames : Directory Nat := []
  shown : List Presentation := []
  deriving DecidableEq, Repr

namespace Station

/-- What a commit shows, for somebody who knows the surfaces and the buffers. -/
def presentation (s : Station) (c : Commit) : Presentation :=
  (s.surfaces.lookup c.surface, s.buffers.lookup c.buffer)

/-- The display did something and sent requests. -/
def advance (s : Station) (sent : List Request) (c : Client) : Station :=
  let remote := s.remote.receiveAll sent
  { s with
    client := c
    remote := remote
    frames := (sent.filterMap Request.frame?).reverse ++ s.frames
    shown := s.shown ++ (remote.history.drop s.remote.history.length).map s.presentation }

def createOutput (s : Station) (id : OutputId) : Bool × Station :=
  let (result, sent, c) := s.client.createOutput id
  let surfaces := s.surfaces ++ (sent.filterMap Request.surface?).map fun surface => (surface, id)
  (result.isOk, { s with surfaces := surfaces }.advance sent c)

def importImage (s : Station) (image : Image) : Option Image × Station :=
  let (result, sent, c) := s.client.attach image
  match result with
  | .error _ => (none, s.advance sent c)
  | .ok image =>
    let buffers := s.buffers
      ++ (sent.filterMap Request.buffer?).map fun buffer => (buffer, image.id)
    (some image, { s with buffers := buffers }.advance sent c)

def scheduleFrame (s : Station) (id : OutputId) (image : Image) : ScheduleOutcome × Station :=
  let (outcome, sent, c) := s.client.scheduleFrame id image
  (outcome, s.advance sent c)

/-- The event by which the compositor tells of an incident at a surface. The toplevel has the
number of its surface. -/
def event? (s : Station) (surface : Nat) : Incident → Option Event
  | .complete _ => (s.frames.lookup surface).map .done
  | .release image => (s.buffers.number? image).map .release
  | .resize width height =>
    some (.toplevelConfigure surface width.toUInt32.toInt32 height.toUInt32.toInt32)
  | .close => some (.toplevelClose surface)
  | .destroy => none

/-- The compositor tells of an incident, or the display destroys the output by itself. -/
def happen (s : Station) (id : OutputId) (incident : Incident) : Station :=
  if incident = .destroy then
    let (_, sent, c) := s.client.destroyOutput id
    s.advance sent c
  else
    match (s.surfaces.number? id).bind (s.event? · incident) with
    | none => s
    | some e =>
      let (sent, c) := s.client.handle e
      s.advance sent c

/-- With the connection gone, the last requests reach nobody. -/
def connectionClosed (s : Station) : Station :=
  { s with client := s.client.connectionClosed.2 }

def deliver (s : Station) : List BackendEvent × Station :=
  let (events, registry) := s.client.registry.takeEvents
  (events, { s with client := { s.client with registry := registry } })

end Station

/-- A display on a Wayland compositor. -/
def port : Port Station Toplevel :=
  { registry := fun s => s.client.registry
    shown := Station.shown
    seen := Pacer.see Image.remoteBuffer?
    mode := fun t => t.info.mode
    adopt := fun image => { image with backendData := (image.backendData.take .remoteBuffer).2 }
    createOutput := fun id s => s.createOutput id
    importImage := fun image s => s.importImage image
    scheduleFrame := fun id image s => s.scheduleFrame id image
    happen := fun id incident s => s.happen id incident
    connectionClosed := Station.connectionClosed
    deliver := Station.deliver }

theorem Canvas.surface_decides :
    Canvas.surface.Decides (fun image => Pacer.marked (Pacer.see Image.remoteBuffer? image))
      (fun _ => True) where
  shows := by
    intro image c _ hmarked
    rw [Pacer.marked_see] at hmarked
    rcases Canvas.present_cases image c with ⟨_, _, -, -, hpresent⟩ | ⟨hnone, -⟩
    · simp only [Canvas.surface, hpresent]
    · simp [hnone] at hmarked
  refuses := by
    intro image c _ hmarked
    rw [Pacer.marked_see] at hmarked
    rcases Canvas.present_cases image c with ⟨buffer, _, hbuffer, -, -⟩ | ⟨-, hpresent⟩
    · simp [hbuffer] at hmarked
    · exact ⟨_, hpresent⟩

/-- Showing an image commits its buffer and asks for the next callback. -/
theorem Canvas.present_shows {image : Image} {buffer : Nat}
    (hbuffer : image.remoteBuffer? = some buffer) (c : Canvas) :
    ∃ more, Canvas.surface.after (some image) c = { c with
        toplevel := { c.toplevel with frameCallback := some c.callbacks.next }
        callbacks := {
          next := c.callbacks.next + 1
          unanswered := c.callbacks.unanswered ++ [(c.callbacks.next, c.id)] }
        sent := c.sent ++ more } ∧
      (∀ r : Remote, r.attached = [] → r.receiveAll more = r.commit c.toplevel.object buffer) ∧
      more.filterMap Request.frame? = [(c.toplevel.object, c.callbacks.next)] := by
  obtain ⟨damage, hdamage, hcommit⟩ := c.commitOf_eq buffer
  have hquiet : Quiet damage := fun request hr => by
    rw [hdamage request hr]
    rfl
  have hframes : damage.filterMap Request.frame? = [] :=
    List.filterMap_eq_nil_iff.mpr fun request hr => by
      rw [hdamage request hr]
      rfl
  refine ⟨c.commitOf buffer, ?_, fun r hr => ?_, ?_⟩
  · simp only [Surface.after, surface, present_eq, hbuffer, showing]
  · rw [hcommit]
    exact Remote.receiveAll_present hr c.toplevel.object buffer c.callbacks.next hquiet
  · rw [hcommit, List.filterMap_append, List.filterMap_cons, hframes]
    rfl

/-! ## Stations in order -/

/-- What there is to know of an output: what its surface is called, that its frame in flight
waits for the last callback, and that each image the compositor holds has a buffer. -/
structure Placed (surfaces : Directory OutputId) (frames : Directory Nat) (callbacks : Callbacks)
    (id : OutputId) (o : Output Toplevel) : Prop where
  surface : (o.details.object, id) ∈ surfaces
  frame : o.scheduler.armed = true → ∃ callback,
    frames.lookup o.details.object = some callback ∧ callbacks.unanswered.lookup callback = some id
  imported : ∀ image ∈ o.scheduler.presented, ∃ buffer, image.remoteBuffer? = some buffer

theorem Placed.drained {surfaces : Directory OutputId} {frames : Directory Nat}
    {callbacks : Callbacks} {id : OutputId} {o : Output Toplevel}
    (h : Placed surfaces frames callbacks id o) :
    Placed surfaces frames callbacks id (Registry.drained o) :=
  ⟨h.surface, h.frame, h.imported⟩

/-- A station that knows its surfaces, buffers and callbacks. -/
structure Fit (mode : Mode) (s : Station) (outputs : Nat) (images : List Image) : Prop where
  mode_eq : s.client.mode = mode
  idle : s.remote.attached = []
  surfaces : s.surfaces.OneToOne
  surfaces_old : s.surfaces.Below (·.number) s.client.created outputs
  buffers : s.buffers.OneToOne
  buffers_eq : s.client.buffers = s.buffers
  buffers_old : s.buffers.Below (·.number) s.client.buffersMade images.length
  imported : ∀ image ∈ images, ∀ buffer, image.remoteBuffer? = some buffer →
    (buffer, image.id) ∈ s.buffers
  callbacks_old : ∀ entry ∈ s.client.callbacks.unanswered, entry.1 < s.client.callbacks.next
  placed : ∀ entry ∈ s.client.registry.outputs,
    Placed s.surfaces s.frames s.client.callbacks entry.1 entry.2

section

variable {mode : Mode} {s : Station} {outputs : Nat} {images : List Image}

theorem Fit.placed_of_get? (h : Fit mode s outputs images) {id : OutputId} {o : Output Toplevel}
    (hget : s.client.registry.get? id = some o) :
    Placed s.surfaces s.frames s.client.callbacks id o :=
  h.placed _ (Registry.mem_of_get? hget)

theorem Station.advance_quiet {sent : List Request} (hquiet : Quiet sent)
    (hframes : sent.filterMap Request.frame? = []) (s : Station) (c : Client) :
    s.advance sent c = { s with client := c } := by
  simp [advance, Remote.receiveAll_quiet hquiet, hframes]

/-- A surface belongs to one output. -/
theorem Fit.object_ne (h : Fit mode s outputs images) {id id' : OutputId} {o o' : Output Toplevel}
    (ho : Placed s.surfaces s.frames s.client.callbacks id o)
    (ho' : Placed s.surfaces s.frames s.client.callbacks id' o') (hne : id' ≠ id) :
    o'.details.object ≠ o.details.object := by
  intro heq
  have hself := ho'.surface
  rw [heq] at hself
  exact hne (h.surfaces.thing_eq hself ho.surface)

/-- A canvas for an output, from which at most the callback of that output is gone. -/
structure Blank (s : Station) (id : OutputId) (o : Output Toplevel) (canvas : Canvas) : Prop where
  id_eq : canvas.id = id
  object_eq : canvas.toplevel.object = o.details.object
  sent_eq : canvas.sent = []
  next_eq : canvas.callbacks.next = s.client.callbacks.next
  fewer : ∀ entry ∈ canvas.callbacks.unanswered, entry ∈ s.client.callbacks.unanswered
  others : ∀ callback id', id' ≠ id →
    s.client.callbacks.unanswered.lookup callback = some id' →
    canvas.callbacks.unanswered.lookup callback = some id'

/-- Where an output is put back in its place and the others are in theirs, the station is in
order. -/
theorem Fit.putBack (h : Fit mode s outputs images) {f' : FrameScheduler} {used : Canvas}
    (hidle : (s.remote.receiveAll used.sent).attached = [])
    (hcallbacks : ∀ entry ∈ used.callbacks.unanswered, entry.1 < used.callbacks.next)
    (hself : Placed s.surfaces ((used.sent.filterMap Request.frame?).reverse ++ s.frames)
      used.callbacks used.id ⟨f', used.toplevel⟩)
    (hothers : ∀ id' o', id' ≠ used.id → Placed s.surfaces s.frames s.client.callbacks id' o' →
      Placed s.surfaces ((used.sent.filterMap Request.frame?).reverse ++ s.frames)
        used.callbacks id' o') :
    Fit mode (s.advance used.sent (s.client.putBack f' used)) outputs images :=
  { mode_eq := h.mode_eq
    idle := hidle
    surfaces := h.surfaces
    surfaces_old := h.surfaces_old
    buffers := h.buffers
    buffers_eq := h.buffers_eq
    buffers_old := h.buffers_old
    imported := h.imported
    callbacks_old := hcallbacks
    placed := Registry.forall_set_collect
      (Placed s.surfaces ((used.sent.filterMap Request.frame?).reverse ++ s.frames) used.callbacks)
      Placed.drained hself
      fun entry he hne => hothers entry.1 entry.2 hne (h.placed entry he) }

/-- An output that showed an image, if any, is in its place again, and so are the others. -/
theorem Fit.shown (h : Fit mode s outputs images) {id : OutputId} {o : Output Toplevel}
    (ho : Placed s.surfaces s.frames s.client.callbacks id o) {f' : FrameScheduler}
    {among : List Image} {shown : Option Image}
    (hshows : o.scheduler.Shows among
      (fun image => Pacer.marked (Pacer.see Image.remoteBuffer? image)) shown f')
    (hmade : ∀ image ∈ among, image ∈ images) {canvas : Canvas}
    (hblank : Blank s id o canvas)
    (harmed : f'.armed = true →
      (o.scheduler.armed = true ∧ canvas.callbacks = s.client.callbacks) ∨ shown.isSome = true) :
    ∃ used, Canvas.surface.after shown canvas = used ∧ used.id = id ∧
      used.toplevel.info = canvas.toplevel.info ∧
      (s.advance used.sent (s.client.putBack f' used)).shown
        = s.shown ++ shown.toList.map (fun image => (some id, some image.id)) ∧
      Fit mode (s.advance used.sent (s.client.putBack f' used)) outputs images := by
  obtain ⟨rfl, hobject, hsent, hnext, hfewer, hothers⟩ := hblank
  have hold : ∀ entry ∈ canvas.callbacks.unanswered, entry.1 < canvas.callbacks.next :=
    fun entry he => hnext ▸ h.callbacks_old entry (hfewer entry he)
  have hsurface : (canvas.toplevel.object, canvas.id) ∈ s.surfaces := hobject ▸ ho.surface
  cases shown with
  | none =>
    refine ⟨canvas, rfl, rfl, rfl, ?_, h.putBack ?_ hold ?_ fun id' o' hne ho' => ?_⟩
    · simp [Station.advance, hsent, Remote.receiveAll]
    · rw [hsent]
      exact h.idle
    · rw [hsent]
      refine ⟨hsurface, fun hf => ?_, fun image himage => ho.imported image ?_⟩
      · rcases harmed hf with ⟨hbusy, hsame⟩ | hshown
        · rw [hsame, hobject]
          exact ho.frame hbusy
        · exact absurd hshown (by simp)
      · simpa [hshows.presented_eq] using himage
    · rw [hsent]
      refine ⟨ho'.surface, fun hbusy => ?_, ho'.imported⟩
      obtain ⟨callback, hlast, hwaits⟩ := ho'.frame hbusy
      exact ⟨callback, hlast, hothers callback id' hne hwaits⟩
  | some image =>
    have hmarked := hshows.ok image rfl
    rw [Pacer.marked_see] at hmarked
    obtain ⟨buffer, hbuffer⟩ := Option.isSome_iff_exists.mp hmarked
    have hknown := h.imported image (hmade image (hshows.mem image rfl)) buffer hbuffer
    obtain ⟨more, hafter, hcommits, hframes⟩ := Canvas.present_shows hbuffer canvas
    have hcommit := hcommits s.remote h.idle
    have hnew : ∀ entry ∈ canvas.callbacks.unanswered, entry.1 ≠ canvas.callbacks.next :=
      fun entry he => Nat.ne_of_lt (hold entry he)
    rw [hsent, List.nil_append] at hafter
    refine ⟨_, hafter, rfl, rfl, ?_, h.putBack ?_ ?_ ?_ fun id' o' hne ho' => ?_⟩
    · simp only [Station.advance, hcommit, Remote.commit, List.drop_left, List.map_cons,
        List.map_nil, Station.presentation, h.surfaces.lookup hsurface, h.buffers.lookup hknown,
        Option.toList_some]
    · show (s.remote.receiveAll more).attached = []
      rw [hcommit]
      exact h.idle
    · intro entry he
      rcases List.mem_append.mp he with he | he
      · exact Nat.lt_succ_of_lt (hold entry he)
      · rw [List.mem_singleton.mp he]
        exact Nat.lt_succ_self _
    · refine ⟨hsurface, fun _ => ⟨canvas.callbacks.next, ?_, ?_⟩, fun other hother => ?_⟩
      · simp [hframes]
      · exact Directory.lookup_append_self hnew canvas.id
      · simp only [hshows.presented_eq, Option.toList_some] at hother
        rcases List.mem_append.mp hother with hother | hother
        · exact ho.imported other hother
        · rw [List.mem_singleton.mp hother]
          exact ⟨buffer, hbuffer⟩
    · refine ⟨ho'.surface, fun hbusy => ?_, ho'.imported⟩
      obtain ⟨callback, hlast, hwaits⟩ := ho'.frame hbusy
      refine ⟨callback, ?_, Directory.lookup_append_of_some (hothers callback id' hne hwaits)⟩
      have hother : (o'.details.object == canvas.toplevel.object) = false :=
        beq_false_of_ne (hobject ▸ h.object_ne ho ho' hne)
      simp only [hframes, List.reverse_singleton, List.singleton_append, List.lookup_cons, hother]
      exact hlast

end

end Scanout.Wayland
