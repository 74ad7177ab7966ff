import Scanout.Proofs.Directory
import Scanout.Proofs.Display.Pacing
import Scanout.Proofs.X11.Connection

/-!
# A display and somebody at its X server

A `Station` is a display on an X server together with somebody at the server who reads its
requests. They learn which output a window was made for and which image a pixmap was made of,
and from then on they talk to the display by these numbers alone: a completion names the window
and the refresh count, an idle notice the window and the pixmap. What they find in a request to
present is written down.

`Fit` is what this takes to be in order, a connection that nothing fails on included. It survives
the one thing that is not the same on every display: that an output shows an image, or none
(`Fit.shown`).
-/

namespace Scanout

/-- The pixmap by which an X server knows an image. -/
def Image.pixmap? (image : Image) : Option Nat :=
  match image.backendData.value? with
  | some (.pixmap pixmap) => some pixmap
  | _ => none

theorem Image.pixmap?_eq_some {image : Image} {pixmap : Nat} :
    image.pixmap? = some pixmap ↔ image.backendData.value? = some (.pixmap pixmap) := by
  unfold pixmap?
  split
  · next p hp => simp [hp]
  · next hne => exact ⟨fun h => absurd h (by simp), fun h => absurd h (hne pixmap)⟩

namespace X11

/-- The window that a request makes. -/
def Request.window? : Request → Option ResourceId
  | .createWindow window .. => some window
  | _ => none

/-- The pixmap that a request makes. -/
def Request.pixmap? : Request → Option ResourceId
  | .pixmapFromBuffers pixmap .. => some pixmap
  | .pixmapFromBuffer pixmap .. => some pixmap
  | _ => none

structure Station where
  client : Client
  windows : Directory OutputId := []
  pixmaps : Directory ImageId := []
  shown : List Presentation := []

namespace Station

/-- What a request asks to show, for somebody who knows the windows and the pixmaps. -/
def presentation? (s : Station) : Request → Option Presentation
  | .presentPixmap window pixmap _ _ => some (s.windows.lookup window, s.pixmaps.lookup pixmap)
  | _ => none

/-- The display did something and sent requests. -/
def advance (s : Station) (sent : List Request) (c : Client) : Station :=
  { s with client := c, shown := s.shown ++ sent.filterMap s.presentation? }

def createOutput (s : Station) (id : OutputId) : Bool × Station :=
  let (result, sent, c) := s.client.createOutput id
  let windows := s.windows ++ (sent.filterMap Request.window?).map fun window => (window, id)
  (result.isOk, { s with windows := windows }.advance sent c)

def importImage (verdict : Request → Except Refusal Unit) (s : Station) (image : Image) :
    Option Image × Station :=
  let (result, sent, c) := s.client.attach verdict image
  match result with
  | .error _ => (none, s.advance sent c)
  | .ok image =>
    let pixmaps := s.pixmaps
      ++ (sent.filterMap Request.pixmap?).map fun pixmap => (pixmap, image.id)
    (some image, { s with pixmaps := pixmaps }.advance sent c)

def scheduleFrame (s : Station) (id : OutputId) (image : Image) : ScheduleOutcome × Station :=
  let (outcome, sent, c) := s.client.scheduleFrame id image
  (outcome, s.advance sent c)

/-- The event by which the server tells of an incident at a window. -/
def event? (s : Station) (window : ResourceId) : Incident → Option Event
  | .complete refresh => some (.complete window pixmapCompletion refresh)
  | .release image => (s.pixmaps.number? image).map (.idle window)
  | .resize width height => some (.configure window width height)
  | .close => some (.message window 32 (.atom Atom.wmDeleteWindow.name))
  | .destroy => none

/-- The server tells of an incident, or the display destroys the output by itself. -/
def happen (s : Station) (id : OutputId) (incident : Incident) : Station :=
  if incident = .destroy then
    let (_, sent, c) := s.client.destroyOutput id
    s.advance sent c
  else
    match (s.windows.number? id).bind (s.event? · incident) with
    | none => s
    | some e =>
      let (_, sent, c) := s.client.handle e
      s.advance sent c

/-- With the connection gone, the last requests reach nobody. -/
def connectionClosed (s : Station) : Station :=
  { s with client := s.client.connectionClosed.2 }

def deliver (s : Station) : List BackendEvent × Station :=
  let (events, registry) := s.client.registry.takeEvents
  (events, { s with client := { s.client with registry := registry } })

end Station

/-- A display on an X server. `verdict` is how the server answers imports. -/
def port (verdict : Request → Except Refusal Unit) : Port Station Window :=
  { registry := fun s => s.client.registry
    shown := Station.shown
    seen := Pacer.see Image.pixmap?
    mode := fun w => w.info.mode
    adopt := fun image => { image with backendData := (image.backendData.take .pixmap).2 }
    createOutput := fun id s => s.createOutput id
    importImage := fun image s => s.importImage verdict image
    scheduleFrame := fun id image s => s.scheduleFrame id image
    happen := fun id incident s => s.happen id incident
    connectionClosed := Station.connectionClosed
    deliver := Station.deliver }

/-! ## Windows -/

namespace Window

/-- A window that has not seen the last refresh count. -/
def Ready (s : Window × List Request) : Prop :=
  s.1.lastMsc.toNat + 1 < UInt64.size

/-- An image that is imported is presented as far as the connection takes it. -/
theorem present_ready {image : Image} {pixmap : Nat} (himage : image.pixmap? = some pixmap)
    {w : Window} {sent : List Request} (hready : Ready (w, sent)) (connection : Connection) :
    present connection image (w, sent)
      = match connection.postAll [w.countUp.request pixmap] with
        | (.error e, written) => (.failed e, w.countUp, sent ++ written)
        | (.ok _, written) => (.done (), w.countUp.remember pixmap image.id, sent ++ written) := by
  have hvalue := Image.pixmap?_eq_some.mp himage
  have hnext : w.countUp.lastMsc.toNat + 1 < UInt64.size := hready
  unfold present
  rw [hvalue]
  exact if_pos hnext

theorem present_imported {image : Image} {pixmap : Nat} (himage : image.pixmap? = some pixmap)
    {w : Window} {sent : List Request} (hready : Ready (w, sent)) {connection : Connection}
    (hsound : connection.Sound) :
    present connection image (w, sent)
      = (.done (), w.countUp.remember pixmap image.id, sent ++ [w.countUp.request pixmap]) := by
  rw [present_ready himage hready connection, hsound.postAll]

theorem present_unknown {image : Image} (himage : image.pixmap? = none) (connection : Connection)
    (s : Window × List Request) : present connection image s = (.failed notImported, s) := by
  obtain ⟨w, sent⟩ := s
  simp only [present]
  split
  · next pixmap hvalue => exact absurd (Image.pixmap?_eq_some.mpr hvalue) (by simp [himage])
  · rfl

theorem surface_decides {connection : Connection} (hsound : connection.Sound) :
    (surface connection).Decides (fun image => Pacer.marked (Pacer.see Image.pixmap? image))
      Ready where
  shows := by
    rintro image ⟨w, sent⟩ hready hmarked
    rw [Pacer.marked_see] at hmarked
    obtain ⟨pixmap, hpixmap⟩ := Option.isSome_iff_exists.mp hmarked
    simp only [surface, present_imported hpixmap hready hsound]
  refuses := by
    intro image s _ hmarked
    rw [Pacer.marked_see, Option.isSome_eq_false_iff, Option.isNone_iff_eq_none] at hmarked
    exact ⟨notImported, present_unknown hmarked connection s⟩

/-- A record of one pixmap in flight leaves the others alone. -/
theorem lookup_remember_ne (w : Window) {pixmap other : ResourceId} (hne : other ≠ pixmap)
    (image : ImageId) :
    (w.remember pixmap image).inFlight.lookup other = w.inFlight.lookup other := by
  rw [remember, Directory.lookup_append_ne hne, Directory.lookup_filter_ne hne]

theorem lookup_remember_self (w : Window) (pixmap : ResourceId) (image : ImageId) :
    (w.remember pixmap image).inFlight.lookup pixmap = some image :=
  Directory.lookup_append_self (fun entry he => by simpa using (List.mem_filter.mp he).2) image

end Window

/-! ## Identifiers -/

/-- Identifiers within a mask are apart from each other. -/
theorem ResourceIds.ofMask?_apart {mask : Nat} {ids : ResourceIds}
    (h : ResourceIds.ofMask? mask = some ids) : 0 < ids.step := by
  unfold ofMask? at h
  split at h
  · exact absurd h (by simp)
  next hmask =>
    obtain rfl := Option.some.inj h
    refine Nat.pos_of_ne_zero fun hzero => ?_
    -- without a lowest bit, the mask has no bit that its predecessor lacks
    have hwithin : mask &&& (mask - 1) = mask := by
      refine Nat.eq_of_testBit_eq fun i => ?_
      have hbit := congrArg (Nat.testBit · i) hzero
      simp only [Nat.testBit_and, Nat.testBit_xor, Nat.zero_testBit] at hbit ⊢
      cases hm : mask.testBit i <;> cases hp : (mask - 1).testBit i <;> simp [hm, hp] at hbit ⊢
    have hle : mask &&& (mask - 1) ≤ mask - 1 := Nat.and_le_right
    omega

/-- What a dialog that ends well did first, and what it did then. -/
theorem Dialog.bind_ok {α β : Type} {first : Dialog α} {next : α → Dialog β} {b : β}
    {sent sent' : List Request} (h : (first >>= next).run.run sent = (.ok b, sent')) :
    ∃ a sent'', first.run.run sent = (.ok a, sent'') ∧
      (next a).run.run sent'' = (.ok b, sent') := by
  rw [ExceptT.run_bind, StateT.run_bind] at h
  rcases hfirst : first.run.run sent with ⟨e | a, sent''⟩
  · rw [hfirst] at h
    have hended : (Except.error e : Except Error β) = .ok b := congrArg Prod.fst h
    exact absurd hended (by simp)
  · rw [hfirst] at h
    exact ⟨a, sent'', rfl, h⟩

/-- Whoever opened a display hands out identifiers that are apart from each other. -/
theorem openSession_apart {answer : Request → Reply} {screen mask : Nat} {ids : ResourceIds}
    (hids : ResourceIds.ofMask? mask = some ids) {sent sent' : List Request} {session : Session}
    (h : (openSession answer screen ids).run.run sent = (.ok session, sent')) :
    0 < session.ids.step := by
  have hapart := ResourceIds.ofMask?_apart hids
  have hfresh : 0 < ids.fresh.2.2.step := by
    unfold ResourceIds.fresh
    split <;> exact hapart
  -- the extensions, the atoms, the render node and the formats
  unfold openSession at h
  obtain ⟨_, _, -, h⟩ := Dialog.bind_ok h
  obtain ⟨_, _, -, h⟩ := Dialog.bind_ok h
  obtain ⟨_, _, -, h⟩ := Dialog.bind_ok h
  obtain ⟨_, _, -, h⟩ := Dialog.bind_ok h
  obtain ⟨_, _, -, h⟩ := Dialog.bind_ok h
  obtain ⟨_, _, -, h⟩ := Dialog.bind_ok h
  obtain ⟨_, _, -, h⟩ := Dialog.bind_ok h
  split at h
  · exact absurd (congrArg Prod.fst h) (by simp [throw, throwThe, MonadExceptOf.throw])
  · obtain ⟨_, _, -, h⟩ := Dialog.bind_ok h
    obtain rfl := Except.ok.inj (congrArg Prod.fst h)
    exact hfresh

/-! ## Stations in order -/

/-- What there is to know of an output: what its window is called, and that each image the
server holds is in flight under its pixmap. -/
structure Placed (windows : Directory OutputId) (id : OutputId) (o : Output Window) : Prop where
  window : (o.details.window, id) ∈ windows
  ready : Window.Ready (o.details, [])
  inFlight : ∀ image ∈ o.scheduler.presented, ∃ pixmap, image.pixmap? = some pixmap ∧
    o.details.inFlight.lookup pixmap = some image.id

/-- A station that knows its windows and pixmaps. -/
structure Fit (mode : Mode) (s : Station) (outputs : Nat) (images : List Image) : Prop where
  mode_eq : s.client.mode = mode
  sound : s.client.session.connection.Sound
  apart : 0 < s.client.session.ids.step
  windows : s.windows.OneToOne
  windows_old : s.windows.Below (·.number) s.client.session.ids.next outputs
  pixmaps : s.pixmaps.OneToOne
  pixmaps_old : s.pixmaps.Below (·.number) s.client.session.ids.next images.length
  imported : ∀ image ∈ images, ∀ pixmap, image.pixmap? = some pixmap →
    (pixmap, image.id) ∈ s.pixmaps
  placed : ∀ entry ∈ s.client.registry.outputs, Placed s.windows entry.1 entry.2

section

variable {mode : Mode} {s : Station} {outputs : Nat} {images : List Image}

theorem Fit.placed_of_get? (h : Fit mode s outputs images) {id : OutputId} {o : Output Window}
    (hget : s.client.registry.get? id = some o) : Placed s.windows id o :=
  h.placed _ (Registry.mem_of_get? hget)

theorem Placed.drained {windows : Directory OutputId} {id : OutputId} {o : Output Window}
    (h : Placed windows id o) : Placed windows id (Registry.drained o) :=
  ⟨h.window, h.ready, h.inFlight⟩

/-- The display did something that makes no window and no pixmap. -/
theorem Fit.advance (h : Fit mode s outputs images) {c : Client} (hmode : c.mode = s.client.mode)
    (hsession : c.session = s.client.session)
    (hplaced : ∀ entry ∈ c.registry.outputs, Placed s.windows entry.1 entry.2)
    (sent : List Request) : Fit mode (s.advance sent c) outputs images :=
  { mode_eq := hmode.trans h.mode_eq
    sound := by simpa only [Station.advance, hsession] using h.sound
    apart := by simpa only [Station.advance, hsession] using h.apart
    windows := h.windows
    windows_old := by simpa only [Station.advance, hsession] using h.windows_old
    pixmaps := h.pixmaps
    pixmaps_old := by simpa only [Station.advance, hsession] using h.pixmaps_old
    imported := h.imported
    placed := hplaced }

/-- An output that showed an image, if any, is in its place again. -/
theorem Fit.shown (h : Fit mode s outputs images) {id : OutputId} {o : Output Window}
    (ho : Placed s.windows id o) {f' : FrameScheduler} {among : List Image} {shown : Option Image}
    (hshows : o.scheduler.Shows among (fun image => Pacer.marked (Pacer.see Image.pixmap? image))
      shown f')
    (hmade : ∀ image ∈ o.scheduler.presented ++ among, image ∈ images)
    {w : Window} (hwindow : w.window = o.details.window) (hready : Window.Ready (w, []))
    (hinFlight : w.inFlight = o.details.inFlight) :
    ∃ w' sent, (Window.surface s.client.session.connection).after shown (w, []) = (w', sent) ∧
      w'.info = w.info ∧
      sent.filterMap s.presentation?
        = shown.toList.map (fun image => (some id, some image.id)) ∧
      Placed s.windows id ⟨f', w'⟩ := by
  cases shown with
  | none =>
    refine ⟨w, [], rfl, rfl, rfl, hwindow ▸ ho.window, hready, fun image himage => ?_⟩
    rw [hshows.presented_eq, Option.toList_none, List.append_nil] at himage
    rw [hinFlight]
    exact ho.inFlight image himage
  | some image =>
    have hmarked := hshows.ok image rfl
    rw [Pacer.marked_see] at hmarked
    obtain ⟨pixmap, hpixmap⟩ := Option.isSome_iff_exists.mp hmarked
    have hknown := h.imported image (hmade image (List.mem_append_right _ (hshows.mem image rfl)))
      pixmap hpixmap
    refine ⟨_, _, congrArg Prod.snd (Window.present_imported hpixmap hready h.sound), rfl, ?_,
      hwindow ▸ ho.window, hready, fun other hother => ?_⟩
    · simp only [List.nil_append, List.filterMap_cons, Station.presentation?, List.filterMap_nil,
        Window.request,
        h.pixmaps.lookup hknown, Window.countUp, hwindow, h.windows.lookup ho.window]
      rfl
    · rw [hshows.presented_eq, Option.toList_some] at hother
      rcases List.mem_append.mp hother with hold | hself
      · obtain ⟨pixmap', hpixmap', hflight⟩ := ho.inFlight other hold
        refine ⟨pixmap', hpixmap', ?_⟩
        by_cases hsame : pixmap' = pixmap
        · -- the pixmap of the image that is shown is nobody else's
          subst hsame
          have hother := h.imported other (hmade other (List.mem_append_left _ hold)) pixmap' hpixmap'
          rw [h.pixmaps.thing_eq hother hknown]
          exact Window.lookup_remember_self _ pixmap' image.id
        · refine (Window.lookup_remember_ne _ hsame image.id).trans ?_
          rw [← hflight, ← hinFlight]
          rfl
      · obtain rfl := List.mem_singleton.mp hself
        exact ⟨pixmap, hpixmap, Window.lookup_remember_self _ pixmap other.id⟩

end

end X11

end Scanout
