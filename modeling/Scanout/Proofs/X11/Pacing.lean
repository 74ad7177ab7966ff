import Scanout.Proofs.Display.Kinds
import Scanout.Proofs.X11.Station

/-!
# Pacing on an X server

Every call of a compositor and every incident at the server is seen as that of the pacer, so a
display on an X server paces (`port_paces`).
-/

namespace Scanout

namespace X11

/-! ## The calls -/

section

variable {verdict : Request → Except Refusal Unit} {mode : Mode} {s : Station} {outputs : Nat}
  {images : List Image}

theorem Station.advance_nil (s : Station) : s.advance [] s.client = s := by
  simp [advance]

/-- The display has put an output back that showed an image, if any. -/
theorem follows_of_shown {handed : List Image}
    (h : (port verdict).Ready (Fit mode) s outputs images handed) {id : OutputId}
    {f' : FrameScheduler} {w' : Window} {sent : List Request} {taken : List Image} {paced : Pacer}
    (hmove : s.client.registry.Move taken (s.client.registry.set id ⟨f', w'⟩).collect)
    (hplaced : Placed s.windows id ⟨f', w'⟩)
    (hpaced : paced = (port verdict).watched (s.advance sent
      { s.client with registry := (s.client.registry.set id ⟨f', w'⟩).collect })) :
    (port verdict).Follows (Fit mode) s outputs images taken paced
      (s.advance sent { s.client with registry := (s.client.registry.set id ⟨f', w'⟩).collect }) :=
  ⟨hmove, hpaced,
    h.fit.advance
      (c := { s.client with registry := (s.client.registry.set id ⟨f', w'⟩).collect }) rfl rfl
      (Registry.forall_set_collect (Placed s.windows) Placed.drained hplaced
        fun entry he _ => h.fit.placed entry he) sent⟩

theorem scheduleFrame_paces {image : Image} (id : OutputId)
    (h : (port verdict).Ready (Fit mode) s outputs images [image]) :
    (s.scheduleFrame id image).1.handedBack ++ (s.scheduleFrame id image).1.taken image = [image] ∧
    (Pacer.scheduleFrame id (Pacer.see Image.pixmap? image) ((port verdict).watched s)).1
      = (s.scheduleFrame id image).1.seen (Pacer.see Image.pixmap?) ∧
    (port verdict).Follows (Fit mode) s outputs images ((s.scheduleFrame id image).1.taken image)
      (Pacer.scheduleFrame id (Pacer.see Image.pixmap? image) ((port verdict).watched s)).2
      (s.scheduleFrame id image).2 := by
  cases hget : s.client.registry.get? id with
  | none =>
    have hstep : s.scheduleFrame id image = (.unknownOutput image, s) := by
      simp only [Station.scheduleFrame, Client.scheduleFrame, hget, Station.advance_nil]
    have hpaced : Pacer.scheduleFrame id (Pacer.see Image.pixmap? image) ((port verdict).watched s)
        = (.unknownOutput (Pacer.see Image.pixmap? image), (port verdict).watched s) := by
      simp only [Pacer.scheduleFrame, Port.get?_watched_none (P := port verdict) hget]
    rw [hstep, hpaced]
    exact ⟨rfl, rfl, .still, rfl, h.fit⟩
  | some o =>
    have ho := h.fit.placed_of_get? hget
    obtain ⟨submission, f', shown, hcall, hseen, hanswers, hshows, -⟩ :=
      o.scheduler.schedule_seen (g := Pacer.see Image.pixmap?) (Window.surface_decides h.fit.sound)
        (show Window.Ready (o.details, []) from ho.ready) image
    have hmade : ∀ other ∈ o.scheduler.presented ++ [image], other ∈ images := by
      intro other hother
      rcases List.mem_append.mp hother with hold | hnew
      · exact h.kept_made hget other (List.mem_append_left _ hold)
      · exact h.made other (List.mem_append_right _ hnew)
    obtain ⟨w', sent, hafter, hinfo, hsent, hplaced⟩ := h.fit.shown ho hshows hmade rfl ho.ready rfl
    have hstep : s.client.scheduleFrame id image = (.submitted submission, sent,
        { s.client with registry := (s.client.registry.set id ⟨f', w'⟩).collect }) := by
      simp only [Client.scheduleFrame, hget, hcall, hafter]
    have hholds : (s.client.scheduleFrame id image).1.broke = false := by
      rw [hstep]
      cases submission with
      | accepted | refused => rfl
      | fault e lost => exact absurd rfl (hanswers e lost)
    have hmove := Client.scheduleFrame_move h.tidy id image hholds
    have hregistry : (port verdict).registry (s.advance sent { s.client with
        registry := (s.client.registry.set id ⟨f', w'⟩).collect })
        = (s.client.registry.set id ⟨f', w'⟩).collect := rfl
    have hpaced := Port.scheduleFrame_watched hregistry (congrArg (s.shown ++ ·) hsent)
      (fun _ => rfl) hget hseen (congrArg OutputInfo.mode hinfo)
    rw [hstep] at hmove
    simp only [Station.scheduleFrame, hstep]
    exact ⟨rfl, congrArg Prod.fst hpaced,
      follows_of_shown h hmove hplaced (congrArg Prod.snd hpaced)⟩

/-! ## The events -/

/-- The server tells of an incident by an event about the window. -/
theorem happen_eq (h : (port verdict).Ready (Fit mode) s outputs images []) {id : OutputId}
    {o : Output Window} (hget : s.client.registry.get? id = some o) {incident : Incident}
    {e : Event} (he : s.event? o.details.window incident = some e) :
    s.happen id incident = s.advance (s.client.handle e).2.1 (s.client.handle e).2.2 := by
  have hwindow := h.fit.windows.number? (h.fit.placed_of_get? hget).window
  have hlives : incident ≠ .destroy := by
    rintro rfl
    exact absurd he (by simp [Station.event?])
  simp only [Station.happen, if_neg hlives, hwindow, Option.bind_some, he]

/-- A window belongs to the output it was made for. -/
theorem outputOf?_eq (h : (port verdict).Ready (Fit mode) s outputs images []) {id : OutputId}
    {o : Output Window} (hget : s.client.registry.get? id = some o) :
    s.client.outputOf? o.details.window = some (id, o) := by
  refine Registry.find?_of_unique h.tidy.ids hget (beq_self_eq_true _) fun entry he hwindow => ?_
  have hplaced := (h.fit.placed entry he).window
  rw [eq_of_beq hwindow] at hplaced
  exact h.fit.windows.thing_eq hplaced (h.fit.placed_of_get? hget).window

theorem complete_paces (h : (port verdict).Ready (Fit mode) s outputs images []) {id : OutputId}
    {o : Output Window} (hget : s.client.registry.get? id = some o) (refresh : Refresh) :
    (port verdict).Follows (Fit mode) s outputs images []
      (Pacer.happen id (.complete refresh) ((port verdict).watched s))
      (s.happen id (.complete refresh)) := by
  have ho := h.fit.placed_of_get? hget
  have hready : Window.Ready (({ o.details with lastMsc := refresh } : Window), []) :=
    refresh.property
  obtain ⟨f', shown, hcall, hseen, hshows, -⟩ :=
    o.scheduler.frameDone_seen (g := Pacer.see Image.pixmap?)
      (Window.surface_decides h.fit.sound) hready
  obtain ⟨w', sent, hafter, hinfo, hsent, hplaced⟩ :=
    h.fit.shown (w := { o.details with lastMsc := refresh }) ho hshows (h.kept_made hget) rfl
      hready rfl
  have hhandle : s.client.handle (.complete o.details.window pixmapCompletion refresh)
      = (none, sent,
        { s.client with registry := (s.client.registry.set id ⟨f', w'⟩).collect }) := by
    simp only [Client.handle, if_true, Client.complete, outputOf?_eq h hget, hcall, hafter]
  have hmove := Client.handle_move h.tidy (.complete o.details.window pixmapCompletion refresh)
    (by rw [hhandle])
  have hregistry : (port verdict).registry (s.advance sent { s.client with
      registry := (s.client.registry.set id ⟨f', w'⟩).collect })
      = (s.client.registry.set id ⟨f', w'⟩).collect := rfl
  have hpaced := Port.complete_watched hregistry (congrArg (s.shown ++ ·) hsent)
    (fun _ => rfl) hget hseen (congrArg OutputInfo.mode hinfo) refresh
  rw [hhandle] at hmove
  rw [happen_eq h hget rfl, hhandle]
  exact follows_of_shown h hmove hplaced hpaced

theorem release_paces (h : (port verdict).Ready (Fit mode) s outputs images []) {id : OutputId}
    {o : Output Window} (hget : s.client.registry.get? id = some o) {image : Image}
    (himage : image ∈ o.scheduler.presented) :
    (port verdict).Follows (Fit mode) s outputs images []
      (Pacer.happen id (.release image.id) ((port verdict).watched s))
      (s.happen id (.release image.id)) := by
  have ho := h.fit.placed_of_get? hget
  obtain ⟨pixmap, hpixmap, hflight⟩ := ho.inFlight image himage
  have hmade := fun other hother =>
    h.kept_made hget other (List.mem_append_left _ hother)
  have hknown := h.fit.imported image (hmade image himage) pixmap hpixmap
  have hplaced : Placed s.windows id
      ⟨(o.scheduler.bufferReleased image.id).2, o.details.forget pixmap⟩ := by
    refine ⟨ho.window, ho.ready, fun other hother => ?_⟩
    obtain ⟨hold, hne⟩ := FrameScheduler.bufferReleased_mem (h.output_distinct hget) hother
    obtain ⟨pixmap', hpixmap', hflight'⟩ := ho.inFlight other hold
    have hapart : pixmap' ≠ pixmap := by
      rintro rfl
      exact hne (h.fit.pixmaps.thing_eq
        (h.fit.imported other (hmade other hold) pixmap' hpixmap') hknown)
    exact ⟨pixmap', hpixmap', (Directory.lookup_filter_ne hapart).trans hflight'⟩
  have hevent : s.event? o.details.window (.release image.id)
      = some (.idle o.details.window pixmap) := by
    simp only [Station.event?, h.fit.pixmaps.number? hknown, Option.map_some]
  have hhandle : s.client.handle (.idle o.details.window pixmap)
      = (none, [], { s.client with registry := (s.client.registry.set id
          ⟨(o.scheduler.bufferReleased image.id).2, o.details.forget pixmap⟩).collect }) := by
    simp only [Client.handle, Client.idle, outputOf?_eq h hget, hflight, Client.settled]
  have hmove := Client.handle_move h.tidy (.idle o.details.window pixmap) (by rw [hhandle])
  rw [hhandle] at hmove
  rw [happen_eq h hget hevent, hhandle]
  refine follows_of_shown h hmove hplaced ?_
  exact Port.release_watched (fun _ => rfl) hget (by simp [port, Station.advance]) rfl rfl

/-- Nothing happens where the window has that size, or it is no size. -/
theorem resize_paces (h : (port verdict).Ready (Fit mode) s outputs images []) {id : OutputId}
    {o : Output Window} (hget : s.client.registry.get? id = some o) (width height : UInt16) :
    (port verdict).Follows (Fit mode) s outputs images []
      (Pacer.happen id (.resize width height) ((port verdict).watched s))
      (s.happen id (.resize width height)) := by
  have ho := h.fit.placed_of_get? hget
  have hwatched := Port.get?_watched (P := port verdict) hget
  have hevent : s.event? o.details.window (.resize width height)
      = some (.configure o.details.window width height) := rfl
  rw [happen_eq h hget hevent]
  cases hsize : Mode.ofConfigure? width.toUInt32.toInt32 height.toUInt32.toInt32 with
  | none =>
    have hhandle : s.client.handle (.configure o.details.window width height)
        = (none, [], s.client) := by
      simp only [Client.handle, Client.configure, hsize]
    rw [hhandle, Station.advance_nil]
    exact ⟨.still, by simp only [Pacer.happen, hwatched, Pacer.undergo, hsize], h.fit⟩
  | some size =>
    by_cases hsame : o.details.info.mode = size
    · have hhandle : s.client.handle (.configure o.details.window width height)
          = (none, [], s.client) := by
        simp only [Client.handle, Client.configure, hsize, outputOf?_eq h hget, if_pos hsame]
        exact Client.settled_eq h.tidy
      have hseen : (o.seen (port verdict).seen (port verdict).mode).details = size := hsame
      rw [hhandle, Station.advance_nil]
      exact ⟨.still, by simp only [Pacer.happen, hwatched, Pacer.undergo, hsize, if_pos hseen], h.fit⟩
    · have hhandle : s.client.handle (.configure o.details.window width height)
          = (none, [], { s.client with registry := (s.client.registry.set id
              ⟨o.scheduler.modeChanged size,
                { o.details with info := { o.details.info with mode := size } }⟩).collect }) := by
        simp only [Client.handle, Client.configure, hsize, outputOf?_eq h hget, if_neg hsame,
          Client.settled]
      have hmove := Client.handle_move h.tidy (.configure o.details.window width height)
        (by rw [hhandle])
      rw [hhandle] at hmove
      rw [hhandle]
      refine follows_of_shown h hmove ⟨ho.window, ho.ready, ho.inFlight⟩ ?_
      exact Port.resize_watched (fun _ => rfl) hget (by simp [port, Station.advance]) hsize hsame
        rfl rfl

/-- A teardown presents nothing. -/
theorem destroyOutput_presentations (s : Station) (id : OutputId) :
    (s.client.destroyOutput id).2.1.filterMap s.presentation? = [] := by
  show (s.client.registry.destroy id Client.teardown []).2.2.filterMap s.presentation? = []
  cases hget : s.client.registry.get? id with
  | none =>
    rw [Registry.destroy_absent hget]
    rfl
  | some o =>
    have hsent : (Client.teardown o []).2
        = [.presentSelectInput o.details.presentEvent o.details.window 0,
          .destroyWindow o.details.window] := by
      unfold Client.teardown FrameScheduler.destroy
      cases o.scheduler.armed <;> rfl
    simp only [Registry.destroy, hget, hsent]
    rfl

theorem destroy_follows (h : (port verdict).Ready (Fit mode) s outputs images []) (id : OutputId) :
    (port verdict).Follows (Fit mode) s outputs images [] (((port verdict).watched s).destroy id)
      (s.advance (s.client.destroyOutput id).2.1 (s.client.destroyOutput id).2.2) := by
  refine ⟨.ended id Client.teardown_ends [], ?_, ?_⟩
  · have hseen := Registry.destroy_seen (g := Pacer.see Image.pixmap?)
      (h := fun w : Window => w.info.mode) (r := s.client.registry) Client.teardown_ends
      Pacer.teardown_ends id [] ()
    simp only [Pacer.destroy, Port.watched, port, Station.advance, destroyOutput_presentations,
      List.append_nil]
    exact congrArg (fun r => ({ registry := r, shown := s.shown } : Pacer)) hseen.symm
  · refine h.fit.advance (c := (s.client.destroyOutput id).2.2) rfl rfl (fun entry he => ?_) _
    exact h.fit.placed entry
      ((Registry.destroy_outputs s.client.registry id Client.teardown []).subset he)

theorem close_paces (h : (port verdict).Ready (Fit mode) s outputs images []) {id : OutputId}
    {o : Output Window} (hget : s.client.registry.get? id = some o) :
    (port verdict).Follows (Fit mode) s outputs images [] (((port verdict).watched s).destroy id)
      (s.happen id .close) := by
  have hcollect : (s.client.registry.destroy id Client.teardown []).2.1.collect
      = (s.client.registry.destroy id Client.teardown []).2.1 :=
    (h.tidy.destroy id Client.teardown []).settled.collect_eq
  have hhandle : s.client.handle
        (.message o.details.window 32 (.atom Atom.wmDeleteWindow.name))
      = (none, (s.client.destroyOutput id).2.1, (s.client.destroyOutput id).2.2) := by
    have hasks : Client.asksToClose 32 (.atom Atom.wmDeleteWindow.name) = true := by decide
    simp only [Client.handle, hasks, if_true, Client.close, outputOf?_eq h hget,
      Client.destroyOutput, hcollect]
  rw [happen_eq h hget rfl, hhandle]
  exact destroy_follows h id

end

/-! ## New outputs and new images -/

theorem ResourceIds.fresh_eq_some {ids ids' : ResourceIds} {number : ResourceId}
    {asks : List Request} (h : ids.fresh = (some number, asks, ids')) :
    number = ids.next ∧ asks = [] ∧ ids' = { ids with next := ids.next + ids.step } := by
  unfold fresh at h
  split at h
  · simp only [Prod.mk.injEq, Option.some.injEq] at h
    exact ⟨h.1.symm, h.2.1.symm, h.2.2.symm⟩
  · exact absurd (congrArg Prod.fst h) (by simp)

/-- A new output has a window of its own. -/
theorem Client.createOutput_opens {c : Client} {id : OutputId}
    (hmade : (c.createOutput id).1.isOk = true) :
    ∃ sent w, c.createOutput id = (.ok id, sent,
        { c with
          created := c.created + 1
          session := { c.session with ids := { c.session.ids with
            next := c.session.ids.next + c.session.ids.step + c.session.ids.step } }
          registry := c.registry.insert id ⟨{}, w⟩ }) ∧
      w.window = c.session.ids.next ∧ w.info.mode = c.mode ∧ w.lastMsc = 0 ∧
      sent.filterMap Request.window? = [c.session.ids.next] ∧
      ∀ s : Station, sent.filterMap s.presentation? = [] := by
  unfold createOutput at hmade ⊢
  split at hmade
  · exact absurd hmade (by simp [Except.isOk, Except.toBool])
  next hlive =>
    rw [if_neg hlive]
    obtain ⟨ids, hopened, hids⟩ :=
      openWindow_opened { c with created := c.created + 1 } s!"X11-{c.created + 1}"
    rcases hopen : ({ c with created := c.created + 1 } : Client).openWindow
      s!"X11-{c.created + 1}" with ⟨result, sent, opened⟩
    simp only [hopen] at hmade hopened hids ⊢
    cases hopened with
    | shown fresh next =>
      obtain ⟨rfl, rfl, rfl⟩ := ResourceIds.fresh_eq_some fresh
      obtain ⟨rfl, rfl, rfl⟩ := ResourceIds.fresh_eq_some next
      subst hids
      exact ⟨_, _, rfl, rfl, rfl, rfl, rfl, fun _ => rfl⟩
    | _ => exact absurd hmade (by simp [Except.isOk, Except.toBool])

theorem importRequest?_eq_some {plan : ImportPlan} {screen : Nat} {pixmap : ResourceId}
    {d : Dmabuf} {request : Request} (h : importRequest? plan screen pixmap d = some request) :
    request.pixmap? = some pixmap ∧ ∀ s : Station, s.presentation? request = none := by
  unfold importRequest? at h
  split at h
  · obtain rfl := Option.some.inj h
    exact ⟨rfl, fun _ => rfl⟩
  · simp only [singlePlaneRequest?, Option.bind_eq_bind, Option.bind_eq_some_iff,
      Option.ite_none_right_eq_some] at h
    obtain ⟨plane, -, stride, -, -, hrequest⟩ := h
    obtain rfl := Option.some.inj hrequest
    exact ⟨rfl, fun _ => rfl⟩

/-- An imported image has a pixmap of its own. -/
theorem importImage_imports {verdict : Request → Except Refusal Unit} {s s' : Session}
    {image image' : Image} {sent : List Request}
    (h : importImage verdict s image = (.ok image', sent, s')) :
    image' = { image with backendData := ⟨some (.pixmap s.ids.next)⟩ } ∧
    s' = { s with ids := { s.ids with next := s.ids.next + s.ids.step } } ∧
    sent.filterMap Request.pixmap? = [s.ids.next] ∧
    ∀ station : Station, sent.filterMap station.presentation? = [] := by
  obtain ⟨ids, hstops, hids⟩ := importImage_stops verdict s image
  rw [h] at hstops hids
  cases hstops with
  | taken _ _ fresh told =>
    obtain ⟨rfl, rfl, rfl⟩ := ResourceIds.fresh_eq_some fresh
    obtain ⟨hpixmap, hshows⟩ := importRequest?_eq_some told
    exact ⟨rfl, hids, by simp [hpixmap], fun station => by simp [hshows station]⟩

theorem Client.attach_imports {verdict : Request → Except Refusal Unit} {c c' : Client}
    {image image' : Image} {sent : List Request}
    (h : c.attach verdict image = (.ok image', sent, c')) :
    image' = { image with backendData := ⟨some (.pixmap c.session.ids.next)⟩ } ∧
    c' = { c with session := { c.session with ids := { c.session.ids with
      next := c.session.ids.next + c.session.ids.step } } } ∧
    sent.filterMap Request.pixmap? = [c.session.ids.next] ∧
    ∀ s : Station, sent.filterMap s.presentation? = [] := by
  unfold attach at h
  split at h
  · exact absurd (congrArg Prod.fst h) (by simp)
  split at h
  · exact absurd (congrArg Prod.fst h) (by simp)
  rcases himport : X11.importImage verdict c.session image with ⟨result, asks, session⟩
  rw [himport] at h
  simp only [Prod.mk.injEq] at h
  obtain ⟨rfl, rfl, rfl⟩ := h
  obtain ⟨rfl, rfl, hmakes, hshows⟩ := importImage_imports himport
  exact ⟨rfl, rfl, hmakes, hshows⟩

section

variable {verdict : Request → Except Refusal Unit} {mode : Mode} {s : Station} {outputs : Nat}
  {images : List Image}

theorem createOutput_paces (h : Fit mode s outputs images)
    (hmade : (s.createOutput ⟨outputs⟩).1 = true) :
    (∃ w : Window, w.info.mode = mode ∧
      (s.createOutput ⟨outputs⟩).2.client.registry = s.client.registry.insert ⟨outputs⟩ ⟨{}, w⟩) ∧
    (s.createOutput ⟨outputs⟩).2.shown = s.shown ∧
    Fit mode (s.createOutput ⟨outputs⟩).2 (outputs + 1) images := by
  obtain ⟨sent, w, hcreate, hwindow, hmode, hmsc, hmakes, hshows⟩ := Client.createOutput_opens hmade
  simp only [Station.createOutput, hcreate, hmakes, Station.advance, hshows]
  have hlater : s.client.session.ids.next
      < s.client.session.ids.next + s.client.session.ids.step + s.client.session.ids.step :=
    Nat.lt_add_right _ (Nat.lt_add_of_pos_right h.apart)
  refine ⟨⟨w, hmode.trans h.mode_eq, rfl⟩, List.append_nil _, ?_⟩
  exact {
    mode_eq := h.mode_eq
    sound := h.sound
    apart := h.apart
    windows := h.windows.add_next h.windows_old rfl
    windows_old := h.windows_old.add rfl hlater (Nat.lt_succ_self _)
    pixmaps := h.pixmaps
    pixmaps_old := h.pixmaps_old.mono (Nat.le_of_lt hlater) (Nat.le_refl _)
    imported := h.imported
    placed := by
      intro entry he
      rcases List.mem_append.mp he with hold | hself
      · have hplaced := h.placed entry hold
        exact ⟨List.mem_append_left _ hplaced.window, hplaced.ready, hplaced.inFlight⟩
      · obtain rfl := List.mem_singleton.mp hself
        refine ⟨?_, ?_, by simp⟩
        · rw [hwindow]
          exact List.mem_append_right _ (List.mem_singleton.mpr rfl)
        · show w.lastMsc.toNat + 1 < _
          rw [hmsc]
          decide }

theorem importImage_paces (h : Fit mode s outputs images) {image image' : Image} {s' : Station}
    (hnumber : image.id.number = images.length)
    (himport : s.importImage verdict image = (some image', s')) :
    Pacer.see Image.pixmap? image' = { image with backendData := Pacer.mark } ∧
    s'.client.registry = s.client.registry ∧ s'.shown = s.shown ∧
    Fit mode s' outputs (images ++ [image']) := by
  rcases hattach : s.client.attach verdict image with ⟨e | imported, sent, c⟩
  · exact absurd (congrArg Prod.fst himport) (by simp [Station.importImage, hattach])
  obtain ⟨rfl, rfl, hmakes, hshows⟩ := Client.attach_imports hattach
  simp only [Station.importImage, hattach, hmakes, Station.advance, hshows, Prod.mk.injEq,
    Option.some.injEq] at himport
  obtain ⟨rfl, rfl⟩ := himport
  have hlater : s.client.session.ids.next
      < s.client.session.ids.next + s.client.session.ids.step := Nat.lt_add_of_pos_right h.apart
  refine ⟨rfl, rfl, List.append_nil _, ?_⟩
  exact {
    mode_eq := h.mode_eq
    sound := h.sound
    apart := h.apart
    windows := h.windows
    windows_old := h.windows_old.mono (Nat.le_of_lt hlater) (Nat.le_refl _)
    pixmaps := h.pixmaps.add_next h.pixmaps_old hnumber
    pixmaps_old := h.pixmaps_old.add hnumber hlater (by simp)
    imported := by
      intro other hother pixmap hpixmap
      rcases List.mem_append.mp hother with hold | hself
      · exact List.mem_append_left _ (h.imported other hold pixmap hpixmap)
      · obtain rfl := List.mem_singleton.mp hself
        obtain rfl : s.client.session.ids.next = pixmap := by simpa [Image.pixmap?] using hpixmap
        exact List.mem_append_right _ (List.mem_singleton.mpr rfl)
    placed := h.placed }

/-- An image kept from the server has no pixmap. -/
theorem adopt_pixmap? (image : Image) :
    ({ image with backendData := (image.backendData.take .pixmap).2 } : Image).pixmap? = none := by
  cases hrest : ({ image with backendData := (image.backendData.take .pixmap).2 } : Image).pixmap? with
  | none => rfl
  | some pixmap =>
    have hvalue : (image.backendData.take .pixmap).2.value? = some (.pixmap pixmap) :=
      Image.pixmap?_eq_some.mp hrest
    exact (DataSlot.kind_ne_of_take hvalue rfl).elim

/-- The display on an X server paces. -/
theorem port_paces (verdict : Request → Except Refusal Unit) (mode : Mode) :
    (port verdict).Paces mode (Fit mode) where
  seen_id := fun _ => rfl
  adopt_seen := by
    intro image
    have hnone := adopt_pixmap? image
    simp only [port, Pacer.see, hnone]
    rfl
  adopt_fit := by
    intro s outputs images image h _
    refine { h with
      pixmaps_old := h.pixmaps_old.mono (Nat.le_refl _) (by simp)
      imported := fun other hother pixmap hpixmap => ?_ }
    rcases List.mem_append.mp hother with hold | hself
    · exact h.imported other hold pixmap hpixmap
    · rw [List.mem_singleton.mp hself] at hpixmap
      exact absurd ((adopt_pixmap? image).symm.trans hpixmap) (by simp)
  createOutput := createOutput_paces
  importImage := fun h hnumber himport => importImage_paces h hnumber himport
  scheduleFrame := scheduleFrame_paces
  happen := fun h hcan => Port.happen_follows hcan
    (fun hget refresh _ => complete_paces h hget refresh)
    (fun hget _ himage => release_paces h hget himage)
    (fun hget width height => resize_paces h hget width height)
    (fun hget => close_paces h hget) (destroy_follows h _)
  connectionClosed := by
    intro s
    have hseen := Registry.disconnect_seen (g := Pacer.see Image.pixmap?)
      (h := fun w : Window => w.info.mode) (r := s.client.registry) Client.teardown_ends
      Pacer.teardown_ends [] ()
    exact congrArg (fun r => ({ registry := r, shown := s.shown } : Pacer)) hseen
  deliver := by
    intro s outputs images h
    refine ⟨rfl, rfl, rfl, { h with placed := ?_ }⟩
    exact h.placed

end

end X11

end Scanout
