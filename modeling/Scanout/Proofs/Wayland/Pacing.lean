import Scanout.Proofs.Display.Kinds
import Scanout.Proofs.Wayland.Station

/-!
# Pacing on a Wayland compositor

Every call of a display's own compositor and every incident at the remote one is seen as that of
the pacer, so a display on a Wayland compositor paces (`port_paces`).
-/

namespace Scanout

namespace Wayland

/-! ## The calls -/

section

variable {mode : Mode} {s : Station} {outputs : Nat} {images : List Image}

/-- The output that a canvas was made for is put back. -/
theorem putBack_registry {id : OutputId} {f' : FrameScheduler} {used : Canvas}
    (hid : used.id = id) :
    port.registry (s.advance used.sent (s.client.putBack f' used))
      = (s.client.registry.set id ⟨f', used.toplevel⟩).collect := by
  rw [← hid]
  rfl

theorem scheduleFrame_paces {image : Image} (id : OutputId)
    (h : port.Ready (Fit mode) s outputs images [image]) :
    (s.scheduleFrame id image).1.handedBack ++ (s.scheduleFrame id image).1.taken image = [image] ∧
    (Pacer.scheduleFrame id (Pacer.see Image.remoteBuffer? image) (port.watched s)).1
      = (s.scheduleFrame id image).1.seen (Pacer.see Image.remoteBuffer?) ∧
    port.Follows (Fit mode) s outputs images ((s.scheduleFrame id image).1.taken image)
      (Pacer.scheduleFrame id (Pacer.see Image.remoteBuffer? image) (port.watched s)).2
      (s.scheduleFrame id image).2 := by
  cases hget : s.client.registry.get? id with
  | none =>
    have hstep : s.scheduleFrame id image = (.unknownOutput image, s) := by
      simp only [Station.scheduleFrame, Client.scheduleFrame, hget]
      rw [Station.advance_quiet Quiet.nil rfl]
    have hpaced : Pacer.scheduleFrame id (Pacer.see Image.remoteBuffer? image) (port.watched s)
        = (.unknownOutput (Pacer.see Image.remoteBuffer? image), port.watched s) := by
      simp only [Pacer.scheduleFrame, Port.get?_watched_none (P := port) hget]
    rw [hstep, hpaced]
    exact ⟨rfl, rfl, .still, rfl, h.fit⟩
  | some o =>
    have ho := h.fit.placed_of_get? hget
    obtain ⟨submission, f', shown, hcall, hseen, -, hshows, harmed⟩ :=
      o.scheduler.schedule_seen (g := Pacer.see Image.remoteBuffer?) Canvas.surface_decides
        (s := s.client.canvas id o.details) trivial image
    have hmade : ∀ other ∈ [image], other ∈ images :=
      fun other hother => h.made other (List.mem_append_right _ hother)
    have hblank : Blank s id o (s.client.canvas id o.details) :=
      ⟨rfl, rfl, rfl, rfl, fun _ he => he, fun _ _ _ hwaits => hwaits⟩
    obtain ⟨used, hafter, hid, hinfo, hshown, hfit⟩ := h.fit.shown ho hshows hmade hblank
      fun hf => (harmed hf).imp_left fun hbusy => ⟨hbusy, rfl⟩
    have hstep : s.client.scheduleFrame id image
        = (.submitted submission, used.sent, s.client.putBack f' used) := by
      simp only [Client.scheduleFrame, hget, hcall, hafter]
    have hmove := Client.scheduleFrame_move h.tidy id image
    have hpaced := Port.scheduleFrame_watched (putBack_registry hid) hshown (fun _ => rfl) hget
      hseen (congrArg OutputInfo.mode hinfo)
    rw [hstep] at hmove
    simp only [Station.scheduleFrame, hstep]
    exact ⟨rfl, congrArg Prod.fst hpaced, hmove, congrArg Prod.snd hpaced, hfit⟩

/-! ## The events -/

/-- The compositor tells of an incident by an event about the surface. -/
theorem happen_eq (h : port.Ready (Fit mode) s outputs images []) {id : OutputId}
    {o : Output Toplevel} (hget : s.client.registry.get? id = some o) {incident : Incident}
    {e : Event} (he : s.event? o.details.object incident = some e) :
    s.happen id incident = s.advance (s.client.handle e).1 (s.client.handle e).2 := by
  have hsurface := h.fit.surfaces.number? (h.fit.placed_of_get? hget).surface
  have hlives : incident ≠ .destroy := by
    rintro rfl
    exact absurd he (by simp [Station.event?])
  simp only [Station.happen, if_neg hlives, hsurface, Option.bind_some, he]

/-- A surface belongs to the output it was made for. -/
theorem outputOf?_eq (h : port.Ready (Fit mode) s outputs images []) {id : OutputId}
    {o : Output Toplevel} (hget : s.client.registry.get? id = some o) :
    s.client.outputOf? o.details.object = some (id, o) := by
  refine Registry.find?_of_unique h.tidy.ids hget (beq_self_eq_true _) fun entry he hobject => ?_
  have hplaced := (h.fit.placed entry he).surface
  rw [eq_of_beq hobject] at hplaced
  exact h.fit.surfaces.thing_eq hplaced (h.fit.placed_of_get? hget).surface

theorem complete_paces (h : port.Ready (Fit mode) s outputs images []) {id : OutputId}
    {o : Output Toplevel} (hget : s.client.registry.get? id = some o) (refresh : Refresh)
    (hbusy : o.scheduler.armed = true) :
    port.Follows (Fit mode) s outputs images []
      (Pacer.happen id (.complete refresh) (port.watched s)) (s.happen id (.complete refresh)) := by
  have ho := h.fit.placed_of_get? hget
  obtain ⟨callback, hlast, hwaits⟩ := ho.frame hbusy
  let canvas : Canvas := {
    id := id
    toplevel := { o.details with frameCallback := none }
    callbacks := { s.client.callbacks with
      unanswered := s.client.callbacks.unanswered.filter (·.1 ≠ callback) } }
  have hblank : Blank s id o canvas := by
    refine ⟨rfl, rfl, rfl, rfl, fun entry he => List.mem_of_mem_filter he,
      fun callback' id' hne hwaits' => ?_⟩
    have hother : callback' ≠ callback := by
      rintro rfl
      exact hne (Option.some.inj (hwaits'.symm.trans hwaits))
    exact (Directory.lookup_filter_ne hother).trans hwaits'
  obtain ⟨f', shown, hcall, hseen, hshows, harmed⟩ :=
    o.scheduler.frameDone_seen (g := Pacer.see Image.remoteBuffer?) Canvas.surface_decides
      (s := canvas) trivial
  obtain ⟨used, hafter, hid, hinfo, hshown, hfit⟩ := h.fit.shown ho hshows
    (fun image himage => h.kept_made hget image (List.mem_append_right _ himage)) hblank
    fun hf => .inr (harmed hf)
  have hevent : s.event? o.details.object (.complete refresh) = some (.done callback) := by
    simp only [Station.event?, hlast, Option.map_some]
  have hhandle : s.client.handle (.done callback) = (used.sent, s.client.putBack f' used) := by
    have hdone : o.scheduler.frameDone Canvas.surface canvas = (none, f', used) := by
      rw [hcall, hafter]
    simp only [Client.handle, Client.done, hwaits, hget]
    show ((o.scheduler.frameDone Canvas.surface canvas).2.2.sent,
      s.client.putBack (o.scheduler.frameDone Canvas.surface canvas).2.1
        (o.scheduler.frameDone Canvas.surface canvas).2.2) = _
    rw [hdone]
  have hmove := Client.handle_move h.tidy (.done callback)
  rw [hhandle] at hmove
  rw [happen_eq h hget hevent, hhandle]
  exact ⟨hmove, Port.complete_watched (putBack_registry hid) hshown (fun _ => rfl) hget hseen
    (congrArg OutputInfo.mode hinfo) refresh, hfit⟩

/-- Another output stands under the identifier, and nothing was sent. -/
theorem follows_of_replaced (h : port.Ready (Fit mode) s outputs images []) {id : OutputId}
    {o' : Output Toplevel} {paced : Pacer}
    (hmove : s.client.registry.Move [] (s.client.registry.set id o').collect)
    (hself : Placed s.surfaces s.frames s.client.callbacks id o')
    (hpaced : ∀ s', port.registry s' = (s.client.registry.set id o').collect →
      port.shown s' = s.shown → paced = port.watched s') :
    port.Follows (Fit mode) s outputs images [] paced (s.advance []
      { s.client with registry := (s.client.registry.set id o').collect }) := by
  rw [Station.advance_quiet Quiet.nil rfl]
  exact ⟨hmove, hpaced _ rfl rfl, { h.fit with
    placed := Registry.forall_set_collect (Placed s.surfaces s.frames s.client.callbacks)
      Placed.drained hself fun entry he _ => h.fit.placed entry he }⟩

theorem release_paces (h : port.Ready (Fit mode) s outputs images []) {id : OutputId}
    {o : Output Toplevel} (hget : s.client.registry.get? id = some o) {image : Image}
    (himage : image ∈ o.scheduler.presented) :
    port.Follows (Fit mode) s outputs images []
      (Pacer.happen id (.release image.id) (port.watched s)) (s.happen id (.release image.id)) := by
  have ho := h.fit.placed_of_get? hget
  obtain ⟨buffer, hbuffer⟩ := ho.imported image himage
  have hmade := h.kept_made hget image (List.mem_append_left _ himage)
  have hknown := h.fit.imported image hmade buffer hbuffer
  have hdistinct : (s.client.registry.images.map (·.id)).Nodup := by
    have hall := h.distinct
    rwa [List.append_nil] at hall
  have hself : Placed s.surfaces s.frames s.client.callbacks id
      ⟨(o.scheduler.bufferReleased image.id).2, o.details⟩ := by
    refine ⟨ho.surface, fun hf => ho.frame ?_, fun other hother => ho.imported other ?_⟩
    · rwa [FrameScheduler.bufferReleased_armed] at hf
    · exact (FrameScheduler.bufferReleased_mem (h.output_distinct hget) hother).1
  have hevent : s.event? o.details.object (.release image.id) = some (.release buffer) := by
    simp only [Station.event?, h.fit.buffers.number? hknown, Option.map_some]
  have hreleased : (s.client.registry.bufferReleased image.id).2
      = (s.client.registry.set id
          ⟨(o.scheduler.bufferReleased image.id).2, o.details⟩).collect :=
    Registry.bufferReleased_eq h.tidy.ids hdistinct hget himage
  have hhandle : s.client.handle (.release buffer)
      = ([], { s.client with registry := (s.client.registry.set id
          ⟨(o.scheduler.bufferReleased image.id).2, o.details⟩).collect }) := by
    simp only [Client.handle, Client.release, h.fit.buffers_eq, h.fit.buffers.lookup hknown,
      hreleased]
  have hmove := Client.handle_move h.tidy (.release buffer)
  rw [hhandle] at hmove
  rw [happen_eq h hget hevent, hhandle]
  exact follows_of_replaced h hmove hself fun s' hregistry hshown =>
    Port.release_watched (fun _ => rfl) hget hshown hregistry rfl

/-- Nothing happens where the toplevel has that size, or it is no size. -/
theorem resize_paces (h : port.Ready (Fit mode) s outputs images []) {id : OutputId}
    {o : Output Toplevel} (hget : s.client.registry.get? id = some o) (width height : UInt16) :
    port.Follows (Fit mode) s outputs images []
      (Pacer.happen id (.resize width height) (port.watched s))
      (s.happen id (.resize width height)) := by
  have ho := h.fit.placed_of_get? hget
  have hwatched := Port.get?_watched (P := port) hget
  have hmove := Client.handle_move h.tidy (.toplevelConfigure o.details.object
    width.toUInt32.toInt32 height.toUInt32.toInt32)
  rw [happen_eq h hget rfl]
  simp only [Client.handle] at hmove ⊢
  cases hsize : Mode.ofConfigure? width.toUInt32.toInt32 height.toUInt32.toInt32 with
  | none =>
    have hhandle : s.client.configure o.details.object width.toUInt32.toInt32
        height.toUInt32.toInt32 = s.client := by
      simp only [Client.configure, hsize]
    rw [hhandle, Station.advance_quiet Quiet.nil rfl]
    exact ⟨.still, by simp only [Pacer.happen, hwatched, Pacer.undergo, hsize], h.fit⟩
  | some size =>
    by_cases hsame : o.details.info.mode = size
    · have hhandle : s.client.configure o.details.object width.toUInt32.toInt32
          height.toUInt32.toInt32 = s.client := by
        simp only [Client.configure, hsize, outputOf?_eq h hget, if_pos hsame]
      have hseen : (o.seen port.seen port.mode).details = size := hsame
      rw [hhandle, Station.advance_quiet Quiet.nil rfl]
      exact ⟨.still, by simp only [Pacer.happen, hwatched, Pacer.undergo, hsize, if_pos hseen],
        h.fit⟩
    · have hhandle : s.client.configure o.details.object width.toUInt32.toInt32
            height.toUInt32.toInt32
          = { s.client with registry := (s.client.registry.set id
              ⟨o.scheduler.modeChanged size,
                { o.details with info := { o.details.info with mode := size } }⟩).collect } := by
        simp only [Client.configure, hsize, outputOf?_eq h hget, if_neg hsame]
      rw [hhandle] at hmove ⊢
      exact follows_of_replaced h hmove ⟨ho.surface, ho.frame, ho.imported⟩
        fun s' hregistry hshown =>
          Port.resize_watched (fun _ => rfl) hget hshown hsize hsame hregistry rfl

theorem Aloof.frames_eq {sent : List Request} (h : Aloof sent) :
    sent.filterMap Request.frame? = [] := by
  rw [List.filterMap_eq_nil_iff]
  intro request hr
  have haloof := h request hr
  cases request <;> first | rfl | exact absurd haloof (by simp [Request.aloof])

theorem destroy_follows (h : port.Ready (Fit mode) s outputs images []) (id : OutputId) :
    port.Follows (Fit mode) s outputs images [] ((port.watched s).destroy id)
      (s.advance (s.client.destroyOutput id).2.1 (s.client.destroyOutput id).2.2) := by
  have haloof := Client.destroyOutput_aloof s.client id
  rw [Station.advance_quiet haloof.quiet haloof.frames_eq]
  refine ⟨.ended id Client.teardown_ends [], ?_, { h.fit with placed := fun entry he => ?_ }⟩
  · have hseen := Registry.destroy_seen (g := Pacer.see Image.remoteBuffer?)
      (h := fun t : Toplevel => t.info.mode) (r := s.client.registry) Client.teardown_ends
      Pacer.teardown_ends id [] ()
    exact congrArg (fun r => ({ registry := r, shown := s.shown } : Pacer)) hseen.symm
  · exact h.fit.placed entry
      ((Registry.destroy_outputs s.client.registry id Client.teardown []).subset he)

theorem close_paces (h : port.Ready (Fit mode) s outputs images []) {id : OutputId}
    {o : Output Toplevel} (hget : s.client.registry.get? id = some o) :
    port.Follows (Fit mode) s outputs images [] ((port.watched s).destroy id)
      (s.happen id .close) := by
  have hhandle : s.client.handle (.toplevelClose o.details.object)
      = ((s.client.destroyOutput id).2.1, (s.client.destroyOutput id).2.2) := by
    simp only [Client.handle, Client.close, outputOf?_eq h hget]
  rw [happen_eq h hget rfl, hhandle]
  exact destroy_follows h id

end

/-! ## New outputs and new images -/

/-- A new output has objects of its own. -/
theorem Client.createOutput_opens {c : Client} {id : OutputId}
    (hmade : (c.createOutput id).1.isOk = true) :
    ∃ sent t, c.createOutput id = (.ok id, sent,
        { c with created := c.created + 1, registry := c.registry.insert id ⟨{}, t⟩ }) ∧
      t.object = c.created ∧ t.info.mode = c.mode ∧
      sent.filterMap Request.surface? = [c.created] ∧ sent.filterMap Request.frame? = [] ∧
      ∀ r : Remote, r.attached = [] → r.receiveAll sent = r := by
  unfold createOutput at hmade ⊢
  split at hmade
  · exact absurd hmade (by simp [Except.isOk, Except.toBool])
  · next hlive =>
    rw [if_neg hlive]
    split at hmade
    · -- the first commit of a surface shows nothing
      refine ⟨_, _, rfl, rfl, rfl, rfl, rfl, fun r hr => ?_⟩
      simp [Remote.receiveAll, Remote.receive, hr]
    · exact absurd hmade (by simp [Except.isOk, Except.toBool])

/-- Of the requests that make a buffer, one is about the buffer itself. -/
theorem Client.importRequests_buffers (dmabuf buffer : Nat) (d : Dmabuf) :
    (importRequests dmabuf buffer d).filterMap Request.buffer? = [buffer] := by
  have hplanes : (d.planes.map fun p => Request.addPlane buffer p.file p.index p.offset p.stride
      d.modifier.split.1 d.modifier.split.2).filterMap Request.buffer? = [] := by
    rw [List.filterMap_map, List.filterMap_eq_nil_iff]
    exact fun _ _ => rfl
  unfold importRequests
  rw [List.filterMap_append, List.filterMap_cons_none rfl, hplanes]
  rfl

/-- An imported image has a buffer of its own. -/
theorem Client.attach_imports {c c' : Client} {image image' : Image} {sent : List Request}
    (h : c.attach image = (.ok image', sent, c')) :
    image' = { image with backendData := ⟨some (.remoteBuffer c.buffersMade)⟩ } ∧
    c' = { c with
      buffersMade := c.buffersMade + 1
      buffers := c.buffers ++ [(c.buffersMade, image.id)] } ∧
    sent.filterMap Request.buffer? = [c.buffersMade] ∧ Aloof sent := by
  unfold attach at h
  split at h
  · exact absurd (congrArg Prod.fst h) (by simp)
  split at h
  · exact absurd (congrArg Prod.fst h) (by simp)
  split at h
  · exact absurd (congrArg Prod.fst h) (by simp)
  next dmabuf _ =>
    simp only [Prod.mk.injEq, Except.ok.injEq] at h
    obtain ⟨rfl, rfl, rfl⟩ := h
    exact ⟨rfl, rfl, importRequests_buffers _ _ _, importRequests_aloof _ _ _⟩

section

variable {mode : Mode} {s : Station} {outputs : Nat} {images : List Image}

theorem createOutput_paces (h : Fit mode s outputs images)
    (hmade : (s.createOutput ⟨outputs⟩).1 = true) :
    (∃ t : Toplevel, t.info.mode = mode ∧
      (s.createOutput ⟨outputs⟩).2.client.registry = s.client.registry.insert ⟨outputs⟩ ⟨{}, t⟩) ∧
    (s.createOutput ⟨outputs⟩).2.shown = s.shown ∧
    Fit mode (s.createOutput ⟨outputs⟩).2 (outputs + 1) images := by
  obtain ⟨sent, t, hcreate, hobject, hmode, hmakes, hframes, hshows⟩ :=
    Client.createOutput_opens hmade
  simp only [Station.createOutput, hcreate, hmakes, Station.advance, hshows s.remote h.idle,
    hframes, List.drop_length, List.map_nil, List.append_nil, List.reverse_nil, List.nil_append]
  refine ⟨⟨t, hmode.trans h.mode_eq, rfl⟩, trivial, ?_⟩
  exact { h with
    surfaces := h.surfaces.add_next h.surfaces_old rfl
    surfaces_old := h.surfaces_old.add rfl (Nat.lt_succ_self _) (Nat.lt_succ_self _)
    placed := by
      intro entry he
      rcases List.mem_append.mp he with hold | hself
      · have hplaced := h.placed entry hold
        exact ⟨List.mem_append_left _ hplaced.surface, hplaced.frame, hplaced.imported⟩
      · obtain rfl := List.mem_singleton.mp hself
        refine ⟨?_, fun hbusy => absurd hbusy (by simp), by simp⟩
        rw [hobject]
        exact List.mem_append_right _ (List.mem_singleton.mpr rfl) }

theorem importImage_paces (h : Fit mode s outputs images) {image image' : Image} {s' : Station}
    (hnumber : image.id.number = images.length)
    (himport : s.importImage image = (some image', s')) :
    Pacer.see Image.remoteBuffer? image' = { image with backendData := Pacer.mark } ∧
    s'.client.registry = s.client.registry ∧ s'.shown = s.shown ∧
    Fit mode s' outputs (images ++ [image']) := by
  rcases hattach : s.client.attach image with ⟨e | imported, sent, c⟩
  · exact absurd (congrArg Prod.fst himport) (by simp [Station.importImage, hattach])
  obtain ⟨rfl, rfl, hmakes, haloof⟩ := Client.attach_imports hattach
  simp only [Station.importImage, hattach, hmakes, Station.advance_quiet haloof.quiet haloof.frames_eq,
    Prod.mk.injEq, Option.some.injEq] at himport
  obtain ⟨rfl, rfl⟩ := himport
  refine ⟨rfl, rfl, rfl, ?_⟩
  exact { h with
    buffers := h.buffers.add_next h.buffers_old hnumber
    buffers_eq := by simp only [h.buffers_eq, List.map_cons, List.map_nil]
    buffers_old := h.buffers_old.add hnumber (Nat.lt_succ_self _) (by simp)
    imported := by
      intro other hother buffer hbuffer
      rcases List.mem_append.mp hother with hold | hself
      · exact List.mem_append_left _ (h.imported other hold buffer hbuffer)
      · obtain rfl := List.mem_singleton.mp hself
        obtain rfl : s.client.buffersMade = buffer := by simpa [Image.remoteBuffer?] using hbuffer
        exact List.mem_append_right _ (List.mem_singleton.mpr rfl) }

/-- An image kept from the compositor has no buffer. -/
theorem adopt_remoteBuffer? (image : Image) :
    ({ image with backendData := (image.backendData.take .remoteBuffer).2 } : Image).remoteBuffer?
      = none := by
  cases hrest : ({ image with
      backendData := (image.backendData.take .remoteBuffer).2 } : Image).remoteBuffer? with
  | none => rfl
  | some buffer =>
    have hvalue : (image.backendData.take .remoteBuffer).2.value? = some (.remoteBuffer buffer) :=
      Image.remoteBuffer?_eq_some.mp hrest
    exact (DataSlot.kind_ne_of_take hvalue rfl).elim

/-- The display on a Wayland compositor paces. -/
theorem port_paces (mode : Mode) : port.Paces mode (Fit mode) where
  seen_id := fun _ => rfl
  adopt_seen := by
    intro image
    have hnone := adopt_remoteBuffer? image
    simp only [port, Pacer.see, hnone]
    rfl
  adopt_fit := by
    intro s outputs images image h _
    refine { h with
      buffers_old := h.buffers_old.mono (Nat.le_refl _) (by simp)
      imported := fun other hother buffer hbuffer => ?_ }
    rcases List.mem_append.mp hother with hold | hself
    · exact h.imported other hold buffer hbuffer
    · rw [List.mem_singleton.mp hself] at hbuffer
      exact absurd ((adopt_remoteBuffer? image).symm.trans hbuffer) (by simp)
  createOutput := createOutput_paces
  importImage := fun h hnumber himport => importImage_paces h hnumber himport
  scheduleFrame := scheduleFrame_paces
  happen := fun h hcan => Port.happen_follows hcan
    (fun hget refresh hbusy => complete_paces h hget refresh hbusy)
    (fun hget _ himage => release_paces h hget himage)
    (fun hget width height => resize_paces h hget width height)
    (fun hget => close_paces h hget) (destroy_follows h _)
  connectionClosed := by
    intro s
    have hseen := Registry.disconnect_seen (g := Pacer.see Image.remoteBuffer?)
      (h := fun t : Toplevel => t.info.mode) (r := s.client.registry) Client.teardown_ends
      Pacer.teardown_ends [] ()
    exact congrArg (fun r => ({ registry := r, shown := s.shown } : Pacer)) hseen
  deliver := by
    intro s outputs images h
    exact ⟨rfl, rfl, rfl, { h with placed := h.placed }⟩

end

end Wayland

end Scanout
