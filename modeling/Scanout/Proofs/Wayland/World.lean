import Scanout.Proofs.Directory
import Scanout.Proofs.Wayland.Remote

/-!
# A program, its display and a remote compositor

The program owns its images: it can schedule and give up only those it holds, and it
gets them back by taking events. The compositor may send any event at any time, and
releases each commit of a buffer at most once, at any time after it.

`Move` lists what a step of this world can do to the display, and `step_move` shows
that there is nothing else. From it come the facts that hold in every world
(`Inv`): above all that no image is in two places and that a buffer stands for one
image.
-/

namespace Scanout.Wayland

structure World where
  client : Client
  remote : Remote := {}
  /-- The images the program holds. -/
  hand : List Image := []
  /-- How many images were made. -/
  imagesMade : Nat := 0
  /-- How many outputs were asked for. -/
  outputsMade : Nat := 0
  deriving DecidableEq, Repr

/-- What can happen next. -/
inductive Step where
  | createOutput
  /-- An image like the given one is made, and imported into the display. -/
  | allocate (image : Image)
  /-- An image like the given one is made that the display knows nothing of. -/
  | adopt (image : Image)
  | deallocate (image : Image)
  | schedule (id : OutputId) (image : Image)
  | destroyOutput (id : OutputId)
  | takeEvents
  | loseConnection
  /-- Any event of the compositor. A release among them would belong to no commit, and
  is not sent. -/
  | event (e : Event)
  /-- The release that belongs to a commit. -/
  | release (commit : Commit)
  deriving DecidableEq, Repr

namespace World

/-- A program before a display that has not heard of any global yet. -/
def start (appId : String) (mode : Mode) : World :=
  { client := { appId := appId, mode := mode } }

def step (w : World) : Step → World
  | .createOutput =>
    let (_, sent, client) := w.client.createOutput ⟨w.outputsMade⟩
    { w with
      client := client
      remote := w.remote.receiveAll sent
      outputsMade := w.outputsMade + 1 }
  | .allocate image =>
    let (result, sent, client) := w.client.attach { image with id := ⟨w.imagesMade⟩ }
    { w with
      client := client
      remote := w.remote.receiveAll sent
      hand := w.hand ++ result.toOption.toList
      imagesMade := w.imagesMade + 1 }
  | .adopt image =>
    { w with
      hand := w.hand ++ [{ image with id := ⟨w.imagesMade⟩, backendData := .empty }]
      imagesMade := w.imagesMade + 1 }
  | .deallocate image =>
    if image ∈ w.hand then
      let (_, sent, client) := w.client.detach image
      { w with
        client := client
        remote := w.remote.receiveAll sent
        hand := w.hand.erase image }
    else w
  | .schedule id image =>
    if image ∈ w.hand then
      let (outcome, sent, client) := w.client.scheduleFrame id image
      { w with
        client := client
        remote := w.remote.receiveAll sent
        hand := w.hand.erase image ++ outcome.handedBack }
    else w
  | .destroyOutput id =>
    let (_, sent, client) := w.client.destroyOutput id
    { w with client := client, remote := w.remote.receiveAll sent }
  | .takeEvents =>
    let (events, registry) := w.client.registry.takeEvents
    { w with
      client := { w.client with registry := registry }
      hand := w.hand ++ returnedImages events }
  | .loseConnection =>
    let (sent, client) := w.client.connectionClosed
    { w with client := client, remote := w.remote.receiveAll sent }
  | .event (.release _) => w
  | .event e =>
    let (sent, client) := w.client.handle e
    { w with client := client, remote := w.remote.receiveAll sent }
  | .release commit =>
    if commit ∈ w.remote.inUse then
      { w with client := w.client.release commit.buffer, remote := w.remote.release commit }
    else w

def run (w : World) (steps : List Step) : World :=
  steps.foldl step w

/-- Every image of the program, in its hand or in the display's. -/
def images (w : World) : List Image :=
  w.hand ++ w.client.registry.images

/-- What is true in every world. -/
structure Inv (w : World) : Prop where
  settled : w.client.registry.Settled
  ids : w.client.registry.ids.Nodup
  opened : ∀ id ∈ w.client.registry.ids, id.number < w.outputsMade
  /-- No image is in two places. -/
  distinct : (w.images.map (·.id)).Nodup
  made : ∀ image ∈ w.images, image.id.number < w.imagesMade
  /-- The display finds the image of a buffer. -/
  known : ∀ image ∈ w.images, ∀ buffer, image.remoteBuffer? = some buffer →
    w.client.buffers.lookup buffer = some image.id
  /-- No image has two buffers. -/
  single : (w.client.buffers.map (·.2)).Nodup
  bounded : ∀ entry ∈ w.client.buffers,
    entry.1 < w.client.buffersMade ∧ entry.2.number < w.imagesMade
  /-- What is presented has a buffer. -/
  shown : ∀ entry ∈ w.client.registry.outputs, ∀ image ∈ entry.2.scheduler.presented,
    image.remoteBuffer?.isSome
  /-- Between two steps every attached buffer has been committed. -/
  idle : w.remote.attached = []
  numbered : ∀ commit ∈ w.remote.inUse, commit.number < w.remote.history.length

theorem Inv.registry_distinct {w : World} (h : w.Inv) :
    (w.client.registry.images.map (·.id)).Nodup :=
  ((List.sublist_append_right _ _).map _).nodup h.distinct

/-! ## What a step can do -/

/-- Everything a step can do to the display and to the hand of the program. -/
inductive Move (w : World) : Step → World → Prop where
  /-- Nothing happens to the outputs and the images. -/
  | still {step w'} (aside : w.client.Aside [] w'.client) (hand : w'.hand.Perm w.hand)
      (remote : w'.remote = w.remote) (images : w.imagesMade ≤ w'.imagesMade)
      (outputs : w.outputsMade ≤ w'.outputsMade) : Move w step w'
  | created {step w'} (details : Toplevel)
      (registry : w'.client.registry = w.client.registry.insert ⟨w.outputsMade⟩ ⟨{}, details⟩)
      (buffers : w'.client.buffers = w.client.buffers)
      (buffersMade : w'.client.buffersMade = w.client.buffersMade)
      (hand : w'.hand = w.hand) (remote : w'.remote = w.remote)
      (images : w'.imagesMade = w.imagesMade) (outputs : w'.outputsMade = w.outputsMade + 1) :
      Move w step w'
  /-- An image is made that the display knows nothing of. -/
  | adopted {step} (image : Image) (id : image.id = ⟨w.imagesMade⟩)
      (buffer : image.remoteBuffer? = none) :
      Move w step { w with hand := w.hand ++ [image], imagesMade := w.imagesMade + 1 }
  | imported {step} (image : Image) (id : image.id = ⟨w.imagesMade⟩)
      (buffer : image.remoteBuffer? = some w.client.buffersMade) :
      Move w step { w with
        client := { w.client with
          buffersMade := w.client.buffersMade + 1
          buffers := w.client.buffers ++ [(w.client.buffersMade, image.id)] }
        hand := w.hand ++ [image]
        imagesMade := w.imagesMade + 1 }
  /-- An image is gone, and its buffer with it. -/
  | discarded {step buffers} (image : Image) (held : image ∈ w.hand)
      (kept : ∀ buffer id, w.client.buffers.lookup buffer = some id → id ≠ image.id →
        buffers.lookup buffer = some id)
      (fewer : buffers.Sublist w.client.buffers) :
      Move w step { w with
        client := { w.client with buffers := buffers }
        hand := w.hand.erase image }
  /-- An output takes a turn, by the program or by an event. -/
  | turned {step w'} {id : OutputId} {o : Output Toplevel} {t : FrameScheduler.Turn}
      {sent : List Request}
      (acted : w.client.Acted id o t sent w'.client)
      (call : ∀ image, t.call ≠ .bufferReleased image) (going : t.call ≠ .destroy)
      (hand : (t.handedIn ++ w'.hand).Perm w.hand)
      (remote : w'.remote = w.remote.receiveAll sent) (images : w'.imagesMade = w.imagesMade)
      (outputs : w'.outputsMade = w.outputsMade) : Move w step w'
  /-- An output gives an image back because of the release of a commit. -/
  | returned {w'} {commit : Commit} {id : OutputId} {o : Output Toplevel} {image : Image}
      (used : commit ∈ w.remote.inUse)
      (found : w.client.buffers.lookup commit.buffer = some image.id)
      (presented : image ∈ o.scheduler.presented)
      (acted : w.client.Acted id o ⟨.bufferReleased image.id, [], [.released image]⟩ [] w'.client)
      (hand : w'.hand = w.hand) (remote : w'.remote = w.remote.release commit)
      (images : w'.imagesMade = w.imagesMade) (outputs : w'.outputsMade = w.outputsMade) :
      Move w (.release commit) w'
  /-- No output presents what was released. -/
  | dropped {commit : Commit} :
      Move w (.release commit) { w with remote := w.remote.release commit }
  | ended {step} (id : OutputId) : Move w step { w with client := (w.client.destroyOutput id).2.2 }
  | lost {step} : Move w step { w with client := w.client.connectionClosed.2 }
  | told : Move w .takeEvents { w with
      client := { w.client with registry := w.client.registry.takeEvents.2 }
      hand := w.hand ++ returnedImages w.client.registry.events }

theorem Inv.deallocate_move {w : World} (h : w.Inv) (image : Image) :
    w.Move (.deallocate image) (w.step (.deallocate image)) := by
  simp only [step]
  split
  · next hmem =>
    rcases Client.detach_cases w.client image with ⟨-, hdet⟩ | ⟨buffer, hbuffer, hdet⟩
    · rw [hdet]
      exact .discarded image hmem (fun _ _ h _ => h) (.refl _)
    · have hquiet : Quiet [.destroyBuffer buffer] := by
        intro request hr
        obtain rfl := List.mem_singleton.mp hr
        rfl
      simp only [hdet, Remote.receiveAll_quiet hquiet]
      refine .discarded image hmem (fun other id hother hne => ?_)
        List.filter_sublist
      rw [Directory.lookup_filter_ne, hother]
      rintro rfl
      -- the destroyed buffer was that of the image itself
      have hself := h.known image (by simp [images, hmem]) other hbuffer
      rw [hself] at hother
      exact hne (Option.some.inj hother).symm
  · exact .still (.refl _) (.refl _) rfl (Nat.le_refl _) (Nat.le_refl _)

theorem Inv.schedule_move {w : World} (h : w.Inv) (id : OutputId) (image : Image) :
    w.Move (.schedule id image) (w.step (.schedule id image)) := by
  simp only [step]
  split
  · next hmem =>
    cases hget : w.client.registry.get? id with
    | none =>
      rw [Client.scheduleFrame_unknown hget]
      refine .still (.refl _) ?_ rfl (Nat.le_refl _) (Nat.le_refl _)
      exact List.perm_append_comm.trans (List.perm_cons_erase hmem).symm
    | some o =>
      obtain ⟨t, hcall, hacted⟩ := Client.scheduleFrame_acted h.settled h.ids hget image
      have hhanded : (w.client.scheduleFrame id image).1.handedBack = [] := by
        simp only [Client.scheduleFrame, hget, ScheduleOutcome.handedBack]
      refine .turned hacted (by simp [hcall]) (by simp [hcall]) ?_ rfl rfl rfl
      simp only [hhanded, FrameScheduler.Turn.handedIn, hcall, List.append_nil, List.singleton_append]
      exact (List.perm_cons_erase hmem).symm
  · exact .still (.refl _) (.refl _) rfl (Nat.le_refl _) (Nat.le_refl _)

theorem Inv.createOutput_move {w : World} (h : w.Inv) :
    w.Move .createOutput (w.step .createOutput) := by
  simp only [step]
  unfold Client.createOutput
  split
  · exact .still (.refl _) (.refl _) rfl (Nat.le_refl _) (Nat.le_succ _)
  · split
    · next compositor wmBase _ _ =>
      refine .created _ rfl rfl rfl rfl ?_ rfl rfl
      -- nothing is attached yet when a surface is committed for the first time
      simp [Remote.receiveAll, Remote.receive, h.idle]
    · exact .still (.refl _) (.refl _) rfl (Nat.le_refl _) (Nat.le_succ _)

theorem Inv.event_move {w : World} (h : w.Inv) (e : Event) :
    w.Move (.event e) (w.step (.event e)) := by
  by_cases hrel : ∃ buffer, e = .release buffer
  · obtain ⟨buffer, rfl⟩ := hrel
    exact .still (.refl _) (.refl _) rfl (Nat.le_refl _) (Nat.le_refl _)
  · have hstep : w.step (.event e) = { w with
        client := (w.client.handle e).2
        remote := w.remote.receiveAll (w.client.handle e).1 } := by
      cases e with
      | release buffer => exact absurd ⟨buffer, rfl⟩ hrel
      | _ => rfl
    rw [hstep]
    rcases Client.handle_cases h.settled h.ids e (fun buffer he => hrel ⟨buffer, he⟩) with
      haside | ⟨id, o, t, hcall, hacted⟩ | ⟨id, hended⟩
    · rw [Remote.receiveAll_quiet haside.quiet]
      exact .still { haside with quiet := Quiet.nil } (.refl _) rfl (Nat.le_refl _) (Nat.le_refl _)
    · have hnothing : t.handedIn = [] := by
        rcases hcall with hcall | ⟨mode, rfl⟩
        · simp only [FrameScheduler.Turn.handedIn, hcall]
        · rfl
      refine .turned hacted ?_ ?_ (by rw [hnothing]; exact .refl _) rfl rfl rfl
      · rcases hcall with hcall | ⟨mode, rfl⟩ <;> simp [*]
      · rcases hcall with hcall | ⟨mode, rfl⟩ <;> simp [*]
    · rw [hended, Remote.receiveAll_quiet (Client.destroyOutput_aloof w.client id).quiet]
      exact .ended id

/-- Whatever happens next is one of the moves. -/
theorem Inv.step_move {w : World} (h : w.Inv) (step : Step) : w.Move step (w.step step) := by
  cases step with
  | createOutput => exact h.createOutput_move
  | allocate image =>
    rcases Client.attach_cases w.client { image with id := ⟨w.imagesMade⟩ } with
      ⟨e, hatt⟩ | ⟨sent, haloof, hatt⟩
    · simp only [World.step, hatt, Remote.receiveAll_quiet Quiet.nil]
      exact .still (.refl _) (.of_eq (List.append_nil _)) rfl (Nat.le_succ _) (Nat.le_refl _)
    · simp only [World.step, hatt, Remote.receiveAll_quiet haloof.quiet]
      exact .imported { image with
        id := ⟨w.imagesMade⟩
        backendData := ⟨some (.remoteBuffer w.client.buffersMade)⟩ } rfl rfl
  | adopt image => exact .adopted _ rfl rfl
  | deallocate image => exact h.deallocate_move image
  | schedule id image => exact h.schedule_move id image
  | destroyOutput id =>
    have hquiet := (Client.destroyOutput_aloof w.client id).quiet
    simp only [World.step, Remote.receiveAll_quiet hquiet]
    exact .ended id
  | takeEvents => exact .told
  | loseConnection =>
    have hquiet := (Client.connectionClosed_aloof w.client).quiet
    simp only [World.step, Remote.receiveAll_quiet hquiet]
    exact .lost
  | event e => exact h.event_move e
  | release commit =>
    simp only [World.step]
    split
    · next hused =>
      rcases Client.release_cases h.settled h.ids commit.buffer with
        ⟨hsame, -⟩ | ⟨id, o, image, hfound, hpresented, hacted⟩
      · rw [hsame]
        exact .dropped
      · exact .returned hused hfound hpresented hacted rfl rfl rfl rfl
    · exact .still (.refl _) (.refl _) rfl (Nat.le_refl _) (Nat.le_refl _)

/-! ## What every step keeps -/

/-- What a move makes of the list of outputs: it adds none, or one new output, or one of
them takes a turn. -/
theorem Move.outputs_cases {w w' : World} {step : Step} (h : w.Inv) (hm : w.Move step w') :
    (w'.client.registry.outputs.Sublist w.client.registry.outputs ∧
      w.outputsMade ≤ w'.outputsMade) ∨
    (∃ details, w'.client.registry = w.client.registry.insert ⟨w.outputsMade⟩ ⟨{}, details⟩ ∧
      w'.outputsMade = w.outputsMade + 1) ∨
    ∃ id o t sent, w.client.Acted id o t sent w'.client ∧ w'.outputsMade = w.outputsMade := by
  cases hm with
  | still aside _ _ _ outputs => exact .inl ⟨by rw [aside.registry_eq], outputs⟩
  | created details registry _ _ _ _ _ outputs =>
    exact .inr (.inl ⟨details, registry, outputs⟩)
  | adopted | imported | discarded | dropped | told => exact .inl ⟨.refl _, Nat.le_refl _⟩
  | turned acted _ _ _ _ _ outputs => exact .inr (.inr ⟨_, _, _, _, acted, outputs⟩)
  | returned _ _ _ acted _ _ _ outputs => exact .inr (.inr ⟨_, _, _, _, acted, outputs⟩)
  | ended id =>
    exact .inl ⟨Registry.destroy_outputs w.client.registry id Client.teardown [], Nat.le_refl _⟩
  | lost => exact .inl ⟨Registry.disconnect_outputs h.ids Client.teardown_ends [], Nat.le_refl _⟩

/-- A move loses no image but those given up, and gains at most one, which is new and
whose buffer is known. -/
theorem Move.images_perm {w w' : World} {step : Step} (h : w.Inv) (hm : w.Move step w') :
    ∃ gone gained, (w'.images ++ gone).Perm (w.images ++ gained) ∧
      w.imagesMade ≤ w'.imagesMade ∧
      (gained = [] ∨ ∃ image, gained = [image] ∧ image.id.number = w.imagesMade ∧
        w.imagesMade < w'.imagesMade ∧ ∀ buffer, image.remoteBuffer? = some buffer →
          w'.client.buffers.lookup buffer = some image.id) := by
  cases hm with
  | still aside hand _ images _ =>
    refine ⟨[], [], ?_, images, .inl rfl⟩
    simpa only [World.images, aside.registry_eq, List.append_nil] using hand.append_right _
  | created details registry _ _ hand _ images _ =>
    refine ⟨[], [], ?_, Nat.le_of_eq images.symm, .inl rfl⟩
    simp only [World.images, registry, hand, Registry.insert_images]
    exact .refl _
  | adopted image id buffer =>
    refine ⟨[], [image], ?_, Nat.le_succ _,
      .inr ⟨image, rfl, by rw [id], Nat.lt_succ_self _, by simp [buffer]⟩⟩
    simp only [World.images, List.append_nil, List.append_assoc]
    exact List.perm_append_comm.append_left _
  | imported image id buffer =>
    refine ⟨[], [image], ?_, Nat.le_succ _,
      .inr ⟨image, rfl, by rw [id], Nat.lt_succ_self _, fun b hb => ?_⟩⟩
    · simp only [World.images, List.append_nil, List.append_assoc]
      exact List.perm_append_comm.append_left _
    · obtain rfl : w.client.buffersMade = b := Option.some.inj (buffer.symm.trans hb)
      exact Directory.lookup_append_self (fun entry he => Nat.ne_of_lt (h.bounded entry he).1)
        image.id
  | discarded image held _ _ =>
    refine ⟨[image], [], ?_, Nat.le_refl _, .inl rfl⟩
    simp only [World.images, List.append_nil]
    refine (List.perm_append_singleton _ _).trans ?_
    exact (List.perm_cons_erase held).symm.append_right _
  | @turned _ _ id o t sent acted _ _ hand _ images _ =>
    obtain ⟨details, -, hturn⟩ := acted.turn
    refine ⟨t.lost, [], ?_, Nat.le_of_eq images.symm, .inl rfl⟩
    -- what the turn was handed comes out of the hand
    have hregistry := List.perm_iff_count.mp (hturn.images_perm h.settled)
    have hhand := List.perm_iff_count.mp hand
    rw [List.perm_iff_count]
    intro x
    have h1 := hregistry x
    have h2 := hhand x
    simp only [World.images, List.append_nil, List.count_append] at h1 h2 ⊢
    omega
  | returned _ _ _ acted hand _ images _ =>
    obtain ⟨details, -, hturn⟩ := acted.turn
    refine ⟨[], [], ?_, Nat.le_of_eq images.symm, .inl rfl⟩
    have hregistry := hturn.images_perm h.settled
    simp only [FrameScheduler.Turn.lost, FrameScheduler.Turn.handedIn, List.filterMap_nil,
      List.append_nil] at hregistry
    simpa only [World.images, hand, List.append_nil] using hregistry.append_left _
  | dropped => exact ⟨[], [], .refl _, Nat.le_refl _, .inl rfl⟩
  | ended id =>
    refine ⟨[], [], ?_, Nat.le_refl _, .inl rfl⟩
    simp only [World.images, List.append_nil]
    exact (Registry.destroy_images h.ids Client.teardown_ends id []).append_left _
  | lost =>
    refine ⟨[], [], ?_, Nat.le_refl _, .inl rfl⟩
    simp only [World.images, List.append_nil]
    exact (Registry.disconnect_images h.ids Client.teardown_ends []).append_left _
  | told =>
    refine ⟨[], [], ?_, Nat.le_refl _, .inl rfl⟩
    simp only [World.images, Registry.images, Registry.takeEvents, returnedImages_nil,
      List.append_nil, List.append_assoc]
    exact List.perm_append_comm.append_left _

theorem Move.distinct {w w' : World} {step : Step} (h : w.Inv) (hm : w.Move step w') :
    (w'.images.map (·.id)).Nodup := by
  obtain ⟨gone, gained, hperm, -, hnew⟩ := hm.images_perm h
  have hall : ((w.images ++ gained).map (·.id)).Nodup := by
    rcases hnew with rfl | ⟨image, rfl, hid, -⟩
    · simpa using h.distinct
    · refine nodup_map_append_new h.distinct fun other hother heq => ?_
      have hlt := h.made other hother
      -- the number of a new image is larger than all others
      rw [heq, hid] at hlt
      exact Nat.lt_irrefl _ hlt
  have hout := (hperm.map (·.id)).nodup_iff.mpr hall
  rw [List.map_append] at hout
  exact (List.sublist_append_left _ _).nodup hout

theorem Move.made {w w' : World} {step : Step} (h : w.Inv) (hm : w.Move step w') :
    ∀ image ∈ w'.images, image.id.number < w'.imagesMade := by
  obtain ⟨gone, gained, hperm, hle, hnew⟩ := hm.images_perm h
  intro image himage
  rcases List.mem_append.mp (hperm.mem_iff.mp (List.mem_append_left gone himage)) with hold | hg
  · exact Nat.lt_of_lt_of_le (h.made image hold) hle
  · rcases hnew with rfl | ⟨other, rfl, hid, hlt, -⟩
    · exact absurd hg List.not_mem_nil
    · obtain rfl := List.mem_singleton.mp hg
      rw [hid]
      exact hlt

/-- The outputs keep to their identifiers, and their events to the queue. -/
theorem Move.registry {w w' : World} {step : Step} (h : w.Inv) (hm : w.Move step w') :
    w'.client.registry.Settled ∧ w'.client.registry.ids.Nodup ∧
      ∀ id ∈ w'.client.registry.ids, id.number < w'.outputsMade := by
  rcases hm.outputs_cases h with
    ⟨hsub, hle⟩ | ⟨details, hregistry, hmade⟩ | ⟨id, o, t, sent, hacted, hmade⟩
  · refine ⟨fun entry he => h.settled entry (hsub.subset he), (hsub.map _).nodup h.ids, ?_⟩
    intro id hid
    exact Nat.lt_of_lt_of_le (h.opened id ((hsub.map _).subset hid)) hle
  · rw [hregistry, hmade]
    exact ⟨h.settled.insert _ details, Registry.insert_numbered h.ids h.opened _⟩
  · obtain ⟨details, -, hturn⟩ := hacted.turn
    refine ⟨hturn.settled h.settled, hturn.ids_eq ▸ h.ids, ?_⟩
    rw [hturn.ids_eq, hmade]
    exact h.opened

/-- An image is presented because its buffer was committed. -/
theorem Move.shown {w w' : World} {step : Step} (h : w.Inv) (hm : w.Move step w') :
    ∀ entry ∈ w'.client.registry.outputs, ∀ image ∈ entry.2.scheduler.presented,
      image.remoteBuffer?.isSome := by
  intro entry he image himage
  rcases hm.outputs_cases h with
    ⟨hsub, -⟩ | ⟨details, hregistry, -⟩ | ⟨id, o, t, sent, hacted, -⟩
  · exact h.shown entry (hsub.subset he) image himage
  · rw [hregistry] at he
    rcases List.mem_append.mp he with he | he
    · exact h.shown entry he image himage
    · obtain rfl := List.mem_singleton.mp he
      exact absurd himage List.not_mem_nil
  · obtain ⟨details, -, hturn⟩ := hacted.turn
    rcases hturn.mem_outputs he with ⟨-, -, f, heffect, hf⟩ | ⟨-, hold⟩
    · rw [hf] at himage
      rcases List.mem_append.mp (heffect.presented_sublist.subset himage) with hold | hnew
      · exact h.shown (id, o) (Registry.mem_of_get? hturn.get?) image hold
      · rcases hacted.received h.idle with ⟨hnone, -⟩ | ⟨other, buffer, hone, hbuffer, -⟩
        · rw [hnone] at hnew
          exact absurd hnew List.not_mem_nil
        · rw [hone] at hnew
          obtain rfl := List.mem_singleton.mp hnew
          simp [hbuffer]
    · exact h.shown entry hold image himage

/-- As long as an image is there, its buffer is known. -/
theorem Move.lookup_kept {w w' : World} {step : Step} (h : w.Inv) (hm : w.Move step w')
    {image : Image} (hstill : image ∈ w'.images) {buffer : Nat}
    (hbuffer : w.client.buffers.lookup buffer = some image.id) :
    w'.client.buffers.lookup buffer = some image.id := by
  cases hm with
  | still aside => rw [aside.buffers_eq, hbuffer]
  | created _ _ buffers => rw [buffers, hbuffer]
  | adopted | dropped | ended | lost | told => exact hbuffer
  | imported => exact Directory.lookup_append_of_some hbuffer
  | discarded other held kept _ =>
    refine kept buffer image.id hbuffer fun heq => ?_
    -- the discarded image is not there any more
    have hperm : w.images.Perm (other :: (w.hand.erase other ++ w.client.registry.images)) :=
      (List.perm_cons_erase held).append_right _
    have hnodup := (hperm.map (·.id)).nodup_iff.mp h.distinct
    exact (List.nodup_cons.mp hnodup).1 (List.mem_map.mpr ⟨image, hstill, heq⟩)
  | turned acted => rw [acted.rest]; exact hbuffer
  | returned _ _ _ acted => rw [acted.rest]; exact hbuffer

theorem Move.known {w w' : World} {step : Step} (h : w.Inv) (hm : w.Move step w') :
    ∀ image ∈ w'.images, ∀ buffer, image.remoteBuffer? = some buffer →
      w'.client.buffers.lookup buffer = some image.id := by
  obtain ⟨gone, gained, hperm, -, hnew⟩ := hm.images_perm h
  intro image himage buffer hbuffer
  rcases List.mem_append.mp (hperm.mem_iff.mp (List.mem_append_left gone himage)) with hold | hg
  · exact hm.lookup_kept h himage (h.known image hold buffer hbuffer)
  · rcases hnew with rfl | ⟨other, rfl, -, -, hknown⟩
    · exact absurd hg List.not_mem_nil
    · obtain rfl := List.mem_singleton.mp hg
      exact hknown buffer hbuffer

theorem Move.buffers {w w' : World} {step : Step} (h : w.Inv) (hm : w.Move step w') :
    (w'.client.buffers.map (·.2)).Nodup ∧ ∀ entry ∈ w'.client.buffers,
      entry.1 < w'.client.buffersMade ∧ entry.2.number < w'.imagesMade := by
  cases hm with
  | still aside _ _ images =>
    rw [aside.buffers_eq, aside.buffersMade_eq]
    exact ⟨h.single, fun entry he => (h.bounded entry he).imp_right (Nat.lt_of_lt_of_le · images)⟩
  | created _ _ buffers made _ _ images =>
    rw [buffers, made, images]
    exact ⟨h.single, h.bounded⟩
  | adopted =>
    exact ⟨h.single, fun entry he => (h.bounded entry he).imp_right Nat.lt_succ_of_lt⟩
  | dropped | ended | lost | told => exact ⟨h.single, h.bounded⟩
  | imported image id =>
    refine ⟨?_, fun entry he => ?_⟩
    · refine nodup_map_append_new h.single fun entry he heq => ?_
      have hlt := (h.bounded entry he).2
      rw [heq, id] at hlt
      exact Nat.lt_irrefl _ hlt
    · rcases List.mem_append.mp he with he | he
      · exact ⟨Nat.lt_succ_of_lt (h.bounded entry he).1, Nat.lt_succ_of_lt (h.bounded entry he).2⟩
      · obtain rfl := List.mem_singleton.mp he
        exact ⟨Nat.lt_succ_self _, by simp [id]⟩
  | discarded _ _ _ fewer =>
    exact ⟨(fewer.map _).nodup h.single, fun entry he => h.bounded entry (fewer.subset he)⟩
  | turned acted _ _ _ _ images =>
    rw [acted.rest, images]
    exact ⟨h.single, h.bounded⟩
  | returned _ _ _ acted _ _ images =>
    rw [acted.rest, images]
    exact ⟨h.single, h.bounded⟩

theorem Move.remote {w w' : World} {step : Step} (h : w.Inv) (hm : w.Move step w') :
    w'.remote.attached = [] ∧
      ∀ commit ∈ w'.remote.inUse, commit.number < w'.remote.history.length := by
  cases hm with
  | still _ _ remote => rw [remote]; exact ⟨h.idle, h.numbered⟩
  | created _ _ _ _ _ remote => rw [remote]; exact ⟨h.idle, h.numbered⟩
  | adopted | imported | discarded | ended | lost | told => exact ⟨h.idle, h.numbered⟩
  | turned acted _ _ _ remote =>
    rw [remote]
    rcases acted.received h.idle with ⟨-, hsame⟩ | ⟨image, buffer, -, -, hcommit⟩
    · rw [hsame]
      exact ⟨h.idle, h.numbered⟩
    · rw [hcommit]
      refine ⟨h.idle, fun commit hc => ?_⟩
      simp only [Remote.commit, List.length_append, List.length_singleton, List.mem_append,
        List.mem_singleton] at hc ⊢
      rcases hc with hc | rfl
      · exact Nat.lt_succ_of_lt (h.numbered commit hc)
      · exact Nat.lt_succ_self _
  | returned _ _ _ _ _ remote =>
    rw [remote]
    exact ⟨h.idle, fun commit hc => h.numbered commit (List.mem_of_mem_filter hc)⟩
  | dropped => exact ⟨h.idle, fun commit hc => h.numbered commit (List.mem_of_mem_filter hc)⟩

/-- An image has one buffer. -/
theorem Inv.buffer_unique {w : World} (h : w.Inv) {buffer other : Nat} {image : ImageId}
    (hbuffer : w.client.buffers.lookup buffer = some image)
    (hother : w.client.buffers.lookup other = some image) : buffer = other := by
  have hentry := List.inj_on_of_nodup_map h.single (Directory.mem_of_lookup hbuffer)
    (Directory.mem_of_lookup hother) rfl
  exact congrArg Prod.fst hentry

theorem start_inv (appId : String) (mode : Mode) : (start appId mode).Inv where
  settled := fun _ h => absurd h List.not_mem_nil
  ids := List.nodup_nil
  opened := fun _ h => absurd h List.not_mem_nil
  distinct := List.nodup_nil
  made := fun _ h => absurd h List.not_mem_nil
  known := fun _ h => absurd h List.not_mem_nil
  single := List.nodup_nil
  bounded := fun _ h => absurd h List.not_mem_nil
  shown := fun _ h => absurd h List.not_mem_nil
  idle := rfl
  numbered := fun _ h => absurd h List.not_mem_nil

theorem Inv.step_inv {w : World} (h : w.Inv) (step : Step) : (w.step step).Inv := by
  have hm := h.step_move step
  obtain ⟨hsettled, hids, hopened⟩ := hm.registry h
  obtain ⟨hsingle, hbounded⟩ := hm.buffers h
  obtain ⟨hidle, hnumbered⟩ := hm.remote h
  exact ⟨hsettled, hids, hopened, hm.distinct h, hm.made h, hm.known h, hsingle, hbounded,
    hm.shown h, hidle, hnumbered⟩

theorem Inv.run_inv {w : World} (h : w.Inv) (steps : List Step) : (w.run steps).Inv := by
  induction steps generalizing w with
  | nil => exact h
  | cons step rest ih => exact ih (h.step_inv step)

end World

end Scanout.Wayland
