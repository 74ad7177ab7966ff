import Scanout.Proofs.Display.Apart
import Scanout.Proofs.Wayland.Callbacks
import Scanout.Proofs.X11.InFlight

/-!
# Outputs that do not disturb each other

On an X server an event names a window, and the display takes the first output with that window. On
a Wayland compositor some events name a surface; the answer to a callback goes to the output it was
asked for, and the release of a buffer to the first output that presents its image. Each of these
searches could find the wrong output. It does not, because no two outputs ever have the same window
or surface, every callback is kept by the output it was asked for, and no image is in two places: so
the outputs of both displays are `Apart` (`outputs_kept_apart`).
-/

namespace Scanout

/-- Replacing an output and collecting its events is no matter of the others. -/
theorem Registry.Settled.set_collect_beside {δ : Type} {r : Registry δ} (hr : r.Settled)
    (id : OutputId) (o : Output δ) : (r.set id o).collect.AgreesBeside id r := by
  have hboth := (AgreesBeside.set_left r id o).collect
  rwa [hr.collect_eq] at hboth

/-- What is left of a scheduler that gave an image back. -/
theorem FrameScheduler.Effect.returned_eq {f f' : FrameScheduler} {image : Image}
    (h : f.Effect ⟨.bufferReleased image.id, [], [.released image]⟩ f') :
    f' = { f with
      presented := f.presented.erase image
      events := f.events ++ [.released image] } := by
  generalize ht : (⟨.bufferReleased image.id, [], [.released image]⟩ : Turn) = t at h
  cases h with
  | returned other before after split first =>
    obtain rfl : image = other := by simpa using congrArg Turn.queued ht
    have hmiss : image ∉ before := fun hmem => first image hmem rfl
    rw [split, List.erase_append_right _ hmiss, List.erase_cons_head]
  | unknown => exact absurd (congrArg Turn.queued ht) (by simp)
  | _ => exact absurd (congrArg Turn.call ht) (by simp)

section

variable {δ : Type} {r : Registry δ} (hr : r.Tidy) (hd : (r.images.map (·.id)).Nodup)

include hr hd

/-- A release reaches the output that presents the image. -/
theorem Registry.bufferReleased_reaches {id : OutputId} {o : Output δ} (ho : (id, o) ∈ r.outputs)
    {image : Image} (himage : image ∈ o.scheduler.presented) :
    r.Turned id o ⟨.bufferReleased image.id, [], [.released image]⟩ o.details
      (r.bufferReleased image.id).2 := by
  rcases hr.settled.bufferReleased hr.ids image.id with
    ⟨hnone, -⟩ | ⟨id', o', shown, hshown, hid, hturn⟩
  · exact absurd rfl (hnone _ ho image himage)
  · obtain ⟨hentry, rfl⟩ :=
      presented_unique hd (mem_of_get? hturn.get?) ho hshown himage hid
    obtain ⟨rfl, rfl⟩ := Prod.mk.inj hentry
    exact hturn

omit hd in
/-- A release that no output waits for has no effect. -/
theorem Registry.bufferReleased_unclaimed (image : ImageId)
    (hnone : ∀ entry ∈ r.outputs, ∀ shown ∈ entry.2.scheduler.presented, shown.id ≠ image) :
    (r.bufferReleased image).2 = r := by
  rcases hr.settled.bufferReleased hr.ids image with ⟨-, hsame⟩ | ⟨id, o, shown, hshown, hid, hturn⟩
  · exact hsame
  · exact absurd hid (hnone _ (mem_of_get? hturn.get?) shown hshown)

end

namespace X11

/-- The window an event is about. -/
def Event.window? : Event → Option ResourceId
  | complete window .. | idle window _ | configure window .. | message window .. => some window
  | error _ | unhandled => none

/-- A happening is about the output of the window it names. -/
def Touches (_ : Client) : Happening → OutputId × Output Window → Prop
  | .event e, entry => e.window? = some entry.2.details.window
  | .attach .., _ | .connection _, _ => False

namespace Client

variable {c : Client} (hr : c.registry.Tidy)

include hr

theorem scheduleFrame_beside (id : OutputId) (image : Image) :
    (c.scheduleFrame id image).2.2.registry.AgreesBeside id c.registry := by
  cases hget : c.registry.get? id with
  | none =>
    rw [scheduleFrame_unknown hget]
    exact .refl id c.registry
  | some o =>
    obtain ⟨t, -, ⟨⟨d, d', -, -, hturn⟩, -⟩, -, -, -⟩ := scheduleFrame_acted hr hget image
    exact .turned_left hturn

/-- An event about the window of an output is no matter of the others. -/
theorem handle_beside {e : Event} {window : ResourceId} (he : e.window? = some window)
    {id : OutputId} {o : Output Window} (hout : c.outputOf? window = some (id, o)) :
    (c.handle e).2.2.registry.AgreesBeside id c.registry := by
  have hstill : c.settled.2.2.registry.AgreesBeside id c.registry := by
    rw [settled_eq hr]
    exact .refl id c.registry
  cases e with
  | complete w kind msc =>
    obtain rfl : w = window := Option.some.inj he
    simp only [handle, complete, hout]
    split
    · split
      · exact .set_left c.registry id _
      · exact hr.settled.set_collect_beside id _
    · exact .refl id c.registry
  | idle w pixmap =>
    obtain rfl : w = window := Option.some.inj he
    simp only [handle, idle, hout]
    split
    · exact hstill
    · exact hr.settled.set_collect_beside id _
  | configure w width height =>
    obtain rfl : w = window := Option.some.inj he
    simp only [handle, configure, hout]
    split
    · exact .refl id c.registry
    · split
      · exact hstill
      · exact hr.settled.set_collect_beside id _
  | message w format data =>
    obtain rfl : w = window := Option.some.inj he
    simp only [handle, close, hout]
    split
    · show (c.registry.destroy id teardown []).2.1.collect.AgreesBeside id c.registry
      rw [(hr.destroy id teardown []).settled.collect_eq]
      exact .destroy_left c.registry id teardown []
    · exact .refl id c.registry
  | error | unhandled => exact absurd he (by simp [Event.window?])

/-- An event about no window of an output does nothing. -/
theorem handle_stray {e : Event} (he : ∀ entry ∈ c.registry.outputs,
    e.window? ≠ some entry.2.details.window) : c.handle e = (none, [], c) := by
  have hnone : ∀ window, e.window? = some window → c.outputOf? window = none := by
    intro window hwindow
    refine List.find?_eq_none.mpr fun entry hentry heq => he entry hentry ?_
    rw [hwindow, eq_of_beq heq]
  cases e with
  | complete window kind msc =>
    simp only [handle, complete, hnone window rfl, settled_eq hr, ite_self]
  | idle window pixmap => simp only [handle, idle, hnone window rfl, settled_eq hr]
  | configure window width height =>
    simp only [handle, configure, hnone window rfl, settled_eq hr]
    split <;> rfl
  | message window format data =>
    simp only [handle, close, hnone window rfl, settled_eq hr, ite_self]
  | error | unhandled => exact settled_eq hr

end Client

namespace World

variable {w w' : World}

theorem Inv.apart (h : w.Inv) : display.Apart Touches w.client where
  images := Registry.kept_nodup h.registry_distinct
  createOutput := fun id => display_lawful.createOutput_beside id w.client
  created := fun id => display_lawful.createOutput_ids id w.client
  scheduleFrame := fun id image => Client.scheduleFrame_beside h.tidy id image
  destroyOutput := fun id => .destroy_left w.client.registry id Client.teardown []
  destroyed := fun id => Registry.destroy_ids w.client.registry id Client.teardown []
  one := by
    intro e entry hentry entry' hentry' htouches htouches'
    cases e with
    | event e =>
      have hsame := htouches.symm.trans htouches'
      exact List.inj_on_of_nodup_map h.stock.single hentry hentry' (Option.some.inj hsame)
    | attach | connection => exact htouches.elim
  handle := by
    intro e entry hentry htouches
    cases e with
    | event e =>
      exact Client.handle_beside h.tidy htouches
        (Client.outputOf?_of_mem h.tidy h.stock.single hentry)
    | attach | connection => exact htouches.elim
  aside := by
    intro e hnone
    cases e with
    | event e =>
      show (w.client.handle e).2.2.registry = w.client.registry
      rw [Client.handle_stray h.tidy hnone]
    | attach verdict image => exact Client.attach_registry verdict w.client image
    | connection => rfl

theorem Move.lists (h : w.Inv) (hm : w.Move w')
    (hlists : w.client.registry.Lists w.delivered w.outputsMade) :
    w'.client.registry.Lists w'.delivered w'.outputsMade := by
  cases hm with
  | aside registry _ _ _ outputs _ delivered =>
    rw [registry, delivered]
    exact hlists.mono outputs
  | created registry _ _ _ _ outputs _ delivered =>
    rw [registry, delivered, outputs]
    exact hlists.opened ⟨w.outputsMade⟩ (Nat.le_refl _) _
  | turned acted _ _ _ outputs _ delivered =>
    obtain ⟨d, d', hoccasion, -, hturn⟩ := acted.turn
    rw [delivered, outputs]
    refine hlists.turned h.tidy hturn fun hends => ?_
    rw [hends] at hoccasion
    cases hoccasion
  | @ended _ id => exact hlists.destroy h.tidy id Client.teardown_ends []
  | lost => exact hlists.disconnect h.tidy Client.teardown_ends []
  | told => exact hlists.taken

theorem Inv.run_ids (h : w.Inv) (hlists : w.client.registry.Lists w.delivered w.outputsMade)
    (steps : List Step) : (w.run steps).client.registry.ids
      = alive ((w.run steps).delivered ++ (w.run steps).client.registry.events) := by
  induction steps generalizing w with
  | nil => exact hlists.ids_eq
  | cons step rest ih => exact ih (h.step_inv step) ((h.step_move step).lists h hlists)

end World

end X11

namespace Wayland

/-- A happening is about the output of the window it names, about the output that waits for the
callback, or about the output that presents the image of the buffer. -/
def Touches (c : Client) : Happening → OutputId × Output Toplevel → Prop
  | .event (.toplevelConfigure object _ _), entry | .event (.toplevelClose object), entry
  | .event (.surfaceConfigure object _), entry => entry.2.details.object = object
  | .event (.done callback), entry => entry.2.details.frameCallback = some callback
  | .event (.release buffer), entry =>
    ∃ image ∈ entry.2.scheduler.presented, c.buffers.lookup buffer = some image.id
  | _, _ => False

/-- The display with its outputs in another order. -/
def Client.reordered (c : Client) (outputs : List (OutputId × Output Toplevel)) : Client :=
  { c with registry := { c.registry with outputs := outputs } }

/-- What comes from the compositor finds its output. -/
structure Client.Routes (c : Client) : Prop where
  /-- The display knows of an output's callbacks what the output knows itself. -/
  waits : ∀ id o, (id, o) ∈ c.registry.outputs → ∀ callback,
    (callback, id) ∈ c.callbacks.unanswered ↔ o.details.frameCallback = some callback
  /-- The release of a buffer hands its image back from the output that presents it, wherever that
  stands among the others. -/
  released : ∀ buffer id o image, (id, o) ∈ c.registry.outputs → image ∈ o.scheduler.presented →
    c.buffers.lookup buffer = some image.id → ∀ outputs, outputs.Perm c.registry.outputs →
    let after := ((c.reordered outputs).release buffer).registry
    after.events = c.registry.events ++ [.output id (.released image)] ∧
    (id, { o with
      scheduler := { o.scheduler with presented := o.scheduler.presented.erase image } })
        ∈ after.outputs ∧
    after.AgreesBeside id (c.reordered outputs).registry
  /-- If no output presents the image, nothing happens. -/
  unclaimed : ∀ buffer, (∀ id o, (id, o) ∈ c.registry.outputs →
      ∀ image ∈ o.scheduler.presented, c.buffers.lookup buffer ≠ some image.id) →
    ∀ outputs, outputs.Perm c.registry.outputs →
      (c.reordered outputs).release buffer = c.reordered outputs

namespace Client

variable {c : Client}

section

variable {outputs : List (OutputId × Output Toplevel)} (h : outputs.Perm c.registry.outputs)

include h

theorem reordered_tidy (hr : c.registry.Tidy) : (c.reordered outputs).registry.Tidy :=
  ⟨fun entry he => hr.settled entry (h.subset he), (h.map _).nodup_iff.mpr hr.ids⟩

theorem reordered_images : (c.reordered outputs).registry.images.Perm c.registry.images :=
  (h.flatMap_right _).append_right _

end

section

variable (hr : c.registry.Tidy)

include hr

theorem scheduleFrame_beside (id : OutputId) (image : Image) :
    (c.scheduleFrame id image).2.2.registry.AgreesBeside id c.registry := by
  cases hget : c.registry.get? id with
  | none =>
    rw [scheduleFrame_unknown hget]
    exact .refl id c.registry
  | some o =>
    obtain ⟨t, -, used, -, hturn, -⟩ := scheduleFrame_drew hr.settled hr.ids hget image
    exact .turned_left hturn

theorem outputOf?_of_mem (hobjects : (c.registry.outputs.map (·.2.details.object)).Nodup)
    {id : OutputId} {o : Output Toplevel} (hmem : (id, o) ∈ c.registry.outputs) :
    c.outputOf? o.details.object = some (id, o) := by
  refine Registry.find?_of_unique hr.ids (Registry.get?_of_mem hr.ids hmem) (beq_self_eq_true _)
    fun entry he hobject => ?_
  exact congrArg Prod.fst (List.inj_on_of_nodup_map hobjects he hmem (eq_of_beq hobject))

/-- An event about the window of an output is no matter of the others. -/
theorem configure_beside {object : Nat} {id : OutputId} {o : Output Toplevel}
    (hout : c.outputOf? object = some (id, o)) (width height : Int32) :
    (c.configure object width height).registry.AgreesBeside id c.registry := by
  unfold configure
  rw [hout]
  split
  · next mode id' o' _ hsame =>
    obtain ⟨rfl, rfl⟩ := Prod.mk.inj (Option.some.inj hsame)
    split
    · exact .refl id c.registry
    · exact hr.settled.set_collect_beside id _
  · exact .refl id c.registry

end

/-- An event about no window of an output finds none. -/
theorem outputOf?_eq_none {object : Nat}
    (h : ∀ entry ∈ c.registry.outputs, entry.2.details.object ≠ object) :
    c.outputOf? object = none :=
  List.find?_eq_none.mpr fun entry he heq => h entry he (eq_of_beq heq)

end Client

namespace Recorded

variable {w : Recorded} {next : Nat}

theorem Inv.routes (h : w.Inv) (hr : w.client.registry.Tidy)
    (hd : (w.client.registry.images.map (·.id)).Nodup) : w.client.Routes where
  waits := fun id o ho callback => (h.tracked (id, o) ho).waits callback
  released := by
    intro buffer id o image ho himage hbuffer outputs hperm after
    have hturn := Registry.bufferReleased_reaches (Client.reordered_tidy hperm hr)
      (((Client.reordered_images hperm).map _).nodup_iff.mpr hd) (hperm.mem_iff.mpr ho) himage
    have hafter : after = ((w.client.reordered outputs).registry.bufferReleased image.id).2 := by
      simp only [after, Client.release, Client.reordered, hbuffer]
    rw [← hafter] at hturn
    refine ⟨hturn.events_eq, ?_, .turned_left hturn⟩
    obtain ⟨f, heffect, hself⟩ := hturn.mem_self
    rw [heffect.returned_eq] at hself
    have hempty := hr.settled _ ho
    obtain ⟨⟨armed, pending, presented, events⟩, details⟩ := o
    obtain rfl : events = [] := hempty
    exact hself
  unclaimed := by
    intro buffer hnone outputs hperm
    cases hbuffer : w.client.buffers.lookup buffer with
    | none => simp only [Client.release, Client.reordered, hbuffer]
    | some image =>
      have hsame := Registry.bufferReleased_unclaimed (Client.reordered_tidy hperm hr)
        image fun entry he shown hshown heq =>
          hnone entry.1 entry.2 (hperm.mem_iff.mp he) shown hshown (heq ▸ hbuffer)
      simp only [Client.reordered] at hsame
      simp only [Client.release, Client.reordered, hbuffer, hsame]

section

variable (h : w.Inv) (hsound : w.client.Sound next)
  (hd : (w.client.registry.images.map (·.id)).Nodup)

include h hsound hd

/-- What happens is about one output. -/
theorem Inv.touches_one (e : Happening) : ∀ entry ∈ w.client.registry.outputs,
    ∀ entry' ∈ w.client.registry.outputs, Touches w.client e entry → Touches w.client e entry' →
      entry = entry' := by
  intro entry hentry entry' hentry' htouches htouches'
  have hobject : ∀ object : Nat, entry.2.details.object = object →
      entry'.2.details.object = object → entry = entry' := fun object hobject hobject' =>
    List.inj_on_of_nodup_map h.objects hentry hentry' (hobject.trans hobject'.symm)
  cases e with
  | attach | detach => exact htouches.elim
  | event e =>
    cases e with
    | toplevelConfigure object | toplevelClose object | surfaceConfigure object =>
      exact hobject object htouches htouches'
    | done callback =>
      -- a callback is waited for by one output
      have hid := (h.lookup_iff (o := entry.2) hentry callback).mpr htouches
      have hid' := (h.lookup_iff (o := entry'.2) hentry' callback).mpr htouches'
      exact List.inj_on_of_nodup_map hsound.tidy.ids hentry hentry'
        (Option.some.inj (hid.symm.trans hid'))
    | release buffer =>
      obtain ⟨image, himage, hbuffer⟩ := htouches
      obtain ⟨image', himage', hbuffer'⟩ := htouches'
      exact (Registry.presented_unique hd hentry hentry' himage himage'
        (Option.some.inj (hbuffer.symm.trans hbuffer'))).1
    | global | globalRemove | format | modifier | ping => exact htouches.elim

/-- An event about an output is no matter of the others. -/
theorem Inv.handle_beside {e : Event} {id : OutputId} {o : Output Toplevel}
    (hentry : (id, o) ∈ w.client.registry.outputs) (htouches : Touches w.client (.event e) (id, o)) :
    (w.client.handle e).2.registry.AgreesBeside id w.client.registry := by
  have hout := Client.outputOf?_of_mem hsound.tidy h.objects hentry
  cases e with
  | toplevelConfigure object width height =>
    obtain rfl : o.details.object = object := htouches
    exact Client.configure_beside hsound.tidy hout width height
  | toplevelClose object =>
    obtain rfl : o.details.object = object := htouches
    simp only [Client.handle, Client.close, hout]
    exact .destroy_left w.client.registry id Client.teardown []
  | surfaceConfigure object serial =>
    obtain rfl : o.details.object = object := htouches
    simp only [Client.handle, hout]
    exact .refl id w.client.registry
  | done callback =>
    obtain ⟨⟨t, -, used, -, hturn, -⟩, -⟩ := h.done_drew hsound hentry htouches
    exact .turned_left hturn
  | release buffer =>
    obtain ⟨image, himage, hbuffer⟩ := htouches
    have hturn := Registry.bufferReleased_reaches hsound.tidy hd hentry himage
    simp only [Client.handle, Client.release, hbuffer]
    exact .turned_left hturn
  | global | globalRemove | format | modifier | ping => exact htouches.elim

omit hd in
/-- An event about no output leaves all of them as they are. -/
theorem Inv.handle_stray {e : Event}
    (hnone : ∀ entry ∈ w.client.registry.outputs, ¬ Touches w.client (.event e) entry) :
    (w.client.handle e).2.registry = w.client.registry := by
  cases e with
  | toplevelConfigure object width height =>
    have hout := Client.outputOf?_eq_none hnone
    simp only [Client.handle, Client.configure, hout]
    cases Mode.ofConfigure? width height <;> rfl
  | toplevelClose object =>
    have hout := Client.outputOf?_eq_none hnone
    simp only [Client.handle, Client.close, hout]
  | surfaceConfigure object serial =>
    have hout := Client.outputOf?_eq_none hnone
    simp only [Client.handle, hout]
  | done callback =>
    obtain ⟨callbacks, hdone, -⟩ := h.done_unheard hnone
    simp only [Client.handle, hdone]
  | release buffer =>
    cases hbuffer : w.client.buffers.lookup buffer with
    | none => simp only [Client.handle, Client.release, hbuffer]
    | some image =>
      simp only [Client.handle, Client.release, hbuffer]
      exact Registry.bufferReleased_unclaimed hsound.tidy image fun entry he shown hshown heq =>
        hnone entry he ⟨shown, hshown, heq ▸ hbuffer⟩
  | global name interface version =>
    simp only [Client.handle]
    split
    · rfl
    · exact (Client.bindGlobal_aside _ _ _ _).registry_eq
  | format | modifier => exact (Client.advertise_aside _ _ _).registry_eq
  | globalRemove | ping => rfl

theorem Inv.apart : display.Apart Touches w.client where
  images := Registry.kept_nodup hd
  createOutput := fun id => display_lawful.createOutput_beside id w.client
  created := fun id => display_lawful.createOutput_ids id w.client
  scheduleFrame := fun id image => Client.scheduleFrame_beside hsound.tidy id image
  destroyOutput := fun id => .destroy_left w.client.registry id Client.teardown []
  destroyed := fun id => Registry.destroy_ids w.client.registry id Client.teardown []
  one := h.touches_one hsound hd
  handle := by
    intro e entry hentry htouches
    cases e with
    | event e => exact h.handle_beside hsound hd hentry htouches
    | attach | detach => exact htouches.elim
  aside := by
    intro e hnone
    cases e with
    | event e => exact h.handle_stray hsound hnone
    | attach image => exact w.client.attach_registry image
    | detach image => exact w.client.detach_registry image

end

end Recorded

end Wayland

/-- **Outputs do not disturb each other**, on either kind of display, however many there are.
Whatever is called and whatever the server sends is about one output at most, which alone changes
and alone is told of; no image waits or is presented in two places, so that the release of a buffer
reaches the output that presents its image, wherever that stands in the list, and nobody if there is
none; and the list has the outputs that are alive in the order in which they were made. On a Wayland
compositor a program owns its images as it does in `X11.World`, and whatever it does not hold it
cannot schedule. -/
theorem outputs_kept_apart (session : X11.Session) (hapart : 0 < session.ids.step) (title : String)
    (mode : Mode) (steps : List X11.Step) (appId : String)
    (calls : List (Display.Call Wayland.Happening)) :
    let x := (X11.World.start session title mode).run steps
    let w := (Display.Course.start ({ client := { appId, mode } } : Wayland.Recorded)).runOwned
      Wayland.recording calls
    X11.display.Apart X11.Touches x.client ∧
    x.client.registry.ids = alive (x.delivered ++ x.client.registry.events) ∧
    Wayland.display.Apart Wayland.Touches w.client.client ∧ w.client.client.Routes ∧
    w.client.client.registry.ids = alive (w.history Wayland.recording) := by
  intro x w
  have hx := X11.World.start_inv hapart title mode
  have hsound : Wayland.Client.Sound { appId, mode } 0 :=
    (⟨appId, mode, [], []⟩ : Wayland.Opening).client_sound
  have hholds : w.broken = false := Wayland.Recorded.run_holds rfl _
  obtain ⟨hw, hsound⟩ : w.client.Inv ∧ w.client.client.Sound w.next :=
    Wayland.Recorded.run_inv (w := .start { client := { appId, mode } })
      (Wayland.Recorded.start_inv rfl rfl) hsound _
  have hdistinct : (w.client.client.registry.images.map (·.id)).Nodup :=
    (Display.Course.start_inv rfl).runOwned_distinct Wayland.recording_lawful calls List.nodup_nil hholds
  exact ⟨(hx.run_inv steps).apart, hx.run_ids .start steps, hw.apart hsound hdistinct,
    hw.routes hsound.tidy hdistinct,
    Display.Course.run_ids Wayland.recording_lawful rfl _ hholds⟩

/-- Two outputs, each with an image presented on it. The second image is scheduled again on the
first output, but the program does not hold it any more. -/
def Wayland.twoCanvases : List (Display.Call Wayland.Happening) :=
  let imported (n : Nat) : Image :=
    { Image.numbered n with backendData := ⟨some (.remoteBuffer n)⟩ }
  Wayland.shortOpening.globals.map (.other <| .event ·) ++
    Wayland.shortOpening.answers.map (.other <| .event ·) ++
    [.createOutput 0, .createOutput 0, .other (.attach (.numbered 0)), .other (.attach (.numbered 1)),
      .scheduleFrame ⟨0⟩ (imported 0), .scheduleFrame ⟨1⟩ (imported 1),
      .scheduleFrame ⟨0⟩ (imported 1)]

/-- A new size of the second window is no matter of the first output, and the release of the second
image finds the second output also if it stands first. -/
theorem second_output_apart :
    let x := (X11.World.start X11.freshClient.session X11.standardTitle .standard).run
      X11.World.twoFrames
    let w := (Display.Course.start
      ({ client := { appId := Wayland.standardAppId, mode := .standard } } : Wayland.Recorded)).runOwned
      Wayland.recording Wayland.twoCanvases
    let image : Image := { Image.numbered 1 with backendData := ⟨some (.remoteBuffer 1)⟩ }
    0 < X11.freshClient.session.ids.step ∧
    (x.client.handle (.configure 3 300 200)).2.2.registry.AgreesBeside ⟨1⟩ x.client.registry ∧
    ((w.client.client.reordered w.client.client.registry.outputs.reverse).release 1).registry.events
      = [.newOutput ⟨0⟩, .newOutput ⟨1⟩, .output ⟨1⟩ (.released image)] ∧
    w.client.client.registry.ids = [⟨0⟩, ⟨1⟩] := by
  intro x w image
  let second : Output X11.Window := {
    scheduler := {}
    details := {
      window := 3
      presentEvent := 4
      info := { name := "X11-2", make := "X11", model := "X11 window", mode := .standard } } }
  let canvas : Output Wayland.Toplevel := {
    scheduler := { armed := true, presented := [image] }
    details := {
      object := 1
      version := 4
      frameCallback := some 1
      info := { name := "WL-2", make := "wayland", model := "wayland", mode := .standard } } }
  have hsecond : (⟨1⟩, second) ∈ x.client.registry.outputs := by decide +kernel
  have hcanvas : (⟨1⟩, canvas) ∈ w.client.client.registry.outputs := by decide +kernel
  have hevents : w.client.client.registry.events = [.newOutput ⟨0⟩, .newOutput ⟨1⟩] := by
    decide +kernel
  obtain ⟨hx, -, -, hroutes, hids⟩ := outputs_kept_apart X11.freshClient.session (by decide)
    X11.standardTitle .standard X11.World.twoFrames Wayland.standardAppId Wayland.twoCanvases
  obtain ⟨hreleased, -⟩ := hroutes.released 1 ⟨1⟩ canvas image hcanvas List.mem_cons_self
    (by decide +kernel) _ (List.reverse_perm _)
  refine ⟨by decide, hx.handle (.event (.configure 3 300 200)) _ hsecond rfl, ?_, ?_⟩
  · rw [hreleased, hevents]
    rfl
  · rw [hids]
    decide +kernel

end Scanout
