import Scanout.Proofs.Display.Kinds

/-!
# What a Wayland display keeps of its outputs

Whatever is called and whatever the compositor sends, an output keeps the number of its objects,
and only an output that scheduled a frame waits for a callback. So the numbers of a new output
are no other's (`Sound`), and no callback waits for it.
-/

namespace Scanout.Wayland

namespace Client

/-- The outputs that wait for callbacks. -/
def waiting (c : Client) : List OutputId :=
  c.callbacks.unanswered.map (·.2)

/-- No output is new, all have the numbers they had, and only the given outputs and those that
waited already may wait or show another image. -/
structure Keeps (c : Client) (scheduled : List OutputId) (c' : Client) : Prop where
  outputs : ∀ entry ∈ c'.registry.outputs, ∃ o, (entry.1, o) ∈ c.registry.outputs ∧
    o.details.object = entry.2.details.object ∧
    (entry.1 ∉ c.waiting ++ scheduled → entry.2.scheduler.presented ⊆ o.scheduler.presented)
  waits : c'.waiting ⊆ c.waiting ++ scheduled
  created : c'.created = c.created

variable {c c' : Client} {scheduled : List OutputId}

/-- Outputs at most go. -/
theorem Keeps.of_subset (houtputs : c'.registry.outputs ⊆ c.registry.outputs)
    (hwaits : c'.waiting ⊆ c.waiting) (hcreated : c'.created = c.created) :
    c.Keeps scheduled c' where
  outputs := fun entry he => ⟨entry.2, houtputs he, rfl, fun _ => List.Subset.refl _⟩
  waits := List.subset_append_of_subset_left _ hwaits
  created := hcreated

/-- Nothing of all that is touched. -/
theorem Keeps.of_same (hregistry : c'.registry = c.registry)
    (hcallbacks : c'.callbacks = c.callbacks) (hcreated : c'.created = c.created) :
    c.Keeps scheduled c' := by
  refine .of_subset ?_ ?_ hcreated
  · rw [hregistry]
    exact List.Subset.refl _
  · rw [waiting, hcallbacks]
    exact List.Subset.refl _

theorem Keeps.refl (c : Client) : c.Keeps scheduled c :=
  .of_same rfl rfl rfl

/-- One output is replaced by another with the same numbers, and events are collected. -/
theorem Keeps.of_set {id : OutputId} {o : Output Toplevel} (o' : Output Toplevel)
    (hget : c.registry.get? id = some o) (hobject : o'.details.object = o.details.object)
    (hshown : id ∉ c.waiting ++ scheduled → o'.scheduler.presented ⊆ o.scheduler.presented)
    (houtputs : c'.registry.outputs = (c.registry.set id o').collect.outputs)
    (hwaits : c'.waiting ⊆ c.waiting ++ scheduled) (hcreated : c'.created = c.created) :
    c.Keeps scheduled c' := by
  refine ⟨fun entry he => ?_, hwaits, hcreated⟩
  rw [houtputs] at he
  simp only [Registry.collect, Registry.set, List.map_map, List.mem_map] at he
  obtain ⟨old, hold, rfl⟩ := he
  by_cases hid : old.1 = id
  · subst hid
    simp only [Function.comp_apply, if_true]
    exact ⟨o, Registry.mem_of_get? hget, hobject.symm, hshown⟩
  · simp only [Function.comp_apply, hid, if_false]
    exact ⟨old.2, hold, rfl, fun _ => List.Subset.refl _⟩

/-- Whatever a canvas is used for, only its own output waits for what is asked. -/
theorem used_waits {asked : List SurfaceCall} :
    ∀ {canvas used : Canvas}, Canvas.surface.Used asked canvas used →
      ∀ wait ∈ used.callbacks.unanswered,
        wait ∈ canvas.callbacks.unanswered ∨ wait.2 = canvas.id := by
  induction asked with
  | nil =>
    rintro canvas used rfl wait hwait
    exact .inl hwait
  | cons a rest ih =>
    intro canvas used h wait hwait
    cases a with
    | present image answer =>
      have hrest := ih h.2 wait hwait
      rcases Canvas.present_cases image canvas with ⟨_, _, -, -, hp⟩ | ⟨-, hp⟩
      · simp only [Canvas.surface, hp, List.mem_append, List.mem_singleton] at hrest
        rcases hrest with (hold | rfl) | hself
        · exact .inl hold
        · exact .inr rfl
        · exact .inr hself
      · simpa [Canvas.surface, hp] using hrest
    | cancel =>
      have hrest : Canvas.surface.Used rest canvas.cancel used := h
      exact ih hrest wait hwait

theorem scheduleFrame_keeps (c : Client) (id : OutputId) (image : Image) :
    c.Keeps [id] (c.scheduleFrame id image).2.2 := by
  cases hget : c.registry.get? id with
  | none =>
    rw [scheduleFrame_unknown hget]
    exact .refl c
  | some o =>
    obtain ⟨asked, queued, -, hused, -⟩ := FrameScheduler.schedule_effect Canvas.surface image
      o.scheduler (c.canvas id o.details) []
    obtain ⟨hid, hobject, -⟩ := Canvas.used_frame hused
    simp only [scheduleFrame, hget]
    refine .of_set ⟨_, _⟩ hget hobject (fun hnone => absurd (by simp) hnone)
      (by rw [putBack, hid]; rfl) (fun other hother => ?_) rfl
    obtain ⟨wait, hwait, rfl⟩ := List.mem_map.mp hother
    rcases used_waits hused wait hwait with hold | hself
    · exact List.mem_append_left _ (List.mem_map_of_mem hold)
    · exact List.mem_append_right _ (List.mem_singleton.mpr hself)

theorem done_keeps (c : Client) (callback : Nat) : c.Keeps [] (c.done callback).2 := by
  have hfilter : ∀ wait ∈ c.callbacks.unanswered.filter (·.1 ≠ callback),
      wait.2 ∈ c.waiting ++ [] := fun wait hwait =>
    List.mem_append_left _ (List.mem_map_of_mem (List.mem_of_mem_filter hwait))
  cases hwait : c.callbacks.unanswered.lookup callback with
  | none =>
    simp only [done, hwait]
    exact .refl c
  | some id =>
    have hid : id ∈ c.waiting := by
      obtain ⟨front, back, heq, -⟩ := List.lookup_eq_some_iff.mp hwait
      simp [waiting, heq]
    cases hget : c.registry.get? id with
    | none =>
      simp only [done, hwait, hget]
      refine .of_subset (List.Subset.refl _) (fun other hother => ?_) rfl
      obtain ⟨wait, hmem, rfl⟩ := List.mem_map.mp hother
      simpa using hfilter wait hmem
    | some o =>
      let canvas : Canvas := {
        id := id, toplevel := { o.details with frameCallback := none }
        callbacks := { c.callbacks with
          unanswered := c.callbacks.unanswered.filter (·.1 ≠ callback) } }
      obtain ⟨asked, queued, -, hused, -⟩ :=
        FrameScheduler.frameDone_effect Canvas.surface o.scheduler canvas []
      obtain ⟨hkept, hobject, -⟩ := Canvas.used_frame hused
      simp only [done, hwait, hget]
      refine .of_set ⟨_, _⟩ hget hobject
        (fun hnone => absurd (List.mem_append_left _ hid) hnone)
        (by rw [putBack]; exact congrArg (fun id => (c.registry.set id _).collect.outputs) hkept)
        (fun other hother => ?_) rfl
      obtain ⟨wait, hmem, rfl⟩ := List.mem_map.mp hother
      rcases used_waits hused wait hmem with hold | hself
      · exact hfilter wait hold
      · rw [hself]
        exact List.mem_append_left _ hid

theorem release_keeps (c : Client) (buffer : Nat) : c.Keeps [] (c.release buffer) := by
  unfold release
  split
  · exact .refl c
  · next image _ =>
    refine ⟨fun entry he => ?_, List.subset_append_left _ _, rfl⟩
    rcases Registry.releaseIn_cases image c.registry.outputs with ⟨-, hsame⟩ |
      ⟨before, id, o, after, shown, earlier, later, hout, -, hsplit, -, hrel⟩
    · simp only [Registry.bufferReleased, hsame] at he
      exact ⟨entry.2, he, rfl, fun _ => List.Subset.refl _⟩
    · simp only [Registry.bufferReleased, hrel, Registry.collect, List.mem_map] at he
      obtain ⟨old, hold, rfl⟩ := he
      rcases List.mem_append.mp hold with hmem | hmem
      · exact ⟨old.2, by simp [hout, hmem], rfl, fun _ => List.Subset.refl _⟩
      rcases List.mem_cons.mp hmem with rfl | hmem
      · refine ⟨o, by simp [hout], rfl, fun _ => ?_⟩
        rw [hsplit]
        exact ((List.sublist_cons_self _ _).append_left _).subset
      · exact ⟨old.2, by simp [hout, hmem], rfl, fun _ => List.Subset.refl _⟩

theorem configure_keeps (hids : c.registry.ids.Nodup) (toplevel : Nat) (width height : Int32) :
    c.Keeps [] (c.configure toplevel width height) := by
  simp only [configure]
  split
  · next mode id o _ hout =>
    split
    · exact .refl c
    · refine .of_set _ (Registry.get?_of_mem hids (outputOf?_mem hout)) ?_ ?_ rfl
        (List.subset_append_left _ _) rfl
      · rfl
      · exact fun _ => List.Subset.refl _
  · exact .refl c

theorem destroyOutput_keeps (c : Client) (id : OutputId) : c.Keeps [] (c.destroyOutput id).2.2 :=
  .of_subset (Registry.destroy_outputs c.registry id teardown []).subset (List.Subset.refl _) rfl

theorem connectionClosed_keeps (hids : c.registry.ids.Nodup) : c.Keeps [] c.connectionClosed.2 :=
  .of_subset (Registry.disconnect_outputs hids teardown_ends []).subset (List.Subset.refl _) rfl

/-- No event makes an output, and none has an output wait that did not. -/
theorem handle_keeps (hids : c.registry.ids.Nodup) (e : Event) : c.Keeps [] (c.handle e).2 := by
  cases e with
  | global name interface version =>
    simp only [handle]
    split
    · exact .refl c
    · next i _ => cases i <;> exact .of_same rfl rfl rfl
  | format code | modifier code high low =>
    simp only [handle, advertise]
    split <;> exact .of_same rfl rfl rfl
  | toplevelConfigure toplevel width height => exact configure_keeps hids toplevel width height
  | toplevelClose toplevel =>
    simp only [handle, close]
    split
    · exact .refl c
    · exact destroyOutput_keeps c _
  | surfaceConfigure xdgSurface serial =>
    simp only [handle]
    split <;> exact .refl c
  | globalRemove | ping => exact .refl c
  | done callback => exact done_keeps c callback
  | release buffer => exact release_keeps c buffer

end Client

end Scanout.Wayland
