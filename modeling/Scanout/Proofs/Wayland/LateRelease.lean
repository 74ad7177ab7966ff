import Scanout.Proofs.Wayland.World

/-!
# Late releases

An output that is torn down gives its images back at once, while the compositor may
still be reading them; the releases of their commits arrive later. A release carries
the buffer and not the commit, so if the program has meanwhile shown the image on
another output, a late release is taken for that of the new commit, and the image
comes back while the compositor reads it.

`right_iff_careful` says exactly when that can happen: if and only if a buffer was
committed while an earlier commit of it had not been released. As long as a program
is careful, `Exclusive` holds, and every image comes back by the release of its own
commit or because its output is gone.
-/

namespace Scanout.Wayland

namespace World

/-- What a step adds to the queue of the display. -/
def newEvents (w : World) (step : Step) : List BackendEvent :=
  (w.step step).client.registry.events.drop w.client.registry.events.length

/-- If a step gives back an image that an output presents, then the output is gone
afterwards, or the step is the release of the very commit by which the output shows
the image. -/
def Right (w : World) (step : Step) : Prop :=
  ∀ id o image, (id, o) ∈ w.client.registry.outputs → image ∈ o.scheduler.presented →
    .output id (.released image) ∈ w.newEvents step →
    (w.step step).client.registry.get? id = none ∨
    ∃ commit buffer, step = .release commit ∧ image.remoteBuffer? = some buffer ∧
      w.remote.standing? o.details.object buffer = some commit

/-- No step commits a buffer while an earlier commit of it is not released. -/
def Careful : World → List Step → Prop
  | _, [] => True
  | w, step :: rest =>
    (∀ new ∈ (w.step step).remote.history.drop w.remote.history.length,
      ∀ old ∈ w.remote.inUse, old.buffer ≠ new.buffer) ∧
    Careful (w.step step) rest

/-- Whatever is presented, the compositor uses its buffer for the commit on that output
and for no other. -/
def Exclusive (w : World) : Prop :=
  ∀ entry ∈ w.client.registry.outputs, ∀ image ∈ entry.2.scheduler.presented,
    ∀ buffer, image.remoteBuffer? = some buffer →
      ∃ commit, w.remote.standing? entry.2.details.object buffer = some commit ∧
        ∀ old ∈ w.remote.inUse, old.buffer = buffer → old = commit

/-! ## Careful steps keep buffers exclusive -/

/-- Without a new commit, and with nothing newly presented, buffers stay exclusive. -/
theorem Exclusive.mono {w w' : World} (he : w.Exclusive)
    (hout : ∀ entry' ∈ w'.client.registry.outputs, ∀ image ∈ entry'.2.scheduler.presented,
      ∃ entry ∈ w.client.registry.outputs, image ∈ entry.2.scheduler.presented ∧
        entry'.2.details.object = entry.2.details.object)
    (hhistory : w'.remote.history = w.remote.history)
    (huse : ∀ commit ∈ w'.remote.inUse, commit ∈ w.remote.inUse) : w'.Exclusive := by
  intro entry' hentry' image himage buffer hbuffer
  obtain ⟨entry, hentry, hold, hobject⟩ := hout entry' hentry' image himage
  obtain ⟨commit, hstanding, honly⟩ := he entry hentry image hold buffer hbuffer
  refine ⟨commit, ?_, fun old ho hb => honly old (huse old ho) hb⟩
  rw [hobject, ← hstanding]
  simp only [Remote.standing?, hhistory]

/-- What an output presents after one of them took a turn: it was presented before, or
the turn committed it. -/
theorem presented_of_acted {c c' : Client} {id : OutputId} {o : Output Toplevel}
    {t : FrameScheduler.Turn} {sent : List Request} (hacted : c.Acted id o t sent c')
    {entry' : OutputId × Output Toplevel} (hentry' : entry' ∈ c'.registry.outputs) {image : Image}
    (himage : image ∈ entry'.2.scheduler.presented) :
    (∃ entry ∈ c.registry.outputs, image ∈ entry.2.scheduler.presented ∧
      entry'.2.details.object = entry.2.details.object) ∨
    (entry'.1 = id ∧ image ∈ t.committed ∧ entry'.2.details.object = o.details.object) := by
  obtain ⟨details, hobject, hturn⟩ := hacted.turn
  rcases hturn.mem_outputs hentry' with ⟨hid, hdetails, f, heffect, hf⟩ | ⟨-, hold⟩
  · rw [hf] at himage
    rcases List.mem_append.mp (heffect.presented_sublist.subset himage) with hold | hnew
    · exact .inl ⟨(id, o), Registry.mem_of_get? hturn.get?, hold, by rw [hdetails, hobject]⟩
    · exact .inr ⟨hid, hnew, by rw [hdetails, hobject]⟩
  · exact .inl ⟨entry', hold, himage, rfl⟩

/-- A commit of a buffer that the compositor does not use makes it exclusive to the output
that shows it. -/
theorem Exclusive.turned {w w' : World} (hw' : w'.Inv) (he : w.Exclusive)
    {id : OutputId} {o : Output Toplevel} {t : FrameScheduler.Turn} {sent : List Request}
    (hacted : w.client.Acted id o t sent w'.client) {image : Image} {buffer : Nat}
    (hcommitted : t.committed = [image]) (hbuffer : image.remoteBuffer? = some buffer)
    (hremote : w'.remote = w.remote.commit o.details.object buffer)
    (hunused : ∀ old ∈ w.remote.inUse, old.buffer ≠ buffer) : w'.Exclusive := by
  obtain ⟨details, hobject, hturn⟩ := hacted.turn
  obtain ⟨f, heffect, hself⟩ := hturn.mem_self
  have himage : image ∈ f.presented := heffect.committed_subset image (by rw [hcommitted]; simp)
  intro entry' hentry' other hother buffer' hbuffer'
  by_cases hsame : buffer' = buffer
  · subst hsame
    -- the buffer stands for one image, and the image is on one output
    have hlookup := hw'.known other
      (List.mem_append_right _ (Registry.mem_images_of_presented hentry' hother)) buffer' hbuffer'
    rw [hw'.known image (List.mem_append_right _ (Registry.mem_images_of_presented hself himage))
      buffer' hbuffer] at hlookup
    obtain ⟨rfl, -⟩ := Registry.presented_unique hw'.registry_distinct hself hentry' himage hother
      (Option.some.inj hlookup)
    refine ⟨⟨w.remote.history.length, o.details.object, buffer'⟩, ?_, ?_⟩
    · rw [hremote, hobject]
      exact Remote.standing?_commit _ _ _
    · intro old hold hb
      rw [hremote] at hold
      rcases List.mem_append.mp hold with hold | hold
      · exact absurd hb (hunused old hold)
      · exact List.mem_singleton.mp hold
  -- other buffers have the commits they had
  · rcases presented_of_acted hacted hentry' hother with
      ⟨entry, hentry, hold, hobject'⟩ | ⟨-, hnew, -⟩
    · obtain ⟨commit, hstanding, honly⟩ := he entry hentry other hold buffer' hbuffer'
      refine ⟨commit, ?_, ?_⟩
      · rw [hremote, hobject', Remote.standing?_commit_of_ne _ _ (Ne.symm hsame), hstanding]
      · intro old ho hb
        rw [hremote] at ho
        rcases List.mem_append.mp ho with ho | ho
        · exact honly old ho hb
        · obtain rfl := List.mem_singleton.mp ho
          exact absurd hb.symm hsame
    · rw [hcommitted] at hnew
      obtain rfl := List.mem_singleton.mp hnew
      exact absurd (Option.some.inj (hbuffer'.symm.trans hbuffer)) hsame

theorem Move.exclusive {w w' : World} {step : Step} (h : w.Inv) (hm : w.Move step w')
    (hw' : w'.Inv) (he : w.Exclusive)
    (hcareful : ∀ new ∈ w'.remote.history.drop w.remote.history.length,
      ∀ old ∈ w.remote.inUse, old.buffer ≠ new.buffer) : w'.Exclusive := by
  have hsame : ∀ entry ∈ w.client.registry.outputs, ∀ image ∈ entry.2.scheduler.presented,
      ∃ entry' ∈ w.client.registry.outputs, image ∈ entry'.2.scheduler.presented ∧
        entry.2.details.object = entry'.2.details.object :=
    fun entry hentry image himage => ⟨entry, hentry, himage, rfl⟩
  cases hm with
  | still aside _ remote =>
    exact he.mono (by rw [aside.registry_eq]; exact hsame) (by rw [remote]) (by rw [remote]; simp)
  | created details registry _ _ _ remote =>
    refine he.mono ?_ (by rw [remote]) (by rw [remote]; simp)
    intro entry hentry image himage
    rw [registry] at hentry
    rcases List.mem_append.mp hentry with hentry | hentry
    · exact hsame entry hentry image himage
    · obtain rfl := List.mem_singleton.mp hentry
      exact absurd himage List.not_mem_nil
  | adopted | imported | discarded | told => exact he.mono hsame rfl fun _ hc => hc
  | dropped => exact he.mono hsame rfl fun _ hc => List.mem_of_mem_filter hc
  | ended id =>
    refine he.mono (fun entry hentry => hsame entry ?_) rfl fun _ hc => hc
    exact (Registry.destroy_outputs w.client.registry id Client.teardown []).subset hentry
  | lost =>
    refine he.mono (fun entry hentry => hsame entry ?_) rfl fun _ hc => hc
    exact (Registry.disconnect_outputs h.ids Client.teardown_ends []).subset hentry
  | @turned _ _ _ o _ _ acted _ _ _ remote =>
    rcases acted.received h.idle with ⟨hnone, hquiet⟩ | ⟨image, buffer, hone, hbuffer, hcommit⟩
    · rw [hquiet] at remote
      refine he.mono ?_ (by rw [remote]) (by rw [remote]; simp)
      intro entry hentry image himage
      rcases presented_of_acted acted hentry himage with hold | ⟨-, hnew, -⟩
      · exact hold
      · rw [hnone] at hnew
        exact absurd hnew List.not_mem_nil
    · rw [hcommit] at remote
      refine he.turned hw' acted hone hbuffer remote
        (hcareful ⟨w.remote.history.length, o.details.object, buffer⟩ ?_)
      rw [remote]
      simp [Remote.commit]
  | returned _ _ _ acted _ remote =>
    refine he.mono ?_ (by rw [remote]; rfl) ?_
    · intro entry hentry image himage
      rcases presented_of_acted acted hentry himage with hold | ⟨-, hnew, -⟩
      · exact hold
      · exact absurd hnew List.not_mem_nil
    · rw [remote]
      exact fun _ hc => List.mem_of_mem_filter hc

/-! ## Exclusive buffers come back rightly -/

/-- The queue only grows behind what is in it, or is handed over. -/
theorem newEvents_of_append {w : World} {step : Step} {new : List BackendEvent}
    (h : (w.step step).client.registry.events = w.client.registry.events ++ new) :
    w.newEvents step = new := by
  rw [newEvents, h, List.drop_left]

theorem newEvents_of_same {w : World} {step : Step}
    (h : (w.step step).client.registry.events = w.client.registry.events) :
    w.newEvents step = [] := by
  rw [newEvents, h, List.drop_length]

/-- A turn gives back no image that its output presents, unless the display lets go of it. -/
theorem Inv.not_released {w : World} (h : w.Inv) {t : FrameScheduler.Turn} {hand : List Image}
    {id : OutputId} {o : Output Toplevel} {f : FrameScheduler}
    (hmem : (id, o) ∈ w.client.registry.outputs) (heffect : o.scheduler.Effect t f)
    (hcall : ∀ image, t.call ≠ .bufferReleased image) (hgoing : t.call ≠ .destroy)
    (hhand : (t.handedIn ++ hand).Perm w.hand) {image : Image}
    (himage : image ∈ o.scheduler.presented) : .released image ∉ t.queued := by
  intro hqueued
  rcases heffect.released_cases hqueued with hend | hrel | hin | hwaits
  · exact hgoing hend
  · exact hcall _ hrel
  · -- what was handed in was in the program's hand, and is not in the display's as well
    have hheld : image ∈ w.hand := hhand.subset (List.mem_append_left _ hin)
    exact map_ne_of_nodup_append h.distinct hheld
      (Registry.mem_images_of_presented hmem himage) rfl
  · exact (Registry.distinct_of_mem h.registry_distinct hmem).not_presented_of_pending hwaits himage

theorem Inv.right {w : World} (h : w.Inv) (he : w.Exclusive) (step : Step) : w.Right step := by
  intro id o image hmem himage hnew
  have hm := h.step_move step
  generalize hw' : w.step step = w' at hm
  cases hm with
  | still aside =>
    rw [newEvents_of_same (by rw [hw', aside.registry_eq])] at hnew
    exact absurd hnew List.not_mem_nil
  | created details registry =>
    rw [newEvents_of_append (by rw [hw', registry]; rfl)] at hnew
    simp at hnew
  | adopted | imported | discarded | dropped =>
    rw [newEvents_of_same (by rw [hw'])] at hnew
    exact absurd hnew List.not_mem_nil
  | told =>
    rw [newEvents, hw'] at hnew
    simp [Registry.takeEvents] at hnew
  | @turned _ _ id' o' t _ acted call going hand =>
    obtain ⟨details, -, hturn⟩ := acted.turn
    rw [newEvents_of_append (by rw [hw']; exact hturn.events_eq), List.mem_map] at hnew
    obtain ⟨e, hqueued, heq⟩ := hnew
    -- the event names the output that took the turn
    obtain ⟨rfl, rfl⟩ := BackendEvent.output.inj heq
    obtain rfl : o = o' := Option.some.inj ((Registry.get?_of_mem h.ids hmem).symm.trans hturn.get?)
    obtain ⟨f, heffect⟩ := hturn.effect
    exact absurd hqueued (h.not_released hmem heffect call going hand himage)
  | @returned _ commit id' o' shown used found presented acted =>
    obtain ⟨details, -, hturn⟩ := acted.turn
    rw [newEvents_of_append (by rw [hw']; exact hturn.events_eq)] at hnew
    obtain ⟨rfl, rfl⟩ : id = id' ∧ image = shown := by simpa using hnew
    obtain rfl : o = o' := Option.some.inj ((Registry.get?_of_mem h.ids hmem).symm.trans hturn.get?)
    obtain ⟨buffer, hbuffer⟩ := Option.isSome_iff_exists.mp (h.shown _ hmem image himage)
    obtain ⟨own, hstanding, honly⟩ := he _ hmem image himage buffer hbuffer
    -- the released buffer is that of the image, and only the standing commit uses it
    have hsame : commit.buffer = buffer := h.buffer_unique found
      (h.known image (List.mem_append_right _ (Registry.mem_images_of_presented hmem himage))
        buffer hbuffer)
    refine .inr ⟨commit, buffer, rfl, hbuffer, ?_⟩
    rw [honly commit used hsame]
    exact hstanding
  | ended id' =>
    cases hget : w.client.registry.get? id' with
    | none =>
      have hevents : (w.client.destroyOutput id').2.2.registry = w.client.registry :=
        congrArg (·.2.1) (Registry.destroy_absent hget Client.teardown [])
      rw [newEvents_of_same (by rw [hw', hevents])] at hnew
      exact absurd hnew List.not_mem_nil
    | some o' =>
      obtain ⟨before, after, hat⟩ := Registry.at_of_mem h.ids (Registry.mem_of_get? hget)
      have hevents : (w.client.destroyOutput id').2.2.registry.events
          = w.client.registry.events ++ Registry.lastEvents (id', o') :=
        congrArg (·.2.1.events) (hat.destroy_eq Client.teardown_ends [])
      -- all new events are the last ones of an output that is gone
      rw [newEvents_of_append (by rw [hw', hevents]), Registry.lastEvents, List.mem_map] at hnew
      obtain ⟨e, -, heq⟩ := hnew
      obtain ⟨rfl, -⟩ := BackendEvent.output.inj heq
      exact .inl (Registry.get?_destroy w.client.registry id' Client.teardown [])
  | lost =>
    cases hlive : w.client.registry.disconnected with
    | true =>
      have hevents : w.client.connectionClosed.2.registry = w.client.registry :=
        congrArg (·.2.1) (Registry.disconnect_again hlive Client.teardown [])
      rw [newEvents_of_same (by rw [hw', hevents])] at hnew
      exact absurd hnew List.not_mem_nil
    | false =>
      have hregistry := Registry.disconnect_eq h.ids Client.teardown_ends hlive []
      refine .inl ?_
      show (w.client.registry.disconnect Client.teardown []).2.1.get? id = none
      rw [hregistry]
      rfl

/-! ## Careless commits -/

/-- A new commit shows an image on the output that presents it. -/
theorem Move.committed {w w' : World} {step : Step} (h : w.Inv) (hm : w.Move step w') {new : Commit}
    (hnew : new ∈ w'.remote.history.drop w.remote.history.length) :
    ∃ entry ∈ w'.client.registry.outputs, ∃ image ∈ entry.2.scheduler.presented,
      image.remoteBuffer? = some new.buffer ∧
      w'.remote.standing? entry.2.details.object new.buffer = some new ∧
      w'.remote.inUse = w.remote.inUse ++ [new] ∧ new.number = w.remote.history.length := by
  have hnone : w'.remote.history ≠ w.remote.history := by
    intro hsame
    rw [hsame, List.drop_length] at hnew
    exact absurd hnew List.not_mem_nil
  cases hm with
  | still _ _ remote => exact absurd (by rw [remote]) hnone
  | created _ _ _ _ _ remote => exact absurd (by rw [remote]) hnone
  | adopted | imported | discarded | ended | lost | told | dropped => exact absurd rfl hnone
  | returned _ _ _ _ _ remote => exact absurd (by rw [remote]; rfl) hnone
  | @turned _ _ id o t sent acted _ _ _ remote =>
    rcases acted.received h.idle with ⟨-, hquiet⟩ | ⟨image, buffer, hone, hbuffer, hcommit⟩
    · exact absurd (by rw [remote, hquiet]) hnone
    · obtain ⟨details, hobject, hturn⟩ := acted.turn
      obtain ⟨f, heffect, hself⟩ := hturn.mem_self
      rw [hcommit] at remote
      obtain rfl : new = ⟨w.remote.history.length, o.details.object, buffer⟩ := by
        simpa [remote, Remote.commit] using hnew
      refine ⟨_, hself, image, heffect.committed_subset image (by rw [hone]; simp), hbuffer, ?_⟩
      rw [remote, hobject]
      exact ⟨Remote.standing?_commit _ _ _, rfl, rfl⟩

/-- After a careless commit the release of the earlier one is a wrong one. -/
theorem Inv.wrong_of_careless {w : World} (h : w.Inv) {step : Step} {new old : Commit}
    (hnew : new ∈ (w.step step).remote.history.drop w.remote.history.length)
    (hold : old ∈ w.remote.inUse) (hbuffer : old.buffer = new.buffer) :
    ¬ (w.step step).Right (.release old) := by
  obtain ⟨entry, hentry, image, himage, hown, hstanding, huse, hnumber⟩ :=
    (h.step_move step).committed h hnew
  have hne : old ≠ new := by
    rintro rfl
    have hlt := h.numbered old hold
    rw [hnumber] at hlt
    exact Nat.lt_irrefl _ hlt
  have h' := h.step_inv step
  generalize w.step step = w' at *
  have hstill : old ∈ w'.remote.inUse := by
    rw [huse]
    exact List.mem_append_left _ hold
  have hlookup : w'.client.buffers.lookup old.buffer = some image.id := by
    rw [hbuffer]
    exact h'.known image (List.mem_append_right _ (Registry.mem_images_of_presented hentry himage))
      new.buffer hown
  have hstep : (w'.step (.release old)).client = w'.client.release old.buffer := by
    simp only [World.step, hstill, if_true]
  intro hright
  rcases Client.release_cases h'.settled h'.ids old.buffer with
    ⟨-, hnobody⟩ | ⟨id, o, shown, hfound, hshown, hacted⟩
  · exact hnobody image.id hlookup entry hentry image himage rfl
  · -- the image comes back, and its output goes on
    obtain ⟨details, -, hturn⟩ := hacted.turn
    have hmem : (id, o) ∈ w'.client.registry.outputs := Registry.mem_of_get? hturn.get?
    obtain ⟨rfl, rfl⟩ := Registry.presented_unique h'.registry_distinct hmem hentry hshown himage
      (Option.some.inj (hfound.symm.trans hlookup))
    have hevents : w'.newEvents (.release old) = [.output id (.released shown)] :=
      newEvents_of_append (by rw [hstep, hturn.events_eq]; rfl)
    rcases hright id o shown hmem hshown (by rw [hevents]; simp) with hgone | ⟨commit, buffer, heq, hb, hs⟩
    · rw [hstep, Registry.get?_eq_none, hturn.ids_eq, ← Registry.get?_eq_none, hturn.get?] at hgone
      exact absurd hgone (by simp)
    · obtain rfl : old = commit := by simpa using heq
      obtain rfl : buffer = new.buffer := Option.some.inj (hb.symm.trans hown)
      exact hne (Option.some.inj (hs.symm.trans hstanding))

/-! ## The exact condition -/

theorem Exclusive.right_of_careful (steps : List Step) :
    ∀ {w : World}, w.Inv → w.Exclusive → w.Careful steps →
      ∀ n step, (w.run (steps.take n)).Right step := by
  induction steps with
  | nil =>
    intro w h he _ n step
    rw [List.take_nil]
    exact h.right he step
  | cons first rest ih =>
    intro w h he hcareful n step
    cases n with
    | zero => exact h.right he step
    | succ n =>
      have h' := h.step_inv first
      exact ih h' ((h.step_move first).exclusive h h' he hcareful.1) hcareful.2 n step

theorem Inv.careful_of_right (steps : List Step) :
    ∀ {w : World}, w.Inv → (∀ n step, (w.run (steps.take n)).Right step) → w.Careful steps := by
  induction steps with
  | nil => exact fun _ _ => trivial
  | cons first rest ih =>
    intro w h hright
    refine ⟨?_, ih (h.step_inv first) fun n step => hright (n + 1) step⟩
    intro new hnew old hold hbuffer
    exact h.wrong_of_careless hnew hold hbuffer (hright 1 (.release old))

/-- **When late releases are told apart.** In a run, whatever its interleaving of calls and
events, every image that an output presents comes back only by the release of its own
commit or with the end of its output, and will at whatever happens next, if and only
if the run committed no buffer of which an earlier commit had not been released. -/
theorem right_iff_careful (appId : String) (mode : Mode) (steps : List Step) :
    (∀ n step, ((start appId mode).run (steps.take n)).Right step) ↔
      (start appId mode).Careful steps :=
  ⟨(start_inv appId mode).careful_of_right steps, fun hcareful =>
    Exclusive.right_of_careful steps (start_inv appId mode)
      (fun _ h => absurd h List.not_mem_nil) hcareful⟩

/-- An image is shown on a first output, comes back when that output is destroyed, and is
shown on a second one, while its first commit is not released. -/
def reshown : List Step :=
  [.event (.global 1 "wl_compositor" 4), .event (.global 2 "zwp_linux_dmabuf_v1" 3),
    .event (.global 3 "xdg_wm_base" 1), .event (.modifier 875713112 0 0),
    .createOutput, .createOutput, .allocate (.numbered 0),
    .schedule ⟨0⟩ { Image.numbered 0 with backendData := ⟨some (.remoteBuffer 0)⟩ },
    .destroyOutput ⟨0⟩, .takeEvents]

/-- The late release of the first commit makes the second output give the image back, while
the compositor uses it for the second commit. -/
theorem late_release_gives_back :
    let image := { Image.numbered 0 with backendData := ⟨some (.remoteBuffer 0)⟩ }
    let w := (start "ferrule" .standard).run (reshown ++ [.schedule ⟨1⟩ image])
    ¬ w.Right (.release ⟨0, 0, 0⟩) ∧
      w.remote.inUse = [⟨0, 0, 0⟩, ⟨1, 1, 0⟩] ∧
      w.newEvents (.release ⟨0, 0, 0⟩) = [.output ⟨1⟩ (.released image)] ∧
      (w.step (.release ⟨0, 0, 0⟩)).remote.inUse = [⟨1, 1, 0⟩] := by
  intro image w
  have hnew : (⟨1, 1, 0⟩ : Commit) ∈ w.remote.history.drop
      ((start "ferrule" .standard).run reshown).remote.history.length := by decide +kernel
  have hold : ⟨0, 0, 0⟩ ∈ ((start "ferrule" .standard).run reshown).remote.inUse := by
    decide +kernel
  refine ⟨?_, by decide +kernel, by decide +kernel, by decide +kernel⟩
  have hlast : w = ((start "ferrule" .standard).run reshown).step (.schedule ⟨1⟩ image) :=
    List.foldl_append
  rw [hlast] at hnew ⊢
  exact ((start_inv _ _).run_inv reshown).wrong_of_careless hnew hold rfl

end World

end Scanout.Wayland
