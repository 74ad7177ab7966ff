import Scanout.Proofs.X11.World

/-!
# Pixmaps in flight

An output on an X server keeps two lists: its scheduler that of the presented images, its window
that of the pixmaps the server has not given back. They are changed by different operations, and
an image whose entry is missing in one of them would never come back. `Faithful` says that they
always match, and what follows for the notices by which a server gives pixmaps back: each of them
hands back exactly the image of its pixmap, and a notice that comes a second time, or too late,
changes nothing. A presentation that cannot be written, or that is written and cannot be flushed,
puts nothing in flight: its image is handed back at once, and a server that finds it nevertheless
gives back a pixmap that nobody waits for.
-/

namespace Scanout.X11

/-- What is in flight in a window stands for the images its scheduler has presented. -/
structure Window.Matches (d : Window) (presented : List Image) : Prop where
  /-- No pixmap stands for two images, and no image has two pixmaps. -/
  oneToOne : Directory.OneToOne d.inFlight
  /-- A pixmap stands for the presented image that carries it. -/
  mem_iff : ∀ pixmap id, (pixmap, id) ∈ d.inFlight ↔
    ∃ image ∈ presented, image.pixmap? = some pixmap ∧ image.id = id
  /-- Every presented image is in flight. -/
  complete : d.inFlight.map (·.2) = presented.map (·.id)

theorem Window.Matches.accepted {d : Window} {f : FrameScheduler} (h : d.Matches f.presented)
    {pixmap : ResourceId} {image : ImageId} (hflight : (pixmap, image) ∈ d.inFlight) :
    (f.bufferReleased image).1 = true := by
  obtain ⟨shown, hshown, -, rfl⟩ := (h.mem_iff pixmap image).mp hflight
  unfold FrameScheduler.bufferReleased
  split
  · next hnone => exact absurd (List.find?_eq_none.mp hnone shown hshown) (by simp)
  · rfl

namespace World

/-- What went over the connection since an earlier moment. -/
def since (earlier w : World) : List Entry :=
  w.log.drop earlier.log.length

/-- After the step the pixmap is not in flight in the window any more: it is given back, or the
output of the window is gone. -/
def Lands (w : World) (window pixmap : ResourceId) (step : Step) : Prop :=
  (∃ serial, step = .event serial (.idle window pixmap)) ∨
  (window ∈ w.windows ∧ window ∉ (w.step step).windows)

/-- How idle notices are dealt with. -/
structure Faithful (w : World) : Prop where
  matched : ∀ id o, (id, o) ∈ w.client.registry.outputs →
    o.details.Matches o.scheduler.presented
  /-- No scheduler rejects an image that its window has in flight. -/
  accepted : ∀ id o, (id, o) ∈ w.client.registry.outputs → ∀ pixmap image,
    (pixmap, image) ∈ o.details.inFlight → (o.scheduler.bufferReleased image).1 = true
  /-- A notice about a pixmap in flight hands back exactly the image of that pixmap. -/
  handsBack : ∀ id o, (id, o) ∈ w.client.registry.outputs → ∀ serial pixmap,
    pixmap ∈ o.details.inFlight.map (·.1) →
    ∃ image ∈ o.scheduler.presented, image.pixmap? = some pixmap ∧
      (w.step (.event serial (.idle o.details.window pixmap))).client.registry.events
        = w.client.registry.events ++ [.output id (.released image)]
  /-- Any other notice changes nothing. -/
  ignores : ∀ serial window pixmap,
    (∀ id o, (id, o) ∈ w.client.registry.outputs → o.details.window = window →
      pixmap ∉ o.details.inFlight.map (·.1)) →
    (w.step (.event serial (.idle window pixmap))).client = w.client
  /-- An image that its window cannot present puts nothing in flight, and is handed back at once. -/
  declined : ∀ id o, (id, o) ∈ w.client.registry.outputs → o.scheduler.armed = false →
    ∀ image ∈ w.hand, ∀ cause,
      ((Window.surface w.client.session.connection).present image (o.details, [])).1
        = .failed cause →
    let after := (w.step (.schedule id image)).client.registry
    (∃ o', (id, o') ∈ after.outputs ∧ o'.details.inFlight = o.details.inFlight ∧
      o'.scheduler.presented = o.scheduler.presented) ∧
    after.events = w.client.registry.events ++ [.output id (.released image)]
  /-- Once a pixmap was given back, or its output is gone, notices about it change nothing until
  it is presented in the window again, whatever happens meanwhile. -/
  once : ∀ window pixmap first, w.Lands window pixmap first → ∀ steps,
    (∀ serial target, .sent (.presentPixmap window pixmap serial target)
      ∉ (w.step first).since ((w.step first).run steps)) →
    ∀ serial, (((w.step first).run steps).step (.event serial (.idle window pixmap))).client
      = ((w.step first).run steps).client

section

variable {w : World}

theorem Inv.matched (h : w.Inv) {id : OutputId} {o : Output Window}
    (hmem : (id, o) ∈ w.client.registry.outputs) : o.details.Matches o.scheduler.presented where
  oneToOne := ⟨h.inFlight_nodup hmem, (h.booked hmem).ids_eq ▸ h.presented_nodup hmem⟩
  mem_iff := fun _ _ => (h.booked hmem).mem_iff
  complete := (h.booked hmem).ids_eq

/-- After a landing, the journal does not have the pixmap in flight. -/
theorem Inv.lands (h : w.Inv) {window pixmap : ResourceId} {step : Step}
    (hlands : w.Lands window pixmap step) :
    lastSaid (Entry.flight window pixmap) (w.step step).log ≠ some true := by
  rcases hlands with ⟨serial, rfl⟩ | ⟨-, hgone⟩
  · have hsent : (w.client.handle (.idle window pixmap)).2.1 = [] := by
      by_cases hflight : lastSaid (Entry.flight window pixmap) w.log = some true
      · obtain ⟨entry, hentry, rfl, hmem⟩ := (h.inFlight_iff window pixmap).mp hflight
        obtain ⟨_, -, -, -, hsent, -⟩ := h.idle_landed hentry hmem
        exact hsent
      · rw [h.idle_stray hflight]
    have hlog : (w.step (.event serial (.idle window pixmap))).log
        = w.log ++ [.heard serial (.idle window pixmap)] := by
      simp only [World.step, hsent, Connection.entries_nil]
    rw [hlog, lastSaid_add]
    simp [Entry.flight]
  · refine ((h.step_inv step).ledger.closed window fun entry hentry heq => ?_).flight pixmap
    exact hgone (List.mem_map.mpr ⟨entry, hentry, heq⟩)

theorem Inv.declined (h : w.Inv) {id : OutputId} {o : Output Window}
    (hmem : (id, o) ∈ w.client.registry.outputs) (hidle : o.scheduler.armed = false)
    {image : Image} (held : image ∈ w.hand) {cause : Failure}
    (hfailed : ((Window.surface w.client.session.connection).present image (o.details, [])).1
      = .failed cause) :
    (∃ o', (id, o') ∈ (w.step (.schedule id image)).client.registry.outputs ∧
      o'.details.inFlight = o.details.inFlight ∧
      o'.scheduler.presented = o.scheduler.presented) ∧
    (w.step (.schedule id image)).client.registry.events
      = w.client.registry.events ++ [.output id (.released image)] := by
  obtain ⟨t, hcall, hacted, -⟩ :=
    Client.scheduleFrame_acted h.tidy (Registry.get?_of_mem h.tidy.ids hmem) image
  obtain ⟨d, d', hoccasion, hused, hturn⟩ := hacted.turn
  obtain ⟨f, heffect, hself⟩ := hturn.mem_self
  have hevents := hturn.events_eq
  obtain ⟨call, asked, queued⟩ := t
  obtain rfl : call = .schedule image := hcall
  obtain rfl : d = o.details := by cases hoccasion; rfl
  simp only [step, if_pos held]
  cases heffect with
  | shown | lost => exact absurd (hused.1.symm.trans hfailed) (by simp)
  | queued _ busy => exact absurd busy (by simp [hidle])
  | refused =>
    have hflight : d'.inFlight = o.details.inFlight := by
      generalize (w.client.scheduleFrame id image).2.1 = sent at hused
      cases Window.used_answer hused with
      | refused | unwritten | unflushed => rfl
    exact ⟨⟨_, hself, hflight, rfl⟩, hevents⟩

theorem Inv.faithful (h : w.Inv) : w.Faithful where
  matched := fun _ _ hmem => h.matched hmem
  accepted := fun _ _ hmem _ _ hflight => (h.matched hmem).accepted hflight
  handsBack := by
    intro id o hmem serial pixmap hflight
    obtain ⟨image, himage, hpixmap, -, -, hevents⟩ := h.idle_landed hmem hflight
    exact ⟨image, himage, hpixmap, hevents⟩
  ignores := by
    intro serial window pixmap habsent
    have hflight : lastSaid (Entry.flight window pixmap) w.log ≠ some true := by
      rw [ne_eq, h.inFlight_iff]
      rintro ⟨entry, hentry, hwindow, hmem⟩
      exact habsent entry.1 entry.2 hentry hwindow hmem
    simp only [World.step, h.idle_stray hflight]
  declined := fun _ _ hmem hidle _ held _ hfailed => h.declined hmem hidle held hfailed
  once := by
    intro window pixmap first hlands steps hquiet serial
    have hfirst := h.step_inv first
    obtain ⟨news, hnews⟩ := hfirst.run_log steps
    -- nothing but a presentation makes the journal have it in flight again
    have hflight : lastSaid (Entry.flight window pixmap) ((w.step first).run steps).log
        ≠ some true := by
      rw [← hnews]
      refine lastSaid_ne (fun e he htrue => ?_) (h.lands hlands)
      obtain ⟨serial, target, rfl⟩ := Entry.flight_eq_true htrue
      refine hquiet serial target ?_
      rw [since, ← hnews, List.drop_left]
      exact he
    rw [World.step, (hfirst.run_inv steps).idle_stray hflight]

end

/-- **Pixmaps and images stay in step.** On a connection whose identifiers are apart from each
other, whatever the program does, whatever the server sends, and whatever fails to be written or
flushed: on every output, what is in flight
is a bijection between the pixmaps and the presented images that carry them; an idle notice hands
back an image if and only if its pixmap is in flight in that window, and then the very image of
that pixmap; and until the pixmap is presented in the window again, a further notice about it
changes nothing, even when the output is gone and the image is presented elsewhere. -/
theorem pixmaps_faithful (session : Session) (hapart : 0 < session.ids.step) (title : String)
    (mode : Mode) (steps : List Step) : ((start session title mode).run steps).Faithful :=
  ((start_inv hapart title mode).run_inv steps).faithful

/-- An image that the server knows by a pixmap. -/
def imported (number : Nat) (pixmap : ResourceId) : Image :=
  { Image.numbered number with backendData := ⟨some (.pixmap pixmap)⟩ }

/-- Two images are imported; one is presented in the window of the first output, and the other
one follows it when the frame is completed. -/
def twoFrames : List Step :=
  [.createOutput, .createOutput, .make (.numbered 0), .make (.numbered 1),
    .attach (.ok ()) (.numbered 0), .attach (.ok ()) (.numbered 1),
    .schedule ⟨0⟩ (imported 0 5), .schedule ⟨0⟩ (imported 1 6),
    .event 1 (.complete 1 pixmapCompletion 70)]

/-- The windows, each with what is in flight there. -/
def flights (w : World) : List (ResourceId × List (ResourceId × ImageId)) :=
  w.client.registry.outputs.map fun entry => (entry.2.details.window, entry.2.details.inFlight)

/-- Both images are in flight on the first output. -/
def bothShown : World :=
  (start freshClient.session standardTitle .standard).run twoFrames

/-- That output is gone, and the first image is presented on the second one. -/
def shownElsewhere : World :=
  (bothShown.step (.destroyOutput ⟨0⟩)).run [.takeEvents, .schedule ⟨1⟩ (imported 0 5)]

/-- An image is presented twice in vain: first nothing can be written, then it is not flushed. -/
def inVain : List Step :=
  [.createOutput, .make (.numbered 0), .attach (.ok ()) (.numbered 0),
    .connection { write := fun _ => .error { message := "broken pipe" } },
    .schedule ⟨0⟩ (imported 0 3), .takeEvents,
    .connection { flush := fun _ => .error { message := "broken pipe" } },
    .schedule ⟨0⟩ (imported 0 3), .takeEvents]

/-- Nothing is in flight, and the program holds the image again. -/
def presentedInVain : World :=
  (start freshClient.session standardTitle .standard).run inVain

/-- The late notice of the first presentation is ignored, and so is one about a presentation that
the server finds although it was not flushed. -/
theorem late_notice_ignored :
    0 < freshClient.session.ids.step ∧
    bothShown.flights = [(1, [(5, ⟨0⟩), (6, ⟨1⟩)]), (3, [])] ∧
    shownElsewhere.flights = [(3, [(5, ⟨0⟩)])] ∧
    (∀ serial, (shownElsewhere.step (.event serial (.idle 1 5))).client
      = shownElsewhere.client) ∧
    presentedInVain.log.getLast? = some (.withdrawn (.presentPixmap 1 3 2 1)) ∧
    presentedInVain.flights = [(1, [])] ∧ presentedInVain.hand = [imported 0 3] ∧
    ∀ serial, (presentedInVain.step (.event serial (.idle 1 3))).client
      = presentedInVain.client := by
  have hapart : 0 < freshClient.session.ids.step := by decide
  have hlands : bothShown.Lands 1 5 (.destroyOutput ⟨0⟩) :=
    .inr ⟨by decide +kernel, by decide +kernel⟩
  have hsince : (bothShown.step (.destroyOutput ⟨0⟩)).since shownElsewhere
      = [.sent (.presentPixmap 3 5 1 1)] := by decide +kernel
  refine ⟨hapart, by decide +kernel, by decide +kernel, ?_, by decide +kernel, by decide +kernel,
    by decide +kernel, fun serial => ?_⟩
  · refine (pixmaps_faithful _ hapart standardTitle .standard twoFrames).once 1 5 _ hlands _ ?_
    intro serial target hmem
    have hmem : Entry.sent (.presentPixmap 1 5 serial target)
        ∈ (bothShown.step (.destroyOutput ⟨0⟩)).since shownElsewhere := hmem
    rw [hsince] at hmem
    simp at hmem
  · have hnone : ∀ entry ∈ presentedInVain.client.registry.outputs,
        entry.2.details.inFlight = [] := by decide +kernel
    refine (pixmaps_faithful _ hapart standardTitle .standard inVain).ignores serial 1 3 ?_
    intro id o hmem _
    rw [hnone (id, o) hmem]
    exact List.not_mem_nil

end World

end Scanout.X11
