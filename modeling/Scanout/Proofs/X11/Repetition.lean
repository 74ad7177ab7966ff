import Scanout.Proofs.X11.InFlight

/-!
# Notices that come twice

A notice of the server carries the serial number of the presentation it is about, and the display
does not read that number: it goes by the window and the pixmap alone. So a notice that comes a
second time is dropped for as long as nothing was presented in between, and after that it is taken
for the notice of the later presentation. `repetitions_dropped_unless_renewed` says exactly when
that happens: an image comes back while the server still reads it, or a frame ends that is still
on its way.
-/

namespace Scanout.X11.World

/-- The display does nothing about a notice: no image comes back, nothing is presented, no frame
is announced. -/
structure Drops (w : World) (serial : UInt32) (e : Event) : Prop where
  quiet : (w.step (.event serial e)).client.registry.events = w.client.registry.events
  unsent : (w.step (.event serial e)).log = w.log ++ [.heard serial e]
  whole : (w.step (.event serial e)).faults = w.faults

/-- What becomes of notices that were heard before. -/
structure Repetitions (w : World) : Prop where
  /-- An idle notice is dropped unless the pixmap is with the server again. -/
  idle : ∀ before after serial window pixmap,
    w.log = before ++ .heard serial (.idle window pixmap) :: after →
    (w.Drops serial (.idle window pixmap) ↔
      lastSaid (Entry.flight window pixmap) after ≠ some true)
  /-- If it is, the image is handed back that was presented since. -/
  takesBack : ∀ before after serial window pixmap,
    w.log = before ++ .heard serial (.idle window pixmap) :: after →
    lastSaid (Entry.flight window pixmap) after = some true →
    ∃ id o image, (id, o) ∈ w.client.registry.outputs ∧ o.details.window = window ∧
      image ∈ o.scheduler.presented ∧ image.pixmap? = some pixmap ∧
      (w.step (.event serial (.idle window pixmap))).client.registry.events
        = w.client.registry.events ++ [.output id (.released image)]
  /-- A completion is dropped unless it is about a pixmap and a later frame waits in the window. -/
  complete : ∀ before after serial window kind msc again,
    w.log = before ++ .heard serial (.complete window kind msc) :: after →
    (w.Drops serial (.complete window kind again) ↔
      ¬ (kind = pixmapCompletion ∧ lastSaid (Entry.frame window) after = some true))

section

variable {w : World}

/-- What a notice does that the client meets with nothing. -/
theorem drops_of_handled {serial : UInt32} {e : Event}
    (hevents : (w.client.handle e).2.2.registry.events = w.client.registry.events)
    (hsent : (w.client.handle e).2.1 = []) (hlost : (w.client.handle e).1 = none) :
    w.Drops serial e := by
  refine ⟨hevents, ?_, ?_⟩
  · simp only [step, hsent, Connection.entries_nil]
  · simp only [step, hlost, Option.toList_none, List.append_nil]

theorem Inv.idle_drops_iff (h : w.Inv) (serial : UInt32) (window pixmap : ResourceId) :
    w.Drops serial (.idle window pixmap) ↔
      lastSaid (Entry.flight window pixmap) w.log ≠ some true := by
  constructor
  · rintro hdrops hflight
    obtain ⟨entry, hentry, rfl, hmem⟩ := (h.inFlight_iff window pixmap).mp hflight
    obtain ⟨image, -, -, -, -, hevents⟩ := h.idle_landed hentry hmem
    have hsame := hevents.symm.trans hdrops.quiet
    exact absurd hsame (by simp)
  · intro hflight
    have hstray := h.idle_stray hflight
    exact drops_of_handled (by rw [hstray]) (by rw [hstray]) (by rw [hstray])

/-- A completion that no frame waits for does nothing, and any other one announces the frame or
breaks a contract. -/
theorem Inv.complete_drops_iff (h : w.Inv) (serial : UInt32) (window : ResourceId) (msc : UInt64) :
    w.Drops serial (.complete window pixmapCompletion msc) ↔
      lastSaid (Entry.frame window) w.log ≠ some true := by
  have hhandle := Client.handle_complete (c := w.client) window msc
  rcases Client.complete_cases h.tidy serial window msc with
    ⟨hnone, hsame⟩ | ⟨id, o, t, hout, hcall, hacted, hfaults⟩
  · have hframe : lastSaid (Entry.frame window) w.log ≠ some true := by
      rw [ne_eq, h.frame_iff]
      rintro ⟨entry, hentry, hwindow, -⟩
      exact Client.outputOf?_eq_none hnone entry hentry hwindow
    rw [← hhandle] at hsame
    exact iff_of_true (drops_of_handled (by rw [hsame]) (by rw [hsame]) (by rw [hsame])) hframe
  obtain ⟨hmem, rfl⟩ := Client.outputOf?_eq_some hout
  rw [← hhandle] at hacted hfaults
  obtain ⟨d, d', -, hused, hturn⟩ := hacted.turn
  obtain ⟨f, heffect⟩ := hturn.effect
  have hevents := hturn.events_eq
  obtain ⟨call, asked, queued⟩ := t
  obtain rfl : call = .frameDone := hcall
  have hbooked := (h.booked hmem).frame
  cases heffect with
  | ignored idle =>
    have hsent : (w.client.handle (.complete o.details.window pixmapCompletion msc)).2.1 = [] :=
      (Prod.mk.inj hused).2
    have hnone : (w.client.handle (.complete o.details.window pixmapCompletion msc)).1 = none := by
      simpa [FrameScheduler.Turn.faults] using hfaults
    have hframe : lastSaid (Entry.frame o.details.window) w.log ≠ some true := by
      rw [ne_eq, hbooked, idle]
      simp
    exact iff_of_true (drops_of_handled (by simpa using hevents) hsent hnone) hframe
  | completed busy | followed _ busy | followerRefused _ _ busy =>
    refine iff_of_false (fun hdrops => ?_) (not_not_intro (hbooked.mpr busy))
    exact absurd (hevents.symm.trans hdrops.quiet) (by simp)
  | followerLost image _ busy =>
    refine iff_of_false (fun hdrops => ?_) (not_not_intro (hbooked.mpr busy))
    have hwhole := hdrops.whole
    simp only [step, hfaults] at hwhole
    exact absurd hwhole (by simp [FrameScheduler.Turn.faults])

theorem Inv.repetitions (h : w.Inv) : w.Repetitions where
  idle := by
    intro before after serial window pixmap hlog
    have hback : (Entry.heard serial (.idle window pixmap)).flight window pixmap = some false := by
      simp [Entry.flight]
    rw [h.idle_drops_iff, hlog, ne_eq, lastSaid_since hback (by simp)]
  takesBack := by
    intro before after serial window pixmap hlog hrenewed
    have hback : (Entry.heard serial (.idle window pixmap)).flight window pixmap = some false := by
      simp [Entry.flight]
    have hflight : lastSaid (Entry.flight window pixmap) w.log = some true := by
      rwa [hlog, lastSaid_since hback (by simp)]
    obtain ⟨entry, hentry, rfl, hmem⟩ := (h.inFlight_iff window pixmap).mp hflight
    obtain ⟨image, himage, hpixmap, -, -, hevents⟩ := h.idle_landed hentry hmem
    exact ⟨entry.1, entry.2, image, hentry, rfl, himage, hpixmap, hevents⟩
  complete := by
    intro before after serial window kind msc again hlog
    by_cases hkind : kind = pixmapCompletion
    · subst hkind
      have hover : (Entry.heard serial (.complete window pixmapCompletion msc)).frame window
          = some false := by
        simp [Entry.frame]
      rw [h.complete_drops_iff, hlog, ne_eq, lastSaid_since hover (by simp)]
      simp
    · have hnothing : w.client.handle (.complete window kind again) = (none, [], w.client) :=
        if_neg hkind
      exact iff_of_true (drops_of_handled (by rw [hnothing]) (by rw [hnothing]) (by rw [hnothing]))
        fun hboth => hkind hboth.1

end

/-- **A notice that comes twice is dropped unless it fits a later presentation.** Whatever the
program does and whatever the server sends: an idle notice that was heard before does nothing if
and only if its pixmap was not presented in the window since and is still there, and otherwise
hands back the image presented since; a completion that was heard before does nothing if and only
if no frame was presented in the window since that still waits. -/
theorem repetitions_dropped_unless_renewed (session : Session) (hapart : 0 < session.ids.step)
    (title : String) (mode : Mode) (steps : List Step) :
    ((start session title mode).run steps).Repetitions :=
  ((start_inv hapart title mode).run_inv steps).repetitions

/-- An image is shown, and comes back by a notice. -/
def roundTrip : List Step :=
  [.createOutput, .make (.numbered 0), .attach (.ok ()) (.numbered 0),
    .schedule ⟨0⟩ (imported 0 3), .event 1 (.complete 1 pixmapCompletion 70),
    .event 1 (.idle 1 3), .takeEvents]

def cameBack : World :=
  (start freshClient.session standardTitle .standard).run roundTrip

/-- The same image is on its way to the server a second time. -/
def shownAgain : World :=
  cameBack.step (.schedule ⟨0⟩ (imported 0 3))

/-- As long as nothing is shown again, the notice can come as often as it likes. -/
theorem early_repetition_dropped :
    0 < freshClient.session.ids.step ∧ cameBack.log.getLast? = some (.heard 1 (.idle 1 3)) ∧
    cameBack.Drops 1 (.idle 1 3) := by
  have hapart : 0 < freshClient.session.ids.step := by decide
  have hlog : cameBack.log = cameBack.log.dropLast ++ [.heard 1 (.idle 1 3)] := by
    decide +kernel
  refine ⟨hapart, by decide +kernel, ?_⟩
  exact ((repetitions_dropped_unless_renewed _ hapart standardTitle .standard roundTrip).idle
    _ [] 1 1 3 hlog).mpr (by simp [lastSaid])

/-- Repeated later, the notices of the first presentation are taken for those of the second: the
image comes back while the server has it, and its frame is announced. -/
theorem late_repetition_taken :
    Entry.heard 1 (.complete 1 pixmapCompletion 70) ∈ shownAgain.log ∧
    Entry.heard 1 (.idle 1 3) ∈ shownAgain.log ∧
    shownAgain.log.getLast? = some (.sent (.presentPixmap 1 3 2 71)) ∧
    shownAgain.client.registry.events = [] ∧
    (shownAgain.step (.event 1 (.idle 1 3))).client.registry.events
      = [.output ⟨0⟩ (.released (imported 0 3))] ∧
    (shownAgain.step (.event 1 (.complete 1 pixmapCompletion 70))).client.registry.events
      = [.output ⟨0⟩ .frame] := by
  decide +kernel

end Scanout.X11.World
