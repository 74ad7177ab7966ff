import Scanout.Proofs.X11.InFlight

/-!
# The last refresh

A frame is presented for the refresh after the last one that the server counted in its window.
Counts are the server's, and there is one after which no other can be named: presenting then
breaks a contract, and the image is lost. `lost_only_when_overdue` says that this is the only way
to lose an image, and in which runs it happens: those with a step that is `Overdue`.
-/

namespace Scanout.X11

/-- The last refresh that can be named. -/
def lastRefresh : UInt64 := 0xffffffffffffffff

theorem fits_iff {msc : UInt64} : msc.toNat + 1 < UInt64.size ↔ msc ≠ lastRefresh := by
  have hlt : msc.toNat < UInt64.size := msc.toNat_lt_size
  have hlast : lastRefresh.toNat + 1 = UInt64.size := by decide
  constructor
  · rintro hfits rfl
    omega
  · intro hne
    have hnat : msc.toNat ≠ lastRefresh.toNat := fun heq => hne (UInt64.toNat_inj.mp heq)
    omega

/-- A window has the last count if that is what the journal says. -/
theorem Booked.last_iff {log : List Entry} {d : Window} {presented : List Image} {armed : Bool}
    (h : Booked log d presented armed) :
    d.lastMsc = lastRefresh ↔ lastSaid (Entry.count d.window) log = some lastRefresh := by
  rw [← h.count]
  cases lastSaid (Entry.count d.window) log with
  | none => simp [lastRefresh]
  | some msc => simp

/-- Presenting breaks a contract if and only if the image is imported and the window has the last
count. -/
theorem Window.used_fault_iff {connection : Connection} {image : Image}
    {answer : Outcome Failure Unit} {d : Window} {after : Window × List Request}
    (h : (surface connection).Used [.present image answer] (d, []) after) (e : Fault) :
    answer = .fault e ↔ e = .additionOverflow ∧ image.pixmap?.isSome ∧ d.lastMsc = lastRefresh := by
  obtain ⟨d', sent⟩ := after
  cases used_answer h with
  | shown _ _ fits | unwritten _ fits | unflushed _ _ fits => simp [fits_iff.mp fits]
  | refused unknown => simp [unknown]
  | overdue imported last =>
    have hlast : d.lastMsc = lastRefresh := by
      by_contra hne
      exact last (fits_iff.mpr hne)
    simp [imported, hlast, eq_comm]

section

variable {connection : Connection} {f f' : FrameScheduler} {asked : List SurfaceCall}
  {queued : List OutputEvent} {d : Window} {after : Window × List Request}

/-- Scheduling an image breaks a contract if it is to be shown at once, is imported, and the window
has the last count; otherwise it breaks none. -/
theorem Window.schedule_faults {image : Image}
    (heffect : f.Effect ⟨.schedule image, asked, queued⟩ f')
    (hused : (surface connection).Used asked (d, []) after) :
    FrameScheduler.Turn.faults ⟨.schedule image, asked, queued⟩
      = if f.armed = false ∧ image.pixmap?.isSome ∧ d.lastMsc = lastRefresh
        then [(.additionOverflow, image)] else [] := by
  cases heffect with
  | shown | refused =>
    have hfits := (used_fault_iff hused .additionOverflow).not.mp (by simp)
    exact (if_neg fun h => hfits ⟨rfl, h.2⟩).symm
  | lost _ e idle =>
    obtain ⟨rfl, hlate⟩ := (used_fault_iff hused e).mp rfl
    exact (if_pos ⟨idle, hlate⟩).symm
  | queued _ busy => exact (if_neg fun h => absurd busy (by simp [h.1])).symm

/-- Completing a frame breaks a contract if an image waits that is imported, and the window has the
last count by then; otherwise it breaks none. -/
theorem Window.frameDone_faults (heffect : f.Effect ⟨.frameDone, asked, queued⟩ f')
    (hused : (surface connection).Used asked (d, []) after) :
    FrameScheduler.Turn.faults ⟨.frameDone, asked, queued⟩
      = if f.armed = true ∧ d.lastMsc = lastRefresh
        then (f.pending.filter (·.pixmap?.isSome)).toList.map (.additionOverflow, ·) else [] := by
  cases heffect with
  | ignored idle => exact (if_neg fun h => absurd h.1 (by simp [idle])).symm
  | completed _ empty => simp [empty, FrameScheduler.Turn.faults]
  | followed image _ waiting | followerRefused image _ _ waiting =>
    have hfits := (used_fault_iff hused .additionOverflow).not.mp (by simp)
    rw [waiting]
    by_cases hlast : d.lastMsc = lastRefresh
    · have hunknown : image.pixmap?.isSome = false := by simpa [hlast] using hfits
      simp [Option.filter, hunknown, FrameScheduler.Turn.faults]
    · exact (if_neg fun h => hlast h.2).symm
  | followerLost image e busy waiting =>
    obtain ⟨rfl, himported, hlast⟩ := (used_fault_iff hused e).mp rfl
    rw [if_pos ⟨busy, hlast⟩, waiting]
    simp [Option.filter, himported, FrameScheduler.Turn.faults]

end

/-- Of the events of a server only a completion can break a contract. -/
theorem Client.handle_whole (c : Client) {e : Event}
    (he : ∀ window msc, e ≠ .complete window pixmapCompletion msc) : (c.handle e).1 = none := by
  cases e with
  | complete window kind msc =>
    have hkind : kind ≠ pixmapCompletion := fun hkind => he window msc (by rw [hkind])
    simp only [handle, if_neg hkind]
  | idle window pixmap =>
    simp only [handle, idle]
    split
    · rfl
    · split <;> rfl
  | configure window width height =>
    simp only [handle, configure]
    split
    · rfl
    · split
      · rfl
      · split <;> rfl
  | message window format data =>
    simp only [handle, close]
    split
    · split <;> rfl
    · rfl
  | error | unhandled => rfl

namespace World

/-- A step that presents an imported image after the last refresh: no frame waits in the window,
or the frame that waits is just completed and an image waits to follow it. -/
def Overdue (w : World) : Step → Prop
  | .schedule id image => image ∈ w.hand ∧ image.pixmap?.isSome ∧
    ∃ o, w.client.registry.get? id = some o ∧
      lastSaid (Entry.frame o.details.window) w.log ≠ some true ∧
      lastSaid (Entry.count o.details.window) w.log = some lastRefresh
  | .event _ (.complete window kind msc) => kind = pixmapCompletion ∧ msc = lastRefresh ∧
    lastSaid (Entry.frame window) w.log = some true ∧
    ∃ id o image, w.client.outputOf? window = some (id, o) ∧ o.scheduler.pending = some image ∧
      image.pixmap?.isSome
  | _ => False

/-- No step is overdue. -/
def Timely : World → List Step → Prop
  | _, [] => True
  | w, step :: rest => ¬ w.Overdue step ∧ Timely (w.step step) rest

/-- What a step does to the contracts: it breaks one if it is overdue, and none otherwise. -/
inductive Reckoned (w : World) (step : Step) : Prop where
  | lost (image : Image) (overdue : w.Overdue step)
      (faults : (w.step step).faults = w.faults ++ [(.additionOverflow, image)]) : Reckoned w step
  | whole (timely : ¬ w.Overdue step) (faults : (w.step step).faults = w.faults) : Reckoned w step

section

variable {w : World}

theorem Inv.schedule_reckoned (h : w.Inv) (id : OutputId) (image : Image) :
    w.Reckoned (.schedule id image) := by
  by_cases held : image ∈ w.hand
  swap
  · exact .whole (fun hoverdue => held hoverdue.1) (by simp only [step, if_neg held])
  cases hget : w.client.registry.get? id with
  | none =>
    have hnone : ¬ w.Overdue (.schedule id image) := by
      rintro ⟨-, -, o, ho, -⟩
      exact absurd (hget.symm.trans ho) (by simp)
    refine .whole hnone ?_
    simp only [step, if_pos held, Client.scheduleFrame_unknown hget]
    exact List.append_nil _
  | some o =>
    obtain ⟨t, hcall, hacted, hfaults, -, -⟩ := Client.scheduleFrame_acted h.tidy hget image
    have hstep : (w.step (.schedule id image)).faults = w.faults ++ t.faults := by
      simp only [step, if_pos held, hfaults]
    have hbooked := h.booked (Registry.mem_of_get? hget)
    obtain ⟨d, d', hoccasion, hused, hturn⟩ := hacted.turn
    obtain ⟨f, heffect⟩ := hturn.effect
    have hoverdue : w.Overdue (.schedule id image) ↔ o.scheduler.armed = false ∧
        image.pixmap?.isSome ∧ o.details.lastMsc = lastRefresh := by
      simp only [Overdue, held, hget, Option.some.injEq, exists_eq_left', ne_eq, hbooked.frame,
        hbooked.last_iff, true_and, Bool.not_eq_true, and_left_comm]
    obtain ⟨call, asked, queued⟩ := t
    obtain rfl : call = .schedule image := hcall
    obtain rfl : d = o.details := by cases hoccasion; rfl
    rw [Window.schedule_faults heffect hused] at hstep
    by_cases hlate : o.scheduler.armed = false ∧ image.pixmap?.isSome ∧
      o.details.lastMsc = lastRefresh
    · exact .lost image (hoverdue.mpr hlate) (by rw [hstep, if_pos hlate])
    · exact .whole (mt hoverdue.mp hlate) (by rw [hstep, if_neg hlate, List.append_nil])

theorem Inv.complete_reckoned (h : w.Inv) (serial : UInt32) (window : ResourceId) (msc : UInt64) :
    w.Reckoned (.event serial (.complete window pixmapCompletion msc)) := by
  have hhandle := Client.handle_complete (c := w.client) window msc
  rcases Client.complete_cases h.tidy serial window msc with
    ⟨hnone, hsame⟩ | ⟨id, o, t, hout, hcall, hacted, hfaults⟩
  · refine .whole (fun ⟨_, _, _, id, o, _, ho, _⟩ => absurd (hnone.symm.trans ho) (by simp)) ?_
    simp only [step, hhandle, hsame]
    exact List.append_nil _
  have hstep : (w.step (.event serial (.complete window pixmapCompletion msc))).faults
      = w.faults ++ t.faults := by simp only [step, hhandle, hfaults]
  obtain ⟨hmem, rfl⟩ := Client.outputOf?_eq_some hout
  have hbooked := h.booked hmem
  obtain ⟨d, d', hoccasion, hused, hturn⟩ := hacted.turn
  obtain ⟨f, heffect⟩ := hturn.effect
  have hoverdue : w.Overdue (.event serial (.complete o.details.window pixmapCompletion msc)) ↔
      msc = lastRefresh ∧ o.scheduler.armed = true ∧
        ∃ image, o.scheduler.pending = some image ∧ image.pixmap?.isSome := by
    simp only [Overdue, hbooked.frame, hout, Option.some.injEq, Prod.mk.injEq, true_and]
    constructor
    · rintro ⟨hmsc, hbusy, _, _, image, ⟨rfl, rfl⟩, hwaits, hpixmap⟩
      exact ⟨hmsc, hbusy, image, hwaits, hpixmap⟩
    · rintro ⟨hmsc, hbusy, image, hwaits, hpixmap⟩
      exact ⟨hmsc, hbusy, id, o, image, ⟨rfl, rfl⟩, hwaits, hpixmap⟩
  obtain ⟨call, asked, queued⟩ := t
  obtain rfl : call = .frameDone := hcall
  obtain rfl : d = { o.details with lastMsc := msc } := by cases hoccasion; rfl
  rw [Window.frameDone_faults heffect hused] at hstep
  by_cases hlate : msc = lastRefresh ∧ o.scheduler.armed = true ∧
    ∃ image, o.scheduler.pending = some image ∧ image.pixmap?.isSome
  · obtain ⟨hlast, hbusy, image, hwaits, himported⟩ := hlate
    refine .lost image (hoverdue.mpr ⟨hlast, hbusy, image, hwaits, himported⟩) ?_
    rw [hstep, if_pos ⟨hbusy, hlast⟩, hwaits]
    simp [Option.filter, himported]
  · refine .whole (mt hoverdue.mp hlate) ?_
    rw [hstep]
    split
    · next hnow =>
      have hnone : o.scheduler.pending.filter (·.pixmap?.isSome) = none := by
        rw [Option.filter_eq_none_iff]
        exact fun image hwaits himported =>
          hlate ⟨hnow.2, hnow.1, image, hwaits, himported⟩
      rw [hnone]
      exact List.append_nil _
    · exact List.append_nil _

theorem Inv.step_reckoned (h : w.Inv) (step : Step) : w.Reckoned step := by
  cases step with
  | schedule id image => exact h.schedule_reckoned id image
  | event serial e =>
    by_cases he : ∃ window msc, e = .complete window pixmapCompletion msc
    · obtain ⟨window, msc, rfl⟩ := he
      exact h.complete_reckoned serial window msc
    · have hother : ∀ window msc, e ≠ .complete window pixmapCompletion msc :=
        fun window msc heq => he ⟨window, msc, heq⟩
      refine .whole (fun hoverdue => ?_) ?_
      · cases e with
        | complete window kind msc => exact hother window msc (by rw [hoverdue.1])
        | _ => exact hoverdue
      · simp only [World.step, w.client.handle_whole hother]
        exact List.append_nil _
  | attach | letGo | change | renew =>
    refine .whole id ?_
    simp only [World.step]
    split <;> rfl
  | createOutput | make | destroyOutput | takeEvents | loseConnection | connection =>
    exact .whole id rfl

/-- The faults of a run are those there were, and none is added if and only if it is timely. -/
theorem Inv.run_faults (h : w.Inv) (steps : List Step) :
    ∃ more, (w.run steps).faults = w.faults ++ more ∧ (more = [] ↔ w.Timely steps) ∧
      ∀ fault ∈ more, fault.1 = .additionOverflow := by
  induction steps generalizing w with
  | nil => exact ⟨[], (List.append_nil _).symm, by simp [Timely], by simp⟩
  | cons step rest ih =>
    obtain ⟨more, hmore, htimely, hkind⟩ := ih (h.step_inv step)
    have hrun : (w.run (step :: rest)).faults = (w.step step).faults ++ more := hmore
    cases h.step_reckoned step with
    | lost image overdue faults =>
      refine ⟨(.additionOverflow, image) :: more, ?_, ?_, ?_⟩
      · rw [hrun, faults, List.append_assoc, List.singleton_append]
      · simp [Timely, overdue]
      · simpa using hkind
    | whole timely faults =>
      exact ⟨more, by rw [hrun, faults], by simp [Timely, timely, htimely], hkind⟩

end

/-- What becomes of the images that were scheduled in a run. -/
structure Accounted (first : World) (steps : List Step) : Prop where
  /-- Every one of them waits, is presented, is on its way back, came back, or was lost. -/
  everyImage : (first.run steps).taken.Perm
    ((first.run steps).client.registry.images ++ returnedImages (first.run steps).delivered
      ++ (first.run steps).faults.map (·.2))
  /-- One contract only is ever broken. -/
  overflow : ∀ fault ∈ (first.run steps).faults, fault.1 = .additionOverflow
  /-- None is broken if and only if no step is overdue. -/
  timely_iff : (first.run steps).faults = [] ↔ first.Timely steps
  /-- And then no image is lost. -/
  whole : first.Timely steps → (first.run steps).taken.Perm
    ((first.run steps).client.registry.images ++ returnedImages (first.run steps).delivered)

/-- **Images are lost at the last refresh, and nowhere else.** Whatever the program does and
whatever counts the server sends: no call and no event breaks a contract unless it presents an
image in a window whose last count is the last there is, and it does break one then; without such
a step, every image that was scheduled waits, is presented, or is handed back. -/
theorem lost_only_when_overdue (session : Session) (hapart : 0 < session.ids.step) (title : String)
    (mode : Mode) (steps : List Step) : (start session title mode).Accounted steps := by
  have hstart := start_inv hapart title mode
  have haccounted := (hstart.run_inv steps).accounted
  obtain ⟨more, hmore, htimely, hkind⟩ := hstart.run_faults steps
  have hfaults : ((start session title mode).run steps).faults = more := hmore
  refine ⟨haccounted, hfaults ▸ hkind, hfaults ▸ htimely, fun hnow => ?_⟩
  rw [hfaults, htimely.mpr hnow, List.map_nil, List.append_nil] at haccounted
  exact haccounted

/-- An image is scheduled in a window that had a count before. -/
def scheduledAt (msc : UInt64) : List Step :=
  [.createOutput, .make (.numbered 0), .attach (.ok ()) (.numbered 0),
    .event 0 (.complete 1 pixmapCompletion msc), .schedule ⟨0⟩ (imported 0 3)]

/-- One refresh before the last one, all is well. -/
theorem shown_at_last_refresh :
    0 < freshClient.session.ids.step ∧
    (start freshClient.session standardTitle .standard).Timely (scheduledAt (lastRefresh - 1)) ∧
    ((start freshClient.session standardTitle .standard).run
      (scheduledAt (lastRefresh - 1))).log.getLast?
        = some (.sent (.presentPixmap 1 3 1 lastRefresh)) := by
  have hapart : 0 < freshClient.session.ids.step := by decide
  have haccounted := lost_only_when_overdue _ hapart standardTitle .standard
    (scheduledAt (lastRefresh - 1))
  exact ⟨hapart, haccounted.timely_iff.mp (by decide +kernel), by decide +kernel⟩

def pastTheLast : World :=
  (start freshClient.session standardTitle .standard).run (scheduledAt lastRefresh)

/-- After the last one, the image is gone: it was taken, and it is nowhere. -/
theorem lost_after_last_refresh :
    pastTheLast.taken = [imported 0 3] ∧
    pastTheLast.faults = [(.additionOverflow, imported 0 3)] ∧
    pastTheLast.client.registry.images = [] ∧ pastTheLast.delivered = [] ∧
    pastTheLast.hand = [] := by
  decide +kernel

end World

end Scanout.X11
