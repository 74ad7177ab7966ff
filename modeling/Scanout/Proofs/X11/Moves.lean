import Scanout.Proofs.X11.Journal
import Scanout.Proofs.X11.Pacing

/-!
# What the operations of an X server's display do

Seen from its outputs, a display does only a few things: one output takes a turn on its window,
an output is made, one or all of them are torn down, or nothing happens at all. This file casts
every call and every event into these cases, broken contracts included, with the messages that
go over the connection.
-/

namespace Scanout

/-! ## Broken contracts -/

/-- The contract a submission broke, with the image that was lost. -/
def Submission.fault? : Submission → Option (Fault × Image)
  | fault e image => some (e, image)
  | _ => none

def ScheduleOutcome.fault? : ScheduleOutcome → Option (Fault × Image)
  | submitted submission => submission.fault?
  | unknownOutput _ => none

namespace FrameScheduler

/-- The contracts that were broken in a turn, each with the image that was lost. -/
def Turn.faults (t : Turn) : List (Fault × Image) :=
  t.asked.filterMap fun
    | .present image (.fault e) => some (e, image)
    | _ => none

theorem Turn.faults_images (t : Turn) : t.faults.map (·.2) = t.lost := by
  simp only [faults, lost, List.map_filterMap]
  congr 1
  funext call
  rcases call with ⟨image, _ | _ | _⟩ | _ <;> rfl

variable {σ : Type} {surface : Surface σ} {f f' : FrameScheduler} {s s' : σ}

/-- A turn that loses an image tells nothing. -/
theorem Effect.queued_of_faults {t : Turn} (h : f.Effect t f') (hfaults : t.faults ≠ []) :
    t.queued = [] := by
  cases h with
  | lost | followerLost => rfl
  | ended =>
    cases ha : f.armed <;> simp [Turn.faults, ha] at hfaults
  | _ => exact absurd rfl hfaults

/-- What scheduling reports as lost is what the turn lost. -/
theorem Effect.schedule_faults {image : Image} {asked : List SurfaceCall}
    {queued : List OutputEvent} (h : f.Effect ⟨.schedule image, asked, queued⟩ f')
    (hused : surface.Used asked s s') :
    (f.schedule surface image s).1.fault?.toList
      = Turn.faults ⟨.schedule image, asked, queued⟩ := by
  rcases hp : surface.present image s with ⟨answer, s''⟩
  cases h with
  | shown _ idle | refused _ _ idle | lost _ _ idle =>
    have hanswer : (surface.present image s).1 = _ := hused.1
    rw [hp] at hanswer
    subst hanswer
    simp only [schedule, idle, Bool.false_eq_true, if_false, commit, hp]
    rfl
  | queued _ busy =>
    simp only [schedule, busy, if_true]
    rfl

/-- What a completion reports as lost is what the turn lost. -/
theorem Effect.frameDone_faults {asked : List SurfaceCall} {queued : List OutputEvent}
    (h : f.Effect ⟨.frameDone, asked, queued⟩ f') (hused : surface.Used asked s s') :
    (f.frameDone surface s).1.toList = Turn.faults ⟨.frameDone, asked, queued⟩ := by
  cases h with
  | ignored idle =>
    simp only [frameDone, idle, Bool.false_eq_true, if_false]
    rfl
  | completed busy empty =>
    simp only [frameDone, busy, if_true, empty]
    rfl
  | followed image busy waiting | followerRefused image _ busy waiting
  | followerLost image _ busy waiting =>
    rcases hp : surface.present image s with ⟨answer, s''⟩
    have hanswer : (surface.present image s).1 = _ := hused.1
    rw [hp] at hanswer
    subst hanswer
    simp only [frameDone, busy, if_true, waiting, commit, hp]
    rfl

end FrameScheduler

/-- An output that has nothing to tell is put back as it is. -/
theorem Registry.Settled.set {δ : Type} {r : Registry δ} (hr : r.Settled) (id : OutputId)
    {o : Output δ} (ho : o.scheduler.events = []) : (r.set id o).Settled := by
  intro entry he
  obtain ⟨old, hold, rfl⟩ := List.mem_map.mp he
  split
  · exact ho
  · exact hr old hold

namespace X11

/-! ## Windows -/

namespace Window

/-- How a window takes an image: it is shown, unknown to the server, does not get through to it, or
the time to show it at cannot be named. -/
inductive Answer (connection : Connection) (image : Image) (d : Window) :
    Outcome Failure Unit → Window → List Request → Prop where
  | shown (pixmap : ResourceId) (imported : image.pixmap? = some pixmap)
      (fits : d.lastMsc.toNat + 1 < UInt64.size)
      (flushed : connection.flush [d.countUp.request pixmap] = .ok ()) :
    Answer connection image d (.done ()) (d.countUp.remember pixmap image.id)
      [d.countUp.request pixmap]
  | refused (unknown : image.pixmap? = none) :
    Answer connection image d (.failed notImported) d []
  | unwritten (imported : image.pixmap?.isSome) (fits : d.lastMsc.toNat + 1 < UInt64.size)
      (cause : Failure) :
    Answer connection image d (.failed cause) d.countUp []
  | unflushed (pixmap : ResourceId) (imported : image.pixmap? = some pixmap)
      (fits : d.lastMsc.toNat + 1 < UInt64.size) (cause : Failure)
      (stuck : connection.flush [d.countUp.request pixmap] = .error cause) :
    Answer connection image d (.failed cause) d.countUp [d.countUp.request pixmap]
  | overdue (imported : image.pixmap?.isSome) (last : ¬ d.lastMsc.toNat + 1 < UInt64.size) :
    Answer connection image d (.fault .additionOverflow) d.countUp []

/-- There is no other way. -/
theorem used_answer {connection : Connection} {image : Image} {answer : Outcome Failure Unit}
    {d d' : Window} {sent : List Request}
    (h : (surface connection).Used [.present image answer] (d, []) (d', sent)) :
    d.Answer connection image answer d' sent := by
  obtain ⟨hanswer, hafter⟩ := h
  have hafter : (d', sent) = (present connection image (d, [])).2 := hafter
  have hanswer : (present connection image (d, [])).1 = answer := hanswer
  cases himage : image.pixmap? with
  | none =>
    rw [present_unknown himage] at hanswer hafter
    obtain ⟨rfl, rfl⟩ := Prod.mk.inj hafter
    rw [← hanswer]
    exact .refused himage
  | some pixmap =>
    by_cases hfits : d.lastMsc.toNat + 1 < UInt64.size
    · have hposted := connection.posted (d.countUp.request pixmap)
      rw [present_ready himage hfits connection] at hanswer hafter
      rcases hpost : connection.postAll [d.countUp.request pixmap] with ⟨result, written⟩
      rw [hpost] at hposted hanswer hafter
      cases hposted with
      | through flushed =>
        obtain ⟨rfl, rfl⟩ := Prod.mk.inj hafter
        rw [← hanswer]
        exact .shown pixmap himage hfits flushed
      | unwritten e =>
        obtain ⟨rfl, rfl⟩ := Prod.mk.inj hafter
        rw [← hanswer]
        exact .unwritten (by simp [himage]) hfits e
      | unflushed e stuck =>
        obtain ⟨rfl, rfl⟩ := Prod.mk.inj hafter
        rw [← hanswer]
        exact .unflushed pixmap himage hfits e stuck
    · have hlast : ¬ d.countUp.lastMsc.toNat + 1 < UInt64.size := hfits
      have hfault : present connection image (d, [])
          = (.fault .additionOverflow, d.countUp, []) := by
        simp only [present, Image.pixmap?_eq_some.mp himage, if_neg hlast]
      rw [hfault] at hanswer hafter
      obtain ⟨rfl, rfl⟩ := Prod.mk.inj hafter
      rw [← hanswer]
      exact .overdue (by simp [himage]) hfits

end Window

/-- Why an output takes a turn: the call on its scheduler, what was heard of the server, and the
window as it is when the scheduler is called. -/
inductive Occasion (d : Window) : FrameScheduler.Call → List Entry → Window → Prop where
  | schedule (image : Image) : Occasion d (.schedule image) [] d
  | complete (serial : UInt32) (msc : UInt64) :
    Occasion d .frameDone [.heard serial (.complete d.window pixmapCompletion msc)]
      { d with lastMsc := msc }
  | idle (serial : UInt32) (pixmap : ResourceId) (image : ImageId)
      (found : d.inFlight.lookup pixmap = some image) :
    Occasion d (.bufferReleased image) [.heard serial (.idle d.window pixmap)] (d.forget pixmap)
  | configure (serial : UInt32) (width height : UInt16) (mode : Mode) :
    Occasion d (.modeChanged mode) [.heard serial (.configure d.window width height)]
      { d with info := { d.info with mode := mode } }

/-- The entries of the requests a display sent. -/
def sentEntries (sent : List Request) : List Entry :=
  sent.map .sent

/-- How a request over a connection is written down: a presentation stands only if it was
flushed. -/
def Connection.entry (connection : Connection) (request : Request) : Entry :=
  match request, connection.flush [request] with
  | .presentPixmap .., .error _ => .withdrawn request
  | _, _ => .sent request

/-- The entries of the requests of a turn. -/
def Connection.entries (connection : Connection) (sent : List Request) : List Entry :=
  sent.map connection.entry

@[simp] theorem Connection.entries_nil (connection : Connection) : connection.entries [] = [] := rfl

theorem sentEntries_requests (sent : List Request) :
    (sentEntries sent).filterMap Entry.request? = sent := by
  rw [sentEntries, List.filterMap_map]
  exact List.filterMap_some

/-- Whatever comes of a request, it is written down. -/
theorem Connection.entries_requests (connection : Connection) (sent : List Request) :
    (connection.entries sent).filterMap Entry.request? = sent := by
  have hentry : Entry.request? ∘ connection.entry = some := by
    funext request
    simp only [Function.comp_apply, entry]
    split <;> rfl
  rw [entries, List.filterMap_map, hentry, List.filterMap_some]

/-- A presentation that was flushed is written down as one. -/
theorem Connection.entry_flushed {connection : Connection} {d : Window} {pixmap : ResourceId}
    (flushed : connection.flush [d.request pixmap] = .ok ()) :
    connection.entry (d.request pixmap) = .sent (d.request pixmap) := by
  unfold entry
  rw [flushed]
  rfl

theorem Connection.entry_stuck {connection : Connection} {d : Window} {pixmap : ResourceId}
    {cause : Failure} (stuck : connection.flush [d.request pixmap] = .error cause) :
    connection.entry (d.request pixmap) = .withdrawn (d.request pixmap) := by
  unfold entry
  rw [stuck]
  rfl

/-- One output took a turn on its window, and nothing else happened. -/
structure Client.Acted (c : Client) (id : OutputId) (o : Output Window) (heard : List Entry)
    (t : FrameScheduler.Turn) (sent : List Request) (c' : Client) : Prop where
  turn : ∃ d d', Occasion o.details t.call heard d ∧
    (Window.surface c.session.connection).Used t.asked (d, []) (d', sent) ∧
    c.registry.Turned id o t d' c'.registry
  rest : c' = { c with registry := c'.registry }

namespace Client

section

variable {c : Client} (hr : c.registry.Tidy)

include hr

/-- Putting back an output that took a turn: with its events collected, unless it lost an image,
and then it has none. -/
theorem put_back {id : OutputId} {o : Output Window} (hget : c.registry.get? id = some o)
    {heard : List Entry} {t : FrameScheduler.Turn} {f : FrameScheduler} {d d' : Window}
    {sent : List Request} (hoccasion : Occasion o.details t.call heard d)
    (hused : (Window.surface c.session.connection).Used t.asked (d, []) (d', sent))
    (heffect : o.scheduler.Effect t f) :
    c.Acted id o heard t sent { c with registry := (c.registry.set id ⟨f, d'⟩).collect } ∧
    (t.faults ≠ [] → (c.registry.set id ⟨f, d'⟩).collect = c.registry.set id ⟨f, d'⟩) := by
  have hcall : t.call ≠ .takeEvents := by
    intro hcall
    rw [hcall] at hoccasion
    cases hoccasion
  refine ⟨⟨⟨d, d', hoccasion, hused, hr.settled.turned_set hr.ids hget heffect hcall d'⟩, rfl⟩, ?_⟩
  intro hfaults
  have hevents : f.events = [] := by
    rw [heffect.events_eq hcall, heffect.queued_of_faults hfaults,
      hr.settled _ (Registry.mem_of_get? hget)]
    rfl
  exact (hr.settled.set id hevents).collect_eq

theorem scheduleFrame_acted {id : OutputId} {o : Output Window}
    (hget : c.registry.get? id = some o) (image : Image) :
    ∃ t, t.call = .schedule image ∧
      c.Acted id o [] t (c.scheduleFrame id image).2.1 (c.scheduleFrame id image).2.2 ∧
      (c.scheduleFrame id image).1.fault?.toList = t.faults ∧
      (c.scheduleFrame id image).1.taken image = [image] ∧
      (c.scheduleFrame id image).1.handedBack = [] := by
  obtain ⟨asked, queued, -, hused, heffect⟩ := FrameScheduler.schedule_effect
    (Window.surface c.session.connection) image o.scheduler (o.details, []) []
  have hfaults := heffect.schedule_faults hused
  rcases hschedule : o.scheduler.schedule (Window.surface c.session.connection) image
    (o.details, []) with ⟨submission, f, d', sent⟩
  rw [hschedule] at hused heffect hfaults
  obtain ⟨hacted, hsame⟩ := put_back hr hget (.schedule image) hused heffect
  refine ⟨⟨.schedule image, asked, queued⟩, rfl, ?_⟩
  simp only [scheduleFrame, hget, hschedule]
  cases submission with
  | accepted => exact ⟨hacted, hfaults, rfl, rfl⟩
  | refused cause => exact ⟨hacted, hfaults, rfl, rfl⟩
  | fault e lost =>
    have hput := hsame (by rw [← hfaults]; simp [Submission.fault?])
    rw [← hput]
    exact ⟨hacted, hfaults, rfl, rfl⟩

omit hr in
theorem scheduleFrame_unknown {id : OutputId} (hget : c.registry.get? id = none) (image : Image) :
    c.scheduleFrame id image = (.unknownOutput image, [], c) := by
  simp only [scheduleFrame, hget]

omit hr in
/-- A window belongs to an output that is there. -/
theorem outputOf?_eq_some {window : ResourceId} {id : OutputId} {o : Output Window}
    (h : c.outputOf? window = some (id, o)) :
    (id, o) ∈ c.registry.outputs ∧ o.details.window = window :=
  ⟨outputOf?_mem h, eq_of_beq (by simpa using List.find?_some h)⟩

omit hr in
theorem outputOf?_eq_none {window : ResourceId} (h : c.outputOf? window = none) :
    ∀ entry ∈ c.registry.outputs, entry.2.details.window ≠ window := by
  intro entry he heq
  exact List.find?_eq_none.mp h entry he (by simp [heq])

/-- A window belongs to one output. -/
theorem outputOf?_of_mem
    (hwindows : (c.registry.outputs.map (·.2.details.window)).Nodup) {id : OutputId}
    {o : Output Window} (hmem : (id, o) ∈ c.registry.outputs) :
    c.outputOf? o.details.window = some (id, o) := by
  refine Registry.find?_of_unique hr.ids (Registry.get?_of_mem hr.ids hmem) (beq_self_eq_true _)
    fun entry he hwindow => ?_
  exact congrArg Prod.fst (List.inj_on_of_nodup_map hwindows he hmem (eq_of_beq hwindow))

omit hr in
theorem handle_complete (window : ResourceId) (msc : UInt64) :
    c.handle (.complete window pixmapCompletion msc) = c.complete window msc := by
  simp only [handle, if_true]

/-- A completion is a turn of the output of the window, if there is one. -/
theorem complete_cases (serial : UInt32) (window : ResourceId) (msc : UInt64) :
    (c.outputOf? window = none ∧ c.complete window msc = (none, [], c)) ∨
    ∃ id o t, c.outputOf? window = some (id, o) ∧ t.call = .frameDone ∧
      c.Acted id o [.heard serial (.complete window pixmapCompletion msc)] t
        (c.complete window msc).2.1 (c.complete window msc).2.2 ∧
      (c.complete window msc).1.toList = t.faults := by
  cases hout : c.outputOf? window with
  | none => exact .inl ⟨rfl, by simp only [complete, hout, settled_eq hr]⟩
  | some entry =>
    obtain ⟨id, o⟩ := entry
    obtain ⟨hmem, rfl⟩ := outputOf?_eq_some hout
    have hget := Registry.get?_of_mem hr.ids hmem
    obtain ⟨asked, queued, -, hused, heffect⟩ := FrameScheduler.frameDone_effect
      (Window.surface c.session.connection) o.scheduler ({ o.details with lastMsc := msc }, []) []
    have hfaults := heffect.frameDone_faults hused
    rcases hdone : o.scheduler.frameDone (Window.surface c.session.connection)
      ({ o.details with lastMsc := msc }, []) with ⟨lost, f, d', sent⟩
    rw [hdone] at hused heffect hfaults
    obtain ⟨hacted, hsame⟩ := put_back hr hget (.complete serial msc) hused heffect
    refine .inr ⟨id, o, ⟨.frameDone, asked, queued⟩, rfl, rfl, ?_⟩
    simp only [complete, hout, hdone]
    cases lost with
    | none => exact ⟨hacted, hfaults⟩
    | some lost =>
      have hput := hsame (by rw [← hfaults]; simp)
      rw [← hput]
      exact ⟨hacted, hfaults⟩

/-- An idle notice is a turn of the output of the window, if the pixmap is in flight there. -/
theorem idle_cases (serial : UInt32) (window pixmap : ResourceId) :
    (c.idle window pixmap = (none, [], c) ∧ ∀ id o, c.outputOf? window = some (id, o) →
      o.details.inFlight.lookup pixmap = none) ∨
    ∃ id o image queued, c.outputOf? window = some (id, o) ∧
      o.details.inFlight.lookup pixmap = some image ∧
      c.Acted id o [.heard serial (.idle window pixmap)] ⟨.bufferReleased image, [], queued⟩ []
        (c.idle window pixmap).2.2 ∧
      (c.idle window pixmap).1 = none ∧ (c.idle window pixmap).2.1 = [] := by
  cases hout : c.outputOf? window with
  | none => exact .inl ⟨by simp only [idle, hout, settled_eq hr], fun _ _ h => absurd h (by simp)⟩
  | some entry =>
    obtain ⟨id, o⟩ := entry
    cases himage : o.details.inFlight.lookup pixmap with
    | none =>
      refine .inl ⟨by simp only [idle, hout, himage, settled_eq hr], fun id' o' h => ?_⟩
      obtain ⟨rfl, rfl⟩ := Prod.mk.inj (Option.some.inj h)
      exact himage
    | some image =>
      obtain ⟨hmem, rfl⟩ := outputOf?_eq_some hout
      obtain ⟨queued, heffect⟩ := FrameScheduler.bufferReleased_effect image o.scheduler
      have hused : (Window.surface c.session.connection).Used [] (o.details.forget pixmap, [])
        (o.details.forget pixmap, []) := rfl
      have hput := put_back hr (Registry.get?_of_mem hr.ids hmem)
        (t := ⟨.bufferReleased image, [], queued⟩) (.idle serial pixmap image himage) hused heffect
      refine .inr ⟨id, o, image, queued, rfl, himage, ?_⟩
      simp only [idle, hout, himage, settled]
      exact ⟨hput.1, trivial, trivial⟩

/-- A new size is a turn of the output of the window, if there is one and it is a change. -/
theorem configure_cases (serial : UInt32) (window : ResourceId) (width height : UInt16) :
    c.configure window width height = (none, [], c) ∨
    ∃ id o mode, c.outputOf? window = some (id, o) ∧
      c.Acted id o [.heard serial (.configure window width height)]
        ⟨.modeChanged mode, [], [.mode mode]⟩ [] (c.configure window width height).2.2 ∧
      (c.configure window width height).1 = none ∧
      (c.configure window width height).2.1 = [] := by
  unfold configure
  split
  · exact .inl rfl
  · next mode _ =>
    split
    · exact .inl (settled_eq hr)
    · next id o hout =>
      obtain ⟨hmem, rfl⟩ := outputOf?_eq_some hout
      split
      · exact .inl (settled_eq hr)
      · let resized : Window := { o.details with info := { o.details.info with mode := mode } }
        have hused : (Window.surface c.session.connection).Used [] (resized, []) (resized, []) :=
          rfl
        have hput := put_back hr (Registry.get?_of_mem hr.ids hmem)
          (t := ⟨.modeChanged mode, [], [.mode mode]⟩) (.configure serial width height mode) hused
          (.resized mode)
        exact .inr ⟨id, o, mode, hout, hput.1, rfl, rfl⟩

/-- A request to close destroys the output of the window. -/
theorem close_cases (window : ResourceId) :
    c.close window = (none, [], c) ∨
    ∃ id, c.close window = (none, (c.destroyOutput id).2.1, (c.destroyOutput id).2.2) := by
  unfold close
  split
  · exact .inl (settled_eq hr)
  · next id o _ =>
    have hcollect : (c.registry.destroy id teardown []).2.1.collect
        = (c.registry.destroy id teardown []).2.1 :=
      (hr.destroy id teardown []).settled.collect_eq
    exact .inr ⟨id, by simp only [destroyOutput, hcollect]⟩

end

/-! ## Teardown -/

/-- The last requests about an output. -/
def lastRequests (entry : OutputId × Output Window) : List Request :=
  [.presentSelectInput entry.2.details.presentEvent entry.2.details.window 0,
    .destroyWindow entry.2.details.window]

theorem teardown_sent (entry : OutputId × Output Window) (sent : List Request) :
    (teardown entry.2 sent).2 = sent ++ lastRequests entry := by
  unfold teardown FrameScheduler.destroy
  cases entry.2.scheduler.armed <;> rfl

theorem destroyOutput_sent {c : Client} {id : OutputId} {o : Output Window}
    (hget : c.registry.get? id = some o) : (c.destroyOutput id).2.1 = lastRequests (id, o) := by
  simp only [destroyOutput, Registry.destroy, hget]
  exact teardown_sent (id, o) []

/-- What is sent about an output that is destroyed is no presentation. -/
theorem destroyOutput_entries (c : Client) (id : OutputId) (connection : Connection) :
    connection.entries (c.destroyOutput id).2.1 = sentEntries (c.destroyOutput id).2.1 := by
  cases hget : c.registry.get? id with
  | none =>
    simp only [destroyOutput, Registry.destroy_absent hget]
    rfl
  | some o =>
    rw [destroyOutput_sent hget]
    rfl

theorem destroyAll_sent (entries : List (OutputId × Output Window)) (r : Registry Window)
    (sent : List Request) (hout : r.outputs = entries) (hids : r.ids.Nodup) :
    (Registry.destroyAll teardown (entries.map (·.1)) r sent).2
      = sent ++ entries.flatMap lastRequests := by
  induction entries generalizing r sent with
  | nil => exact (List.append_nil _).symm
  | cons entry rest ih =>
    have hat : r.At entry.1 entry.2 [] rest := Registry.at_of_split hids hout
    have hnodup : (rest.map (·.1)).Nodup := by
      have hall : (entry.1 :: rest.map (·.1)).Nodup := by simpa [Registry.ids, hout] using hids
      exact (List.nodup_cons.mp hall).2
    simp only [List.map_cons, Registry.destroyAll, hat.destroy_eq teardown_ends, List.nil_append]
    rw [ih { r with
        outputs := rest, events := r.events ++ Registry.lastEvents entry, awake := true }
      (teardown entry.2 sent).2 rfl hnodup, teardown_sent, List.flatMap_cons, List.append_assoc]

/-- With the connection gone, every window is destroyed. -/
theorem connectionClosed_sent {c : Client} (hids : c.registry.ids.Nodup)
    (hlive : c.registry.disconnected = false) :
    c.connectionClosed.1 = c.registry.outputs.flatMap lastRequests := by
  have hsent := destroyAll_sent c.registry.outputs { c.registry with disconnected := true } []
    rfl hids
  simp only [connectionClosed, Registry.disconnect, hlive, Bool.false_eq_true, if_false]
  rw [List.nil_append] at hsent
  exact hsent

end Client

/-! ## Identifiers -/

namespace ResourceIds

/-- Whether a number can still be handed out. -/
def Offers (ids : ResourceIds) (number : ResourceId) : Prop :=
  ids.next ≤ number ∧ number ≤ ids.last ∧ ids.step ∣ number - ids.next

instance (ids : ResourceIds) (number : ResourceId) : Decidable (ids.Offers number) :=
  inferInstanceAs (Decidable (_ ∧ _))

/-- Some numbers may have been handed out since. -/
structure Later (ids ids' : ResourceIds) : Prop where
  apart : 0 < ids'.step
  offers : ∀ number, ids'.Offers number → ids.Offers number

section

variable {ids ids' ids'' : ResourceIds} {number : ResourceId}

theorem Later.refl (hstep : 0 < ids.step) : ids.Later ids := ⟨hstep, fun _ h => h⟩

theorem Later.trans (h : ids.Later ids') (h' : ids'.Later ids'') : ids.Later ids'' :=
  ⟨h'.apart, fun number ho => h.offers number (h'.offers number ho)⟩

/-- The numbers after the next one. -/
def beyond (ids : ResourceIds) : ResourceIds := { ids with next := ids.next + ids.step }

theorem beyond_later (hstep : 0 < ids.step) : ids.Later ids.beyond := by
  refine ⟨hstep, fun number ⟨hnext, hlast, hdvd⟩ => ⟨?_, hlast, ?_⟩⟩
  · exact Nat.le_trans (Nat.le_add_right _ _) hnext
  · obtain ⟨further, rfl⟩ := Nat.exists_eq_add_of_le hnext
    have hrest : ids.step ∣ further := by simpa [beyond] using hdvd
    have hsum : ids.beyond.next + further - ids.next = ids.step + further := by
      rw [beyond, Nat.add_assoc, Nat.add_sub_cancel_left]
    rw [hsum]
    exact Nat.dvd_add (Nat.dvd_refl _) hrest

theorem next_not_beyond (hstep : 0 < ids.step) : ¬ ids.beyond.Offers ids.next :=
  fun ⟨hnext, _, _⟩ => Nat.not_le_of_lt (Nat.lt_add_of_pos_right hstep) hnext

/-- A number that is handed out is the next one. -/
theorem fresh_some {asks : List Request} (h : ids.fresh = (some number, asks, ids')) :
    number = ids.next ∧ asks = [] ∧ ids' = ids.beyond ∧ ids.Offers ids.next := by
  obtain ⟨rfl, rfl, rfl⟩ := fresh_eq_some h
  unfold fresh at h
  split at h
  · next hle => exact ⟨rfl, rfl, rfl, Nat.le_refl _, hle, by simp⟩
  · exact absurd (congrArg Prod.fst h) (by simp)

/-- Where there is none any more, nothing but a question about it is sent. -/
theorem fresh_none {asks : List Request} (hstep : 0 < ids.step)
    (h : ids.fresh = (none, asks, ids')) :
    ids.Later ids' ∧ ∀ request ∈ asks, (Entry.sent request).window? = none := by
  unfold fresh at h
  split at h
  · exact absurd (congrArg Prod.fst h) (by simp)
  · obtain ⟨-, h⟩ := Prod.mk.inj h
    obtain ⟨rfl, rfl⟩ := Prod.mk.inj h
    refine ⟨⟨hstep, fun _ h => h⟩, fun request hr => ?_⟩
    split at hr
    · exact absurd hr List.not_mem_nil
    · obtain rfl := List.mem_singleton.mp hr
      rfl

end

end ResourceIds

namespace Client

/-- A request about no window, or one that makes the next window there can be. -/
def Opens (ids : ResourceIds) (request : Request) : Prop :=
  (Entry.sent request).window? = none ∨
    ids.Offers ids.next ∧ ∃ screen width height mask,
      request = .createWindow ids.next screen width height mask

/-- Of the requests that make a window, the first is about it and the others about none. -/
theorem windowRequests_opens {c : Client} {title : String}
    (hoffers : c.session.ids.Offers c.session.ids.next) :
    ∀ request ∈ c.windowRequests c.session.ids.next title, Opens c.session.ids request := by
  intro request hr
  simp only [windowRequests, List.mem_cons, List.not_mem_nil, or_false] at hr
  rcases hr with rfl | rfl | rfl | rfl
  · exact .inr ⟨hoffers, _, _, _, _, rfl⟩
  all_goals exact .inl rfl

/-- Whatever comes of making a window: only the next window there can be is made, and an output
gets none but that. -/
theorem Opened.draws {c : Client} {name : String} {result : Except Error Window}
    {sent : List Request} {ids : ResourceIds} (h : c.Opened name result sent ids)
    (hstep : 0 < c.session.ids.step) :
    c.session.ids.Later ids ∧ (∀ request ∈ sent, Opens c.session.ids request) ∧
    ∀ d, result = .ok d → d.window = c.session.ids.next ∧ d.inFlight = [] ∧ d.lastMsc = 0 ∧
      c.session.ids.Offers d.window ∧ ¬ ids.Offers d.window ∧
      ∃ screen width height mask, .createWindow d.window screen width height mask ∈ sent := by
  have hlater := ResourceIds.beyond_later hstep
  have hshow : ∀ {window event : ResourceId}, ∀ request ∈ showRequests window event,
      Opens c.session.ids request := by
    intro window event request hr
    simp only [showRequests, List.mem_cons, List.not_mem_nil, or_false] at hr
    rcases hr with rfl | rfl <;> exact .inl rfl
  cases h with
  | noWindow fresh =>
    obtain ⟨hlater, hasks⟩ := ResourceIds.fresh_none hstep fresh
    exact ⟨hlater, fun request hr => .inl (hasks request hr), by simp⟩
  | unmade fresh part =>
    obtain ⟨rfl, rfl, rfl, hoffers⟩ := ResourceIds.fresh_some fresh
    exact ⟨hlater, fun request hr => windowRequests_opens hoffers request (part.subset hr), by simp⟩
  | noEvent fresh next =>
    obtain ⟨rfl, rfl, rfl, hoffers⟩ := ResourceIds.fresh_some fresh
    obtain ⟨hlater', hasks⟩ := ResourceIds.fresh_none hlater.apart next
    refine ⟨hlater.trans hlater', fun request hr => ?_, by simp⟩
    rcases List.mem_append.mp hr with hr | hr
    · exact windowRequests_opens hoffers request hr
    · exact .inl (hasks request hr)
  | unshown fresh next part =>
    obtain ⟨rfl, rfl, rfl, hoffers⟩ := ResourceIds.fresh_some fresh
    obtain ⟨rfl, rfl, rfl, -⟩ := ResourceIds.fresh_some next
    refine ⟨hlater.trans (ResourceIds.beyond_later hlater.apart), fun request hr => ?_, by simp⟩
    rw [List.append_nil] at hr
    rcases List.mem_append.mp hr with hr | hr
    · exact windowRequests_opens hoffers request hr
    · exact hshow request (part.subset hr)
  | shown fresh next =>
    obtain ⟨rfl, rfl, rfl, hoffers⟩ := ResourceIds.fresh_some fresh
    obtain ⟨rfl, rfl, rfl, -⟩ := ResourceIds.fresh_some next
    have hlater' := ResourceIds.beyond_later hlater.apart
    refine ⟨hlater.trans hlater', fun request hr => ?_, fun d hd => ?_⟩
    · rw [List.append_nil] at hr
      rcases List.mem_append.mp hr with hr | hr
      · exact windowRequests_opens hoffers request hr
      · exact hshow request hr
    · obtain rfl := Except.ok.inj hd
      exact ⟨rfl, rfl, rfl, hoffers,
        fun h => ResourceIds.next_not_beyond hstep (hlater'.offers _ h), _, _, _, _,
        List.mem_append_left _ (List.mem_append_left _ List.mem_cons_self)⟩

/-- A new output has a window of its own. An attempt that fails may leave a window that belongs
to nobody. -/
theorem createOutput_draws (c : Client) (id : OutputId) (hstep : 0 < c.session.ids.step) :
    c.session.ids.Later (c.createOutput id).2.2.session.ids ∧
    (∀ request ∈ (c.createOutput id).2.1, Opens c.session.ids request) ∧
    ((c.createOutput id).2.2.registry = c.registry ∨
      ∃ d : Window, (c.createOutput id).2.2.registry = c.registry.insert id ⟨{}, d⟩ ∧
        d.window = c.session.ids.next ∧ d.inFlight = [] ∧ d.lastMsc = 0 ∧
        c.session.ids.Offers d.window ∧ ¬ (c.createOutput id).2.2.session.ids.Offers d.window ∧
        ∃ screen width height mask,
          .createWindow d.window screen width height mask ∈ (c.createOutput id).2.1) := by
  unfold createOutput
  split
  · exact ⟨.refl hstep, fun _ h => absurd h List.not_mem_nil, .inl rfl⟩
  obtain ⟨ids, hopened, hids⟩ :=
    openWindow_opened { c with created := c.created + 1 } s!"X11-{c.created + 1}"
  have hdraws := hopened.draws hstep
  rcases hopen : ({ c with created := c.created + 1 } : Client).openWindow
    s!"X11-{c.created + 1}" with ⟨e | d, sent, opened⟩
  all_goals
    simp only [hopen] at hdraws hids ⊢
    subst hids
    obtain ⟨hlater, hopens, hmade⟩ := hdraws
  · exact ⟨hlater, hopens, .inl rfl⟩
  · exact ⟨hlater, hopens, .inr ⟨d, rfl, hmade d rfl⟩⟩

end Client

theorem importRequest?_silent {plan : ImportPlan} {screen : Nat} {pixmap : ResourceId} {d : Dmabuf}
    {request : Request} (h : importRequest? plan screen pixmap d = some request) :
    (Entry.sent request).window? = none := by
  obtain ⟨hpixmap, -⟩ := importRequest?_eq_some h
  cases request with
  | createWindow | presentPixmap | destroyWindow => exact absurd hpixmap (by simp [Request.pixmap?])
  | _ => rfl

/-- An image that is imported has a pixmap of its own. -/
theorem importImage_draws (answer : Request → Except Refusal Unit) (s : Session) (image : Image)
    (hstep : 0 < s.ids.step) :
    ∃ ids', (importImage answer s image).2.2 = { s with ids := ids' } ∧ s.ids.Later ids' ∧
      (∀ request ∈ (importImage answer s image).2.1, (Entry.sent request).window? = none) ∧
      ∀ imported, (importImage answer s image).1 = .ok imported →
        imported.id = image.id ∧ imported.pixmap? = some s.ids.next ∧
        s.ids.Offers s.ids.next ∧ ¬ ids'.Offers s.ids.next := by
  have hnothing : ∀ request ∈ ([] : List Request), (Entry.sent request).window? = none :=
    fun _ h => absurd h List.not_mem_nil
  have hlater := ResourceIds.beyond_later hstep
  obtain ⟨ids, hstops, hids⟩ := importImage_stops answer s image
  refine ⟨ids, hids, ?_⟩
  generalize (importImage answer s image).1 = result, (importImage answer s image).2.1 = sent
    at hstops
  cases hstops with
  | unplanned | unduplicated => exact ⟨.refl hstep, hnothing, by simp⟩
  | exhausted fresh =>
    obtain ⟨hlater, hasks⟩ := ResourceIds.fresh_none hstep fresh
    exact ⟨hlater, hasks, by simp⟩
  | untold _ fresh | unwritten _ fresh =>
    obtain ⟨rfl, rfl, rfl, -⟩ := ResourceIds.fresh_some fresh
    exact ⟨hlater, hnothing, by simp⟩
  | declined _ _ fresh told =>
    obtain ⟨rfl, rfl, rfl, -⟩ := ResourceIds.fresh_some fresh
    exact ⟨hlater, by simpa using importRequest?_silent told, by simp⟩
  | taken _ _ fresh told =>
    obtain ⟨rfl, rfl, rfl, hoffers⟩ := ResourceIds.fresh_some fresh
    refine ⟨hlater, by simpa using importRequest?_silent told, fun imported h => ?_⟩
    obtain rfl := Except.ok.inj h
    exact ⟨rfl, rfl, hoffers, ResourceIds.next_not_beyond hstep⟩

theorem Client.attach_draws (answer : Request → Except Refusal Unit) (c : Client) (image : Image)
    (hstep : 0 < c.session.ids.step) :
    ∃ ids', (c.attach answer image).2.2 = { c with session := { c.session with ids := ids' } } ∧
      c.session.ids.Later ids' ∧
      (∀ request ∈ (c.attach answer image).2.1, (Entry.sent request).window? = none) ∧
      ∀ imported, (c.attach answer image).1 = .ok imported →
        imported.id = image.id ∧ imported.pixmap? = some c.session.ids.next ∧
        c.session.ids.Offers c.session.ids.next ∧ ¬ ids'.Offers c.session.ids.next := by
  unfold attach
  split
  · exact ⟨_, rfl, .refl hstep, fun _ h => absurd h List.not_mem_nil, fun _ h => absurd h (by simp)⟩
  split
  · exact ⟨_, rfl, .refl hstep, fun _ h => absurd h List.not_mem_nil, fun _ h => absurd h (by simp)⟩
  obtain ⟨ids', hsession, hlater, hsilent, himported⟩ :=
    importImage_draws answer c.session image hstep
  rcases himport : importImage answer c.session image with ⟨result, sent, session⟩
  rw [himport] at hsession hsilent himported
  obtain rfl : session = { c.session with ids := ids' } := hsession
  exact ⟨ids', rfl, hlater, hsilent, himported⟩

/-- Letting go of an image frees its pixmap, if it has one. -/
theorem releaseImage_cases (image : Image) :
    (releaseImage image).1.id = image.id ∧ (releaseImage image).1.pixmap? = none ∧
      ∀ request ∈ (releaseImage image).2, (Entry.sent request).window? = none := by
  unfold releaseImage
  split
  · next pixmap rest htake =>
    refine ⟨rfl, ?_, fun request hr => ?_⟩
    · have hrest := adopt_pixmap? image
      rwa [htake] at hrest
    · obtain rfl := List.mem_singleton.mp hr
      rfl
  · next hne =>
    refine ⟨rfl, ?_, fun _ h => absurd h List.not_mem_nil⟩
    cases himage : image.pixmap? with
    | none => rfl
    | some pixmap =>
      have hvalue := Image.pixmap?_eq_some.mp himage
      refine absurd ?_ (hne pixmap .empty)
      simp only [DataSlot.take, DataSlot.get?, hvalue]
      rfl

end X11

end Scanout
