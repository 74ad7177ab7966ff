import Scanout.Proofs.Display.Chronicle
import Scanout.Proofs.Wayland.Moves
import Scanout.Proofs.X11.Connection

/-!
# Both kinds of displays

The display on an X server and the one on a Wayland compositor are lawful, so that what a
compositor is told by either of them is in order (`events_in_order`). On the X server a call
can break a contract, when a time beyond the last one would have to be named; then the image
in use is lost, and no law applies any more.
-/

namespace Scanout

namespace FrameScheduler

variable {σ : Type} {surface : Surface σ} {f f' : FrameScheduler} {s s' : σ}

/-- A call that breaks no contract loses no image. -/
theorem Effect.schedule_whole {image : Image} {asked : List SurfaceCall}
    {queued : List OutputEvent} (h : f.Effect ⟨.schedule image, asked, queued⟩ f')
    (hused : surface.Used asked s s')
    (hholds : ∀ e lost, (f.schedule surface image s).1 ≠ .fault e lost) :
    Turn.lost ⟨.schedule image, asked, queued⟩ = [] := by
  cases h with
  | lost _ e hidle =>
    have hanswer : (surface.present image s).1 = .fault e := hused.1
    refine absurd ?_ (hholds e image)
    rcases hp : surface.present image s with ⟨answer, _⟩
    rw [hp] at hanswer
    simp only [schedule, hidle, Bool.false_eq_true, if_false, commit, hp, show answer = _ from hanswer]
  | _ => rfl

/-- Over a surface that always answers, no call breaks a contract. -/
theorem schedule_answers (hs : surface.Answers) (image : Image) (f : FrameScheduler) (s : σ)
    (e : Fault) (lost : Image) : (f.schedule surface image s).1 ≠ .fault e lost := by
  unfold schedule
  split
  · simp
  · rcases hp : surface.present image s with ⟨_ | cause | fault, s'⟩
    · simp [commit, hp]
    · simp [commit, hp]
    · exact absurd (congrArg Prod.fst hp) (hs image s fault)

theorem Effect.frameDone_whole {asked : List SurfaceCall} {queued : List OutputEvent}
    (h : f.Effect ⟨.frameDone, asked, queued⟩ f') (hused : surface.Used asked s s')
    (hholds : (f.frameDone surface s).1 = none) :
    Turn.lost ⟨.frameDone, asked, queued⟩ = [] := by
  cases h with
  | followerLost image e hbusy hwaiting =>
    have hanswer : (surface.present image s).1 = .fault e := hused.1
    rcases hp : surface.present image s with ⟨answer, _⟩
    rw [hp] at hanswer
    simp only [frameDone, hbusy, if_true, hwaiting, commit, hp, show answer = _ from hanswer] at hholds
    exact absurd hholds (by simp)
  | _ => rfl

end FrameScheduler

namespace X11

/-- What happens to a display on an X server beside the calls on its outputs. -/
inductive Happening where
  | event (e : Event)
  /-- An image is imported, and the server answers. -/
  | attach (verdict : Request → Except Refusal Unit) (image : Image)
  /-- From now on the connection takes what is done to it in another way. -/
  | connection (connection : Connection)

/-- An X server's display as its compositor sees it. -/
def display : Display Client Window Happening :=
  { registry := Client.registry
    createOutput := fun id c =>
      let (result, _, c) := c.createOutput id
      (result.isOk, c)
    scheduleFrame := fun id image c =>
      let (outcome, _, c) := c.scheduleFrame id image
      (outcome, c)
    destroyOutput := fun id c => (c.destroyOutput id).2.2
    connectionClosed := fun c => c.connectionClosed.2
    deliver := fun c =>
      let (events, registry) := c.registry.takeEvents
      (events, { c with registry := registry })
    handle := fun e c =>
      match e with
      | .event e =>
        let (lost, _, c) := c.handle e
        (lost.isNone, c)
      | .attach verdict image => (true, (c.attach verdict image).2.2)
      | .connection connection => (true, c.withConnection connection) }

namespace Client

theorem teardown_ends : Registry.Ends teardown := by
  intro o sent
  exact FrameScheduler.destroy_remains (Window.surface {}) o.scheduler (o.details, sent)

theorem createOutput_cases (id : OutputId) (c : Client) :
    ((c.createOutput id).1.isOk = false ∧ (c.createOutput id).2.2.registry = c.registry) ∨
    ((c.createOutput id).1.isOk = true ∧ c.registry.disconnected = false ∧
      ∃ window, (c.createOutput id).2.2.registry = c.registry.insert id ⟨{}, window⟩) := by
  cases hlost : c.registry.disconnected with
  | true =>
    refine .inl ?_
    simp only [createOutput, hlost, if_true]
    exact ⟨rfl, trivial⟩
  | false =>
    have hregistry := openWindow_registry { c with created := c.created + 1 } s!"X11-{c.created + 1}"
    rcases hopen : ({ c with created := c.created + 1 } : Client).openWindow
      s!"X11-{c.created + 1}" with ⟨e | window, sent, c'⟩
    · rw [hopen] at hregistry
      refine .inl ?_
      simp only [createOutput, hlost, Bool.false_eq_true, if_false, hopen]
      exact ⟨rfl, hregistry⟩
    · rw [hopen] at hregistry
      refine .inr ?_
      simp only [createOutput, hlost, Bool.false_eq_true, if_false, hopen]
      refine ⟨rfl, trivial, window, ?_⟩
      rw [show c'.registry = c.registry from hregistry]

theorem attach_registry (verdict : Request → Except Refusal Unit) (c : Client) (image : Image) :
    (c.attach verdict image).2.2.registry = c.registry := by
  unfold attach
  split
  · rfl
  · split
    · rfl
    · rfl

section

variable {c : Client} (hr : c.registry.Tidy)

include hr

theorem settled_eq : c.settled = (none, [], c) := by
  rw [settled, hr.settled.collect_eq]

theorem scheduleFrame_move (id : OutputId) (image : Image)
    (hholds : (c.scheduleFrame id image).1.broke = false) :
    c.registry.Move ((c.scheduleFrame id image).1.taken image)
      (c.scheduleFrame id image).2.2.registry := by
  cases hget : c.registry.get? id with
  | none =>
    simp only [scheduleFrame, hget]
    exact .still
  | some o =>
    obtain ⟨asked, queued, -, hused, heffect⟩ := FrameScheduler.schedule_effect
      (Window.surface c.session.connection) image o.scheduler (o.details, []) []
    rcases hschedule : o.scheduler.schedule (Window.surface c.session.connection) image
      (o.details, []) with ⟨submission, f, w, sent⟩
    rw [hschedule] at hused heffect
    have hturn := hr.settled.turned_set hr.ids hget heffect (by simp) w
    have hmove : (∀ e lost, submission ≠ .fault e lost) →
        c.registry.Move [image] (c.registry.set id ⟨f, w⟩).collect := fun hanswers =>
      .turned hturn (by simp) (heffect.schedule_whole hused (by rw [hschedule]; exact hanswers))
    simp only [scheduleFrame, hget, hschedule] at hholds ⊢
    cases submission with
    | accepted => exact hmove (by simp)
    | refused cause => exact hmove (by simp)
    | fault e lost => exact absurd hholds (by simp [ScheduleOutcome.broke])

omit hr in
theorem outputOf?_mem {window : ResourceId} {id : OutputId} {o : Output Window}
    (h : c.outputOf? window = some (id, o)) : (id, o) ∈ c.registry.outputs :=
  List.mem_of_find?_eq_some h

theorem complete_move (window : ResourceId) (msc : UInt64)
    (hholds : (c.complete window msc).1 = none) :
    c.registry.Move [] (c.complete window msc).2.2.registry := by
  cases hout : c.outputOf? window with
  | none =>
    simp only [complete, hout, settled_eq hr]
    exact .still
  | some entry =>
    obtain ⟨id, o⟩ := entry
    have hget := Registry.get?_of_mem hr.ids (outputOf?_mem hout)
    obtain ⟨asked, queued, -, hused, heffect⟩ := FrameScheduler.frameDone_effect
      (Window.surface c.session.connection) o.scheduler ({ o.details with lastMsc := msc }, []) []
    rcases hdone : o.scheduler.frameDone (Window.surface c.session.connection)
      ({ o.details with lastMsc := msc }, []) with ⟨lost, f, w, sent⟩
    simp only [complete, hout, hdone] at hholds ⊢
    cases lost with
    | some lost => exact absurd hholds (by simp)
    | none =>
      have hwhole := heffect.frameDone_whole hused (by rw [hdone])
      rw [hdone] at heffect
      exact .turned (hr.settled.turned_set hr.ids hget heffect (by simp) w) (by simp) hwhole

theorem idle_move (window pixmap : ResourceId) :
    c.registry.Move [] (c.idle window pixmap).2.2.registry := by
  cases hout : c.outputOf? window with
  | none =>
    simp only [idle, hout, settled_eq hr]
    exact .still
  | some entry =>
    obtain ⟨id, o⟩ := entry
    cases himage : o.details.inFlight.lookup pixmap with
    | none =>
      simp only [idle, hout, himage, settled_eq hr]
      exact .still
    | some image =>
      have hget := Registry.get?_of_mem hr.ids (outputOf?_mem hout)
      obtain ⟨queued, heffect⟩ := FrameScheduler.bufferReleased_effect image o.scheduler
      simp only [idle, hout, himage, settled]
      exact .turned (hr.settled.turned_set hr.ids hget heffect (by simp) _) (by simp) rfl

theorem configure_move (window : ResourceId) (width height : UInt16) :
    c.registry.Move [] (c.configure window width height).2.2.registry := by
  unfold configure
  split
  · exact .still
  · next mode _ =>
    split
    · rw [settled_eq hr]
      exact .still
    · next id o hout =>
      split
      · rw [settled_eq hr]
        exact .still
      · have hget := Registry.get?_of_mem hr.ids (outputOf?_mem hout)
        exact .turned (hr.settled.turned_set hr.ids hget (.resized mode) (by simp) _) (by simp) rfl

theorem close_move (window : ResourceId) : c.registry.Move [] (c.close window).2.2.registry := by
  unfold close
  split
  · rw [settled_eq hr]
    exact .still
  · next id o _ =>
    have hcollect : (c.registry.destroy id teardown []).2.1.collect
        = (c.registry.destroy id teardown []).2.1 :=
      (hr.destroy id teardown []).settled.collect_eq
    show c.registry.Move [] (c.registry.destroy id teardown []).2.1.collect
    rw [hcollect]
    exact .ended id teardown_ends []

/-- Every event of the server is a turn of one output, the end of one, or nothing. -/
theorem handle_move (e : Event) (hholds : (c.handle e).1 = none) :
    c.registry.Move [] (c.handle e).2.2.registry := by
  cases e with
  | complete window kind msc =>
    simp only [handle] at hholds ⊢
    split at hholds
    · next hkind =>
      rw [if_pos hkind]
      exact complete_move hr window msc hholds
    · next hkind =>
      rw [if_neg hkind]
      exact .still
  | idle window pixmap => exact idle_move hr window pixmap
  | configure window width height => exact configure_move hr window width height
  | message window format data =>
    simp only [handle]
    split
    · exact close_move hr window
    · exact .still
  | error | unhandled =>
    simp only [handle, settled_eq hr]
    exact .still

end

end Client

theorem display_lawful : display.Lawful where
  createOutput := Client.createOutput_cases
  scheduleFrame := fun id image _ hr hholds => Client.scheduleFrame_move hr id image hholds
  destroyOutput := fun id _ => .ended id Client.teardown_ends []
  connectionClosed := ⟨_, Client.teardown, [], Client.teardown_ends, fun _ => rfl⟩
  deliver := fun _ => ⟨rfl, rfl⟩
  handle := by
    intro e c hr hholds
    cases e with
    | event e => exact Client.handle_move hr e (by simpa [display] using hholds)
    | attach verdict image =>
      have hsame := Client.attach_registry verdict c image
      show c.registry.Move [] (c.attach verdict image).2.2.registry
      rw [hsame]
      exact .still
    | connection connection => exact .still

end X11

namespace Wayland

/-- What happens to a display on a compositor beside the calls on its outputs. -/
inductive Happening where
  | event (e : Event)
  | attach (image : Image)
  | detach (image : Image)
  deriving DecidableEq, Repr

/-- The display on a Wayland compositor as its own compositor sees it. -/
def display : Display Client Toplevel Happening :=
  { registry := Client.registry
    createOutput := fun id c =>
      let (result, _, c) := c.createOutput id
      (result.isOk, c)
    scheduleFrame := fun id image c =>
      let (outcome, _, c) := c.scheduleFrame id image
      (outcome, c)
    destroyOutput := fun id c => (c.destroyOutput id).2.2
    connectionClosed := fun c => c.connectionClosed.2
    deliver := fun c =>
      let (events, registry) := c.registry.takeEvents
      (events, { c with registry := registry })
    handle := fun e c =>
      match e with
      | .event e => (true, (c.handle e).2)
      | .attach image => (true, (c.attach image).2.2)
      | .detach image => (true, (c.detach image).2.2) }

theorem Canvas.surface_answers : Canvas.surface.Answers := by
  intro image c e
  rcases Canvas.present_cases image c with ⟨_, _, -, -, hpresent⟩ | ⟨-, hpresent⟩
  · simp [Canvas.surface, hpresent]
  · simp [Canvas.surface, hpresent]

namespace Client

theorem createOutput_cases (id : OutputId) (c : Client) :
    ((c.createOutput id).1.isOk = false ∧ (c.createOutput id).2.2.registry = c.registry) ∨
    ((c.createOutput id).1.isOk = true ∧ c.registry.disconnected = false ∧
      ∃ toplevel, (c.createOutput id).2.2.registry = c.registry.insert id ⟨{}, toplevel⟩) := by
  unfold createOutput
  split
  · exact .inl ⟨rfl, rfl⟩
  · next hlive =>
    split
    · exact .inr ⟨rfl, by simpa using hlive, _, rfl⟩
    · exact .inl ⟨rfl, rfl⟩

theorem scheduleFrame_holds (c : Client) (id : OutputId) (image : Image) :
    (c.scheduleFrame id image).1.broke = false := by
  cases hget : c.registry.get? id with
  | none =>
    rw [scheduleFrame_unknown hget]
    rfl
  | some o =>
    have hanswer := FrameScheduler.schedule_answers Canvas.surface_answers image o.scheduler
      (c.canvas id o.details)
    rcases hschedule : o.scheduler.schedule Canvas.surface image (c.canvas id o.details) with
      ⟨submission, f, used⟩
    rw [hschedule] at hanswer
    simp only [scheduleFrame, hget, hschedule]
    cases submission with
    | accepted => rfl
    | refused cause => rfl
    | fault e lost => exact absurd rfl (hanswer e lost)

/-- Where an output takes a turn, no image is lost. -/
theorem Acted.move {c c' : Client} {id : OutputId} {o : Output Toplevel}
    {t : FrameScheduler.Turn} {sent : List Request} (h : c.Acted id o t sent c')
    (hlives : t.call ≠ .destroy) : c.registry.Move t.handedIn c'.registry := by
  obtain ⟨details, -, hturn⟩ := h.turn
  obtain ⟨canvas, used, -, -, hused, -⟩ := h.uses
  exact .turned hturn hlives (FrameScheduler.Turn.lost_of_answers Canvas.surface_answers hused)

section

variable {c : Client} (hr : c.registry.Tidy)

include hr

theorem scheduleFrame_move (id : OutputId) (image : Image) :
    c.registry.Move ((c.scheduleFrame id image).1.taken image)
      (c.scheduleFrame id image).2.2.registry := by
  cases hget : c.registry.get? id with
  | none =>
    rw [scheduleFrame_unknown hget]
    exact .still
  | some o =>
    obtain ⟨t, hcall, hacted⟩ := scheduleFrame_acted hr.settled hr.ids hget image
    have hmove := hacted.move (by simp [hcall])
    have htaken : (c.scheduleFrame id image).1.taken image = t.handedIn := by
      simp only [scheduleFrame, hget, ScheduleOutcome.taken, FrameScheduler.Turn.handedIn, hcall]
    rwa [htaken]

/-- Every event of the compositor is a turn of one output, the end of one, or nothing. -/
theorem handle_move (e : Event) : c.registry.Move [] (c.handle e).2.registry := by
  have hturn : ∀ {id o t sent c'}, c.Acted id o t sent c' → t.handedIn = [] →
      t.call ≠ .destroy → c.registry.Move [] c'.registry := by
    intro id o t sent c' hacted hempty hlives
    have hmove := hacted.move hlives
    rwa [hempty] at hmove
  by_cases hrelease : ∃ buffer, e = .release buffer
  · obtain ⟨buffer, rfl⟩ := hrelease
    rcases release_cases hr.settled hr.ids buffer with ⟨hsame, -⟩ | ⟨id, o, shown, -, -, hacted⟩
    · simp only [handle, hsame]
      exact .still
    · exact hturn hacted rfl (by simp)
  · rcases handle_cases hr.settled hr.ids e (fun buffer he => hrelease ⟨buffer, he⟩) with
      haside | ⟨id, o, t, hcall, hacted⟩ | ⟨id, hclosed⟩
    · rw [haside.registry_eq]
      exact .still
    · rcases hcall with hcall | ⟨mode, rfl⟩
      · exact hturn hacted (by simp [FrameScheduler.Turn.handedIn, hcall]) (by simp [hcall])
      · exact hturn hacted rfl (by simp)
    · rw [hclosed]
      exact .ended id teardown_ends []

end

end Client

theorem display_lawful : display.Lawful where
  createOutput := Client.createOutput_cases
  scheduleFrame := fun id image _ hr _ => Client.scheduleFrame_move hr id image
  destroyOutput := fun id _ => .ended id Client.teardown_ends []
  connectionClosed := ⟨_, Client.teardown, [], Client.teardown_ends, fun _ => rfl⟩
  deliver := fun _ => ⟨rfl, rfl⟩
  handle := by
    intro e c hr _
    cases e with
    | event e => exact Client.handle_move hr e
    | attach image =>
      show c.registry.Move [] (c.attach image).2.2.registry
      rw [c.attach_registry image]
      exact .still
    | detach image =>
      show c.registry.Move [] (c.detach image).2.2.registry
      rw [c.detach_registry image]
      exact .still

/-- No call breaks a contract. -/
theorem step_holds {w : Display.Course Client} (hw : w.broken = false)
    (call : Display.Call Happening) : (w.step display call).broken = false := by
  unfold Display.Course.step
  rw [if_neg (by simp [hw])]
  cases call with
  | scheduleFrame id image => exact Client.scheduleFrame_holds w.client id image
  | other e => cases e <;> rfl
  | _ => exact hw

theorem run_holds (c : Client) (calls : List (Display.Call Happening)) :
    ((Display.Course.start c).run display calls).broken = false := by
  have hrun : ∀ (calls : List (Display.Call Happening)) (w : Display.Course Client),
      w.broken = false → (w.run display calls).broken = false := by
    intro calls
    induction calls with
    | nil => intro w hw; exact hw
    | cons call rest ih => intro w hw; exact ih (w.step display call) (step_holds hw call)
  exact hrun calls _ rfl

end Wayland

/-- **What a compositor is told is in order**, by either kind of display. The calls of the
compositor, imports and events of the server come in any order, late ones and senseless ones
too, and the loss of the connection is reported at any time and any number of times. On an X
server no law applies after a call that broke a contract; on a Wayland compositor there is no
such call. -/
theorem events_in_order {x : X11.Client} (hx : x.registry = {}) {w : Wayland.Client}
    (hw : w.registry = {}) (calls : List (Display.Call X11.Happening))
    (hholds : ((Display.Course.start x).run X11.display calls).broken = false)
    (others : List (Display.Call Wayland.Happening)) :
    ((Display.Course.start x).run X11.display calls).Orderly X11.display ∧
    ((Display.Course.start w).run Wayland.display others).Orderly Wayland.display :=
  ⟨X11.display_lawful.orderly hx calls hholds,
    Wayland.display_lawful.orderly hw others (Wayland.run_holds w others)⟩

/-- An X server's display before its first output. -/
def X11.freshClient : X11.Client :=
  { session := {
      screen := 0, dri3 := ⟨1, 2⟩, renderNode := .null
      formats := .ofList [⟨.xrgb8888, .linear⟩], closeWindow := 0, ids := { next := 1, last := 9 } }
    title := X11.standardTitle
    mode := .standard }

/-- The display on a compositor before its first output. -/
def Wayland.freshClient : Wayland.Client :=
  { appId := Wayland.standardAppId
    mode := .standard
    compositor := some ⟨0, 4⟩
    dmabuf := some ⟨0, 3⟩
    wmBase := some ⟨0, 1⟩
    formats := .ofList [⟨.xrgb8888, .linear⟩] }

/-- Three images are scheduled on one output, one of them unknown to the server; the window
is closed and the connection lost, and events of either go on to arrive. -/
def X11.shortLife : List (Display.Call X11.Happening) :=
  [.createOutput 0,
    .scheduleFrame ⟨0⟩ { Image.numbered 0 with backendData := ⟨some (.pixmap 7)⟩ },
    .scheduleFrame ⟨0⟩ { Image.numbered 1 with backendData := ⟨some (.pixmap 8)⟩ },
    .other (.event (.complete 1 0 5)), .other (.event (.idle 1 7)), .deliver,
    .other (.event (.configure 1 300 200)), .other (.event (.complete 1 0 6)),
    .scheduleFrame ⟨0⟩ (Image.numbered 2),
    .other (.event (.message 1 32 (.atom "WM_DELETE_WINDOW"))), .other (.event (.complete 1 0 7)),
    .connectionClosed, .connectionClosed, .other (.event (.idle 1 8)), .deliver]

/-- The same on a compositor, but without the closing of the window. -/
def Wayland.shortLife : List (Display.Call Wayland.Happening) :=
  [.createOutput 3,
    .scheduleFrame ⟨3⟩ { Image.numbered 0 with backendData := ⟨some (.remoteBuffer 0)⟩ },
    .other (.event (.done 0)), .connectionClosed, .other (.event (.release 0)), .connectionClosed,
    .deliver]

theorem short_lives_in_order :
    X11.freshClient.registry = {} ∧ Wayland.freshClient.registry = {} ∧
    ((Display.Course.start X11.freshClient).run X11.display X11.shortLife).broken = false ∧
    ((Display.Course.start X11.freshClient).run X11.display X11.shortLife).delivered
      = [.newOutput ⟨0⟩, .output ⟨0⟩ .frame,
        .output ⟨0⟩ (.released { Image.numbered 0 with backendData := ⟨some (.pixmap 7)⟩ }),
        .output ⟨0⟩ (.mode ⟨300, 200, 0⟩), .output ⟨0⟩ .frame,
        .output ⟨0⟩ (.released (Image.numbered 2)),
        .output ⟨0⟩ (.released { Image.numbered 1 with backendData := ⟨some (.pixmap 8)⟩ }),
        .output ⟨0⟩ .destroyed, .disconnected] ∧
    ((Display.Course.start Wayland.freshClient).run Wayland.display Wayland.shortLife).taken.Perm
      (returnedImages [.newOutput ⟨3⟩, .output ⟨3⟩ .frame,
        .output ⟨3⟩ (.released
          { Image.numbered 0 with backendData := ⟨some (.remoteBuffer 0)⟩ }),
        .output ⟨3⟩ .destroyed]) ∧
    ∀ id, ∃ phase, Told id phase (story id
      ((Display.Course.start X11.freshClient).run X11.display X11.shortLife).delivered) := by
  have hholds : ((Display.Course.start X11.freshClient).run X11.display X11.shortLife).broken
      = false := by decide +kernel
  obtain ⟨hx, hw⟩ := events_in_order (x := X11.freshClient) rfl (w := Wayland.freshClient) rfl
    X11.shortLife hholds Wayland.shortLife
  have hhistory : ((Display.Course.start Wayland.freshClient).run Wayland.display
      Wayland.shortLife).history Wayland.display
      = [.newOutput ⟨3⟩, .output ⟨3⟩ .frame,
        .output ⟨3⟩ (.released
          { Image.numbered 0 with backendData := ⟨some (.remoteBuffer 0)⟩ }),
        .output ⟨3⟩ .destroyed] ++ .disconnected :: [] := by decide +kernel
  exact ⟨rfl, rfl, hholds, by decide +kernel, (hw.last _ _ hhistory).2.2.2, hx.told⟩

end Scanout
