import Scanout.Proofs.Output.Settled
import Scanout.Wayland.Client

/-!
# What the operations of a Wayland display do

Seen from its outputs, a display does only a few things: one output takes a turn
on its canvas, an output is made, one or all of them are torn down, or nothing
happens at all. This file casts every call and every compositor event into these
cases, for a display whose registry is settled, and shows that it stays settled.

Of a turn, `Client.Drew` says all there is to say, with the canvas it started on and what
became of it; `Client.Acted` is what all displays have in common.
-/

namespace Scanout

/-- The buffer by which a Wayland compositor knows an image. -/
def Image.remoteBuffer? (image : Image) : Option Nat :=
  match image.backendData.value? with
  | some (.remoteBuffer buffer) => some buffer
  | _ => none

theorem Image.remoteBuffer?_eq_some {image : Image} {buffer : Nat} :
    image.remoteBuffer? = some buffer ↔
      image.backendData.value? = some (.remoteBuffer buffer) := by
  unfold remoteBuffer?
  split
  · next b hb => simp [hb]
  · next hne =>
    constructor
    · intro h
      exact absurd h (by simp)
    · intro h
      exact absurd h (hne buffer)

namespace Wayland

/-- A request that attaches a buffer or makes an attached one be shown. -/
def Request.shows : Request → Bool
  | .attach .. | .commit _ => true
  | _ => false

/-- Requests that show no buffer. -/
def Quiet (sent : List Request) : Prop :=
  ∀ request ∈ sent, request.shows = false

theorem Quiet.nil : Quiet [] := fun _ h => absurd h List.not_mem_nil

/-- A request that has nothing to do with how a surface is made, configured or drawn on. -/
def Request.aloof : Request → Bool
  | .createSurface .. | .ackConfigure .. | .attach .. | .damageBuffer _ | .frame .. | .commit _ =>
    false
  | _ => true

/-- Requests that have nothing to do with a surface but perhaps destroy it. -/
def Aloof (sent : List Request) : Prop :=
  ∀ request ∈ sent, request.aloof = true

theorem Aloof.nil : Aloof [] := fun _ h => absurd h List.not_mem_nil

theorem Aloof.quiet {sent : List Request} (h : Aloof sent) : Quiet sent := by
  intro request hr
  have haloof := h request hr
  cases request <;> first | rfl | exact absurd haloof (by simp [Request.aloof])

/-- The callbacks after one of them was answered. -/
def Callbacks.answer (cs : Callbacks) (callback : Nat) : Callbacks :=
  { cs with unanswered := cs.unanswered.filter (·.1 ≠ callback) }

/-! ## The canvas -/

namespace Canvas

/-- What is sent to show a buffer. -/
def commitOf (c : Canvas) (buffer : Nat) : List Request :=
  .attach c.toplevel.object buffer
    :: (if c.toplevel.version ≥ damageVersion then [.damageBuffer c.toplevel.object] else [])
    ++ [.frame c.toplevel.object c.callbacks.next, .commit c.toplevel.object]

/-- The canvas after a buffer was shown on it. -/
def showing (c : Canvas) (buffer : Nat) : Canvas :=
  { c with
    toplevel := { c.toplevel with frameCallback := some c.callbacks.next }
    callbacks := {
      next := c.callbacks.next + 1
      unanswered := c.callbacks.unanswered ++ [(c.callbacks.next, c.id)] }
    sent := c.sent ++ c.commitOf buffer }

/-- Between the buffer and the request to be called back there is at most a note of the damage. -/
theorem commitOf_eq (c : Canvas) (buffer : Nat) :
    ∃ damage, (∀ request ∈ damage, request = .damageBuffer c.toplevel.object) ∧
      c.commitOf buffer = .attach c.toplevel.object buffer :: damage
        ++ [.frame c.toplevel.object c.callbacks.next, .commit c.toplevel.object] := by
  refine ⟨_, fun request hr => ?_, rfl⟩
  split at hr
  · exact List.mem_singleton.mp hr
  · exact absurd hr List.not_mem_nil

/-- An image with a buffer is shown, and one without is refused. -/
theorem present_eq (image : Image) (c : Canvas) :
    Canvas.present image c = match image.remoteBuffer? with
      | some buffer => (.done (), c.showing buffer)
      | none => (.failed notImported, c) := by
  cases hbuffer : image.remoteBuffer? with
  | some buffer =>
    have hvalue := Image.remoteBuffer?_eq_some.mp hbuffer
    simp only [present, hvalue, showing, commitOf, List.append_assoc, List.cons_append,
      List.nil_append]
  | none =>
    unfold present
    split
    · next buffer hvalue => exact absurd (Image.remoteBuffer?_eq_some.mpr hvalue) (by simp [hbuffer])
    · rfl

/-- Presenting sends the buffer of the image to the surface of the output, or fails and
leaves everything as it was. -/
theorem present_cases (image : Image) (c : Canvas) :
    (∃ buffer damage, image.remoteBuffer? = some buffer ∧ Quiet damage ∧
      Canvas.present image c = (.done (), { c with
        toplevel := { c.toplevel with frameCallback := some c.callbacks.next }
        callbacks := {
          next := c.callbacks.next + 1
          unanswered := c.callbacks.unanswered ++ [(c.callbacks.next, c.id)] }
        sent := c.sent ++ [.attach c.toplevel.object buffer] ++ damage
          ++ [.frame c.toplevel.object c.callbacks.next, .commit c.toplevel.object] })) ∨
    (image.remoteBuffer? = none ∧ Canvas.present image c = (.failed notImported, c)) := by
  rw [present_eq]
  cases image.remoteBuffer? with
  | some buffer =>
    obtain ⟨damage, hdamage, hcommit⟩ := c.commitOf_eq buffer
    refine .inl ⟨buffer, damage, rfl, fun request hr => ?_, ?_⟩
    · rw [hdamage request hr]
      rfl
    · simp only [showing, hcommit, List.append_assoc, List.cons_append, List.nil_append]
  | none => exact .inr ⟨rfl, rfl⟩

/-- Whatever a canvas is used for, it stays the canvas of its output. -/
theorem used_frame {asked : List SurfaceCall} :
    ∀ {c c' : Canvas}, Canvas.surface.Used asked c c' →
      c'.id = c.id ∧ c'.toplevel.object = c.toplevel.object ∧ c'.toplevel.info = c.toplevel.info := by
  induction asked with
  | nil =>
    rintro c c' rfl
    exact ⟨rfl, rfl, rfl⟩
  | cons a rest ih =>
    intro c c' h
    cases a with
    | present image answer =>
      have hrest := ih h.2
      rcases Canvas.present_cases image c with ⟨buffer, damage, -, -, hp⟩ | ⟨-, hp⟩
      · simpa [Canvas.surface, hp] using hrest
      · simpa [Canvas.surface, hp] using hrest
    | cancel => exact ih (c := c.cancel) h

/-- What becomes of a canvas on which an image is to be presented. -/
theorem used_present {image : Image} {answer : Outcome Failure Unit} {start used : Canvas}
    (h : Canvas.surface.Used [.present image answer] start used) :
    (∃ buffer, image.remoteBuffer? = some buffer ∧ answer = .done () ∧
      used = start.showing buffer) ∨
    (image.remoteBuffer? = none ∧ answer = .failed notImported ∧ used = start) := by
  obtain ⟨rfl, rfl⟩ := h
  simp only [Canvas.surface, present_eq]
  split
  · next buffer hbuffer => exact .inl ⟨buffer, hbuffer, rfl, rfl⟩
  · next hnone => exact .inr ⟨hnone, rfl, rfl⟩

/-- A turn leaves its canvas as it was or shows one buffer on a canvas without a callback, and
afterwards a callback is kept if and only if a frame is in flight, provided it was so before. A
completion starts on a canvas without a callback. -/
theorem stroke_cases {f f' : FrameScheduler} {t : FrameScheduler.Turn} {start used : Canvas}
    (heffect : f.Effect t f') (hused : Canvas.surface.Used t.asked start used)
    (hlives : t.call ≠ .destroy)
    (hstart : if t.call = .frameDone then start.toplevel.frameCallback = none
      else f.armed = start.toplevel.frameCallback.isSome) :
    (used = start ∧ f'.armed = start.toplevel.frameCallback.isSome) ∨
    (start.toplevel.frameCallback = none ∧ f'.armed = true ∧
      ∃ buffer, used = start.showing buffer) := by
  cases heffect with
  | shown image idle =>
    rcases used_present hused with ⟨buffer, -, -, rfl⟩ | ⟨-, hanswer, -⟩
    · exact .inr ⟨by simpa [idle] using hstart, rfl, buffer, rfl⟩
    · exact absurd hanswer (by simp)
  | refused | lost =>
    rcases used_present hused with ⟨-, -, hanswer, -⟩ | ⟨-, -, rfl⟩
    · exact absurd hanswer (by simp)
    · exact .inl ⟨rfl, by simpa using hstart⟩
  | followed image busy =>
    rcases used_present hused with ⟨buffer, -, -, rfl⟩ | ⟨-, hanswer, -⟩
    · exact .inr ⟨by simpa using hstart, busy, buffer, rfl⟩
    · exact absurd hanswer (by simp)
  | followerRefused | followerLost =>
    rcases used_present hused with ⟨-, -, hanswer, -⟩ | ⟨-, -, rfl⟩
    · exact absurd hanswer (by simp)
    · simp only [if_true] at hstart
      exact .inl ⟨rfl, by simp [hstart]⟩
  | ignored idle | completed =>
    obtain rfl : used = start := hused
    simp only [if_true] at hstart
    exact .inl ⟨rfl, by simp [*]⟩
  | ended => exact absurd rfl hlives
  | _ =>
    obtain rfl : used = start := hused
    exact .inl ⟨rfl, by simpa using hstart⟩

end Canvas

namespace Client

/-- One output of a display took a turn on a canvas, and is as the canvas says afterwards. -/
def Drew (c : Client) (id : OutputId) (o : Output Toplevel) (t : FrameScheduler.Turn)
    (start : Canvas) (sent : List Request) (c' : Client) : Prop :=
  ∃ used, Canvas.surface.Used t.asked start used ∧
    c.registry.Turned id o t used.toplevel c'.registry ∧ sent = used.sent ∧
    c' = { c with registry := c'.registry, callbacks := used.callbacks }

/-- One output of a display took a turn on its canvas. Nothing else changed but the
callbacks. -/
structure Acted (c : Client) (id : OutputId) (o : Output Toplevel) (t : FrameScheduler.Turn)
    (sent : List Request) (c' : Client) : Prop where
  turn : ∃ details, details.object = o.details.object ∧
    c.registry.Turned id o t details c'.registry
  uses : ∃ canvas used, canvas.toplevel.object = o.details.object ∧ canvas.sent = [] ∧
    Canvas.surface.Used t.asked canvas used ∧ sent = used.sent
  rest : c' = { c with registry := c'.registry, callbacks := c'.callbacks }

/-- `Acted` is what is left of a turn where the canvas it started on does not matter. -/
theorem Drew.acted {c c' : Client} {id : OutputId} {o : Output Toplevel} {t : FrameScheduler.Turn}
    {start : Canvas} {sent : List Request} (h : c.Drew id o t start sent c')
    (hobject : start.toplevel.object = o.details.object) (hsent : start.sent = []) :
    c.Acted id o t sent c' := by
  obtain ⟨used, hused, hturn, rfl, hrest⟩ := h
  obtain ⟨-, hkept, -⟩ := Canvas.used_frame hused
  refine ⟨⟨used.toplevel, hkept.trans hobject, hturn⟩, ⟨start, used, hobject, hsent, hused, rfl⟩, ?_⟩
  have hcallbacks : c'.callbacks = used.callbacks := by rw [hrest]
  rw [hcallbacks]
  exact hrest

/-- The canvas on which an output completes the frame that waited for a callback. -/
def doneCanvas (c : Client) (callback : Nat) (id : OutputId) (t : Toplevel) : Canvas :=
  { id := id
    toplevel := { t with frameCallback := none }
    callbacks := c.callbacks.answer callback }

section

variable {c : Client} (hset : c.registry.Settled) (hids : c.registry.ids.Nodup)

include hset hids

/-- Putting an output back after its canvas was used is a turn of that output. -/
theorem putBack_drew {id : OutputId} {o : Output Toplevel} (hget : c.registry.get? id = some o)
    {t : FrameScheduler.Turn} {f : FrameScheduler} (heffect : o.scheduler.Effect t f)
    (hcall : t.call ≠ .takeEvents) {start used : Canvas} (hid : start.id = id)
    (hused : Canvas.surface.Used t.asked start used) (callbacks : Callbacks) :
    c.Drew id o t start used.sent ({ c with callbacks := callbacks }.putBack f used) := by
  obtain ⟨hsame, -, -⟩ := Canvas.used_frame hused
  refine ⟨used, hused, ?_, rfl, rfl⟩
  simp only [putBack, hsame.trans hid]
  exact hset.turned_set hids hget heffect hcall used.toplevel

theorem scheduleFrame_drew {id : OutputId} {o : Output Toplevel}
    (hget : c.registry.get? id = some o) (image : Image) :
    ∃ t, t.call = .schedule image ∧ c.Drew id o t (c.canvas id o.details)
      (c.scheduleFrame id image).2.1 (c.scheduleFrame id image).2.2 := by
  obtain ⟨asked, queued, -, hused, heffect⟩ := FrameScheduler.schedule_effect Canvas.surface image
    o.scheduler (c.canvas id o.details) []
  refine ⟨⟨.schedule image, asked, queued⟩, rfl, ?_⟩
  simp only [scheduleFrame, hget]
  exact putBack_drew hset hids hget heffect (by simp) rfl hused c.callbacks

theorem scheduleFrame_acted {id : OutputId} {o : Output Toplevel}
    (hget : c.registry.get? id = some o) (image : Image) :
    ∃ t, t.call = .schedule image ∧
      c.Acted id o t (c.scheduleFrame id image).2.1 (c.scheduleFrame id image).2.2 := by
  obtain ⟨t, hcall, hdrew⟩ := scheduleFrame_drew hset hids hget image
  exact ⟨t, hcall, hdrew.acted rfl rfl⟩

omit hset hids in
/-- An answer nobody waits for is forgotten, if it is to a question at all. -/
theorem done_unheard (callback : Nat)
    (h : ∀ id, c.callbacks.unanswered.lookup callback = some id → c.registry.get? id = none) :
    ∃ callbacks, c.done callback = ([], { c with callbacks := callbacks }) ∧
      (callbacks = c.callbacks ∧ c.callbacks.unanswered.lookup callback = none ∨
        callbacks = c.callbacks.answer callback) := by
  cases hwait : c.callbacks.unanswered.lookup callback with
  | none => exact ⟨c.callbacks, by simp only [done, hwait], .inl ⟨rfl, rfl⟩⟩
  | some id => exact ⟨_, by simp only [done, hwait, h id hwait]; rfl, .inr rfl⟩

theorem done_drew {callback : Nat} {id : OutputId} {o : Output Toplevel}
    (hwait : c.callbacks.unanswered.lookup callback = some id)
    (hget : c.registry.get? id = some o) :
    ∃ t, t.call = .frameDone ∧
      c.Drew id o t (c.doneCanvas callback id o.details) (c.done callback).1 (c.done callback).2 := by
  obtain ⟨asked, queued, -, hused, heffect⟩ := FrameScheduler.frameDone_effect Canvas.surface
    o.scheduler (c.doneCanvas callback id o.details) []
  refine ⟨⟨.frameDone, asked, queued⟩, rfl, ?_⟩
  simp only [done, hwait, hget]
  exact putBack_drew hset hids hget heffect (by simp) rfl hused (c.callbacks.answer callback)

/-- A completion ends the frame in flight of the output that waits for it, if there still
is one. -/
theorem done_cases (callback : Nat) :
    (∃ callbacks, c.done callback = ([], { c with callbacks := callbacks })) ∨
    ∃ id o t, t.call = .frameDone ∧ c.Acted id o t (c.done callback).1 (c.done callback).2 := by
  by_cases hheard : ∃ id o, c.callbacks.unanswered.lookup callback = some id ∧
      c.registry.get? id = some o
  · obtain ⟨id, o, hwait, hget⟩ := hheard
    obtain ⟨t, hcall, hdrew⟩ := done_drew hset hids hwait hget
    exact .inr ⟨id, o, t, hcall, hdrew.acted rfl rfl⟩
  · obtain ⟨callbacks, hdone, -⟩ := done_unheard (c := c) callback fun id hwait =>
      Option.eq_none_iff_forall_ne_some.mpr fun o hget => hheard ⟨id, o, hwait, hget⟩
    exact .inl ⟨callbacks, hdone⟩

omit hset hids in
theorem outputOf?_mem {object : Nat} {id : OutputId} {o : Output Toplevel}
    (h : c.outputOf? object = some (id, o)) : (id, o) ∈ c.registry.outputs :=
  List.mem_of_find?_eq_some h

/-- A new size is a turn of the output of the window, if it is one and a change. -/
theorem configure_drew (toplevel : Nat) (width height : Int32) :
    c.configure toplevel width height = c ∨
    ∃ id o mode, c.outputOf? toplevel = some (id, o) ∧
      c.Drew id o ⟨.modeChanged mode, [], [.mode mode]⟩
        (c.canvas id { o.details with info := { o.details.info with mode := mode } }) []
        (c.configure toplevel width height) := by
  unfold configure
  split
  · next mode id o _ hout =>
    split
    · exact .inl rfl
    · obtain ⟨before, after, hat⟩ := Registry.at_of_mem hids (outputOf?_mem hout)
      exact .inr ⟨id, o, mode, hout, _, rfl,
        hset.turned_set hids hat.get? (.resized mode) (by simp) _, rfl, rfl⟩
  · exact .inl rfl

theorem configure_cases (toplevel : Nat) (width height : Int32) :
    c.configure toplevel width height = c ∨
    ∃ id o mode, c.Acted id o ⟨.modeChanged mode, [], [.mode mode]⟩ []
      (c.configure toplevel width height) := by
  rcases configure_drew hset hids toplevel width height with hsame | ⟨id, o, mode, -, hdrew⟩
  · exact .inl hsame
  · exact .inr ⟨id, o, mode, hdrew.acted rfl rfl⟩

/-- A release is the turn of an output that presents the image of the buffer, if there is
one. -/
theorem release_drew (buffer : Nat) :
    (c.release buffer = c ∧ ∀ image, c.buffers.lookup buffer = some image →
      ∀ entry ∈ c.registry.outputs, ∀ shown ∈ entry.2.scheduler.presented, shown.id ≠ image) ∨
    ∃ id o shown, c.buffers.lookup buffer = some shown.id ∧ shown ∈ o.scheduler.presented ∧
      c.Drew id o ⟨.bufferReleased shown.id, [], [.released shown]⟩ (c.canvas id o.details) []
        (c.release buffer) := by
  cases hbuf : c.buffers.lookup buffer with
  | none => exact .inl ⟨by simp only [release, hbuf], fun image h => absurd h (by simp)⟩
  | some image =>
    simp only [release, hbuf]
    rcases hset.bufferReleased hids image with ⟨hnone, hsame⟩ | ⟨id, o, shown, hshown, rfl, hturn⟩
    · refine .inl ⟨by rw [hsame], fun image' h => ?_⟩
      obtain rfl := Option.some.inj h
      exact hnone
    · exact .inr ⟨id, o, shown, rfl, hshown, _, rfl, hturn, rfl, rfl⟩

theorem release_cases (buffer : Nat) :
    (c.release buffer = c ∧ ∀ image, c.buffers.lookup buffer = some image →
      ∀ entry ∈ c.registry.outputs, ∀ shown ∈ entry.2.scheduler.presented, shown.id ≠ image) ∨
    ∃ id o shown, c.buffers.lookup buffer = some shown.id ∧ shown ∈ o.scheduler.presented ∧
      c.Acted id o ⟨.bufferReleased shown.id, [], [.released shown]⟩ [] (c.release buffer) := by
  rcases release_drew hset hids buffer with hsame | ⟨id, o, shown, hbuf, hshown, hdrew⟩
  · exact .inl hsame
  · exact .inr ⟨id, o, shown, hbuf, hshown, hdrew.acted rfl rfl⟩

omit hset hids in
theorem scheduleFrame_unknown {id : OutputId} (hget : c.registry.get? id = none) (image : Image) :
    c.scheduleFrame id image = (.unknownOutput image, [], c) := by
  simp only [scheduleFrame, hget]

end

/-! ## Teardown -/

theorem teardown_ends : Registry.Ends teardown := by
  intro o sent
  exact FrameScheduler.destroy_remains Canvas.surface o.scheduler
    { id := ⟨0⟩, toplevel := o.details, callbacks := {}, sent := sent }

/-- A teardown only destroys the objects of the output. -/
theorem teardown_sent (o : Output Toplevel) (sent : List Request) :
    (teardown o sent).2 = sent ++ [.destroyToplevel o.details.object,
      .destroyXdgSurface o.details.object, .destroySurface o.details.object] := by
  unfold teardown FrameScheduler.destroy
  cases o.scheduler.armed <;> rfl

theorem teardown_aloof (o : Output Toplevel) (sent : List Request) (h : Aloof sent) :
    Aloof (teardown o sent).2 := by
  rw [teardown_sent]
  intro request hr
  simp only [List.mem_append, List.mem_cons, List.not_mem_nil, or_false] at hr
  rcases hr with hr | rfl | rfl | rfl
  · exact h request hr
  all_goals rfl

theorem destroyOutput_aloof (c : Client) (id : OutputId) : Aloof (c.destroyOutput id).2.1 :=
  Registry.destroy_keeps teardown_aloof c.registry id Aloof.nil

theorem connectionClosed_aloof (c : Client) : Aloof c.connectionClosed.1 :=
  Registry.disconnect_keeps teardown_aloof c.registry Aloof.nil

/-! ## Events -/

/-- An event that concerns no output: what is known of the compositor may change, and
nothing is shown. -/
structure Aside (c : Client) (sent : List Request) (c' : Client) : Prop where
  quiet : Quiet sent
  registry_eq : c'.registry = c.registry
  buffers_eq : c'.buffers = c.buffers
  buffersMade_eq : c'.buffersMade = c.buffersMade

theorem Aside.refl (c : Client) : c.Aside [] c :=
  ⟨Quiet.nil, rfl, rfl, rfl⟩

theorem bindGlobal_aside (c : Client) (i : Interface) (name announced : UInt32) :
    c.Aside (c.bindGlobal i name announced).1 (c.bindGlobal i name announced).2 := by
  refine ⟨?_, ?_, ?_, ?_⟩
  · intro request hr
    obtain rfl := List.mem_singleton.mp hr
    rfl
  all_goals cases i <;> rfl

theorem advertise_aside (c : Client) (code : UInt32) (m : Modifier) :
    c.Aside [] (c.advertise code m) := by
  unfold advertise
  split
  · exact .refl c
  · exact ⟨Quiet.nil, rfl, rfl, rfl⟩

/-- Every event of the compositor but a release is a matter of no output, a turn of one,
or the end of one. -/
theorem handle_cases {c : Client} (hset : c.registry.Settled) (hids : c.registry.ids.Nodup)
    (e : Event) (he : ∀ buffer, e ≠ .release buffer) :
    c.Aside (c.handle e).1 (c.handle e).2 ∨
    (∃ id o t, (t.call = .frameDone ∨ ∃ mode, t = ⟨.modeChanged mode, [], [.mode mode]⟩) ∧
      c.Acted id o t (c.handle e).1 (c.handle e).2) ∨
    ∃ id, c.handle e = (c.destroyOutput id).2 := by
  cases e with
  | global name interface version =>
    simp only [handle]
    split
    · exact .inl (.refl c)
    · exact .inl (bindGlobal_aside c _ name version)
  | globalRemove => exact .inl (.refl c)
  | format code => exact .inl (advertise_aside c code .invalid)
  | modifier code high low => exact .inl (advertise_aside c code (.join high low))
  | toplevelConfigure toplevel width height =>
    rcases configure_cases hset hids toplevel width height with hsame | ⟨id, o, mode, hacted⟩
    · exact .inl (by simpa only [handle, hsame] using Aside.refl c)
    · exact .inr (.inl ⟨id, o, _, .inr ⟨mode, rfl⟩, hacted⟩)
  | toplevelClose toplevel =>
    simp only [handle, close]
    split
    · exact .inl (.refl c)
    · next id _ _ => exact .inr (.inr ⟨id, rfl⟩)
  | surfaceConfigure xdgSurface serial =>
    simp only [handle]
    split
    · exact .inl (.refl c)
    · refine .inl ⟨fun request hr => ?_, rfl, rfl, rfl⟩
      obtain rfl := List.mem_singleton.mp hr
      rfl
  | ping wmBase serial =>
    refine .inl ⟨fun request hr => ?_, rfl, rfl, rfl⟩
    obtain rfl := List.mem_singleton.mp hr
    rfl
  | done callback =>
    rcases done_cases hset hids callback with ⟨callbacks, hdone⟩ | ⟨id, o, t, hcall, hacted⟩
    · refine .inl ?_
      simp only [handle, hdone]
      exact ⟨Quiet.nil, rfl, rfl, rfl⟩
    · exact .inr (.inl ⟨id, o, t, .inl hcall, hacted⟩)
  | release buffer => exact absurd rfl (he buffer)

/-! ## Buffers -/

theorem importRequests_aloof (dmabuf buffer : Nat) (d : Dmabuf) :
    Aloof (importRequests dmabuf buffer d) := by
  intro request hr
  simp only [importRequests, List.mem_append, List.mem_cons, List.mem_map, List.not_mem_nil,
    or_false] at hr
  rcases hr with (rfl | ⟨p, -, rfl⟩) | rfl | rfl <;> rfl

/-- An import is refused, or the next buffer is made with the bound global and left with the
image. -/
theorem attach_refused_or_made (c : Client) (image : Image) :
    (∃ e, c.attach image = (.error e, [], c)) ∨
    ∃ dmabuf, c.dmabuf = some dmabuf ∧ c.attach image
      = (.ok { image with backendData := ⟨some (.remoteBuffer c.buffersMade)⟩ },
        importRequests dmabuf.object c.buffersMade image.dmabuf,
        { c with
          buffersMade := c.buffersMade + 1
          buffers := c.buffers ++ [(c.buffersMade, image.id)] }) := by
  unfold attach
  split
  · exact .inl ⟨_, rfl⟩
  · split
    · exact .inl ⟨_, rfl⟩
    · split
      · exact .inl ⟨_, rfl⟩
      · next dmabuf hbound => exact .inr ⟨dmabuf, hbound, rfl⟩

theorem attach_cases (c : Client) (image : Image) :
    (∃ e, c.attach image = (.error e, [], c)) ∨
    ∃ sent, Aloof sent ∧ c.attach image
      = (.ok { image with backendData := ⟨some (.remoteBuffer c.buffersMade)⟩ }, sent,
        { c with
          buffersMade := c.buffersMade + 1
          buffers := c.buffers ++ [(c.buffersMade, image.id)] }) := by
  rcases c.attach_refused_or_made image with hrefused | ⟨dmabuf, -, hattach⟩
  · exact .inl hrefused
  · exact .inr ⟨_, importRequests_aloof _ _ _, hattach⟩

theorem attach_registry (c : Client) (image : Image) :
    (c.attach image).2.2.registry = c.registry := by
  rcases c.attach_cases image with ⟨e, hattach⟩ | ⟨sent, -, hattach⟩ <;> rw [hattach]

/-- Letting go of an image destroys its buffer, if it has one. -/
theorem detach_cases (c : Client) (image : Image) :
    (image.remoteBuffer? = none ∧ c.detach image = (image, [], c)) ∨
    ∃ buffer, image.remoteBuffer? = some buffer ∧
      (c.detach image).2
        = ([.destroyBuffer buffer],
          { c with buffers := c.buffers.filter (·.1 ≠ buffer) }) := by
  cases hb : image.remoteBuffer? with
  | some buffer =>
    have hv := Image.remoteBuffer?_eq_some.mp hb
    have htake : image.backendData.take .remoteBuffer = (some (.remoteBuffer buffer), .empty) := by
      simp only [DataSlot.take, DataSlot.get?, hv]
      rfl
    exact .inr ⟨buffer, rfl, by simp only [detach, htake]⟩
  | none =>
    refine .inl ⟨rfl, ?_⟩
    unfold detach
    split
    · next buffer rest htake =>
      refine absurd (Image.remoteBuffer?_eq_some.mpr ?_) (show image.remoteBuffer? ≠ some buffer by
        simp [hb])
      unfold DataSlot.take at htake
      split at htake
      · next v hget =>
        obtain rfl : v = .remoteBuffer buffer := by simpa using congrArg Prod.fst htake
        exact (Option.filter_eq_some_iff.mp hget).1
      · exact absurd (congrArg Prod.fst htake) (by simp)
    · rfl

theorem detach_registry (c : Client) (image : Image) :
    (c.detach image).2.2.registry = c.registry := by
  rcases c.detach_cases image with ⟨-, hdetach⟩ | ⟨buffer, -, hdetach⟩ <;> rw [hdetach]

end Client

end Wayland

end Scanout
