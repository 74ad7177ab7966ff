import Mathlib.Logic.Function.Basic
import Scanout.Proofs.Display.Chronicle
import Scanout.Proofs.Wayland.Recorded

/-!
# What a display says on its connection

`Holdings` is what a display holds of its compositor: the globals it bound last, the windows of
its outputs, and how many windows and buffers it made. `Speaks` lists all that can go over the
connection at a time, with what is held afterwards: a window is made, a buffer is made, or what is
there is kept up (`Upkeep`).

`step_speaks` shows that no call says anything else, so that the log of every run is a `Transcript`,
which builds up from nothing. What is true of all transcripts needs no other look at the display.
-/

namespace Scanout.Wayland

/-- The global that is announced, with its version, if it is one that a display needs. -/
def Event.announced? : Event → Option (Interface × UInt32)
  | .global _ interface version => (Interface.ofName? interface).map (·, version)
  | _ => none

theorem Interface.ofName?_name (i : Interface) : ofName? i.name = some i := by
  cases i <;> decide

theorem Interface.name_of_ofName? {name : String} {i : Interface} (h : ofName? name = some i) :
    i.name = name := by
  simpa using List.find?_some h

/-- The request that was sent. -/
def Entry.request? : Entry → Option Request
  | sent request => some request
  | heard _ => none

/-- What was sent, in order. -/
def requests (log : List Entry) : List Request :=
  log.filterMap Entry.request?

@[simp]
theorem requests_append (log news : List Entry) :
    requests (log ++ news) = requests log ++ requests news :=
  List.filterMap_append

@[simp]
theorem requests_nil : requests [] = [] :=
  rfl

@[simp]
theorem requests_cons_sent (r : Request) (log : List Entry) :
    requests (.sent r :: log) = r :: requests log :=
  rfl

@[simp]
theorem requests_heard (e : Event) (log : List Entry) : requests (.heard e :: log) = requests log :=
  rfl

@[simp]
theorem requests_sent (sent : List Request) : requests (sent.map .sent) = sent := by
  simp only [requests, List.filterMap_map]
  exact List.filterMap_some

/-! ## Windows -/

/-- The objects of an output: their number, and the version of the surface. -/
structure Window where
  object : Nat
  version : UInt32
  deriving DecidableEq, Repr

namespace Window

/-- What makes a window. -/
def opens (w : Window) (compositor wmBase : Nat) (title appId : String) : List Request :=
  [.createSurface compositor w.object, .getXdgSurface wmBase w.object w.object,
    .getToplevel w.object w.object, .setTitle w.object title, .setAppId w.object appId,
    .commit w.object]

/-- What shows a buffer in it. -/
def shows (w : Window) (buffer callback : Nat) : List Request :=
  .attach w.object buffer
    :: (if w.version ≥ Canvas.damageVersion then [.damageBuffer w.object] else [])
    ++ [.frame w.object callback, .commit w.object]

/-- What ends it. -/
def closes (w : Window) : List Request :=
  [.destroyToplevel w.object, .destroyXdgSurface w.object, .destroySurface w.object]

end Window

/-- The window of an output. -/
def Toplevel.window (t : Toplevel) : Window := ⟨t.object, t.version⟩

/-! ## Holdings -/

/-- What a display holds of its compositor. -/
structure Holdings where
  /-- The globals bound last. -/
  bound : Interface → Option Bound := fun _ => none
  /-- The windows of the outputs, oldest first. -/
  windows : List Window := []
  windowsMade : Nat := 0
  buffersMade : Nat := 0

namespace Holdings

variable (h : Holdings)

/-- The number of the next object of a kind of global. -/
def free (i : Interface) : Nat :=
  match h.bound i with
  | none => 0
  | some b => b.object + 1

def bind (i : Interface) (b : Bound) : Holdings :=
  { h with bound := Function.update h.bound i (some b) }

@[simp]
theorem bind_self (i : Interface) (b : Bound) : (h.bind i b).bound i = some b :=
  Function.update_self i _ _

theorem bind_of_ne {i j : Interface} (hne : j ≠ i) (b : Bound) :
    (h.bind i b).bound j = h.bound j :=
  Function.update_of_ne hne _ _

/-- What goes over the connection while nothing is made and no buffer goes, at once or one after
the other. -/
inductive Upkeep : Holdings → List Entry → Holdings → Prop where
  | nothing {h : Holdings} : Upkeep h [] h
  | also {h h' h'' : Holdings} {news more : List Entry} (first : Upkeep h news h')
      (rest : Upkeep h' more h'') : Upkeep h (news ++ more) h''
  | heard {h : Holdings} {e : Event} (strange : e.announced? = none) : Upkeep h [.heard e] h
  /-- A global is announced and bound at once. -/
  | bound {h : Holdings} (i : Interface) (name version : UInt32) :
    Upkeep h [.heard (.global name i.name version),
        .sent (.bind i name (i.boundVersion version) (h.free i))]
      (h.bind i ⟨h.free i, i.boundVersion version⟩)
  | answered {h : Holdings} (wmBase : Nat) (serial : UInt32) :
    Upkeep h [.sent (.pong wmBase serial)] h
  | acknowledged {h : Holdings} {w : Window} (there : w ∈ h.windows) (serial : UInt32) :
    Upkeep h [.sent (.ackConfigure w.object serial)] h
  | shown {h : Holdings} {w : Window} (there : w ∈ h.windows) (buffer callback : Nat) :
    Upkeep h ((w.shows buffer callback).map .sent) h
  | closed {h : Holdings} {before after : List Window} {w : Window}
      (split : h.windows = before ++ w :: after) :
    Upkeep h (w.closes.map .sent) { h with windows := before ++ after }

/-- What goes over the connection at a time. -/
inductive Speaks (h : Holdings) : List Entry → Holdings → Prop where
  | keeps {news : List Entry} {h' : Holdings} (upkeep : Upkeep h news h') : Speaks h news h'
  /-- The next window is made with the globals bound last. -/
  | opened {compositor wmBase : Bound} (surfaces : h.bound .compositor = some compositor)
      (shell : h.bound .wmBase = some wmBase) (title appId : String) :
    Speaks h ((Window.opens ⟨h.windowsMade, compositor.version⟩ compositor.object wmBase.object
        title appId).map .sent)
      { h with
        windows := h.windows ++ [⟨h.windowsMade, compositor.version⟩]
        windowsMade := h.windowsMade + 1 }
  /-- The next buffer is made with the global bound last. -/
  | imported {dmabuf : Bound} (buffers : h.bound .dmabuf = some dmabuf) (d : Dmabuf) :
    Speaks h ((Client.importRequests dmabuf.object h.buffersMade d).map .sent)
      { h with buffersMade := h.buffersMade + 1 }
  | destroyed (buffer : Nat) : Speaks h [.sent (.destroyBuffer buffer)] h

/-- All that went over a connection, and what is held then. -/
inductive Transcript : List Entry → Holdings → Prop where
  | start : Transcript [] {}
  | spoken {log news : List Entry} {h h' : Holdings} (before : Transcript log h)
      (last : h.Speaks news h') : Transcript (log ++ news) h'

/-- Windows are numbered in the order they were made. -/
structure Numbered (h : Holdings) : Prop where
  older : ∀ w ∈ h.windows, w.object < h.windowsMade
  distinct : (h.windows.map (·.object)).Nodup

variable {h} {h' : Holdings} {log news : List Entry}

theorem Numbered.of_sublist (hn : h.Numbered) (hwindows : h'.windows.Sublist h.windows)
    (hmade : h'.windowsMade = h.windowsMade) : h'.Numbered where
  older := by
    rw [hmade]
    exact fun w hw => hn.older w (hwindows.subset hw)
  distinct := (hwindows.map _).nodup hn.distinct

theorem Numbered.upkeep (hn : h.Numbered) (hupkeep : Upkeep h news h') : h'.Numbered := by
  induction hupkeep with
  | also _ _ first rest => exact rest (first hn)
  | closed split =>
    refine hn.of_sublist ?_ rfl
    rw [split]
    exact (List.Sublist.refl _).append (List.sublist_cons_self _ _)
  | bound => exact ⟨hn.older, hn.distinct⟩
  | _ => exact hn

theorem Numbered.speaks (hn : h.Numbered) (hspeaks : h.Speaks news h') : h'.Numbered := by
  cases hspeaks with
  | keeps upkeep => exact hn.upkeep upkeep
  | opened =>
    refine ⟨fun w hw => ?_, ?_⟩
    · rcases List.mem_append.mp hw with hw | hw
      · exact Nat.lt_succ_of_lt (hn.older w hw)
      · rw [List.mem_singleton.mp hw]
        exact Nat.lt_succ_self _
    · exact nodup_map_append_new hn.distinct fun w hw => Nat.ne_of_lt (hn.older w hw)
  | imported => exact ⟨hn.older, hn.distinct⟩
  | destroyed => exact hn

theorem Transcript.numbered (hlog : Transcript log h) : h.Numbered := by
  induction hlog with
  | start => exact ⟨fun _ hw => absurd hw List.not_mem_nil, List.nodup_nil⟩
  | spoken _ last ih => exact ih.speaks last

end Holdings

open Holdings

namespace Client

/-- What a display holds. -/
def holdings (c : Client) : Holdings where
  bound := c.bound?
  windows := c.registry.outputs.map (·.2.details.window)
  windowsMade := c.created
  buffersMade := c.buffersMade

/-! ## What the operations of a display say -/

/-- A canvas is used to show one buffer or to say nothing, and stays that of its window. -/
theorem used_speaks {f f' : FrameScheduler} {t : FrameScheduler.Turn} {start used : Canvas}
    (heffect : f.Effect t f') (hused : Canvas.surface.Used t.asked start used)
    (hsent : start.sent = []) :
    used.toplevel.window = start.toplevel.window ∧
    (used.sent = [] ∨
      ∃ buffer callback, used.sent = start.toplevel.window.shows buffer callback) := by
  have hasked := heffect.asked_cases
  rcases t with ⟨call, asked, queued⟩
  rcases hasked with rfl | rfl | ⟨image, answer, rfl⟩
  · obtain rfl : used = start := hused
    exact ⟨rfl, .inl hsent⟩
  · obtain rfl : used = start.cancel := hused
    exact ⟨rfl, .inl hsent⟩
  · rcases Canvas.used_present hused with ⟨buffer, -, -, rfl⟩ | ⟨-, -, rfl⟩
    · refine ⟨rfl, .inr ⟨buffer, start.callbacks.next, ?_⟩⟩
      rw [Canvas.showing, hsent]
      rfl
    · exact ⟨rfl, .inl hsent⟩

/-- A turn shows at most one buffer in the window of its output. -/
theorem Drew.upkeep {c c' : Client} {id : OutputId} {o : Output Toplevel} {t : FrameScheduler.Turn}
    {start : Canvas} {sent : List Request} (h : c.Drew id o t start sent c')
    (hwindow : start.toplevel.window = o.details.window) (hsent : start.sent = []) :
    Upkeep c.holdings (sent.map .sent) c'.holdings := by
  obtain ⟨used, hused, hturn, rfl, hrest⟩ := h
  obtain ⟨before, after, f, hat, heffect, houtputs⟩ := hturn.place
  obtain ⟨hsame, hspeaks⟩ := used_speaks heffect hused hsent
  have hheld : c'.holdings = c.holdings := by
    have hwindows : c'.registry.outputs.map (·.2.details.window)
        = c.registry.outputs.map (·.2.details.window) := by
      simp only [houtputs, hat.outputs_eq, List.map_append, List.map_cons, hsame, hwindow]
    have hbound : c'.bound? = c.bound? := by
      rw [hrest]
      funext i
      cases i <;> rfl
    unfold holdings
    rw [hwindows, hbound, hrest]
  rw [hheld]
  have hthere : start.toplevel.window ∈ c.holdings.windows :=
    List.mem_map.mpr ⟨_, Registry.mem_of_get? hturn.get?, hwindow.symm⟩
  rcases hspeaks with hnone | ⟨buffer, callback, hshows⟩
  · rw [hnone]
    exact .nothing
  · rw [hshows]
    exact .shown hthere buffer callback

/-- Announced globals are bound. -/
theorem bindGlobal_upkeep (c : Client) (i : Interface) (name version : UInt32) :
    Upkeep c.holdings
      (.heard (.global name i.name version) :: (c.bindGlobal i name version).1.map .sent)
      (c.bindGlobal i name version).2.holdings := by
  have hbind : ∀ b, (c.setBound i b).holdings = c.holdings.bind i b := by
    intro b
    have hbound : (c.setBound i b).bound? = Function.update c.bound? i (some b) := by
      funext j
      cases i <;> cases j <;> rfl
    unfold holdings Holdings.bind
    rw [hbound]
    cases i <;> rfl
  simp only [bindGlobal, hbind]
  exact .bound i name version

section

variable {c : Client}

/-- An output that goes has its window closed. -/
theorem destroy_upkeep {r : Registry Toplevel} (hids : r.ids.Nodup) (id : OutputId)
    (sent : List Request) :
    ∃ more, (r.destroy id teardown sent).2.2 = sent ++ more ∧
      Upkeep { c with registry := r }.holdings (more.map .sent)
        { c with registry := (r.destroy id teardown sent).2.1 }.holdings := by
  cases hget : r.get? id with
  | none =>
    rw [Registry.destroy_absent hget]
    exact ⟨[], (List.append_nil _).symm, .nothing⟩
  | some o =>
    obtain ⟨before, after, hat⟩ := Registry.at_of_mem hids (Registry.mem_of_get? hget)
    rw [hat.destroy_eq teardown_ends]
    refine ⟨o.details.window.closes, teardown_sent o sent, ?_⟩
    have hsplit : { c with registry := r }.holdings.windows
        = before.map (·.2.details.window)
          ++ o.details.window :: after.map (·.2.details.window) := by
      simp only [holdings, hat.outputs_eq, List.map_append, List.map_cons]
    have hclosed := Upkeep.closed hsplit
    rw [← List.map_append] at hclosed
    exact hclosed

theorem destroyAll_upkeep (ids : List OutputId) {r : Registry Toplevel} (hids : r.ids.Nodup)
    (sent : List Request) :
    ∃ more, (Registry.destroyAll teardown ids r sent).2 = sent ++ more ∧
      Upkeep { c with registry := r }.holdings (more.map .sent)
        { c with registry := (Registry.destroyAll teardown ids r sent).1 }.holdings := by
  induction ids generalizing r sent with
  | nil => exact ⟨[], (List.append_nil _).symm, .nothing⟩
  | cons id rest ih =>
    obtain ⟨first, hfirst, hone⟩ := destroy_upkeep (c := c) hids id sent
    have hids' : (r.destroy id teardown sent).2.1.ids.Nodup := by
      rw [Registry.destroy_ids]
      exact hids.filter _
    obtain ⟨more, hmore, hothers⟩ := ih hids' (r.destroy id teardown sent).2.2
    refine ⟨first ++ more, ?_, ?_⟩
    · rw [Registry.destroyAll, hmore, hfirst, List.append_assoc]
    · rw [List.map_append]
      exact hone.also hothers

theorem destroyOutput_upkeep (hids : c.registry.ids.Nodup) (id : OutputId) :
    Upkeep c.holdings ((c.destroyOutput id).2.1.map .sent) (c.destroyOutput id).2.2.holdings := by
  obtain ⟨more, hmore, hupkeep⟩ := destroy_upkeep (c := c) hids id []
  rw [List.nil_append] at hmore
  simp only [destroyOutput, hmore]
  exact hupkeep

theorem connectionClosed_upkeep (hids : c.registry.ids.Nodup) :
    Upkeep c.holdings (c.connectionClosed.1.map .sent) c.connectionClosed.2.holdings := by
  cases hlost : c.registry.disconnected with
  | true =>
    simp only [connectionClosed, Registry.disconnect_again hlost]
    exact .nothing
  | false =>
    obtain ⟨more, hmore, hupkeep⟩ := destroyAll_upkeep (c := c) c.registry.ids
      (r := { c.registry with disconnected := true }) hids []
    rw [List.nil_append] at hmore
    simp only [connectionClosed, Registry.disconnect, hlost, Bool.false_eq_true, if_false, hmore]
    exact hupkeep

/-- Making an output is refused, or makes its window. -/
theorem createOutput_speaks (id : OutputId) :
    ((c.createOutput id).1.isOk = false ∧ (c.createOutput id).2 = ([], c)) ∨
    ((c.createOutput id).1.isOk = true ∧ ∃ compositor wmBase title appId,
      c.holdings.bound .compositor = some compositor ∧ c.holdings.bound .wmBase = some wmBase ∧
      (c.createOutput id).2.1 = Window.opens ⟨c.created, compositor.version⟩ compositor.object
        wmBase.object title appId ∧
      (c.createOutput id).2.2.holdings = { c.holdings with
        windows := c.holdings.windows ++ [⟨c.created, compositor.version⟩]
        windowsMade := c.created + 1 }) := by
  unfold createOutput
  split
  · exact .inl ⟨rfl, rfl⟩
  · split
    · next compositor wmBase hcompositor hwmBase =>
      refine .inr ⟨rfl, compositor, wmBase, _, _, hcompositor, hwmBase, rfl, ?_⟩
      simp only [holdings, Registry.insert, Registry.queue, List.map_append, List.map_cons,
        List.map_nil, Toplevel.window]
      rfl
    · exact .inl ⟨rfl, rfl⟩

end

section

variable {c : Client} (hr : c.registry.Tidy)

include hr

theorem scheduleFrame_upkeep (id : OutputId) (image : Image) :
    Upkeep c.holdings ((c.scheduleFrame id image).2.1.map .sent)
      (c.scheduleFrame id image).2.2.holdings := by
  cases hget : c.registry.get? id with
  | none =>
    rw [scheduleFrame_unknown hget]
    exact .nothing
  | some o =>
    obtain ⟨t, -, hdrew⟩ := scheduleFrame_drew hr.settled hr.ids hget image
    exact hdrew.upkeep rfl rfl

theorem done_upkeep (callback : Nat) :
    Upkeep c.holdings ((c.done callback).1.map .sent) (c.done callback).2.holdings := by
  by_cases hheard : ∃ id o, c.callbacks.unanswered.lookup callback = some id ∧
      c.registry.get? id = some o
  · obtain ⟨id, o, hwait, hget⟩ := hheard
    obtain ⟨t, -, hdrew⟩ := done_drew hr.settled hr.ids hwait hget
    exact hdrew.upkeep rfl rfl
  · obtain ⟨callbacks, hdone, -⟩ := done_unheard (c := c) callback fun id hwait =>
      Option.eq_none_iff_forall_ne_some.mpr fun o hget => hheard ⟨id, o, hwait, hget⟩
    rw [hdone]
    exact .nothing

/-- Whatever the compositor sends, what follows is no more than upkeep. -/
theorem handle_upkeep (e : Event) :
    Upkeep c.holdings (.heard e :: (c.handle e).1.map .sent) (c.handle e).2.holdings := by
  -- apart from an announcement, hearing and answering are two things
  have hthen : ∀ {e : Event} {sent : List Request} {c' : Client}, e.announced? = none →
      Upkeep c.holdings (sent.map .sent) c'.holdings →
      Upkeep c.holdings (.heard e :: sent.map .sent) c'.holdings :=
    fun hstrange hupkeep => (Upkeep.heard hstrange).also hupkeep
  cases e with
  | global name interface version =>
    simp only [handle]
    split
    · next hnone => exact hthen (by simp [Event.announced?, hnone]) .nothing
    · next i hsome =>
      obtain rfl := Interface.name_of_ofName? hsome
      exact bindGlobal_upkeep c i name version
  | globalRemove => exact hthen rfl .nothing
  | format | modifier =>
    simp only [handle, advertise]
    split <;> exact hthen rfl .nothing
  | toplevelConfigure toplevel width height =>
    refine hthen rfl ?_
    rcases configure_drew hr.settled hr.ids toplevel width height with
      hsame | ⟨id, o, mode, -, hdrew⟩
    · simp only [handle, hsame]
      exact .nothing
    · exact hdrew.upkeep rfl rfl
  | toplevelClose toplevel =>
    refine hthen rfl ?_
    simp only [handle, close]
    split
    · exact .nothing
    · next id _ _ => exact destroyOutput_upkeep hr.ids id
  | surfaceConfigure surface serial =>
    refine hthen rfl ?_
    simp only [handle]
    split
    · exact .nothing
    · next entry hsome =>
      have hsurface : entry.2.details.object = surface :=
        eq_of_beq (by simpa using List.find?_some hsome)
      subst hsurface
      exact .acknowledged (w := entry.2.details.window)
        (List.mem_map_of_mem (List.mem_of_find?_eq_some hsome)) serial
  | ping wmBase serial => exact hthen rfl (.answered wmBase serial)
  | done callback => exact hthen rfl (done_upkeep hr callback)
  | release buffer =>
    refine hthen rfl ?_
    rcases release_drew hr.settled hr.ids buffer with hsame | ⟨id, o, shown, -, -, hdrew⟩
    · simp only [handle, hsame.1]
      exact .nothing
    · exact hdrew.upkeep rfl rfl

end

end Client

namespace Recorded

variable {w : Display.Course Recorded}

/-- What a display holds in a run. -/
def held (w : Display.Course Recorded) : Holdings := w.client.client.holdings

/-! ## What a call says -/

/-- A call that makes an output or a buffer, or destroys a buffer. -/
def Changes : Display.Call Happening → Prop
  | .createOutput _ | .other (.attach _) | .other (.detach _) => True
  | _ => False

/-- All other calls are upkeep. -/
theorem step_upkeep (hr : w.client.client.registry.Tidy) (hw : w.broken = false)
    {call : Display.Call Happening} (hcall : ¬ Changes call) :
    ∃ news, (w.step recording call).client.log = w.client.log ++ news ∧
      Upkeep (held w) news (held (w.step recording call)) := by
  unfold Display.Course.step
  rw [if_neg (by simp [hw])]
  cases call with
  | createOutput skipped => exact absurd trivial hcall
  | scheduleFrame id image => exact ⟨_, rfl, Client.scheduleFrame_upkeep hr id image⟩
  | destroyOutput id => exact ⟨_, rfl, Client.destroyOutput_upkeep hr.ids id⟩
  | connectionClosed => exact ⟨_, rfl, Client.connectionClosed_upkeep hr.ids⟩
  | deliver => exact ⟨_, rfl, .nothing⟩
  | other happening =>
    cases happening with
    | event e => exact ⟨_, rfl, Client.handle_upkeep hr e⟩
    | attach image | detach image => exact absurd trivial hcall

/-- Whatever a call says is one of the things a display says. -/
theorem step_speaks (hr : w.client.client.registry.Tidy) (hw : w.broken = false)
    (call : Display.Call Happening) :
    ∃ news, (w.step recording call).client.log = w.client.log ++ news ∧
      (held w).Speaks news (held (w.step recording call)) := by
  by_cases hcall : Changes call
  · unfold Display.Course.step
    rw [if_neg (by simp [hw])]
    cases call with
    | createOutput skipped =>
      refine ⟨_, rfl, ?_⟩
      show (held w).Speaks ((w.client.client.createOutput ⟨w.next + skipped⟩).2.1.map .sent)
        (w.client.client.createOutput ⟨w.next + skipped⟩).2.2.holdings
      rcases Client.createOutput_speaks (c := w.client.client) ⟨w.next + skipped⟩ with
        ⟨-, hsame⟩ | ⟨-, compositor, wmBase, title, appId, hcompositor, hwmBase, hsent, hheld⟩
      · rw [hsame]
        exact .keeps .nothing
      · rw [hsent, hheld]
        exact .opened (h := held w) hcompositor hwmBase title appId
    | other happening =>
      cases happening with
      | attach image =>
        refine ⟨_, rfl, ?_⟩
        show (held w).Speaks ((w.client.client.attach image).2.1.map .sent)
          (w.client.client.attach image).2.2.holdings
        rcases w.client.client.attach_refused_or_made image with
          ⟨e, hattach⟩ | ⟨dmabuf, hbound, hattach⟩
        · rw [hattach]
          exact .keeps .nothing
        · rw [hattach]
          exact .imported (h := held w) hbound image.dmabuf
      | detach image =>
        refine ⟨_, rfl, ?_⟩
        show (held w).Speaks ((w.client.client.detach image).2.1.map .sent)
          (w.client.client.detach image).2.2.holdings
        rcases Client.detach_cases w.client.client image with ⟨-, hdetach⟩ | ⟨buffer, -, hdetach⟩
        · rw [hdetach]
          exact .keeps .nothing
        · rw [hdetach]
          exact .destroyed buffer
      | event e => exact absurd hcall id
    | _ => exact absurd hcall id
  · obtain ⟨news, hlog, hupkeep⟩ := step_upkeep hr hw hcall
    exact ⟨news, hlog, .keeps hupkeep⟩

theorem run_transcript (hinv : w.Inv recording) (hw : w.broken = false)
    (h : Transcript w.client.log (held w)) (calls : List (Display.Call Happening)) :
    Transcript (w.run recording calls).client.log (held (w.run recording calls)) := by
  induction calls generalizing w with
  | nil => exact h
  | cons call rest ih =>
    have hholds := step_holds hw call
    have hadvance := Display.Course.step_advance recording_lawful hinv.tidy call hholds
    obtain ⟨news, hlog, hspeaks⟩ := step_speaks hinv.tidy hw call
    exact ih (hinv.advance_inv hadvance) hholds (hlog ▸ .spoken h hspeaks)

/-- All that ever goes over the connection of a display. -/
theorem log_transcript (appId : String) (mode : Mode) (calls : List (Display.Call Happening)) :
    Transcript ((Display.Course.start (⟨{ appId := appId, mode := mode }, []⟩ : Recorded)).run
        recording calls).client.log
      (held ((Display.Course.start ⟨{ appId := appId, mode := mode }, []⟩).run
        recording calls)) := by
  refine run_transcript (Display.Course.start_inv rfl) rfl ?_ calls
  have hnothing : held (Display.Course.start ⟨{ appId := appId, mode := mode }, []⟩) = {} := by
    unfold held Client.holdings
    have hbound : ({ appId := appId, mode := mode } : Client).bound? = fun _ => none := by
      funext i
      cases i <;> rfl
    simp only [Display.Course.start, hbound, List.map_nil]
  rw [hnothing]
  exact .start

end Recorded

end Scanout.Wayland
