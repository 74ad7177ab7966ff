import Scanout.Proofs.Display.Kinds

/-!
# What passes between a display and its compositor

`Recorded` is a display with everything that went over its connection, in order: what it was sent
and what it heard. Making an output includes a round trip to the compositor; the events it brings
are those that come before the program's next call.

`Move` lists what a call can do, as far as surfaces are concerned, and `step_move` shows that
there is nothing else.
-/

namespace Scanout.Wayland

/-- One message on the connection. -/
inductive Entry where
  | sent (request : Request)
  | heard (event : Event)
  deriving DecidableEq, Repr

namespace Entry

/-- The surface that is made, attached to or configured, or whose configuration is acknowledged. -/
def surface? : Entry → Option Nat
  | sent (.createSurface _ s) => some s
  | sent (.attach s _) => some s
  | sent (.ackConfigure s _) => some s
  | heard (.surfaceConfigure s _) => some s
  | _ => none

end Entry

/-- A display with everything that went over its connection. -/
structure Recorded where
  client : Client
  log : List Entry := []
  deriving DecidableEq, Repr

namespace Recorded

/-- The display after something was heard and sent. -/
def next (w : Recorded) (heard : List Entry) (sent : List Request) (c : Client) : Recorded :=
  { client := c, log := w.log ++ (heard ++ sent.map .sent) }

end Recorded

/-- The display as its own compositor sees it, with everything written down. -/
def recording : Display Recorded Toplevel Happening :=
  { registry := fun w => w.client.registry
    createOutput := fun id w =>
      let (result, sent, c) := w.client.createOutput id
      (result.isOk, w.next [] sent c)
    scheduleFrame := fun id image w =>
      let (outcome, sent, c) := w.client.scheduleFrame id image
      (outcome, w.next [] sent c)
    destroyOutput := fun id w =>
      let (_, sent, c) := w.client.destroyOutput id
      w.next [] sent c
    connectionClosed := fun w =>
      let (sent, c) := w.client.connectionClosed
      w.next [] sent c
    deliver := fun w =>
      let (events, registry) := w.client.registry.takeEvents
      (events, w.next [] [] { w.client with registry := registry })
    handle := fun e w =>
      match e with
      | .event e =>
        let (sent, c) := w.client.handle e
        (true, w.next [.heard e] sent c)
      | .attach image =>
        let (_, sent, c) := w.client.attach image
        (true, w.next [] sent c)
      | .detach image =>
        let (_, sent, c) := w.client.detach image
        (true, w.next [] sent c) }

theorem recording_lawful : recording.Lawful where
  createOutput := fun id w => display_lawful.createOutput id w.client
  scheduleFrame := fun id image w => display_lawful.scheduleFrame id image w.client
  destroyOutput := fun id w => display_lawful.destroyOutput id w.client
  connectionClosed := by
    obtain ⟨σ, teardown, s, hends, hlost⟩ := display_lawful.connectionClosed
    exact ⟨σ, teardown, s, hends, fun w => hlost w.client⟩
  deliver := fun w => display_lawful.deliver w.client
  handle := by
    intro e w
    cases e with
    | event e => exact display_lawful.handle (.event e) w.client
    | attach image => exact display_lawful.handle (.attach image) w.client
    | detach image => exact display_lawful.handle (.detach image) w.client

/-! ## Messages -/

/-- Messages about no surface. -/
def Plain (sent : List Request) : Prop :=
  ∀ request ∈ sent, (Entry.sent request).surface? = none

theorem Plain.nil : Plain [] := fun _ h => absurd h List.not_mem_nil

theorem Plain.entries {sent : List Request} (h : Plain sent) :
    ∀ e ∈ sent.map Entry.sent, e.surface? = none := by
  intro e he
  obtain ⟨request, hrequest, rfl⟩ := List.mem_map.mp he
  exact h request hrequest

theorem Aloof.plain {sent : List Request} (h : Aloof sent) : Plain sent := by
  intro request hr
  have haloof := h request hr
  cases request <;> first | rfl | exact absurd haloof (by simp [Request.aloof])

/-- What presenting an imported image sends. -/
theorem Canvas.present_sent {image : Image} {buffer : Nat}
    (hbuffer : image.remoteBuffer? = some buffer) (c : Canvas) :
    (Canvas.present image c).1 = .done () ∧ ∃ rest,
      (Canvas.present image c).2.sent = c.sent ++ .attach c.toplevel.object buffer :: rest ∧
      Plain rest := by
  obtain ⟨damage, hdamage, hcommit⟩ := c.commitOf_eq buffer
  rw [Canvas.present_eq, hbuffer]
  refine ⟨rfl, damage ++ [.frame c.toplevel.object c.callbacks.next, .commit c.toplevel.object],
    ?_, fun request hr => ?_⟩
  · simp only [Canvas.showing, hcommit, List.cons_append]
  rcases List.mem_append.mp hr with hr | hr
  · rw [hdamage request hr]
    rfl
  · simp only [List.mem_cons, List.not_mem_nil, or_false] at hr
    rcases hr with rfl | rfl <;> rfl

/-- A turn attaches the image it shows, and sends nothing if it shows none. -/
theorem Client.Acted.sent_cases {c c' : Client} {id : OutputId} {o : Output Toplevel}
    {t : FrameScheduler.Turn} {sent : List Request} (h : c.Acted id o t sent c') :
    (sent = [] ∧ ∀ image, t.asked ≠ [.present image (.done ())]) ∨
    ∃ image buffer rest, t.asked = [.present image (.done ())] ∧
      image.remoteBuffer? = some buffer ∧ sent = .attach o.details.object buffer :: rest ∧
      Plain rest := by
  obtain ⟨canvas, used, hobject, hempty, hused, rfl⟩ := h.uses
  obtain ⟨details, -, hturn⟩ := h.turn
  obtain ⟨f, heffect⟩ := hturn.effect
  have hasked := heffect.asked_cases
  rcases t with ⟨call, asked, queued⟩
  rcases hasked with rfl | rfl | ⟨image, answer, rfl⟩
  · obtain rfl : used = canvas := hused
    exact .inl ⟨hempty, by simp⟩
  · obtain rfl : used = canvas.cancel := hused
    exact .inl ⟨hempty, by simp⟩
  · obtain ⟨rfl, rfl⟩ : (Canvas.present image canvas).1 = answer ∧
      used = (Canvas.present image canvas).2 := hused
    rcases Canvas.present_cases image canvas with ⟨buffer, -, hbuffer, -⟩ | ⟨-, hp⟩
    · obtain ⟨hanswer, rest, hsent, hplain⟩ := Canvas.present_sent hbuffer canvas
      rw [hempty, hobject, List.nil_append] at hsent
      exact .inr ⟨image, buffer, rest, by rw [hanswer], hbuffer, hsent, hplain⟩
    · exact .inl ⟨by rw [hp, hempty], by simp [hp]⟩

/-- The messages of a turn are about no surface, or attach a buffer to that of the output. -/
theorem Client.Acted.messages {c c' : Client} {id : OutputId} {o : Output Toplevel}
    {t : FrameScheduler.Turn} {sent : List Request} (h : c.Acted id o t sent c')
    {heard : List Entry} (hheard : ∀ e ∈ heard, e.surface? = none) :
    ∀ e ∈ heard ++ sent.map .sent, e.surface? = none ∨
      ∃ buffer, e = .sent (.attach o.details.object buffer) := by
  intro e he
  rcases List.mem_append.mp he with he | he
  · exact .inl (hheard e he)
  · obtain ⟨request, hrequest, rfl⟩ := List.mem_map.mp he
    rcases h.sent_cases with ⟨rfl, -⟩ | ⟨image, buffer, rest, -, -, rfl, hrest⟩
    · exact absurd hrequest List.not_mem_nil
    · rcases List.mem_cons.mp hrequest with rfl | hrequest
      · exact .inr ⟨buffer, rfl⟩
      · exact .inl (hrest request hrequest)

namespace Recorded

/-! ## What a call can do -/

/-- Everything a call can do to what is known of the surfaces. -/
inductive Move (w : Recorded) (call : Display.Call Happening) (w' : Recorded) : Prop where
  /-- No output is new or takes a turn. -/
  | aside {news : List Entry}
      (outputs : w'.client.registry.outputs ⊆ w.client.registry.outputs)
      (created : w'.client.created = w.client.created) (log : w'.log = w.log ++ news)
      (plain : ∀ e ∈ news, e.surface? = none)
  | opened {id : OutputId} {d : Toplevel} {compositor : Nat} {rest : List Request}
      (outputs : w'.client.registry.outputs = w.client.registry.outputs ++ [(id, ⟨{}, d⟩)])
      (object : d.object = w.client.created) (created : w'.client.created = w.client.created + 1)
      (log : w'.log = w.log
        ++ .sent (.createSurface compositor w.client.created) :: rest.map .sent)
      (plain : Plain rest)
  /-- An output takes a turn, by the program or by an event. -/
  | turned {id : OutputId} {o : Output Toplevel} {t : FrameScheduler.Turn} {sent : List Request}
      {heard : List Entry} (acted : w.client.Acted id o t sent w'.client)
      (scheduled : ∀ image, t.call = .schedule image → call = .scheduleFrame id image)
      (log : w'.log = w.log ++ (heard ++ sent.map .sent)) (plain : ∀ e ∈ heard, e.surface? = none)
  /-- The surface of an output is configured, which is acknowledged at once. -/
  | configured {entry : OutputId × Output Toplevel} {serial : UInt32}
      (there : entry ∈ w.client.registry.outputs) (same : w'.client = w.client)
      (log : w'.log = w.log ++ [.heard (.surfaceConfigure entry.2.details.object serial),
        .sent (.ackConfigure entry.2.details.object serial)])
  /-- A surface is configured that is not there. -/
  | missed {surface : Nat} {serial : UInt32}
      (absent : ∀ entry ∈ w.client.registry.outputs, entry.2.details.object ≠ surface)
      (same : w'.client = w.client)
      (log : w'.log = w.log ++ [.heard (.surfaceConfigure surface serial)])

section

variable {w : Recorded} (hr : w.client.registry.Tidy)

theorem createOutput_move (skipped : Nat) (id : OutputId) :
    w.Move (.createOutput skipped)
      (w.next [] (w.client.createOutput id).2.1 (w.client.createOutput id).2.2) := by
  unfold Client.createOutput
  split
  · exact .aside (List.Subset.refl _) rfl rfl (by simp)
  · split
    · next compositor wmBase _ _ =>
      have hrest : Plain [.getXdgSurface wmBase.object w.client.created w.client.created,
          .getToplevel w.client.created w.client.created,
          .setTitle w.client.created (w.client.appId ++ " - " ++ s!"WL-{w.client.created + 1}"),
          .setAppId w.client.created w.client.appId, .commit w.client.created] := by
        intro request hr
        simp only [List.mem_cons, List.not_mem_nil, or_false] at hr
        rcases hr with rfl | rfl | rfl | rfl | rfl <;> rfl
      exact .opened rfl rfl rfl rfl hrest
    · exact .aside (List.Subset.refl _) rfl rfl (by simp)

/-- Tearing an output down is no matter of the others. -/
theorem destroy_move (call : Display.Call Happening) (id : OutputId) {heard : List Entry}
    (hheard : ∀ e ∈ heard, e.surface? = none) :
    w.Move call (w.next heard (w.client.destroyOutput id).2.1 (w.client.destroyOutput id).2.2) := by
  refine .aside (Registry.destroy_outputs _ id Client.teardown []).subset rfl rfl fun e he => ?_
  rcases List.mem_append.mp he with he | he
  · exact hheard e he
  · exact (Client.destroyOutput_aloof w.client id).plain.entries e he

include hr

theorem scheduleFrame_move (id : OutputId) (image : Image) :
    w.Move (.scheduleFrame id image)
      (w.next [] (w.client.scheduleFrame id image).2.1 (w.client.scheduleFrame id image).2.2) := by
  cases hget : w.client.registry.get? id with
  | none =>
    rw [Client.scheduleFrame_unknown hget]
    exact .aside (List.Subset.refl _) rfl rfl (by simp)
  | some o =>
    obtain ⟨t, hcall, hacted⟩ := Client.scheduleFrame_acted hr.settled hr.ids hget image
    refine .turned hacted (fun other hother => ?_) rfl (by simp)
    obtain ⟨rfl⟩ : image = other := by simpa using hcall.symm.trans hother
    rfl

theorem connectionClosed_move (call : Display.Call Happening) :
    w.Move call (w.next [] w.client.connectionClosed.1 w.client.connectionClosed.2) :=
  .aside (Registry.disconnect_outputs hr.ids Client.teardown_ends []).subset rfl rfl
    (Client.connectionClosed_aloof w.client).plain.entries

theorem event_move (call : Display.Call Happening) (e : Event) :
    w.Move call (w.next [.heard e] (w.client.handle e).1 (w.client.handle e).2) := by
  have haside : ∀ {e sent c}, (Entry.heard e).surface? = none → Plain sent →
      c.registry = w.client.registry → c.created = w.client.created →
      w.Move call (w.next [.heard e] sent c) := by
    intro e sent c hheard hsent hregistry hcreated
    have hnews : ∀ other ∈ Entry.heard e :: sent.map .sent, other.surface? = none := by
      intro other ho
      rcases List.mem_cons.mp ho with rfl | ho
      · exact hheard
      · exact hsent.entries other ho
    refine .aside ?_ hcreated rfl hnews
    rw [show (w.next [.heard e] sent c).client.registry = w.client.registry from hregistry]
    exact List.Subset.refl _
  have hturned : ∀ {e id o t sent c}, (Entry.heard e).surface? = none →
      w.client.Acted id o t sent c → (∀ image, t.call ≠ .schedule image) →
      w.Move call (w.next [.heard e] sent c) := by
    intro e id o t sent c hheard hacted hnone
    refine .turned hacted (fun image himage => ?_) rfl (by simpa using hheard)
    exact absurd himage (hnone image)
  cases e with
  | global name interface version =>
    simp only [Client.handle]
    split
    · exact haside rfl Plain.nil rfl rfl
    · next i _ =>
      refine haside rfl (fun request hr => ?_) ?_ ?_
      · obtain rfl := List.mem_singleton.mp hr
        rfl
      all_goals cases i <;> rfl
  | globalRemove => exact haside rfl Plain.nil rfl rfl
  | format | modifier =>
    simp only [Client.handle, Client.advertise]
    split <;> exact haside rfl Plain.nil rfl rfl
  | toplevelConfigure toplevel width height =>
    rcases Client.configure_cases hr.settled hr.ids toplevel width height with
      hsame | ⟨id, o, mode, hacted⟩
    · simp only [Client.handle, hsame]
      exact haside rfl Plain.nil rfl rfl
    · exact hturned rfl hacted (by simp)
  | toplevelClose toplevel =>
    simp only [Client.handle, Client.close]
    split
    · exact haside rfl Plain.nil rfl rfl
    · next id _ _ => exact destroy_move call id (by simp [Entry.surface?])
  | surfaceConfigure surface serial =>
    simp only [Client.handle]
    split
    · next hnone =>
      refine .missed (fun entry hentry heq => ?_) rfl rfl
      exact List.find?_eq_none.mp hnone entry hentry (by simp [heq])
    · next entry hsome =>
      have hsurface : entry.2.details.object = surface :=
        eq_of_beq (by simpa using List.find?_some hsome)
      subst hsurface
      exact .configured (List.mem_of_find?_eq_some hsome) rfl rfl
  | ping wmBase serial =>
    refine haside rfl (fun request hr => ?_) rfl rfl
    obtain rfl := List.mem_singleton.mp hr
    rfl
  | done callback =>
    rcases Client.done_cases hr.settled hr.ids callback with
      ⟨callbacks, hdone⟩ | ⟨id, o, t, ht, hacted⟩
    · simp only [Client.handle, hdone]
      exact haside rfl Plain.nil rfl rfl
    · exact hturned rfl hacted (by simp [ht])
  | release buffer =>
    rcases Client.release_cases hr.settled hr.ids buffer with
      ⟨hsame, -⟩ | ⟨id, o, shown, -, -, hacted⟩
    · simp only [Client.handle, hsame]
      exact haside rfl Plain.nil rfl rfl
    · exact hturned rfl hacted (by simp)

end

/-- Whatever is called is one of the moves. -/
theorem step_move {w : Display.Course Recorded} (hr : w.client.client.registry.Tidy)
    (hw : w.broken = false) (call : Display.Call Happening) :
    w.client.Move call (w.step recording call).client := by
  simp only [Display.Course.step, hw, Bool.false_eq_true, if_false]
  cases call with
  | createOutput skipped => exact createOutput_move skipped _
  | scheduleFrame id image => exact scheduleFrame_move hr id image
  | destroyOutput id => exact destroy_move _ id (by simp)
  | connectionClosed => exact connectionClosed_move hr _
  | deliver => exact .aside (List.Subset.refl _) rfl rfl (by simp)
  | other happening =>
    cases happening with
    | event e => exact event_move hr _ e
    | attach image =>
      show w.client.Move _ (w.client.next [] (w.client.client.attach image).2.1
        (w.client.client.attach image).2.2)
      rcases Client.attach_cases w.client.client image with ⟨_, hattach⟩ | ⟨_, haloof, hattach⟩
      · rw [hattach]
        exact .aside (List.Subset.refl _) rfl rfl (by simp)
      · rw [hattach]
        exact .aside (List.Subset.refl _) rfl rfl haloof.plain.entries
    | detach image =>
      show w.client.Move _ (w.client.next [] (w.client.client.detach image).2.1
        (w.client.client.detach image).2.2)
      rcases Client.detach_cases w.client.client image with ⟨-, hdetach⟩ | ⟨buffer, -, hdetach⟩
      · rw [hdetach]
        exact .aside (List.Subset.refl _) rfl rfl (by simp)
      · rw [hdetach]
        exact .aside (List.Subset.refl _) rfl rfl (by simp [Entry.surface?])

/-- Nothing a display on a compositor is asked for breaks a contract. -/
theorem step_holds {w : Display.Course Recorded} (hw : w.broken = false)
    (call : Display.Call Happening) : (w.step recording call).broken = false := by
  unfold Display.Course.step
  rw [if_neg (by simp [hw])]
  cases call with
  | scheduleFrame id image => exact Client.scheduleFrame_holds w.client.client id image
  | other e => cases e <;> rfl
  | _ => exact hw

end Recorded

end Scanout.Wayland
