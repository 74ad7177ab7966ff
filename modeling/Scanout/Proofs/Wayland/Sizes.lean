import Scanout.Proofs.Output.Sizes
import Scanout.Proofs.Wayland.Newcomer

/-!
# The sizes of toplevels

On a Wayland compositor a size is proposed to a toplevel, and as on an X server nothing else has to
do with the size of an output (`Carries`). No two outputs have objects of the same number
(`Single`), so a proposal is about one output at most, and it is `Proposed` to that one as any size
is. A new output has the mode of the display.
-/

namespace Scanout.Wayland

namespace Client

variable {c c' : Client}

/-! ## Objects -/

/-- No two outputs have the same objects. -/
def Single (c : Client) : Prop :=
  ∀ entry ∈ c.registry.outputs, ∀ entry' ∈ c.registry.outputs,
    entry.2.details.object = entry'.2.details.object → entry.1 = entry'.1

theorem Single.keeps (h : c.Single) {scheduled : List OutputId} (hkeeps : c.Keeps scheduled c') :
    c'.Single := by
  intro entry he entry' he' hsame
  obtain ⟨o, ho, hobject, -⟩ := hkeeps.outputs entry he
  obtain ⟨o', ho', hobject', -⟩ := hkeeps.outputs entry' he'
  exact h (entry.1, o) ho (entry'.1, o') ho' (hobject.trans (hsame.trans hobject'.symm))

/-- The objects of a new output are new. -/
theorem Single.createOutput (h : c.Single) {next : Nat} (hsound : c.Sound next) (id : OutputId) :
    (c.createOutput id).2.2.Single := by
  unfold Client.createOutput
  split
  · exact h
  · split
    · intro entry he entry' he' hsame
      have hold : ∀ entry ∈ c.registry.outputs, entry.2.details.object ≠ c.created :=
        fun entry he => Nat.ne_of_lt (hsound.objects entry he)
      rcases List.mem_append.mp he with he | he <;> rcases List.mem_append.mp he' with he' | he'
      · exact h entry he entry' he' hsame
      · rw [List.mem_singleton.mp he'] at hsame
        exact absurd hsame (hold entry he)
      · rw [List.mem_singleton.mp he] at hsame
        exact absurd hsame.symm (hold entry' he')
      · rw [List.mem_singleton.mp he, List.mem_singleton.mp he']
    · exact h

/-- An object belongs to one output. -/
theorem Single.outputOf?_eq (h : c.Single) (hr : c.registry.Tidy) {id : OutputId}
    {o : Output Toplevel} (hmem : (id, o) ∈ c.registry.outputs) :
    c.outputOf? o.details.object = some (id, o) :=
  Registry.find?_of_unique hr.ids (Registry.get?_of_mem hr.ids hmem) (beq_self_eq_true _)
    fun entry he hobject => h entry he _ hmem (eq_of_beq hobject)

/-! ## Calls and events -/

/-- The outputs keep their sizes, and new ones will have the size they would have had. -/
structure Carries (c c' : Client) : Prop where
  sizes : c.registry.SameSizes (fun t => t.info.mode) c'.registry
  mode_eq : c'.mode = c.mode

theorem Carries.refl (c : Client) : c.Carries c :=
  ⟨.refl _, rfl⟩

/-- What an output draws has nothing to do with its size. -/
theorem Drew.carries {id : OutputId} {o : Output Toplevel} {t : FrameScheduler.Turn}
    {start : Canvas} {sent : List Request} (h : c.Drew id o t start sent c')
    (hinfo : start.toplevel.info = o.details.info) (hcall : ∀ mode, t.call ≠ .modeChanged mode) :
    c.Carries c' := by
  obtain ⟨used, hused, hturn, -, hrest⟩ := h
  obtain ⟨-, -, hkept⟩ := Canvas.used_frame hused
  refine ⟨.turned hturn (congrArg OutputInfo.mode (hkept.trans hinfo)) hcall, ?_⟩
  rw [hrest]

/-- A new output has the mode of the display. -/
theorem createOutput_mode (c : Client) (id : OutputId) :
    (c.createOutput id).2.2.mode = c.mode ∧
    ((c.createOutput id).2.2.registry = c.registry ∨ ∃ t : Toplevel, t.info.mode = c.mode ∧
      (c.createOutput id).2.2.registry = c.registry.insert id ⟨{}, t⟩) := by
  unfold createOutput
  split
  · exact ⟨rfl, .inl rfl⟩
  · split
    · exact ⟨rfl, .inr ⟨_, rfl, rfl⟩⟩
    · exact ⟨rfl, .inl rfl⟩

theorem attach_carries (c : Client) (image : Image) : c.Carries (c.attach image).2.2 := by
  rcases c.attach_cases image with ⟨e, hattach⟩ | ⟨sent, -, hattach⟩
  all_goals
    rw [hattach]
    exact ⟨.refl _, rfl⟩

theorem detach_carries (c : Client) (image : Image) : c.Carries (c.detach image).2.2 := by
  rcases c.detach_cases image with ⟨-, hdetach⟩ | ⟨buffer, -, hdetach⟩
  all_goals
    rw [hdetach]
    exact ⟨.refl _, rfl⟩

section

variable (hr : c.registry.Tidy)

include hr

theorem scheduleFrame_carries (id : OutputId) (image : Image) :
    c.Carries (c.scheduleFrame id image).2.2 := by
  cases hget : c.registry.get? id with
  | none =>
    rw [scheduleFrame_unknown hget]
    exact .refl c
  | some o =>
    obtain ⟨t, hcall, hdrew⟩ := scheduleFrame_drew hr.settled hr.ids hget image
    exact hdrew.carries rfl (by simp [hcall])

theorem destroyOutput_carries (id : OutputId) : c.Carries (c.destroyOutput id).2.2 :=
  ⟨.destroy hr id teardown_ends [], rfl⟩

theorem connectionClosed_carries : c.Carries c.connectionClosed.2 :=
  ⟨.disconnect hr teardown_ends [], rfl⟩

theorem done_carries (callback : Nat) : c.Carries (c.done callback).2 := by
  by_cases hheard : ∃ id o, c.callbacks.unanswered.lookup callback = some id ∧
      c.registry.get? id = some o
  · obtain ⟨id, o, hwait, hget⟩ := hheard
    obtain ⟨t, hcall, hdrew⟩ := done_drew hr.settled hr.ids hwait hget
    exact hdrew.carries rfl (by simp [hcall])
  · obtain ⟨callbacks, hdone, -⟩ := done_unheard (c := c) callback fun id hwait =>
      Option.eq_none_iff_forall_ne_some.mpr fun o hget => hheard ⟨id, o, hwait, hget⟩
    rw [hdone]
    exact ⟨.refl _, rfl⟩

/-- No event but a new size has to do with the sizes of outputs. -/
theorem handle_carries {e : Event}
    (he : ∀ toplevel width height, e ≠ .toplevelConfigure toplevel width height) :
    c.Carries (c.handle e).2 := by
  cases e with
  | global name interface version =>
    simp only [handle]
    split
    · exact .refl c
    · next i _ => cases i <;> exact ⟨.refl _, rfl⟩
  | format | modifier =>
    simp only [handle, advertise]
    split <;> exact ⟨.refl _, rfl⟩
  | toplevelConfigure toplevel width height => exact absurd rfl (he toplevel width height)
  | toplevelClose toplevel =>
    simp only [handle, close]
    split
    · exact .refl c
    · exact destroyOutput_carries hr _
  | surfaceConfigure xdgSurface serial =>
    simp only [handle]
    split <;> exact .refl c
  | globalRemove | ping => exact .refl c
  | done callback => exact done_carries hr callback
  | release buffer =>
    simp only [handle]
    rcases release_drew hr.settled hr.ids buffer with ⟨hsame, -⟩ | ⟨id, o, shown, -, -, hdrew⟩
    · rw [hsame]
      exact .refl c
    · exact hdrew.carries rfl (by simp)

/-! ## New sizes -/

omit hr in
theorem configure_mode (c : Client) (toplevel : Nat) (width height : Int32) :
    (c.configure toplevel width height).mode = c.mode := by
  unfold configure
  split
  · split <;> rfl
  · rfl

omit hr in
/-- A proposal that is no size, that repeats the mode in force, or that is about the toplevel of no
output leaves everything as it is. -/
theorem configure_moot {toplevel : Nat} {width height : Int32}
    (hmoot : ∀ entry ∈ c.registry.outputs, entry.2.details.object = toplevel →
      entry.2.details.info.mode.Moot width height) :
    c.configure toplevel width height = c := by
  unfold configure
  split
  · next size id o hproper hout =>
    have hobject : o.details.object = toplevel :=
      eq_of_beq (by simpa using List.find?_some hout)
    exact if_pos (Mode.moot_iff.mp (hmoot _ (outputOf?_mem hout) hobject) size hproper)
  · rfl

theorem Single.proposed (h : c.Single) (toplevel : Nat) (width height : Int32) :
    c.registry.Proposed (fun t => t.info.mode) (fun t => t.object = toplevel) width height
      (c.configure toplevel width height).registry := by
  by_cases hmoot : ∀ entry ∈ c.registry.outputs, entry.2.details.object = toplevel →
      entry.2.details.info.mode.Moot width height
  · rw [configure_moot hmoot]
    exact .moot fun entry he hobject => hmoot entry he (of_decide_eq_true hobject)
  · simp only [not_forall, Mode.moot_iff] at hmoot
    obtain ⟨⟨id, o⟩, hmem, rfl, size, hproper, hnews⟩ := hmoot
    simp only [configure, hproper, h.outputOf?_eq hr hmem, if_neg hnews]
    exact .resized (decide_eq_true rfl) hproper hnews rfl
      (hr.settled.turned_set hr.ids (Registry.get?_of_mem hr.ids hmem) (.resized size) (by simp) _)

end

end Client

/-! ## Runs -/

/-- What holds of a display between two calls. -/
structure Steady (w : Display.Course Client) : Prop where
  holds : w.broken = false
  sound : w.client.Sound w.next
  single : w.client.Single

/-- What there is to be seen of a display in the course of a run. -/
def outlook (w : Display.Course Client) : Outlook Toplevel :=
  { registry := w.client.registry, delivered := w.delivered, next := w.next }

/-- The size that a call proposes to an output: it is the one of the toplevel that a new size is
about. -/
def proposed (w : Display.Course Client) (call : Display.Call Happening) (id : OutputId) :
    List (Int32 × Int32) :=
  match call with
  | .other (.event (.toplevelConfigure toplevel width height)) =>
    w.client.registry.proposed (fun t => t.object = toplevel) width height id
  | _ => []

namespace Steady

variable {w : Display.Course Client}

theorem start (appId : String) (mode : Mode) :
    Steady (.start { appId := appId, mode := mode }) where
  holds := rfl
  sound := (⟨appId, mode, [], []⟩ : Opening).client_sound
  single := fun _ h => absurd h List.not_mem_nil

theorem outlook_sound (h : Steady w) : (outlook w).Sound :=
  ⟨h.sound.tidy, h.sound.below⟩

theorem step (h : Steady w) (call : Display.Call Happening) : Steady (w.step display call) := by
  refine ⟨step_holds h.holds call, step_sound h.sound call, ?_⟩
  unfold Display.Course.step
  rw [if_neg (by simp [h.holds])]
  cases call with
  | createOutput skipped => exact h.single.createOutput h.sound _
  | scheduleFrame id image => exact h.single.keeps (Client.scheduleFrame_keeps w.client id image)
  | destroyOutput id => exact h.single.keeps (Client.destroyOutput_keeps w.client id)
  | connectionClosed => exact h.single.keeps (Client.connectionClosed_keeps h.sound.tidy.ids)
  | deliver => exact h.single
  | other happening =>
    cases happening with
    | event e => exact h.single.keeps (Client.handle_keeps h.sound.tidy.ids e)
    | attach image =>
      have hsame := w.client.attach_registry image
      intro entry he entry' he'
      simp only [display, hsame] at he he'
      exact h.single entry he entry' he'
    | detach image =>
      have hsame := w.client.detach_registry image
      intro entry he entry' he'
      simp only [display, hsame] at he he'
      exact h.single entry he entry' he'

/-- A call means for the size of every output what it proposes to it, and the mode of new ones
stays as it is. -/
theorem step_sizes (h : Steady w) (call : Display.Call Happening) :
    (∀ id, (outlook w).Resizes (fun t => t.info.mode) w.client.mode id (proposed w call id)
      (outlook (w.step display call))) ∧
    (w.step display call).client.mode = w.client.mode := by
  have hcarries : ∀ {w' : Display.Course Client}, w.client.Carries w'.client →
      w'.delivered = w.delivered → w'.next = w.next →
      (∀ id, (outlook w).Resizes (fun t => t.info.mode) w.client.mode id [] (outlook w')) ∧
        w'.client.mode = w.client.mode := by
    intro w' hcarries hdelivered hnext
    refine ⟨fun id => ?_, hcarries.mode_eq⟩
    simp only [outlook, hdelivered, hnext]
    exact .of_same (v := outlook w) hcarries.sizes (Nat.le_refl _)
  unfold Display.Course.step
  rw [if_neg (by simp [h.holds])]
  cases call with
  | createOutput skipped =>
    obtain ⟨hmode, hregistry⟩ := w.client.createOutput_mode ⟨w.next + skipped⟩
    refine ⟨fun id => ?_, hmode⟩
    rcases hregistry with hsame | ⟨t, hinitial, hinsert⟩
    · simp only [outlook, display, hsame]
      exact .of_same (v := outlook w) (.refl _) (by simp only [outlook]; omega)
    · simp only [outlook, display, hinsert]
      exact .of_insert (v := outlook w) h.outlook_sound (Nat.le_add_right _ _) hinitial
  | scheduleFrame id image =>
    exact hcarries (Client.scheduleFrame_carries h.sound.tidy id image) rfl rfl
  | destroyOutput id => exact hcarries (Client.destroyOutput_carries h.sound.tidy id) rfl rfl
  | connectionClosed => exact hcarries (Client.connectionClosed_carries h.sound.tidy) rfl rfl
  | deliver => exact ⟨fun id => .of_delivered (v := outlook w), rfl⟩
  | other happening =>
    cases happening with
    | attach image => exact hcarries (w.client.attach_carries image) rfl rfl
    | detach image => exact hcarries (w.client.detach_carries image) rfl rfl
    | event e =>
      by_cases he : ∀ toplevel width height, e ≠ .toplevelConfigure toplevel width height
      · have hproposed : ∀ id, proposed w (.other (.event e)) id = [] := by
          intro id
          cases e with
          | toplevelConfigure toplevel width height => exact absurd rfl (he toplevel width height)
          | _ => rfl
        simp only [hproposed]
        exact hcarries (Client.handle_carries h.sound.tidy he) rfl rfl
      · simp only [not_forall, not_not] at he
        obtain ⟨toplevel, width, height, rfl⟩ := he
        have hproposed := h.single.proposed h.sound.tidy toplevel width height
        refine ⟨fun id => .of_proposed (v := outlook w) hproposed h.outlook_sound ?_,
          w.client.configure_mode toplevel width height⟩
        intro entry hentry entry' hentry' hobject hobject'
        exact h.single entry hentry entry' hentry'
          ((of_decide_eq_true hobject).trans (of_decide_eq_true hobject').symm)

end Steady

/-- A display on a Wayland compositor, whose outputs are proposed sizes. -/
def sizing : Sizing (Display.Course Client) (Display.Call Happening) Toplevel :=
  { step := Display.Course.step display
    outlook := outlook
    mode := fun t => t.info.mode
    proposed := proposed }

theorem sizing_lawful (mode : Mode) :
    sizing.Lawful mode fun w => Steady w ∧ w.client.mode = mode where
  step := by
    rintro w call ⟨h, rfl⟩
    exact ⟨h.step call, (h.step_sizes call).2⟩
  resizes := by
    rintro w call ⟨h, rfl⟩
    exact (h.step_sizes call).1

end Scanout.Wayland
