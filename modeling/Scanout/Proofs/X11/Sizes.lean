import Scanout.Proofs.Output.Sizes
import Scanout.Proofs.X11.World

/-!
# The sizes of windows

On an X server a size is proposed to a window, and nothing but such a proposal has to do with the
size of an output: not the images it shows, not what the server says of them, and not what happens
to others (`Carries`). No two outputs have the same window, so a proposal is about one output at
most, and it is `Proposed` to that one as any size is. A new output has the mode of the display.
-/

namespace Scanout.X11

/-! ## Turns -/

theorem Window.Answer.info_eq {connection : Connection} {image : Image}
    {answer : Outcome Failure Unit} {d d' : Window} {sent : List Request}
    (h : d.Answer connection image answer d' sent) : d'.info = d.info := by
  cases h with
  | shown | refused | unwritten | unflushed | overdue => rfl

/-- Only a new size changes what is known of an output. -/
theorem Occasion.turn_info {connection : Connection} {o : Output Window} {heard : List Entry}
    {t : FrameScheduler.Turn} {f : FrameScheduler} {d d' : Window} {sent : List Request}
    (h : Occasion o.details t.call heard d)
    (hused : (Window.surface connection).Used t.asked (d, []) (d', sent))
    (heffect : o.scheduler.Effect t f) (hcall : ∀ mode, t.call ≠ .modeChanged mode) :
    d'.info = o.details.info := by
  have hheard : d.info = o.details.info := by
    generalize t.call = call at h hcall
    cases h with
    | configure serial width height mode => exact absurd rfl (hcall mode)
    | schedule | complete | idle => rfl
  have hsent : d'.info = d.info := by
    rcases heffect.asked_cases with hasked | hasked | ⟨image, answer, hasked⟩
    all_goals rw [hasked] at hused
    · obtain ⟨rfl, rfl⟩ := Prod.mk.inj hused
      rfl
    · obtain ⟨rfl, rfl⟩ := Prod.mk.inj hused
      rfl
    · exact (Window.used_answer hused).info_eq
  exact hsent.trans hheard

namespace Client

/-- The outputs keep their sizes, and new ones will have the size they would have had. -/
structure Carries (c c' : Client) : Prop where
  sizes : c.registry.SameSizes (fun w => w.info.mode) c'.registry
  mode_eq : c'.mode = c.mode

variable {c c' : Client}

theorem Carries.refl (c : Client) : c.Carries c :=
  ⟨.refl _, rfl⟩

theorem Acted.carries {id : OutputId} {o : Output Window} {heard : List Entry}
    {t : FrameScheduler.Turn} {sent : List Request} (h : c.Acted id o heard t sent c')
    (hcall : ∀ mode, t.call ≠ .modeChanged mode) : c.Carries c' := by
  obtain ⟨d, d', hoccasion, hused, hturn⟩ := h.turn
  obtain ⟨f, heffect⟩ := hturn.effect
  refine ⟨.turned hturn ?_ hcall, by rw [h.rest]⟩
  exact congrArg OutputInfo.mode (hoccasion.turn_info hused heffect hcall)

/-! ## Calls and events -/

theorem openWindow_mode (c : Client) (name : String) :
    (c.openWindow name).2.2.mode = c.mode ∧
    ∀ w, (c.openWindow name).1 = .ok w → w.info.mode = c.mode := by
  obtain ⟨ids, hopened, hids⟩ := c.openWindow_opened name
  refine ⟨by rw [hids]; rfl, fun w hw => ?_⟩
  generalize (c.openWindow name).2.1 = sent at hopened
  rw [hw] at hopened
  cases hopened with
  | shown => rfl

/-- A new output has the mode of the display. -/
theorem createOutput_mode (c : Client) (id : OutputId) :
    (c.createOutput id).2.2.mode = c.mode ∧
    ((c.createOutput id).2.2.registry = c.registry ∨ ∃ w : Window, w.info.mode = c.mode ∧
      (c.createOutput id).2.2.registry = c.registry.insert id ⟨{}, w⟩) := by
  unfold createOutput
  split
  · exact ⟨rfl, .inl rfl⟩
  · have hregistry := openWindow_registry { c with created := c.created + 1 }
      s!"X11-{c.created + 1}"
    obtain ⟨hmode, hinfo⟩ := openWindow_mode { c with created := c.created + 1 }
      s!"X11-{c.created + 1}"
    rcases hopen : ({ c with created := c.created + 1 } : Client).openWindow
      s!"X11-{c.created + 1}" with ⟨e | w, sent, c'⟩
    all_goals
      rw [hopen] at hregistry hmode hinfo
      simp only [hopen]
    · exact ⟨hmode, .inl hregistry⟩
    · refine ⟨hmode, .inr ⟨w, hinfo w rfl, ?_⟩⟩
      rw [show c'.registry = c.registry from hregistry]

section

variable (hr : c.registry.Tidy)

include hr

theorem scheduleFrame_carries (id : OutputId) (image : Image) :
    c.Carries (c.scheduleFrame id image).2.2 := by
  cases hget : c.registry.get? id with
  | none =>
    rw [scheduleFrame_unknown hget]
    exact .refl c
  | some o =>
    obtain ⟨t, hcall, hacted, -⟩ := scheduleFrame_acted hr hget image
    exact hacted.carries (by simp [hcall])

theorem destroyOutput_carries (id : OutputId) : c.Carries (c.destroyOutput id).2.2 :=
  ⟨.destroy hr id teardown_ends [], rfl⟩

theorem connectionClosed_carries : c.Carries c.connectionClosed.2 :=
  ⟨.disconnect hr teardown_ends [], rfl⟩

/-- No event but a new size has to do with the sizes of outputs. -/
theorem handle_carries {e : Event}
    (he : ∀ window width height, e ≠ .configure window width height) :
    c.Carries (c.handle e).2.2 := by
  cases e with
  | complete window kind msc =>
    by_cases hkind : kind = pixmapCompletion
    · subst hkind
      rw [handle_complete]
      rcases complete_cases hr 0 window msc with ⟨-, hsame⟩ | ⟨id, o, t, -, hcall, hacted, -⟩
      · rw [hsame]
        exact .refl c
      · exact hacted.carries (by simp [hcall])
    · simp only [handle, if_neg hkind]
      exact .refl c
  | idle window pixmap =>
    simp only [handle]
    rcases idle_cases hr 0 window pixmap with ⟨hsame, -⟩ | ⟨id, o, image, queued, -, -, hacted, -⟩
    · rw [hsame]
      exact .refl c
    · exact hacted.carries (by simp)
  | configure window width height => exact absurd rfl (he window width height)
  | message window format data =>
    simp only [handle]
    split
    · rcases close_cases hr window with hsame | ⟨id, hdestroys⟩
      · rw [hsame]
        exact .refl c
      · rw [hdestroys]
        exact destroyOutput_carries hr id
    · exact .refl c
  | error | unhandled =>
    simp only [handle, settled_eq hr]
    exact .refl c

/-! ## New sizes -/

omit hr in
theorem configure_mode (c : Client) (window : ResourceId) (width height : UInt16) :
    (c.configure window width height).2.2.mode = c.mode := by
  unfold configure
  split
  · rfl
  · split
    · rfl
    · split <;> rfl

/-- A proposal that is no size, that repeats the mode in force, or that is about the window of no
output leaves everything as it is. -/
theorem configure_moot {window : ResourceId} {width height : UInt16}
    (hmoot : ∀ entry ∈ c.registry.outputs, entry.2.details.window = window →
      entry.2.details.info.mode.Moot width.toUInt32.toInt32 height.toUInt32.toInt32) :
    c.configure window width height = (none, [], c) := by
  unfold configure
  split
  · rfl
  · next size hproper =>
    split
    · exact settled_eq hr
    · next id o hout =>
      obtain ⟨hmem, hwindow⟩ := outputOf?_eq_some hout
      rw [if_pos (Mode.moot_iff.mp (hmoot _ hmem hwindow) size hproper)]
      exact settled_eq hr

theorem configure_proposed (hwindows : (c.registry.outputs.map (·.2.details.window)).Nodup)
    (window : ResourceId) (width height : UInt16) :
    c.registry.Proposed (fun w => w.info.mode) (fun w => w.window = window)
      width.toUInt32.toInt32 height.toUInt32.toInt32
      (c.configure window width height).2.2.registry := by
  by_cases hmoot : ∀ entry ∈ c.registry.outputs, entry.2.details.window = window →
      entry.2.details.info.mode.Moot width.toUInt32.toInt32 height.toUInt32.toInt32
  · rw [configure_moot hr hmoot]
    exact .moot fun entry he hwindow => hmoot entry he (of_decide_eq_true hwindow)
  · simp only [not_forall, Mode.moot_iff] at hmoot
    obtain ⟨⟨id, o⟩, hmem, rfl, size, hproper, hnews⟩ := hmoot
    simp only [configure, hproper, outputOf?_of_mem hr hwindows hmem, if_neg hnews, settled]
    exact .resized (decide_eq_true rfl) hproper hnews rfl
      (hr.settled.turned_set hr.ids (Registry.get?_of_mem hr.ids hmem) (.resized size) (by simp) _)

end

end Client

/-! ## Runs -/

namespace World

def outlook (w : World) : Outlook Window :=
  { registry := w.client.registry, delivered := w.delivered, next := w.outputsMade }

/-- The size that a step proposes to an output: it is the one of the window that a new size is
about. -/
def proposed (w : World) (step : Step) (id : OutputId) : List (Int32 × Int32) :=
  match step with
  | .event _ (.configure window width height) =>
    w.client.registry.proposed (fun d => d.window = window) width.toUInt32.toInt32
      height.toUInt32.toInt32 id
  | _ => []

variable {w w' : World}

theorem Inv.outlook_sound (h : w.Inv) : w.outlook.Sound :=
  ⟨h.tidy, h.opened⟩

/-- A step that carries the sizes over proposes nothing. -/
theorem resizes_of_carries {id : OutputId} {initial : Mode} (h : w.client.Carries w'.client)
    (hdelivered : w'.delivered = w.delivered) (hnext : w'.outputsMade = w.outputsMade) :
    w.outlook.Resizes (fun d => d.info.mode) initial id [] w'.outlook := by
  simp only [outlook, hdelivered, hnext]
  exact .of_same (v := w.outlook) h.sizes (Nat.le_refl _)

/-- A step means for the size of every output what it proposes to it, and the mode of new ones
stays as it is. -/
theorem Inv.step_sizes (h : w.Inv) (step : Step) :
    (∀ id, w.outlook.Resizes (fun d => d.info.mode) w.client.mode id (w.proposed step id)
      (w.step step).outlook) ∧
    (w.step step).client.mode = w.client.mode := by
  have hcarries : ∀ {w' : World}, w.client.Carries w'.client → w'.delivered = w.delivered →
      w'.outputsMade = w.outputsMade →
      (∀ id, w.outlook.Resizes (fun d => d.info.mode) w.client.mode id [] w'.outlook) ∧
        w'.client.mode = w.client.mode :=
    fun h hdelivered hnext => ⟨fun id => resizes_of_carries h hdelivered hnext, h.mode_eq⟩
  cases step with
  | createOutput =>
    obtain ⟨hmode, hregistry⟩ := w.client.createOutput_mode ⟨w.outputsMade⟩
    refine ⟨fun id => ?_, hmode⟩
    rcases hregistry with hsame | ⟨d, hinitial, hinsert⟩
    · simp only [outlook, World.step, hsame]
      exact .of_same (v := w.outlook) (.refl _) (Nat.le_succ _)
    · simp only [outlook, World.step, hinsert]
      exact .of_insert (v := w.outlook) h.outlook_sound (Nat.le_refl _) hinitial
  | make image => exact hcarries (.refl _) rfl rfl
  | attach answer image =>
    simp only [World.step]
    split
    · obtain ⟨ids, hclient, -⟩ :=
        Client.attach_draws (fun _ => answer) w.client image h.stock.apart
      exact hcarries (by rw [hclient]; exact ⟨.refl _, rfl⟩) rfl rfl
    · exact hcarries (.refl _) rfl rfl
  | connection => exact hcarries ⟨.refl _, rfl⟩ rfl rfl
  | letGo image | change image changed | renew ids =>
    simp only [World.step]
    split
    all_goals exact hcarries ⟨.refl _, rfl⟩ rfl rfl
  | schedule id image =>
    simp only [World.step]
    split
    · exact hcarries (Client.scheduleFrame_carries h.tidy id image) rfl rfl
    · exact hcarries (.refl _) rfl rfl
  | destroyOutput id => exact hcarries (Client.destroyOutput_carries h.tidy id) rfl rfl
  | takeEvents => exact ⟨fun id => .of_delivered (v := w.outlook), rfl⟩
  | loseConnection => exact hcarries (Client.connectionClosed_carries h.tidy) rfl rfl
  | event serial e =>
    by_cases he : ∀ window width height, e ≠ .configure window width height
    · have hproposed : ∀ id, w.proposed (.event serial e) id = [] := by
        intro id
        cases e with
        | configure window width height => exact absurd rfl (he window width height)
        | _ => rfl
      simp only [hproposed]
      exact hcarries (Client.handle_carries h.tidy he) rfl rfl
    · simp only [not_forall, not_not] at he
      obtain ⟨window, width, height, rfl⟩ := he
      have hproposed := Client.configure_proposed h.tidy h.stock.single window width height
      refine ⟨fun id => .of_proposed (v := w.outlook) hproposed h.outlook_sound ?_,
        w.client.configure_mode window width height⟩
      intro entry hentry entry' hentry' hwindow hwindow'
      have hsame : entry.2.details.window = entry'.2.details.window :=
        (of_decide_eq_true hwindow).trans (of_decide_eq_true hwindow').symm
      exact congrArg Prod.fst (List.inj_on_of_nodup_map h.stock.single hentry hentry' hsame)

end World

/-- A program on an X server, whose outputs are proposed sizes. -/
def sizing : Sizing World Step Window :=
  { step := World.step
    outlook := World.outlook
    mode := fun w => w.info.mode
    proposed := World.proposed }

theorem sizing_lawful (mode : Mode) :
    sizing.Lawful mode fun w => w.Inv ∧ w.client.mode = mode where
  step := by
    rintro w step ⟨h, rfl⟩
    exact ⟨h.step_inv step, (h.step_sizes step).2⟩
  resizes := by
    rintro w step ⟨h, rfl⟩
    exact (h.step_sizes step).1

end Scanout.X11
