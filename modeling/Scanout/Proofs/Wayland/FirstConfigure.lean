import Scanout.Proofs.LastWord
import Scanout.Proofs.Wayland.Recorded

/-!
# The first configuration

A compositor configures a new surface once it gets to it, and no buffer may be attached before
that configuration was acknowledged. The events of the round trip that belongs to making an output
need not bring the configuration. The display attaches when it is asked to, so it is up to the
program to wait. `acknowledged_iff_patient` says that this is all there is to it: every attachment
comes after an acknowledgement if and only if no image is scheduled on an output that was not
configured.
-/

namespace Scanout.FrameScheduler

variable {f f' : FrameScheduler} {t : Turn}

/-- A turn that shows an image was a call to schedule it, or a frame was in flight before. -/
theorem Effect.showing (h : f.Effect t f') {image : Image}
    (hasked : t.asked = [.present image (.done ())]) :
    t.call = .schedule image ∨ f.armed = true := by
  cases h with
  | shown =>
    obtain ⟨rfl⟩ : _ = image := by simpa using hasked
    exact .inl rfl
  | followed _ busy => exact .inr busy
  | ended => cases ha : f.armed <;> simp [ha] at hasked
  | _ => exact absurd hasked (by simp)

/-- Without an image being shown, no frame is in flight that was not before. -/
theorem Effect.armed_of_silent (h : f.Effect t f')
    (hsilent : ∀ image, t.asked ≠ [.present image (.done ())]) (harmed : f'.armed = true) :
    f.armed = true := by
  cases h with
  | shown image | followed image => exact absurd rfl (hsilent image)
  | completed | followerRefused | followerLost | ended => exact absurd harmed (by simp)
  | _ => exact harmed

end Scanout.FrameScheduler

namespace Scanout.Wayland

namespace Entry

/-- Whether a surface has been configured since it was made. -/
def configured (surface : Nat) : Entry → Option Bool
  | sent (.createSurface _ s) => if s = surface then some false else none
  | heard (.surfaceConfigure s _) => if s = surface then some true else none
  | _ => none

theorem configured_foreign {e : Entry} {surface : Nat} (h : e.surface? ≠ some surface) :
    e.configured surface = none := by
  unfold configured
  split <;> simp_all [surface?]

end Entry

/-- A configuration of the surface was acknowledged. -/
def Acks (log : List Entry) (surface : Nat) : Prop :=
  ∃ serial, .sent (.ackConfigure surface serial) ∈ log

/-- Every buffer was attached after a configuration of its surface was acknowledged. -/
def Acknowledged (log : List Entry) : Prop :=
  ∀ before after surface buffer, log = before ++ .sent (.attach surface buffer) :: after →
    Acks before surface

namespace Recorded

/-- A call that schedules an imported image on an output that was not configured. -/
def Hasty (w : Recorded) : Display.Call Happening → Prop
  | .scheduleFrame id image => image.remoteBuffer?.isSome ∧
    ∃ o, w.client.registry.get? id = some o ∧
      lastSaid (Entry.configured o.details.object) w.log ≠ some true
  | _ => False

end Recorded

/-- No call in the run is hasty. -/
def Patient (w : Display.Course Recorded) : List (Display.Call Happening) → Prop
  | [] => True
  | call :: rest => ¬ w.client.Hasty call ∧ Patient (w.step recording call) rest

/-! ## Acknowledgements -/

section

variable {log news : List Entry} {surface : Nat}

theorem Acks.mono (h : Acks log surface) (more : List Entry) : Acks (log ++ more) surface := by
  obtain ⟨serial, hmem⟩ := h
  exact ⟨serial, List.mem_append_left _ hmem⟩

/-- Messages without an acknowledgement for the surface. -/
theorem acks_append (h : ∀ serial, .sent (.ackConfigure surface serial) ∉ news) :
    Acks (log ++ news) surface ↔ Acks log surface := by
  refine ⟨fun ⟨serial, hmem⟩ => ?_, fun hacks => hacks.mono news⟩
  rcases List.mem_append.mp hmem with hmem | hmem
  · exact ⟨serial, hmem⟩
  · exact absurd hmem (h serial)

/-- Messages that show something, or are about no surface. -/
theorem acks_append_shown {o : Nat}
    (h : ∀ e ∈ news, e.surface? = none ∨ ∃ buffer, e = .sent (.attach o buffer)) :
    Acks (log ++ news) surface ↔ Acks log surface := by
  refine acks_append fun serial hmem => ?_
  rcases h _ hmem with hnone | ⟨buffer, heq⟩
  · exact absurd hnone (by simp [Entry.surface?])
  · exact absurd heq (by simp)

theorem acks_append_plain (h : ∀ e ∈ news, e.surface? = none) :
    Acks (log ++ news) surface ↔ Acks log surface :=
  acks_append_shown (o := 0) fun e he => .inl (h e he)

theorem Acknowledged.of_append (h : Acknowledged (log ++ news)) : Acknowledged log := by
  intro before after surface buffer hlog
  exact h before (after ++ news) surface buffer (by rw [hlog, List.append_assoc, List.cons_append])

/-- What is attached newly must have been acknowledged before. -/
theorem Acknowledged.append (h : Acknowledged log)
    (hnews : ∀ surface buffer, .sent (.attach surface buffer) ∈ news → Acks log surface) :
    Acknowledged (log ++ news) := by
  intro before after surface buffer hlog
  rcases List.append_eq_append_iff.mp hlog with ⟨early, rfl, hrest⟩ | ⟨late, rfl, hrest⟩
  · have hmem : .sent (.attach surface buffer) ∈ news := by simp [hrest]
    exact (hnews surface buffer hmem).mono early
  · cases late with
    | nil =>
      have hmem : .sent (.attach surface buffer) ∈ news := by
        rw [List.nil_append] at hrest
        simp [← hrest]
      simpa using hnews surface buffer hmem
    | cons e late =>
      obtain ⟨rfl, -⟩ := List.cons.inj hrest
      exact h before late surface buffer rfl

end

namespace Recorded

/-! ## What every call keeps -/

/-- What is known of the surface of an output: its configurations are acknowledged, and a frame
in flight was attached to it. -/
structure Known (log : List Entry) (surface : Nat) (armed : Bool) : Prop where
  configured : lastSaid (Entry.configured surface) log = some true ↔ Acks log surface
  begun : armed = true → ∃ buffer, .sent (.attach surface buffer) ∈ log

structure Aware (w : Recorded) : Prop where
  known : ∀ entry ∈ w.client.registry.outputs,
    Known w.log entry.2.details.object entry.2.scheduler.armed
  numbered : ∀ entry ∈ w.client.registry.outputs, entry.2.details.object < w.client.created
  answered : ∀ surface, Acks w.log surface → surface < w.client.created

/-- Nothing but attachments, after which a frame may be in flight. -/
theorem Known.shown {log news : List Entry} {surface o : Nat} {armed armed' : Bool}
    (h : Known log surface armed)
    (hnews : ∀ e ∈ news, e.surface? = none ∨ ∃ buffer, e = .sent (.attach o buffer))
    (hbegun : armed' = true → armed = true ∨ ∃ buffer, .sent (.attach surface buffer) ∈ news) :
    Known (log ++ news) surface armed' where
  configured := by
    have hsilent : ∀ e ∈ news, e.configured surface = none := by
      intro e he
      rcases hnews e he with hnone | ⟨buffer, rfl⟩
      · exact Entry.configured_foreign (by simp [hnone])
      · rfl
    rw [lastSaid_of_silent hsilent, acks_append_shown hnews]
    exact h.configured
  begun := by
    intro harmed
    rcases hbegun harmed with hold | ⟨buffer, hmem⟩
    · obtain ⟨buffer, hmem⟩ := h.begun hold
      exact ⟨buffer, List.mem_append_left _ hmem⟩
    · exact ⟨buffer, List.mem_append_right _ hmem⟩

/-- Messages about other surfaces are of no concern. -/
theorem Known.elsewhere {log news : List Entry} {surface : Nat} {armed : Bool}
    (h : Known log surface armed) (hnews : ∀ e ∈ news, e.surface? ≠ some surface) :
    Known (log ++ news) surface armed := by
  refine ⟨?_, fun harmed => ?_⟩
  · rw [lastSaid_of_silent fun e he => Entry.configured_foreign (hnews e he),
      acks_append fun serial hmem => hnews _ hmem rfl]
    exact h.configured
  · obtain ⟨buffer, hmem⟩ := h.begun harmed
    exact ⟨buffer, List.mem_append_left _ hmem⟩

theorem Aware.start {c : Client} (hc : c.registry = {}) : Aware { client := c } where
  known := by rw [hc]; exact fun _ h => absurd h List.not_mem_nil
  numbered := by rw [hc]; exact fun _ h => absurd h List.not_mem_nil
  answered := fun _ ⟨_, h⟩ => absurd h List.not_mem_nil

section

variable {w w' : Recorded} {call : Display.Call Happening}

theorem Move.numbered (h : w.Aware) (hm : w.Move call w') :
    ∀ entry ∈ w'.client.registry.outputs, entry.2.details.object < w'.client.created := by
  intro entry he
  cases hm with
  | aside outputs created =>
    rw [created]
    exact h.numbered entry (outputs he)
  | opened outputs object created =>
    rw [outputs] at he
    rw [created]
    rcases List.mem_append.mp he with he | he
    · exact Nat.lt_succ_of_lt (h.numbered entry he)
    · obtain rfl := List.mem_singleton.mp he
      rw [object]
      exact Nat.lt_succ_self _
  | turned acted =>
    obtain ⟨details, hobject, hturn⟩ := acted.turn
    have hcreated : w'.client.created = w.client.created := by rw [acted.rest]
    rw [hcreated]
    rcases hturn.mem_outputs he with ⟨-, hdetails, -⟩ | ⟨-, hold⟩
    · rw [hdetails, hobject]
      exact h.numbered _ (Registry.mem_of_get? hturn.get?)
    · exact h.numbered entry hold
  | configured _ same | missed _ same =>
    rw [same] at he ⊢
    exact h.numbered entry he

/-- What was acknowledged is the surface of an output that was made. -/
theorem Move.answered (h : w.Aware) (hm : w.Move call w') {surface : Nat}
    (hacks : Acks w'.log surface) : surface < w'.client.created := by
  cases hm with
  | aside _ created log plain =>
    rw [log, acks_append_plain plain] at hacks
    rw [created]
    exact h.answered surface hacks
  | opened _ _ created log plain =>
    rw [log, List.append_cons, acks_append_plain plain.entries, acks_append (by simp)] at hacks
    rw [created]
    exact Nat.lt_succ_of_lt (h.answered surface hacks)
  | turned acted _ log plain =>
    have hcreated : w'.client.created = w.client.created := by rw [acted.rest]
    rw [log, acks_append_shown (acted.messages plain)] at hacks
    rw [hcreated]
    exact h.answered surface hacks
  | @configured entry serial there same log =>
    rw [same]
    obtain ⟨other, hmem⟩ := hacks
    rw [log] at hmem
    rcases List.mem_append.mp hmem with hmem | hmem
    · exact h.answered surface ⟨other, hmem⟩
    · obtain ⟨rfl, -⟩ : surface = entry.2.details.object ∧ other = serial := by simpa using hmem
      exact h.numbered entry there
  | missed _ same log =>
    rw [log, acks_append (by simp)] at hacks
    rw [same]
    exact h.answered surface hacks

theorem Move.known (h : w.Aware) (hm : w.Move call w') :
    ∀ entry ∈ w'.client.registry.outputs,
      Known w'.log entry.2.details.object entry.2.scheduler.armed := by
  intro entry he
  cases hm with
  | aside outputs _ log plain =>
    rw [log]
    exact (h.known entry (outputs he)).elsewhere fun e hmem => by simp [plain e hmem]
  | @opened id d compositor rest outputs object _ log plain =>
    have hrest : ∀ surface, ∀ e ∈ rest.map Entry.sent, e.surface? ≠ some surface :=
      fun surface e hmem => by simp [plain.entries e hmem]
    rw [outputs] at he
    rw [log, List.append_cons]
    refine Known.elsewhere ?_ (hrest _)
    rcases List.mem_append.mp he with he | he
    · -- the surfaces of the others were made before
      have hlt := h.numbered entry he
      refine (h.known entry he).elsewhere fun e hmem => ?_
      obtain rfl := List.mem_singleton.mp hmem
      simpa [Entry.surface?] using Ne.symm (Nat.ne_of_lt hlt)
    · obtain rfl := List.mem_singleton.mp he
      refine ⟨iff_of_false ?_ ?_, by simp⟩
      · rw [object, lastSaid_add]
        simp [Entry.configured]
      · rw [acks_append (by simp), object]
        exact fun hacks => Nat.lt_irrefl _ (h.answered _ hacks)
  | @turned id o t sent heard acted _ log plain =>
    have hnews := acted.messages plain
    obtain ⟨details, hobject, hturn⟩ := acted.turn
    rw [log]
    rcases hturn.mem_outputs he with ⟨-, hdetails, f, heffect, hf⟩ | ⟨-, hold⟩
    · have hsurface : entry.2.details.object = o.details.object := by rw [hdetails, hobject]
      rw [hsurface]
      refine (h.known (id, o) (Registry.mem_of_get? hturn.get?)).shown hnews fun harmed => ?_
      rcases acted.sent_cases with ⟨-, hsilent⟩ | ⟨image, buffer, rest, -, -, rfl, -⟩
      · exact .inl (heffect.armed_of_silent hsilent (by simpa [hf] using harmed))
      · exact .inr ⟨buffer, by simp⟩
    · exact (h.known entry hold).shown hnews .inl
  | @configured other serial there same log =>
    rw [same] at he
    rw [log]
    by_cases hsurface : entry.2.details.object = other.2.details.object
    · refine ⟨iff_of_true ?_ ⟨serial, by simp [hsurface]⟩, fun harmed => ?_⟩
      · rw [hsurface, lastSaid_append]
        simp [lastSaid, List.findSome?, Entry.configured]
      · obtain ⟨buffer, hmem⟩ := (h.known entry he).begun harmed
        exact ⟨buffer, List.mem_append_left _ hmem⟩
    · refine (h.known entry he).elsewhere fun e hmem => ?_
      simp only [List.mem_cons, List.not_mem_nil, or_false] at hmem
      rcases hmem with rfl | rfl <;> simpa [Entry.surface?] using Ne.symm hsurface
  | missed absent same log =>
    rw [same] at he
    rw [log]
    refine (h.known entry he).elsewhere fun e hmem => ?_
    obtain rfl := List.mem_singleton.mp hmem
    simpa [Entry.surface?] using Ne.symm (absent entry he)

theorem Move.log (hm : w.Move call w') : ∃ news, w'.log = w.log ++ news := by
  cases hm with
  | aside _ _ log | opened _ _ _ log | turned _ _ log | configured _ _ log | missed _ _ log =>
    exact ⟨_, log⟩

theorem Move.aware (h : w.Aware) (hm : w.Move call w') : w'.Aware :=
  ⟨hm.known h, hm.numbered h, fun _ hacks => hm.answered h hacks⟩

/-- Without haste, what is attached has been acknowledged. -/
theorem Move.acknowledged (h : w.Aware) (hm : w.Move call w') (hpatient : ¬ w.Hasty call)
    (hlog : Acknowledged w.log) : Acknowledged w'.log := by
  cases hm with
  | aside _ _ log plain =>
    rw [log]
    exact hlog.append fun surface buffer hmem =>
      absurd (plain _ hmem) (by simp [Entry.surface?])
  | opened _ _ _ log plain =>
    rw [log]
    refine hlog.append fun surface buffer hmem => ?_
    rcases List.mem_cons.mp hmem with heq | hmem
    · exact absurd heq (by simp)
    · exact absurd (plain.entries _ hmem) (by simp [Entry.surface?])
  | @turned id o t sent heard acted scheduled log plain =>
    rw [log]
    obtain ⟨details, -, hturn⟩ := acted.turn
    obtain ⟨f, heffect⟩ := hturn.effect
    have hknown := h.known (id, o) (Registry.mem_of_get? hturn.get?)
    refine hlog.append fun surface buffer hmem => ?_
    rcases acted.messages plain _ hmem with hnone | ⟨_, heq⟩
    · exact absurd hnone (by simp [Entry.surface?])
    obtain ⟨rfl, rfl⟩ : surface = o.details.object ∧ _ := by simpa using heq
    rcases acted.sent_cases with ⟨rfl, -⟩ | ⟨image, _, _, hasked, hbuffer, -, -⟩
    · rw [List.map_nil, List.append_nil] at hmem
      exact absurd (plain _ hmem) (by simp [Entry.surface?])
    rcases heffect.showing hasked with hcall | hbusy
    · -- the image was just scheduled, and the program is patient
      by_contra hunknown
      refine hpatient ?_
      rw [scheduled image hcall]
      exact ⟨by simp [hbuffer], o, hturn.get?, fun hsaid => hunknown (hknown.configured.mp hsaid)⟩
    · obtain ⟨earlier, hattached⟩ := hknown.begun hbusy
      obtain ⟨before, after, hsplit⟩ := List.append_of_mem hattached
      rw [hsplit]
      exact (hlog before after _ earlier hsplit).mono _
  | configured _ _ log | missed _ _ log =>
    rw [log]
    exact hlog.append fun surface buffer hmem => by simp at hmem

/-- With nothing in flight, scheduling an imported image attaches it. -/
theorem scheduleFrame_attaches {c : Client} {id : OutputId} {o : Output Toplevel}
    (hget : c.registry.get? id = some o) (hidle : o.scheduler.armed = false) {image : Image}
    {buffer : Nat} (hbuffer : image.remoteBuffer? = some buffer) :
    ∃ rest, (c.scheduleFrame id image).2.1 = .attach o.details.object buffer :: rest := by
  obtain ⟨hanswer, rest, hsent, -⟩ := Canvas.present_sent hbuffer (c.canvas id o.details)
  refine ⟨rest, ?_⟩
  rcases hp : Canvas.present image (c.canvas id o.details) with ⟨answer, used⟩
  rw [hp] at hanswer hsent
  subst hanswer
  have hpresent : Canvas.surface.present image (c.canvas id o.details) = (.done (), used) := hp
  simp only [Client.scheduleFrame, hget, FrameScheduler.schedule, hidle, Bool.false_eq_true,
    if_false, FrameScheduler.commit, hpresent]
  exact hsent

/-- Haste attaches to a surface whose configuration was not acknowledged. -/
theorem Aware.not_acknowledged (h : w.Aware) {id : OutputId} {image : Image}
    (hhasty : w.Hasty (.scheduleFrame id image)) :
    ¬ Acknowledged (w.next [] (w.client.scheduleFrame id image).2.1
      (w.client.scheduleFrame id image).2.2).log := by
  intro hlog
  obtain ⟨himported, o, hget, hunknown⟩ := hhasty
  obtain ⟨buffer, hbuffer⟩ := Option.isSome_iff_exists.mp himported
  have hknown := h.known (id, o) (Registry.mem_of_get? hget)
  refine hunknown (hknown.configured.mpr ?_)
  cases hidle : o.scheduler.armed with
  | false =>
    obtain ⟨rest, hsent⟩ := scheduleFrame_attaches hget hidle hbuffer
    exact hlog w.log (rest.map .sent) _ buffer (by simp only [next, hsent]; rfl)
  | true =>
    -- the frame in flight was attached already
    obtain ⟨earlier, hattached⟩ := hknown.begun hidle
    obtain ⟨before, after, hsplit⟩ := List.append_of_mem hattached
    have hacks := hlog.of_append before after _ earlier hsplit
    rw [hsplit]
    exact hacks.mono _

/-- Whether a call keeps to the order depends on its haste alone. -/
theorem Aware.step_acknowledged {w : Display.Course Recorded} (h : w.client.Aware)
    (hr : w.client.client.registry.Tidy) (hw : w.broken = false)
    (call : Display.Call Happening) :
    Acknowledged (w.step recording call).client.log ↔
      Acknowledged w.client.log ∧ ¬ w.client.Hasty call := by
  have hm := step_move hr hw call
  refine ⟨fun hlog => ⟨?_, fun hhasty => ?_⟩,
    fun ⟨hlog, hpatient⟩ => hm.acknowledged h hpatient hlog⟩
  · obtain ⟨news, hnews⟩ := hm.log
    exact (hnews ▸ hlog).of_append
  · cases call with
    | scheduleFrame id image =>
      rw [Display.Course.step, if_neg (by simp [hw])] at hlog
      exact h.not_acknowledged hhasty hlog
    | _ => exact hhasty

end

theorem run_acknowledged {w : Display.Course Recorded} (h : w.client.Aware)
    (hinv : w.Inv recording) (hw : w.broken = false) (calls : List (Display.Call Happening)) :
    Acknowledged (w.run recording calls).client.log ↔
      Acknowledged w.client.log ∧ Patient w calls := by
  induction calls generalizing w with
  | nil => exact (and_iff_left trivial).symm
  | cons call rest ih =>
    have hholds := step_holds hw call
    have hadvance := Display.Course.step_advance recording_lawful hinv.tidy call hholds
    have hrest := ih ((step_move hinv.tidy hw call).aware h) (hinv.advance_inv hadvance) hholds
    rw [h.step_acknowledged hinv.tidy hw call, and_assoc] at hrest
    exact hrest

end Recorded

/-- **Buffers are attached in order if and only if the program waits.** Whatever the program calls
and whatever the compositor sends, in whatever order: every buffer that was attached to a surface
was attached after a configuration of that surface was acknowledged, if and only if no imported
image was scheduled on an output before the first configuration of its surface arrived. -/
theorem acknowledged_iff_patient (appId : String) (mode : Mode)
    (calls : List (Display.Call Happening)) :
    Acknowledged ((Display.Course.start (⟨{ appId := appId, mode := mode }, []⟩ : Recorded)).run
      recording calls).client.log ↔
    Patient (Display.Course.start ⟨{ appId := appId, mode := mode }, []⟩) calls := by
  have hnothing : Acknowledged [] := fun _ _ _ _ hlog => absurd hlog (by simp)
  rw [Recorded.run_acknowledged (.start rfl) (Display.Course.start_inv rfl) rfl]
  exact and_iff_right hnothing

/-- An image is imported and an output made, and the round trip brings nothing; the program
schedules the image, and the surface is configured after that. -/
def lateConfigure : List (Display.Call Happening) :=
  [.other (.event (.global 1 "wl_compositor" 4)),
    .other (.event (.global 2 "zwp_linux_dmabuf_v1" 3)),
    .other (.event (.global 3 "xdg_wm_base" 1)),
    .other (.event (.modifier Fourcc.xrgb8888.code 0 0)), .other (.attach (Image.numbered 0)),
    .createOutput 0,
    .scheduleFrame ⟨0⟩ { Image.numbered 0 with backendData := ⟨some (.remoteBuffer 0)⟩ },
    .other (.event (.surfaceConfigure 0 1))]

/-- What went over the connection by then. -/
def lateLog : List Entry :=
  ((Display.Course.start (⟨{ appId := standardAppId, mode := .standard }, []⟩ : Recorded)).run
    recording lateConfigure).client.log

/-- The buffer is attached first, and the acknowledgement follows. -/
theorem attached_before_configured :
    .sent (.createImmed 0 0 64 64 Fourcc.xrgb8888.code ⟨false, false, false⟩) ∈ lateLog ∧
    lateLog.filter (·.surface?.isSome) = [.sent (.createSurface 0 0), .sent (.attach 0 0),
      .heard (.surfaceConfigure 0 1), .sent (.ackConfigure 0 1)] ∧ ¬ Acknowledged lateLog := by
  refine ⟨by decide +kernel, by decide +kernel, fun hlog => ?_⟩
  have hsplit : lateLog = lateLog.takeWhile (· ≠ .sent (.attach 0 0))
      ++ .sent (.attach 0 0) :: (lateLog.dropWhile (· ≠ .sent (.attach 0 0))).tail := by
    decide +kernel
  have hmade : ∀ e ∈ lateLog.takeWhile (· ≠ .sent (.attach 0 0)), e.surface? = some 0 →
      e = .sent (.createSurface 0 0) := by
    decide +kernel
  obtain ⟨serial, hmem⟩ := hlog _ _ _ _ hsplit
  exact absurd (hmade _ hmem rfl) (by simp)

end Scanout.Wayland
